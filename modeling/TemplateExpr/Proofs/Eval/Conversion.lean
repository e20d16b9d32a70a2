import TemplateExpr.Proofs.Eval.Shortcut
import TemplateExpr.Proofs.Expr.Spans
import TemplateExpr.Proofs.Number.Literal

/-!
# Conversion of texts to numbers

A text is converted to a number by a function, by a method or by a sign (`Conversion`), and all of
them come to `Number.parse` (`Conversion.results_convert`). So a text that is a literal of a number
is converted to the value of the literal (`results_conversions`), unless it is a hexadecimal integer
that does not fit a signed word: then it is no number (`results_conversions_tooLong`).
-/

namespace TemplateExpr

open TemplateExpr.Eval TemplateExpr.Text

/-! ### Conversions -/

/-- How a text is converted to a number. -/
inductive Conversion where
  | function
  | method
  | sign

namespace Conversion

/-- The conversion of the value of `e`; the name of the function or of the method, if there is one,
stands at `nameSpan`. -/
def convert (k : Conversion) (span nameSpan : Span) (e : Expr) : Expr :=
  match k with
  | function => .call span (.ident nameSpan "Number") [e] false
  | method => .call span (.member nameSpan e "toNumber" false) [] false
  | sign => .unary span .plus e

/-- Where the text is evaluated: a call takes up a frame. -/
def inner (k : Conversion) (scope : Scope) : Scope :=
  match k with
  | function | method => { scope with frames := scope.frames + 1 }
  | sign => scope

/-- Whether the conversion is there: the policy allows it, its name does not stand for a parameter,
and there is a frame for its call. -/
def Allowed (k : Conversion) (s : Sandbox) (scope : Scope) : Prop :=
  match k with
  | function => s.policy.allowsGlobal "Number" = true ∧ scope.local? "Number" = none ∧
      scope.frames < s.policy.config.maxCallStackSize
  | method => s.policy.allowsMethod "toNumber" = true ∧
      scope.frames < s.policy.config.maxCallStackSize
  | sign => True

/-- All conversions of a text come to the same. -/
theorem results_convert {s : Sandbox} (hcalm : s.IsCalm) {k : Conversion} {n : Nat} {scope : Scope}
    {e : Expr} {t : String} (hallowed : k.Allowed s scope)
    (he : Results s (e.eval (n + 1) (k.inner scope)) (.ok (.string t))) (span nameSpan : Span) :
    Results s ((k.convert span nameSpan e).eval (n + 2) scope)
      (.ok (.number (Number.parse t.toList))) := by
  refine results_eval hcalm ?_
  cases k with
  | function =>
    -- the name stands for a part of the host, which is called with the value of the operand
    obtain ⟨hglobal, hlocal, hframes⟩ := hallowed
    show Results s (scope.enter >>= fun inner => evalCall _ inner _ _ _) _
    refine (results_enter hframes).bind ?_
    show Results s (Expr.eval (n + 1) _ (.ident nameSpan "Number") >>= _) _
    refine Results.bind (results_global (n := n) hcalm hlocal hglobal rfl nameSpan) ?_
    show Results s (evalAll _ _ [e] >>= callValue _ _ _ (.host (.space .number))) _
    have hargs : Results s (evalAll (Expr.eval (n + 1)) (inner .function scope) [e])
        (.ok [.string t]) := he.bind (.pure s _)
    exact hargs.bind (.pure s _)
  | method =>
    -- the text is not nullish, so its method is called
    obtain ⟨hmethod, hframes⟩ := hallowed
    show Results s (scope.enter >>= fun inner => evalCall _ inner _ _ _) _
    refine (results_enter hframes).bind ?_
    show Results s (Expr.eval (n + 1) _ e >>= _) _
    refine he.bind ?_
    show Results s (evalAll _ _ [] >>= fun vs => callMethod _ _ (.string t) "toNumber" vs) _
    refine (Results.pure s []).bind ?_
    show Results s (MonadReader.read >>= _) _
    refine .read ?_
    rw [hmethod]
    exact .pure s _
  | sign => exact he.bind (.pure s _)

end Conversion

/-! ### Literals -/

theorem Parser.alone_number (x : Float) (sp : Span) :
    Parser.Alone [⟨.number x, sp⟩] (.literal sp (.number x)) :=
  alone_of_unary fun _ => ⟨1, gets_unaryWith.2
    (.operand rfl (.number x sp []) .refl fun _ _ _ _ h => nomatch h)⟩

theorem IsNumber.parse_eq {text : List Char} {x : Float} (h : IsNumber text x) :
    Expr.parse text = .ok (.literal ⟨0, byteLength text⟩ (.number x)) := by
  obtain ⟨b, hb, hexpr⟩ :=
    (Parser.alone_number x ⟨0, byteLength text⟩).parseTokens_eq (byteLength text)
  rw [Expr.parse, h, Parser.ok_bind, hb, Parser.ok_bind, hexpr]
  rfl

/-- A text that is a literal of a number is converted to the value of the literal. -/
theorem results_conversions {s : Sandbox} (hcalm : s.IsCalm) {t : String} {x : Float}
    (hnumber : IsNumber t.toList x) (hfits : Number.FitsWord t.toList) :
    ∃ literal, Expr.parse t.toList = .ok literal ∧
      (∀ n scope, Results s (literal.eval (n + 1) scope) (.ok (.number x))) ∧
      ∀ (k : Conversion) (n : Nat) (scope : Scope) (e : Expr) (span nameSpan : Span),
        k.Allowed s scope → Results s (e.eval (n + 1) (k.inner scope)) (.ok (.string t)) →
        Results s ((k.convert span nameSpan e).eval (n + 2) scope) (.ok (.number x)) := by
  refine ⟨_, hnumber.parse_eq, fun n scope => results_eval hcalm (.pure s _), ?_⟩
  intro k n scope e span nameSpan hallowed he
  rw [← hnumber.literalText.parse_eq hfits]
  exact Conversion.results_convert hcalm hallowed he span nameSpan

/-! ### The limit of hexadecimal integers -/

/-- The standard policy, an item that is null, and nothing that interrupts the evaluation. -/
def Sandbox.quiet : Sandbox :=
  ⟨⟨SecurityConfig.standard, []⟩, .ofItem .null ⟨0, 0, 0⟩, true, fun _ => 0, false⟩

theorem isCalm_quiet : Sandbox.quiet.IsCalm := by
  have htime : 0 < SecurityConfig.standard.timeout := by decide
  exact ⟨rfl, fun _ => htime⟩

theorem Conversion.allowed_quiet (k : Conversion) : k.Allowed .quiet .empty := by
  cases k with
  | function => exact ⟨by decide, rfl, by decide⟩
  | method => exact ⟨by decide, by decide⟩
  | sign => trivial

/-- The largest hexadecimal integer that fits a signed word. -/
theorem results_conversions_maxWord :
    IsNumber "0x7fffffffffffffff".toList (Number.ofNat 0x7fffffffffffffff) ∧
    Number.FitsWord "0x7fffffffffffffff".toList ∧
    Results .quiet (Conversion.function.convert ⟨0, 28⟩ ⟨0, 6⟩
      (.literal ⟨7, 27⟩ (.string "0x7fffffffffffffff"))).value
      (.ok (.number (Number.ofNat 0x7fffffffffffffff))) ∧
    Results .quiet (Conversion.method.convert ⟨0, 31⟩ ⟨0, 29⟩
      (.literal ⟨0, 20⟩ (.string "0x7fffffffffffffff"))).value
      (.ok (.number (Number.ofNat 0x7fffffffffffffff))) ∧
    Results .quiet (Conversion.sign.convert ⟨0, 21⟩ ⟨0, 0⟩
      (.literal ⟨1, 21⟩ (.string "0x7fffffffffffffff"))).value
      (.ok (.number (Number.ofNat 0x7fffffffffffffff))) := by
  have hnumber : IsNumber "0x7fffffffffffffff".toList (Number.ofNat 0x7fffffffffffffff) :=
    isNumber_of_read? (.inl rfl) rfl (by decide)
  have hfits : Number.FitsWord "0x7fffffffffffffff".toList := by
    rintro ds n ⟨⟩ ⟨⟩
    decide
  obtain ⟨-, -, -, hconversions⟩ := results_conversions isCalm_quiet hnumber hfits
  have hconverts (k : Conversion) (span nameSpan sp : Span) :=
    hconversions k 254 .empty (.literal sp (.string "0x7fffffffffffffff")) span nameSpan
      k.allowed_quiet (results_eval isCalm_quiet (.pure _ _))
  exact ⟨hnumber, hfits, hconverts .function _ _ _, hconverts .method _ _ _,
    hconverts .sign _ _ _⟩

/-- One more is a number as a literal, but its text is converted to none. -/
theorem results_conversions_tooLong :
    IsNumber "0x8000000000000000".toList (Number.ofNat 0x8000000000000000) ∧
    Number.isNaN (Number.ofNat 0x8000000000000000) = false ∧
    Results .quiet (Conversion.function.convert ⟨0, 28⟩ ⟨0, 6⟩
      (.literal ⟨7, 27⟩ (.string "0x8000000000000000"))).value (.ok (.number Number.nan)) ∧
    Results .quiet (Conversion.method.convert ⟨0, 31⟩ ⟨0, 29⟩
      (.literal ⟨0, 20⟩ (.string "0x8000000000000000"))).value (.ok (.number Number.nan)) ∧
    Results .quiet (Conversion.sign.convert ⟨0, 21⟩ ⟨0, 0⟩
      (.literal ⟨1, 21⟩ (.string "0x8000000000000000"))).value (.ok (.number Number.nan)) ∧
    Number.isNaN Number.nan = true := by
  have hparse : Number.parse "0x8000000000000000".toList = Number.nan := rfl
  have hconverts (k : Conversion) (span nameSpan sp : Span) :
      Results .quiet (k.convert span nameSpan (.literal sp (.string "0x8000000000000000"))).value
        (.ok (.number Number.nan)) := by
    rw [← hparse]
    exact Conversion.results_convert (n := 254) isCalm_quiet k.allowed_quiet
      (results_eval isCalm_quiet (.pure _ _)) span nameSpan
  exact ⟨isNumber_of_read? (.inl rfl) rfl (by decide), by decide, hconverts .function _ _ _,
    hconverts .method _ _ _, hconverts .sign _ _ _, by decide⟩

end TemplateExpr
