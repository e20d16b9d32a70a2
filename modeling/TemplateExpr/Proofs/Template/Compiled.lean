import TemplateExpr.Proofs.Expr.Parser
import TemplateExpr.Proofs.Query.Basic
import TemplateExpr.Template.Compiled

/-!
# Expressions with the same key

Results are kept under the normal form of an expression, so two expressions with the same normal
form share one entry of the cache. `Compiled.sameMeaning_of_normalize` says that they mean the same,
as far as `keepsMeaning` holds of them: a normal form forgets the line break that ends a comment,
the quotation marks that a comment hides, and blanks in the keys of a path.
-/

namespace TemplateExpr

open TemplateExpr.Text TemplateExpr.Cache

/-! ### Routes -/

/-- A path query is `$` and nothing else, or goes on with a point or a bracket. -/
def StartsPath (cs : List Char) : Prop :=
  ∃ rest, cs = '$' :: rest ∧ (rest = [] ∨ rest.head? = some '.' ∨ rest.head? = some '[')

theorem Route.ofText_eq_query_iff (cs : List Char) :
    Route.ofText cs = .query ↔ StartsPath (trim cs) := by
  unfold Route.ofText
  constructor
  · intro h
    split at h
    next heq => exact ⟨[], heq, Or.inl rfl⟩
    next rest heq => exact ⟨'.' :: rest, heq, Or.inr (Or.inl rfl)⟩
    next rest heq => exact ⟨'[' :: rest, heq, Or.inr (Or.inr rfl)⟩
    next => cases h
  · rintro ⟨rest, hrest, hend⟩
    rw [hrest]
    cases rest with
    | nil => rfl
    | cons c rest =>
      rcases hend with hnil | hdot | hbracket
      · cases hnil
      · cases hdot
        rfl
      · cases hbracket
        rfl

theorem StartsPath.of_squeeze {x y : List Char} (h : squeeze (marks x) = squeeze (marks y))
    (hx : StartsPath x) : StartsPath y := by
  obtain ⟨rest, rfl, hend⟩ := hx
  have hroot := QueryStep.head?_map_fst_iff (c := '$') rfl (marksBlanks_marks _)
    (marksBlanks_marks _) h
  rw [map_fst_marks, map_fst_marks] at hroot
  obtain ⟨rest', rfl⟩ := List.head?_eq_some_iff.1 (hroot.1 rfl)
  rw [marks_other rfl, marks_other rfl, squeeze_keep rfl, squeeze_keep rfl] at h
  have hrest := (List.cons.inj h).2
  have hhead {c : Char} (hc : isBlank c = false) : rest.head? = some c ↔ rest'.head? = some c := by
    have hiff := QueryStep.head?_map_fst_iff hc (marksBlanks_marks _) (marksBlanks_marks _) hrest
    rwa [map_fst_marks, map_fst_marks] at hiff
  refine ⟨rest', rfl, ?_⟩
  rcases hend with rfl | hdot | hbracket
  · have hnil : marks rest' = [] := squeeze_eq_nil (by rw [← hrest, marks]; rfl)
    left
    rw [← map_fst_marks rest', hnil]
    rfl
  · exact Or.inr (Or.inl ((hhead rfl).1 hdot))
  · exact Or.inr (Or.inr ((hhead rfl).1 hbracket))

/-- The route of an expression can be told from its normal form. -/
theorem Route.ofText_eq_of_normalize {x y : List Char} (h : normalize x = normalize y) :
    Route.ofText x = Route.ofText y := by
  have hsqueeze := squeeze_marks_eq h
  have hiff : Route.ofText x = .query ↔ Route.ofText y = .query := by
    rw [ofText_eq_query_iff, ofText_eq_query_iff]
    exact ⟨.of_squeeze hsqueeze, .of_squeeze hsqueeze.symm⟩
  cases hx : Route.ofText x with
  | query => exact (hiff.1 hx).symm
  | evaluator =>
    cases hy : Route.ofText y with
    | query => rw [hiff.2 hy] at hx; cases hx
    | evaluator => rfl

/-! ### Meaning -/

/-- Whether an expression means the same as its normal form: the names of a path, or the comments of
an expression of the language, do no harm. -/
def keepsMeaning (source : List Char) : Bool :=
  match Route.ofText source with
  | .query => QueryStep.keepsNames source
  | .evaluator => isQuiet source

/-- Two compiled expressions mean the same: they are paths with the same steps or paths that are
rejected, or they have the same tree up to spans. -/
def Compiled.SameMeaning (c c' : Compiled) : Prop :=
  match c.program, c'.program with
  | .query, .query =>
    FailTogether Eq (QueryStep.ofPath c.source.toList) (QueryStep.ofPath c'.source.toList)
  | .expr e, .expr e' => e.SameTree e'
  | _, _ => False

/-- Expressions with the same normal form take the same route, and mean the same as far as their
normal form keeps their meaning: both are rejected, or both are compiled to the same paths or
trees. -/
theorem Compiled.sameMeaning_of_normalize {source source' : String}
    (h : normalizeString source = normalizeString source') (offset offset' : Nat) :
    Route.ofText source.toList = Route.ofText source'.toList ∧
      (keepsMeaning source.toList = true → keepsMeaning source'.toList = true →
        FailTogether SameMeaning (ofText source offset) (ofText source' offset')) := by
  have hsame : normalize source.toList = normalize source'.toList := String.ofList_injective h
  have hroute := Route.ofText_eq_of_normalize hsame
  refine ⟨hroute, fun hkeep hkeep' => ?_⟩
  unfold keepsMeaning at hkeep hkeep'
  unfold ofText
  rw [← hroute] at hkeep' ⊢
  cases hquery : Route.ofText source.toList with
  | query =>
    rw [hquery] at hkeep hkeep'
    exact QueryStep.ofPath_same hsame hkeep hkeep'
  | evaluator =>
    rw [hquery] at hkeep hkeep'
    have hparse := Expr.parse_same hsame hkeep hkeep'
    rcases hparse.cases with ⟨e, e', he, he'⟩ | ⟨t, t', ht, ht', htree⟩
    · simp only [he, he']
      trivial
    · simp only [ht, ht']
      exact htree

/-! ### Single expressions -/

/-- A text that is compiled to something with a property that can be decided. -/
theorem Compiled.exists_ofText (source : String) {p : Compiled → Bool}
    (h : (Compiled.ofText source 0).toOption.any p = true) :
    ∃ compiled, Compiled.ofText source 0 = .ok compiled ∧ p compiled = true := by
  cases hc : Compiled.ofText source 0 with
  | error e => rw [hc] at h; cases h
  | ok compiled => rw [hc] at h; exact ⟨compiled, rfl, h⟩

/-- A text that is parsed to an expression with a property that can be decided. -/
theorem Expr.exists_parse (source : String) {p : Expr → Bool}
    (h : (Expr.parse source.toList).toOption.any p = true) :
    ∃ e, Expr.parse source.toList = .ok e ∧ p e = true := by
  cases he : Expr.parse source.toList with
  | error t => rw [he] at h; cases h
  | ok e => rw [he] at h; exact ⟨e, rfl, h⟩

/-- Blanks around a comment and within it do not matter. -/
theorem sameMeaning_of_normalize_comment :
    normalizeString "1  + /* a */ 2" = normalizeString "1 + /*  a */ 2" ∧
      FailTogether Compiled.SameMeaning (Compiled.ofText "1  + /* a */ 2" 0)
        (Compiled.ofText "1 + /*  a */ 2" 0) := by
  have h : normalizeString "1  + /* a */ 2" = normalizeString "1 + /*  a */ 2" := by
    decide +kernel
  exact ⟨h, (Compiled.sameMeaning_of_normalize h 0 0).2 (by decide +kernel) (by decide +kernel)⟩

/-- Trees that are the same up to spans are expressions of the same kind. -/
theorem Expr.SameTree.label_eq {e e' : Expr} (h : e.SameTree e') : e.label = e'.label := by
  have hlabel (e : Expr) : e.unplaced.label = e.label := by
    cases e <;> simp only [unplaced, label]
  rw [← hlabel e, h, hlabel e']

/-- Compiled expressions that mean the same are of the same kind. -/
theorem Compiled.SameMeaning.label_eq {c c' : Compiled} (h : c.SameMeaning c') :
    c.program.expr?.map Expr.label = c'.program.expr?.map Expr.label := by
  unfold SameMeaning at h
  split at h
  · next hp hp' => rw [hp, hp']
  · next hp hp' => rw [hp, hp', Program.expr?, Option.map_some, h.label_eq]; rfl
  · exact h.elim

/-- The normal form forgets the line break that ends a comment: with it, two numbers are added, and
without it, the second number is a part of the comment. -/
theorem lineBreak_not_told :
    normalizeString "1 // x\n + 2" = normalizeString "1 // x + 2" ∧
      ¬ FailTogether Compiled.SameMeaning (Compiled.ofText "1 // x\n + 2" 0)
        (Compiled.ofText "1 // x + 2" 0) := by
  refine ⟨by decide +kernel, fun h => ?_⟩
  obtain ⟨sum, hsum, hadds⟩ := Compiled.exists_ofText "1 // x\n + 2"
    (p := fun c => c.program.expr?.map Expr.label == some "binary operation") (by decide +kernel)
  obtain ⟨one, hone, hconstant⟩ := Compiled.exists_ofText "1 // x + 2"
    (p := fun c => c.program.expr?.map Expr.label == some "literal") (by decide +kernel)
  rw [hsum, hone] at h
  have hkind := Compiled.SameMeaning.label_eq h
  rw [eq_of_beq hadds, eq_of_beq hconstant] at hkind
  exact absurd hkind (by decide)

end TemplateExpr
