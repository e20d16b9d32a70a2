import Mathlib.Data.List.Nodup
import TemplateExpr.Proofs.Expr.Derivation
import TemplateExpr.Proofs.Expr.Node
import TemplateExpr.Proofs.Token.Extent

/-!
# Places of functions

The body of an arrow function starts with a token of its own: behind the token that the function
starts with, and before whatever follows it (`Derives.passes`). So the bodies of the functions in a
tree that has been read stand at different places (`nodup_functions_of_parse`), and functions can be
told apart by where their bodies stand.
-/

namespace TemplateExpr

/-! ### Tokens that are passed -/

namespace Parser

/-- Where tokens start. -/
def starts (ts : Tokens) : List Nat := ts.map (·.span.start)

/-- Tokens in front of `rest` start at the given places, one after the other. -/
def Passes (places : List Nat) (ts rest : Tokens) : Prop :=
  (places ++ starts rest).Sublist (starts ts)

namespace Passes

variable {places more : List Nat} {ts mid rest : Tokens}

theorem token (t : Spanned Token) (ts : Tokens) : Passes [t.span.start] (t :: ts) ts :=
  List.Sublist.refl _

theorem of_suffix (h : rest <:+ ts) : Passes [] ts rest := h.sublist.map _

theorem trans (h : Passes places ts mid) (h' : Passes more mid rest) :
    Passes (places ++ more) ts rest := by
  rw [Passes, List.append_assoc]
  exact (h'.append_left places).trans h

theorem mono (h : Passes places ts rest) (hmore : more.Sublist places) : Passes more ts rest :=
  (hmore.append_right _).trans h

theorem tail {place : Nat} (h : Passes (place :: places) ts rest) : Passes places ts rest :=
  h.mono (List.sublist_cons_self _ _)

theorem suffix (h : Passes places ts mid) (hrest : rest <:+ mid) : Passes places ts rest := by
  have hpassed := h.trans (of_suffix hrest)
  rwa [List.append_nil] at hpassed

end Passes

end Parser

/-! ### Places of functions -/

namespace Expr

/-- Where the body of a function starts. -/
def bodyStart? (e : Expr) : Option Nat := e.function?.map (·.2.span.start)

/-- Where the bodies of the functions among nodes start. -/
def bodyStarts (nodes : List Expr) : List Nat := nodes.filterMap bodyStart?

theorem bodyStarts_append (nodes nodes' : List Expr) :
    bodyStarts (nodes ++ nodes') = bodyStarts nodes ++ bodyStarts nodes' :=
  List.filterMap_append

theorem bodyStarts_nodes (e : Expr) : bodyStarts e.nodes = e.functions.map (·.2.span.start) := by
  rw [bodyStarts, functions, List.map_filterMap]
  rfl

theorem bodyStarts_withSpan (s : Span) (e : Expr) :
    bodyStarts (e.withSpan s).nodes = bodyStarts e.nodes := by
  cases e <;> rw [nodes_eq_parts, nodes_eq_parts] <;> rfl

end Expr

namespace Parser

open TemplateExpr.Expr (bodyStarts bodyStarts_append)

/-- Where a phrase starts, if it is a tree, and where the bodies of its functions start. -/
def Phrase.places : Phrase → List Nat
  | tree b => b.expr.span.start :: bodyStarts b.expr.nodes
  | items es _ => bodyStarts (Expr.listNodes es)
  | entries es _ => bodyStarts (Expr.entryNodes es)

/-- A tree and what is read behind it. -/
theorem Passes.append {ts mid more rest : Tokens} {start : Nat} {nodes nodes' : List Expr}
    (h : Passes (start :: bodyStarts nodes) ts mid) (hmore : more <:+ mid)
    (h' : Passes (bodyStarts nodes') more rest) :
    Passes (start :: bodyStarts (nodes ++ nodes')) ts rest := by
  rw [bodyStarts_append]
  exact (h.suffix hmore).trans h'

/-- Every function of a phrase has tokens of its own, with which its body starts. -/
theorem Derives.passes {ts rest : Tokens} {phrase : Phrase} (h : Derives ts phrase rest) :
    Passes phrase.places ts rest := by
  induction h with
  | literal v t ts => exact .token t ts
  | ident name t ts => exact .token t ts
  | @parens t u ts rest b _ ih =>
    rw [Phrase.places, Expr.span_withSpan, Expr.bodyStarts_withSpan]
    exact (Passes.token t ts).trans (ih.tail.suffix (List.suffix_cons u rest))
  | @array t ts _ _ _ _ _ _ hrest _ ih => exact (Passes.token t ts).trans (ih.suffix hrest)
  | @object t ts _ _ _ _ _ _ hrest _ ih => exact (Passes.token t ts).trans (ih.suffix hrest)
  | member _ _ _ hrest _ ih => exact ih.suffix hrest
  | index _ _ hmore _ hrest _ ih ih' => exact ih.append hmore (ih'.tail.suffix hrest)
  | call _ _ hmore _ hrest _ ih ih' => exact ih.append hmore (ih'.suffix hrest)
  | @unary t ts _ _ _ _ _ ih => exact (Passes.token t ts).trans ih.tail
  | binary _ _ hmore _ _ ih ih' => exact ih.append hmore ih'.tail
  | conditional _ hmore _ hmore' _ _ ih ih' ih'' =>
    have hbranches := (ih'.append hmore' ih''.tail).tail
    exact ih.append hmore hbranches
  | @lambda t ts _ _ _ _ hmore _ _ ih =>
    -- the body starts behind the token that the function starts with
    exact ((Passes.token t ts).suffix hmore).trans ih
  | assign _ hmore _ _ ih ih' => exact ih.append hmore ih'.tail
  | noItems ts => exact .of_suffix List.suffix_rfl
  | item _ hmore _ ih ih' => exact (ih.append hmore ih').tail
  | noEntries ts => exact .of_suffix List.suffix_rfl
  | entry _ hvalue _ hmore _ ih ih' =>
    exact (Passes.of_suffix hvalue).trans (ih.append hmore ih').tail

end Parser

/-- The bodies of the functions in a tree that has been read stand at different places. -/
theorem Expr.nodup_functions_of_parse {text : List Char} {e : Expr} (h : Expr.parse text = .ok e) :
    (e.functions.map (·.2.span)).Nodup := by
  rcases Expr.derives_of_parse h with rfl | ⟨ts, height, hts, hderives⟩
  · exact .nil
  · have hpasses := hderives.passes.tail
    rw [Parser.Passes, Expr.bodyStarts_nodes] at hpasses
    have hstarts : (Parser.starts ts).Nodup := by
      refine (inOrder_tokenize hts).map _ fun t u htu => ?_
      exact Nat.ne_of_lt htu.1
    have hnodup : (e.functions.map (·.2.span.start)).Nodup :=
      List.Nodup.of_append_left (hpasses.nodup hstarts)
    refine List.Nodup.of_map Span.start ?_
    rwa [List.map_map]

end TemplateExpr
