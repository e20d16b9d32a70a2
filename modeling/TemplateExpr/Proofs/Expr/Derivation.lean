import Mathlib.Data.List.Chain
import Mathlib.Logic.Function.Iterate
import Mathlib.Order.Bounds.Basic
import TemplateExpr.Expr.Analysis
import TemplateExpr.Proofs.Expr.Grammar
import TemplateExpr.Proofs.Expr.Node
import TemplateExpr.Proofs.Template.Compiled

/-!
# How trees are derived from tokens

`Derives` says of which phrases the tree that a reader builds is put together: one rule for each
kind of node, with the tokens that its parts are read from and the check of its height, and one rule
each for the items of a list and the entries of an object. What a reader builds is derived in this
way (`faithful_exprAt`, `derives_of_parse`), so whatever holds of all derivations holds of all trees
that are read: the height that a reader gives for a tree is its height (`Derives.isMeasured`), and
so no tree is higher than `maxDepth` (`height_le_of_parse`), however its nodes are nested, by
brackets, by prefix operators or by the loops over operators and accesses.
-/

namespace TemplateExpr.Parser

open TemplateExpr.Text

/-- What tokens are read as. -/
inductive Phrase where
  | tree (b : Built)
  /-- The items of a list, and the greatest of their heights. -/
  | items (es : List Expr) (height : Nat)
  /-- The entries of an object, and the greatest of the heights of their values. -/
  | entries (es : List (String × Expr)) (height : Nat)

/-- The tokens in front of `rest` are read as a phrase. Symbols and names between two parts are
passed over by a premise `more <:+ mid`. -/
inductive Derives : Tokens → Phrase → Tokens → Prop
  | literal (v : Literal) (t : Spanned Token) (ts : Tokens) :
    Derives (t :: ts) (.tree ⟨.literal t.span v, 1⟩) ts
  | ident (name : String) (t : Spanned Token) (ts : Tokens) :
    Derives (t :: ts) (.tree ⟨.ident t.span name, 1⟩) ts
  | parens {t u : Spanned Token} {ts rest : Tokens} {b : Built} :
    Derives ts (.tree b) (u :: rest) →
    Derives (t :: ts) (.tree ⟨b.expr.withSpan ⟨t.span.start, u.span.stop⟩, b.height⟩) rest
  | array {t : Spanned Token} {ts mid rest : Tokens} {es : List Expr} {height stop : Nat} :
    Derives ts (.items es height) mid → rest <:+ mid → height + 1 ≤ maxDepth →
    Derives (t :: ts) (.tree ⟨.array ⟨t.span.start, stop⟩ es, height + 1⟩) rest
  | object {t : Spanned Token} {ts mid rest : Tokens} {es : List (String × Expr)}
      {height stop : Nat} :
    Derives ts (.entries es height) mid → rest <:+ mid → height + 1 ≤ maxDepth →
    Derives (t :: ts) (.tree ⟨.object ⟨t.span.start, stop⟩ es, height + 1⟩) rest
  | member {ts mid rest : Tokens} {l : Built} {stop : Nat} (name : String) (optional : Bool) :
    Derives ts (.tree l) mid → rest <:+ mid → l.height + 1 ≤ maxDepth →
    Derives ts
      (.tree ⟨.member ⟨l.expr.span.start, stop⟩ l.expr name optional, l.height + 1⟩) rest
  | index {ts mid more mid' rest : Tokens} {l key : Built} {stop : Nat} (optional : Bool) :
    Derives ts (.tree l) mid → more <:+ mid → Derives more (.tree key) mid' → rest <:+ mid' →
    1 + max l.height key.height ≤ maxDepth →
    Derives ts (.tree ⟨.index ⟨l.expr.span.start, stop⟩ l.expr key.expr optional,
      1 + max l.height key.height⟩) rest
  | call {ts mid more mid' rest : Tokens} {l : Built} {es : List Expr} {height stop : Nat}
      (optional : Bool) :
    Derives ts (.tree l) mid → more <:+ mid → Derives more (.items es height) mid' →
    rest <:+ mid' → max l.height height + 1 ≤ maxDepth →
    Derives ts (.tree ⟨.call ⟨l.expr.span.start, stop⟩ l.expr es optional,
      max l.height height + 1⟩) rest
  | unary {t : Spanned Token} {ts rest : Tokens} {b : Built} (op : UnaryOp) :
    Derives ts (.tree b) rest → b.height + 1 ≤ maxDepth →
    Derives (t :: ts)
      (.tree ⟨.unary (t.span.through b.expr.span) op b.expr, b.height + 1⟩) rest
  | binary {ts mid more rest : Tokens} {l r : Built} (op : BinaryOp) :
    Derives ts (.tree l) mid → more <:+ mid → Derives more (.tree r) rest →
    1 + max l.height r.height ≤ maxDepth →
    Derives ts (.tree ⟨.binary (l.expr.span.through r.expr.span) op l.expr r.expr,
      1 + max l.height r.height⟩) rest
  | conditional {ts mid more mid' more' rest : Tokens} {l c a : Built} :
    Derives ts (.tree l) mid → more <:+ mid → Derives more (.tree c) mid' → more' <:+ mid' →
    Derives more' (.tree a) rest → 1 + max (max l.height c.height) a.height ≤ maxDepth →
    Derives ts (.tree ⟨.conditional (l.expr.span.through a.expr.span) l.expr c.expr a.expr,
      1 + max (max l.height c.height) a.height⟩) rest
  | lambda {t : Spanned Token} {ts more rest : Tokens} {b : Built} (params : List String) :
    more <:+ ts → Derives more (.tree b) rest → b.height + 1 ≤ maxDepth →
    Derives (t :: ts)
      (.tree ⟨.lambda ⟨t.span.start, b.expr.span.stop⟩ params b.expr, b.height + 1⟩) rest
  | assign {ts mid more rest : Tokens} {l v : Built} :
    Derives ts (.tree l) mid → more <:+ mid → Derives more (.tree v) rest →
    1 + max l.height v.height ≤ maxDepth →
    Derives ts (.tree ⟨.assign (l.expr.span.through v.expr.span) l.expr v.expr,
      1 + max l.height v.height⟩) rest
  | noItems (ts : Tokens) : Derives ts (.items [] 0) ts
  | item {ts mid more rest : Tokens} {b : Built} {es : List Expr} {height : Nat} :
    Derives ts (.tree b) mid → more <:+ mid → Derives more (.items es height) rest →
    Derives ts (.items (b.expr :: es) (max b.height height)) rest
  | noEntries (ts : Tokens) : Derives ts (.entries [] 0) ts
  | entry {ts value mid more rest : Tokens} {b : Built} {es : List (String × Expr)} {height : Nat}
      (key : String) :
    value <:+ ts → Derives value (.tree b) mid → more <:+ mid →
    Derives more (.entries es height) rest →
    Derives ts (.entries ((key, b.expr) :: es) (max b.height height)) rest

/-! ### Readers -/

/-- What the reader builds is derived from the tokens that it takes. -/
def Faithful (sub : Reader) : Prop :=
  ∀ ts, Gives (fun t => Derives ts (.tree t.value) t.rest) (sub ts)

variable {ts mid rest : Tokens} {size n height : Nat} {sub : Level → Reader} {inner : Reader}
  {min : Level} {l b : Built}

theorem Faithful.derives (h : Faithful inner) (hget : Gets inner ts b rest) :
    Derives ts (.tree b) rest := by
  obtain ⟨hlt, hget⟩ := hget
  have hread := h ts
  rw [hget] at hread
  exact hread

theorem faithful_of_gets (h : ∀ ts b rest, Gets inner ts b rest → Derives ts (.tree b) rest) :
    Faithful inner :=
  fun ts => (gives_gets inner ts).mono (fun _ he => he) fun t ht => h ts t.value t.rest ht

theorem faithful_tooDeep (size : Nat) : Faithful fun ts => tooDeep size ts := fun _ => trivial

/-! ### What the rules of the grammar derive -/

/-- What a loop builds is the first part of what its next step builds. -/
theorem Derives.loop {step : Built → Tokens → Built → Tokens → Prop}
    (hstep : ∀ l mid b rest, Derives ts (.tree l) mid → step l mid b rest →
      Derives ts (.tree b) rest)
    (hleft : Derives ts (.tree l) mid) (h : Loop step (l, mid) (b, rest)) :
    Derives ts (.tree b) rest := by
  generalize hq : (b, rest) = q at h
  induction h generalizing b rest with
  | refl =>
    obtain ⟨rfl, rfl⟩ := Prod.mk.inj hq
    exact hleft
  | tail _ hlast ih =>
    obtain ⟨rfl, rfl⟩ := Prod.mk.inj hq
    exact hstep _ _ _ _ (ih rfl) hlast

theorem Operation.derives (hsub : ∀ level, Faithful (sub level))
    (hleft : Derives ts (.tree l) mid) (h : Operation sub min l mid b rest) :
    Derives ts (.tree b) rest := by
  have hbehind (t : Spanned Token) (more : Tokens) : more <:+ t :: more := List.suffix_cons t more
  cases h with
  | conditional _ hc ha hheight =>
    have hthen := (hsub _).derives hc
    have helse := (hsub _).derives ha
    exact .conditional hleft (hbehind _ _) hthen (hbehind _ _) helse hheight
  | assign _ hv hheight => exact .assign hleft (hbehind _ _) ((hsub _).derives hv) hheight
  | binary _ _ hr hheight => exact .binary _ hleft (hbehind _ _) ((hsub _).derives hr) hheight

theorem Items.derives (hsub : Faithful inner) {close : Symbol} {es : List Expr} {sp : Span}
    (h : Items inner close ts es height sp rest) :
    ∃ mid, Derives ts (.items es height) mid ∧ rest <:+ mid := by
  induction h with
  | empty sp rest => exact ⟨_, .noItems _, List.suffix_cons _ rest⟩
  | @last ts rest b sp _ hget =>
    rw [← Nat.max_zero b.height]
    refine ⟨_, .item (hsub.derives hget) List.suffix_rfl (.noItems _), List.suffix_cons _ rest⟩
  | more _ hget _ ih =>
    obtain ⟨mid, hitems, hrest⟩ := ih
    exact ⟨mid, .item (hsub.derives hget) (List.suffix_cons _ _) hitems, hrest⟩

theorem Access.derives (hsub : Faithful inner) (hleft : Derives ts (.tree l) mid)
    (h : Access inner l mid b rest) : Derives ts (.tree b) rest := by
  have hbehind (mark : Tokens) (t : Spanned Token) (more : Tokens) : more <:+ mark ++ t :: more :=
    (List.suffix_cons t more).trans (List.suffix_append mark _)
  cases h with
  | member optional _ hheight => exact .member _ optional hleft (hbehind [_] _ _) hheight
  | index _ hkey hheight =>
    exact .index _ hleft (hbehind _ _ _) (hsub.derives hkey) (List.suffix_cons _ _) hheight
  | call _ hitems hheight =>
    obtain ⟨mid', hitems, hrest⟩ := hitems.derives hsub
    exact .call _ hleft (hbehind _ _ _) hitems hrest hheight

theorem Entry.derives (hsub : Faithful inner) {key : String} (h : Entry inner ts key b rest) :
    ∃ value, value <:+ ts ∧ Derives value (.tree b) rest := by
  cases h with
  | written _ hget =>
    exact ⟨_, (List.suffix_cons _ _).trans (List.suffix_cons _ _), hsub.derives hget⟩
  | short => exact ⟨_, List.suffix_rfl, .ident _ _ _⟩

theorem Entries.derives (hsub : Faithful inner) {es : List (String × Expr)} {sp : Span}
    (h : Entries inner ts es height sp rest) :
    ∃ mid, Derives ts (.entries es height) mid ∧ rest <:+ mid := by
  induction h with
  | empty sp rest => exact ⟨_, .noEntries _, List.suffix_cons _ rest⟩
  | @last ts rest key b sp hentry =>
    obtain ⟨value, hvalue, hread⟩ := hentry.derives hsub
    rw [← Nat.max_zero b.height]
    exact ⟨_, .entry key hvalue hread List.suffix_rfl (.noEntries _), List.suffix_cons _ rest⟩
  | @more ts _ rest key b es height _ _ hentry _ ih =>
    obtain ⟨value, hvalue, hread⟩ := hentry.derives hsub
    obtain ⟨mid, hentries, hrest⟩ := ih
    exact ⟨mid, .entry key hvalue hread (List.suffix_cons _ _) hentries, hrest⟩

/-- An arrow function starts with the token `t`, and its body is read behind its parameters. -/
theorem Body.derives (hsub : Faithful inner) {params : List String} {t : Spanned Token}
    {more : Tokens} (hmore : more <:+ ts) (h : Body inner params t.span.start more b rest) :
    Derives (t :: ts) (.tree b) rest := by
  obtain ⟨-, hget, hheight⟩ := h
  exact .lambda params hmore (hsub.derives hget) hheight

theorem derives_nameLeaf? {name : String} {t : Spanned Token} {e : Expr}
    (h : nameLeaf? name t.span = some e) (ts : Tokens) : Derives (t :: ts) (.tree ⟨e, 1⟩) ts := by
  rw [nameLeaf?] at h
  split at h
  · obtain rfl := Option.some.inj h
    exact .literal _ t ts
  · split at h
    · cases h
    · obtain rfl := Option.some.inj h
      exact .ident name t ts

theorem Operand.derives (hsub : Faithful inner) (h : Operand inner ts b rest) :
    Derives ts (.tree b) rest := by
  cases h with
  | number x sp => exact .literal _ ⟨.number x, sp⟩ _
  | string s sp => exact .literal _ ⟨.string s, sp⟩ _
  | @name name sp _ e _ hleaf =>
    have hspan : nameLeaf? name (⟨.name name, sp⟩ : Spanned Token).span = some e := hleaf
    exact derives_nameLeaf? hspan _
  | @function name sp _ _ _ _ hbody =>
    have hstart : Body inner [name] (⟨.name name, sp⟩ : Spanned Token).span.start _ b rest := hbody
    exact hstart.derives hsub (List.suffix_cons _ _)
  | @functionOf sp _ _ l _ hparams hbody =>
    have hstart : Body inner l.value (⟨.symbol .openParen, sp⟩ : Spanned Token).span.start _ b rest :=
      hbody
    exact hstart.derives hsub (skips_arrowParams? hparams).suffix
  | @group sp _ _ _ b _ hget =>
    have hinside := hsub.derives hget
    exact .parens (t := ⟨.symbol .openParen, sp⟩) hinside
  | @array sp _ _ _ _ _ hitems hheight =>
    obtain ⟨mid, hitems, hrest⟩ := hitems.derives hsub
    exact .array (t := ⟨.symbol .openBracket, sp⟩) hitems hrest hheight
  | @object sp _ _ _ _ _ hentries hheight =>
    obtain ⟨mid, hentries, hrest⟩ := hentries.derives hsub
    exact .object (t := ⟨.symbol .openBrace, sp⟩) hentries hrest hheight

theorem Unary.derives {deeper : Reader} (hdeeper : Faithful deeper) (hsub : Faithful inner)
    (h : Unary deeper inner ts b rest) : Derives ts (.tree b) rest := by
  cases h with
  | operator _ hget hheight => exact .unary _ (hdeeper.derives hget) hheight
  | operand _ hoperand haccess _ =>
    exact (hoperand.derives hsub).loop (fun _ _ _ _ hleft h => h.derives hsub hleft) haccess

/-! ### The descent -/

theorem faithful_unaryWith {deeper : Reader} (hdeeper : Faithful deeper) (hsub : Faithful inner) :
    Faithful (unaryWith size deeper inner) :=
  faithful_of_gets fun _ _ _ h => (gets_unaryWith.1 h).derives hdeeper hsub

theorem faithful_exprAt (size n : Nat) :
    (∀ min, Faithful (exprAt size n min)) ∧ Faithful (unaryAt size n) := by
  induction n with
  | zero =>
    have hdeep := faithful_tooDeep size
    exact ⟨fun _ => hdeep, faithful_unaryWith hdeep hdeep⟩
  | succ n ih =>
    obtain ⟨hexpr, hunary⟩ := ih
    have hnext (min : Level) : Faithful (exprAt size (n + 1) min) := by
      refine faithful_of_gets fun ts b rest h => ?_
      obtain ⟨l, mid, hl, hloop, -⟩ := gets_exprAt_succ.1 h
      exact (hunary.derives hl).loop (fun _ _ _ _ hleft h => h.derives hexpr hleft) hloop
    exact ⟨hnext, faithful_unaryWith hunary (hnext Level.assignment)⟩

end TemplateExpr.Parser

namespace TemplateExpr

open TemplateExpr.Text

/-- The tree of a text is derived from its tokens, if it has any; the tree of a text without tokens
is a literal. -/
theorem Expr.derives_of_parse {text : List Char} {e : Expr} (h : Expr.parse text = .ok e) :
    e = .literal ⟨0, 0⟩ .undefined ∨
      ∃ ts height, tokenize text = .ok ts ∧ Parser.Derives ts (.tree ⟨e, height⟩) [] := by
  obtain ⟨ts, hts, h⟩ := exists_of_bind_eq_ok h
  obtain ⟨b, hb, h⟩ := exists_of_bind_eq_ok h
  obtain rfl := Except.ok.inj h
  cases ts with
  | nil =>
    obtain rfl := Except.ok.inj hb
    exact .inl rfl
  | cons t ts =>
    obtain ⟨tree, htree, hb⟩ := exists_of_bind_eq_ok hb
    have hread := (Parser.faithful_exprAt (byteLength text) maxDepth).1 Level.assignment (t :: ts)
    rw [htree] at hread
    split at hb
    · next hrest =>
      obtain rfl := Except.ok.inj hb
      exact .inr ⟨t :: ts, tree.value.height, hts, hrest ▸ hread⟩
    · split at hb <;> cases hb

/-! ### Heights -/

theorem Expr.height_withSpan (s : Span) (e : Expr) : (e.withSpan s).height = e.height := by
  cases e <;> rfl

namespace Parser

/-- The height that is given for a phrase is its height, and that of a tree is within the ceiling.
-/
def Phrase.IsMeasured : Phrase → Prop
  | tree b => b.height = b.expr.height ∧ b.height ≤ maxDepth
  | items es height => height = Expr.heights es
  | entries es height => height = Expr.entryHeights es

theorem Derives.isMeasured {ts rest : Tokens} {phrase : Phrase} (h : Derives ts phrase rest) :
    phrase.IsMeasured := by
  have hleaf : 1 ≤ maxDepth := by decide
  induction h with
  | literal v t ts => exact ⟨rfl, hleaf⟩
  | ident name t ts => exact ⟨rfl, hleaf⟩
  | parens _ ih => exact ⟨ih.1.trans (Expr.height_withSpan _ _).symm, ih.2⟩
  | array _ _ hle ih => exact ⟨congrArg (· + 1) ih, hle⟩
  | object _ _ hle ih => exact ⟨congrArg (· + 1) ih, hle⟩
  | member _ _ _ _ hle ih => exact ⟨congrArg (· + 1) ih.1, hle⟩
  | index _ _ _ _ _ hle ih ih' =>
    refine ⟨?_, hle⟩
    rw [Expr.height, ih.1, ih'.1, Nat.add_comm]
  | call _ _ _ _ _ hle ih ih' =>
    refine ⟨?_, hle⟩
    rw [Expr.height, ih.1, ih']
  | unary _ _ hle ih => exact ⟨congrArg (· + 1) ih.1, hle⟩
  | binary _ _ _ _ hle ih ih' =>
    refine ⟨?_, hle⟩
    rw [Expr.height, ih.1, ih'.1, Nat.add_comm]
  | conditional _ _ _ _ _ hle ih ih' ih'' =>
    refine ⟨?_, hle⟩
    rw [Expr.height, ih.1, ih'.1, ih''.1, Nat.max_assoc, Nat.add_comm]
  | lambda _ _ _ hle ih => exact ⟨congrArg (· + 1) ih.1, hle⟩
  | assign _ _ _ hle ih ih' =>
    refine ⟨?_, hle⟩
    rw [Expr.height, ih.1, ih'.1, Nat.add_comm]
  | noItems ts => rfl
  | item _ _ _ ih ih' => exact congrArg₂ max ih.1 ih'
  | noEntries ts => rfl
  | entry _ _ _ _ _ ih ih' => exact congrArg₂ max ih.1 ih'

end Parser

/-- A tree that is read is not higher than the ceiling. -/
theorem Expr.height_le_of_parse {text : List Char} {e : Expr} (h : Expr.parse text = .ok e) :
    e.height ≤ maxDepth := by
  rcases Expr.derives_of_parse h with rfl | ⟨ts, height, -, hderives⟩
  · decide
  · obtain ⟨hheight, hle⟩ := hderives.isMeasured
    exact hheight ▸ hle

end TemplateExpr

/-!
## Heights of trees and the nesting of the descent

The height of an expression is the length of its longest paths, where a path goes from each node to
one of its parts (`isGreatest_height`), and `nodeCount` counts the nodes (`length_nodes`).

The descent of the parser is built level by level. `Descent.deepen` is one level of it: whatever is
nested in what it reads is left to the readers of the level below. Below the lowest level nothing is
read (`Descent.refuse`). The parser is `maxDepth` of these levels on top of each other
(`exprAt_eq_iterate`), whatever the tokens are and whether or not they are read to the end.
-/

namespace TemplateExpr

open TemplateExpr.Text

namespace Expr

/-! ### Paths -/

/-- Each expression of the list is right below the one in front of it. -/
abbrev IsPath (path : List Expr) : Prop := path.IsChain fun e e' => e' ∈ e.parts

/-- If there is anything in a list, something in it is as high as the list says. -/
theorem exists_height_eq_heights {es : List Expr} (h : es ≠ []) :
    ∃ e ∈ es, e.height = heights es := by
  induction es with
  | nil => exact absurd rfl h
  | cons e es ih =>
    rw [heights]
    rcases Nat.le_total (heights es) e.height with hle | hle
    · exact ⟨e, List.mem_cons_self, (Nat.max_eq_left hle).symm⟩
    · -- what stands in front is not higher than the rest, so there is a rest
      have hes : es ≠ [] := by
        rintro rfl
        exact absurd e.height_pos (Nat.not_lt.2 hle)
      obtain ⟨e', he', hheight⟩ := ih hes
      exact ⟨e', List.mem_cons_of_mem e he', hheight.trans (Nat.max_eq_right hle).symm⟩

theorem length_le_height {e : Expr} {path : List Expr} (h : IsPath (e :: path)) :
    (e :: path).length ≤ e.height := by
  induction path generalizing e with
  | nil => exact e.height_pos
  | cons e' path ih =>
    obtain ⟨hpart, hrest⟩ := List.isChain_cons_cons.1 h
    have hlt := height_lt_of_mem_parts hpart
    have hle := ih hrest
    rw [List.length_cons]
    omega

theorem exists_path (e : Expr) : ∃ path, IsPath (e :: path) ∧ (e :: path).length = e.height := by
  induction e using parts_induction with
  | step e ih =>
    by_cases hleaf : e.parts = []
    · refine ⟨[], List.isChain_singleton e, ?_⟩
      rw [height_eq_parts, hleaf]
      rfl
    · obtain ⟨e', hpart, hheight⟩ := exists_height_eq_heights hleaf
      obtain ⟨path, hpath, hlength⟩ := ih e' hpart
      refine ⟨e' :: path, List.isChain_cons_cons.2 ⟨hpart, hpath⟩, ?_⟩
      rw [List.length_cons, hlength, hheight, ← height_eq_parts]

/-- The height is the number of nodes on the longest paths down from the root. -/
theorem isGreatest_height (e : Expr) :
    IsGreatest {n | ∃ path, IsPath (e :: path) ∧ (e :: path).length = n} e.height := by
  constructor
  · exact exists_path e
  · rintro n ⟨path, hpath, rfl⟩
    exact length_le_height hpath

/-! ### Nodes -/

theorem length_listNodes {es : List Expr} (h : ∀ e ∈ es, e.nodes.length = e.nodeCount) :
    (listNodes es).length = nodeCounts es := by
  induction es with
  | nil => rfl
  | cons e es ih =>
    rw [listNodes, nodeCounts, List.length_append, h e List.mem_cons_self,
      ih fun e' he' => h e' (List.mem_cons_of_mem e he')]

theorem length_nodes (e : Expr) : e.nodes.length = e.nodeCount := by
  induction e using parts_induction with
  | step e ih => rw [nodes_eq_parts, List.length_cons, length_listNodes ih, nodeCount_eq_parts]

end Expr

namespace Parser

/-! ### Levels of the descent -/

/-- The readers that go one level down: to an expression inside brackets or to the right of an
operator, and to the operand of a prefix operator. -/
structure Descent where
  expr : Level → Reader
  operand : Reader

namespace Descent

/-- No further level. -/
def refuse (size : Nat) : Descent where
  expr _ ts := tooDeep size ts
  operand ts := tooDeep size ts

/-- One more level. The first operand is on the level itself; all that is nested is read by `d`. -/
def deepen (size : Nat) (d : Descent) : Descent where
  expr := binaryWith size (unaryWith size d.operand (d.expr Level.assignment)) d.expr
  operand := unaryWith size d.operand (d.expr Level.assignment)

end Descent

theorem deepen_iterate_refuse (size n : Nat) :
    (Descent.deepen size)^[n + 1] (Descent.refuse size) =
      ⟨fun min => exprAt size (n + 1) min, unaryAt size n⟩ := by
  induction n with
  | zero => rfl
  | succ n ih =>
    rw [Function.iterate_succ_apply', ih]
    rfl

/-- The parser is as many levels on top of each other as it is given. -/
theorem exprAt_eq_iterate (size n : Nat) (min : Level) :
    exprAt size n min = ((Descent.deepen size)^[n] (Descent.refuse size)).expr min := by
  cases n with
  | zero => rfl
  | succ n => rw [deepen_iterate_refuse]

/-- The height that is given for a tree is its height, at every level of the descent. -/
theorem height_of_exprAt {size n : Nat} {min : Level} {ts : Tokens} {t : Taken Built ts}
    (h : exprAt size n min ts = .ok t) :
    t.value.height = t.value.expr.height ∧ t.value.height ≤ maxDepth := by
  have hread := (faithful_exprAt size n).1 min ts
  rw [h] at hread
  exact hread.isMeasured

end Parser

/-- Whatever tokens are read, at every level of the descent the height given for a tree is the
height of the tree, and the descent has `maxDepth` levels. So a text that is parsed has a tree whose
analysis tells the length of the longest path, which is within that ceiling, and how many nodes
there are. -/
theorem Expr.depth_of_parse (text : List Char) :
    (∀ e, Expr.parse text = .ok e →
      IsGreatest {n | ∃ path, Expr.IsPath (e :: path) ∧ (e :: path).length = n} e.analyze.depth ∧
        e.analyze.depth ≤ 256 ∧ e.analyze.nodeCount = e.nodes.length) ∧
    (∀ size n min ts (t : Taken Parser.Built ts), Parser.exprAt size n min ts = .ok t →
      t.value.height = t.value.expr.height ∧ t.value.height ≤ 256) ∧
    ∀ size min ts, Parser.exprAt size maxDepth min ts =
      ((Parser.Descent.deepen size)^[256] (Parser.Descent.refuse size)).expr min ts := by
  refine ⟨fun e he => ?_, fun size n min ts t ht => Parser.height_of_exprAt ht, ?_⟩
  · have hheight : e.height ≤ 256 := Expr.height_le_of_parse he
    exact ⟨e.isGreatest_height, hheight, e.length_nodes.symm⟩
  · intro size min ts
    rw [Parser.exprAt_eq_iterate]
    rfl

/-- A call in an index of an item of a list, behind brackets that are no nodes. -/
theorem depth_of_parse_nestedIndex : ∃ e, Expr.parse "([{ a, b: xs[f(1)] }])".toList = .ok e ∧
    e.analyze.depth = 5 ∧ e.analyze.nodeCount = 8 ∧
    IsGreatest {n | ∃ path, Expr.IsPath (e :: path) ∧ (e :: path).length = n} 5 := by
  obtain ⟨e, he, h⟩ := Expr.exists_parse "([{ a, b: xs[f(1)] }])"
    (p := fun e => e.height == 5 && e.nodeCount == 8) (by decide +kernel)
  rw [Bool.and_eq_true, beq_iff_eq, beq_iff_eq] at h
  obtain ⟨hheight, hcount⟩ := h
  have hdepth := ((Expr.depth_of_parse _).1 e he).1
  refine ⟨e, he, hheight, hcount, ?_⟩
  rwa [show e.analyze.depth = 5 from hheight] at hdepth

end TemplateExpr
