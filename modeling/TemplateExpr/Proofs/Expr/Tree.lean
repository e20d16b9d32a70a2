import TemplateExpr.Expr.Analysis
import TemplateExpr.Proofs.Fields

/-!
# Trees at other places

`Expr.unplaced` drops the spans of a tree; `Expr.SameTree` says that two trees differ in nothing
else. `Expr.Matches R` says in addition that the spans of nodes that go together are related by `R`.
-/

namespace TemplateExpr.Expr

/-! ### Trees without places -/

mutual

/-- The tree without its places in the text. -/
def unplaced : Expr → Expr
  | literal _ value => literal default value
  | ident _ name => ident default name
  | array _ items => array default (unplacedItems items)
  | object _ entries => object default (unplacedEntries entries)
  | member _ recv property optional => member default recv.unplaced property optional
  | index _ recv key optional => index default recv.unplaced key.unplaced optional
  | call _ callee args optional => call default callee.unplaced (unplacedItems args) optional
  | unary _ op operand => unary default op operand.unplaced
  | binary _ op left right => binary default op left.unplaced right.unplaced
  | conditional _ test consequent alternate =>
    conditional default test.unplaced consequent.unplaced alternate.unplaced
  | lambda _ params body => lambda default params body.unplaced
  | assign _ target value => assign default target.unplaced value.unplaced

/-- The trees without their places in the text. -/
def unplacedItems : List Expr → List Expr
  | [] => []
  | e :: es => e.unplaced :: unplacedItems es

/-- The entries without their places in the text. -/
def unplacedEntries : List (String × Expr) → List (String × Expr)
  | [] => []
  | (key, e) :: es => (key, e.unplaced) :: unplacedEntries es

end

/-- The trees are the same up to spans. -/
def SameTree (e e' : Expr) : Prop := e.unplaced = e'.unplaced

theorem span_unplaced (e : Expr) : e.unplaced.span = default := by
  cases e <;> simp only [unplaced, span]

theorem withSpan_unplaced (e : Expr) : e.unplaced.withSpan default = e.unplaced := by
  cases e <;> simp only [unplaced, withSpan]

mutual

@[simp] theorem unplaced_unplaced : ∀ e : Expr, e.unplaced.unplaced = e.unplaced
  | literal .. | ident .. => by simp only [unplaced]
  | array _ items => by simp only [unplaced, unplacedItems_unplacedItems items]
  | object _ entries => by simp only [unplaced, unplacedEntries_unplacedEntries entries]
  | member _ recv _ _ => by simp only [unplaced, unplaced_unplaced recv]
  | index _ recv key _ => by
    simp only [unplaced, unplaced_unplaced recv, unplaced_unplaced key]
  | call _ callee args _ => by
    simp only [unplaced, unplaced_unplaced callee, unplacedItems_unplacedItems args]
  | unary _ _ operand => by simp only [unplaced, unplaced_unplaced operand]
  | binary _ _ left right => by
    simp only [unplaced, unplaced_unplaced left, unplaced_unplaced right]
  | conditional _ test consequent alternate => by
    simp only [unplaced, unplaced_unplaced test, unplaced_unplaced consequent,
      unplaced_unplaced alternate]
  | lambda _ _ body => by simp only [unplaced, unplaced_unplaced body]
  | assign _ target value => by
    simp only [unplaced, unplaced_unplaced target, unplaced_unplaced value]

theorem unplacedItems_unplacedItems :
    ∀ es : List Expr, unplacedItems (unplacedItems es) = unplacedItems es
  | [] => rfl
  | e :: es => by
    simp only [unplacedItems, unplaced_unplaced e, unplacedItems_unplacedItems es]

theorem unplacedEntries_unplacedEntries :
    ∀ es : List (String × Expr), unplacedEntries (unplacedEntries es) = unplacedEntries es
  | [] => rfl
  | (key, e) :: es => by
    simp only [unplacedEntries, unplaced_unplaced e, unplacedEntries_unplacedEntries es]

end

theorem sameTree_unplaced {e e' : Expr} : e.unplaced.SameTree e' ↔ e.SameTree e' := by
  rw [SameTree, SameTree, unplaced_unplaced]

/-! ### Trees with related places -/

/-- The trees are the same, and the spans of their nodes are related by `R`. -/
inductive Matches (R : Span → Span → Prop) : Expr → Expr → Prop
  | literal {s s' : Span} (value : Literal) : R s s' →
    Matches R (.literal s value) (.literal s' value)
  | ident {s s' : Span} (name : String) : R s s' → Matches R (.ident s name) (.ident s' name)
  | array {s s' : Span} {items items' : List Expr} : R s s' →
    List.Forall₂ (Matches R) items items' → Matches R (.array s items) (.array s' items')
  | object {s s' : Span} {entries entries' : Fields Expr} : R s s' →
    Fields.Related (Matches R) entries entries' →
    Matches R (.object s entries) (.object s' entries')
  | member {s s' : Span} {recv recv' : Expr} (property : String) (optional : Bool) : R s s' →
    Matches R recv recv' →
    Matches R (.member s recv property optional) (.member s' recv' property optional)
  | index {s s' : Span} {recv recv' key key' : Expr} (optional : Bool) : R s s' →
    Matches R recv recv' → Matches R key key' →
    Matches R (.index s recv key optional) (.index s' recv' key' optional)
  | call {s s' : Span} {callee callee' : Expr} {args args' : List Expr} (optional : Bool) :
    R s s' → Matches R callee callee' → List.Forall₂ (Matches R) args args' →
    Matches R (.call s callee args optional) (.call s' callee' args' optional)
  | unary {s s' : Span} {e e' : Expr} (op : UnaryOp) : R s s' → Matches R e e' →
    Matches R (.unary s op e) (.unary s' op e')
  | binary {s s' : Span} {l l' r r' : Expr} (op : BinaryOp) : R s s' → Matches R l l' →
    Matches R r r' → Matches R (.binary s op l r) (.binary s' op l' r')
  | conditional {s s' : Span} {t t' c c' a a' : Expr} : R s s' → Matches R t t' →
    Matches R c c' → Matches R a a' → Matches R (.conditional s t c a) (.conditional s' t' c' a')
  | lambda {s s' : Span} (params : List String) {body body' : Expr} : R s s' →
    Matches R body body' → Matches R (.lambda s params body) (.lambda s' params body')
  | assign {s s' : Span} {t t' v v' : Expr} : R s s' → Matches R t t' → Matches R v v' →
    Matches R (.assign s t v) (.assign s' t' v')

namespace Matches

variable {R : Span → Span → Prop} {e e' : Expr}

theorem span (h : e.Matches R e') : R e.span e'.span := by
  cases h <;> assumption

theorem withSpan (h : e.Matches R e') {s s' : Span} (hs : R s s') :
    (e.withSpan s).Matches R (e'.withSpan s') := by
  cases h with
  | literal value _ => exact .literal value hs
  | ident name _ => exact .ident name hs
  | array _ hitems => exact .array hs hitems
  | object _ hentries => exact .object hs hentries
  | member property optional _ hrecv => exact .member property optional hs hrecv
  | index optional _ hrecv hkey => exact .index optional hs hrecv hkey
  | call optional _ hcallee hargs => exact .call optional hs hcallee hargs
  | unary op _ he => exact .unary op hs he
  | binary op _ hl hr => exact .binary op hs hl hr
  | conditional _ ht hc ha => exact .conditional hs ht hc ha
  | lambda params _ hbody => exact .lambda params hs hbody
  | assign _ ht hv => exact .assign hs ht hv

theorem label_eq (h : e.Matches R e') : e.label = e'.label := by
  cases h <;> rfl

theorem literalKey?_eq (h : e.Matches R e') : e.literalKey? = e'.literalKey? := by
  cases h with
  | literal value _ => cases value <;> rfl
  | _ => rfl

theorem isName_eq (h : e.Matches R e') (name : String) : e.isName name = e'.isName name := by
  cases h <;> rfl

theorem contextRoot?_eq (h : e.Matches R e') (scopes : Scopes) :
    e.contextRoot? scopes = e'.contextRoot? scopes := by
  cases h <;> rfl

mutual

theorem sameTree : ∀ {e e' : Expr}, e.Matches R e' → e.SameTree e'
  | _, _, .literal _ _ | _, _, .ident _ _ => by simp only [SameTree, unplaced]
  | _, _, .array _ hitems => by
    simp only [SameTree, unplaced]
    rw [unplacedItems_eq hitems]
  | _, _, .object _ hentries => by
    simp only [SameTree, unplaced]
    rw [unplacedEntries_eq hentries]
  | _, _, .member _ _ _ h | _, _, .unary _ _ h | _, _, .lambda _ _ h => by
    simp only [SameTree, unplaced]
    rw [sameTree h]
  | _, _, .index _ _ h h' | _, _, .binary _ _ h h' | _, _, .assign _ h h' => by
    simp only [SameTree, unplaced]
    rw [sameTree h, sameTree h']
  | _, _, .call _ _ hcallee hargs => by
    simp only [SameTree, unplaced]
    rw [sameTree hcallee, unplacedItems_eq hargs]
  | _, _, .conditional _ ht hc ha => by
    simp only [SameTree, unplaced]
    rw [sameTree ht, sameTree hc, sameTree ha]

theorem unplacedItems_eq : ∀ {es es' : List Expr}, List.Forall₂ (Matches R) es es' →
    unplacedItems es = unplacedItems es'
  | _, _, .nil => rfl
  | _, _, .cons h hs => by rw [unplacedItems, unplacedItems, sameTree h, unplacedItems_eq hs]

theorem unplacedEntries_eq : ∀ {es es' : Fields Expr}, Fields.Related (Matches R) es es' →
    unplacedEntries es = unplacedEntries es'
  | _, _, .nil => rfl
  | _, _, .cons _ h hs => by
    rw [unplacedEntries, unplacedEntries, sameTree h, unplacedEntries_eq hs]

end

mutual

/-- A tree goes together with itself if its places do. -/
theorem refl (hR : ∀ s, R s s) : ∀ e : Expr, e.Matches R e
  | .literal s value => .literal value (hR s)
  | .ident s name => .ident name (hR s)
  | .array s items => .array (hR s) (refl_items hR items)
  | .object s entries => .object (hR s) (refl_entries hR entries)
  | .member s recv property optional => .member property optional (hR s) (refl hR recv)
  | .index s recv key optional => .index optional (hR s) (refl hR recv) (refl hR key)
  | .call s callee args optional => .call optional (hR s) (refl hR callee) (refl_items hR args)
  | .unary s op e => .unary op (hR s) (refl hR e)
  | .binary s op l r => .binary op (hR s) (refl hR l) (refl hR r)
  | .conditional s t c a => .conditional (hR s) (refl hR t) (refl hR c) (refl hR a)
  | .lambda s params body => .lambda params (hR s) (refl hR body)
  | .assign s t v => .assign (hR s) (refl hR t) (refl hR v)

theorem refl_items (hR : ∀ s, R s s) : ∀ es : List Expr, List.Forall₂ (Matches R) es es
  | [] => .nil
  | e :: es => .cons (refl hR e) (refl_items hR es)

theorem refl_entries (hR : ∀ s, R s s) : ∀ es : Fields Expr, Fields.Related (Matches R) es es
  | [] => .nil
  | (key, e) :: es => .cons key (refl hR e) (refl_entries hR es)

end

mutual

/-- Trees at the same places are equal. -/
theorem eq_of_places (hR : ∀ s s', R s s' → s = s') : ∀ {e e' : Expr}, e.Matches R e' → e = e'
  | _, _, .literal _ hs | _, _, .ident _ hs => by rw [hR _ _ hs]
  | _, _, .array hs hitems => by rw [hR _ _ hs, items_eq_of_places hR hitems]
  | _, _, .object hs hentries => by rw [hR _ _ hs, entries_eq_of_places hR hentries]
  | _, _, .member _ _ hs h | _, _, .unary _ hs h | _, _, .lambda _ hs h => by
    rw [hR _ _ hs, eq_of_places hR h]
  | _, _, .index _ hs h h' | _, _, .binary _ hs h h' | _, _, .assign hs h h' => by
    rw [hR _ _ hs, eq_of_places hR h, eq_of_places hR h']
  | _, _, .call _ hs hcallee hargs => by
    rw [hR _ _ hs, eq_of_places hR hcallee, items_eq_of_places hR hargs]
  | _, _, .conditional hs ht hc ha => by
    rw [hR _ _ hs, eq_of_places hR ht, eq_of_places hR hc, eq_of_places hR ha]

theorem items_eq_of_places (hR : ∀ s s', R s s' → s = s') :
    ∀ {es es' : List Expr}, List.Forall₂ (Matches R) es es' → es = es'
  | _, _, .nil => rfl
  | _, _, .cons h hs => by rw [eq_of_places hR h, items_eq_of_places hR hs]

theorem entries_eq_of_places (hR : ∀ s s', R s s' → s = s') :
    ∀ {es es' : Fields Expr}, Fields.Related (Matches R) es es' → es = es'
  | _, _, .nil => rfl
  | _, _, .cons _ h hs => by rw [eq_of_places hR h, entries_eq_of_places hR hs]

end

end Matches

/-! ### Trees whose places are of a kind -/

/-- The spans of all nodes satisfy `P`. -/
def Placed (P : Span → Prop) (e : Expr) : Prop := e.Matches (fun s s' => s = s' ∧ P s) e

theorem placed_true (e : Expr) : e.Placed fun _ => True := .refl (fun _ => ⟨rfl, trivial⟩) e

theorem Placed.span {P : Span → Prop} {e : Expr} (h : e.Placed P) : P e.span :=
  (Matches.span h).2

/-! ### Trees of a text -/

/-- The spans of all nodes satisfy `P`, and the strings that are literals satisfy `T`. -/
inductive Written (P : Span → Prop) (T : String → Prop) : Expr → Prop
  | literal {s : Span} {value : Literal} : P s → (∀ t, value = .string t → T t) →
    Written P T (.literal s value)
  | ident {s : Span} (name : String) : P s → Written P T (.ident s name)
  | array {s : Span} {items : List Expr} : P s → (∀ e ∈ items, Written P T e) →
    Written P T (.array s items)
  | object {s : Span} {entries : Fields Expr} : P s → (∀ f ∈ entries, Written P T f.2) →
    Written P T (.object s entries)
  | member {s : Span} {recv : Expr} (property : String) (optional : Bool) : P s →
    Written P T recv → Written P T (.member s recv property optional)
  | index {s : Span} {recv key : Expr} (optional : Bool) : P s → Written P T recv →
    Written P T key → Written P T (.index s recv key optional)
  | call {s : Span} {callee : Expr} {args : List Expr} (optional : Bool) : P s →
    Written P T callee → (∀ e ∈ args, Written P T e) → Written P T (.call s callee args optional)
  | unary {s : Span} {e : Expr} (op : UnaryOp) : P s → Written P T e →
    Written P T (.unary s op e)
  | binary {s : Span} {l r : Expr} (op : BinaryOp) : P s → Written P T l → Written P T r →
    Written P T (.binary s op l r)
  | conditional {s : Span} {t c a : Expr} : P s → Written P T t → Written P T c →
    Written P T a → Written P T (.conditional s t c a)
  | lambda {s : Span} (params : List String) {body : Expr} : P s → Written P T body →
    Written P T (.lambda s params body)
  | assign {s : Span} {t v : Expr} : P s → Written P T t → Written P T v →
    Written P T (.assign s t v)

namespace Written

variable {P : Span → Prop} {T : String → Prop} {e : Expr}

theorem withSpan (h : e.Written P T) {s : Span} (hs : P s) : (e.withSpan s).Written P T := by
  cases h with
  | literal _ ht => exact .literal hs ht
  | ident name _ => exact .ident name hs
  | array _ hitems => exact .array hs hitems
  | object _ hentries => exact .object hs hentries
  | member property optional _ hrecv => exact .member property optional hs hrecv
  | index optional _ hrecv hkey => exact .index optional hs hrecv hkey
  | call optional _ hcallee hargs => exact .call optional hs hcallee hargs
  | unary op _ he => exact .unary op hs he
  | binary op _ hl hr => exact .binary op hs hl hr
  | conditional _ ht hc ha => exact .conditional hs ht hc ha
  | lambda params _ hbody => exact .lambda params hs hbody
  | assign _ ht hv => exact .assign hs ht hv

theorem placed (h : e.Written P T) : e.Placed P := by
  induction h with
  | literal hs _ => exact .literal _ ⟨rfl, hs⟩
  | ident name hs => exact .ident name ⟨rfl, hs⟩
  | array hs _ ih => exact .array ⟨rfl, hs⟩ (List.forall₂_same.2 ih)
  | object hs _ ih => exact .object ⟨rfl, hs⟩ (.refl ih)
  | member property optional hs _ ih => exact .member property optional ⟨rfl, hs⟩ ih
  | index optional hs _ _ ihrecv ihkey => exact .index optional ⟨rfl, hs⟩ ihrecv ihkey
  | call optional hs _ _ ihcallee ihargs =>
    exact .call optional ⟨rfl, hs⟩ ihcallee (List.forall₂_same.2 ihargs)
  | unary op hs _ ih => exact .unary op ⟨rfl, hs⟩ ih
  | binary op hs _ _ ihl ihr => exact .binary op ⟨rfl, hs⟩ ihl ihr
  | conditional hs _ _ _ iht ihc iha => exact .conditional ⟨rfl, hs⟩ iht ihc iha
  | lambda params hs _ ih => exact .lambda params ⟨rfl, hs⟩ ih
  | assign hs _ _ iht ihv => exact .assign ⟨rfl, hs⟩ iht ihv

end Written

end TemplateExpr.Expr
