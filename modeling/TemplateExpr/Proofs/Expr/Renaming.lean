import TemplateExpr.Proofs.Expr.Node
import TemplateExpr.Proofs.Fields
import TemplateExpr.Value.Basic

/-!
# Renaming a parameter

`Expr.rename ρ` gives a parameter of an arrow function another name, in the list of parameters and
wherever it is meant in the body. `Expr.Renamed` compares two expressions name by name: where the
names of the first list are bound around the first one and those of the second list around the
second one, both refer to the same binder. It is stable under going into functions, and so a renamed
expression is compared with the original one (`renamed_rename`), if the new name does not occur in
it.
-/

namespace TemplateExpr

/-- A parameter of an arrow function, which is given by its parameters and its body, and the name
that it is to have. -/
structure Renaming where
  params : List String
  body : Expr
  old : String
  new : String
  old_mem : old ∈ params

namespace Renaming

variable (ρ : Renaming)

/-- Whether an arrow function is the one whose parameter is renamed. -/
def renames (params : List String) (body : Expr) : Bool :=
  Value.sameFunction params body ρ.params ρ.body

/-- What a name is turned into where `old` is the renamed parameter, or else is something other. -/
def apply (bound : Bool) (n : String) : String := if bound && n == ρ.old then ρ.new else n

/-- The parameters that an arrow function has afterwards. -/
def paramsOf (params : List String) (body : Expr) : List String :=
  if ρ.renames params body then params.map (ρ.apply true) else params

/-- Whether `old` is the renamed parameter in the body of an arrow function: the function may have
another parameter of that name. -/
def bindsIn (bound : Bool) (params : List String) (body : Expr) : Bool :=
  ρ.renames params body || (bound && !params.contains ρ.old)

end Renaming

namespace Expr

mutual

/-- The expression with the parameter renamed; `bound` is whether it lies in the body of the
function, where no other parameter has taken the name. -/
def rename (ρ : Renaming) (bound : Bool) : Expr → Expr
  | literal s value => literal s value
  | ident s name => ident s (ρ.apply bound name)
  | array s items => array s (renameItems ρ bound items)
  | object s entries => object s (renameEntries ρ bound entries)
  | member s recv property optional => member s (recv.rename ρ bound) property optional
  | index s recv key optional => index s (recv.rename ρ bound) (key.rename ρ bound) optional
  | call s callee args optional =>
    call s (callee.rename ρ bound) (renameItems ρ bound args) optional
  | unary s op operand => unary s op (operand.rename ρ bound)
  | binary s op left right => binary s op (left.rename ρ bound) (right.rename ρ bound)
  | conditional s test consequent alternate =>
    conditional s (test.rename ρ bound) (consequent.rename ρ bound) (alternate.rename ρ bound)
  | lambda s params body =>
    lambda s (ρ.paramsOf params body) (body.rename ρ (ρ.bindsIn bound params body))
  | assign s target value => assign s (target.rename ρ bound) (value.rename ρ bound)

/-- `rename` for a list of expressions. -/
def renameItems (ρ : Renaming) (bound : Bool) : List Expr → List Expr
  | [] => []
  | e :: es => e.rename ρ bound :: renameItems ρ bound es

/-- `rename` for the values of entries. -/
def renameEntries (ρ : Renaming) (bound : Bool) : List (String × Expr) → List (String × Expr)
  | [] => []
  | (key, e) :: es => (key, e.rename ρ bound) :: renameEntries ρ bound es

end

theorem renameItems_eq_map (ρ : Renaming) (bound : Bool) (es : List Expr) :
    renameItems ρ bound es = es.map (rename ρ bound) := by
  induction es with
  | nil => rfl
  | cons e es ih => rw [renameItems, ih, List.map_cons]

theorem renameEntries_eq_map (ρ : Renaming) (bound : Bool) (entries : List (String × Expr)) :
    renameEntries ρ bound entries = entries.map fun x => (x.1, x.2.rename ρ bound) := by
  induction entries with
  | nil => rfl
  | cons x entries ih => rw [renameEntries, ih, List.map_cons]

/-- In nodes that are neither names nor functions, only the expressions below them are changed. -/
theorem rename_eq_mapParts {ρ : Renaming} {bound : Bool} {e : Expr} (hname : e.ownNames = [])
    (hfunction : e.function? = none) : e.rename ρ bound = e.mapParts (rename ρ bound) := by
  cases e with
  | ident s n => cases hname
  | lambda s params body => cases hfunction
  | _ => simp only [rename, mapParts, renameItems_eq_map, renameEntries_eq_map]

end Expr

/-! ### Names that stand for the same -/

/-- The name `n'` is `n`, or the new name for it, and both are bound at the same place of the lists
of names around them. Names that are not bound are not changed. -/
structure Renaming.Names (ρ : Renaming) (ns ns' : List String) (n n' : String) : Prop where
  apply : ∃ bound, n' = ρ.apply bound n
  binder : ns.idxOf? n = ns'.idxOf? n'
  free : ns.idxOf? n = none → n' = n

namespace Renaming

variable {ρ : Renaming} {ns ns' : List String} {n n' : String} {bound : Bool}

theorem apply_of_ne (h : n ≠ ρ.old) : ρ.apply bound n = n := by
  rw [apply, beq_false_of_ne h, Bool.and_false, if_neg Bool.false_ne_true]

theorem apply_false (n : String) : ρ.apply false n = n := rfl

/-- Names other than the new one stay different. -/
theorem eq_of_apply {m : String} (hm : m ≠ ρ.new) (hn : n ≠ ρ.new)
    (h : ρ.apply bound m = ρ.apply bound n) : m = n := by
  unfold apply at h
  split at h <;> split at h
  · next hm hn =>
    rw [Bool.and_eq_true, beq_iff_eq] at hm hn
    rw [hm.2, hn.2]
  · exact absurd h.symm hn
  · exact absurd h hm
  · exact h

theorem Names.refl (ns : List String) (n : String) : ρ.Names ns ns n n :=
  ⟨⟨false, rfl⟩, rfl, fun _ => rfl⟩

/-- The names of parameters are bound in front of those around the function. -/
theorem idxOf?_bind {params : List String} {σ : String → String}
    (hσ : ∀ m ∈ params, σ m = σ n → m = n)
    (h : n ∉ params → ns.idxOf? n = ns'.idxOf? (σ n)) :
    (params.reverse ++ ns).idxOf? n = ((params.map σ).reverse ++ ns').idxOf? (σ n) := by
  induction params generalizing ns ns' with
  | nil => exact h List.not_mem_nil
  | cons p params ih =>
    rw [List.forall_mem_cons] at hσ
    rw [List.map_cons, List.reverse_cons, List.reverse_cons, List.append_assoc, List.append_assoc]
    refine ih hσ.2 fun hn => ?_
    rw [List.singleton_append, List.singleton_append, List.idxOf?_cons, List.idxOf?_cons]
    by_cases hp : p = n
    · simp only [hp, beq_self_eq_true, if_true]
    · have hσp : σ p ≠ σ n := fun he => hp (hσ.1 he)
      simp only [beq_false_of_ne hp, beq_false_of_ne hσp, Bool.false_eq_true, if_false]
      rw [h (by simp [Ne.symm hp, hn])]

/-- What names stand for in the body of a function, if those that are no parameters of it stand for
the same around it. -/
theorem Names.bind {params : List String} (hnew : ρ.new ∉ params) (hn : n ≠ ρ.new)
    (h : n ∉ params → ρ.Names ns ns' n (ρ.apply bound n)) :
    ρ.Names (params.reverse ++ ns) ((params.map (ρ.apply bound)).reverse ++ ns') n
      (ρ.apply bound n) where
  apply := ⟨bound, rfl⟩
  binder := by
    refine idxOf?_bind (fun m hm he => ?_) fun hparams => (h hparams).binder
    exact eq_of_apply (fun hm' => hnew (hm' ▸ hm)) hn he
  free hfree := by
    rw [List.idxOf?_eq_none_iff, List.mem_append, List.mem_reverse, not_or] at hfree
    exact (h hfree.1).free (List.idxOf?_eq_none_iff.2 hfree.2)

theorem params_eq_of_renames {params : List String} {body : Expr}
    (h : ρ.renames params body = true) : params = ρ.params ∧ body.span = ρ.body.span := by
  rw [renames, Value.sameFunction, Bool.and_eq_true, beq_iff_eq, beq_iff_eq] at h
  exact h

theorem paramsOf_eq_self {params : List String} {body : Expr} (h : body.span ≠ ρ.body.span) :
    ρ.paramsOf params body = params :=
  if_neg fun hrenames => h (params_eq_of_renames hrenames).2

theorem new_mem_paramsOf {params : List String} {body : Expr} (h : ρ.renames params body = true) :
    ρ.new ∈ ρ.paramsOf params body := by
  rw [paramsOf, if_pos h, (params_eq_of_renames h).1]
  refine List.mem_map.2 ⟨ρ.old, ρ.old_mem, ?_⟩
  rw [apply, Bool.true_and, beq_self_eq_true, if_pos rfl]

/-- Functions at one place whose parameters are not called `new` yet have the same parameters
afterwards if they had the same ones before. -/
theorem paramsOf_eq_iff {params params' : List String} {body body' : Expr}
    (hspan : body.span = body'.span) (hnew : body.span = ρ.body.span → ρ.new ∉ params)
    (hnew' : body'.span = ρ.body.span → ρ.new ∉ params') :
    ρ.paramsOf params body = ρ.paramsOf params' body' ↔ params = params' := by
  constructor
  · intro h
    cases hr : ρ.renames params body <;> cases hr' : ρ.renames params' body'
    · rw [paramsOf, paramsOf, hr, hr'] at h
      exact h
    · have hmem := h ▸ new_mem_paramsOf hr'
      rw [paramsOf, hr] at hmem
      exact absurd hmem (hnew (hspan.trans (params_eq_of_renames hr').2))
    · have hmem := h ▸ new_mem_paramsOf hr
      rw [paramsOf, hr'] at hmem
      exact absurd hmem (hnew' (hspan.symm.trans (params_eq_of_renames hr).2))
    · rw [(params_eq_of_renames hr).1, (params_eq_of_renames hr').1]
  · rintro rfl
    rw [paramsOf, paramsOf, renames, renames, Value.sameFunction, Value.sameFunction, hspan]

/-- The parameters are turned like the names in the body. -/
theorem paramsOf_eq_map (bound : Bool) (params : List String) (body : Expr) :
    ρ.paramsOf params body = params.map (ρ.apply (ρ.bindsIn bound params body)) := by
  unfold paramsOf bindsIn
  cases ρ.renames params body with
  | true => rw [if_pos rfl, Bool.true_or]
  | false =>
    rw [if_neg Bool.false_ne_true, Bool.false_or]
    -- if one of the parameters is called `old`, none of them is turned
    have hmap : ∀ n ∈ params, ρ.apply (bound && !params.contains ρ.old) n = id n := by
      intro n hn
      by_cases hold : n = ρ.old
      · rw [List.contains_iff_mem.2 (hold ▸ hn), Bool.not_true, Bool.and_false, apply_false, id]
      · exact apply_of_ne hold
    rw [List.map_congr_left hmap, List.map_id]

theorem length_paramsOf (params : List String) (body : Expr) :
    (ρ.paramsOf params body).length = params.length := by
  rw [paramsOf_eq_map true, List.length_map]

/-- Going into a function does not change what is meant by names that are no parameters of it. -/
theorem apply_bindsIn {params : List String} {body : Expr} (hn : n ∉ params) :
    ρ.apply (ρ.bindsIn bound params body) n = ρ.apply bound n := by
  by_cases hold : n = ρ.old
  · subst hold
    have hrenames : ρ.renames params body = false := by
      rw [Bool.eq_false_iff]
      intro h
      exact hn ((params_eq_of_renames h).1 ▸ ρ.old_mem)
    rw [bindsIn, hrenames, Bool.false_or, List.contains_eq_mem, decide_eq_false hn, Bool.not_false,
      Bool.and_true]
  · rw [apply_of_ne hold, apply_of_ne hold]

end Renaming

/-! ### Renamed expressions -/

namespace Expr

mutual

/-- The second expression is the first one with names of parameters changed: every name in it refers
to the same binder, if the names in the lists are bound around the expressions, innermost first. -/
inductive Renamed (ρ : Renaming) : List String → List String → Expr → Expr → Prop
  | literal {ns ns' : List String} (s : Span) (value : Literal) :
    Renamed ρ ns ns' (.literal s value) (.literal s value)
  | ident {ns ns' : List String} {n n' : String} (s : Span) :
    ρ.Names ns ns' n n' → Renamed ρ ns ns' (.ident s n) (.ident s n')
  | array {ns ns' : List String} {items items' : List Expr} (s : Span) :
    RenamedItems ρ ns ns' items items' → Renamed ρ ns ns' (.array s items) (.array s items')
  | object {ns ns' : List String} {entries entries' : Fields Expr} (s : Span) :
    RenamedEntries ρ ns ns' entries entries' →
    Renamed ρ ns ns' (.object s entries) (.object s entries')
  | member {ns ns' : List String} {recv recv' : Expr} (s : Span) (property : String)
      (optional : Bool) : Renamed ρ ns ns' recv recv' →
    Renamed ρ ns ns' (.member s recv property optional) (.member s recv' property optional)
  | index {ns ns' : List String} {recv recv' key key' : Expr} (s : Span) (optional : Bool) :
    Renamed ρ ns ns' recv recv' → Renamed ρ ns ns' key key' →
    Renamed ρ ns ns' (.index s recv key optional) (.index s recv' key' optional)
  | call {ns ns' : List String} {callee callee' : Expr} {args args' : List Expr} (s : Span)
      (optional : Bool) : Renamed ρ ns ns' callee callee' → RenamedItems ρ ns ns' args args' →
    Renamed ρ ns ns' (.call s callee args optional) (.call s callee' args' optional)
  | unary {ns ns' : List String} {e e' : Expr} (s : Span) (op : UnaryOp) :
    Renamed ρ ns ns' e e' → Renamed ρ ns ns' (.unary s op e) (.unary s op e')
  | binary {ns ns' : List String} {l l' r r' : Expr} (s : Span) (op : BinaryOp) :
    Renamed ρ ns ns' l l' → Renamed ρ ns ns' r r' →
    Renamed ρ ns ns' (.binary s op l r) (.binary s op l' r')
  | conditional {ns ns' : List String} {t t' c c' a a' : Expr} (s : Span) :
    Renamed ρ ns ns' t t' → Renamed ρ ns ns' c c' → Renamed ρ ns ns' a a' →
    Renamed ρ ns ns' (.conditional s t c a) (.conditional s t' c' a')
  | lambda {ns ns' params : List String} {body body' : Expr} (s : Span) :
    (body.span = ρ.body.span → ρ.new ∉ params) →
    Renamed ρ (params.reverse ++ ns) ((ρ.paramsOf params body).reverse ++ ns') body body' →
    Renamed ρ ns ns' (.lambda s params body) (.lambda s (ρ.paramsOf params body) body')
  | assign {ns ns' : List String} {t t' v v' : Expr} (s : Span) :
    Renamed ρ ns ns' t t' → Renamed ρ ns ns' v v' →
    Renamed ρ ns ns' (.assign s t v) (.assign s t' v')

/-- `Renamed` for lists of expressions. -/
inductive RenamedItems (ρ : Renaming) : List String → List String → List Expr → List Expr → Prop
  | nil {ns ns' : List String} : RenamedItems ρ ns ns' [] []
  | cons {ns ns' : List String} {e e' : Expr} {es es' : List Expr} :
    Renamed ρ ns ns' e e' → RenamedItems ρ ns ns' es es' →
    RenamedItems ρ ns ns' (e :: es) (e' :: es')

/-- `Renamed` for the values of entries. -/
inductive RenamedEntries (ρ : Renaming) :
    List String → List String → Fields Expr → Fields Expr → Prop
  | nil {ns ns' : List String} : RenamedEntries ρ ns ns' [] []
  | cons {ns ns' : List String} {e e' : Expr} {es es' : Fields Expr} (key : String) :
    Renamed ρ ns ns' e e' → RenamedEntries ρ ns ns' es es' →
    RenamedEntries ρ ns ns' ((key, e) :: es) ((key, e') :: es')

end

variable {ρ : Renaming} {ns ns' : List String} {e e' : Expr}

theorem RenamedItems.forall₂ : ∀ {es es' : List Expr}, RenamedItems ρ ns ns' es es' →
    List.Forall₂ (Renamed ρ ns ns') es es'
  | _, _, .nil => .nil
  | _, _, .cons h hs => .cons h hs.forall₂

theorem RenamedItems.of_map {f : Expr → Expr} {es : List Expr}
    (h : ∀ e ∈ es, Renamed ρ ns ns' e (f e)) : RenamedItems ρ ns ns' es (es.map f) := by
  induction es with
  | nil => exact .nil
  | cons e es ih =>
    rw [List.forall_mem_cons] at h
    exact .cons h.1 (ih h.2)

theorem RenamedEntries.related : ∀ {entries entries' : Fields Expr},
    RenamedEntries ρ ns ns' entries entries' →
    Fields.Related (Renamed ρ ns ns') entries entries'
  | _, _, .nil => .nil
  | _, _, .cons key h hs => .cons key h hs.related

theorem RenamedEntries.of_map {f : Expr → Expr} {entries : Fields Expr}
    (h : ∀ e ∈ entries.map Prod.snd, Renamed ρ ns ns' e (f e)) :
    RenamedEntries ρ ns ns' entries (entries.map fun x => (x.1, f x.2)) := by
  induction entries with
  | nil => exact .nil
  | cons x entries ih =>
    rw [List.map_cons, List.forall_mem_cons] at h
    exact .cons x.1 h.1 (ih h.2)

namespace Renamed

theorem span_eq (h : Renamed ρ ns ns' e e') : e.span = e'.span := by
  cases h <;> rfl

theorem literalKey?_eq (h : Renamed ρ ns ns' e e') : e.literalKey? = e'.literalKey? := by
  cases h <;> rfl

end Renamed

/-- Nodes that are neither names nor functions are compared if the expressions right below them are.
-/
theorem renamed_mapParts {f : Expr → Expr} (hname : e.ownNames = [])
    (hfunction : e.function? = none) (hpart : ∀ x ∈ e.parts, Renamed ρ ns ns' x (f x)) :
    Renamed ρ ns ns' e (e.mapParts f) := by
  cases e with
  | literal s value => exact .literal s value
  | ident s n => cases hname
  | array s items => exact .array s (.of_map hpart)
  | object s entries => exact .object s (.of_map hpart)
  | member s recv property optional =>
    exact .member s property optional (hpart recv List.mem_cons_self)
  | index s recv key optional =>
    rw [parts, List.forall_mem_cons, List.forall_mem_singleton] at hpart
    exact .index s optional hpart.1 hpart.2
  | call s callee args optional =>
    rw [parts, List.forall_mem_cons] at hpart
    exact .call s optional hpart.1 (.of_map hpart.2)
  | unary s op operand => exact .unary s op (hpart operand List.mem_cons_self)
  | binary s op left right =>
    rw [parts, List.forall_mem_cons, List.forall_mem_singleton] at hpart
    exact .binary s op hpart.1 hpart.2
  | conditional s test consequent alternate =>
    rw [parts, List.forall_mem_cons, List.forall_mem_cons, List.forall_mem_singleton] at hpart
    exact .conditional s hpart.1 hpart.2.1 hpart.2.2
  | lambda s params body => cases hfunction
  | assign s target value =>
    rw [parts, List.forall_mem_cons, List.forall_mem_singleton] at hpart
    exact .assign s hpart.1 hpart.2

/-- An expression is compared with itself, if no function in it stands where the renamed one does.
-/
theorem renamed_refl (h : ∀ f ∈ e.functions, f.2.span ≠ ρ.body.span) (ns : List String) :
    Renamed ρ ns ns e e := by
  induction e using parts_induction generalizing ns with
  | _ e ih =>
  have hpart (ns : List String) : ∀ e' ∈ e.parts, Renamed ρ ns ns e' e' := fun e' he' =>
    ih e' he' (fun f hf => h f (functions_subset_of_mem_parts he' hf)) ns
  have hnode (hname : e.ownNames = []) (hfunction : e.function? = none) : Renamed ρ ns ns e e := by
    have hsame := renamed_mapParts (f := id) hname hfunction (hpart ns)
    rwa [mapParts_id] at hsame
  cases e with
  | ident s n => exact .ident s (.refl ns n)
  | lambda s params body =>
    have hspan : body.span ≠ ρ.body.span := h (params, body) (by simp [functions_lambda])
    have hlambda :
        Renamed ρ ns ns (.lambda s params body) (.lambda s (ρ.paramsOf params body) body) := by
      refine .lambda s (fun he => absurd he hspan) ?_
      rw [ρ.paramsOf_eq_self hspan]
      exact hpart _ body List.mem_cons_self
    rwa [ρ.paramsOf_eq_self hspan] at hlambda
  | _ => exact hnode rfl rfl

/-- The renamed expression is compared with the original one, if the new name does not occur in it,
and all other names mean the same around it. -/
theorem renamed_rename {bound : Bool} (hnew : ρ.new ∉ e.names)
    (hnames : ∀ n, n ≠ ρ.new → ρ.Names ns ns' n (ρ.apply bound n)) :
    Renamed ρ ns ns' e (e.rename ρ bound) := by
  induction e using parts_induction generalizing ns ns' bound with
  | _ e ih =>
  have hfresh : ∀ e' ∈ e.parts, ρ.new ∉ e'.names := fun e' he' hn =>
    hnew (names_subset_of_mem_parts he' hn)
  have hnode (hname : e.ownNames = []) (hfunction : e.function? = none) :
      Renamed ρ ns ns' e (e.rename ρ bound) := by
    rw [rename_eq_mapParts hname hfunction]
    exact renamed_mapParts hname hfunction fun e' he' => ih e' he' (hfresh e' he') hnames
  replace hnew : ρ.new ∉ e.ownNames := fun hn => hnew (e.ownNames_subset hn)
  cases e with
  | ident s n => exact .ident s (hnames n fun hn => hnew (hn ▸ List.mem_singleton_self n))
  | lambda s params body =>
    have hbody : body ∈ (lambda s params body).parts := List.mem_cons_self
    refine .lambda s (fun _ => hnew) (ih body hbody (hfresh body hbody) fun n hn => ?_)
    rw [Renaming.paramsOf_eq_map bound]
    refine .bind hnew hn fun hparams => ?_
    rw [Renaming.apply_bindsIn hparams]
    exact hnames n hn
  | _ => exact hnode rfl rfl

end Expr

end TemplateExpr
