import TemplateExpr.Context.Store
import TemplateExpr.Proofs.Value.Equality

/-!
# The scopes of a store

A call for a bag names a scope: the flow, or a node, in one of two ways (`Scope.IsNamedBy`).
Different scopes have different keys (`Scope.key_injective`), whatever the nodes are called, so what
is written through one of them is seen in it and in no other. After any calls a bag holds what has
been written through its scope, there are bags for the scopes that have been named, and a call that
names no scope changes nothing (`access_after_empty`).

Between a call and the next one, the caller may write to the bag what it likes. So an access is a
call together with a function on bags, and it is run in a monad that keeps the store where the call
fails (`Access.program`). Reading a bag and writing one of its fields are accesses (`get_eq_access`,
`set_eq_access`).
-/

namespace TemplateExpr

/-! ### Reading fields that have been written -/

namespace Fields

variable {α : Type}

theorem get?_cons (fs : Fields α) (key k : String) (a : α) :
    get? ((key, a) :: fs) k = if k = key then some a else fs.get? k := by
  rw [get?, List.lookup_cons]
  by_cases h : k = key
  · rw [if_pos h, beq_iff_eq.2 h]
  · rw [if_neg h, beq_false_of_ne h, get?]

theorem get?_append (fs more : Fields α) (k : String) :
    get? (fs ++ more) k = (fs.get? k).or (more.get? k) :=
  List.lookup_append

theorem has_eq_isSome_get? (fs : Fields α) (key : String) : fs.has key = (fs.get? key).isSome := by
  induction fs with
  | nil => rfl
  | cons f fs ih =>
    rw [get?_cons, has, List.any_cons, ← has, ih]
    by_cases h : key = f.1
    · rw [if_pos h, beq_iff_eq.2 h.symm]
      rfl
    · rw [if_neg h, beq_false_of_ne (Ne.symm h), Bool.false_or]

theorem replace_cons (fs : Fields α) (key name : String) (value a : α) :
    replace ((name, a) :: fs) key value =
      (name, if name = key then value else a) :: fs.replace key value := by
  rw [replace, List.map_cons, ← replace]
  by_cases h : name = key
  · simp only [h, beq_self_eq_true, if_true]
  · simp only [h, beq_iff_eq, if_false]

theorem get?_replace (fs : Fields α) (key k : String) (value : α) :
    (fs.replace key value).get? k = (fs.get? k).map fun a => if k = key then value else a := by
  induction fs with
  | nil => rfl
  | cons f fs ih =>
    rw [replace_cons, get?_cons, get?_cons, ih]
    split
    · next h => rw [← h, Option.map_some]
    · rfl

theorem get?_insert (fs : Fields α) (key k : String) (value : α) :
    (fs.insert key value).get? k = if k = key then some value else fs.get? k := by
  rw [insert, has_eq_isSome_get?]
  split
  · next h =>
    rw [get?_replace]
    split_ifs with hk
    · subst hk
      obtain ⟨a, ha⟩ := Option.isSome_iff_exists.1 h
      rw [ha, Option.map_some]
    · rw [Option.map_id']
  · next h =>
    rw [get?_append, get?_cons]
    split_ifs with hk
    · subst hk
      rw [Option.not_isSome_iff_eq_none.1 h, Option.none_or]
    · exact Option.or_none

theorem insertNew_eq (fs : Fields α) (key : String) (value : α) :
    fs.insertNew key value = if fs.has key then fs else fs.insert key value := by
  rw [insertNew, insert]
  split <;> rfl

theorem get?_insertNew (fs : Fields α) (key k : String) (value : α) :
    (fs.insertNew key value).get? k =
      if k = key then some ((fs.get? k).getD value) else fs.get? k := by
  rw [insertNew_eq, has_eq_isSome_get?]
  split
  · next h =>
    split_ifs with hk
    · subst hk
      obtain ⟨a, ha⟩ := Option.isSome_iff_exists.1 h
      rw [ha, Option.getD_some]
    · rfl
  · next h =>
    rw [get?_insert]
    split_ifs with hk
    · subst hk
      rw [Option.not_isSome_iff_eq_none.1 h, Option.getD_none]
    · rfl

/-- Writing what is there changes nothing. -/
theorem insert_of_get? {fs : Fields α} (hfs : fs.Distinct) {key : String} {a : α}
    (h : fs.get? key = some a) : fs.insert key a = fs := by
  rw [insert, has_eq_isSome_get?, h, Option.isSome_some, if_pos rfl, replace]
  refine (List.map_congr_left fun f hf => ?_).trans (List.map_id fs)
  split
  · next hkey =>
    obtain rfl := beq_iff_eq.1 hkey
    rw [Option.some.inj (h.symm.trans (get?_eq_some_of_mem hfs hf)), id]
  · rfl

theorem Distinct.insertNew {fs : Fields α} (hfs : fs.Distinct) (key : String) (value : α) :
    (fs.insertNew key value).Distinct := by
  rw [insertNew_eq]
  split
  · exact hfs
  · exact hfs.insert key value

end Fields

namespace ContextStore

/-! ### Scopes -/

/-- What has a bag of its own. -/
inductive Scope where
  | flow
  | node (name : String)
deriving Repr, DecidableEq

namespace Scope

/-- The key of the bag of a scope. -/
def key : Scope → String
  | flow => "flow"
  | node name => nodeMark ++ name

/-- Whether a call names the scope: a node by its name, or by the key of its bag if its name is not
empty. -/
def IsNamedBy (scope : String) (node? : Option String) : Scope → Prop
  | flow => scope = "flow"
  | node name => scope = "node" ∧ node? = some name ∨ scope = nodeMark ++ name ∧ name ≠ ""

instance (scope : String) (node? : Option String) (σ : Scope) :
    Decidable (σ.IsNamedBy scope node?) :=
  match σ with
  | flow => inferInstanceAs (Decidable (_ = _))
  | node _ => inferInstanceAs (Decidable (_ ∨ _))

/-- The key of a node's bag is no other word. -/
theorem nodeMark_append_ne {name word : String} (h : ¬nodeMark.toList <+: word.toList) :
    nodeMark ++ name ≠ word := by
  rintro rfl
  exact h ⟨name.toList, (String.toList_append ..).symm⟩

/-- Different scopes have different keys. -/
theorem key_injective : Function.Injective key := by
  rintro (_ | name) (_ | name') h
  · rfl
  · exact absurd h.symm (nodeMark_append_ne (by decide))
  · exact absurd h (nodeMark_append_ne (by decide))
  · exact congrArg node ((String.append_right_inj nodeMark).1 h)

end Scope

variable {scope : String} {node? : Option String} {σ τ : Scope}

/-- A call that names a scope is given its key. -/
theorem keyOf_of_isNamedBy (h : σ.IsNamedBy scope node?) : keyOf scope node? = .ok σ.key := by
  cases σ with
  | flow =>
    obtain rfl : scope = "flow" := h
    rfl
  | node name =>
    rcases h with ⟨rfl, rfl⟩ | ⟨rfl, hname⟩
    · rfl
    · -- none of the words that come first in the check is the key of a node
      have hmark : nodeMark ++ name ≠ nodeMark := by
        intro h
        exact hname ((String.append_right_inj nodeMark).1 (h.trans (String.append_empty).symm))
      have hflow : nodeMark ++ name ≠ "flow" := Scope.nodeMark_append_ne (by decide)
      have hnode : nodeMark ++ name ≠ "node" := Scope.nodeMark_append_ne (by decide)
      have hprefix : nodeMark.toList.isPrefixOf (nodeMark ++ name).toList = true := by
        rw [List.isPrefixOf_iff_prefix, String.toList_append]
        exact List.prefix_append _ _
      have hlength : nodeMark.length < (nodeMark ++ name).length := by
        rw [String.length_append]
        exact Nat.lt_add_of_pos_right (Nat.pos_of_ne_zero (mt String.length_eq_zero_iff.1 hname))
      rw [keyOf, if_neg hflow, if_neg fun h => hnode h.1, if_neg fun h => h.1.elim hnode hmark,
        hprefix, decide_eq_true hlength]
      rfl

/-- What is given a key names a scope. -/
theorem exists_isNamedBy {key : String} (h : keyOf scope node? = .ok key) :
    ∃ σ : Scope, σ.IsNamedBy scope node? ∧ key = σ.key := by
  unfold keyOf at h
  split_ifs at h with hflow hnode hmissing hmark
  · exact ⟨.flow, hflow, (Except.ok.inj h).symm⟩
  · obtain ⟨name, rfl⟩ := Option.isSome_iff_exists.1 hnode.2
    exact ⟨.node name, .inl ⟨hnode.1, rfl⟩, (Except.ok.inj h).symm⟩
  · rw [Bool.and_eq_true, List.isPrefixOf_iff_prefix, decide_eq_true_eq] at hmark
    obtain ⟨⟨name, hname⟩, hlength⟩ := hmark
    -- the scope is the key of the node whose name follows the mark
    have hscope : scope = nodeMark ++ String.ofList name := by
      rw [← String.toList_inj, String.toList_append, String.toList_ofList, hname]
    refine ⟨.node (String.ofList name), .inr ⟨hscope, ?_⟩, (Except.ok.inj h).symm.trans hscope⟩
    intro hempty
    rw [hscope, hempty, String.append_empty] at hlength
    exact Nat.lt_irrefl _ hlength

/-! ### Accesses -/

/-- A call for the bag of a scope, and what the caller writes to the bag that it is given. -/
structure Access where
  scope : String
  node? : Option String
  write : Bag → Bag

/-- An access as a program: whatever it does to the store before it fails stays done. -/
def Access.program (a : Access) : ExceptT ContextError (StateM ContextStore) Bag := do
  let key ← MonadExcept.ofExcept (keyOf a.scope a.node?)
  modify fun s => ⟨Fields.insertNew s.bags key []⟩
  let bag := ((← getThe ContextStore).peek? key).getD []
  modify fun s => ⟨Fields.insert s.bags key (a.write bag)⟩
  return bag

/-- The bag that an access is given, or why there is none, and the store behind the access. -/
def access (s : ContextStore) (a : Access) : Except ContextError Bag × ContextStore :=
  a.program.run.run s

/-- The store behind accesses. -/
def after (s : ContextStore) (accesses : List Access) : ContextStore :=
  accesses.foldl (fun s a => (s.access a).2) s

/-- Whether an access is one to a scope. -/
def Access.IsTo (a : Access) (σ : Scope) : Prop := σ.IsNamedBy a.scope a.node?

instance (a : Access) (σ : Scope) : Decidable (a.IsTo σ) :=
  inferInstanceAs (Decidable (σ.IsNamedBy a.scope a.node?))

/-- What becomes of a bag by the accesses to its scope. -/
def written (σ : Scope) (accesses : List Access) (bag : Bag) : Bag :=
  (accesses.filter (·.IsTo σ)).foldl (fun bag a => a.write bag) bag

variable {s : ContextStore} {a : Access} {accesses : List Access} {key : String}

/-- A bag that has just been made is empty. -/
theorem getD_peek?_insertNew (s : ContextStore) (key : String) :
    (peek? ⟨Fields.insertNew s.bags key []⟩ key).getD [] = (s.peek? key).getD [] := by
  rw [peek?, Fields.get?_insertNew, if_pos rfl, Option.getD_some, peek?]

theorem access_of_keyOf_eq_ok (h : keyOf a.scope a.node? = .ok key) :
    s.access a = (.ok ((s.peek? key).getD []),
      ⟨Fields.insert (Fields.insertNew s.bags key []) key
        (a.write ((s.peek? key).getD []))⟩) := by
  rw [← getD_peek?_insertNew, access, Access.program, h]
  rfl

theorem access_of_keyOf_eq_error {e : ContextError} (h : keyOf a.scope a.node? = .error e) :
    s.access a = (.error e, s) := by
  rw [access, Access.program, h]
  rfl

/-! ### Single accesses -/

theorem Access.IsTo.unique (h : a.IsTo σ) (h' : a.IsTo τ) : σ = τ :=
  Scope.key_injective (Except.ok.inj ((keyOf_of_isNamedBy h).symm.trans (keyOf_of_isNamedBy h')))

/-- An access that is to no scope fails and changes nothing. -/
theorem access_of_not_isTo (h : ∀ σ, ¬a.IsTo σ) : ∃ e, s.access a = (.error e, s) := by
  cases hkey : keyOf a.scope a.node? with
  | ok key =>
    obtain ⟨σ, hσ, -⟩ := exists_isNamedBy hkey
    exact absurd hσ (h σ)
  | error e => exact ⟨e, access_of_keyOf_eq_error hkey⟩

/-- An access to a scope is given its bag. -/
theorem access_fst (h : a.IsTo σ) : (s.access a).1 = .ok ((s.peek? σ.key).getD []) := by
  rw [access_of_keyOf_eq_ok (keyOf_of_isNamedBy h)]

/-- An access to a scope writes its bag and touches no other. -/
theorem peek?_access (h : a.IsTo σ) (key : String) :
    (s.access a).2.peek? key =
      if key = σ.key then some (a.write ((s.peek? σ.key).getD [])) else s.peek? key := by
  rw [access_of_keyOf_eq_ok (keyOf_of_isNamedBy h), peek?, Fields.get?_insert]
  split
  · rfl
  · next hkey => rw [Fields.get?_insertNew, if_neg hkey, peek?]

theorem peek?_access_of_not_isTo (h : ¬a.IsTo τ) : (s.access a).2.peek? τ.key = s.peek? τ.key := by
  by_cases hscope : ∃ σ, a.IsTo σ
  · obtain ⟨σ, hσ⟩ := hscope
    have hne : τ ≠ σ := fun heq => h (heq ▸ hσ)
    rw [peek?_access hσ, if_neg (Scope.key_injective.ne hne)]
  · obtain ⟨e, he⟩ := access_of_not_isTo (s := s) (not_exists.1 hscope)
    rw [he]

theorem mem_scopes_iff : key ∈ s.scopes ↔ (s.peek? key).isSome = true := by
  rw [scopes, ← Fields.has_iff, Fields.has_eq_isSome_get?, peek?]

/-- An access to a scope makes its bag, and no other. -/
theorem mem_scopes_access :
    key ∈ (s.access a).2.scopes ↔ key ∈ s.scopes ∨ ∃ σ, a.IsTo σ ∧ key = σ.key := by
  by_cases hscope : ∃ σ, a.IsTo σ
  · obtain ⟨σ, hσ⟩ := hscope
    rw [mem_scopes_iff, mem_scopes_iff, peek?_access hσ]
    split
    · next hkey => exact ⟨fun _ => .inr ⟨σ, hσ, hkey⟩, fun _ => rfl⟩
    · next hkey =>
      -- the access is to no scope but this one
      refine ⟨.inl, fun h => h.resolve_right ?_⟩
      rintro ⟨τ, hτ, rfl⟩
      exact hkey (congrArg Scope.key (hτ.unique hσ))
  · obtain ⟨e, he⟩ := access_of_not_isTo (s := s) (not_exists.1 hscope)
    rw [he]
    exact ⟨.inl, fun h => h.resolve_right fun ⟨σ, hσ, _⟩ => hscope ⟨σ, hσ⟩⟩

theorem distinct_access (hs : Fields.Distinct s.bags) (a : Access) :
    Fields.Distinct (s.access a).2.bags := by
  cases h : keyOf a.scope a.node? with
  | ok key =>
    rw [access_of_keyOf_eq_ok h]
    exact (hs.insertNew key []).insert key _
  | error e => rwa [access_of_keyOf_eq_error h]

/-- Reading a bag is an access that writes nothing. -/
theorem get_eq_access (hs : Fields.Distinct s.bags) (scope : String) (node? : Option String) :
    s.get scope node? = (s.access ⟨scope, node?, id⟩).1.map fun bag =>
      (bag, (s.access ⟨scope, node?, id⟩).2) := by
  rw [get, opened]
  cases h : keyOf scope node? with
  | ok key =>
    have hbag : Fields.get? (Fields.insertNew s.bags key []) key =
        some ((s.peek? key).getD []) := by
      rw [Fields.get?_insertNew, if_pos rfl, peek?]
    rw [access_of_keyOf_eq_ok (a := ⟨scope, node?, id⟩) h]
    dsimp only [Except.map, id]
    -- what is written back is what has been read
    rw [Fields.insert_of_get? (hs.insertNew key []) hbag, getD_peek?_insertNew]
  | error e =>
    rw [access_of_keyOf_eq_error (a := ⟨scope, node?, id⟩) h]
    rfl

/-- Writing a field is an access that writes it. -/
theorem set_eq_access (s : ContextStore) (scope : String) (node? : Option String) (field : String)
    (value : Json) :
    s.set scope node? field value =
      (s.access ⟨scope, node?, fun bag => Fields.insert bag field value⟩).1.map fun bag =>
        (Fields.insert bag field value,
          (s.access ⟨scope, node?, fun bag => Fields.insert bag field value⟩).2) := by
  rw [set, opened]
  cases h : keyOf scope node? with
  | ok key =>
    rw [access_of_keyOf_eq_ok (a := ⟨scope, node?, _⟩) h]
    dsimp only [Except.map]
    rw [getD_peek?_insertNew]
  | error e =>
    rw [access_of_keyOf_eq_error (a := ⟨scope, node?, _⟩) h]
    rfl

/-! ### Sequences of accesses -/

theorem written_cons (σ : Scope) (a : Access) (accesses : List Access) (bag : Bag) :
    written σ (a :: accesses) bag =
      written σ accesses (if a.IsTo σ then a.write bag else bag) := by
  rw [written, List.filter_cons]
  by_cases h : a.IsTo σ
  · rw [if_pos (decide_eq_true h), if_pos h]
    rfl
  · rw [if_neg (by rwa [decide_eq_true_eq]), if_neg h]
    rfl

/-- The bag of a scope holds what the accesses to the scope have written. -/
theorem getD_peek?_after (s : ContextStore) (accesses : List Access) (σ : Scope) :
    ((s.after accesses).peek? σ.key).getD [] = written σ accesses ((s.peek? σ.key).getD []) := by
  -- by the first access: it writes the bag of its scope and leaves this one alone otherwise
  induction accesses generalizing s with
  | nil => rfl
  | cons a accesses ih =>
    rw [after, List.foldl_cons, ← after, ih, written_cons]
    split
    · next h => rw [peek?_access h, if_pos rfl, Option.getD_some]
    · next h => rw [peek?_access_of_not_isTo h]

theorem mem_scopes_after :
    key ∈ (s.after accesses).scopes ↔
      key ∈ s.scopes ∨ ∃ a ∈ accesses, ∃ σ, a.IsTo σ ∧ key = σ.key := by
  induction accesses generalizing s with
  | nil => simp [after]
  | cons a accesses ih =>
    rw [after, List.foldl_cons, ← after, ih, mem_scopes_access, or_assoc]
    simp only [List.mem_cons, exists_eq_or_imp]

theorem distinct_after (hs : Fields.Distinct s.bags) (accesses : List Access) :
    Fields.Distinct (s.after accesses).bags := by
  induction accesses generalizing s with
  | nil => exact hs
  | cons a accesses ih => exact ih (distinct_access hs a)

/-- After any accesses, an access to a scope is given what has been written to this scope before,
in whichever way it was named, and leaves the bags of the other scopes alone. There are bags for the
scopes that have been named, and an access that fails, because it names no scope, changes nothing.
Reading a bag and writing a field are accesses. -/
theorem access_after_empty (accesses : List Access) :
    let s := empty.after accesses
    (∀ a σ, a.IsTo σ → (s.access a).1 = .ok (written σ accesses []) ∧
      ∀ τ, τ ≠ σ → (s.access a).2.peek? τ.key = s.peek? τ.key) ∧
    (∀ key, key ∈ s.scopes ↔ ∃ a ∈ accesses, ∃ σ, a.IsTo σ ∧ key = σ.key) ∧
    (∀ a e, (s.access a).1 = .error e → (∀ σ, ¬a.IsTo σ) ∧ (s.access a).2 = s) ∧
    ∀ scope node?,
      (s.get scope node? = (s.access ⟨scope, node?, id⟩).1.map fun bag =>
        (bag, (s.access ⟨scope, node?, id⟩).2)) ∧
      ∀ field value, s.set scope node? field value =
        (s.access ⟨scope, node?, fun bag => Fields.insert bag field value⟩).1.map fun bag =>
          (Fields.insert bag field value,
            (s.access ⟨scope, node?, fun bag => Fields.insert bag field value⟩).2) := by
  intro s
  refine ⟨fun a σ h => ⟨?_, fun τ hτ => ?_⟩, fun key => ?_, fun a e he => ?_, fun scope node? =>
    ⟨?_, s.set_eq_access scope node?⟩⟩
  · rw [access_fst h, getD_peek?_after]
    rfl
  · exact peek?_access_of_not_isTo fun h' => hτ (h'.unique h)
  · rw [mem_scopes_after]
    exact or_iff_right (List.not_mem_nil)
  · have hscope : ∀ σ, ¬a.IsTo σ := fun σ hσ => by
      rw [access_fst hσ] at he
      cases he
    obtain ⟨e, hsame⟩ := access_of_not_isTo (s := s) hscope
    exact ⟨hscope, congrArg Prod.snd hsame⟩
  · exact get_eq_access (distinct_after (s := empty) List.nodup_nil accesses) scope node?

/-- A node whose name has a colon is read through its key after a node called `flow` and the node
itself have been written, and a call without a node fails. -/
theorem access_after_empty_colon :
    Access.IsTo ⟨"node:a:b", some "flow", id⟩ (.node "a:b") ∧
    (access (empty.after [⟨"node", some "a:b", fun bag => Fields.insert bag "x" .null⟩,
        ⟨"node", some "flow", fun bag => Fields.insert bag "y" .null⟩])
      ⟨"node:a:b", some "flow", id⟩).1 = .ok [("x", .null)] ∧
    (access (empty.after [⟨"flow", none, id⟩]) ⟨"node", none, id⟩).1 = .error .missingNode ∧
    (access (empty.after [⟨"flow", none, id⟩]) ⟨"node", none, id⟩).2 =
      empty.after [⟨"flow", none, id⟩] :=
  ⟨by decide, ((access_after_empty _).1 _ (.node "a:b") (by decide)).1, rfl,
    ((access_after_empty _).2.2.1 ⟨"node", none, id⟩ .missingNode rfl).2⟩

end ContextStore

end TemplateExpr
