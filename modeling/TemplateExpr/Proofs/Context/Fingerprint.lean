import TemplateExpr.Proofs.Lineage.RunData
import TemplateExpr.Proofs.Value.Marks

/-!
# What the full fingerprint tells

The full fingerprint of a context that is read from JSON tells its items, nodes, variables and
inputs, the doubles of its two indices, the current node and the data of the run
(`fullFingerprint_inj`). It does not tell the graph of the workflow.
-/

namespace TemplateExpr

namespace Context

/-- The values of a context are told by their marks, and its run by its text. -/
structure IsTold (c : Context) : Prop where
  json : c.json.IsTold
  nodes : ∀ node ∈ c.nodes, node.2.IsTold
  input : ∀ item ∈ c.input, item.IsTold
  runData : ∀ l ∈ c.lineage, l.runData.IsFinite

/-! ### Marks one after the other -/

/-- The marks of a value start with its kind. -/
theorem exists_marks_eq_kind {v : Value} (h : v.IsTold) :
    ∃ k rest, v.marks = .kind k :: rest := by
  cases v with
  | host _ => simp [Value.IsTold] at h
  | _ => exact ⟨_, _, by rw [Value.marks]; rfl⟩

theorem marks_append_ne_text {v : Value} (h : v.IsTold) (rest rest' : Fingerprint) (s : String) :
    v.marks ++ rest ≠ .text s :: rest' := by
  obtain ⟨k, more, hmarks⟩ := exists_marks_eq_kind h
  rw [hmarks]
  exact fun heq => nomatch (List.cons.inj heq).1

/-- What follows values: nothing, or a text. -/
def IsTail (rest : Fingerprint) : Prop := rest = [] ∨ ∃ s rest', rest = .text s :: rest'

theorem marks_append_ne_tail {v : Value} (h : v.IsTold) (rest : Fingerprint) {tail : Fingerprint}
    (ht : IsTail tail) : v.marks ++ rest ≠ tail := by
  rcases ht with rfl | ⟨s, rest', rfl⟩
  · obtain ⟨k, more, hmarks⟩ := exists_marks_eq_kind h
    rw [hmarks]
    exact List.cons_ne_nil _ _
  · exact marks_append_ne_text h _ _ s

/-- The marks of values tell the values and where they end. -/
theorem flatMap_marks_append_inj {vs ws : List Value} (hvs : ∀ v ∈ vs, v.IsTold)
    (hws : ∀ w ∈ ws, w.IsTold) {tail tail' : Fingerprint} (ht : IsTail tail) (ht' : IsTail tail')
    (h : vs.flatMap Value.marks ++ tail = ws.flatMap Value.marks ++ tail') :
    vs = ws ∧ tail = tail' := by
  induction vs generalizing ws with
  | nil =>
    cases ws with
    | nil => exact ⟨rfl, h⟩
    | cons w ws =>
      rw [List.flatMap_cons, List.append_assoc] at h
      exact absurd h.symm (marks_append_ne_tail (hws w List.mem_cons_self) _ ht)
  | cons v vs ih =>
    rw [List.forall_mem_cons] at hvs
    cases ws with
    | nil =>
      rw [List.flatMap_cons, List.append_assoc] at h
      exact absurd h (marks_append_ne_tail hvs.1 _ ht')
    | cons w ws =>
      rw [List.forall_mem_cons] at hws
      rw [List.flatMap_cons, List.flatMap_cons, List.append_assoc, List.append_assoc] at h
      obtain ⟨rfl, hrest⟩ := Value.marks_append_inj hvs.1 hws.1 h
      obtain ⟨rfl, htail⟩ := ih hvs.2 hws.2 hrest
      exact ⟨rfl, htail⟩

/-- The marks behind those of the nodes. -/
def environmentMarks (env : Environment) (values : Fingerprint) : Fingerprint :=
  .text "$env" :: (env.toValue.marks ++ .text "$input" :: values)

/-- Nodes with the names of what follows them do not look like it: at least two values follow the
name of the input, and only one the name of a node. -/
theorem environmentMarks_ne_nodes {env env' : Environment} {nodes : List (String × Value)}
    (hnodes : ∀ node ∈ nodes, node.2.IsTold) (hne : nodes ≠ []) {v w : Value} (hv : v.IsTold)
    (hw : w.IsTold) (rest values : Fingerprint) :
    environmentMarks env (v.marks ++ (w.marks ++ rest)) ≠
      nodes.flatMap nodeMarks ++ environmentMarks env' values := by
  intro h
  obtain ⟨⟨name, item⟩, nodes, rfl⟩ := List.exists_cons_of_ne_nil hne
  rw [List.forall_mem_cons] at hnodes
  rw [environmentMarks, List.flatMap_cons, nodeMarks, List.append_assoc, List.cons_append] at h
  obtain ⟨-, hinput⟩ := Value.marks_append_inj (Value.isTold_environment env) hnodes.1
    (List.cons.inj h).2
  cases nodes with
  | nil => exact absurd (Mark.text.inj (List.cons.inj hinput).1) (by decide)
  | cons node nodes =>
    obtain ⟨name', item'⟩ := node
    rw [List.flatMap_cons, nodeMarks, List.append_assoc, List.cons_append] at hinput
    obtain ⟨-, hrest⟩ := Value.marks_append_inj hv (hnodes.2 _ List.mem_cons_self)
      (List.cons.inj hinput).2
    cases nodes with
    | nil => exact marks_append_ne_text hw _ _ _ hrest
    | cons node nodes => exact marks_append_ne_text hw _ _ _ hrest

/-- The marks of the nodes tell the nodes and where they end. -/
theorem nodeMarks_append_inj {nodes nodes' : List (String × Value)}
    (hnodes : ∀ node ∈ nodes, node.2.IsTold) (hnodes' : ∀ node ∈ nodes', node.2.IsTold)
    {env env' : Environment} {v w v' w' : Value} (hv : v.IsTold) (hw : w.IsTold) (hv' : v'.IsTold)
    (hw' : w'.IsTold) {rest rest' : Fingerprint}
    (h : nodes.flatMap nodeMarks ++ environmentMarks env (v.marks ++ (w.marks ++ rest)) =
      nodes'.flatMap nodeMarks ++ environmentMarks env' (v'.marks ++ (w'.marks ++ rest'))) :
    nodes = nodes' ∧ env.toValue = env'.toValue ∧
      v.marks ++ (w.marks ++ rest) = v'.marks ++ (w'.marks ++ rest') := by
  induction nodes generalizing nodes' with
  | nil =>
    cases nodes' with
    | nil =>
      obtain ⟨henv, hrest⟩ := Value.marks_append_inj (Value.isTold_environment env)
        (Value.isTold_environment env') (List.cons.inj h).2
      exact ⟨rfl, henv, (List.cons.inj hrest).2⟩
    | cons node' nodes' =>
      exact absurd h (environmentMarks_ne_nodes hnodes' (List.cons_ne_nil _ _) hv hw _ _)
  | cons node nodes ih =>
    cases nodes' with
    | nil =>
      exact absurd h.symm (environmentMarks_ne_nodes hnodes (List.cons_ne_nil _ _) hv' hw' _ _)
    | cons node' nodes' =>
      obtain ⟨name, item⟩ := node
      obtain ⟨name', item'⟩ := node'
      rw [List.forall_mem_cons] at hnodes hnodes'
      rw [List.flatMap_cons, List.flatMap_cons, nodeMarks, nodeMarks, List.append_assoc,
        List.append_assoc, List.cons_append, List.cons_append] at h
      obtain ⟨hname, hmarks⟩ := List.cons.inj h
      obtain ⟨rfl, hrest⟩ := Value.marks_append_inj hnodes.1 hnodes'.1 hmarks
      obtain ⟨rfl, henv⟩ := ih hnodes.2 hnodes'.2 hrest
      obtain rfl : name = name' := Mark.text.inj hname
      exact ⟨rfl, henv⟩

/-! ### The whole context -/

/-- The items of the input and the indices. -/
def values (c : Context) : List Value :=
  c.input ++ [Value.ofNat c.runIndex, Value.ofNat c.itemIndex]

/-- What the origin of items contributes, if it is known. -/
def originMarks (c : Context) : Fingerprint :=
  match c.lineage with
  | some l => lineageMarks l
  | none => []

theorem fullFingerprint_eq (c : Context) :
    c.fullFingerprint = .text "$json" :: (c.json.marks ++ (c.nodes.flatMap nodeMarks ++
      environmentMarks c.env (c.values.flatMap Value.marks ++ c.originMarks))) := by
  unfold fullFingerprint originMarks
  cases c.lineage <;>
    simp only [environmentMarks, values, List.cons_append, List.append_assoc, List.flatMap_append,
      List.flatMap_cons, List.flatMap_nil, List.append_nil]

theorem isTail_originMarks (c : Context) : IsTail c.originMarks := by
  unfold originMarks
  split
  · exact .inr ⟨_, _, rfl⟩
  · exact .inl rfl

theorem isTold_of_mem_values {c : Context} (h : c.IsTold) {v : Value} (hv : v ∈ c.values) :
    v.IsTold := by
  rcases List.mem_append.1 hv with hv | hv
  · exact h.input v hv
  · simp only [List.mem_cons, List.not_mem_nil, or_false] at hv
    rcases hv with rfl | rfl <;> exact Value.isTold_number _

/-- There are at least two values. -/
theorem exists_values_eq (c : Context) : ∃ v w vs, c.values = v :: w :: vs := by
  rw [values]
  match c.input with
  | [] => exact ⟨_, _, _, rfl⟩
  | [item] => exact ⟨_, _, _, rfl⟩
  | item :: item' :: items => exact ⟨_, _, _, rfl⟩

theorem environment_inj {env env' : Environment} (h : env.toValue = env'.toValue) : env = env' := by
  have hentry : Function.Injective fun entry : String × String =>
      (entry.1, Value.string entry.2) := fun entry entry' heq => by
    rw [Prod.mk.injEq, Value.string.injEq] at heq
    exact Prod.ext heq.1 heq.2
  exact List.map_injective_iff.2 hentry (Value.object.inj h)

/-- The origin of items, but for the graph. -/
def origin (c : Context) : Option (String × RunData) := c.lineage.map fun l => (l.node, l.runData)

theorem origin_eq_of_marks {c c' : Context} (hc : c.IsTold) (hc' : c'.IsTold)
    (h : c.originMarks = c'.originMarks) : c.origin = c'.origin := by
  have hrun := hc.runData
  have hrun' := hc'.runData
  unfold originMarks at h
  unfold origin
  cases hl : c.lineage with
  | none =>
    cases hl' : c'.lineage with
    | none => rfl
    | some l' =>
      rw [hl, hl'] at h
      exact nomatch h
  | some l =>
    cases hl' : c'.lineage with
    | none =>
      rw [hl, hl'] at h
      exact nomatch h
    | some l' =>
      rw [hl, hl'] at h
      simp only [lineageMarks, List.cons.injEq, Mark.text.injEq, and_true] at h
      have hdata := RunData.compact_inj (hrun l hl) (hrun' l' hl') h.2
      rw [Option.map_some, Option.map_some, h.1, hdata]

/-- What the full fingerprint tells of a context. -/
theorem fullFingerprint_inj {c c' : Context} (hc : c.IsTold) (hc' : c'.IsTold)
    (h : c.fullFingerprint = c'.fullFingerprint) :
    c.json = c'.json ∧ c.nodes = c'.nodes ∧ c.env = c'.env ∧ c.input = c'.input ∧
      Value.ofNat c.runIndex = Value.ofNat c'.runIndex ∧
      Value.ofNat c.itemIndex = Value.ofNat c'.itemIndex ∧ c.origin = c'.origin := by
  rw [fullFingerprint_eq, fullFingerprint_eq] at h
  obtain ⟨hjson, h⟩ := Value.marks_append_inj hc.json hc'.json (List.cons.inj h).2
  have hvalues := fun v (hv : v ∈ c.values) => isTold_of_mem_values hc hv
  have hvalues' := fun v (hv : v ∈ c'.values) => isTold_of_mem_values hc' hv
  obtain ⟨hnodes, henv, hmarks⟩ : c.nodes = c'.nodes ∧ c.env.toValue = c'.env.toValue ∧
      c.values.flatMap Value.marks ++ c.originMarks =
        c'.values.flatMap Value.marks ++ c'.originMarks := by
    obtain ⟨v, w, vs, hvs⟩ := exists_values_eq c
    obtain ⟨v', w', vs', hvs'⟩ := exists_values_eq c'
    rw [hvs] at hvalues h ⊢
    rw [hvs'] at hvalues' h ⊢
    simp only [List.flatMap_cons, List.append_assoc] at h ⊢
    exact nodeMarks_append_inj hc.nodes hc'.nodes (hvalues v (by simp)) (hvalues w (by simp))
      (hvalues' v' (by simp)) (hvalues' w' (by simp)) h
  obtain ⟨hlist, htail⟩ := flatMap_marks_append_inj hvalues hvalues' (isTail_originMarks c)
    (isTail_originMarks c') hmarks
  rw [values, values] at hlist
  obtain ⟨hinput, hindices⟩ := List.append_inj' hlist (by simp)
  obtain ⟨hrun, hrest⟩ := List.cons.inj hindices
  exact ⟨hjson, hnodes, environment_inj henv, hinput, hrun, (List.cons.inj hrest).1,
    origin_eq_of_marks hc hc' htail⟩

/-! ### Contexts of JSON data -/

/-- The values of a context that is read from JSON are told by their marks. -/
theorem isTold_of_ofJson? {now : DateTime} {j : Json} {c : Context} (hj : j.IsFinite)
    (h : ofJson? now j = some c) : c.IsTold := by
  unfold ofJson? at h
  obtain ⟨r, hr, h⟩ := Option.bind_eq_some_iff.1 h
  obtain ⟨graph, -, h⟩ := Option.bind_eq_some_iff.1 h
  obtain ⟨runData, hrun, h⟩ := Option.bind_eq_some_iff.1 h
  obtain ⟨node, -, h⟩ := Option.bind_eq_some_iff.1 h
  obtain ⟨nodes, hnodes, h⟩ := Option.bind_eq_some_iff.1 h
  obtain ⟨env, -, h⟩ := Option.bind_eq_some_iff.1 h
  obtain ⟨input, hinput, h⟩ := Option.bind_eq_some_iff.1 h
  obtain ⟨runIndex, -, h⟩ := Option.bind_eq_some_iff.1 h
  obtain ⟨itemIndex, -, h⟩ := Option.bind_eq_some_iff.1 h
  obtain rfl := Option.some.inj h
  refine ⟨Value.isTold_ofJson _, fun entry hentry => ?_, fun item hitem => ?_, fun l hl => ?_⟩
  · rcases Json.field?_eq_some hnodes with ⟨v, hv, htable⟩ | rfl
    · obtain ⟨w, -, hw⟩ :=
        Json.exists_of_mem_table? (Json.isFinite_of_record? hj hr hv) htable hentry
      rw [← Option.some.inj hw]
      exact Value.isTold_ofJson w
    · exact absurd hentry List.not_mem_nil
  · cases input with
    | none =>
      rw [List.mem_singleton.1 hitem]
      exact Value.isTold_ofJson _
    | some items =>
      rcases Json.field?_eq_some hinput with ⟨v, hv, hlist⟩ | hnone
      · obtain ⟨w, -, hw⟩ := Json.exists_of_mem_list? (Json.isFinite_of_record? hj hr hv)
          (Json.optional?_eq_some hlist) hitem
        rw [← Option.some.inj hw]
        exact Value.isTold_ofJson w
      · exact nomatch hnone
  · dsimp only at hl
    split at hl
    · next graph' runData' node' =>
      obtain rfl := Option.some.inj hl
      rcases Json.field?_eq_some hrun with ⟨v, hv, hdata⟩ | hnone
      · exact RunData.isFinite_of_ofJson? (Json.isFinite_of_record? hj hr hv)
          (Json.optional?_eq_some hdata)
      · exact nomatch hnone
    · exact nomatch hl

theorem now_of_ofJson? {now : DateTime} {j : Json} {c : Context} (h : ofJson? now j = some c) :
    c.now = now := by
  unfold ofJson? at h
  obtain ⟨r, -, h⟩ := Option.bind_eq_some_iff.1 h
  obtain ⟨graph, -, h⟩ := Option.bind_eq_some_iff.1 h
  obtain ⟨runData, -, h⟩ := Option.bind_eq_some_iff.1 h
  obtain ⟨node, -, h⟩ := Option.bind_eq_some_iff.1 h
  obtain ⟨nodes, -, h⟩ := Option.bind_eq_some_iff.1 h
  obtain ⟨env, -, h⟩ := Option.bind_eq_some_iff.1 h
  obtain ⟨input, -, h⟩ := Option.bind_eq_some_iff.1 h
  obtain ⟨runIndex, -, h⟩ := Option.bind_eq_some_iff.1 h
  obtain ⟨itemIndex, -, h⟩ := Option.bind_eq_some_iff.1 h
  obtain rfl := Option.some.inj h
  rfl

end Context

end TemplateExpr
