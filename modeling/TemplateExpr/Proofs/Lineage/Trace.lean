import Mathlib.Logic.Basic
import TemplateExpr.Lineage.PairedItem
import TemplateExpr.Proofs.Lineage.Graph

/-!
# The trace of an item

The trace of an arrival leads back over the recorded sources to items of the target. The search
follows it from the input of a node, each arrival once, and finds the item that the trace leads to:
it gives an item if and only if nothing is missing on the trace and all its ends are the same item
(`Lineage.resolve_eq_ok_iff`). It depends on the connections of the workflow and on the data of the
run: the nodes of the graph are not read (`Lineage.resolve_congr`).
-/

namespace TemplateExpr.Lineage

/-! ### Traces -/

namespace Search

variable (s : Search) (a : Arrival)

/-- The arrival came over the connection from a node behind the target. -/
structure Passes (edge : Connection) : Prop where
  parent : s.graph.parent? a.node a.input = some edge
  ne_target : edge.source ≠ s.target
  upstream : s.graph.Upstream s.target edge.source

/-- What the run has recorded of the item that came over a connection. -/
def record? (edge : Connection) (item : Nat) : Option PairedItemInfo :=
  (s.runData.task? edge.source s.run).bind fun task =>
    (task.output edge.sourceOutput)[item]?.bind (·.pairedItem)

/-- The arrival came from the target. -/
def Yields (c : Coordinate) : Prop :=
  ∃ edge, s.graph.parent? a.node a.input = some edge ∧ edge.source = s.target ∧
    c = ⟨edge.sourceOutput, a.item⟩

/-- The trace goes on from the arrival to a source that was recorded for its item. -/
def Continues (b : Arrival) : Prop :=
  ∃ edge info source, s.Passes a edge ∧ s.record? edge a.item = some info ∧
    source ∈ info.sources ∧ b = ⟨edge.source, source.input, source.item⟩

/-- The connection that the arrival came over is missing, or the execution, the item or the record
that the trace would go on from. -/
def Lacks : Prop :=
  s.graph.parent? a.node a.input = none ∨
    ∃ edge, s.Passes a edge ∧ s.record? edge a.item = none

/-- The arrivals on the trace of the arrival. -/
def Reaches : Arrival → Arrival → Prop := Relation.ReflTransGen s.Continues

variable {s a}

section

variable {edge : Connection} (h : s.graph.parent? a.node a.input = some edge)

include h

theorem yields_iff (c : Coordinate) :
    s.Yields a c ↔ edge.source = s.target ∧ c = ⟨edge.sourceOutput, a.item⟩ := by
  constructor
  · rintro ⟨edge', h', hc⟩
    obtain rfl := Option.some.inj (h.symm.trans h')
    exact hc
  · exact fun hc => ⟨edge, h, hc⟩

theorem continues_iff (b : Arrival) :
    s.Continues a b ↔ s.Passes a edge ∧ ∃ info, s.record? edge a.item = some info ∧
      b ∈ info.sources.map fun p => (⟨edge.source, p.input, p.item⟩ : Arrival) := by
  constructor
  · rintro ⟨edge', info, source, hpasses, hinfo, hsource, rfl⟩
    obtain rfl := Option.some.inj (h.symm.trans hpasses.parent)
    exact ⟨hpasses, info, hinfo, List.mem_map.2 ⟨source, hsource, rfl⟩⟩
  · rintro ⟨hpasses, info, hinfo, hb⟩
    obtain ⟨source, hsource, rfl⟩ := List.mem_map.1 hb
    exact ⟨edge, info, source, hpasses, hinfo, hsource, rfl⟩

theorem lacks_iff : s.Lacks a ↔ s.Passes a edge ∧ s.record? edge a.item = none := by
  constructor
  · rintro (hnone | ⟨edge', hpasses, hnone⟩)
    · rw [h] at hnone
      cases hnone
    · obtain rfl := Option.some.inj (h.symm.trans hpasses.parent)
      exact ⟨hpasses, hnone⟩
  · exact fun hlacks => .inr ⟨edge, hlacks⟩

theorem origin_of_target (htarget : edge.source = s.target) :
    s.origin a = .ok (.found ⟨edge.sourceOutput, a.item⟩) := by
  rw [origin, h]
  exact if_pos htarget

theorem origin_of_not_upstream (htarget : edge.source ≠ s.target)
    (hnot : ¬s.graph.Upstream s.target edge.source) : s.origin a = .ok (.further []) := by
  have hcontains : (s.graph.ancestors edge.source).contains s.target = false := by
    rw [Bool.eq_false_iff, ne_eq, List.contains_iff_mem, WorkflowGraph.mem_ancestors_iff]
    exact hnot
  rw [origin, h]
  dsimp only
  rw [if_neg htarget, hcontains]
  rfl

end

theorem origin_of_passes {edge : Connection} (h : s.Passes a edge) :
    match s.record? edge a.item with
    | none => ∃ e, s.origin a = .error e
    | some info =>
      s.origin a = .ok (.further (info.sources.map fun p => ⟨edge.source, p.input, p.item⟩)) := by
  have hcontains : (s.graph.ancestors edge.source).contains s.target = true :=
    List.contains_iff_mem.2 (WorkflowGraph.mem_ancestors_iff.2 h.upstream)
  rw [origin, h.parent, record?]
  dsimp only
  rw [if_neg h.ne_target, hcontains]
  cases s.runData.task? edge.source s.run with
  | none => exact ⟨_, rfl⟩
  | some task =>
    rw [Option.bind_some]
    cases hitem : (task.output edge.sourceOutput)[a.item]? with
    | none => exact ⟨_, by simp only [hitem]; rfl⟩
    | some item =>
      rw [Option.bind_some]
      cases hinfo : item.pairedItem with
      | none => exact ⟨_, by simp only [hitem, hinfo]; rfl⟩
      | some info => simp only [hitem, hinfo]; rfl

/-- What follows an arrival on its trace. -/
inductive Follows (s : Search) (a : Arrival) : Except PairedItemError Origin → Prop
  | lacks {e : PairedItemError} (h : s.Lacks a) : Follows s a (.error e)
  | found {c : Coordinate} (hlacks : ¬s.Lacks a) (hyields : ∀ c', s.Yields a c' ↔ c' = c)
      (hcontinues : ∀ b, ¬s.Continues a b) : Follows s a (.ok (.found c))
  | further {more : List Arrival} (hlacks : ¬s.Lacks a) (hyields : ∀ c, ¬s.Yields a c)
      (hcontinues : ∀ b, s.Continues a b ↔ b ∈ more) : Follows s a (.ok (.further more))

theorem follows_origin (s : Search) (a : Arrival) : s.Follows a (s.origin a) := by
  cases h : s.graph.parent? a.node a.input with
  | none =>
    rw [origin, h]
    exact .lacks (.inl h)
  | some edge =>
    by_cases htarget : edge.source = s.target
    · rw [origin_of_target h htarget]
      refine .found ?_ (fun c => ?_) fun b hb => ?_
      · exact fun hlacks => ((lacks_iff h).1 hlacks).1.ne_target htarget
      · rw [yields_iff h]
        exact and_iff_right htarget
      · exact ((continues_iff h b).1 hb).1.ne_target htarget
    have hyields (c : Coordinate) : ¬s.Yields a c := fun hc => htarget ((yields_iff h c).1 hc).1
    by_cases hupstream : s.graph.Upstream s.target edge.source
    · have hpasses : s.Passes a edge := ⟨h, htarget, hupstream⟩
      have horigin := origin_of_passes hpasses
      cases hrecord : s.record? edge a.item with
      | none =>
        rw [hrecord] at horigin
        obtain ⟨e, he⟩ := horigin
        rw [he]
        exact .lacks ((lacks_iff h).2 ⟨hpasses, hrecord⟩)
      | some info =>
        rw [hrecord] at horigin
        rw [horigin]
        refine .further (fun hlacks => ?_) hyields fun b => ?_
        · have hnone := ((lacks_iff h).1 hlacks).2
          rw [hrecord] at hnone
          cases hnone
        · rw [continues_iff h, hrecord]
          constructor
          · rintro ⟨-, info', hinfo, hb⟩
            obtain rfl := Option.some.inj hinfo
            exact hb
          · exact fun hb => ⟨hpasses, info, rfl, hb⟩
    · rw [origin_of_not_upstream h htarget hupstream]
      have hcontinues (b : Arrival) : ¬s.Continues a b := fun hb =>
        hupstream ((continues_iff h b).1 hb).1.upstream
      refine .further (fun hlacks => ?_) hyields fun b => ?_
      · exact hupstream ((lacks_iff h).1 hlacks).1.upstream
      · exact iff_of_false (hcontinues b) List.not_mem_nil

/-- The execution that is chosen for a node is one of its executions. -/
theorem exists_of_task? {d : RunData} {node : String} {run : Option Nat} {task : TaskData}
    (h : d.task? node run = some task) : ∃ tasks, (node, tasks) ∈ d ∧ task ∈ tasks := by
  obtain ⟨tasks, htasks, htask⟩ := Option.bind_eq_some_iff.1 h
  obtain ⟨before, after, rfl, -⟩ := List.lookup_eq_some_iff.1 htasks
  refine ⟨tasks, List.mem_append_right _ List.mem_cons_self, ?_⟩
  cases hrun : run.bind (tasks[·]?) with
  | none =>
    rw [hrun] at htask
    exact List.mem_of_getLast? htask
  | some task' =>
    rw [hrun] at htask
    obtain rfl := Option.some.inj htask
    obtain ⟨i, -, hi⟩ := Option.bind_eq_some_iff.1 hrun
    exact List.mem_of_getElem? hi

/-- The search knows the arrivals that a trace can go on to. -/
theorem mem_universe {b : Arrival} (h : s.Continues a b) : b ∈ s.universe := by
  obtain ⟨edge, info, source, -, hrecord, hsource, rfl⟩ := h
  obtain ⟨task, htask, hrecord⟩ := Option.bind_eq_some_iff.1 hrecord
  obtain ⟨item, hitem, hinfo⟩ := Option.bind_eq_some_iff.1 hrecord
  obtain ⟨tasks, htasks, hmem⟩ := exists_of_task? htask
  have houtput : task.output edge.sourceOutput ∈ task.outputs := by
    have hne : task.output edge.sourceOutput ≠ [] := List.ne_nil_of_mem (List.mem_of_getElem? hitem)
    rw [TaskData.output, List.getD_eq_getElem?_getD] at hne ⊢
    cases houtput : task.outputs[edge.sourceOutput]? with
    | none => rw [houtput] at hne; exact absurd rfl hne
    | some items => exact List.mem_of_getElem? houtput
  refine List.mem_flatMap.2 ⟨_, htasks, List.mem_flatMap.2 ⟨task, hmem, List.mem_flatMap.2
    ⟨_, houtput, List.mem_flatMap.2 ⟨item, List.mem_of_getElem? hitem, ?_⟩⟩⟩⟩
  rw [hinfo]
  exact List.mem_map.2 ⟨source, hsource, rfl⟩

theorem mem_of_reaches {first b : Arrival} (h : s.Reaches first b) :
    b ∈ first :: s.universe := by
  cases h with
  | refl => exact List.mem_cons_self
  | tail _ hb => exact List.mem_cons_of_mem _ (mem_universe hb)

/-! ### The walk -/

section

variable {first b : Arrival} {left as : List Arrival} {found : List Coordinate}

/-- An arrival on the trace that is no longer among those that are left has been visited. -/
def Visited (s : Search) (first : Arrival) (left : List Arrival) (a : Arrival) : Prop :=
  s.Reaches first a ∧ a ∉ left

/-- How far the trace of the first arrival has been walked. -/
structure Walked (s : Search) (first : Arrival) (left : List Arrival) (found : List Coordinate)
    (as : List Arrival) : Prop where
  first_mem : s.Visited first left first ∨ first ∈ as
  reaches : ∀ a ∈ as, s.Reaches first a
  complete : ∀ a, s.Visited first left a → ¬s.Lacks a
  yields : ∀ a, s.Visited first left a → ∀ c, s.Yields a c → c ∈ found
  /-- The trace goes on from what has been visited to what will be. -/
  continues : ∀ a, s.Visited first left a → ∀ b, s.Continues a b →
    s.Visited first left b ∨ b ∈ as
  sound : ∀ c ∈ found, ∃ a, s.Reaches first a ∧ s.Yields a c

namespace Walked

theorem start (s : Search) (first : Arrival) :
    s.Walked first (first :: s.universe) [] [first] := by
  have hnot (a : Arrival) : ¬s.Visited first (first :: s.universe) a := fun h =>
    h.2 (mem_of_reaches h.1)
  exact
    { first_mem := .inr List.mem_cons_self
      reaches := fun a ha => List.mem_singleton.1 ha ▸ .refl
      complete := fun a ha => absurd ha (hnot a)
      yields := fun a ha => absurd ha (hnot a)
      continues := fun a ha => absurd ha (hnot a)
      sound := fun c hc => absurd hc List.not_mem_nil }

/-- An arrival that has been visited before is passed over. -/
theorem skip (h : s.Walked first left found (a :: as)) (ha : a ∉ left) :
    s.Walked first left found as := by
  have hvisited : s.Visited first left a := ⟨h.reaches a List.mem_cons_self, ha⟩
  have hrest {b : Arrival} (hb : s.Visited first left b ∨ b ∈ a :: as) :
      s.Visited first left b ∨ b ∈ as := by
    rcases hb with hb | hb
    · exact .inl hb
    · rcases List.mem_cons.1 hb with rfl | hb
      · exact .inl hvisited
      · exact .inr hb
  exact { h with
    first_mem := hrest h.first_mem
    reaches := fun b hb => h.reaches b (List.mem_cons_of_mem _ hb)
    continues := fun b hb c hc => hrest (h.continues b hb c hc) }

/-- A visit adds what the arrival yields to what is found, and puts what follows it in front. -/
theorem visit {more : List Arrival} {yield : List Coordinate}
    (h : s.Walked first left found (a :: as)) (hlacks : ¬s.Lacks a)
    (hyields : ∀ c, s.Yields a c ↔ c ∈ yield) (hcontinues : ∀ b, s.Continues a b ↔ b ∈ more) :
    s.Walked first (left.filter (· != a)) (found ++ yield) (more ++ as) := by
  have ha : s.Reaches first a := h.reaches a List.mem_cons_self
  have hcases {b : Arrival} (hb : s.Visited first (left.filter (· != a)) b) :
      b = a ∨ s.Visited first left b := by
    by_cases heq : b = a
    · exact .inl heq
    · refine .inr ⟨hb.1, fun hmem => hb.2 (List.mem_filter.2 ⟨hmem, by simpa using heq⟩)⟩
  have hvisit {b : Arrival} (hb : s.Visited first left b ∨ b ∈ a :: as) :
      s.Visited first (left.filter (· != a)) b ∨ b ∈ more ++ as := by
    rcases hb with hb | hb
    · exact .inl ⟨hb.1, fun hmem => hb.2 ((List.mem_filter.1 hmem).1)⟩
    · rcases List.mem_cons.1 hb with rfl | hb
      · exact .inl ⟨ha, fun hmem => by simp at hmem⟩
      · exact .inr (List.mem_append_right _ hb)
  exact
    { first_mem := hvisit h.first_mem
      reaches := fun b hb => by
        rcases List.mem_append.1 hb with hb | hb
        · exact ha.tail ((hcontinues b).2 hb)
        · exact h.reaches b (List.mem_cons_of_mem _ hb)
      complete := fun b hb => by
        rcases hcases hb with rfl | hb
        · exact hlacks
        · exact h.complete b hb
      yields := fun b hb c hc => by
        rcases hcases hb with rfl | hb
        · exact List.mem_append_right _ ((hyields c).1 hc)
        · exact List.mem_append_left _ (h.yields b hb c hc)
      continues := fun b hb d hd => by
        rcases hcases hb with rfl | hb
        · exact .inr (List.mem_append_left _ ((hcontinues d).1 hd))
        · exact hvisit (h.continues b hb d hd)
      sound := fun c hc => by
        rcases List.mem_append.1 hc with hc | hc
        · exact h.sound c hc
        · exact ⟨a, ha, (hyields c).2 hc⟩ }

/-- When nothing is left to be visited, the whole trace has been. -/
theorem visited_of_reaches (h : s.Walked first left found []) (hb : s.Reaches first b) :
    s.Visited first left b := by
  induction hb with
  | refl => exact h.first_mem.resolve_right List.not_mem_nil
  | tail _ hd ih => exact (h.continues _ ih _ hd).resolve_right List.not_mem_nil

/-- The walk fails if and only if something is missing on the trace, and finds all its ends. -/
theorem walk_spec (h : s.Walked first left found as) :
    match s.walk left found as with
    | .error _ => ∃ a, s.Reaches first a ∧ s.Lacks a
    | .ok ends => (∀ a, s.Reaches first a → ¬s.Lacks a) ∧
        ∀ c, c ∈ ends ↔ ∃ a, s.Reaches first a ∧ s.Yields a c := by
  induction left, found, as using walk.induct s with
  | case1 left found =>
    rw [walk]
    refine ⟨fun a ha => h.complete a (h.visited_of_reaches ha), fun c => ⟨h.sound c, ?_⟩⟩
    rintro ⟨a, ha, hc⟩
    exact h.yields a (h.visited_of_reaches ha) c hc
  | case2 left found a as hmem hlt e horigin =>
    have hfollows := s.follows_origin a
    rw [horigin] at hfollows
    rw [walk, dif_pos hmem, horigin]
    cases hfollows with
    | lacks hlacks => exact ⟨a, h.reaches a List.mem_cons_self, hlacks⟩
  | case3 left found a as hmem hlt c horigin ih =>
    simp only [List.unattach_filter, List.unattach_attach] at ih
    have hfollows := s.follows_origin a
    rw [horigin] at hfollows
    rw [walk, dif_pos hmem, horigin]
    cases hfollows with
    | found hlacks hyields hcontinues =>
      have hvisit : s.Walked first (left.filter (· != a)) (found ++ [c]) ([] ++ as) :=
        h.visit hlacks (fun c' => (hyields c').trans List.mem_singleton.symm)
          fun b => iff_of_false (hcontinues b) List.not_mem_nil
      exact ih hvisit
  | case4 left found a as hmem hlt more horigin ih =>
    simp only [List.unattach_filter, List.unattach_attach] at ih
    have hfollows := s.follows_origin a
    rw [horigin] at hfollows
    rw [walk, dif_pos hmem, horigin]
    cases hfollows with
    | further hlacks hyields hcontinues =>
      have hvisit : s.Walked first (left.filter (· != a)) (found ++ []) (more ++ as) :=
        h.visit hlacks (fun c => iff_of_false (hyields c) List.not_mem_nil) hcontinues
      rw [List.append_nil] at hvisit
      exact ih hvisit
  | case5 left found a as hmem ih =>
    rw [walk, dif_neg hmem]
    exact ih (h.skip hmem)

end Walked

end

theorem missingNodes_eq_nil_iff (s : Search) (ancestors : List String) :
    s.missingNodes ancestors = [] ↔ ∀ n ∈ ancestors, s.graph.Upstream s.target n →
      Fields.has s.runData n = true := by
  simp only [List.eq_nil_iff_forall_not_mem, missingNodes, List.mem_mergeSort, List.mem_filter,
    Bool.and_eq_true, List.contains_iff_mem, WorkflowGraph.mem_ancestors_iff, Bool.not_eq_true',
    not_and, Bool.not_eq_false]

end Search

/-- A list has one element only, apart from repetitions. -/
theorem eraseDups_eq_singleton_iff {found : List Coordinate} {c : Coordinate} :
    found.eraseDups = [c] ↔ ∀ c', c' ∈ found ↔ c' = c := by
  constructor
  · intro h c'
    rw [← List.mem_eraseDups, h, List.mem_singleton]
  · intro h
    cases found with
    | nil => exact absurd ((h c).2 rfl) List.not_mem_nil
    | cons x as =>
      obtain rfl : x = c := (h x).1 List.mem_cons_self
      have hall : as.filter (fun b => !b == x) = [] := by
        rw [List.filter_eq_nil_iff]
        intro b hb
        rw [(h b).1 (List.mem_cons_of_mem _ hb), beq_self_eq_true]
        exact Bool.false_ne_true
      rw [List.eraseDups_cons, hall, List.eraseDups_nil]

/-! ### Resolution -/

theorem ite_error_eq_ok_iff {p : Prop} [Decidable p] {e : PairedItemError}
    {x : Except PairedItemError Json} {j : Json} :
    (if p then .error e else x) = .ok j ↔ ¬p ∧ x = .ok j := by
  by_cases hp : p
  · rw [if_pos hp]
    exact iff_of_false (fun h => by cases h) fun h => h.1 hp
  · rw [if_neg hp]
    exact (and_iff_right hp).symm

/-- A search gives an item if and only if the run and the graph lead from the start to the target,
nothing is missing on the trace of the start, and the trace yields one coordinate only, at which the
target has the item. -/
theorem resolve_eq_ok_iff (g : WorkflowGraph) (d : RunData) (start : ItemPointer)
    (target : String) (j : Json) :
    let s : Search := ⟨g, d, start.runIndex, target⟩
    let first : Arrival := ⟨start.node, 0, start.itemIndex⟩
    resolve g d start target = .ok j ↔
      d ≠ [] ∧ Fields.has d target = true ∧
      (g.parent? start.node 0 ≠ none ∨ g.parent? start.node 1 ≠ none) ∧
      g.Upstream target start.node ∧
      (∀ n, g.Upstream n start.node → g.Upstream target n → Fields.has d n = true) ∧
      (∀ a, s.Reaches first a → ¬s.Lacks a) ∧
      ∃ c, (∀ c', (∃ a, s.Reaches first a ∧ s.Yields a c') ↔ c' = c) ∧
        ∃ task item, d.task? target start.runIndex = some task ∧
          (task.output c.output)[c.item]? = some item ∧ item.json = j := by
  intro s first
  simp only [resolve, ite_error_eq_ok_iff, List.isEmpty_iff, Bool.not_eq_true', Bool.not_eq_false,
    Bool.and_eq_true, Option.isNone_iff_eq_none, not_and_or, List.contains_iff_mem,
    WorkflowGraph.mem_ancestors_iff, Search.missingNodes_eq_nil_iff]
  iterate 5 refine and_congr_right' ?_
  have hwalk := (Search.Walked.start s first).walk_spec
  split
  · next hfound =>
    rw [hfound] at hwalk
    obtain ⟨a, ha, hlacks⟩ := hwalk
    exact iff_of_false (fun h => by cases h) fun h => h.1 a ha hlacks
  · next found hfound =>
    rw [hfound] at hwalk
    obtain ⟨hcomplete, hends⟩ := hwalk
    rw [and_iff_right hcomplete]
    simp only [← hends, ← eraseDups_eq_singleton_iff]
    constructor
    · intro h
      split at h
      · cases h
      · next c hc =>
        split at h
        · next item hitem =>
          obtain ⟨task, htask, hitem⟩ := Option.bind_eq_some_iff.1 hitem
          exact ⟨c, hc, task, item, htask, hitem, Except.ok.inj h⟩
        · cases h
      · cases h
    · rintro ⟨c, hc, task, item, htask, hitem, rfl⟩
      simp only [hc, htask, Option.bind_some, hitem]

/-! ### What the search reads of the graph -/

section

variable {g g' : WorkflowGraph}

theorem Search.origin_congr (h : g.connections = g'.connections) (d : RunData) (run : Option Nat)
    (target : String) (a : Arrival) :
    (⟨g, d, run, target⟩ : Search).origin a = (⟨g', d, run, target⟩ : Search).origin a := by
  simp only [origin, WorkflowGraph.parent?_congr h, WorkflowGraph.ancestors_congr h]

theorem Search.walk_congr (h : g.connections = g'.connections) (d : RunData) (run : Option Nat)
    (target : String) (left : List Arrival) (found : List Coordinate) (as : List Arrival) :
    (⟨g, d, run, target⟩ : Search).walk left found as =
      (⟨g', d, run, target⟩ : Search).walk left found as := by
  induction left, found, as using walk.induct ⟨g, d, run, target⟩ with
  | case1 left found => rw [walk, walk]
  | case2 left found a as hmem hlt e horigin =>
    have horigin' := horigin
    rw [origin_congr h] at horigin'
    rw [walk, walk, dif_pos hmem, dif_pos hmem, horigin, horigin']
  | case3 left found a as hmem hlt c horigin ih =>
    simp only [List.unattach_filter, List.unattach_attach] at ih
    have horigin' := horigin
    rw [origin_congr h] at horigin'
    rw [walk, walk, dif_pos hmem, dif_pos hmem, horigin, horigin']
    exact ih
  | case4 left found a as hmem hlt more horigin ih =>
    simp only [List.unattach_filter, List.unattach_attach] at ih
    have horigin' := horigin
    rw [origin_congr h] at horigin'
    rw [walk, walk, dif_pos hmem, dif_pos hmem, horigin, horigin']
    exact ih
  | case5 left found a as hmem ih =>
    rw [walk, walk, dif_neg hmem, dif_neg hmem]
    exact ih

/-- The item that is found depends on the connections of the graph only. -/
theorem resolve_congr (h : g.connections = g'.connections) (d : RunData) (start : ItemPointer)
    (target : String) : resolve g d start target = resolve g' d start target := by
  have huniverse (run : Option Nat) :
      (⟨g, d, run, target⟩ : Search).universe = (⟨g', d, run, target⟩ : Search).universe := rfl
  have hmissing (run : Option Nat) (ancestors : List String) :
      (⟨g, d, run, target⟩ : Search).missingNodes ancestors =
        (⟨g', d, run, target⟩ : Search).missingNodes ancestors := by
    simp only [Search.missingNodes, WorkflowGraph.ancestors_congr h]
  simp only [resolve, WorkflowGraph.parent?_congr h, WorkflowGraph.ancestors_congr h, hmissing,
    huniverse, Search.walk_congr h]

/-- An item that has come over the only connection of a workflow. -/
theorem resolve_single {source destination : String} (h : source ≠ destination)
    (nodes : List (String × NodeInfo)) (output item : Nat) (tasks : List TaskData)
    (run : Option Nat) :
    resolve ⟨nodes, [⟨source, output, destination, 0⟩]⟩ [(source, tasks)]
        ⟨destination, item, run⟩ source =
      match (RunData.task? [(source, tasks)] source run).bind fun t => (t.output output)[item]? with
      | some found => .ok found.json
      | none =>
        .error (.invalidInfo source ("item " ++ Text.Digit.decimal item ++ " does not exist")) := by
  have hdups (c : Coordinate) : [c].eraseDups = [c] := rfl
  cases hfound : (RunData.task? [(source, tasks)] source run).bind fun t =>
      (t.output output)[item]? <;>
    simp [hfound, resolve, Fields.has, WorkflowGraph.parent?, WorkflowGraph.ancestors_single h,
      WorkflowGraph.ancestors_source h, Search.missingNodes, Search.walk, Search.origin, hdups]

end

end TemplateExpr.Lineage
