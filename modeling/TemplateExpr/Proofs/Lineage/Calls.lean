import Mathlib.Data.Finset.Card
import Mathlib.Data.Finset.Dedup
import Mathlib.Tactic.SplitIfs
import TemplateExpr.Proofs.Lineage.Trace

/-!
# The calls of a walk

A walk that calls itself for the sources of each arrival, and does nothing where it has been before,
ends on every graph and every run, also where the recorded sources go round in circles. It follows
no arrival twice, and besides the first one only such as a node of the graph and a recorded source
make up. It ends as the walk over a list of arrivals does (`Lineage.calls_spec`).
-/

namespace TemplateExpr

/-- The sources that the items of a run record. -/
def RunData.sources (d : RunData) : List ItemSource :=
  d.flatMap fun (_, tasks) => tasks.flatMap fun task => task.outputs.flatMap fun items =>
    items.flatMap fun item => (item.pairedItem.map (·.sources)).getD []

namespace Lineage

/-- How a walk ends: with items of the target, or with an error. -/
abbrev Ending := Except PairedItemError (List Coordinate)

namespace Search

variable (s : Search)

/-- The arrivals that a node of the graph and a source that the run records make up. Of the nodes
only those matter that a connection comes from. -/
def arrivals : Finset Arrival :=
  (s.graph.allSources.flatMap fun node =>
    s.runData.sources.map fun p => (⟨node, p.input, p.item⟩ : Arrival)).toFinset

/-! ### Calls -/

mutual

/-- A call for an arrival, when those in `visited` have been followed before, follows the arrivals
in `calls`, in this order, and ends. The arrival counts as followed before the call makes calls of
its own. -/
inductive Call : List Arrival → Arrival → List Arrival → Ending → Prop
  | again {visited a} (ha : a ∈ visited) : Call visited a [] (.ok [])
  | fails {visited a e} (ha : a ∉ visited) (horigin : s.origin a = .error e) :
    Call visited a [a] (.error e)
  | finds {visited a c} (ha : a ∉ visited) (horigin : s.origin a = .ok (.found c)) :
    Call visited a [a] (.ok [c])
  | follows {visited a more calls r} (ha : a ∉ visited)
    (horigin : s.origin a = .ok (.further more)) (hmore : Calls (a :: visited) more calls r) :
    Call visited a (a :: calls) r

/-- The calls for the arrivals of a list, one after the other until one fails. -/
inductive Calls : List Arrival → List Arrival → List Arrival → Ending → Prop
  | nil {visited} : Calls visited [] [] (.ok [])
  | fails {visited a as calls e} (ha : Call visited a calls (.error e)) :
    Calls visited (a :: as) calls (.error e)
  | cons {visited a as calls found calls' r} (ha : Call visited a calls (.ok found))
    (has : Calls (calls ++ visited) as calls' r) :
    Calls visited (a :: as) (calls ++ calls') (r.map (found ++ ·))

end

variable {s} {visited as calls : List Arrival} {a : Arrival} {r : Ending}

/-! ### What is followed -/

mutual

/-- A call follows no arrival twice, and none that has been followed before. -/
theorem Call.nodup_append : ∀ {visited calls : List Arrival} {a : Arrival} {r : Ending},
    s.Call visited a calls r → visited.Nodup → (calls ++ visited).Nodup
  | _, _, _, _, .again _, h => h
  | _, _, _, _, .fails ha _, h => List.nodup_cons.2 ⟨ha, h⟩
  | _, _, _, _, .finds ha _, h => List.nodup_cons.2 ⟨ha, h⟩
  | _, _, _, _, .follows ha _ hmore, h => by
    -- the arrival itself stands in front of the calls that it makes, not behind them
    have hnodup := hmore.nodup_append (List.nodup_cons.2 ⟨ha, h⟩)
    rwa [List.nodup_middle] at hnodup

theorem Calls.nodup_append : ∀ {visited as calls : List Arrival} {r : Ending},
    s.Calls visited as calls r → visited.Nodup → (calls ++ visited).Nodup
  | _, _, _, _, .nil, h => h
  | _, _, _, _, .fails ha, h => ha.nodup_append h
  | visited, _, _, _, .cons ha has, h => by
    have hnodup := has.nodup_append (ha.nodup_append h)
    rw [← List.append_assoc] at hnodup
    exact (List.perm_append_comm.append_right visited).nodup_iff.1 hnodup

end

theorem continues_iff_of_further {more : List Arrival} (h : s.origin a = .ok (.further more))
    (b : Arrival) : s.Continues a b ↔ b ∈ more := by
  have hfollows := s.follows_origin a
  rw [h] at hfollows
  cases hfollows with
  | further _ _ hcontinues => exact hcontinues b

mutual

/-- A call follows the trace of its arrival. -/
theorem Call.reaches : ∀ {visited calls : List Arrival} {a : Arrival} {r : Ending},
    s.Call visited a calls r → ∀ b ∈ calls, s.Reaches a b
  | _, _, _, _, .again _ => fun _ hb => absurd hb List.not_mem_nil
  | _, _, _, _, .fails _ _ => fun _ hb => List.mem_singleton.1 hb ▸ .refl
  | _, _, _, _, .finds _ _ => fun _ hb => List.mem_singleton.1 hb ▸ .refl
  | _, _, _, _, .follows _ horigin hmore => fun b hb => by
    rcases List.mem_cons.1 hb with rfl | hb
    · exact .refl
    · obtain ⟨next, hnext, hreaches⟩ := hmore.reaches b hb
      exact .head ((continues_iff_of_further horigin next).2 hnext) hreaches

theorem Calls.reaches : ∀ {visited as calls : List Arrival} {r : Ending},
    s.Calls visited as calls r → ∀ b ∈ calls, ∃ a ∈ as, s.Reaches a b
  | _, _, _, _, .nil => fun _ hb => absurd hb List.not_mem_nil
  | _, _, _, _, .fails ha => fun b hb => ⟨_, List.mem_cons_self, ha.reaches b hb⟩
  | _, _, _, _, .cons ha has => fun b hb => by
    rcases List.mem_append.1 hb with hb | hb
    · exact ⟨_, List.mem_cons_self, ha.reaches b hb⟩
    · obtain ⟨a, hmem, hreaches⟩ := has.reaches b hb
      exact ⟨a, List.mem_cons_of_mem _ hmem, hreaches⟩

end

theorem source_mem_of_mem_universe {b : Arrival} (h : b ∈ s.universe) :
    (⟨b.item, b.input⟩ : ItemSource) ∈ s.runData.sources := by
  simp only [Search.universe, List.mem_flatMap, Prod.exists] at h
  obtain ⟨node, tasks, hnode, task, htask, items, hitems, item, hitem, hb⟩ := h
  simp only [RunData.sources, List.mem_flatMap, Prod.exists]
  refine ⟨node, tasks, hnode, task, htask, items, hitems, item, hitem, ?_⟩
  cases hinfo : item.pairedItem with
  | none =>
    rw [hinfo] at hb
    exact absurd hb List.not_mem_nil
  | some info =>
    rw [hinfo] at hb
    obtain ⟨source, hsource, rfl⟩ := List.mem_map.1 hb
    exact hsource

theorem mem_arrivals {b : Arrival} (h : s.Continues a b) : b ∈ s.arrivals := by
  have hsource := source_mem_of_mem_universe (mem_universe h)
  obtain ⟨edge, info, source, hpasses, -, -, rfl⟩ := h
  have hedge : edge.source ∈ s.graph.allSources :=
    List.mem_map_of_mem (List.mem_of_find?_eq_some hpasses.parent)
  exact List.mem_toFinset.2 (List.mem_flatMap.2
    ⟨edge.source, hedge, List.mem_map.2 ⟨_, hsource, rfl⟩⟩)

theorem Call.length_le (h : s.Call [] a calls r) (hnodup : calls.Nodup) :
    calls.length ≤ (insert a s.arrivals).card := by
  rw [← List.toFinset_card_of_nodup hnodup]
  refine Finset.card_le_card fun b hb => ?_
  -- behind the first arrival, each one on the trace was recorded as a source
  cases h.reaches b (List.mem_toFinset.1 hb) with
  | refl => exact Finset.mem_insert_self a s.arrivals
  | tail _ hcontinues => exact Finset.mem_insert_of_mem (mem_arrivals hcontinues)

/-! ### Calls end -/

theorem card_sdiff_lt {all : Finset Arrival} {visited' : List Arrival} (ha : a ∈ all)
    (hnot : a ∉ visited) (hmem : a ∈ visited') (hsub : visited ⊆ visited') :
    (all \ visited'.toFinset).card < (all \ visited.toFinset).card := by
  refine Finset.card_lt_card ⟨fun b hb => ?_, fun h => ?_⟩
  · rw [Finset.mem_sdiff, List.mem_toFinset] at hb ⊢
    exact ⟨hb.1, fun hvisited => hb.2 (hsub hvisited)⟩
  · have hdiff := h (Finset.mem_sdiff.2 ⟨ha, fun h => hnot (List.mem_toFinset.1 h)⟩)
    exact (Finset.mem_sdiff.1 hdiff).2 (List.mem_toFinset.2 hmem)

/-- Calls for arrivals of a finite set that traces do not leave end. -/
theorem exists_calls (visited : List Arrival) {all : Finset Arrival}
    (hall : ∀ a b, s.Continues a b → b ∈ all) (has : ∀ a ∈ as, a ∈ all) :
    ∃ calls r, s.Calls visited as calls r := by
  -- a call does nothing, or there are fewer arrivals behind it that have not been followed
  induction hsize : (all \ visited.toFinset).card using Nat.strongRecOn generalizing visited as with
  | ind size ih =>
    subst hsize
    induction as with
    | nil => exact ⟨[], .ok [], .nil⟩
    | cons a as ihas =>
      rw [List.forall_mem_cons] at has
      by_cases ha : a ∈ visited
      · obtain ⟨calls, r, hcalls⟩ := ihas has.2
        exact ⟨_, _, .cons (.again ha) hcalls⟩
      have hlater (visited' : List Arrival) {as' : List Arrival} (hmem : a ∈ visited')
          (hsub : visited ⊆ visited') (has' : ∀ b ∈ as', b ∈ all) :
          ∃ calls r, s.Calls visited' as' calls r :=
        ih _ (card_sdiff_lt has.1 ha hmem hsub) visited' has' rfl
      cases horigin : s.origin a with
      | error e => exact ⟨_, _, .fails (.fails ha horigin)⟩
      | ok o =>
        cases o with
        | found c =>
          obtain ⟨calls, r, hcalls⟩ := hlater ([a] ++ visited) (by simp) (by simp) has.2
          exact ⟨_, _, .cons (.finds ha horigin) hcalls⟩
        | further more =>
          have hmore : ∀ b ∈ more, b ∈ all := fun b hb =>
            hall a b ((continues_iff_of_further horigin b).2 hb)
          obtain ⟨calls, r, hcalls⟩ := hlater (a :: visited) (by simp) (by simp) hmore
          cases r with
          | error e => exact ⟨_, _, .fails (.follows ha horigin hcalls)⟩
          | ok found =>
            obtain ⟨calls', r, hcalls'⟩ := hlater ((a :: calls) ++ visited) (by simp)
              (List.subset_append_right _ _) has.2
            exact ⟨_, _, .cons (.follows ha horigin hcalls) hcalls'⟩

theorem exists_call (s : Search) (visited : List Arrival) (a : Arrival) :
    ∃ calls r, s.Call visited a calls r := by
  have hall (b b' : Arrival) (h : s.Continues b b') : b' ∈ insert a s.arrivals :=
    Finset.mem_insert_of_mem (mem_arrivals h)
  have hfirst : ∀ b ∈ [a], b ∈ insert a s.arrivals :=
    List.forall_mem_singleton.2 (Finset.mem_insert_self a s.arrivals)
  obtain ⟨calls, r, hcalls⟩ := exists_calls visited hall hfirst
  cases hcalls with
  | fails ha | cons ha => exact ⟨_, _, ha⟩

theorem Call.eq_of_mem (h : s.Call visited a calls r) (ha : a ∈ visited) :
    [] = calls ∧ .ok [] = r := by
  cases h with
  | again => exact ⟨rfl, rfl⟩
  | fails hnot | finds hnot | follows hnot => exact absurd ha hnot

/-- What a call for an arrival that has not been followed does is told by what stands behind it. -/
theorem Call.of_not_mem (h : s.Call visited a calls r) (ha : a ∉ visited) :
    match s.origin a with
    | .error e => [a] = calls ∧ .error e = r
    | .ok (.found c) => [a] = calls ∧ .ok [c] = r
    | .ok (.further more) =>
      ∃ calls', calls = a :: calls' ∧ s.Calls (a :: visited) more calls' r := by
  cases h with
  | again hmem => exact absurd hmem ha
  | fails _ horigin | finds _ horigin =>
    rw [horigin]
    exact ⟨rfl, rfl⟩
  | follows _ horigin hmore =>
    rw [horigin]
    exact ⟨_, rfl, hmore⟩

mutual

/-- A call ends in one way only. -/
theorem Call.unique : ∀ {visited calls calls' : List Arrival} {a : Arrival} {r r' : Ending},
    s.Call visited a calls r → s.Call visited a calls' r' → calls = calls' ∧ r = r'
  | _, _, _, _, _, _, .again ha, h' => h'.eq_of_mem ha
  | _, _, _, _, _, _, .fails ha horigin, h' => by simpa only [horigin] using h'.of_not_mem ha
  | _, _, _, _, _, _, .finds ha horigin, h' => by simpa only [horigin] using h'.of_not_mem ha
  | _, _, _, _, _, _, .follows ha horigin hmore, h' => by
    have hcalls := h'.of_not_mem ha
    rw [horigin] at hcalls
    obtain ⟨calls', rfl, hmore'⟩ := hcalls
    obtain ⟨rfl, rfl⟩ := hmore.unique hmore'
    exact ⟨rfl, rfl⟩

theorem Calls.unique : ∀ {visited as calls calls' : List Arrival} {r r' : Ending},
    s.Calls visited as calls r → s.Calls visited as calls' r' → calls = calls' ∧ r = r'
  | _, _, _, _, _, _, .nil, .nil => ⟨rfl, rfl⟩
  | _, _, _, _, _, _, .fails ha, .fails ha' => ha.unique ha'
  | _, _, _, _, _, _, .fails ha, .cons ha' _ => nomatch (ha.unique ha').2
  | _, _, _, _, _, _, .cons ha _, .fails ha' => nomatch (ha.unique ha').2
  | _, _, _, _, _, _, .cons ha has, .cons ha' has' => by
    obtain ⟨rfl, hfound⟩ := ha.unique ha'
    cases hfound
    obtain ⟨rfl, rfl⟩ := has.unique has'
    exact ⟨rfl, rfl⟩

end

/-! ### Calls and the walk -/

section

variable {left rest : List Arrival} {found : List Coordinate}

theorem walk_nil (s : Search) (left : List Arrival) (found : List Coordinate) :
    s.walk left found [] = .ok found := by
  rw [walk]

theorem walk_of_not_mem (h : a ∉ left) :
    s.walk left found (a :: rest) = s.walk left found rest := by
  rw [walk, dif_neg h]

theorem walk_of_mem (h : a ∈ left) :
    s.walk left found (a :: rest) =
      match s.origin a with
      | .error e => .error e
      | .ok (.found c) => s.walk (left.filter (· != a)) (found ++ [c]) rest
      | .ok (.further more) => s.walk (left.filter (· != a)) found (more ++ rest) := by
  rw [walk]
  exact dif_pos h

end

/-- Of the arrivals that a walk from `first` can come to, those in `left` have not been followed. -/
def IsLeft (s : Search) (first : Arrival) (visited left : List Arrival) : Prop :=
  ∀ a ∈ first :: s.universe, a ∈ left ↔ a ∉ visited

theorem IsLeft.visit {first : Arrival} {left : List Arrival} (h : s.IsLeft first visited left)
    (a : Arrival) : s.IsLeft first (a :: visited) (left.filter (· != a)) := by
  intro b hb
  rw [List.mem_filter, h b hb, List.mem_cons, not_or, bne_iff_ne, and_comm]

mutual

/-- The walk does for its first arrival what a call for it does, and goes on with the rest. -/
theorem Call.exists_walk_eq {first : Arrival} :
    ∀ {visited calls : List Arrival} {a : Arrival} {r : Ending}, s.Call visited a calls r →
    a ∈ first :: s.universe → ∀ {left : List Arrival}, s.IsLeft first visited left →
    ∃ left', s.IsLeft first (calls ++ visited) left' ∧ ∀ found rest,
      s.walk left found (a :: rest) = r.bind fun ends => s.walk left' (found ++ ends) rest
  | _, _, a, _, .again ha, hmem, left, hleft =>
    ⟨left, hleft, fun found rest => by
      rw [walk_of_not_mem fun h => (hleft a hmem).1 h ha, Except.bind, List.append_nil]⟩
  | _, _, a, _, .fails ha horigin, hmem, _, hleft =>
    ⟨_, hleft.visit a, fun found rest => by
      rw [walk_of_mem ((hleft a hmem).2 ha), horigin]
      rfl⟩
  | _, _, a, _, .finds ha horigin, hmem, _, hleft =>
    ⟨_, hleft.visit a, fun found rest => by
      rw [walk_of_mem ((hleft a hmem).2 ha), horigin]
      rfl⟩
  | _, _, a, _, .follows ha horigin hmore, hmem, _, hleft => by
    have hknown := fun b hb =>
      List.mem_cons_of_mem first (mem_universe ((continues_iff_of_further horigin b).2 hb))
    obtain ⟨left', hleft', hwalk⟩ := hmore.exists_walk_eq hknown (hleft.visit a)
    refine ⟨left', fun b hb => ?_, fun found rest => ?_⟩
    · rw [hleft' b hb]
      simp only [List.mem_append, List.mem_cons, List.cons_append, or_left_comm]
    · rw [walk_of_mem ((hleft a hmem).2 ha), horigin]
      exact hwalk found rest

theorem Calls.exists_walk_eq {first : Arrival} :
    ∀ {visited as calls : List Arrival} {r : Ending}, s.Calls visited as calls r →
    (∀ a ∈ as, a ∈ first :: s.universe) → ∀ {left : List Arrival}, s.IsLeft first visited left →
    ∃ left', s.IsLeft first (calls ++ visited) left' ∧ ∀ found rest,
      s.walk left found (as ++ rest) = r.bind fun ends => s.walk left' (found ++ ends) rest
  | _, _, _, _, .nil, _, left, hleft =>
    ⟨left, hleft, fun found rest => by rw [List.nil_append, Except.bind, List.append_nil]⟩
  | _, _, _, _, .fails ha, hmem, _, hleft => by
    rw [List.forall_mem_cons] at hmem
    obtain ⟨left', hleft', hwalk⟩ := ha.exists_walk_eq hmem.1 hleft
    exact ⟨left', hleft', fun found rest => hwalk found _⟩
  | _, _, _, _, .cons (r := r) ha has, hmem, _, hleft => by
    rw [List.forall_mem_cons] at hmem
    obtain ⟨left', hleft', hwalk⟩ := ha.exists_walk_eq hmem.1 hleft
    obtain ⟨left'', hleft'', hwalk'⟩ := has.exists_walk_eq hmem.2 hleft'
    refine ⟨left'', fun b hb => ?_, fun found rest => ?_⟩
    · -- the arrivals of the later calls stand in front of those of the first one
      rw [hleft'' b hb]
      simp only [List.mem_append, or_left_comm, or_assoc]
    · rw [List.cons_append, hwalk, Except.bind, hwalk']
      cases r with
      | error e => rfl
      | ok ends => simp only [Except.map, Except.bind, List.append_assoc]

end

/-- The walk from an arrival comes to what the call for it comes to. -/
theorem Call.eq_walk {first : Arrival} (h : s.Call [] first calls r) :
    r = s.walk (first :: s.universe) [] [first] := by
  have hleft : s.IsLeft first [] (first :: s.universe) := fun b hb =>
    iff_of_true hb List.not_mem_nil
  obtain ⟨left', -, hwalk⟩ := h.exists_walk_eq List.mem_cons_self hleft
  rw [hwalk]
  cases r with
  | error e => rfl
  | ok ends => rw [Except.bind, walk_nil, List.nil_append]

/-! ### Resolution -/

/-- What is checked before the walk. -/
def check (s : Search) (start : String) : Except PairedItemError Unit :=
  if s.runData.isEmpty then .error .noExecutionData
  else if !Fields.has s.runData s.target then .error (.noNodeExecutionData s.target)
  else if (s.graph.parent? start 0).isNone && (s.graph.parent? start 1).isNone then
    .error (.noInputConnection start)
  else if !(s.graph.ancestors start).contains s.target then .error (.noConnection start s.target)
  else if !(s.missingNodes (s.graph.ancestors start)).isEmpty then
    .error (.intermediateNodes (s.missingNodes (s.graph.ancestors start)))
  else .ok ()

/-- The item that the ends of the walk lead to. -/
def answer (s : Search) (start : String) (found : List Coordinate) : Except PairedItemError Json :=
  match found.eraseDups with
  | [] => .error (.noConnection start s.target)
  | [c] =>
    match (s.runData.task? s.target s.run).bind fun t => (t.output c.output)[c.item]? with
    | some item => .ok item.json
    | none =>
      .error (.invalidInfo s.target ("item " ++ Text.Digit.decimal c.item ++ " does not exist"))
  | _ :: _ :: _ => .error (.invalidInfo s.target "the item has multiple matching upstream items")

end Search

/-- A search that walks by calls has a result. -/
inductive Resolves (g : WorkflowGraph) (d : RunData) (start : ItemPointer) (target : String) :
    Except PairedItemError Json → Prop
  | refused {e} (hcheck : Search.check ⟨g, d, start.runIndex, target⟩ start.node = .error e) :
    Resolves g d start target (.error e)
  | walked {calls r} (hcheck : Search.check ⟨g, d, start.runIndex, target⟩ start.node = .ok ())
    (hcall : Search.Call ⟨g, d, start.runIndex, target⟩ [] ⟨start.node, 0, start.itemIndex⟩
      calls r) :
    Resolves g d start target (r.bind (Search.answer ⟨g, d, start.runIndex, target⟩ start.node))

/-- The search checks, walks and answers. -/
theorem resolve_eq (g : WorkflowGraph) (d : RunData) (start : ItemPointer) (target : String) :
    let s : Search := ⟨g, d, start.runIndex, target⟩
    let first : Arrival := ⟨start.node, 0, start.itemIndex⟩
    resolve g d start target = (s.check start.node).bind fun _ =>
      (s.walk (first :: s.universe) [] [first]).bind (s.answer start.node) := by
  intro s first
  unfold resolve Search.check
  dsimp only
  split_ifs
  case neg =>
    rw [Except.bind]
    cases Search.walk _ _ _ _ <;> rfl
  all_goals rfl

/-- On every graph and every run, a call for an arrival ends, and so does a search for an item, in
one way and as the walk and the search over lists do. The call follows no arrival twice, and no more
arrivals than there are different ones among the first and those that a node of the graph and a
source that the run records make up. -/
theorem calls_spec (g : WorkflowGraph) (d : RunData) (target : String) :
    (∀ (run : Option Nat) (first : Arrival),
      let s : Search := ⟨g, d, run, target⟩
      ∃ calls : List Arrival, calls.Nodup ∧ calls.length ≤ (insert first s.arrivals).card ∧
        ∀ calls' r, s.Call [] first calls' r ↔
          calls' = calls ∧ r = s.walk (first :: s.universe) [] [first]) ∧
    ∀ (start : ItemPointer) (result : Except PairedItemError Json),
      Resolves g d start target result ↔ result = resolve g d start target := by
  constructor
  · intro run first s
    obtain ⟨calls, r, hcall⟩ := s.exists_call [] first
    have hnodup : calls.Nodup := by simpa using hcall.nodup_append List.nodup_nil
    refine ⟨calls, hnodup, hcall.length_le hnodup, fun calls' r' => ⟨fun h => ?_, ?_⟩⟩
    · exact ⟨(hcall.unique h).1.symm, h.eq_walk⟩
    · rintro ⟨rfl, rfl⟩
      exact hcall.eq_walk ▸ hcall
  · intro start result
    rw [resolve_eq]
    constructor
    · intro h
      cases h with
      | refused hcheck => rw [hcheck, Except.bind]
      | walked hcheck hcall => rw [hcheck, hcall.eq_walk, Except.bind]
    · rintro rfl
      cases hcheck : Search.check ⟨g, d, start.runIndex, target⟩ start.node with
      | error e => exact .refused hcheck
      | ok =>
        obtain ⟨calls, r, hcall⟩ := Search.exists_call ⟨g, d, start.runIndex, target⟩ []
          ⟨start.node, 0, start.itemIndex⟩
        rw [← hcall.eq_walk]
        exact .walked hcheck hcall

end Lineage

end TemplateExpr
