import Mathlib.Data.List.Nodup
import Mathlib.Logic.Relation
import TemplateExpr.Lineage.Graph

/-!
# Workflow graphs and their connections

The sources, the parents and the ancestors of a node depend on the connections of the graph. The
nodes that it lists are not read. The ancestors are the nodes from which one or more connections lead
to the node (`WorkflowGraph.mem_ancestors_iff`).

They are found by a search in breadth. Each round takes a node from the front of a queue and puts
those of its sources behind the queue that have not been seen. The search ends, whatever the graph,
with one round for the node and one for each of its ancestors; what it has seen then are the starts
of the paths to the node (`WorkflowGraph.ancestors_spec`).
-/

namespace TemplateExpr

namespace WorkflowGraph

variable {g g' : WorkflowGraph}

theorem parent?_congr (h : g.connections = g'.connections) (node : String) (input : Nat) :
    g.parent? node input = g'.parent? node input := by
  rw [parent?, parent?, h]

theorem sources_congr (h : g.connections = g'.connections) (node : String) :
    g.sources node = g'.sources node := by
  rw [sources, sources, h]

/-! ### Steps through the queue -/

theorem ancestorsLoop_nil (g : WorkflowGraph) (unseen seen : List String) :
    g.ancestorsLoop unseen seen [] = seen := by
  rw [ancestorsLoop]

/-- A source that has not been seen is put behind the queue. -/
theorem ancestorsLoop_of_find?_eq_some {unseen : List String} {node source : String}
    (h : (g.sources node).find? unseen.contains = some source) (seen queue : List String) :
    g.ancestorsLoop unseen seen (node :: queue) =
      g.ancestorsLoop (unseen.filter (· != source)) (source :: seen) (node :: queue ++ [source]) := by
  rw [ancestorsLoop]
  split
  · next source' hsource =>
    obtain rfl : source = source' := Option.some.inj (h.symm.trans hsource)
    rfl
  · next hnone =>
    rw [h] at hnone
    cases hnone

/-- A node whose sources have all been seen is done. -/
theorem ancestorsLoop_of_find?_eq_none {unseen : List String} {node : String}
    (h : (g.sources node).find? unseen.contains = none) (seen queue : List String) :
    g.ancestorsLoop unseen seen (node :: queue) = g.ancestorsLoop unseen seen queue := by
  rw [ancestorsLoop]
  split
  · next hsource =>
    rw [h] at hsource
    cases hsource
  · rfl

theorem ancestorsLoop_congr (h : g.connections = g'.connections)
    (unseen seen queue : List String) :
    g.ancestorsLoop unseen seen queue = g'.ancestorsLoop unseen seen queue := by
  induction unseen, seen, queue using ancestorsLoop.induct g with
  | case1 unseen seen => rw [ancestorsLoop_nil, ancestorsLoop_nil]
  | case2 unseen seen node queue source hs hlt ih =>
    simp only [List.unattach_filter, List.unattach_attach] at ih
    have hs' := hs
    rw [sources_congr h] at hs'
    rw [ancestorsLoop_of_find?_eq_some hs, ancestorsLoop_of_find?_eq_some hs', ih]
  | case3 unseen seen node queue hs ih =>
    have hs' := hs
    rw [sources_congr h] at hs'
    rw [ancestorsLoop_of_find?_eq_none hs, ancestorsLoop_of_find?_eq_none hs', ih]

theorem ancestors_congr (h : g.connections = g'.connections) (node : String) :
    g.ancestors node = g'.ancestors node := by
  rw [ancestors, ancestors, allSources, allSources, h, ancestorsLoop_congr h]

/-! ### Reachability -/

/-- A connection leads from `m` to `n`. -/
def Feeds (g : WorkflowGraph) (m n : String) : Prop :=
  ∃ c ∈ g.connections, c.source = m ∧ c.destination = n

/-- One or more connections lead from `m` to `n`. -/
def Upstream (g : WorkflowGraph) : String → String → Prop := Relation.TransGen g.Feeds

theorem mem_sources_iff {m n : String} : m ∈ g.sources n ↔ g.Feeds m n := by
  simp only [sources, Feeds, List.mem_map, List.mem_filter, beq_iff_eq]
  constructor
  · rintro ⟨c, ⟨hc, hn⟩, hm⟩
    exact ⟨c, hc, hm, hn⟩
  · rintro ⟨c, hc, hm, hn⟩
    exact ⟨c, ⟨hc, hn⟩, hm⟩

theorem mem_allSources {m n : String} (h : g.Feeds m n) : m ∈ g.allSources := by
  obtain ⟨c, hc, hm, -⟩ := h
  exact List.mem_map.2 ⟨c, hc, hm⟩

/-- How far the nodes upstream of `node` have been explored. -/
structure Explored (g : WorkflowGraph) (node : String) (unseen seen queue : List String) :
    Prop where
  seen_of_not_unseen : ∀ m ∈ g.allSources, m ∉ unseen → m ∈ seen
  upstream : ∀ m ∈ seen, g.Upstream m node
  queued : ∀ m ∈ queue, m = node ∨ m ∈ seen
  /-- The sources of a node that is no longer in the queue have been seen. -/
  done : ∀ m, m = node ∨ m ∈ seen → m ∉ queue → ∀ source ∈ g.sources m, source ∈ seen

namespace Explored

variable {node m source : String} {unseen seen queue : List String}

theorem start (g : WorkflowGraph) (node : String) : g.Explored node g.allSources [] [node] where
  seen_of_not_unseen _ hm hnot := absurd hm hnot
  upstream _ hm := absurd hm List.not_mem_nil
  queued _ hm := .inl (List.mem_singleton.1 hm)
  done m hm hnot := by
    rcases hm with rfl | hm
    · exact absurd List.mem_cons_self hnot
    · cases hm

theorem see (h : g.Explored node unseen seen (m :: queue))
    (hs : (g.sources m).find? unseen.contains = some source) :
    g.Explored node (unseen.filter (· != source)) (source :: seen) (m :: queue ++ [source]) where
  seen_of_not_unseen k hk hnot := by
    by_cases heq : k = source
    · exact heq ▸ List.mem_cons_self
    · refine List.mem_cons_of_mem _ (h.seen_of_not_unseen k hk fun hmem => hnot ?_)
      exact List.mem_filter.2 ⟨hmem, by simpa using heq⟩
  upstream k hk := by
    have hfeeds : g.Feeds source m := mem_sources_iff.1 (List.mem_of_find?_eq_some hs)
    rcases List.mem_cons.1 hk with rfl | hk
    · rcases h.queued m List.mem_cons_self with rfl | hm
      · exact .single hfeeds
      · exact .head hfeeds (h.upstream m hm)
    · exact h.upstream k hk
  queued k hk := by
    rcases List.mem_append.1 hk with hk | hk
    · exact (h.queued k hk).imp_right (List.mem_cons_of_mem _)
    · exact .inr (List.mem_singleton.1 hk ▸ List.mem_cons_self)
  done k hk hnot k' hk' := by
    have hqueue : k ∉ m :: queue := fun hmem => hnot (List.mem_append_left _ hmem)
    have hne : k ≠ source := fun heq =>
      hnot (List.mem_append_right _ (List.mem_singleton.2 heq))
    have hseen : k = node ∨ k ∈ seen :=
      hk.imp_right fun hmem => (List.mem_cons.1 hmem).resolve_left hne
    exact List.mem_cons_of_mem _ (h.done k hseen hqueue k' hk')

theorem finish (h : g.Explored node unseen seen (m :: queue))
    (hs : (g.sources m).find? unseen.contains = none) : g.Explored node unseen seen queue where
  seen_of_not_unseen := h.seen_of_not_unseen
  upstream := h.upstream
  queued k hk := h.queued k (List.mem_cons_of_mem _ hk)
  done k hk hnot source hsource := by
    by_cases heq : k = m
    · have hunseen := List.find?_eq_none.1 hs source (heq ▸ hsource)
      exact h.seen_of_not_unseen source (mem_allSources (mem_sources_iff.1 hsource))
        fun hmem => hunseen (List.contains_iff_mem.2 hmem)
    · exact h.done k hk (fun hmem => (List.mem_cons.1 hmem).elim heq hnot) source hsource

/-- When the queue is empty, all nodes upstream have been seen. -/
theorem mem_of_upstream (h : g.Explored node unseen seen []) (hm : g.Upstream m node) :
    m ∈ seen := by
  induction hm using Relation.TransGen.head_induction_on with
  | single hfeeds =>
    exact h.done node (.inl rfl) List.not_mem_nil _ (mem_sources_iff.2 hfeeds)
  | head hfeeds _ ih =>
    exact h.done _ (.inr ih) List.not_mem_nil _ (mem_sources_iff.2 hfeeds)

theorem mem_ancestorsLoop_iff (h : g.Explored node unseen seen queue) :
    m ∈ g.ancestorsLoop unseen seen queue ↔ g.Upstream m node := by
  induction unseen, seen, queue using ancestorsLoop.induct g with
  | case1 unseen seen =>
    rw [ancestorsLoop_nil]
    exact ⟨h.upstream m, h.mem_of_upstream⟩
  | case2 unseen seen k queue source hs hlt ih =>
    simp only [List.unattach_filter, List.unattach_attach] at ih
    rw [ancestorsLoop_of_find?_eq_some hs, ih (h.see hs)]
  | case3 unseen seen k queue hs ih =>
    rw [ancestorsLoop_of_find?_eq_none hs, ih (h.finish hs)]

end Explored

/-- The ancestors of a node are the nodes upstream of it. -/
theorem mem_ancestors_iff {m n : String} : m ∈ g.ancestors n ↔ g.Upstream m n :=
  (Explored.start g n).mem_ancestorsLoop_iff

/-! ### A single connection -/

section Single

variable {source destination : String} (h : source ≠ destination) (nodes : List (String × NodeInfo))
  (output input : Nat)
include h

/-- The destination of the only connection has its source as ancestor. -/
theorem ancestors_single :
    ancestors ⟨nodes, [⟨source, output, destination, input⟩]⟩ destination = [source] := by
  have hfirst : (sources ⟨nodes, [⟨source, output, destination, input⟩]⟩ destination).find?
      [source].contains = some source := by
    simp [sources]
  have hall : allSources ⟨nodes, [⟨source, output, destination, input⟩]⟩ = [source] := rfl
  rw [ancestors, hall, ancestorsLoop_of_find?_eq_some hfirst, List.cons_append, List.nil_append,
    ancestorsLoop_of_find?_eq_none, ancestorsLoop_of_find?_eq_none, ancestorsLoop_nil]
  · simp [sources, h.symm]
  · simp [sources]

/-- The source of the only connection has no ancestors. -/
theorem ancestors_source :
    ancestors ⟨nodes, [⟨source, output, destination, input⟩]⟩ source = [] := by
  rw [ancestors, ancestorsLoop_of_find?_eq_none, ancestorsLoop_nil]
  simp [sources, h.symm]

end Single

section Paths

variable {m n k : String} {c : Connection} {path path' : List Connection}

/-! ### Paths -/

/-- The connections, one or more, lead one behind the other from `m` to `n`. -/
inductive IsPath (g : WorkflowGraph) : String → List Connection → String → Prop
  | single {c : Connection} (hc : c ∈ g.connections) : IsPath g c.source [c] c.destination
  | cons {c : Connection} {path : List Connection} {n : String} (hc : c ∈ g.connections)
    (hpath : IsPath g c.destination path n) : IsPath g c.source (c :: path) n

namespace IsPath

theorem append (h : g.IsPath m path k) (h' : g.IsPath k path' n) :
    g.IsPath m (path ++ path') n := by
  induction h with
  | single hc => exact .cons hc h'
  | cons hc _ ih => exact .cons hc (ih h')

theorem upstream (h : g.IsPath m path n) : g.Upstream m n := by
  induction h with
  | @single c hc => exact .single ⟨c, hc, rfl, rfl⟩
  | @cons c _ _ hc _ ih => exact .head ⟨c, hc, rfl, rfl⟩ ih

/-- A path goes on from each node that it leaves. -/
theorem exists_suffix (h : g.IsPath m path n) (hk : k ∈ path.map (·.source)) :
    ∃ rest, g.IsPath k rest n ∧ rest <:+ path := by
  induction h with
  | @single c hc =>
    obtain rfl : k = c.source := by simpa using hk
    exact ⟨[c], .single hc, List.suffix_rfl⟩
  | @cons c path n hc hpath ih =>
    rcases List.mem_cons.1 hk with rfl | hk
    · exact ⟨c :: path, .cons hc hpath, List.suffix_rfl⟩
    · obtain ⟨rest, hrest, hsuffix⟩ := ih hk
      exact ⟨rest, hrest, hsuffix.trans (List.suffix_cons c path)⟩

/-- A path comes to each node that it leaves, unless it starts there. -/
theorem eq_or_exists_path_to (h : g.IsPath m path n) (hk : k ∈ path.map (·.source)) :
    m = k ∨ ∃ front, g.IsPath m front k := by
  induction h with
  | single hc => exact .inl (List.mem_singleton.1 hk).symm
  | @cons c path n hc hpath ih =>
    rcases List.mem_cons.1 hk with rfl | hk
    · exact .inl rfl
    · rcases ih hk with rfl | ⟨front, hfront⟩
      · exact .inr ⟨[c], .single hc⟩
      · exact .inr ⟨c :: front, .cons hc hfront⟩

/-- Between the ends of a path there is one that leaves no node twice. -/
theorem exists_nodup (h : g.IsPath m path n) :
    ∃ path', g.IsPath m path' n ∧ (path'.map (·.source)).Nodup := by
  induction h with
  | @single c hc => exact ⟨[c], .single hc, List.nodup_singleton c.source⟩
  | @cons c path n hc hpath ih =>
    obtain ⟨path', hpath', hnodup⟩ := ih
    by_cases hmem : c.source ∈ path'.map (·.source)
    · -- the path comes back to its start, and goes on from there
      obtain ⟨rest, hrest, hsuffix⟩ := hpath'.exists_suffix hmem
      exact ⟨rest, hrest, hnodup.sublist (hsuffix.sublist.map _)⟩
    · exact ⟨c :: path', .cons hc hpath', List.nodup_cons.2 ⟨hmem, hnodup⟩⟩

end IsPath

/-- A node is upstream of another if and only if there is a path from it to the other. -/
theorem upstream_iff : g.Upstream m n ↔ ∃ path, g.IsPath m path n := by
  constructor
  · intro h
    induction h using Relation.TransGen.head_induction_on with
    | single hfeeds =>
      obtain ⟨c, hc, rfl, rfl⟩ := hfeeds
      exact ⟨[c], .single hc⟩
    | head hfeeds _ ih =>
      obtain ⟨c, hc, rfl, rfl⟩ := hfeeds
      obtain ⟨path, hpath⟩ := ih
      exact ⟨c :: path, .cons hc hpath⟩
  · rintro ⟨path, hpath⟩
    exact hpath.upstream

/-! ### Cycles -/

/-- The connections lead from a node back to it and leave no node twice. -/
def IsCycle (g : WorkflowGraph) (cycle : List Connection) : Prop :=
  ∃ n, g.IsPath n cycle n ∧ (cycle.map (·.source)).Nodup

/-- The node is one of those that the connections of a cycle come from. -/
def OnCycle (g : WorkflowGraph) (n : String) : Prop :=
  ∃ cycle, g.IsCycle cycle ∧ n ∈ cycle.map (·.source)

theorem IsPath.source_mem (h : g.IsPath m path n) : m ∈ path.map (·.source) := by
  cases h <;> exact List.mem_cons_self

theorem upstream_self_iff : g.Upstream n n ↔ g.OnCycle n := by
  constructor
  · intro h
    obtain ⟨path, hpath⟩ := upstream_iff.1 h
    obtain ⟨cycle, hcycle, hnodup⟩ := hpath.exists_nodup
    exact ⟨cycle, ⟨n, hcycle, hnodup⟩, hcycle.source_mem⟩
  · rintro ⟨cycle, ⟨start, hcycle, -⟩, hn⟩
    -- along the cycle to its start, and from there to the node again
    obtain ⟨rest, hrest, -⟩ := hcycle.exists_suffix hn
    rcases hcycle.eq_or_exists_path_to hn with rfl | ⟨front, hfront⟩
    · exact hrest.upstream
    · exact (hrest.append hfront).upstream

/-! ### The search in breadth -/

/-- The nodes that have been seen, the last one first, and those whose sources are to be seen. -/
structure Frontier where
  seen : List String
  queue : List String

/-- A source that has not been seen is put behind the queue. -/
def Frontier.add (f : Frontier) (source : String) : Frontier :=
  if source ∈ f.seen then f else ⟨source :: f.seen, f.queue ++ [source]⟩

/-- What a round adds: the sources of a node, one by one. -/
def Frontier.addAll (f : Frontier) (sources : List String) : Frontier := sources.foldl add f

/-- The search ends after a number of rounds and has seen the nodes of the list then. -/
inductive Ends (g : WorkflowGraph) : Frontier → Nat → List String → Prop
  | done (seen : List String) : Ends g ⟨seen, []⟩ 0 seen
  | round {seen queue result : List String} {node : String} {rounds : Nat}
    (h : Ends g (Frontier.addAll ⟨seen, queue⟩ (g.sources node)) rounds result) :
    Ends g ⟨seen, node :: queue⟩ (rounds + 1) result

section

variable {f : Frontier} {sources result result' seen queue unseen : List String}
  {source node : String} {rounds rounds' : Nat}

theorem Frontier.add_of_mem (h : source ∈ f.seen) : f.add source = f := if_pos h

theorem Frontier.add_of_not_mem (h : source ∉ f.seen) :
    f.add source = ⟨source :: f.seen, f.queue ++ [source]⟩ := if_neg h

theorem Frontier.addAll_cons (f : Frontier) (source : String) (sources : List String) :
    f.addAll (source :: sources) = (f.add source).addAll sources := rfl

/-- What holds before a round, and behind each node that is added, holds behind the round. -/
theorem Frontier.addAll_induction {P : Frontier → Prop} (hf : P f)
    (hadd : ∀ f', P f' → ∀ source ∉ f'.seen, P ⟨source :: f'.seen, f'.queue ++ [source]⟩) :
    P (f.addAll sources) := by
  refine List.foldlRecOn sources add hf fun f' hf' source _ => ?_
  by_cases hmem : source ∈ f'.seen
  · rwa [add_of_mem hmem]
  · rw [add_of_not_mem hmem]
    exact hadd f' hf' source hmem

namespace Ends

/-- The search ends in one way only. -/
theorem unique (h : g.Ends f rounds result) (h' : g.Ends f rounds' result') :
    rounds' = rounds ∧ result' = result := by
  induction h generalizing rounds' with
  | done seen =>
    cases h' with
    | done => exact ⟨rfl, rfl⟩
  | round _ ih =>
    cases h' with
    | round h' =>
      obtain ⟨rfl, rfl⟩ := ih h'
      exact ⟨rfl, rfl⟩

/-- Each node is seen once. -/
theorem nodup (h : g.Ends f rounds result) (hf : f.seen.Nodup) : result.Nodup := by
  induction h with
  | done seen => exact hf
  | @round seen queue result node rounds h ih =>
    exact ih (Frontier.addAll_induction (P := fun f => f.seen.Nodup) hf
      fun _ hf' _ hmem => List.nodup_cons.2 ⟨hmem, hf'⟩)

/-- There is a round for each node in the queue and for each that is seen. -/
theorem rounds_add (h : g.Ends f rounds result) :
    rounds + f.seen.length = f.queue.length + result.length := by
  induction h with
  | done seen => simp
  | @round seen queue result node rounds h ih =>
    -- a source that a round adds is one more in the queue and one more that has been seen
    have hround : (Frontier.addAll ⟨seen, queue⟩ (g.sources node)).queue.length + seen.length =
        queue.length + (Frontier.addAll ⟨seen, queue⟩ (g.sources node)).seen.length := by
      refine Frontier.addAll_induction
        (P := fun f => f.queue.length + seen.length = queue.length + f.seen.length) rfl
        fun f' hf' source _ => ?_
      simp only [List.length_append, List.length_cons, List.length_nil]
      omega
    simp only [List.length_cons]
    omega

end Ends

/-- The nodes that are kept as unseen are the sources that have not been seen. -/
def Complements (g : WorkflowGraph) (unseen seen : List String) : Prop :=
  ∀ source ∈ g.allSources, source ∈ unseen ↔ source ∉ seen

theorem Complements.see (h : g.Complements unseen seen) (source : String) :
    g.Complements (unseen.filter (· != source)) (source :: seen) := by
  intro m hm
  rw [List.mem_filter, h m hm, List.mem_cons, not_or, bne_iff_ne, and_comm]

theorem Complements.mem_iff (h : g.Complements unseen seen) (hsource : source ∈ g.sources node) :
    source ∈ unseen ↔ source ∉ seen :=
  h source (mem_allSources (mem_sources_iff.1 hsource))

/-- Nothing is found among sources that have all been seen. -/
theorem Complements.find?_eq_none (h : g.Complements unseen seen)
    (hsub : ∀ source ∈ sources, source ∈ g.sources node)
    (hseen : ∀ source ∈ sources, source ∈ seen) : sources.find? unseen.contains = none := by
  refine List.find?_eq_none.2 fun source hsource => ?_
  rw [List.contains_iff_mem, h.mem_iff (hsub source hsource)]
  exact not_not_intro (hseen source hsource)

/-- The loop adds the unseen sources of a node one by one, behind those in `front` that have been
seen, and is then where the next round starts. -/
theorem exists_ancestorsLoop_eq (front : List String) (hsplit : g.sources node = front ++ sources)
    (hfront : ∀ source ∈ front, source ∈ f.seen) (h : g.Complements unseen f.seen) :
    ∃ unseen', g.Complements unseen' (f.addAll sources).seen ∧
      unseen'.length + (f.addAll sources).queue.length ≤ unseen.length + f.queue.length ∧
      g.ancestorsLoop unseen f.seen (node :: f.queue) =
        g.ancestorsLoop unseen' (f.addAll sources).seen (f.addAll sources).queue := by
  induction sources generalizing f unseen front with
  | nil =>
    rw [List.append_nil] at hsplit
    have hnone : (g.sources node).find? unseen.contains = none :=
      h.find?_eq_none (fun _ => id) (hsplit ▸ hfront)
    exact ⟨unseen, h, Nat.le_refl _, ancestorsLoop_of_find?_eq_none hnone _ _⟩
  | cons source sources ih =>
    rw [Frontier.addAll_cons]
    have hsplit' : g.sources node = (front ++ [source]) ++ sources := by
      rw [hsplit, List.append_assoc, List.singleton_append]
    by_cases hmem : source ∈ f.seen
    · rw [Frontier.add_of_mem hmem]
      have hseen : ∀ m ∈ front ++ [source], m ∈ f.seen :=
        List.forall_mem_append.2 ⟨hfront, List.forall_mem_singleton.2 hmem⟩
      exact ih (front ++ [source]) hsplit' hseen h
    · rw [Frontier.add_of_not_mem hmem]
      have hunseen : source ∈ unseen :=
        (h.mem_iff (hsplit ▸ List.mem_append_right _ List.mem_cons_self)).2 hmem
      have hfind : (g.sources node).find? unseen.contains = some source := by
        -- the loop looks through all the sources again and passes over those in front
        have hnone : front.find? unseen.contains = none :=
          h.find?_eq_none (fun m hm => hsplit ▸ List.mem_append_left _ hm) hfront
        rw [hsplit, List.find?_append, hnone, Option.none_or,
          List.find?_cons_of_pos (List.contains_iff_mem.2 hunseen)]
      have hlt : (unseen.filter (· != source)).length < unseen.length := by
        refine List.length_filter_lt_length_iff_exists.2 ⟨source, hunseen, ?_⟩
        simp
      obtain ⟨unseen', hcomplements, hle, hloop⟩ :=
        ih (f := ⟨source :: f.seen, f.queue ++ [source]⟩) (front ++ [source]) hsplit'
          (List.forall_mem_append.2 ⟨fun m hm => List.mem_cons_of_mem _ (hfront m hm), by simp⟩)
          (h.see source)
      refine ⟨unseen', hcomplements, ?_, ?_⟩
      · simp only [List.length_append, List.length_cons, List.length_nil] at hle
        omega
      · rw [ancestorsLoop_of_find?_eq_some hfind]
        exact hloop

/-- The search ends, and what it has seen then are the nodes that the loop lists. -/
theorem exists_ends (h : g.Complements unseen f.seen) :
    ∃ rounds, g.Ends f rounds (g.ancestorsLoop unseen f.seen f.queue) := by
  -- each round takes a node from the queue, and a node that is put there was unseen before
  induction hsize : unseen.length + f.queue.length using Nat.strongRecOn
    generalizing f unseen with
  | ind size ih =>
    obtain ⟨seen, queue⟩ := f
    cases queue with
    | nil => exact ⟨0, by rw [ancestorsLoop_nil]; exact .done seen⟩
    | cons node queue =>
      obtain ⟨unseen', hcomplements, hle, hloop⟩ :=
        exists_ancestorsLoop_eq (f := ⟨seen, queue⟩) [] rfl
          (fun _ hm => absurd hm List.not_mem_nil) h
      obtain ⟨rounds, hrounds⟩ := ih _ (by simp only [List.length_cons] at hsize hle; omega)
        hcomplements rfl
      exact ⟨rounds + 1, by rw [hloop]; exact .round hrounds⟩

end

/-- For every graph and node, the search in breadth for the ancestors of the node ends, after one
round for the node and one for each ancestor. The ancestors are the nodes from which a path of one
or more connections leads to the node; the node itself is one of them if and only if it lies on a
cycle. -/
theorem ancestors_spec (g : WorkflowGraph) (n : String) :
    (∀ rounds seen, g.Ends ⟨[], [n]⟩ rounds seen ↔
      rounds = (g.ancestors n).length + 1 ∧ seen = g.ancestors n) ∧
    (g.ancestors n).Nodup ∧
    (∀ m, m ∈ g.ancestors n ↔ ∃ path, g.IsPath m path n) ∧
    (n ∈ g.ancestors n ↔ g.OnCycle n) := by
  have hstart : g.Complements g.allSources [] := fun source hsource =>
    iff_of_true hsource List.not_mem_nil
  obtain ⟨rounds, hends⟩ := exists_ends (f := ⟨[], [n]⟩) hstart
  have hrounds : rounds = (g.ancestors n).length + 1 := by
    have hcount := hends.rounds_add
    simp only [List.length_nil, List.length_cons] at hcount
    rw [ancestors]
    omega
  refine ⟨fun rounds' seen => ⟨fun h => ?_, ?_⟩, hends.nodup List.nodup_nil,
    fun m => mem_ancestors_iff.trans upstream_iff, mem_ancestors_iff.trans upstream_self_iff⟩
  · obtain ⟨hrounds', hseen⟩ := hends.unique h
    exact ⟨hrounds'.trans hrounds, hseen⟩
  · rintro ⟨rfl, rfl⟩
    exact hrounds ▸ hends

end Paths

end WorkflowGraph

end TemplateExpr
