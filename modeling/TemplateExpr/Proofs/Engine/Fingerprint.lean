import TemplateExpr.Proofs.Context.Fingerprint
import TemplateExpr.Proofs.Engine.Compute
import TemplateExpr.Proofs.Lineage.Trace

/-!
# The full fingerprint

What is computed for two contexts of JSON data with the same time and the same full fingerprint is
the same, if their workflows have the same connections and their indices are small enough to be told
apart as doubles. The fingerprint does not tell the connections, although the origin of an item
depends on them.
-/

namespace TemplateExpr

open TemplateExpr.Eval

namespace Context

/-- Two contexts that differ in the nodes of the graph at most. -/
structure SameData (c c' : Context) : Prop where
  json : c.json = c'.json
  nodes : c.nodes = c'.nodes
  env : c.env = c'.env
  input : c.input = c'.input
  runIndex : c.runIndex = c'.runIndex
  itemIndex : c.itemIndex = c'.itemIndex
  now : c.now = c'.now
  origin : c.origin = c'.origin
  connections : c.lineage.map (·.graph.connections) = c'.lineage.map (·.graph.connections)

namespace SameData

variable {c c' : Context}

/-- The origin of items is known in both contexts or in neither. -/
theorem lineage_cases (h : c.SameData c') : c.lineage = none ∧ c'.lineage = none ∨
    ∃ l l', c.lineage = some l ∧ c'.lineage = some l' ∧ l.node = l'.node ∧
      l.runData = l'.runData ∧ l.graph.connections = l'.graph.connections := by
  have horigin := h.origin
  have hconnections := h.connections
  rw [Context.origin, Context.origin] at horigin
  cases hl : c.lineage <;> cases hl' : c'.lineage <;> rw [hl, hl'] at horigin hconnections
  · exact .inl ⟨rfl, rfl⟩
  · exact nomatch horigin
  · exact nomatch horigin
  · obtain ⟨hnode, hdata⟩ := Prod.mk.inj (Option.some.inj horigin)
    exact .inr ⟨_, _, rfl, rfl, hnode, hdata, Option.some.inj hconnections⟩

theorem nodeOutput?_eq (h : c.SameData c') (node : String) :
    c.nodeOutput? node = c'.nodeOutput? node := by
  rw [nodeOutput?, nodeOutput?, h.nodes]

theorem output_eq (h : c.SameData c') (node : String) : c.output node = c'.output node := by
  rw [output, output, h.nodeOutput?_eq]

theorem nodeItems_eq (h : c.SameData c') (node : String) : c.nodeItems node = c'.nodeItems node := by
  rcases h.lineage_cases with ⟨hl, hl'⟩ | ⟨l, l', hl, hl', -, hdata, -⟩
  · rw [nodeItems, nodeItems, hl, hl', h.nodeOutput?_eq]
  · rw [nodeItems, nodeItems, hl, hl', h.nodeOutput?_eq]
    simp only [Option.bind_some, LineageData.outputItems?, hdata]

/-- The origin of an item depends on the connections, not on the nodes of the graph. -/
theorem pairedItem_eq (h : c.SameData c') (node : String) (index : Option Nat) :
    c.pairedItem node index = c'.pairedItem node index := by
  rcases h.lineage_cases with ⟨hl, hl'⟩ | ⟨l, l', hl, hl', hnode, hdata, hconnections⟩
  · rw [pairedItem, pairedItem, hl, hl', h.nodeOutput?_eq]
  · rw [pairedItem, pairedItem, hl, hl', h.itemIndex, h.runIndex]
    dsimp only
    rw [hnode, hdata, Lineage.resolve_congr hconnections]

theorem currentInput_eq (h : c.SameData c') : c.currentInput = c'.currentInput := by
  rw [currentInput, currentInput, h.input, h.itemIndex, h.json]

end SameData

/-- Values that are told by their marks have no hosts and no functions. -/
theorem IsTold.isData {c : Context} (hc : c.IsTold) : c.IsData where
  json := hc.json.admits_data
  nodes node hnode := (hc.nodes node hnode).admits_data
  input item hitem := (hc.input item hitem).admits_data

/-- Contexts with the same data cannot be told apart. -/
theorem SameData.shares {c c' : Context} (h : c.SameData c') (hc : c.IsData) (s : Sandbox) :
    (s.sameRuns c c').Shares (fun _ => True) (fun _ => True) where
  output node _ := h.output_eq node ▸ hc.isPaired.ends_output node
  items node _ := h.nodeItems_eq node ▸ hc.isPaired.ends_nodeItems node
  paired node _ index := h.pairedItem_eq node index ▸ hc.isPaired.ends_pairedItem node index
  input _ := h.input ▸ hc.isPaired.input
  current _ := h.currentInput_eq ▸ hc.isPaired.paired_currentInput
  selector _ _ := trivial
  depth _ := ⟨rfl, trivial⟩
  allowsGlobal := rfl
  global name _ _ _ := by
    have heq : ({ s with context := c } : Sandbox).global? name =
        ({ s with context := c' } : Sandbox).global? name :=
      Sandbox.global?_eq (fun _ => h.json) (fun _ => h.nodes) (fun _ => by rw [h.env])
        (fun _ => h.now) (fun _ => by rw [h.runIndex]) (fun _ => by rw [h.itemIndex])
    exact heq ▸ Sandbox.paired_global (fun _ => hc.isPaired.json) (fun _ => hc.isPaired.nodes)
      (fun _ => trivial) (fun _ _ => trivial) (fun _ _ => trivial)
  json _ key _ := h.json ▸ hc.isPaired.json.property key
  env _ key _ := congrArg (Environment.get? · key) h.env
  clock _ _ _ _ _ := h.now
  undefined _ _ _ _ := ⟨rfl, trivial⟩
  computed _ _ _ := ⟨rfl, trivial⟩
  assignment _ _ _ := ⟨rfl, trivial⟩

/-- Contexts with the same full fingerprint have the same data, but for the graph and for indices
that are rounded. -/
theorem sameData_of_fullFingerprint {c c' : Context} (hc : c.IsTold) (hc' : c'.IsTold)
    (hnow : c.now = c'.now)
    (hconnections : c.lineage.map (·.graph.connections) = c'.lineage.map (·.graph.connections))
    (hindices : ∀ n ∈ [c.runIndex, c.itemIndex, c'.runIndex, c'.itemIndex], n ≤ 2 ^ 53)
    (h : c.fullFingerprint = c'.fullFingerprint) : c.SameData c' := by
  obtain ⟨hjson, hnodes, henv, hinput, hrun, hitem, horigin⟩ := fullFingerprint_inj hc hc' h
  have hexact {m n : Nat} (hm : m ≤ 2 ^ 53) (hn : n ≤ 2 ^ 53)
      (heq : Value.ofNat m = Value.ofNat n) : m = n :=
    Number.ofNat_inj hm hn (congrArg Float.toBits (Value.number.inj heq))
  exact
    { json := hjson
      nodes := hnodes
      env := henv
      input := hinput
      runIndex := hexact (hindices _ (by simp)) (hindices _ (by simp)) hrun
      itemIndex := hexact (hindices _ (by simp)) (hindices _ (by simp)) hitem
      now := hnow
      origin := horigin
      connections := hconnections }

end Context

/-- An engine computes the same for contexts with the same data. -/
theorem Engine.compute_eq_of_sameData (e : Engine) (o : Occasion) {c c' : Context}
    (h : c.SameData c') (hc : c.IsTold) (compiled : Compiled) (segment : Span) :
    e.compute (e.sandbox c o) segment compiled = e.compute (e.sandbox c' o) segment compiled := by
  refine e.compute_congr o (fun _ => h.json) (fun tree _ m => ?_) segment
  exact Expr.run_value_eq (h.shares hc.isData (e.sandbox c o)) (fun _ _ => trivial) m

/-- The full fingerprint is sound for contexts of JSON data whose workflows have the same
connections. -/
theorem Engine.compute_eq_of_fullFingerprint (e : Engine) (o : Occasion) {now : DateTime}
    {j j' : Json} (hj : j.IsFinite) (hj' : j'.IsFinite) {c c' : Context}
    (hc : Context.ofJson? now j = some c) (hc' : Context.ofJson? now j' = some c')
    (hmarks : c.fullFingerprint = c'.fullFingerprint)
    (hconnections : c.lineage.map (·.graph.connections) = c'.lineage.map (·.graph.connections))
    (hindices : ∀ n ∈ [c.runIndex, c.itemIndex, c'.runIndex, c'.itemIndex], n ≤ 2 ^ 53)
    (compiled : Compiled) (segment : Span) :
    e.compute (e.sandbox c o) segment compiled = e.compute (e.sandbox c' o) segment compiled := by
  have htold := Context.isTold_of_ofJson? hj hc
  have hnow := (Context.now_of_ofJson? hc).trans (Context.now_of_ofJson? hc').symm
  have hdata := Context.sameData_of_fullFingerprint htold (Context.isTold_of_ofJson? hj' hc') hnow
    hconnections hindices hmarks
  exact e.compute_eq_of_sameData o hdata htold compiled segment

/-! ### Items of nodes -/

namespace Engine

/-- The sandbox in which results are computed at first. -/
def firstSandbox (c : Context) : Sandbox := plain.sandbox c ⟨0, fun _ => 0, false⟩

/-- Whether an expression asks for the item of a node. -/
def asksFor (c : Context) (node : String) (compiled : Compiled) : Bool :=
  match compiled.program with
  | .expr (.member _ e name _) =>
    name == "item" && (rootProperty? (firstSandbox c) .empty e "item").isNone &&
      match (Expr.eval 255 .empty e).run (firstSandbox c) ⟨1, 0⟩ with
      | (.ok (.host (.node n)), _) => n == node
      | _ => false
  | _ => false

/-- A member that is no property of the root is read of the value in front of it. -/
theorem run_evalMember {eval : Evaluator} {scope : Scope} {e : Expr} {name : String}
    {optional : Bool} {s : Sandbox} (h : rootProperty? s scope e name = none) (m : Meter) :
    (evalMember eval scope e name optional).run s m =
      (eval scope e >>= fun v => Eval.ofExcept (v.read s.context name optional)).run s m := by
  have hread : (read : Eval Sandbox).run s m = (.ok s, m) := rfl
  unfold evalMember
  rw [Eval.run_bind, hread]
  dsimp only
  rw [h]
  rfl

/-- The result of a tree. -/
theorem firstResult_of_run {c : Context} {compiled : Compiled} {tree : Expr}
    (hprogram : compiled.program = .expr tree) :
    firstResult c compiled =
      match (tree.value.run (firstSandbox c) .zero).1 with
      | .ok v => .ok v
      | .error f => .error ⟨f.error, (f.span?.map (·.shift compiled.offset)).getD ⟨0, 0⟩⟩ := by
  unfold firstResult compute
  rw [hprogram]
  change (((runEval (firstSandbox c) ⟨0, 0⟩ compiled.offset tree.value).run).run
    ⟨.zero, none, 0⟩).1 = _
  rw [run_runEval]
  rcases tree.value.run (firstSandbox c) .zero with ⟨_ | _, _⟩ <;> rfl

/-- What is computed for the item of a node. -/
theorem firstResult_of_asksFor {c : Context} {node : String} {compiled : Compiled}
    (h : asksFor c node compiled = true) :
    ∃ position, firstResult c compiled =
      match c.pairedItem node none with
      | .ok v => .ok (Context.wrapItem v)
      | .error e => .error ⟨e, position⟩ := by
  unfold asksFor at h
  split at h
  · next span e name optional hprogram =>
    simp only [Bool.and_eq_true, Option.isNone_iff_eq_none, beq_iff_eq] at h
    obtain ⟨⟨rfl, hroot⟩, he⟩ := h
    split at he
    · next n m hrun =>
      obtain rfl := eq_of_beq he
      have htick : Eval.tick.run (firstSandbox c) .zero = (.ok (), ⟨1, 0⟩) := rfl
      have heval : (Expr.member span e "item" optional).value =
          Eval.tick >>= fun _ =>
            (evalMember (Expr.eval 255) .empty e "item" optional).locate span := rfl
      have hread : (Value.host (.node n)).read (firstSandbox c).context "item" optional =
          (c.pairedItem n none).map Context.wrapItem := rfl
      rw [firstResult_of_run hprogram, heval, Eval.run_bind, htick]
      dsimp only
      rw [run_locate, run_evalMember hroot, Eval.run_bind, hrun]
      dsimp only
      rw [hread]
      cases c.pairedItem n none with
      | ok v => exact ⟨⟨0, 0⟩, rfl⟩
      | error e => exact ⟨_, rfl⟩
    · cases he
  · cases h

end Engine

/-! ### Fingerprints of runs -/

/-- A node with one execution whose two outputs have one item each. -/
def twoOutputs : Json :=
  .array [.object [("outputs", .array
    [.array [.object [("json", .string "a0")]], .array [.object [("json", .string "a1")]]])]]

/-- A run of a workflow in which an output of `A` is connected to `C`, the current node. -/
def runJson (nodes : List (String × Json)) (output item : Nat) : Json :=
  .object
    [("json", .object []),
     ("itemIndex", .ofNat item),
     ("workflow", .object
       [("nodes", .object nodes),
        ("connections", .array [.object [("source", .string "A"), ("sourceOutput", .ofNat output),
          ("destination", .string "C")]])]),
     ("runData", .object [("A", twoOutputs)]),
     ("activeNode", .string "C")]

theorem isFinite_runJson {nodes : List (String × Json)} (h : Json.FieldsFinite nodes)
    (output item : Nat) : (runJson nodes output item).IsFinite := by
  simp [runJson, twoOutputs, Json.IsFinite, Json.FieldsFinite, Json.ItemsFinite, Json.ofNat, h]

/-- The item that the only connection of a workflow leads to, if it leads from a node to the current
one. -/
def Context.connected? (c : Context) (node : String) : Option (Option Json) :=
  match c.lineage with
  | some ⟨⟨_, [⟨source, output, destination, 0⟩]⟩, [(name, tasks)], current⟩ =>
    if source = node ∧ name = node ∧ destination = current ∧ node ≠ current then
      some (((RunData.task? [(node, tasks)] node (some c.runIndex)).bind fun t =>
        (t.output output)[c.itemIndex]?).map (·.json))
    else none
  | _ => none

/-- Whether the only connection of a workflow leads to a text. -/
def Context.leadsTo (c : Context) (node text : String) : Bool :=
  match c.connected? node with
  | some (some (.string s)) => s == text
  | _ => false

/-- Whether the only connection of a workflow leads to no item. -/
def Context.leadsNowhere (c : Context) (node : String) : Bool :=
  match c.connected? node with
  | some none => true
  | _ => false

theorem Context.pairedItem_of_connected? {c : Context} {node : String} {found : Option Json} :
    c.connected? node = some found →
      c.pairedItem node none =
        match found with
        | some json => .ok (.ofJson json)
        | none =>
          .error (.pairedItem (.invalidInfo node
            ("item " ++ Text.Digit.decimal c.itemIndex ++ " does not exist"))) := by
  intro h
  unfold connected? at h
  split at h
  · next nodes source output destination name tasks current hlineage =>
    split at h
    · next hnode =>
      obtain ⟨rfl, rfl, rfl, hne⟩ := hnode
      obtain rfl := Option.some.inj h
      rw [pairedItem, hlineage]
      dsimp only
      rw [Option.getD_none, Lineage.resolve_single hne]
      cases (RunData.task? [(name, tasks)] name (some c.runIndex)).bind fun t =>
        (t.output output)[c.itemIndex]? <;> rfl
    · cases h
  · cases h

theorem Context.pairedItem_of_leadsTo {c : Context} {node text : String}
    (h : c.leadsTo node text = true) : c.pairedItem node none = .ok (.string text) := by
  unfold leadsTo at h
  split at h
  · next s hs =>
    rw [pairedItem_of_connected? hs, ← eq_of_beq h]
    simp [Value.ofJson]
  · cases h

theorem Context.pairedItem_of_leadsNowhere {c : Context} {node : String}
    (h : c.leadsNowhere node = true) :
    c.pairedItem node none =
      .error (.pairedItem (.invalidInfo node
        ("item " ++ Text.Digit.decimal c.itemIndex ++ " does not exist"))) := by
  unfold leadsNowhere at h
  split at h
  · next hnone => rw [pairedItem_of_connected? hnone]
  · cases h

/-- Two contexts of JSON data with a property that can be decided. -/
theorem Context.exists_ofJson? (now : DateTime) (j j' : Json) {p : Context → Context → Bool}
    (h : ((Context.ofJson? now j).any fun c => (Context.ofJson? now j').any (p c)) = true) :
    ∃ c c', Context.ofJson? now j = some c ∧ Context.ofJson? now j' = some c' ∧ p c c' = true := by
  cases hc : Context.ofJson? now j with
  | none => rw [hc] at h; exact nomatch h
  | some c =>
    cases hc' : Context.ofJson? now j' with
    | none => rw [hc, hc'] at h; exact nomatch h
    | some c' => rw [hc, hc'] at h; exact ⟨c, c', rfl, rfl, h⟩

/-- Whether the nodes of a workflow are listed does not matter. -/
theorem compute_eq_of_fullFingerprint_nodes : ∃ c c',
    Context.ofJson? ⟨0, 0, 0⟩ (runJson [("A", .object [])] 0 0) = some c ∧
      Context.ofJson? ⟨0, 0, 0⟩ (runJson [] 0 0) = some c' ∧ ∀ o compiled segment,
        Engine.plain.compute (Engine.plain.sandbox c o) segment compiled =
          Engine.plain.compute (Engine.plain.sandbox c' o) segment compiled := by
  obtain ⟨c, c', hc, hc', h⟩ := Context.exists_ofJson? ⟨0, 0, 0⟩ (runJson [("A", .object [])] 0 0)
    (runJson [] 0 0)
    (p := fun c c' => c.fullFingerprint == c'.fullFingerprint &&
      c.lineage.map (·.graph.connections) == c'.lineage.map (·.graph.connections) &&
      [c.runIndex, c.itemIndex, c'.runIndex, c'.itemIndex].all (· ≤ 2 ^ 53))
    (by decide +kernel)
  simp only [Bool.and_eq_true, beq_iff_eq, List.all_eq_true, decide_eq_true_eq] at h
  refine ⟨c, c', hc, hc', fun o compiled segment => ?_⟩
  refine Engine.plain.compute_eq_of_fullFingerprint o (isFinite_runJson ?_ 0 0)
    (isFinite_runJson ?_ 0 0) hc hc' h.1.1 h.1.2 h.2 compiled segment
  · simp [Json.FieldsFinite, Json.IsFinite]
  · simp [Json.FieldsFinite]

/-- The output that an item has come from is not told. -/
theorem connection_not_told : ∃ compiled,
    Compiled.ofText "$('A').item" 0 = .ok compiled ∧ compiled.analysis.volatile = false ∧
      ∃ c c', Context.ofJson? ⟨0, 0, 0⟩ (runJson [] 0 0) = some c ∧
        Context.ofJson? ⟨0, 0, 0⟩ (runJson [] 1 0) = some c' ∧
        c.fullFingerprint = c'.fullFingerprint ∧
        Engine.firstResult c compiled = .ok (Context.wrapItem (.string "a0")) ∧
        Engine.firstResult c' compiled = .ok (Context.wrapItem (.string "a1")) := by
  obtain ⟨compiled, hcompiled, h⟩ := Compiled.exists_ofText "$('A').item"
    (p := fun compiled => !compiled.analysis.volatile &&
      (Context.ofJson? ⟨0, 0, 0⟩ (runJson [] 0 0)).any fun c =>
        (Context.ofJson? ⟨0, 0, 0⟩ (runJson [] 1 0)).any fun c' =>
          c.fullFingerprint == c'.fullFingerprint && Engine.asksFor c "A" compiled &&
            Engine.asksFor c' "A" compiled && c.leadsTo "A" "a0" && c'.leadsTo "A" "a1")
    (by decide +kernel)
  rw [Bool.and_eq_true, Bool.not_eq_true'] at h
  obtain ⟨c, c', hc, hc', hp⟩ := Context.exists_ofJson? _ _ _ h.2
  simp only [Bool.and_eq_true, beq_iff_eq] at hp
  obtain ⟨⟨⟨⟨hmarks, hask⟩, hask'⟩, hlead⟩, hlead'⟩ := hp
  obtain ⟨position, hresult⟩ := Engine.firstResult_of_asksFor hask
  obtain ⟨position', hresult'⟩ := Engine.firstResult_of_asksFor hask'
  rw [Context.pairedItem_of_leadsTo hlead] at hresult
  rw [Context.pairedItem_of_leadsTo hlead'] at hresult'
  exact ⟨compiled, hcompiled, h.1, c, c', hc, hc', hmarks, hresult, hresult'⟩

/-- An index that is rounded is not told, although it is named when there is no such item. -/
theorem large_index_not_told : ∃ compiled,
    Compiled.ofText "$('A').item" 0 = .ok compiled ∧ compiled.analysis.volatile = false ∧
      ∃ c c', Context.ofJson? ⟨0, 0, 0⟩ (runJson [] 0 (2 ^ 53)) = some c ∧
        Context.ofJson? ⟨0, 0, 0⟩ (runJson [] 0 (2 ^ 53 + 1)) = some c' ∧
        c.fullFingerprint = c'.fullFingerprint ∧
        (∃ position, Engine.firstResult c compiled = .error
          ⟨.pairedItem (.invalidInfo "A" "item 9007199254740992 does not exist"), position⟩) ∧
        ∃ position, Engine.firstResult c' compiled = .error
          ⟨.pairedItem (.invalidInfo "A" "item 9007199254740993 does not exist"), position⟩ := by
  obtain ⟨compiled, hcompiled, h⟩ := Compiled.exists_ofText "$('A').item"
    (p := fun compiled => !compiled.analysis.volatile &&
      (Context.ofJson? ⟨0, 0, 0⟩ (runJson [] 0 (2 ^ 53))).any fun c =>
        (Context.ofJson? ⟨0, 0, 0⟩ (runJson [] 0 (2 ^ 53 + 1))).any fun c' =>
          c.fullFingerprint == c'.fullFingerprint && Engine.asksFor c "A" compiled &&
            Engine.asksFor c' "A" compiled && c.leadsNowhere "A" && c'.leadsNowhere "A" &&
            c.itemIndex == 2 ^ 53 && c'.itemIndex == 2 ^ 53 + 1)
    (by decide +kernel)
  rw [Bool.and_eq_true, Bool.not_eq_true'] at h
  obtain ⟨c, c', hc, hc', hp⟩ := Context.exists_ofJson? _ _ _ h.2
  simp only [Bool.and_eq_true, beq_iff_eq] at hp
  obtain ⟨⟨⟨⟨⟨⟨hmarks, hask⟩, hask'⟩, hlead⟩, hlead'⟩, hindex⟩, hindex'⟩ := hp
  obtain ⟨position, hresult⟩ := Engine.firstResult_of_asksFor hask
  obtain ⟨position', hresult'⟩ := Engine.firstResult_of_asksFor hask'
  have htext : "item " ++ Text.Digit.decimal (2 ^ 53) ++ " does not exist" =
      "item 9007199254740992 does not exist" := by decide +kernel
  have htext' : "item " ++ Text.Digit.decimal (2 ^ 53 + 1) ++ " does not exist" =
      "item 9007199254740993 does not exist" := by decide +kernel
  rw [Context.pairedItem_of_leadsNowhere hlead, hindex, htext] at hresult
  rw [Context.pairedItem_of_leadsNowhere hlead', hindex', htext'] at hresult'
  exact ⟨compiled, hcompiled, h.1, c, c', hc, hc', hmarks, ⟨position, hresult⟩,
    ⟨position', hresult'⟩⟩

end TemplateExpr
