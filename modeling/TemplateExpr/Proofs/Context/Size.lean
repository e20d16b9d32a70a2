import TemplateExpr.Context.Basic
import TemplateExpr.Eval.Interpreter
import TemplateExpr.Proofs.Lineage.Trace
import TemplateExpr.Proofs.Value.Size

/-!
# Sizes of contexts

The size of the data of a context: the current item, the nodes and the environment as expressions
see them, the input, and the items that a run has produced. Whatever expressions read of the context
is no larger than that, also when it is handed to them as an item (`Context.size_wrapItem_le`).
-/

namespace TemplateExpr

open Value

/-- The items that the nodes have produced in a run. -/
def RunData.items (d : RunData) : List Json :=
  d.flatMap fun node => node.2.flatMap fun task =>
    task.outputs.flatMap (·.map ExecutionItem.json)

namespace Context

/-- The items of the run of a context. -/
def runItems (c : Context) : List Value :=
  (c.lineage.map fun l => l.runData.items.map Value.ofJson).getD []

/-- The size of the data of a context. -/
def size (c : Context) : Nat :=
  c.json.size + c.nodeMap.size + c.env.toValue.size + (Value.array c.input).size +
    (Value.array c.runItems).size

end Context

/-! ### Items of a run -/

theorem sublist_flatMap_of_mem {α β : Type} {f : α → List β} {as : List α} {a : α}
    (h : a ∈ as) : (f a).Sublist (as.flatMap f) := by
  rw [List.flatMap_def]
  exact List.sublist_flatten_of_mem (List.mem_map_of_mem h)

/-- The items of an output of a node are among those of the run. -/
theorem RunData.output_sublist_items {d : RunData} {node : String} {run : Option Nat}
    {task : TaskData} (h : d.task? node run = some task) (i : Nat) :
    ((task.output i).map ExecutionItem.json).Sublist d.items := by
  obtain ⟨tasks, hnode, htask⟩ := Lineage.Search.exists_of_task? h
  have houtput : ((task.output i).map ExecutionItem.json).Sublist
      (task.outputs.flatMap (·.map ExecutionItem.json)) := by
    rw [TaskData.output, List.getD_eq_getElem?_getD]
    cases hi : task.outputs[i]? with
    | none => exact List.nil_sublist _
    | some items =>
      exact sublist_flatMap_of_mem (f := List.map ExecutionItem.json) (List.mem_of_getElem? hi)
  have htasks := sublist_flatMap_of_mem (f := fun task : TaskData =>
    task.outputs.flatMap (·.map ExecutionItem.json)) htask
  have hnodes := sublist_flatMap_of_mem (f := fun node : String × List TaskData =>
    node.2.flatMap fun task => task.outputs.flatMap (·.map ExecutionItem.json)) hnode
  exact (houtput.trans htasks).trans hnodes

namespace Context

variable {c : Context} {node : String}

theorem total_runItems {l : LineageData} (h : c.lineage = some l) :
    total c.runItems = total (l.runData.items.map Value.ofJson) := by
  rw [runItems, h]
  rfl

/-! ### Parts of the data -/

/-- The parts of the data. -/
def parts (c : Context) : List Value :=
  [c.json, c.nodeMap, c.env.toValue, .array c.input, .array c.runItems]

theorem size_eq_total_parts (c : Context) : c.size = total c.parts := by
  simp only [size, parts, total_cons, total_nil]
  omega

theorem slots_le_size (c : Context) : 5 * slot ≤ c.size := by
  have h := slot_mul_length_le_total c.parts
  rw [size_eq_total_parts]
  exact Nat.mul_comm slot 5 ▸ h

/-- Besides a part, there are four others. -/
theorem size_part_le {v : Value} (h : v ∈ c.parts) : v.size + 4 * slot ≤ c.size := by
  have h := size_add_slots_le_total h
  rw [size_eq_total_parts]
  exact Nat.mul_comm slot 4 ▸ h

theorem size_json_le (c : Context) : c.json.size + 4 * slot ≤ c.size :=
  size_part_le (by simp [parts])

theorem size_nodeMap_le (c : Context) : c.nodeMap.size + 4 * slot ≤ c.size :=
  size_part_le (by simp [parts])

theorem size_env_le (c : Context) : c.env.toValue.size + 4 * slot ≤ c.size :=
  size_part_le (by simp [parts])

theorem total_input_le (c : Context) : total c.input + 5 * slot ≤ c.size := by
  have h : (Value.array c.input).size + 4 * slot ≤ c.size := size_part_le (by simp [parts])
  rw [size_array] at h
  omega

theorem total_runItems_le (c : Context) : total c.runItems + 5 * slot ≤ c.size := by
  have h : (Value.array c.runItems).size + 4 * slot ≤ c.size := size_part_le (by simp [parts])
  rw [size_array] at h
  omega

/-! ### Items -/

theorem size_wrapItem (v : Value) : (wrapItem v).size = slot + 4 + v.size := by
  have hkey : "json".utf8ByteSize = 4 := by decide
  rw [wrapItem, size_object, fieldTotal_cons, fieldTotal_nil, hkey]
  dsimp only
  omega

/-- A part of the data is not too large to be handed on as an item. -/
theorem size_wrapItem_le {v : Value} (h : v.size + 4 * slot ≤ c.size) :
    (wrapItem v).size ≤ c.size := by
  rw [size_wrapItem]
  simp only [slot] at h ⊢
  omega

theorem size_nodeOutput_le {v : Value} (h : c.nodeOutput? node = some v) :
    v.size + 5 * slot ≤ c.size := by
  have hitem : slot + (node.utf8ByteSize + (wrapItem v).size) ≤ c.nodeMap.size := by
    rw [nodeMap, size_object]
    refine Nat.add_le_add_left (size_le_fieldTotal (f := (node, wrapItem v)) ?_) slot
    exact List.mem_map_of_mem (mem_of_get? h)
  have hnodes := c.size_nodeMap_le
  rw [size_wrapItem] at hitem
  omega

theorem size_currentInput_le (c : Context) : c.currentInput.size + 4 * slot ≤ c.size := by
  unfold currentInput
  cases h : c.input[c.itemIndex]? with
  | none => exact c.size_json_le
  | some v =>
    have hitem := size_le_total (List.mem_of_getElem? h)
    have hinput := c.total_input_le
    rw [Option.getD_some]
    omega

/-- The items of a node are those of an output, or the one that stands for the node. -/
theorem total_nodeItems_le {items : List Value} (h : c.nodeItems node = .ok items) :
    total items + 5 * slot ≤ c.size := by
  unfold nodeItems at h
  split at h
  · next items' hitems =>
    obtain rfl := Except.ok.inj h
    obtain ⟨l, hl, hitems⟩ := Option.bind_eq_some_iff.1 hitems
    obtain ⟨task, htask, rfl⟩ := Option.map_eq_some_iff.1 hitems
    have hrun := c.total_runItems_le
    have hsub := (RunData.output_sublist_items htask 0).map Value.ofJson
    rw [List.map_map] at hsub
    have htotal := total_le_of_sublist hsub
    rw [total_runItems hl] at hrun
    exact Nat.le_trans (Nat.add_le_add_right htotal _) hrun
  · split at h
    · next v hv =>
      obtain rfl := Except.ok.inj h
      exact size_nodeOutput_le hv
    · cases h

theorem size_pairedItem_le {index : Option Nat} {v : Value}
    (h : c.pairedItem node index = .ok v) : v.size + 5 * slot ≤ c.size := by
  unfold pairedItem at h
  split at h
  · next l hl =>
    dsimp only at h
    split at h
    · next j hj =>
      obtain rfl := Except.ok.inj h
      obtain ⟨-, -, -, -, -, -, coordinate, -, task, item, htask, hitem, rfl⟩ :=
        (Lineage.resolve_eq_ok_iff _ _ _ _ _).1 hj
      have hrun := c.total_runItems_le
      have hmem : item.json ∈ l.runData.items :=
        (RunData.output_sublist_items htask coordinate.output).subset
          (List.mem_map_of_mem (List.mem_of_getElem? hitem))
      have hsize := size_le_total (List.mem_map_of_mem (f := Value.ofJson) hmem)
      rw [total_runItems hl] at hrun
      omega
    · cases h
  · split at h
    · next v hv =>
      obtain rfl := Except.ok.inj h
      exact size_nodeOutput_le hv
    · cases h

theorem size_environment_get?_le {key text : String} (h : c.env.get? key = some text) :
    (Value.string text).size ≤ c.size := by
  have hvariable : slot + (key.utf8ByteSize + (Value.string text).size) ≤ c.env.toValue.size := by
    have hmem : (key, text) ∈ c.env := mem_of_get? h
    rw [Environment.toValue, size_object]
    refine Nat.add_le_add_left (size_le_fieldTotal (f := (key, Value.string text)) ?_) slot
    exact List.mem_map_of_mem hmem
  have henv := c.size_env_le
  omega

end Context

/-! ### What expressions read -/

/-- The value of a name. -/
theorem Sandbox.size_global?_le {s : Sandbox} {name : String} {v : Value}
    (h : s.global? name = some v) : v.size ≤ s.context.size := by
  have hslots := s.context.slots_le_size
  have hslot {w : Value} (hw : w.size = slot) : w.size ≤ s.context.size := by omega
  unfold global? at h
  dsimp only at h
  split at h
  · obtain rfl := Option.some.inj h
    exact Nat.le_of_add_right_le s.context.size_json_le
  split at h
  · obtain rfl := Option.some.inj h
    exact Nat.le_of_add_right_le s.context.size_nodeMap_le
  split at h
  · obtain rfl := Option.some.inj h
    exact Nat.le_of_add_right_le s.context.size_env_le
  split at h
  · split_ifs at h
    exact Option.some.inj h ▸ hslot (size_date _)
  split at h
  · split_ifs at h
    exact Option.some.inj h ▸ hslot (size_date _)
  split at h
  · exact Option.some.inj h ▸ hslot (size_ofNat _)
  split at h
  · exact Option.some.inj h ▸ hslot (size_ofNat _)
  split at h
  · exact Option.some.inj h ▸ hslot (size_host _)
  split at h
  · split_ifs at h
    exact Option.some.inj h ▸ hslot (size_host _)
  · exact Option.some.inj h ▸ hslot (size_host _)
  · obtain ⟨b, -, rfl⟩ := Option.map_eq_some_iff.1 h
    exact hslot (size_host _)

/-- A field of the item or of the environment. -/
theorem size_rootProperty?_le {s : Sandbox} {scope : Scope} {e : Expr} {key : String} {v : Value}
    (h : rootProperty? s scope e key = some v) : v.size ≤ s.context.size := by
  unfold rootProperty? at h
  split_ifs at h
  · obtain rfl := Option.some.inj h
    exact Nat.le_trans (size_property_le _ key)
      (Nat.le_of_add_right_le s.context.size_json_le)
  · obtain rfl := Option.some.inj h
    cases hkey : s.context.env.get? key with
    | none =>
      have hslots := s.context.slots_le_size
      rw [Option.map_none, Option.getD_none, size_undefined]
      omega
    | some text => exact Context.size_environment_get?_le hkey

/-- What a host has under a name. -/
theorem Host.size_property_le {c : Context} {h : Host} {name : String} {v : Value}
    (hv : h.property c name = .ok v) : v.size ≤ c.size := by
  have hslots := c.slots_le_size
  have hslot {w : Value} (hw : w.size = slot) : w.size ≤ c.size := by omega
  cases h with
  | node node =>
    simp only [property] at hv
    split_ifs at hv
    · cases hitem : c.pairedItem node none with
      | error e =>
        rw [hitem] at hv
        cases hv
      | ok item =>
        rw [hitem] at hv
        obtain rfl := Except.ok.inj hv
        have hle := Context.size_pairedItem_le hitem
        exact Context.size_wrapItem_le (by omega)
    · unfold Context.output at hv
      split at hv
      · next item hitem =>
        obtain rfl := Except.ok.inj hv
        exact Nat.le_of_add_right_le (Context.size_nodeOutput_le hitem)
      · cases hv
    · exact Except.ok.inj hv ▸ hslot (size_bool _)
    · exact Except.ok.inj hv ▸ hslot size_undefined
  | input =>
    simp only [property] at hv
    split_ifs at hv
    · exact Except.ok.inj hv ▸ Context.size_wrapItem_le c.size_currentInput_le
    · exact Except.ok.inj hv ▸ hslot size_undefined
  | space ns =>
    obtain rfl := Except.ok.inj hv
    cases ns.constant? name with
    | none => exact hslot size_undefined
    | some x => exact hslot (size_number x)
  | builtin b =>
    simp only [property] at hv
    split_ifs at hv
    · obtain rfl := Except.ok.inj hv
      have hname : b.name.utf8ByteSize ≤ slot := by cases b <;> decide
      rw [size_string]
      omega
    · exact Except.ok.inj hv ▸ hslot size_undefined

/-- What a value has under a name, host values included. -/
theorem Value.size_read_le {c : Context} {v w : Value} {name : String} {optional : Bool}
    (h : v.read c name optional = .ok w) : w.size ≤ v.size + c.size := by
  cases v with
  | undefined | null =>
    rw [read] at h
    split_ifs at h
    obtain rfl := Except.ok.inj h
    exact Nat.le_add_right_of_le (slot_le_size _)
  | host host => exact Nat.le_add_left_of_le (Host.size_property_le h)
  | _ =>
    obtain rfl := Except.ok.inj h
    exact Nat.le_add_right_of_le (size_property_le _ name)

/-- What a value has under a key. -/
theorem Value.size_readKey_le {c : Context} {v w key : Value} {optional : Bool}
    (h : v.readKey c key optional = .ok w) : w.size ≤ v.size + c.size := by
  unfold readKey at h
  split at h
  · obtain rfl := Except.ok.inj h
    exact Nat.le_add_right_of_le (size_itemAt_le (slot_le_size _) (fun _ => size_item_le) _)
  · obtain rfl := Except.ok.inj h
    exact Nat.le_add_right_of_le (size_itemAt_le (slot_le_size _) (fun _ => size_ofChar_le) _)
  · exact size_read_le h

end TemplateExpr
