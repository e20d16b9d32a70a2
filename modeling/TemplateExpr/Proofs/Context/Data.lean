import TemplateExpr.Proofs.Eval.Interpreter
import TemplateExpr.Proofs.Value.Guard

/-!
# Contexts whose values are paired with themselves

What expressions read of such a context goes together in two sandboxes that have it. Contexts of
data are of that kind, whatever the pairing: their values come from JSON.
-/

namespace TemplateExpr

open TemplateExpr.Eval Value
open Value.Pairing (ofFindings)

/-- The values of a context are data, as is everything that is read from JSON. -/
structure Context.IsData (c : Context) : Prop where
  json : Value.Guard.data.Admits c.json
  nodes : ∀ node ∈ c.nodes, Value.Guard.data.Admits node.2
  input : ∀ item ∈ c.input, Value.Guard.data.Admits item

namespace Context

variable {c : Context} {p : Pairing}

/-- A context of one item that is data. -/
theorem isData_ofItem {json : Value} (h : Guard.data.Admits json) (now : DateTime) :
    (ofItem json now).IsData where
  json := h
  nodes _ hn := absurd hn List.not_mem_nil
  input _ hitem := List.mem_singleton.1 hitem ▸ h

/-- The values of a context are paired with themselves. -/
structure IsPaired (p : Pairing) (c : Context) : Prop where
  json : Paired p c.json c.json
  nodes : Fields.Related (Paired p) c.nodes c.nodes
  input : List.Forall₂ (Paired p) c.input c.input

/-- Data is paired with itself. -/
theorem IsData.isPaired (h : c.IsData) : c.IsPaired p where
  json := Guard.paired_of_data h.json
  nodes := .refl fun node hn => Guard.paired_of_data (h.nodes node hn)
  input := List.forall₂_same.2 fun item hitem => Guard.paired_of_data (h.input item hitem)

namespace IsPaired

variable (h : c.IsPaired p)

include h

/-- The item of the input that belongs to the current item, or else the current item. -/
theorem paired_currentInput : Paired p c.currentInput c.currentInput := by
  have hitem := Paired.getElem? h.input c.itemIndex
  unfold currentInput
  generalize c.input[c.itemIndex]? = v? at hitem
  cases hitem with
  | none => exact h.json
  | some hv => exact hv

section

variable {L : Comparison} (node : String)

theorem ends_output : L.Ends (Paired p) (c.output node) (c.output node) := by
  have hnode := h.nodes.get? node
  unfold output nodeOutput?
  generalize Fields.get? c.nodes node = v? at hnode
  cases hnode with
  | none => exact L.ends_fail rfl
  | some hv => exact .ok hv

/-- The items of a node are given by the context or by the data of the run, which is JSON. -/
theorem ends_nodeItems :
    L.Ends (List.Forall₂ (Paired p)) (c.nodeItems node) (c.nodeItems node) := by
  have hnode := h.nodes.get? node
  unfold nodeItems
  split
  · next items hitems =>
    obtain ⟨l, _, hl⟩ := Option.bind_eq_some_iff.1 hitems
    obtain ⟨task, _, rfl⟩ := Option.map_eq_some_iff.1 hl
    refine .ok (List.forall₂_same.2 fun v hv => ?_)
    obtain ⟨item, _, rfl⟩ := List.mem_map.1 hv
    exact Paired.ofJson p item.json
  · unfold nodeOutput?
    generalize Fields.get? c.nodes node = v? at hnode
    cases hnode with
    | none => exact L.ends_fail rfl
    | some hv => exact .ok (.cons hv .nil)

theorem ends_pairedItem (index : Option Nat) :
    L.Ends (Paired p) (c.pairedItem node index) (c.pairedItem node index) := by
  have hnode := h.nodes.get? node
  unfold pairedItem
  split
  · dsimp only
    split
    · exact .ok (Paired.ofJson p _)
    · exact L.ends_fail rfl
  · unfold nodeOutput?
    generalize Fields.get? c.nodes node = v? at hnode
    cases hnode with
    | none => exact L.ends_fail rfl
    | some hv => exact .ok hv

end

/-- Hosts read the same of the context on both sides. -/
theorem sharesHosts {L : Comparison} (hleft : L.left.context = c) (hright : L.right.context = c)
    (hselector : p.host (.builtin .nodeSelector) → ∀ node, p.host (.node node)) :
    L.SharesHosts p where
  output node _ := by rw [hleft, hright]; exact h.ends_output node
  items node _ := by rw [hleft, hright]; exact h.ends_nodeItems node
  paired node _ index := by rw [hleft, hright]; exact h.ends_pairedItem node index
  input _ := by rw [hleft, hright]; exact h.input
  current _ := by rw [hleft, hright]; exact h.paired_currentInput
  selector := hselector

end IsPaired

end Context

/-- An empty item has no hosts and no functions. -/
theorem isData_empty (now : DateTime) : (Context.ofItem (.object []) now).IsData :=
  Context.isData_ofItem ((Value.Guard.admits_object _ _).2 fun _ hf => absurd hf List.not_mem_nil) now

/-! ### Names -/

theorem ofName?_eq_some {name : String} {ns : Namespace} (h : Namespace.ofName? name = some ns) :
    ns.name = name :=
  eq_of_beq (List.find?_some (p := fun ns : Namespace => ns.name == name) h)

namespace Sandbox

/-- What names stand for is given by the context, or is one of the hosts. -/
theorem paired_global {s : Sandbox} {name : String} {p : Pairing}
    (hjson : name = itemName → Paired p s.context.json s.context.json)
    (hnodes : name = "$node" → Fields.Related (Paired p) s.context.nodes s.context.nodes)
    (hinput : name = "$input" → p.host .input)
    (hspace : ∀ ns, Namespace.ofName? name = some ns → p.host (.space ns))
    (hbuiltin : ∀ b : Builtin, b.name = name → p.host (.builtin b)) :
    Option.Rel (Paired p) (s.global? name) (s.global? name) := by
  cases hv : s.global? name with
  | none => exact .none
  | some v =>
    refine .some ?_
    unfold global? at hv
    dsimp only at hv
    split at hv
    · next hitem => exact Option.some.inj hv ▸ hjson (eq_of_beq hitem)
    split at hv
    · next hnode =>
      exact Option.some.inj hv ▸ .object (Fields.Related.map (R := Paired p)
        (fun _ _ hv => hv.wrapItem) (hnodes (eq_of_beq hnode)))
    split at hv
    · exact Option.some.inj hv ▸ .environment _
    split at hv
    · split_ifs at hv
      exact Option.some.inj hv ▸ .date _
    split at hv
    · split_ifs at hv
      exact Option.some.inj hv ▸ .date _
    split at hv
    · exact Option.some.inj hv ▸ .ofNat _
    split at hv
    · exact Option.some.inj hv ▸ .ofNat _
    split at hv
    · next hin => exact Option.some.inj hv ▸ .host (hinput (eq_of_beq hin))
    split at hv
    · next hns =>
      split_ifs at hv
      exact Option.some.inj hv ▸ .host (hspace _ hns)
    · next ns _ hns => exact Option.some.inj hv ▸ .host (hspace ns hns)
    · obtain ⟨b, hb, rfl⟩ := Option.map_eq_some_iff.1 hv
      have hname := List.find?_some (p := fun b : Builtin => b.name == name) hb
      exact .host (hbuiltin b (eq_of_beq hname))

end Sandbox

/-- Sandboxes with the same context of data share whatever expressions read. -/
theorem Context.IsData.shares {L : Comparison} (h : L.left.context.IsData)
    (hcontext : L.left.context = L.right.context) (hdates : L.left.dates = L.right.dates)
    (hallowed : L.left.policy.allowsGlobal = L.right.policy.allowsGlobal) {ok : Finding → Prop}
    (hdepth : ∀ n, L.fails (.resourceLimit .callStack n) (.resourceLimit .callStack n))
    (hundefined : ∀ name span, ok (.freeName name span) →
      L.left.policy.allowsGlobal name = false ∨ L.left.global? name = none →
      L.fails (.notDefined name) (.notDefined name))
    (hcomputed : ∀ span, ok (.computedKey span) → L.left.policy.config.strictGrammar = true →
      L.fails (.security .computedAccess) (.security .computedAccess))
    (hassignment : ∀ span, ok (.assignment span) → ∀ e, L.fails e e) :
    L.Shares (fun _ => True) ok where
  toSharesHosts := h.isPaired.sharesHosts rfl hcontext.symm fun _ _ => trivial
  depth := hdepth
  allowsGlobal := hallowed
  global name _ _ _ := by
    have hglobal : L.right.global? name = L.left.global? name := by
      rw [Sandbox.global?, Sandbox.global?, hcontext, hdates]
    rw [hglobal]
    exact Sandbox.paired_global (fun _ => h.isPaired.json) (fun _ => h.isPaired.nodes)
      (fun _ => trivial) (fun _ _ => trivial) (fun _ _ => trivial)
  json _ key _ := hcontext ▸ h.isPaired.json.property key
  env _ _ _ := by rw [hcontext]
  clock _ _ _ _ _ := by rw [hcontext]
  undefined := hundefined
  computed := hcomputed
  assignment := hassignment

end TemplateExpr
