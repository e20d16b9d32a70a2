import TemplateExpr.Proofs.Context.Size
import TemplateExpr.Proofs.Method.Growth

/-!
# Expressions that are charged for what they build

An expression is frugal (`Expr.isFrugal`) if whatever it calls outside of functions is charged for
what it builds: a method that is not listed in `unchargedMethods`, or a function by its name,
`String` apart. The value of a frugal expression is charged up to a share for each of its nodes
(`Expr.charges_value`): a share is room for the data of the context and for any string of the
expression.
-/

namespace TemplateExpr

open TemplateExpr.Text TemplateExpr.Eval TemplateExpr.Eval.Comparison Value

/-! ### Calls of the host -/

section

variable {s : Sandbox} {args : List Value} {name : String} {n : Nat}

theorem Arguments.size_nth_le (args : List Value) (i : Nat) :
    (nth args i).size ≤ slot + total args := by
  unfold nth
  rw [List.getD_eq_getElem?_getD]
  cases h : args[i]? with
  | none => exact Nat.le_add_right_of_le size_undefined.le
  | some v => exact Nat.le_add_left_of_le (size_le_total (List.mem_of_getElem? h))

/-- A value without parts. -/
theorem charges_slot {v : Value} (h : v.size = slot) (hn : slot ≤ n) :
    Charges s size n (pure v) :=
  .pure (h ▸ hn)

namespace Namespace

theorem charges_callMath (hn : slot ≤ n) : Charges s size n (callMath name args) := by
  unfold callMath
  split
  · exact charges_slot (size_number _) hn
  · exact .fail

theorem charges_stringify (hs : CountsAll s) (hn : slot ≤ n) :
    Charges s size n (stringify args) := by
  unfold stringify
  dsimp only
  split
  · exact charges_slot size_undefined hn
  · refine .reserve_bind hs (.pure ?_)
    rw [size_string]
    omega

theorem total_values_fieldsOf_le (v : Value) :
    slot + total ((fieldsOf v).map (·.2)) ≤ v.size := by
  cases v with
  | object fields =>
    rw [size_object]
    exact Nat.add_le_add_left (total_values_le fields) slot
  | array items =>
    have hitems : ((List.range items.length).zip items).map (·.2) = items := by
      rw [List.map_snd_zip]
      exact (List.length_range).ge
    rw [size_array, fieldsOf, List.map_map]
    exact Nat.add_le_add_left (le_of_eq (congrArg total hitems)) slot
  | _ => exact slot_le_size _

theorem charges_values (hs : CountsAll s) :
    Charges s size (total args + slot) (listFields name (·.2) args) := by
  unfold listFields
  dsimp only
  refine .check fun _ => .reserve_bind hs (.pure ?_)
  have hvalues := total_values_fieldsOf_le (Arguments.nth args 0)
  have hfirst := Arguments.size_nth_le args 0
  rw [size_array]
  omega

theorem charges_assign (hs : CountsAll s) {out : Fields Value} (hout : out.Distinct) :
    Charges s size (slot + fieldTotal out + total args) (assign out args) := by
  induction args generalizing out with
  | nil => exact .pure (Nat.le_of_eq (size_object out))
  | cons v args ih =>
    rw [total_cons]
    cases v with
    | object fields =>
      have hextend := fieldTotal_extend_le hout fields
      refine .reserve_bind hs ((ih (distinct_extend hout fields)).mono ?_)
      rw [size_object]
      omega
    | _ => exact (ih hout).mono (by omega)

theorem charges_callNumber (hn : slot ≤ n) : Charges s size n (callNumber name args) := by
  unfold callNumber
  dsimp only
  split_ifs
  · exact charges_slot (size_bool _) hn
  · exact charges_slot (size_bool _) hn
  · exact charges_slot (size_bool _) hn
  · exact charges_slot (size_bool _) hn
  · exact charges_slot (size_number _) hn
  · exact charges_slot (size_number _) hn
  · exact .fail

theorem charges_callDateTime (hn : slot ≤ n) : Charges s size n (callDateTime name args) := by
  have hdate {r : Except EvalError DateTime} :
      Charges s size n (ofExcept r >>= fun t => pure (.date t)) :=
    .ofExcept_bind fun t _ => charges_slot (size_date t) hn
  unfold callDateTime
  dsimp only
  split_ifs
  · exact .read_bind (charges_slot (size_date _) hn)
  · exact hdate
  · exact hdate
  · exact hdate
  · exact charges_slot (size_bool _) hn
  · exact .fail

theorem charges_callArray (hs : CountsAll s) (hname : name ∉ unchargedMethods) (c : Caller) :
    Charges s size (total args + slot) (callArray c name args) := by
  unfold callArray
  split_ifs with hisArray hof hfrom
  · exact charges_slot (size_bool _) (Nat.le_add_left _ _)
  · refine .reserve_bind hs (.pure ?_)
    rw [size_array]
    omega
  · exact absurd (eq_of_beq hfrom ▸ by decide) hname
  · exact .fail

theorem charges_callObject (hs : CountsAll s) (hname : name ∉ unchargedMethods) :
    Charges s size (total args + slot) (callObject name args) := by
  unfold callObject
  split_ifs with hkeys hvalues hentries hassign hfromEntries
  · exact absurd (eq_of_beq hkeys ▸ by decide) hname
  · exact charges_values hs
  · exact absurd (eq_of_beq hentries ▸ by decide) hname
  · exact (charges_assign hs distinct_nil).mono (by rw [fieldTotal_nil]; omega)
  · exact absurd (eq_of_beq hfromEntries ▸ by decide) hname
  · exact .fail

theorem charges_callJson (hs : CountsAll s) (hname : name ∉ unchargedMethods) (hn : slot ≤ n) :
    Charges s size n (callJson name args) := by
  unfold callJson
  split_ifs with hstringify hparse
  · exact charges_stringify hs hn
  · exact absurd (eq_of_beq hparse ▸ by decide) hname
  · exact .fail

/-- The functions of namespaces that are charged. -/
theorem charges_call (hs : CountsAll s) (hname : name ∉ unchargedMethods) (ns : Namespace)
    (c : Caller) : Charges s size (total args + slot) (ns.call c name args) := by
  have hn : slot ≤ total args + slot := Nat.le_add_left _ _
  cases ns with
  | math => exact charges_callMath hn
  | json => exact charges_callJson hs hname hn
  | object => exact charges_callObject hs hname
  | array => exact charges_callArray hs hname c
  | number => exact charges_callNumber hn
  | dateTime => exact charges_callDateTime hn

end Namespace

/-! ### Items of the context -/

namespace Host

variable {c : Context}

/-- An item, if there is one. -/
theorem size_item?_le {item? : Option Value} (h : ∀ v ∈ item?, v.size + 4 * slot ≤ c.size) :
    ((item?.map Context.wrapItem).getD .undefined).size ≤ c.size := by
  cases item? with
  | none =>
    have hslots := c.slots_le_size
    rw [Option.map_none, Option.getD_none, size_undefined]
    omega
  | some v => exact Context.size_wrapItem_le (h v rfl)

section

variable {items : List Value} (h : total items + 5 * slot ≤ c.size)

include h

theorem size_firstItem_le : (firstItem items).size ≤ c.size := by
  refine size_item?_le fun v hv => ?_
  have hitem := size_le_total (List.mem_of_mem_head? hv)
  omega

theorem size_lastItem_le : (lastItem items).size ≤ c.size := by
  refine size_item?_le fun v hv => ?_
  have hitem := size_le_total (List.mem_of_getLast? hv)
  omega

/-- The field in which an item is handed on has a key, for which nothing is reserved. -/
theorem charges_allItems (hs : CountsAll s) : Charges s size (2 * c.size) (allItems items) := by
  refine .reserve_bind hs (.pure ?_)
  have hwrapped : total (items.map Context.wrapItem) = total items + (slot + 4) * items.length := by
    clear h
    induction items with
    | nil => rfl
    | cons v items ih =>
      rw [List.map_cons, total_cons, total_cons, ih, Context.size_wrapItem, List.length_cons,
        Nat.mul_succ]
      omega
  have hslots := slot_mul_length_le_total items
  rw [size_array, hwrapped]
  simp only [slot] at h hslots ⊢
  omega

end

variable (hs : CountsAll s)

include hs

theorem charges_callNode (node : String) :
    Charges s size (2 * s.context.size) (callNode node name args) := by
  have htwice {v : Value} (hv : v.size ≤ s.context.size) : v.size ≤ 2 * s.context.size := by omega
  have hpaired {v : Value} {i : Option Nat} (hv : s.context.pairedItem node i = .ok v) :
      (Context.wrapItem v).size ≤ 2 * s.context.size := by
    have hsize := Context.size_pairedItem_le hv
    exact htwice (Context.size_wrapItem_le (by omega))
  unfold callNode
  refine .read_bind ?_
  dsimp only
  split_ifs
  · refine .ofExcept_bind fun items hitems => .pure (htwice ?_)
    exact size_firstItem_le (Context.total_nodeItems_le hitems)
  · refine .ofExcept_bind fun items hitems => .pure (htwice ?_)
    exact size_lastItem_le (Context.total_nodeItems_le hitems)
  · exact .ofExcept_bind fun items hitems =>
      charges_allItems (Context.total_nodeItems_le hitems) hs
  · exact .ofExcept_bind fun v hv => .pure (hpaired hv)
  · unfold itemMatching
    dsimp only
    split
    · exact .fail
    · exact .read_bind (.ofExcept_bind fun v hv => .pure (hpaired hv))
  · exact .fail

theorem charges_callInput : Charges s size (2 * s.context.size) (callInput name) := by
  have htwice {v : Value} (hv : v.size ≤ s.context.size) : v.size ≤ 2 * s.context.size := by omega
  have hinput := s.context.total_input_le
  unfold callInput
  refine .read_bind ?_
  dsimp only
  split_ifs
  · exact .pure (htwice (size_firstItem_le hinput))
  · exact .pure (htwice (size_lastItem_le hinput))
  · exact charges_allItems hinput hs
  · exact .fail

/-- The methods of hosts that are charged. -/
theorem charges_call (hname : name ∉ unchargedMethods) (h : Host) (caller : Caller) :
    Charges s size (total args + 2 * s.context.size) (h.call caller name args) := by
  have hslots := s.context.slots_le_size
  cases h with
  | space ns => exact (Namespace.charges_call hs hname ns caller).mono (by omega)
  | node node => exact (charges_callNode hs node).mono (Nat.le_add_left _ _)
  | input => exact (charges_callInput hs).mono (Nat.le_add_left _ _)
  | builtin b => exact .fail

end Host

end

/-! ### Frugal expressions -/

namespace Expr

/-- Whether what is called is charged for what it builds. -/
def isCharged : Expr → Bool
  | ident _ name => name != Builtin.string.name
  | member _ _ name _ => !unchargedMethods.contains name
  | _ => false

mutual

/-- Whether all calls outside of functions are charged. -/
def isFrugal : Expr → Bool
  | literal .. | ident .. | lambda .. | assign .. => true
  | array _ items => areFrugal items
  | object _ entries => haveFrugal entries
  | member _ recv _ _ => recv.isFrugal
  | index _ recv key _ => recv.isFrugal && key.isFrugal
  | call _ callee args _ => callee.isCharged && callee.isFrugal && areFrugal args
  | unary _ _ operand => operand.isFrugal
  | binary _ _ left right => left.isFrugal && right.isFrugal
  | conditional _ test consequent alternate =>
    test.isFrugal && consequent.isFrugal && alternate.isFrugal

/-- Whether all expressions of a list are frugal. -/
def areFrugal : List Expr → Bool
  | [] => true
  | e :: es => e.isFrugal && areFrugal es

/-- Whether the values of all entries are frugal. -/
def haveFrugal : List (String × Expr) → Bool
  | [] => true
  | (_, e) :: es => e.isFrugal && haveFrugal es

end

theorem areFrugal_iff {es : List Expr} : areFrugal es = true ↔ ∀ e ∈ es, e.isFrugal = true := by
  induction es with
  | nil => simp [areFrugal]
  | cons e es ih => rw [areFrugal, Bool.and_eq_true, ih, List.forall_mem_cons]

theorem sum_nodeCounts (es : List Expr) (share : Nat) :
    (es.map fun e => e.nodeCount * share).sum = nodeCounts es * share := by
  induction es with
  | nil => rw [List.map_nil, List.sum_nil, nodeCounts, Nat.zero_mul]
  | cons e es ih => rw [List.map_cons, List.sum_cons, ih, nodeCounts, Nat.add_mul]

end Expr

/-! ### Evaluation -/

/-- The pairing of values with themselves. -/
def Sandbox.selfPairing (s : Sandbox) : Pairing :=
  .ofFindings s.accounting (fun _ => True) fun _ => True

section

variable {s : Sandbox}

/-- What is paired is the same. -/
theorem eq_of_selfPaired {v w : Value} (h : Paired s.selfPairing v w) : v = w := by
  refine h.eq fun f f' hf => ?_
  obtain ⟨⟨hparams, hnames, hbody⟩, -⟩ := hf
  exact Code.ext hparams (hbody.eq_of_places fun _ _ hs => hs.1) hnames

theorem eq_of_selfPaired_list {vs ws : List Value}
    (h : List.Forall₂ (Paired s.selfPairing) vs ws) : vs = ws :=
  List.forall₂_eq_eq_eq ▸ h.imp fun _ _ => eq_of_selfPaired

/-- What a computation that goes together with itself gives is related to itself. -/
theorem related_of_gives {α : Type} {R : α → α → Prop} {x : Eval α}
    (h : s.accounting.rel R x x) (hR : ∀ a b, R a b → a = b) {a : α} (ha : Gives s x a) :
    R a a := by
  obtain ⟨b, -, hab⟩ := h.1.exists_gives ha
  exact (hR a b hab).symm ▸ hab

theorem shares_self (hdata : s.context.IsData) :
    s.accounting.Shares (fun _ => True) fun _ => True := by
  have hfails (e : EvalError) : s.accounting.fails e e := ⟨rfl, trivial⟩
  exact hdata.shares rfl rfl rfl (fun _ => hfails _) (fun _ _ _ _ => hfails _)
    (fun _ _ _ => hfails _) fun _ _ e => hfails e

theorem covers_self {scope : Scope} (h : scope.locals = []) :
    scope.Covers s.selfPairing [] scope where
  binds name := by rw [Scope.binds, h]; rfl
  locals := by rw [h]; exact .nil
  frames := rfl

/-! #### Names -/

/-- Functions that are called by the name `name`, and no arrow functions. -/
def Value.Pairing.named (name : String) : Pairing where
  host h := ∀ b, h = .builtin b → b.name = name
  code _ _ := False
  same h := h.elim

theorem paired_global? (hdata : s.context.IsData) {name : String} {v : Value}
    (h : s.global? name = some v) : Paired (.named name) v v := by
  have hglobal : Option.Rel (Paired (.named name)) (s.global? name) (s.global? name) :=
    Sandbox.paired_global (fun _ => hdata.isPaired.json) (fun _ => hdata.isPaired.nodes)
      (fun _ _ hb => by cases hb) (fun _ _ _ hb => by cases hb)
      fun b hb b' heq => Host.builtin.inj heq ▸ hb
  rw [h] at hglobal
  cases hglobal with
  | some hv => exact hv

theorem local?_eq_none_of_locals {scope : Scope} (h : scope.locals = []) (name : String) :
    scope.local? name = none := by
  rw [Scope.local?, h]
  rfl

/-- Outside of functions, names stand for what the host provides. -/
theorem global?_of_gives {scope : Scope} (hlocals : scope.locals = []) {name : String} {v : Value}
    (h : Gives s (resolveName scope name) v) : s.global? name = some v := by
  unfold resolveName at h
  rw [local?_eq_none_of_locals hlocals] at h
  have h := gives_read h
  split at h
  · next w hw =>
    split_ifs at hw
    exact gives_pure h ▸ hw
  · exact absurd h not_gives_fail

end

/-- A share is room for the data of the context, and for the strings that satisfy `T`. -/
structure Sandbox.Allots (s : Sandbox) (share : Nat) (T : String → Prop) : Prop where
  counts : CountsAll s
  data : s.context.IsData
  context : s.context.size ≤ share
  text : ∀ t, T t → (Value.string t).size ≤ share

theorem Sandbox.Allots.slots_le {s : Sandbox} {share : Nat} {T : String → Prop}
    (h : s.Allots share T) : 5 * slot ≤ share :=
  Nat.le_trans s.context.slots_le_size h.context

/-- Evaluations by `eval` go together with themselves, the value of a name is the one that is
resolved, and those of frugal expressions are charged up to a share for each node. -/
structure Charging (s : Sandbox) (share : Nat) (P : Span → Prop) (T : String → Prop)
    (eval : Evaluator) : Prop where
  evaluates : Evaluates s.accounting s.selfPairing (fun _ => True) eval
  name : ∀ scope span name v, Gives s (eval scope (.ident span name)) v →
    Gives s (resolveName scope name) v
  charges : ∀ scope e, scope.locals = [] → e.isFrugal = true → e.Written P T →
    Charges s size (e.nodeCount * share) (eval scope e)

section

variable {s : Sandbox} {share : Nat} {P : Span → Prop} {T : String → Prop} {eval : Evaluator}
  {scope : Scope} (hs : s.Allots share T) (he : Charging s share P T eval)
  (hlocals : scope.locals = [])

include hs hlocals

theorem charges_resolveName (name : String) : Charges s size share (resolveName scope name) := by
  unfold resolveName
  rw [local?_eq_none_of_locals hlocals]
  refine .read_bind ?_
  split
  · next v hv =>
    split_ifs at hv
    exact .pure (Nat.le_trans (Sandbox.size_global?_le hv) hs.context)
  · exact .fail

include he

/-! #### Lists of parts -/

omit hs in
theorem paired_of_gives {e : Expr} {v : Value} (h : Gives s (eval scope e) v) :
    Paired s.selfPairing v v :=
  related_of_gives (he.evaluates.covered [] scope scope e e (covers_self hlocals)
    (Expr.placed_true e) fun _ _ => trivial) (fun _ _ => eq_of_selfPaired) h

omit hs in
theorem paired_evalAll {es : List Expr} {vs : List Value} (h : Gives s (evalAll eval scope es) vs) :
    List.Forall₂ (Paired s.selfPairing) vs vs := by
  refine related_of_gives (rel_evalAll ?_) (fun _ _ => eq_of_selfPaired_list) h
  refine List.forall₂_same.2 fun e _ => ?_
  exact he.evaluates.covered [] scope scope e e (covers_self hlocals) (Expr.placed_true e)
    fun _ _ => trivial

omit hs in
theorem charges_evalAll {es : List Expr} (hfrugal : Expr.areFrugal es = true)
    (hwritten : ∀ e ∈ es, e.Written P T) :
    Charges s total (Expr.nodeCounts es * share) (evalAll eval scope es) := by
  rw [← Expr.sum_nodeCounts]
  refine .mapItems (fun e : Expr => e.nodeCount * share) fun _ e hmem => ?_
  exact he.charges scope e hlocals (Expr.areFrugal_iff.1 hfrugal e hmem) (hwritten e hmem)

/-- The entry itself is reserved. -/
theorem charges_evalEntries {entries : Fields Expr} (hfrugal : Expr.haveFrugal entries = true)
    (hwritten : ∀ f ∈ entries, f.2.Written P T) {fields : Fields Value}
    (hfields : fields.Distinct) :
    Charges s fieldTotal (fieldTotal fields + Expr.entryNodeCounts entries * share)
      (evalEntries eval scope fields entries) := by
  induction entries generalizing fields with
  | nil => exact .pure (Nat.le_add_right _ _)
  | cons entry entries ih =>
    obtain ⟨key, e⟩ := entry
    rw [Expr.haveFrugal, Bool.and_eq_true] at hfrugal
    obtain ⟨hwrittenHead, hwrittenTail⟩ := List.forall_mem_cons.1 hwritten
    have hv := he.charges scope e hlocals hfrugal.1 hwrittenHead
    have hrest (v : Value) := ih hfrugal.2 hwrittenTail (hfields.insert key v)
    rw [Expr.entryNodeCounts, Nat.add_mul]
    refine .reserve_bind hs.counts (Charges.mono (hv.bind fun v _ => (hrest v).mono
      (k := v.size + (key.utf8ByteSize + fieldTotal fields +
        Expr.entryNodeCounts entries * share)) ?_) ?_)
    · have hinsert := fieldTotal_insert_le hfields key v
      omega
    · omega

/-! #### Accesses -/

/-- A share is left for what a host or the context gives. -/
theorem charges_evalMember {e : Expr} (hfrugal : e.isFrugal = true) (hwritten : e.Written P T)
    (name : String) (optional : Bool) :
    Charges s size (e.nodeCount * share + share) (evalMember eval scope e name optional) := by
  have hcontext := hs.context
  refine .read_bind ?_
  split
  · next v hv =>
    exact .pure (Nat.le_add_left_of_le (Nat.le_trans (size_rootProperty?_le hv) hcontext))
  · refine (he.charges scope e hlocals hfrugal hwritten).bind fun v _ => .of_ok fun w hw => ?_
    exact Nat.le_trans (size_read_le hw) (Nat.add_le_add_left hcontext _)

theorem charges_evalIndex {e key : Expr} (hfrugal : e.isFrugal = true) (hwritten : e.Written P T)
    (hkey : key.isFrugal = true) (hkeyWritten : key.Written P T) (optional : Bool) :
    Charges s size (e.nodeCount * share + (key.nodeCount * share + share))
      (evalIndex eval scope e key optional) := by
  have hcontext := hs.context
  refine .read_bind (.check fun _ => ?_)
  split
  · next v hv =>
    obtain ⟨k, -, hroot⟩ := Option.bind_eq_some_iff.1 hv
    have hsize := size_rootProperty?_le hroot
    exact .pure (by omega)
  · refine (he.charges scope e hlocals hfrugal hwritten).bind fun v _ => ?_
    split
    · exact charges_slot size_undefined (Nat.le_add_right_of_le v.slot_le_size)
    · refine ((he.charges scope key hlocals hkey hkeyWritten).bind (k := v.size + share)
        fun k _ => .of_ok fun w hw => ?_).mono (by omega)
      have hsize := size_readKey_le hw
      omega

/-! #### Calls -/

omit hs in
/-- A call of what has been evaluated, if there is something to call. -/
theorem charges_evalArgs {n k : Nat} {x : Eval Value} (hx : Charges s size n x) {args : List Expr}
    (hfrugal : Expr.areFrugal args = true) (hwritten : ∀ e ∈ args, e.Written P T) (skips : Bool)
    {f : Value → List Value → Eval Value}
    (hf : ∀ v vs, Gives s x v → Gives s (evalAll eval scope args) vs →
      Charges s size (v.size + total vs + k) (f v vs)) :
    Charges s size (n + (Expr.nodeCounts args * share + k))
      (do let v ← x
          if v.isNullish && skips then pure .undefined
          else do
            let vs ← evalAll eval scope args
            f v vs) := by
  refine hx.bind fun v hv => ?_
  split
  · exact charges_slot size_undefined (Nat.le_add_right_of_le v.slot_le_size)
  · refine ((charges_evalAll he hlocals hfrugal hwritten).bind (k := v.size + k)
      fun vs hvs => (hf v vs hv hvs).mono ?_).mono ?_
    · omega
    · omega

omit hlocals in
theorem charges_callMethod {name : String} (hname : name ∉ unchargedMethods) {v : Value}
    (hv : Paired s.selfPairing v v) {args : List Value}
    (hargs : List.Forall₂ (Paired s.selfPairing) args args) :
    Charges s size (v.size + total args + 2 * share) (callMethod eval scope v name args) := by
  have hcontext := hs.context
  have hinvoke {c : Caller} (hc : s.accounting.Callers s.selfPairing c c) :
      Charges s size (v.size + total args + 2 * share) (invoke c v name args) :=
    (charges_invoke hs.counts hname hc hv hargs).mono (Nat.le_add_right _ _)
  have hshares := shares_self hs.data
  have hcallers : s.accounting.Callers s.selfPairing (callValue eval scope none)
      (callValue eval scope none) :=
    rel_callValue hshares.toSharesHosts (callsFunctions hshares he.evaluates rfl) rfl
  unfold callMethod
  cases v with
  | host h =>
    refine (Host.charges_call hs.counts hname h _).mono ?_
    omega
  | _ => exact .read_bind (.check fun _ => hinvoke hcallers)

omit hs he hlocals in
/-- A call of the function with the name `name`. -/
theorem charges_callValue {name : String} (hname : name ≠ Builtin.string.name) {f : Value}
    (hf : Paired (.named name) f f) (shown : Option String) (args : List Value) {n : Nat}
    (hn : slot ≤ n) : Charges s size n (callValue eval scope shown f args) := by
  have hslot {v : Value} (hv : v.size = slot) : v.size ≤ n := hv ▸ hn
  cases hf with
  | function hcode _ => exact hcode.elim
  | @host h hnamed =>
    cases h with
    | builtin b =>
      refine .of_ok fun v hv => ?_
      cases b with
      | string => exact absurd (hnamed .string rfl).symm hname
      | nodeSelector =>
        simp only [Builtin.call] at hv
        split at hv
        · exact Except.ok.inj hv ▸ hslot (size_host _)
        · cases hv
      | parseInt => exact Except.ok.inj hv ▸ hslot (size_number _)
      | parseFloat => exact Except.ok.inj hv ▸ hslot (size_number _)
      | isNaN => exact Except.ok.inj hv ▸ hslot (size_bool _)
      | isFinite => exact Except.ok.inj hv ▸ hslot (size_bool _)
      | boolean => exact Except.ok.inj hv ▸ hslot (size_bool _)
    | space ns =>
      cases ns with
      | number => exact .pure (hslot (size_number _))
      | _ => exact .fail
    | _ => exact .fail
  | _ => exact .fail

/-- Two shares are left: one for what is called, and one for the call. -/
theorem charges_evalCall {callee : Expr} {args : List Expr} (hcharged : callee.isCharged = true)
    (hfrugal : callee.isFrugal = true) (hwritten : callee.Written P T)
    (hargs : Expr.areFrugal args = true) (hargsWritten : ∀ e ∈ args, e.Written P T)
    (optional : Bool) :
    Charges s size (callee.nodeCount * share + (Expr.nodeCounts args * share + share))
      (evalCall eval scope callee args optional) := by
  cases callee with
  | member span e name optionalMember =>
    have hname : name ∉ unchargedMethods := by simpa [Expr.isCharged] using hcharged
    rw [Expr.isFrugal] at hfrugal
    cases hwritten with
    | member _ _ _ hrecv =>
      refine Charges.mono (charges_evalArgs he hlocals (k := 2 * share)
        (he.charges scope e hlocals hfrugal hrecv) hargs hargsWritten _ fun v vs hv hvs => ?_) ?_
      · exact charges_callMethod hs he hname (paired_of_gives he hlocals hv)
          (paired_evalAll he hlocals hvs)
      · rw [Expr.nodeCount, Nat.add_mul]
        omega
  | ident span name =>
    have hname : name ≠ Builtin.string.name := by simpa [Expr.isCharged] using hcharged
    have hslots := hs.slots_le
    refine charges_evalArgs he hlocals (he.charges scope _ hlocals hfrugal hwritten) hargs
      hargsWritten _ fun f vs hf _ => ?_
    have hglobal := global?_of_gives hlocals (he.name _ _ _ _ hf)
    exact charges_callValue hname (paired_global? hs.data hglobal) _ vs (by omega)
  | _ => cases hcharged

/-! #### Operators -/

omit hs he hlocals in
theorem size_applyUnary_le (op : UnaryOp) (v : Value) :
    (op.apply v).size ≤ v.size + slot := by
  have hv := v.slot_le_size
  cases op with
  | typeOf =>
    have hname : v.typeName.utf8ByteSize ≤ slot := by
      unfold typeName
      split <;> decide
    rw [UnaryOp.apply, size_string]
    omega
  | _ => exact Nat.le_add_right_of_le hv

omit hs he hlocals in
theorem decided?_eq_some {op : BinaryOp} {a v : Value} (h : op.decided? a = some v) : v = a := by
  cases op with
  | and | or | nullish =>
    rw [BinaryOp.decided?] at h
    split at h <;> cases h
    rfl
  | _ => cases h

omit he hlocals in
theorem charges_applyBinary (op : BinaryOp) (a b : Value) :
    Charges s size (a.size + b.size) (op.apply a b) := by
  have ha := a.slot_le_size
  have hslot {v : Value} (hv : v.size = slot) : v.size ≤ a.size + b.size := by omega
  cases op with
  | add =>
    rw [BinaryOp.apply]
    split
    · refine .reserve_bind hs.counts (.pure ?_)
      rw [size_string, String.utf8ByteSize_append]
      omega
    · exact .pure (hslot (size_number _))
  | subtract | multiply | divide | modulo | power => exact .pure (hslot (size_number _))
  | and | or | nullish => exact .pure (Nat.le_add_left _ _)
  | _ => exact .pure (hslot (size_bool _))

theorem charges_evalBinary (op : BinaryOp) {l r : Expr} (hl : l.isFrugal = true)
    (hlWritten : l.Written P T) (hr : r.isFrugal = true) (hrWritten : r.Written P T) :
    Charges s size (l.nodeCount * share + r.nodeCount * share)
      (evalBinary eval scope op l r) := by
  refine (he.charges scope l hlocals hl hlWritten).bind fun a _ => ?_
  split
  · next v hv =>
    obtain rfl := decided?_eq_some hv
    exact .pure (Nat.le_add_right _ _)
  · refine ((he.charges scope r hlocals hr hrWritten).bind (k := a.size) fun b _ => ?_).mono ?_
    · exact (charges_applyBinary hs op a b).mono (by omega)
    · omega

/-! #### Expressions -/

/-- One node, whose parts are evaluated by `eval`. -/
theorem charges_evalNode {e : Expr} (hfrugal : e.isFrugal = true) (hwritten : e.Written P T) :
    Charges s size (e.nodeCount * share) (evalNode eval scope e) := by
  have hslots := hs.slots_le
  have hone {n : Nat} : slot ≤ (n + 1) * share := by
    rw [Nat.succ_mul]
    omega
  cases hwritten with
  | @literal _ value _ htext =>
    rw [Expr.nodeCount, Nat.one_mul]
    cases value with
    | string t => exact .pure (hs.text t (htext t rfl))
    | number x => exact charges_slot (size_number x) (by omega)
    | bool b => exact charges_slot (size_bool b) (by omega)
    | null => exact charges_slot size_null (by omega)
    | undefined => exact charges_slot size_undefined (by omega)
  | ident name _ =>
    rw [Expr.nodeCount, Nat.one_mul]
    exact charges_resolveName hs hlocals name
  | array _ hitems =>
    rw [Expr.isFrugal] at hfrugal
    rw [Expr.nodeCount, Nat.succ_mul]
    have hvalues := charges_evalAll he hlocals hfrugal hitems
    refine .reserve_bind hs.counts (Charges.mono (hvalues.bind_pure (k := slot) fun vs _ => ?_) ?_)
    · rw [size_array, Nat.add_comm]
    · omega
  | object _ hentries =>
    rw [Expr.isFrugal] at hfrugal
    rw [Expr.nodeCount, Nat.succ_mul]
    have hfields := charges_evalEntries hs he hlocals hfrugal hentries distinct_nil
    refine Charges.mono (hfields.bind_pure (k := slot) fun fields _ => ?_) ?_
    · rw [size_object, Nat.add_comm]
    · rw [fieldTotal_nil]
      omega
  | member name optional _ hrecv =>
    rw [Expr.isFrugal] at hfrugal
    rw [Expr.nodeCount, Nat.succ_mul]
    exact charges_evalMember hs he hlocals hfrugal hrecv name optional
  | index optional _ hrecv hkey =>
    rw [Expr.isFrugal, Bool.and_eq_true] at hfrugal
    rw [Expr.nodeCount, Nat.succ_mul, Nat.add_mul, Nat.add_assoc]
    exact charges_evalIndex hs he hlocals hfrugal.1 hrecv hfrugal.2 hkey optional
  | call optional _ hcallee hargs =>
    rw [Expr.isFrugal, Bool.and_eq_true, Bool.and_eq_true] at hfrugal
    rw [Expr.nodeCount, Nat.succ_mul, Nat.add_mul, Nat.add_assoc]
    have henter : Charges s (fun _ => 0) 0 scope.enter :=
      .of_accounts (.enter s scope) fun _ _ => Nat.le_refl 0
    refine .bind_free henter fun inner hinner => ?_
    obtain rfl := gives_enter hinner
    have hinside : ({ scope with frames := scope.frames + 1 } : Scope).locals = [] := hlocals
    exact charges_evalCall hs he hinside hfrugal.1.1 hfrugal.1.2 hcallee hfrugal.2 hargs optional
  | @unary _ e op _ he' =>
    rw [Expr.isFrugal] at hfrugal
    rw [Expr.nodeCount, Nat.succ_mul]
    have hoperand := he.charges scope e hlocals hfrugal he'
    refine (hoperand.bind_pure (k := slot) fun v _ => size_applyUnary_le op v).mono ?_
    omega
  | binary op _ hl hr =>
    rw [Expr.isFrugal, Bool.and_eq_true] at hfrugal
    rw [Expr.nodeCount, Nat.succ_mul, Nat.add_mul]
    exact (charges_evalBinary hs he hlocals op hfrugal.1 hl hfrugal.2 hr).mono
      (Nat.le_add_right _ _)
  | @conditional _ t c a _ ht hc ha =>
    rw [Expr.isFrugal, Bool.and_eq_true, Bool.and_eq_true] at hfrugal
    rw [Expr.nodeCount, Nat.succ_mul, Nat.add_mul, Nat.add_mul]
    have hconsequent := he.charges scope c hlocals hfrugal.1.2 hc
    have halternate := he.charges scope a hlocals hfrugal.2 ha
    refine ((he.charges scope t hlocals hfrugal.1.1 ht).bind
      (k := c.nodeCount * share + a.nodeCount * share) fun v _ => ?_).mono (by omega)
    split
    · exact hconsequent.mono (by omega)
    · exact halternate.mono (by omega)
  | lambda params _ _ => exact charges_slot (size_function _ _ _) hone
  | assign _ _ _ => exact .fail

end

section

variable {s : Sandbox} {share : Nat} {T : String → Prop}

/-- Evaluations of frugal expressions at every level of nesting. -/
theorem charging_eval (hs : s.Allots share T) (P : Span → Prop) (n : Nat) :
    Charging s share P T (Expr.eval n) := by
  have hevaluates (n : Nat) := evaluates_eval (shares_self hs.data) n
  have htick : Charges s (fun _ => 0) 0 tick := .of_accounts (.tick s) fun _ _ => Nat.le_refl 0
  induction n with
  | zero =>
    refine ⟨hevaluates 0, fun scope span name v h => ?_, fun scope e _ _ _ => ?_⟩
    · obtain ⟨_, -, h⟩ := gives_bind h
      exact absurd h not_gives_fail
    · exact .bind_free htick fun _ _ => .fail
  | succ n ih =>
    refine ⟨hevaluates (n + 1), fun scope span name v h => ?_,
      fun scope e hlocals hfrugal hwritten => ?_⟩
    · obtain ⟨_, -, h⟩ := gives_bind h
      exact gives_locate h
    · exact .bind_free htick fun _ _ => .locate (charges_evalNode hs ih hlocals hfrugal hwritten)

/-- The value of a frugal expression is charged up to a share for each of its nodes. -/
theorem Expr.charges_value (hs : s.Allots share T) {P : Span → Prop} {e : Expr}
    (hfrugal : e.isFrugal = true) (hwritten : e.Written P T) :
    Charges s size (e.nodeCount * share) e.value :=
  (charging_eval hs P maxNesting).charges .empty e rfl hfrugal hwritten

end

end TemplateExpr
