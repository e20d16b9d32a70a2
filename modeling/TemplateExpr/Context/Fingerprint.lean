import TemplateExpr.Config.Basic
import TemplateExpr.Context.Basic
import TemplateExpr.Expr.Analysis

/-!
# Fingerprints

A fingerprint tells contexts apart by what expressions may read of them. It is the sequence of the
primitive values that are written one after the other: kinds, numbers by their bits, texts, lengths.
A value starts with its kind and says its length before its parts, so that the sequence of a value
is never the beginning of the sequence of another one.
-/

namespace TemplateExpr

/-- A primitive value that is written to a fingerprint. -/
inductive Mark where
  | kind (k : Kind)
  | bool (b : Bool)
  | bits (b : UInt64)
  | text (s : String)
  | length (n : Nat)
  | integer (n : Int)
deriving Repr, DecidableEq

/-- The sequence of what is written. -/
abbrev Fingerprint := List Mark

namespace Value

/-- The kind that is written for a value; host values have one of their own. -/
def markKind : Value → Mark
  | host _ => .text "host"
  | v => .kind v.kind

mutual

/-- What is written for a value. -/
def marks (v : Value) : Fingerprint :=
  v.markKind ::
    match v with
    | undefined | null => []
    | bool b => [.bool b]
    | number x => [.bits x.toBits]
    | string s => [.text s]
    | array items => .length items.length :: itemMarks items
    | object fields => .length fields.length :: fieldMarks fields
    | date t => [.integer t.toMillis, .integer t.offset]
    | function params .. => .length params.length :: params.map .text
    | host h => [.text h.text]

/-- What is written for the items of an array. -/
def itemMarks : List Value → Fingerprint
  | [] => []
  | item :: items => item.marks ++ itemMarks items

/-- What is written for the fields of an object. -/
def fieldMarks : List (String × Value) → Fingerprint
  | [] => []
  | (key, value) :: fields => .text key :: (value.marks ++ fieldMarks fields)

end

end Value

namespace Context

/-- What a node contributes: its name and its item. -/
def nodeMarks (node : String × Value) : Fingerprint := .text node.1 :: node.2.marks

/-- What the origin of items contributes: the current node and the text of the run. -/
def lineageMarks (l : LineageData) : Fingerprint :=
  [.text l.node, .text l.runData.toJson.compact]

/-- The fingerprint of all that expressions may read. -/
def fullFingerprint (c : Context) : Fingerprint :=
  .text "$json" :: c.json.marks ++ c.nodes.flatMap nodeMarks ++
    .text "$env" :: c.env.toValue.marks ++ .text "$input" :: c.input.flatMap Value.marks ++
    (Value.ofNat c.runIndex).marks ++ (Value.ofNat c.itemIndex).marks ++
    (match c.lineage with
     | some l => lineageMarks l
     | none => [])

/-- What a read of the field `key` of an item depends on: that field of an object, and all of any
other value. -/
def fieldRead (json : Value) (key : String) : Value :=
  match json with
  | .object fields => (Fields.get? fields key).getD .undefined
  | v => v

/-- What a dependency contributes. -/
def dependencyMarks (c : Context) (d : Dependency) : Fingerprint :=
  .text d.root ::
    match d.root, d.key with
    | "$json", some key => .text key :: (fieldRead c.json key).marks
    | "$json", none => c.json.marks
    | "$env", some key => .text key :: ((c.env.get? key).map Mark.text).toList
    | "$env", none => c.env.toValue.marks
    | "$runIndex", _ => (Value.ofNat c.runIndex).marks
    | "$itemIndex", _ => (Value.ofNat c.itemIndex).marks
    | _, _ => []

/-- The fingerprint of what an expression reads according to its analysis; of everything, if the
analysis does not list all of it. -/
def dependencyFingerprint (c : Context) (a : Analysis) : Fingerprint :=
  if a.dependenciesComplete then a.dependencies.flatMap c.dependencyMarks else c.fullFingerprint

/-- The fingerprint for an expression in a mode. -/
def fingerprint (c : Context) (mode : FingerprintMode) (a : Analysis) : Fingerprint :=
  match mode with
  | .full => c.fullFingerprint
  | .dependencies => c.dependencyFingerprint a

end Context

end TemplateExpr
