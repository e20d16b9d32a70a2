import TemplateExpr.Json.Basic
import TemplateExpr.Pattern.Footprint
import TemplateExpr.Pattern.Machine
import TemplateExpr.Pattern.Meaning
import TemplateExpr.Span

/-!
# The policy of the sandbox

Settings whose limits are in order and whose patterns can be read. A policy says which names and
methods may be used and which blocked pattern a text matches first.
-/

/-!
## Errors of the configuration

What is wrong with settings that are refused, and its wording.
-/

namespace TemplateExpr

/-- Why a configuration is refused. -/
inductive ConfigError where
  /-- A limit that must not be zero. -/
  | zeroLimit (field : String)
  /-- A blocked pattern that cannot be read. -/
  | invalidPattern (name : String)
  /-- The construction of code at run time was asked for. -/
  | functionConstructor
deriving Repr, DecidableEq

/-- The wording of an error. -/
def ConfigError.message : ConfigError → String
  | zeroLimit field => "Configuration value '" ++ field ++ "' must be greater than zero"
  | invalidPattern name => "Blocked pattern '" ++ name ++ "' is not a valid regular expression"
  | functionConstructor =>
    "allowFunctionConstructor cannot be enabled: runtime code construction is always blocked"

end TemplateExpr

/-!
## Settings of the sandbox

Limits, names that may be used, and patterns that the text of an expression must not match. Two
patterns, which concern the construction of code, cannot be taken away.
-/

namespace TemplateExpr

/-- A pattern that expressions must not match. -/
structure BlockedPattern where
  name : String
  pattern : String
deriving Repr, DecidableEq

/-- The settings of the sandbox. -/
structure SecurityConfig where
  /-- The time that an evaluation may take, in milliseconds. -/
  timeout : Nat
  /-- The size of the values that an evaluation may build. -/
  maxMemory : Nat
  /-- How deeply calls may be nested. -/
  maxCallStackSize : Nat
  allowedGlobals : List String
  /-- The methods that may be called; all of them if there are none. -/
  allowedMethods : List String
  blockedPatterns : List BlockedPattern
  /-- Asks for the construction of code at run time, which is refused. -/
  allowFunctionConstructor : Bool
  /-- Refuses access to members by keys that are not literals. -/
  strictGrammar : Bool
deriving Repr

namespace SecurityConfig

/-! ### Defaults -/

/-- The names that expressions may use by default. -/
def defaultGlobals : List String :=
  ["$json", "$node", "$env", "$now", "$today", "$runIndex", "$itemIndex", "$input", "$", "Math",
   "JSON", "Object", "Array", "Number", "String", "Boolean", "DateTime", "parseInt", "parseFloat",
   "isNaN", "isFinite"]

/-- The patterns that are always blocked. -/
def mandatoryPatterns : List BlockedPattern :=
  [⟨"eval", "\\beval\\s*\\("⟩, ⟨"function_constructor", "\\bFunction\\s*\\("⟩]

/-- The patterns that are blocked by default. -/
def defaultPatterns : List BlockedPattern :=
  mandatoryPatterns ++
  [⟨"prototype_access", "\\b(?:constructor|__proto__|prototype)\\b"⟩,
   ⟨"process_access", "\\bprocess\\b"⟩,
   ⟨"require", "\\brequire\\s*\\("⟩,
   ⟨"dynamic_import", "\\bimport\\s*\\("⟩,
   ⟨"global_object", "\\b(?:globalThis|global|window)\\b"⟩,
   ⟨"timers", "\\b(?:setTimeout|setInterval|setImmediate)\\s*\\("⟩]

/-- The default settings. -/
def standard : SecurityConfig :=
  { timeout := 5000
    maxMemory := 10 * 1024 * 1024
    maxCallStackSize := 100
    allowedGlobals := defaultGlobals
    allowedMethods := []
    blockedPatterns := defaultPatterns
    allowFunctionConstructor := false
    strictGrammar := false }

/-! ### Checks -/

/-- The patterns that are in force: those of the settings, and behind them the mandatory ones that
are not among them. -/
def patterns (c : SecurityConfig) : List BlockedPattern :=
  c.blockedPatterns ++ mandatoryPatterns.filter fun p => !c.blockedPatterns.contains p

/-- Refuses limits of zero and the construction of code. -/
def checkLimits (c : SecurityConfig) : Except ConfigError Unit :=
  if c.timeout = 0 then .error (.zeroLimit "security.timeout")
  else if c.maxCallStackSize = 0 then .error (.zeroLimit "security.maxCallStackSize")
  else if c.maxMemory = 0 then .error (.zeroLimit "security.maxMemory")
  else if c.allowFunctionConstructor then .error .functionConstructor
  else .ok ()

/-! ### JSON -/

/-- The pattern of JSON data. -/
def blockedPattern? (j : Json) : Option BlockedPattern := do
  let r ← j.record? ["name", "pattern"]
  pure { name := ← r.required? "name" Json.string?
         pattern := ← r.required? "pattern" Json.string? }

/-- The settings of JSON data; fields that are missing have their default. -/
def ofJson? (j : Json) : Option SecurityConfig := do
  let r ← j.record? ["timeout", "maxMemory", "maxCallStackSize", "allowedGlobals", "allowedMethods",
    "blockedPatterns", "allowFunctionConstructor", "strictGrammar"]
  pure
    { timeout := ← r.field? "timeout" Json.nat? standard.timeout
      maxMemory := ← r.field? "maxMemory" Json.nat? standard.maxMemory
      maxCallStackSize := ← r.field? "maxCallStackSize" Json.nat? standard.maxCallStackSize
      allowedGlobals := ← r.field? "allowedGlobals" Json.strings? standard.allowedGlobals
      allowedMethods := ← r.field? "allowedMethods" Json.strings? standard.allowedMethods
      blockedPatterns :=
        ← r.field? "blockedPatterns" (Json.list? blockedPattern?) standard.blockedPatterns
      allowFunctionConstructor :=
        ← r.field? "allowFunctionConstructor" Json.bool? standard.allowFunctionConstructor
      strictGrammar := ← r.field? "strictGrammar" Json.bool? standard.strictGrammar }

/-- The settings as JSON. -/
def toJson (c : SecurityConfig) : Json :=
  .object
    [("timeout", .ofNat c.timeout),
     ("maxMemory", .ofNat c.maxMemory),
     ("maxCallStackSize", .ofNat c.maxCallStackSize),
     ("allowedGlobals", .ofStrings c.allowedGlobals),
     ("allowedMethods", .ofStrings c.allowedMethods),
     ("blockedPatterns",
      .array (c.blockedPatterns.map fun p =>
        .object [("name", .string p.name), ("pattern", .string p.pattern)])),
     ("allowFunctionConstructor", .bool c.allowFunctionConstructor),
     ("strictGrammar", .bool c.strictGrammar)]

end SecurityConfig

end TemplateExpr

/-! ## Policies -/

namespace TemplateExpr

/-- A blocked pattern that has been read. -/
structure Rule where
  name : String
  machine : Machine

/-- The rule of a blocked pattern, which must be well formed and not too large. -/
def Rule.ofPattern? (p : BlockedPattern) : Option Rule :=
  ((Pattern.parse? p.pattern).filter (·.fits)).map fun pattern => ⟨p.name, .ofPattern pattern⟩

/-- Where a text matches a blocked pattern. -/
structure BlockedMatch where
  rule : String
  span : Span
deriving Repr

/-- Settings that are in force. -/
structure Policy where
  config : SecurityConfig
  rules : List Rule

namespace Policy

/-- Reads the patterns in order. -/
def readRules : List BlockedPattern → Except ConfigError (List Rule)
  | [] => .ok []
  | p :: ps =>
    match Rule.ofPattern? p with
    | none => .error (.invalidPattern p.name)
    | some rule => (readRules ps).map (rule :: ·)

/-- The policy of settings. -/
def ofConfig (c : SecurityConfig) : Except ConfigError Policy :=
  match c.checkLimits with
  | .error e => .error e
  | .ok () => (readRules c.patterns).map (⟨c, ·⟩)

/-- Whether a name may be used. -/
def allowsGlobal (p : Policy) (name : String) : Bool := p.config.allowedGlobals.contains name

/-- Whether a method may be called. -/
def allowsMethod (p : Policy) (name : String) : Bool :=
  p.config.allowedMethods.isEmpty || p.config.allowedMethods.contains name

/-- Where the text matches a rule first; the rules are tried in order. -/
def findBlocked? (p : Policy) (text : String) : Option BlockedMatch :=
  p.rules.findSome? fun rule =>
    (rule.machine.find? text.toList).map fun (start, stop) => ⟨rule.name, ⟨start, stop⟩⟩

end Policy

end TemplateExpr
