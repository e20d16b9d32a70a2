import TemplateExpr.Json.Basic
import TemplateExpr.Security.Policy

/-!
# The configuration of an engine

The settings of the sandbox and of the cache, switches for the libraries, and what is returned.
`EngineConfig.check` finds the first fault of a configuration.
-/

/-!
## Settings of the result cache
-/

namespace TemplateExpr

/-- Which part of the context belongs to the key of a cached result. -/
inductive FingerprintMode where
  /-- All of it. -/
  | full
  /-- What the expression reads according to its analysis. -/
  | dependencies
deriving Repr, DecidableEq

/-- The settings of the result cache. -/
structure CacheConfig where
  enabled : Bool
  maxSize : Nat
  /-- How long a result is kept, in milliseconds. -/
  ttl : Nat
  fingerprint : FingerprintMode
deriving Repr, DecidableEq

/-- The names of the modes. -/
def FingerprintMode.names : List (String × FingerprintMode) :=
  [("full", full), ("dependencies", dependencies)]

/-- The name of a mode. -/
def FingerprintMode.name : FingerprintMode → String
  | full => "full"
  | dependencies => "dependencies"

namespace CacheConfig

/-- The default settings. -/
def standard : CacheConfig := ⟨true, 1000, 300000, .full⟩

/-- The settings of JSON data; fields that are missing have their default. -/
def ofJson? (j : Json) : Option CacheConfig := do
  let r ← j.record? ["enabled", "maxSize", "ttl", "fingerprint"]
  pure
    { enabled := ← r.field? "enabled" Json.bool? standard.enabled
      maxSize := ← r.field? "maxSize" Json.nat? standard.maxSize
      ttl := ← r.field? "ttl" Json.nat? standard.ttl
      fingerprint :=
        ← r.field? "fingerprint" (Json.word? FingerprintMode.names) standard.fingerprint }

/-- The settings as JSON. -/
def toJson (c : CacheConfig) : Json :=
  .object
    [("enabled", .bool c.enabled), ("maxSize", .ofNat c.maxSize), ("ttl", .ofNat c.ttl),
     ("fingerprint", .string c.fingerprint.name)]

end CacheConfig

end TemplateExpr

/-! ## Settings of the engine -/

namespace TemplateExpr

/-- Switches for logging. -/
structure DebugConfig where
  enabled : Bool
  traceExecution : Bool
  logPerformance : Bool
deriving Repr, DecidableEq

/-- What an evaluation returns. -/
inductive OutputFormat where
  /-- The value. -/
  | value
  /-- The segments and the trees of the template, without evaluating it. -/
  | tree
deriving Repr, DecidableEq

/-- What is returned. -/
structure OutputConfig where
  format : OutputFormat
  includeMetadata : Bool
deriving Repr, DecidableEq

/-- The configuration of an engine. -/
structure EngineConfig where
  security : SecurityConfig
  cache : CacheConfig
  debug : DebugConfig
  /-- Switches for libraries; those that are not listed are on. -/
  libraries : List (String × Bool)
  output : OutputConfig
deriving Repr

/-! ### Sections -/

namespace DebugConfig

/-- Nothing is logged. -/
def standard : DebugConfig := ⟨false, false, false⟩

/-- The switches of JSON data; fields that are missing are off. -/
def ofJson? (j : Json) : Option DebugConfig := do
  let r ← j.record? ["enabled", "traceExecution", "logPerformance"]
  pure
    { enabled := ← r.field? "enabled" Json.bool? false
      traceExecution := ← r.field? "traceExecution" Json.bool? false
      logPerformance := ← r.field? "logPerformance" Json.bool? false }

/-- The switches as JSON. -/
def toJson (c : DebugConfig) : Json :=
  .object
    [("enabled", .bool c.enabled), ("traceExecution", .bool c.traceExecution),
     ("logPerformance", .bool c.logPerformance)]

end DebugConfig

/-- The names of the formats. -/
def OutputFormat.names : List (String × OutputFormat) := [("string", value), ("ast", tree)]

/-- The name of a format. -/
def OutputFormat.name : OutputFormat → String
  | value => "string"
  | tree => "ast"

namespace OutputConfig

/-- The value without metadata. -/
def standard : OutputConfig := ⟨.value, false⟩

/-- The options of JSON data; fields that are missing have their default. -/
def ofJson? (j : Json) : Option OutputConfig := do
  let r ← j.record? ["format", "includeMetadata"]
  pure
    { format := ← r.field? "format" (Json.word? OutputFormat.names) standard.format
      includeMetadata := ← r.field? "includeMetadata" Json.bool? standard.includeMetadata }

/-- The options as JSON. -/
def toJson (c : OutputConfig) : Json :=
  .object [("format", .string c.format.name), ("includeMetadata", .bool c.includeMetadata)]

end OutputConfig

namespace EngineConfig

/-! ### Libraries -/

/-- The library of dates: `DateTime`, `$now` and `$today`. -/
def dateTimeLibrary : String := "dateTime"

/-- The library of path queries. -/
def queryLibrary : String := "jsonQuery"

/-- Whether a library is on. -/
def libraryEnabled (c : EngineConfig) (name : String) : Bool :=
  (Fields.get? c.libraries name).getD true

/-- The configuration with a library switched on or off. -/
def withLibrary (c : EngineConfig) (name : String) (enabled : Bool) : EngineConfig :=
  { c with libraries := Fields.insert c.libraries name enabled }

/-! ### The whole -/

/-- The default configuration. -/
def standard : EngineConfig :=
  { security := .standard
    cache := .standard
    debug := .standard
    libraries := [(dateTimeLibrary, true), (queryLibrary, true)]
    output := .standard }

/-- The configuration of JSON data; sections that are missing have their defaults. -/
def ofJson? (j : Json) : Option EngineConfig := do
  let r ← j.record? ["security", "cache", "debug", "libraries", "output"]
  pure
    { security := ← r.field? "security" SecurityConfig.ofJson? standard.security
      cache := ← r.field? "cache" CacheConfig.ofJson? standard.cache
      debug := ← r.field? "debug" DebugConfig.ofJson? standard.debug
      libraries := ← r.field? "libraries" (Json.table? Json.bool?) standard.libraries
      output := ← r.field? "output" OutputConfig.ofJson? standard.output }

/-- The configuration as JSON. -/
def toJson (c : EngineConfig) : Json :=
  .object
    [("security", c.security.toJson), ("cache", c.cache.toJson), ("debug", c.debug.toJson),
     ("libraries", .object (c.libraries.map fun l => (l.1, .bool l.2))),
     ("output", c.output.toJson)]

/-- The policy of a configuration, or its first fault: those of the sandbox come before those of the
cache, which only count if it is enabled. -/
def check (c : EngineConfig) : Except ConfigError Policy :=
  match Policy.ofConfig c.security with
  | .error e => .error e
  | .ok policy =>
    if c.cache.enabled && c.cache.maxSize = 0 then .error (.zeroLimit "cache.maxSize")
    else if c.cache.enabled && c.cache.ttl = 0 then .error (.zeroLimit "cache.ttl")
    else .ok policy

end EngineConfig

end TemplateExpr
