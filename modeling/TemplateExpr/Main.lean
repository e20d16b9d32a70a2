import Std.Time.DateTime.Timestamp
import TemplateExpr.Command.Basic
import TemplateExpr.Completion.Basic
import TemplateExpr.Engine.Basic
import TemplateExpr.Json.Parser
import TemplateExpr.Validation.Basic

/-!
# The command line

Carries out a command: reads the files that it names and prints what comes of the template. The exit
code is 0 if all is well, 1 if the template fails, and 2 if the command cannot be carried out.
-/

namespace TemplateExpr.Command

/-- The steps of an evaluation that are taken for a millisecond. -/
def stepsPerMillisecond : Nat := 1500

/-- The time of the clock. -/
def currentTime : IO DateTime := do
  let nanos := (← Std.Time.Timestamp.now).toNanosecondsSinceUnixEpoch.val
  pure ⟨nanos / DateTime.nanosPerSecond, (nanos % DateTime.nanosPerSecond).toNat, 0⟩

/-- The text of a file. -/
def readText (file : String) : IO String :=
  tryCatch (IO.FS.readFile file) fun _ => throw (.userError ("cannot read '" ++ file ++ "'"))

/-- The JSON in a file, or an error that says what it should have been. -/
def readJson {α : Type} (file complaint : String) (decode : Json → Option α) : IO α := do
  match (Json.parseString (← readText file)).toOption.bind decode with
  | some a => pure a
  | none => throw (.userError complaint)

/-- The engine of a configuration in a file. -/
def loadEngine : Option String → IO Engine
  | none => ofConfig .standard
  | some file => do
    let complaint := "invalid configuration in '" ++ file ++ "'"
    ofConfig (← readJson file complaint EngineConfig.ofJson?)
where
  /-- The engine of a configuration that is not refused. -/
  ofConfig (c : EngineConfig) : IO Engine :=
    match Engine.ofConfig c with
    | .ok e => pure e
    | .error error => throw (.userError ("configuration rejected: " ++ error.message))

/-- The context in a file. -/
def loadContext (file : String) : IO Context := do
  let now ← currentTime
  readJson file ("'" ++ file ++ "' is not a valid context") (Context.ofJson? now)

/-- The context in a file, or one without an item. -/
def contextOrEmpty : Option String → IO Context
  | some file => loadContext file
  | none => do pure (.ofItem .undefined (← currentTime))

/-- Evaluates a template and prints the result. -/
def runEvaluate (e : Engine) (template : String) (c : Context) (pretty : Bool) : IO UInt32 := do
  let start ← IO.monoNanosNow
  let occasion : Occasion := ⟨start / 1000000, (· / stepsPerMillisecond), false⟩
  let result := (e.evaluate template c occasion).1
  let isValue := result.value?.isSome
  let nanos := (← IO.monoNanosNow) - start
  let j := result.toJson (nanos.toFloat / 1000000)
  IO.println (if pretty then j.pretty else j.compact)
  pure (if isValue then 0 else 1)

/-- Validates a template and prints the issues. -/
def runValidate (e : Engine) (template : String) (context? : Option Context) (style : IssueStyle) :
    IO UInt32 := do
  let result := Validation.ofText e.policy .standard context? template
  IO.println <|
    if style = .json then result.toJson.pretty
    else if result.issues.isEmpty then "valid"
    else IssuePrinter.printAll ⟨style, true, true⟩ template result.issues
  pure (if result.isValid then 0 else 1)

/-- Prints the suggestions at the cursor. -/
def runComplete (e : Engine) (template : String) (context? : Option Context) (cursor : Nat) :
    IO UInt32 := do
  let suggestions := Suggestion.complete e.policy.config.allowedGlobals context? template cursor
  IO.println (Json.pretty (.array (suggestions.map Suggestion.toJson)))
  pure 0

/-- Carries out a command. -/
def run (i : Invocation) : IO UInt32 := do
  let e ← loadEngine i.config?
  match i.command with
  | .evaluate template context? pretty => runEvaluate e template (← contextOrEmpty context?) pretty
  | .validate template context? style => runValidate e template (← context?.mapM loadContext) style
  | .complete template context? cursor =>
    runComplete e template (← context?.mapM loadContext) cursor
  | .help => do
    IO.println usage
    pure 0

end TemplateExpr.Command

/-- Carries out the command of a command line. -/
def main (arguments : List String) : IO UInt32 := do
  match TemplateExpr.Command.ofArguments arguments with
  | .error error =>
    IO.eprintln ("error: " ++ error.message ++ "\n\n" ++ TemplateExpr.Command.usage)
    pure 2
  | .ok invocation =>
    try TemplateExpr.Command.run invocation
    catch error =>
      IO.eprintln ("Error: " ++ toString error)
      pure 2
