import TemplateExpr.Text.Digit
import TemplateExpr.Validation.Printer

/-!
# Command lines

A command line names a command, a template and options. An option may stand anywhere. Its value is
the next argument, or it follows the long name and `=`, or it follows the short name at once; behind
`--` no argument is an option. `Command.ofArguments` reads a command line.
-/

/-!
## Errors of command lines
-/

namespace TemplateExpr

/-- Why a command line cannot be read. -/
inductive CommandError where
  /-- No command is named. -/
  | noCommand
  | unknownCommand (name : String)
  | unknownOption (name : String)
  /-- The value of an option is missing. -/
  | noValue (option : String)
  /-- A value stands behind an option that takes none. -/
  | needlessValue (option : String)
  | badValue (option value : String)
  | repeated (option : String)
  /-- What a command needs is missing. -/
  | missing (what : String)
  /-- An option that the command does not have. -/
  | foreign (option : String)
  | extraArgument (argument : String)
deriving Repr, DecidableEq

/-- The wording of an error. -/
def CommandError.message : CommandError → String
  | noCommand => "a command is required"
  | unknownCommand name => "unrecognized command '" ++ name ++ "'"
  | unknownOption name => "unexpected option '" ++ name ++ "'"
  | noValue option => "a value is required for '" ++ option ++ "'"
  | needlessValue option => "'" ++ option ++ "' takes no value"
  | badValue option value => "invalid value '" ++ value ++ "' for '" ++ option ++ "'"
  | repeated option => "'" ++ option ++ "' cannot be used multiple times"
  | missing what => "'" ++ what ++ "' is required"
  | foreign option => "the command has no option '" ++ option ++ "'"
  | extraArgument argument => "unexpected argument '" ++ argument ++ "'"

end TemplateExpr

/-! ## Reading a command line -/

namespace TemplateExpr

open TemplateExpr.Text

/-- What is to be done with a template. The context and the configuration are names of files. -/
inductive Command where
  | evaluate (template : String) (context? : Option String) (pretty : Bool)
  | validate (template : String) (context? : Option String) (style : IssueStyle)
  | complete (template : String) (context? : Option String) (cursor : Nat)
  /-- Shows how commands are written. -/
  | help
deriving Repr, DecidableEq

/-- A command and the configuration of the engine that carries it out. -/
structure Invocation where
  command : Command
  config? : Option String
deriving Repr, DecidableEq

/-! ### Options -/

/-- An option. -/
inductive CommandOption where
  | config
  | context
  | pretty
  | format
  | cursor
  | help
deriving Repr, DecidableEq

namespace CommandOption

/-- The long name. -/
def name : CommandOption → String
  | config => "--config"
  | context => "--context"
  | pretty => "--pretty"
  | format => "--format"
  | cursor => "--cursor"
  | help => "--help"

/-- The letter, if there is one. -/
def letter? : CommandOption → Option Char
  | config => some 'c'
  | context => some 'x'
  | pretty => some 'p'
  | format => some 'f'
  | cursor => none
  | help => some 'h'

/-- Whether the option has a value. -/
def takesValue : CommandOption → Bool
  | config | context | format | cursor => true
  | pretty | help => false

/-- All options. -/
def all : List CommandOption := [config, context, pretty, format, cursor, help]

end CommandOption

/-- What has been read of a command line: its plain arguments, in reverse, and its options. -/
structure CommandWords where
  plain : List String
  options : List (CommandOption × String)
deriving Repr, DecidableEq

namespace CommandWords

/-- An empty command line. -/
def empty : CommandWords := ⟨[], []⟩

/-- The value of an option. -/
def get? (a : CommandWords) (o : CommandOption) : Option String := a.options.lookup o

/-- Adds a plain argument. -/
def push (a : CommandWords) (argument : String) : CommandWords :=
  { a with plain := argument :: a.plain }

/-- Adds an option, which must not stand there twice. -/
def set (a : CommandWords) (o : CommandOption) (value : String) :
    Except CommandError CommandWords :=
  match a.get? o with
  | some _ => .error (.repeated o.name)
  | none => .ok { a with options := (o, value) :: a.options }

/-- The option that an argument is, and the value that it holds itself. -/
def option? (argument : String) : Except CommandError (Option (CommandOption × Option String)) :=
  match argument.toList with
  | '-' :: '-' :: _ =>
    let (name, value) := argument.toList.span (· != '=')
    match CommandOption.all.find? (·.name.toList == name) with
    | some o => .ok (some (o, value.tail?.map String.ofList))
    | none => .error (.unknownOption (String.ofList name))
  | '-' :: letter :: value =>
    match CommandOption.all.find? (·.letter? == some letter) with
    | some o => .ok (some (o, if value.isEmpty then none else some (String.ofList value)))
    | none => .error (.unknownOption (String.ofList ['-', letter]))
  | _ => .ok none

/-- Reads arguments behind those that have been read. -/
def read (a : CommandWords) : List String → Except CommandError CommandWords
  | [] => .ok a
  | argument :: rest =>
    if argument = "--" then .ok (rest.foldl push a)
    else do
      match ← option? argument with
      | none => read (a.push argument) rest
      | some (o, value?) =>
        match o.takesValue, value?, rest with
        | true, some value, rest => read (← a.set o value) rest
        | true, none, value :: rest => read (← a.set o value) rest
        | true, none, [] => .error (.noValue o.name)
        | false, none, rest => read (← a.set o "") rest
        | false, some _, _ => .error (.needlessValue o.name)

/-- Refuses options that are not in the list. -/
def allow (a : CommandWords) (allowed : List CommandOption) : Except CommandError Unit :=
  match a.options.find? fun (o, _) => !allowed.contains o with
  | some (o, _) => .error (.foreign o.name)
  | none => .ok ()

end CommandWords

/-! ### Commands -/

namespace Command

/-- The style of a name. -/
def style? : String → Option IssueStyle
  | "text" => some .text
  | "json" => some .json
  | "compact" => some .compact
  | _ => none

/-- The style that is asked for, or text. -/
def styleOf (a : CommandWords) : Except CommandError IssueStyle :=
  match a.get? .format with
  | none => .ok .text
  | some value =>
    match style? value with
    | some style => .ok style
    | none => .error (.badValue CommandOption.format.name value)

/-- The cursor, which must be there. -/
def cursorOf (a : CommandWords) : Except CommandError Nat :=
  match a.get? .cursor with
  | none => .error (.missing CommandOption.cursor.name)
  | some value =>
    match Digit.read? 10 value.toList with
    | some n => .ok n
    | none => .error (.badValue CommandOption.cursor.name value)

/-- The only plain argument behind the command. -/
def templateOf : List String → Except CommandError String
  | [] => .error (.missing "TEMPLATE")
  | [template] => .ok template
  | _ :: extra :: _ => .error (.extraArgument extra)

/-- The command of the plain arguments `words` with the options of `a`. -/
def ofWords (a : CommandWords) : List String → Except CommandError Command
  | [] => .error .noCommand
  | name :: words =>
    let context? := a.get? .context
    match name with
    | "evaluate" => do
      a.allow [.config, .context, .pretty]
      pure (.evaluate (← templateOf words) context? (a.get? .pretty).isSome)
    | "validate" => do
      a.allow [.config, .context, .format]
      pure (.validate (← templateOf words) context? (← styleOf a))
    | "complete" => do
      a.allow [.config, .context, .cursor]
      pure (.complete (← templateOf words) context? (← cursorOf a))
    | "help" => .ok .help
    | _ => .error (.unknownCommand name)

/-- Reads a command line. -/
def ofArguments (arguments : List String) : Except CommandError Invocation := do
  let a ← CommandWords.empty.read arguments
  if (a.get? .help).isSome then pure ⟨.help, none⟩
  else pure ⟨← ofWords a a.plain.reverse, a.get? .config⟩

/-- How commands are written. -/
def usage : String :=
  "\n".intercalate
    ["Evaluate sandboxed template expressions",
     "",
     "Usage:",
     "  evaluate <TEMPLATE> [--context FILE] [--pretty]",
     "      Evaluate a template against a context",
     "  validate <TEMPLATE> [--context FILE] [--format text|json|compact]",
     "      Run the validation layers over a template",
     "  complete <TEMPLATE> --cursor N [--context FILE]",
     "      List completions at a byte offset",
     "",
     "Options:",
     "  -c, --config FILE   JSON configuration of the engine",
     "  -x, --context FILE  JSON file with the context",
     "  -p, --pretty        Pretty-print JSON",
     "  -f, --format STYLE  Style of the issues",
     "      --cursor N      Byte offset of the cursor",
     "  -h, --help          Show this text"]

end Command

end TemplateExpr
