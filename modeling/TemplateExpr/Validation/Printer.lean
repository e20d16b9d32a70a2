import TemplateExpr.Json.Printer
import TemplateExpr.Text.Case
import TemplateExpr.Validation.Problem

/-!
# Printing issues

Issues are shown in one of three styles: on one line each, as JSON, or as text with the line of the
template in which the range of the issue is underlined.
-/

namespace TemplateExpr

open TemplateExpr.Text

/-- How issues are shown. -/
inductive IssueStyle where
  /-- With the line of the template. -/
  | text
  | json
  /-- One line for each issue. -/
  | compact
deriving Repr, DecidableEq

/-- A style, and which parts are shown; JSON shows all of them. -/
structure IssuePrinter where
  style : IssueStyle
  showCode : Bool
  showSuggestions : Bool
deriving Repr, DecidableEq

namespace IssuePrinter

/-- A number at the end of four columns. -/
def lineNumber (n : Nat) : List Char :=
  let digits := (Digit.decimal n).toList
  List.replicate (4 - digits.length) ' ' ++ digits

/-- The number of characters that are underlined: those of the range on its first line, and at least
one. -/
def underlineWidth (source : String) (s : Span) : Nat :=
  match lines (betweenBytes source.toList s.start (min s.stop source.utf8ByteSize)) with
  | line :: _ => max line.length 1
  | [] => 1

/-- The line of a location with its range underlined; nothing if the text has no such line. -/
def excerpt (source : String) (l : Location) : List Char :=
  match (lines source.toList)[l.position.line - 1]? with
  | none => []
  | some line =>
    lineNumber l.position.line ++ " | ".toList ++ line ++ '\n' :: "     | ".toList ++
      List.replicate (l.position.column - 1) ' ' ++
      List.replicate (underlineWidth source l.span) '^' ++ ['\n']

/-- An issue as text. -/
def asText (p : IssuePrinter) (source : String) (i : Issue) : String :=
  let code :=
    if p.showCode then " [" ++ i.problem.layer.name ++ "/" ++ i.problem.code ++ "]" else ""
  let place := match i.location? with
    | some l => " --> " ++ l.display ++ "\n" ++ String.ofList (excerpt source l)
    | none => ""
  let help := match p.showSuggestions, i.problem.suggestion? with
    | true, some s => "  = help: " ++ s ++ "\n"
    | _, _ => ""
  i.problem.level.name ++ ": " ++ i.problem.message ++ code ++ "\n" ++ place ++ help

/-- An issue on one line. -/
def asLine (p : IssuePrinter) (i : Issue) : String :=
  let place := match i.location? with
    | some l => l.position.display
    | none => "-"
  let code := if p.showCode then "[" ++ i.problem.code ++ "] " else ""
  place ++ ": " ++ i.problem.level.name ++ ": " ++ code ++ i.problem.message

/-- The text of an issue of the template `source`. -/
def print (p : IssuePrinter) (source : String) (i : Issue) : String :=
  match p.style with
  | .text => p.asText source i
  | .json => i.toJson.pretty
  | .compact => p.asLine i

/-- The text of several issues. -/
def printAll (p : IssuePrinter) (source : String) (issues : List Issue) : String :=
  match p.style with
  | .json => Json.pretty (.array (issues.map Issue.toJson))
  | .text | .compact => "\n".intercalate (issues.map (p.print source))

end IssuePrinter

end TemplateExpr
