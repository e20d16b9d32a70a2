import TemplateExpr.Expr.Json
import TemplateExpr.Expr.Parser
import TemplateExpr.Template.Basic

/-!
# Compiled expressions

An expression of a template is either a path query or an expression of the language, which can be
told from its first characters. `Compiled.ofText` decides which, and parses and analyzes it.
-/

namespace TemplateExpr

open TemplateExpr.Text

/-- How an expression is evaluated. -/
inductive Route where
  | query
  | evaluator
deriving Repr, DecidableEq

namespace Route

/-- The name of a route. -/
def name : Route → String
  | query => "jsonQuery"
  | evaluator => "evaluator"

/-- Path queries are `$` and what starts with `$.` or `$[`. -/
def ofText (cs : List Char) : Route :=
  match trim cs with
  | ['$'] => query
  | '$' :: '.' :: _ => query
  | '$' :: '[' :: _ => query
  | _ => evaluator

end Route

/-- What is evaluated. -/
inductive Program where
  /-- The text of a path query. -/
  | query
  | expr (e : Expr)

namespace Program

/-- How the program is evaluated. -/
def route : Program → Route
  | query => .query
  | expr _ => .evaluator

/-- The tree of an expression of the language. -/
def expr? : Program → Option Expr
  | query => none
  | expr e => some e

end Program

/-- An expression that is ready to be evaluated. -/
structure Compiled where
  source : String
  /-- Where the source starts in the template. -/
  offset : Nat
  program : Program
  analysis : Analysis

namespace Compiled

/-- Compiles the expression that starts at byte `offset` of a template. -/
def ofText (source : String) (offset : Nat) : Except ParseError Compiled :=
  match Route.ofText source.toList with
  | .query => .ok ⟨source, offset, .query, Analysis.ofQuery⟩
  | .evaluator =>
    match Expr.parse source.toList with
    | .error e => .error (e.shift offset)
    | .ok e => .ok ⟨source, offset, .expr e, e.analyze⟩

/-- The expression of a segment, compiled; nothing for literal text. -/
def ofSegment? (s : Segment) : Option (Except ParseError Compiled) :=
  s.expression?.map fun (source, offset) => ofText source offset

/-- How the expression is evaluated. -/
def route (c : Compiled) : Route := c.program.route

/-- A compiled expression as JSON. -/
def toJson (c : Compiled) : Json :=
  .object
    [("source", .string c.source),
     ("offset", .ofNat c.offset),
     ("route", .string c.route.name),
     ("ast", match c.program.expr? with
       | some e => e.toJson
       | none => .null),
     ("analysis", c.analysis.toJson)]

end Compiled

end TemplateExpr
