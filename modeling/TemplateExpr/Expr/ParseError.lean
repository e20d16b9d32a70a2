import TemplateExpr.Token.Basic

/-!
# Parse errors

A parse error is a cause and the byte offset of the offending text. The wording of each cause and
its class are functions on the causes.
-/

namespace TemplateExpr

/-- What was expected where an expression ended. -/
inductive Expectation where
  | expression
  | propertyName
  | symbol (s : Symbol)
deriving Repr, DecidableEq

/-- The wording of an expectation. -/
def Expectation.message : Expectation → String
  | .expression => "an expression"
  | .propertyName => "a property name"
  | .symbol s => s.describe

/-- The ceiling for the nesting of the descent and for the height of the tree. -/
def maxDepth : Nat := 256

/-- The classes of parse errors. -/
inductive ParseError.Kind where
  | unmatchedOpen
  | unmatchedClose
  | unexpectedToken
  | unexpectedEnd
  | invalidLiteral
  | unsupported
  | tooDeep
deriving Repr, DecidableEq

/-- Why a template or an expression cannot be read. -/
inductive ParseError.Cause where
  /-- An opening delimiter that is never closed. -/
  | unmatchedOpen
  /-- A closing delimiter in literal text. -/
  | unmatchedClose
  | unclosedComment
  | unclosedString
  | invalidHexLiteral
  | nameAfterNumber
  /-- An escape whose hexadecimal digits denote no character. -/
  | invalidEscape (digits : String)
  | unclosedEscape
  | bitwiseOperator (c : Char)
  | unexpectedCharacter (c : Char)
  | unexpectedToken (found : Token)
  | expectedSymbol (expected : Symbol) (found : Token)
  | expectedProperty (found : Token)
  | endOfExpression (expected : Expectation)
  /-- More than one expression, separated by a semicolon. -/
  | statements
  /-- A word of a construct outside the language. -/
  | keyword (word : String)
  | blockBody
  | computedKey
  | tooDeep
deriving Repr

/-- A cause at a byte offset. -/
structure ParseError where
  cause : ParseError.Cause
  offset : Nat
deriving Repr

namespace ParseError

/-- The class of a cause. -/
def Cause.kind : Cause → Kind
  | .unmatchedOpen => .unmatchedOpen
  | .unmatchedClose => .unmatchedClose
  | .unclosedComment | .unclosedString | .endOfExpression _ => .unexpectedEnd
  | .invalidHexLiteral | .nameAfterNumber | .invalidEscape _ | .unclosedEscape => .invalidLiteral
  | .bitwiseOperator _ | .statements | .keyword _ | .blockBody | .computedKey => .unsupported
  | .unexpectedCharacter _ | .unexpectedToken _ | .expectedSymbol _ _ | .expectedProperty _ =>
    .unexpectedToken
  | .tooDeep => .tooDeep

/-- The wording of a cause. -/
def Cause.message : Cause → String
  | .unmatchedOpen => "Opening '\x7b\x7b' without matching '\x7d\x7d'"
  | .unmatchedClose => "Closing '\x7d\x7d' without matching '\x7b\x7b'"
  | .unclosedComment => "Unclosed multi-line comment"
  | .unclosedString => "Unterminated string literal"
  | .invalidHexLiteral => "Invalid hex literal"
  | .nameAfterNumber => "Identifier starts immediately after numeric literal"
  | .invalidEscape digits => "Invalid escape sequence '" ++ digits ++ "'"
  | .unclosedEscape => "Unterminated unicode escape"
  | .bitwiseOperator c => "Bitwise operator '" ++ c.toString ++ "' is not supported"
  | .unexpectedCharacter c => "Unexpected character '" ++ c.toString ++ "'"
  | .unexpectedToken found => "Unexpected token " ++ found.describe
  | .expectedSymbol expected found =>
    "Expected " ++ expected.describe ++ " but found " ++ found.describe
  | .expectedProperty found => "Expected property name but found " ++ found.describe
  | .endOfExpression expected => "Unexpected end of expression, expected " ++ expected.message
  | .statements => "Statements are not supported; use a single expression"
  | .keyword word => "'" ++ word ++ "' is not supported in expressions"
  | .blockBody => "Block bodies are not supported; use an expression body"
  | .computedKey => "Computed object keys are not supported"
  | .tooDeep => "Expression is nested deeper than " ++ Text.Digit.decimal maxDepth ++ " levels"

/-- The class of an error. -/
def kind (e : ParseError) : Kind := e.cause.kind

/-- The wording of an error without its place. -/
def message (e : ParseError) : String := e.cause.message

/-- The wording of an error with its place. -/
def display (e : ParseError) : String := e.message ++ " at offset " ++ Text.Digit.decimal e.offset

/-- The same error in a text in front of which `n` bytes have been put. -/
def shift (e : ParseError) (n : Nat) : ParseError := { e with offset := e.offset + n }

end ParseError

end TemplateExpr
