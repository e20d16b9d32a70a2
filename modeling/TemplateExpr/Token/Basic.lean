import TemplateExpr.Number.Text
import TemplateExpr.Span

/-!
# Tokens

An expression is a sequence of numbers, strings, names and symbols. `Token.describe` is how a token
is named in messages.
-/

namespace TemplateExpr

/-- The operators and marks of the language. -/
inductive Symbol where
  | plus
  | minus
  | star
  | doubleStar
  | slash
  | percent
  | bang
  | assign
  | equal
  | strictEqual
  | notEqual
  | strictNotEqual
  | less
  | lessEqual
  | greater
  | greaterEqual
  | doubleAnd
  | doubleBar
  | doubleQuestion
  | question
  | questionDot
  | arrow
  | openParen
  | closeParen
  | openBracket
  | closeBracket
  | openBrace
  | closeBrace
  | dot
  | comma
  | colon
  | semicolon
deriving Repr, DecidableEq

namespace Symbol

/-- How a symbol is written. -/
def text : Symbol → String
  | plus => "+"
  | minus => "-"
  | star => "*"
  | doubleStar => "**"
  | slash => "/"
  | percent => "%"
  | bang => "!"
  | assign => "="
  | equal => "=="
  | strictEqual => "==="
  | notEqual => "!="
  | strictNotEqual => "!=="
  | less => "<"
  | lessEqual => "<="
  | greater => ">"
  | greaterEqual => ">="
  | doubleAnd => "&&"
  | doubleBar => "||"
  | doubleQuestion => "??"
  | question => "?"
  | questionDot => "?."
  | arrow => "=>"
  | openParen => "("
  | closeParen => ")"
  | openBracket => "["
  | closeBracket => "]"
  | openBrace => "\x7b"
  | closeBrace => "\x7d"
  | dot => "."
  | comma => ","
  | colon => ":"
  | semicolon => ";"

/-- A symbol as it is named in messages. -/
def describe (s : Symbol) : String := "'" ++ s.text ++ "'"

end Symbol

/-- A token. -/
inductive Token where
  | number (x : Float)
  | string (s : String)
  | name (s : String)
  | symbol (s : Symbol)
deriving Repr

namespace Token

/-- A token as it is named in messages. -/
def describe : Token → String
  | .number x => "number " ++ Number.format x
  | .string s => "string '" ++ s ++ "'"
  | .name s => "'" ++ s ++ "'"
  | .symbol s => s.describe

/-- Whether the token is the symbol `s`. -/
def isSymbol (t : Token) (s : Symbol) : Bool :=
  match t with
  | .symbol s' => s' == s
  | _ => false

/-- The text of a name. -/
def name? : Token → Option String
  | .name s => some s
  | _ => none

end Token

end TemplateExpr
