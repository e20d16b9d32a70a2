import TemplateExpr.Json.Parser
import TemplateExpr.Method.Basic
import TemplateExpr.Number.Arithmetic
import TemplateExpr.Text.Address
import TemplateExpr.Text.Case
import TemplateExpr.Url.Basic
import TemplateExpr.Value.DateTime

/-!
# Methods of texts

All positions count characters. Methods that can make a text much longer reserve memory first.
-/

namespace TemplateExpr.TextMethod

open TemplateExpr.Text

/-! ### Kinds of methods -/

/-- What a method does to a text with arguments. -/
abbrev Run := Caller → String → List Value → Eval Value

/-- A text that is made of the characters alone. -/
def convert (f : List Char → List Char) : Run := fun _ s _ => pure (.ofChars (f s.toList))

/-- A condition on the characters. -/
def test (p : List Char → Bool) : Run := fun _ s _ => pure (.bool (p s.toList))

/-- A part of the text, or undefined. -/
def extract (f : List Char → Option (List Char)) : Run := fun _ s _ =>
  pure (((f s.toList).map Value.ofChars).getD .undefined)

/-- The characters of an argument. -/
def chars (args : List Value) (i : Nat) : List Char := (Arguments.nth args i).toChars

/-! ### Searching -/

/-- A condition on the characters and those of the first argument. -/
def compare (p : List Char → List Char → Bool) : Run := fun _ s args =>
  pure (.bool (p (chars args 0) s.toList))

/-- A position, or minus one. -/
def position : Option Nat → Value
  | some i => .ofNat i
  | none => .number (-1)

/-- Where the first argument stands. -/
def locate (find? : List Char → List Char → Option Nat) : Run := fun _ s args =>
  pure (position (find? (chars args 0) s.toList))

/-! ### Cutting -/

/-- The part between two positions, the second of which is the end if it is missing. -/
def part (place : Float → Nat → Nat) (cs : List Char) (args : List Value) : Nat × Nat :=
  (place ((Arguments.number? args 0).getD 0) cs.length,
   ((Arguments.number? args 1).map (place · cs.length)).getD cs.length)

/-- The part between two positions, counted from the end if they are negative. -/
def slice : Run := fun _ s args =>
  let cs := s.toList
  let (start, stop) := part Number.relativeIndex cs args
  pure (.ofChars (between cs start stop))

/-- The part between two positions, in whichever order they are given. -/
def substring : Run := fun _ s args =>
  let cs := s.toList
  let (start, stop) := part Number.clampIndex cs args
  pure (.ofChars (between cs (min start stop) (max start stop)))

/-- The pieces between the occurrences of a separator; the empty one separates all characters. -/
def pieces (sep cs : List Char) : List (List Char) :=
  if sep.isEmpty then cs.map ([·]) else splitOn sep cs

/-- The pieces between the occurrences of a separator, up to a limit. Without a separator the text
is one piece. -/
def split : Run := fun _ s args => do
  let parts :=
    match Arguments.nth args 0 with
    | .undefined => [.string s]
    | sep =>
      let parts := pieces sep.toChars s.toList
      (match Arguments.number? args 1 with
       | some limit => parts.take (Number.toNat64 limit)
       | none => parts).map Value.ofChars
  Eval.reserve (s.utf8ByteSize + parts.length * Value.slot)
  pure (.array parts)

/-- The character at a position that is not negative; no character behind the end. -/
def charAt : Run := fun _ s args =>
  let x := (Arguments.number? args 0).getD 0
  pure (.ofChars (if x < 0 then [] else (s.toList[Number.toNat64 x]?).toList))

/-- The character at a position, counted from the end if it is negative. -/
def at_ : Run := fun _ s args =>
  let cs := s.toList
  let found := (Number.itemIndex? ((Arguments.number? args 0).getD 0) cs.length).bind (cs[·]?)
  pure ((found.map Value.ofChar).getD .undefined)

/-! ### Replacing -/

/-- The first occurrence of a text replaced. -/
def replace : Run := fun _ s args => do
  let search ← Arguments.text "replace" args 0
  pure (.ofChars (replaceFirst search.toList (chars args 1) s.toList))

/-- Every occurrence of a text replaced. -/
def replaceEvery : Run := fun _ s args => do
  let search ← Arguments.text "replaceAll" args 0
  let new := (Arguments.nth args 1).toText
  if search.isEmpty then Eval.fail (.invalidArgument "replaceAll" .emptySearch)
  let count := countOf search.toList s.toList
  Eval.reserve (s.utf8ByteSize + count * new.utf8ByteSize)
  pure (.ofChars (replaceAll search.toList new.toList s.toList))

/-! ### Growing -/

/-- `n` copies of `s` behind `acc`. -/
def copies (s : String) (acc : String) : Nat → String
  | 0 => acc
  | n + 1 => copies s (acc ++ s) n

/-- The text a number of times. -/
def repeated : Run := fun _ s args => do
  let x ← Arguments.number "repeat" args 0
  if x < 0 || !Number.isFinite x then
    Eval.fail (.invalidArgument "repeat" (.count (Number.format x)))
  let count := Number.toNat64 x
  Eval.reserve (s.utf8ByteSize * count)
  pure (.string (if s.isEmpty then s else copies s "" count))

/-- The first `n` characters of `fill` repeated without end. -/
def filling (fill : List Char) (n : Nat) : List Char :=
  (List.replicate (n / fill.length + 1) fill).flatten.take n

/-- The most bytes that a character takes. -/
def maxCharSize : Nat := 4

/-- What is missing to the length in the first argument. -/
def padding (method : String) (s : String) (args : List Value) : Eval (List Char) := do
  let target ← Arguments.number method args 0
  let fill := ((← Arguments.text? method args 1).getD " ").toList
  let length := Number.ofNat s.length
  if Number.isNaN target || target ≤ length || fill.isEmpty then pure []
  else
    let missing := Number.toNat64 (target - length)
    Eval.reserve (missing * maxCharSize)
    pure (filling fill missing)

/-- The text filled up at its start. -/
def padStart : Run := fun _ s args => do
  let pad ← padding "padStart" s args
  pure (.string (String.ofList pad ++ s))

/-- The text filled up at its end. -/
def padEnd : Run := fun _ s args => do
  let pad ← padding "padEnd" s args
  pure (.string (s ++ String.ofList pad))

/-- The text with those of the arguments behind it. -/
def concat : Run := fun _ s args => do
  let out := args.foldl (fun acc v => acc ++ v.toText) s
  Eval.reserve out.utf8ByteSize
  pure (.string out)

/-- The text between marks, with a backslash in front of the marks in it. -/
def quote : Run := fun _ s args => do
  let mark := ((← Arguments.text? "quote" args 0).getD "\"").toList
  pure (.ofChars (mark ++ replaceAll mark ('\\' :: mark) s.toList ++ mark))

/-! ### Conversions -/

/-- The text itself. -/
def self : Run := fun _ s _ => pure (.string s)

/-- A number that is calculated from the number of the text. -/
def toNumber (f : Float → Float) : Run := fun _ s _ => pure (.number (f (Number.parse s.toList)))

/-- The words for no. -/
def negations : List String := ["", "false", "0", "no", "off"]

/-- Whether a text says yes. -/
def isYes (cs : List Char) : Bool := !negations.contains (String.ofList (lowerAscii (trim cs)))

/-- Whether a text is a finite number. -/
def isNumeric (cs : List Char) : Bool :=
  !(trim cs).isEmpty && Number.isFinite (Number.parse cs)

/-- The moment of the text. -/
def toDateTime : Run := fun _ s _ => do
  let t ← DateTime.ofText s
  pure (.date t)

/-! ### Codes -/

/-- The text in base64. -/
def base64Encode : Run := fun _ s _ => do
  Eval.reserve (s.utf8ByteSize / 3 * 4 + 4)
  pure (.ofChars (Base64.encode (encode s.toList)))

/-- The text of base64, which blanks may surround. -/
def base64Decode : Run := fun _ s _ =>
  match Base64.decode (encode (trim s.toList)) with
  | .ok bytes => pure (.ofChars (decodeLossy bytes))
  | .error fault => Eval.fail (.invalidArgument "base64Decode" (.base64 fault))

/-- The text of a percent-encoded text. -/
def urlDecode : Run := fun _ s _ =>
  match PercentCode.decode s.toList with
  | .ok cs => pure (.ofChars cs)
  | .error fault => Eval.fail (.invalidArgument "urlDecode" (.bytes fault))

/-- The value of JSON. -/
def parseJson : Run := fun _ s _ =>
  match Json.parseString s with
  | .error message => Eval.fail (.invalidArgument "parseJson" (.json message))
  | .ok json => do
    Eval.reserve s.utf8ByteSize
    pure (.ofJson json)

/-! ### Table -/

/-- The methods of texts. -/
def table : List (Method String) :=
  [⟨"toUpperCase", "toUpperCase()", "Convert to upper case", "'abc'.toUpperCase()", convert upper⟩,
   ⟨"toLowerCase", "toLowerCase()", "Convert to lower case", "'ABC'.toLowerCase()", convert lower⟩,
   ⟨"trim", "trim()", "Strip surrounding whitespace", "' a '.trim()", convert trim⟩,
   ⟨"trimStart", "trimStart()", "Strip leading whitespace", "' a'.trimStart()", convert trimStart⟩,
   ⟨"trimEnd", "trimEnd()", "Strip trailing whitespace", "'a '.trimEnd()", convert trimEnd⟩,
   ⟨"includes", "includes(search)", "Whether the text contains search", "'abc'.includes('b')",
    compare contains⟩,
   ⟨"startsWith", "startsWith(prefix)", "Whether the text starts with prefix",
    "'abc'.startsWith('a')", compare List.isPrefixOf⟩,
   ⟨"endsWith", "endsWith(suffix)", "Whether the text ends with suffix", "'abc'.endsWith('c')",
    compare List.isSuffixOf⟩,
   ⟨"indexOf", "indexOf(search)", "Position of the first match or -1", "'abc'.indexOf('c')",
    locate indexOf?⟩,
   ⟨"lastIndexOf", "lastIndexOf(search)", "Position of the last match or -1",
    "'abca'.lastIndexOf('a')", locate lastIndexOf?⟩,
   ⟨"slice", "slice(start, end?)", "Substring; negative indices count from the end",
    "'hello'.slice(-3)", slice⟩,
   ⟨"substring", "substring(start, end?)", "Substring between two indices",
    "'hello'.substring(1, 3)", substring⟩,
   ⟨"split", "split(separator, limit?)", "Split into an array", "'a,b'.split(',')", split⟩,
   ⟨"replace", "replace(search, replacement)", "Replace the first occurrence",
    "'aa'.replace('a', 'b')", replace⟩,
   ⟨"replaceAll", "replaceAll(search, replacement)", "Replace every occurrence",
    "'aa'.replaceAll('a', 'b')", replaceEvery⟩,
   ⟨"repeat", "repeat(count)", "Repeat the text count times", "'ab'.repeat(3)", repeated⟩,
   ⟨"padStart", "padStart(length, fill?)", "Pad on the left to length", "'5'.padStart(3, '0')",
    padStart⟩,
   ⟨"padEnd", "padEnd(length, fill?)", "Pad on the right to length", "'5'.padEnd(3, '0')", padEnd⟩,
   ⟨"charAt", "charAt(index)", "Character at index", "'abc'.charAt(1)", charAt⟩,
   ⟨"at", "at(index)", "Character at index; negative counts from the end", "'abc'.at(-1)", at_⟩,
   ⟨"concat", "concat(...parts)", "Append the arguments", "'a'.concat('b', 'c')", concat⟩,
   ⟨"toString", "toString()", "The text itself", "'a'.toString()", self⟩,
   ⟨"isEmpty", "isEmpty()", "Whether the text has no characters", "''.isEmpty()",
    test List.isEmpty⟩,
   ⟨"isNotEmpty", "isNotEmpty()", "Whether the text has characters", "'a'.isNotEmpty()",
    test fun cs => !cs.isEmpty⟩,
   ⟨"toNumber", "toNumber()", "Parse as a number", "'42'.toNumber()", toNumber id⟩,
   ⟨"toInt", "toInt()", "Parse as an integer, truncating", "'42.9'.toInt()",
    toNumber Number.trunc⟩,
   ⟨"toFloat", "toFloat()", "Parse as a floating-point number", "'4.2'.toFloat()", toNumber id⟩,
   ⟨"toBoolean", "toBoolean()", "Interpret true/false, yes/no, on/off, 1/0", "'yes'.toBoolean()",
    test isYes⟩,
   ⟨"toDateTime", "toDateTime()", "Parse as a date-time", "'2024-01-01'.toDateTime()", toDateTime⟩,
   ⟨"toDate", "toDate()", "Parse as a date-time", "'2024-01-01'.toDate()", toDateTime⟩,
   ⟨"toTitleCase", "toTitleCase()", "Capitalize every word", "'hello world'.toTitleCase()",
    convert titleCase⟩,
   ⟨"toSentenceCase", "toSentenceCase()", "Capitalize the first letter only",
    "'hELLO'.toSentenceCase()", convert capitalize⟩,
   ⟨"toSnakeCase", "toSnakeCase()", "Convert to snake_case", "'Hello World'.toSnakeCase()",
    convert snakeCase⟩,
   ⟨"toCamelCase", "toCamelCase()", "Convert to camelCase", "'hello world'.toCamelCase()",
    convert camelCase⟩,
   ⟨"extractEmail", "extractEmail()", "First email address in the text",
    "'mail me@x.io'.extractEmail()", extract firstMail?⟩,
   ⟨"extractUrl", "extractUrl()", "First http(s) URL in the text",
    "'see https://x.io'.extractUrl()", extract firstWeb?⟩,
   ⟨"extractDomain", "extractDomain()", "Domain of a URL or email address",
    "'https://x.io/a'.extractDomain()", extract (Url.domainOf? firstMail?)⟩,
   ⟨"isEmail", "isEmail()", "Whether the text is an email address", "'me@x.io'.isEmail()",
    test isMail⟩,
   ⟨"isUrl", "isUrl()", "Whether the text is an http(s) URL", "'https://x.io'.isUrl()",
    test Url.isWeb⟩,
   ⟨"isDomain", "isDomain()", "Whether the text is a domain name", "'x.io'.isDomain()",
    test isDomain⟩,
   ⟨"isNumeric", "isNumeric()", "Whether the text parses as a finite number", "'1.5'.isNumeric()",
    test isNumeric⟩,
   ⟨"removeTags", "removeTags()", "Strip HTML/XML tags", "'<b>hi</b>'.removeTags()",
    convert removeTags⟩,
   ⟨"base64Encode", "base64Encode()", "Encode UTF-8 bytes as base64", "'hi'.base64Encode()",
    base64Encode⟩,
   ⟨"base64Decode", "base64Decode()", "Decode base64 into UTF-8 text", "'aGk='.base64Decode()",
    base64Decode⟩,
   ⟨"urlEncode", "urlEncode()", "Percent-encode as a URI component", "'a b'.urlEncode()",
    convert PercentCode.encode⟩,
   ⟨"urlDecode", "urlDecode()", "Decode percent-encoding", "'a%20b'.urlDecode()", urlDecode⟩,
   ⟨"quote", "quote(mark?)", "Wrap in quotes, escaping inner marks", "'a'.quote()", quote⟩,
   ⟨"parseJson", "parseJson()", "Parse JSON text into a value",
    "'\x7b\"a\":1\x7d'.parseJson()", parseJson⟩]

end TemplateExpr.TextMethod
