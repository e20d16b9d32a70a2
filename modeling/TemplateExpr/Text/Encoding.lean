import TemplateExpr.Text.Utf8

/-!
# Encodings of bytes as text

Base64 and percent-encoding.
-/

/-!
## Base64 with padding

The standard alphabet. `encode` pads with `=`; `decode` accepts exactly the padded form whose
unused bits are zero and otherwise says which rule is broken.
-/

namespace TemplateExpr.Text.Base64

/-- The character of the six bits `n`. -/
def symbol (n : Nat) : Char :=
  if n < 26 then Char.ofNat (65 + n)
  else if n < 52 then Char.ofNat (71 + n)
  else if n < 62 then Char.ofNat (n - 4)
  else if n = 62 then '+'
  else '/'

/-- The six bits that a byte stands for. -/
def value? (b : Nat) : Option Nat :=
  if 65 ≤ b ∧ b ≤ 90 then some (b - 65)
  else if 97 ≤ b ∧ b ≤ 122 then some (b - 71)
  else if 48 ≤ b ∧ b ≤ 57 then some (b + 4)
  else if b = 43 then some 62
  else if b = 47 then some 63
  else none

/-- The code of `=`. -/
def pad : Nat := 61

/-- The base64 text of a list of bytes. -/
def encode : List Nat → List Char
  | a :: b :: c :: rest =>
    symbol (a / 4) :: symbol (a % 4 * 16 + b / 16) :: symbol (b % 16 * 4 + c / 64) ::
      symbol (c % 64) :: encode rest
  | [a, b] => [symbol (a / 4), symbol (a % 4 * 16 + b / 16), symbol (b % 16 * 4), '=']
  | [a] => [symbol (a / 4), symbol (a % 4 * 16), '=', '=']
  | [] => []

/-- Why a text is not base64. -/
inductive Fault where
  /-- A byte outside the alphabet, or padding in the wrong place. -/
  | symbol (byte offset : Nat)
  /-- The last symbol carries bits that belong to no byte. -/
  | lastSymbol (byte offset : Nat)
  /-- The number of symbols belongs to no number of bytes. -/
  | length (count : Nat)
  /-- Padding is missing. -/
  | padding
deriving Repr, DecidableEq

/-- The wording of a fault. -/
def Fault.message : Fault → String
  | .symbol byte offset =>
    "Invalid symbol " ++ Digit.decimal byte ++ ", offset " ++ Digit.decimal offset ++ "."
  | .lastSymbol byte offset =>
    "Invalid last symbol " ++ Digit.decimal byte ++ ", offset " ++ Digit.decimal offset ++ "."
  | .length count => "Invalid input length: " ++ Digit.decimal count
  | .padding => "Invalid padding"

/-- The values of the symbols of the last group, which starts at `start`. `index` counts the bytes
of the group read so far, `pads` the padding among them, and `values` holds the values in reverse
together with their bytes. -/
def readGroup (start index pads : Nat) (values : List (Nat × Nat)) :
    List Nat → Except Fault (List (Nat × Nat) × Nat)
  | [] => .ok (values.reverse, pads)
  | b :: rest =>
    if b = pad then
      if index < 2 then .error (.symbol b (start + index))
      else readGroup start (index + 1) (pads + 1) values rest
    else if 0 < pads then .error (.symbol pad (start + index - pads))
    else match value? b with
      | none => .error (.symbol b (start + index))
      | some v => readGroup start (index + 1) pads ((v, b) :: values) rest

/-- The bytes of the last group, which starts at `start` and has at most four symbols. -/
def decodeGroup (start : Nat) (bytes : List Nat) : Except Fault (List Nat) :=
  match readGroup start 0 0 [] bytes with
  | .error e => .error e
  | .ok (values, pads) =>
    if values.length < 2 then .error (.length (start + values.length))
    else if (pads + values.length) % 4 ≠ 0 then .error .padding
    else match values with
      | [(a, _), (b, s)] =>
        if b % 16 ≠ 0 then .error (.lastSymbol s (start + 1)) else .ok [a * 4 + b / 16]
      | [(a, _), (b, _), (c, s)] =>
        if c % 4 ≠ 0 then .error (.lastSymbol s (start + 2))
        else .ok [a * 4 + b / 16, b % 16 * 16 + c / 4]
      | [(a, _), (b, _), (c, _), (d, _)] =>
        .ok [a * 4 + b / 16, b % 16 * 16 + c / 4, c % 4 * 64 + d]
      | _ => .error (.length (start + values.length))

/-- Decodes `bytes`, which start at `start`, behind the bytes `acc` (in reverse). -/
def decodeFrom (start : Nat) (acc : List Nat) : List Nat → Except Fault (List Nat)
  | a :: b :: c :: d :: e :: rest =>
    match value? a, value? b, value? c, value? d with
    | some va, some vb, some vc, some vd =>
      decodeFrom (start + 4)
        ((vc % 4 * 64 + vd) :: (vb % 16 * 16 + vc / 4) :: (va * 4 + vb / 16) :: acc)
        (e :: rest)
    | none, _, _, _ => .error (.symbol a start)
    | _, none, _, _ => .error (.symbol b (start + 1))
    | _, _, none, _ => .error (.symbol c (start + 2))
    | _, _, _, none => .error (.symbol d (start + 3))
  | [] => .ok acc.reverse
  | group => (decodeGroup start group).map (acc.reverse ++ ·)

/-- The bytes of a base64 text. A lone byte behind complete groups is reported first if it is not a
symbol. -/
def decode (bytes : List Nat) : Except Fault (List Nat) :=
  match bytes.getLast? with
  | none => .ok []
  | some b =>
    if bytes.length % 4 = 1 ∧ b ≠ pad ∧ (value? b).isNone then
      .error (.symbol b (bytes.length - 1))
    else decodeFrom 0 [] bytes

end TemplateExpr.Text.Base64

/-!
## Percent-encoding

`encode` writes the bytes that are not kept as `%` and two upper-case hexadecimal digits;
`decode` reads such triples back and lets every other byte through. `formEncode` is the variant
of query strings, in which a space becomes `+`.
-/

namespace TemplateExpr.Text.PercentCode

/-- The upper-case hexadecimal digit of `d < 16`. -/
def hexDigit (d : Nat) : Char := (Digit.char d).toUpper

/-- `%` and the two digits of a byte. -/
def triple (b : Nat) : List Char := ['%', hexDigit (b / 16), hexDigit (b % 16)]

/-- `cs` with the bytes of the characters that are not `kept` written as triples. -/
def encodeWith (kept : Char → Bool) (cs : List Char) : List Char :=
  cs.flatMap fun c => if kept c then [c] else (encodeChar c).flatMap triple

/-- The characters that stay as they are in a component of an address. -/
def isKept (c : Char) : Bool :=
  isAsciiAlphanumeric c || ['-', '_', '.', '!', '~', '*', '\x27', '(', ')'].contains c

/-- `cs` as a component of an address. -/
def encode (cs : List Char) : List Char := encodeWith isKept cs

/-- The characters that stay as they are in a query string. -/
def isKeptInForm (c : Char) : Bool :=
  isAsciiAlphanumeric c || ['*', '-', '.', '_'].contains c

/-- `cs` as a name or a value of a query string. -/
def formEncode (cs : List Char) : List Char :=
  cs.flatMap fun c =>
    if c = ' ' then ['+']
    else if isKeptInForm c then [c]
    else (encodeChar c).flatMap triple

/-- The query string of a list of names and values. -/
def formEncodePairs (pairs : List (List Char × List Char)) : List Char :=
  joinWith ['&'] (pairs.map fun (name, value) => formEncode name ++ '=' :: formEncode value)

/-- The bytes of `cs` with every triple replaced by the byte that it stands for. -/
def decodeBytes : List Char → List Nat
  | [] => []
  | '%' :: a :: b :: cs =>
    match Digit.value? 16 a, Digit.value? 16 b with
    | some x, some y => (16 * x + y) :: decodeBytes cs
    | _, _ => 37 :: decodeBytes (a :: b :: cs)
  | c :: cs => encodeChar c ++ decodeBytes cs
termination_by cs => cs.length

/-- The text that a percent-encoded text stands for. -/
def decode (cs : List Char) : Except ByteFault (List Char) := decodeStrict (decodeBytes cs)

end TemplateExpr.Text.PercentCode
