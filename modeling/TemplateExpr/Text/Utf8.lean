import TemplateExpr.Text.Search

/-!
# Byte offsets and UTF-8

Offsets into a text count the bytes of its UTF-8 form. `byteLength` measures a list of characters,
`takeBytes` and `dropBytes` cut it at an offset, and `decode` reads a list of bytes back: strictly,
saying where and how it is malformed (`decodeStrict`), or with U+FFFD for each malformed sequence
(`decodeLossy`).
-/

namespace TemplateExpr.Text

/-! ### Offsets -/

/-- The number of bytes of `cs`. -/
def byteLength (cs : List Char) : Nat := cs.foldl (fun n c => n + c.utf8Size) 0

/-- The characters of `cs` that start before byte `n`. -/
def takeBytes (n : Nat) : List Char → List Char
  | [] => []
  | c :: cs => if n = 0 then [] else c :: takeBytes (n - c.utf8Size) cs

/-- The characters of `cs` from byte `n` on. -/
def dropBytes (n : Nat) : List Char → List Char
  | [] => []
  | c :: cs => if n = 0 then c :: cs else dropBytes (n - c.utf8Size) cs

/-- The characters of `cs` from byte `start` up to byte `stop`. -/
def betweenBytes (cs : List Char) (start stop : Nat) : List Char :=
  takeBytes (stop - start) (dropBytes start cs)

/-- Whether byte `n` of `cs` is the start of a character or the end of the text. -/
def isBoundary (n : Nat) : List Char → Bool
  | [] => n == 0
  | c :: cs => n == 0 || (c.utf8Size ≤ n && isBoundary (n - c.utf8Size) cs)

/-- The part of a string from byte `start` up to byte `stop`. -/
def slice (s : String) (start stop : Nat) : String :=
  String.ofList (betweenBytes s.toList start stop)

/-! ### Encoding -/

/-- The UTF-8 bytes of a character. -/
def encodeChar (c : Char) : List Nat :=
  let n := c.toNat
  if n < 0x80 then [n]
  else if n < 0x800 then [0xC0 + n / 0x40, 0x80 + n % 0x40]
  else if n < 0x10000 then [0xE0 + n / 0x1000, 0x80 + n / 0x40 % 0x40, 0x80 + n % 0x40]
  else [0xF0 + n / 0x40000, 0x80 + n / 0x1000 % 0x40, 0x80 + n / 0x40 % 0x40, 0x80 + n % 0x40]

/-- The UTF-8 bytes of a text. -/
def encode (cs : List Char) : List Nat := cs.flatMap encodeChar

/-! ### Decoding -/

/-- What stands at the start of a list of bytes. -/
inductive ByteSequence where
  /-- A character of `size` bytes. -/
  | char (c : Char) (size : Nat)
  /-- `size` bytes that no well-formed text contains. -/
  | malformed (size : Nat)
  /-- A beginning of a character, cut off by the end of the bytes. -/
  | truncated
deriving Repr, DecidableEq

/-- Whether `b` continues a character. -/
def isContinuation (b : Nat) : Bool := 0x80 ≤ b && b < 0xC0

/-- The bytes that may follow the first byte `b` of a character of three or four bytes. -/
def isSecond (first b : Nat) : Bool :=
  if first = 0xE0 then 0xA0 ≤ b && b < 0xC0
  else if first = 0xED then 0x80 ≤ b && b < 0xA0
  else if first = 0xF0 then 0x90 ≤ b && b < 0xC0
  else if first = 0xF4 then 0x80 ≤ b && b < 0x90
  else isContinuation b

/-- The character or the fault at the start of `b :: rest`. -/
def readSequence (b : Nat) (rest : List Nat) : ByteSequence :=
  if b < 0x80 then .char (Char.ofNat b) 1
  else if 0xC2 ≤ b ∧ b < 0xE0 then
    match rest with
    | [] => .truncated
    | x :: _ =>
      if isContinuation x then .char (Char.ofNat ((b - 0xC0) * 0x40 + (x - 0x80))) 2
      else .malformed 1
  else if 0xE0 ≤ b ∧ b < 0xF0 then
    match rest with
    | [] => .truncated
    | x :: more =>
      if !isSecond b x then .malformed 1
      else match more with
        | [] => .truncated
        | y :: _ =>
          if isContinuation y then
            .char (Char.ofNat ((b - 0xE0) * 0x1000 + (x - 0x80) * 0x40 + (y - 0x80))) 3
          else .malformed 2
  else if 0xF0 ≤ b ∧ b < 0xF5 then
    match rest with
    | [] => .truncated
    | x :: more =>
      if !isSecond b x then .malformed 1
      else match more with
        | [] => .truncated
        | y :: more =>
          if !isContinuation y then .malformed 2
          else match more with
            | [] => .truncated
            | z :: _ =>
              if isContinuation z then
                .char (Char.ofNat ((b - 0xF0) * 0x40000 + (x - 0x80) * 0x1000 +
                  (y - 0x80) * 0x40 + (z - 0x80))) 4
              else .malformed 3
  else .malformed 1

/-- Why a list of bytes is not the UTF-8 form of a text. -/
inductive ByteFault where
  /-- `size` malformed bytes at `offset`. -/
  | malformed (size offset : Nat)
  /-- The bytes end inside the character that starts at `offset`. -/
  | truncated (offset : Nat)
deriving Repr, DecidableEq

/-- The wording of a fault. -/
def ByteFault.message : ByteFault → String
  | .malformed size offset =>
    "invalid utf-8 sequence of " ++ Digit.decimal size ++ " bytes from index " ++
      Digit.decimal offset
  | .truncated offset => "incomplete utf-8 byte sequence from index " ++ Digit.decimal offset

/-- Reads `bytes`, which start at `offset`, behind the characters `acc` (in reverse). -/
def decodeStrictFrom (offset : Nat) (acc : List Char) (bytes : List Nat) :
    Except ByteFault (List Char) :=
  match bytes with
  | [] => .ok acc.reverse
  | b :: rest =>
    match readSequence b rest with
    | .char c size => decodeStrictFrom (offset + size) (c :: acc) (rest.drop (size - 1))
    | .malformed size => .error (.malformed size offset)
    | .truncated => .error (.truncated offset)
termination_by bytes.length
decreasing_by simp only [List.length_drop, List.length_cons]; omega

/-- The text whose UTF-8 form is `bytes`. -/
def decodeStrict (bytes : List Nat) : Except ByteFault (List Char) := decodeStrictFrom 0 [] bytes

/-- Reads `bytes` behind the characters `acc` (in reverse); a fault becomes U+FFFD. -/
def decodeLossyFrom (acc : List Char) (bytes : List Nat) : List Char :=
  match bytes with
  | [] => acc.reverse
  | b :: rest =>
    match readSequence b rest with
    | .char c size => decodeLossyFrom (c :: acc) (rest.drop (size - 1))
    | .malformed size => decodeLossyFrom ('\uFFFD' :: acc) (rest.drop (size - 1))
    | .truncated => ('\uFFFD' :: acc).reverse
termination_by bytes.length
decreasing_by all_goals simp only [List.length_drop, List.length_cons]; omega

/-- The text of `bytes` with U+FFFD for each malformed sequence. -/
def decodeLossy (bytes : List Nat) : List Char := decodeLossyFrom [] bytes

end TemplateExpr.Text
