import TemplateExpr.Text.Class
import TemplateExpr.Text.Encoding
import TemplateExpr.Text.Normal
import TemplateExpr.Text.Search
import TemplateExpr.Url.Label
import TemplateExpr.Url.NameMapping
import TemplateExpr.Url.Punycode

/-!
# Hosts

The host of a web address is a domain or an address of four or sixteen bytes. `Host.ofText?` reads
one and `Host.text` writes it in its usual form: domains in ASCII and lower case, addresses of four
bytes in decimal, those of sixteen bytes in brackets with the longest run of zeros left out.
-/

/-!
## Domains

The name of a domain consists of labels with points in between. `Domain.ofText?` reads a name: it
maps the characters of the text, puts them into their composed form, and checks each label.
`Domain.ascii` writes the labels that are not ASCII behind the mark `xn--`.
-/

namespace TemplateExpr.Url

open TemplateExpr.Text

/-- A label of a domain. -/
structure DomainLabel where
  /-- The characters that the label stands for. -/
  name : List Char
  /-- The ASCII form of the label. -/
  ascii : List Char
deriving Repr, DecidableEq

namespace DomainLabel

/-- The mark in front of labels that are not ASCII. -/
def mark : List Char := ['x', 'n', '-', '-']

/-- The most characters of a label that is not ASCII. -/
def maxLength : Nat := 1000

/-- The most characters of an ASCII form behind the mark. -/
def maxCodeLength : Nat := 2000

/-- Whether a character may not stand in a domain, although it may stand in other texts. -/
def isForbidden (c : Char) : Bool :=
  c.toNat ≤ 0x20 || c.toNat == 0x7F ||
    ['%', '#', '/', ':', '<', '>', '?', '@', '[', '\\', ']', '^', '|'].contains c

/-- Whether characters may make up a label: a mark must not stand in front, and joiners only where
they change how letters are written. -/
def isWellFormed (name : List Char) : Bool :=
  !name.head?.any Property.mark.contains && Joining.allows name &&
    (name.all isAscii || name.length ≤ maxLength)

/-- The label whose ASCII form has `code` behind the mark. It must stand for characters that are not
changed when they are read. -/
def ofCode? (code : List Char) : Option DomainLabel := do
  if code.getLast?.all (· == '-') || maxCodeLength < code.length then none
  let name ← Punycode.decode? code
  if name.any isForbidden || name.any fun c => NameMapping.read? c != some [c] then none
  if Normal.compose name != name || !isWellFormed name then none
  pure ⟨name, mark ++ code⟩

/-- The label of characters that have been mapped. -/
def ofName? (name : List Char) : Option DomainLabel :=
  match stripStart? mark name with
  | some code => if name.all isAscii then ofCode? code else none
  | none =>
    if name.all isAscii then some ⟨name, name⟩
    else if isWellFormed name then some ⟨name, mark ++ Punycode.encode name⟩
    else none

end DomainLabel

/-- The name of a domain. -/
structure Domain where
  labels : List DomainLabel
deriving Repr, DecidableEq

namespace Domain

/-- The domain that a text names. -/
def ofText? (cs : List Char) : Option Domain := do
  let mapped := Normal.compose (← cs.mapM NameMapping.read?).flatten
  if mapped.any DomainLabel.isForbidden then none
  let labels ← (splitOn ['.'] mapped).mapM DomainLabel.ofName?
  if Direction.allows (labels.map (·.name)) then some ⟨labels⟩ else none

/-- The ASCII form of a domain. -/
def ascii (d : Domain) : List Char := joinWith ['.'] (d.labels.map (·.ascii))

end Domain

end TemplateExpr.Url

/-! ## Hosts -/

namespace TemplateExpr.Url

open TemplateExpr.Text

/-- A host. -/
inductive Host where
  | domain (name : List Char)
  /-- An address of four bytes as one number. -/
  | short (address : Nat)
  /-- An address of eight words. -/
  | long (words : List Nat)
deriving Repr, DecidableEq

/-! ### Addresses of four bytes -/

/-- The number of a part: in base ten, sixteen behind `0x`, and eight behind another `0`. -/
def partNumber? (cs : List Char) : Option Nat :=
  match cs with
  | [] => none
  | '0' :: 'x' :: ds | '0' :: 'X' :: ds => if ds.isEmpty then some 0 else Digit.read? 16 ds
  | '0' :: d :: ds => Digit.read? 8 (d :: ds)
  | ds => Digit.read? 10 ds

/-- The parts of a name without an empty one at its end. -/
def nameParts (cs : List Char) : List (List Char) :=
  let parts := splitOn ['.'] cs
  if parts.getLast? = some [] then parts.dropLast else parts

/-- Whether the last part of a name is a number, so that the name must be an address. -/
def endsInNumber (cs : List Char) : Bool :=
  match (nameParts cs).getLast? with
  | some part => (!part.isEmpty && part.all isAsciiDigit) || (partNumber? part).isSome
  | none => false

/-- The address of numbers: one byte for each but the last, which fills the other bytes. -/
def shortAddress? (numbers : List Nat) : Option Nat :=
  match numbers.reverse with
  | [] => none
  | final :: bytes =>
    let room := Nat.pow 256 (4 - bytes.length)
    if 3 < bytes.length || bytes.any (255 < ·) || room ≤ final then none
    else some (bytes.reverse.foldl (fun n b => 256 * n + b) 0 * room + final)

/-- Four bytes with points in between. -/
def shortText (n : Nat) : List Char :=
  joinWith ['.'] ([n / 0x1000000, n / 0x10000 % 256, n / 0x100 % 256, n % 256].map (Digit.write 10))

/-! ### Addresses of sixteen bytes -/

/-- The number of one to four hexadecimal digits. -/
def wordNumber? (cs : List Char) : Option Nat :=
  if cs.length ≤ 4 then Digit.read? 16 cs else none

/-- The number of a byte in decimal, without zeros in front. -/
def byteNumber? (cs : List Char) : Option Nat :=
  if cs.head? = some '0' ∧ cs ≠ ['0'] then none else (Digit.read? 10 cs).filter (· ≤ 255)

/-- The two words of four bytes with points in between. -/
def dottedWords? (cs : List Char) : Option (List Nat) :=
  match (splitOn ['.'] cs).mapM byteNumber? with
  | some [a, b, c, d] => some [256 * a + b, 256 * c + d]
  | _ => none

/-- The words of a list of groups; the last one may be four bytes in decimal if `dotted`. -/
def groupWords? (dotted : Bool) : List (List Char) → Option (List Nat)
  | [] => some []
  | [g] => if dotted && g.contains '.' then dottedWords? g else (wordNumber? g).map ([·])
  | g :: gs => do
    let n ← wordNumber? g
    let ns ← groupWords? dotted gs
    pure (n :: ns)

/-- The groups between colons; an empty text has none. -/
def colonGroups (cs : List Char) : List (List Char) :=
  if cs.isEmpty then [] else splitOn [':'] cs

/-- The eight words of an address; two colons stand for one or more words of zero. -/
def longAddress? (cs : List Char) : Option (List Nat) :=
  match cutAt? [':', ':'] cs with
  | none => (groupWords? true (colonGroups cs)).filter (·.length == 8)
  | some (left, right) => do
    let front ← groupWords? false (colonGroups left)
    let back ← groupWords? true (colonGroups right)
    let count := front.length + back.length
    if count ≤ 7 then some (front ++ List.replicate (8 - count) 0 ++ back) else none

/-- The place and the length of the first of the longest runs of zeros, the words starting at place
`i`; `run` is the number of zeros in front of them. -/
def longestZeros (i run : Nat) (best : Nat × Nat) : List Nat → Nat × Nat
  | [] => best
  | w :: ws =>
    let run := if w = 0 then run + 1 else 0
    longestZeros (i + 1) run (if best.2 < run then (i + 1 - run, run) else best) ws

/-- The words in hexadecimal with colons in between, two colons standing for the longest run of at
least two zeros. -/
def longText (words : List Nat) : List Char :=
  let texts (ws : List Nat) : List Char := joinWith [':'] (ws.map (Digit.write 16))
  let (start, length) := longestZeros 0 0 (0, 0) words
  if length < 2 then texts words
  else texts (words.take start) ++ [':', ':'] ++ texts (words.drop (start + length))

/-! ### Hosts -/

namespace Host

/-- The address within brackets, if a text starts with one. -/
def ofBrackets? : List Char → Option (Option Host)
  | '[' :: cs =>
    some (match stripEnd? [']'] cs with
      | some inner => (longAddress? inner).map long
      | none => none)
  | _ => none

/-- The host that a text names. -/
def ofText? (cs : List Char) : Option Host :=
  match ofBrackets? cs with
  | some host => host
  | none =>
    match PercentCode.decode cs with
    | .error _ => none
    | .ok decoded =>
      match (Domain.ofText? decoded).map Domain.ascii with
      | none | some [] => none
      | some name =>
        if endsInNumber name then
          (((nameParts name).mapM partNumber?).bind shortAddress?).map short
        else some (domain name)

/-- Whether a character may not stand in the host of an address of another scheme. -/
def isForbiddenOpaque (c : Char) : Bool :=
  ['\x00', '\t', '\n', '\r', ' ', '#', '/', ':', '<', '>', '?', '@', '[', '\\', ']', '^',
   '|'].contains c

/-- The host of an address of a scheme that is not of the web: its characters are kept as they are.
-/
def ofOpaque? (cs : List Char) : Option Host :=
  match ofBrackets? cs with
  | some host => host
  | none =>
    if cs.isEmpty || cs.any isForbiddenOpaque then none
    else some (domain (PercentCode.encodeWith (fun c => 0x20 ≤ c.toNat && c.toNat < 0x7F) cs))

/-- The usual form of a host. -/
def text : Host → List Char
  | domain name => name
  | short address => shortText address
  | long words => '[' :: (longText words ++ [']'])

end Host

end TemplateExpr.Url
