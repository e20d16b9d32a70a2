import TemplateExpr.Text.Digit

/-!
# Punycode

Labels of domains in ASCII. The ASCII characters of a label come first; the others follow, in the
order of their codes, as the distances between the places where they are inserted. A distance is
written in base 36 with a threshold for each digit that depends on how far the distances go.
-/

namespace TemplateExpr.Url.Punycode

/-! ### Digits -/

/-- The digit of value `d < 36`: the letters first. -/
def digit (d : Nat) : Char := if d < 26 then Char.ofNat (97 + d) else Char.ofNat (22 + d)

/-- The value of a digit. -/
def value? (c : Char) : Option Nat :=
  if c.isLower then some (c.toNat - 97)
  else if c.isUpper then some (c.toNat - 65)
  else if c.isDigit then some (c.toNat - 22)
  else none

/-- The threshold of the digit at a place, which is a multiple of 36. -/
def threshold (bias place : Nat) : Nat := max 1 (min 26 (place - bias))

/-- The steps by which a distance is scaled down, and what is left of it. -/
def scaleDown (distance steps : Nat) : Nat × Nat :=
  if 455 < distance then scaleDown (distance / 35) (steps + 36) else (distance, steps)
termination_by distance
decreasing_by omega

/-- The bias behind a distance, when `count` characters have been inserted. -/
def adapt (distance count : Nat) (first : Bool) : Nat :=
  let d := if first then distance / 700 else distance / 2
  let (d, steps) := scaleDown (d + d / count) 0
  steps + 36 * d / (d + 38)

/-! ### Encoding -/

/-- The digits of a distance from a place on. -/
def writeDistance (bias place distance : Nat) : List Char :=
  let t := threshold bias place
  if _h : distance < t then [digit distance]
  else
    digit (t + (distance - t) % (36 - t)) ::
      writeDistance bias (place + 36) ((distance - t) / (36 - t))
termination_by distance
decreasing_by
  have h : 1 ≤ threshold bias place := by unfold threshold; omega
  exact Nat.lt_of_le_of_lt (Nat.div_le_self _ _) (by omega)

/-- What has been encoded: the text so far in reverse, the distance to the next insertion, the bias,
and the number of characters that are in place. -/
structure Encoder where
  written : List Char
  distance : Nat
  bias : Nat
  count : Nat

/-- Goes past a character of the label when those below `code` are in place; `first` is the number
of ASCII characters. -/
def Encoder.pass (first code : Nat) (e : Encoder) (c : Char) : Encoder :=
  if c.toNat < code then { e with distance := e.distance + 1 }
  else if c.toNat = code then
    { written := (writeDistance e.bias 36 e.distance).reverse ++ e.written
      distance := 0
      bias := adapt e.distance (e.count + 1) (e.count == first)
      count := e.count + 1 }
  else e

/-- Inserts the characters with the given codes, which are in order; those below `next` are done. -/
def Encoder.insertAll (label : List Char) (first next : Nat) (e : Encoder) : List Nat → Encoder
  | [] => e
  | code :: codes =>
    let e := { e with distance := e.distance + (code - next) * (e.count + 1) }
    let e := label.foldl (Encoder.pass first code) e
    insertAll label first (code + 1) { e with distance := e.distance + 1 } codes

/-- The ASCII form of a label, without the mark in front of it. -/
def encode (label : List Char) : List Char :=
  let ascii := label.filter (·.toNat < 128)
  let codes := ((label.map Char.toNat).filter (128 ≤ ·)).mergeSort.eraseDups
  let e := Encoder.insertAll label ascii.length 128 ⟨[], 0, 72, ascii.length⟩ codes
  (if ascii.isEmpty then [] else ascii ++ ['-']) ++ e.written.reverse

/-! ### Decoding -/

/-- The distance at the start of a text, added to `distance`, and what follows it. -/
def readDistance? (bias place weight distance : Nat) : List Char → Option (Nat × List Char)
  | [] => none
  | c :: cs => do
    let d ← value? c
    let t := threshold bias place
    if d < t then some (distance + d * weight, cs)
    else readDistance? bias (place + 36) (weight * (36 - t)) (distance + d * weight) cs

/-- Inserts characters into `label` as the text says. The last one was inserted in front of
`position` and has a code of at most `code`; `fuel` bounds the number of characters. -/
def decodeFrom? (fuel bias position code : Nat) (label cs : List Char) : Option (List Char) :=
  match fuel, cs with
  | _, [] => some label
  | 0, _ => none
  | fuel + 1, cs =>
    match readDistance? bias 36 1 position cs with
    | none => none
    | some (reached, rest) =>
      let count := label.length + 1
      let code := code + reached / count
      let place := reached % count
      if code.isValidChar then
        decodeFrom? fuel (adapt (reached - position) count (position == 0)) (place + 1) code
          (label.take place ++ Char.ofNat code :: label.drop place) rest
      else none

/-- The label of an ASCII form without the mark in front of it. A hyphen in front of the distances
must follow some character. -/
def decode? (cs : List Char) : Option (List Char) :=
  let tail := (cs.reverse.takeWhile (· != '-')).reverse
  let ascii := (cs.take (cs.length - tail.length)).dropLast
  if ascii.isEmpty && tail.length < cs.length then none
  else decodeFrom? tail.length 72 0 128 ascii tail

end TemplateExpr.Url.Punycode
