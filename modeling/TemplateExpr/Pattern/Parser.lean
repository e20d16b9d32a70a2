import TemplateExpr.Number.Text
import TemplateExpr.Pattern.Tree
import TemplateExpr.Text.Class

/-!
# The syntax of patterns

The usual syntax of regular expressions: sets in brackets with operators on them, groups with names
and flags, repetitions with counts, escapes for classes and anchors. Under the flag `spaced`, blanks
and comments may stand between the signs of a pattern, and even within most of them.

A pattern is read from left to right by `readParts?`, which keeps the open groups, and a set by
`readItems?`, which keeps the open brackets. Both are bounded by the length of the text, since every
step takes a character away.
-/

namespace TemplateExpr.PatternTree

open TemplateExpr.Text

/-! ### Blanks and comments -/

/-- The text behind blanks and comments; a comment goes from `#` to the end of its line. -/
def skipFrom (comment : Bool) : List Char → List Char
  | [] => []
  | c :: cs =>
    if comment then skipFrom (c != '\n') cs
    else if isBlank c then skipFrom false cs
    else if c = '#' then skipFrom true cs
    else c :: cs

/-- The text behind blanks and comments, if patterns are spaced. -/
def skip (spaced : Bool) (cs : List Char) : List Char := if spaced then skipFrom false cs else cs

/-- The first character that counts behind a hyphen. It is looked for without regard to where a
comment ends. -/
def peekFrom? (comment : Bool) : List Char → Option Char
  | [] => none
  | c :: cs =>
    if isBlank c then peekFrom? comment cs
    else if c = '#' ∧ !comment then peekFrom? true cs
    else some c

/-- The character that decides what a hyphen in front of `cs` means. -/
def peek? (spaced : Bool) (cs : List Char) : Option Char :=
  if spaced then peekFrom? false cs else cs.head?

/-- The characters that count up to a closing brace, and the text behind it. -/
def upToBrace? (spaced comment : Bool) : List Char → Option (List Char × List Char)
  | [] => none
  | c :: cs =>
    if comment then upToBrace? spaced (c != '\n') cs
    else if spaced && isBlank c then upToBrace? spaced false cs
    else if spaced && c == '#' then upToBrace? spaced true cs
    else if c = '\x7d' then some ([], cs)
    else (upToBrace? spaced false cs).map fun (name, rest) => (c :: name, rest)

/-! ### Escapes -/

/-- A sign that stands for one place or one character. -/
inductive Sign where
  | char (c : WrittenChar)
  | anchor (a : WrittenAnchor)
  | short (s : ShortClass) (negated : Bool)
  | named (s : NamedClass) (negated : Bool)

/-- A character that is written in any way but as a byte. -/
def Sign.plain (c : Char) : Sign := .char ⟨c, false⟩

/-- The character with a code, if there is one. -/
def charOfCode? (n : Nat) : Option Char :=
  if h : n.isValidChar then some (Char.ofNatAux n h) else none

/-- The next `count` hexadecimal digits. -/
def takeHex? (spaced : Bool) : Nat → List Char → Option (List Char × List Char)
  | 0, cs => some ([], cs)
  | _, [] => none
  | count + 1, c :: cs =>
    if Digit.isHex c then
      (takeHex? spaced count (skip spaced cs)).map fun (ds, rest) => (c :: ds, rest)
    else none

/-- The character whose code is written in `size` hexadecimal digits, or in any number of them in
braces. -/
def readCode? (spaced : Bool) (size : Nat) (cs : List Char) : Option (Sign × List Char) := do
  match skip spaced cs with
  | '\x7b' :: cs =>
    let (digits, rest) ← upToBrace? spaced false cs
    let c ← (Digit.read? 16 digits).bind charOfCode?
    pure (.plain c, skip spaced rest)
  | cs =>
    let (digits, rest) ← takeHex? spaced size cs
    let c ← (Digit.read? 16 digits).bind charOfCode?
    pure (.char ⟨c, size == 2⟩, rest)

/-- The named class whose name stands in braces. A name and a value have `!=`, `:` or `=` in
between, of which the first one that occurs at all counts. -/
def namedClass (name : List Char) (negated : Bool) : Sign :=
  match cutAt? ['!', '='] name, cutAt? [':'] name, cutAt? ['='] name with
  | some (property, value), _, _ => .named ⟨property, some value⟩ !negated
  | none, some (property, value), _ | none, none, some (property, value) =>
    .named ⟨property, some value⟩ negated
  | none, none, none => .named ⟨name, none⟩ negated

/-- The class behind `\p`: a name in braces or one letter. -/
def readNamed? (spaced negated : Bool) (cs : List Char) : Option (Sign × List Char) :=
  match skip spaced cs with
  | [] | '\\' :: _ => none
  | '\x7b' :: cs =>
    (upToBrace? spaced false cs).map fun (name, rest) => (namedClass name negated, rest)
  | c :: cs => some (.named ⟨[c], none⟩ negated, skip spaced cs)

/-- Whether a character may stand in the name of a word edge. -/
def isEdgeChar (c : Char) : Bool := c.isAlpha || c == '-'

/-- The word edge behind `\b`. Braces that start with anything but a name are no part of it. -/
def readEdge? (spaced : Bool) (cs : List Char) : Option (WordEdge × List Char) :=
  match cs with
  | '\x7b' :: inner =>
    match skip spaced inner with
    | [] => none
    | c :: _ =>
      if isEdgeChar c then do
        let (name, rest) ← upToBrace? spaced false inner
        let edge ← (edges.lookup (String.ofList name) : Option WordEdge)
        pure (edge, rest)
      else some (.boundary, cs)
  | cs => some (.boundary, cs)
where
  edges : List (String × WordEdge) :=
    [("start", .start), ("end", .stop), ("start-half", .freeLeft), ("end-half", .freeRight)]

/-- What follows a backslash. -/
def readEscape? (spaced : Bool) : List Char → Option (Sign × List Char)
  | [] => none
  | 'x' :: cs => readCode? spaced 2 cs
  | 'u' :: cs => readCode? spaced 4 cs
  | 'U' :: cs => readCode? spaced 8 cs
  | 'p' :: cs => readNamed? spaced false cs
  | 'P' :: cs => readNamed? spaced true cs
  | 'd' :: cs => some (.short .digit false, cs)
  | 'D' :: cs => some (.short .digit true, cs)
  | 's' :: cs => some (.short .blank false, cs)
  | 'S' :: cs => some (.short .blank true, cs)
  | 'w' :: cs => some (.short .word false, cs)
  | 'W' :: cs => some (.short .word true, cs)
  | 'a' :: cs => some (.plain '\x07', cs)
  | 'f' :: cs => some (.plain '\x0c', cs)
  | 't' :: cs => some (.plain '\t', cs)
  | 'n' :: cs => some (.plain '\n', cs)
  | 'r' :: cs => some (.plain '\r', cs)
  | 'v' :: cs => some (.plain '\x0b', cs)
  | 'A' :: cs => some (.anchor .textStart, cs)
  | 'z' :: cs => some (.anchor .textEnd, cs)
  | 'b' :: cs => (readEdge? spaced cs).map fun (edge, rest) => (.anchor (.word edge), rest)
  | 'B' :: cs => some (.anchor (.word .noBoundary), cs)
  | '<' :: cs => some (.anchor (.word .start), cs)
  | '>' :: cs => some (.anchor (.word .stop), cs)
  | c :: cs => if isAscii c && !isAsciiAlphanumeric c then some (.plain c, cs) else none

/-! ### Sets in brackets -/

/-- The classes of ASCII that have a name within brackets. -/
def asciiClasses : List (String × CharSet) :=
  [("alnum", .ofText "30~39 41~5A 61~7A"), ("alpha", .ofText "41~5A 61~7A"),
   ("ascii", .ascii), ("blank", .ofText "9 20"), ("cntrl", .ofText "0~1F 7F"),
   ("digit", .ofText "30~39"), ("graph", .ofText "21~7E"), ("lower", .ofText "61~7A"),
   ("print", .ofText "20~7E"), ("punct", .ofText "21~2F 3A~40 5B~60 7B~7E"),
   ("space", .ofText "9~D 20"), ("upper", .ofText "41~5A"),
   ("word", .ofText "30~39 41~5A 5F 61~7A"), ("xdigit", .ofText "30~39 41~46 61~66")]

/-- The class of ASCII whose name follows `[:`. -/
def readAsciiClass? (cs : List Char) : Option (SetTree × List Char) :=
  let (negated, cs) := match cs with
    | '^' :: cs => (true, cs)
    | cs => (false, cs)
  match cs.span (· != ':') with
  | (name, ':' :: ']' :: rest) =>
    (asciiClasses.lookup (String.ofList name)).map fun s => (.ascii s negated, rest)
  | _ => none

/-- A character or an escape within brackets. -/
def readSetSign? (spaced : Bool) : List Char → Option (Sign × List Char)
  | [] => none
  | '\\' :: cs => readEscape? spaced cs
  | c :: cs => some (.plain c, cs)

/-- The set of one sign. -/
def setOfSign? : Sign → Option SetTree
  | .char c => some (.char c)
  | .short s negated => some (.short s negated)
  | .named s negated => some (.named s negated)
  | .anchor _ => none

/-- A sign or a range of characters within brackets. A hyphen in front of a bracket or of another
hyphen makes no range. -/
def readRange? (spaced : Bool) (cs : List Char) : Option (SetTree × List Char) := do
  let (first, rest) ← readSetSign? spaced cs
  match skip spaced rest with
  | [] => none
  | '-' :: more =>
    if peek? spaced more = some ']' ∨ peek? spaced more = some '-' then
      (setOfSign? first).map (·, '-' :: more)
    else
      let (last, rest) ← readSetSign? spaced (skip spaced more)
      match first, last with
      | .char a, .char b => if a.char ≤ b.char then some (.range a b, rest) else none
      | _, _ => none
  | rest => (setOfSign? first).map (·, rest)

/-- What is open within brackets. -/
inductive SetFrame where
  /-- Brackets, and the items in front of them, the last one first. -/
  | brackets (outer : List SetTree) (negated : Bool)
  /-- An operator behind its left operand. -/
  | operator (op : SetOp) (left : SetTree)

/-- Applies the operator that is open. -/
def closeOperator (frames : List SetFrame) (right : SetTree) : SetTree × List SetFrame :=
  match frames with
  | .operator op left :: frames => (.combine op left right, frames)
  | frames => (right, frames)

/-- Hyphens behind an opening bracket, with all that is skipped; they stand for themselves. -/
def readHyphens (spaced : Bool) (fuel : Nat) (cs : List Char) : List SetTree × List Char :=
  match fuel, cs with
  | fuel + 1, '-' :: cs =>
    let (items, rest) := readHyphens spaced fuel (skip spaced cs)
    (.char ⟨'-', false⟩ :: items, rest)
  | _, cs => ([], cs)

/-- What follows an opening bracket: whether the set is negated, and the items that stand for
themselves only here, the last one first. -/
def readOpening (spaced : Bool) (cs : List Char) : Bool × List SetTree × List Char :=
  let (negated, cs) := match skip spaced cs with
    | '^' :: cs => (true, skip spaced cs)
    | cs => (false, cs)
  match readHyphens spaced cs.length cs with
  | ([], ']' :: cs) => (negated, [.char ⟨']', false⟩], skip spaced cs)
  | (items, cs) => (negated, items, cs)

/-- The operator at the start of a text. -/
def readOperator? : List Char → Option (SetOp × List Char)
  | '&' :: '&' :: cs => some (.inter, cs)
  | '-' :: '-' :: cs => some (.difference, cs)
  | '~' :: '~' :: cs => some (.symmetricDifference, cs)
  | _ => none

/-- Reads what stands behind the items `items` (the last one first) in the brackets `frames`. The
set ends with the bracket that closes the last frame. -/
def readItems? (spaced : Bool) (fuel : Nat) (frames : List SetFrame) (items : List SetTree)
    (cs : List Char) : Option (Bool × SetTree × List Char) :=
  match fuel with
  | 0 => none
  | fuel + 1 =>
    match skip spaced cs with
    | [] => none
    | '[' :: cs =>
      let named := match cs with
        | ':' :: cs => readAsciiClass? cs
        | _ => none
      match named with
      | some (item, rest) => readItems? spaced fuel frames (item :: items) rest
      | none =>
        let (negated, inner, rest) := readOpening spaced cs
        readItems? spaced fuel (.brackets items negated :: frames) inner rest
    | ']' :: cs =>
      match closeOperator frames (.ofItems items.reverse) with
      | (s, [.brackets _ negated]) => some (negated, s, cs)
      | (s, .brackets outer negated :: frames) =>
        readItems? spaced fuel frames (.brackets negated s :: outer) cs
      | _ => none
    | cs =>
      match readOperator? cs with
      | some (op, rest) =>
        let (left, frames) := closeOperator frames (.ofItems items.reverse)
        readItems? spaced fuel (.operator op left :: frames) [] rest
      | none =>
        match readRange? spaced cs with
        | some (item, rest) => readItems? spaced fuel frames (item :: items) rest
        | none => none

/-- The set behind an opening bracket. -/
def readSet? (spaced : Bool) (cs : List Char) : Option (PatternTree × List Char) :=
  let (negated, items, rest) := readOpening spaced cs
  (readItems? spaced (cs.length + 1) [.brackets [] negated] items rest).map
    fun (negated, s, rest) => (.brackets negated s, rest)

/-! ### Repetitions -/

/-- The digits at the start of a text. -/
def takeDigits (spaced comment : Bool) : List Char → List Char × List Char
  | [] => ([], [])
  | c :: cs =>
    if comment then takeDigits spaced (c != '\n') cs
    else if isAsciiDigit c then
      let (ds, rest) := takeDigits spaced false cs
      (c :: ds, rest)
    else if spaced && isBlank c then takeDigits spaced false cs
    else if spaced && c == '#' then takeDigits spaced true cs
    else ([], c :: cs)

/-- The largest count. -/
def maxCount : Nat := UInt32.size - 1

/-- A count with blanks around it. -/
def readCount? (spaced : Bool) (cs : List Char) : Option (Nat × List Char) :=
  match takeDigits spaced false (cs.dropWhile isBlank) with
  | ([], _) => none
  | (ds, rest) =>
    let n := Number.digitsValue ds
    if n ≤ maxCount then some (n, rest.dropWhile isBlank) else none

/-- The counts behind an opening brace. -/
def readCounts? (spaced : Bool) (cs : List Char) : Option (Nat × Option Nat × List Char) := do
  match ← readCount? spaced (skip spaced cs) with
  | (n, '\x7d' :: rest) => pure (n, some n, skip spaced rest)
  | (least, ',' :: rest) =>
    match skip spaced rest with
    | '\x7d' :: rest => pure (least, none, skip spaced rest)
    | rest =>
      match ← readCount? spaced rest with
      | (most, '\x7d' :: rest) =>
        if least ≤ most then pure (least, some most, skip spaced rest) else none
      | _ => none
  | _ => none

/-- The counts of the repetition that starts with the sign `c`. -/
def readRepetition? (spaced : Bool) (c : Char) (cs : List Char) :
    Option (Nat × Option Nat × List Char) :=
  match c with
  | '?' => some (0, some 1, cs)
  | '*' => some (0, none, cs)
  | '+' => some (1, none, cs)
  | _ => readCounts? spaced cs

/-! ### Groups -/

/-- The flag with a letter. -/
def flagOf? : Char → Option PatternFlag
  | 'i' => some .anyCase
  | 'm' => some .multiLine
  | 's' => some .dotMatchesAll
  | 'U' => some .swapGreed
  | 'u' => some .unicode
  | 'R' => some .returns
  | 'x' => some .spaced
  | _ => none

/-- The flags up to a colon or a closing parenthesis, and the text from there on. Behind a hyphen,
which must not be the last sign, flags are cleared. No flag may occur twice. -/
def readFlags? (value : Bool) (changes : List FlagChange) :
    List Char → Option (List FlagChange × List Char)
  | [] => none
  | c :: cs =>
    if c = ':' ∨ c = ')' then some (changes.reverse, c :: cs)
    else if c = '-' then
      if !value || cs.head? = some ':' || cs.head? = some ')' then none
      else readFlags? false changes cs
    else match flagOf? c with
      | none => none
      | some flag =>
        if changes.any (·.1 == flag) then none else readFlags? value ((flag, value) :: changes) cs

/-- Whether a text may name a group. -/
def isGroupName : List Char → Bool
  | [] => false
  | c :: cs =>
    (c == '_' || isAlphabetic c) &&
      cs.all fun c => c == '_' || c == '.' || c == '[' || c == ']' || isAlphanumeric c

/-- The value of the flag `spaced` behind changes. -/
def spacedAfter (spaced : Bool) (changes : List FlagChange) : Bool :=
  (changes.lookup .spaced).getD spaced

/-- An open group, or the whole pattern. -/
structure Level where
  kind : GroupKind
  /-- Whether patterns are spaced behind the group. -/
  spacedOutside : Bool
  /-- The alternatives that are finished, the last one first. -/
  branches : List PatternTree
  /-- The parts of the alternative being read, the last one first. -/
  parts : List PatternTree

namespace Level

/-- A level without parts. -/
def start (kind : GroupKind) (spacedOutside : Bool) : Level := ⟨kind, spacedOutside, [], []⟩

/-- Adds a part. -/
def add (l : Level) (p : PatternTree) : Level := { l with parts := p :: l.parts }

/-- Starts the next alternative. -/
def bar (l : Level) : Level :=
  { l with branches := .ofParts l.parts.reverse :: l.branches, parts := [] }

/-- The pattern of a level that ends here. -/
def finish (l : Level) : PatternTree :=
  match l.branches with
  | [] => .ofParts l.parts.reverse
  | _ => .either l.bar.branches.reverse

/-- Repeats the last part, which must match something. -/
def repeatLast? (l : Level) (least : Nat) (most : Option Nat) (greedy : Bool) : Option Level :=
  match l.parts with
  | [] | .empty :: _ | .flags _ :: _ => none
  | p :: ps => some { l with parts := .repetition p least most greedy :: ps }

end Level

/-- What has been read of a pattern. -/
structure Progress where
  spaced : Bool
  /-- The number of the next group. -/
  nextIndex : Nat
  names : List (List Char)
  level : Level
  /-- The levels around `level`, the innermost one first. -/
  outer : List Level

namespace Progress

/-- Nothing has been read. -/
def start : Progress := ⟨false, 1, [], .start (.numbered 0) false, []⟩

/-- Adds a part. -/
def add (p : Progress) (t : PatternTree) : Progress := { p with level := p.level.add t }

/-- Opens a group. -/
def openGroup (p : Progress) (kind : GroupKind) (spaced : Bool) : Progress :=
  { p with level := .start kind p.spaced, outer := p.level :: p.outer, spaced }

/-- Opens a group with the next number. -/
def openNumbered (p : Progress) : Progress :=
  { p.openGroup (.numbered p.nextIndex) p.spaced with nextIndex := p.nextIndex + 1 }

/-- Opens a group that has a name, which must be a new one. -/
def openNamed? (p : Progress) (cs : List Char) : Option (Progress × List Char) :=
  match cs.span (· != '>') with
  | (name, _ :: rest) =>
    if isGroupName name && !p.names.contains name then
      some ({ p.openNumbered with names := name :: p.names }, rest)
    else none
  | (_, []) => none

/-- Reads what follows an opening parenthesis. -/
def readOpening? (p : Progress) (cs : List Char) : Option (Progress × List Char) :=
  match skip p.spaced cs with
  | '?' :: '=' :: _ | '?' :: '!' :: _ | '?' :: '<' :: '=' :: _ | '?' :: '<' :: '!' :: _ => none
  | '?' :: 'P' :: '<' :: cs | '?' :: '<' :: cs => p.openNamed? cs
  | '?' :: cs =>
    match readFlags? true [] cs with
    | some (changes, ':' :: rest) =>
      some (p.openGroup (.flagged changes) (spacedAfter p.spaced changes), rest)
    | some (changes, ')' :: rest) =>
      if changes.isEmpty then none
      else some ({ p.add (.flags changes) with spaced := spacedAfter p.spaced changes }, rest)
    | _ => none
  | cs => some (p.openNumbered, cs)

/-- Closes a group. -/
def close? (p : Progress) : Option Progress :=
  match p.outer with
  | [] => none
  | level :: outer =>
    some { p with
      spaced := p.level.spacedOutside
      level := level.add (.group p.level.kind p.level.finish)
      outer }

/-- Repeats the last part as the sign `c` says; a question mark behind it makes it lazy. -/
def readRepetition? (p : Progress) (c : Char) (cs : List Char) :
    Option (Progress × List Char) := do
  let (least, most, rest) ← PatternTree.readRepetition? p.spaced c cs
  let (greedy, rest) := match rest with
    | '?' :: rest => (false, rest)
    | rest => (true, rest)
  let level ← p.level.repeatLast? least most greedy
  pure ({ p with level }, rest)

/-- The part that is one sign. -/
def ofSign : Sign → PatternTree
  | .char c => .char c
  | .anchor a => .anchor a
  | .short s negated => .short s negated
  | .named s negated => .named s negated

/-- Reads what starts with the sign `c`. -/
def read? (p : Progress) (c : Char) (cs : List Char) : Option (Progress × List Char) :=
  match c with
  | '(' => p.readOpening? cs
  | ')' => p.close?.map (·, cs)
  | '|' => some ({ p with level := p.level.bar }, cs)
  | '[' => (readSet? p.spaced cs).map fun (t, rest) => (p.add t, rest)
  | '?' | '*' | '+' | '\x7b' => p.readRepetition? c cs
  | '\\' => (readEscape? p.spaced cs).map fun (sign, rest) => (p.add (ofSign sign), rest)
  | '.' => some (p.add .dot, cs)
  | '^' => some (p.add (.anchor .lineStart), cs)
  | '$' => some (p.add (.anchor .lineEnd), cs)
  | c => some (p.add (.char ⟨c, false⟩), cs)

end Progress

/-- Reads the rest of a pattern. -/
def readParts? (fuel : Nat) (p : Progress) (cs : List Char) : Option PatternTree :=
  match fuel, skip p.spaced cs with
  | _, [] => if p.outer.isEmpty then some p.level.finish else none
  | 0, _ => none
  | fuel + 1, c :: cs =>
    match p.read? c cs with
    | some (p, rest) => readParts? fuel p rest
    | none => none

/-- Takes the text of a pattern apart. -/
def ofText? (text : String) : Option PatternTree :=
  let cs := text.toList
  (readParts? cs.length Progress.start cs).filter (·.depth ≤ maxDepth)

end TemplateExpr.PatternTree
