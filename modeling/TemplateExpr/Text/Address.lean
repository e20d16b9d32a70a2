import TemplateExpr.Pattern.Machine
import TemplateExpr.Text.Utf8

/-!
# Addresses in texts

Mail addresses, web addresses, names of domains and tags, as far as their form shows.
-/

namespace TemplateExpr.Text

/-! ### Forms -/

/-- ASCII letters. -/
def letterSet : CharSet := .ofText "41~5A 61~7A"

/-- ASCII letters, ASCII digits, and the characters of `more`. -/
def letterDigitSet (more : List Char) : CharSet :=
  .unions [letterSet, .ofText "30~39", .ofList more]

/-- A point and at least two letters. -/
def topLevel : Pattern := .seq (.char '.') (.repetition (.set letterSet) 2 none true)

/-- A mail address. -/
def mailForm : Pattern :=
  .concat
    [.many1 (.set (letterDigitSet ['.', '_', '%', '+', '-'])), .char '@',
     .many1 (.set (letterDigitSet ['.', '-'])), topLevel]

/-- A web address: `http` or `https`, and all that follows up to a blank, a quote or an angle
bracket. -/
def webForm : Pattern :=
  .concat
    [.ofText "http", .optional (.char 's'), .ofText "://",
     .many1 (.set (CharSet.whiteSpace.union (.ofList ['"', '\'', '<', '>'])).complement)]

/-- A label of a domain: up to 63 letters, digits and hyphens, with no hyphen at its ends. -/
def labelForm : Pattern :=
  .seq (.set (letterDigitSet []))
    (.optional (.seq (.repetition (.set (letterDigitSet ['-'])) 0 (some 61) true)
      (.set (letterDigitSet []))))

/-- A whole text that is the name of a domain: at least two labels, the last one of letters. -/
def domainForm : Pattern :=
  .concat
    [.anchor .textStart, .many1 (.seq labelForm (.char '.')),
     .repetition (.set letterSet) 2 none true, .anchor .textEnd]

/-! ### Searching -/

/-- The first part of a text that has a form. -/
def firstOfForm? (p : Pattern) (cs : List Char) : Option (List Char) :=
  (p.find? cs).map fun (start, stop) => betweenBytes cs start stop

/-- The first mail address in a text. -/
def firstMail? (cs : List Char) : Option (List Char) := firstOfForm? mailForm cs

/-- The first web address in a text. -/
def firstWeb? (cs : List Char) : Option (List Char) := firstOfForm? webForm cs

/-- Whether a text is a mail address. -/
def isMail (cs : List Char) : Bool := mailForm.find? cs == some (0, byteLength cs)

/-- Whether a text is the name of a domain. -/
def isDomain (cs : List Char) : Bool := (domainForm.find? cs).isSome

/-! ### Tags -/

/-- What follows the first `mark` in a text. -/
def after? (mark : Char) : List Char → Option (List Char)
  | [] => none
  | c :: cs => if c = mark then some cs else after? mark cs

theorem length_of_after? {mark : Char} {cs rest : List Char} (h : after? mark cs = some rest) :
    rest.length < cs.length := by
  induction cs with
  | nil => simp [after?] at h
  | cons c cs ih =>
    unfold after? at h
    split at h
    · simp_all
    · simp only [List.length_cons]; have := ih h; omega

/-- The text behind `acc` (in reverse) without the parts from `<` to the next `>`. -/
def dropTags (acc : List Char) (cs : List Char) : List Char :=
  match cs with
  | [] => acc.reverse
  | c :: cs =>
    if c = '<' then
      match _h : after? '>' cs with
      | some rest => dropTags acc rest
      | none => acc.reverse ++ c :: cs
    else dropTags (c :: acc) cs
termination_by cs.length
decreasing_by
  · have := length_of_after? _h; simp only [List.length_cons]; omega
  · simp only [List.length_cons]; omega

/-- The text without the parts from `<` to the next `>`. -/
def removeTags (cs : List Char) : List Char := dropTags [] cs

end TemplateExpr.Text
