import TemplateExpr.CharSet.Age
import TemplateExpr.CharSet.Break
import TemplateExpr.CharSet.Property
import TemplateExpr.CharSet.Script

/-!
# Sets by name

A set is asked for by the name of a property, of a category or of a script (`CharSet.named?`), or by
the name of a property and one of its values (`CharSet.valued?`). Case, spaces, hyphens and low
lines do not count in names, and neither does `is` in front of them.
-/

namespace TemplateExpr.CharSet

open TemplateExpr.Text

/-- The characters of a name that count, in lower case. -/
def significant (cs : List Char) : List Char :=
  (cs.filter fun c => isAscii c && c != ' ' && c != '_' && c != '-').map Char.toLower
where
  isAscii (c : Char) : Bool := c.toNat < 0x80

/-- The form of a name in which names are compared. The name `isc` is not taken for `c`. -/
def canonicalName (cs : List Char) : String :=
  match cs with
  | a :: b :: rest =>
    if a.toLower = 'i' ∧ b.toLower = 's' then
      let name := significant rest
      String.ofList (if name = ['c'] then ['i', 's', 'c'] else name)
    else String.ofList (significant cs)
  | cs => String.ofList (significant cs)

/-- The set of a property, of a category or of a script. -/
def named? (name : List Char) : Option CharSet :=
  let name := canonicalName name
  NamedSet.find? properties name <|> NamedSet.find? categories name <|>
    NamedSet.find? scripts name

/-- The set of the characters for which a property has a value. -/
def valued? (property value : List Char) : Option CharSet :=
  let value := canonicalName value
  match canonicalName property with
  | "gc" | "generalcategory" => NamedSet.find? categories value
  | "sc" | "script" => NamedSet.find? scripts value
  | "scx" | "scriptextensions" => scriptUse? value
  | "age" => assignedBy? value
  | "gcb" | "graphemeclusterbreak" => NamedSet.find? clusterBreaks value
  | "wb" | "wordbreak" => NamedSet.find? wordBreaks value
  | "sb" | "sentencebreak" => NamedSet.find? sentenceBreaks value
  | _ => Option.none

end TemplateExpr.CharSet
