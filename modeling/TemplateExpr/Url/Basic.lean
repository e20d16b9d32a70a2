import TemplateExpr.Text.Case
import TemplateExpr.Url.Host

/-!
# Web addresses

An address starts with a scheme and a colon. `Url.ofText?` reads the scheme and the host of an
address; it has no result if the address is malformed or if it has no host.
-/

namespace TemplateExpr

open TemplateExpr.Text

/-- The scheme and the host of an address. -/
structure Url where
  scheme : String
  host : Url.Host
deriving Repr, DecidableEq

namespace Url

/-! ### Schemes -/

/-- The schemes of the web, in whose addresses a backslash counts as a slash. -/
def webSchemes : List String := ["http", "https", "ws", "wss", "ftp"]

/-- The scheme of addresses of files. -/
def fileScheme : String := "file"

/-- Whether a scheme may go on with a character. -/
def isSchemeChar (c : Char) : Bool := isAsciiAlphanumeric c || c == '+' || c == '-' || c == '.'

/-- The scheme in lower case and what follows the colon. -/
def cutScheme? (cs : List Char) : Option (String × List Char) :=
  if cs.head?.any isAsciiLetter then
    match cs.span isSchemeChar with
    | (scheme, ':' :: rest) => some (String.ofList (lowerAscii scheme), rest)
    | _ => none
  else none

/-! ### Authority -/

/-- What comes behind the last `@` of a list. -/
def behindLastAt (cs : List Char) : List Char := (cs.reverse.takeWhile (· != '@')).reverse

/-- The text up to the first colon outside of brackets, and what follows it. -/
def cutPort (inside : Bool) (host : List Char) : List Char → List Char × List Char
  | [] => (host.reverse, [])
  | c :: cs =>
    if c = ':' ∧ !inside then (host.reverse, c :: cs)
    else cutPort (if c = '[' then true else if c = ']' then false else inside) (c :: host) cs

/-- The largest port. -/
def maxPort : Nat := 65535

/-- Whether a text is nothing, or a colon and perhaps a port. A backslash ends the port. -/
def isPort : List Char → Bool
  | [] => true
  | ':' :: cs =>
    let ds := cs.takeWhile (· != '\\')
    ds.isEmpty || (Digit.read? 10 ds).any (· ≤ maxPort)
  | _ => false

/-- The host of the authority of an address: what stands between the name of a user and a port. -/
def authorityHost? (readHost : List Char → Option Host) (cs : List Char) : Option Host :=
  let (host, port) := cutPort false [] (behindLastAt cs)
  if host.isEmpty || !isPort port then none else readHost host

/-! ### Files -/

/-- Whether a text is the letter of a drive. -/
def isDrive : List Char → Bool
  | [c, d] => isAsciiLetter c && (d == ':' || d == '|')
  | _ => false

/-- The segments of what follows the root of a path, up to a query or a fragment. -/
def pathSegments (path : List Char) : List (List Char) :=
  let plain := (path.takeWhile fun c => c != '?' && c != '#').map
    fun c => if c == '\\' then '/' else c
  (splitOn ['/'] plain).tail

/-- A segment in which every dot is written as one. -/
def plainDots : List Char → List Char
  | '%' :: '2' :: 'e' :: cs | '%' :: '2' :: 'E' :: cs => '.' :: plainDots cs
  | c :: cs => c :: plainDots cs
  | [] => []

/-- Whether the walk along segments comes to a drive at the root. `above` are the segments from the
place reached up to the root; one dot stays at the place, and two go up from it, but never out of a
drive. -/
def reachesDrive (above : List (List Char)) : List (List Char) → Bool
  | [] => false
  | segment :: rest =>
    match plainDots segment with
    | ['.'] => reachesDrive above rest
    | ['.', '.'] => reachesDrive (if above.head?.any isDrive then above else above.tail) rest
    | _ => (above.isEmpty && isDrive segment) || reachesDrive (segment :: above) rest

/-- The host of the address of a file. The local one is left out, and so is one whose path has a
drive at the root. -/
def fileHost? (ends : Char → Bool) (cs : List Char) : Option Host :=
  let (name, path) := cs.span (!ends ·)
  if name.isEmpty || isDrive name || reachesDrive [] (pathSegments path) then none
  else (Host.ofText? name).filter (· != .domain "localhost".toList)

/-! ### Addresses -/

/-- Whether a character is dropped wherever it stands. -/
def isDropped (c : Char) : Bool := c == '\t' || c == '\n' || c == '\r'

/-- Whether a character is dropped at the ends. -/
def isTrimmed (c : Char) : Bool := c.toNat ≤ 0x20

/-- The characters of an address that count. -/
def relevant (cs : List Char) : List Char :=
  (((cs.dropWhile isTrimmed).reverse.dropWhile isTrimmed).reverse).filter (!isDropped ·)

/-- Whether a character ends the authority of an address. -/
def endsAuthority (web : Bool) (c : Char) : Bool :=
  c == '/' || c == '?' || c == '#' || (web && c == '\\')

/-- The host of what follows the scheme of an address. -/
def hostOf? (scheme : String) (rest : List Char) : Option Host :=
  let isSlash (c : Char) : Bool := c == '/' || c == '\\'
  if webSchemes.contains scheme then
    authorityHost? Host.ofText? ((rest.dropWhile isSlash).takeWhile (!endsAuthority true ·))
  else if scheme == fileScheme then
    match rest with
    | a :: b :: rest => if isSlash a && isSlash b then fileHost? (endsAuthority true) rest else none
    | _ => none
  else match rest with
    | '/' :: '/' :: rest => authorityHost? Host.ofOpaque? (rest.takeWhile (!endsAuthority false ·))
    | _ => none

/-- The scheme and the host of an address. -/
def ofText? (cs : List Char) : Option Url := do
  let (scheme, rest) ← cutScheme? (relevant cs)
  let host ← hostOf? scheme rest
  pure ⟨scheme, host⟩

end Url

/-- Whether a text is an address of the web. -/
def Url.isWeb (cs : List Char) : Bool :=
  (Url.ofText? cs).any fun url => url.scheme == "http" || url.scheme == "https"

/-- The host that a text names, which is a mail address, an address with a scheme or one without. -/
def Url.domainOf? (mail : List Char → Option (List Char)) (cs : List Char) : Option (List Char) :=
  let cs := trim cs
  match (mail cs).bind (cutAt? ['@']) with
  | some (_, domain) => some domain
  | none =>
    let full := if contains "://".toList cs then cs else "http://".toList ++ cs
    (Url.ofText? full).map (·.host.text)

end TemplateExpr
