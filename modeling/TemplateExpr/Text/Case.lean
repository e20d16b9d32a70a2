import TemplateExpr.Text.Class
import TemplateExpr.Text.CodeTable
import TemplateExpr.Text.Search

/-!
# Upper and lower case

The case of one character (`upperChar`, `lowerChar`, both of which may give several characters)
and of a text (`upper`, `lower`). In a text a capital sigma that ends a word becomes the final
small sigma; every other character is mapped on its own. A change of case is one of the places
where a word starts (`wordsOf`).
-/

/-!
## Case mappings beyond ASCII

`upper` and `lower` shift one code point to another; `upperExpansion` and `lowerExpansion` list
the characters whose mapping is a text of two or three characters. All four start at U+0080.
-/

namespace TemplateExpr.Text.CaseMapping

/-- Shifts to the upper-case character. -/
def upper : CodeTable := CodeTable.ofText
  "B5+2E7 E0~F6-20 F8~FE-20 FF+79 101~12F/2-1 131-E8 133~137/2-1 13A~148/2-1 14B~177/2-1
   17A~17E/2-1 17F-12C 180+C3 183~185/2-1 188-1 18C-1 192-1 195+61 199-1 19A+A3 19B+A641 19E+82
   1A1~1A5/2-1 1A8-1 1AD-1 1B0-1 1B4~1B6/2-1 1B9-1 1BD-1 1BF+38 1C5-1 1C6-2 1C8-1 1C9-2 1CB-1
   1CC-2 1CE~1DC/2-1 1DD-4F 1DF~1EF/2-1 1F2-1 1F3-2 1F5-1 1F9~21F/2-1 223~233/2-1 23C-1
   23F~240+2A3F 242-1 247~24F/2-1 250+2A1F 251+2A1C 252+2A1E 253-D2 254-CE 256~257-CD 259-CA
   25B-CB 25C+A54F 260-CD 261+A54B 263-CF 264+A567 265+A528 266+A544 268-D1 269-D3 26A+A544
   26B+29F7 26C+A541 26F-D3 271+29FD 272-D5 275-D6 27D+29E7 280-DA 282+A543 283-DA 287+A52A
   288-DA 289-45 28A~28B-D9 28C-47 292-DB 29D+A515 29E+A512 345+54 371~373/2-1 377-1 37B~37D+82
   3AC-26 3AD~3AF-25 3B1~3C1-20 3C2-1F 3C3~3CB-20 3CC-40 3CD~3CE-3F 3D0-3E 3D1-39 3D5-2F 3D6-36
   3D7-8 3D9~3EF/2-1 3F0-56 3F1-50 3F2+7 3F3-74 3F5-60 3F8-1 3FB-1 430~44F-20 450~45F-50
   461~481/2-1 48B~4BF/2-1 4C2~4CE/2-1 4CF-F 4D1~52F/2-1 561~586-30 10D0~10FA+BC0 10FD~10FF+BC0
   13F8~13FD-8 1C80-186E 1C81-186D 1C82-1864 1C83~1C84-1862 1C85-1863 1C86-185C 1C87-1825
   1C88+89C2 1C8A-1 1D79+8A04 1D7D+EE6 1D8E+8A38 1E01~1E95/2-1 1E9B-3B 1EA1~1EFF/2-1
   1F00~1F07+8 1F10~1F15+8 1F20~1F27+8 1F30~1F37+8 1F40~1F45+8 1F51~1F57/2+8 1F60~1F67+8
   1F70~1F71+4A 1F72~1F75+56 1F76~1F77+64 1F78~1F79+80 1F7A~1F7B+70 1F7C~1F7D+7E 1FB0~1FB1+8
   1FBE-1C25 1FD0~1FD1+8 1FE0~1FE1+8 1FE5+7 214E-1C 2170~217F-10 2184-1 24D0~24E9-1A
   2C30~2C5F-30 2C61-1 2C65-2A2B 2C66-2A28 2C68~2C6C/2-1 2C73-1 2C76-1 2C81~2CE3/2-1
   2CEC~2CEE/2-1 2CF3-1 2D00~2D25-1C60 2D27-1C60 2D2D-1C60 A641~A66D/2-1 A681~A69B/2-1
   A723~A72F/2-1 A733~A76F/2-1 A77A~A77C/2-1 A77F~A787/2-1 A78C-1 A791~A793/2-1 A794+30
   A797~A7A9/2-1 A7B5~A7C3/2-1 A7C8~A7CA/2-1 A7CD~A7DB/2-1 A7F6-1 AB53-3A0 AB70~ABBF-97D0
   FF41~FF5A-20 10428~1044F-28 104D8~104FB-28 10597~105A1-27 105A3~105B1-27 105B3~105B9-27
   105BB~105BC-27 10CC0~10CF2-40 10D70~10D85-20 118C0~118DF-20 16E60~16E7F-20 16EBB~16ED3-1B
   1E922~1E943-22"

/-- Shifts to the lower-case character. -/
def lower : CodeTable := CodeTable.ofText
  "C0~D6+20 D8~DE+20 100~12E/2+1 132~136/2+1 139~147/2+1 14A~176/2+1 178-79 179~17D/2+1 181+D2
   182~184/2+1 186+CE 187+1 189~18A+CD 18B+1 18E+4F 18F+CA 190+CB 191+1 193+CD 194+CF 196+D3
   197+D1 198+1 19C+D3 19D+D5 19F+D6 1A0~1A4/2+1 1A6+DA 1A7+1 1A9+DA 1AC+1 1AE+DA 1AF+1
   1B1~1B2+D9 1B3~1B5/2+1 1B7+DB 1B8+1 1BC+1 1C4+2 1C5+1 1C7+2 1C8+1 1CA+2 1CB~1DB/2+1
   1DE~1EE/2+1 1F1+2 1F2~1F4/2+1 1F6-61 1F7-38 1F8~21E/2+1 220-82 222~232/2+1 23A+2A2B 23B+1
   23D-A3 23E+2A28 241+1 243-C3 244+45 245+47 246~24E/2+1 370~372/2+1 376+1 37F+74 386+26
   388~38A+25 38C+40 38E~38F+3F 391~3A1+20 3A3~3AB+20 3CF+8 3D8~3EE/2+1 3F4-3C 3F7+1 3F9-7
   3FA+1 3FD~3FF-82 400~40F+50 410~42F+20 460~480/2+1 48A~4BE/2+1 4C0+F 4C1~4CD/2+1 4D0~52E/2+1
   531~556+30 10A0~10C5+1C60 10C7+1C60 10CD+1C60 13A0~13EF+97D0 13F0~13F5+8 1C89+1
   1C90~1CBA-BC0 1CBD~1CBF-BC0 1E00~1E94/2+1 1E9E-1DBF 1EA0~1EFE/2+1 1F08~1F0F-8 1F18~1F1D-8
   1F28~1F2F-8 1F38~1F3F-8 1F48~1F4D-8 1F59~1F5F/2-8 1F68~1F6F-8 1F88~1F8F-8 1F98~1F9F-8
   1FA8~1FAF-8 1FB8~1FB9-8 1FBA~1FBB-4A 1FBC-9 1FC8~1FCB-56 1FCC-9 1FD8~1FD9-8 1FDA~1FDB-64
   1FE8~1FE9-8 1FEA~1FEB-70 1FEC-7 1FF8~1FF9-80 1FFA~1FFB-7E 1FFC-9 2126-1D5D 212A-20BF
   212B-2046 2132+1C 2160~216F+10 2183+1 24B6~24CF+1A 2C00~2C2F+30 2C60+1 2C62-29F7 2C63-EE6
   2C64-29E7 2C67~2C6B/2+1 2C6D-2A1C 2C6E-29FD 2C6F-2A1F 2C70-2A1E 2C72+1 2C75+1 2C7E~2C7F-2A3F
   2C80~2CE2/2+1 2CEB~2CED/2+1 2CF2+1 A640~A66C/2+1 A680~A69A/2+1 A722~A72E/2+1 A732~A76E/2+1
   A779~A77B/2+1 A77D-8A04 A77E~A786/2+1 A78B+1 A78D-A528 A790~A792/2+1 A796~A7A8/2+1 A7AA-A544
   A7AB-A54F A7AC-A54B A7AD-A541 A7AE-A544 A7B0-A512 A7B1-A52A A7B2-A515 A7B3+3A0 A7B4~A7C2/2+1
   A7C4-30 A7C5-A543 A7C6-8A38 A7C7~A7C9/2+1 A7CB-A567 A7CC~A7DA/2+1 A7DC-A641 A7F5+1
   FF21~FF3A+20 10400~10427+28 104B0~104D3+28 10570~1057A+27 1057C~1058A+27 1058C~10592+27
   10594~10595+27 10C80~10CB2+40 10D50~10D65+20 118A0~118BF+20 16E40~16E5F+20 16EA0~16EB8+1B
   1E900~1E921+22"

/-- Characters whose upper-case form has several characters. -/
def upperExpansion : ExpansionTable := ExpansionTable.ofText
  "DF=53.53 149=2BC.4E 1F0=4A.30C 390=399.308.301 3B0=3A5.308.301 587=535.552 1E96=48.331
   1E97=54.308 1E98=57.30A 1E99=59.30A 1E9A=41.2BE 1F50=3A5.313 1F52=3A5.313.300
   1F54=3A5.313.301 1F56=3A5.313.342 1F80=1F08.399 1F81=1F09.399 1F82=1F0A.399 1F83=1F0B.399
   1F84=1F0C.399 1F85=1F0D.399 1F86=1F0E.399 1F87=1F0F.399 1F88=1F08.399 1F89=1F09.399
   1F8A=1F0A.399 1F8B=1F0B.399 1F8C=1F0C.399 1F8D=1F0D.399 1F8E=1F0E.399 1F8F=1F0F.399
   1F90=1F28.399 1F91=1F29.399 1F92=1F2A.399 1F93=1F2B.399 1F94=1F2C.399 1F95=1F2D.399
   1F96=1F2E.399 1F97=1F2F.399 1F98=1F28.399 1F99=1F29.399 1F9A=1F2A.399 1F9B=1F2B.399
   1F9C=1F2C.399 1F9D=1F2D.399 1F9E=1F2E.399 1F9F=1F2F.399 1FA0=1F68.399 1FA1=1F69.399
   1FA2=1F6A.399 1FA3=1F6B.399 1FA4=1F6C.399 1FA5=1F6D.399 1FA6=1F6E.399 1FA7=1F6F.399
   1FA8=1F68.399 1FA9=1F69.399 1FAA=1F6A.399 1FAB=1F6B.399 1FAC=1F6C.399 1FAD=1F6D.399
   1FAE=1F6E.399 1FAF=1F6F.399 1FB2=1FBA.399 1FB3=391.399 1FB4=386.399 1FB6=391.342
   1FB7=391.342.399 1FBC=391.399 1FC2=1FCA.399 1FC3=397.399 1FC4=389.399 1FC6=397.342
   1FC7=397.342.399 1FCC=397.399 1FD2=399.308.300 1FD3=399.308.301 1FD6=399.342
   1FD7=399.308.342 1FE2=3A5.308.300 1FE3=3A5.308.301 1FE4=3A1.313 1FE6=3A5.342
   1FE7=3A5.308.342 1FF2=1FFA.399 1FF3=3A9.399 1FF4=38F.399 1FF6=3A9.342 1FF7=3A9.342.399
   1FFC=3A9.399 FB00=46.46 FB01=46.49 FB02=46.4C FB03=46.46.49 FB04=46.46.4C FB05=53.54
   FB06=53.54 FB13=544.546 FB14=544.535 FB15=544.53B FB16=54E.546 FB17=544.53D"

/-- Characters whose lower-case form has several characters. -/
def lowerExpansion : ExpansionTable := ExpansionTable.ofText
  "130=69.307"

end TemplateExpr.Text.CaseMapping

/-! ## Characters and texts -/

namespace TemplateExpr.Text

/-- The upper-case form of `c`. -/
def upperChar (c : Char) : List Char :=
  if isAscii c then [c.toUpper]
  else match CaseMapping.upperExpansion.lookup c with
    | some cs => cs
    | none => [(CaseMapping.upper.map? c).getD c]

/-- The lower-case form of `c`. -/
def lowerChar (c : Char) : List Char :=
  if isAscii c then [c.toLower]
  else match CaseMapping.lowerExpansion.lookup c with
    | some cs => cs
    | none => [(CaseMapping.lower.map? c).getD c]

/-- The upper-case form of a text. -/
def upper (cs : List Char) : List Char := cs.flatMap upperChar

/-- Whether the first character of `cs` that is not passed over has a case. -/
def meetsCased (cs : List Char) : Bool :=
  match cs.dropWhile isCaseIgnorable with
  | [] => false
  | c :: _ => isCased c

/-- The small sigma for a capital sigma between `before` (read backwards) and `after`. -/
def smallSigma (before after : List Char) : Char :=
  if meetsCased before && !meetsCased after then 'ς' else 'σ'

/-- The lower-case form of `cs`, put in front of nothing and behind `before` (read backwards). -/
def lowerAfter (before acc : List Char) : List Char → List Char
  | [] => acc.reverse
  | c :: cs =>
    let image := if c = 'Σ' then [smallSigma before cs] else lowerChar c
    lowerAfter (c :: before) (image.reverse ++ acc) cs

/-- The lower-case form of a text. -/
def lower (cs : List Char) : List Char := lowerAfter [] [] cs

/-- Lower case for ASCII letters only. -/
def lowerAscii (cs : List Char) : List Char := cs.map Char.toLower

/-- The first character in upper case and the others in lower case, each on its own. -/
def capitalize : List Char → List Char
  | [] => []
  | c :: cs => upperChar c ++ cs.flatMap lowerChar

end TemplateExpr.Text

/-!
## Words

A text falls into words at everything that is neither a letter nor a digit, and in front of an
upper-case letter behind a lower-case letter or a digit. The words are the parts of names in the
usual styles.
-/

namespace TemplateExpr.Text

/-- The words of a text behind the finished words `done`, in reverse, and the beginning `word` of
one, in reverse. `ready` says whether an upper-case letter starts a new word. -/
def wordsFrom (ready : Bool) (word : List Char) (done : List (List Char)) :
    List Char → List (List Char)
  | [] => (if word.isEmpty then done else word.reverse :: done).reverse
  | c :: cs =>
    let closed := if word.isEmpty then done else word.reverse :: done
    let ready' := isLower c || isAsciiDigit c
    if !isAlphanumeric c then wordsFrom false [] closed cs
    else if isUpper c && ready then wordsFrom ready' (lowerChar c).reverse closed cs
    else wordsFrom ready' ((lowerChar c).reverse ++ word) done cs

/-- The words of a text in lower case. -/
def wordsOf (cs : List Char) : List (List Char) := wordsFrom false [] [] cs

/-- The words with an underscore in between. -/
def snakeCase (cs : List Char) : List Char := joinWith ['_'] (wordsOf cs)

/-- The words without anything in between, all but the first capitalized. -/
def camelCase (cs : List Char) : List Char :=
  match wordsOf cs with
  | [] => []
  | first :: rest => first ++ rest.flatMap capitalize

/-- The text with every piece between spaces capitalized. -/
def titleCase (cs : List Char) : List Char :=
  joinWith [' '] ((splitOn [' '] cs).map capitalize)

end TemplateExpr.Text

/-!
## Lines

A line ends with a line feed, in front of which a carriage return may stand; the last line of a text
need not be ended.
-/

namespace TemplateExpr.Text

/-- A line without the carriage return at its end. -/
def withoutReturn (cs : List Char) : List Char := (stripEnd? ['\r'] cs).getD cs

/-- The lines of a text without their ends. -/
def lines (cs : List Char) : List (List Char) :=
  let pieces := splitOn ['\n'] cs
  pieces.dropLast.map withoutReturn ++ pieces.getLast?.toList.filter (!·.isEmpty)

end TemplateExpr.Text
