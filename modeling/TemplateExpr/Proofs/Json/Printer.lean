import TemplateExpr.Json.Printer
import TemplateExpr.Proofs.Number.Shortest

/-!
# JSON values from their texts

The text of a value ends where the value ends, and no two values have the same text
(`compact_inj`). Numbers are finite, as they are in every JSON text; the text of an integer never is
the text of a double.
-/

namespace TemplateExpr

open TemplateExpr.Text

/-! ### Numbers -/

namespace Number

/-- The characters of numbers. -/
def isNumberChar (c : Char) : Bool := isAsciiDigit c || c == '-' || c == '+' || c == '.' || c == 'e'

theorem isNumberChar_of_isAsciiDigit {c : Char} (h : isAsciiDigit c = true) :
    isNumberChar c = true := by
  simp [isNumberChar, h]

theorem isNumberChar_of_mem_write {n : Nat} {c : Char} (hc : c ∈ Digit.write 10 n) :
    isNumberChar c = true :=
  isNumberChar_of_isAsciiDigit (Digit.isAsciiDigit_of_mem_write hc)

theorem isNumberChar_of_mem_plain {d : Decimal} {c : Char} (hc : c ∈ d.plain) :
    isNumberChar c = true := by
  have hpoint : isNumberChar '.' = true := by decide
  have hzero : isNumberChar '0' = true := by decide
  rw [Decimal.plain] at hc
  dsimp only at hc
  split at hc
  · rcases List.mem_append.1 hc with hc | hc
    · exact isNumberChar_of_mem_write hc
    · rw [List.eq_of_mem_replicate hc, hzero]
  split at hc
  · rcases List.mem_append.1 hc with hc | hc
    · exact isNumberChar_of_mem_write (List.mem_of_mem_take hc)
    · rcases List.mem_cons.1 hc with rfl | hc
      · exact hpoint
      · exact isNumberChar_of_mem_write (List.mem_of_mem_drop hc)
  · rcases List.mem_cons.1 hc with rfl | hc
    · exact hzero
    rcases List.mem_cons.1 hc with rfl | hc
    · exact hpoint
    rcases List.mem_append.1 hc with hc | hc
    · rw [List.eq_of_mem_replicate hc, hzero]
    · exact isNumberChar_of_mem_write hc

theorem isNumberChar_of_mem_scientificOrPlain {d : Decimal} {c : Char}
    (hc : c ∈ d.scientificOrPlain) : isNumberChar c = true := by
  have hpoint : isNumberChar '.' = true := by decide
  rw [Decimal.scientificOrPlain] at hc
  dsimp only at hc
  split at hc
  · split at hc
    · rcases List.mem_append.1 hc with hc | hc
      · exact isNumberChar_of_mem_plain hc
      · rcases List.mem_cons.1 hc with rfl | hc
        · exact hpoint
        · rw [List.mem_singleton.1 hc]
          decide
    · exact isNumberChar_of_mem_plain hc
  · rcases List.mem_append.1 hc with hc | hc
    · split at hc
      · next first second more hds =>
        have hall : ∀ c ∈ first :: second :: more, isNumberChar c = true := fun c hc =>
          isNumberChar_of_mem_write (hds ▸ hc)
        rcases List.mem_cons.1 hc with rfl | hc
        · exact hall _ List.mem_cons_self
        rcases List.mem_cons.1 hc with rfl | hc
        · exact hpoint
        · exact hall _ (List.mem_cons_of_mem _ hc)
      · exact isNumberChar_of_mem_write hc
    · rcases List.mem_cons.1 hc with rfl | hc
      · decide
      rcases List.mem_cons.1 hc with rfl | hc
      · split <;> decide
      · exact isNumberChar_of_mem_write hc

/-- The text of a decimal has a point or an exponent. -/
theorem exists_mem_scientificOrPlain (d : Decimal) :
    ∃ c ∈ d.scientificOrPlain, c = '.' ∨ c = 'e' := by
  rw [Decimal.scientificOrPlain]
  dsimp only
  split
  · split
    · exact ⟨'.', by simp, .inl rfl⟩
    · next hexp =>
      refine ⟨'.', ?_, .inl rfl⟩
      rw [Decimal.plain, if_neg hexp]
      dsimp only
      split <;> simp
  · exact ⟨'e', by simp, .inr rfl⟩

/-- The text of a decimal does not start with a sign. -/
theorem scientificOrPlain_ne_minus_cons (d : Decimal) (cs : List Char) :
    d.scientificOrPlain ≠ '-' :: cs := by
  intro h
  obtain ⟨e, he, -⟩ := Decimal.scanDecimal?_scientificOrPlain d
  have hspan : spanDigits ('-' :: cs) = ([], '-' :: cs) :=
    spanDigits_append [] _ (fun c hc => nomatch hc)
      (fun c hc => by rw [← Option.some.inj hc]; decide)
  rw [h] at he
  simp [scanDecimal?, hspan] at he

/-- No two finite doubles have the same JSON text. -/
theorem jsonText_inj {x y : Float} (hx : isFinite x = true) (hy : isFinite y = true)
    (h : jsonText x = jsonText y) : x = y := by
  rw [jsonText, jsonText, hx, hy, Bool.not_true, if_neg Bool.false_ne_true,
    if_neg Bool.false_ne_true] at h
  dsimp only at h
  obtain ⟨hsign, hbody⟩ : isNegative x = isNegative y ∧
      (shortestOf .even x).scientificOrPlain = (shortestOf .even y).scientificOrPlain := by
    cases hsx : isNegative x <;> cases hsy : isNegative y <;>
      simp only [hsx, hsy, if_true, if_false, Bool.false_eq_true] at h
    · exact ⟨rfl, h⟩
    · exact absurd h (scientificOrPlain_ne_minus_cons _ _)
    · exact absurd h.symm (scientificOrPlain_ne_minus_cons _ _)
    · exact ⟨rfl, (List.cons.inj h).2⟩
  obtain ⟨d, hd, hdx⟩ := Decimal.scanDecimal?_scientificOrPlain (shortestOf .even x)
  obtain ⟨e, he, hey⟩ := Decimal.scanDecimal?_scientificOrPlain (shortestOf .even y)
  rw [hbody, he] at hd
  obtain rfl : e = d := (Prod.mk.inj (Option.some.inj hd)).1
  obtain ⟨hsignificand, hexponent⟩ := shortestOf_inj hx hy (hdx.symm.trans hey)
  exact eq_of_fields hsign hsignificand hexponent

/-- The text of a finite double: characters of numbers, one of them a point or an exponent. -/
theorem isNumberChar_of_mem_jsonText {x : Float} (hx : isFinite x = true) {c : Char}
    (hc : c ∈ jsonText x) : isNumberChar c = true := by
  rw [jsonText, hx, Bool.not_true, if_neg Bool.false_ne_true] at hc
  dsimp only at hc
  split at hc
  · rcases List.mem_cons.1 hc with rfl | hc
    · decide
    · exact isNumberChar_of_mem_scientificOrPlain hc
  · exact isNumberChar_of_mem_scientificOrPlain hc

theorem exists_mem_jsonText {x : Float} (hx : isFinite x = true) :
    ∃ c ∈ jsonText x, c = '.' ∨ c = 'e' := by
  obtain ⟨c, hc, hchar⟩ := exists_mem_scientificOrPlain (shortestOf .even x)
  rw [jsonText, hx, Bool.not_true, if_neg Bool.false_ne_true]
  dsimp only
  split
  · exact ⟨c, List.mem_cons_of_mem _ hc, hchar⟩
  · exact ⟨c, hc, hchar⟩

end Number

namespace Json

/-! ### Strings -/

/-- A character is written as it is, or behind a backslash. -/
theorem escapeChar_cases (c : Char) :
    escapeChar c = [c] ∧ c ≠ '"' ∧ c ≠ '\\' ∨
      (∃ code, escapeChar c = '\\' :: code) ∧ c.toNat < 128 := by
  rw [escapeChar]
  by_cases hquote : c = '"'
  · rw [if_pos hquote, hquote]
    exact .inr ⟨⟨_, rfl⟩, by decide⟩
  by_cases hslash : c = '\\'
  · rw [if_neg hquote, if_pos hslash, hslash]
    exact .inr ⟨⟨_, rfl⟩, by decide⟩
  rw [if_neg hquote, if_neg hslash]
  by_cases hcontrol : c.toNat < 0x20
  · refine .inr ⟨?_, by omega⟩
    repeat' split
    all_goals exact ⟨_, rfl⟩
  · have hne {d : Char} (hd : d.toNat < 0x20) : c ≠ d := fun h => hcontrol (h ▸ hd)
    rw [if_neg (hne (by decide)), if_neg (hne (by decide)), if_neg (hne (by decide)),
      if_neg (hne (by decide)), if_neg (hne (by decide)), if_neg hcontrol]
    exact .inl ⟨rfl, hquote, hslash⟩

/-- The length of the code of a character, told by its first two characters. -/
def codeLength (code : List Char) : Nat :=
  if code[0]? = some '\\' then if code[1]? = some 'u' then 6 else 2 else 1

/-- The number of the character that a code stands for. -/
def codeValue : List Char → Nat
  | ['\\', 'u', _, _, high, low] => (Digit.read? 16 [high, low]).getD 0
  | ['\\', 'b'] => 0x08
  | ['\\', 't'] => 0x09
  | ['\\', 'n'] => 0x0a
  | ['\\', 'f'] => 0x0c
  | ['\\', 'r'] => 0x0d
  | ['\\', c] => c.toNat
  | [c] => c.toNat
  | _ => 0

theorem codeLength_escapeChar : ∀ m < 128,
    codeLength (escapeChar (Char.ofNat m)) = (escapeChar (Char.ofNat m)).length ∧
      codeValue (escapeChar (Char.ofNat m)) = m := by
  decide +kernel

/-- What follows a code has no influence on its length. -/
theorem codeLength_append {code : List Char} (h : codeLength code = code.length)
    (rest : List Char) : codeLength (code ++ rest) = codeLength code := by
  match code, h with
  | [], h => exact absurd h (by decide)
  | [c], h =>
    have hc : c ≠ '\\' := by
      rintro rfl
      exact absurd h (by decide)
    simp [codeLength, hc]
  | _ :: _ :: _, _ => rfl

/-- No code of a character is the beginning of the code of another one. -/
theorem eq_of_isPrefix_escapeChar {m n : Nat} (hm : m < 128) (hn : n < 128)
    (h : escapeChar (Char.ofNat m) <+: escapeChar (Char.ofNat n)) : m = n := by
  obtain ⟨hlength, hvalue⟩ := codeLength_escapeChar m hm
  obtain ⟨hlength', hvalue'⟩ := codeLength_escapeChar n hn
  obtain ⟨rest, hrest⟩ := h
  have hsame := codeLength_append hlength rest
  rw [hrest, hlength, hlength', ← hrest, List.length_append] at hsame
  rw [List.eq_nil_of_length_eq_zero (by omega : rest.length = 0), List.append_nil] at hrest
  rw [← hvalue, ← hvalue', hrest]

theorem escapeChar_append_inj {c d : Char} {rest rest' : List Char}
    (h : escapeChar c ++ rest = escapeChar d ++ rest') : c = d ∧ rest = rest' := by
  rcases escapeChar_cases c with ⟨hc, -, hcs⟩ | ⟨⟨code, hcode⟩, hc⟩ <;>
    rcases escapeChar_cases d with ⟨hd, -, hds⟩ | ⟨⟨code', hcode'⟩, hd⟩
  · rw [hc, hd] at h
    exact List.cons.inj h
  · rw [hc, hcode'] at h
    exact absurd (List.cons.inj h).1 hcs
  · rw [hcode, hd] at h
    exact absurd (List.cons.inj h).1.symm hds
  · -- one of the two codes is the beginning of the other one
    have heq : c = d := by
      have hofNat (e : Char) : Char.ofNat e.toNat = e := Char.ofNat_toNat e
      have hprefix : escapeChar c <+: escapeChar d ∨ escapeChar d <+: escapeChar c :=
        List.prefix_or_prefix_of_prefix ⟨rest, h⟩ (List.prefix_append _ _)
      rw [← hofNat c, ← hofNat d] at hprefix ⊢
      rcases hprefix with hprefix | hprefix
      · rw [eq_of_isPrefix_escapeChar hc hd hprefix]
      · rw [eq_of_isPrefix_escapeChar hd hc hprefix]
    rw [heq] at h
    exact ⟨heq, List.append_cancel_left h⟩

/-- A character of a string is not written as the quote that ends the string. -/
theorem escapeChar_append_ne_quote (c : Char) (rest rest' : List Char) :
    escapeChar c ++ rest ≠ '"' :: rest' := by
  intro h
  rcases escapeChar_cases c with ⟨hc, hquote, -⟩ | ⟨⟨code, hcode⟩, -⟩
  · rw [hc] at h
    exact hquote (List.cons.inj h).1
  · rw [hcode] at h
    exact absurd (List.cons.inj h).1 (by decide)

theorem escaped_append_inj {cs ds rest rest' : List Char}
    (h : cs.flatMap escapeChar ++ '"' :: rest = ds.flatMap escapeChar ++ '"' :: rest') :
    cs = ds ∧ rest = rest' := by
  induction cs generalizing ds with
  | nil =>
    cases ds with
    | nil => exact ⟨rfl, (List.cons.inj h).2⟩
    | cons d ds =>
      rw [List.flatMap_cons, List.append_assoc] at h
      exact absurd h.symm (escapeChar_append_ne_quote _ _ _)
  | cons c cs ih =>
    cases ds with
    | nil =>
      rw [List.flatMap_cons, List.append_assoc] at h
      exact absurd h (escapeChar_append_ne_quote _ _ _)
    | cons d ds =>
      rw [List.flatMap_cons, List.flatMap_cons, List.append_assoc, List.append_assoc] at h
      obtain ⟨rfl, htail⟩ := escapeChar_append_inj h
      obtain ⟨rfl, hrest⟩ := ih htail
      exact ⟨rfl, hrest⟩

/-- A string in quotes ends where its closing quote is. -/
theorem quoted_append_inj {s t : String} {rest rest' : List Char}
    (h : quoted s ++ rest = quoted t ++ rest') : s = t ∧ rest = rest' := by
  rw [quoted, quoted, List.cons_append, List.cons_append, List.append_assoc, List.append_assoc] at h
  obtain ⟨hs, hrest⟩ := escaped_append_inj (List.cons.inj h).2
  exact ⟨String.toList_inj.1 hs, hrest⟩

/-! ### Texts of values -/

mutual

/-- What is written of a value does not depend on the text in front of it. -/
theorem write_eq : ∀ (j : Json) (l : Layout) (acc : List Char),
    write l acc j = write l [] j ++ acc
  | .null, _, _ | .bool true, _, _ | .bool false, _, _ | .int _, _, _ | .float _, _, _
  | .string _, _, _ | .array [], _, _ | .object [], _, _ => by
    simp [write, push]
  | .array (item :: items), l, acc => by
    simp only [write]
    rw [write_eq item, writeItems_eq items, write_eq item _ (push ['['] _),
      writeItems_eq items _ (write l.inner [] item ++ push ['['] _)]
    simp [push]
  | .object ((key, value) :: fields), l, acc => by
    simp only [write]
    rw [write_eq value, writeFields_eq fields, write_eq value _ (push (push (push ['\x7b'] _) _) _),
      writeFields_eq fields _ (write l.inner [] value ++ push (push (push ['\x7b'] _) _) _)]
    simp [push]

theorem writeItems_eq : ∀ (items : List Json) (l : Layout) (acc : List Char),
    writeItems l acc items = writeItems l [] items ++ acc
  | [], _, _ => rfl
  | item :: items, l, acc => by
    simp only [writeItems]
    rw [write_eq item, writeItems_eq items, write_eq item _ (push [','] _),
      writeItems_eq items _ (write l [] item ++ push [','] _)]
    simp [push]

theorem writeFields_eq : ∀ (fields : List (String × Json)) (l : Layout) (acc : List Char),
    writeFields l acc fields = writeFields l [] fields ++ acc
  | [], _, _ => rfl
  | (key, value) :: fields, l, acc => by
    simp only [writeFields]
    rw [write_eq value, writeFields_eq fields, write_eq value _ (push (push (push [','] _) _) _),
      writeFields_eq fields _ (write l [] value ++ push (push (push [','] _) _) _)]
    simp [push]

end

/-- The text of a value in a layout. -/
def laidOut (l : Layout) (j : Json) : List Char := (write l [] j).reverse

/-- The text of the items behind the first one, in their layout. -/
def laidItems (l : Layout) (items : List Json) : List Char := (writeItems l [] items).reverse

/-- The text of the fields behind the first one, in their layout. -/
def laidFields (l : Layout) (fields : List (String × Json)) : List Char :=
  (writeFields l [] fields).reverse

variable {l : Layout}

theorem laidOut_int (n : Int) : laidOut l (.int n) = (Digit.decimalInt n).toList := by
  simp [laidOut, write, push]

theorem laidOut_float (x : Float) : laidOut l (.float x) = Number.jsonText x := by
  simp [laidOut, write, push]

theorem laidOut_string (s : String) : laidOut l (.string s) = quoted s := by
  simp [laidOut, write, push]

theorem laidOut_array_cons (item : Json) (items : List Json) :
    laidOut l (.array (item :: items)) =
      '[' :: (l.inner.lineBreak ++
        (item.laidOut l.inner ++ (laidItems l.inner items ++ (l.lineBreak ++ [']'])))) := by
  simp only [laidOut, laidItems, write]
  rw [writeItems_eq, write_eq]
  simp [push]

theorem laidOut_object_cons (key : String) (value : Json) (fields : List (String × Json)) :
    laidOut l (.object ((key, value) :: fields)) =
      '\x7b' :: (l.inner.lineBreak ++ (quoted key ++ (l.inner.colon ++
        (value.laidOut l.inner ++ (laidFields l.inner fields ++ (l.lineBreak ++ ['\x7d'])))))) := by
  simp only [laidOut, laidFields, write]
  rw [writeFields_eq, write_eq]
  simp [push]

theorem laidItems_cons (item : Json) (items : List Json) :
    laidItems l (item :: items) =
      ',' :: (l.lineBreak ++ (item.laidOut l ++ laidItems l items)) := by
  simp only [laidOut, laidItems, writeItems]
  rw [writeItems_eq, write_eq]
  simp [push]

theorem laidFields_cons (key : String) (value : Json) (fields : List (String × Json)) :
    laidFields l ((key, value) :: fields) =
      ',' :: (l.lineBreak ++
        (quoted key ++ (l.colon ++ (value.laidOut l ++ laidFields l fields)))) := by
  simp only [laidOut, laidFields, writeFields]
  rw [writeFields_eq, write_eq]
  simp [push]

/-! ### Texts on one line -/

/-- The text of a value without blanks. -/
def text (j : Json) : List Char := (write .compact [] j).reverse

/-- The text of the items behind the first one. -/
def itemsText (items : List Json) : List Char := (writeItems .compact [] items).reverse

/-- The text of the fields behind the first one. -/
def fieldsText (fields : List (String × Json)) : List Char :=
  (writeFields .compact [] fields).reverse

theorem toList_compact (j : Json) : j.compact.toList = j.text := String.toList_ofList

theorem text_int (n : Int) : text (.int n) = (Digit.decimalInt n).toList := laidOut_int n

theorem text_float (x : Float) : text (.float x) = Number.jsonText x := laidOut_float x

theorem text_string (s : String) : text (.string s) = quoted s := laidOut_string s

theorem text_array_cons (item : Json) (items : List Json) :
    text (.array (item :: items)) = '[' :: (item.text ++ (itemsText items ++ [']'])) :=
  laidOut_array_cons item items

theorem text_object_cons (key : String) (value : Json) (fields : List (String × Json)) :
    text (.object ((key, value) :: fields)) =
      '\x7b' :: (quoted key ++ ':' :: (value.text ++ (fieldsText fields ++ ['\x7d']))) :=
  laidOut_object_cons key value fields

theorem itemsText_cons (item : Json) (items : List Json) :
    itemsText (item :: items) = ',' :: (item.text ++ itemsText items) :=
  laidItems_cons item items

theorem fieldsText_cons (key : String) (value : Json) (fields : List (String × Json)) :
    fieldsText ((key, value) :: fields) =
      ',' :: (quoted key ++ ':' :: (value.text ++ fieldsText fields)) :=
  laidFields_cons key value fields

/-! ### Where a value starts and ends -/

mutual

/-- Whether all numbers of a value are finite. -/
def IsFinite : Json → Prop
  | .float x => Number.isFinite x = true
  | .array items => ItemsFinite items
  | .object fields => FieldsFinite fields
  | _ => True

/-- Whether all numbers of the items are finite. -/
def ItemsFinite : List Json → Prop
  | [] => True
  | item :: items => item.IsFinite ∧ ItemsFinite items

/-- Whether all numbers of the fields are finite. -/
def FieldsFinite : List (String × Json) → Prop
  | [] => True
  | (_, value) :: fields => value.IsFinite ∧ FieldsFinite fields

end

/-- What a text starts with. -/
inductive Lead where
  | word
  | flag
  | number
  | string
  | array
  | object
deriving DecidableEq

/-- What a character starts, if it starts a value. -/
def Lead.of? (c : Char) : Option Lead :=
  if c = 'n' then some .word
  else if c = 't' ∨ c = 'f' then some .flag
  else if c = '"' then some .string
  else if c = '[' then some .array
  else if c = '\x7b' then some .object
  else if Number.isNumberChar c then some .number
  else none

/-- What the text of a value starts with. -/
def lead : Json → Lead
  | .null => .word
  | .bool _ => .flag
  | .int _ | .float _ => .number
  | .string _ => .string
  | .array _ => .array
  | .object _ => .object

theorem Lead.of?_isNumberChar {c : Char} (h : Number.isNumberChar c = true) :
    Lead.of? c = some .number := by
  have hne {d : Char} (hd : Number.isNumberChar d = false) : c ≠ d := by
    rintro rfl
    exact absurd (h.symm.trans hd) (by decide)
  rw [Lead.of?, if_neg (hne (by decide)),
    if_neg (not_or.2 ⟨hne (by decide), hne (by decide)⟩), if_neg (hne (by decide)),
    if_neg (hne (by decide)), if_neg (hne (by decide)), if_pos h]

theorem isNumberChar_of_mem_decimalInt {n : Int} {c : Char}
    (hc : c ∈ (Digit.decimalInt n).toList) : Number.isNumberChar c = true := by
  rcases Digit.mem_decimalInt hc with rfl | hc
  · decide
  · exact Number.isNumberChar_of_isAsciiDigit hc

theorem decimalInt_ne_nil (n : Int) : (Digit.decimalInt n).toList ≠ [] := by
  rw [Digit.toList_decimalInt]
  split
  · exact List.cons_ne_nil _ _
  · exact Digit.write_ne_nil _

theorem laidOut_eq_cons {j : Json} (hj : ∀ x, j = .float x → Number.isFinite x = true) :
    ∃ c cs, laidOut l j = c :: cs ∧ Lead.of? c = some j.lead := by
  have hnumber {cs : List Char} (hne : cs ≠ []) (hcs : ∀ c ∈ cs, Number.isNumberChar c = true) :
      ∃ c ds, cs = c :: ds ∧ Lead.of? c = some .number := by
    obtain ⟨c, ds, rfl⟩ := List.exists_cons_of_ne_nil hne
    exact ⟨c, ds, rfl, Lead.of?_isNumberChar (hcs c List.mem_cons_self)⟩
  cases j with
  | null => exact ⟨'n', _, rfl, rfl⟩
  | bool b => cases b <;> exact ⟨_, _, rfl, rfl⟩
  | int n =>
    rw [laidOut_int]
    exact hnumber (decimalInt_ne_nil n) (fun c hc => isNumberChar_of_mem_decimalInt hc)
  | float x =>
    have hx := hj x rfl
    rw [laidOut_float]
    obtain ⟨c, hc, -⟩ := Number.exists_mem_jsonText hx
    exact hnumber (List.ne_nil_of_mem hc) (fun c hc => Number.isNumberChar_of_mem_jsonText hx hc)
  | string s =>
    rw [laidOut_string]
    exact ⟨'"', _, rfl, rfl⟩
  | array items =>
    cases items with
    | nil => exact ⟨'[', _, rfl, rfl⟩
    | cons item items =>
      rw [laidOut_array_cons]
      exact ⟨'[', _, rfl, rfl⟩
  | object fields =>
    cases fields with
    | nil => exact ⟨'\x7b', _, rfl, rfl⟩
    | cons field fields =>
      obtain ⟨key, value⟩ := field
      rw [laidOut_object_cons]
      exact ⟨'\x7b', _, rfl, rfl⟩

theorem text_eq_cons {j : Json} (hj : j.IsFinite) :
    ∃ c cs, j.text = c :: cs ∧ Lead.of? c = some j.lead := by
  refine laidOut_eq_cons fun x hx => ?_
  rwa [hx, IsFinite] at hj

theorem lead_eq_of_text_append {j k : Json} {rest rest' : List Char} (hj : j.IsFinite)
    (hk : k.IsFinite) (h : j.text ++ rest = k.text ++ rest') : j.lead = k.lead := by
  obtain ⟨c, cs, hcs, hc⟩ := text_eq_cons hj
  obtain ⟨d, ds, hds, hd⟩ := text_eq_cons hk
  rw [hcs, hds, List.cons_append, List.cons_append] at h
  rw [(List.cons.inj h).1, hd] at hc
  exact (Option.some.inj hc).symm

/-- No value starts with the bracket that ends an array. -/
theorem text_append_ne_bracket {j : Json} (hj : j.IsFinite) (rest rest' : List Char) :
    j.text ++ rest ≠ ']' :: rest' := by
  intro h
  obtain ⟨c, cs, hcs, hc⟩ := text_eq_cons hj
  rw [hcs, List.cons_append] at h
  rw [(List.cons.inj h).1] at hc
  exact nomatch hc

/-- What follows a value: nothing that could belong to a number. -/
def IsEnd (rest : List Char) : Prop := ∀ c ∈ rest.head?, Number.isNumberChar c = false

theorem isEnd_cons {c : Char} (rest : List Char) (hc : Number.isNumberChar c = false) :
    IsEnd (c :: rest) := by
  intro d hd
  rw [← Option.some.inj hd]
  exact hc

/-- A number ends where its characters end. -/
theorem number_append_inj {cs ds rest rest' : List Char}
    (hcs : ∀ c ∈ cs, Number.isNumberChar c = true) (hds : ∀ c ∈ ds, Number.isNumberChar c = true)
    (hrest : IsEnd rest) (hrest' : IsEnd rest') (h : cs ++ rest = ds ++ rest') :
    cs = ds ∧ rest = rest' := by
  have htake {ts : List Char} (hts : IsEnd ts) : ts.takeWhile Number.isNumberChar = [] := by
    cases ts with
    | nil => rfl
    | cons t ts => rw [List.takeWhile_cons, hts t rfl, if_neg Bool.false_ne_true]
  have heq := congrArg (List.takeWhile Number.isNumberChar) h
  rw [List.takeWhile_append_of_pos hcs, List.takeWhile_append_of_pos hds, htake hrest,
    htake hrest', List.append_nil, List.append_nil] at heq
  rw [heq] at h
  exact ⟨heq, List.append_cancel_left h⟩

/-- The text of an integer is not the text of a double. -/
theorem decimalInt_ne_jsonText {n : Int} {x : Float} (hx : Number.isFinite x = true) :
    (Digit.decimalInt n).toList ≠ Number.jsonText x := by
  intro h
  obtain ⟨c, hc, hchar⟩ := Number.exists_mem_jsonText hx
  rw [← h] at hc
  rcases Digit.mem_decimalInt hc with rfl | hdigit
  · rcases hchar with hchar | hchar <;> exact absurd hchar (by decide)
  · rcases hchar with rfl | rfl <;> exact absurd hdigit (by decide)

theorem isEnd_itemsText (items : List Json) (rest : List Char) :
    IsEnd (itemsText items ++ ']' :: rest) := by
  cases items with
  | nil => exact isEnd_cons _ (by decide)
  | cons item items =>
    rw [itemsText_cons]
    exact isEnd_cons _ (by decide)

theorem isEnd_fieldsText (fields : List (String × Json)) (rest : List Char) :
    IsEnd (fieldsText fields ++ '\x7d' :: rest) := by
  cases fields with
  | nil => exact isEnd_cons _ (by decide)
  | cons field fields =>
    obtain ⟨key, value⟩ := field
    rw [fieldsText_cons]
    exact isEnd_cons _ (by decide)

/-! ### No two values have the same text -/

mutual

/-- The text of a value tells which value it is and where it ends. -/
theorem text_append_inj : ∀ {j k : Json}, j.IsFinite → k.IsFinite → ∀ {rest rest' : List Char},
    IsEnd rest → IsEnd rest' → j.text ++ rest = k.text ++ rest' → j = k ∧ rest = rest'
  | .null, k, hj, hk, _, _, _, _, h => by
    have hlead := lead_eq_of_text_append hj hk h
    cases k with
    | null => exact ⟨rfl, List.append_cancel_left h⟩
    | _ => exact nomatch hlead
  | .bool b, k, hj, hk, _, _, _, _, h => by
    have hlead := lead_eq_of_text_append hj hk h
    cases k with
    | bool c =>
      cases b <;> cases c
      · exact ⟨rfl, List.append_cancel_left h⟩
      · exact absurd (List.cons.inj h).1 (by decide)
      · exact absurd (List.cons.inj h).1 (by decide)
      · exact ⟨rfl, List.append_cancel_left h⟩
    | _ => exact nomatch hlead
  | .int n, k, hj, hk, _, _, hrest, hrest', h => by
    have hlead := lead_eq_of_text_append hj hk h
    cases k with
    | int m =>
      rw [text_int, text_int] at h
      obtain ⟨heq, hrest⟩ := number_append_inj (fun c hc => isNumberChar_of_mem_decimalInt hc)
        (fun c hc => isNumberChar_of_mem_decimalInt hc) hrest hrest' h
      exact ⟨by rw [Digit.decimalInt_inj heq], hrest⟩
    | float x =>
      rw [IsFinite] at hk
      rw [text_int, text_float] at h
      obtain ⟨heq, -⟩ := number_append_inj (fun c hc => isNumberChar_of_mem_decimalInt hc)
        (fun c hc => Number.isNumberChar_of_mem_jsonText hk hc) hrest hrest' h
      exact absurd heq (decimalInt_ne_jsonText hk)
    | _ => exact nomatch hlead
  | .float x, k, hj, hk, _, _, hrest, hrest', h => by
    have hlead := lead_eq_of_text_append hj hk h
    rw [IsFinite] at hj
    cases k with
    | int m =>
      rw [text_int, text_float] at h
      obtain ⟨heq, -⟩ := number_append_inj (fun c hc => Number.isNumberChar_of_mem_jsonText hj hc)
        (fun c hc => isNumberChar_of_mem_decimalInt hc) hrest hrest' h
      exact absurd heq.symm (decimalInt_ne_jsonText hj)
    | float y =>
      rw [IsFinite] at hk
      rw [text_float, text_float] at h
      obtain ⟨heq, hrest⟩ := number_append_inj
        (fun c hc => Number.isNumberChar_of_mem_jsonText hj hc)
        (fun c hc => Number.isNumberChar_of_mem_jsonText hk hc) hrest hrest' h
      exact ⟨by rw [Number.jsonText_inj hj hk heq], hrest⟩
    | _ => exact nomatch hlead
  | .string s, k, hj, hk, _, _, _, _, h => by
    have hlead := lead_eq_of_text_append hj hk h
    cases k with
    | string t =>
      rw [text_string, text_string] at h
      obtain ⟨rfl, hrest⟩ := quoted_append_inj h
      exact ⟨rfl, hrest⟩
    | _ => exact nomatch hlead
  | .array items, k, hj, hk, _, _, _, _, h => by
    have hlead := lead_eq_of_text_append hj hk h
    cases k with
    | array items' =>
      rw [IsFinite] at hj hk
      match items, items', hj, hk with
      | [], [], _, _ => exact ⟨rfl, List.append_cancel_left h⟩
      | [], item' :: items', _, hk =>
        rw [text_array_cons, List.cons_append, List.append_assoc] at h
        exact absurd (List.cons.inj h).2.symm (text_append_ne_bracket hk.1 _ _)
      | item :: items, [], hj, _ =>
        rw [text_array_cons, List.cons_append, List.append_assoc] at h
        exact absurd (List.cons.inj h).2 (text_append_ne_bracket hj.1 _ _)
      | item :: items, item' :: items', hj, hk =>
        rw [text_array_cons, text_array_cons, List.cons_append, List.cons_append,
          List.append_assoc, List.append_assoc, List.append_assoc, List.append_assoc] at h
        obtain ⟨rfl, htail⟩ := text_append_inj hj.1 hk.1 (isEnd_itemsText _ _)
          (isEnd_itemsText _ _) (List.cons.inj h).2
        obtain ⟨rfl, hrest⟩ := itemsText_append_inj hj.2 hk.2 htail
        exact ⟨rfl, hrest⟩
    | _ => exact nomatch hlead
  | .object fields, k, hj, hk, _, _, _, _, h => by
    have hlead := lead_eq_of_text_append hj hk h
    cases k with
    | object fields' =>
      rw [IsFinite] at hj hk
      match fields, fields', hj, hk with
      | [], [], _, _ => exact ⟨rfl, List.append_cancel_left h⟩
      | [], (key', value') :: fields', _, _ =>
        rw [text_object_cons] at h
        exact absurd (List.cons.inj (List.cons.inj h).2).1 (by decide)
      | (key, value) :: fields, [], _, _ =>
        rw [text_object_cons] at h
        exact absurd (List.cons.inj (List.cons.inj h).2).1 (by decide)
      | (key, value) :: fields, (key', value') :: fields', hj, hk =>
        rw [text_object_cons, text_object_cons, List.cons_append, List.cons_append,
          List.append_assoc, List.append_assoc, List.cons_append, List.cons_append,
          List.append_assoc, List.append_assoc, List.append_assoc, List.append_assoc] at h
        obtain ⟨rfl, hvalue⟩ := quoted_append_inj (List.cons.inj h).2
        obtain ⟨rfl, htail⟩ := text_append_inj hj.1 hk.1 (isEnd_fieldsText _ _)
          (isEnd_fieldsText _ _) (List.cons.inj hvalue).2
        obtain ⟨rfl, hrest⟩ := fieldsText_append_inj hj.2 hk.2 htail
        exact ⟨rfl, hrest⟩
    | _ => exact nomatch hlead

theorem itemsText_append_inj : ∀ {items items' : List Json}, ItemsFinite items →
    ItemsFinite items' → ∀ {rest rest' : List Char},
    itemsText items ++ ']' :: rest = itemsText items' ++ ']' :: rest' →
      items = items' ∧ rest = rest'
  | [], [], _, _, _, _, h => ⟨rfl, (List.cons.inj h).2⟩
  | [], item :: items, _, _, _, _, h => by
    rw [itemsText_cons] at h
    exact absurd (List.cons.inj h).1 (by decide)
  | item :: items, [], _, _, _, _, h => by
    rw [itemsText_cons] at h
    exact absurd (List.cons.inj h).1 (by decide)
  | item :: items, item' :: items', hj, hk, _, _, h => by
    rw [ItemsFinite] at hj hk
    rw [itemsText_cons, itemsText_cons, List.cons_append, List.cons_append, List.append_assoc,
      List.append_assoc] at h
    obtain ⟨rfl, htail⟩ := text_append_inj hj.1 hk.1 (isEnd_itemsText _ _) (isEnd_itemsText _ _)
      (List.cons.inj h).2
    obtain ⟨rfl, hrest⟩ := itemsText_append_inj hj.2 hk.2 htail
    exact ⟨rfl, hrest⟩

theorem fieldsText_append_inj : ∀ {fields fields' : List (String × Json)}, FieldsFinite fields →
    FieldsFinite fields' → ∀ {rest rest' : List Char},
    fieldsText fields ++ '\x7d' :: rest = fieldsText fields' ++ '\x7d' :: rest' →
      fields = fields' ∧ rest = rest'
  | [], [], _, _, _, _, h => ⟨rfl, (List.cons.inj h).2⟩
  | [], (key, value) :: fields, _, _, _, _, h => by
    rw [fieldsText_cons] at h
    exact absurd (List.cons.inj h).1 (by decide)
  | (key, value) :: fields, [], _, _, _, _, h => by
    rw [fieldsText_cons] at h
    exact absurd (List.cons.inj h).1 (by decide)
  | (key, value) :: fields, (key', value') :: fields', hj, hk, _, _, h => by
    rw [FieldsFinite] at hj hk
    rw [fieldsText_cons, fieldsText_cons, List.cons_append, List.cons_append, List.append_assoc,
      List.append_assoc, List.cons_append, List.cons_append, List.append_assoc,
      List.append_assoc] at h
    obtain ⟨rfl, hvalue⟩ := quoted_append_inj (List.cons.inj h).2
    obtain ⟨rfl, htail⟩ := text_append_inj hj.1 hk.1 (isEnd_fieldsText _ _) (isEnd_fieldsText _ _)
      (List.cons.inj hvalue).2
    obtain ⟨rfl, hrest⟩ := fieldsText_append_inj hj.2 hk.2 htail
    exact ⟨rfl, hrest⟩

end

/-- No two values have the same text. -/
theorem compact_inj {j k : Json} (hj : j.IsFinite) (hk : k.IsFinite) (h : j.compact = k.compact) :
    j = k := by
  have htext := congrArg String.toList h
  rw [toList_compact, toList_compact] at htext
  have hnil : IsEnd [] := fun c hc => nomatch hc
  have happend : j.text ++ [] = k.text ++ [] := by rw [htext]
  exact (text_append_inj hj hk hnil hnil happend).1

end Json

end TemplateExpr
