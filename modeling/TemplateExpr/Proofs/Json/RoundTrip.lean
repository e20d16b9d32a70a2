import TemplateExpr.Json.Parser
import TemplateExpr.Proofs.Json.Printer

/-!
# JSON texts read back

What `Json.compact` and `Json.pretty` write is read back as the same value, if its numbers are
integers that fit a word of 64 bits, its keys are distinct and it is not nested deeper than the
reader goes (`parseString_compact`, `parseString_pretty`). A value is read off the front of a text:
the reader stops in front of the comma, the bracket or the line break that follows it
(`scans_readValue`).
-/

namespace TemplateExpr.Json

open TemplateExpr.Text

/-- A scanner reads the value `a` off the front of a text and leaves `rest`. -/
def Scans {α ε : Type} {cs : List Char} (r : Except ε (Taken α cs)) (a : α) (rest : List Char) :
    Prop :=
  ∃ h, r = .ok ⟨a, rest, h⟩

/-- What follows a value within a text that is laid out. -/
def EndsValue (rest : List Char) : Prop :=
  ∀ c ∈ rest.head?, c = ',' ∨ c = ']' ∨ c = '\x7d' ∨ c = '\n'

variable {cs ds rest behind more : List Char} {c d : Char} {s : String} {n m bound : Nat}
  {negative : Bool} {acc : List Char} {j : Json} {l : Layout}

theorem endsValue_cons (hc : c = ',' ∨ c = ']' ∨ c = '\x7d' ∨ c = '\n') (cs : List Char) :
    EndsValue (c :: cs) := by
  intro d hd
  rwa [← Option.some.inj hd]

theorem EndsValue.cases (h : EndsValue (c :: cs)) :
    isAsciiDigit c = false ∧ c ≠ '.' ∧ c ≠ 'e' ∧ c ≠ 'E' := by
  obtain rfl | rfl | rfl | rfl := h c rfl <;> decide

/-! ### Blanks and words -/

theorem skipSpace_cons (hc : isSpace c = false) (cs : List Char) :
    skipSpace (c :: cs) = c :: cs := by
  rw [skipSpace, List.dropWhile_cons, hc, if_neg Bool.false_ne_true]

theorem skipSpace_append (hds : ∀ d ∈ ds, isSpace d = true) (cs : List Char) :
    skipSpace (ds ++ cs) = skipSpace cs :=
  List.dropWhile_append_of_pos hds

theorem skipSpace_lineBreak (l : Layout) (cs : List Char) :
    skipSpace (l.lineBreak ++ cs) = skipSpace cs := by
  refine skipSpace_append (fun d hd => ?_) cs
  cases l with
  | compact => exact absurd hd List.not_mem_nil
  | pretty level =>
    rcases List.mem_cons.1 hd with rfl | hd
    · rfl
    · rw [List.eq_of_mem_replicate hd]
      rfl

theorem expectWord_append : ∀ (word rest : List Char),
    ∃ h, expectWord word (word ++ rest) = .ok ⟨(), rest, h⟩
  | [], rest => ⟨_, rfl⟩
  | w :: ws, rest => by
    obtain ⟨h, hword⟩ := expectWord_append ws rest
    refine ⟨Nat.le_succ_of_le h, ?_⟩
    show expectWord (w :: ws) (w :: (ws ++ rest)) = _
    rw [expectWord, if_pos rfl, hword]
    rfl

theorem scans_readWord (word : String) (j : Json) (c : Char) (rest : List Char) :
    Scans (readWord word j c (word.toList ++ rest)) j rest := by
  obtain ⟨h, hword⟩ := expectWord_append word.toList rest
  rw [readWord, hword]
  exact ⟨_, rfl⟩

/-! ### Numbers -/

theorem eq_of_value?_ten (h : Digit.value? 10 c = some n) : n = c.toNat - 48 := by
  obtain ⟨hvalue, hlt⟩ := Option.filter_eq_some_iff.1 h
  have hlt := of_decide_eq_true hlt
  split at hvalue
  · exact (Option.some.inj hvalue).symm
  split at hvalue
  · have := Option.some.inj hvalue
    omega
  split at hvalue
  · have := Option.some.inj hvalue
    omega
  · cases hvalue

/-- Digits that denote a number within the bound are all collected. -/
theorem absorb_of_fold (h : Digit.fold 10 n ds = some m) (hm : m ≤ bound) :
    n ≤ m ∧ absorb bound n ds = (m, []) := by
  induction ds generalizing n with
  | nil =>
    obtain rfl := Option.some.inj h
    exact ⟨Nat.le_refl _, rfl⟩
  | cons d ds ih =>
    rw [Digit.fold] at h
    obtain ⟨v, hv, h⟩ := Option.bind_eq_some_iff.1 h
    obtain ⟨hle, habsorb⟩ := ih h
    rw [eq_of_value?_ten hv] at hle habsorb
    refine ⟨by omega, ?_⟩
    rw [absorb, if_pos (by omega), habsorb]

/-- No numeral of more than one digit starts with a zero. -/
theorem eq_nil_of_write (h : Digit.write 10 n = '0' :: ds) : ds = [] := by
  induction n using Nat.strongRecOn generalizing ds with
  | ind n ih =>
    rw [Digit.write_ten] at h
    split at h
    · next hn =>
      obtain ⟨first, es, hes⟩ := List.exists_cons_of_ne_nil (Digit.write_ne_nil (n / 10))
      rw [hes, List.cons_append] at h
      obtain ⟨rfl, -⟩ := List.cons.inj h
      have hzero : Digit.fold 10 0 ['0'] = some 0 := by decide
      have hvalue := Digit.fold_write (n / 10)
      rw [hes, ih _ (by omega) hes, hzero] at hvalue
      have := Option.some.inj hvalue
      omega
    · exact (List.cons.inj h).2.symm

theorem numberOf_write (hm : m < UInt64.size)
    (hnegative : negative = true → 1 ≤ m ∧ m ≤ UInt64.size / 2) :
    numberOf negative (Digit.write 10 m) none none = some (.int (if negative then -m else m)) := by
  obtain ⟨-, habsorb⟩ :=
    absorb_of_fold (Digit.fold_write m) (show m ≤ maxSignificand from Nat.le_sub_one_of_lt hm)
  rw [numberOf, habsorb]
  cases negative with
  | false => rfl
  | true =>
    have hsmall := hnegative rfl
    simp [hsmall]

theorem readFraction_of_ends {whole : List Char} (hrest : EndsValue rest)
    (h : numberOf negative whole none none = some j) :
    readFraction negative whole rest = .ok (.all j) := by
  have hscale : readScale negative whole none rest = .ok (.all j) := by
    rw [readScale.eq_def]
    split
    · exact absurd rfl hrest.cases.2.2.1
    · exact absurd rfl hrest.cases.2.2.2
    · rw [h]
  rw [readFraction.eq_def]
  split
  · exact absurd rfl hrest.cases.2.1
  · exact hscale

/-- A run of digits ends where the value ends. -/
theorem span_digits (hds : ∀ d ∈ ds, isAsciiDigit d = true) (hrest : EndsValue rest) :
    ∃ h, Left.span isAsciiDigit (ds ++ rest) = ⟨ds, rest, h⟩ := by
  have htake : (ds ++ rest).takeWhile isAsciiDigit = ds := by
    rw [List.takeWhile_append_of_pos hds]
    cases rest with
    | nil => simp
    | cons c rest => simp [hrest.cases.1]
  have hdrop : (ds ++ rest).dropWhile isAsciiDigit = rest := by
    rw [List.dropWhile_append_of_pos hds]
    cases rest with
    | nil => rfl
    | cons c rest => simp [hrest.cases.1]
  refine ⟨by simp, ?_⟩
  rw [Left.span]
  congr

theorem scans_readNumber (hrest : EndsValue rest)
    (hnumber : numberOf negative (Digit.write 10 m) none none = some j) :
    Scans (readNumber negative (Digit.write 10 m ++ rest)) j rest := by
  obtain ⟨c, ds, hwrite⟩ := List.exists_cons_of_ne_nil (Digit.write_ne_nil m)
  have hdigit : ∀ d ∈ c :: ds, isAsciiDigit d = true := fun d hd =>
    Digit.isAsciiDigit_of_mem_write (hwrite ▸ hd)
  rw [hwrite] at hnumber ⊢
  by_cases hc : c = '0'
  · subst hc
    obtain rfl := eq_nil_of_write hwrite
    have hfraction := readFraction_of_ends hrest hnumber
    cases rest with
    | nil =>
      show Scans (readNumber negative ['0']) _ _
      rw [readNumber, hfraction]
      exact ⟨_, rfl⟩
    | cons e rest =>
      show Scans (readNumber negative ('0' :: e :: rest)) _ _
      rw [readNumber, hrest.cases.1, if_neg Bool.false_ne_true, hfraction]
      exact ⟨_, rfl⟩
  · obtain ⟨h, hspan⟩ := span_digits (fun d hd => hdigit d (List.mem_cons_of_mem c hd)) hrest
    show Scans (readNumber negative (c :: (ds ++ rest))) _ _
    rw [readNumber, if_pos (hdigit c List.mem_cons_self)]
    · dsimp only
      rw [hspan, readFraction_of_ends hrest hnumber]
      exact ⟨_, rfl⟩
    · exact hc

/-! ### Strings -/

theorem scans_simpleEscape (he : simpleEscape? d = some c) (hd : d ≠ 'u')
    (h : Scans (readString (c :: acc) cs) s rest) :
    Scans (readString acc ('\\' :: d :: cs)) s rest := by
  obtain ⟨hlt, h⟩ := h
  rw [readString, he]
  · dsimp only
    rw [h]
    exact ⟨_, rfl⟩
  · exact hd

theorem writePadded_control : ∀ n < 0x20,
    Digit.writePadded 16 4 n = ['0', '0', Digit.char (n / 16), Digit.char (n % 16)] := by
  decide +kernel

theorem scans_unicodeEscape (hc : c.toNat < 0x20) (h : Scans (readString (c :: acc) cs) s rest) :
    Scans (readString acc ('\\' :: 'u' :: (Digit.writePadded 16 4 c.toNat ++ cs))) s rest := by
  obtain ⟨hlt, h⟩ := h
  have hzero : Digit.value? 16 '0' = some 0 := by decide
  have hhigh : Digit.value? 16 (Digit.char (c.toNat / 16)) = some (c.toNat / 16) :=
    Digit.value?_char_of_lt (by decide) (by omega)
  have hlow : Digit.value? 16 (Digit.char (c.toNat % 16)) = some (c.toNat % 16) :=
    Digit.value?_char_of_lt (by decide) (by omega)
  have hsum : 0 * 0x1000 + 0 * 0x100 + c.toNat / 16 * 0x10 + c.toNat % 16 = c.toNat := by omega
  have hread : ∃ h, readUnicode (Digit.writePadded 16 4 c.toNat ++ cs) = .ok ⟨c, cs, h⟩ := by
    rw [writePadded_control _ hc]
    show ∃ h, readUnicode ('0' :: '0' :: Digit.char (c.toNat / 16) ::
      Digit.char (c.toNat % 16) :: cs) = .ok ⟨c, cs, h⟩
    rw [readUnicode, readHex4]
    simp only [hzero, hhigh, hlow, hsum, Left.drop]
    rw [if_neg (by omega), if_pos (by omega), Char.ofNat_toNat]
    exact ⟨by simp; omega, rfl⟩
  obtain ⟨hle, hread⟩ := hread
  rw [readString, hread]
  dsimp only
  rw [h]
  exact ⟨_, rfl⟩

/-- A character is written behind a backslash as one letter or as its code point, or as it is. -/
theorem escapeChar_eq (c : Char) :
    (∃ d, escapeChar c = ['\\', d] ∧ d ≠ 'u' ∧ simpleEscape? d = some c) ∨
      escapeChar c = '\\' :: 'u' :: Digit.writePadded 16 4 c.toNat ∧ c.toNat < 0x20 ∨
      escapeChar c = [c] ∧ c ≠ '"' ∧ c ≠ '\\' ∧ ¬c.toNat < 0x20 := by
  unfold escapeChar
  split_ifs with hquote hslash hback hfeed hline hreturn htab hcontrol
  · exact .inl ⟨'"', rfl, by decide, hquote.symm ▸ rfl⟩
  · exact .inl ⟨'\\', rfl, by decide, hslash.symm ▸ rfl⟩
  · exact .inl ⟨'b', rfl, by decide, hback ▸ rfl⟩
  · exact .inl ⟨'f', rfl, by decide, hfeed ▸ rfl⟩
  · exact .inl ⟨'n', rfl, by decide, hline ▸ rfl⟩
  · exact .inl ⟨'r', rfl, by decide, hreturn ▸ rfl⟩
  · exact .inl ⟨'t', rfl, by decide, htab ▸ rfl⟩
  · exact .inr (.inl ⟨rfl, hcontrol⟩)
  · exact .inr (.inr ⟨rfl, hquote, hslash, hcontrol⟩)

/-- A character is read back from its code. -/
theorem scans_escapeChar (h : Scans (readString (c :: acc) cs) s rest) :
    Scans (readString acc (escapeChar c ++ cs)) s rest := by
  obtain ⟨d, hcode, hd, he⟩ | ⟨hcode, hcontrol⟩ | ⟨hcode, hquote, hslash, hcontrol⟩ :=
    escapeChar_eq c <;> rw [hcode]
  · exact scans_simpleEscape he hd h
  · exact scans_unicodeEscape hcontrol h
  · obtain ⟨hlt, h⟩ := h
    show Scans (readString acc (c :: cs)) s rest
    rw [readString, if_neg hcontrol, h]
    · exact ⟨_, rfl⟩
    · exact hquote
    · exact hslash

theorem scans_readString (cs acc rest : List Char) :
    Scans (readString acc (cs.flatMap escapeChar ++ '"' :: rest))
      (String.ofList (acc.reverse ++ cs)) rest := by
  induction cs generalizing acc with
  | nil =>
    show Scans (readString acc ('"' :: rest)) _ _
    rw [readString, List.append_nil]
    exact ⟨_, rfl⟩
  | cons c cs ih =>
    rw [List.flatMap_cons, List.append_assoc]
    have h := ih (c :: acc)
    rw [List.reverse_cons, List.append_assoc] at h
    exact scans_escapeChar h

/-- A string is read back behind its opening quote. -/
theorem scans_quoted (s : String) (rest : List Char) :
    ∃ cs, quoted s ++ rest = '"' :: cs ∧ Scans (readString [] cs) s rest := by
  refine ⟨s.toList.flatMap escapeChar ++ '"' :: rest, by simp [quoted], ?_⟩
  have h := scans_readString s.toList [] rest
  rwa [List.reverse_nil, List.nil_append, String.ofList_toList] at h

/-! ### Items -/

variable {value : Reader} {items : List Json} {a : Json}

theorem scans_items_end (h : skipSpace cs = ']' :: rest) (items : List Json) :
    Scans (readItems value items cs) (.array items.reverse) rest := by
  rw [readItems.eq_def]
  split
  · next heq => rw [h] at heq; cases heq
  · next heq =>
    rw [h] at heq
    obtain ⟨rfl, rfl⟩ := List.cons.inj heq
    exact ⟨_, rfl⟩

theorem scans_items_first (h : skipSpace cs = c :: more) (hc : c ≠ ']')
    (hitem : Scans (value (c :: more)) j rest)
    (hitems : Scans (readItems value [j] rest) a behind) :
    Scans (readItems value [] cs) a behind := by
  obtain ⟨hlt, hitem⟩ := hitem
  obtain ⟨hlt', hitems⟩ := hitems
  rw [readItems.eq_def]
  split
  · next heq => rw [h] at heq; cases heq
  · next heq =>
    rw [h] at heq
    obtain ⟨rfl, rfl⟩ := List.cons.inj heq
    rw [if_neg hc, List.isEmpty_nil, if_pos rfl, hitem]
    dsimp only
    rw [hitems]
    exact ⟨_, rfl⟩

theorem scans_items_next (h : skipSpace cs = ',' :: more) (hmore : skipSpace more = d :: ds)
    (hd : d ≠ ']') (hne : items ≠ []) (hitem : Scans (value (d :: ds)) j rest)
    (hitems : Scans (readItems value (j :: items) rest) a behind) :
    Scans (readItems value items cs) a behind := by
  obtain ⟨hlt, hitem⟩ := hitem
  obtain ⟨hlt', hitems⟩ := hitems
  have hempty : items.isEmpty = false := List.isEmpty_eq_false_iff.2 hne
  rw [readItems.eq_def]
  split
  · next heq => rw [h] at heq; cases heq
  · next heq =>
    rw [h] at heq
    obtain ⟨rfl, rfl⟩ := List.cons.inj heq
    rw [if_neg (by decide), hempty, if_neg Bool.false_ne_true, if_pos rfl]
    split
    · next heq' => rw [hmore] at heq'; cases heq'
    · next heq' =>
      rw [hmore] at heq'
      obtain ⟨rfl, rfl⟩ := List.cons.inj heq'
      dsimp only
      rw [if_neg hd, hitem]
      dsimp only
      rw [hitems]
      exact ⟨_, rfl⟩

/-! ### Fields -/

variable {first : Bool} {fields : Fields Json} {key : String}

theorem scans_readFieldValue (h : skipSpace cs = ':' :: more) (hvalue : Scans (value more) j rest) :
    Scans (readFieldValue value cs) j rest := by
  obtain ⟨hlt, hvalue⟩ := hvalue
  rw [readFieldValue.eq_def]
  split
  · next heq => rw [h] at heq; cases heq
  · next heq =>
    rw [h] at heq
    obtain ⟨-, rfl⟩ := List.cons.inj heq
    rw [hvalue]
    exact ⟨_, rfl⟩
  · next hne => exact absurd h (hne more)

theorem scans_fields_end (h : skipSpace cs = '\x7d' :: rest) :
    Scans (readFields value first fields cs) (.object fields) rest := by
  rw [readFields.eq_def]
  split
  · next heq => rw [h] at heq; cases heq
  · next heq =>
    rw [h] at heq
    obtain ⟨rfl, rfl⟩ := List.cons.inj heq
    exact ⟨_, rfl⟩

theorem scans_fields_first (h : skipSpace cs = '"' :: more)
    (hkey : Scans (readString [] more) key rest)
    (hvalue : Scans (readFieldValue value rest) j ds)
    (hfields : Scans (readFields value false (fields.insert key j) ds) a behind) :
    Scans (readFields value true fields cs) a behind := by
  obtain ⟨hlt, hkey⟩ := hkey
  obtain ⟨hlt', hvalue⟩ := hvalue
  obtain ⟨hlt'', hfields⟩ := hfields
  rw [readFields.eq_def]
  split
  · next heq => rw [h] at heq; cases heq
  · next heq =>
    rw [h] at heq
    obtain ⟨rfl, rfl⟩ := List.cons.inj heq
    dsimp only
    rw [if_neg (by decide), if_pos rfl, if_pos rfl, hkey]
    dsimp only
    rw [hvalue]
    dsimp only
    rw [hfields]
    exact ⟨_, rfl⟩

theorem scans_fields_next (h : skipSpace cs = ',' :: more) (hmore : skipSpace more = '"' :: ds)
    (hkey : Scans (readString [] ds) key rest)
    {es : List Char} (hvalue : Scans (readFieldValue value rest) j es)
    (hfields : Scans (readFields value false (fields.insert key j) es) a behind) :
    Scans (readFields value false fields cs) a behind := by
  obtain ⟨hlt, hkey⟩ := hkey
  obtain ⟨hlt', hvalue⟩ := hvalue
  obtain ⟨hlt'', hfields⟩ := hfields
  rw [readFields.eq_def]
  split
  · next heq => rw [h] at heq; cases heq
  · next heq =>
    rw [h] at heq
    obtain ⟨rfl, rfl⟩ := List.cons.inj heq
    dsimp only
    rw [if_neg (by decide), if_neg Bool.false_ne_true, if_pos rfl]
    split
    · next heq' => rw [hmore] at heq'; cases heq'
    · next heq' =>
      rw [hmore] at heq'
      obtain ⟨rfl, rfl⟩ := List.cons.inj heq'
      rw [if_pos rfl, hkey]
      dsimp only
      rw [hvalue]
      dsimp only
      rw [hfields]
      exact ⟨_, rfl⟩

/-! ### Values -/

/-- A value that is read back where arrays and objects may be nested `levels` deep: integers fit a
word of 64 bits, with a sign if they are negative, and no key stands twice in an object. -/
def IsReadable : Nat → Json → Prop
  | _, .null | _, .bool _ | _, .string _ => True
  | _, .int n => -(UInt64.size / 2 : Nat) ≤ n ∧ n < (UInt64.size : Nat)
  | _, .float _ => False
  | levels + 1, .array items => ∀ item ∈ items, IsReadable levels item
  | levels + 1, .object fields =>
    Fields.Distinct fields ∧ ∀ field ∈ fields, IsReadable levels field.2
  | 0, .array _ | 0, .object _ => False

/-- A reader reads a value in a layout off the front of every text, behind blanks. -/
def Reads (value : Reader) (l : Layout) (j : Json) : Prop :=
  ∀ {cs rest : List Char}, EndsValue rest → skipSpace cs = j.laidOut l ++ rest →
    Scans (value cs) j rest

variable {levels : Nat}

/-- A value starts neither with a blank nor with the bracket that ends an array. -/
theorem IsReadable.laidOut_eq_cons (h : IsReadable levels j) (l : Layout) :
    ∃ c cs, j.laidOut l = c :: cs ∧ isSpace c = false ∧ c ≠ ']' := by
  obtain ⟨c, cs, hcs, hc⟩ := Json.laidOut_eq_cons (l := l) (j := j) (by
    rintro x rfl
    cases levels <;> exact h.elim)
  refine ⟨c, cs, hcs, ?_, ?_⟩
  · by_contra hspace
    rw [Bool.not_eq_false] at hspace
    simp only [isSpace, Bool.or_eq_true, decide_eq_true_eq] at hspace
    obtain ((rfl | rfl) | rfl) | rfl := hspace <;> exact nomatch hc
  · rintro rfl
    exact nomatch hc

theorem IsReadable.skipSpace_laidOut (h : IsReadable levels j) (l : Layout) (rest : List Char) :
    skipSpace (j.laidOut l ++ rest) = j.laidOut l ++ rest := by
  obtain ⟨c, cs, hcs, hspace, -⟩ := h.laidOut_eq_cons l
  rw [hcs, List.cons_append, skipSpace_cons hspace]

/-- The bracket behind the last item ends it, and is found behind its line break. -/
theorem endsValue_closing (l : Layout) (hc : c = ']' ∨ c = '\x7d') (cs : List Char) :
    EndsValue (l.lineBreak ++ c :: cs) ∧ skipSpace (l.lineBreak ++ c :: cs) = c :: cs := by
  constructor
  · cases l with
    | compact => exact endsValue_cons (by obtain rfl | rfl := hc <;> simp) cs
    | pretty level => exact endsValue_cons (by simp) _
  · rw [skipSpace_lineBreak]
    exact skipSpace_cons (by obtain rfl | rfl := hc <;> rfl) cs

theorem endsValue_laidItems (h : EndsValue rest) (l : Layout) (items : List Json) :
    EndsValue (laidItems l items ++ rest) := by
  cases items with
  | nil => exact h
  | cons item items =>
    rw [laidItems_cons]
    exact endsValue_cons (by simp) _

theorem endsValue_laidFields (h : EndsValue rest) (l : Layout) (fields : Fields Json) :
    EndsValue (laidFields l fields ++ rest) := by
  cases fields with
  | nil => exact h
  | cons field fields =>
    obtain ⟨key, value⟩ := field
    rw [laidFields_cons]
    exact endsValue_cons (by simp) _

/-- An item is read behind its line break. -/
theorem scans_laidItem (hcs : EndsValue cs) (hj : IsReadable levels j)
    (hreads : IsReadable levels j → Reads value l j) :
    ∃ c ds, skipSpace (l.lineBreak ++ (j.laidOut l ++ cs)) = c :: ds ∧ c ≠ ']' ∧
      Scans (value (c :: ds)) j cs := by
  obtain ⟨c, ds, hds, hspace, hc⟩ := hj.laidOut_eq_cons l
  refine ⟨c, ds ++ cs, ?_, hc, hreads hj hcs ?_⟩
  · rw [skipSpace_lineBreak, hj.skipSpace_laidOut, hds, List.cons_append]
  · rw [skipSpace_cons hspace, hds, List.cons_append]

/-- The items behind the first ones are read up to the bracket behind them. -/
theorem scans_laidItems (hcs : EndsValue cs) (hend : skipSpace cs = ']' :: rest)
    (hreads : ∀ item, IsReadable levels item → Reads value l item)
    (hitems : ∀ item ∈ items, IsReadable levels item) {before : List Json} (hne : before ≠ []) :
    Scans (readItems value before (laidItems l items ++ cs)) (.array (before.reverse ++ items))
      rest := by
  induction items generalizing before with
  | nil =>
    rw [List.append_nil]
    exact scans_items_end hend before
  | cons item items ih =>
    obtain ⟨c, ds, hnext, hc, hvalue⟩ := scans_laidItem
      (endsValue_laidItems hcs l items) (hitems item List.mem_cons_self) (hreads item)
    have hskip : skipSpace (laidItems l (item :: items) ++ cs) =
        ',' :: (l.lineBreak ++ (item.laidOut l ++ (laidItems l items ++ cs))) := by
      rw [laidItems_cons, List.cons_append, List.append_assoc, List.append_assoc]
      exact skipSpace_cons rfl _
    have hmore := ih (fun i hi => hitems i (List.mem_cons_of_mem _ hi))
      (List.cons_ne_nil item before)
    rw [List.reverse_cons, List.append_assoc] at hmore
    exact scans_items_next hskip hnext hc hne hvalue hmore

/-- A field is read behind its opening quote. -/
theorem scans_laidField (hcs : EndsValue cs) (hj : IsReadable levels j) (h : Reads value l j)
    (key : String) :
    ∃ ds rest, quoted key ++ (l.colon ++ (j.laidOut l ++ cs)) = '"' :: ds ∧
      Scans (readString [] ds) key rest ∧ Scans (readFieldValue value rest) j cs := by
  obtain ⟨ds, hds, hkey⟩ := scans_quoted key (l.colon ++ (j.laidOut l ++ cs))
  refine ⟨ds, _, hds, hkey, ?_⟩
  cases l with
  | compact =>
    refine scans_readFieldValue (skipSpace_cons rfl _) (h hcs ?_)
    exact hj.skipSpace_laidOut _ _
  | pretty level =>
    refine scans_readFieldValue (skipSpace_cons rfl _) (h hcs ?_)
    exact (skipSpace_append (by simp [isSpace]) _).trans (hj.skipSpace_laidOut _ _)

/-- A new key is written behind the others. -/
theorem insert_of_distinct {before after : Fields Json}
    (h : Fields.Distinct (before ++ (key, j) :: after)) :
    before.insert key j = before ++ [(key, j)] := by
  have hnew : before.has key ≠ true := by
    rw [Ne, Fields.has_iff]
    rw [Fields.Distinct, Fields.keys, List.map_append, List.map_cons] at h
    intro hkey
    exact (List.nodup_append.1 h).2.2 key hkey key List.mem_cons_self rfl
  rw [Fields.insert, if_neg hnew]

/-- The fields behind the first ones are read up to the brace behind them. -/
theorem scans_laidFields (hcs : EndsValue cs) (hend : skipSpace cs = '\x7d' :: rest)
    (hreads : ∀ j, IsReadable levels j → Reads value l j)
    (hfields : ∀ field ∈ fields, IsReadable levels field.2) {before : Fields Json}
    (hdistinct : Fields.Distinct (before ++ fields)) :
    Scans (readFields value false before (laidFields l fields ++ cs)) (.object (before ++ fields))
      rest := by
  induction fields generalizing before with
  | nil =>
    rw [List.append_nil]
    exact scans_fields_end hend
  | cons field fields ih =>
    obtain ⟨key, j⟩ := field
    have hj := hfields (key, j) List.mem_cons_self
    obtain ⟨ds, behind, hds, hkey, hvalue⟩ :=
      scans_laidField (endsValue_laidFields hcs l fields) hj (hreads j hj) key
    have hskip : skipSpace (laidFields l ((key, j) :: fields) ++ cs) =
        ',' :: (l.lineBreak ++ '"' :: ds) := by
      rw [← hds, laidFields_cons]
      simp only [List.cons_append, List.append_assoc]
      exact skipSpace_cons rfl _
    have hnext : skipSpace (l.lineBreak ++ '"' :: ds) = '"' :: ds :=
      (skipSpace_lineBreak l _).trans (skipSpace_cons rfl ds)
    have hinsert := insert_of_distinct hdistinct
    rw [← List.singleton_append, ← List.append_assoc] at hdistinct ⊢
    have hmore := ih (fun f hf => hfields f (List.mem_cons_of_mem _ hf)) hdistinct
    rw [← hinsert] at hmore ⊢
    exact scans_fields_next hskip hnext hkey hvalue hmore

/-! ### Arrays and objects -/

/-- An array is read behind its bracket. -/
theorem scans_laidArray (hreads : ∀ j, IsReadable levels j → Reads value l.inner j)
    (hitems : ∀ item ∈ items, IsReadable levels item) (rest : List Char) :
    ∃ cs, laidOut l (.array items) ++ rest = '[' :: cs ∧
      Scans (readItems value [] cs) (.array items) rest := by
  cases items with
  | nil => exact ⟨']' :: rest, rfl, scans_items_end (skipSpace_cons rfl rest) []⟩
  | cons item items =>
    obtain ⟨hends, hskip⟩ := endsValue_closing l (.inl rfl) rest
    obtain ⟨c, ds, hfirst, hc, hvalue⟩ := scans_laidItem
      (endsValue_laidItems hends l.inner items) (hitems item List.mem_cons_self) (hreads item)
    have hmore := scans_laidItems hends hskip hreads
      (fun i hi => hitems i (List.mem_cons_of_mem _ hi)) (List.cons_ne_nil item [])
    refine ⟨_, ?_, scans_items_first hfirst hc hvalue hmore⟩
    rw [laidOut_array_cons]
    simp only [List.cons_append, List.append_assoc, List.nil_append]

/-- An object is read behind its brace. -/
theorem scans_laidObject (hreads : ∀ j, IsReadable levels j → Reads value l.inner j)
    (hfields : ∀ field ∈ fields, IsReadable levels field.2) (hdistinct : Fields.Distinct fields)
    (rest : List Char) :
    ∃ cs, laidOut l (.object fields) ++ rest = '\x7b' :: cs ∧
      Scans (readFields value true [] cs) (.object fields) rest := by
  cases fields with
  | nil => exact ⟨'\x7d' :: rest, rfl, scans_fields_end (skipSpace_cons rfl rest)⟩
  | cons field fields =>
    obtain ⟨key, j⟩ := field
    have hj := hfields (key, j) List.mem_cons_self
    obtain ⟨hends, hskip⟩ := endsValue_closing l (.inr rfl) rest
    obtain ⟨ds, behind, hds, hkey, hvalue⟩ :=
      scans_laidField (endsValue_laidFields hends l.inner fields) hj (hreads j hj) key
    have hfirst : skipSpace (l.inner.lineBreak ++ '"' :: ds) = '"' :: ds :=
      (skipSpace_lineBreak _ _).trans (skipSpace_cons rfl ds)
    have hmore := scans_laidFields hends hskip hreads
      (fun f hf => hfields f (List.mem_cons_of_mem _ hf))
      (show Fields.Distinct ([(key, j)] ++ fields) from hdistinct)
    refine ⟨_, ?_, scans_fields_first hfirst hkey hvalue hmore⟩
    rw [laidOut_object_cons, ← hds]
    simp only [List.cons_append, List.append_assoc, List.nil_append]

/-! ### All values -/

theorem scans_readValue_of_skip (h : skipSpace cs = c :: more)
    (hvalue : ∀ inner : Reader, (∀ n, levels = n + 1 → inner = readValue n) →
      Scans (readValueAt levels inner c more) j rest) :
    Scans (readValue levels cs) j rest := by
  rw [readValue.eq_def]
  split
  · next heq => rw [h] at heq; cases heq
  · next heq =>
    rw [h] at heq
    obtain ⟨rfl, rfl⟩ := List.cons.inj heq
    cases levels with
    | zero =>
      obtain ⟨hlt, hvalue⟩ := hvalue (fun cs => faultAhead .tooDeep cs) (fun n hn => nomatch hn)
      dsimp only
      rw [hvalue]
      exact ⟨_, rfl⟩
    | succ n =>
      obtain ⟨hlt, hvalue⟩ := hvalue (readValue n) (fun m hm => by rw [Nat.succ.inj hm])
      dsimp only
      rw [hvalue]
      exact ⟨_, rfl⟩

theorem readValueAt_digit (hc : isAsciiDigit c = true) (inner : Reader) (cs : List Char) :
    readValueAt levels inner c cs = readNumber false (c :: cs) := by
  have hne {d : Char} (hd : isAsciiDigit d = false) : c = d → False := by
    rintro rfl
    exact absurd (hc.symm.trans hd) (by decide)
  rw [readValueAt, if_pos hc] <;> exact hne rfl

theorem scans_int {n : Int} (hrest : EndsValue rest)
    (hn : -(UInt64.size / 2 : Nat) ≤ n ∧ n < (UInt64.size : Nat)) :
    ∃ c cs, (Digit.decimalInt n).toList ++ rest = c :: cs ∧
      ∀ inner : Reader, Scans (readValueAt levels inner c cs) (.int n) rest := by
  rw [Digit.toList_decimalInt]
  split
  · next hneg =>
    refine ⟨'-', _, rfl, fun inner => ?_⟩
    have hnumber : numberOf true (Digit.write 10 n.natAbs) none none = some (.int n) := by
      rw [numberOf_write (by omega) (fun _ => by omega), if_pos rfl]
      congr
      omega
    obtain ⟨hlt, hread⟩ := scans_readNumber hrest hnumber
    show Scans (Except.map _ (readNumber true (Digit.write 10 n.natAbs ++ rest))) _ _
    rw [hread]
    exact ⟨_, rfl⟩
  · next hpos =>
    have hnumber : numberOf false (Digit.write 10 n.natAbs) none none = some (.int n) := by
      rw [numberOf_write (by omega) (fun h => absurd h Bool.false_ne_true),
        if_neg Bool.false_ne_true]
      congr
      omega
    have hread := scans_readNumber hrest hnumber
    obtain ⟨c, ds, hds⟩ := List.exists_cons_of_ne_nil (Digit.write_ne_nil n.natAbs)
    have hc : isAsciiDigit c = true :=
      Digit.isAsciiDigit_of_mem_write (hds ▸ List.mem_cons_self)
    rw [hds] at hread ⊢
    refine ⟨c, ds ++ rest, rfl, fun inner => ?_⟩
    rw [readValueAt_digit hc]
    exact hread

/-- One step of the reader: what it needs to read a value is that the reader within reads the items
and the values of the fields. -/
theorem scans_readValueAt (hj : IsReadable levels j) (hrest : EndsValue rest)
    (hinner : ∀ n, levels = n + 1 → ∀ item, IsReadable n item → ∀ l, Reads (readValue n) l item)
    (l : Layout) :
    ∃ c cs, j.laidOut l ++ rest = c :: cs ∧
      ∀ inner : Reader, (∀ n, levels = n + 1 → inner = readValue n) →
        Scans (readValueAt levels inner c cs) j rest := by
  cases j with
  | null => exact ⟨'n', _, rfl, fun _ _ => scans_readWord "ull" .null 'n' rest⟩
  | bool b =>
    cases b with
    | false => exact ⟨'f', _, rfl, fun _ _ => scans_readWord "alse" (.bool false) 'f' rest⟩
    | true => exact ⟨'t', _, rfl, fun _ _ => scans_readWord "rue" (.bool true) 't' rest⟩
  | int n =>
    rw [laidOut_int]
    obtain ⟨c, cs, hcs, hread⟩ := scans_int hrest (by cases levels <;> exact hj)
    exact ⟨c, cs, hcs, fun inner _ => hread inner⟩
  | float x => cases levels <;> exact hj.elim
  | string s =>
    obtain ⟨cs, hcs, hlt, hread⟩ := scans_quoted s rest
    rw [laidOut_string]
    refine ⟨'"', cs, hcs, fun inner _ => ?_⟩
    rw [readValueAt, hread]
    exact ⟨_, rfl⟩
  | array items =>
    cases levels with
    | zero => exact hj.elim
    | succ n =>
      obtain ⟨cs, hcs, hlt, hread⟩ :=
        scans_laidArray (l := l) (fun item hitem => hinner n rfl item hitem _) hj rest
      refine ⟨'[', cs, hcs, fun inner heq => ?_⟩
      obtain rfl := heq n rfl
      rw [readValueAt, if_neg (Nat.succ_ne_zero n), hread]
      exact ⟨_, rfl⟩
  | object fields =>
    cases levels with
    | zero => exact hj.elim
    | succ n =>
      obtain ⟨cs, hcs, hlt, hread⟩ :=
        scans_laidObject (l := l) (fun item hitem => hinner n rfl item hitem _) hj.2 hj.1 rest
      refine ⟨'\x7b', cs, hcs, fun inner heq => ?_⟩
      obtain rfl := heq n rfl
      rw [readValueAt, if_neg (Nat.succ_ne_zero n), hread]
      exact ⟨_, rfl⟩

/-- What is written of a value is read back, in every layout and behind blanks. -/
theorem reads_readValue (hj : IsReadable levels j) (l : Layout) : Reads (readValue levels) l j := by
  induction levels using Nat.strongRecOn generalizing j l with
  | ind levels ih =>
    intro cs rest hrest hskip
    obtain ⟨c, ds, hds, hread⟩ := scans_readValueAt hj hrest
      (fun n hn item hitem l => ih n (by omega) hitem l) l
    exact scans_readValue_of_skip (hskip.trans hds) hread

/-- The text of a value in any layout is read back as the value. -/
theorem parse_laidOut (hj : IsReadable maxNesting j) (l : Layout) :
    parse (j.laidOut l) = .ok j := by
  have hnil : EndsValue [] := fun c hc => nomatch hc
  obtain ⟨hlt, hread⟩ : Scans (readValue maxNesting (j.laidOut l)) j [] := by
    refine reads_readValue hj l hnil ?_
    have hskip := hj.skipSpace_laidOut l []
    rwa [List.append_nil] at hskip ⊢
  rw [parse, hread]
  rfl

theorem parseString_compact (hj : IsReadable maxNesting j) : parseString j.compact = .ok j := by
  rw [parseString, toList_compact]
  exact congrArg (Except.mapError _) (parse_laidOut hj .compact)

theorem parseString_pretty (hj : IsReadable maxNesting j) : parseString j.pretty = .ok j := by
  rw [parseString, pretty, String.toList_ofList]
  exact congrArg (Except.mapError _) (parse_laidOut hj (.pretty 0))

end TemplateExpr.Json
