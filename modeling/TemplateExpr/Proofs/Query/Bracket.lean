import TemplateExpr.Proofs.Number.Literal
import TemplateExpr.Proofs.Query.Basic
import TemplateExpr.Proofs.Text.Digit

/-!
# Paths in brackets

Each step of a path can be written in brackets. What has been written is read back exactly if no key
holds a closing bracket (`bracketPath_iff`): a selector ends at the first one, also within quotation
marks. All other characters may stand in a key, quotation marks and opening brackets among them, for
only the outermost quotation marks are taken off.
-/

namespace TemplateExpr.QueryStep

open TemplateExpr.Text TemplateExpr.Number

variable {c d : Char} {cs : List Char} {step : QueryStep} {steps : List QueryStep}

/-! ### Writing -/

/-- What stands between the brackets of a step. -/
def selectorText : QueryStep → List Char
  | key name => '\'' :: (name.toList ++ ['\''])
  | index i => (Digit.decimalInt i).toList
  | wildcard => ['*']

/-- The path with each step in brackets. -/
def bracketPath (steps : List QueryStep) : List Char :=
  '$' :: steps.flatMap fun step => '[' :: (step.selectorText ++ [']'])

theorem close_mem_selectorText :
    ']' ∈ step.selectorText ↔ ∃ name, step = key name ∧ ']' ∈ name.toList := by
  cases step with
  | key name => simp [selectorText]
  | index i =>
    refine iff_of_false (fun hclose => ?_) nofun
    rcases Digit.mem_decimalInt hclose with hminus | hdigit
    · exact absurd hminus (by decide)
    · exact absurd hdigit (by decide)
  | wildcard => exact iff_of_false (by decide) nofun

/-! ### Stripping -/

theorem trim_selectorText (step : QueryStep) : trim step.selectorText = step.selectorText := by
  cases step with
  | key name => exact trim_between rfl rfl
  | index i =>
    refine trim_eq_self fun c hc => ?_
    rcases Digit.mem_decimalInt hc with rfl | hdigit
    · rfl
    · exact Lexer.isBlank_of_digit hdigit
  | wildcard => rfl

theorem trim_bracketPath (steps : List QueryStep) :
    trim (bracketPath steps) = bracketPath steps := by
  rcases steps.eq_nil_or_concat' with rfl | ⟨front, last, rfl⟩
  · rfl
  · rw [bracketPath, List.flatMap_append, List.flatMap_singleton, ← List.cons_append (a := '['),
      ← List.append_assoc]
    exact trim_between rfl rfl

/-! ### Reading a selector -/

theorem unquoted?_quoted (mark : Char) (cs : List Char) :
    unquoted? mark (mark :: (cs ++ [mark])) = some cs := by
  simp [unquoted?, stripStart?, stripEnd?]

theorem readInt?_decimalInt (i : Int) : readInt? 10 (Digit.decimalInt i).toList = some i := by
  have hread : Digit.read? 10 (Digit.write 10 i.natAbs) = some i.natAbs := by
    rw [Digit.read?, if_neg (by simpa using Digit.write_ne_nil _), Digit.fold_write]
  rw [Digit.toList_decimalInt]
  split
  · next hneg =>
    have hsign : spanSign ('-' :: Digit.write 10 i.natAbs) = (true, Digit.write 10 i.natAbs) := rfl
    simp only [readInt?, hsign, hread]
    exact congrArg some (by omega : -(i.natAbs : Int) = i)
  · next hpos =>
    have hsign : spanSign (Digit.write 10 i.natAbs) = (false, Digit.write 10 i.natAbs) := by
      refine spanSign_eq_self fun c hc => ?_
      have hdigit := Digit.isAsciiDigit_of_mem_write (List.mem_of_head? hc)
      constructor <;> (rintro rfl; cases hdigit)
    simp only [readInt?, hsign, hread]
    exact congrArg some (by omega : (i.natAbs : Int) = i)

theorem ofBracket_selectorText (hindex : ∀ i, step = index i → fitsInt64 i = true) :
    ofBracket step.selectorText = .ok step := by
  cases step with
  | key name =>
    rw [selectorText, ofBracket, if_neg (by simp), unquoted?_quoted]
    simp
  | index i =>
    have hchar : ∀ c, ¬(c = '-' ∨ isAsciiDigit c = true) →
        (Digit.decimalInt i).toList.head? ≠ some c := fun c hc hhead =>
      hc (Digit.mem_decimalInt (List.mem_of_head? hhead))
    have hstar : (Digit.decimalInt i).toList ≠ ['*'] := fun h =>
      hchar '*' (by decide) (by rw [h]; rfl)
    rw [selectorText, ofBracket, if_neg hstar, unquoted?_eq_none (hchar '\'' (by decide)),
      unquoted?_eq_none (hchar '"' (by decide)), readInt?_decimalInt,
      Option.filter_some_pos (hindex i rfl)]
    rfl
  | wildcard => rfl

/-- The characters of a key that is read stand in the selector. -/
theorem mem_of_unquoted? {mark : Char} {name : List Char} (h : unquoted? mark cs = some name)
    (hc : c ∈ name) : c ∈ cs := by
  obtain ⟨inner, hinner, hname⟩ := Option.bind_eq_some_iff.1 h
  obtain ⟨-, hinner⟩ := Option.ite_none_right_eq_some.1 hinner
  obtain ⟨-, hname⟩ := Option.ite_none_right_eq_some.1 hname
  obtain rfl := Option.some.inj hinner
  obtain rfl := Option.some.inj hname
  exact List.mem_of_mem_drop (List.mem_of_mem_take hc)

theorem mem_of_ofBracket {name : String} (h : ofBracket cs = .ok (key name))
    (hc : c ∈ name.toList) : c ∈ cs := by
  unfold ofBracket at h
  split at h
  · cases h
  · split at h
    · next name' hname =>
      cases h
      rw [String.toList_ofList] at hc
      rcases Option.or_eq_some_iff.1 hname with hname | ⟨-, hname⟩
      · exact mem_of_unquoted? hname hc
      · exact mem_of_unquoted? hname hc
    · split at h
      · cases h
      · cases h

/-! ### Reading a path -/

/-- A selector ends at the first closing bracket. -/
theorem readAll_selector (hclose : ']' ∉ cs) (rest : List Char) :
    readAll ('[' :: (cs ++ ']' :: rest)) =
      (ofBracket (trim cs) >>= fun step => readAll rest >>= fun steps => pure (step :: steps)) := by
  have hopen : ∀ c ∈ cs, (c != ']') = true := fun c hc =>
    bne_iff_ne.2 fun heq => hclose (heq ▸ hc)
  rw [readAll_bracket, List.takeWhile_append_of_pos hopen, List.dropWhile_append_of_pos hopen,
    List.takeWhile_cons_of_neg (by simp), List.dropWhile_cons_of_neg (by simp), List.append_nil]
  rfl

/-- What is read from brackets has no closing bracket. -/
theorem exists_ofBracket_of_readAll (h : readAll ('[' :: cs) = .ok (step :: steps)) :
    ∃ inner, ']' ∉ inner ∧ ofBracket inner = .ok step := by
  rw [readAll_bracket] at h
  split at h
  · cases h
  · obtain ⟨step', hstep, h⟩ := exists_of_bind_eq_ok h
    obtain ⟨steps', -, h⟩ := exists_of_bind_eq_ok h
    cases h
    refine ⟨_, fun hclose => ?_, hstep⟩
    exact absurd (List.mem_takeWhile_imp (mem_of_mem_trim hclose)) (by decide)

theorem readAll_bracketed (hindex : ∀ i, index i ∈ steps → fitsInt64 i = true) :
    readAll (steps.flatMap fun step => '[' :: (step.selectorText ++ [']'])) = .ok steps ↔
      ∀ name, key name ∈ steps → ']' ∉ name.toList := by
  induction steps with
  | nil =>
    rw [List.flatMap_nil, readAll]
    exact iff_of_true rfl fun name hname => by cases hname
  | cons step steps ih =>
    rw [List.flatMap_cons, List.cons_append, List.append_assoc, List.singleton_append]
    by_cases hclose : ']' ∈ step.selectorText
    -- the key that is read ends before the bracket, so it is another one
    · obtain ⟨name, rfl, hname⟩ := close_mem_selectorText.1 hclose
      refine iff_of_false (fun h => ?_) fun h => h name List.mem_cons_self hname
      obtain ⟨inner, hinner, hkey⟩ := exists_ofBracket_of_readAll h
      exact hinner (mem_of_ofBracket hkey hname)
    · rw [readAll_selector hclose, trim_selectorText,
        ofBracket_selectorText fun i hi => hindex i (hi ▸ List.mem_cons_self)]
      have hnot : ∀ name, key name = step → ']' ∉ name.toList := fun name hstep hname =>
        hclose (close_mem_selectorText.2 ⟨name, hstep.symm, hname⟩)
      have hrest := ih fun i hi => hindex i (List.mem_cons_of_mem step hi)
      simp only [List.mem_cons, or_imp, forall_and]
      rw [and_iff_right hnot, ← hrest]
      cases readAll (steps.flatMap fun step => '[' :: (step.selectorText ++ [']'])) with
      | error e => exact iff_of_false (fun h => by cases h) fun h => by cases h
      | ok steps' => exact ⟨fun h => by cases h; rfl, fun h => by cases h; rfl⟩

/-- Steps that are written in brackets are read back exactly if no key holds a closing bracket. So a
field of an object is found by its key in brackets, if that holds none. -/
theorem bracketPath_iff (hindex : ∀ i, index i ∈ steps → fitsInt64 i = true) :
    (ofPath (bracketPath steps) = .ok steps ↔ ∀ name, key name ∈ steps → ']' ∉ name.toList) ∧
      ∀ (fields : Fields Value) (name : String), ']' ∉ name.toList →
        (Value.object fields).query (String.ofList (bracketPath [key name])) =
          .ok ((fields.get? name).getD .undefined) := by
  have hread {steps : List QueryStep} (hindex : ∀ i, index i ∈ steps → fitsInt64 i = true) :
      ofPath (bracketPath steps) = .ok steps ↔ ∀ name, key name ∈ steps → ']' ∉ name.toList := by
    rw [ofPath_root (trim_bracketPath steps)]
    exact readAll_bracketed hindex
  refine ⟨hread hindex, fun fields name hname => ?_⟩
  have hkey : ofPath (bracketPath [key name]) = .ok [key name] :=
    (hread (by simp)).2 (by simpa using hname)
  rw [Value.query, String.toList_ofList, hkey]
  cases hfield : fields.get? name with
  | none => simp [reachAll, reach, hfield]
  | some v => simp [reachAll, reach, hfield]

/-- Keys with an apostrophe, an opening bracket, a star and blanks, and the empty key. -/
theorem bracketPath_iff_apostrophe :
    ofPath "$[' it's [*'][-1][*]['']".toList =
        .ok [key " it's [*", index (-1), wildcard, key ""] ∧
      (Value.object [("it's", .bool true)]).query "$['it's']" = .ok (.bool true) := by
  have htext : bracketPath [key " it's [*", index (-1), wildcard, key ""] =
      "$[' it's [*'][-1][*]['']".toList := by decide +kernel
  have hfits : fitsInt64 (-1) = true := by decide +kernel
  have hindex : ∀ i, index i ∈ [key " it's [*", index (-1), wildcard, key ""] →
      fitsInt64 i = true := by simpa using hfits
  obtain ⟨hread, hfield⟩ := bracketPath_iff hindex
  refine ⟨?_, hfield [("it's", .bool true)] "it's" (by decide)⟩
  rw [← htext]
  exact hread.2 (by simp)

/-- A key with a closing bracket is cut there. -/
theorem query_closingBracket :
    bracketPath [key "a]b"] = "$['a]b']".toList ∧
      (Value.object [("a]b", .bool true)]).query "$['a]b']" = .error (.query (.selector "'a")) := by
  have hpath : ofPath "$['a]b']".toList = .error (.selector "'a") := by
    have hroot : trim "$['a]b']".toList = '$' :: "['a]b']".toList := by decide +kernel
    rw [ofPath_root hroot]
    change readAll ('[' :: ("'a".toList ++ ']' :: "b']".toList)) = _
    rw [readAll_selector (by decide)]
    rfl
  refine ⟨rfl, ?_⟩
  rw [Value.query, hpath]

end TemplateExpr.QueryStep
