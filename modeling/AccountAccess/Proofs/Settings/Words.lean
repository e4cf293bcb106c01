import AccountAccess.Bytes
import AccountAccess.Settings.Value
import AccountAccess.Settings.Environment
import Mathlib.Data.List.TakeWhile

/-!
What a variable of the environment says where a text is wanted.

The text of a variable is read as a truth value or a number first, and what it was read as is
printed where a text is wanted (`heard`, `text?_ofWord`).

* `heard_eq_iff`: a text is heard as it is, unless it spells a truth value, an integer of 64 bits or
  a double in another way than that is printed in.
* `heard_eq_iff_of_long`: no integer is printed in 32 octets, so a text of that length which spells
  one is never heard as it is.
* `heard_of_long`: a text of that length is, if any character is none of a numeral.
-/

namespace AccountAccess.Settings

/-- What is heard of the text of a variable where a text is wanted: the truth value or the number
that it spells, as that is printed, and else the text itself. -/
def heard (s : String) : String :=
  if Ascii.lower s = "true" ∨ Ascii.lower s = "false" then Ascii.lower s
  else match Decimal.int64? s.toList with
    | some i => Decimal.text i.toInt
    | none =>
      match Binary64.ofText? s.toList with
      | some x => x.text
      | none => s

/-- A variable is no list and no table, so it has a text. -/
lemma text?_ofWord (s : String) : (Value.ofWord s).text? = some (heard s) := by
  rw [heard, Value.ofWord]
  by_cases ht : Ascii.lower s = "true"
  · simp [ht, Value.text?]
  by_cases hf : Ascii.lower s = "false"
  · simp [hf, Value.text?]
  cases hi : Decimal.int64? s.toList with
  | some i => simp [ht, hf, Value.text?]
  | none =>
      cases hx : Binary64.ofText? s.toList <;> simp [ht, hf, Value.text?]

/-! ### Texts that are heard as they are -/

/-- A text that spells no truth value and no number, or spells it as it is printed. -/
structure IsPrinted (s : String) : Prop where
  bool : Ascii.lower s = "true" ∨ Ascii.lower s = "false" → Ascii.lower s = s
  int : ∀ i, Decimal.int64? s.toList = some i → Decimal.text i.toInt = s
  float : Decimal.int64? s.toList = none → ∀ x, Binary64.ofText? s.toList = some x → x.text = s

/-- No word for a truth value is a number. -/
lemma not_number_of_bool {s : String} (h : s = "true" ∨ s = "false") :
    Decimal.int64? s.toList = none ∧ Binary64.ofText? s.toList = none := by
  rcases h with rfl | rfl <;> decide +kernel

/-- **A text is heard as it is exactly if it is printed like what it spells.** -/
theorem heard_eq_iff {s : String} : heard s = s ↔ IsPrinted s := by
  by_cases hbool : Ascii.lower s = "true" ∨ Ascii.lower s = "false"
  · rw [heard, if_pos hbool]
    refine ⟨fun h => ?_, fun h => h.bool hbool⟩
    obtain ⟨hint, hfloat⟩ := not_number_of_bool (h ▸ hbool)
    exact ⟨fun _ => h, by simp [hint], by simp [hfloat]⟩
  · rw [heard, if_neg hbool]
    cases hint : Decimal.int64? s.toList with
    | some i =>
        refine ⟨fun h => ⟨fun hb => absurd hb hbool, ?_, by simp [hint]⟩, fun h => h.int i hint⟩
        simpa [hint] using h
    | none =>
        cases hfloat : Binary64.ofText? s.toList with
        | some x =>
            refine ⟨fun h => ⟨fun hb => absurd hb hbool, by simp [hint], fun _ => ?_⟩,
              fun h => h.float hint x hfloat⟩
            simpa [hfloat] using h
        | none =>
            refine ⟨fun _ => ⟨fun hb => absurd hb hbool, by simp [hint], ?_⟩, fun _ => rfl⟩
            simp [hfloat]

/-! ### Long texts -/

/-- A character that integers and decimal fractions are spelled with. -/
def isNumeralChar (c : Char) : Bool := c.isDigit || ['+', '-', '.', 'e', 'E'].contains c

lemma isNumeralChar_of_isDigit {c : Char} (h : c.isDigit) : isNumeralChar c := by
  simp [isNumeralChar, h]

lemma toNat_lt_of_isNumeralChar {c : Char} (h : isNumeralChar c) : c.toNat < 128 := by
  simp only [isNumeralChar, Bool.or_eq_true, List.contains_iff_mem] at h
  rcases h with hdigit | hmem
  · simp only [Char.isDigit, Bool.and_eq_true, decide_eq_true_eq] at hdigit
    have h9 : c.toNat ≤ '9'.toNat := UInt32.le_iff_toNat_le.mp hdigit.2
    exact Nat.lt_of_le_of_lt h9 (by decide)
  · have hsigns : ['+', '-', '.', 'e', 'E'].all (·.toNat < 128) := by decide
    simpa using List.all_eq_true.mp hsigns c hmem

/-- The letters of ASCII are those that the lower case makes letters of ASCII. -/
lemma of_map_toLower {s t : List Char} (h : s.map Char.toLower = t)
    (ht : t.all (·.toNat < 128)) : (∀ c ∈ s, c.toNat < 128) ∧ s.length = t.length := by
  subst h
  refine ⟨fun c hc => ?_, by simp⟩
  have hlower := of_decide_eq_true (List.all_eq_true.mp ht _ (List.mem_map_of_mem hc))
  unfold Char.toLower at hlower
  split at hlower
  · next hupper =>
      have hZ : c.toNat ≤ 'Z'.toNat := UInt32.le_iff_toNat_le.mp hupper.2
      exact Nat.lt_of_le_of_lt hZ (by decide)
  · exact hlower

/-- A natural number is spelled with digits. -/
lemma isDigit_of_nat? {s : List Char} (h : Decimal.nat? s ≠ none) : ∀ c ∈ s, c.isDigit := by
  rw [Decimal.nat?] at h
  split at h
  · next hs => exact List.all_eq_true.mp hs.2
  · exact absurd rfl h

/-- An integer is spelled with characters of a numeral. -/
lemma isNumeralChar_of_int? {s : List Char} (h : Decimal.int? s ≠ none) :
    ∀ c ∈ s, isNumeralChar c := by
  have hdigits : ∀ {t : List Char}, Decimal.nat? t ≠ none → ∀ c ∈ t, isNumeralChar c :=
    fun ht c hc => isNumeralChar_of_isDigit (isDigit_of_nat? ht c hc)
  rw [Decimal.int?.eq_def] at h
  split at h
  · exact List.forall_mem_cons.mpr ⟨by decide, hdigits fun ht => h (by rw [ht]; rfl)⟩
  · exact List.forall_mem_cons.mpr ⟨by decide, hdigits fun ht => h (by rw [ht]; rfl)⟩
  · exact hdigits fun ht => h (by rw [ht]; rfl)

lemma isNumeralChar_of_exponent? {s : List Char} (h : Binary64.exponent? s ≠ none) :
    ∀ c ∈ s, isNumeralChar c := by
  rw [Binary64.exponent?.eq_def] at h
  split at h
  · simp
  · next c s =>
      split at h
      · next hc =>
          refine List.forall_mem_cons.mpr ⟨?_, isNumeralChar_of_int? h⟩
          simp only [Bool.or_eq_true, beq_iff_eq] at hc
          rcases hc with rfl | rfl <;> decide
      · exact absurd rfl h

/-- A decimal fraction is spelled with characters of a numeral. -/
lemma isNumeralChar_of_numeral? {negative : Bool} {s : List Char}
    (h : Binary64.numeral? negative s ≠ none) : ∀ c ∈ s, isNumeralChar c := by
  have hdigits : ∀ (t : List Char), ∀ c ∈ t.takeWhile Char.isDigit, isNumeralChar c :=
    fun t c hc => isNumeralChar_of_isDigit (List.mem_takeWhile_imp hc)
  rw [← List.takeWhile_append_dropWhile (p := Char.isDigit) (l := s)]
  refine List.forall_mem_append.mpr ⟨hdigits s, ?_⟩
  simp only [Binary64.numeral?] at h
  split at h
  · next rest heq =>
      rw [heq, ← List.takeWhile_append_dropWhile (p := Char.isDigit) (l := rest)]
      refine List.forall_mem_cons.mpr ⟨by decide, List.forall_mem_append.mpr ⟨hdigits rest, ?_⟩⟩
      exact isNumeralChar_of_exponent? fun hnone => h (by simp [hnone])
  · exact isNumeralChar_of_exponent? fun hnone => h (by simp [hnone])

/-- A sign is a character of a numeral, and what stands behind it stays. -/
lemma sign_cases (s : List Char) :
    s = (Binary64.sign s).2 ∨ ∃ c, isNumeralChar c ∧ s = c :: (Binary64.sign s).2 := by
  rw [Binary64.sign.eq_def]
  split
  · exact .inr ⟨'-', by decide, rfl⟩
  · exact .inr ⟨'+', by decide, rfl⟩
  · exact .inl rfl

/-- A double is spelled with characters of a numeral, or it has a name of at most nine letters. -/
lemma of_ofText? {s : List Char} {x : Binary64} (h : Binary64.ofText? s = some x) :
    (∀ c ∈ s, isNumeralChar c) ∨ (∀ c ∈ s, c.toNat < 128) ∧ s.length ≤ 9 := by
  have hname : ∀ t : List Char, t.all (·.toNat < 128) → t.length ≤ 8 →
      (Binary64.sign s).2.map Char.toLower = t → (∀ c ∈ s, c.toNat < 128) ∧ s.length ≤ 9 := by
    intro t hascii hlength hlower
    obtain ⟨hrest, hsame⟩ := of_map_toLower hlower hascii
    rcases sign_cases s with hs | ⟨c, hc, hs⟩
    · rw [hs]
      exact ⟨hrest, by omega⟩
    · rw [hs]
      refine ⟨List.forall_mem_cons.mpr ⟨toNat_lt_of_isNumeralChar hc, hrest⟩, ?_⟩
      rw [List.length_cons]
      omega
  have hword : ∀ word : String, String.ofList ((Binary64.sign s).2.map Char.toLower) = word →
      (Binary64.sign s).2.map Char.toLower = word.toList := by
    rintro word rfl
    rw [String.toList_ofList]
  simp only [Binary64.ofText?] at h
  split at h
  · next hinf =>
      rcases hinf with hinf | hinf
      · exact .inr (hname _ (by decide) (by decide) (hword _ hinf))
      · exact .inr (hname _ (by decide) (by decide) (hword _ hinf))
  split at h
  · next hnan => exact .inr (hname _ (by decide) (by decide) (hword _ hnan))
  · have hrest := isNumeralChar_of_numeral? (h ▸ Option.some_ne_none x)
    rcases sign_cases s with hs | ⟨c, hc, hs⟩
    · rw [hs]
      exact .inl hrest
    · rw [hs]
      exact .inl (List.forall_mem_cons.mpr ⟨hc, hrest⟩)

/-- Text of ASCII has one octet a character. -/
lemma length_ofText {s : String} (h : ∀ c ∈ s.toList, c.toNat < 128) :
    (Bytes.ofText s).length = s.toList.length := by
  have hoctets := Bytes.ofText_ofList_of_ascii h
  rw [String.ofList_toList] at hoctets
  rw [hoctets, List.length_map]

/-- An integer of 64 bits takes at most 20 characters. -/
lemma length_render_le (i : Int64) : (Decimal.render i.toInt).length ≤ 20 := by
  have hdigits : ∀ n, n < 10 ^ 19 → (Decimal.digits n).length ≤ 19 := fun n hn =>
    (Nat.length_toDigits_le_iff (by decide) (by decide)).mpr hn
  have hsize : i.toInt.natAbs < 10 ^ 19 := by
    have hlow := i.le_toInt
    have hhigh := i.toInt_lt
    omega
  cases hi : i.toInt with
  | ofNat n =>
      rw [hi] at hsize
      exact Nat.le_succ_of_le (hdigits n hsize)
  | negSucc n =>
      rw [hi] at hsize
      exact Nat.succ_le_succ (hdigits (n + 1) hsize)

section

variable {s : String} (hlong : 32 ≤ (Bytes.ofText s).length)

include hlong

/-- Words for truth values are short. -/
lemma lower_ne_of_long : ¬ (Ascii.lower s = "true" ∨ Ascii.lower s = "false") := by
  have hshort : ∀ word : String, word.toList.all (·.toNat < 128) → word.toList.length ≤ 5 →
      Ascii.lower s ≠ word := by
    rintro word hascii hlength rfl
    rw [Ascii.lower, String.toList_ofList] at hascii hlength
    obtain ⟨hs, hsame⟩ := of_map_toLower rfl hascii
    rw [length_ofText hs] at hlong
    omega
  exact not_or.mpr ⟨hshort "true" (by decide) (by decide), hshort "false" (by decide) (by decide)⟩

/-- **A text of 32 octets is heard as it is exactly if it spells no integer, and no double or one in
the way that is printed.** -/
theorem heard_eq_iff_of_long : heard s = s ↔ Decimal.int64? s.toList = none ∧
    ∀ x, Binary64.ofText? s.toList = some x → x.text = s := by
  have hint : IsPrinted s → Decimal.int64? s.toList = none := by
    intro h
    refine Option.eq_none_iff_forall_ne_some.mpr fun i hi => ?_
    have hs : s.toList = Decimal.render i.toInt := by
      rw [← h.int i hi, Decimal.text, String.toList_ofList]
    have hchars : ∀ c ∈ s.toList, c.toNat < 128 := fun c hc => toNat_lt_of_isNumeralChar
      (isNumeralChar_of_int? (by rw [hs, Decimal.int?_render]; simp) c hc)
    have hlength := length_render_le i
    rw [length_ofText hchars, hs] at hlong
    omega
  rw [heard_eq_iff]
  constructor
  · exact fun h => ⟨hint h, h.float (hint h)⟩
  · rintro ⟨hnone, hfloat⟩
    exact ⟨fun hb => absurd hb (lower_ne_of_long hlong), by simp [hnone], fun _ => hfloat⟩

/-- A text of 32 octets is heard as it is if a character is none of a numeral. -/
theorem heard_of_long {c : Char} (hc : c ∈ s.toList) (hnumeral : ¬ isNumeralChar c) :
    heard s = s := by
  refine (heard_eq_iff_of_long hlong).mpr ⟨?_, fun x hx => ?_⟩
  · rw [Decimal.int64?]
    cases hint : Decimal.int? s.toList with
    | none => rfl
    | some i => exact absurd (isNumeralChar_of_int? (by simp [hint]) c hc) hnumeral
  · rcases of_ofText? hx with hchars | ⟨hascii, hlength⟩
    · exact absurd (hchars c hc) hnumeral
    · rw [length_ofText hascii] at hlong
      omega

end

/-- Thirty-two digits are too many for an integer, and are heard as the nearest double. -/
example : heard "12345678901234567890123456789012" = "12345678901234567000000000000000" := by
  decide +kernel

end AccountAccess.Settings
