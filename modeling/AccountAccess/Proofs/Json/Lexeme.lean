import AccountAccess.Json.Decode
import AccountAccess.Json.Value
import Mathlib.Data.List.TakeWhile
import Mathlib.Tactic.Common

/-!
The lexemes that are written, and what is read from them.

* **Texts.** `Escaped` lists the three forms in which an octet is written (`escaped_escapeOctet`).
  From it, `unescape?_escape`: an escaped octet sequence spells itself, and `isString_escape`: it is
  the lexeme of a string. Hence `Value.string?_ofText`.
* **Integers.** `isNumber_render`: the decimal form of an integer is the lexeme of a number, and
  `Value.int?_ofInt` reads the integer back.
-/

namespace AccountAccess

namespace Json

/-! ### Strings -/

/-- The forms in which an octet is written: as itself, behind a backslash, or as a UTF-16 unit of
four hexadecimal digits. -/
inductive Escaped (b : UInt8) : Bytes → Prop where
  | plain (hlo : 0x20 ≤ b) (hquote : b ≠ 0x22) (hslash : b ≠ 0x5C) : Escaped b [b]
  | short (e : UInt8) (he : isSimpleEscape e = true) (hb : simpleEscape? e = some b) :
      Escaped b [0x5C, e]
  | unit (h l : UInt8) (hcontrol : b.toNat < 0x20) (hh : isHexDigit h = true)
      (hl : isHexDigit l = true) (hu : hexUnit? 0x30 0x30 h l = some b.toNat) :
      Escaped b [0x5C, 0x75, 0x30, 0x30, h, l]

/-- The last two digits of a control character, and what the four digits stand for. -/
lemma hexUnit?_control : ∀ n < 0x20,
    isHexDigit (Bytes.hexDigit (n / 16)).toUInt8 = true ∧
      isHexDigit (Bytes.hexDigit (n % 16)).toUInt8 = true ∧
      hexUnit? 0x30 0x30 (Bytes.hexDigit (n / 16)).toUInt8 (Bytes.hexDigit (n % 16)).toUInt8 =
        some n := by
  decide

/-- Every octet is written in one of the three forms. -/
lemma escaped_escapeOctet (b : UInt8) : Escaped b (escapeOctet b) := by
  unfold escapeOctet
  split_ifs with hquote hslash h08 h09 h0A h0C h0D hcontrol
  · exact .short _ rfl (by rw [eq_of_beq hquote]; rfl)
  · exact .short _ rfl (by rw [eq_of_beq hslash]; rfl)
  · exact .short _ rfl (by rw [eq_of_beq h08]; rfl)
  · exact .short _ rfl (by rw [eq_of_beq h09]; rfl)
  · exact .short _ rfl (by rw [eq_of_beq h0A]; rfl)
  · exact .short _ rfl (by rw [eq_of_beq h0C]; rfl)
  · exact .short _ rfl (by rw [eq_of_beq h0D]; rfl)
  · have hlt : b.toNat < 0x20 := UInt8.lt_iff_toNat_lt.mp hcontrol
    obtain ⟨hh, hl, hu⟩ := hexUnit?_control b.toNat hlt
    exact .unit _ _ hlt hh hl hu
  · exact .plain (UInt8.not_lt.mp hcontrol) (by simpa using hquote) (by simpa using hslash)

/-- A short escape is no UTF-16 unit. -/
lemma ne_of_isSimpleEscape {e : UInt8} (he : isSimpleEscape e = true) : e ≠ 0x75 := by
  rintro rfl
  exact absurd he (by decide)

/-- The pieces of an escaped octet sequence join to the octets. -/
lemma pieces?_escape (b : Bytes) :
    ∃ ps, pieces? (escape b) = some ps ∧ joinPieces? none ps = some b := by
  induction b with
  | nil => exact ⟨[], rfl, rfl⟩
  | cons x b ih =>
      obtain ⟨ps, hps, hjoin⟩ := ih
      have hcons : escape (x :: b) = escapeOctet x ++ escape b := rfl
      rw [hcons]
      generalize escapeOctet x = w, escaped_escapeOctet x = hw
      cases hw with
      | plain hlo hquote hslash =>
          refine ⟨.octet x :: ps, ?_, by rw [joinPieces?, hjoin]; rfl⟩
          rw [List.singleton_append, pieces?, hps]
          · rfl
          · rintro _ _ _ _ _ rfl; exact fun _ => hslash rfl
          · rintro _ _ rfl; exact fun _ => hslash rfl
      | short e he hb =>
          refine ⟨.octet x :: ps, ?_, by rw [joinPieces?, hjoin]; rfl⟩
          rw [List.cons_append, List.singleton_append, pieces?, hb, hps]
          · rfl
          · rintro _ _ _ _ _ rfl; exact fun _ => ne_of_isSimpleEscape he rfl
      | unit h l hcontrol hh hl hu =>
          have hx : String.utf8EncodeChar (Char.ofNat x.toNat) = [x] := by
            have key : ∀ n < 0x20, String.utf8EncodeChar (Char.ofNat n) = [UInt8.ofNat n] := by
              decide
            rw [key _ hcontrol, UInt8.ofNat_toNat]
          have hhigh : isHighSurrogate x.toNat = false := by
            simp only [isHighSurrogate, Bool.and_eq_false_iff, decide_eq_false_iff_not]; omega
          have hlow : isLowSurrogate x.toNat = false := by
            simp only [isLowSurrogate, Bool.and_eq_false_iff, decide_eq_false_iff_not]; omega
          refine ⟨.unit x.toNat :: ps, ?_, ?_⟩
          · simp only [List.cons_append, List.nil_append]
            rw [pieces?, hu, hps]
            rfl
          · rw [joinPieces?, if_neg (by simp [hhigh]), if_neg (by simp [hlow]), hjoin, hx]
            rfl

/-- An escaped octet sequence spells the octets. -/
theorem unescape?_escape (b : Bytes) : unescape? (escape b) = some b := by
  obtain ⟨ps, hps, hjoin⟩ := pieces?_escape b
  rw [unescape?, hps]
  exact hjoin

/-- An escaped text spells the text. -/
@[simp] theorem lexemeText?_escape (s : String) :
    lexemeText? (escape (Bytes.ofText s)) = some s := by
  rw [lexemeText?, unescape?_escape]
  exact Bytes.text?_ofText s

/-- The octet of a backslash. -/
lemma slash_beq : ((0x5C : UInt8) == octet '\\') = true := rfl

/-- An octet that may stand in a string does not end the check of its lexeme. -/
lemma isString_cons {b : UInt8} (hlo : 0x20 ≤ b) (hslash : b ≠ 0x5C) (w : Bytes) :
    isString (b :: w) = isString w := by
  have hne : (b == octet '\\') = false := beq_false_of_ne hslash
  cases w with
  | nil => simp [isString, hlo, bne, hne]
  | cons e w =>
      rw [isString.eq_def]
      simp only [hne, hlo, decide_true, Bool.true_and, Bool.false_eq_true, if_false]

/-- An escaped octet sequence is the lexeme of a string. -/
theorem isString_escape (b : Bytes) : isString (escape b) = true := by
  induction b with
  | nil => rfl
  | cons x b ih =>
      have hcons : escape (x :: b) = escapeOctet x ++ escape b := rfl
      rw [hcons]
      generalize escapeOctet x = w, escaped_escapeOctet x = hw
      cases hw with
      | plain hlo hquote hslash =>
          rw [List.singleton_append, isString_cons hlo hslash, ih]
      | short e he hb =>
          have hne : (e == octet 'u') = false := beq_false_of_ne (ne_of_isSimpleEscape he)
          rw [List.cons_append, List.singleton_append, isString.eq_def]
          simp [slash_beq, hne, he, ih]
      | unit h l hcontrol hh hl hu =>
          have hzero : isHexDigit 0x30 = true := by decide
          have hu : ((0x75 : UInt8) == octet 'u') = true := rfl
          simp only [List.cons_append, List.nil_append]
          rw [isString.eq_3]
          simp only [slash_beq, hu, hzero, hh, hl, ih, if_true, Bool.and_self]

/-! ### Texts -/

/-- The text that was written as a string is read back. -/
@[simp] theorem Value.string?_ofText (s : String) : (Value.ofText s).string? = some s :=
  lexemeText?_escape s

/-! ### Integers -/

/-- The octets of the digits of a natural number. -/
def digitOctets (n : Nat) : Bytes := (Decimal.digits n).map Char.toUInt8

/-- The octet of a decimal digit is a digit. -/
lemma isDigit_toUInt8 {c : Char} (h : c.isDigit = true) :
    isDigit c.toUInt8 = true ∧ c.toUInt8.toNat = c.toNat := by
  have hv : 48 ≤ c.toNat ∧ c.toNat ≤ 57 := by
    simp only [Char.isDigit, Bool.and_eq_true, decide_eq_true_eq] at h
    exact ⟨UInt32.le_iff_toNat_le.mp h.1, UInt32.le_iff_toNat_le.mp h.2⟩
  have hn : c.toUInt8.toNat = c.toNat := by
    show c.val.toUInt8.toNat = c.val.toNat
    rw [UInt32.toNat_toUInt8]
    have : c.toNat = c.val.toNat := rfl
    omega
  refine ⟨?_, hn⟩
  simp only [isDigit, Bool.and_eq_true, decide_eq_true_eq, UInt8.le_iff_toNat_le, hn]
  exact hv

lemma all_isDigit_digitOctets (n : Nat) : (digitOctets n).all isDigit = true := by
  rw [digitOctets, List.all_map, List.all_eq_true]
  intro c hc
  exact (isDigit_toUInt8 (List.all_eq_true.mp (Decimal.all_isDigit_digits n) c hc)).1

lemma digitOctets_ne_nil (n : Nat) : digitOctets n ≠ [] := by
  simpa [digitOctets] using Decimal.digits_ne_nil n

/-- The digits of a number stand for the number. -/
lemma digitsValue_digitOctets (n : Nat) : digitsValue (digitOctets n) = n := by
  have key : ∀ (cs : List Char) (k : Nat), cs.all Char.isDigit = true →
      (cs.map Char.toUInt8).foldl (fun n b => 10 * n + (b.toNat - 0x30)) k =
        Nat.ofDigitChars 10 cs k := by
    intro cs
    induction cs with
    | nil => intro k _; rfl
    | cons c cs ih =>
        intro k h
        rw [List.all_cons, Bool.and_eq_true] at h
        rw [List.map_cons, List.foldl_cons, Nat.ofDigitChars_cons, (isDigit_toUInt8 h.1).2]
        exact ih _ h.2
  rw [digitsValue, digitOctets, key _ 0 (Decimal.all_isDigit_digits n), Decimal.digits,
    Nat.ofDigitChars_ten_toDigits]

/-- A decimal digit is an ASCII character. -/
lemma lt_of_mem_digits {n : Nat} {c : Char} (hc : c ∈ Decimal.digits n) : c.toNat < 128 := by
  have hd := List.all_eq_true.mp (Decimal.all_isDigit_digits n) c hc
  simp only [Char.isDigit, Bool.and_eq_true, decide_eq_true_eq] at hd
  exact Nat.lt_of_le_of_lt (UInt32.le_iff_toNat_le.mp hd.2) (by decide)

/-- The octets of an integer that is not negative are its digits. -/
lemma ofText_text_ofNat (n : Nat) :
    Bytes.ofText (Decimal.text (.ofNat n)) = digitOctets n :=
  Bytes.ofText_ofList_of_ascii fun _ hc => lt_of_mem_digits hc

/-- The octets of a negative integer are a minus sign and digits. -/
lemma ofText_text_negSucc (n : Nat) :
    Bytes.ofText (Decimal.text (.negSucc n)) = 0x2D :: digitOctets (n + 1) := by
  show Bytes.ofText (String.ofList ('-' :: Decimal.digits (n + 1))) = _
  refine Bytes.ofText_ofList_of_ascii fun c hc => ?_
  rcases List.mem_cons.mp hc with rfl | hc
  · decide
  · exact lt_of_mem_digits hc

/-- Digits without a leading zero are a number without sign, fraction and exponent. -/
lemma isUnsigned_digitOctets (n : Nat) : isUnsigned (digitOctets n) = true := by
  obtain ⟨c, cs, hcs, hzero⟩ := Decimal.digits_eq_cons n
  have hall := all_isDigit_digitOctets n
  rw [digitOctets, hcs, List.map_cons] at hall ⊢
  rw [List.all_cons, Bool.and_eq_true] at hall
  rw [isUnsigned]
  split_ifs with h0
  · have hc : c = '0' := by
      have hd : c.isDigit = true :=
        List.all_eq_true.mp (Decimal.all_isDigit_digits n) c (by simp [hcs])
      have h1 := (isDigit_toUInt8 hd).2
      rw [eq_of_beq h0] at h1
      exact Char.toNat_inj.mp h1.symm
    rw [hzero hc]
    rfl
  · rw [hall.1, Bool.true_and, List.dropWhile_eq_nil_iff.2
      fun b hb => List.all_eq_true.mp hall.2 b hb]
    rfl

/-- The octets of an integer are the lexeme of a number. -/
theorem isNumber_ofText_text (i : Int) : isNumber (Bytes.ofText (Decimal.text i)) = true := by
  cases i with
  | ofNat n =>
      rw [ofText_text_ofNat]
      have h := isUnsigned_digitOctets n
      have hne := digitOctets_ne_nil n
      have hall := all_isDigit_digitOctets n
      cases hd : digitOctets n with
      | nil => exact absurd hd hne
      | cons b ds =>
          rw [hd] at h hall
          rw [List.all_cons, Bool.and_eq_true] at hall
          have hminus : (b == octet '-') = false := by
            refine beq_false_of_ne ?_
            rintro rfl
            exact absurd hall.1 (by decide)
          simp only [isNumber, hminus, Bool.false_eq_true, if_false]
          exact h
  | negSucc n =>
      rw [ofText_text_negSucc]
      exact isUnsigned_digitOctets (n + 1)

/-- The integer that was written is read back. -/
@[simp] theorem Value.int?_ofInt (i : Int) : (Value.ofInt i).int? = some i := by
  cases i with
  | ofNat n =>
      rw [ofInt, ofText_text_ofNat]
      have hall := all_isDigit_digitOctets n
      have hv := digitsValue_digitOctets n
      cases hd : digitOctets n with
      | nil => exact absurd hd (digitOctets_ne_nil n)
      | cons b ds =>
          rw [hd] at hall hv
          have hminus : (b == 0x2D) = false := by
            refine beq_false_of_ne ?_
            rintro rfl
            exact absurd hall (by simp [isDigit])
          simp only [int?, hminus, Bool.false_eq_true, if_false, hall, if_true, hv]
          rfl
  | negSucc n =>
      rw [ofInt, ofText_text_negSucc]
      simp only [int?, beq_self_eq_true, if_true, all_isDigit_digitOctets, Bool.true_and,
        digitsValue_digitOctets, bne_iff_ne, ne_eq, Nat.add_eq_zero_iff, Nat.one_ne_zero,
        and_false, not_false_eq_true]
      rfl

/-- The 64-bit integer that was written is read back. -/
@[simp] theorem Value.int64?_ofInt (x : Int64) : (Value.ofInt x.toInt).int64? = some x := by
  have lo := x.le_toInt
  have hi := x.toInt_lt
  rw [int64?, intBetween?, int?_ofInt]
  simp only [Option.bind_eq_bind, Option.bind_some]
  rw [if_pos (by simp only [int64Least, int64Greatest]; omega)]
  simp

end Json
end AccountAccess
