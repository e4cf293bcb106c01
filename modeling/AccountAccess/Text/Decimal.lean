/-!
Integers of 64 bits, and decimal integers in text.

* `saturate` takes an integer to the nearest one of 64 bits; `saturate_toInt` and
  `toInt_saturate`: one that fits stays what it is. `wrap` keeps an integer modulo 2⁶⁴.
* `Decimal.render` writes an integer in the shortest form: no plus sign, no leading zero.
* `Decimal.int?` reads an optional sign and at least one digit; leading zeros and a plus sign are
  allowed, so it accepts more than `render` writes. `int?_render`: what was written is read back.
* `Decimal.nat?` is the same without a sign.
* `Decimal.int64?` accepts an integer of 64 bits; `int64?_render`.
-/

namespace AccountAccess

/-! ### Signed 64-bit integers -/

/-- The least signed 64-bit integer. -/
def int64Least : Int := -9223372036854775808

/-- The greatest signed 64-bit integer. -/
def int64Greatest : Int := 9223372036854775807

/-- The nearest signed 64-bit integer. -/
def saturate (i : Int) : Int64 := Int64.ofInt (max int64Least (min int64Greatest i))

/-- The signed 64-bit integer that agrees modulo 2⁶⁴. -/
def wrap (i : Int) : Int64 := Int64.ofInt i

theorem toInt_saturate (i : Int) :
    (saturate i).toInt = max int64Least (min int64Greatest i) := by
  rw [saturate, Int64.toInt_ofInt_of_le] <;> simp only [int64Least, int64Greatest] <;> omega

/-- An integer that fits stays what it is. -/
theorem toInt_saturate_of_fits {i : Int} (lo : int64Least ≤ i) (hi : i ≤ int64Greatest) :
    (saturate i).toInt = i := by
  rw [toInt_saturate]; omega

@[simp] theorem saturate_toInt (x : Int64) : saturate x.toInt = x := by
  have lo := x.le_toInt
  have hi := x.toInt_lt
  rw [← Int64.toInt_inj, toInt_saturate_of_fits] <;> simp only [int64Least, int64Greatest] <;> omega

end AccountAccess

namespace AccountAccess.Decimal

/-! ### Numerals -/

/-- The decimal digits of a natural number, without leading zeros. -/
def digits (n : Nat) : List Char := Nat.toDigits 10 n

/-- An integer in its shortest decimal form. -/
def render : Int → List Char
  | .ofNat n => digits n
  | .negSucc n => '-' :: digits (n + 1)

/-- An integer in its shortest decimal form, as a text. -/
def text (i : Int) : String := String.ofList (render i)

/-- One or more decimal digits. -/
def nat? (s : List Char) : Option Nat :=
  if s ≠ [] ∧ s.all Char.isDigit then some (Nat.ofDigitChars 10 s 0) else none

/-- An optional sign before one or more decimal digits. -/
def int? : List Char → Option Int
  | '-' :: s => (nat? s).map fun n => -(n : Int)
  | '+' :: s => (nat? s).map fun n => (n : Int)
  | s => (nat? s).map fun n => (n : Int)

theorem all_isDigit_digits (n : Nat) : (digits n).all Char.isDigit = true := by
  rw [List.all_eq_true]
  intro c hc
  exact Nat.isDigit_of_mem_toDigits (by decide) (Nat.le_refl 10) hc

theorem digits_ne_nil (n : Nat) : digits n ≠ [] := Nat.toDigits_ne_nil

@[simp] theorem nat?_digits (n : Nat) : nat? (digits n) = some n := by
  rw [nat?, if_pos ⟨digits_ne_nil n, all_isDigit_digits n⟩, digits,
    Nat.ofDigitChars_ten_toDigits]

/-- Only zero is written with a zero in front. -/
theorem digits_eq_cons (n : Nat) : ∃ c cs, digits n = c :: cs ∧ (c = '0' → cs = []) := by
  induction n using Nat.strongRecOn with
  | ind n ih =>
    by_cases h : n < 10
    · exact ⟨_, [], Nat.toDigits_of_lt_base h, fun _ => rfl⟩
    · obtain ⟨c, cs, hcs, hzero⟩ := ih (n / 10) (by omega)
      refine ⟨c, cs ++ [(n % 10).digitChar], ?_, ?_⟩
      · rw [digits, Nat.toDigits_of_base_le (by decide) (by omega), ← digits, hcs]
        rfl
      · intro hc
        have hvalue := Nat.ofDigitChars_ten_toDigits (n := n / 10)
        rw [← digits, hcs, hzero hc, hc] at hvalue
        have : n / 10 = 0 := hvalue.symm
        omega

/-- A digit is no sign, so a text of digits is read as a natural number. -/
theorem int?_of_isDigit {c : Char} {s : List Char} (h : c.isDigit = true) :
    int? (c :: s) = (nat? (c :: s)).map fun n => (n : Int) := by
  rw [int?]
  · rintro t ⟨⟩; simp [Char.isDigit] at h
  · rintro t ⟨⟩; simp [Char.isDigit] at h

/-- What was written is read back. -/
@[simp] theorem int?_render (i : Int) : int? (render i) = some i := by
  cases i with
  | ofNat n =>
    rw [render]
    cases hd : digits n with
    | nil => exact absurd hd (digits_ne_nil n)
    | cons c s =>
      have hall := all_isDigit_digits n
      rw [hd, List.all_cons, Bool.and_eq_true] at hall
      rw [int?_of_isDigit hall.1, ← hd, nat?_digits]
      rfl
  | negSucc n =>
    simp only [render, int?, nat?_digits]
    rfl

/-! ### Sixty-four bits -/

/-- A signed 64-bit integer in decimal; a plus sign and leading zeros are allowed. -/
def int64? (s : List Char) : Option Int64 := do
  let i ← int? s
  if int64Least ≤ i ∧ i ≤ int64Greatest then return Int64.ofInt i else none

/-- What was written is read back. -/
@[simp] theorem int64?_render (x : Int64) : int64? (render x.toInt) = some x := by
  have lo := x.le_toInt
  have hi := x.toInt_lt
  rw [int64?, int?_render]
  simp only [Option.bind_eq_bind, Option.bind_some]
  rw [if_pos (by simp only [int64Least, int64Greatest]; omega), Int64.ofInt_toInt]
  rfl

end AccountAccess.Decimal
