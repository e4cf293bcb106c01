/-!
Text of any script in letters, digits and hyphens: the ASCII characters stand as they are, and the
others follow as numbers that say which character comes next and where.

* `number` writes a number with digits to the base 36, least significant first; which digit ends it
  depends on its place and on a bias that follows the numbers before.
* `encode` writes a text.
-/

namespace AccountAccess.Punycode

/-- A digit: the letters, and then the digits of the decimal numbers. -/
def digit (d : Nat) : Char := Char.ofNat (if d < 26 then 97 + d else 22 + d)

/-- The digit at a place ends a number if it is less than this. Places count in steps of 36. -/
def threshold (bias place : Nat) : Nat := max 1 (min 26 (place - bias))

/-- The digits of a number from a place on. -/
def number (bias place q : Nat) : List Char :=
  let t := threshold bias place
  if q < t then [digit q]
  else digit (t + (q - t) % (36 - t)) :: number bias (place + 36) ((q - t) / (36 - t))
termination_by q
decreasing_by
  have : 1 ≤ threshold bias place := Nat.le_max_left _ _
  have : (q - threshold bias place) / (36 - threshold bias place) ≤ q - threshold bias place :=
    Nat.div_le_self _ _
  omega

/-- How often a number can be divided by 35 before it is at most 455, times 36, and what is left. -/
def shrink (delta places : Nat) : Nat × Nat :=
  if 455 < delta then shrink (delta / 35) (places + 36) else (delta, places)
termination_by delta

/-- The bias behind a number, when so many characters are placed. -/
def adapt (delta count : Nat) (first : Bool) : Nat :=
  let delta := if first then delta / 700 else delta / 2
  let (delta, places) := shrink (delta + delta / count) 0
  places + 36 * delta / (delta + 38)

/-- What is known while the numbers are written. -/
structure Writing where
  digits : List Char := []
  /-- Steps since the character placed last. -/
  delta : Nat := 0
  bias : Nat := 72
  /-- Characters placed. -/
  count : Nat
  /-- No number was written. -/
  first : Bool := true

/-- Goes over a character of the text while the character `m` is placed. -/
def Writing.step (m : Char) (w : Writing) (c : Char) : Writing :=
  if c < m then { w with delta := w.delta + 1 }
  else if c = m then
    { digits := w.digits ++ number w.bias 36 w.delta
      delta := 0
      bias := adapt w.delta (w.count + 1) w.first
      count := w.count + 1
      first := false }
  else w

/-- Places characters in ascending order, from the code point `n` on. -/
def Writing.place (s : List Char) (n : Nat) (w : Writing) : List Char → Writing
  | [] => w
  | m :: ms =>
    let w := { w with delta := w.delta + (m.toNat - n) * (w.count + 1) }
    let w := s.foldl (Writing.step m) w
    Writing.place s (m.toNat + 1) { w with delta := w.delta + 1 } ms

/-- Writes a text. -/
def encode (s : List Char) : List Char :=
  let plain := s.filter (·.toNat < 0x80)
  let others := (s.filter (0x80 ≤ ·.toNat)).eraseDups.mergeSort (· ≤ ·)
  let w := Writing.place s 0x80 { count := plain.length } others
  (if plain = [] then [] else plain ++ ['-']) ++ w.digits

/-- A text in ASCII gains a hyphen. -/
theorem encode_of_ascii {s : List Char} (h : ∀ c ∈ s, c.toNat < 0x80) (hs : s ≠ []) :
    encode s = s ++ ['-'] := by
  have plain : s.filter (fun c => decide (c.toNat < 0x80)) = s := by
    rw [List.filter_eq_self]
    exact fun c hc => by simpa using h c hc
  have others : s.filter (fun c => decide (0x80 ≤ c.toNat)) = [] := by
    rw [List.filter_eq_nil_iff]
    exact fun c hc => by simpa using h c hc
  simp [encode, plain, others, Writing.place, hs]

end AccountAccess.Punycode
