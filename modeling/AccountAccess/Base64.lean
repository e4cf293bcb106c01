import AccountAccess.Bytes

/-!
Base64 without padding, over two alphabets: the URL-safe one of web tokens and the standard one
of password hashes and mail.

* `Base64.encode` writes three octets as four symbols and a shorter rest as two or three.
* `Base64.decode?` accepts exactly the canonical texts: no padding, and zero in the bits of the
  last symbol that no octet uses (`decode?_eq_some_iff`). So every octet sequence has one written
  form (`decode?_encode`).
* `Base64.encodePadded` fills the last group with `=`, as mail bodies and headers want it.
-/

namespace AccountAccess.Base64

/-- The two symbol sets: they differ in the last two symbols. -/
inductive Alphabet where
  | standard
  | urlSafe
  deriving DecidableEq, Repr

/-- The symbol of a six-bit value. -/
def Alphabet.symbol (a : Alphabet) (n : Nat) : Char :=
  if n < 26 then Char.ofNat (n + 65)
  else if n < 52 then Char.ofNat (n + 71)
  else if n < 62 then Char.ofNat (n - 4)
  else match a, n with
    | .standard, 62 => '+'
    | .standard, _ => '/'
    | .urlSafe, 62 => '-'
    | .urlSafe, _ => '_'

/-- The six-bit value of a symbol. -/
def Alphabet.value? (a : Alphabet) (c : Char) : Option Nat :=
  if 65 ≤ c.toNat ∧ c.toNat ≤ 90 then some (c.toNat - 65)
  else if 97 ≤ c.toNat ∧ c.toNat ≤ 122 then some (c.toNat - 71)
  else if 48 ≤ c.toNat ∧ c.toNat ≤ 57 then some (c.toNat + 4)
  else match a with
    | .standard => if c = '+' then some 62 else if c = '/' then some 63 else none
    | .urlSafe => if c = '-' then some 62 else if c = '_' then some 63 else none

/-! ### Symbols -/

theorem Alphabet.value?_symbol (a : Alphabet) {n : Nat} (h : n < 64) :
    a.value? (a.symbol n) = some n := by
  have key : ∀ m : Fin 64, a.value? (a.symbol m) = some m.val := by cases a <;> decide
  exact key ⟨n, h⟩

theorem Alphabet.value?_lt {a : Alphabet} {c : Char} {n : Nat} (h : a.value? c = some n) :
    n < 64 := by
  unfold Alphabet.value? at h
  cases a <;> grind

theorem Alphabet.symbol_of_value? {a : Alphabet} {c : Char} {n : Nat} (h : a.value? c = some n) :
    a.symbol n = c := by
  unfold Alphabet.value? at h
  have hc := Char.ofNat_toNat c
  unfold Alphabet.symbol
  cases a <;> grind

/-! ### Writing -/

/-- Three octets are four symbols; one or two octets left over are two or three. -/
def encode (a : Alphabet) : Bytes → List Char
  | [] => []
  | [x] =>
    [a.symbol (x.toNat / 4), a.symbol (x.toNat % 4 * 16)]
  | [x, y] =>
    [a.symbol (x.toNat / 4), a.symbol (x.toNat % 4 * 16 + y.toNat / 16),
      a.symbol (y.toNat % 16 * 4)]
  | x :: y :: z :: rest =>
    a.symbol (x.toNat / 4) :: a.symbol (x.toNat % 4 * 16 + y.toNat / 16) ::
      a.symbol (y.toNat % 16 * 4 + z.toNat / 64) :: a.symbol (z.toNat % 64) :: encode a rest

/-- Fills the last group of four with `=`. -/
def encodePadded (a : Alphabet) (b : Bytes) : List Char :=
  encode a b ++ List.replicate ((3 - b.length % 3) % 3) '='

/-- The URL-safe form, as a text. -/
def urlText (b : Bytes) : String := String.ofList (encode .urlSafe b)

/-! ### What is written -/

/-- What holds of every symbol holds of every character of a text. -/
theorem forall_mem_encode (a : Alphabet) {p : Char → Prop} (h : ∀ n < 64, p (a.symbol n))
    (b : Bytes) : ∀ c ∈ encode a b, p c := by
  fun_induction encode a b with
  | case1 => simp
  | case2 x =>
    have hx := x.toNat_lt
    simp only [List.forall_mem_cons]
    exact ⟨h _ (by omega), h _ (by omega), by simp⟩
  | case3 x y =>
    have hx := x.toNat_lt
    have hy := y.toNat_lt
    simp only [List.forall_mem_cons]
    exact ⟨h _ (by omega), h _ (by omega), h _ (by omega), by simp⟩
  | case4 x y z rest ih =>
    have hx := x.toNat_lt
    have hy := y.toNat_lt
    have hz := z.toNat_lt
    simp only [List.forall_mem_cons]
    exact ⟨h _ (by omega), h _ (by omega), h _ (by omega), h _ (by omega), ih⟩

/-- Four symbols are written for three octets, and one more than octets for a rest. -/
theorem length_encode (a : Alphabet) (b : Bytes) :
    (encode a b).length = (4 * b.length + 2) / 3 := by
  fun_induction encode a b with
  | case1 => rfl
  | case2 x => simp
  | case3 x y => simp
  | case4 x y z rest ih =>
    simp only [List.length_cons, ih]
    omega

/-! ### Reading -/

/-- Four symbols are three octets; a rest of two or three symbols is one or two octets, and the
bits of its last symbol that no octet uses must be zero. -/
def decode? (a : Alphabet) : List Char → Option Bytes
  | [] => some []
  | [_] => none
  | [p, q] => do
    let u ← a.value? p
    let v ← a.value? q
    if v % 16 = 0 then return [(u * 4 + v / 16).toUInt8] else none
  | [p, q, r] => do
    let u ← a.value? p
    let v ← a.value? q
    let w ← a.value? r
    if w % 4 = 0 then
      return [(u * 4 + v / 16).toUInt8, (v % 16 * 16 + w / 4).toUInt8]
    else none
  | p :: q :: r :: s :: rest => do
    let u ← a.value? p
    let v ← a.value? q
    let w ← a.value? r
    let t ← a.value? s
    let tail ← decode? a rest
    return (u * 4 + v / 16).toUInt8 :: (v % 16 * 16 + w / 4).toUInt8 ::
      (w % 4 * 64 + t).toUInt8 :: tail

/-- The octets of a text in the URL-safe form. -/
def ofUrlText? (s : String) : Option Bytes := decode? .urlSafe s.toList

/-! ### One written form -/

/-- What was written is read back. -/
@[simp] theorem decode?_encode (a : Alphabet) (b : Bytes) : decode? a (encode a b) = some b := by
  fun_induction encode a b with
  | case1 => rfl
  | case2 x =>
    have hx := x.toNat_lt
    simp [decode?, Alphabet.value?_symbol, show x.toNat / 4 < 64 by omega,
      show x.toNat % 4 * 16 < 64 by omega]
    rw [← UInt8.toNat_inj]
    simp
    omega
  | case3 x y =>
    have hx := x.toNat_lt
    have hy := y.toNat_lt
    simp [decode?, Alphabet.value?_symbol, show x.toNat / 4 < 64 by omega,
      show x.toNat % 4 * 16 + y.toNat / 16 < 64 by omega,
      show y.toNat % 16 * 4 < 64 by omega]
    constructor <;> rw [← UInt8.toNat_inj] <;> simp <;> omega
  | case4 x y z rest ih =>
    have hx := x.toNat_lt
    have hy := y.toNat_lt
    have hz := z.toNat_lt
    simp [decode?, Alphabet.value?_symbol, show x.toNat / 4 < 64 by omega,
      show x.toNat % 4 * 16 + y.toNat / 16 < 64 by omega,
      show y.toNat % 16 * 4 + z.toNat / 64 < 64 by omega,
      show z.toNat % 64 < 64 by omega, ih]
    refine ⟨?_, ?_, ?_⟩ <;> rw [← UInt8.toNat_inj] <;> simp <;> omega

/-- Only what is written is read: the reader accepts no second form. -/
theorem eq_encode_of_decode? {a : Alphabet} {s : List Char} {b : Bytes}
    (h : decode? a s = some b) : s = encode a b := by
  fun_induction decode? a s generalizing b with
  | case1 => simp at h; subst h; rfl
  | case2 => simp at h
  | case3 p q =>
    simp only [Option.bind_eq_bind, Option.bind_eq_some_iff, Option.ite_none_right_eq_some] at h
    obtain ⟨u, hu, v, hv, hz, hb⟩ := h
    have hu' := Alphabet.value?_lt hu
    have hv' := Alphabet.value?_lt hv
    obtain rfl := Option.some.inj hb
    simp [encode, ← Alphabet.symbol_of_value? hu, ← Alphabet.symbol_of_value? hv]
    constructor <;> congr 1 <;> omega
  | case4 p q r =>
    simp only [Option.bind_eq_bind, Option.bind_eq_some_iff, Option.ite_none_right_eq_some] at h
    obtain ⟨u, hu, v, hv, w, hw, hz, hb⟩ := h
    have hu' := Alphabet.value?_lt hu
    have hv' := Alphabet.value?_lt hv
    have hw' := Alphabet.value?_lt hw
    obtain rfl := Option.some.inj hb
    simp [encode, ← Alphabet.symbol_of_value? hu, ← Alphabet.symbol_of_value? hv,
      ← Alphabet.symbol_of_value? hw]
    refine ⟨?_, ?_, ?_⟩ <;> congr 1 <;> omega
  | case5 p q r s rest ih =>
    simp only [Option.bind_eq_bind, Option.bind_eq_some_iff] at h
    obtain ⟨u, hu, v, hv, w, hw, t, ht, tail, htail, hb⟩ := h
    have hu' := Alphabet.value?_lt hu
    have hv' := Alphabet.value?_lt hv
    have hw' := Alphabet.value?_lt hw
    have ht' := Alphabet.value?_lt ht
    obtain rfl := Option.some.inj hb
    simp [encode, ← Alphabet.symbol_of_value? hu, ← Alphabet.symbol_of_value? hv,
      ← Alphabet.symbol_of_value? hw, ← Alphabet.symbol_of_value? ht, ih htail]
    refine ⟨?_, ?_, ?_, ?_⟩ <;> congr 1 <;> omega

theorem decode?_eq_some_iff {a : Alphabet} {s : List Char} {b : Bytes} :
    decode? a s = some b ↔ s = encode a b :=
  ⟨eq_encode_of_decode?, fun h => h ▸ decode?_encode a b⟩

end AccountAccess.Base64
