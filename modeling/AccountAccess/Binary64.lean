import AccountAccess.Text.Decimal

/-!
Double-precision numbers, exactly: a sign and a mantissa of at most 53 bits times a power of two.

* `Binary64.ofDecimal` is the double nearest to a decimal number; a number halfway between two
  doubles goes to the one with the even mantissa.
* `Binary64.shortest` is the decimal number with the fewest digits that this rounds back to the
  double, and of several the nearest one.
* `Binary64.text` writes the shortest digits with a point where it belongs and never with an
  exponent; `Binary64.ofText?` reads digits with an optional point and an optional exponent, and the
  names of the values that are no numbers.
-/

namespace AccountAccess

/-- A double-precision number. -/
inductive Binary64 where
  | nan
  | infinite (negative : Bool)
  /-- The number `mantissa * 2 ^ exponent` with a sign. -/
  | finite (negative : Bool) (mantissa : Nat) (exponent : Int)
  deriving DecidableEq, Repr

namespace Binary64

/-- The least exponent. -/
def leastExponent : Int := -1074

/-- The greatest exponent of a mantissa of 53 bits. -/
def greatestExponent : Int := 971

/-- A ratio of natural numbers. -/
structure Ratio where
  num : Nat
  den : Nat

/-- The ratio times a power of a base. -/
def Ratio.scale (r : Ratio) (base : Nat) (power : Int) : Ratio :=
  if 0 ≤ power then { r with num := r.num * Nat.pow base power.natAbs }
  else { r with den := r.den * Nat.pow base power.natAbs }

/-- The whole part. -/
def Ratio.floor (r : Ratio) : Nat := r.num / r.den

/-- The nearest natural number; halfway between two, the even one. -/
def Ratio.round (r : Ratio) : Nat :=
  let below := r.num / r.den
  let rest := 2 * (r.num % r.den)
  if rest < r.den then below else if r.den < rest then below + 1 else below + below % 2

/-- The product of two ratios. -/
def Ratio.times (r s : Ratio) : Ratio := ⟨r.num * s.num, r.den * s.den⟩

/-- The quotient of two ratios. -/
def Ratio.dividedBy (r s : Ratio) : Ratio := ⟨r.num * s.den, r.den * s.num⟩

/-- How many decimal digits a number has. -/
def digitCount (n : Nat) : Nat := (Decimal.digits n).length

/-! ### From decimal -/

/-- The double nearest to a positive ratio. -/
def ofRatio (negative : Bool) (r : Ratio) : Binary64 :=
  -- the mantissa has 53 bits at this exponent or at the one below
  let e : Int := (r.num.log2 : Int) - r.den.log2 - 52
  let e := if (r.scale 2 (-e)).floor < Nat.pow 2 52 then e - 1 else e
  let e := max e leastExponent
  let m := (r.scale 2 (-e)).round
  let (m, e) := if m = Nat.pow 2 53 then (Nat.pow 2 52, e + 1) else (m, e)
  if greatestExponent < e then .infinite negative else .finite negative m e

/-- Zero without a sign. -/
def zero : Binary64 := .finite false 0 leastExponent

/-- The double nearest to a ratio. -/
def nearest (r : Ratio) : Binary64 := if r.num = 0 then zero else ofRatio false r

/-- What a finite double stands for, without its sign. -/
def magnitude? : Binary64 → Option Ratio
  | .finite _ m e => some (Ratio.scale ⟨m, 1⟩ 2 e)
  | _ => none

/-- The double nearest to `digits * 10 ^ power`. -/
def ofDecimal (negative : Bool) (digits : Nat) (power : Int) : Binary64 :=
  let magnitude := power + digitCount digits
  if digits = 0 then .finite negative 0 leastExponent
  else if 310 < magnitude then .infinite negative
  else if magnitude < -330 then .finite negative 0 leastExponent
  else ofRatio negative (Ratio.scale ⟨digits, 1⟩ 10 power)

/-! ### To decimal -/

/-- The least power of ten above a positive ratio. -/
def powerAbove (r : Ratio) : Int :=
  if r.den ≤ r.num then digitCount r.floor
  else 1 - digitCount ((r.den + r.num - 1) / r.num - 1)

/-- The numbers that round to a double, by their ends and whether these are included. -/
structure Interval where
  low : Ratio
  high : Ratio
  closed : Bool

/-- The interval holds a ratio. -/
def Interval.holds (i : Interval) (r : Ratio) : Bool :=
  let compare := fun (a b : Ratio) =>
    if i.closed then a.num * b.den ≤ b.num * a.den else a.num * b.den < b.num * a.den
  compare i.low r && compare r i.high

/-- The numbers that round to `m * 2 ^ e`. -/
def interval (m : Nat) (e : Int) : Interval where
  low :=
    let m' := if m = Nat.pow 2 52 ∧ leastExponent < e then 4 * m - 1 else 4 * m - 2
    Ratio.scale ⟨m', 1⟩ 2 (e - 2)
  high := Ratio.scale ⟨4 * m + 2, 1⟩ 2 (e - 2)
  closed := m % 2 == 0

/-- A multiple of a power of ten that lies in the interval, next to the ratio `r`: the nearer one,
and the upper one where both are as near. -/
def onGrid? (i : Interval) (r : Ratio) (power : Int) : Option Nat :=
  let scaled := r.scale 10 (-power)
  let below := scaled.floor
  let fits := fun (n : Nat) => i.holds (Ratio.scale ⟨n, 1⟩ 10 power)
  let nearer := if 2 * (scaled.num % scaled.den) < scaled.den then below else below + 1
  let other := if nearer = below then below + 1 else below
  if fits nearer then some nearer else if fits other then some other else none

/-- The shortest decimal number that rounds to `m * 2 ^ e`, as digits and a power of ten. Seventeen
digits always suffice. -/
def shortest (m : Nat) (e : Int) : Nat × Int :=
  let r := Ratio.scale ⟨m, 1⟩ 2 e
  let top := powerAbove r
  let found := (List.range 17).findSome? fun k =>
    let power := top - (k + 1 : Nat)
    (onGrid? (interval m e) r power).map (·, power)
  match found with
  | some (n, power) => if n % 10 = 0 then (n / 10, power + 1) else (n, power)
  | none => (m, e)

/-- The number `n * 10 ^ power` without an exponent. -/
def positional (n : Nat) (power : Int) : List Char :=
  let ds := Decimal.digits n
  if 0 ≤ power then ds ++ List.replicate power.natAbs '0'
  else
    let places := power.natAbs
    let ds := List.replicate (places + 1 - ds.length) '0' ++ ds
    ds.take (ds.length - places) ++ '.' :: ds.drop (ds.length - places)

/-- The double in its shortest form. -/
def text : Binary64 → String
  | .nan => "NaN"
  | .infinite negative => if negative then "-inf" else "inf"
  | .finite negative m e =>
    let magnitude := if m = 0 then ['0'] else
      let (n, power) := shortest m e
      positional n power
    String.ofList (if negative then '-' :: magnitude else magnitude)

/-! ### From text -/

/-- Takes a sign off the front; `true` for a minus. -/
def sign : List Char → Bool × List Char
  | '-' :: s => (true, s)
  | '+' :: s => (false, s)
  | s => (false, s)

/-- The exponent that the end of a numeral holds. -/
def exponent? : List Char → Option Int
  | [] => some 0
  | c :: s => if c == 'e' || c == 'E' then Decimal.int? s else none

/-- Digits with an optional point among them, and an optional exponent. -/
def numeral? (negative : Bool) (s : List Char) : Option Binary64 := do
  let whole := s.takeWhile Char.isDigit
  let rest := s.dropWhile Char.isDigit
  let (fraction, rest) := match rest with
    | '.' :: rest => (rest.takeWhile Char.isDigit, rest.dropWhile Char.isDigit)
    | _ => ([], rest)
  let digits ← Decimal.nat? (whole ++ fraction)
  let power ← exponent? rest
  return ofDecimal negative digits (power - fraction.length)

/-- The double that a text stands for. -/
def ofText? (s : List Char) : Option Binary64 :=
  let (negative, s) := sign s
  let word := String.ofList (s.map Char.toLower)
  if word = "inf" ∨ word = "infinity" then some (.infinite negative)
  else if word = "nan" then some .nan
  else numeral? negative s

/-! ### To natural numbers -/

/-- The nearest natural number below 2⁶⁴, a half going up; none is nearest to `nan`, and zero stands
for it. -/
def toNat : Binary64 → Nat
  | .nan => 0
  | .infinite negative => if negative then 0 else UInt64.size - 1
  | .finite negative m e =>
    let r := Ratio.scale ⟨2 * m, 1⟩ 2 e
    if negative then 0 else min (UInt64.size - 1) (Ratio.floor ⟨r.num + r.den, 2 * r.den⟩)

end Binary64
end AccountAccess
