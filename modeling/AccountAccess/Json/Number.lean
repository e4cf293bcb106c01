import AccountAccess.Binary64
import AccountAccess.Json.Parse

/-!
JSON numbers as doubles.

A number is computed in double precision (`Numeral.magnitude?`): its digits, as far as they fit into
64 bits, make a whole number, and that is multiplied with or divided by a power of ten. Each step
rounds, so that the answer can differ from the nearest double in its last bits.

* `numeral` parts the lexeme of a number, and `numberDouble?` is its double.
* `endsWithFault` says of a number without a double how much of it has to be read to find that out.
-/

namespace AccountAccess.Json

/-! ### Lexemes of numbers -/

/-- The parts of a number. -/
structure Numeral where
  negative : Bool
  whole : Bytes
  fraction : Bytes
  /-- The exponent has a minus sign. -/
  shrinks : Bool
  exponent : Bytes
  deriving DecidableEq, Repr

/-- The sign and the digits of an exponent, which follow an `e` of either case. -/
def exponentParts : Bytes → Bool × Bytes
  | _ :: s :: ds =>
    if s == octet '-' then (true, ds) else if s == octet '+' then (false, ds) else (false, s :: ds)
  | _ => (false, [])

/-- Parts a lexeme. -/
def numeral (lexeme : Bytes) : Numeral :=
  let negative := lexeme.head? == some (octet '-')
  let unsigned := if negative then lexeme.tail else lexeme
  let rest := unsigned.dropWhile isDigit
  let (fraction, rest) :=
    if rest.head? == some (octet '.') then
      (rest.tail.takeWhile isDigit, rest.tail.dropWhile isDigit)
    else ([], rest)
  let (shrinks, exponent) := exponentParts rest
  { negative, whole := unsigned.takeWhile isDigit, fraction, shrinks, exponent }

/-- The value of decimal digits. -/
def digitsValue (ds : Bytes) : Nat := ds.foldl (fun n b => 10 * n + (b.toNat - 0x30)) 0

/-! ### Doubles -/

/-- Puts digits behind a number as long as that fits into 64 bits; the digits left are answered
too. -/
def extend (n : Nat) : Bytes → Nat × Bytes
  | [] => (n, [])
  | d :: ds =>
    let longer := 10 * n + (d.toNat - 0x30)
    if longer < UInt64.size then extend longer ds else (n, d :: ds)

/-- The digits that count, as a whole number, and the power of ten that belongs to it. -/
def Numeral.significand (n : Numeral) : Nat × Int :=
  let (whole, dropped) := extend 0 n.whole
  let (all, passed) := extend whole n.fraction
  let exponent : Int := digitsValue n.exponent
  (all, dropped.length - (n.fraction.length - passed.length) +
    if n.shrinks then -exponent else exponent)

/-- The double nearest to a power of ten, exactly. -/
def powerOfTen? (power : Nat) : Option Binary64.Ratio :=
  (Binary64.nearest (.scale ⟨1, 1⟩ 10 power)).magnitude?

/-- The greatest power of ten that a double can be near to. -/
def greatestPower : Nat := 308

/-- A whole number times a power of ten, in double precision. Below the greatest power of ten it
takes two divisions. -/
def scaled? (digits : Nat) (power : Int) : Option Binary64 := do
  let x ← (Binary64.nearest ⟨digits, 1⟩).magnitude?
  if 0 ≤ power then return .nearest (x.times (← powerOfTen? power.natAbs))
  else if power.natAbs ≤ greatestPower then
    return .nearest (x.dividedBy (← powerOfTen? power.natAbs))
  else
    let y ← (Binary64.nearest (x.dividedBy (← powerOfTen? greatestPower))).magnitude?
    return .nearest (y.dividedBy (← powerOfTen? (power.natAbs - greatestPower)))

/-- The number without its sign, computed in double precision; none if that is infinite. -/
def Numeral.magnitude? (n : Numeral) : Option Binary64 :=
  let (digits, power) := n.significand
  if digits = 0 ∨ power < -(2 * greatestPower) then some .zero
  else if greatestPower < power then none
  else scaled? digits power

/-- The double that a number stands for, if it is not infinite. -/
def numberDouble? (lexeme : Bytes) : Option Binary64 :=
  let n := numeral lexeme
  match n.magnitude? with
  | some (.finite _ m e) => some (.finite n.negative m e)
  | _ => none

/-- Reading a number stops behind it, even where it has no double: an exponent beyond 32 bits is
given up at the digit that takes it there. -/
def endsWithFault (lexeme : Bytes) : Bool :=
  digitsValue (numeral lexeme).exponent.dropLast < UInt32.size / 2

end AccountAccess.Json
