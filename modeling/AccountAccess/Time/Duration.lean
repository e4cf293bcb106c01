import AccountAccess.Text.Normal
import AccountAccess.Text.Decimal

/-!
Spans of time of whole nanoseconds, and their texts.

* `Duration.render` writes years, months, days, hours, minutes, seconds and fractions of a second,
  leaving out what is zero: `1h 30m`, `2days 500ms`. A month is 30.44 days and a year 365.25 days.
* `Duration.parse` reads a sum of such items; each is a decimal number, possibly with a fraction,
  and a unit in one of its spellings (`unitNames`). Blanks are allowed inside a number and before a
  unit. What does not fit the range of durations, or is no whole number of nanoseconds (of seconds
  from hours on), is no duration. That nanoseconds fill up one second more than fits is told apart
  (`Fault.carry`).
* `Duration.brief` writes one number in the greatest fitting unit up to seconds: `1.5ms`, `90s`.
-/

namespace AccountAccess

/-- A span of time: seconds, and less than a second in nanoseconds. -/
structure Duration where
  secs : UInt64
  nanos : Nat
  nanos_lt : nanos < 1000000000 := by decide
  deriving DecidableEq, Repr

namespace Duration

/-- Whole seconds. -/
def ofSecs (s : UInt64) : Duration := { secs := s, nanos := 0 }

instance : Inhabited Duration := ⟨ofSecs 0⟩

/-- The empty span. -/
def zero : Duration := ofSecs 0

/-- The length in nanoseconds. -/
def total (d : Duration) : Nat := d.secs.toNat * 1000000000 + d.nanos

/-- The span of seconds and nanoseconds, if it fits. -/
def ofParts? (secs nanos : Nat) : Option Duration :=
  if h : nanos < 1000000000 then
    if secs < UInt64.size then some ⟨.ofNat secs, nanos, h⟩ else none
  else none

/-! ### Writing -/

/-- A year of 365.25 days, in seconds. -/
def yearSecs : Nat := 31557600

/-- A month of 30.44 days, in seconds. -/
def monthSecs : Nat := 2630016

/-- A day in seconds. -/
def daySecs : Nat := 86400

/-- The items that a span is written as: for each unit from the longest down, how often it fits. The
flag says that the unit's name gets an `s` in the plural. -/
def items (d : Duration) : List (Nat × String × Bool) :=
  let s := d.secs.toNat
  let inYear := s % yearSecs
  let inMonth := inYear % monthSecs
  let inDay := inMonth % daySecs
  [(s / yearSecs, "year", true), (inYear / monthSecs, "month", true),
    (inMonth / daySecs, "day", true), (inDay / 3600, "h", false), (inDay % 3600 / 60, "m", false),
    (inDay % 60, "s", false), (d.nanos / 1000000, "ms", false),
    (d.nanos / 1000 % 1000, "us", false), (d.nanos % 1000, "ns", false)]

/-- An item as text. -/
def itemText : Nat × String × Bool → List Char
  | (n, unit, plural) =>
    Decimal.digits n ++ unit.toList ++ (if plural && n > 1 then ['s'] else [])

/-- The span in words, without the items that are zero. -/
def render (d : Duration) : String :=
  let present := d.items.filter fun i => i.1 != 0
  if present.isEmpty then "0s"
  else String.ofList (List.intercalate [' '] (present.map itemText))

/-- A decimal fraction without the zeros at its end; `width` digits stand for one. -/
def fractionText (width n : Nat) : List Char :=
  let ds := Decimal.digits n
  let all := List.replicate (width - ds.length) '0' ++ ds
  match (all.reverse.dropWhile (· == '0')).reverse with
  | [] => []
  | kept => '.' :: kept

/-- One decimal number and its unit: seconds, or the greatest unit below that is not longer than the
span. -/
def brief (d : Duration) : String :=
  let whole := fun (n : Nat) (width rest : Nat) (unit : String) =>
    String.ofList (Decimal.digits n ++ fractionText width rest ++ unit.toList)
  if d.secs != 0 then whole d.secs.toNat 9 d.nanos "s"
  else if d.nanos ≥ 1000000 then whole (d.nanos / 1000000) 6 (d.nanos % 1000000) "ms"
  else if d.nanos ≥ 1000 then whole (d.nanos / 1000) 3 (d.nanos % 1000) "µs"
  else whole d.nanos 0 0 "ns"

/-! ### Reading -/

/-- The units of time that a span may be written in. -/
inductive TimeUnit where
  | nanosecond
  | microsecond
  | millisecond
  | second
  | minute
  | hour
  | day
  | week
  | month
  | year
  deriving DecidableEq, Repr

/-- The spellings of the units. -/
def unitNames : List (String × TimeUnit) := [
  ("nanos", .nanosecond), ("nsec", .nanosecond), ("ns", .nanosecond),
  ("usec", .microsecond), ("us", .microsecond), ("µs", .microsecond),
  ("millis", .millisecond), ("msec", .millisecond), ("ms", .millisecond),
  ("seconds", .second), ("second", .second), ("secs", .second), ("sec", .second), ("s", .second),
  ("minutes", .minute), ("minute", .minute), ("min", .minute), ("mins", .minute), ("m", .minute),
  ("hours", .hour), ("hour", .hour), ("hrs", .hour), ("hr", .hour), ("h", .hour),
  ("days", .day), ("day", .day), ("d", .day),
  ("weeks", .week), ("week", .week), ("wks", .week), ("wk", .week), ("w", .week),
  ("months", .month), ("month", .month), ("M", .month),
  ("years", .year), ("year", .year), ("yrs", .year), ("yr", .year), ("y", .year)]

/-- A unit as a number of seconds or, from minutes of a fraction down, of nanoseconds. -/
inductive Scale where
  | secs (n : Nat)
  | nanos (n : Nat)

/-- What a whole unit counts. -/
def TimeUnit.scale : TimeUnit → Scale
  | .nanosecond => .nanos 1
  | .microsecond => .nanos 1000
  | .millisecond => .nanos 1000000
  | .second => .secs 1
  | .minute => .secs 60
  | .hour => .secs 3600
  | .day => .secs daySecs
  | .week => .secs (7 * daySecs)
  | .month => .secs monthSecs
  | .year => .secs yearSecs

/-- What a unit counts when a fraction of it is taken; nanoseconds have no fractions. -/
def TimeUnit.fractionScale? : TimeUnit → Option Scale
  | .nanosecond => none
  | .second => some (.nanos 1000000000)
  | .minute => some (.nanos 60000000000)
  | u => some u.scale

/-- Why a text is no duration. -/
inductive Fault where
  | malformed
  /-- Nanoseconds make a whole second, and seconds were at their greatest before. -/
  | carry
  deriving DecidableEq, Repr

/-- A value that has to be there. -/
def present (o : Option α) : Except Fault α := o.elim (.error .malformed) .ok

/-- A number below 2⁶⁴. -/
def word (n : Nat) : Except Fault Nat := if n < UInt64.size then .ok n else .error .malformed

/-- Adds seconds and nanoseconds to a span. Each intermediate sum has to fit into 64 bits. Exactly
one second of nanoseconds is carried last. -/
def add (d : Duration) (secs nanos : Nat) : Except Fault Duration := do
  let n ← word (d.nanos + nanos)
  if n = 1000000000 then
    let s ← word (d.secs.toNat + secs)
    (ofParts? (s + 1) 0).elim (.error .carry) .ok
  else
    let s ← word (secs + n / 1000000000)
    present (ofParts? (d.secs.toNat + s) (n % 1000000000))

/-- Adds `n / d` of a scale to a span; the division must leave no rest. -/
def addScaled (span : Duration) (n d : Nat) : Scale → Except Fault Duration
  | .secs k => do
    let p ← word (n * k)
    if p % d = 0 then span.add (p / d) 0 else .error .malformed
  | .nanos k => do
    let p ← word (n * k)
    if p % d = 0 then span.add 0 (p / d) else .error .malformed

/-- A letter that a unit's name may have. -/
def isUnitLetter (c : Char) : Bool :=
  ('a' ≤ c && c ≤ 'z') || ('A' ≤ c && c ≤ 'Z') || c == 'µ'

/-- A digit, or a blank between digits. -/
def isNumberPart (c : Char) : Bool := c.isDigit || Text.isBlank c

/-- The digits at the front, with the blanks between them left out. -/
def leadingDigits (s : List Char) : List Char := (s.takeWhile isNumberPart).filter Char.isDigit

/-- An item as it is written. -/
structure Item where
  whole : List Char
  fraction : Option (List Char)
  unit : List Char

/-- The item at the front, and what follows it. -/
def item (s : List Char) : Item × List Char :=
  let whole := leadingDigits s
  let s := s.dropWhile isNumberPart
  match s with
  | '.' :: s =>
    let fraction := leadingDigits s
    let s := s.dropWhile isNumberPart
    (⟨whole, some fraction, s.takeWhile isUnitLetter⟩, s.dropWhile isUnitLetter)
  | _ => (⟨whole, none, s.takeWhile isUnitLetter⟩, s.dropWhile isUnitLetter)

/-- The numerator and the denominator that digits behind a point stand for. -/
def fractionOf (digits : List Char) : Except Fault (Nat × Nat) := do
  return (← present (Decimal.nat? digits), ← word (Nat.pow 10 digits.length))

/-- Adds an item to a span, what is before the point first. -/
def addItem (span : Duration) (i : Item) : Except Fault Duration := do
  let n ← present (Decimal.nat? i.whole) >>= word
  let fraction ← i.fraction.mapM fractionOf
  let unit ← present (unitNames.lookup (String.ofList i.unit))
  let span ← span.addScaled n 1 unit.scale
  match fraction with
  | none => return span
  | some (numerator, denominator) =>
    span.addScaled numerator denominator (← present unit.fractionScale?)

/-- Adds the items that a text holds, at most `count` of them, to a span. What stands behind an item
is looked at before the item is added. -/
def addItems : Nat → Duration → List Char → Except Fault Duration
  | 0, _, _ => .error .malformed
  | count + 1, span, s =>
    match Text.trimStart s with
    | [] => .ok span
    | c :: rest =>
      if c.isDigit then
        match item (c :: rest) with
        | (i, []) => span.addItem i
        | (i, c :: after) =>
          if isNumberPart c then do addItems count (← span.addItem i) (c :: after)
          else .error .malformed
      else .error .malformed

/-- The span that a text stands for; a lone `0` needs no unit. -/
def parse (s : String) : Except Fault Duration :=
  if s = "0" then .ok zero
  else if Text.isBlankText s then .error .malformed
  else addItems (s.length + 1) zero s.toList

/-- The span that a text stands for, if it does. -/
def parse? (s : String) : Option Duration := (parse s).toOption

end Duration
end AccountAccess
