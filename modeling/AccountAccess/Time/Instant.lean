import AccountAccess.Text.Decimal
import AccountAccess.Time.Duration

/-!
Points in time, and what a clock shows.

* An instant is a number of whole nanoseconds since the start of 1970 in universal time. The
  calendar goes from the start of year -9999 to the end of year 9999 (`Instant.InCalendar`);
  `Instant.ofUnix?` and `Instant.addSeconds?` answer nothing outside it.
* `Instant.unix` is the second that an instant lies in; `unix_ofUnix`. What becomes of the start of
  a second is the start of a second again: `ofUnix?_eq`, `ofUnixOrEpoch_eq`, `addSeconds?_ofUnix`.
* `Instant.text` writes date and time of day in the proleptic Gregorian calendar.
* A reading of a clock has two parts: the second, as a signed 64-bit number, which credentials are
  checked against, and the instant, which records are stamped with. `Reading.ofInstant`: the second
  is the one that the instant lies in.
* `ManualClock` holds a second and is moved by hand. It may be moved past the calendar: the second
  then goes on (`ManualClock.advance` wraps around), while the instant shown is the start of 1970.
-/

namespace AccountAccess

/-- Nanoseconds since the start of 1970. -/
structure Instant where
  nanos : Int
  deriving DecidableEq, Repr

namespace Instant

/-- The start of 1970. -/
def epoch : Instant := ⟨0⟩

/-- The first second of the calendar. -/
def firstSecond : Int := -377705116800

/-- The last second of the calendar. -/
def lastSecond : Int := 253402300799

/-- The instant at which a second starts. -/
def ofUnix (seconds : Int) : Instant := ⟨seconds * 1000000000⟩

/-- The second that an instant lies in. -/
def unix (i : Instant) : Int := i.nanos.fdiv 1000000000

@[simp] theorem unix_ofUnix (s : Int) : (ofUnix s).unix = s := by
  simp [ofUnix, unix]

/-- An instant lies in the calendar. -/
def InCalendar (i : Instant) : Prop := firstSecond ≤ i.unix ∧ i.unix ≤ lastSecond

instance (i : Instant) : Decidable i.InCalendar := by unfold InCalendar; infer_instance

/-- The start of a second of the calendar. -/
def ofUnix? (seconds : Int) : Option Instant :=
  if (ofUnix seconds).InCalendar then some (ofUnix seconds) else none

/-- The start of a second, or the start of 1970 when the calendar does not hold it. -/
def ofUnixOrEpoch (seconds : Int) : Instant := (ofUnix? seconds).getD epoch

/-- The instant that many seconds later, if the calendar holds it. -/
def addSeconds? (i : Instant) (seconds : Int) : Option Instant :=
  let later : Instant := ⟨i.nanos + seconds * 1000000000⟩
  if later.InCalendar then some later else none

instance : LE Instant := ⟨fun a b => a.nanos ≤ b.nanos⟩
instance : LT Instant := ⟨fun a b => a.nanos < b.nanos⟩
instance (a b : Instant) : Decidable (a ≤ b) := inferInstanceAs (Decidable (a.nanos ≤ b.nanos))
instance (a b : Instant) : Decidable (a < b) := inferInstanceAs (Decidable (a.nanos < b.nanos))

/-! ### Starts of seconds -/

theorem ofUnix_le_ofUnix {a b : Int} : ofUnix a ≤ ofUnix b ↔ a ≤ b := by
  show a * 1000000000 ≤ b * 1000000000 ↔ a ≤ b
  omega

theorem ofUnix?_eq (s : Int) :
    ofUnix? s = if firstSecond ≤ s ∧ s ≤ lastSecond then some (ofUnix s) else none := by
  simp only [ofUnix?, InCalendar, unix_ofUnix]

/-- What a second becomes is the start of a second, be it the one asked for or not. -/
theorem ofUnixOrEpoch_eq (s : Int) :
    ofUnixOrEpoch s = ofUnix (if firstSecond ≤ s ∧ s ≤ lastSecond then s else 0) := by
  rw [ofUnixOrEpoch, ofUnix?_eq]
  split <;> rfl

theorem addSeconds?_ofUnix (s k : Int) : (ofUnix s).addSeconds? k = ofUnix? (s + k) := by
  have hlater : (⟨(ofUnix s).nanos + k * 1000000000⟩ : Instant) = ofUnix (s + k) := by
    simp only [ofUnix, Instant.mk.injEq]
    omega
  rw [addSeconds?, hlater, ofUnix?]

/-! ### Date and time of day -/

/-- Year, month and day of the Gregorian calendar. -/
structure Date where
  year : Int
  month : Nat
  day : Nat
  deriving DecidableEq, Repr

/-- The date of a day counted from the start of 1970. Counting from the first of March makes the
leap day the last of its year; four hundred years are 146097 days. -/
def Date.ofDays (days : Int) : Date :=
  let z := days + 719468
  let era := z.fdiv 146097
  let ofEra := (z - era * 146097).toNat
  let yearOfEra := (ofEra - ofEra / 1460 + ofEra / 36524 - ofEra / 146096) / 365
  let ofYear := ofEra - (365 * yearOfEra + yearOfEra / 4 - yearOfEra / 100)
  let shifted := (5 * ofYear + 2) / 153
  let month := if shifted < 10 then shifted + 3 else shifted - 9
  { year := yearOfEra + era * 400 + (if month ≤ 2 then 1 else 0)
    month := month
    day := ofYear - (153 * shifted + 2) / 5 + 1 }

/-- A number with zeros in front up to a width. -/
def padded (width n : Nat) : String :=
  let ds := Decimal.digits n
  String.ofList (List.replicate (width - ds.length) '0' ++ ds)

/-- Year, month and day with dashes; a year has at least four digits. -/
def Date.text (d : Date) : String :=
  (if d.year < 0 then "-" else "") ++ padded 4 d.year.natAbs ++ "-" ++ padded 2 d.month ++ "-" ++
    padded 2 d.day

/-- The second of the day and the nanosecond of the second. -/
def timeOfDay (i : Instant) : Nat × Nat :=
  ((i.unix.fmod 86400).toNat, (i.nanos.fmod 1000000000).toNat)

/-- Hours, minutes and seconds, with at least one decimal place; hours are not padded. -/
def timeText (i : Instant) : String :=
  let (s, n) := i.timeOfDay
  let fraction := match Duration.fractionText 9 n with
    | [] => ".0"
    | cs => String.ofList cs
  Decimal.text (s / 3600) ++ ":" ++ padded 2 (s / 60 % 60) ++ ":" ++ padded 2 (s % 60) ++ fraction

/-- Date, time of day and the offset from universal time, which is zero. -/
def text (i : Instant) : String :=
  (Date.ofDays (i.unix.fdiv 86400)).text ++ " " ++ i.timeText ++ " +00:00:00"

end Instant

/-! ### Clocks -/

/-- What a clock shows at one moment. -/
structure Reading where
  unixNow : Int64
  now : Instant
  deriving DecidableEq, Repr

namespace Reading

/-- The reading of a clock that shows the second an instant lies in. -/
def ofInstant (i : Instant) : Reading := ⟨saturate i.unix, i⟩

/-- The reading of a clock that stands at a second. -/
def ofSecond (s : Int64) : Reading := ⟨s, Instant.ofUnixOrEpoch s.toInt⟩

end Reading

/-- A clock that is moved by hand. -/
structure ManualClock where
  second : Int64
  deriving DecidableEq, Repr

namespace ManualClock

/-- What the clock shows. -/
def read (c : ManualClock) : Reading := .ofSecond c.second

/-- Moves the clock by whole seconds, modulo 2⁶⁴. -/
def advance (c : ManualClock) (by' : Int) : ManualClock := ⟨wrap (c.second.toInt + by')⟩

/-- Sets the clock to an instant. -/
def set (_ : ManualClock) (i : Instant) : ManualClock := ⟨saturate i.unix⟩

end ManualClock
end AccountAccess
