import AccountAccess.Text.Decimal

/-!
Dates and times in TOML, which settings take as text.

* `Moment.normal?` checks a date, a time or both, and answers the normal spelling: a `T` between
  date and time, at most nine decimals of the second without zeros behind the first, and a `Z` for
  the offset of that name. Seconds may be left out.
-/

namespace AccountAccess.Toml.Moment

/-- The number of a fixed count of digits, and what follows. -/
def fixed? (count : Nat) (s : List Char) : Option (Nat × List Char) :=
  let ds := s.take count
  if ds.length = count then (Decimal.nat? ds).map (·, s.drop count) else none

/-- Takes one given character off the front. -/
def expect? (c : Char) : List Char → Option (List Char)
  | d :: s => if d == c then some s else none
  | [] => none

/-- How many days a month has. -/
def daysOfMonth (year month : Nat) : Nat :=
  if month = 2 then
    if year % 4 = 0 ∧ (year % 100 ≠ 0 ∨ year % 400 = 0) then 29 else 28
  else if month ∈ [4, 6, 9, 11] then 30 else 31

/-- A date; it is its own normal spelling. -/
def date? (s : List Char) : Option (List Char × List Char) := do
  let (year, r) ← fixed? 4 s
  let (month, r) ← fixed? 2 (← expect? '-' r)
  let (day, r) ← fixed? 2 (← expect? '-' r)
  if 1 ≤ month ∧ month ≤ 12 ∧ 1 ≤ day ∧ day ≤ daysOfMonth year month then
    return (s.take 10, r)
  else none

/-- Drops the zeros at the end, the first digit apart. -/
def dropZeros : List Char → List Char
  | [] => []
  | d :: ds => d :: (ds.reverse.dropWhile (· == '0')).reverse

/-- The decimals of a second in normal form, if there are any. -/
def decimals? : List Char → Option (List Char × List Char)
  | '.' :: s =>
    let ds := s.takeWhile Char.isDigit
    if ds = [] then none else some ('.' :: dropZeros (ds.take 9), s.drop ds.length)
  | s => some ([], s)

/-- The seconds of a time in normal form, if there are any. -/
def seconds? : List Char → Option (List Char × List Char)
  | ':' :: s => do
    let (second, r) ← fixed? 2 s
    if 61 ≤ second then none
    let (ds, r) ← decimals? r
    return (':' :: s.take 2 ++ ds, r)
  | s => some ([], s)

/-- A time of day in normal form. -/
def time? (s : List Char) : Option (List Char × List Char) := do
  let (hour, r) ← fixed? 2 s
  let (minute, r) ← fixed? 2 (← expect? ':' r)
  if 24 ≤ hour ∨ 60 ≤ minute then none
  let (rest, r) ← seconds? r
  return (s.take 5 ++ rest, r)

/-- An offset in normal form, or nothing. -/
def offset? : List Char → Option (List Char)
  | [] => some []
  | c :: s => do
    if c == 'Z' || c == 'z' then (if s = [] then return ['Z'] else none)
    else if c == '+' || c == '-' then do
      let (hour, r) ← fixed? 2 s
      let (minute, r) ← fixed? 2 (← expect? ':' r)
      if 24 ≤ hour ∨ 60 ≤ minute ∨ r ≠ [] then none
      return (if hour = 0 ∧ minute = 0 then '+' else c) :: s
    else none

/-- The normal spelling of a date, a time or both. -/
def normal? (s : List Char) : Option (List Char) :=
  match date? s with
  | some (date, []) => some date
  | some (date, separator :: s) =>
    if separator ∈ ['T', 't', ' '] then do
      let (time, s) ← time? s
      return date ++ 'T' :: time ++ (← offset? s)
    else none
  | none => do
    let (time, s) ← time? s
    if s = [] then return time else none

end AccountAccess.Toml.Moment
