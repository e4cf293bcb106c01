import AccountAccess.Toml.Moment
import AccountAccess.Toml.Text
import AccountAccess.Toml.Tree

/-!
Values in TOML: strings, truth values, numbers, dates and times, lists and tables within a line.

* `ofWord?` says what a word stands for: digits may be kept apart by single underscores, a number in
  decimal has no leading zero, and integers have to fit into 64 bits.
* `value?` reads a value off the front of a text.
-/

namespace AccountAccess.Toml

open Settings (Value)

/-! ### Words -/

/-- Takes out the underscores; each has to stand between two digits. -/
def withoutUnderscores? (isDigit : Char → Bool) : List Char → Option (List Char)
  | a :: '_' :: b :: s =>
    if isDigit a && isDigit b then (withoutUnderscores? isDigit (b :: s)).map (a :: ·) else none
  | '_' :: _ => none
  | [_, '_'] => none
  | c :: s => (withoutUnderscores? isDigit s).map (c :: ·)
  | [] => some []

/-- The value of digits to a base. -/
def inBase? (base : Nat) (s : List Char) : Option Value := do
  let isDigit := fun c => (Bytes.hexValue? c).any (· < base)
  let ds ← withoutUnderscores? isDigit s
  if ds = [] ∨ !ds.all isDigit then none
  let n := ds.foldl (fun n c => base * n + (Bytes.hexValue? c).getD 0) 0
  if n ≤ int64Greatest.toNat then return .int n else none

/-- Whole digits without a superfluous zero in front. -/
def isWhole (s : List Char) : Bool :=
  match s with
  | '0' :: _ :: _ => false
  | _ => s != []

/-- An integer or a fraction in decimal, without underscores. -/
def decimal? (s : List Char) : Option Value :=
  let (_, unsigned) := Binary64.sign s
  let whole := unsigned.takeWhile Char.isDigit
  let rest := unsigned.dropWhile Char.isDigit
  if !isWhole whole then none
  else match rest with
    | [] => (Decimal.int64? s).map (.int ·.toInt)
    | '.' :: d :: _ => if d.isDigit then finite? else none
    | '.' :: _ => none
    | _ => finite?
where
  /-- A number that a double can be near to. -/
  finite? : Option Value :=
    match Binary64.ofText? s with
    | some (.finite negative m e) => some (.float (.finite negative m e))
    | _ => none

/-- What a word stands for. -/
def ofWord? (word : List Char) : Option Value :=
  match word with
  | '0' :: 'x' :: ds => inBase? 16 ds
  | '0' :: 'o' :: ds => inBase? 8 ds
  | '0' :: 'b' :: ds => inBase? 2 ds
  | _ =>
    let word' := String.ofList word
    let unsigned := String.ofList (Binary64.sign word).2
    if word' = "true" then some (.bool true)
    else if word' = "false" then some (.bool false)
    else if unsigned = "nan" then some (.float .nan)
    else if unsigned = "inf" then some (.float (.infinite (Binary64.sign word).1))
    else match Moment.normal? word with
      | some moment => some (.text (String.ofList moment))
      | none => withoutUnderscores? Char.isDigit word >>= decimal?

/-- A character of a word. -/
def isWordPart (c : Char) : Bool := c.isAlphanum || c ∈ ['_', '+', '-', '.', ':']

/-- The word at the front, and what follows. A blank between a date and a time belongs to the word.
-/
def word (s : List Char) : List Char × List Char :=
  let first := s.takeWhile isWordPart
  let rest := s.dropWhile isWordPart
  match rest with
  | ' ' :: d :: after =>
    if d.isDigit && (Moment.date? first).any (·.2 == []) then
      (first ++ ' ' :: (d :: after).takeWhile isWordPart, (d :: after).dropWhile isWordPart)
    else (first, rest)
  | _ => (first, rest)

/-! ### Values -/

mutual

/-- The value at the front of a text. At most `depth` lists and tables may be nested; `bound` is at
least the nesting and the number of items together. -/
def valueWithin? : (bound depth : Nat) → List Char → Option (Value × List Char)
  | 0, _, _ => none
  | bound + 1, depth, s =>
    match s, depth with
    | '[' :: s, depth + 1 => (itemsWithin? bound depth s).map fun (vs, rest) => (.list vs, rest)
    | '\x7b' :: s, depth + 1 =>
      (entriesWithin? bound depth [] s).map fun (ms, rest) => (.table (membersSettings ms), rest)
    | c :: _, _ =>
      if c == '"' || c == '\'' then
        (string? s).map fun (cs, rest) => (.text (String.ofList cs), rest)
      else do
        let (w, rest) := word s
        return (← ofWord? w, rest)
    | [], _ => none

/-- The items of a list behind its opening bracket or a comma; a comma may stand behind the last
one. -/
def itemsWithin? : (bound depth : Nat) → List Char → Option (List Value × List Char)
  | 0, _, _ => none
  | bound + 1, depth, s => do
    match ← skipLayout false s with
    | ']' :: rest => return ([], rest)
    | s =>
      let (v, s) ← valueWithin? bound depth s
      match ← skipLayout false s with
      | ']' :: rest => return ([v], rest)
      | ',' :: s =>
        let (vs, rest) ← itemsWithin? bound depth s
        return (v :: vs, rest)
      | _ => none

/-- The entries of a table behind its opening brace or a comma, which come on top of those before
them; a comma may stand behind the last one. -/
def entriesWithin? : (bound depth : Nat) → Members → List Char → Option (Members × List Char)
  | 0, _, _, _ => none
  | bound + 1, depth, ms, s => do
    match ← skipLayout false s with
    | '\x7d' :: rest => return (ms, rest)
    | s =>
      let ((above, k), s) ← keys? s
      match ← skipLayout false s with
      | '=' :: s =>
        let (v, s) ← valueWithin? bound depth (← skipLayout false s)
        let ms ← ms.assign? above k v
        match ← skipLayout false s with
        | '\x7d' :: rest => return (ms, rest)
        | ',' :: s => entriesWithin? bound depth ms s
        | _ => none
      | _ => none

end

/-- The value at the front of a text, and what follows. -/
def value? (s : List Char) : Option (Value × List Char) :=
  valueWithin? (2 * s.length + 1) greatestDepth s

end AccountAccess.Toml
