import AccountAccess.Json.Value

/-!
From octets to JSON tokens, and from these to the value they spell.

The scanner goes over the octets once. Between two tokens it skips white space; a string runs to
the next quote that no backslash precedes, and a word (a number or one of the three names) to the
next delimiter. Whether a string or a word is well formed is asked of it as a whole:

* `isString`: control characters are absent and each backslash starts an escape of the grammar;
* `isNumber`: an optional minus, digits without a leading zero, and optionally a fraction and an
  exponent.

The reader keeps the containers that are still open, innermost first, each with what it has so
far; `valueFrom` stands where a value has to come and `afterValue` right behind one. So the
reader goes over the tokens once, and nesting has no bound.
-/

namespace AccountAccess.Json

/-! ### Lexemes -/

/-- The octet of an ASCII character. -/
def octet (c : Char) : UInt8 := c.toUInt8

/-- The octets of the digits `0` to `9`. -/
def isDigit (b : UInt8) : Bool := 0x30 ≤ b && b ≤ 0x39

/-- The octets of the digits of base sixteen. -/
def isHexDigit (b : UInt8) : Bool :=
  isDigit b || (0x41 ≤ b && b ≤ 0x46) || (0x61 ≤ b && b ≤ 0x66)

/-- An optional exponent: `e` or `E`, an optional sign, and digits. -/
def isExponent : Bytes → Bool
  | [] => true
  | e :: rest =>
    (e == octet 'e' || e == octet 'E') &&
      match rest with
      | [] => false
      | s :: ds =>
        if s == octet '+' || s == octet '-' then !ds.isEmpty && ds.all isDigit
        else isDigit s && ds.all isDigit

/-- An optional fraction and exponent. -/
def isFractionAndExponent : Bytes → Bool
  | [] => true
  | p :: rest =>
    if p == octet '.' then
      !(rest.takeWhile isDigit).isEmpty && isExponent (rest.dropWhile isDigit)
    else isExponent (p :: rest)

/-- A number without its sign. -/
def isUnsigned : Bytes → Bool
  | [] => false
  | d :: rest =>
    if d == octet '0' then isFractionAndExponent rest
    else isDigit d && isFractionAndExponent (rest.dropWhile isDigit)

/-- The lexemes of numbers. -/
def isNumber : Bytes → Bool
  | [] => false
  | d :: rest => if d == octet '-' then isUnsigned rest else isUnsigned (d :: rest)

/-- The octets that may follow a backslash, `u` apart. -/
def isSimpleEscape (b : UInt8) : Bool :=
  b == octet '"' || b == octet '\\' || b == octet '/' || b == octet 'b' || b == octet 'f' ||
    b == octet 'n' || b == octet 'r' || b == octet 't'

/-- The lexemes of strings. -/
def isString : Bytes → Bool
  | [] => true
  | [b] => 0x20 ≤ b && b != octet '\\'
  | b :: e :: rest =>
    if b == octet '\\' then
      if e == octet 'u' then
        match rest with
        | h₁ :: h₂ :: h₃ :: h₄ :: more =>
          isHexDigit h₁ && isHexDigit h₂ && isHexDigit h₃ && isHexDigit h₄ && isString more
        | _ => false
      else isSimpleEscape e && isString rest
    else 0x20 ≤ b && isString (e :: rest)

/-- The value a word stands for. -/
def wordValue? (w : Bytes) : Option Value :=
  if w == Bytes.ofText "null" then some .null
  else if w == Bytes.ofText "true" then some (.bool true)
  else if w == Bytes.ofText "false" then some (.bool false)
  else if isNumber w then some (.num w)
  else none

/-! ### The scanner -/

/-- What the scanner is in the middle of; lexemes are kept in reverse. -/
inductive Scanning where
  | between
  | word (read : Bytes)
  | string (read : Bytes)
  /-- In a string, right after a backslash. -/
  | escape (read : Bytes)

/-- The white space of JSON. -/
def isSpace (b : UInt8) : Bool := b == 0x20 || b == 0x0A || b == 0x0D || b == 0x09

/-- The token that an octet is by itself. -/
def punctuation? (b : UInt8) : Option Token :=
  if b == octet '{' then some .openObject
  else if b == octet '}' then some .closeObject
  else if b == octet '[' then some .openArray
  else if b == octet ']' then some .closeArray
  else if b == octet ':' then some .colon
  else if b == octet ',' then some .comma
  else none

/-- One octet between tokens, with the tokens it completes. -/
def stepBetween (b : UInt8) : Scanning × List Token :=
  if isSpace b then (.between, [])
  else if b == octet '"' then (.string [], [])
  else match punctuation? b with
    | some t => (.between, [t])
    | none => (.word [b], [])

/-- An octet that ends a word. -/
def isDelimiter (b : UInt8) : Bool := isSpace b || b == octet '"' || (punctuation? b).isSome

/-- One octet, with the tokens it completes. -/
def step : Scanning → UInt8 → Option (Scanning × List Token)
  | .between, b => some (stepBetween b)
  | .word w, b =>
    if isDelimiter b then do
      let v ← wordValue? w.reverse
      let (s, ts) := stepBetween b
      return (s, .word v :: ts)
    else some (.word (b :: w), [])
  | .string w, b =>
    if b == octet '"' then
      if isString w.reverse then some (.between, [.str w.reverse]) else none
    else if b == octet '\\' then some (.escape (b :: w), [])
    else some (.string (b :: w), [])
  | .escape w, b => some (.string (b :: w), [])

/-- The tokens that the end of the octets completes. -/
def finish : Scanning → Option (List Token)
  | .between => some []
  | .word w => (wordValue? w.reverse).map fun v => [.word v]
  | .string _ => none
  | .escape _ => none

/-- The tokens of the octets that follow. -/
def scanFrom : Scanning → Bytes → Option (List Token)
  | s, [] => finish s
  | s, b :: rest => do
    let (s', ts) ← step s b
    let more ← scanFrom s' rest
    return ts ++ more

/-- The tokens of a JSON text. -/
def scan (b : Bytes) : Option (List Token) := scanFrom .between b

/-! ### Values -/

/-- A container that is still open, with its contents so far in reverse. -/
inductive Opened where
  | array (items : List Value)
  /-- An object in which the value of `name` is being read. -/
  | object (members : List (Bytes × Value)) (name : Bytes)

mutual

/-- Reads on where a value has to come. -/
def valueFrom : List Opened → List Token → Option Value
  | st, .word v :: ts => afterValue v st ts
  | st, .str s :: ts => afterValue (.str s) st ts
  | st, .openArray :: .closeArray :: ts => afterValue (.arr []) st ts
  | st, .openArray :: ts => valueFrom (.array [] :: st) ts
  | st, .openObject :: .closeObject :: ts => afterValue (.obj []) st ts
  | st, .openObject :: .str k :: .colon :: ts => valueFrom (.object [] k :: st) ts
  | _, _ => none

/-- Reads on right behind the value `v`. -/
def afterValue : Value → List Opened → List Token → Option Value
  | v, [], [] => some v
  | v, .array vs :: st, .comma :: ts => valueFrom (.array (v :: vs) :: st) ts
  | v, .array vs :: st, .closeArray :: ts => afterValue (.arr (v :: vs).reverse) st ts
  | v, .object ms k :: st, .comma :: .str k' :: .colon :: ts =>
    valueFrom (.object ((k, v) :: ms) k' :: st) ts
  | v, .object ms k :: st, .closeObject :: ts => afterValue (.obj ((k, v) :: ms).reverse) st ts
  | _, _, _ => none

end

/-- The value that the tokens spell. -/
def ofTokens? (ts : List Token) : Option Value := valueFrom [] ts

/-- The value that a JSON text spells. -/
def parse? (b : Bytes) : Option Value := scan b >>= ofTokens?

/-- The value that a JSON text spells. -/
def parseText? (s : String) : Option Value := parse? (Bytes.ofText s)

end AccountAccess.Json
