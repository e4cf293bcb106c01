import AccountAccess.Bytes
import AccountAccess.Text.Decimal

/-!
JSON values with their lexemes, and how they are written.

A number keeps the octets it is written with and a string the octets between its quotes, so that a
reader can still tell `1` from `1.0` and can pass over a string that no text corresponds to. What
a lexeme means is decided where it is asked for (`AccountAccess.Json.Decode`).

* `escape` writes a text as a string lexeme: quote, backslash and control characters are escaped
  and every other octet stands for itself.
* `Value.compact` writes no white space; `Value.pretty` writes one item or member a line, indented
  by two blanks a level, and leaves empty containers on one line.
-/

namespace AccountAccess.Json

/-- A JSON value; members and items are in the order they are written in. -/
inductive Value where
  | null
  | bool (b : Bool)
  /-- A number, by the octets it is written with. -/
  | num (lexeme : Bytes)
  /-- A string, by the octets between its quotes. -/
  | str (lexeme : Bytes)
  | arr (items : List Value)
  | obj (members : List (Bytes × Value))
  deriving Repr, Inhabited

/-- The pieces a JSON text is made of, apart from white space. -/
inductive Token where
  | openObject
  | closeObject
  | openArray
  | closeArray
  | colon
  | comma
  /-- A string, also where it names a member. -/
  | str (lexeme : Bytes)
  /-- `null`, a truth value or a number. -/
  | word (v : Value)
  deriving Repr, Inhabited

/-! ### String lexemes -/

/-- The escaped form of one octet of a text. -/
def escapeOctet (b : UInt8) : Bytes :=
  if b == 0x22 then [0x5C, 0x22]
  else if b == 0x5C then [0x5C, 0x5C]
  else if b == 0x08 then [0x5C, 0x62]
  else if b == 0x09 then [0x5C, 0x74]
  else if b == 0x0A then [0x5C, 0x6E]
  else if b == 0x0C then [0x5C, 0x66]
  else if b == 0x0D then [0x5C, 0x72]
  else if b < 0x20 then
    [0x5C, 0x75, 0x30, 0x30, (Bytes.hexDigit (b.toNat / 16)).toUInt8,
      (Bytes.hexDigit (b.toNat % 16)).toUInt8]
  else [b]

/-- The string lexeme of a text, from its octets. -/
def escape (b : Bytes) : Bytes := b.flatMap escapeOctet

/-- The string value of a text. -/
def Value.ofText (s : String) : Value := .str (escape (Bytes.ofText s))

/-- The number value of an integer. -/
def Value.ofInt (i : Int) : Value := .num (Bytes.ofText (Decimal.text i))

/-- The object with the given members; the names are texts. -/
def Value.ofMembers (ms : List (String × Value)) : Value :=
  .obj (ms.map fun (k, v) => (escape (Bytes.ofText k), v))

/-! ### Without white space -/

/-- A string lexeme between quotes. -/
def quoted (lexeme : Bytes) : Bytes := 0x22 :: lexeme ++ [0x22]

mutual

/-- The value without white space. -/
def Value.compact : Value → Bytes
  | .null => Bytes.ofText "null"
  | .bool true => Bytes.ofText "true"
  | .bool false => Bytes.ofText "false"
  | .num lexeme => lexeme
  | .str lexeme => quoted lexeme
  | .arr items => 0x5B :: compactItems items ++ [0x5D]
  | .obj members => 0x7B :: compactMembers members ++ [0x7D]

/-- Items with commas between them. -/
def compactItems : List Value → Bytes
  | [] => []
  | [v] => v.compact
  | v :: vs => v.compact ++ 0x2C :: compactItems vs

/-- Members with commas between them. -/
def compactMembers : List (Bytes × Value) → Bytes
  | [] => []
  | [(k, v)] => quoted k ++ 0x3A :: v.compact
  | (k, v) :: ms => quoted k ++ 0x3A :: v.compact ++ 0x2C :: compactMembers ms

end

/-! ### With white space -/

/-- A new line at a level of nesting. -/
def newLine (level : Nat) : Bytes := 0x0A :: List.replicate (2 * level) 0x20

mutual

/-- The value at a level of nesting, one item or member a line. -/
def Value.prettyAt (level : Nat) : Value → Bytes
  | .null => Bytes.ofText "null"
  | .bool true => Bytes.ofText "true"
  | .bool false => Bytes.ofText "false"
  | .num lexeme => lexeme
  | .str lexeme => quoted lexeme
  | .arr [] => Bytes.ofText "[]"
  | .arr items => 0x5B :: prettyItems (level + 1) items ++ newLine level ++ [0x5D]
  | .obj [] => Bytes.ofText "\x7b\x7d"
  | .obj members => 0x7B :: prettyMembers (level + 1) members ++ newLine level ++ [0x7D]

/-- Items, each on a line of its own. -/
def prettyItems (level : Nat) : List Value → Bytes
  | [] => []
  | [v] => newLine level ++ v.prettyAt level
  | v :: vs => newLine level ++ v.prettyAt level ++ 0x2C :: prettyItems level vs

/-- Members, each on a line of its own. -/
def prettyMembers (level : Nat) : List (Bytes × Value) → Bytes
  | [] => []
  | [(k, v)] => newLine level ++ quoted k ++ 0x3A :: 0x20 :: v.prettyAt level
  | (k, v) :: ms =>
    newLine level ++ quoted k ++ 0x3A :: 0x20 :: v.prettyAt level ++ 0x2C ::
      prettyMembers level ms

end

/-- The value with one item or member a line. -/
def Value.pretty (v : Value) : Bytes := v.prettyAt 0

/-- The value without white space, as a text. -/
def Value.text? (v : Value) : Option String := Bytes.text? v.compact

end AccountAccess.Json
