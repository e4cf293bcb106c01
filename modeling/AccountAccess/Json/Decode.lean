import AccountAccess.Json.Number
import AccountAccess.Json.Parse

/-!
What JSON values mean: texts, bounded integers, records and alternatives.

* `unescape?` is the text a string lexeme spells, as octets.
* `Value.int?` reads an integer literal only: `1.0`, `1e3` and `-0` are no integers.
* `Value.fields?` reads a record, given as an object or as an array of its fields in order. In an
  object the named fields occur at most once and other members are passed over; an array holds no
  more items than there are fields.
* `Value.choice?` reads one of several named alternatives: the name, or an object with the name as
  its only member and `null` as its value.
-/

namespace AccountAccess.Json

/-! ### Strings -/

/-- The value of four hexadecimal digits. -/
def hexUnit? (h₁ h₂ h₃ h₄ : UInt8) : Option Nat := do
  let a ← Bytes.hexValue? (Char.ofUInt8 h₁)
  let b ← Bytes.hexValue? (Char.ofUInt8 h₂)
  let c ← Bytes.hexValue? (Char.ofUInt8 h₃)
  let d ← Bytes.hexValue? (Char.ofUInt8 h₄)
  return ((a * 16 + b) * 16 + c) * 16 + d

/-- The octet that an escape without digits stands for. -/
def simpleEscape? (b : UInt8) : Option UInt8 :=
  if b == 0x22 || b == 0x5C || b == 0x2F then some b
  else if b == 0x62 then some 0x08
  else if b == 0x66 then some 0x0C
  else if b == 0x6E then some 0x0A
  else if b == 0x72 then some 0x0D
  else if b == 0x74 then some 0x09
  else none

/-- A piece of a string lexeme: an octet that stands for itself or is escaped by one character,
or an escaped UTF-16 unit. -/
inductive Piece where
  | octet (b : UInt8)
  | unit (n : Nat)

/-- The pieces of a string lexeme. -/
def pieces? : Bytes → Option (List Piece)
  | 0x5C :: 0x75 :: a :: b :: c :: d :: rest => do
    let n ← hexUnit? a b c d
    return .unit n :: (← pieces? rest)
  | 0x5C :: b :: rest => do
    let x ← simpleEscape? b
    return .octet x :: (← pieces? rest)
  | b :: rest => (pieces? rest).map (.octet b :: ·)
  | [] => some []

/-- The first half of a surrogate pair. -/
def isHighSurrogate (n : Nat) : Bool := 0xD800 ≤ n && n ≤ 0xDBFF

/-- The second half of a surrogate pair. -/
def isLowSurrogate (n : Nat) : Bool := 0xDC00 ≤ n && n ≤ 0xDFFF

/-- The octets of pieces; a first half that is still waiting must be followed by a second half, and
a second half occurs nowhere else. -/
def joinPieces? : Option Nat → List Piece → Option Bytes
  | none, [] => some []
  | none, .octet b :: rest => (joinPieces? none rest).map (b :: ·)
  | none, .unit n :: rest =>
    if isHighSurrogate n then joinPieces? (some n) rest
    else if isLowSurrogate n then none
    else (joinPieces? none rest).map (String.utf8EncodeChar (Char.ofNat n) ++ ·)
  | some hi, .unit lo :: rest =>
    if isLowSurrogate lo then
      (joinPieces? none rest).map
        (String.utf8EncodeChar (Char.ofNat (0x10000 + (hi - 0xD800) * 0x400 + (lo - 0xDC00))) ++ ·)
    else none
  | some _, _ => none

/-- The octets that a string lexeme spells. -/
def unescape? (lexeme : Bytes) : Option Bytes := pieces? lexeme >>= joinPieces? none

/-- The text that a string lexeme spells. -/
def lexemeText? (lexeme : Bytes) : Option String := unescape? lexeme >>= Bytes.text?

namespace Value

/-- The text of a string. -/
def string? : Value → Option String
  | .str lexeme => lexemeText? lexeme
  | _ => none

/-! ### Numbers -/

/-- The integer that a literal without fraction and exponent stands for; minus zero is none. -/
def int? : Value → Option Int
  | .num [] => none
  | .num (b :: ds) =>
    if b == 0x2D then
      if ds.all isDigit && digitsValue ds != 0 then some (-(digitsValue ds : Int)) else none
    else if (b :: ds).all isDigit then some (digitsValue (b :: ds)) else none
  | _ => none

/-- An integer between two bounds, both included. -/
def intBetween? (lo hi : Int) (v : Value) : Option Int := do
  let i ← v.int?
  if lo ≤ i ∧ i ≤ hi then return i else none

/-- An integer of 64 bits with a sign. -/
def int64? (v : Value) : Option Int64 :=
  (v.intBetween? int64Least int64Greatest).map Int64.ofInt

/-- An integer of 32 bits without a sign. -/
def uint32? (v : Value) : Option UInt32 :=
  (v.intBetween? 0 (UInt32.size - 1)).map fun i => UInt32.ofNat i.toNat

/-- An integer of 16 bits without a sign. -/
def uint16? (v : Value) : Option UInt16 :=
  (v.intBetween? 0 (UInt16.size - 1)).map fun i => UInt16.ofNat i.toNat

/-- A truth value. -/
def bool? : Value → Option Bool
  | .bool b => some b
  | _ => none

/-! ### Records and alternatives -/

/-- `null` or a value that `read` accepts. -/
def nullable? (read : Value → Option α) : Value → Option (Option α)
  | .null => some none
  | v => (read v).map some

/-- The items of an array, each read by `read`. -/
def list? (read : Value → Option α) : Value → Option (List α)
  | .arr items => items.mapM read
  | _ => none

/-- The members of an object, their names as texts. -/
def members? : Value → Option (List (String × Value))
  | .obj ms => ms.mapM fun (k, v) => (lexemeText? k).map (·, v)
  | _ => none

/-- A member occurs at most once, and then this is its value. -/
def member? (name : String) (ms : List (String × Value)) : Option (Option Value) :=
  match ms.filter (fun m => m.1 == name) with
  | [] => some none
  | [m] => some (some m.2)
  | _ => none

/-- The fields of a record in the order of `names`, `none` for one that is absent. -/
def fields? (names : List String) : Value → Option (List (Option Value))
  | .arr items =>
    if items.length ≤ names.length then
      some (items.map some ++ List.replicate (names.length - items.length) none)
    else none
  | v => do
    let ms ← v.members?
    names.mapM fun name => member? name ms

/-- One of several named alternatives. -/
def choice? (table : List (String × α)) : Value → Option α
  | .str name => do table.lookup (← lexemeText? name)
  | .obj [(name, .null)] => do table.lookup (← lexemeText? name)
  | _ => none

end Value

/-- A field that must be there. -/
def required (read : Value → Option α) : Option Value → Option α
  | none => none
  | some v => read v

/-- A field that may be absent and then has the value `absent`. -/
def optional (absent : α) (read : Value → Option α) : Option Value → Option α
  | none => some absent
  | some v => read v

end AccountAccess.Json
