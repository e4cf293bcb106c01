import AccountAccess.Base64
import AccountAccess.Text.Decimal

/-!
The string form of password hashes: `$algorithm$v=version$name=value,…$salt$hash`. Every field after
the first may be missing, the last ones first.

* `PhcString.parse` reads the form, and reports the first thing wrong with it.
* `PhcString.render` writes it.
-/

namespace AccountAccess

/-- What is wrong with a value in a string form. -/
inductive PhcValueError where
  | malformed
  | tooLong
  | tooShort
  | badFormat
  | badCharacter (c : Char)
  deriving DecidableEq, Repr

/-- What is wrong with a string form, or with the hash it asks for. -/
inductive PhcError where
  | missingField
  | badName
  | badParameter (e : PhcValueError)
  | tooManyParameters
  | badSalt (e : PhcValueError)
  | badBase64
  | longBase64
  | shortOutput
  | trailingData
  | unknownAlgorithm
  | unknownVersion
  deriving DecidableEq, Repr

/-- The wording for a value. -/
def PhcValueError.message : PhcValueError → String
  | .malformed => "value malformed"
  | .tooLong => "value to long"
  | .tooShort => "value to short"
  | .badFormat => "value format is invalid"
  | .badCharacter c => "contains invalid character: '" ++ String.ofList [c] ++ "'"

/-- The wording. -/
def PhcError.message : PhcError → String
  | .missingField => "password hash string missing field"
  | .badName => "invalid parameter name"
  | .badParameter e => "invalid parameter value: " ++ e.message
  | .tooManyParameters => "maximum number of parameters reached"
  | .badSalt e => "salt invalid: " ++ e.message
  | .badBase64 => "invalid Base64 encoding"
  | .longBase64 => "invalid Base64 length"
  | .shortOutput => "output size too short, expected at least 10 bytes"
  | .trailingData => "password hash string contains trailing characters"
  | .unknownAlgorithm => "unsupported algorithm"
  | .unknownVersion => "invalid algorithm version"

/-- A password hash with everything that is needed to compute it again. -/
structure PhcString where
  algorithm : List Char
  version : Option Nat
  params : List (List Char × List Char)
  salt : Option (List Char)
  hash : Option Bytes
  deriving DecidableEq, Repr

namespace PhcString

/-! ### Parts -/

/-- The octets that a text takes in UTF-8. -/
def utf8Length (s : List Char) : Nat := (String.ofList s).utf8ByteSize

/-- The pieces of a text between the occurrences of a character. -/
def split (sep : Char) : List Char → List (List Char)
  | [] => [[]]
  | c :: rest =>
    if c = sep then [] :: split sep rest
    else match split sep rest with
      | [] => [[c]]
      | first :: more => (c :: first) :: more

/-- The characters of names. -/
def isNameChar (c : Char) : Bool := ('a' ≤ c && c ≤ 'z') || ('0' ≤ c && c ≤ '9') || c == '-'

/-- The characters of values and salts. -/
def isValueChar (c : Char) : Bool :=
  ('A' ≤ c && c ≤ 'Z') || ('a' ≤ c && c ≤ 'z') || ('0' ≤ c && c ≤ '9') || c == '/' || c == '+' ||
    c == '.' || c == '-'

/-- A name has 1 to 32 characters. -/
def name (s : List Char) : Except PhcError (List Char) :=
  if s ≠ [] ∧ utf8Length s ≤ 32 ∧ s.all isNameChar then .ok s else .error .badName

/-- A value has at most 64 characters. -/
def value (s : List Char) : Except PhcError (List Char) :=
  if utf8Length s > 64 then .error (.badParameter .tooLong)
  else match s.find? (fun c => !isValueChar c) with
    | some c => .error (.badParameter (.badCharacter c))
    | none => .ok s

/-- A number below 2³² without leading zeros. -/
def decimal (s : List Char) : Except PhcError Nat :=
  match s with
  | [] => .error (.badParameter .malformed)
  | first :: rest =>
    match s.find? (fun c => !c.isDigit) with
    | some c => .error (.badParameter (.badCharacter c))
    | none =>
      if first = '0' ∧ rest ≠ [] then .error (.badParameter .badFormat)
      else
        let n := Nat.ofDigitChars 10 s 0
        if n < UInt32.size then .ok n else .error (.badParameter .badFormat)

/-- A parameter: a name and a value, with an equals sign between them. -/
def param (s : List Char) : Except PhcError (List Char × List Char) :=
  match split '=' s with
  | [n] => do
    let _ ← name n
    .error (.badParameter .malformed)
  | [n, v] => return (← name n, ← value v)
  | n :: v :: _ => do
    let _ ← name n
    let _ ← value v
    .error (.badParameter .malformed)
  | [] => .error .badName

/-- Parameters with commas between them, in at most 127 octets. -/
def paramList (s : List Char) : Except PhcError (List (List Char × List Char)) :=
  if utf8Length s > 127 then .error .tooManyParameters
  else if s = [] then .ok []
  else (split ',' s).mapM param

/-- A salt has 4 to 64 characters. -/
def saltText (s : List Char) : Except PhcError (List Char) :=
  if utf8Length s < 4 then .error (.badSalt .tooShort)
  else if utf8Length s > 64 then .error (.badSalt .tooLong)
  else match s.find? (fun c => !isValueChar c) with
    | some c => .error (.badSalt (.badCharacter c))
    | none => .ok s

/-- The octets of base64 text, at most `most` of them. -/
def octets (most : Nat) (s : List Char) : Except PhcError Bytes :=
  let n := utf8Length s
  if 3 * (n / 4) + 3 * (n % 4) / 4 > most then .error .longBase64
  else match Base64.decode? .standard s with
    | some b => .ok b
    | none => .error .badBase64

/-- A hash has 10 to 64 octets. -/
def output (s : List Char) : Except PhcError Bytes := do
  let b ← octets 64 s
  if b.length < 10 then .error .shortOutput else return b

/-! ### The whole form -/

/-- The version, where the first of the fields holds one, and the other fields. -/
def takeVersion : List (List Char) → Except PhcError (Option Nat × List (List Char))
  | ('v' :: '=' :: v) :: fields =>
    if v.contains ',' then .ok (none, ('v' :: '=' :: v) :: fields)
    else do
      let n ← value v >>= decimal
      return (some n, fields)
  | fields => .ok (none, fields)

/-- The parameters, where the first of the fields holds some, and the other fields. -/
def takeParams : List (List Char) →
    Except PhcError (List (List Char × List Char) × List (List Char))
  | field :: fields =>
    if field.contains '=' then do return (← paramList field, fields)
    else .ok ([], field :: fields)
  | [] => .ok ([], [])

/-- The salt and the hash, in fields that hold nothing else. -/
def takeSaltAndHash : List (List Char) → Except PhcError (Option (List Char) × Option Bytes)
  | [] => .ok (none, none)
  | [s] => do return (some (← saltText s), none)
  | [s, h] => do
    let salt ← saltText s
    let hash ← output h
    return (some salt, some hash)
  | s :: h :: _ => do
    let _ ← saltText s
    let _ ← output h
    .error .trailingData

/-- The password hash that a text holds. -/
def parse (s : String) : Except PhcError PhcString :=
  match split '$' s.toList with
  | [] :: id :: fields => do
    let algorithm ← name id
    let (version, fields) ← takeVersion fields
    let (params, fields) ← takeParams fields
    let (salt, hash) ← takeSaltAndHash fields
    return { algorithm, version, params, salt, hash }
  | _ => .error .missingField

/-- A field with the dollar sign in front of it. -/
def field (s : List Char) : List Char := '$' :: s

/-- Parameters with commas between them. -/
def paramText (ps : List (List Char × List Char)) : List Char :=
  List.intercalate [','] (ps.map fun (n, v) => n ++ '=' :: v)

/-- The password hash as a text. -/
def render (p : PhcString) : String :=
  String.ofList (field p.algorithm ++
    (p.version.map fun v => field ('v' :: '=' :: Decimal.digits v)).getD [] ++
    (if p.params = [] then [] else field (paramText p.params)) ++
    (p.salt.map field).getD [] ++
    (p.hash.map fun h => field (Base64.encode .standard h)).getD [])

end PhcString
end AccountAccess
