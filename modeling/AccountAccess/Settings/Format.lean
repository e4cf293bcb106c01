import AccountAccess.Json.Readable
import AccountAccess.Settings.Value
import AccountAccess.Text.Normal
import AccountAccess.Toml.Document

/-!
Files of settings: TOML or JSON, as the end of the file's name says.

* `parse?` is the table that a file of that name and text holds.
-/

namespace AccountAccess.Settings

/-! ### JSON -/

/-- A number as a value: an integer of 64 bits, with a sign or without, or a double. -/
def ofNumber? (lexeme : Bytes) : Option Value :=
  match Json.Value.intBetween? int64Least (UInt64.size - 1) (.num lexeme) with
  | some i => some (.int i)
  | none => (Json.numberDouble? lexeme).map .float

mutual

/-- A JSON value as settings. Of members with one name the last counts. -/
def ofJson? : Json.Value → Option Value
  | .null => some .nil
  | .bool b => some (.bool b)
  | .num lexeme => ofNumber? lexeme
  | .str lexeme => (Json.lexemeText? lexeme).map .text
  | .arr items => (ofJsonItems? items).map .list
  | .obj members => (ofJsonMembers? [] members).map .table

/-- JSON items as settings. -/
def ofJsonItems? : List Json.Value → Option (List Value)
  | [] => some []
  | v :: vs => do return (← ofJson? v) :: (← ofJsonItems? vs)

/-- JSON members as settings, on top of those before them. -/
def ofJsonMembers? (sofar : List (String × Value)) :
    List (Bytes × Json.Value) → Option (List (String × Value))
  | [] => some sofar
  | (k, v) :: ms => do ofJsonMembers? (put (← Json.lexemeText? k) (← ofJson? v) sofar) ms

end

/-- The nesting that is admitted. -/
def jsonDepth : Nat := 127

/-- The members of the object that a JSON text spells. -/
def parseJson? (s : String) : Option (List (String × Value)) := do
  let v ← Json.parseText? s
  if !v.isReadable jsonDepth then none
  match ← ofJson? v with
  | .table ms => return ms
  | _ => none

/-! ### Files -/

/-- What stands behind the last point in the last part of a path; a point in front does not count.
-/
def extension (path : String) : String :=
  let name := (path.toList.reverse.takeWhile (· != '/')).reverse
  match name.reverse.dropWhile (· != '.') with
  | _ :: _ :: _ => String.ofList (name.reverse.takeWhile (· != '.')).reverse
  | _ => ""

/-- The members of the table in a file. -/
def parse? (path text : String) : Option (List (String × Value)) :=
  let text := String.ofList (Text.dropMark text.toList)
  match extension path with
  | "toml" => Toml.parse? text
  | "json" => parseJson? text
  | _ => none

end AccountAccess.Settings
