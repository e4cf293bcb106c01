import AccountAccess.Settings.Value
import AccountAccess.Text.Decimal
import AccountAccess.Text.Letter
import AccountAccess.Text.Normal

/-!
Settings from environment variables, and files that have variables in them.

* `Value.ofWord` reads the text of a variable: a truth value, an integer of 64 bits or a double
  where it spells one, and a text otherwise (`ofWord_eq_text`).
* `overrides` picks the variables with the marker `profi__` in front and turns the rest of their
  names into paths: two underscores stand for a point. Names have no case.

A file has a line `NAME=value` for each variable:

* `DotEnv.logicalLines` joins the lines that a quoted text spans, and leaves out comments.
* `DotEnv.assignment?` reads a line; in its value `$NAME` and `$` with a name in braces stand for
  variables.
* `DotEnv.load` adds the variables to an environment. A variable that is there already keeps its
  value (`DotEnv.lookup_load`), and at the first line that is wrong the reading ends.
-/

namespace AccountAccess.Settings

/-- The environment variables of a process, by name. -/
abbrev Environment := List (String × String)

/-- The value that a text spells. -/
def Value.ofWord (s : String) : Value :=
  if Ascii.lower s = "true" then .bool true
  else if Ascii.lower s = "false" then .bool false
  else match Decimal.int64? s.toList with
    | some i => .int i.toInt
    | none =>
      match Binary64.ofText? s.toList with
      | some x => .float x
      | none => .text s

/-- What spells neither a truth value nor a number stays a text. -/
theorem Value.ofWord_eq_text {s : String} (h : Ascii.lower s ≠ "true")
    (h' : Ascii.lower s ≠ "false") (hi : Decimal.int64? s.toList = none)
    (hx : Binary64.ofText? s.toList = none) :
    ofWord s = .text s := by
  simp [ofWord, h, h', hi, hx]

/-- What stands before the path in the name of a variable. -/
def marker : String := "profi__"

/-- Writes points for pairs of underscores. -/
def dotted : List Char → List Char
  | '_' :: '_' :: s => '.' :: dotted s
  | c :: s => c :: dotted s
  | [] => []

/-- The path that the name of a variable stands for, if it has the marker. -/
def pathName? (name : String) : Option String :=
  let name := (Ascii.lower name).toList
  if marker.toList.isPrefixOf name then
    some (String.ofList (dotted (name.drop marker.toList.length)))
  else none

/-- The settings in the environment. -/
def overrides (env : Environment) : List (String × Value) :=
  env.filterMap fun (name, s) => (pathName? name).map (·, Value.ofWord s)

end AccountAccess.Settings

namespace AccountAccess.Settings.DotEnv

/-! ### Files of variables -/

/-- A line that is wrong, and where. -/
structure Fault where
  line : List Char
  place : Nat
  deriving DecidableEq, Repr

/-- The wording. -/
def Fault.message (f : Fault) : String :=
  "Error parsing line: '" ++ String.ofList f.line ++ "', error at line index: " ++
    Decimal.text f.place

/-- How many octets the characters take. -/
def octets (s : List Char) : Nat := (String.ofList s).utf8ByteSize

/-! ### Lines -/

/-- Where in a logical line a character stands. -/
inductive Place where
  | plain
  | blank
  | escape
  | double
  | doubleEscape
  | single
  | singleEscape
  deriving DecidableEq, Repr

/-- The place behind a character. -/
def Place.after (p : Place) (c : Char) : Place :=
  match p with
  | .escape => .plain
  | .double => if c == '\\' then .doubleEscape else if c == '"' then .plain else .double
  | .doubleEscape => .double
  | .single => if c == '\\' then .singleEscape else if c == '\'' then .plain else .single
  | .singleEscape => .single
  | .plain | .blank =>
    if p == .plain && Text.isBlank c && c != '\n' && c != '\r' then .blank
    else if c == '\\' then .escape
    else if c == '"' then .double
    else if c == '\'' then .single
    else .plain

/-- Drops the line end. -/
def dropLineEnd (s : List Char) : List Char :=
  match s.reverse with
  | '\n' :: '\r' :: r => r.reverse
  | '\n' :: r => r.reverse
  | _ => s

/-- The lines of a text, each with its line end. -/
def physicalLines : List Char → List (List Char)
  | [] => []
  | '\n' :: s => ['\n'] :: physicalLines s
  | c :: s =>
    match physicalLines s with
    | l :: ls => (c :: l) :: ls
    | [] => [[c]]

/-- What a line of the file is for a logical line. -/
inductive Stretch where
  /-- The logical line ends with the line. -/
  | ends
  /-- The logical line ends before a comment; so many characters of the line count. -/
  | comment (kept : Nat)
  /-- The logical line goes on. -/
  | goesOn (p : Place)

/-- Goes over a line of which `passed` characters are already passed. -/
def stretch (p : Place) (passed : Nat) : List Char → Stretch
  | [] => if p = .plain then .ends else .goesOn p
  | c :: s => if p = .blank ∧ c = '#' then .comment passed else stretch (p.after c) (passed + 1) s

/-- The first character that is no blank is a number sign. -/
def isComment (s : List Char) : Bool := (Text.trimStart s).head? == some '#'

/-- The logical lines, without comments; `sofar` is what the current one has already. At the end of
the text a logical line must be complete. -/
def join (sofar : List Char) (p : Place) : List (List Char) → List (Except Fault (List Char))
  | [] => if p = .plain then [] else [.error ⟨sofar, octets sofar⟩]
  | l :: ls =>
    if isComment (sofar ++ l) then join [] .plain ls
    else match stretch p 0 l with
      | .ends => .ok (dropLineEnd (sofar ++ l)) :: join [] .plain ls
      | .comment kept => .ok (sofar ++ l.take kept) :: join [] .plain ls
      | .goesOn p => join (sofar ++ l) p ls

/-- The logical lines of a text. -/
def logicalLines (s : List Char) : List (Except Fault (List Char)) :=
  join [] .plain (physicalLines s)

/-! ### Values -/

/-- A variable within a value. -/
inductive Reference where
  /-- A name as long as letters and digits follow. -/
  | bare
  /-- A name in braces. -/
  | braced
  deriving DecidableEq, Repr

/-- What is known while a value is read. -/
structure Reading where
  single : Bool := false
  double : Bool := false
  escaped : Bool := false
  /-- Nothing but blanks and a comment may follow. -/
  ended : Bool := false
  /-- A variable whose name is being read, with the name so far in reverse. -/
  reference : Option (Reference × List Char) := none
  /-- The value so far in reverse. -/
  output : List Char := []

/-- Adds a character to the value. -/
def Reading.emit (r : Reading) (c : Char) : Reading := { r with output := c :: r.output }

/-- What follows a name and an equals sign where a variable is written `NAME=value`. The name may
reach into the value, if that has an equals sign. -/
def behind? (name : List Char) (v : String × String) : Option (List Char) :=
  let entry := v.1.toList ++ '=' :: v.2.toList
  let head := name ++ ['=']
  if name ≠ [] ∧ head.isPrefixOf entry then some (entry.drop head.length) else none

/-- Adds the value of the variable named so far. -/
def Reading.resolve (env : Environment) (r : Reading) : Reading :=
  match r.reference with
  | none => r
  | some (_, name) =>
    let value := (env.findSome? (behind? name.reverse)).getD []
    { r with reference := none, output := value.reverse ++ r.output }

/-- What a character behind a backslash stands for. -/
def escaped? (c : Char) : Option Char :=
  [('\\', '\\'), ('\'', '\''), ('"', '"'), ('$', '$'), (' ', ' '), ('n', '\n')].lookup c

/-- Goes over a character within a variable's name. -/
def Reading.name (env : Environment) (r : Reading) (kind : Reference) (name : List Char)
    (c : Char) : Reading :=
  if Text.isLetterOrDigit c then { r with reference := some (kind, c :: name) }
  else match kind with
    | .bare =>
      if c == '\x7b' && name.isEmpty then { r with reference := some (.braced, []) }
      else
        let r := r.resolve env
        if c == '$' then { r with reference := some (.bare, []) } else r.emit c
    | .braced =>
      if c == '\x7d' then r.resolve env else { r with reference := some (kind, c :: name) }

/-- Goes over a character outside of escapes, single quotes and names. -/
def Reading.plain (r : Reading) (c : Char) : Reading :=
  if c == '$' then { r with reference := some (.bare, []) }
  else if r.double then
    if c == '"' then { r with double := false }
    else if c == '\\' then { r with escaped := true }
    else r.emit c
  else if c == '\'' then { r with single := true }
  else if c == '"' then { r with double := true }
  else if c == '\\' then { r with escaped := true }
  else if c == ' ' || c == '\t' then { r with ended := true }
  else r.emit c

/-- Reads a value; `passed` characters are already passed. None if a character may not stand where
it does, together with its place. -/
def Reading.run (env : Environment) (r : Reading) (passed : Nat) : List Char → Except Nat Reading
  | [] => .ok r
  | c :: s =>
    if r.ended then
      if c == ' ' || c == '\t' then run env r (passed + 1) s
      else if c == '#' then .ok r
      else .error passed
    else if r.escaped then
      match escaped? c with
      | some d => run env { r.emit d with escaped := false } (passed + 1) s
      | none => .error passed
    else if r.single then
      run env (if c == '\'' then { r with single := false } else r.emit c) (passed + 1) s
    else match r.reference with
      | some (kind, name) => run env (r.name env kind name c) (passed + 1) s
      | none => run env (r.plain c) (passed + 1) s

/-- The value that a text spells. -/
def value (env : Environment) (s : List Char) : Except Fault (List Char) :=
  match Reading.run env {} 0 s with
  | .error place => .error ⟨s, place⟩
  | .ok r =>
    if r.single || r.double || r.reference.any (·.1 == .braced) then
      .error ⟨s, octets s - 1⟩
    else .ok (r.resolve env).output.reverse

/-! ### Assignments -/

/-- The name at the front, and what follows. -/
def name? (s : List Char) : Option (List Char × List Char) :=
  let isPart := fun (c : Char) => c.isAlphanum || c == '_' || c == '.'
  match s with
  | c :: _ =>
    if c.isAlpha || c == '_' then some (s.takeWhile isPart, s.dropWhile isPart) else none
  | [] => none

/-- Takes an equals sign off the front. -/
def equals? : List Char → Option (List Char)
  | '=' :: s => some s
  | _ => none

/-- The name and the text of the value in a line, which may say `export` first; `.error` gives what
was left where the line is wrong. -/
def sides (s : List Char) : Except (List Char) (List Char × List Char) := do
  let some (name, s) := name? s | throw s
  let s := Text.trimStart s
  match equals? s with
  | some s => return (name, Text.trimStart s)
  | none =>
    if name ≠ "export".toList then throw s
    let some (name, s) := name? s | throw s
    let s := Text.trimStart s
    let some s := equals? s | throw s
    return (name, Text.trimStart s)

/-- There is nothing, or a comment. -/
def isVoid (s : List Char) : Bool := s.isEmpty || s.head? == some '#'

/-- The variable that a logical line sets, if it sets one. -/
def assignment? (env : Environment) (line : List Char) : Except Fault (Option (String × String)) :=
  let trimmed := Text.trimEnd line
  let s := Text.trimStart trimmed
  if isVoid s then .ok none
  else match sides s with
    | .error left => .error ⟨line, octets trimmed - octets left⟩
    | .ok (name, s) => do
      let value ← if isVoid s then pure [] else value env s
      return some (String.ofList name, String.ofList value)

/-- Adds a variable unless it is there. -/
def define (env : Environment) (name value : String) : Environment :=
  if (env.lookup name).isSome then env else env ++ [(name, value)]

/-- A variable that is there keeps its value. -/
theorem lookup_define {env : Environment} {k v : String} (h : env.lookup k = some v)
    (name value : String) : (define env name value).lookup k = some v := by
  rw [define]
  split
  · exact h
  · rw [List.lookup_append, h]
    rfl

/-- Adds the variables of the lines, up to the first fault. -/
def loadLines (env : Environment) : List (Except Fault (List Char)) → Environment × Option Fault
  | [] => (env, none)
  | .error f :: _ => (env, some f)
  | .ok line :: rest =>
    match assignment? env line with
    | .error f => (env, some f)
    | .ok none => loadLines env rest
    | .ok (some (name, value)) => loadLines (define env name value) rest

/-- Adds the variables of a file to an environment. -/
def load (env : Environment) (file : String) : Environment × Option Fault :=
  loadLines env (logicalLines (Text.dropMark file.toList))

theorem lookup_loadLines {k v : String} (lines : List (Except Fault (List Char)))
    {env : Environment} (h : env.lookup k = some v) :
    (loadLines env lines).1.lookup k = some v := by
  induction lines generalizing env with
  | nil => exact h
  | cons l rest ih =>
    cases l with
    | error f => exact h
    | ok line =>
      rw [loadLines]
      split
      · exact h
      · exact ih h
      · exact ih (lookup_define h _ _)

/-- What is in the environment already is not changed by the file. -/
theorem lookup_load {env : Environment} {k v : String} (h : env.lookup k = some v) (file : String) :
    (load env file).1.lookup k = some v :=
  lookup_loadLines _ h

end AccountAccess.Settings.DotEnv
