import AccountAccess.Binary64
import AccountAccess.Table

/-!
Settings as a tree of values, laid over one another source by source, and what they mean where a
text, a number, a list or a record is wanted.

* `Value.merge` lays a value over another one: tables are merged member by member, everything else
  is replaced.
* `Value.assign` lays a value at a path, making the tables and lists on the way;
  `Value.member?_assign_member` says what becomes of the members.
* `Path.ofName?` reads a path from a name such as `auth.administrators[0].email`.
* A truth value or a number may stand where a text is wanted, and is printed (`Value.text?`);
  `Value.nat?` takes a number also from a truth value, a fraction, which is rounded, or a text.
* A record is a table or a list of its fields in order (`Value.fields?`); what it does not name is
  passed over.
-/

namespace AccountAccess.Settings

/-- A value of the settings. -/
inductive Value where
  | nil
  | bool (b : Bool)
  | int (i : Int)
  | float (x : Binary64)
  | text (s : String)
  | list (items : List Value)
  | table (members : List (String × Value))
  deriving Repr, Inhabited

/-- Gives a name a value: in its place where the name is there, at the end otherwise. -/
def put {α : Type} (name : String) (a : α) : List (String × α) → List (String × α)
  | [] => [(name, a)]
  | m :: ms => if m.1 = name then (name, a) :: ms else m :: put name a ms

/-- The name has the value it was given, and the other names keep theirs. -/
theorem lookup_put {α : Type} (name other : String) (a : α) (ms : List (String × α)) :
    (put name a ms).lookup other = if other = name then some a else ms.lookup other := by
  induction ms with
  | nil => rw [put, Table.lookup_cons_ite]
  | cons m ms ih =>
    obtain ⟨k, v⟩ := m
    by_cases hk : k = name
    · subst hk
      simp only [put, if_true, Table.lookup_cons_ite]
      split <;> rfl
    · simp only [put, if_neg hk, Table.lookup_cons_ite, ih]
      by_cases h : other = k
      · subst h; simp [hk]
      · simp [h]

/-! ### Merging -/

/-- The members of a table; anything else has none. -/
def Value.members : Value → List (String × Value)
  | .table ms => ms
  | _ => []

/-- The member of a table. -/
def Value.member? (name : String) (v : Value) : Option Value := v.members.lookup name

mutual

/-- Lays a value over another one. -/
def Value.merge (under : Value) : Value → Value
  | .table upper => .table (mergeMembers under.members upper)
  | v => v

/-- Lays members over others. -/
def mergeMembers (under : List (String × Value)) :
    List (String × Value) → List (String × Value)
  | [] => under
  | (name, v) :: upper =>
    mergeMembers (put name (Value.merge ((under.lookup name).getD .nil) v) under) upper

end

/-! ### Paths -/

/-- A step of a path. -/
inductive Step where
  | member (name : String)
  /-- A place in a list; a negative one counts from the end. -/
  | item (place : Int)
  deriving DecidableEq, Repr

/-- Puts an item at a place of a list, which grows to hold it. -/
def putItem (place : Int) (v : Value) (items : List Value) : List Value :=
  let i := if place < 0 then place + items.length else place
  if i < 0 then v :: List.replicate (i.natAbs - 1) Value.nil ++ items
  else (items ++ List.replicate (i.natAbs + 1 - items.length) Value.nil).set i.natAbs v

/-- The item at a place of a list. -/
def item? (place : Int) (items : List Value) : Option Value :=
  let i := if place < 0 then place + items.length else place
  if i < 0 then none else items[i.natAbs]?

/-- The items of a list; anything else has none. -/
def Value.items : Value → List Value
  | .list vs => vs
  | _ => []

/-- Lays a value at the end of a path. -/
def Value.assign (root : Value) (path : List Step) (v : Value) : Value :=
  match path with
  | [] => root.merge v
  | .member name :: rest =>
    .table (put name (Value.assign ((root.member? name).getD .nil) rest v) root.members)
  | .item place :: rest =>
    .list (putItem place (Value.assign ((item? place root.items).getD .nil) rest v) root.items)
termination_by structural path

/-- Laying a value at a path that begins with a name changes that member alone. -/
theorem Value.member?_assign_member (root v : Value) (name other : String) (rest : List Step) :
    (root.assign (.member name :: rest) v).member? other =
      if other = name then some (Value.assign ((root.member? name).getD .nil) rest v)
      else root.member? other := by
  rw [assign, member?, members, lookup_put]
  rfl

/-- A character of a member's name within a path. -/
def isNamePart (c : Char) : Bool := c.isAlphanum || c == '_' || c == '-'

/-- A place in a list: an integer of 64 bits without a plus sign, and blanks around it. -/
def place? (s : List Char) : Option Int64 :=
  let isSpace := fun c => c == ' ' || c == '\t'
  match ((s.dropWhile isSpace).reverse.dropWhile isSpace).reverse with
  | '+' :: _ => none
  | s => Decimal.int64? s

/-- Reads the rest of a path behind a step; `allowed` bounds the number of steps. -/
def steps? : Nat → List Char → Option (List Step)
  | _, [] => some []
  | allowed + 1, '.' :: s =>
    let name := s.takeWhile isNamePart
    if name = [] then none
    else (steps? allowed (s.dropWhile isNamePart)).map (.member (String.ofList name) :: ·)
  | allowed + 1, '[' :: s => do
    let place ← place? (s.takeWhile (· != ']'))
    match s.dropWhile (· != ']') with
    | _ :: rest => (steps? allowed rest).map (.item place.toInt :: ·)
    | [] => none
  | _, _ => none

/-- The path that a name spells: names with points between them, and places in brackets. -/
def path? (name : String) : Option (List Step) := steps? (name.length + 1) ('.' :: name.toList)

/-- Lays the members of a source over settings. The name of a member is a path; one that is none
names nothing. -/
def overlay (root : Value) (source : List (String × Value)) : Value :=
  source.foldl (fun root (name, v) =>
    match path? name with
    | some path => root.assign path v
    | none => root) root

end AccountAccess.Settings

namespace AccountAccess.Settings.Value

/-! ### Meanings -/

/-- The text of a value that is no list and no table. -/
def text? : Value → Option String
  | .text s => some s
  | .bool b => some (if b then "true" else "false")
  | .int i => some (Decimal.text i)
  | .float x => some x.text
  | _ => none

/-- The natural number that a word stands for. -/
def natOfWord? (s : String) : Option Nat :=
  let lower := s.toList.map Char.toLower
  if lower ∈ ["true".toList, "on".toList, "yes".toList] then some 1
  else if lower ∈ ["false".toList, "off".toList, "no".toList] then some 0
  else match s.toList with
    | '+' :: ds => Decimal.nat? ds
    | ds => Decimal.nat? ds

/-- The natural number of a value. -/
def nat? : Value → Option Nat
  | .int i => if 0 ≤ i then some i.toNat else none
  | .bool b => some b.toNat
  | .float x => some x.toNat
  | .text s => natOfWord? s
  | _ => none

/-- A number of 32 bits without a sign. -/
def uint32? (v : Value) : Option UInt32 := do
  let n ← v.nat?
  if n < UInt32.size then return UInt32.ofNat n else none

/-- A number of 16 bits without a sign. -/
def uint16? (v : Value) : Option UInt16 := do
  let n ← v.nat?
  if n < UInt16.size then return UInt16.ofNat n else none

/-- Nothing, or a value that `read` accepts. -/
def nullable? (read : Value → Option α) : Value → Option (Option α)
  | .nil => some none
  | v => (read v).map some

/-- The items of a list, each read by `read`. -/
def list? (read : Value → Option α) : Value → Option (List α)
  | .list items => items.mapM read
  | _ => none

/-- The fields of a record in the order of `names`, `none` for one that is absent. -/
def fields? (names : List String) : Value → Option (List (Option Value))
  | .table ms => some (names.map fun name => ms.lookup name)
  | .list items => some ((List.range names.length).map (items[·]?))
  | _ => none

end AccountAccess.Settings.Value
