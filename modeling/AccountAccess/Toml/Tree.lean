import AccountAccess.Settings.Value

/-!
The tree that a TOML document builds up, with what is needed to tell whether more may be added to
it.

* `change` follows the keys above a name and changes the members there. A table that a header stated
  is closed to keys with points, which add members only to tables that such keys made, and a value
  is closed to everything.
* `Members.settings` forgets how the tables came about.
-/

namespace AccountAccess.Toml

open Settings (put)

/-- How a table came about. -/
inductive Origin where
  /-- A header of its own. -/
  | stated
  /-- The header of a table below it. -/
  | implied
  /-- A key with points. -/
  | dotted
  deriving DecidableEq, Repr

/-- A part of the tree. -/
inductive Node where
  | value (v : Settings.Value)
  | table (origin : Origin) (members : List (String × Node))
  /-- A list of tables that headers state one by one, the newest first. -/
  | tables (items : List (List (String × Node)))

/-- The members of a table. -/
abbrev Members := List (String × Node)

/-- Changes the members under a path of keys. Tables that are absent are made, in the way `made`. -/
def change (made : Origin) (f : Members → Option Members) : List String → Members → Option Members
  | [], ms => f ms
  | k :: ks, ms =>
    match ms.lookup k with
    | none => do return put k (.table made (← change made f ks [])) ms
    | some (.table origin inner) =>
      if made = .dotted ∧ (origin = .stated ∨ ks = [] ∧ origin ≠ .dotted) then none
      else do return put k (.table origin (← change made f ks inner)) ms
    | some (.tables (newest :: older)) =>
      if made = .dotted ∧ ks = [] then none
      else do return put k (.tables ((← change made f ks newest) :: older)) ms
    | _ => none

/-- Gives a key, with points or without, a value that it does not have yet. -/
def Members.assign? (ms : Members) (above : List String) (k : String) (v : Settings.Value) :
    Option Members :=
  change .dotted (fun ms =>
    if (ms.lookup k).isNone then some (put k (.value v) ms) else none) above ms

/-- States a table: a new one, or one that only headers below it implied. -/
def Members.state? (ms : Members) (above : List String) (k : String) : Option Members :=
  change .implied (fun ms =>
    match ms.lookup k with
    | none => some (put k (.table .stated []) ms)
    | some (.table .implied inner) => some (put k (.table .stated inner) ms)
    | _ => none) above ms

/-- Adds a table to a list of tables, which may be a new one. -/
def Members.extend? (ms : Members) (above : List String) (k : String) : Option Members :=
  change .implied (fun ms =>
    match ms.lookup k with
    | none => some (put k (.tables [[]]) ms)
    | some (.tables items) => some (put k (.tables ([] :: items)) ms)
    | _ => none) above ms

mutual

/-- The value of a part of the tree. -/
def Node.settings : Node → Settings.Value
  | .value v => v
  | .table _ ms => .table (membersSettings ms)
  | .tables items => .list (tablesSettings items).reverse

/-- The values of members. -/
def membersSettings : List (String × Node) → List (String × Settings.Value)
  | [] => []
  | (k, n) :: ms => (k, n.settings) :: membersSettings ms

/-- The values of tables. -/
def tablesSettings : List (List (String × Node)) → List Settings.Value
  | [] => []
  | ms :: rest => .table (membersSettings ms) :: tablesSettings rest

end

end AccountAccess.Toml
