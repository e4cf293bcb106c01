import AccountAccess.Toml.Value

/-!
A TOML document: statements line by line, and the settings they add up to.

* `Statement` is what a line says; `Draft.obey?` is what it does.
* `parse?` is the table of a whole document.
-/

namespace AccountAccess.Toml

/-- What a line says. A key has parts above its last one. -/
inductive Statement where
  /-- The entries that follow belong to this table. -/
  | header (above : List String) (name : String)
  /-- The entries that follow belong to a new table in this list. -/
  | item (above : List String) (name : String)
  | entry (above : List String) (name : String) (v : Settings.Value)

/-- What the lines so far add up to, and the table that entries belong to. -/
structure Draft where
  root : Members := []
  current : List String := []

/-- Does what a statement says. -/
def Draft.obey? (d : Draft) : Statement → Option Draft
  | .header above k => do return ⟨← d.root.state? above k, above ++ [k]⟩
  | .item above k => do return ⟨← d.root.extend? above k, above ++ [k]⟩
  | .entry above k v => do
    return { d with root := ← change .implied (·.assign? above k v) d.current d.root }

/-- The statement at the front, and what follows. -/
def statement? (s : List Char) : Option (Statement × List Char) :=
  match s with
  | '[' :: '[' :: s => do
    let ((above, k), s) ← keys? s
    match s with
    | ']' :: ']' :: s => return (.item above k, s)
    | _ => none
  | '[' :: s => do
    let ((above, k), s) ← keys? s
    match s with
    | ']' :: s => return (.header above k, s)
    | _ => none
  | s => do
    let ((above, k), s) ← keys? s
    match s with
    | '=' :: s =>
      let (v, s) ← value? (skipBlanks s)
      return (.entry above k v, s)
    | _ => none

/-- Obeys the statements of a text, of which there are no more than `lines`. -/
def obeyAll? : Nat → Draft → List Char → Option Draft
  | 0, _, _ => none
  | lines + 1, d, s => do
    match ← skipLayout false s with
    | [] => return d
    | s =>
      let (st, s) ← statement? s
      let d ← d.obey? st
      obeyAll? lines d (← lineEnd? s)

/-- The members of the table that a document spells. -/
def parse? (s : String) : Option (List (String × Settings.Value)) :=
  (obeyAll? (s.length + 1) {} s.toList).map fun d => membersSettings d.root

end AccountAccess.Toml
