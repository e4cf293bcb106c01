import AccountAccess.Mail.Domain
import AccountAccess.Text.Normal

/-!
Mailboxes as people write them: an address, or a name with the address in angle brackets.

Reading goes in two steps. The grammar parts a text into a name, a user and a domain: words are
atoms or quoted strings, a run of blanks and tabs within a name counts as one blank, and comments
are not known. Then the user and the domain are checked on their own, as hosts will see them
(`isUser`, `isDomain`).

* `Mailbox.parse` does both.
* `Mailbox.text?` writes a mailbox: a name of more than atoms stands in quotes, and one with a line
  end cannot be written. `Mailbox.isReadable` says that what is written can be read back.
-/

namespace AccountAccess.Mail

/-- Why a text is no mailbox. -/
inductive AddressError where
  /-- The text is outside the grammar. -/
  | unreadable
  | user
  | domain
  deriving DecidableEq, Repr

/-- The wording. -/
def AddressError.message : AddressError → String
  | unreadable => "Invalid input"
  | user => "Invalid email user"
  | domain => "Invalid email domain"

/-- The address of a mailbox. -/
structure Address where
  user : String
  domain : String
  deriving DecidableEq, Repr

/-- The user and the domain around an at sign. -/
def Address.text (a : Address) : String := a.user ++ "@" ++ a.domain

/-- An address, and the name it is given. -/
structure Mailbox where
  name : Option String
  address : Address
  deriving DecidableEq, Repr

namespace Mailbox

/-! ### Characters -/

/-- A character of an atom; all characters beyond ASCII are. -/
def isAtomChar (c : Char) : Bool := c.isAlphanum || isAtomSign c || 0x80 ≤ c.toNat

/-- A character that stands for itself in a quoted string. -/
def isQuotable (c : Char) : Bool :=
  let n := c.toNat
  (1 ≤ n && n ≤ 8) || n == 11 || n == 12 || (14 ≤ n && n ≤ 31) || n == 33 ||
    (35 ≤ n && n ≤ 91) || (93 ≤ n && n ≤ 127) || 0x80 ≤ n

/-- A character that a backslash may stand before in a quoted string. -/
def isEscapable (c : Char) : Bool :=
  let n := c.toNat
  (1 ≤ n && n ≤ 9) || n == 11 || n == 12 || (14 ≤ n && n ≤ 127)

/-! ### Words -/

/-! Each reader answers with what stands at the front of a text, and with the rest of it. -/

/-- Drops blanks and tabs at the front. -/
def skipSpace (s : List Char) : List Char := s.dropWhile isSpace

/-- What the blanks and tabs at the front count as within a name. -/
def space (s : List Char) : List Char := if s.head?.any isSpace then [' '] else []

/-- An atom. -/
def atom? (s : List Char) : Option (List Char × List Char) :=
  match s.takeWhile isAtomChar with
  | [] => none
  | a => some (a, s.dropWhile isAtomChar)

/-- A quoted string behind its first quote. `space` is what the blanks just passed count as; blanks
at the end are dropped. -/
def quotedRest? (space : List Char) : List Char → Option (List Char × List Char)
  | '\\' :: c :: r =>
    if isEscapable c then (quotedRest? [] r).map fun (t, r) => (space ++ c :: t, r) else none
  | c :: r =>
    if c == '"' then some ([], r)
    else if isSpace c then quotedRest? [' '] r
    else if isQuotable c then (quotedRest? [] r).map fun (t, r) => (space ++ c :: t, r)
    else none
  | [] => none

/-- A quoted string, without its quotes and escapes. -/
def quoted? : List Char → Option (List Char × List Char)
  | '"' :: r => quotedRest? [] r
  | _ => none

/-- A quoted string or an atom. -/
def word? (s : List Char) : Option (List Char × List Char) := (quoted? s).or (atom? s)

/-- A word or a full stop. -/
def piece? (s : List Char) : Option (List Char × List Char) :=
  match s with
  | '.' :: r => some (['.'], r)
  | _ => word? s

/-- Words and full stops, as far as they go, with the blanks between them, in at most so many
pieces. -/
def phraseRest : Nat → List Char → List Char × List Char
  | 0, s => ([], s)
  | fuel + 1, s =>
    match piece? (skipSpace s) with
    | some (w, r) =>
      let (t, r) := phraseRest fuel r
      (space s ++ w ++ t, r)
    | none => ([], s)

/-- A word and what follows of words and full stops: the name of a mailbox. -/
def phrase? (s : List Char) : Option (List Char × List Char) := do
  let (w, r) ← word? s
  let (t, r) := phraseRest r.length r
  return (w ++ t, r)

/-! ### Addresses -/

/-- Atom characters with single full stops between them. -/
def dotted : List Char → List Char × List Char
  | [] => ([], [])
  | c :: r =>
    if isAtomChar c || (c == '.' && r.head?.any isAtomChar) then
      let (t, r) := dotted r
      (c :: t, r)
    else ([], c :: r)

/-- Atoms with full stops between them, behind blanks. -/
def dotAtom? (s : List Char) : Option (List Char × List Char) :=
  let s := skipSpace s
  if s.head?.any isAtomChar then some (dotted s) else none

/-- A user, an at sign and a domain. -/
def spec? (s : List Char) : Option ((List Char × List Char) × List Char) := do
  let (user, r) ← (dotAtom? s).or (quoted? (skipSpace s))
  let '@' :: r := r | none
  let (domain, r) ← dotAtom? r
  return ((user, domain), r)

/-- An address in angle brackets, behind blanks. -/
def angled? (s : List Char) : Option ((List Char × List Char) × List Char) := do
  let '<' :: r := skipSpace s | none
  let (a, r) ← spec? r
  let '>' :: r := r | none
  return (a, r)

/-- An address in angle brackets behind a name, which may be absent. -/
def named? (s : List Char) : Option ((Option (List Char) × List Char × List Char) × List Char) := do
  match phrase? s with
  | some (name, r) =>
    let (a, r) ← angled? r
    return ((some name, a), r)
  | none =>
    let (a, r) ← angled? s
    return ((none, a), r)

/-- The name, the user and the domain of a text in the grammar. -/
def parts? (s : List Char) : Option (Option (List Char) × List Char × List Char) := do
  let s := skipSpace s
  let (parts, r) ← ((spec? s).map fun (a, r) => ((none, a), r)).or (named? s)
  if skipSpace r = [] then return parts else none

/-! ### Users -/

/-- Octets between quotes as a user may have them: blanks, and visible characters, with quotes and
backslashes escaped. -/
def isQuotedContent : List Char → Bool
  | '\\' :: c :: r => 0x21 ≤ c.toNat && c.toNat ≤ 0x7E && isQuotedContent r
  | c :: r =>
    (isSpace c || c == '!' || ('#' ≤ c && c ≤ '[') || (']' ≤ c && c ≤ '~') || isWideChar c) &&
      isQuotedContent r
  | [] => true

/-- A user: at most 64 octets, atoms with full stops between them, or quoted. -/
def isUser (s : List Char) : Bool :=
  s ≠ [] && octets s ≤ 64 &&
    if s.head? = some '"' ∧ s.getLast? = some '"' then
      2 < s.length && isQuotedContent s.tail.dropLast
    else (labels s).all fun l => l ≠ [] && l.all isNameChar

/-! ### Reading -/

end Mailbox

/-- The address of a user and a domain that fit. -/
def Address.ofParts (user domain : List Char) : Except AddressError Address :=
  if !Mailbox.isUser user then .error .user
  else if !isDomain domain then .error .domain
  else .ok ⟨String.ofList user, String.ofList domain⟩

/-- The mailbox that a text describes. -/
def Mailbox.parse (s : String) : Except AddressError Mailbox :=
  match parts? s.toList with
  | none => .error .unreadable
  | some (name, user, domain) => do
    return ⟨name.map String.ofList, ← Address.ofParts user domain⟩

namespace Mailbox

/-! ### Writing -/

/-- A character of a name that needs no quotes: one of an atom, or a blank between atoms. -/
def isUnquoted (c : Char) : Bool := isAtomChar c || isSpace c

/-- A character between quotes, behind a backslash unless it stands for itself. -/
def quotedChar (c : Char) : List Char := if isSpace c || isQuotable c then [c] else ['\\', c]

/-- A name as it stands in front of an address; there is no way to write a line end. -/
def nameText? (name : List Char) : Option (List Char) :=
  if name.all isUnquoted then some name
  else if name.any fun c => c == '\r' || c == '\n' then none
  else some ('"' :: name.flatMap quotedChar ++ ['"'])

/-- The text of a mailbox. Blanks around a name are left out, and so is a name of blanks. -/
def text? (m : Mailbox) : Option String :=
  match (Text.trim (m.name.getD "")).toList with
  | [] => some m.address.text
  | name => (nameText? name).map fun n => String.ofList n ++ " <" ++ m.address.text ++ ">"

/-- What is written of a mailbox can be read back. A user with quotes of its own loses them on
reading, and may be none any more. -/
def isReadable (m : Mailbox) : Bool := m.text?.any fun t => (parse t).isOk

theorem isReadable_iff (m : Mailbox) :
    m.isReadable ↔ ∃ t r, m.text? = some t ∧ parse t = .ok r := by
  rw [isReadable, Option.any_eq_true]
  constructor
  · rintro ⟨t, ht, hok⟩
    cases hparse : parse t with
    | error e => rw [hparse] at hok; cases hok
    | ok r => exact ⟨t, r, ht, hparse⟩
  · rintro ⟨t, r, ht, hparse⟩
    exact ⟨t, ht, by rw [hparse]; rfl⟩

end Mailbox
end AccountAccess.Mail
