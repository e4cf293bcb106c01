import AccountAccess.Account
import AccountAccess.Failure
import AccountAccess.Table

/-!
Accounts and reset records in memory.

Accounts are kept by the key of their address and records by their fingerprint. Every operation
answers together with the store after it; one that is refused leaves the store as it was.

* `AccountStore.find?_create`, `find?_updatePassword` and `find?_setAdmin` say what an operation
  does to the accounts that are found.
* `AccountStore.replaceReset` leaves one record for an address: the new one.
-/

namespace AccountAccess

/-- Accounts and reset records in memory. -/
structure AccountStore where
  accounts : Table String Account := ∅
  resets : Table String ResetRecord := ∅
  /-- The number of the next account. -/
  nextId : Int64 := 1

namespace AccountStore

/-! ### Accounts -/

/-- The account of an address. -/
def find? (s : AccountStore) (email : String) : Option Account := s.accounts.get? (emailKey email)

/-- Stores an account under the next number, unless its address is taken. -/
def create (s : AccountStore) (a : NewAccount) : Except Failure Account × AccountStore :=
  match s.find? a.email with
  | some _ => (.error (.conflict "User with this email already exists"), s)
  | none =>
    let created : Account := ⟨s.nextId, a.fullName, a.email, a.passwordHash, false⟩
    (.ok created, { s with
      accounts := s.accounts.insert (emailKey a.email) created
      nextId := s.nextId + 1 })

/-- Changes the account of an address, or answers that there is none. -/
def change (s : AccountStore) (email what : String) (f : Account → Account) :
    Except Failure Unit × AccountStore :=
  match s.find? email with
  | none => (.error (.notFound what), s)
  | some _ => (.ok (), { s with accounts := s.accounts.modify (emailKey email) f })

/-- Gives the account of an address another password hash. -/
def updatePassword (s : AccountStore) (email hash : String) : Except Failure Unit × AccountStore :=
  s.change email "User not registered" fun a => { a with passwordHash := hash }

/-- Promotes the account of an address, or takes that back. -/
def setAdmin (s : AccountStore) (email : String) (value : Bool) :
    Except Failure Unit × AccountStore :=
  s.change email ("account " ++ email) fun a => { a with isAdmin := value }

theorem create_of_none {s : AccountStore} {a : NewAccount} (h : s.find? a.email = none) :
    s.create a = (.ok ⟨s.nextId, a.fullName, a.email, a.passwordHash, false⟩, { s with
      accounts := s.accounts.insert (emailKey a.email)
        ⟨s.nextId, a.fullName, a.email, a.passwordHash, false⟩
      nextId := s.nextId + 1 }) := by
  rw [create, h]

theorem create_of_some {s : AccountStore} {a : NewAccount} {taken : Account}
    (h : s.find? a.email = some taken) :
    s.create a = (.error (.conflict "User with this email already exists"), s) := by
  rw [create, h]

theorem change_of_none {s : AccountStore} {email : String} (h : s.find? email = none)
    (what : String) (f : Account → Account) :
    s.change email what f = (.error (.notFound what), s) := by
  rw [change, h]

theorem change_of_some {s : AccountStore} {email : String} {a : Account}
    (h : s.find? email = some a) (what : String) (f : Account → Account) :
    s.change email what f =
      (.ok (), { s with accounts := s.accounts.modify (emailKey email) f }) := by
  rw [change, h]

theorem find?_create {s : AccountStore} {a : NewAccount} {created : Account}
    (h : (s.create a).1 = .ok created) (email : String) :
    (s.create a).2.find? email =
      if emailKey email = emailKey a.email then some created else s.find? email := by
  unfold create at h ⊢
  split at h
  · cases h
  · cases h
    simp only [find?, Table.get?_insert]

theorem find?_change (s : AccountStore) (email what : String) (f : Account → Account)
    (e : String) :
    (s.change email what f).2.find? e =
      if emailKey e = emailKey email then (s.find? e).map f else s.find? e := by
  unfold change
  split
  · rename_i h
    split
    · rename_i he
      have : s.find? e = none := by rw [find?, he]; exact h
      simp [this]
    · rfl
  · simp only [find?, Table.get?_modify]
    split <;> simp_all

/-! ### Reset records -/

/-- The record of a fingerprint. -/
def findReset? (s : AccountStore) (fingerprint : String) : Option ResetRecord :=
  s.resets.get? fingerprint

/-- Stores a record; one with the same fingerprint gives way. -/
def createReset (s : AccountStore) (r : ResetRecord) : AccountStore :=
  { s with resets := s.resets.insert r.fingerprint r }

/-- Takes out the record of a fingerprint. -/
def deleteReset (s : AccountStore) (fingerprint : String) : AccountStore :=
  { s with resets := s.resets.erase fingerprint }

/-- Keeps the records that a test accepts, and counts the others. -/
def keepResets (s : AccountStore) (p : ResetRecord → Bool) : Nat × AccountStore :=
  let kept := s.resets.filter fun _ r => p r
  (s.resets.size - kept.size, { s with resets := kept })

/-- Takes out the records of an address, and counts them. -/
def deleteResetsFor (s : AccountStore) (email : String) : Nat × AccountStore :=
  s.keepResets fun r => emailKey r.email != emailKey email

/-- Stores a record in place of all those of its address, and counts these. -/
def replaceReset (s : AccountStore) (r : ResetRecord) : Nat × AccountStore :=
  let (superseded, s) := s.deleteResetsFor r.email
  (superseded, s.createReset r)

/-- Takes out the records that have expired, and counts them. -/
def cleanupResets (s : AccountStore) (now : Instant) : Nat × AccountStore :=
  s.keepResets fun r => !r.isExpiredAt now

/-- After a replacement the records are the new one and those of other addresses that have other
fingerprints. -/
theorem findReset?_replaceReset (s : AccountStore) (r : ResetRecord) (fingerprint : String) :
    (s.replaceReset r).2.findReset? fingerprint =
      if fingerprint = r.fingerprint then some r
      else (s.findReset? fingerprint).filter fun old => emailKey old.email != emailKey r.email := by
  simp only [replaceReset, deleteResetsFor, keepResets, createReset, findReset?,
    Table.get?_insert, Table.get?_filter]

theorem findReset?_deleteReset (s : AccountStore) (taken fingerprint : String) :
    (s.deleteReset taken).findReset? fingerprint =
      if fingerprint = taken then none else s.findReset? fingerprint :=
  Table.get?_erase _ _ _

theorem findReset?_cleanupResets (s : AccountStore) (now : Instant) (fingerprint : String) :
    (s.cleanupResets now).2.findReset? fingerprint =
      (s.findReset? fingerprint).filter fun r => !r.isExpiredAt now :=
  Table.get?_filter _ _ _

/-- Creating an account leaves the records as they are. -/
theorem resets_create (s : AccountStore) (a : NewAccount) : (s.create a).2.resets = s.resets := by
  unfold create
  split <;> rfl

/-- Changing an account leaves the records as they are. -/
theorem resets_change (s : AccountStore) (email what : String) (f : Account → Account) :
    (s.change email what f).2.resets = s.resets := by
  unfold change
  split <;> rfl

/-- Changing an account leaves the number of the next one as it is. -/
theorem nextId_change (s : AccountStore) (email what : String) (f : Account → Account) :
    (s.change email what f).2.nextId = s.nextId := by
  unfold change
  split <;> rfl

/-- Changing an account takes none out. -/
theorem size_change (s : AccountStore) (email what : String) (f : Account → Account) :
    (s.change email what f).2.accounts.size = s.accounts.size := by
  unfold change
  split
  · rfl
  · exact Table.size_modify _ _ _

end AccountStore
end AccountAccess
