import AccountAccess.Bytes
import AccountAccess.Config.Access
import AccountAccess.Digest.Sha256
import AccountAccess.Identity
import AccountAccess.Time.Instant

/-!
What a store holds: accounts, and outstanding requests for a new password.

* `emailKey`, under which an account is looked up, drops blanks at both ends and the case of ASCII
  letters; `emailKey_eq_iff`.
* `Account.role`: an account is an administrator's if the store says so or the allow-list names it.
* JSON: a password hash is read but never written.
* A `ResetRecord` keeps the fingerprint of its credential and never the credential, so a stolen
  table opens no account.
-/

namespace AccountAccess

/-- Addresses with the same key belong to the same account. -/
def emailKey (email : String) : String := Ascii.lower (Text.trim email)

theorem emailKey_eq_iff {a b : String} :
    emailKey a = emailKey b ↔ Ascii.sameIgnoringCase (Text.trim a) (Text.trim b) = true :=
  Ascii.sameIgnoringCase_iff.symm

/-- An account that is not stored yet. -/
structure NewAccount where
  fullName : String
  email : String
  passwordHash : String
  deriving DecidableEq, Repr

/-- A stored account. -/
structure Account where
  id : Int64
  fullName : String
  /-- The address as it was given at registration. -/
  email : String
  passwordHash : String
  /-- The store has promoted the account. -/
  isAdmin : Bool
  deriving DecidableEq, Repr

namespace Account

/-- The role of an account under a configuration. -/
def role (a : Account) (c : AccessConfig) : Role :=
  if a.isAdmin || c.isAdministrator a.fullName a.email then .admin else .user

theorem role_eq_admin_iff {a : Account} {c : AccessConfig} :
    a.role c = .admin ↔ a.isAdmin = true ∨ c.isAdministrator a.fullName a.email = true := by
  unfold role
  split <;> simp_all

/-! ### JSON -/

/-- The members in order. -/
def memberNames : List String := ["id", "full_name", "email", "password_hash", "is_admin"]

/-- The account that a JSON value holds. -/
def ofJson? (v : Json.Value) : Option Account :=
  match v.fields? memberNames with
  | some [id, fullName, email, passwordHash, isAdmin] => do
    let id ← Json.required Json.Value.int64? id
    let fullName ← Json.required Json.Value.string? fullName
    let email ← Json.required Json.Value.string? email
    let passwordHash ← Json.required Json.Value.string? passwordHash
    let isAdmin ← Json.required Json.Value.bool? isAdmin
    return { id, fullName, email, passwordHash, isAdmin }
  | _ => none

/-- The account as a JSON object, without its password hash. -/
def toJson (a : Account) : Json.Value :=
  .ofMembers [("id", .ofInt a.id.toInt), ("full_name", .ofText a.fullName),
    ("email", .ofText a.email), ("is_admin", .bool a.isAdmin)]

end Account

/-! ### Requests for a new password -/

/-- What a reset credential is stored and looked up by: its SHA-256 digest in hexadecimal. -/
def fingerprint (token : String) : String := Bytes.toHex (Sha256.digest (Bytes.ofText token))

/-- An outstanding request for a new password. -/
structure ResetRecord where
  /-- The address of the account, as the account has it. -/
  email : String
  fingerprint : String
  createdAt : Instant
  expiresAt : Instant
  deriving DecidableEq, Repr

namespace ResetRecord

/-- The record of a credential. -/
def ofToken (email token : String) (createdAt expiresAt : Instant) : ResetRecord :=
  ⟨email, AccountAccess.fingerprint token, createdAt, expiresAt⟩

/-- A record has expired from its last instant on. -/
def isExpiredAt (r : ResetRecord) (now : Instant) : Bool := decide (r.expiresAt ≤ now)

end ResetRecord
end AccountAccess
