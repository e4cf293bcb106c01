import AccountAccess.Credential.Codec
import AccountAccess.Flow
import AccountAccess.Identity
import AccountAccess.Password.Hasher

/-!
The operations that are offered to callers: to register, log in and out, verify a session, and
recover a password.

* A session is a credential with an identifier. `Session.verify` answers nobody for a credential
  that is refused, has no identifier, is revoked, or cannot be looked up. `Session.revoke` enters
  the identifier through the last instant at which the credential could still be accepted; what is
  no valid session needs no revocation.
* A reset credential has no identifier, so it is never a session. `PasswordReset.request` stores its
  fingerprint before it sends it to the address of the account. `PasswordReset.consume` looks it up
  by its fingerprint, and takes the record out after the password is changed.
* `Service.ofConfig` accepts a configuration exactly when nothing is wrong with it, and otherwise
  says what is wrong first. Registration and login end with an `OpenSession`.
-/

namespace AccountAccess.Session

/-! ### Sessions -/

/-- A session credential for an account. -/
def issue (codec : Codec) (userId : Int64) (role : Role) (id : String) (clock : Reading) : String :=
  codec.encode (codec.issue userId role (some id) clock.now Claims.sessionLifetime)

/-- Whom a session speaks for. -/
def verify (codec : Codec) (token : String) (clock : Reading) : Flow (Option Identity) :=
  match codec.decode token clock with
  | .error _ => pure none
  | .ok claims =>
    match claims.id with
    | none => pure none
    | some id => .call (.isRevoked id) fun
      | .value false => pure (some ⟨claims.userId, claims.role⟩)
      | _ => pure none

/-- Revokes a session. -/
def revoke (codec : Codec) (token : String) (clock : Reading) : Flow Unit :=
  match codec.decode token clock with
  | .error _ => pure ()
  | .ok claims =>
    match claims.id with
    | none => pure ()
    | some id => do
      let needed ← Flow.instant (claims.expiresAt.addSeconds? codec.leeway)
      Flow.ask (.revoke id needed)

end AccountAccess.Session

namespace AccountAccess.PasswordReset

/-! ### Forgotten passwords -/

/-- The claims of the reset credential of an account. -/
def claims (config : AccessConfig) (codec : Codec) (account : Account) (clock : Reading) : Claims :=
  codec.issue account.id (account.role config) none clock.now Claims.resetLifetime

/-- Sends a reset credential to an address. -/
def request (config : AccessConfig) (codec : Codec) (email : String) (clock : Reading) :
    Flow Unit := do
  let some account ← Flow.ask (.findByEmail email) | .refuse (.notFound "User not registered")
  let token := codec.encode (claims config codec account clock)
  let expiresAt ← Flow.instant (clock.now.addSeconds? Claims.resetLifetime)
  let _ ← Flow.ask (.replaceReset (.ofToken account.email token clock.now expiresAt))
  Flow.ask (.send (.passwordReset account.email token))

/-- Sets the password of the account that a reset credential was sent for. -/
def consume (codec : Codec) (hasher : PasswordHasher) (token password : String) (salt : Bytes)
    (clock : Reading) : Flow Unit := do
  let some record ← Flow.ask (.findReset (fingerprint token))
    | .refuse (.notFound "User with provided token not found")
  let _ ← Flow.ofExcept ((codec.decode token clock).mapError CredentialError.toFailure)
  Flow.ask (.updatePassword record.email (hasher.hash salt password))
  Flow.ask (.deleteReset (fingerprint token))

end AccountAccess.PasswordReset

namespace AccountAccess

/-! ### The service -/

/-- A session that was just opened, with the account it was opened for. -/
structure OpenSession where
  token : String
  userId : Int64
  fullName : String
  email : String
  role : Role
  deriving DecidableEq, Repr

/-- What the operations share. -/
structure Service where
  config : AccessConfig
  hasher : PasswordHasher

namespace Service

/-- The service of a configuration. -/
def ofConfig (config : AccessConfig) : Except Failure Service :=
  match config.check with
  | some e => .error (.configuration e.message)
  | none => do return ⟨config, ← PasswordHasher.ofCost config.password⟩

/-- The codec of the service's credentials. -/
def codec (s : Service) : Codec := .ofConfig s.config

/-- Opens a session for an account. -/
def openSession (s : Service) (account : Account) (id : String) (clock : Reading) :
    OpenSession where
  token := Session.issue s.codec account.id (account.role s.config) id clock
  userId := account.id
  fullName := account.fullName
  email := account.email
  role := account.role s.config

/-- Registers an account and opens a session for it. -/
def register (s : Service) (fullName email password : String) (salt : Bytes) (id : String)
    (clock : Reading) : Flow OpenSession := do
  let passwordHash := s.hasher.hash salt password
  let account ← Flow.ask (.createAccount { fullName, email, passwordHash })
  return s.openSession account id clock

/-- Opens a session for the account of an address, given its password. -/
def login (s : Service) (email password id : String) (clock : Reading) : Flow OpenSession := do
  let some account ← Flow.ask (.findByEmail email) | .refuse (.notFound "User not registered")
  let matched ← Flow.ofExcept (s.hasher.verify password account.passwordHash)
  if matched then return s.openSession account id clock else .refuse .wrongPassword

/-- Ends a session. -/
def logout (s : Service) (token : String) (clock : Reading) : Flow Unit :=
  Session.revoke s.codec token clock

/-- Whom a session speaks for. -/
def verify (s : Service) (token : String) (clock : Reading) : Flow (Option Identity) :=
  Session.verify s.codec token clock

/-- Sends a reset credential to an address. -/
def requestReset (s : Service) (email : String) (clock : Reading) : Flow Unit :=
  PasswordReset.request s.config s.codec email clock

/-- Sets a new password, given a reset credential. -/
def resetPassword (s : Service) (token password : String) (salt : Bytes) (clock : Reading) :
    Flow Unit :=
  PasswordReset.consume s.codec s.hasher token password salt clock

end Service
end AccountAccess
