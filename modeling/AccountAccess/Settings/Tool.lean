import AccountAccess.Config.Access
import AccountAccess.Mail.Config
import AccountAccess.Settings.Value
import AccountAccess.Settings.Environment

/-!
The settings of the command line tool: a section for credentials, one for mail, which may be absent,
and one for the log.

* `ToolConfig.ofValue?` reads them from a tree of values.
* `ToolConfig.ofSources?` lays the environment over a file and reads the outcome.
-/

namespace AccountAccess

open Settings (Value)

/-- Reads a field that must be there. -/
def Settings.required (read : Value → Option α) : Option Value → Option α
  | none => none
  | some v => read v

/-- Reads a field that may be absent and then has the value `absent`. -/
def Settings.optional (absent : α) (read : Value → Option α) : Option Value → Option α
  | none => some absent
  | some v => read v

open Settings (required optional)

/-! ### Sections -/

/-- The cost of hashing that a value holds. -/
def PasswordCost.ofValue? (v : Value) : Option PasswordCost :=
  match v.fields? PasswordCost.memberNames with
  | some [cost, iterations, parallelism] => do
    let absent : PasswordCost := {}
    let cost ← optional absent.cost Value.uint32? cost
    let iterations ← optional absent.iterations Value.uint32? iterations
    let parallelism ← optional absent.parallelism Value.uint32? parallelism
    return { cost, iterations, parallelism }
  | _ => none

namespace AccessConfig

/-- The span that a value spells. -/
def durationOfValue? (v : Value) : Option Duration := v.text? >>= Duration.parse?

/-- The entry of the allow-list that a value holds. -/
def administratorOfValue? (v : Value) : Option Administrator :=
  match v.fields? ["full_name", "email"] with
  | some [fullName, email] => do
    let fullName ← required Value.text? fullName
    let email ← required Value.text? email
    return { fullName, email }
  | _ => none

/-- The configuration of credentials that a value holds. -/
def ofValue? (v : Value) : Option AccessConfig :=
  match v.fields? memberNames with
  | some [issuer, secret, leeway, stateMaxAge, storeTimeout, administrators, password] => do
    let absent : AccessConfig := {}
    let issuer ← optional absent.issuer Value.text? issuer
    let secret ← optional absent.secret Value.text? secret
    let leeway ← optional absent.leeway durationOfValue? leeway
    let stateMaxAge ← optional absent.stateMaxAge durationOfValue? stateMaxAge
    let storeTimeout ← optional absent.storeTimeout durationOfValue? storeTimeout
    let administrators ← optional [] (Value.list? administratorOfValue?) administrators
    let password ← optional absent.password PasswordCost.ofValue? password
    return { issuer, secret, leeway, stateMaxAge, storeTimeout, administrators, password }
  | _ => none

end AccessConfig

/-- The settings of the mail relay that a value holds. -/
def Mail.MailConfig.ofValue? (v : Value) : Option Mail.MailConfig :=
  match v.fields? Mail.MailConfig.memberNames with
  | some [host, port, username, password, origin] => do
    let text := Value.nullable? Value.text?
    let host ← required Value.text? host
    let port ← optional 587 Value.uint16? port
    let username ← optional none text username
    let password ← optional none text password
    let origin ← optional none text origin
    return { host, port, username, password, origin }
  | _ => none

/-- The level of the log that a value holds. -/
def logLevelOfValue? (v : Value) : Option String :=
  match v.fields? ["level"] with
  | some [level] => optional "info" Value.text? level
  | _ => none

/-! ### All sections -/

/-- The settings of the command line tool. -/
structure ToolConfig where
  access : AccessConfig := {}
  mail : Option Mail.MailConfig := none
  logLevel : String := "info"
  deriving DecidableEq, Repr

namespace ToolConfig

/-- The settings that a value holds. -/
def ofValue? (v : Value) : Option ToolConfig :=
  match v.fields? ["auth", "mail", "logging"] with
  | some [access, mail, logging] => do
    let absent : ToolConfig := {}
    let access ← optional absent.access AccessConfig.ofValue? access
    let mail ← optional absent.mail (Value.nullable? Mail.MailConfig.ofValue?) mail
    let logLevel ← optional absent.logLevel logLevelOfValue? logging
    return { access, mail, logLevel }
  | _ => none

/-- The settings of a file with the environment laid over them. -/
def ofSources? (file : List (String × Value)) (env : Settings.Environment) : Option ToolConfig :=
  ofValue? (Settings.overlay (Settings.overlay (.table []) file) (Settings.overrides env))

end ToolConfig
end AccountAccess
