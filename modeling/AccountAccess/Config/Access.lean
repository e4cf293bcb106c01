import AccountAccess.Config.Cost
import AccountAccess.Text.Decimal
import AccountAccess.Text.Normal
import AccountAccess.Time.Duration

/-!
The configuration of credentials, signed state and accounts.

* `AccessConfig.check` is the first thing wrong with a configuration.
* `AccessConfig.isAdministrator` is the allow-list: the name has to agree exactly, the address up to
  the case of ASCII letters.
* In JSON every member may be absent and then has its default; durations are written in words.
  `AccessConfig.ofJson` says also whether a duration is at fault.
-/

namespace AccountAccess

/-- An entry of the allow-list of administrators. -/
structure Administrator where
  fullName : String
  email : String
  deriving DecidableEq, Repr

/-- The configuration of credentials, signed state and accounts. -/
structure AccessConfig where
  /-- Who issues credentials; those of another issuer are refused. -/
  issuer : String := "fit-profi-api"
  /-- The key of credentials and signed state. -/
  secret : String := ""
  /-- By how much clocks may differ. -/
  leeway : Duration := .ofSecs 60
  /-- How old signed state may be where nothing else is asked for. -/
  stateMaxAge : Duration := .ofSecs 600
  /-- How long a call to a store or a mailer may take. -/
  storeTimeout : Duration := .ofSecs 5
  administrators : List Administrator := []
  password : PasswordCost := {}
  deriving DecidableEq, Repr

namespace AccessConfig

/-- The key as octets. -/
def key (c : AccessConfig) : Bytes := Bytes.ofText c.secret

/-- The leeway in whole seconds. -/
def leewaySecs (c : AccessConfig) : Int64 := saturate c.leeway.secs.toNat

/-- The allow-list names this account. -/
def isAdministrator (c : AccessConfig) (fullName email : String) : Bool :=
  c.administrators.any fun a =>
    a.fullName == fullName && Ascii.sameIgnoringCase a.email email

/-! ### Checking -/

/-- The least number of octets of a secret. -/
def minSecretLength : Nat := 32

/-- The greatest leeway. -/
def maxLeeway : Duration := .ofSecs 300

/-- The first thing wrong with a configuration. -/
def check (c : AccessConfig) : Option ConfigError :=
  if Text.isBlankText c.issuer then some .emptyIssuer
  else if c.secret = "" then some .missingSecret
  else if c.key.length < minSecretLength then some .shortSecret
  else if maxLeeway.total < c.leeway.total then some .longLeeway
  else if c.stateMaxAge.total = 0 then some .noStateMaxAge
  else if c.storeTimeout.total = 0 then some .noStoreTimeout
  else match c.administrators.find? (fun a => Text.isBlankText a.email) with
    | some a => some (.administratorWithoutEmail a.fullName)
    | none => c.password.check

/-! ### JSON -/

/-- The span that a JSON string stands for. -/
def duration? (v : Json.Value) : Option Duration := v.string? >>= Duration.parse?

/-- The entry of the allow-list that a JSON value holds. -/
def administrator? (v : Json.Value) : Option Administrator :=
  match v.fields? ["full_name", "email"] with
  | some [fullName, email] => do
    let fullName ← Json.required Json.Value.string? fullName
    let email ← Json.required Json.Value.string? email
    return { fullName, email }
  | _ => none

/-- The members in order. -/
def memberNames : List String :=
  ["issuer", "secret", "leeway", "state_max_age", "store_timeout", "administrators", "password"]

/-- The configuration that a JSON value holds. -/
def ofJson? (v : Json.Value) : Option AccessConfig :=
  match v.fields? memberNames with
  | some [issuer, secret, leeway, stateMaxAge, storeTimeout, administrators, password] => do
    let absent : AccessConfig := {}
    let issuer ← Json.optional absent.issuer Json.Value.string? issuer
    let secret ← Json.optional absent.secret Json.Value.string? secret
    let leeway ← Json.optional absent.leeway duration? leeway
    let stateMaxAge ← Json.optional absent.stateMaxAge duration? stateMaxAge
    let storeTimeout ← Json.optional absent.storeTimeout duration? storeTimeout
    let administrators ← Json.optional [] (Json.Value.list? administrator?) administrators
    let password ← Json.optional absent.password PasswordCost.ofJson? password
    return { issuer, secret, leeway, stateMaxAge, storeTimeout, administrators, password }
  | _ => none

/-- What is wrong with a member. A name that is not known has nothing wrong. -/
def memberFault? (name : String) (v : Json.Value) : Option Duration.Fault :=
  let faultUnless := fun (isFine : Bool) => if isFine then none else some .malformed
  if name ∈ ["issuer", "secret"] then faultUnless v.string?.isSome
  else if name ∈ ["leeway", "state_max_age", "store_timeout"] then
    match v.string?.map Duration.parse with
    | some (.ok _) => none
    | some (.error f) => some f
    | none => some .malformed
  else if name = "administrators" then faultUnless (Json.Value.list? administrator? v).isSome
  else if name = "password" then faultUnless (PasswordCost.ofJson? v).isSome
  else none

/-- What is wrong with members, read from the front; `seen` are the names before them. -/
def membersFault? (seen : List String) : List (String × Json.Value) → Option Duration.Fault
  | [] => none
  | (name, v) :: ms =>
    if name ∈ memberNames ∧ name ∈ seen then some .malformed
    else (memberFault? name v).or (membersFault? (name :: seen) ms)

/-- The configuration that a JSON value holds. What is wrong in front decides why there is none. -/
def ofJson (v : Json.Value) : Except Duration.Fault AccessConfig :=
  match ofJson? v with
  | some c => .ok c
  | none =>
    let ms := match v with
      | .arr items => memberNames.zip items
      | v => v.members?.getD []
    .error ((membersFault? [] ms).getD .malformed)

/-- The configuration as a JSON object. -/
def toJson (c : AccessConfig) : Json.Value :=
  .ofMembers [("issuer", .ofText c.issuer), ("secret", .ofText c.secret),
    ("leeway", .ofText c.leeway.render), ("state_max_age", .ofText c.stateMaxAge.render),
    ("store_timeout", .ofText c.storeTimeout.render),
    ("administrators", .arr (c.administrators.map fun a =>
      .ofMembers [("full_name", .ofText a.fullName), ("email", .ofText a.email)])),
    ("password", c.password.toJson)]

/-- The configuration as a diagnostic shows it: all but the secret. -/
def diagnostic (c : AccessConfig) : String :=
  Diagnostic.record "AuthConfig" [("issuer", Diagnostic.quote c.issuer),
    ("secret", Diagnostic.quote "<redacted>"), ("leeway", c.leeway.brief),
    ("state_max_age", c.stateMaxAge.brief), ("store_timeout", c.storeTimeout.brief),
    ("administrators", Diagnostic.list (c.administrators.map fun a =>
      Diagnostic.record "AdminIdentity" [("full_name", Diagnostic.quote a.fullName),
        ("email", Diagnostic.quote a.email)])),
    ("password", c.password.diagnostic)]

end AccessConfig
end AccountAccess
