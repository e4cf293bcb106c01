import AccountAccess.Json.Decode
import AccountAccess.Json.Value
import AccountAccess.Mail.Composition
import AccountAccess.Text.Normal
import AccountAccess.Text.Hidden

/-!
The settings of the mail relay.

* `MailConfig.check` is the first thing wrong with them, and `MailConfig.sender` who messages are
  from.
* `Mailer.ofConfig` needs settings with nothing wrong and a sender that is a mailbox.
-/

namespace AccountAccess.Mail

/-- What is wrong with the settings. -/
inductive MailConfigError where
  | missingHost
  | zeroPort
  | missingSender
  /-- There is a user without a password, or the reverse. -/
  | loneCredential
  deriving DecidableEq, Repr

/-- The wording. -/
def MailConfigError.message : MailConfigError → String
  | missingHost => "Missing mail.host"
  | zeroPort => "mail.port must be greater than 0"
  | missingSender => "Missing mail.from or mail.username"
  | loneCredential => "mail.username and mail.password must be set together"

/-- The settings of the mail relay. -/
structure MailConfig where
  host : String
  port : UInt16 := 587
  username : Option String := none
  password : Option String := none
  /-- The mailbox that messages are from; the user where there is none. -/
  origin : Option String := none
  deriving DecidableEq, Repr

namespace MailConfig

/-- Who messages are from. -/
def sender (c : MailConfig) : Option String := c.origin.or c.username

/-- The first thing wrong with the settings. -/
def check (c : MailConfig) : Option MailConfigError :=
  if Text.isBlankText c.host then some .missingHost
  else if c.port = 0 then some .zeroPort
  else if c.sender.isNone then some .missingSender
  else if c.username.isSome ≠ c.password.isSome then some .loneCredential
  else none

/-! ### JSON and diagnostics -/

/-- The members in order. -/
def memberNames : List String := ["host", "port", "username", "password", "from"]

/-- A text or `null`. -/
def text? : Json.Value → Option (Option String) := Json.Value.nullable? Json.Value.string?

/-- The settings that a JSON value holds; all but the host may be absent. -/
def ofJson? (v : Json.Value) : Option MailConfig :=
  match v.fields? memberNames with
  | some [host, port, username, password, origin] => do
    let host ← Json.required Json.Value.string? host
    let port ← Json.optional 587 Json.Value.uint16? port
    let username ← Json.optional none text? username
    let password ← Json.optional none text? password
    let origin ← Json.optional none text? origin
    return { host, port, username, password, origin }
  | _ => none

/-- The settings as a JSON object. -/
def toJson (c : MailConfig) : Json.Value :=
  let text := fun (s : Option String) => match s with
    | some s => Json.Value.ofText s
    | none => .null
  .ofMembers [("host", .ofText c.host), ("port", .ofInt c.port.toNat),
    ("username", text c.username), ("password", text c.password), ("from", text c.origin)]

/-- The settings as a diagnostic shows them: all but the password. -/
def diagnostic (c : MailConfig) : String :=
  Diagnostic.record "MailConfig" [("host", Diagnostic.quote c.host),
    ("port", Decimal.text c.port.toNat),
    ("username", Diagnostic.optional Diagnostic.quote c.username),
    ("password", Diagnostic.optional (fun _ => Diagnostic.quote "<redacted>") c.password),
    ("from", Diagnostic.optional Diagnostic.quote c.origin)]

end MailConfig

/-- Sends messages from one mailbox. -/
structure Mailer where
  sender : Mailbox

/-- The mailer of the settings. -/
def Mailer.ofConfig (c : MailConfig) : Except MailError Mailer :=
  match c.check with
  | some e => .error (.configuration e.message)
  | none => do return ⟨← mailbox (c.sender.getD "")⟩

end AccountAccess.Mail
