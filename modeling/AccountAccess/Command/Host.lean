import AccountAccess.Bytes
import AccountAccess.Command.Line
import AccountAccess.Config.Cost
import AccountAccess.Failure
import AccountAccess.Mail.Composition
import AccountAccess.Mail.Message
import AccountAccess.Time.Instant

/-!
What the command line tool needs from the machine it runs on, and how it fails.

* `CommandError` is why a command fails, with its wording.
* `RandomId` makes the identifier of a credential from random octets: sixteen of them in
  hexadecimal, in groups of 8, 4, 4, 4 and 12 digits, with the version 4 and the variant marked.
* The tool is a program over any monad that offers a `Host`. In the identity monad it is a function,
  which is what statements about it are made of.
-/

namespace AccountAccess

/-! ### Failure -/

/-- Why a command fails. -/
inductive CommandError where
  /-- The file of settings that was asked for is not there. -/
  | settingsMissing (path : String)
  /-- The file of settings cannot be read, or is not in a format that is known. -/
  | settingsUnreadable
  /-- The settings do not hold what is needed. -/
  | settingsUnfit
  /-- Something is wrong with the section for credentials. -/
  | access (e : ConfigError)
  | mailMissing
  | credentialRejected
  | stateRejected (maxAge : Duration)
  | passwordMissing
  | passwordMismatch
  /-- The cost of hashing is wrong. -/
  | cost (e : ConfigError)
  /-- The settings of the mail relay are wrong. -/
  | mailer (e : Mail.MailError)
  | failure (f : Failure)
  deriving DecidableEq, Repr

/-- The wording. -/
def CommandError.message : CommandError → String
  | .settingsMissing path => "config file not found: " ++ path
  | .settingsUnreadable => "config build error"
  | .settingsUnfit => "config deserialize error"
  | .access e =>
    "invalid [auth] configuration (set auth.secret or PROFI__AUTH__SECRET): " ++ e.message
  | .mailMissing => "missing [mail] configuration"
  | .credentialRejected => "credential rejected"
  | .stateRejected maxAge =>
    "state rejected (malformed, forged or older than " ++ maxAge.render ++ ")"
  | .passwordMissing => "no password given"
  | .passwordMismatch => "password does not match"
  | .cost e => e.message
  | .mailer e => e.message
  | .failure f => f.message

end AccountAccess

namespace AccountAccess.RandomId

/-! ### Random identifiers -/

/-- How many octets an identifier takes. -/
def octets : Nat := 16

/-- Marks the version and the variant. -/
def mark (b : Bytes) : Bytes :=
  let b := b.modify 6 fun x => (x &&& 0x0F) ||| 0x40
  b.modify 8 fun x => (x &&& 0x3F) ||| 0x80

/-- The identifier of sixteen octets. -/
def ofBytes (b : Bytes) : String :=
  let ds := Bytes.hexChars (mark b)
  let group := fun (start length : Nat) => (ds.drop start).take length
  String.ofList (group 0 8 ++ '-' :: group 8 4 ++ '-' :: group 12 4 ++ '-' :: group 16 4 ++
    '-' :: group 20 12)

end AccountAccess.RandomId

namespace AccountAccess

/-! ### The machine -/

/-- What there is at a path. -/
inductive FileContent where
  | absent
  /-- Something that holds no text. -/
  | unreadable
  | text (s : String)
  deriving DecidableEq, Repr

/-- What the machine offers. -/
structure Host (m : Type → Type) where
  /-- The variables of the environment. -/
  environment : m (List (String × String))
  file : String → m FileContent
  /-- The first line of the standard input, with its line end. -/
  inputLine : m String
  clock : m Reading
  /-- So many random octets. -/
  random : Nat → m Bytes
  /-- Hands a message to the mail relay; answers why that failed, if it did. -/
  deliver : Mail.Composition → m (Option String)

/-- How a run of the tool ends, and what it writes. -/
structure Report where
  code : UInt8 := 0
  output : String := ""
  errors : String := ""
  deriving DecidableEq, Repr

end AccountAccess
