import AccountAccess.Command.Host
import AccountAccess.Service
import AccountAccess.Settings.Tool
import AccountAccess.Settings.Environment
import AccountAccess.Settings.Format
import AccountAccess.SignedState

/-!
The command line tool.

* `Settings.source` finds the file of settings: the one that was asked for has to be there, the
  usual one need not.
* `Command.perform` does what a command asks, under given settings.
* `CommandLine.run` is a whole run: it completes the environment from the file `.env`, reads the
  arguments, loads the settings and performs the command.
-/

namespace AccountAccess

variable {m : Type → Type} [Monad m]

/-! ### Settings -/

/-- The file of settings that need not be named. -/
def Settings.usualPath : String := "profi.toml"

/-- The members of the table in a file of settings. -/
def Settings.source (path : Option String) (content : FileContent) :
    Except CommandError (List (String × Settings.Value)) :=
  match content, path with
  | .absent, some path => .error (.settingsMissing path)
  | .absent, none => .ok []
  | .unreadable, _ => .error .settingsUnreadable
  | .text s, path =>
    match Settings.parse? (path.getD Settings.usualPath) s with
    | some members => .ok members
    | none => .error .settingsUnreadable

/-- The settings in a file and an environment. -/
def ToolConfig.load (path : Option String) (content : FileContent) (env : Settings.Environment) :
    Except CommandError ToolConfig := do
  let members ← Settings.source path content
  match ToolConfig.ofSources? members env with
  | some config => return config
  | none => throw .settingsUnfit

/-- The configuration of credentials, with nothing wrong in it. -/
def ToolConfig.checkedAccess (c : ToolConfig) : Except CommandError AccessConfig :=
  match c.access.check with
  | some e => .error (.access e)
  | none => .ok c.access

/-- The settings of the mail relay, which have to be there. -/
def ToolConfig.requiredMail (c : ToolConfig) : Except CommandError Mail.MailConfig :=
  match c.mail with
  | some mail => .ok mail
  | none => .error .mailMissing

/-! ### Commands -/

namespace Command

/-- A line for people that says that something went well. -/
def success (s : String) : String := "✓ " ++ s ++ "\n"

/-- A line for people that says what went wrong. -/
def trouble (s : String) : String := "✗ " ++ s ++ "\n"

/-- A command in progress. -/
abbrev Run (m : Type → Type) := ExceptT CommandError m

/-- Goes on with a value, or fails. -/
def orFail (r : Except CommandError α) : Run m α := ExceptT.mk (pure r)

/-- The password that is given, or the first line of the input without its line end. -/
def password (host : Host m) : Option String → Run m String
  | some s => return s
  | none => do
    let line ← host.inputLine
    let isLineEnd := fun c => c == '\r' || c == '\n'
    let s := String.ofList ((line.toList.reverse.dropWhile isLineEnd).reverse)
    if s = "" then throw .passwordMissing else return s

/-- The hasher of a cost with nothing wrong in it. -/
def hasher (c : PasswordCost) : Except CommandError PasswordHasher :=
  match c.check with
  | some e => .error (.cost e)
  | none => (PasswordHasher.ofCost c).mapError .failure

/-- The message that shows that mail arrives. -/
def testMessage (recipient : String) : Mail.Message where
  recipient := recipient
  subject := "FitProfi: test email"
  contentType := "text/plain"
  body := "This is a test message from the profi CLI."

/-- Sends the message that shows that mail arrives. -/
def sendTest (host : Host m) (config : Mail.MailConfig) (recipient : String) : Run m Report := do
  let mailer ← orFail ((Mail.Mailer.ofConfig config).mapError .mailer)
  let delivery := fun (e : Mail.MailError) => CommandError.failure e.toFailure
  let message ← orFail ((Mail.compose mailer.sender (testMessage recipient)).mapError delivery)
  match ← host.deliver message with
  | some reason => throw (delivery (.sending reason))
  | none => return { errors := success ("Test email sent to " ++ recipient) }

/-- Does what a command asks. -/
def perform (host : Host m) (config : ToolConfig) : Command → Run m Report
  | .issue userId role => do
    let access ← orFail config.checkedAccess
    let codec := Codec.ofConfig access
    let id := RandomId.ofBytes (← host.random RandomId.octets)
    let claims := codec.issue userId role (some id) (← host.clock).now Claims.sessionLifetime
    return {
      output := codec.encode claims ++ "\n"
      errors := success ("Session for user " ++ Decimal.text userId.toInt ++ " (" ++ role.name ++
        ") valid until " ++ claims.expiresAt.text) }
  | .inspect token => do
    let access ← orFail config.checkedAccess
    match (Codec.ofConfig access).decode token (← host.clock) with
    | .ok claims => return { output := (Bytes.text? claims.toJson.pretty).getD "" ++ "\n" }
    | .error _ => throw .credentialRejected
  | .signState userId => do
    let access ← orFail config.checkedAccess
    return { output := (StateSigner.ofConfig access).sign userId (← host.clock).unixNow ++ "\n" }
  | .verifyState state maxAge => do
    let access ← orFail config.checkedAccess
    let maxAge := maxAge.getD access.stateMaxAge
    match (StateSigner.ofConfig access).verify state (← host.clock).unixNow maxAge with
    | some userId => return { output := Decimal.text userId.toInt ++ "\n" }
    | none => throw (.stateRejected maxAge)
  | .hashPassword given => do
    let s ← password host given
    let hasher ← orFail (hasher config.access.password)
    let salt ← host.random PasswordHasher.saltLength
    return { output := hasher.hash salt s ++ "\n" }
  | .verifyPassword stored given => do
    let s ← password host given
    let hasher ← orFail (hasher config.access.password)
    if ← orFail ((hasher.verify s stored).mapError .failure) then
      return { errors := success "Password matches" }
    else throw .passwordMismatch
  | .sendTestEmail recipient => do
    let mail ← orFail config.requiredMail
    sendTest host mail recipient

end Command

/-! ### Runs -/

namespace CommandLine

/-- What is written where the arguments are no command. -/
def Stop.report : Stop → Report
  | .version => { output := "profi 0.0.1\n" }
  | .help => { output := usage }
  | .usage => { code := 2, errors := usage }
where
  /-- The commands in short. -/
  usage : String :=
    "Usage: profi [--config FILE] [--log-level LEVEL] COMMAND\n\nCommands:\n" ++
      String.join (forms.map fun (name, _) => "  " ++ name ++ "\n")

/-- The environment completed from the file `.env`, and a warning if that file is wrong. -/
def environment (env : Settings.Environment) (dotEnv : FileContent) :
    Settings.Environment × String :=
  match dotEnv with
  | .text s =>
    match Settings.DotEnv.load env s with
    | (env, none) => (env, "")
    | (env, some fault) => (env, "Warning: Failed to load .env file: " ++ fault.message ++ "\n")
  | _ => (env, "")

/-- Loads the settings and performs a command. -/
def execute (host : Host m) (env : Settings.Environment) (line : CommandLine) :
    Command.Run m Report := do
  let content ← host.file (line.configPath.getD Settings.usualPath)
  let config ← Command.orFail (ToolConfig.load line.configPath content env)
  Command.perform host config line.command

/-- A whole run of the tool. -/
def run (host : Host m) (args : List String) : m Report := do
  let (env, warning) := environment (← host.environment) (← host.file ".env")
  let report ← match parse (env.lookup "PROFI_CONFIG") args with
    | .error stop => pure stop.report
    | .ok line => do
      match ← (execute host env line).run with
      | .ok report => pure report
      | .error e => pure { code := 1, errors := Command.trouble e.message }
  return { report with errors := warning ++ report.errors }

end CommandLine
end AccountAccess
