import AccountAccess.Identity
import AccountAccess.Text.Decimal
import AccountAccess.Time.Duration

/-!
The command line: options of the tool, the name of a command, and the command's own options and
operands.

* A `Grammar` says which options and how many operands may stand at a level; `Words.read` goes over
  the arguments by it, from the left, and stops at the first thing that ends the run.
* An option is written `--name value` or `--name=value`, and the one with a letter also `-cvalue`.
  It stands at most once at a level. A value that is an argument of its own does not begin with a
  dash, except for a lone one. Behind `--` everything is an operand.
* `CommandLine.parse` reads the whole line. The options of the tool may stand at both levels, and
  those behind the command's name win.
-/

namespace AccountAccess

/-- What the tool is asked to do. -/
inductive Command where
  | issue (userId : Int64) (role : Role)
  | inspect (token : String)
  | signState (userId : Int64)
  | verifyState (state : String) (maxAge : Option Duration)
  | hashPassword (password : Option String)
  | verifyPassword (stored : String) (password : Option String)
  | sendTestEmail (recipient : String)
  deriving DecidableEq, Repr

/-- Why the arguments are no command. -/
inductive CommandLine.Stop where
  | usage
  | help
  | version
  deriving DecidableEq, Repr

/-- A command with the options of the tool. -/
structure CommandLine where
  configPath : Option String
  logLevel : Option String
  command : Command
  deriving DecidableEq, Repr

namespace CommandLine

/-! ### Levels -/

/-- An option with a value. -/
structure Spec where
  name : String
  /-- The values that are admitted. -/
  accepts : String → Bool := fun _ => true

/-- What may stand at a level. -/
structure Grammar where
  specs : List Spec
  /-- How many operands there may be. -/
  operands : Nat := 0
  /-- The first operand is the name of a command, and the level ends there. -/
  isTop : Bool := false

/-- What the arguments of a level say. -/
structure Words where
  options : List (String × String) := []
  operands : List String := []

/-- The value of an option. -/
def Words.option? (w : Words) (name : String) : Option String := w.options.lookup name

/-- Gives an option its value. -/
def Words.give (w : Words) (g : Grammar) (name value : String) : Except Stop Words :=
  match g.specs.find? (·.name == name) with
  | none => .error .usage
  | some spec =>
    if (w.option? name).isSome || !spec.accepts value then .error .usage
    else .ok { w with options := (name, value) :: w.options }

/-- Adds an operand. -/
def Words.operand (w : Words) (g : Grammar) (s : String) : Except Stop Words :=
  if w.operands.length < g.operands then .ok { w with operands := w.operands ++ [s] }
  else .error .usage

/-- What an argument is by itself. -/
inductive Shape where
  | stop (s : Stop)
  /-- An option, with its value if that is part of the argument. -/
  | option (name : String) (value : Option String)
  /-- Only operands follow. -/
  | escape
  | operand

/-- The letter of an option. -/
def letterName? (c : Char) : Option String := if c = 'c' then some "config" else none

/-- What stands behind the dash of letters. -/
def lettersShape (isTop : Bool) : List Char → Shape
  | [] => .operand
  | c :: rest =>
    match letterName? c with
    | some name =>
      .option name (match rest with
        | [] => none
        | '=' :: value => some (String.ofList value)
        | value => some (String.ofList value))
    | none =>
      if c = 'h' then .stop .help
      else if c = 'V' ∧ isTop then .stop .version
      else .stop .usage

/-- What stands behind two dashes. -/
def wordShape (isTop : Bool) (s : List Char) : Shape :=
  let name := String.ofList (s.takeWhile (· != '='))
  match s.dropWhile (· != '=') with
  | _ :: value => .option name (some (String.ofList value))
  | [] =>
    if name = "help" then .stop .help
    else if name = "version" ∧ isTop then .stop .version
    else .option name none

/-- What an argument is. -/
def shape (isTop : Bool) (arg : String) : Shape :=
  match arg.toList with
  | ['-', '-'] => .escape
  | '-' :: '-' :: s => wordShape isTop s
  | '-' :: s => lettersShape isTop s
  | _ => .operand

/-- An argument that may be the value of the option before it. -/
def isValue (arg : String) : Bool := arg == "-" || arg.toList.head? != some '-'

/-- Goes over the arguments of a level, and answers what they say and those that are left. -/
def Words.read (g : Grammar) (w : Words) : List String → Except Stop (Words × List String)
  | [] => .ok (w, [])
  | arg :: rest =>
    match shape g.isTop arg with
    | .stop s => .error s
    | .option name (some value) => do Words.read g (← w.give g name value) rest
    | .option name none =>
      match rest with
      | [] => .error .usage
      | value :: rest =>
        if isValue value then do Words.read g (← w.give g name value) rest else .error .usage
    | .escape => do
      if g.isTop then throw .usage
      return (← rest.foldlM (fun w s => w.operand g s) w, [])
    | .operand =>
      if g.isTop then .ok (w, arg :: rest) else do Words.read g (← w.operand g arg) rest

/-! ### The tool -/

/-- The options of the tool. -/
def toolSpecs : List Spec := [⟨"config", fun s => s != ""⟩, ⟨"log-level", fun _ => true⟩]

/-- A user's number. -/
def userId? (s : String) : Option Int64 := Decimal.int64? s.toList

/-- A command: its own options and operands, and what it makes of them. -/
structure Form where
  specs : List Spec := []
  operands : Nat := 0
  build : Words → Option Command

/-- The option that names a user. -/
def userSpec : Spec := ⟨"user-id", fun s => (userId? s).isSome⟩

/-- The commands by name. -/
def forms : List (String × Form) := [
  ("issue", {
    specs := [userSpec, ⟨"role", fun s => (Role.ofName? s).isSome⟩]
    build := fun w => do
      return .issue (← w.option? "user-id" >>= userId?)
        (← Role.ofName? ((w.option? "role").getD Role.user.name)) }),
  ("inspect", { operands := 1, build := fun w => do return .inspect (← w.operands[0]?) }),
  ("sign-state", {
    specs := [userSpec]
    build := fun w => do return .signState (← w.option? "user-id" >>= userId?) }),
  ("verify-state", {
    specs := [⟨"max-age", fun s => (Duration.parse? s).isSome⟩]
    operands := 1
    build := fun w => do
      return .verifyState (← w.operands[0]?) (w.option? "max-age" >>= Duration.parse?) }),
  ("hash-password", {
    specs := [{ name := "password" }]
    build := fun w => some (.hashPassword (w.option? "password")) }),
  ("verify-password", {
    specs := [{ name := "hash" }, { name := "password" }]
    build := fun w => do return .verifyPassword (← w.option? "hash") (w.option? "password") }),
  ("send-test-email", {
    specs := [{ name := "to" }]
    build := fun w => do return .sendTestEmail (← w.option? "to") })]

/-- What the arguments behind the word `help` ask for: nothing more, or one command. -/
def helpStop (args : List String) : Stop :=
  match args with
  | [] => .help
  | [name] => if name = "help" ∨ (forms.lookup name).isSome then .help else .usage
  | _ => .usage

/-- Reads the arguments. `configPath` stands in where they name no path of the settings. -/
def parse (configPath : Option String) (args : List String) : Except Stop CommandLine := do
  let (tool, rest) ← Words.read { specs := toolSpecs, isTop := true } {} args
  match rest with
  | [] => throw .usage
  | name :: rest =>
    if name = "help" then throw (helpStop rest)
    let some form := forms.lookup name | throw .usage
    let (own, _) ← Words.read ⟨toolSpecs ++ form.specs, form.operands, false⟩ {} rest
    let some command := form.build own | throw .usage
    let inner := own.option? "config"
    let outer := tool.option? "config"
    -- each level that names no path looks at the one that stands in
    if configPath = some "" ∧ (inner.isNone ∨ outer.isNone) then throw .usage
    return {
      configPath := inner.or (outer.or configPath)
      logLevel := (own.option? "log-level").or (tool.option? "log-level")
      command }

end CommandLine
end AccountAccess
