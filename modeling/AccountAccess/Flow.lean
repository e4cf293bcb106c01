import AccountAccess.Account
import AccountAccess.Failure
import AccountAccess.Mail.Message
import AccountAccess.Table
import AccountAccess.Time.Duration

/-!
What an operation asks of its collaborators: an account store, a revocation ledger and a mailer.

* A `Request` is one call on a collaborator, with the type of its answer; a `Reply` is that answer,
  a refusal, or silence.
* A `Flow` is an operation as data: what it ends with, or its next request and how it goes on after
  each reply. A flow says nothing of how requests are answered, so what it asks for can be stated
  for collaborators of every kind, and flows can be interleaved request by request.
* `Flow.run` answers the requests in turn.
* A `Fault` delays every call of a kind, and may refuse it, before or after it is carried out.
  `Fault.disturbed` answers as a handler does but for the faults: a call that is not answered within
  the limit is cut off, and one that is cut off or refused beforehand has no effect.
-/

namespace AccountAccess

/-! ### Requests -/

/-- A call on a collaborator. -/
inductive Request where
  | createAccount (account : NewAccount)
  | findByEmail (email : String)
  | updatePassword (email passwordHash : String)
  | findReset (fingerprint : String)
  | deleteReset (fingerprint : String)
  | replaceReset (record : ResetRecord)
  | isRevoked (id : String)
  | revoke (id : String) (needed : Instant)
  | send (message : Mail.Message)
  deriving DecidableEq, Repr

namespace Request

/-- What a call is answered with. -/
abbrev Answer : Request → Type
  | createAccount _ => Account
  | findByEmail _ => Option Account
  | updatePassword _ _ => Unit
  | findReset _ => Option ResetRecord
  | deleteReset _ => Unit
  | replaceReset _ => Nat
  | isRevoked _ => Bool
  | revoke _ _ => Unit
  | send _ => Unit

/-- The kinds of calls. -/
inductive Kind where
  | createAccount
  | findByEmail
  | updatePassword
  | findReset
  | deleteReset
  | replaceReset
  | isRevoked
  | revoke
  | send
  deriving DecidableEq, Repr

/-- The kind of a call. -/
def kind : Request → Kind
  | createAccount _ => .createAccount
  | findByEmail _ => .findByEmail
  | updatePassword _ _ => .updatePassword
  | findReset _ => .findReset
  | deleteReset _ => .deleteReset
  | replaceReset _ => .replaceReset
  | isRevoked _ => .isRevoked
  | revoke _ _ => .revoke
  | send _ => .send

/-- How a call that was not answered in time is named. -/
def Kind.operation : Kind → String
  | createAccount => "account insert"
  | findByEmail => "account lookup"
  | updatePassword => "password update"
  | findReset => "reset record lookup"
  | deleteReset => "reset record delete"
  | replaceReset => "reset record replace"
  | isRevoked => "revocation lookup"
  | revoke => "revocation write"
  | send => "reset email"

end Request

/-- How a collaborator reacts to a call. -/
inductive Reply (α : Type) where
  | value (answer : α)
  | refused (reason : Failure)
  /-- There was no answer in time. -/
  | silent
  deriving DecidableEq, Repr

/-! ### Flows -/

/-- How an operation ends. -/
inductive Outcome (α : Type) where
  | ok (value : α)
  | refused (reason : Failure)
  /-- An instant was needed that the calendar does not hold; the operation broke off. -/
  | beyondCalendar
  deriving DecidableEq, Repr

/-- The outcome of a computation that needs no collaborator. -/
def Outcome.ofExcept : Except Failure α → Outcome α
  | .ok a => .ok a
  | .error f => .refused f

/-- An operation, request by request. -/
inductive Flow (α : Type) where
  | ended (outcome : Outcome α)
  | call (request : Request) (next : Reply request.Answer → Flow α)

namespace Flow

/-- Goes on after a flow that ends with a value. -/
def bind : Flow α → (α → Flow β) → Flow β
  | ended (.ok a), f => f a
  | ended (.refused reason), _ => ended (.refused reason)
  | ended .beyondCalendar, _ => ended .beyondCalendar
  | call request next, f => call request fun reply => (next reply).bind f

instance : Monad Flow where
  pure a := ended (.ok a)
  bind := bind

/-- Ends with a refusal. -/
def refuse (reason : Failure) : Flow α := ended (.refused reason)

/-- Ends with what a computation without collaborators comes to. -/
def ofExcept (x : Except Failure α) : Flow α := ended (.ofExcept x)

/-- The instant, if the calendar holds it. -/
def instant : Option Instant → Flow Instant
  | some i => ended (.ok i)
  | none => ended .beyondCalendar

/-- Makes a call and goes on only with an answer: a refusal and silence end the flow. -/
def ask (request : Request) : Flow request.Answer :=
  call request fun
    | .value answer => ended (.ok answer)
    | .refused reason => refuse reason
    | .silent => refuse (.timeout request.kind.operation)

/-! ### Running -/

/-- Collaborators with a state: how each call is answered, and the state after it. -/
abbrev Handler (σ : Type) := σ → (request : Request) → Reply request.Answer × σ

/-- Runs a flow: each request is answered in turn. -/
def run (answer : Handler σ) : Flow α → σ → Outcome α × σ
  | ended outcome, s => (outcome, s)
  | call request next, s =>
    let (reply, s) := answer s request
    (next reply).run answer s

@[simp] theorem run_pure (answer : Handler σ) (a : α) (s : σ) :
    (pure a : Flow α).run answer s = (.ok a, s) := rfl

@[simp] theorem run_ended (answer : Handler σ) (o : Outcome α) (s : σ) :
    (ended o).run answer s = (o, s) := rfl

/-- A flow runs as its first part, and then as what follows on the value of that. -/
theorem run_bind (answer : Handler σ) (x : Flow α) (f : α → Flow β) (s : σ) :
    (x >>= f).run answer s =
      match x.run answer s with
      | (.ok a, s) => (f a).run answer s
      | (.refused reason, s) => (.refused reason, s)
      | (.beyondCalendar, s) => (.beyondCalendar, s) := by
  induction x generalizing s with
  | ended outcome => cases outcome <;> rfl
  | call request next ih => exact ih (answer s request).1 (answer s request).2

end Flow

/-! ### Faults -/

/-- A disturbance of calls. -/
structure Fault where
  /-- What the call is refused with, if it is. -/
  reason : Option String
  /-- How long the call waits, in milliseconds. -/
  delay : Nat
  /-- The call is carried out first. -/
  afterwards : Bool
  deriving DecidableEq, Repr

namespace Fault

/-- The disturbances in force. -/
abbrev Plan := Table Request.Kind Fault

/-- A limit in milliseconds; a millisecond that has begun counts whole. -/
def milliseconds (limit : Duration) : Nat := (limit.total + 999999) / 1000000

/-- The call waits for longer than the limit. -/
def isTooSlow (f : Fault) (limit : Duration) : Bool := decide (milliseconds limit < f.delay)

/-- What a refused call is refused with. -/
def failure (kind : Request.Kind) (reason : String) : Failure :=
  match kind with
  | .send => .delivery reason
  | _ => .storage reason

/-- Answers calls under faults and within a limit. -/
def disturbed (limit : Duration) (plan : Plan) (answer : Flow.Handler σ) : Flow.Handler σ :=
  fun s request =>
    match plan.get? request.kind with
    | none => answer s request
    | some f =>
      let (reply, after) := if f.afterwards || (!f.isTooSlow limit && f.reason.isNone)
        then answer s request else (.silent, s)
      if f.isTooSlow limit then (.silent, after)
      else match f.reason with
        | some reason => (.refused (failure request.kind reason), after)
        | none => (reply, after)

/-- Without faults nothing is disturbed. -/
@[simp] theorem disturbed_empty (limit : Duration) (answer : Flow.Handler σ) :
    disturbed limit ∅ answer = answer := rfl

end Fault
end AccountAccess
