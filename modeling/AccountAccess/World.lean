import AccountAccess.Flow
import AccountAccess.Memory.Backend
import AccountAccess.Service

/-!
A service at work over the collaborators in memory, with one clock for all of them.

* An `Operation` is anything that can happen: a call on the service, a change made to the store
  behind its back, a cleanup, a move of the clock, or a change of the faults in force. Randomness is
  part of an operation, so a run is determined by its operations.
* `World.step` carries an operation out, and `World.after` a list of them.
-/

namespace AccountAccess

/-- The collaborators in memory, the clock, and the faults in force. -/
structure World where
  clock : ManualClock
  backend : Backend := {}
  faults : Fault.Plan := ∅

/-- Something that happens. -/
inductive Operation where
  | register (fullName email password : String) (salt : Bytes) (id : String)
  | login (email password id : String)
  | issue (userId : Int64) (role : Role) (id : String)
  | verify (token : String)
  | logout (token : String)
  | requestReset (email : String)
  | resetPassword (token password : String) (salt : Bytes)
  | setAdmin (email : String) (value : Bool)
  | setPasswordHash (email hash : String)
  | cleanupLedger
  | cleanupResets
  | advance (seconds : Int)
  | setClock (target : Instant)
  | disturb (kind : Request.Kind) (fault : Fault)
  | calm

namespace Operation

/-- What an operation is answered with. -/
abbrev Answer : Operation → Type
  | register .. | login .. => Outcome OpenSession
  | issue .. => String
  | verify _ => Outcome (Option Identity)
  | logout _ | requestReset _ | resetPassword .. => Outcome Unit
  | setAdmin .. | setPasswordHash .. => Except Failure Unit
  | cleanupLedger | cleanupResets => Nat
  | advance _ | setClock _ => Int64
  | disturb .. | calm => Unit

end Operation

namespace World

/-- What the clock shows. -/
def reading (w : World) : Reading := w.clock.read

/-- Runs a flow over the collaborators, under the faults in force and within a limit. -/
def perform (w : World) (limit : Duration) (flow : Reading → Flow α) : Outcome α × World :=
  let (outcome, backend) := (flow w.reading).run (Fault.disturbed limit w.faults Backend.answer)
    w.backend
  (outcome, { w with backend })

/-- The world with another store. -/
def withStore (w : World) (store : AccountStore) : World :=
  { w with backend := { w.backend with store } }

/-- The world with another ledger. -/
def withLedger (w : World) (ledger : RevocationLedger) : World :=
  { w with backend := { w.backend with ledger } }

/-- The world with its clock moved. -/
def withClock (w : World) (clock : ManualClock) : Int64 × World :=
  (clock.second, { w with clock })

/-- Carries an operation out. -/
def step (service : Service) (w : World) (operation : Operation) : operation.Answer × World :=
  let limit := service.config.storeTimeout
  match operation with
  | .register fullName email password salt id =>
    w.perform limit (service.register fullName email password salt id)
  | .login email password id => w.perform limit (service.login email password id)
  | .issue userId role id => (Session.issue service.codec userId role id w.reading, w)
  | .verify token => w.perform limit (service.verify token)
  | .logout token => w.perform limit (service.logout token)
  | .requestReset email => w.perform limit (service.requestReset email)
  | .resetPassword token password salt =>
    w.perform limit (service.resetPassword token password salt)
  | .setAdmin email value =>
    let (answer, store) := w.backend.store.setAdmin email value
    (answer, w.withStore store)
  | .setPasswordHash email hash =>
    let (answer, store) := w.backend.store.updatePassword email hash
    (answer, w.withStore store)
  | .cleanupLedger =>
    let (removed, ledger) := w.backend.ledger.cleanup w.reading.now
    (removed, w.withLedger ledger)
  | .cleanupResets =>
    let (removed, store) := w.backend.store.cleanupResets w.reading.now
    (removed, w.withStore store)
  | .advance seconds => w.withClock (w.clock.advance seconds)
  | .setClock target => w.withClock (w.clock.set target)
  | .disturb kind fault => ((), { w with faults := w.faults.insert kind fault })
  | .calm => ((), { w with faults := ∅ })

/-- The world after a run of operations. -/
def after (service : Service) (w : World) (operations : List Operation) : World :=
  operations.foldl (fun w operation => (step service w operation).2) w

end World
end AccountAccess
