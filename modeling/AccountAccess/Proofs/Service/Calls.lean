import AccountAccess.World
import Mathlib.Tactic.Common

/-!
What each operation of the service comes to over the collaborators in memory, while nothing but the
mailer is disturbed.

* `Fault.OnlyMail`: the stores answer as they are, and the mailer may fail or be late.
* One statement an operation: `Service.run_register`, `Service.run_login`, `Session.run_verify`,
  `Session.run_revoke`, `PasswordReset.run_request_snd` and `PasswordReset.run_consume`. What is
  proved of runs goes back to these and not to the flows.
-/

namespace AccountAccess

/-! ### The handler -/

/-- Nothing but the mailer is disturbed. -/
def Fault.OnlyMail (plan : Fault.Plan) : Prop := ∀ kind, kind ≠ .send → plan.get? kind = none

/-- Without faults nothing is disturbed. -/
lemma Fault.onlyMail_empty : Fault.OnlyMail ∅ := fun _ _ => rfl

namespace Flow

variable {σ α : Type} {answer : Handler σ} {s s' : σ} {request : Request}

/-- A call that is answered ends with the answer. -/
lemma run_ask_value {a : request.Answer} (h : answer s request = (.value a, s')) :
    (ask request).run answer s = (.ok a, s') := by
  rw [ask, run, h]
  rfl

/-- A call that is refused ends with the refusal. -/
lemma run_ask_refused {f : Failure} (h : answer s request = (.refused f, s')) :
    (ask request).run answer s = (.refused f, s') := by
  rw [ask, run, h]
  rfl

/-- A call leaves what its handler leaves. -/
lemma run_ask_snd : ((ask request).run answer s).2 = (answer s request).2 := by
  rw [ask, run]
  rcases answer s request with ⟨_ | _ | _, s'⟩ <;> rfl

/-- A flow whose first part ends with a value goes on with it. -/
lemma run_bind_ok {β : Type} {x : Flow α} {f : α → Flow β} {a : α}
    (h : x.run answer s = (.ok a, s')) : (x >>= f).run answer s = (f a).run answer s' := by
  rw [run_bind, h]

/-- A flow whose first part is refused is refused. -/
lemma run_bind_refused {β : Type} {x : Flow α} {f : α → Flow β} {e : Failure}
    (h : x.run answer s = (.refused e, s')) : (x >>= f).run answer s = (.refused e, s') := by
  rw [run_bind, h]

end Flow

namespace Fault

variable {plan : Fault.Plan} {limit : Duration} {b : Backend}

/-- A call on a store is answered as it is. -/
lemma OnlyMail.disturbed_eq (h : OnlyMail plan) {request : Request} (hkind : request.kind ≠ .send) :
    disturbed limit plan Backend.answer b request = b.answer request := by
  rw [disturbed, h request.kind hkind]

/-- Under faults a call has the effect that it has without, or none. -/
lemma disturbed_snd {σ : Type} (limit : Duration) (plan : Plan) (answer : Flow.Handler σ) (s : σ)
    (request : Request) :
    (disturbed limit plan answer s request).2 = (answer s request).2 ∨
      (disturbed limit plan answer s request).2 = s := by
  rw [disturbed]
  cases plan.get? request.kind with
  | none => exact Or.inl rfl
  | some f =>
      rcases f with ⟨reason, delay, afterwards⟩
      cases reason <;> dsimp only <;> split_ifs <;> first | exact Or.inl rfl | exact Or.inr rfl

/-- Sending mail changes nothing but the messages that were sent, of which there is at most one
more. -/
lemma disturbed_send_snd (limit : Duration) (plan : Plan) (b : Backend) (m : Mail.Message) :
    ∃ sent, (sent = b.sent ∨ sent = m :: b.sent) ∧
      (disturbed limit plan Backend.answer b (.send m)).2 = { b with sent } := by
  rcases disturbed_snd limit plan Backend.answer b (.send m) with heffect | hnone
  · exact ⟨m :: b.sent, Or.inr rfl, heffect⟩
  · exact ⟨b.sent, Or.inl rfl, hnone⟩

end Fault

/-! ### Accounts -/

section

variable {plan : Fault.Plan} (h : Fault.OnlyMail plan) (limit : Duration) (b : Backend)
include h

namespace Service

variable (service : Service)

/-- Registration creates the account and opens a session for it. -/
theorem run_register (fullName email password : String) (salt : Bytes) (id : String)
    (clock : Reading) :
    (service.register fullName email password salt id clock).run
        (Fault.disturbed limit plan Backend.answer) b =
      match b.store.create
          { fullName, email, passwordHash := service.hasher.hash salt password } with
      | (.ok account, store) => (.ok (service.openSession account id clock), { b with store })
      | (.error f, store) => (.refused f, { b with store }) := by
  rw [register]
  generalize hnew : NewAccount.mk fullName email (service.hasher.hash salt password) = new
  have hask : Fault.disturbed limit plan Backend.answer b (.createAccount new) =
      (Backend.reply (b.store.create new).1, { b with store := (b.store.create new).2 }) :=
    h.disturbed_eq Request.Kind.noConfusion
  rcases hcreate : b.store.create new with ⟨f | account, store⟩ <;> rw [hcreate] at hask
  · exact Flow.run_bind_refused (Flow.run_ask_refused hask)
  · exact Flow.run_bind_ok (Flow.run_ask_value hask)

/-- Logging in changes nothing, and opens a session for the account of the address. -/
theorem run_login (email password id : String) (clock : Reading) :
    (service.login email password id clock).run (Fault.disturbed limit plan Backend.answer) b =
      ((match b.store.find? email with
        | none => .refused (.notFound "User not registered")
        | some account =>
          match service.hasher.verify password account.passwordHash with
          | .error f => .refused f
          | .ok true => .ok (service.openSession account id clock)
          | .ok false => .refused .wrongPassword), b) := by
  have hask : Fault.disturbed limit plan Backend.answer b (.findByEmail email) =
      (.value (b.store.find? email), b) :=
    h.disturbed_eq Request.Kind.noConfusion
  rw [login, Flow.run_bind_ok (Flow.run_ask_value hask)]
  cases b.store.find? email with
  | none => rfl
  | some account =>
      dsimp only
      cases service.hasher.verify password account.passwordHash with
      | error f => rfl
      | ok matched => cases matched <;> rfl

end Service

/-! ### Sessions -/

namespace Session

/-- Verifying answers whom a credential with an identifier speaks for, unless the identifier is
entered in the ledger. -/
theorem run_verify (codec : Codec) (token : String) (clock : Reading) :
    (verify codec token clock).run (Fault.disturbed limit plan Backend.answer) b =
      (.ok (match codec.decode token clock with
        | .error _ => none
        | .ok c => c.id.bind fun id =>
          if b.ledger.isRevoked id then none else some ⟨c.userId, c.role⟩), b) := by
  rw [verify]
  cases codec.decode token clock with
  | error e => rfl
  | ok c =>
      dsimp only
      cases c.id with
      | none => rfl
      | some id =>
          dsimp only [Option.bind_some]
          rw [Flow.run, h.disturbed_eq Request.Kind.noConfusion]
          dsimp only [Backend.answer]
          cases b.ledger.isRevoked id <;> rfl

/-- What revoking a credential enters: its identifier, and the end of its widened window as far as
the calendar holds that instant. -/
def entered? (codec : Codec) (token : String) (clock : Reading) : Option (String × Instant) := do
  let c ← (codec.decode token clock).toOption
  let id ← c.id
  let needed ← c.expiresAt.addSeconds? codec.leeway
  return (id, needed)

/-- Revoking breaks off where a credential with an identifier has a window that ends past the
calendar. -/
theorem run_revoke (codec : Codec) (token : String) (clock : Reading) :
    (revoke codec token clock).run (Fault.disturbed limit plan Backend.answer) b =
      match codec.decode token clock with
      | .error _ => (.ok (), b)
      | .ok c =>
        match c.id with
        | none => (.ok (), b)
        | some id =>
          match c.expiresAt.addSeconds? codec.leeway with
          | none => (.beyondCalendar, b)
          | some needed => (.ok (), { b with ledger := b.ledger.revoke id needed }) := by
  rw [revoke]
  cases codec.decode token clock with
  | error e => rfl
  | ok c =>
      dsimp only
      cases c.id with
      | none => rfl
      | some id =>
          dsimp only
          cases c.expiresAt.addSeconds? codec.leeway with
          | none => rfl
          | some needed => exact Flow.run_ask_value (h.disturbed_eq Request.Kind.noConfusion)

/-- Revoking changes the ledger alone. -/
theorem run_revoke_snd (codec : Codec) (token : String) (clock : Reading) :
    ((revoke codec token clock).run (Fault.disturbed limit plan Backend.answer) b).2 =
      { b with
        ledger := (entered? codec token clock).elim b.ledger fun entry =>
          b.ledger.revoke entry.1 entry.2 } := by
  rw [run_revoke h, entered?]
  cases codec.decode token clock with
  | error e => rfl
  | ok c =>
      dsimp only [Except.toOption, Option.bind_eq_bind, Option.bind_some]
      cases c.id with
      | none => rfl
      | some id =>
          dsimp only [Option.bind_some]
          cases c.expiresAt.addSeconds? codec.leeway <;> rfl

end Session

/-! ### Passwords that were forgotten -/

namespace PasswordReset

/-- The record that a request stores: for the account of the address, if there is one, and as far as
the calendar holds its expiry. -/
def stored? (config : AccessConfig) (codec : Codec) (store : AccountStore) (email : String)
    (clock : Reading) : Option ResetRecord := do
  let account ← store.find? email
  let expiresAt ← clock.now.addSeconds? Claims.resetLifetime
  return .ofToken account.email (codec.encode (claims config codec account clock)) clock.now
    expiresAt

/-- A request stores a record in place of the other ones of its account, and then tries to send the
credential. -/
theorem run_request_snd (config : AccessConfig) (codec : Codec) (email : String)
    (clock : Reading) :
    ∃ sent,
      (sent = b.sent ∨ ∃ account, b.store.find? email = some account ∧
        sent = .passwordReset account.email (codec.encode (claims config codec account clock)) ::
          b.sent) ∧
      ((request config codec email clock).run (Fault.disturbed limit plan Backend.answer) b).2 =
        { b with
          store := (stored? config codec b.store email clock).elim b.store fun r =>
            (b.store.replaceReset r).2
          sent } := by
  have hfind : Fault.disturbed limit plan Backend.answer b (.findByEmail email) =
      (.value (b.store.find? email), b) :=
    h.disturbed_eq Request.Kind.noConfusion
  rw [request, Flow.run_bind_ok (Flow.run_ask_value hfind), stored?]
  cases b.store.find? email with
  | none => exact ⟨b.sent, Or.inl rfl, rfl⟩
  | some account =>
      dsimp only [Option.bind_eq_bind, Option.bind_some]
      cases clock.now.addSeconds? Claims.resetLifetime with
      | none => exact ⟨b.sent, Or.inl rfl, rfl⟩
      | some expiresAt =>
          dsimp only [Option.bind_some, Option.pure_def, Option.elim_some]
          generalize hrecord : ResetRecord.ofToken account.email
            (codec.encode (claims config codec account clock)) clock.now expiresAt = r
          have hreplace : Fault.disturbed limit plan Backend.answer b (.replaceReset r) =
              (.value (b.store.replaceReset r).1,
                { b with store := (b.store.replaceReset r).2 }) :=
            h.disturbed_eq Request.Kind.noConfusion
          obtain ⟨sent, hmost, hsent⟩ := Fault.disturbed_send_snd limit plan
            { b with store := (b.store.replaceReset r).2 }
            (.passwordReset account.email (codec.encode (claims config codec account clock)))
          refine ⟨sent, hmost.imp_right fun hone => ⟨account, rfl, hone⟩, ?_⟩
          rw [Flow.run_bind_ok (a := expiresAt) rfl, hrecord,
            Flow.run_bind_ok (Flow.run_ask_value hreplace), Flow.run_ask_snd, hsent]

/-- Whoever presents a credential that is looked up and accepted sets the password of the account
whose address the record holds, and the record is taken out. -/
theorem run_consume (codec : Codec) (hasher : PasswordHasher) (token password : String)
    (salt : Bytes) (clock : Reading) :
    (consume codec hasher token password salt clock).run
        (Fault.disturbed limit plan Backend.answer) b =
      match b.store.findReset? (fingerprint token) with
      | none => (.refused (.notFound "User with provided token not found"), b)
      | some record =>
        match codec.decode token clock with
        | .error e => (.refused e.toFailure, b)
        | .ok _ =>
          match b.store.updatePassword record.email (hasher.hash salt password) with
          | (.error f, store) => (.refused f, { b with store })
          | (.ok (), store) =>
            (.ok (), { b with store := store.deleteReset (fingerprint token) }) := by
  have hfind : Fault.disturbed limit plan Backend.answer b (.findReset (fingerprint token)) =
      (.value (b.store.findReset? (fingerprint token)), b) :=
    h.disturbed_eq Request.Kind.noConfusion
  rw [consume, Flow.run_bind_ok (Flow.run_ask_value hfind)]
  cases b.store.findReset? (fingerprint token) with
  | none => rfl
  | some record =>
      dsimp only
      cases codec.decode token clock with
      | error e => rfl
      | ok c =>
          have hupdate : Fault.disturbed limit plan Backend.answer b
              (.updatePassword record.email (hasher.hash salt password)) =
                (Backend.reply (b.store.updatePassword record.email (hasher.hash salt password)).1,
                  { b with
                    store := (b.store.updatePassword record.email
                      (hasher.hash salt password)).2 }) :=
            h.disturbed_eq Request.Kind.noConfusion
          show Flow.run _ (Flow.ask (.updatePassword _ _) >>= _) b = _
          rcases hdone : b.store.updatePassword record.email (hasher.hash salt password) with
            ⟨f | ⟨⟩, store⟩ <;> rw [hdone] at hupdate
          · exact Flow.run_bind_refused (Flow.run_ask_refused hupdate)
          · rw [Flow.run_bind_ok (Flow.run_ask_value hupdate)]
            exact Flow.run_ask_value (h.disturbed_eq Request.Kind.noConfusion)

/-- The record that a reset of a password uses up: the one of the credential, if the credential is
accepted and the address in the record has an account. -/
def usable? (codec : Codec) (store : AccountStore) (token : String) (clock : Reading) :
    Option ResetRecord :=
  (store.findReset? (fingerprint token)).filter fun r =>
    (codec.decode token clock).toOption.isSome && (store.find? r.email).isSome

omit h in
/-- What a record has to meet to be used up. -/
lemma usable?_eq_some_iff {codec : Codec} {store : AccountStore} {token : String} {clock : Reading}
    {r : ResetRecord} :
    usable? codec store token clock = some r ↔
      store.findReset? (fingerprint token) = some r ∧
        (∃ c, codec.decode token clock = .ok c) ∧
          ∃ account, store.find? r.email = some account := by
  rw [usable?, Option.filter_eq_some_iff, Bool.and_eq_true, Option.isSome_iff_exists,
    Option.isSome_iff_exists]
  cases codec.decode token clock <;> simp [Except.toOption]

/-- With a record to use up a reset succeeds. -/
theorem run_consume_of_usable {codec : Codec} {hasher : PasswordHasher} {token : String}
    (password : String) (salt : Bytes) {clock : Reading} {r : ResetRecord}
    (hr : usable? codec b.store token clock = some r) :
    (consume codec hasher token password salt clock).run
        (Fault.disturbed limit plan Backend.answer) b =
      (.ok (), { b with
        store := (b.store.updatePassword r.email (hasher.hash salt password)).2.deleteReset
          (fingerprint token) }) := by
  obtain ⟨hfound, ⟨c, hdecode⟩, account, haccount⟩ := usable?_eq_some_iff.mp hr
  have hupdate : (b.store.updatePassword r.email (hasher.hash salt password)).1 = .ok () := by
    rw [AccountStore.updatePassword, AccountStore.change_of_some haccount]
  rw [run_consume h, hfound, hdecode]
  dsimp only
  rcases hdone : b.store.updatePassword r.email (hasher.hash salt password) with ⟨f | ⟨⟩, store⟩
  · rw [hdone] at hupdate
    cases hupdate
  · rfl

/-- Without a record to use up a reset is refused and changes nothing. -/
theorem run_consume_of_not_usable {codec : Codec} (hasher : PasswordHasher) {token : String}
    (password : String) (salt : Bytes) {clock : Reading}
    (hnone : usable? codec b.store token clock = none) :
    ∃ f, (consume codec hasher token password salt clock).run
      (Fault.disturbed limit plan Backend.answer) b = (.refused f, b) := by
  rw [run_consume h]
  cases hfound : b.store.findReset? (fingerprint token) with
  | none => exact ⟨_, rfl⟩
  | some record =>
      cases hdecode : codec.decode token clock with
      | error e => exact ⟨_, rfl⟩
      | ok c =>
          have habsent : b.store.find? record.email = none := by
            cases haccount : b.store.find? record.email with
            | none => rfl
            | some account =>
                rw [usable?_eq_some_iff.mpr ⟨hfound, ⟨c, hdecode⟩, account, haccount⟩] at hnone
                cases hnone
          have hupdate : b.store.updatePassword record.email (hasher.hash salt password) =
              (.error (.notFound "User not registered"), b.store) := by
            rw [AccountStore.updatePassword, AccountStore.change_of_none habsent]
          dsimp only
          rw [hupdate]
          exact ⟨_, rfl⟩

/-- A reset changes the store alone. -/
theorem run_consume_snd (codec : Codec) (hasher : PasswordHasher) (token password : String)
    (salt : Bytes) (clock : Reading) :
    ((consume codec hasher token password salt clock).run
        (Fault.disturbed limit plan Backend.answer) b).2 =
      { b with
        store := (usable? codec b.store token clock).elim b.store fun r =>
          (b.store.updatePassword r.email (hasher.hash salt password)).2.deleteReset
            (fingerprint token) } := by
  cases hr : usable? codec b.store token clock with
  | none =>
      obtain ⟨f, hrun⟩ := run_consume_of_not_usable h limit b hasher password salt hr
      rw [hrun]
      rfl
  | some r =>
      rw [run_consume_of_usable h limit b password salt hr]
      rfl

end PasswordReset

end
end AccountAccess
