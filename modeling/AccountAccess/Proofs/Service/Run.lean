import AccountAccess.Proofs.Service.Calls

/-!
Runs of operations, and what a single operation leaves as it was.

* `Service.leeway_codec`: what an accepted service widens the window of its credentials by.
* `World.after_append`: a run in two parts. `World.Throughout`: something holds of every operation
  of a run, where it is carried out.
* `Operation.DisturbsOnlyMail`, `World.onlyMail_step`: runs on which the stores answer as they are.
* `World.RunsForward`: runs on which the clock never goes back and stays between 1970 and a last
  second.
* `World.step_ledger`, `World.step_store` and `World.step_sent`: what each operation does to the
  ledger, to the store and to the messages.
-/

namespace AccountAccess

/-! ### Services that were accepted -/

/-- An accepted leeway is at most five minutes. -/
lemma AccessConfig.leeway_le_of_check {config : AccessConfig} (h : config.check = none) :
    config.leeway.secs.toNat ≤ 300 := by
  have htotal : config.leeway.total ≤ maxLeeway.total := by
    rw [check] at h
    split_ifs at h with _ _ _ hleeway
    exact Nat.not_lt.mp hleeway
  have hmax : maxLeeway.total = 300 * 1000000000 := by decide
  rw [hmax, Duration.total] at htotal
  omega

/-- The service of an accepted configuration works by it. -/
lemma Service.config_of_ofConfig {config : AccessConfig} {service : Service}
    (h : Service.ofConfig config = .ok service) :
    service.config = config ∧ config.check = none := by
  rw [Service.ofConfig] at h
  cases hcheck : config.check with
  | some e => rw [hcheck] at h; cases h
  | none =>
      rw [hcheck] at h
      cases hcost : PasswordHasher.ofCost config.password with
      | error f => rw [hcost] at h; cases h
      | ok hasher =>
          rw [hcost] at h
          cases h
          exact ⟨rfl, rfl⟩

/-- The codec of a service widens by the whole seconds of the configured leeway. -/
lemma Service.leeway_codec {config : AccessConfig} {service : Service}
    (h : Service.ofConfig config = .ok service) :
    service.codec.leeway = config.leeway.secs.toNat ∧ service.codec.leeway ≤ 300 := by
  obtain ⟨hconfig, hcheck⟩ := Service.config_of_ofConfig h
  have hle := AccessConfig.leeway_le_of_check hcheck
  have hleeway : service.codec.leeway = config.leeway.secs.toNat := by
    show (saturate service.config.leeway.secs.toNat).toInt.toNat = _
    rw [hconfig, toInt_saturate_of_fits, Int.toNat_natCast]
    · simp only [int64Least]
      omega
    · simp only [int64Greatest]
      omega
  exact ⟨hleeway, hleeway ▸ hle⟩

/-- A configuration with nothing wrong. -/
def AccessConfig.sample : AccessConfig := { secret := "0123456789abcdef0123456789abcdef" }

/-- The service of that configuration. -/
def Service.sample : Service := ⟨.sample, ⟨AccessConfig.sample.password, by decide⟩⟩

lemma Service.ofConfig_sample : Service.ofConfig .sample = .ok .sample := rfl

/-- The operation puts no fault in force but one of the mailer. -/
def Operation.DisturbsOnlyMail : Operation → Prop
  | .disturb kind _ => kind = .send
  | _ => True

/-- How an operation moves a clock. -/
def Operation.move (c : ManualClock) : Operation → ManualClock
  | .advance seconds => c.advance seconds
  | .setClock target => c.set target
  | _ => c

namespace World

variable {service : Service} {w : World}

/-! ### Runs -/

/-- The world in which nothing has happened yet. -/
def fresh (start : Int64) : World := { clock := ⟨start⟩ }

lemma after_cons (operation : Operation) (operations : List Operation) :
    after service w (operation :: operations) =
      after service (step service w operation).2 operations := rfl

/-- A run in two parts. -/
lemma after_append (first second : List Operation) :
    after service w (first ++ second) = after service (after service w first) second := by
  rw [after, List.foldl_append]
  rfl

/-- Something holds of every operation of a run, where it is carried out. -/
def Throughout (service : Service) (p : World → Operation → Prop) : World → List Operation → Prop
  | _, [] => True
  | w, operation :: operations =>
    p w operation ∧ Throughout service p (step service w operation).2 operations

/-- What comes to the same under an invariant comes to the same throughout a run. -/
lemma Throughout.iff_of_invariant {p q : World → Operation → Prop}
    {inv : World → List Operation → Prop}
    (hkeep : ∀ w operation rest, inv w (operation :: rest) → inv (step service w operation).2 rest)
    (hiff : ∀ w operation rest, inv w (operation :: rest) → (p w operation ↔ q w operation))
    {operations : List Operation} (h : inv w operations) :
    Throughout service p w operations ↔ Throughout service q w operations := by
  induction operations generalizing w with
  | nil => exact Iff.rfl
  | cons operation rest ih =>
      exact and_congr (hiff w operation rest h) (ih (hkeep w operation rest h))

/-- The stores answer as they are from one operation to the next. -/
lemma onlyMail_step (h : Fault.OnlyMail w.faults) {operation : Operation}
    (hmail : operation.DisturbsOnlyMail) :
    Fault.OnlyMail (step service w operation).2.faults := by
  cases operation with
  | disturb kind fault =>
      intro k hk
      have hkind : kind = .send := hmail
      show (w.faults.insert kind fault).get? k = none
      rw [Table.get?_insert, if_neg (hkind ▸ hk), h k hk]
  | calm => exact Fault.onlyMail_empty
  | _ => exact h

/-- The stores answer as they are throughout a run. -/
lemma onlyMail_after {operations : List Operation} (h : Fault.OnlyMail w.faults)
    (hmail : ∀ operation ∈ operations, operation.DisturbsOnlyMail) :
    Fault.OnlyMail (after service w operations).faults := by
  induction operations generalizing w with
  | nil => exact h
  | cons operation rest ih =>
      obtain ⟨hfirst, hrest⟩ := List.forall_mem_cons.mp hmail
      exact ih (onlyMail_step h hfirst) hrest

/-! ### The clock -/

lemma step_clock (operation : Operation) :
    (step service w operation).2.clock = operation.move w.clock := by
  cases operation <;> rfl

/-- A clock never goes back on a run, and stays between 1970 and a last second. -/
def RunsForward (last : Int) : ManualClock → List Operation → Prop
  | c, [] => 0 ≤ c.second.toInt ∧ c.second.toInt ≤ last
  | c, operation :: operations =>
    (0 ≤ c.second.toInt ∧ c.second.toInt ≤ last) ∧ c.second ≤ (operation.move c).second ∧
      RunsForward last (operation.move c) operations

instance decidableRunsForward (last : Int) (c : ManualClock) (operations : List Operation) :
    Decidable (RunsForward last c operations) :=
  match operations with
  | [] => inferInstanceAs (Decidable (_ ∧ _))
  | operation :: rest =>
    have := decidableRunsForward last (operation.move c) rest
    inferInstanceAs (Decidable (_ ∧ _ ∧ _))

namespace RunsForward

variable {last : Int} {operations first second : List Operation}

/-- The clock shows a second of the range where a run begins. -/
lemma bounds {c : ManualClock} (h : RunsForward last c operations) :
    0 ≤ c.second.toInt ∧ c.second.toInt ≤ last := by
  cases operations with
  | nil => exact h
  | cons operation rest => exact h.1

/-- The rest of a run goes forward. -/
lemma tail {operation : Operation} (service : Service)
    (h : RunsForward last w.clock (operation :: operations)) :
    RunsForward last (step service w operation).2.clock operations := by
  rw [step_clock]
  exact h.2.2

/-- An operation does not take the clock back. -/
lemma le_step {operation : Operation} (service : Service)
    (h : RunsForward last w.clock (operation :: operations)) :
    w.clock.second ≤ (step service w operation).2.clock.second := by
  rw [step_clock]
  exact h.2.1

/-- The second part of a run goes forward. -/
lemma right (service : Service) (h : RunsForward last w.clock (first ++ second)) :
    RunsForward last (after service w first).clock second := by
  induction first generalizing w with
  | nil => exact h
  | cons operation rest ih => exact ih (h.tail service)

/-- The first part of a run goes forward. -/
lemma left {c : ManualClock} (h : RunsForward last c (first ++ second)) :
    RunsForward last c first := by
  induction first generalizing c with
  | nil => exact h.bounds
  | cons operation rest ih => exact ⟨h.1, h.2.1, ih h.2.2⟩

/-- A run ends no earlier than it begins. -/
lemma le_after (service : Service) (h : RunsForward last w.clock operations) :
    w.clock.second ≤ (after service w operations).clock.second := by
  induction operations generalizing w with
  | nil => exact Int64.le_refl _
  | cons operation rest ih => exact Int64.le_trans (h.le_step service) (ih (h.tail service))

/-- What the clock shows within the calendar is the start of its second. -/
lemma now_eq (h : RunsForward last w.clock operations) (hlast : last ≤ Instant.lastSecond) :
    w.reading.now = .ofUnix w.clock.second.toInt := by
  have hfirst : Instant.firstSecond = -377705116800 := rfl
  obtain ⟨hlow, hhigh⟩ := h.bounds
  show Instant.ofUnixOrEpoch w.clock.second.toInt = _
  rw [Instant.ofUnixOrEpoch_eq, if_pos (by omega)]

end RunsForward

/-! ### What an operation does to the ledger and to the store -/

lemma perform_fst (limit : Duration) {α : Type} (flow : Reading → Flow α) :
    (w.perform limit flow).1 =
      ((flow w.reading).run (Fault.disturbed limit w.faults Backend.answer) w.backend).1 := rfl

lemma perform_snd (limit : Duration) {α : Type} (flow : Reading → Flow α) :
    (w.perform limit flow).2 =
      { w with
        backend :=
          ((flow w.reading).run (Fault.disturbed limit w.faults Backend.answer) w.backend).2 } :=
  rfl

section

variable (h : Fault.OnlyMail w.faults)
include h

/-- The answer to a verification, which leaves everything as it was. -/
lemma step_verify (token : String) :
    step service w (.verify token) =
      (.ok (match service.codec.decode token w.reading with
        | .error _ => none
        | .ok c => c.id.bind fun id =>
          if w.backend.ledger.isRevoked id then none else some ⟨c.userId, c.role⟩), w) := by
  refine Prod.ext ?_ ?_
  · show (w.perform _ (Session.verify service.codec token)).1 = _
    rw [perform_fst]
    exact congrArg Prod.fst (Session.run_verify h _ _ service.codec token w.reading)
  · show (w.perform _ (Session.verify service.codec token)).2 = w
    rw [perform_snd, Session.run_verify h]

/-- Registration opens a session for the account, if it is created. -/
lemma step_register (fullName email password : String) (salt : Bytes) (id : String) :
    let created := w.backend.store.create
      { fullName, email, passwordHash := service.hasher.hash salt password }
    step service w (.register fullName email password salt id) =
      (match created.1 with
        | .ok account => .ok (service.openSession account id w.reading)
        | .error f => .refused f, w.withStore created.2) := by
  show w.perform _ (service.register fullName email password salt id) = _
  rw [perform, Service.run_register h]
  rcases w.backend.store.create _ with ⟨f | account, store⟩ <;> rfl

/-- Registration may create an account. -/
lemma step_register_snd (fullName email password : String) (salt : Bytes) (id : String) :
    (step service w (.register fullName email password salt id)).2 =
      w.withStore (w.backend.store.create
        { fullName, email, passwordHash := service.hasher.hash salt password }).2 := by
  rw [step_register h]

/-- Logging in opens a session for the account of the address, and leaves everything as it was. -/
lemma step_login (email password id : String) :
    step service w (.login email password id) =
      (match w.backend.store.find? email with
        | none => .refused (.notFound "User not registered")
        | some account =>
          match service.hasher.verify password account.passwordHash with
          | .error f => .refused f
          | .ok true => .ok (service.openSession account id w.reading)
          | .ok false => .refused .wrongPassword, w) := by
  refine Prod.ext ?_ ?_
  · show (w.perform _ (service.login email password id)).1 = _
    rw [perform_fst]
    exact congrArg Prod.fst
      (Service.run_login h _ _ service email password id w.reading)
  · show (w.perform _ (service.login email password id)).2 = w
    rw [perform_snd, Service.run_login h]

/-- A password that matches opens a session for the account that is found. -/
lemma step_login_of_verify {email password id : String} {account : Account}
    (hfound : w.backend.store.find? email = some account)
    (hverify : service.hasher.verify password account.passwordHash = .ok true) :
    (step service w (.login email password id)).1 =
      .ok (service.openSession account id w.reading) := by
  rw [step_login h, hfound]
  dsimp only
  rw [hverify]

/-- Logging in leaves everything as it was. -/
lemma step_login_snd (email password id : String) :
    (step service w (.login email password id)).2 = w := by
  rw [step_login h]

/-- Logging out may enter something in the ledger. -/
lemma step_logout_snd (token : String) :
    (step service w (.logout token)).2 =
      w.withLedger ((Session.entered? service.codec token w.reading).elim w.backend.ledger
        fun entry => w.backend.ledger.revoke entry.1 entry.2) := by
  show (w.perform _ (Session.revoke service.codec token)).2 = _
  rw [perform_snd, Session.run_revoke_snd h, withLedger]

/-- A request may store a record, and send a message. -/
lemma step_requestReset_snd (service : Service) (email : String) :
    ∃ sent,
      (sent = w.backend.sent ∨ ∃ account, w.backend.store.find? email = some account ∧
        sent = .passwordReset account.email (service.codec.encode
          (PasswordReset.claims service.config service.codec account w.reading)) ::
            w.backend.sent) ∧
      (step service w (.requestReset email)).2 =
        { w with backend := { w.backend with
            store := (PasswordReset.stored? service.config service.codec w.backend.store email
              w.reading).elim w.backend.store fun r => (w.backend.store.replaceReset r).2
            sent } } := by
  obtain ⟨sent, hmost, hafter⟩ := PasswordReset.run_request_snd h service.config.storeTimeout
    w.backend service.config service.codec email w.reading
  refine ⟨sent, hmost, ?_⟩
  show (w.perform _ (PasswordReset.request service.config service.codec email)).2 = _
  rw [perform_snd, hafter]

/-- A reset may set a password and use a record up. -/
lemma step_resetPassword_snd (token password : String) (salt : Bytes) :
    (step service w (.resetPassword token password salt)).2 =
      w.withStore ((PasswordReset.usable? service.codec w.backend.store token w.reading).elim
        w.backend.store fun r =>
          (w.backend.store.updatePassword r.email
            (service.hasher.hash salt password)).2.deleteReset (fingerprint token)) := by
  show (w.perform _ (PasswordReset.consume service.codec service.hasher token password salt)).2 = _
  rw [perform_snd, PasswordReset.run_consume_snd h, withStore]

/-- The ledger after an operation: only logging out enters something, and only a cleanup takes
something out. -/
lemma step_ledger (operation : Operation) :
    (step service w operation).2.backend.ledger =
      match operation with
      | .logout token =>
        (Session.entered? service.codec token w.reading).elim w.backend.ledger fun entry =>
          w.backend.ledger.revoke entry.1 entry.2
      | .cleanupLedger => (w.backend.ledger.cleanup w.reading.now).2
      | _ => w.backend.ledger := by
  cases operation with
  | register fullName email password salt id => rw [step_register_snd h]; rfl
  | login email password id => rw [step_login_snd h]
  | verify token => rw [step_verify h]
  | logout token => rw [step_logout_snd h]; rfl
  | requestReset email =>
      obtain ⟨sent, -, hafter⟩ := step_requestReset_snd h service email
      rw [hafter]
  | resetPassword token password salt => rw [step_resetPassword_snd h]; rfl
  | _ => rfl

/-- The store after an operation. -/
lemma step_store (operation : Operation) :
    (step service w operation).2.backend.store =
      match operation with
      | .register fullName email password salt _ =>
        (w.backend.store.create
          { fullName, email, passwordHash := service.hasher.hash salt password }).2
      | .requestReset email =>
        (PasswordReset.stored? service.config service.codec w.backend.store email w.reading).elim
          w.backend.store fun r => (w.backend.store.replaceReset r).2
      | .resetPassword token password salt =>
        (PasswordReset.usable? service.codec w.backend.store token w.reading).elim
          w.backend.store fun r =>
            (w.backend.store.updatePassword r.email
              (service.hasher.hash salt password)).2.deleteReset (fingerprint token)
      | .setAdmin email value => (w.backend.store.setAdmin email value).2
      | .setPasswordHash email hash => (w.backend.store.updatePassword email hash).2
      | .cleanupResets => (w.backend.store.cleanupResets w.reading.now).2
      | _ => w.backend.store := by
  cases operation with
  | register fullName email password salt id => rw [step_register_snd h]; rfl
  | login email password id => rw [step_login_snd h]
  | verify token => rw [step_verify h]
  | logout token => rw [step_logout_snd h]; rfl
  | requestReset email =>
      obtain ⟨sent, -, hafter⟩ := step_requestReset_snd h service email
      rw [hafter]
  | resetPassword token password salt => rw [step_resetPassword_snd h]; rfl
  | _ => rfl

/-- The messages after an operation: a request may have sent one more. -/
lemma step_sent (operation : Operation) :
    (step service w operation).2.backend.sent = w.backend.sent ∨
      ∃ email account, operation = .requestReset email ∧
        w.backend.store.find? email = some account ∧
        (step service w operation).2.backend.sent =
          .passwordReset account.email (service.codec.encode
            (PasswordReset.claims service.config service.codec account w.reading)) ::
              w.backend.sent := by
  cases operation with
  | register fullName email password salt id => rw [step_register_snd h]; exact Or.inl rfl
  | login email password id => rw [step_login_snd h]; exact Or.inl rfl
  | verify token => rw [step_verify h]; exact Or.inl rfl
  | logout token => rw [step_logout_snd h]; exact Or.inl rfl
  | requestReset email =>
      obtain ⟨sent, hmost, hafter⟩ := step_requestReset_snd h service email
      rw [hafter]
      rcases hmost with hsame | ⟨account, hfound, hone⟩
      · exact Or.inl hsame
      · exact Or.inr ⟨email, account, rfl, hfound, hone⟩
  | resetPassword token password salt => rw [step_resetPassword_snd h]; exact Or.inl rfl
  | _ => exact Or.inl rfl

end

end World
end AccountAccess
