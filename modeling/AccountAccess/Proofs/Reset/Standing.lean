import AccountAccess.Proofs.Service.Run

/-!
Which reset records stand after a run.

* `World.stored?` and `World.TakesOut`: the record that an operation stores, and whether it takes
  a record out. A request takes out what has the same address or the same fingerprint, a reset what
  it uses up, and a cleanup what has expired.
* `World.findReset?_step_iff`: after an operation a record stands if the operation stored it, or if
  it stood before and was not taken out.
* `World.findReset?_after_iff`: after a run a record stands if it stood before or was stored on the
  way, and was kept since. Nothing is assumed of the clock here.
-/

namespace AccountAccess

namespace World

variable {service : Service} {w : World}

/-! ### A single operation -/

/-- The record that an operation stores. -/
def stored? (service : Service) (w : World) : Operation → Option ResetRecord
  | .requestReset email =>
    PasswordReset.stored? service.config service.codec w.backend.store email w.reading
  | _ => none

/-- An operation takes the record of a fingerprint out. -/
def TakesOut (service : Service) (w : World) (fingerprint : String) (r : ResetRecord) :
    Operation → Prop
  | .requestReset email =>
    ∃ new, stored? service w (.requestReset email) = some new ∧
      (new.fingerprint = fingerprint ∨ emailKey new.email = emailKey r.email)
  | .resetPassword token password salt =>
    (step service w (.resetPassword token password salt)).1 = .ok () ∧
      AccountAccess.fingerprint token = fingerprint
  | .cleanupResets => r.isExpiredAt w.reading.now = true
  | _ => False

section

variable (h : Fault.OnlyMail w.faults) {token : String} (password : String) (salt : Bytes)
include h

/-- A credential without a record is refused as unknown. -/
lemma step_resetPassword_of_none
    (hnone : w.backend.store.findReset? (AccountAccess.fingerprint token) = none) :
    step service w (.resetPassword token password salt) =
      (.refused (.notFound "User with provided token not found"), w) := by
  show w.perform _ (PasswordReset.consume service.codec service.hasher token password salt) = _
  rw [perform, PasswordReset.run_consume h, hnone]

/-- A credential with a record is refused for the reason for which it is not accepted. -/
lemma step_resetPassword_of_refused {r : ResetRecord}
    (hfound : w.backend.store.findReset? (AccountAccess.fingerprint token) = some r)
    {e : CredentialError} (he : service.codec.decode token w.reading = .error e) :
    step service w (.resetPassword token password salt) = (.refused e.toFailure, w) := by
  show w.perform _ (PasswordReset.consume service.codec service.hasher token password salt) = _
  rw [perform, PasswordReset.run_consume h, hfound, he]

/-- A credential whose record can be used up sets the password of the address in the record. -/
lemma step_resetPassword_of_usable {r : ResetRecord}
    (hr : PasswordReset.usable? service.codec w.backend.store token w.reading = some r) :
    step service w (.resetPassword token password salt) =
      (.ok (), w.withStore ((w.backend.store.updatePassword r.email
        (service.hasher.hash salt password)).2.deleteReset (AccountAccess.fingerprint token))) := by
  show w.perform _ (PasswordReset.consume service.codec service.hasher token password salt) = _
  rw [perform, PasswordReset.run_consume_of_usable h _ _ password salt hr]
  rfl

/-- A reset succeeds exactly if there is a record that it uses up. -/
lemma step_resetPassword_eq_ok_iff :
    (step service w (.resetPassword token password salt)).1 = .ok () ↔
      ∃ r, PasswordReset.usable? service.codec w.backend.store token w.reading = some r := by
  cases hr : PasswordReset.usable? service.codec w.backend.store token w.reading with
  | none =>
      obtain ⟨f, hrun⟩ := PasswordReset.run_consume_of_not_usable h service.config.storeTimeout
        w.backend service.hasher password salt hr
      show (w.perform _ (PasswordReset.consume service.codec service.hasher token password
        salt)).1 = .ok () ↔ _
      rw [perform_fst, hrun]
      simp
  | some r =>
      rw [step_resetPassword_of_usable h password salt hr]
      simp

end

/-- After an operation a record stands if the operation stored it, or if it stood before and was not
taken out. -/
lemma findReset?_step_iff (h : Fault.OnlyMail w.faults) (operation : Operation)
    {fingerprint : String} {r : ResetRecord} :
    (step service w operation).2.backend.store.findReset? fingerprint = some r ↔
      (stored? service w operation = some r ∧ r.fingerprint = fingerprint) ∨
        (w.backend.store.findReset? fingerprint = some r ∧
          ¬ TakesOut service w fingerprint r operation) := by
  rw [step_store h]
  cases operation with
  | requestReset email =>
      dsimp only [TakesOut, stored?]
      cases hstored : PasswordReset.stored? service.config service.codec w.backend.store email
        w.reading with
      | none => simp
      | some new =>
          rw [Option.elim_some, AccountStore.findReset?_replaceReset]
          simp only [Option.some.injEq]
          split_ifs with hsame
          · subst hsame
            constructor
            · intro hr
              obtain rfl := Option.some.inj hr
              exact Or.inl ⟨rfl, rfl⟩
            · rintro (⟨rfl, -⟩ | ⟨-, hkept⟩)
              · rfl
              · exact absurd ⟨new, rfl, Or.inl rfl⟩ hkept
          · rw [Option.filter_eq_some_iff, bne_iff_ne]
            constructor
            · rintro ⟨hr, hkey⟩
              refine Or.inr ⟨hr, ?_⟩
              rintro ⟨_, rfl, hfingerprint | hequal⟩
              · exact hsame hfingerprint.symm
              · exact hkey hequal.symm
            · rintro (⟨rfl, hfingerprint⟩ | ⟨hr, hkept⟩)
              · exact absurd hfingerprint.symm hsame
              · exact ⟨hr, fun hkey => hkept ⟨new, rfl, Or.inr hkey.symm⟩⟩
  | resetPassword token password salt =>
      simp only [TakesOut, stored?, reduceCtorEq, false_and, false_or,
        step_resetPassword_eq_ok_iff h]
      cases hused : PasswordReset.usable? service.codec w.backend.store token w.reading with
      | none => simp
      | some used =>
          have hsame : ∀ hash, (w.backend.store.updatePassword used.email hash).2.findReset?
              fingerprint = w.backend.store.findReset? fingerprint := by
            intro hash
            rw [AccountStore.findReset?, AccountStore.updatePassword, AccountStore.resets_change]
            rfl
          rw [Option.elim_some, AccountStore.findReset?_deleteReset, hsame]
          split_ifs with htaken
          · simp [htaken]
          · simp [Ne.symm htaken]
  | cleanupResets =>
      dsimp only [TakesOut, stored?]
      rw [AccountStore.findReset?_cleanupResets, Option.filter_eq_some_iff]
      simp
  | register fullName email password salt id =>
      dsimp only [TakesOut, stored?]
      rw [AccountStore.findReset?, AccountStore.resets_create]
      simp [AccountStore.findReset?]
  | setAdmin email value =>
      dsimp only [TakesOut, stored?]
      rw [AccountStore.findReset?, AccountStore.setAdmin, AccountStore.resets_change]
      simp [AccountStore.findReset?]
  | setPasswordHash email hash =>
      dsimp only [TakesOut, stored?]
      rw [AccountStore.findReset?, AccountStore.updatePassword, AccountStore.resets_change]
      simp [AccountStore.findReset?]
  | _ => simp [TakesOut, stored?]

/-! ### Runs -/

/-- No operation of a run takes the record of a fingerprint out. -/
def Kept (service : Service) (fingerprint : String) (r : ResetRecord) :
    World → List Operation → Prop :=
  Throughout service fun w operation => ¬ TakesOut service w fingerprint r operation

/-- A run stores the record of a fingerprint, and keeps it from then on. -/
def Leaves (service : Service) (fingerprint : String) (r : ResetRecord) (w : World)
    (operations : List Operation) : Prop :=
  ∃ before operation later, operations = before ++ operation :: later ∧
    stored? service (after service w before) operation = some r ∧ r.fingerprint = fingerprint ∧
    Kept service fingerprint r (after service w (before ++ [operation])) later

/-- What a run leaves is stored by its first operation and kept, or left by the rest. -/
lemma leaves_cons_iff {fingerprint : String} {r : ResetRecord} {operation : Operation}
    {operations : List Operation} :
    Leaves service fingerprint r w (operation :: operations) ↔
      (stored? service w operation = some r ∧ r.fingerprint = fingerprint ∧
        Kept service fingerprint r (step service w operation).2 operations) ∨
      Leaves service fingerprint r (step service w operation).2 operations := by
  constructor
  · rintro ⟨before, op, later, hsplit, hstored, hfingerprint, hkept⟩
    cases before with
    | nil =>
        obtain ⟨rfl, rfl⟩ := List.cons.inj hsplit
        exact Or.inl ⟨hstored, hfingerprint, hkept⟩
    | cons first before =>
        obtain ⟨rfl, rfl⟩ := List.cons.inj hsplit
        exact Or.inr ⟨before, op, later, rfl, hstored, hfingerprint, hkept⟩
  · rintro (⟨hstored, hfingerprint, hkept⟩ | ⟨before, op, later, rfl, hstored, hfingerprint, hkept⟩)
    · exact ⟨[], operation, operations, rfl, hstored, hfingerprint, hkept⟩
    · exact ⟨operation :: before, op, later, rfl, hstored, hfingerprint, hkept⟩

/-- After a run a record stands if it stood before and was kept, or if the run leaves it. -/
theorem findReset?_after_iff (h : Fault.OnlyMail w.faults) {operations : List Operation}
    (hmail : ∀ operation ∈ operations, operation.DisturbsOnlyMail) {fingerprint : String}
    {r : ResetRecord} :
    (after service w operations).backend.store.findReset? fingerprint = some r ↔
      (w.backend.store.findReset? fingerprint = some r ∧
        Kept service fingerprint r w operations) ∨
      Leaves service fingerprint r w operations := by
  induction operations generalizing w with
  | nil =>
      have hnothing : ¬ Leaves service fingerprint r w [] := by
        rintro ⟨before, op, later, hsplit, -⟩
        simp at hsplit
      simp [after, Kept, Throughout, hnothing]
  | cons operation rest ih =>
      obtain ⟨hfirst, hrest⟩ := List.forall_mem_cons.mp hmail
      rw [after_cons, ih (onlyMail_step h hfirst) hrest, findReset?_step_iff h, leaves_cons_iff]
      simp only [Kept, Throughout]
      tauto

end World
end AccountAccess
