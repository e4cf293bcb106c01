import AccountAccess.Proofs.Reset.Issued
import AccountAccess.Proofs.Reset.Trails

/-!
Whether a reset credential that was used can be used again.

* `World.Spent`: a credential is refused as unknown, whatever password is given.
* `World.spent_of_used` and `World.spent_step_iff`: a credential is spent once it was used, and from
  one operation to the next it stays so unless its fingerprint is stored again.
* `World.spent_throughout_iff`: hence it is spent for good exactly if no later request stores its
  fingerprint.
* `World.stored?_step_resetPassword`: a reset changes nothing about what a request stores. A token
  is determined by the account, its role and the second, so asking again within the second is
  enough to bring a used credential back (`World.not_spent_of_stored_again`).
-/

namespace AccountAccess
namespace World

variable {service : Service} {w : World} {token : String}

/-- A credential is refused as unknown, whatever password is given, and nothing changes. -/
def Spent (service : Service) (w : World) (token : String) : Prop :=
  ∀ password salt, step service w (.resetPassword token password salt) =
    (.refused (.notFound "User with provided token not found"), w)

section

variable (h : Fault.OnlyMail w.faults)
include h

/-- The credentials that are spent are those without a record. -/
lemma spent_iff :
    Spent service w token ↔ w.backend.store.findReset? (fingerprint token) = none := by
  constructor
  · intro hspent
    cases hfound : w.backend.store.findReset? (fingerprint token) with
    | none => rfl
    | some r =>
        exfalso
        have hrefused := congrArg Prod.fst (hspent "" [])
        change (w.perform _ (PasswordReset.consume service.codec service.hasher token "" [])).1 =
          _ at hrefused
        rw [perform_fst, PasswordReset.run_consume h, hfound] at hrefused
        cases hdecode : service.codec.decode token w.reading with
        | error e =>
            rw [hdecode] at hrefused
            cases e <;> cases hrefused
        | ok c =>
            rw [hdecode] at hrefused
            cases haccount : w.backend.store.find? r.email with
            | none =>
                -- an address without an account is refused in other words
                simp only [AccountStore.updatePassword, AccountStore.change, haccount,
                  Outcome.refused.injEq, Failure.notFound.injEq] at hrefused
                exact absurd hrefused (by decide)
            | some account =>
                simp [AccountStore.updatePassword, AccountStore.change, haccount] at hrefused
  · intro hnone password salt
    exact step_resetPassword_of_none h password salt hnone

/-- A credential is spent right after it was used. -/
lemma spent_of_used {password : String} {salt : Bytes}
    (hused : (step service w (.resetPassword token password salt)).1 = .ok ()) :
    Spent service (step service w (.resetPassword token password salt)).2 token := by
  have hafter : Fault.OnlyMail (step service w (.resetPassword token password salt)).2.faults := h
  refine (spent_iff hafter).mpr (Option.eq_none_iff_forall_ne_some.mpr ?_)
  intro r hr
  rcases (findReset?_step_iff h _).mp hr with ⟨hstored, -⟩ | ⟨-, hkept⟩
  · cases hstored
  · exact hkept ⟨hused, rfl⟩

/-- A spent credential stays spent unless its fingerprint is stored again. -/
lemma spent_step_iff {operation : Operation} (hmail : operation.DisturbsOnlyMail)
    (hspent : Spent service w token) :
    Spent service (step service w operation).2 token ↔
      ∀ r, stored? service w operation = some r → r.fingerprint ≠ fingerprint token := by
  have hnone := (spent_iff h).mp hspent
  rw [spent_iff (onlyMail_step h hmail), Option.eq_none_iff_forall_ne_some]
  constructor
  · intro hstays r hstored hsame
    exact hstays r ((findReset?_step_iff h operation).mpr (Or.inl ⟨hstored, hsame⟩))
  · intro hother r hr
    rcases (findReset?_step_iff h operation).mp hr with ⟨hstored, hsame⟩ | ⟨hstood, -⟩
    · exact hother r hstored hsame
    · rw [hnone] at hstood
      cases hstood

/-- A spent credential is spent all through a run exactly if no operation of the run stores its
fingerprint. -/
lemma spent_prefixes_iff {operations : List Operation}
    (hmail : ∀ operation ∈ operations, operation.DisturbsOnlyMail)
    (hspent : Spent service w token) :
    (∀ first, first <+: operations → Spent service (after service w first) token) ↔
      Throughout service (fun w operation =>
        ∀ r, stored? service w operation = some r → r.fingerprint ≠ fingerprint token)
        w operations := by
  induction operations generalizing w with
  | nil =>
      refine iff_of_true ?_ trivial
      intro first hfirst
      rw [List.prefix_nil.mp hfirst]
      exact hspent
  | cons operation rest ih =>
      obtain ⟨hfirst, hrest⟩ := List.forall_mem_cons.mp hmail
      have hstep := spent_step_iff h hfirst hspent
      have hafter : Fault.OnlyMail (step service w operation).2.faults := onlyMail_step h hfirst
      have hnext := ih hafter hrest
      constructor
      · intro hall
        have hstays : Spent service (step service w operation).2 token :=
          hall [operation] (List.prefix_append [operation] rest)
        refine ⟨hstep.mp hstays, (hnext hstays).mp ?_⟩
        intro first hprefix
        exact hall (operation :: first) (List.cons_prefix_cons.mpr ⟨rfl, hprefix⟩)
      · rintro ⟨hother, hothers⟩ first hprefix
        cases first with
        | nil => exact hspent
        | cons operation' first =>
            obtain ⟨rfl, hinner⟩ := List.cons_prefix_cons.mp hprefix
            exact (hnext (hstep.mpr hother)).mpr hothers first hinner

/-- A reset changes nothing about what a request stores: neither the account's number and role nor
the time is another one. -/
lemma stored?_step_resetPassword (password : String) (salt : Bytes) (operation : Operation) :
    stored? service (step service w (.resetPassword token password salt)).2 operation =
      stored? service w operation := by
  refine stored?_eq_of_sameAccounts (step_clock _) ?_ operation
  rw [step_store h]
  exact .reset _ _ _ _

/-- Whoever asks in the same second for the credential that was just used can use it again. -/
theorem not_spent_of_stored_again {password : String} {salt : Bytes} {operation : Operation}
    {r : ResetRecord} (hmail : operation.DisturbsOnlyMail)
    (hused : (step service w (.resetPassword token password salt)).1 = .ok ())
    (hstored : stored? service w operation = some r) (hsame : r.fingerprint = fingerprint token) :
    ¬ Spent service
      (step service (step service w (.resetPassword token password salt)).2 operation).2 token := by
  have hafter : Fault.OnlyMail (step service w (.resetPassword token password salt)).2.faults := h
  rw [spent_step_iff hafter hmail (spent_of_used h hused)]
  intro hother
  rw [← stored?_step_resetPassword h password salt] at hstored
  exact hother r hstored hsame

/-- A credential that was used is refused as unknown from then on, and changes nothing any more,
exactly if no later request stores its fingerprint again. -/
theorem spent_throughout_iff {password : String} {salt : Bytes} {later : List Operation}
    (hmail : ∀ operation ∈ later, operation.DisturbsOnlyMail)
    (hused : (step service w (.resetPassword token password salt)).1 = .ok ()) :
    (∀ first, first <+: later →
        Spent service (after service (step service w (.resetPassword token password salt)).2 first)
          token) ↔
      Throughout service (fun w operation =>
        ∀ r, stored? service w operation = some r → r.fingerprint ≠ fingerprint token)
        (step service w (.resetPassword token password salt)).2 later := by
  have hafter : Fault.OnlyMail (step service w (.resetPassword token password salt)).2.faults := h
  exact spent_prefixes_iff hafter hmail (spent_of_used h hused)

end

/-- At noon of the first of March 2024 a credential is asked for, and used to set a password. When a
credential is asked for again in the same second, the one that was used can be used again. -/
theorem not_spent_sample :
    (step .sample (after .sample (fresh 1709294400) sampleRun)
        (.resetPassword sampleReset.token "second" [])).1 = .ok () ∧
      ¬ ∀ first, first <+: [.requestReset "a@b.co"] →
        Spent .sample (after .sample (step .sample (after .sample (fresh 1709294400) sampleRun)
          (.resetPassword sampleReset.token "second" [])).2 first) sampleReset.token := by
  have hused := (step_resetPassword_eq_ok_iff onlyMail_sampleRun "second" []).mpr
    ⟨_, usable?_sampleRun⟩
  have hmail : ∀ operation ∈ [Operation.requestReset "a@b.co"], operation.DisturbsOnlyMail := by
    simp [Operation.DisturbsOnlyMail]
  refine ⟨hused, ?_⟩
  rw [spent_throughout_iff onlyMail_sampleRun hmail hused]
  rintro ⟨hother, -⟩
  refine hother sampleReset.record ?_ rfl
  rw [stored?_step_resetPassword onlyMail_sampleRun]
  exact (requested?_sample rfl find?_sampleRun).2

end World
end AccountAccess
