import AccountAccess.Proofs.Account.Numbering
import AccountAccess.Proofs.Reset.Issued

/-!
Which reset credentials are outstanding after a run, read off the history of the run alone.

* `World.Ends` and `World.Outstanding`: a credential is outstanding from the request that sends it
  out until its account asks for another one, it is used, or a cleanup is made from its expiry on.
* `World.Ordinary`: runs on which the clock goes forward and 64 bits have room for the accounts.
* `World.takesOut_iff_ends`: under `World.Follows` exactly what ends a credential takes its record
  out. That a request for another account leaves the record alone is the point: addresses have other
  keys then, and tokens name other account numbers.
* `World.findReset?_iff_outstanding`: the record of a token stands exactly if the token is
  outstanding.
-/

namespace AccountAccess
namespace World

variable {service : Service} {w : World} {t : IssuedReset}

/-- A reset credential ends when its account asks for another one, when it is used, and when a
cleanup is made from its expiry on. -/
def Ends (service : Service) (t : IssuedReset) (w : World) : Operation → Prop
  | .requestReset email => emailKey email = emailKey t.account.email
  | .resetPassword token password salt =>
    token = t.token ∧ (step service w (.resetPassword token password salt)).1 = .ok ()
  | .cleanupResets => t.second.toInt + Claims.resetLifetime ≤ w.clock.second.toInt
  | _ => False

/-- A reset credential was sent out on a run, and has not ended since. -/
def Outstanding (service : Service) (w : World) (operations : List Operation) (t : IssuedReset) :
    Prop :=
  ∃ before operation later, operations = before ++ operation :: later ∧
    requested? service (after service w before) operation = some t ∧
    Throughout service (fun w operation => ¬ Ends service t w operation)
      (after service w (before ++ [operation])) later

/-! ### Runs under which records and history agree -/

/-- On a run the stores answer as they are, the clock goes forward as far as the calendar holds the
expiry of a credential, and the accounts are numbered without a repetition. -/
structure Ordinary (service : Service) (w : World) (operations : List Operation) : Prop where
  onlyMail : Fault.OnlyMail w.faults
  mail : ∀ operation ∈ operations, operation.DisturbsOnlyMail
  clock : RunsForward lastResetStart w.clock operations
  room : (after service w operations).backend.store.accounts.size < UInt64.size
  numbered : w.backend.store.Numbered

namespace Ordinary

variable {operation : Operation} {rest first second operations : List Operation}

/-- What is ordinary stays so from one operation to the next. -/
lemma step (h : Ordinary service w (operation :: rest)) :
    Ordinary service (World.step service w operation).2 rest := by
  obtain ⟨hfirst, hrest⟩ := List.forall_mem_cons.mp h.mail
  have hmail : Fault.OnlyMail (World.step service w operation).2.faults :=
    onlyMail_step h.onlyMail hfirst
  have hroom : (World.step service w operation).2.backend.store.accounts.size < UInt64.size :=
    Nat.lt_of_le_of_lt (size_accounts_after hmail hrest) h.room
  exact ⟨hmail, hrest, h.clock.tail service, h.room,
    (accounted_step h.onlyMail operation).numbered hroom h.numbered⟩

/-- The second part of an ordinary run is ordinary. -/
lemma right (h : Ordinary service w (first ++ second)) :
    Ordinary service (after service w first) second := by
  induction first generalizing w with
  | nil => exact h
  | cons operation rest ih => exact ih h.step

/-- The clock shows the start of its second. -/
lemma now_eq (h : Ordinary service w operations) :
    w.reading.now = .ofUnix w.clock.second.toInt :=
  h.clock.now_eq lastResetStart_le

/-- A request stores the record of the credential that it sends out. -/
lemma stored?_eq (h : Ordinary service w operations) (operation : Operation) :
    stored? service w operation = (requested? service w operation).map IssuedReset.record :=
  stored?_eq_map h.now_eq h.clock.bounds.1 h.clock.bounds.2 operation

/-- What is sent out is sent out for an account that is found at its address. -/
lemma finds_of_requested? (h : Ordinary service w operations)
    (ht : requested? service w operation = some t) :
    w.backend.store.Finds t.account.email t.account := by
  obtain ⟨email, rfl, hfound⟩ := find?_of_requested? ht
  have hkey : emailKey t.account.email = emailKey email := h.numbered.key _ _ hfound
  refine ⟨t.account, ?_, rfl, rfl⟩
  rw [AccountStore.find?, hkey]
  exact hfound

end Ordinary

/-- On a run after a credential was sent out its account is found, and no other token that comes up
has its fingerprint. -/
structure Follows (service : Service) (t : IssuedReset) (w : World) (operations : List Operation) :
    Prop where
  ordinary : Ordinary service w operations
  finds : w.backend.store.Finds t.account.email t.account
  distinct : ∀ token ∈ resetTokens service w operations,
    fingerprint token = fingerprint t.token → token = t.token

/-- This stays so from one operation to the next. -/
lemma Follows.step {operation : Operation} {rest : List Operation}
    (h : Follows service t w (operation :: rest)) :
    Follows service t (World.step service w operation).2 rest where
  ordinary := h.ordinary.step
  finds := (accounted_step h.ordinary.onlyMail operation).finds h.finds
  distinct := fun token htoken => h.distinct token (List.mem_append_right _ htoken)

/-- Exactly what ends a credential takes its record out. -/
lemma takesOut_iff_ends {v : World} {asked operation : Operation} {rest : List Operation}
    (hnow : v.reading.now = .ofUnix v.clock.second.toInt)
    (ht : requested? service v asked = some t) (h : Follows service t w (operation :: rest)) :
    TakesOut service w (fingerprint t.token) t.record operation ↔ Ends service t w operation := by
  obtain ⟨a, hfound, hid, hemail⟩ := h.finds
  cases operation with
  | requestReset email =>
      rw [TakesOut, h.ordinary.stored?_eq, Ends]
      constructor
      · rintro ⟨new, hnew, hsame⟩
        obtain ⟨t', ht', rfl⟩ := Option.map_eq_some_iff.mp hnew
        obtain ⟨email', hop, hfound'⟩ := find?_of_requested? ht'
        obtain rfl := Operation.requestReset.inj hop
        rcases hsame with hfingerprint | hkey
        · -- the same fingerprint means the same token, hence the same account number
          have htoken : t'.token = t.token := h.distinct t'.token
            (List.mem_append_left _ (mem_handled_of_requested? ht')) hfingerprint
          have hnumber := (token_eq_token_iff h.ordinary.now_eq hnow ht' ht).mp htoken
          exact h.ordinary.numbered.distinct _ _ _ _ hfound' hfound (hnumber.1.trans hid.symm)
        · rw [← h.ordinary.numbered.key _ _ hfound']
          exact hkey
      · intro hkey
        have hfound' : w.backend.store.find? email = some a := by
          rw [AccountStore.find?, hkey]
          exact hfound
        refine ⟨_, by rw [requested?, hfound']; rfl, Or.inr ?_⟩
        show emailKey a.email = emailKey t.account.email
        rw [hemail]
  | resetPassword token password salt =>
      rw [TakesOut, Ends, and_comm]
      refine and_congr_left fun _ => ⟨?_, fun hsame => congrArg fingerprint hsame⟩
      exact h.distinct token (List.mem_append_left _ (List.mem_singleton_self token))
  | cleanupResets =>
      rw [TakesOut, Ends, ResetRecord.isExpiredAt, decide_eq_true_eq, h.ordinary.now_eq]
      exact Instant.ofUnix_le_ofUnix
  | _ => exact Iff.rfl

/-- A record is kept exactly as long as nothing ends its credential. -/
lemma kept_iff_not_ends {v : World} {asked : Operation} {operations : List Operation}
    (hnow : v.reading.now = .ofUnix v.clock.second.toInt)
    (ht : requested? service v asked = some t) (h : Follows service t w operations) :
    Kept service (fingerprint t.token) t.record w operations ↔
      Throughout service (fun w operation => ¬ Ends service t w operation) w operations := by
  refine Throughout.iff_of_invariant ?_ ?_ h
  · intro w operation rest hfollows
    exact hfollows.step
  · intro w operation rest hfollows
    exact not_congr (takesOut_iff_ends hnow ht hfollows)

/-! ### Outstanding credentials and records -/

section

variable {operations : List Operation} {tokens : List String} (h : Ordinary service w operations)
  (hempty : ∀ fingerprint, w.backend.store.findReset? fingerprint = none)
  (hcollision : ∀ s ∈ tokens, ∀ s' ∈ tokens, fingerprint s = fingerprint s' → s = s')
  (htokens : ∀ s ∈ resetTokens service w operations, s ∈ tokens)
include h hcollision htokens

/-- What is sent out on a run is followed from then on. -/
lemma follows_of_requested? {before later : List Operation} {operation : Operation}
    (hsplit : operations = before ++ operation :: later)
    (ht : requested? service (after service w before) operation = some t) :
    t.token ∈ tokens ∧ Follows service t (after service w (before ++ [operation])) later := by
  subst hsplit
  have hthere := h.right
  have hissued : t.token ∈ tokens := by
    refine htokens _ ?_
    rw [resetTokens_append]
    exact List.mem_append_right _ (List.mem_append_left _ (mem_handled_of_requested? ht))
  refine ⟨hissued, ?_⟩
  rw [after_append]
  refine ⟨hthere.step,
    (accounted_step hthere.onlyMail operation).finds (hthere.finds_of_requested? ht), ?_⟩
  intro token htoken hsame
  refine hcollision _ (htokens _ ?_) _ hissued hsame
  rw [resetTokens_append]
  exact List.mem_append_right _ (List.mem_append_right _ htoken)

include hempty

/-- The record of a token stands exactly if the token is outstanding. -/
theorem findReset?_iff_outstanding {token : String} (htoken : token ∈ tokens) {r : ResetRecord} :
    (after service w operations).backend.store.findReset? (fingerprint token) = some r ↔
      ∃ t, Outstanding service w operations t ∧ t.token = token ∧ t.record = r := by
  rw [findReset?_after_iff h.onlyMail h.mail, hempty]
  simp only [reduceCtorEq, false_and, false_or]
  constructor
  · rintro ⟨before, operation, later, hsplit, hstored, hfingerprint, hkept⟩
    have hthere : Ordinary service (after service w before) (operation :: later) :=
      (hsplit ▸ h).right
    rw [hthere.stored?_eq] at hstored
    obtain ⟨t, ht, rfl⟩ := Option.map_eq_some_iff.mp hstored
    obtain ⟨hissued, hfollows⟩ := follows_of_requested? h hcollision htokens hsplit ht
    obtain rfl := hcollision _ hissued _ htoken hfingerprint
    have hunended := (kept_iff_not_ends hthere.now_eq ht hfollows).mp hkept
    exact ⟨t, ⟨before, operation, later, hsplit, ht, hunended⟩, rfl, rfl⟩
  · rintro ⟨t, ⟨before, operation, later, hsplit, ht, hunended⟩, rfl, rfl⟩
    have hthere : Ordinary service (after service w before) (operation :: later) :=
      (hsplit ▸ h).right
    obtain ⟨-, hfollows⟩ := follows_of_requested? h hcollision htokens hsplit ht
    have hkept := (kept_iff_not_ends hthere.now_eq ht hfollows).mpr hunended
    refine ⟨before, operation, later, hsplit, ?_, rfl, hkept⟩
    rw [hthere.stored?_eq, ht]
    rfl

end

end World
end AccountAccess
