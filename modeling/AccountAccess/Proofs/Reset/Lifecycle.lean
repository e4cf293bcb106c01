import AccountAccess.Proofs.Password.RoundTrip
import AccountAccess.Proofs.Reset.Outstanding

/-!
The life of a reset credential, from the request that sends it out on.

* `World.decode_of_outstanding` and `World.finds_of_outstanding`: an outstanding credential is
  accepted through its last second, and its account is found throughout.
* `World.PasswordReplaced`: what a reset changes, and that it changes nothing else.
* `World.reset_lifecycle`: a reset succeeds exactly with a credential that is outstanding and whose
  last second has not passed, and then gives its account the password. An outstanding credential
  that is too late is refused as invalid, and any other one as unknown.
-/

namespace AccountAccess

/-- The last second at which a reset credential is accepted under a leeway. -/
def IssuedReset.last (t : IssuedReset) (leeway : Nat) : Int :=
  t.second.toInt + Claims.resetLifetime + leeway

namespace World

variable {service : Service} {w : World} {operations : List Operation} {t : IssuedReset}

section

variable (h : Ordinary service w operations) (hout : Outstanding service w operations t)
include h hout

/-- An outstanding credential is accepted through its last second, and has expired behind it. -/
lemma decode_of_outstanding :
    ((after service w operations).clock.second.toInt ≤ t.last service.codec.leeway →
        ∃ c, service.codec.decode t.token (after service w operations).reading = .ok c) ∧
      (t.last service.codec.leeway < (after service w operations).clock.second.toInt →
        service.codec.decode t.token (after service w operations).reading = .error .expired) := by
  obtain ⟨before, operation, later, rfl, ht, -⟩ := hout
  have hthere : Ordinary service (after service w before) (operation :: later) := h.right
  have hbound := lastResetStart_add
  obtain ⟨hstart, hend⟩ := hthere.clock.bounds
  obtain ⟨hsecond, htoken⟩ := token_of_requested? hthere.now_eq ht
  have hlater := hthere.clock.le_after service
  rw [← after_append, ← hsecond] at hlater
  rw [← hsecond] at hstart hend
  rw [htoken]
  constructor
  · intro hnow
    exact ⟨_, (Codec.decode_encode_issue_iff hstart Claims.resetLifetime_nonneg (by omega)
      hlater).mpr ⟨rfl, hnow⟩⟩
  · exact Codec.decode_encode_issue_of_late hstart Claims.resetLifetime_nonneg (by omega)

/-- The account of an outstanding credential is found, with the same number and address. -/
lemma finds_of_outstanding :
    (after service w operations).backend.store.Finds t.account.email t.account := by
  obtain ⟨before, operation, later, rfl, ht, -⟩ := hout
  have hthere : Ordinary service (after service w before) (operation :: later) := h.right
  rw [after_append]
  exact finds_after hthere.onlyMail hthere.mail (hthere.finds_of_requested? ht)

end

/-! ### What a reset changes -/

/-- From one world to the next the account of a reset credential gets another password hash and the
record of the credential is taken out, and that is all. -/
structure PasswordReplaced (t : IssuedReset) (hash : String) (w w' : World) : Prop where
  /-- The account is found, with the number and the address that it had when the credential was sent
  out. -/
  finds : w.backend.store.Finds t.account.email t.account
  accounts : ∀ email, w'.backend.store.find? email =
    if emailKey email = emailKey t.account.email then
      (w.backend.store.find? email).map fun a => { a with passwordHash := hash }
    else w.backend.store.find? email
  stood : w.backend.store.findReset? (fingerprint t.token) = some t.record
  resets : ∀ other, w'.backend.store.findReset? other =
    if other = fingerprint t.token then none else w.backend.store.findReset? other
  nextId : w'.backend.store.nextId = w.backend.store.nextId
  rest : w' = w.withStore w'.backend.store

/-- Setting the password of an account and taking a record out is all that a reset does. -/
lemma passwordReplaced_of_stood (hfinds : w.backend.store.Finds t.account.email t.account)
    (hstood : w.backend.store.findReset? (fingerprint t.token) = some t.record) (hash : String) :
    PasswordReplaced t hash w (w.withStore
      ((w.backend.store.updatePassword t.account.email hash).2.deleteReset
        (fingerprint t.token))) where
  finds := hfinds
  accounts := fun email => AccountStore.find?_change _ _ _ _ email
  stood := hstood
  resets := by
    intro other
    show ((w.backend.store.updatePassword t.account.email hash).2.deleteReset
      (fingerprint t.token)).findReset? other = _
    rw [AccountStore.findReset?_deleteReset, AccountStore.findReset?, AccountStore.updatePassword,
      AccountStore.resets_change]
    rfl
  nextId := by
    show (w.backend.store.change t.account.email _ _).2.nextId = _
    exact AccountStore.nextId_change _ _ _ _
  rest := rfl

/-! ### What a reset answers -/

section

variable {tokens : List String} {token : String} (h : Ordinary service w operations)
  (hstood : (after service w operations).backend.store.findReset? (fingerprint token) =
    some t.record)
  (hout : Outstanding service w operations t) (htoken : t.token = token) (password : String)
  (salt : Bytes)
include h hstood hout htoken

/-- With an outstanding credential whose last second has not passed a reset succeeds. -/
lemma step_resetPassword_of_outstanding
    (hnow : (after service w operations).clock.second.toInt ≤ t.last service.codec.leeway) :
    step service (after service w operations) (.resetPassword token password salt) =
      (.ok (), (after service w operations).withStore
        (((after service w operations).backend.store.updatePassword t.account.email
          (service.hasher.hash salt password)).2.deleteReset (fingerprint t.token))) := by
  obtain ⟨c, hdecode⟩ := (decode_of_outstanding h hout).1 hnow
  obtain ⟨a, hfound, -⟩ := finds_of_outstanding h hout
  have haddress : t.record.email = t.account.email := rfl
  rw [← haddress] at hfound ⊢
  subst htoken
  exact step_resetPassword_of_usable (onlyMail_after h.onlyMail h.mail) password salt
    (PasswordReset.usable?_eq_some_iff.mpr ⟨hstood, ⟨c, hdecode⟩, a, hfound⟩)

/-- With an outstanding credential whose last second has passed a reset is refused. -/
lemma step_resetPassword_of_late
    (hlate : t.last service.codec.leeway < (after service w operations).clock.second.toInt) :
    step service (after service w operations) (.resetPassword token password salt) =
      (.refused .invalidCredential, after service w operations) := by
  have hdecode := (decode_of_outstanding h hout).2 hlate
  rw [htoken] at hdecode
  exact step_resetPassword_of_refused (onlyMail_after h.onlyMail h.mail) password salt hstood
    hdecode

end

/-- On a run of which the clock never goes back, on which no two tokens have the same fingerprint,
and for whose accounts 64 bits have room, a reset succeeds exactly with a credential that is
outstanding and whose last second has not passed. It then gives the account of the credential a hash
that the password matches, takes the record of the credential out, and changes nothing else. With an
outstanding credential whose last second has passed it is refused as invalid, with any other as
unknown, and nothing changes. -/
theorem reset_lifecycle {config : AccessConfig} {service : Service} {start : Int64}
    {operations : List Operation} {token : String} {salt : Bytes}
    (hservice : Service.ofConfig config = .ok service)
    (hmail : ∀ operation ∈ operations, operation.DisturbsOnlyMail)
    (hclock : RunsForward lastResetStart ⟨start⟩ operations)
    (hroom : (after service (fresh start) operations).backend.store.accounts.size < UInt64.size)
    (hcollision : ∀ s ∈ token :: resetTokens service (fresh start) operations,
      ∀ s' ∈ token :: resetTokens service (fresh start) operations,
        fingerprint s = fingerprint s' → s = s')
    (hsalt : salt.length = PasswordHasher.saltLength) (password : String) :
    let w := after service (fresh start) operations
    let attempt := step service w (.resetPassword token password salt)
    let leeway := config.leeway.secs.toNat
    (attempt.1 = .ok () ↔
        ∃ t, Outstanding service (fresh start) operations t ∧ t.token = token ∧
          w.clock.second.toInt ≤ t.last leeway) ∧
      (∀ t, Outstanding service (fresh start) operations t → t.token = token →
        (w.clock.second.toInt ≤ t.last leeway →
          ∃ hash, service.hasher.verify password hash = .ok true ∧
            PasswordReplaced t hash w attempt.2) ∧
        (t.last leeway < w.clock.second.toInt → attempt = (.refused .invalidCredential, w))) ∧
      ((¬ ∃ t, Outstanding service (fresh start) operations t ∧ t.token = token) →
        attempt = (.refused (.notFound "User with provided token not found"), w)) := by
  intro w attempt leeway
  obtain ⟨hleeway, -⟩ := Service.leeway_codec hservice
  have hordinary : Ordinary service (fresh start) operations :=
    ⟨Fault.onlyMail_empty, hmail, hclock, hroom, .empty⟩
  have hrecord : ∀ r, w.backend.store.findReset? (fingerprint token) = some r ↔
      ∃ t, Outstanding service (fresh start) operations t ∧ t.token = token ∧ t.record = r :=
    fun r => findReset?_iff_outstanding hordinary (fun _ => rfl) hcollision
      (fun s hs => List.mem_cons_of_mem _ hs) List.mem_cons_self
  have hstood : ∀ t, Outstanding service (fresh start) operations t → t.token = token →
      w.backend.store.findReset? (fingerprint token) = some t.record :=
    fun t hout htoken => (hrecord _).mpr ⟨t, hout, htoken, rfl⟩
  have hintime : ∀ t, Outstanding service (fresh start) operations t → t.token = token →
      w.clock.second.toInt ≤ t.last leeway → attempt = (.ok (), w.withStore
        ((w.backend.store.updatePassword t.account.email
          (service.hasher.hash salt password)).2.deleteReset (fingerprint t.token))) :=
    fun t hout htoken hnow => step_resetPassword_of_outstanding hordinary (hstood t hout htoken)
      hout htoken password salt (hleeway ▸ hnow)
  have hlate : ∀ t, Outstanding service (fresh start) operations t → t.token = token →
      t.last leeway < w.clock.second.toInt → attempt = (.refused .invalidCredential, w) :=
    fun t hout htoken hnow => step_resetPassword_of_late hordinary (hstood t hout htoken)
      hout htoken password salt (hleeway ▸ hnow)
  have hunknown : (¬ ∃ t, Outstanding service (fresh start) operations t ∧ t.token = token) →
      attempt = (.refused (.notFound "User with provided token not found"), w) := by
    intro hnone
    refine step_resetPassword_of_none (onlyMail_after Fault.onlyMail_empty hmail) password salt ?_
    refine Option.eq_none_iff_forall_ne_some.mpr ?_
    intro r hr
    obtain ⟨t, hout, htoken, -⟩ := (hrecord r).mp hr
    exact hnone ⟨t, hout, htoken⟩
  refine ⟨⟨?_, ?_⟩, ?_, hunknown⟩
  · intro hok
    by_contra hnot
    by_cases hknown : ∃ t, Outstanding service (fresh start) operations t ∧ t.token = token
    · obtain ⟨t, hout, htoken⟩ := hknown
      by_cases hnow : w.clock.second.toInt ≤ t.last leeway
      · exact hnot ⟨t, hout, htoken, hnow⟩
      · rw [hlate t hout htoken (Int.not_le.mp hnow)] at hok
        cases hok
    · rw [hunknown hknown] at hok
      cases hok
  · rintro ⟨t, hout, htoken, hnow⟩
    rw [hintime t hout htoken hnow]
  · intro t hout htoken
    refine ⟨?_, hlate t hout htoken⟩
    intro hnow
    refine ⟨_, service.hasher.verify_hash hsalt password, ?_⟩
    rw [hintime t hout htoken hnow]
    exact passwordReplaced_of_stood (finds_of_outstanding hordinary hout)
      (htoken.symm ▸ hstood t hout htoken) _

/-- In its last second the credential that Ana asked for still sets a password. -/
theorem reset_lifecycle_sample :
    let w := after .sample (fresh 1709294400) (sampleRun ++ [.advance 960])
    let attempt := step .sample w
      (.resetPassword sampleReset.token "second" (List.replicate 16 0))
    attempt.1 = .ok () ∧
      ∃ hash, Service.sample.hasher.verify "second" hash = .ok true ∧
        PasswordReplaced sampleReset hash w attempt.2 := by
  obtain ⟨hrequested, -⟩ := requested?_sample rfl store_sampleWorld.1
  have hmail : ∀ operation ∈ sampleRun ++ [.advance 960], operation.DisturbsOnlyMail := by
    simp [sampleRun, sampleRegistration, Operation.DisturbsOnlyMail]
  have hroom : (after .sample (fresh 1709294400)
      (sampleRun ++ [.advance 960])).backend.store.accounts.size < UInt64.size := by
    show (after .sample (fresh 1709294400) sampleRun).backend.store.accounts.size < UInt64.size
    rw [store_sampleRun]
    show sampleWorld.backend.store.accounts.size < UInt64.size
    rw [store_sampleWorld.2]
    decide
  have htokens : resetTokens .sample (fresh 1709294400) (sampleRun ++ [.advance 960]) =
      [sampleReset.token] := by
    show [] ++ (((requested? .sample sampleWorld (.requestReset "a@b.co")).map
      IssuedReset.token).toList ++ ([] ++ [])) = _
    rw [hrequested]
    rfl
  have hcollision : ∀ s ∈ sampleReset.token ::
      resetTokens .sample (fresh 1709294400) (sampleRun ++ [.advance 960]),
      ∀ s' ∈ sampleReset.token ::
        resetTokens .sample (fresh 1709294400) (sampleRun ++ [.advance 960]),
      fingerprint s = fingerprint s' → s = s' := by
    rw [htokens]
    simp
  have hout : Outstanding .sample (fresh 1709294400) (sampleRun ++ [.advance 960]) sampleReset :=
    ⟨[sampleRegistration], .requestReset "a@b.co", [.advance 960], rfl, hrequested, id, trivial⟩
  have hsalt : (List.replicate 16 0 : Bytes).length = PasswordHasher.saltLength := rfl
  obtain ⟨hok, hreplaced, -⟩ :=
    reset_lifecycle Service.ofConfig_sample hmail (by decide) hroom hcollision hsalt "second"
  exact ⟨hok.mpr ⟨sampleReset, hout, rfl, by decide⟩, (hreplaced _ hout rfl).1 (by decide)⟩

end World
end AccountAccess
