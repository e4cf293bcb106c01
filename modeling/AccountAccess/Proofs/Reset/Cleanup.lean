import AccountAccess.Proofs.Reset.Replay

/-!
What a cleanup of reset records takes out, and what that costs.

* **What is taken out.** A record expires with its credential (`World.exists_issued_of_stored?`),
  but the credential is accepted until the leeway has passed as well. So from the expiry on until
  then a cleanup takes out the record of a credential that is accepted
  (`World.cleaned_and_accepted_iff`).
* **Runs with more cleanups.** `World.WithCleanups` says that one run is another one with cleanups
  put in between, and `World.Swept` that a cleanup takes a record out that is not stored again.
  Nothing else can differ about a record at the end (`World.sameRecord_or_swept`).
* `World.cleanups_cost` puts both together: a reset that succeeds without the cleanups succeeds with
  them, unless its record was swept.
-/

namespace AccountAccess
namespace World

variable {service : Service} {w w' : World}

/-! ### What a cleanup takes out -/

/-- The second that a clock shows within the calendar, and the start of 1970 without. -/
def shownSecond (c : ManualClock) : Int64 :=
  if Instant.firstSecond ≤ c.second.toInt ∧ c.second.toInt ≤ Instant.lastSecond then c.second else 0

lemma now_read (c : ManualClock) : c.read.now = .ofUnix (shownSecond c).toInt := by
  show Instant.ofUnixOrEpoch c.second.toInt = _
  rw [Instant.ofUnixOrEpoch_eq, shownSecond]
  split_ifs <;> rfl

/-- A record that is stored expires with the credential that is sent out, within the calendar. -/
lemma exists_issued_of_stored? {operation : Operation} {r : ResetRecord}
    (hr : stored? service w operation = some r) :
    ∃ t userId role, ∃ second : Int64, requested? service w operation = some t ∧
      t.token = service.codec.encode
        (service.codec.issue userId role none (.ofUnix second.toInt) Claims.resetLifetime) ∧
      r.fingerprint = fingerprint t.token ∧
      r.expiresAt = .ofUnix (second.toInt + Claims.resetLifetime) ∧
      second.toInt + Claims.resetLifetime ≤ Instant.lastSecond := by
  obtain ⟨t, ht, hfingerprint, hexpiry⟩ := exists_requested?_of_stored? hr
  have hnow : w.reading.now = .ofUnix (shownSecond w.clock).toInt := now_read w.clock
  have htoken := encode_claims_of_requested? ht
  rw [PasswordReset.claims, hnow] at htoken
  rw [hnow, Instant.addSeconds?_ofUnix, Instant.ofUnix?_eq,
    Option.ite_none_right_eq_some] at hexpiry
  obtain ⟨⟨-, hlast⟩, hexpiry⟩ := hexpiry
  exact ⟨t, _, _, shownSecond w.clock, ht, htoken, hfingerprint, (Option.some.inj hexpiry).symm,
    hlast⟩

/-- A record has expired and its credential is accepted from the expiry on, and until the leeway has
passed as well. -/
lemma cleaned_and_accepted_iff {codec : Codec} {userId : Int64} {role : Role} {second now : Int64}
    (hlast : second.toInt + Claims.resetLifetime ≤ Instant.lastSecond) :
    (Instant.ofUnix (second.toInt + Claims.resetLifetime) ≤ (Reading.ofSecond now).now ∧
        ∃ c, codec.decode (codec.encode (codec.issue userId role none (.ofUnix second.toInt)
          Claims.resetLifetime)) (.ofSecond now) = .ok c) ↔
      0 ≤ second.toInt ∧ second.toInt + Claims.resetLifetime ≤ now.toInt ∧
        now.toInt ≤ second.toInt + Claims.resetLifetime + codec.leeway ∧
        now.toInt ≤ Instant.lastSecond := by
  have hlifetime : 0 < Claims.resetLifetime := by decide
  have hfirst : Instant.firstSecond ≤ 0 := by decide
  have hshown : (Reading.ofSecond now).now =
      .ofUnix (if Instant.firstSecond ≤ now.toInt ∧ now.toInt ≤ Instant.lastSecond then now.toInt
        else 0) := Instant.ofUnixOrEpoch_eq now.toInt
  rw [hshown, Instant.ofUnix_le_ofUnix]
  constructor
  · rintro ⟨hexpired, c, hdecode⟩
    have hread := (Codec.decodeAt_eq_ok_iff.mp hdecode).1
    obtain ⟨-, hstart, -⟩ := Codec.of_read_eq_ok hread
    rw [Codec.eq_of_read_encode hread, Codec.issue, Claims.notBefore_issue] at hstart
    -- a clock outside the calendar shows the start of 1970, when no accepted credential has expired
    split_ifs at hexpired with hinside
    · have hlater : second ≤ now := Int64.le_iff_toInt_le.mpr (by omega)
      have hwithin := ((Codec.decode_encode_issue_iff hstart Claims.resetLifetime_nonneg hlast
        hlater).mp hdecode).2
      exact ⟨hstart, hexpired, hwithin, hinside.2⟩
    · omega
  · rintro ⟨hstart, hexpired, hwithin, hinside⟩
    have hlater : second ≤ now := Int64.le_iff_toInt_le.mpr (by omega)
    refine ⟨?_, _, (Codec.decode_encode_issue_iff hstart Claims.resetLifetime_nonneg hlast
      hlater).mpr ⟨rfl, hwithin⟩⟩
    rw [if_pos ⟨by omega, hinside⟩]
    exact hexpired

/-- A record that a run leaves is of a credential that came up on it, and expires with that. -/
lemma exists_issued_of_findReset? {start : Int64} {operations : List Operation}
    (hmail : ∀ operation ∈ operations, operation.DisturbsOnlyMail) {fp : String} {r : ResetRecord}
    (hr : (after service (fresh start) operations).backend.store.findReset? fp = some r) :
    ∃ token ∈ resetTokens service (fresh start) operations, ∃ userId role, ∃ second : Int64,
      token = service.codec.encode
        (service.codec.issue userId role none (.ofUnix second.toInt) Claims.resetLifetime) ∧
      fp = fingerprint token ∧ r.expiresAt = .ofUnix (second.toInt + Claims.resetLifetime) ∧
      second.toInt + Claims.resetLifetime ≤ Instant.lastSecond := by
  rcases (findReset?_after_iff Fault.onlyMail_empty hmail).mp hr with ⟨hstood, -⟩ |
    ⟨before, operation, later, rfl, hstored, rfl, -⟩
  · cases hstood
  · obtain ⟨t, userId, role, second, ht, htoken, hrest⟩ := exists_issued_of_stored? hstored
    refine ⟨t.token, ?_, userId, role, second, htoken, hrest⟩
    rw [resetTokens_append, resetTokens]
    exact List.mem_append_right _ (List.mem_append_left _ (mem_handled_of_requested? ht))

/-! ### Runs with more cleanups -/

/-- The second run is the first one with cleanups of reset records put in between. -/
inductive WithCleanups : List Operation → List Operation → Prop
  | nil : WithCleanups [] []
  | keep (operation : Operation) {operations operations' : List Operation} :
    WithCleanups operations operations' →
      WithCleanups (operation :: operations) (operation :: operations')
  | cleanup {operations operations' : List Operation} :
    WithCleanups operations operations' → WithCleanups operations (.cleanupResets :: operations')

/-- No operation of a run stores the fingerprint of a token. -/
def NeverStored (service : Service) (token : String) : World → List Operation → Prop :=
  Throughout service fun w operation =>
    ∀ r, stored? service w operation = some r → r.fingerprint ≠ fingerprint token

/-- A cleanup takes the record of a token out on a run, and it is not stored again. -/
def Swept (service : Service) (token : String) (w : World) (operations : List Operation) : Prop :=
  ∃ before later r, operations = before ++ .cleanupResets :: later ∧
    (after service w before).backend.store.findReset? (fingerprint token) = some r ∧
    r.isExpiredAt (after service w before).reading.now = true ∧
    NeverStored service token (step service (after service w before) .cleanupResets).2 later

variable {token : String} {operations operations' : List Operation}

/-- What is swept on the rest of a run is swept on the run. -/
lemma Swept.cons {operation : Operation}
    (hswept : Swept service token (step service w operation).2 operations) :
    Swept service token w (operation :: operations) := by
  obtain ⟨before, later, r, rfl, hrest⟩ := hswept
  exact ⟨operation :: before, later, r, rfl, hrest⟩

/-- Cleanups disturb nothing. -/
lemma WithCleanups.disturbsOnlyMail (hwith : WithCleanups operations operations')
    (hmail : ∀ operation ∈ operations, operation.DisturbsOnlyMail) :
    ∀ operation ∈ operations', operation.DisturbsOnlyMail := by
  induction hwith with
  | nil => exact hmail
  | keep operation _ ih =>
      obtain ⟨hfirst, hrest⟩ := List.forall_mem_cons.mp hmail
      exact List.forall_mem_cons.mpr ⟨hfirst, ih hrest⟩
  | cleanup _ ih => exact List.forall_mem_cons.mpr ⟨trivial, ih hmail⟩

/-- More cleanups leave the same world but for records that are lacking and for password hashes. -/
lemma Trails.run (hwith : WithCleanups operations operations') (ht : Trails w w')
    (h : Fault.OnlyMail w.faults)
    (hmail : ∀ operation ∈ operations, operation.DisturbsOnlyMail) :
    Trails (after service w operations) (after service w' operations') := by
  induction hwith generalizing w w' with
  | nil => exact ht
  | keep operation _ ih =>
      obtain ⟨hfirst, hrest⟩ := List.forall_mem_cons.mp hmail
      exact ih (ht.step h operation) (onlyMail_step h hfirst) hrest
  | cleanup _ ih => exact ih ht.cleanup h hmail

/-- A swept credential is refused as unknown. -/
lemma Swept.spent (hswept : Swept service token w operations) (h : Fault.OnlyMail w.faults)
    (hmail : ∀ operation ∈ operations, operation.DisturbsOnlyMail) :
    Spent service (after service w operations) token := by
  obtain ⟨before, later, r, rfl, hstood, hexpired, hnever⟩ := hswept
  have hbefore : Fault.OnlyMail (after service w before).faults :=
    onlyMail_after h fun operation hop => hmail operation (List.mem_append_left _ hop)
  have hlater : ∀ operation ∈ later, operation.DisturbsOnlyMail :=
    fun operation hop => hmail operation (List.mem_append_right _ (List.mem_cons_of_mem _ hop))
  have hcleaned : Fault.OnlyMail (step service (after service w before) .cleanupResets).2.faults :=
    hbefore
  have hgone : Spent service (step service (after service w before) .cleanupResets).2 token := by
    refine (spent_iff hcleaned).mpr (Option.eq_none_iff_forall_ne_some.mpr ?_)
    intro r' hr'
    rcases (findReset?_step_iff hbefore .cleanupResets).mp hr' with ⟨hstored, -⟩ | ⟨hr, hkept⟩
    · cases hstored
    · obtain rfl := Option.some.inj (hstood.symm.trans hr)
      exact hkept hexpired
  rw [after_append]
  exact (spent_prefixes_iff hcleaned hlater hgone).mpr hnever later (List.prefix_refl later)

/-- Both worlds have the same record of a token, or none. -/
def SameRecord (token : String) (w w' : World) : Prop :=
  w'.backend.store.findReset? (fingerprint token) = w.backend.store.findReset? (fingerprint token)

/-- After an operation that stores the fingerprint of a token both worlds have the same record of
it. -/
lemma Trails.sameRecord_of_stored? (ht : Trails w w') (h : Fault.OnlyMail w.faults)
    {operation : Operation} {r : ResetRecord} (hstored : stored? service w' operation = some r)
    (hr : r.fingerprint = fingerprint token) :
    SameRecord token (World.step service w operation).2 (World.step service w' operation).2 := by
  have h' : Fault.OnlyMail w'.faults := ht.faults ▸ h
  have hleft : stored? service w operation = some r := (ht.stored?_eq operation) ▸ hstored
  rw [SameRecord, (findReset?_step_iff h' operation).mpr (Or.inl ⟨hstored, hr⟩),
    (findReset?_step_iff h operation).mpr (Or.inl ⟨hleft, hr⟩)]

/-- A cleanup leaves the record of a token as it was, or takes it out because it has expired. -/
lemma findReset?_cleanup_cases (service : Service) (w : World) (token : String) :
    (step service w .cleanupResets).2.backend.store.findReset? (fingerprint token) =
        w.backend.store.findReset? (fingerprint token) ∨
      ∃ r, w.backend.store.findReset? (fingerprint token) = some r ∧
        r.isExpiredAt w.reading.now = true ∧
        (step service w .cleanupResets).2.backend.store.findReset? (fingerprint token) = none := by
  have hcleaned : (step service w .cleanupResets).2.backend.store.findReset?
      (fingerprint token) = (w.backend.store.findReset? (fingerprint token)).filter
        fun r => !r.isExpiredAt w.reading.now :=
    AccountStore.findReset?_cleanupResets _ _ _
  cases hrecord : w.backend.store.findReset? (fingerprint token) with
  | none =>
      rw [hrecord, Option.filter_none] at hcleaned
      exact Or.inl hcleaned
  | some r =>
      rw [hrecord, Option.filter_some] at hcleaned
      cases hexpired : r.isExpiredAt w.reading.now with
      | false =>
          rw [hexpired] at hcleaned
          exact Or.inl hcleaned
      | true =>
          rw [hexpired] at hcleaned
          exact Or.inr ⟨r, rfl, hexpired, hcleaned⟩

/-- With more cleanups the record of a token is the same in the end, or it was swept. Where the
second world lacks it from the start, it may also be that no operation stores it. -/
lemma sameRecord_or_swept (hwith : WithCleanups operations operations') (ht : Trails w w')
    (h : Fault.OnlyMail w.faults) (hmail : ∀ operation ∈ operations, operation.DisturbsOnlyMail) :
    (SameRecord token w w' →
        SameRecord token (after service w operations) (after service w' operations') ∨
          Swept service token w' operations') ∧
      (w'.backend.store.findReset? (fingerprint token) = none →
        SameRecord token (after service w operations) (after service w' operations') ∨
          Swept service token w' operations' ∨ NeverStored service token w' operations') := by
  induction hwith generalizing w w' with
  | nil => exact ⟨Or.inl, fun _ => Or.inr (Or.inr trivial)⟩
  | keep operation _ ih =>
      obtain ⟨hfirst, hrest⟩ := List.forall_mem_cons.mp hmail
      have h' : Fault.OnlyMail w'.faults := ht.faults ▸ h
      obtain ⟨ihsame, ihnone⟩ := ih (ht.step h operation) (onlyMail_step h hfirst) hrest
      refine ⟨?_, ?_⟩
      · intro hsame
        exact (ihsame (ht.findReset?_step_eq h hsame operation)).imp_right Swept.cons
      · intro hnone
        by_cases hstored : ∃ r, stored? service w' operation = some r ∧
            r.fingerprint = fingerprint token
        · -- from here on the second world lacks the record no longer
          obtain ⟨r, hstored, hr⟩ := hstored
          have hsame := ht.sameRecord_of_stored? h hstored hr
          exact (ihsame hsame).imp_right fun hswept => Or.inl hswept.cons
        · have hother : ∀ r, stored? service w' operation = some r →
              r.fingerprint ≠ fingerprint token := fun r hr hsame => hstored ⟨r, hr, hsame⟩
          have hspent := (spent_step_iff h' (hmail operation List.mem_cons_self)
            ((spent_iff h').mpr hnone)).mpr hother
          have hgone := (spent_iff (onlyMail_step h' hfirst)).mp hspent
          exact (ihnone hgone).imp_right (Or.imp Swept.cons fun hnever => ⟨hother, hnever⟩)
  | cleanup _ ih =>
      obtain ⟨ihsame, ihnone⟩ := ih ht.cleanup h hmail
      have hnothing : ∀ r, stored? service w' .cleanupResets = some r →
          r.fingerprint ≠ fingerprint token := fun r hr => nomatch hr
      refine ⟨?_, ?_⟩
      · intro hsame
        rcases findReset?_cleanup_cases service w' token with hleft | ⟨r, hr, hexpired, hgone⟩
        · have hstill : SameRecord token w (step service w' .cleanupResets).2 := hleft.trans hsame
          exact (ihsame hstill).imp_right Swept.cons
        · rcases ihnone hgone with hend | hswept | hnever
          · exact Or.inl hend
          · exact Or.inr hswept.cons
          · exact Or.inr ⟨[], _, r, rfl, hr, hexpired, hnever⟩
      · intro hnone
        have hgone : (step service w' .cleanupResets).2.backend.store.findReset?
            (fingerprint token) = none := by
          rcases findReset?_cleanup_cases service w' token with hleft | ⟨r, -, -, hgone⟩
          · exact hleft.trans hnone
          · exact hgone
        exact (ihnone hgone).imp_right (Or.imp Swept.cons fun hnever => ⟨hnothing, hnever⟩)

/-- A reset on a run with more cleanups succeeds if it succeeds without them, unless its record was
swept. -/
lemma resetPassword_after_cleanups (hwith : WithCleanups operations operations') (ht : Trails w w')
    (hsame : SameRecord token w w') (h : Fault.OnlyMail w.faults)
    (hmail : ∀ operation ∈ operations, operation.DisturbsOnlyMail) (password : String)
    (salt : Bytes) :
    (step service (after service w' operations') (.resetPassword token password salt)).1 = .ok () ↔
      (step service (after service w operations) (.resetPassword token password salt)).1 = .ok () ∧
        ¬ Swept service token w' operations' := by
  have h' : Fault.OnlyMail w'.faults := ht.faults ▸ h
  have hmail' := hwith.disturbsOnlyMail hmail
  have hleft : Fault.OnlyMail (after service w operations).faults := onlyMail_after h hmail
  have hright : Fault.OnlyMail (after service w' operations').faults := onlyMail_after h' hmail'
  have hend : Trails (after service w operations) (after service w' operations') :=
    ht.run hwith h hmail
  rw [step_resetPassword_eq_ok_iff hright, step_resetPassword_eq_ok_iff hleft]
  constructor
  · rintro ⟨r, hr⟩
    have hstands := (PasswordReset.usable?_eq_some_iff.mp hr).1
    refine ⟨⟨r, (hend.usable?_eq hstands).symm.trans hr⟩, ?_⟩
    intro hswept
    rw [(spent_iff hright).mp (hswept.spent h' hmail')] at hstands
    cases hstands
  · rintro ⟨⟨r, hr⟩, hkept⟩
    have hstands := (PasswordReset.usable?_eq_some_iff.mp hr).1
    rcases (sameRecord_or_swept hwith ht h hmail).1 hsame with hrecord | hswept
    · exact ⟨r, (hend.usable?_eq (hrecord.trans hstands)).trans hr⟩
    · exact absurd hswept hkept

/-- **What a cleanup of reset records costs.** Every record that stands after a run is of a
credential that came up on it. A cleanup takes it out, although the credential would be accepted,
exactly from the second of its expiry on until the leeway has passed as well. So with more cleanups
on the run a reset succeeds exactly if it succeeds without them and the record was not swept, and if
it was swept, the credential is refused as unknown. -/
theorem cleanups_cost {start : Int64} {operations : List Operation}
    (hmail : ∀ operation ∈ operations, operation.DisturbsOnlyMail) :
    let w := after service (fresh start) operations
    (∀ fp r, w.backend.store.findReset? fp = some r →
      ∃ token ∈ resetTokens service (fresh start) operations, fp = fingerprint token ∧
        ∃ second : Int64, r.expiresAt = .ofUnix (second.toInt + Claims.resetLifetime) ∧
          ∀ now : Int64,
            ((w.backend.store.cleanupResets (Reading.ofSecond now).now).2.findReset? fp = none ∧
                ∃ c, service.codec.decode token (.ofSecond now) = .ok c) ↔
              0 ≤ second.toInt ∧ second.toInt + Claims.resetLifetime ≤ now.toInt ∧
                now.toInt ≤ second.toInt + Claims.resetLifetime + service.codec.leeway ∧
                now.toInt ≤ Instant.lastSecond) ∧
      ∀ operations', WithCleanups operations operations' → ∀ token,
        let w' := after service (fresh start) operations'
        (∀ password salt, (step service w' (.resetPassword token password salt)).1 = .ok () ↔
          (step service w (.resetPassword token password salt)).1 = .ok () ∧
            ¬ Swept service token (fresh start) operations') ∧
          (Swept service token (fresh start) operations' → Spent service w' token) := by
  intro w
  have hfresh : Fault.OnlyMail (fresh start).faults := Fault.onlyMail_empty
  refine ⟨?_, ?_⟩
  · intro fp r hr
    obtain ⟨token, htoken, userId, role, second, rfl, hfp, hexpires, hlast⟩ :=
      exists_issued_of_findReset? hmail hr
    refine ⟨_, htoken, hfp, second, hexpires, ?_⟩
    intro now
    rw [AccountStore.findReset?_cleanupResets, hr, Option.filter_some,
      ← cleaned_and_accepted_iff hlast, ResetRecord.isExpiredAt, hexpires]
    refine and_congr_left fun _ => ?_
    simp
  · intro operations' hwith token
    refine ⟨?_, ?_⟩
    · intro password salt
      exact resetPassword_after_cleanups hwith (.refl _) rfl hfresh hmail password salt
    · intro hswept
      exact hswept.spent hfresh (hwith.disturbsOnlyMail hmail)

/-- Fifteen minutes after Ana asked for a credential she can set a password with it, and no longer
can after a cleanup. -/
theorem cleanups_cost_sample :
    let run := sampleRun ++ [.advance 900]
    let cleaned := sampleRun ++ [.advance 900, .cleanupResets]
    (∃ token ∈ resetTokens .sample (fresh 1709294400) run,
        ((after .sample (fresh 1709294400) run).backend.store.cleanupResets
            (Reading.ofSecond 1709295300).now).2.findReset? (fingerprint sampleReset.token) = none ∧
          ∃ c, Service.sample.codec.decode token (.ofSecond 1709295300) = .ok c) ∧
      (step .sample (after .sample (fresh 1709294400) run)
        (.resetPassword sampleReset.token "second" [])).1 = .ok () ∧
      (step .sample (after .sample (fresh 1709294400) cleaned)
        (.resetPassword sampleReset.token "second" [])).1 ≠ .ok () ∧
      Spent .sample (after .sample (fresh 1709294400) cleaned) sampleReset.token := by
  intro run cleaned
  have hmail : ∀ operation ∈ run, operation.DisturbsOnlyMail := by
    simp [run, sampleRun, sampleRegistration, Operation.DisturbsOnlyMail]
  have hwith : WithCleanups run cleaned := .keep _ (.keep _ (.keep _ (.cleanup .nil)))
  have hrecord : (after .sample (fresh 1709294400) run).backend.store.findReset?
      (fingerprint sampleReset.token) = some sampleReset.record := findReset?_sampleRun
  have hdecode : Service.sample.codec.decode sampleReset.token (.ofSecond 1709295300) =
      .ok (Service.sample.codec.issue 1 .user none
        (.ofUnix (1709294400 : Int64).toInt) Claims.resetLifetime) :=
    (Codec.decode_encode_issue_iff (by decide) Claims.resetLifetime_nonneg (by decide)
      (by decide)).mpr ⟨rfl, by decide⟩
  have honly : Fault.OnlyMail (after .sample (fresh 1709294400) run).faults := Fault.onlyMail_empty
  have hok : (step .sample (after .sample (fresh 1709294400) run)
      (.resetPassword sampleReset.token "second" [])).1 = .ok () := by
    refine (step_resetPassword_eq_ok_iff honly "second" []).mpr ⟨sampleReset.record, ?_⟩
    exact PasswordReset.usable?_eq_some_iff.mpr ⟨hrecord, ⟨_, hdecode⟩, sampleAccount,
      find?_sampleRun⟩
  have hswept : Swept .sample sampleReset.token (fresh 1709294400) cleaned :=
    ⟨run, [], sampleReset.record, rfl, hrecord, by decide, trivial⟩
  obtain ⟨hstands, hruns⟩ := @cleanups_cost .sample 1709294400 run hmail
  refine ⟨?_, hok, ?_, (hruns cleaned hwith sampleReset.token).2 hswept⟩
  · obtain ⟨token, htoken, -, second, hexpires, hcost⟩ := hstands _ _ hrecord
    have hsecond : second.toInt = 1709294400 := by
      have hunix := congrArg Instant.unix hexpires
      rw [Instant.unix_ofUnix, sampleReset, IssuedReset.record, ResetRecord.ofToken,
        Instant.unix_ofUnix] at hunix
      exact ((Int.add_left_inj _).mp hunix).symm
    exact ⟨token, htoken, (hcost 1709295300).mpr (by rw [hsecond]; decide)⟩
  · intro hstill
    exact (((hruns cleaned hwith sampleReset.token).1 "second" []).mp hstill).2 hswept

end World
end AccountAccess
