import AccountAccess.Proofs.Session.Issued
import AccountAccess.Proofs.Session.Revocation

/-!
The life of a session, from the operation that opens it on.

* `IssuedSession.last`: the last second at which a session is accepted.
* `Tracks`: how the ledger stands to a session. While nobody has logged out of it nothing is entered
  for it; afterwards it is entered through its last second, or that second has passed. Each
  operation keeps this (`Tracks.step`), so a run does (`Tracks.run`).
* `World.session_lifecycle`: a session is verified through its last second until its token is
  presented to log out, and never otherwise. Only who holds the key can end it without its token
  (`World.session_ended_by_rival`).
-/

namespace AccountAccess

/-! ### The window of a session -/

/-- The last second at which a session is accepted under a leeway. -/
def IssuedSession.last (t : IssuedSession) (leeway : Nat) : Int :=
  t.second.toInt + Claims.sessionLifetime + leeway

section

variable {codec : Codec} {t : IssuedSession} (hstart : 0 ≤ t.second.toInt)
  (hend : t.second.toInt ≤ lastSessionStart)
  (hissued : t.token = codec.encode (t.claims codec.issuer))
include hstart hend hissued

/-- A session is accepted from its second through its last one. -/
lemma decode_session_iff {now : Int64} {c : Claims} (hlater : t.second ≤ now) :
    codec.decode t.token (.ofSecond now) = .ok c ↔
      c = t.claims codec.issuer ∧ now.toInt ≤ t.last codec.leeway := by
  have hbound := lastSessionStart_add
  rw [hissued]
  exact Codec.decode_encode_issue_iff hstart Claims.sessionLifetime_nonneg (by omega) hlater

/-- Presenting a session to log out enters it through its last second, unless that has passed. -/
lemma entered?_session (hleeway : codec.leeway ≤ 300) {now : Int64} (hlater : t.second ≤ now) :
    Session.entered? codec t.token (.ofSecond now) =
      if now.toInt ≤ t.last codec.leeway then some (t.id, .ofUnix (t.last codec.leeway))
      else none := by
  have hexpires := IssuedSession.expires_claims hstart hend codec.issuer
  have hbound := lastSessionStart_add
  have hlifetime := Claims.sessionLifetime_nonneg
  rw [Session.entered?]
  split_ifs with hnow
  · rw [(decode_session_iff hstart hend hissued hlater).mpr ⟨rfl, hnow⟩]
    show ((t.claims codec.issuer).expiresAt.addSeconds? codec.leeway).bind
      (fun needed => some (t.id, needed)) = _
    rw [Claims.addSeconds?_expiresAt (by omega) hleeway, hexpires, if_neg (by omega),
      if_neg (by omega)]
    rfl
  · cases hdecode : codec.decode t.token (.ofSecond now) with
    | error e => rfl
    | ok c => exact absurd ((decode_session_iff hstart hend hissued hlater).mp hdecode).2 hnow

end

/-- What is entered is an identifier that the presented credential names. -/
lemma read_of_entered? {codec : Codec} {token id : String} {clock : Reading} {needed : Instant}
    (h : Session.entered? codec token clock = some (id, needed)) :
    ∃ c, codec.read token = .ok c ∧ c.id = some id := by
  rw [Session.entered?] at h
  cases hdecode : codec.decode token clock with
  | error e => rw [hdecode] at h; cases h
  | ok c =>
      simp only [hdecode, Except.toOption, Option.bind_eq_bind, Option.bind_some,
        Option.pure_def, Option.bind_eq_some_iff, Option.some.injEq, Prod.mk.injEq] at h
      obtain ⟨id', hid, needed', -, rfl, -⟩ := h
      exact ⟨c, (Codec.decodeAt_eq_ok_iff.mp hdecode).1, hid⟩

/-! ### The ledger and a session -/

/-- How a ledger stands to a session at a second: as long as nobody has logged out of it nothing is
entered for it, and afterwards it is entered through its last second, unless that has passed. -/
structure Tracks (ledger : RevocationLedger) (now : Int64) (t : IssuedSession) (last : Int)
    (loggedOut : Prop) : Prop where
  open_ : ¬ loggedOut → ledger.entries.get? t.id = none
  closed : loggedOut → ledger.entries.get? t.id = some (.ofUnix last) ∨ last < now.toInt

namespace Tracks

variable {service : Service} {w : World} {t : IssuedSession} {loggedOut : Prop}

/-- What the ledger says of a session stays true as time goes by. -/
lemma mono {ledger : RevocationLedger} {now later : Int64} {last : Int}
    (h : Tracks ledger now t last loggedOut) (hlater : now ≤ later) :
    Tracks ledger later t last loggedOut := by
  rw [Int64.le_iff_toInt_le] at hlater
  refine ⟨h.open_, fun hout => ?_⟩
  rcases h.closed hout with hentered | hpassed
  · exact Or.inl hentered
  · exact Or.inr (by omega)

/-- Entering another credential changes nothing for a session. -/
lemma revoke_other {ledger : RevocationLedger} {now : Int64} {last : Int} {id : String}
    (h : Tracks ledger now t last loggedOut) (hid : t.id ≠ id) (needed : Instant) :
    Tracks (ledger.revoke id needed) now t last loggedOut := by
  have hsame : (ledger.revoke id needed).entries.get? t.id = ledger.entries.get? t.id := by
    rw [RevocationLedger.get?_revoke, if_neg hid]
  exact ⟨fun hin => hsame.trans (h.open_ hin), fun hout => hsame ▸ h.closed hout⟩

/-- Entering a session through its last second closes it. -/
lemma revoke_self {ledger : RevocationLedger} {now : Int64} {last : Int}
    (h : Tracks ledger now t last loggedOut) :
    Tracks (ledger.revoke t.id (.ofUnix last)) now t last True := by
  refine ⟨fun hin => absurd trivial hin, fun _ => ?_⟩
  rw [RevocationLedger.get?_revoke, if_pos rfl]
  by_cases hout : loggedOut
  · rcases h.closed hout with hentered | hpassed
    · rw [hentered]
      exact Or.inl rfl
    · exact Or.inr hpassed
  · rw [h.open_ hout]
    exact Or.inl rfl

/-- A cleanup takes a session out only once its last second has passed. -/
lemma cleanup {ledger : RevocationLedger} {now : Int64} {last : Int}
    (hnow : (Reading.ofSecond now).now = .ofUnix now.toInt)
    (h : Tracks ledger now t last loggedOut) :
    Tracks (ledger.cleanup (Reading.ofSecond now).now).2 now t last loggedOut := by
  refine ⟨fun hin => ?_, fun hout => ?_⟩
  · rw [RevocationLedger.get?_cleanup, h.open_ hin]
    rfl
  · rcases h.closed hout with hentered | hpassed
    · rw [RevocationLedger.get?_cleanup, hentered, hnow]
      by_cases hkept : now.toInt ≤ last
      · exact Or.inl (Option.filter_some_pos (decide_eq_true (Instant.ofUnix_le_ofUnix.mpr hkept)))
      · exact Or.inr (by omega)
    · exact Or.inr hpassed

/-- Only whether anybody has logged out counts. -/
lemma of_iff {ledger : RevocationLedger} {now : Int64} {last : Int} {loggedOut' : Prop}
    (h : Tracks ledger now t last loggedOut) (hiff : loggedOut ↔ loggedOut') :
    Tracks ledger now t last loggedOut' :=
  ⟨fun hin => h.open_ (mt hiff.mp hin), fun hout => h.closed (hiff.mpr hout)⟩

section

variable (hstart : 0 ≤ t.second.toInt) (hend : t.second.toInt ≤ lastSessionStart)
  (hissued : t.token = service.codec.encode (t.claims service.codec.issuer))
  (hleeway : service.codec.leeway ≤ 300)
include hstart hend hissued hleeway

/-- An operation keeps how the ledger stands to a session, provided that the identifier of the
session is not presented to log out but by its own token. -/
lemma step {operation : Operation} {rest : List Operation} (h : Fault.OnlyMail w.faults)
    (hclock : World.RunsForward lastSessionStart w.clock (operation :: rest))
    (hlater : t.second ≤ w.clock.second)
    (hgenuine : ∀ token c, operation = .logout token → service.codec.read token = .ok c →
      c.id = some t.id → token = t.token)
    (htracks : Tracks w.backend.ledger w.clock.second t (t.last service.codec.leeway) loggedOut) :
    Tracks (World.step service w operation).2.backend.ledger
      (World.step service w operation).2.clock.second t (t.last service.codec.leeway)
      (loggedOut ∨ operation = .logout t.token) := by
  refine mono ?_ (hclock.le_step service)
  rw [World.step_ledger h]
  cases operation with
  | logout token =>
      dsimp only
      by_cases htoken : token = t.token
      · subst htoken
        have hentered := entered?_session hstart hend hissued hleeway hlater
        rw [show Session.entered? service.codec t.token w.reading = _ from hentered]
        split_ifs with hnow
        · exact htracks.revoke_self.of_iff (by simp)
        · exact ⟨fun hin => absurd (Or.inr rfl) hin, fun _ => Or.inr (by omega)⟩
      · have hiff : loggedOut ↔ loggedOut ∨ Operation.logout token = .logout t.token := by
          rw [Operation.logout.injEq, or_iff_left htoken]
        cases hentered : Session.entered? service.codec token w.reading with
        | none => exact htracks.of_iff hiff
        | some entry =>
            obtain ⟨c, hc, hid⟩ := read_of_entered? hentered
            refine (htracks.revoke_other ?_ entry.2).of_iff hiff
            intro hsame
            exact htoken (hgenuine token c rfl hc (hsame ▸ hid))
  | cleanupLedger =>
      have hnow := hclock.now_eq lastSessionStart_le
      exact (htracks.cleanup hnow).of_iff (by simp)
  | _ => exact htracks.of_iff (by simp)

/-- A run keeps how the ledger stands to a session. -/
lemma run {operations : List Operation} (h : Fault.OnlyMail w.faults)
    (hmail : ∀ operation ∈ operations, operation.DisturbsOnlyMail)
    (hclock : World.RunsForward lastSessionStart w.clock operations)
    (hlater : t.second ≤ w.clock.second)
    (hgenuine : ∀ token c, .logout token ∈ operations → service.codec.read token = .ok c →
      c.id = some t.id → token = t.token)
    (htracks : Tracks w.backend.ledger w.clock.second t (t.last service.codec.leeway) loggedOut) :
    Tracks (World.after service w operations).backend.ledger
      (World.after service w operations).clock.second t (t.last service.codec.leeway)
      (loggedOut ∨ .logout t.token ∈ operations) := by
  induction operations generalizing w loggedOut with
  | nil => exact htracks.of_iff (by simp)
  | cons operation rest ih =>
      obtain ⟨hfirst, hrest⟩ := List.forall_mem_cons.mp hmail
      have hstep := step hstart hend hissued hleeway h hclock hlater
        (fun token c hop => hgenuine token c (hop ▸ List.mem_cons_self)) htracks
      have hafter := ih (World.onlyMail_step h hfirst) hrest (hclock.tail service)
        (Int64.le_trans hlater (hclock.le_step service))
        (fun token c hop => hgenuine token c (List.mem_cons_of_mem _ hop)) hstep
      refine hafter.of_iff ?_
      rw [List.mem_cons, or_assoc]
      simp only [eq_comm]

end

end Tracks

/-- Before a session is opened nothing is entered for its identifier, provided that nobody presents
the identifier to log out. -/
lemma entries_of_foreign {service : Service} {w : World} {operations : List Operation} {id : String}
    (h : Fault.OnlyMail w.faults) (hmail : ∀ operation ∈ operations, operation.DisturbsOnlyMail)
    (hforeign : ∀ token c, .logout token ∈ operations → service.codec.read token = .ok c →
      c.id ≠ some id)
    (hfree : w.backend.ledger.entries.get? id = none) :
    (World.after service w operations).backend.ledger.entries.get? id = none := by
  induction operations generalizing w with
  | nil => exact hfree
  | cons operation rest ih =>
      obtain ⟨hfirst, hrest⟩ := List.forall_mem_cons.mp hmail
      refine ih (World.onlyMail_step h hfirst) hrest
        (fun token c hop => hforeign token c (List.mem_cons_of_mem _ hop)) ?_
      rw [World.step_ledger h]
      cases operation with
      | logout token =>
          dsimp only
          cases hentered : Session.entered? service.codec token w.reading with
          | none => exact hfree
          | some entry =>
              obtain ⟨c, hc, hid⟩ := read_of_entered? hentered
              have hne : id ≠ entry.1 := by
                rintro rfl
                exact hforeign token c List.mem_cons_self hc hid
              rw [Option.elim_some, RevocationLedger.get?_revoke, if_neg hne, hfree]
      | cleanupLedger =>
          rw [RevocationLedger.get?_cleanup, hfree]
          rfl
      | _ => exact hfree

/-! ### What verifying a session answers -/

/-- The answer to a verification, where it is known how the ledger stands to the session. -/
lemma verify_of_tracks {service : Service} {w : World} {t : IssuedSession} {loggedOut : Prop}
    (hstart : 0 ≤ t.second.toInt) (hend : t.second.toInt ≤ lastSessionStart)
    (hissued : t.token = service.codec.encode (t.claims service.codec.issuer))
    (h : Fault.OnlyMail w.faults) (hlater : t.second ≤ w.clock.second)
    (htracks : Tracks w.backend.ledger w.clock.second t (t.last service.codec.leeway) loggedOut) :
    (w.clock.second.toInt ≤ t.last service.codec.leeway ∧ ¬ loggedOut →
        (World.step service w (.verify t.token)).1 = .ok (some ⟨t.userId, t.role⟩)) ∧
      (¬ (w.clock.second.toInt ≤ t.last service.codec.leeway ∧ ¬ loggedOut) →
        (World.step service w (.verify t.token)).1 = .ok none) := by
  have hdecode : ∀ c, service.codec.decode t.token w.reading = .ok c ↔
      c = t.claims service.codec.issuer ∧ w.clock.second.toInt ≤ t.last service.codec.leeway :=
    fun _ => decode_session_iff hstart hend hissued hlater
  rw [World.step_verify h]
  constructor
  · rintro ⟨hnow, hin⟩
    rw [(hdecode _).mpr ⟨rfl, hnow⟩]
    show Outcome.ok (if w.backend.ledger.isRevoked t.id = true then none
      else some (Identity.mk t.userId t.role)) = _
    rw [RevocationLedger.isRevoked, htracks.open_ hin]
    rfl
  · intro hnot
    cases hc : service.codec.decode t.token w.reading with
    | error e => rfl
    | ok c =>
        obtain ⟨rfl, hnow⟩ := (hdecode c).mp hc
        have hout : loggedOut := by
          by_contra hin
          exact hnot ⟨hnow, hin⟩
        have hentered : w.backend.ledger.entries.get? t.id =
            some (.ofUnix (t.last service.codec.leeway)) := by
          rcases htracks.closed hout with hentered | hpassed
          · exact hentered
          · omega
        show Outcome.ok (if w.backend.ledger.isRevoked t.id = true then none
          else some (Identity.mk t.userId t.role)) = _
        rw [RevocationLedger.isRevoked, hentered]
        rfl

namespace World

/-- Where a session was opened on a run of which the clock never goes back, its identifier is nobody
else's and its credential was not forged, it is verified from then on exactly through its last
second and until its token is presented to log out: not a cleanup, nor anything that is done about
other sessions, accounts and passwords, makes a difference. -/
theorem session_lifecycle {config : AccessConfig} {service : Service} {start : Int64}
    {before later : List Operation} {operation : Operation} {t : IssuedSession}
    (hservice : Service.ofConfig config = .ok service)
    (hmail : ∀ op ∈ before ++ operation :: later, op.DisturbsOnlyMail)
    (hclock : RunsForward lastSessionStart ⟨start⟩ (before ++ operation :: later))
    (hids : ((sessions service (fresh start) (before ++ operation :: later)).map
      IssuedSession.id).Nodup)
    (hgenuine : Genuine service (fresh start) (before ++ operation :: later))
    (ht : opened? service (after service (fresh start) before) operation = some t) :
    let w := after service (fresh start) (before ++ operation :: later)
    let last := t.second.toInt + Claims.sessionLifetime + config.leeway.secs.toNat
    (w.clock.second.toInt ≤ last ∧ .logout t.token ∉ later →
        (step service w (.verify t.token)).1 = .ok (some ⟨t.userId, t.role⟩)) ∧
      (¬ (w.clock.second.toInt ≤ last ∧ .logout t.token ∉ later) →
        (step service w (.verify t.token)).1 = .ok none) := by
  obtain ⟨hconfigured, hleeway⟩ := Service.leeway_codec hservice
  have hwhole : before ++ operation :: later = (before ++ [operation]) ++ later :=
    (List.append_assoc before [operation] later).symm
  have hfresh : Fault.OnlyMail (fresh start).faults := Fault.onlyMail_empty
  -- where the session is opened
  have hthere := RunsForward.right (w := fresh start) service hclock
  have hbefore : Fault.OnlyMail (after service (fresh start) before).faults :=
    onlyMail_after hfresh fun op hop => hmail op (List.mem_append_left _ hop)
  obtain ⟨htoken, hsecond⟩ := token_of_opened? hbefore (hthere.now_eq lastSessionStart_le) ht
  obtain ⟨hlow, hhigh⟩ := hthere.bounds
  rw [← hsecond] at hlow hhigh
  -- right after that
  have hforeign : ∀ token c, .logout token ∈ before ++ [operation] →
      service.codec.read token = .ok c → c.id ≠ some t.id := by
    intro token c hop hc
    rcases List.mem_append.mp hop with hearlier | hopening
    · exact hgenuine.ne_id_of_before hfresh hmail hclock hids ht hearlier hc
    · obtain rfl := List.mem_singleton.mp hopening
      cases ht
  have hmailed : ∀ op ∈ before ++ [operation], op.DisturbsOnlyMail :=
    fun op hop => hmail op (hwhole ▸ List.mem_append_left _ hop)
  have hopened : Tracks (after service (fresh start) (before ++ [operation])).backend.ledger
      (after service (fresh start) (before ++ [operation])).clock.second t
      (t.last service.codec.leeway) False :=
    ⟨fun _ => entries_of_foreign hfresh hmailed hforeign rfl, False.elim⟩
  -- from then on
  have hrest : RunsForward lastSessionStart
      (after service (fresh start) (before ++ [operation])).clock later :=
    RunsForward.right (w := fresh start) service (hwhole ▸ hclock)
  have hlater : t.second ≤ (after service (fresh start) (before ++ [operation])).clock.second := by
    rw [hsecond, after_append]
    exact hthere.le_step service
  have htracks := Tracks.run hlow hhigh htoken hleeway (onlyMail_after hfresh hmailed)
    (fun op hop => hmail op (hwhole ▸ List.mem_append_right _ hop)) hrest hlater
    (fun token c hop => hgenuine.eq_token_of_later hfresh hmail hclock hids ht hop) hopened
  rw [← after_append, ← hwhole] at htracks
  have hpassed := Int64.le_trans hlater (hrest.le_after service)
  rw [← after_append, ← hwhole] at hpassed
  have hanswer := verify_of_tracks hlow hhigh htoken (onlyMail_after hfresh hmail) hpassed
    (htracks.of_iff (by rw [false_or]))
  rw [IssuedSession.last, hconfigured] at hanswer
  exact hanswer

/-- The session of a user that is opened at noon of the first of March 2024. -/
def sampleSession : IssuedSession where
  token := (step .sample (fresh 1709294400) (.issue 42 .user "first")).1
  id := "first"
  userId := 42
  role := .user
  second := 1709294400

/-- Somebody logs out of it at once, and a cleanup is made in its last second. -/
def sampleLater : List Operation :=
  [.logout sampleSession.token, .advance 1209660, .cleanupLedger]

/-- In its last second it is nobody's. -/
theorem session_lifecycle_sample :
    (step .sample (after .sample (fresh 1709294400) (.issue 42 .user "first" :: sampleLater))
      (.verify sampleSession.token)).1 = .ok none := by
  have ht : opened? .sample (after .sample (fresh 1709294400) []) (.issue 42 .user "first") =
      some sampleSession := rfl
  have hsessions : sessions .sample (fresh 1709294400)
      ([] ++ .issue 42 .user "first" :: sampleLater) = [sampleSession] := rfl
  have hmail : ∀ op ∈ [] ++ .issue 42 .user "first" :: sampleLater, op.DisturbsOnlyMail := by
    simp [sampleLater, Operation.DisturbsOnlyMail]
  have hgenuine : Genuine .sample (fresh 1709294400)
      ([] ++ .issue 42 .user "first" :: sampleLater) := by
    intro before token later c id hsplit _ _ _
    rcases before with _ | ⟨first, _ | ⟨second, before⟩⟩
    · cases hsplit
    · obtain ⟨rfl, hrest⟩ := List.cons.inj hsplit
      obtain rfl := Operation.logout.inj (List.cons.inj hrest).1
      exact List.mem_cons_self
    · have hmem : .logout token ∈ [Operation.advance 1209660, .cleanupLedger] := by
        rw [(List.cons.inj (List.cons.inj hsplit).2).2]
        exact List.mem_append_right _ List.mem_cons_self
      simp at hmem
  refine (session_lifecycle Service.ofConfig_sample hmail (by decide) (by rw [hsessions]; decide)
    hgenuine ht).2 ?_
  exact fun hin => hin.2 List.mem_cons_self

/-- Another credential under the same key and with the same identifier, which no operation of the
service hands out. -/
def sampleRival : IssuedSession where
  token := Session.issue Service.sample.codec 7 .user "first" (.ofSecond 1709294400)
  id := "first"
  userId := 7
  role := .user
  second := 1709294400

/-- Where credentials are not genuine a session may end early. It is opened, and at once the rival
credential is presented to log out: no identifier is repeated, the clock stands still, nobody
presents the token of the session, and yet it is nobody's. -/
theorem session_ended_by_rival :
    let run := [Operation.issue 42 .user "first", .logout sampleRival.token]
    let w := after .sample (fresh 1709294400) run
    Service.ofConfig .sample = .ok .sample ∧ (∀ op ∈ run, op.DisturbsOnlyMail) ∧
      RunsForward lastSessionStart ⟨1709294400⟩ run ∧
      ((sessions .sample (fresh 1709294400) run).map IssuedSession.id).Nodup ∧
      opened? .sample (fresh 1709294400) (.issue 42 .user "first") = some sampleSession ∧
      w.clock.second.toInt ≤ sampleSession.second.toInt + Claims.sessionLifetime +
        AccessConfig.sample.leeway.secs.toNat ∧
      .logout sampleSession.token ∉ run ∧
      (step .sample w (.verify sampleSession.token)).1 = .ok none := by
  intro run w
  have hsessions : sessions .sample (fresh 1709294400) run = [sampleSession] := rfl
  have hw : w = (step .sample (fresh 1709294400) (.logout sampleRival.token)).2 := by
    have hissue : (step .sample (fresh 1709294400) (.issue 42 .user "first")).2 =
        fresh 1709294400 := rfl
    rw [show w = after .sample (fresh 1709294400) run from rfl, after_cons, hissue, after_cons,
      after, List.foldl_nil]
  have hclock : w.clock = ⟨1709294400⟩ := by
    rw [hw, step_clock]
    rfl
  have ht : opened? .sample (fresh 1709294400) (.issue 42 .user "first") = some sampleSession := rfl
  have htoken : sampleSession.token =
      Service.sample.codec.encode (sampleSession.claims Service.sample.codec.issuer) :=
    (token_of_opened? Fault.onlyMail_empty rfl ht).1
  have hissued : sampleRival.token =
      Service.sample.codec.encode (sampleRival.claims Service.sample.codec.issuer) := rfl
  -- the tokens differ in whom they speak for
  have hdiffer : sampleSession.token ≠ sampleRival.token := fun hsame => by
    rw [htoken, hissued] at hsame
    exact absurd (Codec.encode_issue_inj hsame).1 (by decide)
  have hread : Service.sample.codec.read sampleSession.token =
      .ok (sampleSession.claims Service.sample.codec.issuer) := by
    rw [htoken]
    exact read_encode_claims (by decide) (by decide) Service.sample.codec
  have hentered : Session.entered? Service.sample.codec sampleRival.token
      (.ofSecond 1709294400) = some ("first", .ofUnix (sampleRival.last 60)) :=
    entered?_session (by decide) (by decide) hissued (by decide) (Int64.le_refl _)
  refine ⟨Service.ofConfig_sample, by simp [run, Operation.DisturbsOnlyMail], by decide,
    by rw [hsessions]; decide, ht, by rw [hclock]; decide, by simpa [run] using hdiffer, ?_⟩
  have hreading : (fresh 1709294400).reading = .ofSecond 1709294400 := rfl
  rw [hw]
  exact verify_of_same_id Fault.onlyMail_empty (hreading ▸ hentered) hread rfl

end World
end AccountAccess
