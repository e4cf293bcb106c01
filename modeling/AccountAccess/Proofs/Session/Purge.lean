import AccountAccess.Proofs.Service.Run
import AccountAccess.Proofs.Session.Revocation
import AccountAccess.Proofs.Time.Calendar

/-!
What cleanups of the ledger are noticed under a clock that shows instants between two seconds.

* A credential is accepted by the second that the clock shows, while an entry of the ledger is taken
  out by the instant: `Session.decode_issue_iff` and `Session.enteredThrough` say when either is.
* `Session.verify_purged_iff`: whoever presents a session behind its logout is nobody, unless the
  session is still accepted and a cleanup came behind the instant it was entered through. That
  instant is the start of the last second at which the session is accepted, so that a cleanup
  within that second lets the session in again for the rest of it; and for a session that expires
  past the calendar it lies in the first minutes of 1970, so that any cleanup does.
-/

namespace AccountAccess

namespace Session

/-! ### Sessions issued at an instant -/

section

variable {issued : Instant} (hissued : issued.InCalendar) (codec : Codec) (userId : Int64)
  (role : Role) (id : String)
include hissued

/-- A session that is issued from 1970 on is accepted until its lifetime and the leeway have
passed, and one that is issued earlier never. -/
lemma decode_issue_iff {now : Instant} (hnow : now.InCalendar) (hlater : issued ≤ now)
    {c : Claims} :
    codec.decode (issue codec userId role id (.ofInstant issued)) (.ofInstant now) = .ok c ↔
      c = codec.issue userId role (some id) issued Claims.sessionLifetime ∧ 0 ≤ issued.unix ∧
        now.unix ≤ issued.unix + Claims.sessionLifetime + codec.leeway := by
  have hstart := codec.notBefore_issue_eq hissued userId role (some id) Claims.sessionLifetime
  have hexpires := codec.expires_issue_eq hissued userId role (some id)
    Claims.sessionLifetime_nonneg (by decide)
  have hlifetime := Claims.sessionLifetime_nonneg
  have hseconds := Instant.unix_le_unix hlater
  show codec.decodeAt (codec.encode (codec.issue userId role (some id) issued
    Claims.sessionLifetime)) (Reading.ofInstant now).unixNow = .ok c ↔ _
  rw [Codec.decodeAt_encode_eq_ok_iff rfl (by rw [hstart, hnow.toInt_unixNow]; exact hseconds),
    hstart, hexpires, hnow.toInt_unixNow]
  exact and_congr_right fun _ => and_congr_left fun _ => and_iff_right_of_imp (by omega)

end

/-- The instant that a session issued at an instant is entered through when somebody logs out of it.
A session that expires past the calendar is taken to expire with the start of 1970. -/
def enteredThrough (codec : Codec) (issued : Instant) : Instant :=
  if Instant.lastSecond < issued.unix + Claims.sessionLifetime then .ofUnix codec.leeway
  else .ofUnix (issued.unix + Claims.sessionLifetime + codec.leeway)

/-! ### Cleanups behind a logout -/

section

variable {codec : Codec} {userId : Int64} {role : Role} {id : String} {issued out : Instant}
  {b : Backend} (hleeway : codec.leeway ≤ 300) (hissued : issued.InCalendar)
  (hout : out.InCalendar) (hlater : issued ≤ out)
include hleeway hissued hout hlater

/-- Whoever logs out of a session that is accepted enters it, unless the calendar ends between its
expiry and the end of the leeway. -/
lemma run_revoke_issue (hstart : 0 ≤ issued.unix)
    (hopen : out.unix ≤ issued.unix + Claims.sessionLifetime + codec.leeway) :
    (revoke codec (issue codec userId role id (.ofInstant issued)) (.ofInstant out)).run
        Backend.answer b =
      if issued.unix + Claims.sessionLifetime ≤ Instant.lastSecond ∧
          Instant.lastSecond < issued.unix + Claims.sessionLifetime + codec.leeway
      then (.beyondCalendar, b)
      else (.ok (), { b with ledger := b.ledger.revoke id (enteredThrough codec issued) }) := by
  have hlifetime := Claims.sessionLifetime_nonneg
  have hdecode := (decode_issue_iff hissued codec userId role id hout hlater).mpr
    ⟨rfl, hstart, hopen⟩
  have hexpires := codec.expires_issue_eq hissued userId role (some id)
    Claims.sessionLifetime_nonneg (by decide)
  have hid : (codec.issue userId role (some id) issued Claims.sessionLifetime).id = some id := rfl
  -- of the claims only the identifier and the expiry count
  generalize codec.issue userId role (some id) issued Claims.sessionLifetime = c
    at hdecode hexpires hid
  have hrun := run_revoke Fault.onlyMail_empty .zero b codec
    (issue codec userId role id (.ofInstant issued)) (.ofInstant out)
  have hneeded := c.addSeconds?_expiresAt (by omega) hleeway
  rw [hexpires] at hneeded
  simp only [Fault.disturbed_empty, hdecode, hid, hneeded] at hrun
  rw [hrun, enteredThrough]
  split_ifs <;> first | rfl | omega

/-- Once somebody has logged out of a session that is accepted, it is entered. -/
lemma entries_of_revoke_issue (hstart : 0 ≤ issued.unix)
    (hopen : out.unix ≤ issued.unix + Claims.sessionLifetime + codec.leeway)
    (hfree : ∀ needed, b.ledger.entries.get? id = some needed →
      needed = enteredThrough codec issued)
    {after : Backend}
    (hlogout : (revoke codec (issue codec userId role id (.ofInstant issued)) (.ofInstant out)).run
      Backend.answer b = (.ok (), after)) :
    after.ledger.entries.get? id = some (enteredThrough codec issued) := by
  rw [run_revoke_issue hleeway hissued hout hlater hstart hopen] at hlogout
  split_ifs at hlogout
  · cases hlogout
  rw [Prod.mk.injEq] at hlogout
  obtain ⟨-, rfl⟩ := hlogout
  rw [RevocationLedger.get?_revoke, if_pos rfl]
  cases hentry : b.ledger.entries.get? id with
  | none => rfl
  | some needed => rw [hfree needed hentry, Option.getD_some]

end

/-- **Whom a session speaks for behind its logout**: nobody, unless it is still accepted and a
cleanup came behind the instant it was entered through. The clock shows the second that its instant
lies in, and does not go back. -/
theorem verify_purged_iff {config : AccessConfig} {service : Service}
    (hservice : Service.ofConfig config = .ok service) {userId : Int64} {role : Role} {id : String}
    {issued out now : Instant} (hissued : issued.InCalendar) (hout : out.InCalendar)
    (hnow : now.InCalendar) (hlater : issued ≤ out) (hlast : out ≤ now) {b after : Backend}
    (hfree : ∀ needed, b.ledger.entries.get? id = some needed →
      needed = enteredThrough service.codec issued)
    (hlogout : (service.logout (issue service.codec userId role id (.ofInstant issued))
      (.ofInstant out)).run Backend.answer b = (.ok (), after))
    (instants : List Instant) :
    ((service.verify (issue service.codec userId role id (.ofInstant issued))
        (.ofInstant now)).run Backend.answer
        { after with ledger := after.ledger.purges instants }).1 = .ok none ↔
      ¬ (0 ≤ issued.unix ∧
        now.unix ≤ issued.unix + Claims.sessionLifetime + service.codec.leeway ∧
        ∃ i ∈ instants, enteredThrough service.codec issued < i) := by
  have hleeway := (Service.leeway_codec hservice).2
  have haccepted := fun c => decode_issue_iff hissued service.codec userId role id hnow
    (Instant.trans_le hlater hlast) (c := c)
  by_cases hopen : 0 ≤ issued.unix ∧
      now.unix ≤ issued.unix + Claims.sessionLifetime + service.codec.leeway
  · have hseconds := Instant.unix_le_unix hlast
    have hentry := entries_of_revoke_issue hleeway hissued hout hlater hopen.1 (by omega) hfree
      hlogout
    rw [Service.verify, verify_eq_nobody_iff rfl ((haccepted _).mpr ⟨rfl, hopen⟩),
      RevocationLedger.isRevoked_purges, hentry]
    simp only [hopen, true_and, not_exists, not_and, ← Instant.not_le_iff, not_not,
      Option.some.injEq, exists_eq_left']
  · refine iff_of_true (verify_eq_nobody_of_refused _ ?_) ?_
    · exact fun c hdecode => hopen ((haccepted c).mp hdecode).2
    · exact fun h => hopen ⟨h.1, h.2.1⟩

/-! ### A session opened at noon -/

/-- Noon of the first of March 2024. -/
def noon : Instant := .ofUnix 1709294400

/-- The token of a session that is opened at noon. -/
def noonSession : String :=
  issue Service.sample.codec 42 .user "6f1c1b57-1d2f-4c55-9d9e-3f0c8f7b2a10" (.ofInstant noon)

/-- What is left once somebody has logged out of it. -/
def noonLogout : Backend where
  ledger := ({} : RevocationLedger).revoke "6f1c1b57-1d2f-4c55-9d9e-3f0c8f7b2a10"
    (enteredThrough Service.sample.codec noon)

lemma run_logout_noonSession :
    (Service.sample.logout noonSession (.ofInstant noon)).run Backend.answer {} =
      (.ok (), noonLogout) := by
  rw [Service.logout, noonSession, run_revoke_issue (by decide) (by decide) (by decide) (by decide)
    (by decide) (by decide), if_neg (by decide), noonLogout]

/-- A cleanup half a second into the last second at which the session is accepted lets it in
again. -/
theorem verify_purged_half_second :
    ((Service.sample.verify noonSession (.ofInstant ⟨1710504060500000000⟩)).run Backend.answer
      { noonLogout with
        ledger := noonLogout.ledger.purges [⟨1710504060500000000⟩] }).1 ≠ .ok none := by
  have hiff := verify_purged_iff Service.ofConfig_sample (by decide) (by decide)
    (by decide : Instant.InCalendar ⟨1710504060500000000⟩) (by decide) (by decide)
    (fun _ h => by cases h) run_logout_noonSession [⟨1710504060500000000⟩]
  exact hiff.not.mpr (not_not.mpr (by decide))

end Session
end AccountAccess
