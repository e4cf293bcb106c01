import AccountAccess.Proofs.Credential.Window
import AccountAccess.Proofs.Service.Calls

/-!
For how long a revocation speaks.

* `RevocationLedger.isRevoked_purges`: an entry outlives cleanups as long as none of them is made
  behind the instant it is needed at; `RevocationLedger.isRevoked_cleanups` says so of cleanups at
  whole seconds.
* `Claims.addSeconds?_expiresAt`: the instant that a revocation is entered through. It is the end of
  the widened window as long as the calendar holds it. A credential that expires within the leeway
  of the end of the calendar has no such instant, and one that expires beyond the calendar is taken
  to expire at the start of 1970.
* `Session.RevocationHolds`: a revocation goes through, and keeps a credential from being verified
  for as long as the credential is accepted. `Session.revocationHolds_iff` says for which
  credentials it does.
-/

namespace AccountAccess

/-! ### Entries and cleanups -/

namespace RevocationLedger

/-- The ledger after cleanups at instants, the first one first. -/
def purges (l : RevocationLedger) (instants : List Instant) : RevocationLedger :=
  instants.foldl (fun l i => (l.cleanup i).2) l

/-- An entry outlives cleanups as long as none is made behind the instant it is needed at. -/
theorem isRevoked_purges (l : RevocationLedger) (id : String) (instants : List Instant) :
    (l.purges instants).isRevoked id = true ↔
      ∃ needed, l.entries.get? id = some needed ∧ ∀ i ∈ instants, i ≤ needed := by
  induction instants generalizing l with
  | nil => simp [purges, isRevoked, Option.isSome_iff_exists]
  | cons i rest ih =>
      show ((l.cleanup i).2.purges rest).isRevoked id = true ↔ _
      rw [ih, get?_cleanup]
      constructor
      · rintro ⟨needed, hfound, hrest⟩
        obtain ⟨hentry, hkept⟩ := Option.filter_eq_some_iff.mp hfound
        exact ⟨needed, hentry, List.forall_mem_cons.mpr ⟨of_decide_eq_true hkept, hrest⟩⟩
      · rintro ⟨needed, hentry, hall⟩
        obtain ⟨hkept, hrest⟩ := List.forall_mem_cons.mp hall
        exact ⟨needed, Option.filter_eq_some_iff.mpr ⟨hentry, decide_eq_true hkept⟩, hrest⟩

/-- The ledger after cleanups at seconds, the first one first. -/
def cleanups (l : RevocationLedger) (seconds : List Int64) : RevocationLedger :=
  seconds.foldl (fun l s => (l.cleanup (Reading.ofSecond s).now).2) l

/-- Cleanups at seconds are cleanups at what a clock shows there. -/
lemma cleanups_eq_purges (l : RevocationLedger) (seconds : List Int64) :
    l.cleanups seconds = l.purges (seconds.map fun s => (Reading.ofSecond s).now) := by
  rw [cleanups, purges, List.foldl_map]

/-- An entry outlives cleanups at seconds as long as none lies behind the instant it is needed
at. -/
theorem isRevoked_cleanups (l : RevocationLedger) (id : String) (seconds : List Int64) :
    (l.cleanups seconds).isRevoked id = true ↔
      ∃ needed, l.entries.get? id = some needed ∧
        ∀ s ∈ seconds, (Reading.ofSecond s).now ≤ needed := by
  rw [cleanups_eq_purges, isRevoked_purges]
  simp only [List.forall_mem_map]

end RevocationLedger

/-! ### The instant that a revocation is entered through -/

/-- What a clock shows at a second lies behind an instant from 1970 on only if the second does and
the calendar holds it. -/
lemma now_le_ofUnix_iff {second : Int64} {bound : Int} (hbound : 0 ≤ bound) :
    (Reading.ofSecond second).now ≤ .ofUnix bound ↔
      second.toInt ≤ bound ∨ Instant.lastSecond < second.toInt := by
  have hfirst : Instant.firstSecond = -377705116800 := rfl
  show Instant.ofUnixOrEpoch second.toInt ≤ .ofUnix bound ↔ _
  rw [Instant.ofUnixOrEpoch_eq, Instant.ofUnix_le_ofUnix]
  split_ifs <;> omega

/-- A credential's expiry, later by a leeway: past the calendar it counts from the start of 1970. -/
theorem Claims.addSeconds?_expiresAt {c : Claims} {leeway : Nat} (hexpires : 0 ≤ c.expires.toInt)
    (hleeway : leeway ≤ 300) :
    c.expiresAt.addSeconds? leeway =
      if Instant.lastSecond < c.expires.toInt then some (.ofUnix leeway)
      else if Instant.lastSecond < c.expires.toInt + leeway then none
      else some (.ofUnix (c.expires.toInt + leeway)) := by
  have hfirst : Instant.firstSecond = -377705116800 := rfl
  have hlast : Instant.lastSecond = 253402300799 := rfl
  by_cases hpast : Instant.lastSecond < c.expires.toInt
  · have hexpiry : c.expiresAt = .ofUnix 0 := by
      rw [expiresAt, Instant.ofUnixOrEpoch_eq, if_neg (by omega)]
    rw [hexpiry, Instant.addSeconds?_ofUnix, Instant.ofUnix?_eq, Int.zero_add, if_pos hpast,
      if_pos (by omega)]
  · have hexpiry : c.expiresAt = .ofUnix c.expires.toInt := by
      rw [expiresAt, Instant.ofUnixOrEpoch_eq, if_pos (by omega)]
    rw [hexpiry, Instant.addSeconds?_ofUnix, Instant.ofUnix?_eq, if_neg hpast]
    by_cases hend : Instant.lastSecond < c.expires.toInt + leeway
    · rw [if_pos hend, if_neg (by omega)]
    · rw [if_neg hend, if_pos (by omega)]

namespace Session

/-! ### Revocations that hold -/

/-- A revocation at a second goes through, and whoever presents the credential later is nobody for
as long as the credential is accepted, whatever cleanups there were at seconds in between. -/
def RevocationHolds (codec : Codec) (token : String) (b : Backend) (start : Int64) : Prop :=
  ∃ after, (revoke codec token (.ofSecond start)).run Backend.answer b = (.ok (), after) ∧
    ∀ (seconds : List Int64) (now : Int64) (c : Claims),
      (start :: (seconds ++ [now])).Pairwise (· ≤ ·) →
      codec.decode token (.ofSecond now) = .ok c →
      ((verify codec token (.ofSecond now)).run Backend.answer
        { after with ledger := after.ledger.cleanups seconds }).1 = .ok none

/-- Who presents a credential that is refused is nobody. -/
lemma verify_eq_nobody_of_refused {codec : Codec} {token : String} {clock : Reading} (b : Backend)
    (h : ∀ c, codec.decode token clock ≠ .ok c) :
    ((verify codec token clock).run Backend.answer b).1 = .ok none := by
  have hrun := run_verify Fault.onlyMail_empty .zero b codec token clock
  rw [Fault.disturbed_empty] at hrun
  rw [hrun]
  cases hdecode : codec.decode token clock with
  | error e => rfl
  | ok c => exact absurd hdecode (h c)

section

variable {codec : Codec} {token : String} {b : Backend} {start : Int64} {c : Claims} {id : String}
  (hdecode : codec.decode token (.ofSecond start) = .ok c) (hid : c.id = some id)
  (hfree : b.ledger.entries.get? id = none)

include hid in
/-- Verifying an accepted credential answers nobody exactly if its identifier is entered. -/
lemma verify_eq_nobody_iff {clock : Reading} {b' : Backend}
    (hnow : codec.decode token clock = .ok c) :
    ((verify codec token clock).run Backend.answer b').1 = .ok none ↔
      b'.ledger.isRevoked id = true := by
  have hrun := run_verify Fault.onlyMail_empty .zero b' codec token clock
  rw [Fault.disturbed_empty] at hrun
  rw [hrun, hnow]
  simp only [hid, Option.bind_some, Outcome.ok.injEq]
  cases b'.ledger.isRevoked id <;> simp

include hdecode hid hfree in
/-- Where a revocation is entered through an instant, it holds if no cleanup comes behind that
instant while the credential is accepted. -/
lemma revocationHolds_iff_of_needed {needed : Instant}
    (hneeded : c.expiresAt.addSeconds? codec.leeway = some needed) :
    RevocationHolds codec token b start ↔
      ∀ second : Int64, start ≤ second → second.toInt ≤ c.expires.toInt + codec.leeway →
        (Reading.ofSecond second).now ≤ needed := by
  have hrun := run_revoke Fault.onlyMail_empty .zero b codec token (.ofSecond start)
  simp only [Fault.disturbed_empty, hdecode, hid, hneeded] at hrun
  have hentry : (b.ledger.revoke id needed).entries.get? id = some needed := by
    rw [RevocationLedger.get?_revoke, hfree]
    simp
  have hrevoked : ∀ seconds : List Int64,
      ((b.ledger.revoke id needed).cleanups seconds).isRevoked id = true ↔
        ∀ s ∈ seconds, (Reading.ofSecond s).now ≤ needed := by
    intro seconds
    rw [RevocationLedger.isRevoked_cleanups, hentry]
    simp
  constructor
  · rintro ⟨after, hdone, hnobody⟩ second hlater hbefore
    rw [hrun, Prod.mk.injEq] at hdone
    obtain ⟨-, rfl⟩ := hdone
    have hdecoded := (Codec.decode_later_iff hdecode hlater).mpr ⟨rfl, hbefore⟩
    have hsorted : (start :: ([second] ++ [second])).Pairwise (· ≤ ·) := by
      simp [hlater]
    have hentered := (verify_eq_nobody_iff hid hdecoded).mp
      (hnobody [second] second c hsorted hdecoded)
    exact (hrevoked [second]).mp hentered second (List.mem_singleton_self second)
  · intro hcleanups
    refine ⟨_, hrun, ?_⟩
    intro seconds now c' hsorted hdecoded
    rw [List.pairwise_cons, List.pairwise_append] at hsorted
    obtain ⟨hstart, -, -, hnow⟩ := hsorted
    have hlater : start ≤ now := hstart now (by simp)
    obtain ⟨rfl, hbefore⟩ := (Codec.decode_later_iff hdecode hlater).mp hdecoded
    refine (verify_eq_nobody_iff hid hdecoded).mpr ((hrevoked seconds).mpr ?_)
    intro s hs
    have hle : s ≤ now := hnow s hs now (List.mem_singleton_self now)
    rw [Int64.le_iff_toInt_le] at hle
    exact hcleanups s (hstart s (List.mem_append_left _ hs)) (by omega)

include hdecode hid hfree in
/-- Exactly these revocations hold: of credentials whose widened window ends within the calendar,
and, where the clock is past the calendar already, of those that expire past it as well. Between the
two a revocation breaks off, and a credential that expires past the calendar is entered through the
first seconds of 1970, so that the next cleanup lets it in again. -/
theorem revocationHolds_iff (hleeway : codec.leeway ≤ 300) :
    RevocationHolds codec token b start ↔
      c.expires.toInt + codec.leeway ≤ Instant.lastSecond ∨
        Instant.lastSecond < c.expires.toInt ∧ Instant.lastSecond < start.toInt := by
  obtain ⟨hexpires, -, -⟩ := Codec.of_read_eq_ok (Codec.decodeAt_eq_ok_iff.mp hdecode).1
  have hthrough := c.addSeconds?_expiresAt hexpires hleeway
  have hfirst : Instant.firstSecond = -377705116800 := rfl
  have hlast : Instant.lastSecond = 253402300799 := rfl
  split_ifs at hthrough with hpast hend
  · rw [revocationHolds_iff_of_needed hdecode hid hfree hthrough]
    simp only [now_le_ofUnix_iff (Int.natCast_nonneg codec.leeway)]
    constructor
    · -- the first second behind both the revocation and the leeway is a cleanup's chance
      intro hcleanups
      by_contra hnot
      have hfits : (Int64.ofInt (max start.toInt (codec.leeway + 1))).toInt =
          max start.toInt (codec.leeway + 1) :=
        Int64.toInt_ofInt_of_le (by have := start.le_toInt; omega) (by omega)
      have hkept := hcleanups (.ofInt (max start.toInt (codec.leeway + 1)))
        (by rw [Int64.le_iff_toInt_le, hfits]; omega) (by rw [hfits]; omega)
      rw [hfits] at hkept
      omega
    · intro hstart second hlater hbefore
      rw [Int64.le_iff_toInt_le] at hlater
      omega
  · have hrun := run_revoke Fault.onlyMail_empty .zero b codec token (.ofSecond start)
    simp only [Fault.disturbed_empty, hdecode, hid, hthrough] at hrun
    constructor
    · rintro ⟨after, hdone, -⟩
      rw [hrun] at hdone
      cases hdone
    · omega
  · rw [revocationHolds_iff_of_needed hdecode hid hfree hthrough]
    simp only [now_le_ofUnix_iff (by omega : 0 ≤ c.expires.toInt + codec.leeway)]
    constructor
    · intro _
      omega
    · intro _ second hlater hbefore
      omega

end

/-- The session credential that a codec writes for its own issuer, and that expires with the first
second past the calendar. -/
def endless (codec : Codec) : Claims where
  id := some "6f1c1b57-1d2f-4c55-9d9e-3f0c8f7b2a10"
  subject := "42"
  issuer := codec.issuer
  issuedAt := 1709287200
  notBefore := 1709287200
  expires := 253402300800
  userId := 42
  role := .user

/-- Such a credential is accepted from its start on. -/
lemma decode_encode_endless (codec : Codec) :
    codec.decode (codec.encode (endless codec)) (.ofSecond 1709287200) = .ok (endless codec) := by
  have hstart : (endless codec).notBefore.toInt = 1709287200 := by
    show (1709287200 : Int64).toInt = _
    decide
  have hexpires : (endless codec).expires.toInt = 253402300800 := by
    show (253402300800 : Int64).toInt = _
    decide
  have hread := codec.read_encode_eq_ok (c := endless codec) (by omega) (by omega) rfl
  refine Codec.decodeAt_eq_ok_iff.mpr ⟨hread, ?_, ?_⟩
  · show _ ≤ (1709287200 : Int64).toInt
    have hnow : (1709287200 : Int64).toInt = 1709287200 := by decide
    omega
  · show (1709287200 : Int64).toInt ≤ _
    have hnow : (1709287200 : Int64).toInt = 1709287200 := by decide
    omega

/-- Its revocation does not hold. -/
theorem not_revocationHolds_endless :
    ¬ RevocationHolds ⟨Bytes.ofText "0123456789abcdef0123456789abcdef", "fit-profi-api", 60⟩
      (Codec.encode ⟨Bytes.ofText "0123456789abcdef0123456789abcdef", "fit-profi-api", 60⟩
        (endless ⟨Bytes.ofText "0123456789abcdef0123456789abcdef", "fit-profi-api", 60⟩))
      {} 1709287200 :=
  (revocationHolds_iff (decode_encode_endless _) rfl rfl (by decide)).not.mpr (by decide)

end Session
end AccountAccess
