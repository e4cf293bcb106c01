import AccountAccess.Memory.Backend
import Mathlib.Data.List.Basic

/-!
How long a ledger keeps an identifier revoked, told by the calls that were made on it.

* `LedgerCall`: a call on a ledger, and `RevocationLedger.afterCalls` for calls at instants.
* `RevocationLedger.Holds`: the calls enter an identifier through an instant, while it is not
  entered, and no cleanup comes behind that instant from then on.
* `RevocationLedger.get?_afterCalls_iff`: what is entered after any number of calls.
* `RevocationLedger.LastsThrough`: an identifier stays revoked through an instant, whatever is
  called. `RevocationLedger.lastsThrough_iff` says when.
* `RevocationLedger.revocation_lasts_iff`: a revocation lasts as long as it was asked to exactly if
  no earlier one of the same identifier, for an earlier instant, is still in force.
-/

namespace AccountAccess

/-! ### Calls -/

/-- A call on a ledger. -/
inductive LedgerCall where
  | revoke (id : String) (needed : Instant)
  | isRevoked (id : String)
  | cleanup

/-- What a call is answered with. -/
abbrev LedgerCall.Answer : LedgerCall → Type
  | revoke .. => Unit
  | isRevoked _ => Bool
  | cleanup => Nat

namespace RevocationLedger

/-- Carries a call out at an instant. -/
def carryOut (l : RevocationLedger) (now : Instant) (call : LedgerCall) :
    call.Answer × RevocationLedger :=
  match call with
  | .revoke id needed => ((), l.revoke id needed)
  | .isRevoked id => (l.isRevoked id, l)
  | .cleanup => l.cleanup now

/-- The ledger after calls at instants, the first one first. -/
def afterCalls (l : RevocationLedger) (calls : List (Instant × LedgerCall)) : RevocationLedger :=
  calls.foldl (fun l call => (l.carryOut call.1 call.2).2) l

variable {l : RevocationLedger} {id : String} {entered : Instant}

lemma afterCalls_cons (call : Instant × LedgerCall) (calls : List (Instant × LedgerCall)) :
    l.afterCalls (call :: calls) = (l.carryOut call.1 call.2).2.afterCalls calls := rfl

lemma afterCalls_append (first later : List (Instant × LedgerCall)) :
    l.afterCalls (first ++ later) = (l.afterCalls first).afterCalls later := by
  rw [afterCalls, List.foldl_append]
  rfl

/-! ### Entries -/

/-- A call at an instant takes what is entered through another one out. -/
def TakesOut (entered now : Instant) : LedgerCall → Prop
  | .cleanup => ¬ now ≤ entered
  | _ => False

/-- No call takes what is entered through an instant out. -/
def Kept (entered : Instant) (calls : List (Instant × LedgerCall)) : Prop :=
  ∀ call ∈ calls, ¬ TakesOut entered call.1 call.2

/-- After a call an identifier is entered through an instant if the call entered it, there being no
entry for it, or if it was entered before and was not taken out. -/
lemma get?_carryOut_iff (now : Instant) (call : LedgerCall) :
    (l.carryOut now call).2.entries.get? id = some entered ↔
      (call = .revoke id entered ∧ l.isRevoked id = false) ∨
        (l.entries.get? id = some entered ∧ ¬ TakesOut entered now call) := by
  cases call with
  | revoke other needed =>
      rw [carryOut, get?_revoke, isRevoked]
      by_cases hsame : id = other
      · subst hsame
        cases l.entries.get? id <;> simp [TakesOut]
      · simp [TakesOut, hsame, Ne.symm hsame]
  | isRevoked other => simp [carryOut, TakesOut]
  | cleanup =>
      rw [carryOut, get?_cleanup, Option.filter_eq_some_iff]
      simp [TakesOut]

/-- Calls enter an identifier through an instant, while it is not entered, and keep the entry from
then on. -/
def Holds (id : String) (entered : Instant) (l : RevocationLedger)
    (calls : List (Instant × LedgerCall)) : Prop :=
  ∃ before now later, calls = before ++ (now, .revoke id entered) :: later ∧
    (l.afterCalls before).isRevoked id = false ∧ Kept entered later

/-- What calls hold is entered by the first one and kept, or held by the rest. -/
lemma holds_cons_iff {call : Instant × LedgerCall} {calls : List (Instant × LedgerCall)} :
    Holds id entered l (call :: calls) ↔
      (call.2 = .revoke id entered ∧ l.isRevoked id = false ∧ Kept entered calls) ∨
        Holds id entered (l.carryOut call.1 call.2).2 calls := by
  constructor
  · rintro ⟨before, now, later, hsplit, hfree, hkept⟩
    cases before with
    | nil =>
        obtain ⟨rfl, rfl⟩ := List.cons.inj hsplit
        exact Or.inl ⟨rfl, hfree, hkept⟩
    | cons first before =>
        obtain ⟨rfl, rfl⟩ := List.cons.inj hsplit
        exact Or.inr ⟨before, now, later, rfl, hfree, hkept⟩
  · rintro (⟨hcall, hfree, hkept⟩ | ⟨before, now, later, rfl, hfree, hkept⟩)
    · exact ⟨[], call.1, calls, by rw [← hcall]; rfl, hfree, hkept⟩
    · exact ⟨call :: before, now, later, rfl, hfree, hkept⟩

/-- After calls an identifier is entered through an instant if it was so before and was kept, or if
the calls hold it so. -/
theorem get?_afterCalls_iff {calls : List (Instant × LedgerCall)} :
    (l.afterCalls calls).entries.get? id = some entered ↔
      (l.entries.get? id = some entered ∧ Kept entered calls) ∨ Holds id entered l calls := by
  induction calls generalizing l with
  | nil =>
      have hnothing : ¬ Holds id entered l [] := by
        rintro ⟨before, now, later, hsplit, -⟩
        simp at hsplit
      simp [afterCalls, Kept, hnothing]
  | cons call rest ih =>
      have hkept : Kept entered (call :: rest) ↔
          ¬ TakesOut entered call.1 call.2 ∧ Kept entered rest := List.forall_mem_cons
      rw [afterCalls_cons, ih, get?_carryOut_iff, holds_cons_iff, hkept]
      tauto

/-! ### For how long -/

/-- From an instant on an identifier is revoked through another one, whatever is called by a clock
that never goes back. -/
def LastsThrough (l : RevocationLedger) (now : Instant) (id : String) (last : Instant) : Prop :=
  ∀ (calls : List (Instant × LedgerCall)) (later : Instant),
    (now :: (calls.map Prod.fst ++ [later])).Pairwise (· ≤ ·) → later ≤ last →
      (l.afterCalls calls).isRevoked id = true

/-- An entry through an instant lasts through every earlier one, and nothing else lasts. -/
theorem lastsThrough_iff {now last : Instant} :
    l.LastsThrough now id last ↔
      last < now ∨ ∃ entered, l.entries.get? id = some entered ∧ last ≤ entered := by
  constructor
  · intro hlasts
    rcases Int.lt_or_le last.nanos now.nanos with hpast | hnow
    · exact Or.inl hpast
    · -- a cleanup in the last instant would take an earlier entry out
      have hsorted : (now :: ([(last, LedgerCall.cleanup)].map Prod.fst ++ [last])).Pairwise
          (· ≤ ·) := by
        have hself : last ≤ last := Int.le_refl last.nanos
        have hlater : now ≤ last := hnow
        simp [hself, hlater]
      have hrevoked := hlasts [(last, .cleanup)] last hsorted (Int.le_refl _)
      obtain ⟨entered, hentered⟩ := Option.isSome_iff_exists.mp hrevoked
      rcases get?_afterCalls_iff.mp hentered with ⟨hstood, hkept⟩ | ⟨before, _, _, hsplit, -⟩
      · exact Or.inr ⟨entered, hstood, Decidable.not_not.mp (hkept _ List.mem_cons_self)⟩
      · rcases before with _ | ⟨first, before⟩ <;> simp at hsplit
  · rintro (hpast | ⟨entered, hstood, hlast⟩) calls later hsorted hlater
    · obtain ⟨hfirst, -⟩ := List.pairwise_cons.mp hsorted
      have hpassed : now ≤ later := hfirst later (by simp)
      exact absurd (Int.le_trans hpassed hlater) (Int.not_le.mpr hpast)
    · have hkept : Kept entered calls := by
        intro call hcall
        have hbefore : call.1 ≤ later :=
          (List.pairwise_append.mp (List.pairwise_cons.mp hsorted).2).2.2 _
            (List.mem_map_of_mem hcall) later (List.mem_singleton_self later)
        have hin : call.1 ≤ entered := Int.le_trans hbefore (Int.le_trans hlater hlast)
        cases call.2 with
        | cleanup => exact not_not_intro hin
        | _ => exact not_false
      rw [isRevoked, get?_afterCalls_iff.mpr (Or.inl ⟨hstood, hkept⟩)]
      rfl

/-- **For how long a revocation lasts.** Among any calls on a ledger that was empty, a revocation
lasts as long as it was asked to exactly if it was asked for a time that is past, or no earlier
revocation of the same identifier that is still in force was for a shorter time. -/
theorem revocation_lasts_iff {before : List (Instant × LedgerCall)} {now needed : Instant} :
    (({} : RevocationLedger).afterCalls (before ++ [(now, .revoke id needed)])).LastsThrough
        now id needed ↔
      needed < now ∨ ∀ entered, Holds id entered {} before → needed ≤ entered := by
  have hstands : ∀ entered, (({} : RevocationLedger).afterCalls before).entries.get? id =
      some entered ↔ Holds id entered {} before := by
    intro entered
    rw [get?_afterCalls_iff]
    exact or_iff_right fun hstood => by cases hstood.1
  have hrefl : needed ≤ needed := Int.le_refl needed.nanos
  rw [lastsThrough_iff, afterCalls_append]
  refine or_congr_right ?_
  show (∃ entered, (RevocationLedger.revoke _ id needed).entries.get? id = some entered ∧ _) ↔ _
  simp only [get?_revoke, if_pos, ← hstands]
  cases (({} : RevocationLedger).afterCalls before).entries.get? id <;> simp [hrefl]

/-- An identifier that is revoked through a second, and then through a later one, is not revoked
through the later one. -/
theorem not_lastsThrough_twice :
    ¬ (({} : RevocationLedger).afterCalls ([(.ofUnix 0, .revoke "jti-1" (.ofUnix 100))] ++
      [(.ofUnix 0, .revoke "jti-1" (.ofUnix 3600))])).LastsThrough (.ofUnix 0) "jti-1"
        (.ofUnix 3600) := by
  rw [revocation_lasts_iff]
  rintro (hpast | hall)
  · exact absurd hpast (by decide)
  · exact absurd (hall (.ofUnix 100)
      ⟨[], .ofUnix 0, [], rfl, rfl, fun _ hcall => by cases hcall⟩) (by decide)

end RevocationLedger
end AccountAccess
