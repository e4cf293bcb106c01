import AccountAccess.Credential.Codec
import Mathlib.Tactic.Common

/-!
Instants of the calendar that lie between two seconds.

* `Instant.InCalendar.toInt_unixNow`: a clock within the calendar shows the second that its instant
  lies in, which 64 bits hold.
* `Instant.addSeconds?_eq`: what lies whole seconds later.
* `Codec.notBefore_issue_eq` and `Codec.expires_issue_eq`: what is issued at an instant holds from
  its second on, for whole seconds.
-/

namespace AccountAccess

namespace Instant

/-- An earlier instant lies in an earlier second or in the same one. -/
lemma unix_le_unix {i j : Instant} (h : i ≤ j) : i.unix ≤ j.unix := by
  have hnanos : i.nanos ≤ j.nanos := h
  simp only [unix, Int.fdiv_eq_ediv_of_nonneg _ (by decide : (0 : Int) ≤ 1000000000)]
  omega

lemma trans_le {i j k : Instant} (h : i ≤ j) (h' : j ≤ k) : i ≤ k :=
  Int.le_trans h h'

lemma not_le_iff {i j : Instant} : ¬ i ≤ j ↔ j < i := Int.not_le

/-- Seconds of the calendar and spans no longer than it add up within 64 bits. -/
lemma InCalendar.toInt_saturate_add {i : Instant} (h : i.InCalendar) {span : Int}
    (hspan : 0 ≤ span) (hlimit : span ≤ lastSecond) :
    (saturate (i.unix + span)).toInt = i.unix + span := by
  have hfirst : firstSecond = -377705116800 := rfl
  have hlast : lastSecond = 253402300799 := rfl
  have hleast : int64Least = -9223372036854775808 := rfl
  have hgreatest : int64Greatest = 9223372036854775807 := rfl
  obtain ⟨hlow, hhigh⟩ := h
  exact toInt_saturate_of_fits (by omega) (by omega)

/-- A clock within the calendar shows the second that its instant lies in. -/
lemma InCalendar.toInt_unixNow {i : Instant} (h : i.InCalendar) :
    (Reading.ofInstant i).unixNow.toInt = i.unix := by
  have hsecond := h.toInt_saturate_add (Int.le_refl 0) (by decide)
  rwa [Int.add_zero] at hsecond

/-- Whole seconds later lies as many seconds later. -/
lemma unix_add (i : Instant) (seconds : Int) :
    (⟨i.nanos + seconds * 1000000000⟩ : Instant).unix = i.unix + seconds := by
  rw [unix, unix, Int.add_mul_fdiv_right _ _ (by decide)]

/-- Seconds are added as long as the calendar holds them. -/
lemma addSeconds?_eq (i : Instant) (seconds : Int) :
    i.addSeconds? seconds =
      if firstSecond ≤ i.unix + seconds ∧ i.unix + seconds ≤ lastSecond
      then some ⟨i.nanos + seconds * 1000000000⟩ else none := by
  simp only [addSeconds?, InCalendar, unix_add]

end Instant

namespace Codec

variable {at' : Instant} (hat : at'.InCalendar) (codec : Codec) (userId : Int64) (role : Role)
  (id : Option String)
include hat

/-- A credential holds from the second on in which it is issued. -/
lemma notBefore_issue_eq (lifetime : Int) :
    (codec.issue userId role id at' lifetime).notBefore.toInt = at'.unix :=
  hat.toInt_unixNow

/-- A credential expires its lifetime after the second in which it is issued, be that past the
calendar. -/
lemma expires_issue_eq {lifetime : Int} (hlifetime : 0 ≤ lifetime)
    (hlimit : lifetime ≤ Instant.lastSecond) :
    (codec.issue userId role id at' lifetime).expires.toInt = at'.unix + lifetime :=
  hat.toInt_saturate_add hlifetime hlimit

end Codec
end AccountAccess
