import AccountAccess.Proofs.Account.History

/-!
The books of the reset records: how many there are, told by the answers to the calls.

* `AccountStore.countResets` counts the records that pass a test; whatever keeps some records
  answers with the number of the others (`keepResets_fst`).
* `AccountStore.findReset?_carryOut_iff` says of all calls which records they store and take out.
* `AccountStore.EnterByReplacement`: records are stored by replacements only, and records of
  different addresses have different fingerprints. Then `AccountStore.Orderly` holds on every run:
  an address has at most one record, and each is kept by its own fingerprint.
* `AccountStore.balance_carryOut` is the balance of a single call, and `AccountStore.balance` that
  of a run: what was stored is still there or was accounted for when it was taken out.
-/

namespace AccountAccess

namespace Table

variable {κ α : Type} [DecidableEq κ]

omit [DecidableEq κ] in
/-- What is not kept makes up the rest. -/
lemma size_sub_size_filter (p : α → Bool) (t : Table κ α) :
    t.size - (t.filter fun _ v => p v).size = t.values.countP fun v => !p v := by
  have hvalues : (t.filter fun _ v => p v).size = t.values.countP p := by
    rw [size, filter, ← List.countP_eq_length_filter, values, List.countP_map]
    rfl
  have hsize : t.size = t.values.length := (List.length_map _).symm
  have htotal := List.length_eq_countP_add_countP p (l := t.values)
  have hnot : (t.values.countP fun v => !p v) = t.values.countP fun v => decide ¬ p v = true :=
    List.countP_congr fun v _ => by simp
  omega

/-- Taking a key out makes the table smaller by its entry. -/
lemma size_erase (t : Table κ α) (k : κ) :
    (t.erase k).size + (t.get? k).toList.length = t.size := by
  cases hk : t.get? k with
  | none =>
      have hall : ∀ e ∈ t.entries, (e.1 != k) = true := by
        intro e he
        rw [bne_iff_ne]
        rintro rfl
        rw [get?_eq_some_iff.mpr he] at hk
        cases hk
      show (t.entries.filter fun e => e.1 != k).length = t.entries.length
      rw [List.filter_eq_self.mpr hall]
  | some v =>
      have hcount : t.entries.countP (fun e => e.1 == k) = 1 := by
        have hone := t.nodup.count (a := k)
        have hmem : k ∈ t.entries.map Prod.fst :=
          List.mem_map.mpr ⟨(k, v), get?_eq_some_iff.mp hk, rfl⟩
        rw [if_pos hmem, List.count, List.countP_map] at hone
        exact hone
      have htotal := List.length_eq_countP_add_countP (fun e : κ × α => e.1 == k) (l := t.entries)
      have hrest : (t.erase k).size = t.entries.countP fun e => decide ¬ (e.1 == k) = true := by
        rw [size, erase, filter, ← List.countP_eq_length_filter]
        exact List.countP_congr fun e _ => by simp
      show (t.erase k).size + 1 = t.entries.length
      omega

end Table

namespace AccountStore

variable {s : AccountStore}

/-! ### Counting -/

/-- How many records pass a test. -/
def countResets (s : AccountStore) (p : ResetRecord → Bool) : Nat := s.resets.values.countP p

/-- Keeping some records answers with the number of the others. -/
lemma keepResets_fst (s : AccountStore) (p : ResetRecord → Bool) :
    (s.keepResets p).1 = s.countResets fun r => !p r :=
  Table.size_sub_size_filter p s.resets

/-- The records that are kept, and those that are answered, are all that there were. -/
lemma size_keepResets (s : AccountStore) (p : ResetRecord → Bool) :
    (s.keepResets p).2.resets.size + (s.keepResets p).1 = s.resets.size := by
  have hle : (s.keepResets p).2.resets.size ≤ s.resets.size := Table.size_filter_le _ s.resets
  show _ + (s.resets.size - (s.keepResets p).2.resets.size) = _
  omega

lemma findReset?_keepResets (s : AccountStore) (p : ResetRecord → Bool) (fingerprint : String) :
    (s.keepResets p).2.findReset? fingerprint = (s.findReset? fingerprint).filter p :=
  Table.get?_filter _ _ _

end AccountStore

/-! ### What calls do to the records -/

namespace StoreCall

/-- The record that a call stores. -/
def record? : StoreCall → Option ResetRecord
  | createReset r | replaceReset r => some r
  | _ => none

/-- The call replaces the records of an address. -/
def isReplacement : StoreCall → Bool
  | replaceReset _ => true
  | _ => false

/-- The number of records that an answer tells. -/
def count : (call : StoreCall) → Except Failure call.Answer → Nat
  | replaceReset _, .ok n | deleteResetsFor _, .ok n | cleanupResets _, .ok n => n
  | _, _ => 0

end StoreCall

namespace AccountStore

variable {s : AccountStore}

/-- A call takes the record of a fingerprint out, or puts another one in its place. -/
def TakesOut (fingerprint : String) (r : ResetRecord) : StoreCall → Prop
  | .createReset new => fingerprint = new.fingerprint
  | .deleteReset taken => fingerprint = taken
  | .replaceReset new => emailKey r.email = emailKey new.email ∨ fingerprint = new.fingerprint
  | .deleteResetsFor email => emailKey r.email = emailKey email
  | .cleanupResets now => r.expiresAt ≤ now
  | _ => False

/-- What is found where a record was put under its fingerprint. -/
lemma put_eq_some_iff {new r : ResetRecord} {old : Option ResetRecord} {fingerprint : String} :
    (if fingerprint = new.fingerprint then some new else old) = some r ↔
      (some new = some r ∧ r.fingerprint = fingerprint) ∨
        (old = some r ∧ ¬ fingerprint = new.fingerprint) := by
  split_ifs with hsame
  · simp only [hsame, Option.some.injEq, not_true_eq_false, and_false, or_false]
    exact ⟨fun hnew => ⟨hnew, hnew ▸ rfl⟩, And.left⟩
  · simp only [hsame, Option.some.injEq, not_false_eq_true, and_true]
    refine ⟨Or.inr, ?_⟩
    rintro (⟨rfl, hfingerprint⟩ | hold)
    · exact absurd hfingerprint.symm hsame
    · exact hold

/-- After a call a record is found if the call stored it, or if it was found before and was not
taken out. -/
lemma findReset?_carryOut_iff (call : StoreCall) {fingerprint : String} {r : ResetRecord} :
    (s.carryOut call).2.findReset? fingerprint = some r ↔
      (call.record? = some r ∧ r.fingerprint = fingerprint) ∨
        (s.findReset? fingerprint = some r ∧ ¬ TakesOut fingerprint r call) := by
  cases call with
  | create a =>
      rw [carryOut, findReset?, resets_create]
      simp [StoreCall.record?, TakesOut, findReset?]
  | updatePassword email passwordHash =>
      rw [carryOut, findReset?, updatePassword, resets_change]
      simp [StoreCall.record?, TakesOut, findReset?]
  | setAdmin email value =>
      rw [carryOut, findReset?, setAdmin, resets_change]
      simp [StoreCall.record?, TakesOut, findReset?]
  | createReset new =>
      rw [carryOut, createReset, findReset?, Table.get?_insert]
      exact put_eq_some_iff
  | replaceReset new =>
      rw [carryOut, findReset?_replaceReset, put_eq_some_iff, Option.filter_eq_some_iff, bne_iff_ne,
        and_assoc, TakesOut, not_or]
      rfl
  | deleteReset taken =>
      rw [carryOut, findReset?_deleteReset]
      simp only [StoreCall.record?, TakesOut, reduceCtorEq, false_and, false_or]
      split_ifs with htaken
      · simp [htaken]
      · simp [htaken]
  | deleteResetsFor email =>
      rw [carryOut, deleteResetsFor, findReset?_keepResets, Option.filter_eq_some_iff, bne_iff_ne]
      simp [StoreCall.record?, TakesOut]
  | cleanupResets now =>
      rw [carryOut, findReset?_cleanupResets, Option.filter_eq_some_iff]
      simp [StoreCall.record?, TakesOut, ResetRecord.isExpiredAt]
  | _ => simp [carryOut, StoreCall.record?, TakesOut]

/-! ### Order among the records -/

/-- Records are stored by replacements only, and those of different addresses have different
fingerprints. -/
structure EnterByReplacement (calls : List StoreCall) : Prop where
  replaced : ∀ r, .createReset r ∉ calls
  apart : ∀ r r', .replaceReset r ∈ calls → .replaceReset r' ∈ calls →
    emailKey r.email ≠ emailKey r'.email → r.fingerprint ≠ r'.fingerprint

/-- The records are in order: all of them were stored by calls, each is kept by its own fingerprint,
and an address has at most one. -/
structure Orderly (calls : List StoreCall) (s : AccountStore) : Prop where
  stored : ∀ f r, s.findReset? f = some r → .replaceReset r ∈ calls
  own : ∀ f r, s.findReset? f = some r → r.fingerprint = f
  single : ∀ f r f' r', s.findReset? f = some r → s.findReset? f' = some r' →
    emailKey r.email = emailKey r'.email → f = f'

namespace Orderly

variable {calls : List StoreCall}

/-- An empty store is in order. -/
lemma empty (calls : List StoreCall) : Orderly calls {} := by
  have hnothing : ∀ f r, ({} : AccountStore).findReset? f ≠ some r := fun _ _ h => by cases h
  exact ⟨fun f r h => absurd h (hnothing f r), fun f r h => absurd h (hnothing f r),
    fun f r _ _ h => absurd h (hnothing f r)⟩

/-- A call keeps the order. -/
lemma carryOut (h : Orderly calls s) (hcalls : EnterByReplacement calls) {call : StoreCall}
    (hcall : call ∈ calls) : Orderly calls (s.carryOut call).2 := by
  have hreplaced : ∀ r, call.record? = some r → call = .replaceReset r := by
    intro r hr
    cases call with
    | createReset new => exact absurd hcall (hcalls.replaced new)
    | replaceReset new => exact congrArg _ (Option.some.inj hr)
    | _ => cases hr
  refine ⟨?_, ?_, ?_⟩
  · intro f r hr
    rcases (findReset?_carryOut_iff call).mp hr with ⟨hnew, -⟩ | ⟨hold, -⟩
    · exact hreplaced r hnew ▸ hcall
    · exact h.stored f r hold
  · intro f r hr
    rcases (findReset?_carryOut_iff call).mp hr with ⟨-, hown⟩ | ⟨hold, -⟩
    · exact hown
    · exact h.own f r hold
  · intro f r f' r' hr hr' hkey
    rcases (findReset?_carryOut_iff call).mp hr with ⟨hnew, hf⟩ | ⟨hold, hkept⟩ <;>
      rcases (findReset?_carryOut_iff call).mp hr' with ⟨hnew', hf'⟩ | ⟨hold', hkept'⟩
    · obtain rfl := Option.some.inj (hnew.symm.trans hnew')
      exact hf.symm.trans hf'
    -- What was there before with the address of the new record was taken out.
    · rw [hreplaced r hnew] at hkept'
      exact absurd (Or.inl hkey.symm) hkept'
    · rw [hreplaced r' hnew'] at hkept
      exact absurd (Or.inl hkey) hkept
    · exact h.single f r f' r' hold hold' hkey

/-- Calls keep the order. -/
lemma afterCalls (h : Orderly calls s) (hcalls : EnterByReplacement calls) {later : List StoreCall}
    (hlater : ∀ call ∈ later, call ∈ calls) : Orderly calls (s.afterCalls later) := by
  induction later generalizing s with
  | nil => exact h
  | cons call rest ih =>
      obtain ⟨hcall, hrest⟩ := List.forall_mem_cons.mp hlater
      exact ih (h.carryOut hcalls hcall) hrest

end Orderly

/-! ### The balance -/

/-- The number of records that the answer to a call tells. -/
def counted (s : AccountStore) (call : StoreCall) : Nat := call.count (s.carryOut call).1

/-- A deletion by fingerprint counts one if it finds its record. -/
def deleted (s : AccountStore) : StoreCall → Nat
  | .deleteReset fingerprint => (s.findReset? fingerprint).toList.length
  | _ => 0

/-- A count over calls, each made on the store that the calls before it leave. -/
def total (count : AccountStore → StoreCall → Nat) : AccountStore → List StoreCall → Nat
  | _, [] => 0
  | s, call :: calls => count s call + total count (s.carryOut call).2 calls

/-- The balance of a replacement. -/
lemma balance_replaceReset {calls : List StoreCall} (h : Orderly calls s)
    (hcalls : EnterByReplacement calls) {r : ResetRecord} (hcall : .replaceReset r ∈ calls) :
    (s.replaceReset r).2.resets.size + (s.replaceReset r).1 = s.resets.size + 1 := by
  -- Whoever has the fingerprint of the new record has its address, so is gone already.
  have hfree : (s.deleteResetsFor r.email).2.findReset? r.fingerprint = none := by
    rw [deleteResetsFor, findReset?_keepResets, Option.filter_eq_none_iff]
    intro old hold hkey
    rw [bne_iff_ne] at hkey
    exact hcalls.apart _ _ (h.stored _ _ hold) hcall hkey (h.own _ _ hold)
  have hsize : (s.replaceReset r).2.resets.size = (s.deleteResetsFor r.email).2.resets.size + 1 :=
    Table.size_insert_of_none hfree r
  have hrest := s.size_keepResets fun old => emailKey old.email != emailKey r.email
  show _ + (s.deleteResetsFor r.email).1 = _
  rw [hsize, deleteResetsFor]
  omega

/-- The balance of a call: what is there afterwards, what it tells and what it deletes make up what
was there before and what it stores. -/
lemma balance_carryOut {calls : List StoreCall} (h : Orderly calls s)
    (hcalls : EnterByReplacement calls) {call : StoreCall} (hcall : call ∈ calls) :
    (s.carryOut call).2.resets.size + s.counted call + s.deleted call =
      s.resets.size + [call].countP StoreCall.isReplacement := by
  cases call with
  | create a => rw [AccountStore.carryOut, resets_create]; rfl
  | updatePassword email passwordHash =>
      rw [AccountStore.carryOut, updatePassword, resets_change]; rfl
  | setAdmin email value => rw [AccountStore.carryOut, setAdmin, resets_change]; rfl
  | createReset r => exact absurd hcall (hcalls.replaced r)
  | replaceReset r => exact balance_replaceReset h hcalls hcall
  | deleteReset fingerprint => exact Table.size_erase s.resets fingerprint
  | deleteResetsFor email => exact s.size_keepResets _
  | cleanupResets now => exact s.size_keepResets _
  | _ => rfl

/-- The balance of calls. -/
theorem balance {calls : List StoreCall} (h : Orderly calls s) (hcalls : EnterByReplacement calls)
    {later : List StoreCall} (hlater : ∀ call ∈ later, call ∈ calls) :
    (s.afterCalls later).resets.size + total counted s later + total deleted s later =
      s.resets.size + later.countP StoreCall.isReplacement := by
  induction later generalizing s with
  | nil => rfl
  | cons call rest ih =>
      obtain ⟨hcall, hrest⟩ := List.forall_mem_cons.mp hlater
      have hfirst := balance_carryOut h hcalls hcall
      have hlast := ih (h.carryOut hcalls hcall) hrest
      have hcount : (call :: rest).countP StoreCall.isReplacement =
          [call].countP StoreCall.isReplacement + rest.countP StoreCall.isReplacement := by
        rw [← List.countP_append, List.singleton_append]
      rw [afterCalls_cons, total, total, hcount]
      omega

/-! ### A store that was empty -/

/-- What the calls on an empty store tell of the records that it holds. -/
structure Books (calls : List StoreCall) (s : AccountStore) : Prop where
  /-- Each record is kept by its own fingerprint. -/
  own : ∀ f r, s.findReset? f = some r → r.fingerprint = f
  /-- An address has at most one record. -/
  single : ∀ f r f' r', s.findReset? f = some r → s.findReset? f' = some r' →
    emailKey r.email = emailKey r'.email → f = f' ∧ r = r'
  /-- The records that are there, those that answers tell and those that deletions by fingerprint
  found are as many as the replacements. -/
  balance : s.resets.size + total counted {} calls + total deleted {} calls =
    calls.countP StoreCall.isReplacement

/-- **The books of the reset records.** On every store a replacement tells the number of the records
of its address, and leaves the new record and those that have another address and another
fingerprint; and a cleanup takes the records out that have expired, and tells their number. Hence
the calls on an empty store tell how many records there are. -/
theorem books_afterCalls :
    (∀ (s : AccountStore) (r : ResetRecord),
      (s.replaceReset r).1 = s.countResets (fun old => emailKey old.email == emailKey r.email) ∧
        ∀ f old, (s.replaceReset r).2.findReset? f = some old ↔
          (old = r ∧ f = r.fingerprint) ∨
            (s.findReset? f = some old ∧ emailKey old.email ≠ emailKey r.email ∧
              f ≠ r.fingerprint)) ∧
      (∀ (s : AccountStore) (now : Instant),
        (s.cleanupResets now).1 = s.countResets (fun r => decide (r.expiresAt ≤ now)) ∧
          ∀ f r, (s.cleanupResets now).2.findReset? f = some r ↔
            s.findReset? f = some r ∧ ¬ r.expiresAt ≤ now) ∧
        ∀ calls, EnterByReplacement calls → Books calls (({} : AccountStore).afterCalls calls) := by
  refine ⟨fun s r => ⟨?_, ?_⟩, fun s now => ⟨?_, ?_⟩, ?_⟩
  · show (s.deleteResetsFor r.email).1 = _
    simp [deleteResetsFor, keepResets_fst, bne]
  · intro f old
    have hafter : (s.replaceReset r).2.findReset? f = some old ↔ _ :=
      findReset?_carryOut_iff (.replaceReset r)
    rw [TakesOut, not_or, StoreCall.record?, Option.some.injEq] at hafter
    refine hafter.trans (or_congr_left ?_)
    constructor
    · rintro ⟨rfl, rfl⟩
      exact ⟨rfl, rfl⟩
    · rintro ⟨rfl, rfl⟩
      exact ⟨rfl, rfl⟩
  · simp [cleanupResets, keepResets_fst, ResetRecord.isExpiredAt]
  · intro f r
    have hafter : (s.cleanupResets now).2.findReset? f = some r ↔ _ :=
      findReset?_carryOut_iff (.cleanupResets now)
    rw [TakesOut] at hafter
    simpa [StoreCall.record?] using hafter
  · intro calls hcalls
    have horder := (Orderly.empty calls).afterCalls hcalls fun _ => id
    have hbalance := balance (.empty calls) hcalls fun _ => id
    rw [show ({} : AccountStore).resets.size = 0 from rfl, Nat.zero_add] at hbalance
    refine ⟨horder.own, ?_, hbalance⟩
    intro f r f' r' hr hr' hkey
    obtain rfl := horder.single f r f' r' hr hr' hkey
    exact ⟨rfl, Option.some.inj (hr.symm.trans hr')⟩

/-- Ann asks twice within a second and Bob once; Bob's record is deleted, and once more in vain. Bob
asks again, Ann's records are deleted, and her third one expires. -/
def sampleReplacements : List StoreCall :=
  let record := fun email fingerprint =>
    (⟨email, fingerprint, .ofUnix 1709287200, .ofUnix 1709288100⟩ : ResetRecord)
  [.replaceReset (record "Ann@X.io" "f1"), .replaceReset (record " ann@x.io" "f1"),
    .replaceReset (record "b@x.io" "f2"), .deleteReset "f2", .deleteReset "f2",
    .deleteResetsFor "ANN@x.io", .replaceReset (record "ann@x.io" "f3"),
    .cleanupResets (.ofUnix 1709288100), .replaceReset (record "b@x.io" "f4")]

/-- Five replacements, of which three were told as taken out and one was deleted: one record is
left. -/
theorem books_afterCalls_sample :
    EnterByReplacement sampleReplacements ∧
      (({} : AccountStore).afterCalls sampleReplacements).resets.size = 1 := by
  have hcalls : EnterByReplacement sampleReplacements := by
    refine ⟨by simp [sampleReplacements], ?_⟩
    intro r r' hr hr'
    simp only [sampleReplacements, List.mem_cons, StoreCall.replaceReset.injEq, reduceCtorEq,
      false_or, List.not_mem_nil, or_false] at hr hr'
    rcases hr with rfl | rfl | rfl | rfl | rfl <;> rcases hr' with rfl | rfl | rfl | rfl | rfl <;>
      decide +kernel
  have hbooks := books_afterCalls.2.2 sampleReplacements hcalls
  have htold : total counted {} sampleReplacements = 3 := by decide +kernel
  have hdeleted : total deleted {} sampleReplacements = 1 := by decide +kernel
  have hbalance := hbooks.balance
  rw [htold, hdeleted] at hbalance
  exact ⟨hcalls, Nat.add_right_cancel (m := 4) hbalance⟩

end AccountStore
end AccountAccess
