import AccountAccess.Proofs.Service.Run

/-!
Accounts on a run: they are kept by the key of their address, numbered in the order in which they
were created, and never taken out.

* `AccountStore.Keyed` and `AccountStore.Numbered` are the invariants.
* `AccountStore.Accounted` and `World.accounted_step` say all that an operation can do to the
  accounts.
* `World.keyed_after`: the keys hold on every run. `World.numbered_after`: the numbering holds as
  long as there is room for the accounts in 64 bits.
* `World.finds_after`: an account that is found once is found on, with the same number and address.
-/

namespace AccountAccess

namespace AccountStore

/-! ### Keys -/

/-- Accounts are kept by the key of their address. -/
def Keyed (s : AccountStore) : Prop := ∀ k a, s.accounts.get? k = some a → emailKey a.email = k

namespace Keyed

variable {s : AccountStore}

/-- Without accounts there is nothing to keep. -/
lemma empty : Keyed {} := fun _ _ h => by cases h

/-- A new account is kept by the key of its address. -/
lemma create (h : Keyed s) (a : NewAccount) : Keyed (s.create a).2 := by
  intro k b hb
  rw [AccountStore.create] at hb
  split at hb
  · exact h k b hb
  · dsimp only at hb
    rw [Table.get?_insert] at hb
    split_ifs at hb with hk
    · rw [← Option.some.inj hb, hk]
    · exact h k b hb

/-- What changes no address of an account keeps the keys. -/
lemma change (h : Keyed s) (email what : String) {f : Account → Account}
    (hemail : ∀ a, (f a).email = a.email) : Keyed (s.change email what f).2 := by
  intro k b hb
  rw [AccountStore.change] at hb
  split at hb
  · exact h k b hb
  · dsimp only at hb
    rw [Table.get?_modify] at hb
    split_ifs at hb with hk
    · obtain ⟨a, ha, rfl⟩ := Option.map_eq_some_iff.mp hb
      rw [hemail, h _ a ha, hk]
    · exact h k b hb

/-- An account is found by its own address. -/
lemma find?_email (h : Keyed s) {k : String} {a : Account} (ha : s.accounts.get? k = some a) :
    s.find? a.email = some a := by
  rw [find?, h k a ha, ha]

/-- An account that is found by an address has an address of the same key. -/
lemma emailKey_eq (h : Keyed s) {email : String} {a : Account} (ha : s.find? email = some a) :
    emailKey a.email = emailKey email :=
  h _ a ha

end Keyed

/-! ### Numbers -/

/-- Accounts are kept by the key of their address, and numbered from one on. -/
structure Numbered (s : AccountStore) : Prop where
  key : ∀ k a, s.accounts.get? k = some a → emailKey a.email = k
  next : s.nextId = Int64.ofNat (s.accounts.size + 1)
  number : ∀ k a, s.accounts.get? k = some a → ∃ n ≤ s.accounts.size, a.id = Int64.ofNat n
  distinct : ∀ k a k' a', s.accounts.get? k = some a → s.accounts.get? k' = some a' →
    a.id = a'.id → k = k'

/-- A number of 64 bits is determined by its natural number below 2⁶⁴. -/
lemma ofNat_injective_of_lt {m n : Nat} (hm : m < UInt64.size) (hn : n < UInt64.size)
    (h : Int64.ofNat m = Int64.ofNat n) : m = n := by
  have hunsigned := congrArg Int64.toUInt64 h
  rw [Int64.toUInt64_ofNat', Int64.toUInt64_ofNat'] at hunsigned
  have hnat := congrArg UInt64.toNat hunsigned
  rwa [UInt64.toNat_ofNat_of_lt' hm, UInt64.toNat_ofNat_of_lt' hn] at hnat

namespace Numbered

variable {s : AccountStore}

/-- Without accounts there is nothing to number. -/
lemma empty : Numbered {} where
  key := fun _ _ h => by cases h
  next := rfl
  number := fun _ _ h => by cases h
  distinct := fun _ _ _ _ h => by cases h

/-- A new account gets the next number. -/
lemma create (h : Numbered s) (a : NewAccount)
    (hroom : (s.create a).2.accounts.size < UInt64.size) :
    Numbered (s.create a).2 := by
  cases hfound : s.find? a.email with
  | some _ =>
      have hsame : (s.create a).2 = s := by rw [create_of_some hfound]
      rwa [hsame]
  | none =>
      set created : Account := ⟨s.nextId, a.fullName, a.email, a.passwordHash, false⟩ with hcreated
      have hstore : (s.create a).2 = { s with
          accounts := s.accounts.insert (emailKey a.email) created
          nextId := s.nextId + 1 } := by
        rw [create_of_none hfound]
      have hsize : (s.accounts.insert (emailKey a.email) created).size = s.accounts.size + 1 :=
        Table.size_insert_of_none hfound created
      have hget : ∀ k b, (s.accounts.insert (emailKey a.email) created).get? k = some b →
          (k = emailKey a.email ∧ b = created) ∨ s.accounts.get? k = some b := by
        intro k b hb
        rw [Table.get?_insert] at hb
        split_ifs at hb with hk
        · exact Or.inl ⟨hk, (Option.some.inj hb).symm⟩
        · exact Or.inr hb
      have hkeyed : Keyed (s.create a).2 := Keyed.create h.key a
      rw [hstore] at hroom hkeyed ⊢
      have hlimit : s.accounts.size + 1 < UInt64.size := hsize ▸ hroom
      -- the numbers that were given are smaller than the next one
      have hfresh : ∀ k b, s.accounts.get? k = some b → b.id ≠ created.id := by
        intro k b hb hequal
        obtain ⟨n, hn, hid⟩ := h.number k b hb
        rw [hid, hcreated, h.next] at hequal
        have := ofNat_injective_of_lt (by omega) hlimit hequal
        omega
      refine ⟨hkeyed, ?_, ?_, ?_⟩
      · show s.nextId + 1 = Int64.ofNat ((s.accounts.insert (emailKey a.email) created).size + 1)
        rw [hsize, h.next]
        apply Int64.toBitVec_inj.mp
        simp
      · intro k b hb
        show ∃ n ≤ (s.accounts.insert (emailKey a.email) created).size, _
        rw [hsize]
        rcases hget k b hb with ⟨rfl, rfl⟩ | hold
        · exact ⟨s.accounts.size + 1, Nat.le_refl _, h.next⟩
        · obtain ⟨n, hn, hid⟩ := h.number k b hold
          exact ⟨n, by omega, hid⟩
      · intro k b k' b' hb hb' hequal
        rcases hget k b hb with ⟨rfl, rfl⟩ | hold <;> rcases hget k' b' hb' with ⟨rfl, rfl⟩ | hold'
        · rfl
        · exact absurd hequal.symm (hfresh k' b' hold')
        · exact absurd hequal (hfresh k b hold)
        · exact h.distinct k b k' b' hold hold' hequal

/-- What changes neither number nor address of an account keeps the numbering. -/
lemma change (h : Numbered s) (email what : String) {f : Account → Account}
    (hid : ∀ a, (f a).id = a.id) (hemail : ∀ a, (f a).email = a.email) :
    Numbered (s.change email what f).2 := by
  cases hfound : s.find? email with
  | none =>
      have hsame : (s.change email what f).2 = s := by rw [change_of_none hfound]
      rwa [hsame]
  | some _ =>
      have hstore : (s.change email what f).2 =
          { s with accounts := s.accounts.modify (emailKey email) f } := by
        rw [change_of_some hfound]
      have hget : ∀ k b, (s.accounts.modify (emailKey email) f).get? k = some b →
          ∃ a, s.accounts.get? k = some a ∧ b.id = a.id := by
        intro k b hb
        rw [Table.get?_modify] at hb
        split_ifs at hb with hk
        · obtain ⟨a, ha, rfl⟩ := Option.map_eq_some_iff.mp hb
          exact ⟨a, hk ▸ ha, hid a⟩
        · exact ⟨b, hb, rfl⟩
      have hkeyed : Keyed (s.change email what f).2 := Keyed.change h.key email what hemail
      rw [hstore] at hkeyed ⊢
      refine ⟨hkeyed, ?_, ?_, ?_⟩
      · show s.nextId = Int64.ofNat ((s.accounts.modify (emailKey email) f).size + 1)
        rw [Table.size_modify]
        exact h.next
      · intro k b hb
        obtain ⟨a, ha, heq⟩ := hget k b hb
        obtain ⟨n, hn, hnumber⟩ := h.number k a ha
        show ∃ n ≤ (s.accounts.modify (emailKey email) f).size, _
        rw [Table.size_modify]
        exact ⟨n, hn, heq.trans hnumber⟩
      · intro k b k' b' hb hb' hequal
        obtain ⟨a, ha, heq⟩ := hget k b hb
        obtain ⟨a', ha', heq'⟩ := hget k' b' hb'
        exact h.distinct k a k' a' ha ha' (heq.symm.trans (hequal.trans heq'))

/-- Records have no part in it. -/
lemma withResets (h : Numbered s) (resets : Table String ResetRecord) :
    Numbered { s with resets } :=
  ⟨h.key, h.next, h.number, h.distinct⟩

end Numbered

/-! ### What becomes of the accounts -/

/-- A store comes from another one by creating an account, by changing one but for number and
address, or by whatever is done about the records. -/
inductive Accounted (s : AccountStore) : AccountStore → Prop where
  | same : Accounted s s
  | create (a : NewAccount) : Accounted s (s.create a).2
  | change (email what : String) {f : Account → Account} (hid : ∀ a, (f a).id = a.id)
    (hemail : ∀ a, (f a).email = a.email) : Accounted s (s.change email what f).2
  | withResets {s' : AccountStore} (h : Accounted s s') (resets : Table String ResetRecord) :
    Accounted s { s' with resets }

/-- An account with the number and the address of another is found at an address. -/
def Finds (s : AccountStore) (email : String) (a : Account) : Prop :=
  ∃ a', s.find? email = some a' ∧ a'.id = a.id ∧ a'.email = a.email

namespace Accounted

variable {s s' : AccountStore}

lemma updatePassword (email hash : String) : s.Accounted (s.updatePassword email hash).2 :=
  .change email _ (fun _ => rfl) (fun _ => rfl)

lemma setAdmin (email : String) (value : Bool) : s.Accounted (s.setAdmin email value).2 :=
  .change email _ (fun _ => rfl) (fun _ => rfl)

lemma replaceReset (r : ResetRecord) : s.Accounted (s.replaceReset r).2 := .withResets .same _

lemma deleteReset (h : s.Accounted s') (fingerprint : String) :
    s.Accounted (s'.deleteReset fingerprint) :=
  .withResets h _

lemma cleanupResets (now : Instant) : s.Accounted (s.cleanupResets now).2 := .withResets .same _

/-- An account that is found stays where it is. -/
lemma finds (h : Accounted s s') {email : String} {a : Account} (hfinds : s.Finds email a) :
    s'.Finds email a := by
  induction h with
  | same => exact hfinds
  | withResets _ _ ih => exact ih
  | create new =>
      obtain ⟨a', hfound, hsame⟩ := hfinds
      refine ⟨a', ?_, hsame⟩
      cases htaken : s.find? new.email with
      | some _ =>
          rw [create_of_some htaken]
          exact hfound
      | none =>
          have hkey : emailKey email ≠ emailKey new.email := by
            intro hkey
            rw [find?, hkey, ← find?, htaken] at hfound
            cases hfound
          have hok : (s.create new).1 = .ok ⟨s.nextId, new.fullName, new.email, new.passwordHash,
              false⟩ := by rw [create_of_none htaken]
          rw [find?_create hok, if_neg hkey]
          exact hfound
  | @change changed what f hid hemail =>
      obtain ⟨a', hfound, hnumber, haddress⟩ := hfinds
      rw [Finds, find?_change]
      split_ifs with hkey
      · exact ⟨f a', by rw [hfound]; rfl, (hid a').trans hnumber, (hemail a').trans haddress⟩
      · exact ⟨a', hfound, hnumber, haddress⟩

/-- No account is taken out. -/
lemma size_le (h : Accounted s s') : s.accounts.size ≤ s'.accounts.size := by
  induction h with
  | same => exact Nat.le_refl _
  | withResets _ _ ih => exact ih
  | create new =>
      cases htaken : s.find? new.email with
      | some _ => exact Nat.le_of_eq (by rw [create_of_some htaken])
      | none =>
          rw [create_of_none htaken]
          exact Nat.le_of_lt (Nat.lt_of_lt_of_eq (Nat.lt_succ_self _)
            (Table.size_insert_of_none htaken _).symm)
  | change changed what => exact Nat.le_of_eq (size_change _ _ _ _).symm

/-- The keys are kept. -/
lemma keyed (h : Accounted s s') (hkeyed : s.Keyed) : s'.Keyed := by
  induction h with
  | same => exact hkeyed
  | withResets _ _ ih => exact ih
  | create new => exact hkeyed.create new
  | change changed what hid hemail => exact hkeyed.change changed what hemail

/-- The numbering is kept, as long as 64 bits have room for the accounts. -/
lemma numbered (h : Accounted s s') (hroom : s'.accounts.size < UInt64.size)
    (hnumbered : s.Numbered) : s'.Numbered := by
  induction h with
  | same => exact hnumbered
  | withResets _ resets ih => exact (ih hroom).withResets resets
  | create new => exact hnumbered.create new hroom
  | change changed what hid hemail => exact hnumbered.change changed what hid hemail

end Accounted
end AccountStore

/-! ### Runs -/

namespace World

variable {service : Service} {w : World}

open AccountStore

/-- All that an operation can do to the accounts. -/
lemma accounted_step (h : Fault.OnlyMail w.faults) (operation : Operation) :
    w.backend.store.Accounted (step service w operation).2.backend.store := by
  rw [step_store h]
  cases operation with
  | register fullName email password salt id => exact .create _
  | requestReset email =>
      dsimp only
      generalize PasswordReset.stored? service.config service.codec w.backend.store email
        w.reading = stored
      cases stored with
      | none => exact .same
      | some r => exact .replaceReset r
  | resetPassword token password salt =>
      dsimp only
      generalize PasswordReset.usable? service.codec w.backend.store token w.reading = usable
      generalize service.hasher.hash salt password = hash
      cases usable with
      | none => exact .same
      | some r => exact .deleteReset (.updatePassword r.email hash) _
  | setAdmin email value => exact .setAdmin email value
  | setPasswordHash email hash => exact .updatePassword email hash
  | cleanupResets => exact .cleanupResets w.reading.now
  | _ => exact .same

/-- An account that is found is found on. -/
lemma finds_after (h : Fault.OnlyMail w.faults) {operations : List Operation}
    (hmail : ∀ operation ∈ operations, operation.DisturbsOnlyMail) {email : String} {a : Account}
    (hfinds : w.backend.store.Finds email a) :
    (after service w operations).backend.store.Finds email a := by
  induction operations generalizing w with
  | nil => exact hfinds
  | cons operation rest ih =>
      obtain ⟨hfirst, hrest⟩ := List.forall_mem_cons.mp hmail
      exact ih (onlyMail_step h hfirst) hrest ((accounted_step h operation).finds hfinds)

/-- A run keeps the keys. -/
lemma keyed_after (h : Fault.OnlyMail w.faults) {operations : List Operation}
    (hmail : ∀ operation ∈ operations, operation.DisturbsOnlyMail)
    (hkeyed : w.backend.store.Keyed) : (after service w operations).backend.store.Keyed := by
  induction operations generalizing w with
  | nil => exact hkeyed
  | cons operation rest ih =>
      obtain ⟨hfirst, hrest⟩ := List.forall_mem_cons.mp hmail
      exact ih (onlyMail_step h hfirst) hrest ((accounted_step h operation).keyed hkeyed)

/-- No run takes an account out. -/
lemma size_accounts_after (h : Fault.OnlyMail w.faults) {operations : List Operation}
    (hmail : ∀ operation ∈ operations, operation.DisturbsOnlyMail) :
    w.backend.store.accounts.size ≤ (after service w operations).backend.store.accounts.size := by
  induction operations generalizing w with
  | nil => exact Nat.le_refl _
  | cons operation rest ih =>
      obtain ⟨hfirst, hrest⟩ := List.forall_mem_cons.mp hmail
      exact Nat.le_trans (accounted_step h operation).size_le (ih (onlyMail_step h hfirst) hrest)

/-- A run keeps the numbering, as long as 64 bits have room for the accounts. -/
theorem numbered_after (h : Fault.OnlyMail w.faults) {operations : List Operation}
    (hmail : ∀ operation ∈ operations, operation.DisturbsOnlyMail)
    (hroom : (after service w operations).backend.store.accounts.size < UInt64.size)
    (hnumbered : w.backend.store.Numbered) :
    (after service w operations).backend.store.Numbered := by
  induction operations generalizing w with
  | nil => exact hnumbered
  | cons operation rest ih =>
      obtain ⟨hfirst, hrest⟩ := List.forall_mem_cons.mp hmail
      have hnext : Fault.OnlyMail (step service w operation).2.faults := onlyMail_step h hfirst
      have hless : (step service w operation).2.backend.store.accounts.size < UInt64.size :=
        Nat.lt_of_le_of_lt (size_accounts_after hnext hrest) hroom
      exact ih hnext hrest hroom ((accounted_step h operation).numbered hless hnumbered)

end World
end AccountAccess
