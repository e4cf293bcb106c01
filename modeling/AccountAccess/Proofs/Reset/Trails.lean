import AccountAccess.Proofs.Reset.Standing

/-!
Two worlds of which one has lost reset records that the other one still has.

* `AccountStore.SameAccounts`: two stores have the same accounts, but for the password hashes. What
  an operation of the store does to one of them it does to the other.
* `World.Trails`: the accounts are the same, clock and faults are, and the records of the second
  world are among those of the first one. A request stores the same record in both
  (`World.Trails.stored?_eq`), and a record that both have is taken out of both or of neither
  (`World.Trails.takesOut_iff`). So every operation preserves it (`World.Trails.step`), and a
  cleanup of the second world does (`World.Trails.cleanup`).
-/

namespace AccountAccess

/-! ### Stores -/

/-- The account as far as credentials are concerned. -/
def Account.sansPassword (a : Account) : Account := { a with passwordHash := "" }

namespace AccountStore

/-- The stores have the same accounts, but for the password hashes. -/
structure SameAccounts (s s' : AccountStore) : Prop where
  nextId : s.nextId = s'.nextId
  found : ∀ email,
    (s.find? email).map Account.sansPassword = (s'.find? email).map Account.sansPassword

namespace SameAccounts

variable {s s' s'' : AccountStore}

lemma refl (s : AccountStore) : SameAccounts s s := ⟨rfl, fun _ => rfl⟩

lemma symm (h : SameAccounts s s') : SameAccounts s' s :=
  ⟨h.nextId.symm, fun email => (h.found email).symm⟩

lemma trans (h : SameAccounts s s') (h' : SameAccounts s' s'') : SameAccounts s s'' :=
  ⟨h.nextId.trans h'.nextId, fun email => (h.found email).trans (h'.found email)⟩

/-- What is done to the records does not count. -/
lemma withResets (s : AccountStore) (resets : Table String ResetRecord) :
    SameAccounts s { s with resets } := ⟨rfl, fun _ => rfl⟩

/-- Of an address without an account in the one store there is none in the other. -/
lemma find?_eq_none_iff (h : SameAccounts s s') {email : String} :
    s.find? email = none ↔ s'.find? email = none := by
  rw [← Option.map_eq_none_iff (f := Account.sansPassword), h.found, Option.map_eq_none_iff]

/-- Both stores create the same account, or none. -/
lemma create (h : SameAccounts s s') (a : NewAccount) :
    SameAccounts (s.create a).2 (s'.create a).2 := by
  cases hfound : s.find? a.email with
  | none =>
      have hfound' := h.find?_eq_none_iff.mp hfound
      rw [create_of_none hfound, create_of_none hfound']
      refine ⟨congrArg (· + 1) h.nextId, ?_⟩
      intro email
      have hother := h.found email
      simp only [find?, Table.get?_insert] at hother ⊢
      split_ifs
      · rw [h.nextId]
      · exact hother
  | some account =>
      obtain ⟨account', hfound'⟩ := Option.ne_none_iff_exists'.mp fun hnone =>
        Option.some_ne_none account (hfound.symm.trans (h.find?_eq_none_iff.mpr hnone))
      rw [create_of_some hfound, create_of_some hfound']
      exact h

/-- A change that goes on apart from the password hash is made in both stores. -/
lemma change (h : SameAccounts s s') (email what : String) {f : Account → Account}
    (hf : ∀ a : Account, (f a).sansPassword = f a.sansPassword) :
    SameAccounts (s.change email what f).2 (s'.change email what f).2 := by
  have hmap : ∀ o : Option Account,
      (o.map f).map Account.sansPassword = (o.map Account.sansPassword).map f := by
    intro o
    rw [Option.map_map, Option.map_map]
    exact Option.map_congr fun a _ => hf a
  refine ⟨by rw [nextId_change, nextId_change, h.nextId], ?_⟩
  intro e
  rw [find?_change, find?_change]
  split_ifs
  · rw [hmap, hmap, h.found]
  · exact h.found e

/-- A store with another password has the same accounts. -/
lemma updatePassword (s : AccountStore) (email hash : String) :
    SameAccounts s (s.updatePassword email hash).2 := by
  refine ⟨(nextId_change _ _ _ _).symm, ?_⟩
  intro e
  rw [AccountStore.updatePassword, find?_change]
  split_ifs
  · rw [Option.map_map]
    rfl
  · rfl

/-- A request stores a record, or does not. -/
lemma request (s : AccountStore) (new : Option ResetRecord) :
    SameAccounts s (new.elim s fun r => (s.replaceReset r).2) := by
  cases new with
  | none => exact .refl s
  | some r => exact .withResets s _

/-- A reset sets a password and uses a record up, or does not. -/
lemma reset (s : AccountStore) (used : Option ResetRecord) (hash fingerprint : String) :
    SameAccounts s (used.elim s fun r =>
      (s.updatePassword r.email hash).2.deleteReset fingerprint) := by
  cases used with
  | none => exact .refl s
  | some r => exact (updatePassword s r.email hash).trans (.withResets _ _)

end SameAccounts
end AccountStore

namespace World

variable {service : Service} {w w' : World}

/-! ### Worlds -/

/-- Operations change no faults but on purpose. -/
lemma step_faults (operation : Operation) :
    (step service w operation).2.faults =
      match operation with
      | .disturb kind fault => w.faults.insert kind fault
      | .calm => ∅
      | _ => w.faults := by
  cases operation <;> rfl

/-- A request goes by the clock and by the accounts, apart from their password hashes. -/
lemma stored?_eq_of_sameAccounts (hclock : w'.clock = w.clock)
    (haccounts : w.backend.store.SameAccounts w'.backend.store) (operation : Operation) :
    stored? service w' operation = stored? service w operation := by
  have hreading : w'.reading = w.reading := by rw [reading, reading, hclock]
  cases operation with
  | requestReset email =>
      -- the record does not tell the password hash
      have hseen : ∀ w : World, stored? service w (.requestReset email) =
          ((w.backend.store.find? email).map Account.sansPassword).bind fun account =>
            (w.reading.now.addSeconds? Claims.resetLifetime).map fun expiresAt =>
              .ofToken account.email (service.codec.encode
                (PasswordReset.claims service.config service.codec account w.reading))
                w.reading.now expiresAt := by
        intro w
        rw [stored?, PasswordReset.stored?]
        cases w.backend.store.find? email with
        | none => rfl
        | some account => cases w.reading.now.addSeconds? Claims.resetLifetime <;> rfl
      rw [hseen, hseen, hreading, haccounts.found]
  | _ => rfl

/-- The second world is the first one, but that it may lack reset records and have other password
hashes. -/
structure Trails (w w' : World) : Prop where
  clock : w'.clock = w.clock
  faults : w'.faults = w.faults
  accounts : w.backend.store.SameAccounts w'.backend.store
  resets : ∀ fp r, w'.backend.store.findReset? fp = some r →
    w.backend.store.findReset? fp = some r

namespace Trails

lemma refl (w : World) : Trails w w := ⟨rfl, rfl, .refl _, fun _ _ hr => hr⟩

variable (ht : Trails w w')
include ht

lemma reading_eq : w'.reading = w.reading := by
  rw [reading, reading, ht.clock]

/-- A request stores the same record in both worlds. -/
lemma stored?_eq (operation : Operation) :
    stored? service w' operation = stored? service w operation :=
  stored?_eq_of_sameAccounts ht.clock ht.accounts operation

/-- What uses a record up that both worlds have uses it up in both. -/
lemma usable?_eq {token : String} {r : ResetRecord}
    (hr : w'.backend.store.findReset? (AccountAccess.fingerprint token) = some r) :
    PasswordReset.usable? service.codec w'.backend.store token w'.reading =
      PasswordReset.usable? service.codec w.backend.store token w.reading := by
  have hsome : (w'.backend.store.find? r.email).isSome =
      (w.backend.store.find? r.email).isSome := by
    have hfound := congrArg Option.isSome (ht.accounts.found r.email)
    rw [Option.isSome_map, Option.isSome_map] at hfound
    exact hfound.symm
  rw [PasswordReset.usable?, PasswordReset.usable?, hr, ht.resets _ _ hr, ht.reading_eq,
    Option.filter_some, Option.filter_some, hsome]

variable (h : Fault.OnlyMail w.faults)
include h

/-- A record that both worlds have is taken out of both or of neither. -/
lemma takesOut_iff {fp : String} {r : ResetRecord}
    (hr : w'.backend.store.findReset? fp = some r) (operation : Operation) :
    TakesOut service w' fp r operation ↔ TakesOut service w fp r operation := by
  have h' : Fault.OnlyMail w'.faults := ht.faults ▸ h
  cases operation with
  | requestReset email =>
      simp only [TakesOut, ht.stored?_eq]
  | resetPassword token password salt =>
      simp only [TakesOut, step_resetPassword_eq_ok_iff h, step_resetPassword_eq_ok_iff h']
      refine and_congr_left ?_
      rintro rfl
      rw [ht.usable?_eq hr]
  | cleanupResets =>
      simp only [TakesOut, ht.reading_eq]
  | _ => exact Iff.rfl

/-- The accounts stay the same, whatever records an operation finds. -/
lemma accounts_step (operation : Operation) :
    (World.step service w operation).2.backend.store.SameAccounts
      (World.step service w' operation).2.backend.store := by
  have h' : Fault.OnlyMail w'.faults := ht.faults ▸ h
  have haccounts := ht.accounts
  -- what keeps the accounts of each store keeps them alike
  have hboth : ∀ {s s' : AccountStore}, w.backend.store.SameAccounts s →
      w'.backend.store.SameAccounts s' → s.SameAccounts s' :=
    fun hleft hright => (hleft.symm.trans haccounts).trans hright
  rw [step_store h, step_store h']
  cases operation with
  | register fullName email password salt id => exact haccounts.create _
  | requestReset email => exact hboth (.request _ _) (.request _ _)
  | resetPassword token password salt => exact hboth (.reset _ _ _ _) (.reset _ _ _ _)
  | setAdmin email value => exact haccounts.change email _ fun _ => rfl
  | setPasswordHash email hash =>
      exact hboth (.updatePassword _ email hash) (.updatePassword _ email hash)
  | cleanupResets => exact hboth (.withResets _ _) (.withResets _ _)
  | _ => exact haccounts

/-- Every operation preserves the relation. -/
lemma step (operation : Operation) :
    Trails (World.step service w operation).2 (World.step service w' operation).2 where
  clock := by rw [step_clock, step_clock, ht.clock]
  faults := by rw [step_faults, step_faults, ht.faults]
  accounts := ht.accounts_step h operation
  resets := by
    intro fp r hr
    have h' : Fault.OnlyMail w'.faults := ht.faults ▸ h
    rcases (findReset?_step_iff h' operation).mp hr with ⟨hstored, hfingerprint⟩ | ⟨hstood, hkept⟩
    · rw [ht.stored?_eq] at hstored
      exact (findReset?_step_iff h operation).mpr (Or.inl ⟨hstored, hfingerprint⟩)
    · rw [ht.takesOut_iff h hstood] at hkept
      exact (findReset?_step_iff h operation).mpr (Or.inr ⟨ht.resets fp r hstood, hkept⟩)

/-- Where both worlds have the same record of a fingerprint, or none, an operation leaves it so. -/
lemma findReset?_step_eq {fp : String}
    (hsame : w'.backend.store.findReset? fp = w.backend.store.findReset? fp)
    (operation : Operation) :
    (World.step service w' operation).2.backend.store.findReset? fp =
      (World.step service w operation).2.backend.store.findReset? fp := by
  have h' : Fault.OnlyMail w'.faults := ht.faults ▸ h
  refine Option.ext fun r => ?_
  rw [findReset?_step_iff h', findReset?_step_iff h, ht.stored?_eq, ← hsame]
  refine or_congr_right (and_congr_right fun hr => ?_)
  rw [ht.takesOut_iff h hr]

omit h in
/-- A cleanup of the second world preserves the relation. -/
lemma cleanup : Trails w (World.step service w' .cleanupResets).2 where
  clock := ht.clock
  faults := ht.faults
  accounts := ht.accounts.trans (.withResets _ _)
  resets := by
    intro fp r hr
    have hkept : (w'.backend.store.cleanupResets w'.reading.now).2.findReset? fp = some r := hr
    rw [AccountStore.findReset?_cleanupResets, Option.filter_eq_some_iff] at hkept
    exact ht.resets fp r hkept.1

end Trails

end World
end AccountAccess
