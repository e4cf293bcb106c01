import AccountAccess.Proofs.Account.Numbering

/-!
What a store holds, told by the calls that were made on it.

* `StoreCall`: a call on a store of accounts and reset records, and `AccountStore.carryOut`.
* `AccountStore.carryOut_eq_error_iff` and `AccountStore.carryOut_of_error`: which calls are
  refused, and that these leave the store as it was.
* `AccountStore.created` lists the accounts that calls create, and `Account.updated` is an account
  with the last password hash and the last flag that calls set for it.
* `AccountStore.find?_carryOut_iff` says what a single call does to the accounts that are found, and
  `AccountStore.find?_afterCalls_iff` what any number of them does.
* `AccountStore.history_afterCalls`: all that the calls tell of the accounts.
-/

namespace AccountAccess

/-! ### Calls -/

/-- A call on a store of accounts and reset records. -/
inductive StoreCall where
  | create (account : NewAccount)
  | find (email : String)
  | updatePassword (email passwordHash : String)
  | setAdmin (email : String) (value : Bool)
  | createReset (record : ResetRecord)
  | findReset (fingerprint : String)
  | deleteReset (fingerprint : String)
  | replaceReset (record : ResetRecord)
  | deleteResetsFor (email : String)
  | cleanupResets (now : Instant)

namespace StoreCall

/-- What a call is answered with. -/
abbrev Answer : StoreCall → Type
  | create _ => Account
  | find _ => Option Account
  | findReset _ => Option ResetRecord
  | replaceReset _ | deleteResetsFor _ | cleanupResets _ => Nat
  | updatePassword .. | setAdmin .. | createReset _ | deleteReset _ => Unit

/-- The password hash that a call sets for the account of a key. -/
def hash? (key : String) : StoreCall → Option String
  | updatePassword email passwordHash => if emailKey email = key then some passwordHash else none
  | _ => none

/-- The flag that a call sets for the account of a key. -/
def flag? (key : String) : StoreCall → Option Bool
  | setAdmin email value => if emailKey email = key then some value else none
  | _ => none

end StoreCall

/-- An account with the last password hash and the last flag that calls set for its key. -/
def Account.updated (a : Account) (calls : List StoreCall) : Account :=
  { a with
    passwordHash := (calls.filterMap (StoreCall.hash? (emailKey a.email))).getLastD a.passwordHash
    isAdmin := (calls.filterMap (StoreCall.flag? (emailKey a.email))).getLastD a.isAdmin }

/-- A new account as it is stored under a number. -/
def NewAccount.stored (a : NewAccount) (id : Int64) : Account :=
  ⟨id, a.fullName, a.email, a.passwordHash, false⟩

namespace AccountStore

/-- Carries a call out. -/
def carryOut (s : AccountStore) (call : StoreCall) : Except Failure call.Answer × AccountStore :=
  match call with
  | .create a => s.create a
  | .find email => (.ok (s.find? email), s)
  | .updatePassword email passwordHash => s.updatePassword email passwordHash
  | .setAdmin email value => s.setAdmin email value
  | .createReset r => (.ok (), s.createReset r)
  | .findReset fingerprint => (.ok (s.findReset? fingerprint), s)
  | .deleteReset fingerprint => (.ok (), s.deleteReset fingerprint)
  | .replaceReset r => (.ok (s.replaceReset r).1, (s.replaceReset r).2)
  | .deleteResetsFor email => (.ok (s.deleteResetsFor email).1, (s.deleteResetsFor email).2)
  | .cleanupResets now => (.ok (s.cleanupResets now).1, (s.cleanupResets now).2)

/-- The store after calls, the first one first. -/
def afterCalls (s : AccountStore) (calls : List StoreCall) : AccountStore :=
  calls.foldl (fun s call => (s.carryOut call).2) s

/-- The account that a call creates. -/
def created? (s : AccountStore) : StoreCall → Option Account
  | .create a => (s.create a).1.toOption
  | _ => none

/-- The accounts that calls create, in order. -/
def created : AccountStore → List StoreCall → List Account
  | _, [] => []
  | s, call :: calls => (s.created? call).toList ++ created (s.carryOut call).2 calls

/-- What a call is refused with, if it is: nobody registers an address that is taken, and nothing is
changed about an account that is not there. -/
def refusal? (s : AccountStore) : StoreCall → Option Failure
  | .create a =>
    if (s.find? a.email).isSome then some (.conflict "User with this email already exists")
    else none
  | .updatePassword email _ =>
    if (s.find? email).isSome then none else some (.notFound "User not registered")
  | .setAdmin email _ =>
    if (s.find? email).isSome then none else some (.notFound ("account " ++ email))
  | _ => none

variable {s : AccountStore}

/-! ### Refusals -/

/-- Which calls are refused, and for which reason. -/
lemma carryOut_eq_error_iff {call : StoreCall} {f : Failure} :
    (s.carryOut call).1 = .error f ↔ s.refusal? call = some f := by
  cases call with
  | create a =>
      rw [carryOut, refusal?]
      cases hfound : s.find? a.email with
      | none => simp [create_of_none hfound]
      | some taken => simp [create_of_some hfound]
  | updatePassword email passwordHash =>
      rw [carryOut, refusal?, updatePassword]
      cases hfound : s.find? email with
      | none => simp [change_of_none hfound]
      | some a => simp [change_of_some hfound]
  | setAdmin email value =>
      rw [carryOut, refusal?, setAdmin]
      cases hfound : s.find? email with
      | none => simp [change_of_none hfound]
      | some a => simp [change_of_some hfound]
  | _ => simp [carryOut, refusal?]

/-- A call that is refused leaves the store as it was. -/
lemma carryOut_of_error {call : StoreCall} {f : Failure} (h : (s.carryOut call).1 = .error f) :
    (s.carryOut call).2 = s := by
  rw [carryOut_eq_error_iff] at h
  cases call with
  | create a =>
      cases hfound : s.find? a.email with
      | none => simp [refusal?, hfound] at h
      | some taken => rw [carryOut, create_of_some hfound]
  | updatePassword email passwordHash =>
      cases hfound : s.find? email with
      | none => rw [carryOut, updatePassword, change_of_none hfound]
      | some a => simp [refusal?, hfound] at h
  | setAdmin email value =>
      cases hfound : s.find? email with
      | none => rw [carryOut, setAdmin, change_of_none hfound]
      | some a => simp [refusal?, hfound] at h
  | _ => cases h

/-! ### The account that a call creates -/

/-- Who creates an account gets the next number. -/
lemma created?_eq_some_iff {call : StoreCall} {a : Account} :
    s.created? call = some a ↔
      ∃ new, call = .create new ∧ s.find? new.email = none ∧ a = new.stored s.nextId := by
  cases call with
  | create new =>
      rw [created?]
      cases hfound : s.find? new.email with
      | none =>
          simp [create_of_none hfound, Except.toOption, hfound, eq_comm, NewAccount.stored]
      | some taken => simp [create_of_some hfound, Except.toOption, hfound]
  | _ => simp [created?]

/-- All that a call can do to the accounts. -/
lemma accounted_carryOut (call : StoreCall) : s.Accounted (s.carryOut call).2 := by
  cases call with
  | create a => exact .create a
  | updatePassword email passwordHash => exact .updatePassword email passwordHash
  | setAdmin email value => exact .setAdmin email value
  | createReset r => exact .withResets .same _
  | deleteReset fingerprint => exact .withResets .same _
  | replaceReset r => exact .withResets .same _
  | deleteResetsFor email => exact .withResets .same _
  | cleanupResets now => exact .withResets .same _
  | _ => exact .same

/-- The number of the next account and the number of accounts grow with each account that is
created, and only then. -/
lemma counts_carryOut (call : StoreCall) :
    (s.carryOut call).2.nextId = s.nextId + .ofNat (s.created? call).toList.length ∧
      (s.carryOut call).2.accounts.size = s.accounts.size + (s.created? call).toList.length := by
  cases call with
  | create new =>
      cases hfound : s.find? new.email with
      | none =>
          have hcreated := created?_eq_some_iff.mpr ⟨new, rfl, hfound, rfl⟩
          rw [hcreated, carryOut, create_of_none hfound]
          exact ⟨rfl, Table.size_insert_of_none hfound _⟩
      | some taken =>
          have hnothing : s.created? (.create new) = none := by
            rw [created?, create_of_some hfound]
            rfl
          rw [hnothing, carryOut, create_of_some hfound]
          exact ⟨(Int64.add_zero _).symm, rfl⟩
  | updatePassword email passwordHash =>
      exact ⟨(s.nextId_change email _ _).trans (Int64.add_zero _).symm, s.size_change email _ _⟩
  | setAdmin email value =>
      exact ⟨(s.nextId_change email _ _).trans (Int64.add_zero _).symm, s.size_change email _ _⟩
  | _ => exact ⟨(Int64.add_zero _).symm, rfl⟩

/-! ### What is set for an account -/

/-- Without calls nothing is set. -/
lemma updated_nil (a : Account) : a.updated [] = a := rfl

/-- What calls set, a call at a time. -/
lemma updated_cons (a : Account) (call : StoreCall) (calls : List StoreCall) :
    a.updated (call :: calls) = (a.updated [call]).updated calls := by
  have hlast : ∀ {β : Type} (g : StoreCall → Option β) (d : β),
      ((call :: calls).filterMap g).getLastD d =
        (calls.filterMap g).getLastD (([call].filterMap g).getLastD d) := by
    intro β g d
    rw [List.filterMap_cons, List.filterMap_cons]
    cases g call with
    | none => rfl
    | some b => exact List.getLastD_cons
  rw [Account.updated, hlast, hlast]
  rfl

/-- A change of the account of an address is one that a call sets. -/
lemma find?_change_iff (h : s.Keyed) {email : String} {f : Account → Account} {call : StoreCall}
    (hset : ∀ a : Account, a.updated [call] = if emailKey email = emailKey a.email then f a else a)
    (what e : String) {a : Account} :
    (s.change email what f).2.find? e = some a ↔
      ∃ old, s.find? e = some old ∧ a = old.updated [call] := by
  rw [find?_change]
  constructor
  · intro ha
    split_ifs at ha with hkey
    · obtain ⟨old, hold, rfl⟩ := Option.map_eq_some_iff.mp ha
      exact ⟨old, hold, by rw [hset, h.emailKey_eq hold, if_pos hkey.symm]⟩
    · exact ⟨a, ha, by rw [hset, h.emailKey_eq ha, if_neg (Ne.symm hkey)]⟩
  · rintro ⟨old, hold, rfl⟩
    rw [hset, h.emailKey_eq hold, hold]
    split_ifs with hkey hkey' hkey'
    · rfl
    · exact absurd hkey.symm hkey'
    · exact absurd hkey'.symm hkey
    · rfl

/-- After a call an account is found if it was found before, with what the call set for it, or if
the call created it. -/
lemma find?_carryOut_iff (h : s.Keyed) (call : StoreCall) {e : String} {a : Account} :
    (s.carryOut call).2.find? e = some a ↔
      (∃ old, s.find? e = some old ∧ a = old.updated [call]) ∨
        (s.created? call = some a ∧ emailKey a.email = emailKey e) := by
  cases call with
  | create new =>
      have hkept : ∀ old : Account, old.updated [.create new] = old := fun _ => rfl
      simp only [hkept, exists_eq_right']
      cases hfound : s.find? new.email with
      | none =>
          have hcreated := created?_eq_some_iff.mpr ⟨new, rfl, hfound, rfl⟩
          have hok : (s.create new).1 = .ok (new.stored s.nextId) := by
            rw [create_of_none hfound]
            rfl
          rw [carryOut, find?_create hok, hcreated, Option.some.injEq]
          split_ifs with hkey
          · have hnone : s.find? e = none := by rw [find?, hkey]; exact hfound
            simp only [hnone, Option.some.injEq, reduceCtorEq, false_or]
            exact ⟨fun heq => ⟨heq, heq ▸ hkey.symm⟩, And.left⟩
          · refine ⟨Or.inl, ?_⟩
            rintro (hold | ⟨rfl, hsame⟩)
            · exact hold
            · exact absurd hsame.symm hkey
      | some taken =>
          have hnothing : s.created? (.create new) ≠ some a := by
            intro hcreated
            obtain ⟨new', heq, hfree, -⟩ := created?_eq_some_iff.mp hcreated
            obtain rfl := StoreCall.create.inj heq
            rw [hfound] at hfree
            cases hfree
          rw [carryOut, create_of_some hfound]
          exact ⟨Or.inl, fun hor => hor.resolve_right fun hnew => hnothing hnew.1⟩
  | updatePassword email passwordHash =>
      have hset : ∀ a : Account, a.updated [.updatePassword email passwordHash] =
          if emailKey email = emailKey a.email then { a with passwordHash } else a := by
        intro a
        rw [Account.updated, List.filterMap_cons, StoreCall.hash?]
        split_ifs <;> rfl
      rw [carryOut, updatePassword, find?_change_iff h hset]
      simp [created?]
  | setAdmin email value =>
      have hset : ∀ a : Account, a.updated [.setAdmin email value] =
          if emailKey email = emailKey a.email then { a with isAdmin := value } else a := by
        intro a
        rw [Account.updated, List.filterMap_cons, List.filterMap_cons, StoreCall.flag?]
        split_ifs <;> rfl
      rw [carryOut, setAdmin, find?_change_iff h hset]
      simp [created?]
  | _ =>
      refine ⟨fun ha => Or.inl ⟨a, ha, rfl⟩, ?_⟩
      rintro (⟨old, hold, rfl⟩ | ⟨hcreated, -⟩)
      · exact hold
      · cases hcreated

/-! ### Any number of calls -/

lemma afterCalls_cons (call : StoreCall) (calls : List StoreCall) :
    s.afterCalls (call :: calls) = (s.carryOut call).2.afterCalls calls := rfl

lemma afterCalls_append (first later : List StoreCall) :
    s.afterCalls (first ++ later) = (s.afterCalls first).afterCalls later := by
  rw [afterCalls, List.foldl_append]
  rfl

/-- Calls keep the keys. -/
lemma keyed_afterCalls (h : s.Keyed) (calls : List StoreCall) : (s.afterCalls calls).Keyed := by
  induction calls generalizing s with
  | nil => exact h
  | cons call rest ih => exact ih ((accounted_carryOut call).keyed h)

/-- After calls an account is found if it was found before, or was created on the way; and it has
what the calls set for it since. -/
theorem find?_afterCalls_iff (h : s.Keyed) (calls : List StoreCall) {e : String} {a : Account} :
    (s.afterCalls calls).find? e = some a ↔
      (∃ old, s.find? e = some old ∧ a = old.updated calls) ∨
        ∃ before call later new, calls = before ++ call :: later ∧
          (s.afterCalls before).created? call = some new ∧ emailKey new.email = emailKey e ∧
            a = new.updated later := by
  induction calls generalizing s with
  | nil => simp [afterCalls, updated_nil]
  | cons call rest ih =>
      rw [afterCalls_cons, ih ((accounted_carryOut call).keyed h)]
      simp only [find?_carryOut_iff h]
      constructor
      · rintro (⟨_, ⟨old, hold, rfl⟩ | ⟨hcreated, hkey⟩, rfl⟩ |
          ⟨before, other, later, new, rfl, hcreated, hkey, rfl⟩)
        · exact Or.inl ⟨old, hold, (updated_cons _ _ _).symm⟩
        · exact Or.inr ⟨[], call, rest, _, rfl, hcreated, hkey, rfl⟩
        · exact Or.inr ⟨call :: before, other, later, new, rfl, hcreated, hkey, rfl⟩
      · rintro (⟨old, hold, rfl⟩ | ⟨before, other, later, new, hsplit, hcreated, hkey, rfl⟩)
        · exact Or.inl ⟨_, Or.inl ⟨old, hold, rfl⟩, updated_cons _ _ _⟩
        · cases before with
          | nil =>
              obtain ⟨rfl, rfl⟩ := List.cons.inj hsplit
              exact Or.inl ⟨new, Or.inr ⟨hcreated, hkey⟩, rfl⟩
          | cons first before =>
              obtain ⟨rfl, rfl⟩ := List.cons.inj hsplit
              exact Or.inr ⟨before, other, later, new, rfl, hcreated, hkey, rfl⟩

/-- The number of the next account and the number of accounts, after calls. -/
lemma counts_afterCalls (calls : List StoreCall) :
    (s.afterCalls calls).nextId = s.nextId + .ofNat (s.created calls).length ∧
      (s.afterCalls calls).accounts.size = s.accounts.size + (s.created calls).length := by
  induction calls generalizing s with
  | nil => exact ⟨(Int64.add_zero _).symm, rfl⟩
  | cons call rest ih =>
      obtain ⟨hnext, hsize⟩ := counts_carryOut (s := s) call
      obtain ⟨hnexts, hsizes⟩ := @ih (s.carryOut call).2
      rw [afterCalls_cons, created, List.length_append, hnexts, hsizes, hnext, hsize,
        Int64.ofNat_add, Int64.add_assoc, Nat.add_assoc]
      exact ⟨rfl, rfl⟩

/-- The accounts that calls create are numbered on, in order. -/
lemma ids_created (calls : List StoreCall) {n : Nat} (hnext : s.nextId = .ofNat n) :
    (s.created calls).map Account.id =
      (List.range' n (s.created calls).length).map Int64.ofNat := by
  induction calls generalizing s n with
  | nil => rfl
  | cons call rest ih =>
      obtain ⟨hafter, -⟩ := counts_carryOut (s := s) call
      rw [created]
      cases hcreated : s.created? call with
      | none =>
          rw [hcreated] at hafter
          exact ih (hafter.trans ((Int64.add_zero _).trans hnext))
      | some a =>
          obtain ⟨new, -, -, rfl⟩ := created?_eq_some_iff.mp hcreated
          rw [hcreated] at hafter
          have hrest := ih (n := n + 1) (by rw [hafter, hnext, Int64.ofNat_add]; rfl)
          rw [Option.toList_some, List.singleton_append, List.map_cons, hrest, List.length_cons,
            List.range'_succ, List.map_cons]
          exact congrArg (· :: _) hnext

/-! ### A store that was empty -/

/-- What the calls on an empty store tell of the accounts that it holds. -/
structure History (calls : List StoreCall) (s : AccountStore) : Prop where
  /-- Accounts are kept by the key of their own address. -/
  keyed : ∀ k a, s.accounts.get? k = some a → emailKey a.email = k
  /-- No two of them have addresses with the same key. -/
  distinct : ∀ k a k' a', s.accounts.get? k = some a → s.accounts.get? k' = some a' →
    emailKey a.email = emailKey a'.email → k = k' ∧ a = a'
  /-- There are as many as were created. -/
  size : s.accounts.size = (created {} calls).length
  /-- They have the numbers from one on, in the order in which they were created. -/
  numbered : (created {} calls).map (fun a => a.id.toInt) =
    (List.range' 1 (created {} calls).length).map Int.ofNat
  /-- An account is found by an address exactly if one was created for an address of the same key;
  it has the name and the address that were given then, and the last password hash and the last
  flag that were set since through any address of that key. -/
  found : ∀ e a, s.find? e = some a ↔ ∃ before new later, calls = before ++ .create new :: later ∧
    let account := new.stored (.ofNat ((created {} before).length + 1))
    ((({} : AccountStore).afterCalls before).carryOut (.create new)).1 = .ok account ∧
      emailKey new.email = emailKey e ∧ a = account.updated later
  /-- An account that was found once is found on, with the same number, name and address. -/
  lasting : ∀ first later, calls = first ++ later → ∀ e a,
    (({} : AccountStore).afterCalls first).find? e = some a →
      ∃ a', s.find? e = some a' ∧ a'.id = a.id ∧ a'.fullName = a.fullName ∧ a'.email = a.email
  /-- An address that is taken is refused, and so is a change where there is no account. -/
  refused : ∀ call f, (s.carryOut call).1 = .error f ↔ s.refusal? call = some f
  /-- Whatever is refused leaves the whole store as it was. -/
  unchanged : ∀ call f, (s.carryOut call).1 = .error f → (s.carryOut call).2 = s

/-- An account is created where the call to create it is answered. -/
lemma created?_afterCalls_iff {before : List StoreCall} {call : StoreCall} {a : Account} :
    (({} : AccountStore).afterCalls before).created? call = some a ↔
      ∃ new, call = .create new ∧ a = new.stored (.ofNat ((created {} before).length + 1)) ∧
        ((({} : AccountStore).afterCalls before).carryOut (.create new)).1 = .ok a := by
  have hnext : (({} : AccountStore).afterCalls before).nextId =
      .ofNat ((created {} before).length + 1) := by
    rw [(counts_afterCalls before).1, Nat.add_comm, Int64.ofNat_add]
    rfl
  rw [created?_eq_some_iff, hnext]
  refine exists_congr fun new => and_congr_right fun _ => ?_
  constructor
  · rintro ⟨hfree, rfl⟩
    refine ⟨rfl, ?_⟩
    rw [carryOut, create_of_none hfree, hnext]
    rfl
  · rintro ⟨rfl, hok⟩
    refine ⟨?_, rfl⟩
    cases hfound : (({} : AccountStore).afterCalls before).find? new.email with
    | none => rfl
    | some taken =>
        rw [carryOut, create_of_some hfound] at hok
        cases hok

/-- **What the calls on an empty store tell of its accounts**, as long as these are fewer than
2⁶³ - 1. -/
theorem history_afterCalls (calls : List StoreCall)
    (hroom : ((created {} calls).length : Int) < Int64.maxValue.toInt) :
    History calls (({} : AccountStore).afterCalls calls) := by
  have hkeyed : (({} : AccountStore).afterCalls calls).Keyed := keyed_afterCalls .empty calls
  refine ⟨hkeyed, ?_, ?_, ?_, ?_, ?_, fun _ _ => carryOut_eq_error_iff,
    fun _ _ => carryOut_of_error⟩
  · intro k a k' a' ha ha' hsame
    rw [hkeyed k a ha, hkeyed k' a' ha'] at hsame
    subst hsame
    exact ⟨rfl, Option.some.inj (ha.symm.trans ha')⟩
  · rw [(counts_afterCalls calls).2]
    exact Nat.zero_add _
  · have hids := congrArg (List.map Int64.toInt) (ids_created calls (s := {}) (n := 1) rfl)
    rw [List.map_map, List.map_map] at hids
    refine hids.trans (List.map_congr_left fun n hn => ?_)
    have hlast := (List.mem_range'_1.mp hn).2
    have hmax : Int64.maxValue.toInt = 9223372036854775807 := by decide
    exact Int64.toInt_ofNat_of_lt (by omega)
  · intro e a
    have hnobody : ∀ old, ({} : AccountStore).find? e ≠ some old := fun _ h => by cases h
    rw [find?_afterCalls_iff .empty]
    simp only [hnobody, false_and, exists_false, false_or, created?_afterCalls_iff]
    constructor
    · rintro ⟨before, _, later, _, hsplit, ⟨new, rfl, rfl, hok⟩, hkey, ha⟩
      exact ⟨before, new, later, hsplit, hok, hkey, ha⟩
    · rintro ⟨before, new, later, hsplit, hok, hkey, ha⟩
      exact ⟨before, _, later, _, hsplit, ⟨new, rfl, rfl, hok⟩, hkey, ha⟩
  · rintro first later rfl e a ha
    refine ⟨a.updated later, ?_, rfl, rfl, rfl⟩
    rw [afterCalls_append, find?_afterCalls_iff (keyed_afterCalls .empty first)]
    exact Or.inl ⟨a, ha, rfl⟩

/-- Ann and Bob register, and somebody else tries Ann's address in another spelling. Ann gets
another password through yet another one, and Bob is promoted. -/
def sampleCalls : List StoreCall :=
  [.create ⟨"Ann", "Ann@X.io", "first"⟩, .create ⟨"Eve", " ann@x.IO", "eve"⟩,
    .create ⟨"Bob", "b@x.io", "bob"⟩, .updatePassword "ANN@x.io " "second", .setAdmin "b@x.io" true]

/-- Ann and Bob have the numbers one and two, and Ann's account has her second password. -/
theorem history_afterCalls_sample :
    ((created {} sampleCalls).length : Int) < Int64.maxValue.toInt ∧
      (created {} sampleCalls).map (fun a => a.id.toInt) = [1, 2] ∧
        (({} : AccountStore).afterCalls sampleCalls).find? "ann@x.io" =
          some ⟨1, "Ann", "Ann@X.io", "second", false⟩ := by
  have hcreated : (created {} sampleCalls).length = 2 := by decide +kernel
  have hroom : ((created {} sampleCalls).length : Int) < Int64.maxValue.toInt := by
    rw [hcreated]
    decide
  have hhistory := history_afterCalls sampleCalls hroom
  refine ⟨hroom, ?_, ?_⟩
  · rw [hhistory.numbered, hcreated]
    rfl
  · exact (hhistory.found _ _).mpr
      ⟨[], ⟨"Ann", "Ann@X.io", "first"⟩, _, rfl, rfl, by decide +kernel, by decide +kernel⟩

end AccountStore
end AccountAccess
