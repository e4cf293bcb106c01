import AccountAccess.Proofs.Reset.Issued
import AccountAccess.Proofs.Service.Pool
import Mathlib.Data.List.Induction

/-!
Attempts to reset a password with one credential, under way together.

* `PasswordReset.Spent` and `PasswordReset.Admitted` speak of the order of the turns alone: the
  record is gone once an attempt that is acceptable has made all its three calls, and an attempt is
  admitted if it is acceptable and makes its first call before.
* `PasswordReset.together`: the attempts over the collaborators in memory.
* `PasswordReset.Progress`: how far each attempt has come. `PasswordReset.Progress.concat` keeps it
  at a turn, and `PasswordReset.progress_turns` says so of any order.
* `PasswordReset.ended_ok_iff` and `PasswordReset.mem_replacedBy_iff`: which attempts succeed, and
  which of them change the password.
* `PasswordReset.singleUse_iff`: the credential is used once exactly if no two admitted attempts
  make their second call. Since nothing keeps a second attempt from beginning before the first one
  takes the record out, it is not used once in every order (`PasswordReset.not_singleUse_sample`).
-/

namespace AccountAccess.PasswordReset

/-! ### The order of the turns -/

section

variable {ι : Type} [DecidableEq ι] {acceptable : ι → Prop} {order : List ι} {i k : ι}

/-- An acceptable attempt has made all its three calls. -/
def Spent (acceptable : ι → Prop) (order : List ι) : Prop :=
  ∃ i, acceptable i ∧ 3 ≤ order.count i

/-- The turns in front of an attempt's first one. -/
def turnsAhead (order : List ι) (i : ι) : List ι := order.takeWhile (· ≠ i)

/-- An acceptable attempt makes its first call before the record is gone. -/
def Admitted (acceptable : ι → Prop) (order : List ι) (i : ι) : Prop :=
  i ∈ order ∧ acceptable i ∧ ¬ Spent acceptable (turnsAhead order i)

/-- Nothing gets in front of the first turn any more. -/
lemma turnsAhead_concat_of_mem (hmem : i ∈ order) :
    turnsAhead (order ++ [k]) i = turnsAhead order i := by
  obtain ⟨first, later, rfl, hfirst⟩ := List.eq_append_cons_of_mem hmem
  have hahead : ∀ j ∈ first, decide (j ≠ i) = true :=
    fun j hj => decide_eq_true fun hji => hfirst (hji ▸ hj)
  rw [turnsAhead, turnsAhead, List.append_assoc, List.takeWhile_append_of_pos hahead,
    List.takeWhile_append_of_pos hahead]
  simp

/-- Whoever begins has all turns so far in front. -/
lemma turnsAhead_concat_self (hnew : k ∉ order) : turnsAhead (order ++ [k]) k = order := by
  have hahead : ∀ j ∈ order, decide (j ≠ k) = true :=
    fun j hj => decide_eq_true fun hjk => hnew (hjk ▸ hj)
  rw [turnsAhead, List.takeWhile_append_of_pos hahead]
  simp

/-- What is spent stays so. -/
lemma Spent.of_prefix {first : List ι} (h : Spent acceptable first) (hpart : first <+: order) :
    Spent acceptable order := by
  obtain ⟨i, hi, hcount⟩ := h
  exact ⟨i, hi, Nat.le_trans hcount (hpart.sublist.count_le i)⟩

/-- Whoever is not admitted came when all was spent. -/
lemma spent_of_not_admitted (hmem : i ∈ order) (hi : acceptable i)
    (hnot : ¬ Admitted acceptable order i) : Spent acceptable order := by
  by_contra hfresh
  exact hnot ⟨hmem, hi, fun hspent => hfresh (hspent.of_prefix (List.takeWhile_prefix _))⟩

/-- Whoever has begun is admitted or not, whatever comes later. -/
lemma admitted_concat_of_mem (hmem : i ∈ order) :
    Admitted acceptable (order ++ [k]) i ↔ Admitted acceptable order i := by
  rw [Admitted, Admitted, turnsAhead_concat_of_mem hmem]
  simp [hmem]

/-- Whoever begins is admitted if it is acceptable and nothing is spent. -/
lemma admitted_concat_self (hnew : k ∉ order) :
    Admitted acceptable (order ++ [k]) k ↔ acceptable k ∧ ¬ Spent acceptable order := by
  rw [Admitted, turnsAhead_concat_self hnew]
  simp

/-- A turn of another attempt makes no difference to who is admitted. -/
lemma admitted_concat_of_ne (hne : i ≠ k) :
    Admitted acceptable (order ++ [k]) i ↔ Admitted acceptable order i := by
  by_cases hmem : i ∈ order
  · exact admitted_concat_of_mem hmem
  · have hneither : i ∉ order ++ [k] := by simp [hmem, hne]
    exact iff_of_false (fun h => hneither h.1) fun h => hmem h.1

/-- A turn of another attempt is not counted. -/
lemma count_concat_of_ne (hne : i ≠ k) : (order ++ [k]).count i = order.count i := by
  rw [List.count_append, List.count_singleton, if_neg (by simpa using hne.symm), Nat.add_zero]

/-- A turn is counted. -/
lemma count_concat_self : (order ++ [k]).count k = order.count k + 1 := by
  rw [List.count_append, List.count_singleton_self]

/-- All is spent if it was before, or by the third call of an admitted attempt. -/
lemma spent_concat_iff :
    Spent acceptable (order ++ [k]) ↔
      Spent acceptable order ∨ (Admitted acceptable order k ∧ order.count k = 2) := by
  constructor
  · rintro ⟨i, hi, hcount⟩
    by_cases hspent : Spent acceptable order
    · exact Or.inl hspent
    · right
      have hbefore : ¬ 3 ≤ order.count i := fun h => hspent ⟨i, hi, h⟩
      obtain rfl : i = k := by
        by_contra hne
        exact hbefore (count_concat_of_ne hne ▸ hcount)
      rw [count_concat_self] at hcount
      have htwo : order.count i = 2 := by omega
      refine ⟨?_, htwo⟩
      by_contra hnot
      exact hspent (spent_of_not_admitted (List.count_pos_iff.mp (by omega)) hi hnot)
  · rintro (hspent | ⟨⟨-, hk, -⟩, htwo⟩)
    · exact hspent.of_prefix (List.prefix_append _ _)
    · exact ⟨k, hk, by rw [count_concat_self, htwo]⟩

end

/-! ### Attempts -/

/-- What is presented with a credential, the salt that is drawn, and what the clock shows when the
credential is checked. -/
structure Attempt where
  password : String
  salt : Bytes
  clock : Reading

section

variable {ι : Type} (codec : Codec) (hasher : PasswordHasher) (token : String)

/-- Attempts with one credential, of which none has made a call yet. -/
def together (attempts : ι → Attempt) (b : Backend) : Pool ι Unit where
  backend := b
  flows := fun i =>
    consume codec hasher token (attempts i).password (attempts i).salt (attempts i).clock

/-- The credential could be used by an attempt that were alone. -/
def Acceptable (attempts : ι → Attempt) (b : Backend) (i : ι) : Prop :=
  ∃ r, usable? codec b.store token (attempts i).clock = some r

/-- What an attempt has still to do about a record, once it has made some of its calls. -/
def remaining (a : Attempt) (r : ResetRecord) : Nat → Flow Unit
  | 0 => consume codec hasher token a.password a.salt a.clock
  | 1 => do
    Flow.ask (.updatePassword r.email (hasher.hash a.salt a.password))
    Flow.ask (.deleteReset (fingerprint token))
  | 2 => Flow.ask (.deleteReset (fingerprint token))
  | _ => pure ()

/-- An attempt was refused, or it is about to be, since there is no account for its record. -/
def Lost (b : Backend) (a : Attempt) (flow : Flow Unit) : Prop :=
  (∃ f, flow = .refuse f) ∨
    ∃ r, b.store.find? r.email = none ∧ flow = remaining codec hasher token a r 1

/-- How an attempt goes on when it has looked for its record. -/
def onRecord (a : Attempt) : Option ResetRecord → Flow Unit
  | none => .refuse (.notFound "User with provided token not found")
  | some r => do
    let _ ← Flow.ofExcept ((codec.decode token a.clock).mapError CredentialError.toFailure)
    remaining codec hasher token a r 1

end

/-- The attempts that changed the password, the latest first. -/
def replacedBy {ι : Type} (p : Pool ι Unit) : List ι :=
  (p.granted.filter fun call => call.2.kind = .updatePassword).map Prod.fst

/-- At most one attempt succeeds, and the password is changed at most once. -/
def SingleUse {ι : Type} (p : Pool ι Unit) : Prop :=
  (∀ i j, p.flows i = .ended (.ok ()) → p.flows j = .ended (.ok ()) → i = j) ∧
    (replacedBy p).length ≤ 1

/-! ### A turn -/

section

variable {ι : Type} {codec : Codec} {hasher : PasswordHasher} {token : String} {b : Backend}
  {a : Attempt} {r : ResetRecord}

/-- An attempt that could use the record goes on to change the password. -/
lemma onRecord_of_usable (hr : usable? codec b.store token a.clock = some r) :
    onRecord codec hasher token a (b.store.findReset? (fingerprint token)) =
      remaining codec hasher token a r 1 := by
  obtain ⟨hfound, ⟨c, hdecode⟩, -⟩ := usable?_eq_some_iff.mp hr
  rw [hfound, onRecord, hdecode]
  rfl

/-- An attempt that could not use a record is lost. -/
lemma lost_onRecord (hr : ∀ r, usable? codec b.store token a.clock ≠ some r) :
    Lost codec hasher token b a
      (onRecord codec hasher token a (b.store.findReset? (fingerprint token))) := by
  cases hfound : b.store.findReset? (fingerprint token) with
  | none => exact Or.inl ⟨_, rfl⟩
  | some r =>
      rw [onRecord]
      cases hdecode : codec.decode token a.clock with
      | error e => exact Or.inl ⟨_, rfl⟩
      | ok c =>
          refine Or.inr ⟨r, ?_, rfl⟩
          cases haccount : b.store.find? r.email with
          | none => rfl
          | some account =>
              have husable := usable?_eq_some_iff.mpr ⟨hfound, ⟨c, hdecode⟩, account, haccount⟩
              exact absurd husable (hr r)

variable [DecidableEq ι] {p : Pool ι Unit} {k : ι}

/-- The first call of an attempt looks for the record. -/
lemma turn_first
    (hflow : p.flows k = consume codec hasher token a.password a.salt a.clock) :
    p.turn k =
      { p with
        flows := Function.update p.flows k
          (onRecord codec hasher token a (p.backend.store.findReset? (fingerprint token)))
        granted := (k, .findReset (fingerprint token)) :: p.granted } := by
  have hconsume : consume codec hasher token a.password a.salt a.clock =
      Flow.ask (.findReset (fingerprint token)) >>= onRecord codec hasher token a := by
    rw [consume]
    refine congrArg _ (funext fun found => ?_)
    cases found <;> rfl
  exact Pool.turn_of_call (hflow.trans hconsume) rfl

/-- The second call changes the password of the account. -/
lemma turn_second (hflow : p.flows k = remaining codec hasher token a r 1)
    (haccount : (p.backend.store.find? r.email).isSome) :
    p.turn k =
      { backend := { p.backend with
          store := (p.backend.store.updatePassword r.email (hasher.hash a.salt a.password)).2 }
        flows := Function.update p.flows k (remaining codec hasher token a r 2)
        granted := (k, .updatePassword r.email (hasher.hash a.salt a.password)) :: p.granted } := by
  obtain ⟨account, hfound⟩ := Option.isSome_iff_exists.mp haccount
  have hdone : (p.backend.store.updatePassword r.email
      (hasher.hash a.salt a.password)).1 = .ok () := by
    rw [AccountStore.updatePassword, AccountStore.change_of_some hfound]
  have hanswer : p.backend.answer (.updatePassword r.email (hasher.hash a.salt a.password)) =
      (.value (), { p.backend with
        store := (p.backend.store.updatePassword r.email (hasher.hash a.salt a.password)).2 }) := by
    show (Backend.reply (p.backend.store.updatePassword _ _).1, _) = _
    rw [hdone]
    rfl
  exact Pool.turn_of_call hflow hanswer

/-- Without an account it is refused. -/
lemma turn_second_of_none (hflow : p.flows k = remaining codec hasher token a r 1)
    (haccount : p.backend.store.find? r.email = none) :
    p.turn k = { p with
      flows := Function.update p.flows k (.refuse (.notFound "User not registered")) } := by
  have hrefused : p.backend.store.updatePassword r.email (hasher.hash a.salt a.password) =
      (.error (.notFound "User not registered"), p.backend.store) := by
    rw [AccountStore.updatePassword, AccountStore.change_of_none haccount]
  have hanswer : p.backend.answer (.updatePassword r.email (hasher.hash a.salt a.password)) =
      (.refused (.notFound "User not registered"), p.backend) := by
    rw [Backend.answer, hrefused]
    rfl
  exact Pool.turn_of_call hflow hanswer

/-- The third call takes the record out. -/
lemma turn_third (hflow : p.flows k = remaining codec hasher token a r 2) :
    p.turn k =
      { backend := { p.backend with
          store := p.backend.store.deleteReset (fingerprint token) }
        flows := Function.update p.flows k (pure ())
        granted := (k, .deleteReset (fingerprint token)) :: p.granted } :=
  Pool.turn_of_call hflow rfl

end

/-! ### Turns in any order -/

section

variable {ι : Type} [DecidableEq ι] {codec : Codec} {hasher : PasswordHasher} {token : String}
  {attempts : ι → Attempt} {b : Backend}

/-- How far the attempts have come after turns, and what has become of the record. -/
structure Progress (codec : Codec) (hasher : PasswordHasher) (token : String)
    (attempts : ι → Attempt) (b : Backend) (order : List ι) (p : Pool ι Unit) : Prop where
  stands : ¬ Spent (Acceptable codec token attempts b) order →
    p.backend.store.findReset? (fingerprint token) = b.store.findReset? (fingerprint token)
  gone : Spent (Acceptable codec token attempts b) order →
    p.backend.store.findReset? (fingerprint token) = none
  accounts : ∀ email, (p.backend.store.find? email).isSome = (b.store.find? email).isSome
  waiting : ∀ i, i ∉ order →
    p.flows i =
      consume codec hasher token (attempts i).password (attempts i).salt (attempts i).clock
  admitted : ∀ i, Admitted (Acceptable codec token attempts b) order i →
    ∃ r, usable? codec b.store token (attempts i).clock = some r ∧
      p.flows i = remaining codec hasher token (attempts i) r (order.count i)
  lost : ∀ i, i ∈ order → ¬ Admitted (Acceptable codec token attempts b) order i →
    Lost codec hasher token b (attempts i) (p.flows i)
  replaced : ∀ i, i ∈ replacedBy p ↔
    Admitted (Acceptable codec token attempts b) order i ∧ 2 ≤ order.count i
  once : (replacedBy p).Nodup

namespace Progress

/-- Before the first turn. -/
lemma start :
    Progress codec hasher token attempts b [] (together codec hasher token attempts b) where
  stands := fun _ => rfl
  gone := by
    rintro ⟨i, -, hcount⟩
    simp at hcount
  accounts := fun _ => rfl
  waiting := fun _ _ => rfl
  admitted := fun _ h => by cases h.1
  lost := fun _ h => by cases h
  replaced := fun i => iff_of_false List.not_mem_nil fun h => by cases h.1.1
  once := List.nodup_nil

variable {order : List ι} {p p' : Pool ι Unit} {k : ι}

/-- What is known after turns is known after one more, given what that one does: only the third call
of an admitted attempt takes the record out, and only its second call changes the password. -/
lemma concat (h : Progress codec hasher token attempts b order p)
    (hothers : ∀ i, i ≠ k → p'.flows i = p.flows i)
    (haccounts : ∀ email,
      (p'.backend.store.find? email).isSome = (p.backend.store.find? email).isSome)
    (hrecord : p'.backend.store.findReset? (fingerprint token) =
      p.backend.store.findReset? (fingerprint token) ∧
        ¬ (Admitted (Acceptable codec token attempts b) order k ∧ order.count k = 2) ∨
      p'.backend.store.findReset? (fingerprint token) = none ∧
        Admitted (Acceptable codec token attempts b) order k ∧ order.count k = 2)
    (hadmitted : Admitted (Acceptable codec token attempts b) (order ++ [k]) k →
      ∃ r, usable? codec b.store token (attempts k).clock = some r ∧
        p'.flows k = remaining codec hasher token (attempts k) r (order.count k + 1))
    (hlost : ¬ Admitted (Acceptable codec token attempts b) (order ++ [k]) k →
      Lost codec hasher token b (attempts k) (p'.flows k))
    (hreplaced : replacedBy p' = replacedBy p ∧
        ¬ (Admitted (Acceptable codec token attempts b) order k ∧ order.count k = 1) ∨
      replacedBy p' = k :: replacedBy p ∧
        Admitted (Acceptable codec token attempts b) order k ∧ order.count k = 1) :
    Progress codec hasher token attempts b (order ++ [k]) p' where
  stands := by
    intro hfresh
    rw [spent_concat_iff, not_or] at hfresh
    rcases hrecord with ⟨hsame, -⟩ | ⟨-, hthird⟩
    · exact hsame.trans (h.stands hfresh.1)
    · exact absurd hthird hfresh.2
  gone := by
    intro hspent
    rcases hrecord with ⟨hsame, hnot⟩ | ⟨hnone, -⟩
    · exact hsame.trans (h.gone ((spent_concat_iff.mp hspent).resolve_right hnot))
    · exact hnone
  accounts := fun email => (haccounts email).trans (h.accounts email)
  waiting := by
    intro i hi
    rw [List.mem_append, List.mem_singleton, not_or] at hi
    rw [hothers i hi.2]
    exact h.waiting i hi.1
  admitted := by
    intro i hi
    by_cases hne : i = k
    · subst hne
      rw [count_concat_self]
      exact hadmitted hi
    · rw [hothers i hne, count_concat_of_ne hne]
      exact h.admitted i ((admitted_concat_of_ne hne).mp hi)
  lost := by
    intro i hmem hi
    by_cases hne : i = k
    · subst hne
      exact hlost hi
    · rw [hothers i hne]
      have hbefore : i ∈ order := by simpa [hne] using hmem
      exact h.lost i hbefore fun hin => hi ((admitted_concat_of_ne hne).mpr hin)
  replaced := by
    intro i
    by_cases hne : i = k
    · subst hne
      rw [count_concat_self]
      rcases hreplaced with ⟨hsame, hnot⟩ | ⟨hmore, hin, hone⟩
      · rw [hsame, h.replaced]
        by_cases hmem : i ∈ order
        · rw [admitted_concat_of_mem hmem]
          refine and_congr_right fun hin => ?_
          have hcount : order.count i ≠ 1 := fun hone => hnot ⟨hin, hone⟩
          have hpos : 0 < order.count i := List.count_pos_iff.mpr hmem
          omega
        · rw [List.count_eq_zero.mpr hmem]
          simp
      · rw [hmore, hone, admitted_concat_of_mem hin.1]
        simp [hin]
    · rw [admitted_concat_of_ne hne, count_concat_of_ne hne, ← h.replaced]
      rcases hreplaced with ⟨hsame, -⟩ | ⟨hmore, -⟩
      · rw [hsame]
      · rw [hmore, List.mem_cons, or_iff_right hne]
  once := by
    rcases hreplaced with ⟨hsame, -⟩ | ⟨hmore, -, hone⟩
    · rw [hsame]
      exact h.once
    · rw [hmore]
      refine List.nodup_cons.mpr ⟨fun hin => ?_, h.once⟩
      have htwo := ((h.replaced k).mp hin).2
      omega

/-- An attempt begins. -/
lemma turn_of_new (h : Progress codec hasher token attempts b order p) (hnew : k ∉ order) :
    Progress codec hasher token attempts b (order ++ [k]) (p.turn k) := by
  have hnone : order.count k = 0 := List.count_eq_zero.mpr hnew
  have hturn := turn_first (a := attempts k) (h.waiting k hnew)
  have hflow : (p.turn k).flows k = onRecord codec hasher token (attempts k)
      (p.backend.store.findReset? (fingerprint token)) := by
    rw [hturn]
    exact Function.update_self k _ _
  refine h.concat (fun i hne => Pool.flows_turn_of_ne hne) ?_ (Or.inl ⟨?_, by omega⟩) ?_ ?_
    (Or.inl ⟨?_, by omega⟩)
  · rw [hturn]
    exact fun _ => rfl
  · rw [hturn]
  · intro hin
    obtain ⟨⟨r, hr⟩, hfresh⟩ := (admitted_concat_self hnew).mp hin
    refine ⟨r, hr, ?_⟩
    rw [hflow, h.stands hfresh, hnone]
    exact onRecord_of_usable hr
  · intro hnot
    rw [hflow]
    by_cases hspent : Spent (Acceptable codec token attempts b) order
    · rw [h.gone hspent]
      exact Or.inl ⟨_, rfl⟩
    · rw [h.stands hspent]
      refine lost_onRecord fun r hr => hnot ?_
      exact (admitted_concat_self hnew).mpr ⟨⟨r, hr⟩, hspent⟩
  · rw [hturn]
    rfl

/-- A lost attempt changes nothing any more. -/
lemma turn_of_lost (h : Progress codec hasher token attempts b order p) (hmem : k ∈ order)
    (hnot : ¬ Admitted (Acceptable codec token attempts b) order k) :
    Progress codec hasher token attempts b (order ++ [k]) (p.turn k) := by
  have hnever : ¬ Admitted (Acceptable codec token attempts b) (order ++ [k]) k := by
    rwa [admitted_concat_of_mem hmem]
  have hturn : (p.turn k).backend = p.backend ∧ (p.turn k).granted = p.granted ∧
      ∃ f, (p.turn k).flows k = .refuse f := by
    rcases h.lost k hmem hnot with ⟨f, hflow⟩ | ⟨r, haccount, hflow⟩
    · rw [Pool.turn_of_ended hflow]
      exact ⟨rfl, rfl, f, hflow⟩
    · have hnone : p.backend.store.find? r.email = none := by
        rw [← Option.not_isSome_iff_eq_none, h.accounts, haccount]
        exact Bool.false_ne_true
      rw [turn_second_of_none hflow hnone]
      exact ⟨rfl, rfl, _, Function.update_self k _ _⟩
  obtain ⟨hbackend, hgranted, hrefused⟩ := hturn
  refine h.concat (fun i hne => Pool.flows_turn_of_ne hne) (fun email => by rw [hbackend])
    (Or.inl ⟨by rw [hbackend], fun hin => hnot hin.1⟩) (fun hin => absurd hin hnever)
    (fun _ => Or.inl hrefused) (Or.inl ⟨?_, fun hin => hnot hin.1⟩)
  rw [replacedBy, hgranted, replacedBy]

/-- An admitted attempt goes on. -/
lemma turn_of_admitted (h : Progress codec hasher token attempts b order p)
    (hin : Admitted (Acceptable codec token attempts b) order k) :
    Progress codec hasher token attempts b (order ++ [k]) (p.turn k) := by
  obtain ⟨r, hr, hflow⟩ := h.admitted k hin
  have hstill : Admitted (Acceptable codec token attempts b) (order ++ [k]) k :=
    (admitted_concat_of_mem hin.1).mpr hin
  have hpos : 0 < order.count k := List.count_pos_iff.mpr hin.1
  obtain hone | htwo | ⟨n, hmore⟩ : order.count k = 1 ∨ order.count k = 2 ∨
      ∃ n, order.count k = n + 3 := by
    rcases Nat.lt_or_ge (order.count k) 3 with hless | hmore
    · omega
    · exact Or.inr (Or.inr ⟨order.count k - 3, by omega⟩)
  · -- the second call
    have haccount : (p.backend.store.find? r.email).isSome := by
      obtain ⟨-, -, account, hfound⟩ := usable?_eq_some_iff.mp hr
      rw [h.accounts, hfound]
      rfl
    have hturn := turn_second (hone ▸ hflow) haccount
    refine h.concat (fun i hne => Pool.flows_turn_of_ne hne) ?_ (Or.inl ⟨?_, by omega⟩) ?_
      (fun hnot => absurd hstill hnot) (Or.inr ⟨?_, hin, hone⟩)
    · intro email
      rw [hturn]
      dsimp only
      rw [AccountStore.updatePassword, AccountStore.find?_change]
      split_ifs
      · exact Option.isSome_map
      · rfl
    · rw [hturn]
      show (p.backend.store.updatePassword _ _).2.resets.get? _ = _
      rw [AccountStore.updatePassword, AccountStore.resets_change]
      rfl
    · refine fun _ => ⟨r, hr, ?_⟩
      rw [hturn, hone]
      exact Function.update_self k _ _
    · rw [hturn]
      rfl
  · -- the third call
    have hturn := turn_third (htwo ▸ hflow)
    refine h.concat (fun i hne => Pool.flows_turn_of_ne hne) ?_ (Or.inr ⟨?_, hin, htwo⟩) ?_
      (fun hnot => absurd hstill hnot) (Or.inl ⟨?_, by omega⟩)
    · rw [hturn]
      exact fun _ => rfl
    · rw [hturn]
      exact (AccountStore.findReset?_deleteReset _ _ _).trans (if_pos rfl)
    · refine fun _ => ⟨r, hr, ?_⟩
      rw [hturn, htwo]
      exact Function.update_self k _ _
    · rw [hturn]
      rfl
  · -- all calls are made
    rw [hmore] at hflow
    have hturn : p.turn k = p := Pool.turn_of_ended hflow
    rw [hturn]
    refine h.concat (fun _ _ => rfl) (fun _ => rfl) (Or.inl ⟨rfl, by omega⟩) ?_
      (fun hnot => absurd hstill hnot) (Or.inl ⟨rfl, by omega⟩)
    refine fun _ => ⟨r, hr, ?_⟩
    rw [hflow, hmore]
    rfl

/-- A turn. -/
lemma turn (h : Progress codec hasher token attempts b order p) (k : ι) :
    Progress codec hasher token attempts b (order ++ [k]) (p.turn k) := by
  by_cases hmem : k ∈ order
  · by_cases hin : Admitted (Acceptable codec token attempts b) order k
    · exact h.turn_of_admitted hin
    · exact h.turn_of_lost hmem hin
  · exact h.turn_of_new hmem

end Progress

/-- How far the attempts have come after turns in any order. -/
theorem progress_turns (order : List ι) :
    Progress codec hasher token attempts b order
      ((together codec hasher token attempts b).turns order) := by
  induction order using List.reverseRecOn with
  | nil => exact .start
  | append_singleton order k ih =>
      rw [Pool.turns_concat]
      exact ih.turn k

/-! ### Which attempts succeed -/

/-- Exactly the admitted attempts succeed, once they have made their three calls. -/
theorem ended_ok_iff {order : List ι} {i : ι} :
    ((together codec hasher token attempts b).turns order).flows i = .ended (.ok ()) ↔
      Admitted (Acceptable codec token attempts b) order i ∧ 3 ≤ order.count i := by
  have h : Progress codec hasher token attempts b order
      ((together codec hasher token attempts b).turns order) := progress_turns order
  constructor
  · intro hok
    by_cases hmem : i ∈ order
    · by_cases hin : Admitted (Acceptable codec token attempts b) order i
      · refine ⟨hin, ?_⟩
        obtain ⟨r, -, hflow⟩ := h.admitted i hin
        rw [hok] at hflow
        have hpos : 0 < order.count i := List.count_pos_iff.mpr hmem
        by_contra hless
        obtain hone | htwo : order.count i = 1 ∨ order.count i = 2 := by omega
        · rw [hone] at hflow
          cases hflow
        · rw [htwo] at hflow
          cases hflow
      · rcases h.lost i hmem hin with ⟨f, hflow⟩ | ⟨r, -, hflow⟩
        · rw [hok] at hflow
          cases hflow
        · rw [hok] at hflow
          cases hflow
    · rw [h.waiting i hmem] at hok
      cases hok
  · rintro ⟨hin, hcount⟩
    obtain ⟨r, -, hflow⟩ := h.admitted i hin
    obtain ⟨n, hn⟩ := Nat.exists_eq_add_of_le' hcount
    rw [hflow, hn]
    rfl

/-- Exactly the admitted attempts change the password, with their second call. -/
theorem mem_replacedBy_iff {order : List ι} {i : ι} :
    i ∈ replacedBy ((together codec hasher token attempts b).turns order) ↔
      Admitted (Acceptable codec token attempts b) order i ∧ 2 ≤ order.count i :=
  (progress_turns order).replaced i

omit [DecidableEq ι] in
/-- A list without repetitions has at most one member if all its members are the same. -/
lemma length_le_one_iff_of_nodup {l : List ι} (h : l.Nodup) :
    l.length ≤ 1 ↔ ∀ i ∈ l, ∀ j ∈ l, i = j := by
  match l with
  | [] => simp
  | [a] => simp
  | a :: b :: rest =>
    have hne : a ≠ b := fun hab => (List.nodup_cons.mp h).1 (hab ▸ List.mem_cons_self)
    refine iff_of_false (by simp) fun hall => hne ?_
    exact hall a List.mem_cons_self b (List.mem_cons_of_mem _ List.mem_cons_self)

/-- **When a credential is used once.** Whatever the order of the calls, at most one attempt
succeeds and the password is changed at most once exactly if no two attempts make their second call
that both looked for the record before it was gone. -/
theorem singleUse_iff {order : List ι} :
    SingleUse ((together codec hasher token attempts b).turns order) ↔
      ∀ i j, Admitted (Acceptable codec token attempts b) order i →
        Admitted (Acceptable codec token attempts b) order j →
          2 ≤ order.count i → 2 ≤ order.count j → i = j := by
  have honce : (replacedBy ((together codec hasher token attempts b).turns order)).Nodup :=
    (progress_turns order).once
  rw [SingleUse, length_le_one_iff_of_nodup honce]
  simp only [mem_replacedBy_iff, ended_ok_iff]
  constructor
  · rintro ⟨-, hone⟩ i j hi hj hitwo hjtwo
    exact hone i ⟨hi, hitwo⟩ j ⟨hj, hjtwo⟩
  · intro hone
    refine ⟨?_, ?_⟩
    · rintro i j ⟨hi, hithree⟩ ⟨hj, hjthree⟩
      exact hone i j hi hj (by omega) (by omega)
    · rintro i ⟨hi, hitwo⟩ j ⟨hj, hjtwo⟩
      exact hone i j hi hj hitwo hjtwo

/-- Ana's credential is presented twice at noon, with two new passwords. -/
def sampleAttempts (i : Fin 2) : Attempt where
  password := if i = 0 then "second" else "third"
  salt := []
  clock := .ofSecond 1709294400

/-- If the two take turns, it is not used once. -/
theorem not_singleUse_sample :
    ¬ SingleUse ((together Service.sample.codec Service.sample.hasher World.sampleReset.token
      sampleAttempts (World.after .sample (World.fresh 1709294400) World.sampleRun).backend).turns
        [0, 1, 0, 1, 0, 1]) := by
  -- no attempt has made three calls when one begins
  have hfresh : ∀ i j : Fin 2, i ∈ [0, 1, 0, 1, 0, 1] ∧
      ¬ 3 ≤ (turnsAhead [0, 1, 0, 1, 0, 1] i).count j := by
    decide
  have hadmitted : ∀ i, Admitted (Acceptable Service.sample.codec World.sampleReset.token
      sampleAttempts (World.after .sample (World.fresh 1709294400) World.sampleRun).backend)
        [0, 1, 0, 1, 0, 1] i := by
    refine fun i => ⟨(hfresh i 0).1, ⟨World.sampleReset.record, World.usable?_sampleRun⟩, ?_⟩
    rintro ⟨j, -, hcount⟩
    exact (hfresh i j).2 hcount
  intro huse
  have hsame := singleUse_iff.mp huse 0 1 (hadmitted 0) (hadmitted 1) (by decide) (by decide)
  exact absurd hsame (by decide)

end
end AccountAccess.PasswordReset
