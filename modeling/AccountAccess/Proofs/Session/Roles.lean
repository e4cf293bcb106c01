import AccountAccess.Proofs.Account.Numbering
import AccountAccess.Proofs.Password.RoundTrip
import AccountAccess.Proofs.Session.Issued

/-!
The role that a session carries.

* `emailKey_eq_of_lower_eq`: addresses that agree up to the case of ASCII letters have the same key,
  blanks or no blanks.
* `Administrator.Names` and `Account.role_eq_admin_iff_names`: an account is an administrator's if
  the store has promoted it or an entry of the allow-list names it.
* `World.SignsIn`, `World.exists_account_of_signsIn`: a registration or a login hands out a session
  for an account that is found right then.
* `World.step_verify_issue`: a token says the same whenever it is accepted.
* `World.eq_of_names`: on a run an entry of the allow-list names no two accounts.
* `World.role_carried`: the role is settled when the session is handed out.
-/

namespace AccountAccess

/-! ### Addresses up to the case of letters -/

/-- No blank stands between the space and the first one beyond ASCII. -/
lemma Text.isBlank_eq_false {c : Char} (hlow : 0x20 < c.toNat) (hhigh : c.toNat < 0x85) :
    isBlank c = false := by
  simp only [isBlank, Bool.or_eq_false_iff, Bool.and_eq_false_iff, decide_eq_false_iff_not,
    beq_eq_false_iff_ne]
  omega

/-- The case of a letter does not make it a blank. -/
lemma Text.isBlank_toLower (c : Char) : isBlank c.toLower = isBlank c := by
  unfold Char.toLower
  split
  · rename_i h
    obtain ⟨hfrom, hto⟩ := h
    have hlow : 65 ≤ c.toNat := UInt32.le_iff_toNat_le.mp hfrom
    have hhigh : c.toNat ≤ 90 := UInt32.le_iff_toNat_le.mp hto
    have hlower : (c.val + ('a'.val - 'A'.val)).toNat = c.toNat + 32 := by
      rw [UInt32.toNat_add]
      show (c.toNat + 32) % 2 ^ 32 = c.toNat + 32
      exact Nat.mod_eq_of_lt (by omega)
    rw [isBlank_eq_false (c := c) (by omega) (by omega)]
    refine isBlank_eq_false ?_ ?_
    · show 0x20 < (c.val + ('a'.val - 'A'.val)).toNat
      omega
    · show (c.val + ('a'.val - 'A'.val)).toNat < 0x85
      omega
  · rfl

/-- Trimming and lowering letters may be done in either order. -/
lemma Ascii.lower_trim (s : String) : lower (Text.trim s) = Text.trim (lower s) := by
  have hblank : Text.isBlank ∘ Char.toLower = Text.isBlank := funext Text.isBlank_toLower
  simp only [lower, Text.trim, Text.trimEnd, Text.trimStart, String.toList_ofList,
    List.dropWhile_map, ← List.map_reverse, hblank]

/-- Addresses that agree up to the case of ASCII letters belong to the same account. -/
lemma emailKey_eq_of_lower_eq {a b : String} (h : Ascii.lower a = Ascii.lower b) :
    emailKey a = emailKey b := by
  rw [emailKey, emailKey, Ascii.lower_trim, Ascii.lower_trim, h]

/-! ### The allow-list -/

/-- An entry of the allow-list names an account: the name agrees exactly, and the address up to the
case of ASCII letters. -/
def Administrator.Names (entry : Administrator) (a : Account) : Prop :=
  entry.fullName = a.fullName ∧ Ascii.lower entry.email = Ascii.lower a.email

/-- Who is an administrator, and through what. -/
lemma Account.role_eq_admin_iff_names {a : Account} {c : AccessConfig} :
    a.role c = .admin ↔ a.isAdmin = true ∨ ∃ entry ∈ c.administrators, entry.Names a := by
  rw [role_eq_admin_iff, AccessConfig.isAdministrator, List.any_eq_true]
  simp only [Bool.and_eq_true, beq_iff_eq, Ascii.sameIgnoringCase_iff, Administrator.Names]

/-! ### Sessions that are handed out -/

namespace World

variable {service : Service} {w : World}

/-- Somebody registers or logs in, and is handed a session with an identifier. -/
def SignsIn (service : Service) (w : World) (operation : Operation) (id : String)
    (s : OpenSession) : Prop :=
  match operation with
  | .register fullName email password salt id' =>
    id' = id ∧ (step service w (.register fullName email password salt id')).1 = .ok s
  | .login email password id' =>
    id' = id ∧ (step service w (.login email password id')).1 = .ok s
  | _ => False

/-- A token with an identifier is accepted as a session: it is read within its window, and the
identifier is not entered in the ledger. -/
def Accepts (service : Service) (w : World) (token id : String) : Prop :=
  (∃ c, service.codec.decode token w.reading = .ok c) ∧ w.backend.ledger.isRevoked id = false

section

variable (h : Fault.OnlyMail w.faults)
include h

/-- A session is handed out for an account that is found right then by the address in it. -/
lemma exists_account_of_signsIn {operation : Operation} {id : String} {s : OpenSession}
    (hkeyed : w.backend.store.Keyed) (hs : SignsIn service w operation id s) :
    ∃ account, s = service.openSession account id w.reading ∧
      (step service w operation).2.backend.store.find? account.email = some account := by
  have hafter : (step service w operation).2.backend.store.Keyed :=
    (accounted_step h operation).keyed hkeyed
  cases operation with
  | register fullName email password salt id' =>
      obtain ⟨rfl, hok⟩ := hs
      obtain ⟨account, heq, hfound⟩ := exists_openSession_of_register h hok
      exact ⟨account, heq, hafter.find?_email hfound⟩
  | login email password id' =>
      obtain ⟨rfl, hok⟩ := hs
      obtain ⟨account, heq, hfound⟩ := exists_openSession_of_login h hok
      rw [step_login_snd h] at hafter ⊢
      exact ⟨account, heq, hafter.find?_email hfound⟩
  | _ => cases hs

/-- A session's token speaks for whom it was issued, with the role that it was issued with, whenever
it is accepted; otherwise it speaks for nobody. -/
lemma step_verify_issue {userId : Int64} {role : Role} {id : String} {clock : Reading}
    {token : String} (htoken : token = Session.issue service.codec userId role id clock) :
    (Accepts service w token id →
        (step service w (.verify token)).1 = .ok (some ⟨userId, role⟩)) ∧
      (¬ Accepts service w token id → (step service w (.verify token)).1 = .ok none) := by
  rw [step_verify h]
  cases hdecode : service.codec.decode token w.reading with
  | error e =>
      refine ⟨?_, fun _ => rfl⟩
      rintro ⟨⟨c, hc⟩, -⟩
      rw [hdecode] at hc
      cases hc
  | ok c =>
      have hclaims : c = service.codec.issue userId role (some id) clock.now
          Claims.sessionLifetime := by
        rw [htoken] at hdecode
        exact Codec.eq_of_read_encode (Codec.decodeAt_eq_ok_iff.mp hdecode).1
      have hspeaks : (c.id.bind fun id =>
          if w.backend.ledger.isRevoked id then none else some (Identity.mk c.userId c.role)) =
            if w.backend.ledger.isRevoked id then none else some ⟨userId, role⟩ := by
        rw [hclaims]
        rfl
      dsimp only
      rw [hspeaks]
      constructor
      · rintro ⟨-, hopen⟩
        rw [hopen]
        rfl
      · intro hnot
        cases hrevoked : w.backend.ledger.isRevoked id with
        | true => rfl
        | false => exact absurd ⟨⟨c, hdecode⟩, hrevoked⟩ hnot

end

/-! ### Runs -/

section

variable {start : Int64} {operations : List Operation}
  (hmail : ∀ op ∈ operations, op.DisturbsOnlyMail)
include hmail

/-- An account that an entry names is the only one that it names from then on. -/
lemma eq_of_names_later {first rest : List Operation} (hsplit : operations = first ++ rest)
    {entry : Administrator} {a a' : Account} {email email' : String}
    (ha : (after service (fresh start) first).backend.store.find? email = some a)
    (ha' : (after service (fresh start) operations).backend.store.find? email' = some a')
    (hnames : entry.Names a) (hnames' : entry.Names a') :
    a'.id = a.id ∧ a'.email = a.email := by
  subst hsplit
  have hbefore : ∀ op ∈ first, op.DisturbsOnlyMail :=
    fun op hop => hmail op (List.mem_append_left _ hop)
  have hkeyed : (after service (fresh start) first).backend.store.Keyed :=
    keyed_after Fault.onlyMail_empty hbefore .empty
  have hkeyed' : (after service (fresh start) (first ++ rest)).backend.store.Keyed :=
    keyed_after Fault.onlyMail_empty hmail .empty
  -- the account is found on by its own address, whose key is that of the other one
  obtain ⟨found, hfound, hid, hemail⟩ : (after service (fresh start)
      (first ++ rest)).backend.store.Finds a.email a := by
    rw [after_append]
    exact finds_after (onlyMail_after Fault.onlyMail_empty hbefore)
      (fun op hop => hmail op (List.mem_append_right _ hop))
      ⟨a, hkeyed.find?_email ha, rfl, rfl⟩
  have hkey : emailKey a.email = emailKey a'.email :=
    emailKey_eq_of_lower_eq (hnames.2.symm.trans hnames'.2)
  have hother := hkeyed'.find?_email ha'
  rw [AccountStore.find?, ← hkey, ← AccountStore.find?, hfound, Option.some.injEq] at hother
  subst hother
  exact ⟨hid, hemail⟩

/-- On a run an entry of the allow-list names no two accounts. -/
lemma eq_of_names {first first' : List Operation} (hfirst : first <+: operations)
    (hfirst' : first' <+: operations) {entry : Administrator} {a a' : Account}
    {email email' : String}
    (ha : (after service (fresh start) first).backend.store.find? email = some a)
    (ha' : (after service (fresh start) first').backend.store.find? email' = some a')
    (hnames : entry.Names a) (hnames' : entry.Names a') :
    a'.id = a.id ∧ a'.email = a.email := by
  have hmailed : ∀ first, first <+: operations → ∀ op ∈ first, op.DisturbsOnlyMail :=
    fun first hpart op hop => hmail op (hpart.subset hop)
  rcases List.prefix_or_prefix_of_prefix hfirst hfirst' with hle | hle
  · obtain ⟨rest, rfl⟩ := hle
    exact eq_of_names_later (hmailed _ hfirst') rfl ha ha' hnames hnames'
  · obtain ⟨rest, rfl⟩ := hle
    obtain ⟨hid, hemail⟩ := eq_of_names_later (hmailed _ hfirst) rfl ha' ha hnames' hnames
    exact ⟨hid.symm, hemail.symm⟩

end

/-- What the sessions of a run say about roles. -/
structure RolesCarried (service : Service) (start : Int64) (operations : List Operation) :
    Prop where
  /-- A session is an administrator's exactly if, when it is handed out, the store has promoted the
  account or an entry of the allow-list names it. -/
  issued : ∀ before operation id s, before ++ [operation] <+: operations →
    SignsIn service (after service (fresh start) before) operation id s →
      ∃ account, (after service (fresh start) (before ++ [operation])).backend.store.find?
          s.email = some account ∧
        s.userId = account.id ∧ s.fullName = account.fullName ∧ s.email = account.email ∧
          (s.role = .admin ↔ account.isAdmin = true ∨
            ∃ entry ∈ service.config.administrators, entry.Names account)
  /-- Its token keeps the role, whatever is done later: for as long as it is accepted it speaks for
  the user with the role of the session, and then for nobody. -/
  verified : ∀ before operation later id s, before ++ operation :: later <+: operations →
    SignsIn service (after service (fresh start) before) operation id s →
      let w := after service (fresh start) (before ++ operation :: later)
      (Accepts service w s.token id →
          (step service w (.verify s.token)).1 = .ok (some ⟨s.userId, s.role⟩)) ∧
        (¬ Accepts service w s.token id → (step service w (.verify s.token)).1 = .ok none)
  /-- No entry of the allow-list ever names two accounts. -/
  single : ∀ entry ∈ service.config.administrators, ∀ first first' email email' a a',
    first <+: operations → first' <+: operations →
      (after service (fresh start) first).backend.store.find? email = some a →
        (after service (fresh start) first').backend.store.find? email' = some a' →
          entry.Names a → entry.Names a' → a'.id = a.id ∧ a'.email = a.email

/-- **The role that a session carries** is settled when the session is handed out. -/
theorem role_carried {start : Int64} {operations : List Operation}
    (hmail : ∀ op ∈ operations, op.DisturbsOnlyMail) : RolesCarried service start operations := by
  -- what is known at each sign-in
  have hsigned : ∀ before operation id s, before ++ [operation] <+: operations →
      SignsIn service (after service (fresh start) before) operation id s →
        ∃ account, s = service.openSession account id (after service (fresh start) before).reading ∧
          (after service (fresh start) (before ++ [operation])).backend.store.find? account.email =
            some account := by
    intro before operation id s hpart hs
    have hbefore : ∀ op ∈ before, op.DisturbsOnlyMail :=
      fun op hop => hmail op (hpart.subset (List.mem_append_left _ hop))
    rw [after_append]
    exact exists_account_of_signsIn (onlyMail_after Fault.onlyMail_empty hbefore)
      (keyed_after Fault.onlyMail_empty hbefore .empty) hs
  refine ⟨?_, ?_, fun _ _ _ _ _ _ _ _ hfirst hfirst' => eq_of_names hmail hfirst hfirst'⟩
  · intro before operation id s hpart hs
    obtain ⟨account, rfl, hfound⟩ := hsigned before operation id s hpart hs
    exact ⟨account, hfound, rfl, rfl, rfl, Account.role_eq_admin_iff_names⟩
  · intro before operation later id s hpart hs
    have hopening : before ++ [operation] <+: operations :=
      (List.prefix_append_right_inj before |>.mpr ⟨later, rfl⟩).trans hpart
    obtain ⟨account, rfl, -⟩ := hsigned before operation id s hopening hs
    exact step_verify_issue
      (onlyMail_after Fault.onlyMail_empty fun op hop => hmail op (hpart.subset hop)) rfl

/-- A service with a coach on its allow-list. -/
def coachService : Service where
  config := { AccessConfig.sample with
    administrators := [⟨"Coach Admin", "coach@fitprofi.app"⟩] }
  hasher := Service.sample.hasher

/-- The coach registers, with another spelling of the address. -/
def coachRegistration : Operation :=
  .register "Coach Admin" "Coach@FitProfi.app" "first-password" (List.replicate 16 0) "first"

/-- The session that the coach gets. -/
def coachSession : OpenSession where
  token := Session.issue coachService.codec 1 .admin "first" (.ofSecond 1709294400)
  userId := 1
  fullName := "Coach Admin"
  email := "Coach@FitProfi.app"
  role := .admin

/-- Then Ana registers, and the store promotes her. -/
def promotions : List Operation :=
  [coachRegistration, .register "Ana" "a@b.co" "first" (List.replicate 16 0) "second",
    .setAdmin "a@b.co" true]

/-- Her account. -/
def promoted : Account where
  id := 2
  fullName := "Ana"
  email := "a@b.co"
  passwordHash := coachService.hasher.hash (List.replicate 16 0) "first"
  isAdmin := true

/-- She logs in. -/
def promotedLogin : Operation := .login "A@b.co" "first" "third"

/-- The session that she gets. -/
def promotedSession : OpenSession where
  token := Session.issue coachService.codec 2 .admin "third" (.ofSecond 1709294400)
  userId := 2
  fullName := "Ana"
  email := "a@b.co"
  role := .admin

/-- The store withdraws her promotion. -/
def promotedRun : List Operation := promotions ++ [promotedLogin, .setAdmin "a@b.co" false]

lemma after_promotedRun :
    after coachService (fresh 1709294400) promotedRun =
      after coachService (fresh 1709294400) (promotions ++ [.setAdmin "a@b.co" false]) := by
  have hfaults : Fault.OnlyMail (after coachService (fresh 1709294400) promotions).faults :=
    Fault.onlyMail_empty
  rw [promotedRun, after_append, after_append, after_cons, promotedLogin, step_login_snd hfaults]

/-- A token is accepted in the second of its issue as long as nothing is entered in the ledger. -/
lemma accepts_issue {w : World} {userId : Int64} {role : Role} {id : String}
    (hclock : w.clock = ⟨1709294400⟩) (hledger : w.backend.ledger = {}) :
    Accepts coachService w
      (Session.issue coachService.codec userId role id (.ofSecond 1709294400)) id := by
  have hdecode : coachService.codec.decode
      (Session.issue coachService.codec userId role id (.ofSecond 1709294400))
      (.ofSecond 1709294400) = .ok (coachService.codec.issue userId role (some id)
        (.ofUnix (1709294400 : Int64).toInt) Claims.sessionLifetime) :=
    (Codec.decode_encode_issue_iff (by decide) Claims.sessionLifetime_nonneg (by decide)
      (Int64.le_refl _)).mpr ⟨rfl, by decide⟩
  rw [Accepts, hledger, reading, hclock]
  exact ⟨⟨_, hdecode⟩, rfl⟩

lemma signsIn_coachRegistration :
    SignsIn coachService (fresh 1709294400) coachRegistration "first" coachSession := by
  refine ⟨rfl, ?_⟩
  rw [step_register Fault.onlyMail_empty]
  rfl

lemma signsIn_promotedLogin :
    SignsIn coachService (after coachService (fresh 1709294400) promotions) promotedLogin "third"
      promotedSession := by
  have hfound : (after coachService (fresh 1709294400) promotions).backend.store.find? "A@b.co" =
      some promoted := rfl
  have hsalt : (List.replicate 16 0 : Bytes).length = PasswordHasher.saltLength := rfl
  have hsession : coachService.openSession promoted "third" (.ofSecond 1709294400) =
      promotedSession := rfl
  exact ⟨rfl, (step_login_of_verify Fault.onlyMail_empty hfound
    (coachService.hasher.verify_hash hsalt "first")).trans (congrArg Outcome.ok hsession)⟩

/-- Nothing is entered in the ledger, and neither of them is promoted in the end. -/
lemma after_promotedRun_spec :
    (after coachService (fresh 1709294400) promotedRun).clock = ⟨1709294400⟩ ∧
      (after coachService (fresh 1709294400) promotedRun).backend.ledger = {} ∧
      ∀ email ∈ ["coach@fitprofi.app", "a@b.co"], ((after coachService (fresh 1709294400)
        promotedRun).backend.store.find? email).map Account.isAdmin = some false := by
  rw [after_promotedRun]
  exact ⟨rfl, rfl, by decide +kernel⟩

/-- In the end neither of them is promoted, and both tokens are an administrator's all the same. -/
theorem role_carried_sample :
    SignsIn coachService (fresh 1709294400) coachRegistration "first" coachSession ∧
      SignsIn coachService (after coachService (fresh 1709294400) promotions) promotedLogin "third"
        promotedSession ∧
      (∀ email ∈ ["coach@fitprofi.app", "a@b.co"], ((after coachService (fresh 1709294400)
        promotedRun).backend.store.find? email).map Account.isAdmin = some false) ∧
      (step coachService (after coachService (fresh 1709294400) promotedRun)
        (.verify coachSession.token)).1 = .ok (some ⟨1, .admin⟩) ∧
      (step coachService (after coachService (fresh 1709294400) promotedRun)
        (.verify promotedSession.token)).1 = .ok (some ⟨2, .admin⟩) := by
  have hmail : ∀ op ∈ promotedRun, op.DisturbsOnlyMail := by
    simp [promotedRun, promotions, coachRegistration, promotedLogin, Operation.DisturbsOnlyMail]
  have hcarried : RolesCarried coachService 1709294400 promotedRun := role_carried hmail
  obtain ⟨hclock, hledger, hnone⟩ := after_promotedRun_spec
  have hfirst : Accepts coachService (after coachService (fresh 1709294400) promotedRun)
      coachSession.token "first" := accepts_issue hclock hledger
  have hthird : Accepts coachService (after coachService (fresh 1709294400) promotedRun)
      promotedSession.token "third" := accepts_issue hclock hledger
  exact ⟨signsIn_coachRegistration, signsIn_promotedLogin, hnone,
    (hcarried.verified [] coachRegistration promotedRun.tail _ _ List.prefix_rfl
      signsIn_coachRegistration).1 hfirst,
    (hcarried.verified promotions promotedLogin [.setAdmin "a@b.co" false] _ _ List.prefix_rfl
      signsIn_promotedLogin).1 hthird⟩

end World
end AccountAccess
