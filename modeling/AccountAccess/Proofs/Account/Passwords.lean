import AccountAccess.Proofs.Password.RoundTrip
import AccountAccess.Proofs.Reset.Issued

/-!
Whose password is what on a run, by the notes of somebody who sees what the operations answer.

* `PasswordBook`: each address that was registered, with the password that was last set for it, and
  the address that each reset credential was asked for. `World.note` goes by what is seen of an
  operation: a registration or a reset that is refused leaves no note.
* `Keeps`: how the store stands to the book. It has the accounts of the book, each with a hash of
  the password that is noted for it, and each of its reset records is for the address that the
  credential was asked for. Every operation keeps this (`Keeps.step`), so a run does (`Keeps.run`).
* `World.login_after`: logging in goes by the book, and changes nothing.
-/

namespace AccountAccess

/-! ### The book -/

/-- An account as it was registered, with the password that was last set. -/
structure Registered where
  userId : Int64
  fullName : String
  email : String
  password : String

/-- What is known of passwords to somebody who watches a run. -/
structure PasswordBook where
  /-- By the key of the address. -/
  registered : Table String Registered := ∅
  /-- The key of the address that a reset credential was asked for, by its fingerprint. -/
  askedFor : Table String String := ∅

namespace PasswordBook

/-- The entry of an address. -/
def find? (book : PasswordBook) (email : String) : Option Registered :=
  book.registered.get? (emailKey email)

/-- Notes a registration. -/
def register (book : PasswordBook) (entry : Registered) : PasswordBook :=
  { book with registered := book.registered.insert (emailKey entry.email) entry }

/-- Notes the address that a reset credential was asked for. -/
def ask (book : PasswordBook) (fingerprint email : String) : PasswordBook :=
  { book with askedFor := book.askedFor.insert fingerprint (emailKey email) }

/-- Notes the password that was set with a reset credential. -/
def reset (book : PasswordBook) (fingerprint password : String) : PasswordBook :=
  match book.askedFor.get? fingerprint with
  | none => book
  | some key =>
    { book with registered := book.registered.modify key fun entry => { entry with password } }

/-- The entry of the address that the credential was asked for is overwritten. -/
lemma find?_reset {book : PasswordBook} {fingerprint asked : String}
    (h : book.askedFor.get? fingerprint = some (emailKey asked)) (password email : String) :
    (book.reset fingerprint password).find? email =
      if emailKey email = emailKey asked
        then (book.find? email).map fun entry => { entry with password }
        else book.find? email := by
  rw [reset, h, find?, Table.get?_modify]
  split_ifs with hkey
  · rw [find?, hkey]
  · rfl

end PasswordBook

namespace World

/-- Notes an operation: a registration and a reset if they are answered with success, and a request
if a credential goes out. -/
def note (service : Service) (w : World) (book : PasswordBook) : Operation → PasswordBook
  | .register fullName email password salt id =>
    match (step service w (.register fullName email password salt id)).1 with
    | .ok session => book.register ⟨session.userId, fullName, email, password⟩
    | _ => book
  | .requestReset email =>
    match stored? service w (.requestReset email) with
    | some r => book.ask r.fingerprint email
    | none => book
  | .resetPassword token password salt =>
    match (step service w (.resetPassword token password salt)).1 with
    | .ok () => book.reset (fingerprint token) password
    | _ => book
  | _ => book

/-- The book after a run. -/
def noted (service : Service) : World → PasswordBook → List Operation → PasswordBook
  | _, book, [] => book
  | w, book, operation :: operations =>
    noted service (step service w operation).2 (note service w book operation) operations

section

variable {service : Service} {w : World} {book : PasswordBook} (hfaults : Fault.OnlyMail w.faults)
include hfaults

/-- A registration is noted if the account is created. -/
lemma note_register (fullName email password : String) (salt : Bytes) (id : String) :
    note service w book (.register fullName email password salt id) =
      match (w.backend.store.create ⟨fullName, email, service.hasher.hash salt password⟩).1 with
      | .ok account => book.register ⟨account.id, fullName, email, password⟩
      | .error _ => book := by
  rw [note, step_register hfaults]
  cases (w.backend.store.create ⟨fullName, email, service.hasher.hash salt password⟩).1 <;> rfl

/-- A reset is noted if there is a record that it uses up. -/
lemma note_resetPassword (token password : String) (salt : Bytes) :
    note service w book (.resetPassword token password salt) =
      (PasswordReset.usable? service.codec w.backend.store token w.reading).elim book
        fun _ => book.reset (fingerprint token) password := by
  rw [note]
  cases hused : PasswordReset.usable? service.codec w.backend.store token w.reading with
  | none =>
      split
      · rename_i hok
        obtain ⟨r, hr⟩ := (step_resetPassword_eq_ok_iff hfaults password salt).mp hok
        rw [hused] at hr
        cases hr
      · rfl
  | some r =>
      rw [step_resetPassword_of_usable hfaults password salt hused]
      rfl

end

end World

namespace Operation

/-- The password that an operation may set, and the salt it is hashed with. -/
def given? : Operation → Option (String × Bytes)
  | register _ _ password salt _ => some (password, salt)
  | resetPassword _ password salt => some (password, salt)
  | _ => none

/-- The operation is none that puts a hash into the store behind the service's back, and disturbs
nothing but the mailer. -/
def IsOffered : Operation → Prop
  | setPasswordHash _ _ => False
  | operation => operation.DisturbsOnlyMail

lemma IsOffered.disturbsOnlyMail {operation : Operation} (h : operation.IsOffered) :
    operation.DisturbsOnlyMail := by
  cases operation with
  | setPasswordHash email hash => cases h
  | _ => exact h

end Operation

/-! ### The store and the book -/

/-- A store that refuses to create an account stays as it is. -/
lemma AccountStore.create_eq_of_error {s : AccountStore} {a : NewAccount} {f : Failure}
    (h : (s.create a).1 = .error f) : (s.create a).2 = s := by
  unfold create at h ⊢
  split at h
  · rfl
  · cases h

/-- The record that a request stores has the address of an account that is found. -/
lemma PasswordReset.find?_of_stored? {config : AccessConfig} {codec : Codec} {s : AccountStore}
    {email : String} {clock : Reading} {r : ResetRecord}
    (h : PasswordReset.stored? config codec s email clock = some r) :
    ∃ account, s.find? email = some account ∧ r.email = account.email := by
  rw [stored?] at h
  simp only [Option.bind_eq_bind, Option.bind_eq_some_iff, Option.pure_def,
    Option.some.injEq] at h
  obtain ⟨account, hfound, _, -, rfl⟩ := h
  exact ⟨account, hfound, rfl⟩

/-- An account that is kept by a key is the one of an entry: its address has the key, and its hash
was made of the password of the entry with a salt that was given along with it. -/
structure Matches (hasher : PasswordHasher) (given : String → Bytes → Prop) (key : String)
    (account : Account) (entry : Registered) : Prop where
  key : emailKey account.email = key
  userId : account.id = entry.userId
  fullName : account.fullName = entry.fullName
  email : account.email = entry.email
  hash : ∃ salt, given entry.password salt ∧
    account.passwordHash = hasher.hash salt entry.password

/-- A store has the accounts of a book, and reset records for the addresses that the credentials
were asked for. -/
structure Keeps (hasher : PasswordHasher) (given : String → Bytes → Prop) (s : AccountStore)
    (book : PasswordBook) : Prop where
  accounts : ∀ email,
    Option.Rel (Matches hasher given (emailKey email)) (s.find? email) (book.find? email)
  resets : ∀ fingerprint r, s.findReset? fingerprint = some r →
    book.askedFor.get? fingerprint = some (emailKey r.email)

namespace Keeps

variable {hasher : PasswordHasher} {given : String → Bytes → Prop} {s : AccountStore}
  {book : PasswordBook}

/-- Nothing is stored and nothing is noted. -/
lemma empty : Keeps hasher given {} {} where
  accounts _ := .none
  resets _ _ h := by cases h

/-- Taking records out leaves nothing to note. -/
lemma withResets {s' : AccountStore} (h : Keeps hasher given s book)
    (haccounts : s'.accounts = s.accounts)
    (hresets : ∀ fingerprint r, s'.findReset? fingerprint = some r →
      s.findReset? fingerprint = some r) : Keeps hasher given s' book where
  accounts email := by
    rw [AccountStore.find?, haccounts]
    exact h.accounts email
  resets fingerprint r hr := h.resets fingerprint r (hresets fingerprint r hr)

/-- An account that is created is noted with its password. -/
lemma create (h : Keeps hasher given s book) {fullName email password : String} {salt : Bytes}
    (hgiven : given password salt) {account : Account}
    (hcreated : (s.create ⟨fullName, email, hasher.hash salt password⟩).1 = .ok account) :
    Keeps hasher given (s.create ⟨fullName, email, hasher.hash salt password⟩).2
      (book.register ⟨account.id, fullName, email, password⟩) where
  accounts e := by
    rw [AccountStore.find?_create hcreated, PasswordBook.find?, PasswordBook.register,
      Table.get?_insert]
    have hfields : account.fullName = fullName ∧ account.email = email ∧
        account.passwordHash = hasher.hash salt password := by
      unfold AccountStore.create at hcreated
      split at hcreated <;> cases hcreated
      exact ⟨rfl, rfl, rfl⟩
    obtain ⟨hname, haddress, hhash⟩ := hfields
    dsimp only
    split_ifs with hkey
    · exact .some ⟨haddress ▸ hkey.symm, rfl, hname, haddress, salt, hgiven, hhash⟩
    · exact h.accounts e
  resets fingerprint r hr := by
    rw [AccountStore.findReset?, AccountStore.resets_create] at hr
    exact h.resets fingerprint r hr

/-- A change of an account is noted if its entry is changed along with it. -/
lemma change (h : Keeps hasher given s book) (email what : String) {f : Account → Account}
    {g : Registered → Registered} {book' : PasswordBook}
    (hchange : ∀ key account entry, Matches hasher given key account entry →
      Matches hasher given key (f account) (g entry))
    (hentries : ∀ e, book'.find? e =
      if emailKey e = emailKey email then (book.find? e).map g else book.find? e)
    (hasked : book'.askedFor = book.askedFor) :
    Keeps hasher given (s.change email what f).2 book' where
  accounts e := by
    have hrel := h.accounts e
    rw [AccountStore.find?_change, hentries]
    generalize s.find? e = found, book.find? e = entry at hrel ⊢
    split_ifs
    · cases hrel with
      | none => exact .none
      | some hmatches => exact .some (hchange _ _ _ hmatches)
    · exact hrel
  resets fingerprint r hr := by
    rw [AccountStore.findReset?, AccountStore.resets_change] at hr
    rw [hasked]
    exact h.resets fingerprint r hr

/-- Promoting an account leaves nothing to note. -/
lemma setAdmin (h : Keeps hasher given s book) (email : String) (value : Bool) :
    Keeps hasher given (s.setAdmin email value).2 book := by
  refine h.change email _ (g := id) ?_ ?_ rfl
  · exact fun _ _ _ hmatches =>
      ⟨hmatches.key, hmatches.userId, hmatches.fullName, hmatches.email, hmatches.hash⟩
  · intro e
    simp

/-- A password that is set with a reset credential is noted for the address in the record. -/
lemma updatePassword (h : Keeps hasher given s book) {password : String} {salt : Bytes}
    (hgiven : given password salt) {fingerprint : String} {r : ResetRecord}
    (hfound : s.findReset? fingerprint = some r) :
    Keeps hasher given (s.updatePassword r.email (hasher.hash salt password)).2
      (book.reset fingerprint password) := by
  have hasked := h.resets fingerprint r hfound
  refine h.change r.email _ (g := fun entry => { entry with password }) ?_
    (PasswordBook.find?_reset hasked password) ?_
  · exact fun _ _ _ hmatches =>
      ⟨hmatches.key, hmatches.userId, hmatches.fullName, hmatches.email, salt, hgiven, rfl⟩
  · rw [PasswordBook.reset, hasked]

/-- An account that is found by an address has an address of the same key. -/
lemma key (h : Keeps hasher given s book) {email : String} {account : Account}
    (hfound : s.find? email = some account) : emailKey account.email = emailKey email := by
  have hrel := h.accounts email
  rw [hfound] at hrel
  generalize book.find? email = entry at hrel
  cases hrel with
  | some hmatches => exact hmatches.key

/-- A record that is stored is noted for the address that was given. -/
lemma replaceReset (h : Keeps hasher given s book) {r : ResetRecord} {email : String}
    (hkey : emailKey r.email = emailKey email) :
    Keeps hasher given (s.replaceReset r).2 (book.ask r.fingerprint email) where
  accounts e := h.accounts e
  resets fingerprint r' hr := by
    rw [AccountStore.findReset?_replaceReset] at hr
    rw [PasswordBook.ask, Table.get?_insert]
    split_ifs at hr ⊢ with hsame
    · rw [← hkey, Option.some.inj hr]
    · exact h.resets fingerprint r' (Option.filter_eq_some_iff.mp hr).1

/-! ### Runs -/

section

variable {service : Service} {w : World} {operation : Operation}

open World

/-- Every operation that is offered keeps the store at the book. -/
lemma step (h : Keeps service.hasher given w.backend.store book) (hfaults : Fault.OnlyMail w.faults)
    (hoffered : operation.IsOffered)
    (hgiven : ∀ password salt, operation.given? = some (password, salt) → given password salt) :
    Keeps service.hasher given (World.step service w operation).2.backend.store
      (note service w book operation) := by
  rw [step_store hfaults]
  cases operation with
  | register fullName email password salt id =>
      rw [note_register hfaults]
      cases hcreated : (w.backend.store.create
        ⟨fullName, email, service.hasher.hash salt password⟩).1 with
      | error f =>
          dsimp only
          rw [AccountStore.create_eq_of_error hcreated]
          exact h
      | ok account => exact h.create (hgiven password salt rfl) hcreated
  | requestReset email =>
      dsimp only [note, stored?]
      cases hstored : PasswordReset.stored? service.config service.codec w.backend.store email
        w.reading with
      | none => exact h
      | some r =>
          obtain ⟨account, hfound, haddress⟩ := PasswordReset.find?_of_stored? hstored
          exact h.replaceReset (haddress ▸ h.key hfound)
  | resetPassword token password salt =>
      rw [note_resetPassword hfaults]
      dsimp only
      cases hused : PasswordReset.usable? service.codec w.backend.store token w.reading with
      | none => exact h
      | some r =>
          -- the address in the record is the one that the credential was asked for
          obtain ⟨hfound, -⟩ := PasswordReset.usable?_eq_some_iff.mp hused
          refine (h.updatePassword (hgiven password salt rfl) hfound).withResets rfl ?_
          intro other r' hr
          rw [Option.elim_some, AccountStore.findReset?_deleteReset] at hr
          split_ifs at hr with htaken
          exact hr
  | setAdmin email value => exact h.setAdmin email value
  | setPasswordHash email hash => cases hoffered
  | cleanupResets =>
      refine h.withResets rfl ?_
      intro fingerprint r hr
      rw [AccountStore.findReset?_cleanupResets] at hr
      exact (Option.filter_eq_some_iff.mp hr).1
  | _ => exact h

/-- A run of operations that are offered keeps the store at the book. -/
theorem run {operations : List Operation}
    (h : Keeps service.hasher given w.backend.store book) (hfaults : Fault.OnlyMail w.faults)
    (hoffered : ∀ operation ∈ operations, operation.IsOffered)
    (hgiven : ∀ operation ∈ operations, ∀ password salt,
      operation.given? = some (password, salt) → given password salt) :
    Keeps service.hasher given (after service w operations).backend.store
      (noted service w book operations) := by
  induction operations generalizing w book with
  | nil => exact h
  | cons operation rest ih =>
      obtain ⟨hfirst, hrest⟩ := List.forall_mem_cons.mp hoffered
      obtain ⟨hgivenFirst, hgivenRest⟩ := List.forall_mem_cons.mp hgiven
      exact ih (h.step hfaults hfirst hgivenFirst) (onlyMail_step hfaults hfirst.disturbsOnlyMail)
        hrest hgivenRest

end

end Keeps

namespace World

/-! ### Logging in -/

/-- **What logging in comes to** at any point of a run, where Argon2id tells the password that is
presented from those that were given on the run: an address without an entry in the book is not
registered, another password than the one of the entry is wrong, and with that password a session is
opened for the account of the entry. Nothing is changed. -/
theorem login_after (service : Service) (start : Int64) {operations : List Operation}
    (hoffered : ∀ operation ∈ operations, operation.IsOffered)
    (hsalt : ∀ operation ∈ operations, ∀ given salt, operation.given? = some (given, salt) →
      salt.length = PasswordHasher.saltLength)
    {password : String}
    (houtput : ∀ operation ∈ operations, ∀ given salt, operation.given? = some (given, salt) →
      service.hasher.output salt password = service.hasher.output salt given → password = given)
    (email id : String) :
    let w := after service (fresh start) operations
    let attempt := step service w (.login email password id)
    attempt.2 = w ∧
      match (noted service (fresh start) {} operations).find? email with
      | none => attempt.1 = .refused (.notFound "User not registered")
      | some entry =>
        if password = entry.password then
          ∃ session, attempt.1 = .ok session ∧ session.userId = entry.userId ∧
            session.fullName = entry.fullName ∧ session.email = entry.email
        else attempt.1 = .refused .wrongPassword := by
  intro w attempt
  have hfaults : Fault.OnlyMail w.faults :=
    onlyMail_after Fault.onlyMail_empty fun operation hmem =>
      (hoffered operation hmem).disturbsOnlyMail
  have hkeeps : Keeps service.hasher (fun given salt => ∃ operation ∈ operations,
      operation.given? = some (given, salt)) w.backend.store
      (noted service (fresh start) {} operations) :=
    Keeps.run .empty Fault.onlyMail_empty hoffered
      fun operation hmem _ _ hgiven => ⟨operation, hmem, hgiven⟩
  have hattempt : attempt = _ := step_login hfaults email password id
  have hrel := hkeeps.accounts email
  rw [hattempt]
  refine ⟨rfl, ?_⟩
  generalize w.backend.store.find? email = found,
    (noted service (fresh start) {} operations).find? email = noted at hrel ⊢
  cases hrel with
  | none => rfl
  | @some account entry hmatches =>
      -- the hash was made of the password of the entry, so only the outputs are compared
      obtain ⟨salt, ⟨operation, hmem, hgiven⟩, hhash⟩ := hmatches.hash
      have hverify := PasswordHasher.verify_hash_eq service.hasher service.hasher
        (hsalt operation hmem _ salt hgiven) password entry.password
      dsimp only
      rw [hhash, hverify]
      split_ifs with hpassword
      · rw [hpassword, beq_self_eq_true]
        exact ⟨_, rfl, hmatches.userId, hmatches.fullName, hmatches.email⟩
      · have hdiffer : (service.hasher.output salt password ==
            service.hasher.output salt entry.password) = false :=
          beq_false_of_ne (mt (houtput operation hmem _ salt hgiven) hpassword)
        rw [hdiffer]

/-- Ana registers, and sets a password with the credential that she asks for. -/
def sampleRenewal (password : String) : List Operation :=
  sampleRun ++ [.resetPassword sampleReset.token password (List.replicate 16 0)]

/-- Her entry in the book is overwritten. -/
lemma find?_noted_sampleRenewal (password : String) :
    (noted .sample (fresh 1709294400) {} (sampleRenewal password)).find? " A@B.CO" =
      some ⟨1, "Ana", "a@b.co", password⟩ := by
  have hregistered : note .sample (fresh 1709294400) {} sampleRegistration =
      PasswordBook.register {} ⟨1, "Ana", "a@b.co", "first"⟩ := by
    rw [sampleRegistration, note_register Fault.onlyMail_empty]
    rfl
  have hasked : ∀ book, note .sample sampleWorld book (.requestReset "a@b.co") =
      book.ask (fingerprint sampleReset.token) "a@b.co" := fun book => by
    rw [note, (requested?_sample rfl store_sampleWorld.1).2]
    rfl
  have hreset : ∀ book, note .sample (after .sample (fresh 1709294400) sampleRun) book
      (.resetPassword sampleReset.token password (List.replicate 16 0)) =
        book.reset (fingerprint sampleReset.token) password := fun book => by
    rw [note_resetPassword onlyMail_sampleRun, usable?_sampleRun]
    rfl
  have hkey : ∀ book : PasswordBook, (book.ask (fingerprint sampleReset.token)
      "a@b.co").askedFor.get? (fingerprint sampleReset.token) = some (emailKey "a@b.co") :=
    fun book => by rw [PasswordBook.ask, Table.get?_insert, if_pos rfl]
  show (note .sample (after .sample (fresh 1709294400) sampleRun) (note .sample sampleWorld
    (note .sample (fresh 1709294400) {} sampleRegistration) (.requestReset "a@b.co"))
    (.resetPassword sampleReset.token password (List.replicate 16 0))).find? " A@B.CO" = _
  rw [hreset, hasked, hregistered, PasswordBook.find?_reset (hkey _), if_pos (by decide),
    PasswordBook.ask, PasswordBook.find?, PasswordBook.register, Table.get?_insert,
    if_pos (by decide)]
  rfl

/-- However she writes her address, she is let in with the password that she set last: the one that
she had before, or another one that Argon2id tells from it. -/
theorem login_after_sample :
    (∃ session, (step .sample (after .sample (fresh 1709294400) (sampleRenewal "first"))
        (.login " A@B.CO" "first" "second")).1 = .ok session ∧
      session.userId = 1 ∧ session.fullName = "Ana" ∧ session.email = "a@b.co") ∧
    (noted .sample (fresh 1709294400) {} (sampleRenewal "second")).find? " A@B.CO" =
      some ⟨1, "Ana", "a@b.co", "second"⟩ ∧
    (Service.sample.hasher.output (List.replicate 16 0) "second" =
        Service.sample.hasher.output (List.replicate 16 0) "first" ∨
      ∃ session, (step .sample (after .sample (fresh 1709294400) (sampleRenewal "second"))
          (.login " A@B.CO" "second" "third")).1 = .ok session ∧
        session.userId = 1 ∧ session.fullName = "Ana" ∧ session.email = "a@b.co") := by
  have hlogin : ∀ password id, (Service.sample.hasher.output (List.replicate 16 0) password =
      Service.sample.hasher.output (List.replicate 16 0) "first" → password = "first") →
      ∃ session, (step .sample (after .sample (fresh 1709294400) (sampleRenewal password))
          (.login " A@B.CO" password id)).1 = .ok session ∧
        session.userId = 1 ∧ session.fullName = "Ana" ∧ session.email = "a@b.co" := by
    intro password id houtput
    have hoffered : ∀ operation ∈ sampleRenewal password, operation.IsOffered := by
      simp [sampleRenewal, sampleRun, sampleRegistration, Operation.IsOffered,
        Operation.DisturbsOnlyMail]
    have hgiven : ∀ operation ∈ sampleRenewal password, ∀ given salt,
        operation.given? = some (given, salt) →
          (given = "first" ∨ given = password) ∧ salt = List.replicate 16 0 := by
      simp [sampleRenewal, sampleRun, sampleRegistration, Operation.given?]
    have hlogin := login_after .sample 1709294400 hoffered
      (fun operation hmem given salt h => (hgiven operation hmem given salt h).2 ▸ rfl)
      (fun operation hmem given salt h hsame => by
        obtain ⟨rfl | rfl, rfl⟩ := hgiven operation hmem given salt h
        · exact houtput hsame
        · rfl)
      " A@B.CO" id
    rw [find?_noted_sampleRenewal] at hlogin
    simpa using hlogin.2
  refine ⟨hlogin "first" "second" fun _ => rfl, find?_noted_sampleRenewal "second",
    or_iff_not_imp_left.mpr fun hdiffer => ?_⟩
  exact hlogin "second" "third" fun hsame => absurd hsame hdiffer

end World
end AccountAccess
