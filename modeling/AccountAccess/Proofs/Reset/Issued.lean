import AccountAccess.Proofs.Reset.Standing
import AccountAccess.Proofs.Credential.Window

/-!
The reset credentials that are sent out on a run.

* `World.requested?` says which credential a request sends out, and `World.stored?_eq_map` that it
  stores the record of that credential, as long as the calendar holds the expiry.
* `World.token_eq_token_iff`: a token is determined by the number of the account, its role and the
  second, and determines them.
* `World.resetTokens` lists the tokens that come up on a run.
-/

namespace AccountAccess

/-- A reset credential as it was sent out. -/
structure IssuedReset where
  /-- The account that it was asked for, as it was then. -/
  account : Account
  token : String
  /-- The second of the clock then. -/
  second : Int64

/-- The record of a reset credential. -/
def IssuedReset.record (t : IssuedReset) : ResetRecord :=
  .ofToken t.account.email t.token (.ofUnix t.second.toInt)
    (.ofUnix (t.second.toInt + Claims.resetLifetime))

/-- The last second at which the calendar holds the expiry of a reset credential. -/
def lastResetStart : Int := Instant.lastSecond - Claims.resetLifetime

lemma lastResetStart_add : lastResetStart + Claims.resetLifetime = Instant.lastSecond := rfl

lemma lastResetStart_le : lastResetStart ≤ Instant.lastSecond := by decide

namespace World

variable {service : Service} {w : World}

/-- The reset credential that an operation sends out. -/
def requested? (service : Service) (w : World) : Operation → Option IssuedReset
  | .requestReset email =>
    (w.backend.store.find? email).map fun account =>
      ⟨account, service.codec.encode
        (PasswordReset.claims service.config service.codec account w.reading), w.clock.second⟩
  | _ => none

section

variable (hnow : w.reading.now = .ofUnix w.clock.second.toInt)
include hnow

/-- A request stores the record of the credential that it sends out. -/
lemma stored?_eq_map (hstart : 0 ≤ w.clock.second.toInt)
    (hend : w.clock.second.toInt ≤ lastResetStart) (operation : Operation) :
    stored? service w operation = (requested? service w operation).map IssuedReset.record := by
  have hfirst : Instant.firstSecond ≤ 0 := by decide
  have hlifetime := Claims.resetLifetime_nonneg
  have hbound := lastResetStart_add
  have hexpiry : w.reading.now.addSeconds? Claims.resetLifetime =
      some (.ofUnix (w.clock.second.toInt + Claims.resetLifetime)) := by
    rw [hnow, Instant.addSeconds?_ofUnix, Instant.ofUnix?_eq, if_pos (by omega)]
  cases operation with
  | requestReset email =>
      rw [stored?, requested?, PasswordReset.stored?]
      cases w.backend.store.find? email with
      | none => rfl
      | some account =>
          rw [hexpiry]
          simp only [Option.bind_eq_bind, Option.bind_some, Option.pure_def, Option.map_some,
            IssuedReset.record, hnow]
  | _ => rfl

/-- The token that a request sends out tells the account and the second. -/
lemma token_of_requested? {operation : Operation} {t : IssuedReset}
    (ht : requested? service w operation = some t) :
    t.second = w.clock.second ∧
      t.token = service.codec.encode (service.codec.issue t.account.id
        (t.account.role service.config) none (.ofUnix t.second.toInt) Claims.resetLifetime) := by
  cases operation with
  | requestReset email =>
      obtain ⟨account, -, rfl⟩ := Option.map_eq_some_iff.mp ht
      refine ⟨rfl, ?_⟩
      dsimp only
      rw [PasswordReset.claims, hnow]
  | _ => cases ht

end

/-- The tokens that two requests send out are the same exactly if account number, role and second
are. -/
lemma token_eq_token_iff {w' : World} {operation operation' : Operation} {t t' : IssuedReset}
    (hnow : w.reading.now = .ofUnix w.clock.second.toInt)
    (hnow' : w'.reading.now = .ofUnix w'.clock.second.toInt)
    (ht : requested? service w operation = some t)
    (ht' : requested? service w' operation' = some t') :
    t.token = t'.token ↔
      t.account.id = t'.account.id ∧
        t.account.role service.config = t'.account.role service.config ∧ t.second = t'.second := by
  obtain ⟨-, htoken⟩ := token_of_requested? hnow ht
  obtain ⟨-, htoken'⟩ := token_of_requested? hnow' ht'
  rw [htoken, htoken']
  constructor
  · intro hsame
    obtain ⟨hid, hrole, -, hsecond⟩ := Codec.encode_issue_inj hsame
    exact ⟨hid, hrole, hsecond⟩
  · rintro ⟨hid, hrole, hsecond⟩
    rw [hid, hrole, hsecond]

/-- What is sent out is sent out for the account of the address that was given. -/
lemma find?_of_requested? {operation : Operation} {t : IssuedReset}
    (ht : requested? service w operation = some t) :
    ∃ email, operation = .requestReset email ∧ w.backend.store.find? email = some t.account := by
  cases operation with
  | requestReset email =>
      obtain ⟨account, hfound, rfl⟩ := Option.map_eq_some_iff.mp ht
      exact ⟨email, rfl, hfound⟩
  | _ => cases ht

/-- What is sent out spells claims for the account, whatever the clock shows. -/
lemma encode_claims_of_requested? {operation : Operation} {t : IssuedReset}
    (ht : requested? service w operation = some t) :
    t.token = service.codec.encode
      (PasswordReset.claims service.config service.codec t.account w.reading) := by
  cases operation with
  | requestReset email =>
      obtain ⟨account, -, rfl⟩ := Option.map_eq_some_iff.mp ht
      rfl
  | _ => cases ht

/-- A record that is stored is of a credential that is sent out, and its expiry lies in the
calendar. -/
lemma exists_requested?_of_stored? {operation : Operation} {r : ResetRecord}
    (hr : stored? service w operation = some r) :
    ∃ t, requested? service w operation = some t ∧ r.fingerprint = fingerprint t.token ∧
      w.reading.now.addSeconds? Claims.resetLifetime = some r.expiresAt := by
  cases operation with
  | requestReset email =>
      obtain ⟨account, hfound, hr⟩ := Option.bind_eq_some_iff.mp hr
      obtain ⟨expiresAt, hexpiry, hr⟩ := Option.bind_eq_some_iff.mp hr
      have hrequested : requested? service w (.requestReset email) = some ⟨account,
          service.codec.encode
            (PasswordReset.claims service.config service.codec account w.reading),
          w.clock.second⟩ := by
        rw [requested?, hfound, Option.map_some]
      refine ⟨_, hrequested, ?_⟩
      rw [← Option.some.inj hr]
      exact ⟨rfl, hexpiry⟩
  | _ => cases hr

/-! ### The tokens of a run -/

/-- The reset tokens that come up in an operation. -/
def handled (service : Service) (w : World) : Operation → List String
  | .resetPassword token _ _ => [token]
  | operation => ((requested? service w operation).map IssuedReset.token).toList

/-- The reset tokens that come up on a run: those that are sent out and those that are presented. -/
def resetTokens (service : Service) : World → List Operation → List String
  | _, [] => []
  | w, operation :: operations =>
    handled service w operation ++ resetTokens service (step service w operation).2 operations

lemma resetTokens_append (first second : List Operation) :
    resetTokens service w (first ++ second) =
      resetTokens service w first ++ resetTokens service (after service w first) second := by
  induction first generalizing w with
  | nil => rfl
  | cons operation rest ih =>
      simp only [List.cons_append, resetTokens, after_cons, List.append_assoc]
      rw [ih]

/-- What is sent out comes up. -/
lemma mem_handled_of_requested? {operation : Operation} {t : IssuedReset}
    (ht : requested? service w operation = some t) : t.token ∈ handled service w operation := by
  obtain ⟨email, rfl, -⟩ := find?_of_requested? ht
  show t.token ∈ ((requested? service w (.requestReset email)).map IssuedReset.token).toList
  rw [ht]
  exact List.mem_singleton_self _

/-! ### A credential of Ana's -/

/-- The account that Ana registers. -/
def sampleAccount : Account where
  id := 1
  fullName := "Ana"
  email := "a@b.co"
  passwordHash := Service.sample.hasher.hash (List.replicate 16 0) "first"
  isAdmin := false

/-- The credential that she asks for at noon of the first of March 2024. -/
def sampleReset : IssuedReset where
  account := sampleAccount
  token := Service.sample.codec.encode
    (PasswordReset.claims Service.sample.config Service.sample.codec sampleAccount
      (.ofSecond 1709294400))
  second := 1709294400

/-- She registers. -/
def sampleRegistration : Operation :=
  .register "Ana" "a@b.co" "first" (List.replicate 16 0) "first"

/-- She registers, and asks for the credential. -/
def sampleRun : List Operation := [sampleRegistration, .requestReset "a@b.co"]

/-- The world in which she has registered. -/
def sampleWorld : World := (step .sample (fresh 1709294400) sampleRegistration).2

/-- Her account is the only one then. -/
lemma store_sampleWorld :
    sampleWorld.backend.store.find? "a@b.co" = some sampleAccount ∧
      sampleWorld.backend.store.accounts.size = 1 := by
  rw [sampleWorld, step_store Fault.onlyMail_empty]
  exact ⟨AccountStore.find?_create rfl "a@b.co", rfl⟩

/-- As long as Ana's account is found as it was, what she asks for at noon is the credential. -/
lemma requested?_sample {w : World} (hclock : w.clock = ⟨1709294400⟩)
    (hfound : w.backend.store.find? "a@b.co" = some sampleAccount) :
    requested? .sample w (.requestReset "a@b.co") = some sampleReset ∧
      stored? .sample w (.requestReset "a@b.co") = some sampleReset.record := by
  have hreading : w.reading = .ofSecond 1709294400 := by rw [reading, hclock]; rfl
  have hnow : w.reading.now = .ofUnix w.clock.second.toInt := by rw [hreading, hclock]; decide
  have hrequested : requested? .sample w (.requestReset "a@b.co") = some sampleReset := by
    rw [requested?, hfound, hreading, hclock]
    rfl
  refine ⟨hrequested, ?_⟩
  rw [stored?_eq_map hnow (by rw [hclock]; decide) (by rw [hclock]; decide), hrequested]
  rfl

/-- The run adds the record of the credential, and nothing else. -/
lemma store_sampleRun :
    (after .sample (fresh 1709294400) sampleRun).backend.store =
      (sampleWorld.backend.store.replaceReset sampleReset.record).2 := by
  obtain ⟨-, hstored⟩ := requested?_sample rfl store_sampleWorld.1
  have hmail : Fault.OnlyMail sampleWorld.faults := Fault.onlyMail_empty
  show (step .sample sampleWorld (.requestReset "a@b.co")).2.backend.store = _
  rw [step_store hmail]
  dsimp only
  rw [show PasswordReset.stored? _ _ _ _ _ = _ from hstored, Option.elim_some]

lemma onlyMail_sampleRun : Fault.OnlyMail (after .sample (fresh 1709294400) sampleRun).faults :=
  Fault.onlyMail_empty

/-- The account is found after the run. -/
lemma find?_sampleRun :
    (after .sample (fresh 1709294400) sampleRun).backend.store.find? "a@b.co" =
      some sampleAccount := by
  rw [store_sampleRun]
  exact store_sampleWorld.1

/-- The record of the credential is found after the run. -/
lemma findReset?_sampleRun :
    (after .sample (fresh 1709294400) sampleRun).backend.store.findReset?
      (fingerprint sampleReset.token) = some sampleReset.record := by
  rw [store_sampleRun, AccountStore.findReset?_replaceReset]
  exact if_pos rfl

/-- The credential is accepted at noon. -/
lemma decode_sampleReset :
    Service.sample.codec.decode sampleReset.token (.ofSecond 1709294400) =
      .ok (Service.sample.codec.issue 1 .user none
        (.ofUnix (1709294400 : Int64).toInt) Claims.resetLifetime) :=
  (Codec.decode_encode_issue_iff (by decide) Claims.resetLifetime_nonneg (by decide)
    (Int64.le_refl _)).mpr ⟨rfl, by decide⟩

/-- The credential can be used at noon. -/
lemma usable?_sampleRun :
    PasswordReset.usable? Service.sample.codec
      (after .sample (fresh 1709294400) sampleRun).backend.store sampleReset.token
      (after .sample (fresh 1709294400) sampleRun).reading = some sampleReset.record :=
  PasswordReset.usable?_eq_some_iff.mpr ⟨findReset?_sampleRun, ⟨_, decode_sampleReset⟩, _,
    find?_sampleRun⟩

end World
end AccountAccess
