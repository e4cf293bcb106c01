import AccountAccess.Proofs.Mail.ResetMessage
import AccountAccess.Proofs.Reset.Issued
import AccountAccess.Proofs.Session.Issued

/-!
The two kinds of credential, and that neither is taken for the other.

* `Codec.IsResetToken` and `Codec.IsSessionToken`: a token spells claims without an identifier, or
  claims with one. No token is both (`Codec.IsSessionToken.not_isResetToken`).
* `World.step_verify_of_isResetToken` and `World.step_logout_of_isResetToken`: a reset token speaks
  for nobody, and there is nothing to end.
* `World.KeepsKinds`: reset tokens alone are sent, and fingerprints of reset tokens alone are
  stored. Every operation preserves it (`World.KeepsKinds.step`), and so does a run
  (`World.KeepsKinds.run`).
* `World.kinds_apart`: what becomes of a credential that is presented in place of the other kind.
-/

namespace AccountAccess

/-! ### The two kinds -/

namespace Codec

variable {codec : Codec} {token : String}

/-- The token spells claims without an identifier. -/
def IsResetToken (codec : Codec) (token : String) : Prop :=
  ∃ c : Claims, c.id = none ∧ token = codec.encode c

/-- The token spells claims with an identifier. -/
def IsSessionToken (codec : Codec) (token : String) : Prop :=
  ∃ (c : Claims) (id : String), c.id = some id ∧ token = codec.encode c

/-- No token is of both kinds. -/
lemma IsSessionToken.not_isResetToken (h : codec.IsSessionToken token) :
    ¬ codec.IsResetToken token := by
  obtain ⟨c, id, hid, rfl⟩ := h
  rintro ⟨c', hnone, hsame⟩
  obtain rfl := codec.encode_injective hsame
  rw [hid] at hnone
  cases hnone

/-- A reset token that is accepted has no identifier. -/
lemma IsResetToken.id_eq_none (h : codec.IsResetToken token) {clock : Reading} {c : Claims}
    (hdecode : codec.decode token clock = .ok c) : c.id = none := by
  obtain ⟨c', hnone, rfl⟩ := h
  obtain rfl := eq_of_read_encode (decodeAt_eq_ok_iff.mp hdecode).1
  exact hnone

end Codec

namespace World

variable {service : Service} {w : World}

/-! ### Reset tokens in place of session tokens -/

section

variable (h : Fault.OnlyMail w.faults) {token : String}
  (htoken : service.codec.IsResetToken token)
include h htoken

/-- A reset token speaks for nobody. -/
lemma step_verify_of_isResetToken : step service w (.verify token) = (.ok none, w) := by
  rw [step_verify h]
  cases hdecode : service.codec.decode token w.reading with
  | error e => rfl
  | ok c =>
      dsimp only
      rw [htoken.id_eq_none hdecode, Option.bind_none]

/-- A reset token ends nothing. -/
lemma step_logout_of_isResetToken : step service w (.logout token) = (.ok (), w) := by
  have hrun : (Session.revoke service.codec token w.reading).run
      (Fault.disturbed service.config.storeTimeout w.faults Backend.answer) w.backend =
        (.ok (), w.backend) := by
    rw [Session.run_revoke h]
    cases hdecode : service.codec.decode token w.reading with
    | error e => rfl
    | ok c =>
        dsimp only
        rw [htoken.id_eq_none hdecode]
  show w.perform _ (Session.revoke service.codec token) = _
  rw [perform, hrun]

end

/-! ### The kinds on a run -/

/-- What a request sends out is a reset token. -/
lemma isResetToken_of_requested? {operation : Operation} {t : IssuedReset}
    (ht : requested? service w operation = some t) : service.codec.IsResetToken t.token :=
  ⟨_, rfl, encode_claims_of_requested? ht⟩

/-- Session tokens are what registration, login and issuing hand out. -/
lemma isSessionToken_of_mem_sessions (h : Fault.OnlyMail w.faults) {operations : List Operation}
    (hmail : ∀ operation ∈ operations, operation.DisturbsOnlyMail) {t : IssuedSession}
    (ht : t ∈ sessions service w operations) : service.codec.IsSessionToken t.token := by
  induction operations generalizing w with
  | nil => cases ht
  | cons operation rest ih =>
      obtain ⟨hfirst, hrest⟩ := List.forall_mem_cons.mp hmail
      rw [sessions, List.mem_append] at ht
      rcases ht with hopened | hlater
      · obtain ⟨htoken, -⟩ := issue_of_opened? h (Option.mem_toList.mp hopened)
        exact ⟨_, t.id, rfl, htoken⟩
      · exact ih (onlyMail_step h hfirst) hrest hlater

/-- Reset tokens alone are sent, and fingerprints of reset tokens alone are stored; and the tokens
are among the given ones. -/
structure KeepsKinds (service : Service) (tokens : List String) (w : World) : Prop where
  sent : ∀ m ∈ w.backend.sent, ∃ recipient token, m = .passwordReset recipient token ∧
    service.codec.IsResetToken token
  stored : ∀ fp r, w.backend.store.findReset? fp = some r → ∃ token ∈ tokens,
    fp = fingerprint token ∧ service.codec.IsResetToken token

namespace KeepsKinds

variable {tokens : List String}

/-- In the beginning nothing is sent or stored. -/
lemma fresh (start : Int64) : KeepsKinds service tokens (fresh start) where
  sent := fun _ hm => absurd hm List.not_mem_nil
  stored := fun fp r hr => by cases hr

/-- Every operation keeps the kinds, as long as the tokens that come up are among the given ones. -/
lemma step (hkinds : KeepsKinds service tokens w) (h : Fault.OnlyMail w.faults)
    {operation : Operation} (htokens : ∀ token ∈ handled service w operation, token ∈ tokens) :
    KeepsKinds service tokens (World.step service w operation).2 where
  sent := by
    intro m hm
    rcases @step_sent service w h operation with hsame | ⟨email, account, rfl, -, hone⟩
    · rw [hsame] at hm
      exact hkinds.sent m hm
    · rw [hone] at hm
      rcases List.mem_cons.mp hm with rfl | hbefore
      · exact ⟨_, _, rfl, _, rfl, rfl⟩
      · exact hkinds.sent m hbefore
  stored := by
    intro fp r hr
    rcases (findReset?_step_iff h operation).mp hr with ⟨hstored, rfl⟩ | ⟨hstood, -⟩
    · obtain ⟨t, ht, hfingerprint, -⟩ := exists_requested?_of_stored? hstored
      exact ⟨t.token, htokens _ (mem_handled_of_requested? ht), hfingerprint,
        isResetToken_of_requested? ht⟩
    · exact hkinds.stored fp r hstood

/-- A run keeps the kinds. -/
lemma run (hkinds : KeepsKinds service tokens w) (h : Fault.OnlyMail w.faults)
    {operations : List Operation} (hmail : ∀ operation ∈ operations, operation.DisturbsOnlyMail)
    (htokens : ∀ token ∈ resetTokens service w operations, token ∈ tokens) :
    KeepsKinds service tokens (after service w operations) := by
  induction operations generalizing w with
  | nil => exact hkinds
  | cons operation rest ih =>
      obtain ⟨hfirst, hrest⟩ := List.forall_mem_cons.mp hmail
      rw [resetTokens] at htokens
      exact ih (hkinds.step h fun token ht => htokens token (List.mem_append_left _ ht))
        (onlyMail_step h hfirst) hrest fun token ht => htokens token (List.mem_append_right _ ht)

/-- A session token is refused as unknown, if it shares its fingerprint with none of the tokens but
itself. -/
lemma step_resetPassword (hkinds : KeepsKinds service tokens w) (h : Fault.OnlyMail w.faults)
    {token : String} (htoken : service.codec.IsSessionToken token)
    (hcollision : ∀ other ∈ tokens, fingerprint token = fingerprint other → token = other)
    (password : String) (salt : Bytes) :
    World.step service w (.resetPassword token password salt) =
      (.refused (.notFound "User with provided token not found"), w) := by
  refine step_resetPassword_of_none h password salt (Option.eq_none_iff_forall_ne_some.mpr ?_)
  intro r hr
  obtain ⟨other, hother, hfingerprint, hreset⟩ := hkinds.stored _ r hr
  obtain rfl := hcollision other hother hfingerprint
  exact htoken.not_isResetToken hreset

end KeepsKinds

/-- **Neither kind of credential is taken for the other**, on any run and whatever the clock shows.
At any moment of the run, a token that the run sends out in a message speaks for nobody and ends
nothing when it is presented as a session, and a session token of the run is refused as unknown when
it is presented to reset a password; in neither case does anything change. No session token is to
have the fingerprint of another token that comes up on the run to reset a password. -/
theorem kinds_apart {start : Int64} {operations : List Operation}
    (hmail : ∀ operation ∈ operations, operation.DisturbsOnlyMail)
    (hcollision : ∀ t ∈ sessions service (fresh start) operations,
      ∀ token ∈ resetTokens service (fresh start) operations,
        fingerprint t.token = fingerprint token → t.token = token)
    {first : List Operation} (hfirst : first <+: operations) :
    let w := after service (fresh start) first
    (∀ recipient token, .passwordReset recipient token ∈
        (after service (fresh start) operations).backend.sent →
      step service w (.verify token) = (.ok none, w) ∧
        step service w (.logout token) = (.ok (), w)) ∧
      ∀ t ∈ sessions service (fresh start) operations, ∀ password salt,
        step service w (.resetPassword t.token password salt) =
          (.refused (.notFound "User with provided token not found"), w) := by
  intro w
  obtain ⟨later, rfl⟩ := hfirst
  have hbefore : ∀ operation ∈ first, operation.DisturbsOnlyMail :=
    fun operation hop => hmail operation (List.mem_append_left _ hop)
  have h : Fault.OnlyMail w.faults := onlyMail_after Fault.onlyMail_empty hbefore
  have hfresh : KeepsKinds service (resetTokens service (fresh start) (first ++ later))
      (fresh start) := .fresh start
  have hkinds : KeepsKinds service (resetTokens service (fresh start) (first ++ later)) w := by
    refine hfresh.run Fault.onlyMail_empty hbefore ?_
    intro token ht
    rw [resetTokens_append]
    exact List.mem_append_left _ ht
  refine ⟨?_, ?_⟩
  · intro recipient token hsent
    have hend := hfresh.run Fault.onlyMail_empty hmail fun token ht => ht
    obtain ⟨recipient', token', hmessage, hreset⟩ := hend.sent _ hsent
    obtain rfl := Mail.Message.token_eq_of_passwordReset_eq hmessage
    exact ⟨step_verify_of_isResetToken h hreset, step_logout_of_isResetToken h hreset⟩
  · intro t ht password salt
    exact hkinds.step_resetPassword h
      (isSessionToken_of_mem_sessions Fault.onlyMail_empty hmail ht) (hcollision t ht) password salt

/-- The session that Ana's registration opens. -/
def anaSession : IssuedSession where
  token := Session.issue Service.sample.codec 1 .user "first" (.ofSecond 1709294400)
  id := "first"
  userId := 1
  role := .user
  second := 1709294400

lemma sessions_sampleRun : sessions .sample (fresh 1709294400) sampleRun = [anaSession] := by
  have hopened : opened? .sample (fresh 1709294400) sampleRegistration = some anaSession := by
    rw [sampleRegistration, opened?, step_register Fault.onlyMail_empty]
    rfl
  rw [sampleRun, sessions, hopened]
  rfl

lemma resetTokens_sampleRun :
    resetTokens .sample (fresh 1709294400) sampleRun = [sampleReset.token] := by
  show [] ++ (((requested? .sample sampleWorld (.requestReset "a@b.co")).map
    IssuedReset.token).toList ++ []) = _
  rw [(requested?_sample rfl store_sampleWorld.1).1]
  rfl

/-- Once she has asked for a reset credential, the credential that was sent to her speaks for nobody
and ends nothing, and her session's token resets no password. -/
theorem kinds_apart_sample :
    let w := after .sample (fresh 1709294400) sampleRun
    (step .sample w (.verify sampleReset.token) = (.ok none, w) ∧
        step .sample w (.logout sampleReset.token) = (.ok (), w)) ∧
      step .sample w (.resetPassword anaSession.token "second" []) =
        (.refused (.notFound "User with provided token not found"), w) := by
  have hmail : ∀ operation ∈ sampleRun, operation.DisturbsOnlyMail := by
    simp [sampleRun, sampleRegistration, Operation.DisturbsOnlyMail]
  have hfingerprint : fingerprint anaSession.token ≠ fingerprint sampleReset.token := by
    decide +kernel
  have hcollision : ∀ t ∈ sessions .sample (fresh 1709294400) sampleRun,
      ∀ token ∈ resetTokens .sample (fresh 1709294400) sampleRun,
        fingerprint t.token = fingerprint token → t.token = token := by
    rw [sessions_sampleRun, resetTokens_sampleRun]
    intro t ht token htoken hsame
    obtain rfl := List.mem_singleton.mp ht
    obtain rfl := List.mem_singleton.mp htoken
    exact absurd hsame hfingerprint
  have hsent : .passwordReset "a@b.co" sampleReset.token ∈
      (after .sample (fresh 1709294400) sampleRun).backend.sent :=
    List.mem_singleton_self (Mail.Message.passwordReset "a@b.co" sampleReset.token)
  obtain ⟨hreset, hsession⟩ := kinds_apart hmail hcollision (List.prefix_refl sampleRun)
  refine ⟨hreset _ _ hsent, hsession anaSession ?_ "second" []⟩
  rw [sessions_sampleRun]
  exact List.mem_singleton_self anaSession

end World
end AccountAccess
