import AccountAccess.Proofs.Mail.ResetMessage
import AccountAccess.Proofs.Reset.Issued
import AccountAccess.Proofs.Service.Transcript
import AccountAccess.Proofs.Time.Calendar

/-!
What a request for a reset credential sends when its collaborators fail.

* `PasswordReset.SentFor`: a message carries the credential that a record is filed for, both are for
  one account, and the credential is accepted from then on for its lifetime and the leeway.
* `PasswordReset.RequestCourse`: the five courses that a request can take, each with its calls and
  its end. `PasswordReset.requestCourse_of_runs`: it takes no other.
* `PasswordReset.OrderlyRequest`: what all of them have in common. Nothing is sent before its record
  is stored, and no account is touched.
* `PasswordReset.request_orderly`: whatever the store and the mailer answer, a request is of this
  kind.
-/

namespace AccountAccess

/-- The call may change an account. -/
def Request.ChangesAccounts : Request → Prop
  | createAccount _ | updatePassword _ _ => True
  | _ => False

/-- What changes no account in memory. -/
lemma Backend.accounts_answer (b : Backend) {request : Request} (h : ¬ request.ChangesAccounts) :
    (b.answer request).2.store.accounts = b.store.accounts := by
  cases request with
  | createAccount | updatePassword => exact absurd trivial h
  | _ => rfl

/-- Nor does it under faults. -/
lemma Fault.accounts_disturbed (limit : Duration) (plan : Plan) (b : Backend) {request : Request}
    (h : ¬ request.ChangesAccounts) :
    (disturbed limit plan Backend.answer b request).2.store.accounts = b.store.accounts := by
  rcases disturbed_snd limit plan Backend.answer b request with heffect | hnone
  · rw [heffect, b.accounts_answer h]
  · rw [hnone]

namespace PasswordReset

/-! ### The record and the message -/

/-- The record that a request stores for an account. -/
def recordFor (config : AccessConfig) (codec : Codec) (account : Account) (clock : Reading)
    (expiresAt : Instant) : ResetRecord :=
  .ofToken account.email (codec.encode (claims config codec account clock)) clock.now expiresAt

/-- The message that a request sends for an account. -/
def messageFor (config : AccessConfig) (codec : Codec) (account : Account) (clock : Reading) :
    Mail.Message :=
  .passwordReset account.email (codec.encode (claims config codec account clock))

/-- A token is a reset credential of an account that is issued at an instant, with these claims. -/
structure IsResetOf (config : AccessConfig) (codec : Codec) (account : Account) (issued : Instant)
    (token : String) (c : Claims) : Prop where
  id_eq : c.id = none
  subject_eq : c.subject = Decimal.text account.id.toInt
  userId_eq : c.userId = account.id
  role_eq : c.role = account.role config
  issuedAt_eq : c.issuedAt.toInt = issued.unix
  notBefore_eq : c.notBefore.toInt = issued.unix
  expires_eq : c.expires.toInt = issued.unix + Claims.resetLifetime
  accepted : codec.decode token (.ofInstant issued) = .ok c
  accepted_iff : ∀ now : Int64, codec.decodeAt token now = .ok c ↔
    issued.unix - codec.leeway ≤ now.toInt ∧
      now.toInt ≤ issued.unix + Claims.resetLifetime + codec.leeway

/-- A record and a message are for one account, and for one reset credential of it. -/
structure SentFor (config : AccessConfig) (codec : Codec) (account : Account) (issued : Instant)
    (r : ResetRecord) (m : Mail.Message) : Prop where
  recipient_eq : m.recipient = account.email
  email_eq : r.email = account.email
  createdAt_eq : r.createdAt = issued
  expiresAt_eq : issued.addSeconds? Claims.resetLifetime = some r.expiresAt
  carried : ∃ token c, m.resetToken? = some token ∧ r.fingerprint = fingerprint token ∧
    IsResetOf config codec account issued token c

section

variable {issued : Instant} (hstart : 0 ≤ issued.unix)
  (hend : issued.unix + Claims.resetLifetime ≤ Instant.lastSecond)
include hstart hend

/-- What a request issues is a reset credential of the account. -/
lemma isResetOf_claims (config : AccessConfig) (codec : Codec) (account : Account) :
    IsResetOf config codec account issued
      (codec.encode (claims config codec account (.ofInstant issued)))
      (claims config codec account (.ofInstant issued)) := by
  have hlifetime := Claims.resetLifetime_nonneg
  have hfirst : Instant.firstSecond ≤ 0 := by decide
  have hissued : issued.InCalendar := ⟨by omega, by omega⟩
  have hnotBefore : (claims config codec account (.ofInstant issued)).notBefore.toInt =
      issued.unix := codec.notBefore_issue_eq hissued _ _ _ _
  have hexpires : (claims config codec account (.ofInstant issued)).expires.toInt =
      issued.unix + Claims.resetLifetime :=
    codec.expires_issue_eq hissued _ _ _ hlifetime (by decide)
  have hread := codec.read_encode_eq_ok (c := claims config codec account (.ofInstant issued))
    (by omega) (by omega) rfl
  have hiff : ∀ now : Int64, codec.decodeAt
        (codec.encode (claims config codec account (.ofInstant issued))) now =
        .ok (claims config codec account (.ofInstant issued)) ↔
      issued.unix - codec.leeway ≤ now.toInt ∧
        now.toInt ≤ issued.unix + Claims.resetLifetime + codec.leeway := by
    intro now
    rw [Codec.decodeAt_eq_ok_iff, hnotBefore, hexpires]
    exact and_iff_right hread
  have hnow := hissued.toInt_unixNow
  exact {
    id_eq := rfl
    subject_eq := rfl
    userId_eq := rfl
    role_eq := rfl
    issuedAt_eq := hnotBefore
    notBefore_eq := hnotBefore
    expires_eq := hexpires
    accepted := (hiff _).mpr ⟨by omega, by omega⟩
    accepted_iff := hiff }

/-- The calendar holds the expiry of what is issued. -/
lemma exists_expiresAt : ∃ expiresAt, issued.addSeconds? Claims.resetLifetime = some expiresAt := by
  have hlifetime := Claims.resetLifetime_nonneg
  have hfirst : Instant.firstSecond ≤ 0 := by decide
  rw [Instant.addSeconds?_eq, if_pos ⟨by omega, hend⟩]
  exact ⟨_, rfl⟩

/-- The record and the message of a request are for one account. -/
lemma sentFor (config : AccessConfig) (codec : Codec) (account : Account) {expiresAt : Instant}
    (hexpiry : issued.addSeconds? Claims.resetLifetime = some expiresAt) :
    SentFor config codec account issued
      (recordFor config codec account (.ofInstant issued) expiresAt)
      (messageFor config codec account (.ofInstant issued)) where
  recipient_eq := rfl
  email_eq := rfl
  createdAt_eq := rfl
  expiresAt_eq := hexpiry
  carried := ⟨_, _, Mail.Message.resetToken?_passwordReset _ (codec.lt_notMem_encode _), rfl,
    isResetOf_claims hstart hend config codec account⟩

end

/-! ### The courses of a request -/

/-- The lookup of the account of an address. -/
abbrev accountLookup (email : String) (reply : Reply (Option Account)) : Exchange :=
  ⟨.findByEmail email, reply⟩

/-- The storing of a record in place of the other ones of its account. -/
abbrev replacement (r : ResetRecord) (reply : Reply Nat) : Exchange := ⟨.replaceReset r, reply⟩

/-- The sending of a message. -/
abbrev sending (m : Mail.Message) (reply : Reply Unit) : Exchange := ⟨.send m, reply⟩

/-- A request for an address can make these calls and end so, where its record is to expire at an
instant. -/
inductive RequestCourse (config : AccessConfig) (codec : Codec) (email : String) (clock : Reading)
    (expiresAt : Instant) : List Exchange → Outcome Unit → Prop
  /-- The store does not say whether it has an account. -/
  | lookupFailed {reply : Reply (Option Account)} {reason : Failure}
      (hfailure : (accountLookup email reply).failure? = some reason) :
      RequestCourse config codec email clock expiresAt [accountLookup email reply] (.refused reason)
  /-- There is no account. -/
  | unknown :
      RequestCourse config codec email clock expiresAt [accountLookup email (.value none)]
        (.refused (.notFound "User not registered"))
  /-- The record is not known to be stored. -/
  | replacementFailed (account : Account) {reply : Reply Nat} {reason : Failure}
      (hfailure : (replacement (recordFor config codec account clock expiresAt) reply).failure? =
        some reason) :
      RequestCourse config codec email clock expiresAt
        [accountLookup email (.value (some account)),
          replacement (recordFor config codec account clock expiresAt) reply]
        (.refused reason)
  /-- The record is stored, and the message is not known to be sent. -/
  | sendingFailed (account : Account) (superseded : Nat) {reply : Reply Unit} {reason : Failure}
      (hfailure : (sending (messageFor config codec account clock) reply).failure? = some reason) :
      RequestCourse config codec email clock expiresAt
        [accountLookup email (.value (some account)),
          replacement (recordFor config codec account clock expiresAt) (.value superseded),
          sending (messageFor config codec account clock) reply]
        (.refused reason)
  /-- The record is stored, and the message is sent. -/
  | done (account : Account) (superseded : Nat) :
      RequestCourse config codec email clock expiresAt
        [accountLookup email (.value (some account)),
          replacement (recordFor config codec account clock expiresAt) (.value superseded),
          sending (messageFor config codec account clock) (.value ())]
        (.ok ())

section

variable {config : AccessConfig} {codec : Codec} {email : String} {clock : Reading}
  {expiresAt : Instant} {calls : List Exchange} {outcome : Outcome Unit}

/-- A request takes one of its courses. -/
lemma requestCourse_of_runs (hexpiry : clock.now.addSeconds? Claims.resetLifetime = some expiresAt)
    (h : (request config codec email clock).Runs calls outcome) :
    RequestCourse config codec email clock expiresAt calls outcome := by
  rw [request] at h
  rcases h.ask_bind_cases with ⟨found, rest, rfl, hrest⟩ | ⟨reply, reason, hfailure, rfl, rfl⟩
  swap
  · exact .lookupFailed hfailure
  cases found with
  | none =>
      obtain ⟨rfl, rfl⟩ := hrest.ended_cases
      exact .unknown
  | some account =>
      rw [hexpiry] at hrest
      rcases hrest.ask_bind_cases with
        ⟨superseded, rest', rfl, hrest'⟩ | ⟨reply, reason, hfailure, rfl, rfl⟩
      swap
      · exact .replacementFailed account hfailure
      obtain ⟨reply, rfl, ⟨-, rfl, rfl⟩ | ⟨reason, hfailure, rfl⟩⟩ := hrest'.ask_cases
      · exact .done account superseded
      · exact .sendingFailed account superseded hfailure

/-- A request goes on only with answers. -/
lemma isStrict_request : (request config codec email clock).IsStrict := by
  refine (Flow.isStrict_ask _).bind fun found => ?_
  cases found with
  | none => exact Flow.isStrict_ended _
  | some account =>
      have hinstant : ∀ i?, (Flow.instant i?).IsStrict := by
        rintro (_ | i) <;> exact Flow.isStrict_ended _
      refine (hinstant _).bind fun _ => ?_
      exact (Flow.isStrict_ask _).bind fun _ => Flow.isStrict_ask _

end

/-! ### What the courses have in common -/

/-- What the calls of a request are and what it ends with, whatever they are answered. -/
structure OrderlyRequest (config : AccessConfig) (codec : Codec) (email : String) (now : Instant)
    (calls : List Exchange) (outcome : Outcome Unit) : Prop where
  /-- The calls are the first ones of a lookup, a replacement and a sending, of a record and a
  message that are for the account that was found. -/
  inOrder : ∃ r m, calls.map Exchange.request <+: [.findByEmail email, .replaceReset r, .send m] ∧
    ∀ account, accountLookup email (.value (some account)) ∈ calls →
      SentFor config codec account now r m
  /-- A record is stored only if an account was found. -/
  stored : ∀ r reply, replacement r reply ∈ calls →
    ∃ account, accountLookup email (.value (some account)) ∈ calls
  /-- A message is sent only if the record was stored. -/
  sent : ∀ m reply, sending m reply ∈ calls →
    ∃ r superseded, replacement r (.value superseded) ∈ calls
  /-- A request succeeds exactly if all three calls did. -/
  ok_iff : outcome = .ok () ↔
    ∃ account r superseded m, calls = [accountLookup email (.value (some account)),
      replacement r (.value superseded), sending m (.value ())]
  /-- An address without an account is not found. -/
  unknown : accountLookup email (.value none) ∈ calls →
    outcome = .refused (.notFound "User not registered")
  /-- A call that fails is the last one, and its failure is the end. -/
  failed : ∀ x ∈ calls, ∀ reason, x.failure? = some reason →
    outcome = .refused reason ∧ calls.getLast? = some x
  /-- There is no other end. -/
  ended : outcome = .ok () ∨ accountLookup email (.value none) ∈ calls ∨
    ∃ x ∈ calls, ∃ reason, x.failure? = some reason
  keepsAccounts : ∀ x ∈ calls, ¬ x.request.ChangesAccounts

namespace RequestCourse

variable {config : AccessConfig} {codec : Codec} {email : String} {clock : Reading}
  {expiresAt : Instant} {calls : List Exchange} {outcome : Outcome Unit}
  (h : RequestCourse config codec email clock expiresAt calls outcome)
include h

lemma inOrder : ∃ account,
    calls.map Exchange.request <+: [.findByEmail email,
      .replaceReset (recordFor config codec account clock expiresAt),
      .send (messageFor config codec account clock)] ∧
    ∀ account', accountLookup email (.value (some account')) ∈ calls → account' = account := by
  -- without an account only the lookup is made, and any account will do
  have nobody : Account := ⟨0, "", "", "", false⟩
  cases h with
  | lookupFailed hfailure =>
      have hne := Exchange.ne_value_of_failure? hfailure
      exact ⟨nobody, by simp, by simp [fun a => (hne (some a)).symm]⟩
  | unknown => exact ⟨nobody, by simp, by simp⟩
  | replacementFailed account | sendingFailed account | done account =>
      exact ⟨account, by simp, by simp⟩

lemma stored (r : ResetRecord) (reply : Reply Nat) (hmem : replacement r reply ∈ calls) :
    ∃ account, accountLookup email (.value (some account)) ∈ calls := by
  cases h with
  | replacementFailed account | sendingFailed account | done account => exact ⟨account, by simp⟩
  | _ => simp at hmem

lemma sent (m : Mail.Message) (reply : Reply Unit) (hmem : sending m reply ∈ calls) :
    ∃ r superseded, replacement r (.value superseded) ∈ calls := by
  cases h with
  | sendingFailed account superseded | done account superseded =>
      exact ⟨recordFor config codec account clock expiresAt, superseded, by simp⟩
  | _ => simp at hmem

lemma ok_iff : outcome = .ok () ↔
    ∃ account r superseded m, calls = [accountLookup email (.value (some account)),
      replacement r (.value superseded), sending m (.value ())] := by
  cases h with
  | sendingFailed account superseded hfailure =>
      have hne := Exchange.ne_value_of_failure? hfailure ()
      simp [hne]
  | _ => simp

lemma refused_of_unknown (hmem : accountLookup email (.value none) ∈ calls) :
    outcome = .refused (.notFound "User not registered") := by
  cases h with
  | lookupFailed hfailure =>
      have hne := Exchange.ne_value_of_failure? hfailure none
      simp [hne.symm] at hmem
  | unknown => rfl
  | _ => simp at hmem

lemma ended : outcome = .ok () ∨ accountLookup email (.value none) ∈ calls ∨
    ∃ x ∈ calls, ∃ reason, x.failure? = some reason := by
  cases h with
  | unknown => simp
  | done account superseded => exact Or.inl rfl
  | lookupFailed hfailure | replacementFailed _ hfailure | sendingFailed _ _ hfailure =>
      simp [hfailure]

lemma keepsAccounts : ∀ x ∈ calls, ¬ x.request.ChangesAccounts := by
  cases h <;> simp [Request.ChangesAccounts]

end RequestCourse

/-- **A request with failing collaborators.** Whatever the store and the mailer answer, and if they
do not, a request goes on in order, sends nothing before the record of what is sent is stored, ends
with the first thing that fails, and changes no account. -/
theorem request_orderly {σ : Type} (answer : Flow.Handler σ) (s : σ) (config : AccessConfig)
    (codec : Codec) (email : String) {now : Instant} (hstart : 0 ≤ now.unix)
    (hend : now.unix + Claims.resetLifetime ≤ Instant.lastSecond) :
    let flow := request config codec email (.ofInstant now)
    OrderlyRequest config codec email now (flow.transcript answer s) (flow.run answer s).1 ∧
      ∀ {β : Type} (view : σ → β),
        (∀ s request, ¬ request.ChangesAccounts → view (answer s request).2 = view s) →
          view (flow.run answer s).2 = view s := by
  intro flow
  have hruns : flow.Runs (flow.transcript answer s) (flow.run answer s).1 :=
    Flow.runs_transcript flow
  obtain ⟨expiresAt, hexpiry⟩ := exists_expiresAt hstart hend
  have hcourse := requestCourse_of_runs hexpiry hruns
  refine ⟨?_, fun view hview => Flow.run_view hview hcourse.keepsAccounts⟩
  obtain ⟨account, hprefix, haccount⟩ := hcourse.inOrder
  have hsent := sentFor hstart hend config codec account hexpiry
  exact {
    inOrder := ⟨_, _, hprefix, fun account' hfound => haccount account' hfound ▸ hsent⟩
    stored := hcourse.stored
    sent := hcourse.sent
    ok_iff := hcourse.ok_iff
    unknown := hcourse.refused_of_unknown
    failed := fun x hx reason hfailure => isStrict_request.of_failure? hruns hx hfailure
    ended := hcourse.ended
    keepsAccounts := hcourse.keepsAccounts }

/-- With an account and a store that answers, the message is all that can fail. -/
lemma transcript_request {σ : Type} {answer : Flow.Handler σ} {s s' s'' : σ}
    {config : AccessConfig} {codec : Codec} {email : String} {clock : Reading} {account : Account}
    {expiresAt : Instant} {superseded : Nat}
    (hexpiry : clock.now.addSeconds? Claims.resetLifetime = some expiresAt)
    (hfind : answer s (.findByEmail email) = (.value (some account), s'))
    (hreplace : answer s' (.replaceReset (recordFor config codec account clock expiresAt)) =
      (.value superseded, s'')) :
    (request config codec email clock).transcript answer s =
      [accountLookup email (.value (some account)),
        replacement (recordFor config codec account clock expiresAt) (.value superseded),
        sending (messageFor config codec account clock)
          (answer s'' (.send (messageFor config codec account clock))).1] := by
  rw [request, Flow.transcript_ask_bind hfind]
  dsimp only
  rw [hexpiry]
  show _ :: Flow.transcript answer
    (Flow.ask (.replaceReset (recordFor config codec account clock expiresAt)) >>= fun _ =>
      Flow.ask (.send (messageFor config codec account clock))) s' = _
  rw [Flow.transcript_ask_bind hreplace, Flow.transcript_ask]

/-- A mailer that is too slow for any limit below a second. -/
def slowMail : Fault.Plan := (∅ : Fault.Plan).insert .send ⟨none, 1000, false⟩

lemma onlyMail_slowMail : Fault.OnlyMail slowMail := by
  intro kind hkind
  rw [slowMail, Table.get?_insert, if_neg hkind]
  rfl

/-- If the message to Ana is not sent in time, its record is stored, and her account is as it was.
-/
theorem request_orderly_slow_mail :
    let noon := Instant.ofUnix 1709294400
    let flow := request Service.sample.config Service.sample.codec "a@b.co" (.ofInstant noon)
    let answer := Fault.disturbed .zero slowMail Backend.answer
    let b := World.sampleWorld.backend
    0 ≤ noon.unix ∧ noon.unix + Claims.resetLifetime ≤ Instant.lastSecond ∧
      (flow.run answer b).1 = .refused (.timeout "reset email") ∧
      (∃ r m superseded, replacement r (.value superseded) ∈ flow.transcript answer b ∧
        SentFor Service.sample.config Service.sample.codec World.sampleAccount noon r m) ∧
      (flow.run answer b).2.store.accounts = b.store.accounts := by
  intro noon flow answer b
  have hstart : 0 ≤ noon.unix := by decide
  have hend : noon.unix + Claims.resetLifetime ≤ Instant.lastSecond := by decide
  obtain ⟨expiresAt, hexpiry⟩ := exists_expiresAt hstart hend
  have hfind : answer b (.findByEmail "a@b.co") = (.value (some World.sampleAccount), b) := by
    rw [← World.store_sampleWorld.1]
    exact onlyMail_slowMail.disturbed_eq Request.Kind.noConfusion
  obtain ⟨superseded, after, hreplace⟩ : ∃ superseded after, answer b (.replaceReset (recordFor
      Service.sample.config Service.sample.codec World.sampleAccount (.ofInstant noon) expiresAt)) =
        (.value superseded, after) :=
    ⟨_, _, onlyMail_slowMail.disturbed_eq Request.Kind.noConfusion⟩
  have hcalls := transcript_request hexpiry hfind hreplace
  obtain ⟨horderly, hview⟩ := request_orderly answer b Service.sample.config Service.sample.codec
    "a@b.co" hstart hend
  refine ⟨hstart, hend, ?_, ?_, ?_⟩
  · refine (horderly.failed (sending (messageFor Service.sample.config Service.sample.codec
      World.sampleAccount (.ofInstant noon)) .silent) ?_ _ rfl).1
    rw [hcalls]
    exact List.mem_cons_of_mem _ (List.mem_cons_of_mem _ List.mem_cons_self)
  · obtain ⟨r, m, hprefix, hfor⟩ := horderly.inOrder
    rw [hcalls] at hprefix hfor
    obtain ⟨rfl, rfl⟩ : recordFor _ _ _ _ _ = r ∧ messageFor _ _ _ _ = m := by simpa using hprefix
    refine ⟨_, _, superseded, ?_, hfor World.sampleAccount List.mem_cons_self⟩
    rw [hcalls]
    exact List.mem_cons_of_mem _ List.mem_cons_self
  · exact hview (fun b => b.store.accounts) fun b request h => Fault.accounts_disturbed _ _ b h

end PasswordReset
end AccountAccess
