import AccountAccess.Proofs.Credential.Seconds
import AccountAccess.Proofs.Reset.Issued
import AccountAccess.Proofs.Password.RoundTrip
import AccountAccess.Proofs.Service.Transcript

/-!
What becomes of a reset of a password when its collaborators fail.

* `PasswordReset.ConsumeCourse`: the six courses that a reset can take, each with its calls and its
  end. `PasswordReset.consumeCourse_of_runs`: it takes no other.
* `PasswordReset.OrderlyConsume`: what all of them have in common. No password is touched for a
  credential that is refused, and no record is deleted before its password is set.
* `PasswordReset.consume_orderly`: whatever the store answers, a reset is of this kind.
-/

namespace AccountAccess.PasswordReset

/-! ### The courses of a reset -/

/-- The lookup of the record of a token. -/
abbrev lookup (token : String) (reply : Reply (Option ResetRecord)) : Exchange :=
  ⟨.findReset (fingerprint token), reply⟩

/-- The update of the password of an address. -/
abbrev update (email hash : String) (reply : Reply Unit) : Exchange :=
  ⟨.updatePassword email hash, reply⟩

/-- The deletion of the record of a token. -/
abbrev deletion (token : String) (reply : Reply Unit) : Exchange :=
  ⟨.deleteReset (fingerprint token), reply⟩

/-- A reset with a token, to a password with a hash, can make these calls and end so. -/
inductive ConsumeCourse (codec : Codec) (token hash : String) (clock : Reading) :
    List Exchange → Outcome Unit → Prop
  /-- The store does not say whether it has a record. -/
  | lookupFailed {reply : Reply (Option ResetRecord)} {reason : Failure}
      (hfailure : (lookup token reply).failure? = some reason) :
      ConsumeCourse codec token hash clock [lookup token reply] (.refused reason)
  /-- There is no record. -/
  | unknown :
      ConsumeCourse codec token hash clock [lookup token (.value none)]
        (.refused (.notFound "User with provided token not found"))
  /-- There is a record, and the token is refused. -/
  | undecodable (r : ResetRecord) {e : CredentialError}
      (hdecode : codec.decode token clock = .error e) :
      ConsumeCourse codec token hash clock [lookup token (.value (some r))]
        (.refused .invalidCredential)
  /-- The password is not known to be set. -/
  | updateFailed (r : ResetRecord) {c : Claims} (hdecode : codec.decode token clock = .ok c)
      {reply : Reply Unit} {reason : Failure}
      (hfailure : (update r.email hash reply).failure? = some reason) :
      ConsumeCourse codec token hash clock
        [lookup token (.value (some r)), update r.email hash reply] (.refused reason)
  /-- The password is set, and the record is not known to be deleted. -/
  | deletionFailed (r : ResetRecord) {c : Claims} (hdecode : codec.decode token clock = .ok c)
      {reply : Reply Unit} {reason : Failure}
      (hfailure : (deletion token reply).failure? = some reason) :
      ConsumeCourse codec token hash clock
        [lookup token (.value (some r)), update r.email hash (.value ()), deletion token reply]
        (.refused reason)
  /-- The password is set, and the record is deleted. -/
  | done (r : ResetRecord) {c : Claims} (hdecode : codec.decode token clock = .ok c) :
      ConsumeCourse codec token hash clock
        [lookup token (.value (some r)), update r.email hash (.value ()),
          deletion token (.value ())]
        (.ok ())

section

variable {codec : Codec} {hasher : PasswordHasher} {token password : String} {salt : Bytes}
  {clock : Reading} {calls : List Exchange} {outcome : Outcome Unit}

/-- A reset takes one of its courses. -/
lemma consumeCourse_of_runs
    (h : (consume codec hasher token password salt clock).Runs calls outcome) :
    ConsumeCourse codec token (hasher.hash salt password) clock calls outcome := by
  rw [consume] at h
  rcases h.ask_bind_cases with ⟨found, rest, rfl, hrest⟩ | ⟨reply, reason, hfailure, rfl, rfl⟩
  swap
  · exact .lookupFailed hfailure
  cases found with
  | none =>
      obtain ⟨rfl, rfl⟩ := hrest.ended_cases
      exact .unknown
  | some r =>
      cases hdecode : codec.decode token clock with
      | error e =>
          rw [hdecode] at hrest
          obtain ⟨rfl, rfl⟩ := hrest.ended_cases
          rw [show e.toFailure = _ from Codec.toFailure_of_decodeAt hdecode]
          exact .undecodable r hdecode
      | ok c =>
          rw [hdecode] at hrest
          rcases hrest.ask_bind_cases with
            ⟨-, rest', rfl, hrest'⟩ | ⟨reply, reason, hfailure, rfl, rfl⟩
          swap
          · exact .updateFailed r hdecode hfailure
          obtain ⟨reply, rfl, ⟨-, rfl, rfl⟩ | ⟨reason, hfailure, rfl⟩⟩ := hrest'.ask_cases
          · exact .done r hdecode
          · exact .deletionFailed r hdecode hfailure

/-- A reset goes on only with answers. -/
lemma isStrict_consume : (consume codec hasher token password salt clock).IsStrict := by
  refine (Flow.isStrict_ask _).bind fun found => ?_
  cases found with
  | none => exact Flow.isStrict_ended _
  | some r =>
      refine (Flow.isStrict_ended _).bind fun _ => ?_
      exact (Flow.isStrict_ask _).bind fun _ => Flow.isStrict_ask _

end

/-! ### What the courses have in common -/

/-- What the calls of a reset are and what it ends with, whatever they are answered. -/
structure OrderlyConsume (codec : Codec) (token password : String) (clock : Reading)
    (calls : List Exchange) (outcome : Outcome Unit) : Prop where
  /-- The calls are the first ones of a lookup, an update for the address in the record that was
  found, to a hash of the new password, and a deletion. -/
  inOrder : ∃ email hash, calls.map Exchange.request <+:
      [.findReset (fingerprint token), .updatePassword email hash,
        .deleteReset (fingerprint token)] ∧
    (∀ r, lookup token (.value (some r)) ∈ calls → r.email = email) ∧
    ∀ hasher : PasswordHasher, hasher.verify password hash = .ok true
  /-- A password is set only if a record was found and the token is accepted. -/
  updated : ∀ email hash reply, update email hash reply ∈ calls →
    (∃ r, lookup token (.value (some r)) ∈ calls) ∧ ∃ c, codec.decode token clock = .ok c
  /-- A record is deleted only if the password was set. -/
  deleted : ∀ reply, deletion token reply ∈ calls →
    ∃ email hash, update email hash (.value ()) ∈ calls
  /-- A reset succeeds exactly if all three calls did. -/
  ok_iff : outcome = .ok () ↔
    ∃ r hash, calls = [lookup token (.value (some r)), update r.email hash (.value ()),
      deletion token (.value ())]
  /-- Something is not found exactly if there is no record, or a call itself says so. -/
  notFound_iff : (∃ what, outcome = .refused (.notFound what)) ↔
    lookup token (.value none) ∈ calls ∨
      ∃ x ∈ calls, ∃ what, x.failure? = some (.notFound what)
  /-- With a record, a token that is refused is an invalid credential. -/
  undecodable : ∀ r e, lookup token (.value (some r)) ∈ calls →
    codec.decode token clock = .error e → outcome = .refused .invalidCredential
  /-- A call that fails is the last one, and its failure is the end. -/
  failed : ∀ x ∈ calls, ∀ reason, x.failure? = some reason →
    outcome = .refused reason ∧ calls.getLast? = some x
  /-- There is no other end. -/
  ended : outcome = .ok () ∨ lookup token (.value none) ∈ calls ∨
    (∃ r e, lookup token (.value (some r)) ∈ calls ∧ codec.decode token clock = .error e) ∨
    ∃ x ∈ calls, ∃ reason, x.failure? = some reason

namespace ConsumeCourse

variable {codec : Codec} {token hash : String} {clock : Reading} {calls : List Exchange}
  {outcome : Outcome Unit} (h : ConsumeCourse codec token hash clock calls outcome)
include h

lemma inOrder : ∃ email, calls.map Exchange.request <+:
      [.findReset (fingerprint token), .updatePassword email hash,
        .deleteReset (fingerprint token)] ∧
    ∀ r, lookup token (.value (some r)) ∈ calls → r.email = email := by
  cases h with
  | lookupFailed hfailure =>
      have hne := Exchange.ne_value_of_failure? hfailure
      exact ⟨"", by simp, by simp [fun r => (hne (some r)).symm]⟩
  | unknown => exact ⟨"", by simp, by simp⟩
  | undecodable r | updateFailed r | deletionFailed r | done r =>
      exact ⟨r.email, by simp, by simp⟩

lemma updated (email hash' : String) (reply : Reply Unit)
    (hmem : update email hash' reply ∈ calls) :
    (∃ r, lookup token (.value (some r)) ∈ calls) ∧ ∃ c, codec.decode token clock = .ok c := by
  cases h with
  | updateFailed r hdecode | deletionFailed r hdecode | done r hdecode =>
      exact ⟨⟨r, by simp⟩, _, hdecode⟩
  | _ => simp at hmem

lemma deleted (reply : Reply Unit) (hmem : deletion token reply ∈ calls) :
    ∃ email hash, update email hash (.value ()) ∈ calls := by
  cases h with
  | deletionFailed r | done r => exact ⟨r.email, hash, by simp⟩
  | _ => simp at hmem

lemma ok_iff : outcome = .ok () ↔
    ∃ r hash, calls = [lookup token (.value (some r)), update r.email hash (.value ()),
      deletion token (.value ())] := by
  cases h with
  | deletionFailed r hdecode hfailure =>
      have hne := Exchange.ne_value_of_failure? hfailure ()
      simp [hne]
  | _ => simp

lemma notFound_iff : (∃ what, outcome = .refused (.notFound what)) ↔
    lookup token (.value none) ∈ calls ∨
      ∃ x ∈ calls, ∃ what, x.failure? = some (.notFound what) := by
  have hanswered : ∀ (request : Request) (a : request.Answer),
      Exchange.failure? ⟨request, .value a⟩ = none := fun _ _ => rfl
  cases h with
  | lookupFailed hfailure =>
      have hne := Exchange.ne_value_of_failure? hfailure none
      simp [hfailure, hne.symm]
  | updateFailed r hdecode hfailure | deletionFailed r hdecode hfailure =>
      simp [hfailure, hanswered]
  | _ => simp [hanswered]

lemma refused_of_undecodable (r : ResetRecord) (e : CredentialError)
    (hmem : lookup token (.value (some r)) ∈ calls) (herror : codec.decode token clock = .error e) :
    outcome = .refused .invalidCredential := by
  cases h with
  | lookupFailed hfailure =>
      have hne := Exchange.ne_value_of_failure? hfailure (some r)
      simp [hne.symm] at hmem
  | unknown => simp at hmem
  | undecodable r => rfl
  | updateFailed r hdecode | deletionFailed r hdecode | done r hdecode =>
      rw [hdecode] at herror
      cases herror

lemma ended : outcome = .ok () ∨ lookup token (.value none) ∈ calls ∨
    (∃ r e, lookup token (.value (some r)) ∈ calls ∧ codec.decode token clock = .error e) ∨
    ∃ x ∈ calls, ∃ reason, x.failure? = some reason := by
  cases h with
  | lookupFailed hfailure => simp [hfailure]
  | unknown => simp
  | undecodable r hdecode => simp [hdecode]
  | updateFailed r hdecode hfailure | deletionFailed r hdecode hfailure => simp [hfailure]
  | done r => exact Or.inl rfl

end ConsumeCourse

/-- **A reset with failing collaborators.** Whatever the store answers, and if it does not, a reset
goes on in order, sets no password for a credential that is refused, deletes no record before the
password is set, and ends with the first thing that fails. -/
theorem consume_orderly {σ : Type} (answer : Flow.Handler σ) (s : σ) (codec : Codec)
    (hasher : PasswordHasher) (token password : String) {salt : Bytes}
    (hsalt : salt.length = PasswordHasher.saltLength) (clock : Reading) :
    let reset := consume codec hasher token password salt clock
    OrderlyConsume codec token password clock (reset.transcript answer s)
      (reset.run answer s).1 := by
  intro reset
  have hruns : reset.Runs (reset.transcript answer s) (reset.run answer s).1 :=
    Flow.runs_transcript reset
  have hcourse := consumeCourse_of_runs hruns
  obtain ⟨email, hprefix, hemail⟩ := hcourse.inOrder
  exact {
    inOrder := ⟨email, _, hprefix, hemail, fun hasher' => by
      rw [PasswordHasher.verify_hash_eq hasher hasher' hsalt, beq_self_eq_true]⟩
    updated := hcourse.updated
    deleted := hcourse.deleted
    ok_iff := hcourse.ok_iff
    notFound_iff := hcourse.notFound_iff
    undecodable := hcourse.refused_of_undecodable
    failed := fun x hx reason hfailure => isStrict_consume.of_failure? hruns hx hfailure
    ended := hcourse.ended }

/-- A store that finds a record, and answers nothing else in time. -/
def lateStore (r : ResetRecord) : Flow.Handler Unit := fun _ request =>
  (match request with
    | .findReset _ => .value (some r)
    | _ => .silent, ())

/-- With such a store a reset ends with the update. -/
lemma transcript_lateStore (r : ResetRecord) {codec : Codec} (hasher : PasswordHasher)
    {token : String} (password : String) (salt : Bytes) {clock : Reading} {c : Claims}
    (hdecode : codec.decode token clock = .ok c) :
    (consume codec hasher token password salt clock).transcript (lateStore r) () =
      [lookup token (.value (some r)), update r.email (hasher.hash salt password) .silent] := by
  rw [consume, Flow.transcript_ask_bind rfl]
  dsimp only
  rw [hdecode]
  rfl

/-- If the update of Ana's password is not answered in time, her record is not deleted. -/
theorem consume_orderly_late :
    let reset := consume Service.sample.codec Service.sample.hasher World.sampleReset.token "second"
      (List.replicate 16 0) (.ofSecond 1709294400)
    let store := lateStore World.sampleReset.record
    (List.replicate 16 0 : Bytes).length = PasswordHasher.saltLength ∧
      (reset.run store ()).1 = .refused (.timeout "password update") ∧
      ∀ reply, deletion World.sampleReset.token reply ∉ reset.transcript store () := by
  intro reset store
  have hsalt : (List.replicate 16 0 : Bytes).length = PasswordHasher.saltLength := rfl
  have horderly := consume_orderly store () Service.sample.codec Service.sample.hasher
    World.sampleReset.token "second" hsalt (.ofSecond 1709294400)
  have hcalls := transcript_lateStore World.sampleReset.record Service.sample.hasher "second"
    (List.replicate 16 0) World.decode_sampleReset
  refine ⟨hsalt, ?_, ?_⟩
  · exact (horderly.failed _ (hcalls ▸ List.mem_cons_of_mem _ List.mem_cons_self) _ rfl).1
  · intro reply hdeleted
    obtain ⟨email, hash, hupdated⟩ := horderly.deleted reply hdeleted
    rw [hcalls] at hupdated
    simp at hupdated

end AccountAccess.PasswordReset
