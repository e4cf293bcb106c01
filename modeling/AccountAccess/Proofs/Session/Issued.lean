import AccountAccess.Proofs.Service.Run
import AccountAccess.Proofs.Credential.Window
import Mathlib.Data.List.Nodup

/-!
The sessions that are handed out on a run.

* `World.opened?` reads off an operation's answer which session it opened, and `World.sessions`
  lists those of a run.
* `World.read_of_mem_sessions`: the token of each is read as its claims, for as long as anybody
  asks.
* `World.Genuine`: nobody presents a forged session credential to log out. Without that, whoever
  held the key could end the session of somebody else (`World.verify_of_same_id`).
-/

namespace AccountAccess

/-- A session as it was handed out. -/
structure IssuedSession where
  token : String
  id : String
  userId : Int64
  role : Role
  /-- The second of the clock then. -/
  second : Int64

namespace IssuedSession

/-- The session that registration or login hands out. -/
def ofOutcome? (id : String) (second : Int64) : Outcome OpenSession → Option IssuedSession
  | .ok s => some ⟨s.token, id, s.userId, s.role, second⟩
  | _ => none

/-- The claims that were signed for a session. -/
def claims (t : IssuedSession) (issuer : String) : Claims :=
  .issue issuer t.userId t.role (some t.id) (.ofUnix t.second.toInt) Claims.sessionLifetime

end IssuedSession

namespace World

variable {service : Service} {w : World}

/-- The session that an operation opens. -/
def opened? (service : Service) (w : World) : Operation → Option IssuedSession
  | .register fullName email password salt id =>
    IssuedSession.ofOutcome? id w.clock.second
      (step service w (.register fullName email password salt id)).1
  | .login email password id =>
    IssuedSession.ofOutcome? id w.clock.second (step service w (.login email password id)).1
  | .issue userId role id =>
    some ⟨(step service w (.issue userId role id)).1, id, userId, role, w.clock.second⟩
  | _ => none

/-- The sessions that a run opens, in order. -/
def sessions (service : Service) : World → List Operation → List IssuedSession
  | _, [] => []
  | w, operation :: operations =>
    (opened? service w operation).toList ++ sessions service (step service w operation).2 operations

lemma sessions_append (first second : List Operation) :
    sessions service w (first ++ second) =
      sessions service w first ++ sessions service (after service w first) second := by
  induction first generalizing w with
  | nil => rfl
  | cons operation rest ih =>
      simp only [List.cons_append, sessions, after_cons, List.append_assoc]
      rw [ih]

/-! ### Their tokens -/

/-- Who registers opens a session for the account that is then found by the address. -/
lemma exists_openSession_of_register (h : Fault.OnlyMail w.faults)
    {fullName email password id : String} {salt : Bytes} {s : OpenSession}
    (hs : (step service w (.register fullName email password salt id)).1 = .ok s) :
    ∃ account, s = service.openSession account id w.reading ∧
      (step service w (.register fullName email password salt id)).2.backend.store.find? email =
        some account := by
  rw [step_register h] at hs ⊢
  dsimp only at hs ⊢
  split at hs <;> cases hs
  rename_i account hcreated
  exact ⟨account, rfl, (AccountStore.find?_create hcreated email).trans (if_pos rfl)⟩

/-- Who logs in opens a session for the account that is found by the address. -/
lemma exists_openSession_of_login (h : Fault.OnlyMail w.faults) {email password id : String}
    {s : OpenSession} (hs : (step service w (.login email password id)).1 = .ok s) :
    ∃ account, s = service.openSession account id w.reading ∧
      w.backend.store.find? email = some account := by
  rw [step_login h] at hs
  dsimp only at hs
  split at hs
  · cases hs
  · rename_i account hfound
    split at hs <;> cases hs
    exact ⟨account, rfl, hfound⟩

/-- A session that is opened is issued, whatever the clock shows. -/
lemma issue_of_opened? (h : Fault.OnlyMail w.faults) {operation : Operation} {t : IssuedSession}
    (ht : opened? service w operation = some t) :
    t.token = Session.issue service.codec t.userId t.role t.id w.reading ∧
      t.second = w.clock.second := by
  have hopen : ∀ {id : String} {outcome : Outcome OpenSession},
      (∀ s, outcome = .ok s → ∃ account, s = service.openSession account id w.reading) →
      IssuedSession.ofOutcome? id w.clock.second outcome = some t →
      t.token = Session.issue service.codec t.userId t.role t.id w.reading ∧
        t.second = w.clock.second := by
    intro id outcome hok hsome
    cases outcome with
    | ok s =>
        obtain ⟨account, rfl⟩ := hok s rfl
        rw [IssuedSession.ofOutcome?, Option.some.injEq] at hsome
        subst hsome
        exact ⟨rfl, rfl⟩
    | _ => cases hsome
  cases operation with
  | register fullName email password salt id =>
      refine hopen (fun s hs => ?_) ht
      obtain ⟨account, heq, -⟩ := exists_openSession_of_register h hs
      exact ⟨account, heq⟩
  | login email password id =>
      refine hopen (fun s hs => ?_) ht
      obtain ⟨account, heq, -⟩ := exists_openSession_of_login h hs
      exact ⟨account, heq⟩
  | issue userId role id =>
      rw [opened?, Option.some.injEq] at ht
      subst ht
      exact ⟨rfl, rfl⟩
  | _ => cases ht

/-- A session's token spells its claims. -/
lemma token_of_opened? (h : Fault.OnlyMail w.faults)
    (hnow : w.reading.now = .ofUnix w.clock.second.toInt) {operation : Operation}
    {t : IssuedSession} (ht : opened? service w operation = some t) :
    t.token = service.codec.encode (t.claims service.codec.issuer) ∧
      t.second = w.clock.second := by
  obtain ⟨htoken, hsecond⟩ := issue_of_opened? h ht
  refine ⟨?_, hsecond⟩
  rw [htoken, Session.issue, hnow, ← hsecond]
  rfl

end World

/-- The last second at which a session can begin so that no instant about it lies past the
calendar, whatever the leeway. -/
def lastSessionStart : Int := Instant.lastSecond - Claims.sessionLifetime - 300

lemma lastSessionStart_add : lastSessionStart + Claims.sessionLifetime + 300 = Instant.lastSecond :=
  rfl

lemma lastSessionStart_le : lastSessionStart ≤ Instant.lastSecond := by decide

section

variable {t : IssuedSession} (hstart : 0 ≤ t.second.toInt)
  (hend : t.second.toInt ≤ lastSessionStart)
include hstart hend

/-- A session expires fourteen days after the second it was opened at. -/
lemma IssuedSession.expires_claims (issuer : String) :
    (t.claims issuer).expires.toInt = t.second.toInt + Claims.sessionLifetime := by
  have hbound := lastSessionStart_add
  exact Claims.expires_issue hstart Claims.sessionLifetime_nonneg (by omega) _ _ _ _

/-- A session's token is read back as its claims. -/
lemma read_encode_claims (codec : Codec) :
    codec.read (codec.encode (t.claims codec.issuer)) = .ok (t.claims codec.issuer) := by
  have hbound := lastSessionStart_add
  exact Codec.read_encode_issue hstart Claims.sessionLifetime_nonneg (by omega)

end

namespace World

variable {service : Service} {w : World} {operations : List Operation}

/-- The token of a session that is opened on a run is read back as its claims. -/
lemma read_of_mem_sessions (h : Fault.OnlyMail w.faults)
    (hmail : ∀ operation ∈ operations, operation.DisturbsOnlyMail)
    (hclock : RunsForward lastSessionStart w.clock operations) {t : IssuedSession}
    (ht : t ∈ sessions service w operations) :
    service.codec.read t.token = .ok (t.claims service.codec.issuer) := by
  induction operations generalizing w with
  | nil => cases ht
  | cons operation rest ih =>
      obtain ⟨hfirst, hrest⟩ := List.forall_mem_cons.mp hmail
      rw [sessions, List.mem_append] at ht
      rcases ht with hopened | hlater
      · have hnow := hclock.now_eq lastSessionStart_le
        obtain ⟨htoken, hsecond⟩ := token_of_opened? h hnow (Option.mem_toList.mp hopened)
        obtain ⟨hlow, hhigh⟩ := hclock.bounds
        rw [htoken]
        exact read_encode_claims (hsecond ▸ hlow) (hsecond ▸ hhigh) service.codec
      · exact ih (onlyMail_step h hfirst) hrest (hclock.tail service) hlater

/-! ### Genuine credentials -/

/-- Nobody forges a session credential: what is presented to log out, and is read under the key of
the service as a credential with the identifier of a session of the run, is the token of a session
that was opened before. -/
def Genuine (service : Service) (w : World) (operations : List Operation) : Prop :=
  ∀ before token later c id, operations = before ++ .logout token :: later →
    service.codec.read token = .ok c → c.id = some id →
    id ∈ (sessions service w operations).map IssuedSession.id →
    token ∈ (sessions service w before).map IssuedSession.token

/-- Logging out with a credential ends every other one that has its identifier. -/
theorem verify_of_same_id (h : Fault.OnlyMail w.faults) {token other id : String} {needed : Instant}
    {c : Claims} (hentered : Session.entered? service.codec token w.reading = some (id, needed))
    (hread : service.codec.read other = .ok c) (hid : c.id = some id) :
    (step service (step service w (.logout token)).2 (.verify other)).1 = .ok none := by
  have hafter : Fault.OnlyMail (step service w (.logout token)).2.faults := h
  have hrevoked : (step service w (.logout token)).2.backend.ledger.isRevoked id = true := by
    rw [step_ledger h]
    dsimp only
    rw [hentered, Option.elim_some, RevocationLedger.isRevoked_revoke, beq_self_eq_true,
      Bool.true_or]
  rw [step_verify hafter]
  cases hdecode : service.codec.decode other (step service w (.logout token)).2.reading with
  | error e => rfl
  | ok c' =>
      have hsame := (Codec.decodeAt_eq_ok_iff.mp hdecode).1
      rw [hread, Except.ok.injEq] at hsame
      subst hsame
      simp only [hid, Option.bind_some, hrevoked, if_true]

/-- Where credentials are genuine and identifiers are not repeated, what is presented to log out
with the identifier of a session is the token of that session, and was handed out before. -/
lemma Genuine.token_eq (hgenuine : Genuine service w operations) (h : Fault.OnlyMail w.faults)
    (hmail : ∀ operation ∈ operations, operation.DisturbsOnlyMail)
    (hclock : RunsForward lastSessionStart w.clock operations)
    (hids : ((sessions service w operations).map IssuedSession.id).Nodup)
    {t : IssuedSession} (ht : t ∈ sessions service w operations)
    {before later : List Operation} {token : String}
    (hsplit : operations = before ++ .logout token :: later) {c : Claims}
    (hread : service.codec.read token = .ok c) (hid : c.id = some t.id) :
    token = t.token ∧ t ∈ sessions service w before := by
  obtain ⟨other, hother, htoken⟩ := List.mem_map.mp
    (hgenuine before token later c t.id hsplit hread hid (List.mem_map_of_mem ht))
  have hmem : other ∈ sessions service w operations := by
    rw [hsplit, sessions_append]
    exact List.mem_append_left _ hother
  have hclaims := read_of_mem_sessions h hmail hclock hmem
  rw [htoken, hread, Except.ok.injEq] at hclaims
  have hsame : other.id = t.id := by
    rw [hclaims] at hid
    exact Option.some.inj hid
  obtain rfl := List.inj_on_of_nodup_map hids hmem ht hsame
  exact ⟨htoken.symm, hother⟩

/-- The sessions of a run, around one of them. -/
lemma sessions_around {before : List Operation} {operation : Operation} {t : IssuedSession}
    (ht : opened? service (after service w before) operation = some t) (later : List Operation) :
    sessions service w (before ++ operation :: later) =
      sessions service w before ++ t :: sessions service
        (after service w (before ++ [operation])) later := by
  rw [sessions_append, sessions, ht, after_append]
  rfl

section

variable {before later : List Operation} {operation : Operation} {t : IssuedSession}
  (hgenuine : Genuine service w (before ++ operation :: later)) (h : Fault.OnlyMail w.faults)
  (hmail : ∀ op ∈ before ++ operation :: later, op.DisturbsOnlyMail)
  (hclock : RunsForward lastSessionStart w.clock (before ++ operation :: later))
  (hids : ((sessions service w (before ++ operation :: later)).map IssuedSession.id).Nodup)
  (ht : opened? service (after service w before) operation = some t)
include hgenuine h hmail hclock hids ht

/-- Before a session is opened nobody presents its identifier to log out. -/
lemma Genuine.ne_id_of_before {token : String} {c : Claims} (hop : .logout token ∈ before)
    (hread : service.codec.read token = .ok c) : c.id ≠ some t.id := by
  intro hid
  obtain ⟨pre, post, hsplit⟩ := List.append_of_mem hop
  have hsessions := sessions_around ht later
  have hmem : t ∈ sessions service w (before ++ operation :: later) :=
    hsessions ▸ List.mem_append_right _ List.mem_cons_self
  have hwhole : before ++ operation :: later =
      pre ++ .logout token :: (post ++ operation :: later) := by
    rw [hsplit, List.append_assoc, List.cons_append]
  obtain ⟨-, hissued⟩ := hgenuine.token_eq h hmail hclock hids hmem hwhole hread hid
  have hbefore : t ∈ sessions service w before := by
    rw [hsplit, sessions_append]
    exact List.mem_append_left _ hissued
  rw [hsessions, List.map_append, List.map_cons] at hids
  exact (List.nodup_append.mp hids).2.2 _ (List.mem_map_of_mem hbefore) _ List.mem_cons_self rfl

/-- After a session is opened only its own token presents its identifier to log out. -/
lemma Genuine.eq_token_of_later {token : String} {c : Claims} (hop : .logout token ∈ later)
    (hread : service.codec.read token = .ok c) (hid : c.id = some t.id) : token = t.token := by
  obtain ⟨pre, post, hsplit⟩ := List.append_of_mem hop
  have hmem : t ∈ sessions service w (before ++ operation :: later) :=
    sessions_around ht later ▸ List.mem_append_right _ List.mem_cons_self
  have hwhole : before ++ operation :: later =
      (before ++ operation :: pre) ++ .logout token :: post := by
    rw [hsplit, List.append_assoc, List.cons_append]
  exact (hgenuine.token_eq h hmail hclock hids hmem hwhole hread hid).1

end

end World
end AccountAccess
