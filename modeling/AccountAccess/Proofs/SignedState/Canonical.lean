import Mathlib.Data.List.Basic
import AccountAccess.Proofs.SignedState.Age

/-!
A signed state has one spelling.

* `StateSigner.SignedOver.state_unique`: no two states are signed over the same octets.
* `StateSigner.SignedOver.append_cons_inj`: a dot in an authentic text stands between its segments.
  So what is authentic and has a segment of a state has its payload
  (`StateSigner.SignedOver.eq_of_payload`) or its authentication code
  (`StateSigner.SignedOver.hmac_eq_of_signature`).
* `StateSigner.verify_of_altered`: two texts that are accepted are signed over different payloads,
  and what becomes of a state that was altered.
-/

namespace AccountAccess

/-- Different octets have different encodings. -/
lemma Base64.encode_injective (a : Alphabet) : Function.Injective (encode a) := by
  intro b b' hsame
  have hread := decode?_encode a b
  rw [hsame, decode?_encode] at hread
  exact (Option.some.inj hread).symm

namespace StateSigner

section

variable {s s' : StateSigner} {state state' : String} {payload payload' : Bytes} {now : Int64}
  {maxAge : Duration} {user : Int64}

/-- A state is signed over octets if its segments hold them and their authentication code. -/
lemma signedOver_iff_segments? :
    s.SignedOver state payload ↔ segments? state = some (payload, hmac s.key payload) :=
  segments?_eq_some_iff.symm

/-- No two states are signed over the same octets. -/
lemma SignedOver.state_unique (h : s.SignedOver state payload) (h' : s.SignedOver state' payload) :
    state = state' :=
  String.toList_injective (Eq.trans h (Eq.symm h'))

/-- A dot that stands in an authentic text stands between its segments. -/
lemma SignedOver.append_cons_inj {p m : List Char} (h : s.SignedOver state payload)
    (hparts : state.toList = p ++ '.' :: m) :
    p = Base64.encode .urlSafe payload ∧ m = Base64.encode .urlSafe (hmac s.key payload) := by
  have hsame : Base64.encode .urlSafe payload ++
      '.' :: Base64.encode .urlSafe (hmac s.key payload) = p ++ '.' :: m :=
    Eq.trans (Eq.symm h) hparts
  obtain ⟨hp, -, hm⟩ := (List.append_cons_inj_of_notMem (Base64.dot_notMem_encode .urlSafe _)
    (Base64.dot_notMem_encode .urlSafe _)).mp hsame
  exact ⟨hp.symm, hm.symm⟩

/-- Two states with the same payload segment are the same. -/
lemma SignedOver.eq_of_payload {m : List Char} (h : s.SignedOver state payload)
    (h' : s.SignedOver state' payload')
    (hkept : state'.toList = Base64.encode .urlSafe payload ++ '.' :: m) : state' = state := by
  obtain ⟨hp, -⟩ := h'.append_cons_inj hkept
  obtain rfl := Base64.encode_injective _ hp
  exact h'.state_unique h

/-- A state with the signature segment of another one has a payload with the same authentication
code. -/
lemma SignedOver.hmac_eq_of_signature {p : List Char} (h' : s.SignedOver state' payload')
    (hkept : state'.toList = p ++ '.' :: Base64.encode .urlSafe (hmac s.key payload)) :
    Base64.decode? .urlSafe p = some payload' ∧ hmac s.key payload' = hmac s.key payload := by
  obtain ⟨rfl, hm⟩ := h'.append_cons_inj hkept
  exact ⟨Base64.decode?_encode .urlSafe payload', (Base64.encode_injective _ hm).symm⟩

/-- What is accepted is signed over its payload, under the key that the signers share. -/
lemma exists_signedOver_of_verify (hkey : s'.key = s.key)
    (h : s'.verify state now maxAge = some user) : ∃ payload, s.SignedOver state payload := by
  obtain ⟨payload, issued, hsigned, -, -⟩ := verify_eq_some_iff.mp h
  exact ⟨payload, hsigned.of_key_eq hkey.symm⟩

end

/-- **What is accepted has one spelling.** Of two texts that are accepted under one key, be it by
signers with other leeways, at other times or with other greatest ages, each carries the 32 octets
that authenticate its own payload, and the payloads differ. So a text other than a state that was
signed is rejected, unless it carries the authentication code of another payload: it is rejected if
it keeps the payload segment, and also if it keeps the signature segment and the authentication
codes of the two payloads differ. -/
theorem verify_of_altered (s s' : StateSigner) (hkey : s'.key = s.key) :
    (∀ state state' now now' maxAge maxAge' user user',
      s.verify state now maxAge = some user → s'.verify state' now' maxAge' = some user' →
      state ≠ state' →
      ∃ payload payload', payload ≠ payload' ∧
        segments? state = some (payload, hmac s.key payload) ∧
        segments? state' = some (payload', hmac s.key payload') ∧
        (hmac s.key payload).length = 32 ∧ (hmac s.key payload').length = 32) ∧
      ∀ user second state' now maxAge, state' ≠ s.sign user second →
        (s'.verify state' now maxAge = none ∨ ∃ payload', payload' ≠ payload user second ∧
          segments? state' = some (payload', hmac s.key payload')) ∧
        ∃ p m, splitFirst? '.' (s.sign user second).toList = some (p, m) ∧
          (∀ m', state'.toList = p ++ '.' :: m' → s'.verify state' now maxAge = none) ∧
          ∀ p', state'.toList = p' ++ '.' :: m →
            (∀ payload', Base64.decode? .urlSafe p' = some payload' →
              hmac s.key payload' ≠ hmac s.key (payload user second)) →
            s'.verify state' now maxAge = none := by
  refine ⟨?_, ?_⟩
  · intro state state' now now' maxAge maxAge' user user' h h' hne
    obtain ⟨payload, hsigned⟩ := exists_signedOver_of_verify rfl h
    obtain ⟨payload', hsigned'⟩ := exists_signedOver_of_verify hkey h'
    refine ⟨payload, payload', ?_, signedOver_iff_segments?.mp hsigned,
      signedOver_iff_segments?.mp hsigned', length_hmac _ _, length_hmac _ _⟩
    rintro rfl
    exact hne (hsigned.state_unique hsigned')
  · intro user second state' now maxAge hne
    have hsigned := s.signedOver_sign user second
    have hsplit := splitFirst?_eq_some_iff.mpr ⟨hsigned, Base64.dot_notMem_encode .urlSafe _⟩
    -- in every part, what is accepted would be signed over some payload
    have hsome : s'.verify state' now maxAge = none ∨ ∃ payload', s.SignedOver state' payload' := by
      cases hverify : s'.verify state' now maxAge with
      | none => exact Or.inl rfl
      | some user' => exact Or.inr (exists_signedOver_of_verify hkey hverify)
    rcases hsome with hnone | ⟨payload', hsigned'⟩
    · exact ⟨Or.inl hnone, _, _, hsplit, fun _ _ => hnone, fun _ _ _ => hnone⟩
    · refine ⟨Or.inr ⟨payload', ?_, signedOver_iff_segments?.mp hsigned'⟩, _, _, hsplit, ?_, ?_⟩
      · rintro rfl
        exact hne (hsigned'.state_unique hsigned)
      · intro m' hkept
        exact absurd (hsigned.eq_of_payload hsigned' hkept) hne
      · intro p' hkept hdiffer
        obtain ⟨hread, hsame⟩ := hsigned'.hmac_eq_of_signature hkept
        exact absurd hsame (hdiffer payload' hread)

/-- Two users' states that are accepted in the second of signing. With the first state's signature
behind the second one's payload, and with the second state's signature behind the first one's,
neither is. -/
theorem verify_of_altered_swapped :
    let key := Bytes.ofText "0123456789abcdef0123456789abcdef"
    let signer := ofLeeway key (60 : Int64).toInt (.ofSecs 600)
    let other := ofLeeway key (0 : Int64).toInt (.ofSecs 60)
    let state := signer.sign 42 1709294400
    let state' := signer.sign 43 1709294400
    let kept := String.ofList (Base64.encode .urlSafe (payload 42 1709294400) ++ '.' ::
      Base64.encode .urlSafe (hmac key (payload 43 1709294400)))
    let moved := String.ofList (Base64.encode .urlSafe (payload 43 1709294400) ++ '.' ::
      Base64.encode .urlSafe (hmac key (payload 42 1709294400)))
    (∃ payload payload', payload ≠ payload' ∧
        segments? state = some (payload, hmac key payload) ∧
        segments? state' = some (payload', hmac key payload') ∧
        (hmac key payload).length = 32 ∧ (hmac key payload').length = 32) ∧
      other.verify kept 1709294400 (.ofSecs 600) = none ∧
      other.verify moved 1709294400 (.ofSecs 600) = none := by
  intro key signer other state state' kept moved
  have hhmac : hmac key (payload 43 1709294400) ≠ hmac key (payload 42 1709294400) := by
    decide +kernel
  have hpayload : payload 43 1709294400 ≠ payload 42 1709294400 :=
    fun hsame => hhmac (congrArg (hmac key) hsame)
  have hsigned : signer.SignedOver state (payload 42 1709294400) := signer.signedOver_sign _ _
  have hsigned' : signer.SignedOver state' (payload 43 1709294400) := signer.signedOver_sign _ _
  have haccepted : signer.verify state 1709294400 (.ofSecs 600) = some 42 :=
    verify_eq_some_iff.mpr ⟨_, _, hsigned, ofPayload?_payload 42 1709294400, by decide⟩
  have haccepted' : other.verify state' 1709294400 (.ofSecs 600) = some 43 :=
    verify_eq_some_iff.mpr ⟨_, _, hsigned'.of_key_eq rfl, ofPayload?_payload 43 1709294400,
      by decide⟩
  -- from here on the key may be any key under which the two codes differ
  clear_value key
  have hsplit := splitFirst?_eq_some_iff.mpr ⟨hsigned, Base64.dot_notMem_encode .urlSafe _⟩
  obtain ⟨hpair, haltered⟩ := verify_of_altered signer other rfl
  have hstates : state ≠ state' := by
    intro hsame
    rw [← hsame] at hsigned'
    exact hpayload (hsigned'.unique hsigned)
  have hkept : kept ≠ state := by
    intro hsame
    have hparts := hsigned.append_cons_inj
      ((congrArg String.toList hsame).symm.trans String.toList_ofList)
    exact hhmac (Base64.encode_injective _ hparts.2)
  have hmoved : moved ≠ state := by
    intro hsame
    have hparts := hsigned.append_cons_inj
      ((congrArg String.toList hsame).symm.trans String.toList_ofList)
    exact hpayload (Base64.encode_injective _ hparts.1)
  refine ⟨hpair _ _ _ _ _ _ _ _ haccepted haccepted' hstates, ?_, ?_⟩
  · obtain ⟨-, p, m, hparts, hkeep, -⟩ := haltered 42 1709294400 kept 1709294400 (.ofSecs 600) hkept
    obtain ⟨rfl, rfl⟩ := Prod.mk.inj (Option.some.inj (hparts.symm.trans hsplit))
    exact hkeep _ String.toList_ofList
  · obtain ⟨-, p, m, hparts, -, hmove⟩ :=
      haltered 42 1709294400 moved 1709294400 (.ofSecs 600) hmoved
    obtain ⟨rfl, rfl⟩ := Prod.mk.inj (Option.some.inj (hparts.symm.trans hsplit))
    refine hmove _ String.toList_ofList ?_
    rintro payload' hread
    rw [Base64.decode?_encode] at hread
    exact Option.some.inj hread ▸ hhmac

end StateSigner
end AccountAccess
