import AccountAccess.Proofs.Credential.Segments
import AccountAccess.Proofs.Credential.Window

/-!
Tokens and signed states under one key.

* `SignedApart`: a token and a state are signed over different octets. What a token is signed over
  has a dot, and the payload of a state has none, so this holds of every token and every state that
  is signed over a payload (`signedApart_of_ofPayload?`), whatever the authentication code is.
* `tokens_apart_from_states`: no text is accepted as both, and whatever is accepted or written as
  the one is signed over other octets than what is accepted or written as the other.
-/

namespace AccountAccess

/-- A token and a state are signed, but not over the same octets. -/
structure SignedApart (codec : Codec) (signer : StateSigner) (token state : String) : Prop where
  ofToken : ∃ input, codec.SignedOver token input
  ofState : ∃ payload, signer.SignedOver state payload
  ne : ∀ input payload, codec.SignedOver token input → signer.SignedOver state payload →
    input ≠ payload

section

variable {codec : Codec} {signer : StateSigner} {token state text : String}

/-- A token and a state that holds a payload are signed over different octets: only the first have a
dot. -/
lemma signedApart_of_ofPayload? {input payload : Bytes} {user issued : Int64}
    (htoken : codec.SignedOver token input) (hstate : signer.SignedOver state payload)
    (hpayload : StateSigner.ofPayload? payload = some (user, issued)) :
    SignedApart codec signer token state where
  ofToken := ⟨input, htoken⟩
  ofState := ⟨payload, hstate⟩
  ne := by
    intro input payload' htoken hstate' hsame
    obtain rfl := hstate'.unique hstate
    obtain ⟨text, htext, hdot⟩ := htoken.exists_text
    obtain ⟨text', htext', hnone⟩ := StateSigner.exists_text_of_ofPayload? hpayload
    rw [htext, htext'] at hsame
    obtain rfl := Bytes.ofText_injective hsame
    exact hnone hdot

/-- A state has one dot. -/
lemma StateSigner.SignedOver.count_eq_one {payload : Bytes} (h : signer.SignedOver state payload) :
    state.toList.count '.' = 1 := by
  have hnone : ∀ b, (Base64.encode .urlSafe b).count '.' = 0 :=
    fun b => List.count_eq_zero.mpr (Base64.dot_notMem_encode .urlSafe b)
  rw [h, List.count_append, List.count_cons_self, hnone, hnone]

/-- No text is signed both as a token and as a state. -/
lemma not_signedOver_both {input payload : Bytes} (htoken : codec.SignedOver text input) :
    ¬ signer.SignedOver text payload := by
  intro hstate
  have hleast := htoken.two_le_count
  rw [hstate.count_eq_one] at hleast
  omega

end

/-- **Tokens and states under one key have nothing in common**: no text is accepted as both,
whatever the clocks, the leeways and the greatest age, and a token that is accepted or written is
signed over other octets than a state that is accepted or written. -/
theorem tokens_apart_from_states (key : Bytes) (issuer : String) (leeway stateLeeway : Int64)
    (defaultMaxAge : Duration) :
    let codec := Codec.ofLeeway key issuer leeway.toInt
    let signer := StateSigner.ofLeeway key stateLeeway.toInt defaultMaxAge
    (∀ text now now' maxAge c, codec.decodeAt text now = .ok c →
        signer.verify text now' maxAge = none) ∧
      (∀ token state now now' maxAge c user, codec.decodeAt token now = .ok c →
        signer.verify state now' maxAge = some user → SignedApart codec signer token state) ∧
      (∀ c state now maxAge user, signer.verify state now maxAge = some user →
        SignedApart codec signer (codec.encode c) state) ∧
      (∀ token now c user second, codec.decodeAt token now = .ok c →
        SignedApart codec signer token (signer.sign user second)) := by
  intro codec signer
  have htokens : ∀ {token now c}, codec.decodeAt token now = .ok c →
      ∃ input, codec.SignedOver token input :=
    fun h => Codec.exists_signedOver_of_read (Codec.decodeAt_eq_ok_iff.mp h).1
  refine ⟨?_, ?_, ?_, ?_⟩
  · intro text now now' maxAge c htoken
    obtain ⟨input, hinput⟩ := htokens htoken
    refine Option.eq_none_iff_forall_ne_some.mpr ?_
    intro user hstate
    obtain ⟨payload, issued, hsigned, -, -⟩ := StateSigner.verify_eq_some_iff.mp hstate
    exact not_signedOver_both hinput hsigned
  · intro token state now now' maxAge c user htoken hstate
    obtain ⟨input, hinput⟩ := htokens htoken
    obtain ⟨payload, issued, hsigned, hread, -⟩ := StateSigner.verify_eq_some_iff.mp hstate
    exact signedApart_of_ofPayload? hinput hsigned hread
  · intro c state now maxAge user hstate
    obtain ⟨payload, issued, hsigned, hread, -⟩ := StateSigner.verify_eq_some_iff.mp hstate
    exact signedApart_of_ofPayload? (codec.signedOver_encode c) hsigned hread
  · intro token now c user second htoken
    obtain ⟨input, hinput⟩ := htokens htoken
    exact signedApart_of_ofPayload? hinput (signer.signedOver_sign user second)
      (StateSigner.ofPayload?_payload user second)

/-- A session that is opened and a state that is signed at noon of the first of March 2024. -/
theorem tokens_apart_from_states_sample :
    let key := Bytes.ofText "0123456789abcdef0123456789abcdef"
    let codec := Codec.ofLeeway key "fit-profi-api" (60 : Int64).toInt
    let signer := StateSigner.ofLeeway key (60 : Int64).toInt (.ofSecs 600)
    let token := codec.encode (codec.issue 42 .user (some "first")
      (.ofUnix (1709294400 : Int64).toInt) Claims.sessionLifetime)
    let state := signer.sign 42 1709294400
    (∃ c, codec.decodeAt token 1709294400 = .ok c) ∧
      signer.verify state 1709294400 (.ofSecs 600) = some 42 ∧
      SignedApart codec signer token state := by
  intro key codec signer token state
  have htoken : codec.decodeAt token 1709294400 = .ok (codec.issue 42 .user (some "first")
      (.ofUnix (1709294400 : Int64).toInt) Claims.sessionLifetime) :=
    (Codec.decode_encode_issue_iff (by decide) Claims.sessionLifetime_nonneg (by decide)
      (Int64.le_refl _)).mpr ⟨rfl, by decide⟩
  have hstate : signer.verify state 1709294400 (.ofSecs 600) = some 42 :=
    StateSigner.verify_eq_some_iff.mpr ⟨_, 1709294400, signer.signedOver_sign 42 1709294400,
      StateSigner.ofPayload?_payload 42 1709294400, by decide⟩
  exact ⟨⟨_, htoken⟩, hstate, (tokens_apart_from_states key "fit-profi-api" 60 60 (.ofSecs 600)).2.1
    token state _ _ _ _ _ htoken hstate⟩

end AccountAccess
