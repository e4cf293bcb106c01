import AccountAccess.Proofs.SignedState.Accepted

/-!
How old a signed state may be.

* `StateSigner.inWindow_ofLeeway_iff`: the age is computed within 64 bits, and so is the greatest
  age. Over the integers both ends of the window stay where they are, but for a greatest age that
  no 64 bits exceed: with it a state is never too old.
* `StateSigner.verify_eq_of_signedOver`: what becomes of an authentic state hangs on its window
  alone.
* `StateSigner.verify_sign`: a state is accepted from the leeway before it was signed until its
  greatest age has passed, and never otherwise.
-/

namespace AccountAccess.StateSigner

variable {key : Bytes} {leeway : Int64} {defaultMaxAge maxAge : Duration}

/-- A state is in the window if it is from no further in the future than the leeway, and no older
than the greatest age, which does not count where 64 bits do not exceed it. -/
lemma inWindow_ofLeeway_iff (issued now : Int64) :
    (ofLeeway key leeway.toInt defaultMaxAge).inWindow issued now maxAge = true ↔
      -(max 0 leeway.toInt) ≤ now.toInt - issued.toInt ∧
        (now.toInt - issued.toInt ≤ maxAge.secs.toNat ∨ int64Greatest ≤ maxAge.secs.toNat) := by
  have hleast : int64Least = -9223372036854775808 := rfl
  have hgreatest : int64Greatest = 9223372036854775807 := rfl
  have hleeway : ((ofLeeway key leeway.toInt defaultMaxAge).leeway : Int) = max 0 leeway.toInt := by
    show (leeway.toInt.toNat : Int) = _
    omega
  -- the leeway is less than the least number of 64 bits is below zero
  have hlimit := leeway.toInt_lt
  rw [inWindow, hleeway, Bool.and_eq_true, decide_eq_true_eq, decide_eq_true_eq, toInt_saturate,
    toInt_saturate]
  omega

/-- What a state is signed over depends on the key alone. -/
lemma SignedOver.of_key_eq {s s' : StateSigner} {state : String} {payload : Bytes}
    (h : s.SignedOver state payload) (hkey : s'.key = s.key) : s'.SignedOver state payload := by
  rw [SignedOver, hkey]
  exact h

/-- An authentic state is accepted if its age lies in the window, and not otherwise. -/
lemma verify_eq_of_signedOver {s : StateSigner} {state : String} {payload : Bytes}
    {user issued : Int64} (hsigned : s.SignedOver state payload)
    (hread : ofPayload? payload = some (user, issued)) (now : Int64) (maxAge : Duration) :
    s.verify state now maxAge = if s.inWindow issued now maxAge then some user else none := by
  simp [verify, authentic?_eq_some_iff.mpr hsigned, hread]

/-- The age is counted over the integers, so that the window of an authentic state is exact. -/
lemma verify_ofLeeway_of_signedOver {state : String} {user issued : Int64}
    (hsigned : (ofLeeway key leeway.toInt defaultMaxAge).SignedOver state (payload user issued))
    (now : Int64) (hmost : maxAge.secs.toNat < int64Greatest) :
    (ofLeeway key leeway.toInt defaultMaxAge).verify state now maxAge =
      if -(max 0 leeway.toInt) ≤ now.toInt - issued.toInt ∧
        now.toInt - issued.toInt ≤ maxAge.secs.toNat then some user else none := by
  rw [verify_eq_of_signedOver hsigned (ofPayload?_payload user issued)]
  refine if_congr ?_ rfl rfl
  rw [inWindow_ofLeeway_iff]
  exact and_congr_right fun _ => or_iff_left (by omega)

/-- **When a state is accepted that was signed under the same key**: if its age, counted over the
integers from the second of signing to the second of verifying, lies between minus the leeway and
the greatest age. The clocks may show any seconds, and the leeway may be any number; a negative one
counts as zero. -/
theorem verify_sign (key : Bytes) (leeway leeway' : Int64) (defaultMaxAge defaultMaxAge' : Duration)
    (user signed now : Int64) :
    let state := (ofLeeway key leeway.toInt defaultMaxAge).sign user signed
    let verifier := ofLeeway key leeway'.toInt defaultMaxAge'
    let age := now.toInt - signed.toInt
    (∀ maxAge : Duration, maxAge.secs.toNat < int64Greatest →
      verifier.verify state now maxAge =
        if -(max 0 leeway'.toInt) ≤ age ∧ age ≤ maxAge.secs.toNat then some user else none) ∧
      (defaultMaxAge'.secs.toNat < int64Greatest →
        verifier.verifyDefault state now =
          if -(max 0 leeway'.toInt) ≤ age ∧ age ≤ defaultMaxAge'.secs.toNat then some user
          else none) := by
  have hsigned : (ofLeeway key leeway'.toInt defaultMaxAge').SignedOver
      ((ofLeeway key leeway.toInt defaultMaxAge).sign user signed) (payload user signed) :=
    (signedOver_sign _ user signed).of_key_eq rfl
  refine ⟨?_, ?_⟩
  · intro maxAge hmost
    exact verify_ofLeeway_of_signedOver hsigned now hmost
  · intro hmost
    exact verify_ofLeeway_of_signedOver hsigned now hmost

/-- A state that is signed in the first second that 64 bits hold is accepted ten minutes later, and
in the last second that they hold it is too old, although its age exceeds them. -/
theorem verify_sign_extremes :
    let key := Bytes.ofText "0123456789abcdef0123456789abcdef"
    let signer := ofLeeway key (60 : Int64).toInt (.ofSecs 600)
    let state := signer.sign (-5) Int64.minValue
    signer.verifyDefault state (Int64.minValue + 600) = some (-5) ∧
      signer.verify state Int64.maxValue (.ofSecs 9223372036854775806) = none := by
  intro key signer state
  have hthen := verify_sign key 60 60 (.ofSecs 600) (.ofSecs 600) (-5) Int64.minValue
    (Int64.minValue + 600)
  have hlast := verify_sign key 60 60 (.ofSecs 600) (.ofSecs 600) (-5) Int64.minValue
    Int64.maxValue
  refine ⟨?_, ?_⟩
  · exact (hthen.2 (by decide)).trans (if_pos (by decide))
  · exact (hlast.1 _ (by decide)).trans (if_neg (by decide))

end AccountAccess.StateSigner
