import AccountAccess.Proofs.Credential.Window

/-!
What becomes of a token as the seconds go by.

* `Codec.isTimeless_of_read`: reading refuses a token for what it is, and never for the second.
  `Codec.toFailure_of_decodeAt`: to a caller all reasons are one.
* `Codec.RefusedThroughout` and `Codec.RuledByWindow`: a token is refused for one reason at every
  second, or it holds claims whose window decides about every second.
* `Codec.refused_or_ruled`: one of the two is true of every text, and never both. So the seconds at
  which a token is accepted have no gaps, and what has expired stays so.
-/

namespace AccountAccess

/-! ### Reasons that have nothing to do with the second -/

/-- The reason lies in the token alone. -/
def CredentialError.IsTimeless : CredentialError → Prop
  | .malformed _ | .invalidSignature | .invalidAlgorithm | .invalidIssuer => True
  | .encoding _ | .expired | .notYetValid => False

/-- A caller learns nothing of such a reason. -/
lemma CredentialError.IsTimeless.toFailure_eq {e : CredentialError} (h : e.IsTimeless) :
    e.toFailure = .invalidCredential := by
  cases e with
  | encoding reason => exact h.elim
  | _ => rfl

namespace Codec

/-- If a computation is refused, then for a reason that lies in the token alone. -/
def RefusesTimelessly {α : Type} (x : Except CredentialError α) : Prop :=
  ∀ e, x = .error e → e.IsTimeless

section

variable {α β : Type}

lemma refusesTimelessly_ok (a : α) : RefusesTimelessly (.ok a) := by
  rintro e ⟨⟩

lemma refusesTimelessly_error {e : CredentialError} (he : e.IsTimeless) :
    RefusesTimelessly (.error e : Except CredentialError α) := by
  rintro e' ⟨⟩
  exact he

/-- A computation in two parts is refused by one of them. -/
lemma RefusesTimelessly.bind {x : Except CredentialError α} {f : α → Except CredentialError β}
    (hx : RefusesTimelessly x) (hf : ∀ a, RefusesTimelessly (f a)) :
    RefusesTimelessly (x >>= f) := by
  cases x with
  | error e => exact refusesTimelessly_error (hx e rfl)
  | ok a => exact hf a

lemma refusesTimelessly_octets (segment : List Char) : RefusesTimelessly (octets segment) := by
  rw [octets]
  cases Base64.decode? .urlSafe segment with
  | none => exact refusesTimelessly_error trivial
  | some b => exact refusesTimelessly_ok b

lemma refusesTimelessly_json (b : Bytes) : RefusesTimelessly (json b) := by
  rw [json]
  cases Json.parse? b with
  | none => exact refusesTimelessly_error trivial
  | some v => exact refusesTimelessly_ok v

lemma refusesTimelessly_algorithm (v : Json.Value) : RefusesTimelessly (algorithm v) := by
  rw [algorithm]
  cases Credential.algorithm? v with
  | none => exact refusesTimelessly_error trivial
  | some alg => exact refusesTimelessly_ok alg

lemma refusesTimelessly_claims (v : Json.Value) : RefusesTimelessly (claims v) := by
  rw [claims]
  cases Claims.ofJson? v with
  | none => exact refusesTimelessly_error trivial
  | some c => exact refusesTimelessly_ok c

lemma refusesTimelessly_registeredClaims (v : Json.Value) :
    RefusesTimelessly (registeredClaims v) := by
  unfold registeredClaims
  split
  · exact refusesTimelessly_error trivial
  · split
    · exact refusesTimelessly_error trivial
    · exact refusesTimelessly_ok ()
    · split
      · exact refusesTimelessly_ok ()
      · exact refusesTimelessly_error trivial

end

/-- Reading refuses a token for what it is. -/
theorem isTimeless_of_read (codec : Codec) (token : String) :
    RefusesTimelessly (codec.read token) := by
  rw [read]
  cases segments? token with
  | none => exact refusesTimelessly_error trivial
  | some s =>
      simp only [error_bind]
      refine (refusesTimelessly_octets s.header).bind fun header => ?_
      refine ((refusesTimelessly_json header).bind refusesTimelessly_algorithm).bind fun alg => ?_
      split
      · exact refusesTimelessly_error trivial
      refine (refusesTimelessly_octets s.signature).bind fun signature => ?_
      split
      · exact refusesTimelessly_error trivial
      refine (refusesTimelessly_octets s.payload).bind fun payload => ?_
      refine (refusesTimelessly_json payload).bind fun value => ?_
      refine (refusesTimelessly_claims value).bind fun c => ?_
      refine (refusesTimelessly_registeredClaims value).bind fun _ => ?_
      split_ifs
      · exact refusesTimelessly_error trivial
      · exact refusesTimelessly_error trivial
      · exact refusesTimelessly_ok c

/-- Whatever a token is refused for at a second, a caller learns nothing of it. -/
lemma toFailure_of_decodeAt {codec : Codec} {token : String} {now : Int64} {e : CredentialError}
    (h : codec.decodeAt token now = .error e) : e.toFailure = .invalidCredential := by
  rw [decodeAt] at h
  cases hread : codec.read token with
  | error e' =>
      rw [hread, error_bind] at h
      obtain rfl := Except.error.inj h
      exact (isTimeless_of_read codec token e' hread).toFailure_eq
  | ok c =>
      rw [hread, ok_bind, checkWindow] at h
      split_ifs at h <;> cases h <;> rfl

/-! ### All seconds -/

/-- A token is refused for one reason at every second, and that reason is not the second. -/
structure RefusedThroughout (codec : Codec) (token : String) (e : CredentialError) : Prop where
  ne_expired : e ≠ .expired
  ne_notYetValid : e ≠ .notYetValid
  refused : ∀ now, codec.decodeAt token now = .error e

/-- A token holds claims of the codec's issuer, with times from 1970 on, and their window, widened
by a leeway, decides about every second. -/
structure RuledByWindow (codec : Codec) (token : String) (leeway : Int) (c : Claims) : Prop where
  expires_nonneg : 0 ≤ c.expires.toInt
  notBefore_nonneg : 0 ≤ c.notBefore.toInt
  issuer_eq : c.issuer = codec.issuer
  expired_iff : ∀ now : Int64,
    codec.decodeAt token now = .error .expired ↔ c.expires.toInt + leeway < now.toInt
  notYetValid_iff : ∀ now : Int64,
    codec.decodeAt token now = .error .notYetValid ↔
      now.toInt ≤ c.expires.toInt + leeway ∧ now.toInt < c.notBefore.toInt - leeway
  accepted_iff : ∀ now : Int64,
    codec.decodeAt token now = .ok c ↔
      c.notBefore.toInt - leeway ≤ now.toInt ∧ now.toInt ≤ c.expires.toInt + leeway
  /-- It makes no difference that the ends of the window are kept within 64 bits. -/
  saturated : ∀ now : Int64,
    codec.decodeAt token now =
      if saturate (c.expires.toInt + leeway) < now then .error .expired
      else if now < saturate (c.notBefore.toInt - leeway) then .error .notYetValid
      else .ok c

section

variable {codec : Codec} {token : String}

/-- What cannot be read is refused for one reason. -/
lemma refusedThroughout_of_read {e : CredentialError} (h : codec.read token = .error e) :
    RefusedThroughout codec token e := by
  have htimeless := isTimeless_of_read codec token e h
  refine ⟨?_, ?_, ?_⟩
  · rintro rfl
    exact htimeless
  · rintro rfl
    exact htimeless
  · intro now
    rw [decodeAt, h, error_bind]

/-- The window of what is read decides. -/
lemma ruledByWindow_of_read {c : Claims} (h : codec.read token = .ok c) :
    RuledByWindow codec token codec.leeway c := by
  have hdecode : ∀ now, codec.decodeAt token now = codec.checkWindow c now := by
    intro now
    rw [decodeAt, h, ok_bind]
  obtain ⟨hexpires, hstart, hissuer⟩ := of_read_eq_ok h
  refine ⟨hexpires, hstart, hissuer, ?_, ?_, ?_, ?_⟩
  · intro now
    rw [hdecode, checkWindow]
    split_ifs with hlate hearly <;> simp [hlate]
  · intro now
    rw [hdecode, checkWindow]
    split_ifs with hlate hearly
    · simp only [Except.error.injEq, reduceCtorEq, false_iff]
      omega
    · simp only [true_iff]
      omega
    · simp [hearly]
  · intro now
    rw [decodeAt_eq_ok_iff, h]
    simp
  · intro now
    rw [hdecode, checkWindow_eq_saturate]

/-- Where a window decides, no reason is the same at every second and lies in the token alone. -/
lemma RuledByWindow.not_refusedThroughout {leeway : Int} {c : Claims}
    (h : RuledByWindow codec token leeway c) (e : CredentialError) :
    ¬ RefusedThroughout codec token e := by
  intro hrefused
  have hzero := hrefused.refused 0
  rw [h.saturated] at hzero
  split_ifs at hzero
  · exact hrefused.ne_expired (Except.error.inj hzero).symm
  · exact hrefused.ne_notYetValid (Except.error.inj hzero).symm

/-- A token that is accepted at two seconds says the same at both, and is accepted in between. -/
lemma decodeAt_between {first now last : Int64} {c c' : Claims} (hfirst : first ≤ now)
    (hlast : now ≤ last) (h : codec.decodeAt token first = .ok c)
    (h' : codec.decodeAt token last = .ok c') : c' = c ∧ codec.decodeAt token now = .ok c := by
  rw [decodeAt_eq_ok_iff] at h h'
  obtain ⟨hread, hstart, -⟩ := h
  obtain ⟨hread', -, hend⟩ := h'
  obtain rfl := Except.ok.inj (hread.symm.trans hread')
  rw [Int64.le_iff_toInt_le] at hfirst hlast
  exact ⟨rfl, decodeAt_eq_ok_iff.mpr ⟨hread, by omega, by omega⟩⟩

/-- What has expired stays so. -/
lemma decodeAt_expired_later {now later : Int64} (hlater : now ≤ later)
    (h : codec.decodeAt token now = .error .expired) :
    codec.decodeAt token later = .error .expired := by
  cases hread : codec.read token with
  | error e =>
      have hrefused := refusedThroughout_of_read hread
      rw [hrefused.refused] at h
      exact absurd (Except.error.inj h) hrefused.ne_expired
  | ok c =>
      have hruled := ruledByWindow_of_read hread
      rw [hruled.expired_iff] at h ⊢
      rw [Int64.le_iff_toInt_le] at hlater
      omega

end

/-- **What becomes of a text over time**: it is refused for one reason at every second, which is not
the second, or it holds claims whose window decides about every second. The seconds at which it is
accepted have no gaps, and once it has expired it stays so. -/
theorem refused_or_ruled (key : Bytes) (issuer : String) (leeway : Int64) (token : String) :
    let codec := ofLeeway key issuer leeway.toInt
    (((∃ e, RefusedThroughout codec token e) ∨
        ∃ c, RuledByWindow codec token (max 0 leeway.toInt) c) ∧
      ¬ ((∃ e, RefusedThroughout codec token e) ∧
        ∃ c, RuledByWindow codec token (max 0 leeway.toInt) c)) ∧
    (∀ first now last c c', first ≤ now → now ≤ last → codec.decodeAt token first = .ok c →
      codec.decodeAt token last = .ok c' → c' = c ∧ codec.decodeAt token now = .ok c) ∧
    ∀ now later, now ≤ later → codec.decodeAt token now = .error .expired →
      codec.decodeAt token later = .error .expired := by
  intro codec
  have hleeway : (codec.leeway : Int) = max 0 leeway.toInt := by
    show (leeway.toInt.toNat : Int) = _
    omega
  refine ⟨⟨?_, ?_⟩, ?_, ?_⟩
  · cases hread : codec.read token with
    | error e => exact Or.inl ⟨e, refusedThroughout_of_read hread⟩
    | ok c => exact Or.inr ⟨c, hleeway ▸ ruledByWindow_of_read hread⟩
  · rintro ⟨⟨e, hrefused⟩, c, hruled⟩
    exact hruled.not_refusedThroughout e hrefused
  · intro first now last c c' hfirst hlast h h'
    exact decodeAt_between hfirst hlast h h'
  · intro now later hlater h
    exact decodeAt_expired_later hlater h

/-- With the greatest leeway, a credential that holds from 1970 on without end is accepted as long
before 1970 as after it, and so at its start. With a leeway of a minute, one that holds for a
quarter of an hour has expired a second after both are over, and so for good. -/
theorem refused_or_ruled_extremes :
    let key := Bytes.ofText "0123456789abcdef0123456789abcdef"
    let lenient := ofLeeway key "fit-profi-api" (9223372036854775807 : Int64).toInt
    let strict := ofLeeway key "fit-profi-api" (60 : Int64).toInt
    let endless : Claims := ⟨none, "42", "fit-profi-api", 0, 0, 9223372036854775807, 42, .user⟩
    let brief : Claims := { endless with expires := 900 }
    (lenient.decodeAt (lenient.encode endless) (-9223372036854775807) = .ok endless ∧
      lenient.decodeAt (lenient.encode endless) 9223372036854775807 = .ok endless ∧
      lenient.decodeAt (lenient.encode endless) 0 = .ok endless) ∧
    strict.decodeAt (strict.encode brief) 961 = .error .expired ∧
      strict.decodeAt (strict.encode brief) 9223372036854775807 = .error .expired := by
  intro key lenient strict endless brief
  have hendless : lenient.read (lenient.encode endless) = .ok endless :=
    read_encode_eq_ok lenient (by decide) (by decide) rfl
  have hfirst := decodeAt_eq_ok_iff.mpr ⟨hendless,
    (by decide : _ ≤ (-9223372036854775807 : Int64).toInt), by decide⟩
  have hlast := decodeAt_eq_ok_iff.mpr ⟨hendless,
    (by decide : _ ≤ (9223372036854775807 : Int64).toInt), by decide⟩
  obtain ⟨-, hbetween, -⟩ := refused_or_ruled key "fit-profi-api" 9223372036854775807
    (lenient.encode endless)
  obtain ⟨-, hmiddle⟩ := hbetween _ 0 _ _ _ (by decide) (by decide) hfirst hlast
  have hbrief : strict.read (strict.encode brief) = .ok brief :=
    read_encode_eq_ok strict (by decide) (by decide) rfl
  have hexpired : strict.decodeAt (strict.encode brief) 961 = .error .expired :=
    ((ruledByWindow_of_read hbrief).expired_iff 961).mpr (by decide)
  obtain ⟨-, -, hlater⟩ := refused_or_ruled key "fit-profi-api" 60 (strict.encode brief)
  exact ⟨⟨hfirst, hlast, hmiddle⟩, hexpired, hlater _ _ (by decide) hexpired⟩

end Codec
end AccountAccess
