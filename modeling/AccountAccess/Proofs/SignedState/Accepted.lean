import AccountAccess.Proofs.Credential.RoundTrip
import AccountAccess.SignedState

/-!
What a signed state looks like that is accepted.

* `StateSigner.splitFirst?_eq_some_iff`: a text is parted at a character in the one way in which the
  first part is without it.
* **Payloads.** `StateSigner.ofPayload?_payload`: what was signed is read back.
  `StateSigner.exists_text_of_ofPayload?`: whatever is read as a payload is a text without dots.
* `StateSigner.segments?` are the octets that the two segments of a text stand for.
  `StateSigner.segments?_eq_some_iff`: they determine the text, for of all texts that could stand
  for some octets only their encoding is read, and no segment holds a dot.
* `StateSigner.SignedOver` says that a state consists of octets and their authentication code.
  `StateSigner.verify_eq_some_iff`: a state is accepted exactly if it is signed over a payload of a
  fitting age.
-/

namespace AccountAccess

/-! ### Numbers -/

namespace Decimal

/-- A number has no other characters than digits and signs. -/
lemma mem_of_int?_eq_some {s : List Char} {i : Int} (h : int? s = some i) :
    ∀ c ∈ s, c.isDigit = true ∨ c = '-' ∨ c = '+' := by
  have hdigits : ∀ {t : List Char} {n : Nat}, nat? t = some n → ∀ c ∈ t, c.isDigit = true := by
    intro t n ht
    rw [nat?, Option.ite_none_right_eq_some] at ht
    exact List.all_eq_true.mp ht.1.2
  intro c hc
  unfold int? at h
  split at h
  all_goals
    obtain ⟨_, h, -⟩ := Option.map_eq_some_iff.mp h
    obtain ⟨n, hn, -⟩ := Option.bind_eq_some_iff.mp h
  · rcases List.mem_cons.mp hc with rfl | hrest
    · exact Or.inr (Or.inl rfl)
    · exact Or.inl (hdigits hn c hrest)
  · rcases List.mem_cons.mp hc with rfl | hrest
    · exact Or.inr (Or.inr rfl)
    · exact Or.inl (hdigits hn c hrest)
  · exact Or.inl (hdigits hn c hc)

/-- A number of 64 bits has no other characters than digits and signs. -/
lemma mem_of_int64?_eq_some {s : List Char} {x : Int64} (h : int64? s = some x) :
    ∀ c ∈ s, c.isDigit = true ∨ c = '-' ∨ c = '+' := by
  obtain ⟨i, hi, -⟩ := Option.bind_eq_some_iff.mp h
  exact mem_of_int?_eq_some hi

/-- What is neither a digit nor a sign is not in a number. -/
lemma notMem_of_int64?_eq_some {s : List Char} {x : Int64} (h : int64? s = some x) {c : Char}
    (hdigit : c.isDigit = false) (hminus : c ≠ '-') (hplus : c ≠ '+') : c ∉ s := by
  intro hc
  rcases mem_of_int64?_eq_some h c hc with hd | rfl | rfl
  · rw [hdigit] at hd
    cases hd
  · exact hminus rfl
  · exact hplus rfl

end Decimal

namespace StateSigner

/-! ### Splitting -/

/-- A text is parted at a character in the one way in which the first part is without it. -/
lemma splitFirst?_eq_some_iff {c : Char} {s before behind : List Char} :
    splitFirst? c s = some (before, behind) ↔ s = before ++ c :: behind ∧ c ∉ before := by
  rw [splitFirst?]
  constructor
  · intro h
    have hparts := List.takeWhile_append_dropWhile (p := (· != c)) (l := s)
    have hhead := List.head?_dropWhile_not (· != c) s
    have hbefore : c ∉ s.takeWhile (· != c) := by
      intro hc
      have hother := List.mem_takeWhile_imp hc
      simp at hother
    cases hdrop : s.dropWhile (· != c) with
    | nil => rw [hdrop] at h; cases h
    | cons d after =>
        rw [hdrop] at h hparts hhead
        obtain ⟨rfl, rfl⟩ := Prod.mk.inj (Option.some.inj h)
        have hd : d = c := by simpa using hhead
        subst hd
        exact ⟨hparts.symm, hbefore⟩
  · rintro ⟨rfl, hbefore⟩
    have hall : ∀ d ∈ before, (d != c) = true := by
      intro d hd
      refine bne_iff_ne.mpr ?_
      rintro rfl
      exact hbefore hd
    rw [List.dropWhile_append_of_pos hall, List.takeWhile_append_of_pos hall]
    simp

/-! ### Payloads -/

/-- What was signed is read back. -/
@[simp] lemma ofPayload?_payload (user issued : Int64) :
    ofPayload? (payload user issued) = some (user, issued) := by
  have hcolon : ':' ∉ Decimal.render user.toInt :=
    Decimal.notMem_of_int64?_eq_some (Decimal.int64?_render user) (by decide) (by decide)
      (by decide)
  have hsplit : splitFirst? ':'
      (Decimal.render user.toInt ++ ':' :: Decimal.render issued.toInt) =
        some (Decimal.render user.toInt, Decimal.render issued.toInt) :=
    splitFirst?_eq_some_iff.mpr ⟨rfl, hcolon⟩
  simp [ofPayload?, payload, hsplit]

/-- What is read as a payload is a text without dots. -/
lemma exists_text_of_ofPayload? {payload : Bytes} {user issued : Int64}
    (h : ofPayload? payload = some (user, issued)) :
    ∃ text : String, payload = Bytes.ofText text ∧ '.' ∉ text.toList := by
  obtain ⟨text, htext, h⟩ := Option.bind_eq_some_iff.mp h
  obtain ⟨⟨u, t⟩, hsplit, h⟩ := Option.bind_eq_some_iff.mp h
  obtain ⟨user', huser, h⟩ := Option.bind_eq_some_iff.mp h
  obtain ⟨issued', hissued, -⟩ := Option.bind_eq_some_iff.mp h
  refine ⟨text, Bytes.eq_ofText_of_text? htext, ?_⟩
  rw [(splitFirst?_eq_some_iff.mp hsplit).1, List.mem_append, List.mem_cons]
  rintro (hu | hcolon | ht)
  · exact Decimal.notMem_of_int64?_eq_some huser (by decide) (by decide) (by decide) hu
  · exact absurd hcolon (by decide)
  · exact Decimal.notMem_of_int64?_eq_some hissued (by decide) (by decide) (by decide) ht

/-! ### Segments -/

/-- The octets that the payload segment and the signature segment of a text stand for. -/
def segments? (state : String) : Option (Bytes × Bytes) := do
  let (p, m) ← splitFirst? '.' state.toList
  return (← Base64.decode? .urlSafe p, ← Base64.decode? .urlSafe m)

/-- There is one text with given octets in its segments. -/
lemma segments?_eq_some_iff {state : String} {payload mac : Bytes} :
    segments? state = some (payload, mac) ↔
      state.toList = Base64.encode .urlSafe payload ++ '.' :: Base64.encode .urlSafe mac := by
  constructor
  · intro h
    obtain ⟨⟨p, m⟩, hsplit, h⟩ := Option.bind_eq_some_iff.mp h
    obtain ⟨payload', hp, h⟩ := Option.bind_eq_some_iff.mp h
    obtain ⟨mac', hm, h⟩ := Option.bind_eq_some_iff.mp h
    obtain ⟨rfl, rfl⟩ := Prod.mk.inj (Option.some.inj h)
    rw [(splitFirst?_eq_some_iff.mp hsplit).1, Base64.eq_encode_of_decode? hp,
      Base64.eq_encode_of_decode? hm]
  · intro h
    have hsplit : splitFirst? '.' state.toList =
        some (Base64.encode .urlSafe payload, Base64.encode .urlSafe mac) :=
      splitFirst?_eq_some_iff.mpr ⟨h, Base64.dot_notMem_encode .urlSafe payload⟩
    simp [segments?, hsplit]

/-- A text is authentic if its signature segment holds the authentication code of its payload
segment. -/
lemma authentic?_eq_bind (s : StateSigner) (state : String) :
    s.authentic? state = (segments? state).bind fun segments =>
      if segments.2 = hmac s.key segments.1 then some segments.1 else none := by
  rw [authentic?, segments?]
  simp only [Option.bind_eq_bind, Option.bind_assoc, Option.pure_def, Option.bind_some]

/-! ### States that are accepted -/

/-- A state is signed over octets: it spells them and their authentication code. -/
def SignedOver (s : StateSigner) (state : String) (payload : Bytes) : Prop :=
  state.toList =
    Base64.encode .urlSafe payload ++ '.' :: Base64.encode .urlSafe (hmac s.key payload)

/-- What is signed at a second is signed over its payload. -/
lemma signedOver_sign (s : StateSigner) (user now : Int64) :
    s.SignedOver (s.sign user now) (payload user now) := by
  rw [SignedOver, sign, String.toList_ofList]

/-- The authentic texts are those that are signed over something. -/
lemma authentic?_eq_some_iff {s : StateSigner} {state : String} {payload : Bytes} :
    s.authentic? state = some payload ↔ s.SignedOver state payload := by
  rw [authentic?_eq_bind, Option.bind_eq_some_iff]
  constructor
  · rintro ⟨⟨payload', mac⟩, hsegments, h⟩
    obtain ⟨hcode, h⟩ := Option.ite_none_right_eq_some.mp h
    obtain rfl := Option.some.inj h
    dsimp only at hcode
    rw [hcode] at hsegments
    exact segments?_eq_some_iff.mp hsegments
  · intro h
    exact ⟨_, segments?_eq_some_iff.mpr h, if_pos rfl⟩

/-- A state is signed over one sequence of octets. -/
lemma SignedOver.unique {s : StateSigner} {state : String} {payload payload' : Bytes}
    (h : s.SignedOver state payload) (h' : s.SignedOver state payload') : payload = payload' :=
  Option.some.inj ((authentic?_eq_some_iff.mpr h).symm.trans (authentic?_eq_some_iff.mpr h'))

/-- A state is accepted exactly if it is signed over a payload of a fitting age. -/
theorem verify_eq_some_iff {s : StateSigner} {state : String} {now : Int64} {maxAge : Duration}
    {user : Int64} :
    s.verify state now maxAge = some user ↔
      ∃ payload issued, s.SignedOver state payload ∧ ofPayload? payload = some (user, issued) ∧
        s.inWindow issued now maxAge = true := by
  constructor
  · intro h
    obtain ⟨payload, hauthentic, h⟩ := Option.bind_eq_some_iff.mp h
    obtain ⟨⟨user', issued⟩, hread, h⟩ := Option.bind_eq_some_iff.mp h
    obtain ⟨hwindow, h⟩ := Option.ite_none_right_eq_some.mp h
    obtain rfl := Option.some.inj h
    exact ⟨payload, issued, authentic?_eq_some_iff.mp hauthentic, hread, hwindow⟩
  · rintro ⟨payload, issued, hsigned, hread, hwindow⟩
    simp [verify, authentic?_eq_some_iff.mpr hsigned, hread, hwindow]

end StateSigner
end AccountAccess
