import AccountAccess.Proofs.Credential.RoundTrip
import AccountAccess.Proofs.SignedState.Accepted

/-!
What a token looks like that is accepted.

* `Codec.splitLast?_eq_some_iff` and `Codec.segments?_eq_some_iff`: the last two dots part a token.
* `Codec.SignedOver` says that the third segment of a token spells the authentication code of the
  first two and the dot between them. Every written token is signed over its first two segments
  (`Codec.signedOver_encode`), and every token that is read is signed over something
  (`Codec.exists_signedOver_of_read`), be it written here or not.
-/

namespace AccountAccess.Codec

/-! ### Splitting -/

/-- Parting a text at the last dot is parting it at the first one, read backwards. -/
lemma splitLast?_eq_map (s : List Char) :
    splitLast? s = (StateSigner.splitFirst? '.' s.reverse).map fun parts =>
      (parts.2.reverse, parts.1.reverse) := by
  rw [splitLast?, StateSigner.splitFirst?]
  cases s.reverse.dropWhile (· != '.') <;> rfl

/-- A text is parted at its last dot in the one way in which the second part is without dots. -/
lemma splitLast?_eq_some_iff {s before behind : List Char} :
    splitLast? s = some (before, behind) ↔ s = before ++ '.' :: behind ∧ '.' ∉ behind := by
  constructor
  · intro h
    rw [splitLast?_eq_map] at h
    obtain ⟨⟨first, rest⟩, hsplit, hparts⟩ := Option.map_eq_some_iff.mp h
    obtain ⟨rfl, rfl⟩ := Prod.mk.inj hparts
    obtain ⟨hreverse, hfirst⟩ := StateSigner.splitFirst?_eq_some_iff.mp hsplit
    refine ⟨List.reverse_inj.mp ?_, by simpa using hfirst⟩
    simpa using hreverse
  · rintro ⟨rfl, hbehind⟩
    exact splitLast?_append before hbehind

/-- The last two dots part a token. -/
lemma segments?_eq_some_iff {token : String} {s : Segments} :
    segments? token = some s ↔
      token.toList = s.input ++ '.' :: s.signature ∧ s.input = s.header ++ '.' :: s.payload ∧
        '.' ∉ s.signature ∧ '.' ∉ s.payload := by
  constructor
  · intro h
    obtain ⟨⟨input, signature⟩, houter, h⟩ := Option.bind_eq_some_iff.mp h
    obtain ⟨⟨header, payload⟩, hinner, h⟩ := Option.bind_eq_some_iff.mp h
    obtain rfl := Option.some.inj h
    obtain ⟨htoken, hsignature⟩ := splitLast?_eq_some_iff.mp houter
    obtain ⟨hinput, hpayload⟩ := splitLast?_eq_some_iff.mp hinner
    exact ⟨htoken, hinput, hsignature, hpayload⟩
  · rintro ⟨htoken, hinput, hsignature, hpayload⟩
    obtain ⟨header, payload, signature, input⟩ := s
    dsimp only at htoken hinput hsignature hpayload
    subst hinput
    rw [← segments?_join header hpayload hsignature, ← htoken, String.ofList_toList]

/-! ### Tokens that are accepted -/

/-- A token is signed over octets: these are its first two segments with the dot between them, and
its third segment spells their authentication code. -/
def SignedOver (codec : Codec) (token : String) (input : Bytes) : Prop :=
  ∃ s, segments? token = some s ∧ Bytes.ofText (String.ofList s.input) = input ∧
    s.signature = Base64.encode .urlSafe (hmac codec.key input)

/-- A written token is signed over its first two segments. -/
lemma signedOver_encode (codec : Codec) (c : Claims) :
    codec.SignedOver (codec.encode c) (Bytes.ofText (String.ofList (signingInput c))) :=
  ⟨_, segments?_encode codec c, rfl, rfl⟩

/-- A token that is read is signed over something. -/
lemma exists_signedOver_of_read {codec : Codec} {token : String} {c : Claims}
    (h : codec.read token = .ok c) : ∃ input, codec.SignedOver token input := by
  obtain ⟨⟨s, hsegments, -, hsignature⟩, -⟩ := exists_segments_of_read_eq_ok h
  exact ⟨_, s, hsegments, rfl, octets_eq_ok_iff.mp hsignature⟩

namespace SignedOver

variable {codec : Codec} {token : String} {input : Bytes} (h : codec.SignedOver token input)
include h

/-- What a token is signed over is a text with a dot. -/
lemma exists_text : ∃ text : String, input = Bytes.ofText text ∧ '.' ∈ text.toList := by
  obtain ⟨s, hsegments, rfl, -⟩ := h
  refine ⟨_, rfl, ?_⟩
  rw [String.toList_ofList, (segments?_eq_some_iff.mp hsegments).2.1]
  exact List.mem_append_right _ List.mem_cons_self

/-- A token has two dots at least. -/
lemma two_le_count : 2 ≤ token.toList.count '.' := by
  obtain ⟨s, hsegments, -, -⟩ := h
  obtain ⟨htoken, hinput, -, -⟩ := segments?_eq_some_iff.mp hsegments
  rw [htoken, hinput]
  simp only [List.count_append, List.count_cons_self]
  omega

end SignedOver
end AccountAccess.Codec
