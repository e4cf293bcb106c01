import AccountAccess.Proofs.Credential.Segments

/-!
What becomes of a token when another signature is put behind it.

* `Codec.read_of_three_dots`: a text with a dot too many has one in its header, and no header with a
  dot is read.
* `Codec.read_of_signature_refused` and `Codec.read_of_signature_ne`: behind a header that is
  accepted the signature is looked at before the claims are.
* `Codec.decodeAt_of_other_signature`: an accepted token has one signature that is accepted, and no
  other text in its place is.
-/

namespace AccountAccess

/-- A text with a dot spells no octets. -/
lemma Base64.decode?_of_dot (a : Alphabet) {s : List Char} (h : '.' ∈ s) :
    decode? a s = none := by
  cases hdecode : decode? a s with
  | none => rfl
  | some b =>
      rw [eq_encode_of_decode? hdecode] at h
      exact absurd h (dot_notMem_encode a b)

namespace Codec

variable {codec : Codec} {token : String} {s : Segments}

/-! ### Dots -/

/-- A text with a dot has a last one. -/
lemma exists_last_dot {text : List Char} (h : '.' ∈ text) :
    ∃ before behind, text = before ++ '.' :: behind ∧ '.' ∉ behind := by
  obtain ⟨behind, before, hreverse, hbehind⟩ :=
    List.eq_append_cons_of_mem (List.mem_reverse.mpr h)
  refine ⟨before.reverse, behind.reverse, ?_, by simpa using hbehind⟩
  rw [← List.reverse_reverse text, hreverse]
  simp

/-- A text with two dots has segments. -/
lemma exists_segments? (h : 2 ≤ token.toList.count '.') : ∃ s, segments? token = some s := by
  obtain ⟨input, signature, htoken, hsignature⟩ :=
    exists_last_dot (List.count_pos_iff.mp (by omega : 0 < token.toList.count '.'))
  have hone : 1 ≤ input.count '.' := by
    rw [htoken, List.count_append, List.count_cons_self, List.count_eq_zero_of_not_mem hsignature]
      at h
    omega
  obtain ⟨header, payload, hinput, hpayload⟩ := exists_last_dot (List.count_pos_iff.mp hone)
  exact ⟨⟨header, payload, signature, input⟩,
    segments?_eq_some_iff.mpr ⟨htoken, hinput, hsignature, hpayload⟩⟩

/-- Where there is a dot too many, it is in the header. -/
lemma dot_mem_header (hsegments : segments? token = some s)
    (h : 3 ≤ token.toList.count '.') : '.' ∈ s.header := by
  obtain ⟨htoken, hinput, hsignature, hpayload⟩ := segments?_eq_some_iff.mp hsegments
  rw [htoken, hinput] at h
  simp only [List.count_append, List.count_cons_self, List.count_eq_zero_of_not_mem hsignature,
    List.count_eq_zero_of_not_mem hpayload] at h
  exact List.count_pos_iff.mp (by omega)

/-- A text with a dot too many is malformed. -/
lemma read_of_three_dots (h : 3 ≤ token.toList.count '.') :
    codec.read token = .error (.malformed .base64) := by
  obtain ⟨s, hsegments⟩ := exists_segments? (by omega : 2 ≤ token.toList.count '.')
  have hheader : octets s.header = .error (.malformed .base64) := by
    rw [octets, Base64.decode?_of_dot _ (dot_mem_header hsegments h)]
  rw [read, hsegments]
  simp only [hheader, error_bind]

/-! ### Behind an accepted header -/

section

variable (hsegments : segments? token = some s)
  (hheader : (octets s.header >>= fun header => json header >>= algorithm) = .ok .hs256)
include hsegments hheader

/-- A signature that spells no octets is refused before anything is said of the claims. -/
lemma read_of_signature_refused {e : CredentialError} (h : octets s.signature = .error e) :
    codec.read token = .error e := by
  obtain ⟨header, hoctets, halg⟩ := bind_eq_ok hheader
  rw [read, hsegments]
  simp only [hoctets, halg, h, ok_bind, error_bind, ne_eq, not_true_eq_false, if_false]

/-- So is one that spells other octets than the authentication code. -/
lemma read_of_signature_ne {b : Bytes} (h : octets s.signature = .ok b)
    (hne : b ≠ codec.signature s.input) : codec.read token = .error .invalidSignature := by
  obtain ⟨header, hoctets, halg⟩ := bind_eq_ok hheader
  rw [read, hsegments]
  simp only [hoctets, halg, h, ok_bind, error_bind, ne_eq, not_true_eq_false, if_false,
    if_pos hne]

end

/-! ### Another signature -/

/-- What another text behind the input of an accepted token is refused for. -/
lemma read_of_other_signature {c : Claims} (hread : codec.read token = .ok c)
    (hsegments : segments? token = some s) {x : String}
    (hne : String.ofList s.input ++ "." ++ x ≠ token) :
    codec.read (String.ofList s.input ++ "." ++ x) =
      .error (if (Base64.decode? .urlSafe x.toList).isSome then .invalidSignature
        else .malformed .base64) := by
  obtain ⟨⟨s', hsegments', hheader, hsignature⟩, -⟩ := exists_segments_of_read_eq_ok hread
  obtain rfl := Option.some.inj (hsegments'.symm.trans hsegments)
  obtain ⟨htoken, hinput, -, hpayload⟩ := segments?_eq_some_iff.mp hsegments
  have hother : (String.ofList s'.input ++ "." ++ x).toList = s'.input ++ '.' :: x.toList := by
    simp
  by_cases hx : '.' ∈ x.toList
  · -- the dots in `x` move the other two segments to the right
    have hcount : 3 ≤ (String.ofList s'.input ++ "." ++ x).toList.count '.' := by
      have hpos : 0 < x.toList.count '.' := List.count_pos_iff.mpr hx
      rw [hother, hinput]
      simp only [List.count_append, List.count_cons_self]
      omega
    rw [read_of_three_dots hcount, Base64.decode?_of_dot _ hx]
    rfl
  · have hsplit : segments? (String.ofList s'.input ++ "." ++ x) =
        some { s' with signature := x.toList } :=
      segments?_eq_some_iff.mpr ⟨hother, hinput, hx, hpayload⟩
    cases hdecode : Base64.decode? .urlSafe x.toList with
    | none =>
        refine read_of_signature_refused hsplit hheader ?_
        rw [octets, hdecode]
        rfl
    | some b =>
        refine read_of_signature_ne hsplit hheader (b := b) ?_ ?_
        · rw [octets, hdecode]
        · -- octets have one spelling, so the code would be spelled as in the token
          rintro rfl
          refine hne (String.toList_injective ?_)
          rw [hother, htoken, octets_eq_ok_iff.mp hsignature, Base64.eq_encode_of_decode? hdecode]

/-- **An accepted token has one signature.** Of the texts that begin like it up to its last dot,
every other one is refused at every second: for its signature if what stands behind that dot spells
octets, and as malformed if it does not. -/
theorem decodeAt_of_other_signature {now : Int64} {c : Claims}
    (h : codec.decodeAt token now = .ok c) :
    ∃ input signature : String, token = input ++ "." ++ signature ∧ '.' ∉ signature.toList ∧
      ∀ x : String, input ++ "." ++ x ≠ token → ∀ now' : Int64,
        codec.decodeAt (input ++ "." ++ x) now' =
          .error (if (Base64.decode? .urlSafe x.toList).isSome then .invalidSignature
            else .malformed .base64) := by
  have hread := (decodeAt_eq_ok_iff.mp h).1
  obtain ⟨⟨s, hsegments, -⟩, -⟩ := exists_segments_of_read_eq_ok hread
  obtain ⟨htoken, -, hsignature, -⟩ := segments?_eq_some_iff.mp hsegments
  refine ⟨.ofList s.input, .ofList s.signature, ?_, by simpa using hsignature, ?_⟩
  · refine String.toList_injective ?_
    rw [htoken]
    simp
  · intro x hne now'
    rw [decodeAt, read_of_other_signature hread hsegments hne, error_bind]

/-- A credential of noon on the first of March 2024 is accepted then. Without its signature it is
refused for that, and with a segment put in front of its signature it is malformed. -/
theorem decodeAt_of_other_signature_sample :
    let codec := ofLeeway (Bytes.ofText "0123456789abcdef0123456789abcdef") "fit-profi-api" 60
    let c : Claims :=
      ⟨none, "42", "fit-profi-api", 1709294400, 1709294400, 1709295300, 42, .user⟩
    codec.decodeAt (codec.encode c) 1709294400 = .ok c ∧
      ∃ input signature : String, codec.encode c = input ++ "." ++ signature ∧
        codec.decodeAt (input ++ "." ++ "") 1709294400 = .error .invalidSignature ∧
        codec.decodeAt (input ++ "." ++ ("e30." ++ signature)) 1709294400 =
          .error (.malformed .base64) := by
  intro codec c
  have haccepted : codec.decodeAt (codec.encode c) 1709294400 = .ok c :=
    decodeAt_eq_ok_iff.mpr
      ⟨read_encode_eq_ok codec (by decide) (by decide) rfl, by decide, by decide⟩
  obtain ⟨input, signature, htoken, hdot, hother⟩ := decodeAt_of_other_signature haccepted
  refine ⟨haccepted, input, signature, htoken, ?_, ?_⟩
  · have hne : input ++ "." ++ "" ≠ codec.encode c := by
      -- the token ends with the code of 32 octets, and no text ends with a dot and with that
      intro hsame
      have hends := congrArg (fun text => splitLast? text.toList) hsame
      have hleft : splitLast? (input ++ "." ++ "").toList = some (input.toList, []) :=
        splitLast?_eq_some_iff.mpr ⟨by simp, by simp⟩
      have hright := splitLast?_append (signingInput c)
        (Base64.dot_notMem_encode .urlSafe (codec.signature (signingInput c)))
      rw [hleft, encode, String.toList_ofList, hright] at hends
      have hlength := congrArg List.length (Prod.mk.inj (Option.some.inj hends)).2
      rw [Base64.length_encode, Codec.signature, length_hmac] at hlength
      cases hlength
    exact hother "" hne 1709294400
  · have hne : input ++ "." ++ ("e30." ++ signature) ≠ codec.encode c := by
      intro hsame
      have hlength := congrArg String.length (hsame.trans htoken)
      simp at hlength
    have hx : '.' ∈ ("e30." ++ signature).toList := by simp
    have hrefused := hother _ hne 1709294400
    rwa [Base64.decode?_of_dot _ hx] at hrefused

end Codec
end AccountAccess
