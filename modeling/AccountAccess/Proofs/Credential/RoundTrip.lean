import AccountAccess.Credential.Codec
import AccountAccess.Proofs.Json.RoundTrip

/-!
Credentials that were issued are read back.

* **Claims.** `Claims.ofJson?_toJson`: the JSON object of claims holds the claims.
* **Header.** `parse?_issuedHeader` and `algorithm?_headerJson`: the header of every token names the
  one algorithm that is accepted.
* **Segments.** `segments?_join`: the last two dots part what three segments were joined to.
* `Codec.read_encode` says what reading an issued token comes to: its claims, unless a time is
  negative or the issuer is another one. `Codec.encode_injective`: tokens of different claims
  differ.
* `Codec.decodeAt_eq_ok_iff` says which tokens are accepted at a second, issued or not.
-/

namespace AccountAccess

open Json (Value)

/-! ### Computations that may be refused -/

section

variable {ε α β : Type}

/-- A computation with a value goes on with the value. -/
@[simp] lemma ok_bind (a : α) (f : α → Except ε β) : (Except.ok a >>= f) = f a := rfl

/-- A computation that is refused goes no further. -/
@[simp] lemma error_bind (e : ε) (f : α → Except ε β) : (Except.error e >>= f) = .error e := rfl

/-- A computation in two parts that has a value has one after its first part. -/
lemma bind_eq_ok {x : Except ε α} {f : α → Except ε β} {b : β} (h : (x >>= f) = .ok b) :
    ∃ a, x = .ok a ∧ f a = .ok b := by
  cases x with
  | error e => cases h
  | ok a => exact ⟨a, rfl, h⟩

end

/-! ### Objects -/

namespace Json.Value

/-- The members of an object that was written are its members. -/
@[simp] lemma members?_ofMembers (ms : List (String × Value)) :
    (Value.ofMembers ms).members? = some ms := by
  rw [Value.ofMembers, Value.members?]
  induction ms with
  | nil => rfl
  | cons m ms ih => simp [List.mapM_cons, ih]

/-- The fields of an object that was written are looked up among its members. -/
lemma fields?_ofMembers (names : List String) (ms : List (String × Value)) :
    (Value.ofMembers ms).fields? names = names.mapM fun name => member? name ms := by
  have h := members?_ofMembers ms
  rw [ofMembers] at h ⊢
  rw [fields?, h]
  · rfl
  · simp

/-- A text is not absent. -/
@[simp] lemma nullable?_ofText (s : String) :
    nullable? string? (ofText s) = some (some s) := by
  show (string? (ofText s)).map some = _
  rw [string?_ofText]
  rfl

/-- The name of an alternative chooses it. -/
@[simp] lemma choice?_ofText {α : Type} (table : List (String × α)) (s : String) :
    choice? table (ofText s) = table.lookup s := by
  show (Json.lexemeText? (Json.escape (Bytes.ofText s))).bind (List.lookup · table) = _
  rw [Json.lexemeText?_escape]
  rfl

end Json.Value

/-! ### Claims -/

namespace Claims

/-- The JSON object of claims is built from texts and integers. -/
lemma isWritten_toJson (c : Claims) : c.toJson.IsWritten := by
  refine Json.isWritten_ofMembers fun m hm => ?_
  rw [members, List.mem_append] at hm
  rcases hm with hm | hm
  · cases hid : c.id with
    | none => simp [hid] at hm
    | some id =>
        rw [hid, List.mem_singleton] at hm
        rw [hm]
        exact Json.isWritten_ofText id
  · simp only [List.mem_cons, List.not_mem_nil, or_false] at hm
    rcases hm with rfl | rfl | rfl | rfl | rfl | rfl | rfl <;> simp

/-- The role that was written is read back. -/
@[simp] lemma role?_ofText (r : Role) : role? (.ofText r.name) = some r := by
  rw [role?, Value.choice?_ofText]
  exact Role.ofName?_name r

/-- The fields of the JSON object of claims. -/
lemma fields?_toJson (c : Claims) :
    c.toJson.fields? memberNames =
      some [c.id.map .ofText, some (.ofText c.subject), some (.ofText c.issuer),
        some (.ofInt c.issuedAt.toInt), some (.ofInt c.notBefore.toInt),
        some (.ofInt c.expires.toInt), some (.ofInt c.userId.toInt),
        some (.ofText c.role.name)] := by
  rw [toJson, Value.fields?_ofMembers]
  cases h : c.id <;> simp [memberNames, members, Value.member?, h]

/-- **Claims are read back from their JSON object.** -/
theorem ofJson?_toJson (c : Claims) : ofJson? c.toJson = some c := by
  have hid : Json.optional none (Value.nullable? Value.string?) (c.id.map .ofText) =
      some c.id := by
    cases c.id with
    | none => rfl
    | some id => exact Value.nullable?_ofText id
  simp [ofJson?, fields?_toJson, hid, Json.required]

/-- The JSON object of claims has no audience. -/
lemma member?_aud_toJson (c : Claims) : Value.member? "aud" c.members = some none := by
  cases h : c.id <;> simp [members, Value.member?, h]

end Claims

/-! ### The header -/

namespace Credential

/-- The header of every token as a JSON object. -/
def headerJson : Value := .ofMembers [("typ", .ofText "JWT"), ("alg", .ofText "HS256")]

/-- The header of every token spells its JSON object. -/
lemma parse?_issuedHeader : Json.parse? issuedHeader = some headerJson := by
  have hcompact : issuedHeader = headerJson.compact := by decide
  rw [hcompact]
  refine Json.parse?_compact _ (Json.isWritten_ofMembers ?_)
  simp

/-- The header of every token names the one algorithm that is accepted. -/
lemma algorithm?_headerJson : algorithm? headerJson = some .hs256 := by
  have hlookup : Algorithm.table.lookup "HS256" = some .hs256 := rfl
  rw [algorithm?, headerJson, Value.members?_ofMembers]
  simp [Value.member?, Json.required, hlookup, textMembers, listMembers, optionalMember,
    registered]

end Credential

/-! ### Segments -/

namespace Base64

/-- What is no symbol is not in a base64 text. -/
lemma notMem_encode {a : Alphabet} {c : Char} (h : ∀ n : Fin 64, a.symbol n ≠ c) (b : Bytes) :
    c ∉ encode a b := by
  intro hmem
  have hother := forall_mem_encode a (p := fun d => d ≠ c) (fun n hn => h ⟨n, hn⟩) b
  exact hother c hmem rfl

/-- Base64 text has no dots. -/
lemma dot_notMem_encode (a : Alphabet) (b : Bytes) : '.' ∉ encode a b :=
  notMem_encode (by cases a <;> decide) b

end Base64

namespace Codec

/-- The last dot parts what a text without dots was put behind. -/
lemma splitLast?_append (before : List Char) {behind : List Char} (h : '.' ∉ behind) :
    splitLast? (before ++ '.' :: behind) = some (before, behind) := by
  have hall : ∀ c ∈ behind.reverse, (c != '.') = true := by
    intro c hc
    have hne : c ≠ '.' := by
      rintro rfl
      exact h (List.mem_reverse.mp hc)
    simpa using hne
  have hreverse : (before ++ '.' :: behind).reverse = behind.reverse ++ '.' :: before.reverse := by
    simp
  rw [splitLast?, hreverse, List.dropWhile_append_of_pos hall, List.takeWhile_append_of_pos hall]
  simp

/-- The last two dots part what three segments were joined to. -/
lemma segments?_join (header : List Char) {payload signature : List Char} (hp : '.' ∉ payload)
    (hs : '.' ∉ signature) :
    segments? (String.ofList ((header ++ '.' :: payload) ++ '.' :: signature)) =
      some ⟨header, payload, signature, header ++ '.' :: payload⟩ := by
  rw [segments?, String.toList_ofList, splitLast?_append _ hs]
  show (splitLast? (header ++ '.' :: payload)).bind _ = _
  rw [splitLast?_append _ hp]
  rfl

/-- A segment is read as octets if it spells them. -/
lemma octets_eq_ok_iff {segment : List Char} {b : Bytes} :
    octets segment = .ok b ↔ segment = Base64.encode .urlSafe b := by
  rw [octets, ← Base64.decode?_eq_some_iff]
  cases Base64.decode? .urlSafe segment <;> simp

/-- What was written in base64 is read back. -/
@[simp] lemma octets_encode (b : Bytes) : octets (Base64.encode .urlSafe b) = .ok b := by
  simp [octets]

/-- The header of an issued token names the one algorithm that is accepted. -/
lemma algorithm_issuedHeader :
    (json Credential.issuedHeader >>= algorithm) = .ok Credential.Algorithm.hs256 := by
  rw [json, Credential.parse?_issuedHeader]
  show algorithm Credential.headerJson = _
  rw [algorithm, Credential.algorithm?_headerJson]

/-- The payload of an issued token spells the JSON object of its claims. -/
lemma json_compact (c : Claims) : json c.toJson.compact = .ok c.toJson := by
  rw [json, Json.parse?_compact _ c.isWritten_toJson]

/-- The JSON object of claims holds the claims. -/
lemma claims_toJson (c : Claims) : claims c.toJson = .ok c := by
  rw [claims, c.ofJson?_toJson]

/-- The registered claims are given as members. -/
lemma registeredClaims_toJson (c : Claims) : registeredClaims c.toJson = .ok () := by
  rw [registeredClaims, Claims.toJson, Value.members?_ofMembers]
  simp only [c.member?_aud_toJson]

/-- The segments of an issued token. -/
lemma segments?_encode (codec : Codec) (c : Claims) :
    segments? (codec.encode c) = some
      ⟨Base64.encode .urlSafe Credential.issuedHeader, Base64.encode .urlSafe c.toJson.compact,
        Base64.encode .urlSafe (codec.signature (signingInput c)), signingInput c⟩ :=
  segments?_join _ (Base64.dot_notMem_encode .urlSafe c.toJson.compact)
    (Base64.dot_notMem_encode .urlSafe (codec.signature (signingInput c)))

/-- What reading an issued token comes to: its claims, unless a time is negative or the issuer is
another one. -/
theorem read_encode (codec : Codec) (c : Claims) :
    codec.read (codec.encode c) =
      if c.expires.toInt < 0 ∨ c.notBefore.toInt < 0 then .error (.malformed .missingClaim)
      else if c.issuer ≠ codec.issuer then .error .invalidIssuer
      else .ok c := by
  rw [read, segments?_encode]
  simp only [octets_encode, ok_bind, algorithm_issuedHeader, json_compact, claims_toJson,
    registeredClaims_toJson, ne_eq, not_true_eq_false, if_false, error_bind]
  rfl

/-- What an issued token is read as are the claims that it was issued for. -/
lemma eq_of_read_encode {codec : Codec} {c c' : Claims}
    (h : codec.read (codec.encode c) = .ok c') : c' = c := by
  rw [read_encode] at h
  split_ifs at h
  exact (Except.ok.inj h).symm

/-- An issued token is read back as its claims where these are the issuer's own and their times lie
from 1970 on. -/
theorem read_encode_eq_ok (codec : Codec) {c : Claims} (hexpires : 0 ≤ c.expires.toInt)
    (hstart : 0 ≤ c.notBefore.toInt) (hissuer : c.issuer = codec.issuer) :
    codec.read (codec.encode c) = .ok c := by
  rw [read_encode, if_neg (by omega), if_neg (not_not.mpr hissuer)]

/-- Tokens of different claims differ. -/
theorem encode_injective (codec : Codec) : Function.Injective codec.encode := by
  intro c c' h
  have hsegments := segments?_encode codec c
  rw [h, segments?_encode codec c', Option.some.injEq, Segments.mk.injEq] at hsegments
  have hpayload := congrArg (Base64.decode? .urlSafe) hsegments.2.1
  rw [Base64.decode?_encode, Base64.decode?_encode, Option.some.injEq] at hpayload
  have hjson := congrArg Json.parse? hpayload
  rw [Json.parse?_compact _ c'.isWritten_toJson, Json.parse?_compact _ c.isWritten_toJson,
    Option.some.injEq] at hjson
  have hclaims := congrArg Claims.ofJson? hjson
  rw [c'.ofJson?_toJson, c.ofJson?_toJson, Option.some.injEq] at hclaims
  exact hclaims.symm

/-! ### Whatever is read -/

/-- What is read has segments of which the first one names the algorithm that is accepted and the
last one spells the authentication code of the other two, an expiry and a start from 1970 on, and
the issuer of the codec. -/
lemma exists_segments_of_read_eq_ok {codec : Codec} {token : String} {c : Claims}
    (h : codec.read token = .ok c) :
    (∃ s, segments? token = some s ∧
        (octets s.header >>= fun header => json header >>= algorithm) = .ok .hs256 ∧
        octets s.signature = .ok (codec.signature s.input)) ∧
      0 ≤ c.expires.toInt ∧ 0 ≤ c.notBefore.toInt ∧ c.issuer = codec.issuer := by
  rw [read] at h
  cases hsegments : segments? token with
  | none => rw [hsegments] at h; cases h
  | some s =>
      simp only [hsegments, error_bind] at h
      obtain ⟨header, hheader, h⟩ := bind_eq_ok h
      obtain ⟨alg, halg, h⟩ := bind_eq_ok h
      split at h
      · cases h
      rename_i haccepted
      obtain ⟨signature, hsignature, h⟩ := bind_eq_ok h
      split at h
      · cases h
      rename_i hauthentic
      obtain ⟨payload, -, h⟩ := bind_eq_ok h
      obtain ⟨value, -, h⟩ := bind_eq_ok h
      obtain ⟨c', -, h⟩ := bind_eq_ok h
      obtain ⟨-, -, h⟩ := bind_eq_ok h
      split_ifs at h with htimes hissuer
      cases h
      rw [not_not.mp hauthentic] at hsignature
      rw [not_not.mp haccepted] at halg
      refine ⟨⟨s, rfl, ?_, hsignature⟩, by omega, by omega, not_not.mp hissuer⟩
      rw [hheader, ok_bind, halg]

/-- What is read has an expiry and a start from 1970 on, and the issuer of the codec. -/
lemma of_read_eq_ok {codec : Codec} {token : String} {c : Claims}
    (h : codec.read token = .ok c) :
    0 ≤ c.expires.toInt ∧ 0 ≤ c.notBefore.toInt ∧ c.issuer = codec.issuer :=
  (exists_segments_of_read_eq_ok h).2

/-- A credential is accepted at a second if it can be read and the second lies in its window, which
is widened by the leeway. -/
theorem decodeAt_eq_ok_iff {codec : Codec} {token : String} {now : Int64} {c : Claims} :
    codec.decodeAt token now = .ok c ↔
      codec.read token = .ok c ∧ c.notBefore.toInt - codec.leeway ≤ now.toInt ∧
        now.toInt ≤ c.expires.toInt + codec.leeway := by
  rw [decodeAt]
  cases hread : codec.read token with
  | error e => simp
  | ok c' =>
      rw [ok_bind, checkWindow]
      split_ifs with hexpired hearly
      · simp only [Except.ok.injEq, false_iff, not_and]
        rintro rfl -
        omega
      · simp only [Except.ok.injEq, false_iff, not_and]
        rintro rfl hstart -
        omega
      · simp only [Except.ok.injEq]
        refine ⟨?_, fun h => h.1⟩
        rintro rfl
        exact ⟨rfl, by omega, by omega⟩

end Codec
end AccountAccess
