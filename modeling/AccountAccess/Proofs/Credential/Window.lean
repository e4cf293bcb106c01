import AccountAccess.Proofs.Credential.RoundTrip

/-!
When a credential is accepted.

* `Codec.checkWindow_eq_saturate`: the ends of a window may as well be computed in 64 bits.
* `Codec.decodeAt_encode`: what becomes of a written token at a second, whatever its claims are.
* `Codec.decodeAt_encode_eq_ok_iff`: until when it is accepted behind its start.
* `Codec.decode_later_iff`: a credential that is accepted once is accepted until its expiry and the
  leeway have passed.
* `Codec.read_encode_issue` and `Codec.decode_encode_issue_iff`: what is issued at a second is read
  back, and is accepted from that second on for its lifetime and the leeway.
* `Codec.encode_issue_inj`: the token of an issued credential tells whom it was issued for and when.
-/

namespace AccountAccess

namespace Claims

lemma sessionLifetime_nonneg : 0 ≤ sessionLifetime := by decide

lemma resetLifetime_nonneg : 0 ≤ resetLifetime := by decide

/-- A credential holds from the second on at which it is issued. -/
@[simp] lemma notBefore_issue (issuer : String) (userId : Int64) (role : Role) (id : Option String)
    (second : Int64) (lifetime : Int) :
    (issue issuer userId role id (.ofUnix second.toInt) lifetime).notBefore = second := by
  show saturate (Instant.ofUnix second.toInt).unix = second
  rw [Instant.unix_ofUnix, saturate_toInt]

/-- A credential expires a lifetime after the second at which it is issued. -/
lemma expires_issue {second : Int64} {lifetime : Int} (hstart : 0 ≤ second.toInt)
    (hlifetime : 0 ≤ lifetime) (hend : second.toInt + lifetime ≤ Instant.lastSecond)
    (issuer : String) (userId : Int64) (role : Role) (id : Option String) :
    (issue issuer userId role id (.ofUnix second.toInt) lifetime).expires.toInt =
      second.toInt + lifetime := by
  have hgreatest : Instant.lastSecond ≤ int64Greatest := by decide
  have hleast : int64Least ≤ 0 := by decide
  show (saturate ((Instant.ofUnix second.toInt).unix + lifetime)).toInt = _
  rw [Instant.unix_ofUnix, toInt_saturate_of_fits] <;> omega

end Claims

namespace Codec

/-! ### Claims of any kind -/

/-- The ends of a window may as well be computed in 64 bits and stay within their range: a second
lies on the same side of them. -/
theorem checkWindow_eq_saturate (codec : Codec) (c : Claims) (now : Int64) :
    codec.checkWindow c now =
      if saturate (c.expires.toInt + codec.leeway) < now then .error .expired
      else if now < saturate (c.notBefore.toInt - codec.leeway) then .error .notYetValid
      else .ok c := by
  have hleast : int64Least = -9223372036854775808 := rfl
  have hgreatest : int64Greatest = 9223372036854775807 := rfl
  have hlow := now.le_toInt
  have hhigh := now.toInt_lt
  have hstart := c.notBefore.toInt_lt
  have hexpires := c.expires.le_toInt
  have hexpired : saturate (c.expires.toInt + codec.leeway) < now ↔
      c.expires.toInt + codec.leeway < now.toInt := by
    rw [Int64.lt_iff_toInt_lt, toInt_saturate]
    omega
  have hearly : now < saturate (c.notBefore.toInt - codec.leeway) ↔
      c.notBefore.toInt - codec.leeway > now.toInt := by
    rw [Int64.lt_iff_toInt_lt, toInt_saturate]
    omega
  simp only [checkWindow, hexpired, hearly]

/-- **What becomes of a written token**: it is refused for a negative time, then for its issuer,
then for its window, and otherwise read back as its claims. -/
theorem decodeAt_encode (key : Bytes) (issuer : String) (leeway : Int64) (c : Claims)
    (now : Int64) :
    (ofLeeway key issuer leeway.toInt).decodeAt
        ((ofLeeway key issuer leeway.toInt).encode c) now =
      if c.expires.toInt < 0 ∨ c.notBefore.toInt < 0 then .error (.malformed .missingClaim)
      else if c.issuer ≠ issuer then .error .invalidIssuer
      else if c.expires.toInt + max 0 leeway.toInt < now.toInt then .error .expired
      else if c.notBefore.toInt - max 0 leeway.toInt > now.toInt then .error .notYetValid
      else .ok c := by
  have hleeway : ((ofLeeway key issuer leeway.toInt).leeway : Int) = max 0 leeway.toInt := by
    show (leeway.toInt.toNat : Int) = _
    omega
  have hissuer : (ofLeeway key issuer leeway.toInt).issuer = issuer := rfl
  rw [decodeAt, read_encode, hissuer]
  split_ifs with htimes hother hexpired hearly
  · rfl
  · rfl
  · rw [ok_bind, checkWindow, hleeway, if_pos hexpired]
  · rw [ok_bind, checkWindow, hleeway, if_neg hexpired, if_pos hearly]
  · rw [ok_bind, checkWindow, hleeway, if_neg hexpired, if_neg hearly]

variable {codec : Codec}

/-- What its issuer writes is accepted behind its start until its expiry and the leeway have passed,
unless a time is negative. -/
lemma decodeAt_encode_eq_ok_iff {c c' : Claims} {now : Int64} (hissuer : c.issuer = codec.issuer)
    (hstarted : c.notBefore.toInt ≤ now.toInt) :
    codec.decodeAt (codec.encode c) now = .ok c' ↔
      c' = c ∧ (0 ≤ c.expires.toInt ∧ 0 ≤ c.notBefore.toInt) ∧
        now.toInt ≤ c.expires.toInt + codec.leeway := by
  rw [decodeAt_eq_ok_iff, read_encode, if_neg (not_not.mpr hissuer)]
  split_ifs with htimes
  · constructor
    · rintro ⟨hread, -⟩
      cases hread
    · omega
  · rw [Except.ok.injEq]
    constructor
    · rintro ⟨rfl, -, hbefore⟩
      exact ⟨rfl, by omega, hbefore⟩
    · rintro ⟨rfl, -, hbefore⟩
      exact ⟨rfl, by omega, hbefore⟩

/-! ### Later seconds -/

/-- A credential that is accepted once says the same whenever it is accepted again, and is accepted
again at later seconds as long as it has not expired. -/
lemma decode_later_iff {token : String} {start now : Int64} {c c' : Claims}
    (hdecode : codec.decode token (.ofSecond start) = .ok c) (hlater : start ≤ now) :
    codec.decode token (.ofSecond now) = .ok c' ↔
      c' = c ∧ now.toInt ≤ c.expires.toInt + codec.leeway := by
  have hstart := decodeAt_eq_ok_iff.mp hdecode
  rw [Int64.le_iff_toInt_le] at hlater
  rw [decode, decodeAt_eq_ok_iff, hstart.1, Except.ok.injEq]
  show c = c' ∧ c'.notBefore.toInt - codec.leeway ≤ now.toInt ∧
    now.toInt ≤ c'.expires.toInt + codec.leeway ↔ _
  constructor
  · rintro ⟨rfl, -, hbefore⟩
    exact ⟨rfl, hbefore⟩
  · rintro ⟨rfl, hbefore⟩
    have hopen : c'.notBefore.toInt - codec.leeway ≤ start.toInt := hstart.2.1
    exact ⟨rfl, by omega, hbefore⟩

/-! ### Credentials that are issued -/

section

variable {userId : Int64} {role : Role} {id : Option String} {second : Int64} {lifetime : Int}
  (hstart : 0 ≤ second.toInt) (hlifetime : 0 ≤ lifetime)
  (hend : second.toInt + lifetime ≤ Instant.lastSecond)
include hstart hlifetime hend

/-- What is issued is read back. -/
lemma read_encode_issue :
    codec.read (codec.encode (codec.issue userId role id (.ofUnix second.toInt) lifetime)) =
      .ok (codec.issue userId role id (.ofUnix second.toInt) lifetime) := by
  refine codec.read_encode_eq_ok ?_ ?_ rfl
  · rw [issue, Claims.expires_issue hstart hlifetime hend]
    omega
  · rw [issue, Claims.notBefore_issue]
    exact hstart

/-- What is issued is accepted from its second on for its lifetime and the leeway. -/
theorem decode_encode_issue_iff {now : Int64} {c : Claims} (hlater : second ≤ now) :
    codec.decode (codec.encode (codec.issue userId role id (.ofUnix second.toInt) lifetime))
        (.ofSecond now) = .ok c ↔
      c = codec.issue userId role id (.ofUnix second.toInt) lifetime ∧
        now.toInt ≤ second.toInt + lifetime + codec.leeway := by
  have hexpires := Claims.expires_issue hstart hlifetime hend codec.issuer userId role id
  have hstarted : (codec.issue userId role id (.ofUnix second.toInt) lifetime).notBefore.toInt ≤
      now.toInt := by
    rw [issue, Claims.notBefore_issue]
    exact Int64.le_iff_toInt_le.mp hlater
  show codec.decodeAt _ now = .ok c ↔ _
  rw [decodeAt_encode_eq_ok_iff rfl hstarted, issue, hexpires, Claims.notBefore_issue]
  exact and_congr_right fun _ => and_iff_right ⟨by omega, hstart⟩

/-- What is issued has expired behind its lifetime and the leeway. -/
lemma decode_encode_issue_of_late {now : Int64}
    (hlate : second.toInt + lifetime + codec.leeway < now.toInt) :
    codec.decode (codec.encode (codec.issue userId role id (.ofUnix second.toInt) lifetime))
      (.ofSecond now) = .error .expired := by
  have hexpires := Claims.expires_issue hstart hlifetime hend codec.issuer userId role id
  rw [decode, decodeAt, read_encode_issue hstart hlifetime hend, ok_bind, checkWindow, issue,
    hexpires]
  exact if_pos hlate

end

/-- The token of what is issued tells the user, the role, the identifier and the second. -/
lemma encode_issue_inj {userId userId' : Int64} {role role' : Role} {id id' : Option String}
    {second second' : Int64} {lifetime lifetime' : Int}
    (h : codec.encode (codec.issue userId role id (.ofUnix second.toInt) lifetime) =
      codec.encode (codec.issue userId' role' id' (.ofUnix second'.toInt) lifetime')) :
    userId = userId' ∧ role = role' ∧ id = id' ∧ second = second' := by
  have hclaims := codec.encode_injective h
  have hsecond := congrArg Claims.notBefore hclaims
  rw [issue, issue, Claims.notBefore_issue, Claims.notBefore_issue] at hsecond
  exact ⟨congrArg Claims.userId hclaims, congrArg Claims.role hclaims,
    congrArg Claims.id hclaims, hsecond⟩

end Codec
end AccountAccess
