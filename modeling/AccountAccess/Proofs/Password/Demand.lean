import AccountAccess.Proofs.Password.RoundTrip

/-!
Stored hashes outlive the cost that they were made at.

* `PasswordHash.demand` is what a stored string asks for: everything that is hashed but the
  password, and the hash that has to come out. `PasswordHash.verify_eq`: the password comes in only
  after that, so neither a hasher's cost nor the password has a part in whether a string can be
  read.
* `PasswordHasher.Carries`: a string has in it all that a password was hashed with, so its demand is
  that of the cost it was made at (`PasswordHasher.carries_hash`).
* `PasswordHasher.outlasts_cost`: hashes that were made at one cost are compared at any other.
-/

namespace AccountAccess

namespace PasswordHash

/-- What a stored string asks for: what is hashed, but for the password, and the hash that has to
come out. A string without salt or hash asks for nothing. -/
def demand (stored : String) : Except PhcError (Option (Argon2.Input × Bytes)) := do
  let s ← PhcString.parse stored
  match s.salt, s.hash with
  | some salt, some hash => return some (← readInput s salt hash.length, hash)
  | _, _ => return none

/-- A password meets what is asked for. -/
def meets (password : String) : Option (Argon2.Input × Bytes) → Bool
  | some (input, hash) => Argon2.tag { input with password := Bytes.ofText password } == hash
  | none => false

/-- A password is compared with what the stored string asks for. -/
theorem verify_eq (password stored : String) :
    verify password stored = (demand stored).map (meets password) := by
  rw [verify, demand]
  cases PhcString.parse stored with
  | error e => rfl
  | ok s =>
      obtain ⟨algorithm, version, params, salt, hash⟩ := s
      cases salt with
      | none => rfl
      | some salt =>
          cases hash with
          | none => rfl
          | some hash =>
              show (readInput _ salt hash.length >>= _) =
                Except.map _ (readInput _ salt hash.length >>= _)
              cases readInput ⟨algorithm, version, params, some salt, some hash⟩ salt
                hash.length <;> rfl

end PasswordHash

namespace PasswordHasher

/-- What a stored string asks for decides whether comparing fails, and how. -/
lemma verify_eq_error_iff {hasher : PasswordHasher} {password stored : String} {f : Failure} :
    hasher.verify password stored = .error f ↔
      ∃ e, PasswordHash.demand stored = .error e ∧ f = .passwordHash e.message := by
  rw [verify, PasswordHash.verify_eq]
  cases PasswordHash.demand stored with
  | error e =>
      show Except.error _ = _ ↔ _
      simp [eq_comm]
  | ok d =>
      show Except.ok _ = _ ↔ _
      simp

/-- What the hashes of a hasher ask for, with a salt. -/
def input (h : PasswordHasher) (salt : Bytes) : Argon2.Input where
  variant := .id
  version := .v19
  memory := h.cost.memory
  passes := h.cost.iterations.toNat
  lanes := h.cost.parallelism.toNat
  length := 32
  password := []
  salt := salt
  associated := []

/-- A stored string has in it all that a hasher made of a password with a salt. -/
structure Carries (maker : PasswordHasher) (salt : Bytes) (password stored : String) : Prop where
  /-- It parses to the algorithm, its version, the three parameters, the salt and the output. -/
  parsed : PhcString.parse stored = .ok {
    algorithm := "argon2id".toList
    version := some 19
    params := [(['m'], Decimal.digits maker.cost.memory),
      (['t'], Decimal.digits maker.cost.iterations.toNat),
      (['p'], Decimal.digits maker.cost.parallelism.toNat)]
    salt := some (Base64.encode .standard salt)
    hash := some (maker.output salt password) }
  /-- The output has 32 octets. -/
  length : (maker.output salt password).length = 32
  /-- What it asks for is what it was made with. -/
  asked : PasswordHash.demand stored = .ok (some (maker.input salt, maker.output salt password))

/-- A hash that was made has in it all that it was made with. -/
lemma carries_hash (maker : PasswordHasher) {salt : Bytes} (hsalt : salt.length = saltLength)
    (password : String) : Carries maker salt password (maker.hash salt password) := by
  have hparse := PasswordHash.parse_make maker.cost hsalt password
  have hlength : (maker.output salt password).length = 32 := Argon2.length_tag _
  refine ⟨hparse, hlength, ?_⟩
  have hinput := PasswordHash.readInput_of_params maker.admissible hsalt
    (some (Base64.encode .standard salt)) (some (maker.output salt password)) 32
  rw [PasswordHash.demand, hash, hparse]
  show (PasswordHash.readInput (PasswordHash.phc maker.cost salt password)
    (Base64.encode .standard salt) (maker.output salt password).length >>= _) = _
  rw [hlength]
  exact congrArg (· >>= _) hinput

/-- **Stored hashes outlast a change of cost.** Of a password and a salt an admitted cost makes a
string that carries all it was made with. Under any other admitted cost a password is compared with
it without fail, and matches exactly if Argon2id makes the same of it at the first cost. Whatever
string is stored, any two hashers agree on it, and the password has no part in whether it can be
read. -/
theorem outlasts_cost {c₁ c₂ : PasswordCost} (h₁ : c₁.check = none) (h₂ : c₂.check = none)
    {salt : Bytes} (hsalt : salt.length = saltLength) (password other : String) :
    ∃ maker checker, ofCost c₁ = .ok maker ∧ maker.cost = c₁ ∧ ofCost c₂ = .ok checker ∧
      checker.cost = c₂ ∧ Carries maker salt password (maker.hash salt password) ∧
      (∃ matched, checker.verify other (maker.hash salt password) = .ok matched ∧
        (matched = true ↔ maker.output salt other = maker.output salt password)) ∧
      checker.verify password (maker.hash salt password) = .ok true ∧
      ∀ (stored : String) (x y : PasswordHasher),
        x.verify password stored = y.verify password stored ∧
          ∀ f, x.verify password stored = .error f ↔ y.verify other stored = .error f := by
  let maker : PasswordHasher := ⟨c₁, PasswordHash.checkParams_ofCost h₁⟩
  let checker : PasswordHasher := ⟨c₂, PasswordHash.checkParams_ofCost h₂⟩
  refine ⟨maker, checker, ofCost_of_check h₁, rfl, ofCost_of_check h₂, rfl,
    maker.carries_hash hsalt password, ?_, ?_, ?_⟩
  · exact ⟨_, verify_hash_eq maker checker hsalt other password, beq_iff_eq⟩
  · rw [verify_hash_eq maker checker hsalt, beq_self_eq_true]
  · intro stored x y
    have hread : ∀ (h : PasswordHasher) (p : String), h.verify p stored =
        ((PasswordHash.demand stored).map (PasswordHash.meets p)).mapError
          fun e => .passwordHash e.message := by
      intro h p
      rw [verify, PasswordHash.verify_eq]
    exact ⟨by rw [hread x, hread y], fun f => by rw [verify_eq_error_iff, verify_eq_error_iff]⟩

/-- A hash that was made at a low cost matches under a higher one. -/
theorem outlasts_cost_sample :
    PasswordCost.check ⟨4, 1, 1⟩ = none ∧ PasswordCost.check ⟨5, 2, 2⟩ = none ∧
      ∃ maker checker, ofCost ⟨4, 1, 1⟩ = .ok maker ∧ ofCost ⟨5, 2, 2⟩ = .ok checker ∧
        checker.verify "s3cret" (maker.hash (List.replicate 16 7) "s3cret") = .ok true := by
  have hlow : PasswordCost.check ⟨4, 1, 1⟩ = none := by decide
  have hhigh : PasswordCost.check ⟨5, 2, 2⟩ = none := by decide
  have hsalt : (List.replicate 16 (7 : UInt8)).length = saltLength := rfl
  obtain ⟨maker, checker, hmaker, -, hchecker, -, -, -, hmatch, -⟩ :=
    outlasts_cost hlow hhigh hsalt "s3cret" "S3cret"
  exact ⟨hlow, hhigh, maker, checker, hmaker, hchecker, hmatch⟩

end PasswordHasher
end AccountAccess
