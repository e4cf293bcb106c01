import AccountAccess.Digest.Argon2
import AccountAccess.Failure
import AccountAccess.Config.Cost
import AccountAccess.Password.Phc

/-!
Hashing passwords, and comparing them with stored hashes.

* `PasswordHash.make` hashes with Argon2id at a configured cost and writes the string form.
* `PasswordHash.verify` takes variant, version, cost, salt and length from the stored string alone,
  so stored hashes outlive a change of the configured cost.
* `ParamError` lists what Argon2 itself demands of its parameters; `checkParams_ofCost`: an admitted
  cost meets it, and so has a hasher (`PasswordHasher.ofCost_of_check`).
-/

namespace AccountAccess

/-- What Argon2 demands of its parameters. -/
inductive ParamError where
  | memoryTooLittle
  | timeTooSmall
  | threadsTooFew
  | threadsTooMany
  deriving DecidableEq, Repr

/-- The wording. -/
def ParamError.message : ParamError → String
  | .memoryTooLittle => "memory cost is too small"
  | .timeTooSmall => "time cost is too small"
  | .threadsTooFew => "not enough threads"
  | .threadsTooMany => "too many threads"

/-- What is wrong with the value of a parameter in a stored string. -/
def ParamError.valueError : ParamError → PhcValueError
  | .threadsTooMany => .tooLong
  | _ => .tooShort

namespace PasswordHash

/-- The numbers that hashing is done with. -/
structure Params where
  memory : Nat := 19456
  passes : Nat := 2
  lanes : Nat := 1
  associated : Bytes := []
  deriving DecidableEq, Repr

/-- The first thing wrong with parameters. Eight times the lanes are taken in 32 bits, so very many
lanes are found to be too many, and not to have too little memory. -/
def checkParams (p : Params) : Option ParamError :=
  if p.memory < 8 ∨ p.memory < 8 * p.lanes % UInt32.size then some .memoryTooLittle
  else if p.passes < 1 then some .timeTooSmall
  else if p.lanes < 1 then some .threadsTooFew
  else if p.lanes > 0xFFFFFF then some .threadsTooMany
  else none

/-- The parameters of a configured cost. -/
def Params.ofCost (c : PasswordCost) : Params where
  memory := c.memory
  passes := c.iterations.toNat
  lanes := c.parallelism.toNat

/-- An admitted cost meets what Argon2 demands. -/
theorem checkParams_ofCost {c : PasswordCost} (h : c.check = none) :
    checkParams (Params.ofCost c) = none := by
  obtain ⟨h3, h22, hi, hp, hm⟩ := PasswordCost.check_eq_none_iff.1 h
  have h32 : c.cost < 32 := UInt32.lt_iff_toNat_lt.2 (Nat.lt_of_le_of_lt h22 (by decide))
  have hmem : c.memory = Nat.pow 2 c.cost.toNat := if_pos h32
  have grows : ∀ {a b : Nat}, a ≤ b → Nat.pow 2 a ≤ Nat.pow 2 b := Nat.pow_le_pow_right (by decide)
  have lo : 8 ≤ Nat.pow 2 c.cost.toNat := grows h3
  have hi' : Nat.pow 2 c.cost.toNat ≤ 4194304 := grows h22
  simp only [checkParams, Params.ofCost, hmem, UInt32.size]
  rw [if_neg (by omega), if_neg (by omega), if_neg (by omega), if_neg (by omega)]

/-! ### Making -/

/-- Octets of a hash that is made. -/
def outputLength : Nat := 32

/-- The hash of a password at a cost with a salt, in its string form. -/
def phc (c : PasswordCost) (salt : Bytes) (password : String) : PhcString where
  algorithm := "argon2id".toList
  version := some 19
  params := [(['m'], Decimal.digits c.memory), (['t'], Decimal.digits c.iterations.toNat),
    (['p'], Decimal.digits c.parallelism.toNat)]
  salt := some (Base64.encode .standard salt)
  hash := some (Argon2.tag {
    variant := .id, version := .v19, memory := c.memory, passes := c.iterations.toNat,
    lanes := c.parallelism.toNat, length := outputLength, password := Bytes.ofText password,
    salt := salt, associated := [] })

/-- The hash of a password at a cost with a salt, as a text. -/
def make (c : PasswordCost) (salt : Bytes) (password : String) : String :=
  (phc c salt password).render

/-! ### Comparing -/

/-- The variant of Argon2 that a name stands for. -/
def variant (s : List Char) : Except PhcError Argon2.Variant :=
  if s = "argon2d".toList then .ok .d
  else if s = "argon2i".toList then .ok .i
  else if s = "argon2id".toList then .ok .id
  else .error .unknownAlgorithm

/-- The version of Argon2 that a number stands for; the later one where there is none. -/
def version : Option Nat → Except PhcError Argon2.Version
  | none => .ok .v19
  | some 16 => .ok .v16
  | some 19 => .ok .v19
  | some _ => .error .unknownVersion

/-- Takes one parameter of a stored string in. An identifier of a key is checked and passed over. -/
def readParam (p : Params) (nv : List Char × List Char) : Except PhcError Params := do
  let (n, v) := nv
  if n = ['m'] then return { p with memory := ← PhcString.decimal v }
  else if n = ['t'] then return { p with passes := ← PhcString.decimal v }
  else if n = ['p'] then return { p with lanes := ← PhcString.decimal v }
  else if n = "keyid".toList then do
    let _ ← PhcString.octets 8 v
    return p
  else if n = "data".toList then return { p with associated := ← PhcString.octets 32 v }
  else .error .badName

/-- The parameters of a stored string. -/
def readParams (ps : List (List Char × List Char)) : Except PhcError Params := do
  let p ← ps.foldlM readParam {}
  match checkParams p with
  | some e => .error (.badParameter e.valueError)
  | none => return p

/-- The salt that a stored string names, of at least eight octets. -/
def readSalt (s : List Char) : Except PhcError Bytes := do
  let salt ← PhcString.octets 64 s
  if salt.length < 8 then .error (.badSalt .tooShort) else return salt

/-- The hash that a stored string asks for, without the password. -/
def readInput (stored : PhcString) (salt : List Char) (length : Nat) :
    Except PhcError Argon2.Input := do
  let p ← readParams stored.params
  let variant ← variant stored.algorithm
  let version ← version stored.version
  let salt ← readSalt salt
  return { variant, version, memory := p.memory, passes := p.passes, lanes := p.lanes, length,
           password := [], salt, associated := p.associated }

/-- The password is the one of the stored string. A string without salt or hash matches none. -/
def verify (password stored : String) : Except PhcError Bool := do
  let s ← PhcString.parse stored
  match s.salt, s.hash with
  | some salt, some hash =>
    let input ← readInput s salt hash.length
    return Argon2.tag { input with password := Bytes.ofText password } == hash
  | _, _ => return false

end PasswordHash

/-- Hashes and compares passwords at a cost that Argon2 accepts. -/
structure PasswordHasher where
  cost : PasswordCost
  admissible : PasswordHash.checkParams (.ofCost cost) = none

namespace PasswordHasher

/-- The hasher of a configured cost. -/
def ofCost (c : PasswordCost) : Except Failure PasswordHasher :=
  match h : PasswordHash.checkParams (.ofCost c) with
  | none => .ok ⟨c, h⟩
  | some e => .error (.configuration ("invalid password cost: " ++ e.message))

/-- An admitted cost has a hasher. -/
theorem ofCost_of_check {c : PasswordCost} (h : c.check = none) :
    ofCost c = .ok ⟨c, PasswordHash.checkParams_ofCost h⟩ := by
  unfold ofCost
  split
  · rfl
  · rename_i hfault
    rw [PasswordHash.checkParams_ofCost h] at hfault
    cases hfault

/-- How many random octets a salt takes. -/
def saltLength : Nat := 16

/-- The hash of a password with a salt, as a text. -/
def hash (h : PasswordHasher) (salt : Bytes) (password : String) : String :=
  PasswordHash.make h.cost salt password

/-- The password is the one of a stored hash, whatever cost that was made at. -/
def verify (_ : PasswordHasher) (password stored : String) : Except Failure Bool :=
  (PasswordHash.verify password stored).mapError fun e => .passwordHash e.message

end PasswordHasher
end AccountAccess
