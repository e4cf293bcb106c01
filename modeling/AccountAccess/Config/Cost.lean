import AccountAccess.Json.Decode
import AccountAccess.Json.Value
import AccountAccess.Text.Hidden

/-!
What can be wrong with a configuration, and what hashing a password costs.

* `ConfigError` lists the faults in the order they are checked, so the first one that applies is
  reported.
* `PasswordCost` is memory as a power of two, passes over it, and lanes. `PasswordCost.check` is the
  first thing wrong with a cost; `check_eq_none_iff` says in numbers which costs are admitted.
-/

namespace AccountAccess

/-! ### Faults -/

/-- What is wrong with a configuration. -/
inductive ConfigError where
  | emptyIssuer
  | missingSecret
  | shortSecret
  | longLeeway
  | noStateMaxAge
  | noStoreTimeout
  | administratorWithoutEmail (fullName : String)
  | costOutOfRange
  | noIterations
  | noParallelism
  | costBelowParallelism
  deriving DecidableEq, Repr

namespace ConfigError

/-- A value is absent, and not merely wrong. -/
def isMissing : ConfigError → Bool
  | .missingSecret => true
  | _ => false

/-- What is wrong, without saying that it is the configuration. -/
def detail : ConfigError → String
  | .emptyIssuer => "issuer cannot be empty"
  | .missingSecret => "secret"
  | .shortSecret => "secret must be at least 32 bytes"
  | .longLeeway => "leeway must not exceed 5m"
  | .noStateMaxAge => "state_max_age must be greater than 0"
  | .noStoreTimeout => "store_timeout must be greater than 0"
  | .administratorWithoutEmail name => "administrator '" ++ name ++ "' has no email"
  | .costOutOfRange => "password.cost must be between 3 and 22"
  | .noIterations => "password.iterations must be greater than 0"
  | .noParallelism => "password.parallelism must be greater than 0"
  | .costBelowParallelism => "password.cost is too small for the configured parallelism"

/-- The wording. -/
def message (e : ConfigError) : String :=
  (if e.isMissing then "Missing required configuration: " else "Invalid configuration value: ") ++
    e.detail

end ConfigError

/-! ### The cost of hashing -/

/-- The cost of hashing a password. -/
structure PasswordCost where
  /-- Memory as a power of two, in units of 1024 octets. -/
  cost : UInt32 := 14
  /-- Passes over the memory. -/
  iterations : UInt32 := 2
  /-- Lanes of the memory. -/
  parallelism : UInt32 := 1
  deriving DecidableEq, Repr

namespace PasswordCost

/-- The memory in units of 1024 octets, as far as 32 bits hold it. -/
def memory (c : PasswordCost) : Nat :=
  if c.cost < 32 then Nat.pow 2 c.cost.toNat else UInt32.size - 1

/-- The first thing wrong with a cost. -/
def check (c : PasswordCost) : Option ConfigError :=
  if c.cost < 3 ∨ 22 < c.cost then some .costOutOfRange
  else if c.iterations = 0 then some .noIterations
  else if c.parallelism = 0 then some .noParallelism
  else if c.memory < 8 * c.parallelism.toNat then some .costBelowParallelism
  else none

theorem check_eq_none_iff {c : PasswordCost} :
    c.check = none ↔ 3 ≤ c.cost.toNat ∧ c.cost.toNat ≤ 22 ∧ 1 ≤ c.iterations.toNat ∧
      1 ≤ c.parallelism.toNat ∧ 8 * c.parallelism.toNat ≤ Nat.pow 2 c.cost.toNat := by
  have h0 : ∀ x : UInt32, x = 0 ↔ x.toNat = 0 := fun x => by rw [← UInt32.toNat_inj]; rfl
  have h3 : c.cost < 3 ↔ c.cost.toNat < 3 := UInt32.lt_iff_toNat_lt
  have h22 : 22 < c.cost ↔ 22 < c.cost.toNat := UInt32.lt_iff_toNat_lt
  have h32 : c.cost < 32 ↔ c.cost.toNat < 32 := UInt32.lt_iff_toNat_lt
  unfold check memory
  grind

/-! ### JSON and diagnostics -/

/-- The members in order. -/
def memberNames : List String := ["cost", "iterations", "parallelism"]

/-- The cost that a JSON value holds; an absent member has its default. -/
def ofJson? (v : Json.Value) : Option PasswordCost :=
  match v.fields? memberNames with
  | some [cost, iterations, parallelism] => do
    let cost ← Json.optional 14 Json.Value.uint32? cost
    let iterations ← Json.optional 2 Json.Value.uint32? iterations
    let parallelism ← Json.optional 1 Json.Value.uint32? parallelism
    return { cost, iterations, parallelism }
  | _ => none

/-- The cost as a JSON object. -/
def toJson (c : PasswordCost) : Json.Value :=
  .ofMembers [("cost", .ofInt c.cost.toNat), ("iterations", .ofInt c.iterations.toNat),
    ("parallelism", .ofInt c.parallelism.toNat)]

/-- The cost as a diagnostic shows it. -/
def diagnostic (c : PasswordCost) : String :=
  Diagnostic.record "PasswordConfig" [("cost", Decimal.text c.cost.toNat),
    ("iterations", Decimal.text c.iterations.toNat),
    ("parallelism", Decimal.text c.parallelism.toNat)]

end PasswordCost
end AccountAccess
