import AccountAccess.Service
import Mathlib.Algebra.Group.Nat.Defs
import Mathlib.Tactic.Common

/-!
A service is built from a configuration exactly if nothing is wrong with it.

* `AccessConfig.faults` lists all that is wrong with a configuration, in the order of the questions;
  its check reports the first of these (`AccessConfig.check_eq_head?`).
* **Words.** `PasswordCost.checkWords` and `PasswordHash.checkParamWords` do the arithmetic in words
  of 32 bits, where eight times the lanes may wrap around. Below 2²⁹ lanes the one comes to the
  numbers (`checkWords_eq`); what Argon2 demands takes the product so anyway (`checkParamWords_eq`).
* `PasswordHash.checkParams_eq_none_iff` is what Argon2 demands; an admitted cost meets it.
* `Service.construction_agrees` puts the questions and the construction side by side.
-/

namespace AccountAccess

/-! ### All that is wrong -/

/-- A fault that is there if a condition holds. -/
def ConfigError.onlyIf (e : ConfigError) (p : Prop) [Decidable p] : List ConfigError :=
  if p then [e] else []

/-- The first fault, where one is asked about before others. -/
lemma ConfigError.head?_onlyIf_append (e : ConfigError) (p : Prop) [Decidable p]
    (others : List ConfigError) :
    (e.onlyIf p ++ others).head? = if p then some e else others.head? := by
  unfold onlyIf
  split_ifs <;> rfl

/-- All that is wrong with a cost. -/
def PasswordCost.faults (c : PasswordCost) : List ConfigError :=
  ConfigError.costOutOfRange.onlyIf (c.cost < 3 ∨ 22 < c.cost) ++
    ConfigError.noIterations.onlyIf (c.iterations = 0) ++
    ConfigError.noParallelism.onlyIf (c.parallelism = 0) ++
    ConfigError.costBelowParallelism.onlyIf (c.memory < 8 * c.parallelism.toNat)

/-- The check of a cost reports the first thing that is wrong. -/
lemma PasswordCost.check_eq_head? (c : PasswordCost) : c.check = c.faults.head? := by
  rw [check, faults, ← List.append_nil (ConfigError.costBelowParallelism.onlyIf _)]
  simp only [List.append_assoc, ConfigError.head?_onlyIf_append, List.head?_nil]

namespace AccessConfig

/-- All that is wrong with a configuration. -/
def faults (c : AccessConfig) : List ConfigError :=
  ConfigError.emptyIssuer.onlyIf (Text.isBlankText c.issuer = true) ++
    ConfigError.missingSecret.onlyIf (c.secret = "") ++
    ConfigError.shortSecret.onlyIf (c.key.length < minSecretLength) ++
    ConfigError.longLeeway.onlyIf (maxLeeway.total < c.leeway.total) ++
    ConfigError.noStateMaxAge.onlyIf (c.stateMaxAge.total = 0) ++
    ConfigError.noStoreTimeout.onlyIf (c.storeTimeout.total = 0) ++
    (c.administrators.filter fun a => Text.isBlankText a.email).map
      (fun a => .administratorWithoutEmail a.fullName) ++
    c.password.faults

/-- The check of a configuration reports the first thing that is wrong. -/
lemma check_eq_head? (c : AccessConfig) : c.check = c.faults.head? := by
  rw [check, faults]
  simp only [List.append_assoc, ConfigError.head?_onlyIf_append]
  rw [List.head?_append, List.head?_map, List.head?_filter, ← PasswordCost.check_eq_head?]
  cases c.administrators.find? fun a => Text.isBlankText a.email <;> rfl

/-- Nothing is wrong with the cost in a configuration with nothing wrong. -/
lemma check_password {c : AccessConfig} (h : c.check = none) : c.password.check = none := by
  rw [check] at h
  split_ifs at h
  split at h
  · cases h
  · exact h

end AccessConfig

/-! ### Words of 32 bits -/

/-- Eight times a number below 2²⁹ fits into a word. -/
lemma toNat_eight_mul {n : UInt32} (h : n.toNat < 2 ^ 29) : (8 * n).toNat = 8 * n.toNat := by
  rw [UInt32.toNat_mul]
  exact Nat.mod_eq_of_lt (by show 8 * n.toNat < 2 ^ 32; omega)

namespace PasswordCost

/-- The memory as a word: a shifted bit, or the greatest word where that is shifted out. -/
def memoryWord (c : PasswordCost) : UInt32 :=
  if c.cost < 32 then 1 <<< c.cost else 0xFFFFFFFF

/-- The check of a cost, in words. -/
def checkWords (c : PasswordCost) : Option ConfigError :=
  if c.cost < 3 ∨ 22 < c.cost then some .costOutOfRange
  else if c.iterations = 0 then some .noIterations
  else if c.parallelism = 0 then some .noParallelism
  else if c.memoryWord < 8 * c.parallelism then some .costBelowParallelism
  else none

lemma toNat_memoryWord (c : PasswordCost) : c.memoryWord.toNat = c.memory := by
  rw [memoryWord, memory]
  split_ifs with hcost
  · have hlt : c.cost.toNat < 32 := UInt32.lt_iff_toNat_lt.mp hcost
    have hpow : 2 ^ c.cost.toNat < 2 ^ 32 := Nat.pow_lt_pow_right (by decide) hlt
    rw [UInt32.toNat_shiftLeft, Nat.mod_eq_of_lt hlt, Nat.shiftLeft_eq]
    show 1 * 2 ^ c.cost.toNat % 2 ^ 32 = 2 ^ c.cost.toNat
    rw [Nat.one_mul, Nat.mod_eq_of_lt hpow]
  · rfl

/-- Below 2²⁹ lanes the check in words is the check. -/
lemma checkWords_eq {c : PasswordCost} (h : c.parallelism.toNat < 2 ^ 29) :
    c.checkWords = c.check := by
  have hless : c.memoryWord < 8 * c.parallelism ↔ c.memory < 8 * c.parallelism.toNat := by
    rw [UInt32.lt_iff_toNat_lt, toNat_memoryWord, toNat_eight_mul h]
  simp only [checkWords, check, hless]

/-- At 2²⁹ lanes the product wraps around to zero. -/
example : checkWords ⟨22, 1, 536870912⟩ = none ∧
    check ⟨22, 1, 536870912⟩ = some .costBelowParallelism := by decide

end PasswordCost

namespace PasswordHash

/-- What Argon2 demands of its parameters, in words. -/
def checkParamWords (memory passes lanes : UInt32) : Option ParamError :=
  if memory < 8 ∨ memory < lanes * 8 then some .memoryTooLittle
  else if passes < 1 then some .timeTooSmall
  else if lanes < 1 then some .threadsTooFew
  else if lanes > 0xFFFFFF then some .threadsTooMany
  else none

/-- Argon2 demands in words what it demands. -/
lemma checkParamWords_eq (c : PasswordCost) :
    checkParamWords c.memoryWord c.iterations c.parallelism = checkParams (.ofCost c) := by
  have hmul : (c.parallelism * 8).toNat = 8 * c.parallelism.toNat % UInt32.size := by
    rw [UInt32.mul_comm]
    exact UInt32.toNat_mul 8 c.parallelism
  have hmost : (0xFFFFFF : UInt32).toNat = 0xFFFFFF := rfl
  have height : (8 : UInt32).toNat = 8 := rfl
  have hone : (1 : UInt32).toNat = 1 := rfl
  simp only [checkParamWords, checkParams, Params.ofCost, gt_iff_lt, UInt32.lt_iff_toNat_lt,
    c.toNat_memoryWord, hmul, hmost, height, hone]

/-- What Argon2 demands, in numbers. -/
lemma checkParams_eq_none_iff {p : Params} :
    checkParams p = none ↔ 8 ≤ p.memory ∧ 1 ≤ p.passes ∧ 1 ≤ p.lanes ∧ p.lanes ≤ 2 ^ 24 - 1 ∧
      8 * p.lanes ≤ p.memory := by
  rw [checkParams]
  simp only [UInt32.size]
  split_ifs
  all_goals
    simp only [true_iff, false_iff]
    omega

end PasswordHash

/-! ### Building a service -/

namespace Service

variable {config : AccessConfig}

/-- A configuration with nothing wrong has a service. -/
lemma ofConfig_of_check (h : config.check = none) : ∃ service, ofConfig config = .ok service ∧
    service.config = config ∧ service.hasher.cost = config.password := by
  rw [ofConfig, h]
  dsimp only
  rw [PasswordHasher.ofCost_of_check (AccessConfig.check_password h)]
  exact ⟨_, rfl, rfl, rfl⟩

/-- A configuration with something wrong is refused for it. -/
lemma ofConfig_of_fault {e : ConfigError} (h : config.check = some e) :
    ofConfig config = .error (.configuration e.message) := by
  rw [ofConfig, h]

/-- The questions that are asked about a configuration are those that building a service needs. -/
structure ConstructionAgrees (config : AccessConfig) : Prop where
  /-- There is a service exactly if nothing is wrong. -/
  ok_iff : (∃ service, ofConfig config = .ok service) ↔ config.check = none
  /-- It works by the configuration. -/
  built : ∀ service, ofConfig config = .ok service →
    service.config = config ∧ service.hasher.cost = config.password
  /-- A refusal says the first thing that is wrong. -/
  error_iff : ∀ f, ofConfig config = .error f ↔
    ∃ e, config.check = some e ∧ f = .configuration e.message
  /-- Of all that is wrong, the first thing is reported. -/
  first : config.check = config.faults.head?
  /-- Argon2 has demands of its own, -/
  demanded : PasswordHash.checkParams (.ofCost config.password) = none ↔
    8 ≤ config.password.memory ∧ 1 ≤ config.password.iterations.toNat ∧
      1 ≤ config.password.parallelism.toNat ∧ config.password.parallelism.toNat ≤ 2 ^ 24 - 1 ∧
      8 * config.password.parallelism.toNat ≤ config.password.memory
  /-- which no configuration with nothing wrong fails to meet. -/
  met : config.check = none → PasswordHash.checkParams (.ofCost config.password) = none
  /-- What costs are admitted, over the natural numbers. -/
  admitted_iff : config.password.check = none ↔
    3 ≤ config.password.cost.toNat ∧ config.password.cost.toNat ≤ 22 ∧
      1 ≤ config.password.iterations.toNat ∧ 1 ≤ config.password.parallelism.toNat ∧
      8 * config.password.parallelism.toNat ≤ 2 ^ config.password.cost.toNat
  /-- Words of 32 bits give the same answers. -/
  words : config.password.checkWords = config.password.check ∧
    PasswordHash.checkParamWords config.password.memoryWord config.password.iterations
      config.password.parallelism = PasswordHash.checkParams (.ofCost config.password)

/-- **Validation is exactly what construction needs**, with fewer than 2²⁹ lanes. -/
theorem construction_agrees (config : AccessConfig)
    (hlanes : config.password.parallelism.toNat < 2 ^ 29) : ConstructionAgrees config := by
  have hbuilt : ∀ service, ofConfig config = .ok service → config.check = none ∧
      service.config = config ∧ service.hasher.cost = config.password := by
    intro service hservice
    cases hcheck : config.check with
    | some e =>
        rw [ofConfig_of_fault hcheck] at hservice
        cases hservice
    | none =>
        obtain ⟨_, hok, hparts⟩ := ofConfig_of_check hcheck
        obtain rfl := Except.ok.inj (hok.symm.trans hservice)
        exact ⟨rfl, hparts⟩
  refine {
    ok_iff := ⟨fun ⟨service, hservice⟩ => (hbuilt service hservice).1, fun hcheck => ?_⟩
    built := fun service hservice => (hbuilt service hservice).2
    error_iff := fun f => ⟨fun hrefused => ?_, ?_⟩
    first := config.check_eq_head?
    demanded := PasswordHash.checkParams_eq_none_iff
    met := fun hcheck => PasswordHash.checkParams_ofCost (AccessConfig.check_password hcheck)
    admitted_iff := PasswordCost.check_eq_none_iff
    words := ⟨PasswordCost.checkWords_eq hlanes, PasswordHash.checkParamWords_eq config.password⟩ }
  · obtain ⟨service, hservice, -⟩ := ofConfig_of_check hcheck
    exact ⟨service, hservice⟩
  · cases hcheck : config.check with
    | none =>
        obtain ⟨_, hok, -⟩ := ofConfig_of_check hcheck
        rw [hok] at hrefused
        cases hrefused
    | some e =>
        rw [ofConfig_of_fault hcheck] at hrefused
        exact ⟨e, rfl, (Except.error.inj hrefused).symm⟩
  · rintro ⟨e, hcheck, rfl⟩
    exact ofConfig_of_fault hcheck

/-- The most lanes that the greatest memory has room for. -/
def widestConfig : AccessConfig :=
  { secret := "0123456789abcdef0123456789abcdef", password := ⟨22, 1, 524288⟩ }

/-- Four things are wrong here. -/
def faultyConfig : AccessConfig :=
  { secret := "0123456789abcdef", leeway := .ofSecs 301, administrators := [⟨"Nobody", " "⟩],
    password := ⟨3, 1, 2⟩ }

/-- There is a service with the most lanes; where four things are wrong, the first one is said. -/
theorem construction_agrees_sample :
    (widestConfig.password.parallelism.toNat < 2 ^ 29 ∧
        ∃ service, ofConfig widestConfig = .ok service) ∧
      faultyConfig.password.parallelism.toNat < 2 ^ 29 ∧
        faultyConfig.faults = [.shortSecret, .longLeeway, .administratorWithoutEmail "Nobody",
          .costBelowParallelism] ∧
          ofConfig faultyConfig = .error
            (.configuration "Invalid configuration value: secret must be at least 32 bytes") := by
  have hwide : widestConfig.password.parallelism.toNat < 2 ^ 29 := by decide
  have hfew : faultyConfig.password.parallelism.toNat < 2 ^ 29 := by decide
  have hfaults : faultyConfig.faults = [.shortSecret, .longLeeway,
      .administratorWithoutEmail "Nobody", .costBelowParallelism] := by decide +kernel
  have hagrees := construction_agrees faultyConfig hfew
  refine ⟨⟨hwide, (construction_agrees widestConfig hwide).ok_iff.mpr (by decide +kernel)⟩, hfew,
    hfaults, (hagrees.error_iff _).mpr ⟨.shortSecret, ?_, by decide⟩⟩
  rw [hagrees.first, hfaults]
  rfl

end Service
end AccountAccess
