import AccountAccess.Config.Access
import AccountAccess.Proofs.Credential.RoundTrip
import AccountAccess.Proofs.Json.Text
import AccountAccess.Proofs.Time.Duration

/-!
A configuration that was written as JSON is read back.

* `PasswordCost.ofJson?_toJson` and `AccessConfig.ofJson?_toJson`: the JSON object of a
  configuration holds the configuration. Its spans are in words, which `Duration.parse_render` reads
  back, and the entries of the allow-list are objects of their own (`list?_entryJson`).
* `isPlain_toJson`: the object is written as a text, whatever the texts in it are.
* `AccessConfig.reads_back` puts these together.
-/

namespace AccountAccess

open Json (Value)

/-! ### The cost of a password -/

/-- The 32-bit number that was written is read back. -/
@[simp] lemma Json.Value.uint32?_ofInt (x : UInt32) :
    (Value.ofInt x.toNat).uint32? = some x := by
  have hx := x.toNat_lt
  rw [uint32?, intBetween?, int?_ofInt]
  simp only [Option.bind_eq_bind, Option.bind_some]
  rw [if_pos (by simp only [UInt32.size]; omega)]
  simp

namespace PasswordCost

/-- **A cost is read back from its JSON object.** -/
theorem ofJson?_toJson (c : PasswordCost) : ofJson? c.toJson = some c := by
  have hfields : c.toJson.fields? memberNames =
      some [some (.ofInt c.cost.toNat), some (.ofInt c.iterations.toNat),
        some (.ofInt c.parallelism.toNat)] := by
    rw [toJson, Value.fields?_ofMembers]
    simp [memberNames, Value.member?]
  simp [ofJson?, hfields, Json.optional]

lemma isPlain_toJson (c : PasswordCost) : c.toJson.IsPlain := by
  refine Value.isPlain_ofMembers fun m hm => ?_
  simp only [List.mem_cons, List.not_mem_nil, or_false] at hm
  rcases hm with rfl | rfl | rfl <;> exact Value.isPlain_ofInt _

end PasswordCost

namespace AccessConfig

/-! ### Members -/

@[simp] lemma duration?_ofText (d : Duration) : duration? (.ofText d.render) = some d := by
  rw [duration?, Value.string?_ofText]
  show Duration.parse? d.render = some d
  rw [Duration.parse?, Duration.parse_render]
  rfl

/-- An entry of the allow-list as a JSON object. -/
def entryJson (a : Administrator) : Value :=
  .ofMembers [("full_name", .ofText a.fullName), ("email", .ofText a.email)]

@[simp] lemma administrator?_entryJson (a : Administrator) :
    administrator? (entryJson a) = some a := by
  have hfields : (entryJson a).fields? ["full_name", "email"] =
      some [some (.ofText a.fullName), some (.ofText a.email)] := by
    rw [entryJson, Value.fields?_ofMembers]
    simp [Value.member?]
  simp [administrator?, hfields, Json.required]

@[simp] lemma list?_entryJson (as : List Administrator) :
    Value.list? administrator? (.arr (as.map entryJson)) = some as := by
  rw [Value.list?]
  induction as with
  | nil => rfl
  | cons a as ih => simp [List.mapM_cons, ih]

/-! ### The whole -/

/-- **A configuration is read back from its JSON object.** -/
theorem ofJson?_toJson (c : AccessConfig) : ofJson? c.toJson = some c := by
  have hfields : c.toJson.fields? memberNames =
      some [some (.ofText c.issuer), some (.ofText c.secret), some (.ofText c.leeway.render),
        some (.ofText c.stateMaxAge.render), some (.ofText c.storeTimeout.render),
        some (.arr (c.administrators.map entryJson)), some c.password.toJson] := by
    rw [toJson, Value.fields?_ofMembers]
    simp [memberNames, Value.member?, entryJson]
  have hpassword := c.password.ofJson?_toJson
  simp [ofJson?, hfields, Json.optional, hpassword]

lemma isPlain_entryJson (a : Administrator) : (entryJson a).IsPlain := by
  refine Value.isPlain_ofMembers fun m hm => ?_
  simp only [List.mem_cons, List.not_mem_nil, or_false] at hm
  rcases hm with rfl | rfl <;> exact Value.isPlain_ofText _

lemma isPlain_toJson (c : AccessConfig) : c.toJson.IsPlain := by
  refine Value.isPlain_ofMembers fun m hm => ?_
  simp only [List.mem_cons, List.not_mem_nil, or_false] at hm
  rcases hm with rfl | rfl | rfl | rfl | rfl | rfl | rfl
  · exact Value.isPlain_ofText _
  · exact Value.isPlain_ofText _
  · exact Value.isPlain_ofText _
  · exact Value.isPlain_ofText _
  · exact Value.isPlain_ofText _
  · refine Value.isPlain_arr fun v hv => ?_
    obtain ⟨a, -, rfl⟩ := List.mem_map.mp hv
    exact isPlain_entryJson a
  · exact c.password.isPlain_toJson

/-! ### Text -/

/-- The configuration that a JSON text holds. -/
def ofText (text : String) : Except Duration.Fault AccessConfig :=
  Duration.present (Json.parseText? text) >>= ofJson

lemma ofJson_toJson (c : AccessConfig) : ofJson c.toJson = .ok c := by
  unfold ofJson
  rw [ofJson?_toJson]

/-- The configuration `r` answers every question about it as `c` does. -/
structure AnswersAs (r c : AccessConfig) : Prop where
  check : r.check = c.check
  leewaySecs : r.leewaySecs = c.leewaySecs
  isAdministrator : ∀ fullName email, r.isAdministrator fullName email =
    c.isAdministrator fullName email

/-- **Every configuration is read back from its JSON text.** Spans are read back from their words,
and what is read from the text answers as the configuration that was written. -/
theorem reads_back :
    (∀ d : Duration, Duration.parse d.render = .ok d) ∧
      ∀ c : AccessConfig, ∃ text, c.toJson.text? = some text ∧ ofText text = .ok c ∧
        ∀ r, ofText text = .ok r → AnswersAs r c := by
  refine ⟨Duration.parse_render, fun c => ?_⟩
  obtain ⟨text, htext, hparse⟩ := c.isPlain_toJson.exists_text?
  have hread : ofText text = .ok c := by
    rw [ofText, hparse]
    exact ofJson_toJson c
  refine ⟨text, htext, hread, fun r hr => ?_⟩
  obtain rfl := Except.ok.inj (hread.symm.trans hr)
  exact ⟨rfl, rfl, fun _ _ => rfl⟩

end AccessConfig
end AccountAccess
