import AccountAccess.Command.Run
import AccountAccess.Proofs.Settings.Words

/-!
What a variable of the environment makes of the settings.

* **Trees.** `Value.DifferAt` says that two trees differ in the value at one place only.
  `differAt_assign` lays two values at that place, `Value.DifferAt.assign` and
  `Value.DifferAt.foldl` lay anything elsewhere (`Apart`).
* **Fields.** `TextField` are the fields of the settings that hold a text. `ofValue?_of_differAt`:
  of trees that differ at such a field the settings differ in it, and in nothing else.
* `override_heard`: of the variable of such a field the settings have what is heard of its text,
  whatever the file and the other variables hold, and the text does not decide whether they are
  loaded. `override_heard_zeros` is a secret of 32 octets that is not heard as it is.
-/

namespace AccountAccess

namespace Settings

/-! ### Variables -/

/-- The path that the name of a variable stands for. -/
def variablePath? (name : String) : Option (List Step) := (pathName? name).bind path?

/-- Lays the value of a variable over settings. -/
def layVariable (root : Value) (v : String × String) : Value :=
  match variablePath? v.1 with
  | some path => root.assign path (Value.ofWord v.2)
  | none => root

/-- The variables are laid over settings one after another. -/
lemma overlay_overrides (root : Value) (env : Environment) :
    overlay root (overrides env) = env.foldl layVariable root := by
  rw [overlay, overrides, List.foldl_filterMap]
  congr 1
  funext root v
  obtain ⟨name, s⟩ := v
  cases hname : pathName? name with
  | none => simp [layVariable, variablePath?, hname]
  | some text => cases hpath : path? text <;> simp [layVariable, variablePath?, hname, hpath]

/-! ### Trees that differ at one place -/

/-- Two trees that have `v` and `v'` at a place, and are the same elsewhere. -/
def Value.DifferAt (v v' : Value) : List String → Value → Value → Prop
  | [], root, root' => root = v ∧ root' = v'
  | name :: names, root, root' => ∃ ms ms' m m', root = .table ms ∧ root' = .table ms' ∧
      (∀ other, other ≠ name → ms.lookup other = ms'.lookup other) ∧
      ms.lookup name = some m ∧ ms'.lookup name = some m' ∧ DifferAt v v' names m m'

/-- A path that neither reaches a place nor what is on the way to it. -/
def Apart : List String → List Step → Prop
  | name :: names, .member other :: rest => other = name → Apart names rest
  | _, _ => False

/-- The value of a variable replaces what it is laid over. -/
lemma merge_ofWord (under : Value) (s : String) :
    under.merge (Value.ofWord s) = Value.ofWord s := by
  rw [Value.ofWord]
  split
  · rfl
  split
  · rfl
  split
  · rfl
  split <;> rfl

lemma assign_member (root v : Value) (name : String) (rest : List Step) :
    root.assign (.member name :: rest) v =
      .table (put name (Value.assign ((root.member? name).getD .nil) rest v) root.members) := by
  rw [Value.assign]

/-- A name is given two values that differ at a place. -/
lemma differAt_put {v v' m m' : Value} {names : List String} {name : String}
    {ms ms' : List (String × Value)}
    (hsame : ∀ other, other ≠ name → ms.lookup other = ms'.lookup other)
    (h : Value.DifferAt v v' names m m') :
    Value.DifferAt v v' (name :: names) (.table (put name m ms)) (.table (put name m' ms')) := by
  refine ⟨_, _, m, m', rfl, rfl, fun other hother => ?_, ?_, ?_, h⟩
  · rw [lookup_put, lookup_put, if_neg hother, if_neg hother, hsame other hother]
  · rw [lookup_put, if_pos rfl]
  · rw [lookup_put, if_pos rfl]

/-- Values of variables that are laid at a place make trees that differ there. -/
lemma differAt_assign (s s' : String) (names : List String) (root : Value) :
    Value.DifferAt (.ofWord s) (.ofWord s') names
      (root.assign (names.map .member) (.ofWord s))
      (root.assign (names.map .member) (.ofWord s')) := by
  induction names generalizing root with
  | nil => exact ⟨merge_ofWord root s, merge_ofWord root s'⟩
  | cons name names ih =>
      rw [List.map_cons, assign_member, assign_member]
      exact differAt_put (fun _ _ => rfl) (ih _)

/-- What is laid apart from the place leaves trees that differ there. -/
lemma Value.DifferAt.assign {v v' : Value} {names : List String} {root root' : Value}
    (h : DifferAt v v' names root root') {path : List Step} (hapart : Apart names path)
    (w : Value) : DifferAt v v' names (root.assign path w) (root'.assign path w) := by
  fun_induction Apart names path generalizing root root' with
  | case1 name names other rest ih =>
      obtain ⟨ms, ms', m, m', rfl, rfl, hsame, hm, hm', hdiffer⟩ := h
      rw [assign_member, assign_member]
      by_cases hname : other = name
      · subst hname
        simp only [Value.member?, Value.members, hm, hm', Option.getD_some]
        exact differAt_put hsame (ih hdiffer (hapart rfl))
      · -- the value that is laid under the other name is the same on both sides
        have hother := hsame other hname
        refine ⟨_, _, m, m', rfl, rfl, fun a ha => ?_, ?_, ?_, hdiffer⟩
        · simp only [Value.member?, Value.members, lookup_put, hother, hsame a ha]
        · rw [lookup_put, if_neg (Ne.symm hname)]
          exact hm
        · rw [lookup_put, if_neg (Ne.symm hname)]
          exact hm'
  | case2 => exact hapart.elim

/-- Variables elsewhere leave trees that differ at a place. -/
lemma Value.DifferAt.foldl {v v' : Value} {names : List String} {root root' : Value}
    (h : DifferAt v v' names root root') {env : Environment}
    (hapart : ∀ w ∈ env, ∀ path, variablePath? w.1 = some path → Apart names path) :
    DifferAt v v' names (env.foldl layVariable root) (env.foldl layVariable root') := by
  induction env generalizing root root' with
  | nil => exact h
  | cons w env ih =>
      obtain ⟨hw, henv⟩ := List.forall_mem_cons.mp hapart
      refine ih ?_ henv
      rw [layVariable, layVariable]
      cases hpath : variablePath? w.1 with
      | none => exact h
      | some path => exact h.assign (hw path hpath) _

/-- Of two environments that differ in one variable the trees differ at its place, if no later
variable reaches that. -/
lemma differAt_overlay {names : List String} {name : String}
    (hname : variablePath? name = some (names.map .member)) {after : Environment}
    (hafter : ∀ w ∈ after, ∀ path, variablePath? w.1 = some path → Apart names path)
    (root : Value) (before : Environment) (s s' : String) :
    Value.DifferAt (.ofWord s) (.ofWord s') names
      (overlay root (overrides (before ++ (name, s) :: after)))
      (overlay root (overrides (before ++ (name, s') :: after))) := by
  simp only [overlay_overrides, List.foldl_append, List.foldl_cons]
  refine Value.DifferAt.foldl ?_ hafter
  simp only [layVariable, hname]
  exact differAt_assign s s' names _

@[simp] lemma optional_some {α : Type} (absent : α) (read : Value → Option α) (v : Value) :
    optional absent read (some v) = read v := rfl

/-- A value with a text is not nil. -/
lemma Value.nullable?_of_text? {v : Value} {x : String} (h : v.text? = some x) :
    Value.nullable? Value.text? v = some (some x) := by
  rw [Value.nullable?, h]
  · rfl
  · rintro rfl
    cases h

@[simp] lemma Value.nullable?_table {α : Type} (read : Value → Option α)
    (ms : List (String × Value)) :
    Value.nullable? read (.table ms) = (read (.table ms)).map some := rfl

end Settings

open Settings (Value Environment variablePath? Apart heard IsPrinted isNumeralChar)

/-! ### Fields -/

/-- A field of the settings that holds a text. -/
inductive TextField where
  | issuer
  | secret
  | mailUser
  | mailPassword
  deriving DecidableEq, Repr

namespace TextField

/-- The names of the section and of the field. -/
def names : TextField → List String
  | issuer => ["auth", "issuer"]
  | secret => ["auth", "secret"]
  | mailUser => ["mail", "username"]
  | mailPassword => ["mail", "password"]

/-- The text of the field; there is none without the section for mail. -/
def get : TextField → ToolConfig → Option String
  | issuer, c => some c.access.issuer
  | secret, c => some c.access.secret
  | mailUser, c => c.mail.bind (·.username)
  | mailPassword, c => c.mail.bind (·.password)

/-- The settings with another text in the field; a section for mail is made where there is none. -/
def set (f : TextField) (x : String) (c : ToolConfig) : ToolConfig :=
  match f with
  | issuer => { c with access.issuer := x }
  | secret => { c with access.secret := x }
  | mailUser => { c with mail := some { c.mail.getD { host := "" } with username := some x } }
  | mailPassword => { c with mail := some { c.mail.getD { host := "" } with password := some x } }

@[simp] lemma get_set (f : TextField) (x : String) (c : ToolConfig) :
    f.get (f.set x c) = some x := by
  cases f <;> rfl

end TextField

/-- Trees that differ in the text of a field hold settings that differ in it, or none. -/
lemma ofValue?_of_differAt (f : TextField) {v v' root root' : Value} {x x' : String}
    (h : Value.DifferAt v v' f.names root root') (hv : v.text? = some x)
    (hv' : v'.text? = some x') :
    ToolConfig.ofValue? root = (ToolConfig.ofValue? root').map (f.set x) := by
  have hnull := Value.nullable?_of_text? hv
  have hnull' := Value.nullable?_of_text? hv'
  -- sections are read by looking names up, and only the name of the field finds another value
  cases f <;>
  · obtain ⟨ms, ms', _, _, rfl, rfl, hsections, hsection, hsection', fs, fs', m, m', rfl, rfl,
      hfields, hfield, hfield', rfl, rfl⟩ := h
    simp [ToolConfig.ofValue?, AccessConfig.ofValue?, AccessConfig.memberNames,
      Mail.MailConfig.ofValue?, Mail.MailConfig.memberNames, Value.fields?, TextField.set,
      Option.map_bind, Option.bind_assoc, Function.comp_def, hsections, hsection, hsection',
      hfields, hfield, hfield', hv, hv', hnull, hnull']

/-! ### Loading -/

section

variable (f : TextField) {name : String}
  (hname : variablePath? name = some (f.names.map .member)) {after : Environment}
  (hafter : ∀ w ∈ after, ∀ path, variablePath? w.1 = some path → Apart f.names path)
  (path : Option String) (content : FileContent) (before : Environment)

include hname hafter

/-- Whether settings are loaded does not depend on the text of a variable that names a field of
texts, and of what is loaded only that field does. -/
lemma load_eq_map_set (s x : String) :
    ToolConfig.load path content (before ++ (name, s) :: after) =
      (ToolConfig.load path content (before ++ (name, x) :: after)).map (f.set (heard s)) := by
  simp only [ToolConfig.load]
  cases Settings.source path content with
  | error e => rfl
  | ok members =>
      have hdiffer := Settings.differAt_overlay hname hafter
        (Settings.overlay (.table []) members) before s x
      have hvalue := ofValue?_of_differAt f hdiffer (Settings.text?_ofWord s)
        (Settings.text?_ofWord x)
      simp only [bind, Except.bind, ToolConfig.ofSources?, hvalue]
      cases ToolConfig.ofValue? (Settings.overlay (Settings.overlay (.table []) members)
        (Settings.overrides (before ++ (name, x) :: after))) <;> rfl

/-- The field of settings that were loaded is what is heard of the text. -/
lemma get_of_load {s : String} {c : ToolConfig}
    (h : ToolConfig.load path content (before ++ (name, s) :: after) = .ok c) :
    f.get c = some (heard s) := by
  have hsame := load_eq_map_set f hname hafter path content before s s
  rw [h] at hsame
  rw [Except.ok.inj hsame]
  exact f.get_set (heard s) c

/-- **A field of texts is what is heard of its variable.** Let a variable name a field of texts, and
no variable behind it reach that field or its section. Whatever the file and the other variables
hold, settings are loaded for one text of it exactly if they are loaded for another, they differ in
that field alone, and there they have what is heard of the text; so credentials and states are
signed under the octets of that where the field is the secret. A text is heard as it is exactly if
it is printed like what it spells, and of the texts that are long enough for a secret those are that
have a character which no numeral has. -/
theorem override_heard (s : String) :
    let load := fun x => ToolConfig.load path content (before ++ (name, x) :: after)
    (∀ x, load s = (load x).map (f.set (heard s))) ∧
    (∀ c, load s = .ok c → f.get c = some (heard s) ∧
      (f = .secret → (Codec.ofConfig c.access).key = Bytes.ofText (heard s) ∧
        (StateSigner.ofConfig c.access).key = Bytes.ofText (heard s))) ∧
    (heard s = s ↔ IsPrinted s) ∧
    (AccessConfig.minSecretLength ≤ (Bytes.ofText s).length →
      (heard s = s ↔ Decimal.int64? s.toList = none ∧
        ∀ x, Binary64.ofText? s.toList = some x → x.text = s) ∧
      ∀ c ∈ s.toList, ¬ isNumeralChar c → heard s = s) := by
  intro load
  refine ⟨load_eq_map_set f hname hafter path content before s, fun c hc => ?_,
    Settings.heard_eq_iff, fun hlong => ⟨Settings.heard_eq_iff_of_long hlong, fun c hc hnumeral =>
      Settings.heard_of_long hlong hc hnumeral⟩⟩
  have hfield := get_of_load f hname hafter path content before hc
  refine ⟨hfield, ?_⟩
  rintro rfl
  have hsecret : c.access.secret = heard s := Option.some.inj hfield
  rw [← hsecret]
  exact ⟨rfl, rfl⟩

end

/-- A secret of 32 octets, zeros and a one, is heard as the number one, which is no secret. -/
theorem override_heard_zeros :
    let s := "00000000000000000000000000000001"
    let load := fun x => ToolConfig.load none .absent
      [("PROFI__AUTH__SECRET", x), ("PROFI__AUTH__LEEWAY", "30s")]
    AccessConfig.minSecretLength ≤ (Bytes.ofText s).length ∧
      ∃ c, load s = .ok c ∧ c.access.secret = "1" ∧ c.access.check = some .shortSecret := by
  intro s load
  have hname : variablePath? "PROFI__AUTH__SECRET" = some (TextField.secret.names.map .member) := by
    decide +kernel
  have hleeway : variablePath? "PROFI__AUTH__LEEWAY" =
      some [.member "auth", .member "leeway"] := by decide +kernel
  have hafter : ∀ w ∈ [("PROFI__AUTH__LEEWAY", "30s")], ∀ path,
      variablePath? w.1 = some path → Apart TextField.secret.names path := by
    intro w hw path hpath
    rw [List.mem_singleton.mp hw, hleeway] at hpath
    cases hpath
    exact fun _ hother => absurd hother (by decide)
  have hheard : heard s = "1" := by decide +kernel
  have hother : load "other" = .ok { access := { secret := "other", leeway := .ofSecs 30 } } := by
    decide +kernel
  obtain ⟨hsame, -⟩ := override_heard .secret hname hafter none .absent [] s
  have hload : load s = .ok (TextField.secret.set (heard s)
      { access := { secret := "other", leeway := .ofSecs 30 } }) :=
    (hsame "other").trans (congrArg (Except.map _) hother)
  rw [hheard] at hload
  exact ⟨by decide +kernel, _, hload, rfl, by decide +kernel⟩

end AccountAccess
