import AccountAccess.Password.Hasher
import Mathlib.Tactic.Common

/-!
Password hashes are read back as they were written, so what is compared is what Argon2id makes of
two passwords.

* **Characters.** Whatever stands in a field is a value character (`isValueChar_symbol`,
  `isValueChar_of_isDigit`), and none of these parts fields or parameters (`of_isValueChar`).
* `PhcString.split_eq_splitOn`: splitting undoes joining, by the laws of the library.
* `PhcString.parse_render`: a string form with all its fields is read back.
* `PasswordHasher.verify_hash_eq`: comparing a password with a hash that was made never fails, and
  comes to whether Argon2id makes the same of it as of the password that was hashed.
* `PasswordHasher.verify_hash`: a password matches the hash that was made of it.
-/

namespace AccountAccess

namespace PhcString

/-! ### Characters -/

/-- The value characters in numbers. -/
lemma isValueChar_iff {c : Char} :
    isValueChar c = true ↔ 65 ≤ c.toNat ∧ c.toNat ≤ 90 ∨ 97 ≤ c.toNat ∧ c.toNat ≤ 122 ∨
      48 ≤ c.toNat ∧ c.toNat ≤ 57 ∨ c.toNat = 47 ∨ c.toNat = 43 ∨ c.toNat = 46 ∨ c.toNat = 45 := by
  have hnat : ∀ d : Char, c = d ↔ c.toNat = d.toNat := fun d => Char.toNat_inj.symm
  simp only [isValueChar, Bool.or_eq_true, Bool.and_eq_true, decide_eq_true_eq, beq_iff_eq,
    Char.le_def, UInt32.le_iff_toNat_le, or_assoc, hnat]
  rfl

/-- A value character is ASCII, and parts neither fields nor parameters. -/
lemma of_isValueChar {c : Char} (h : isValueChar c = true) :
    c.toNat < 128 ∧ c ≠ '$' ∧ c ≠ ',' ∧ c ≠ '=' := by
  refine ⟨?_, ?_, ?_, ?_⟩
  · rw [isValueChar_iff] at h
    omega
  all_goals
    rintro rfl
    exact absurd h (by decide)

/-- Every symbol of base64 is a value character. -/
lemma isValueChar_symbol : ∀ n < 64, isValueChar (Base64.Alphabet.standard.symbol n) = true := by
  decide

/-- Every digit is a value character. -/
lemma isValueChar_of_isDigit {c : Char} (h : c.isDigit = true) : isValueChar c = true := by
  rw [isValueChar_iff]
  simp only [Char.isDigit, Bool.and_eq_true, decide_eq_true_eq, ge_iff_le, UInt32.le_iff_toNat_le]
    at h
  exact Or.inr (Or.inr (Or.inl h))

/-- Every name character is a value character. -/
lemma isValueChar_of_isNameChar {c : Char} (h : isNameChar c = true) : isValueChar c = true := by
  rw [isNameChar, Bool.or_eq_true, Bool.or_eq_true] at h
  rw [isValueChar]
  rcases h with (h | h) | h <;> simp [h]

/-- ASCII text takes an octet a character. -/
lemma utf8Length_of_ascii {s : List Char} (h : ∀ c ∈ s, c.toNat < 128) :
    utf8Length s = s.length := by
  have hlength := congrArg List.length (Bytes.ofText_ofList_of_ascii h)
  rw [List.length_map] at hlength
  exact hlength

/-- Text of value characters takes an octet a character. -/
lemma utf8Length_of_isValueChar {s : List Char} (h : ∀ c ∈ s, isValueChar c = true) :
    utf8Length s = s.length :=
  utf8Length_of_ascii fun c hc => (of_isValueChar (h c hc)).1

/-- No value character is found that is none. -/
lemma find?_of_isValueChar {s : List Char} (h : ∀ c ∈ s, isValueChar c = true) :
    s.find? (fun c => !isValueChar c) = none := by
  rw [List.find?_eq_none]
  intro c hc
  simp [h c hc]

/-! ### Splitting -/

/-- Splitting is the library's. -/
lemma split_eq_splitOn (sep : Char) (s : List Char) : split sep s = s.splitOn sep := by
  induction s with
  | nil => rfl
  | cons c rest ih =>
      rw [split, List.splitOn_cons_eq_if_modifyHead, ih]
      by_cases h : c = sep
      · rw [if_pos h, if_pos (beq_iff_eq.mpr h)]
      · rw [if_neg h, if_neg (by simpa using h)]
        cases hrest : rest.splitOn sep with
        | nil => exact absurd hrest (List.splitOn_ne_nil sep rest)
        | cons first more => rfl

/-! ### Parts -/

/-- A number is read back from its digits. -/
lemma decimal_digits {n : Nat} (h : n < UInt32.size) : decimal (Decimal.digits n) = .ok n := by
  obtain ⟨c, cs, hcs, hzero⟩ := Decimal.digits_eq_cons n
  have hall := Decimal.all_isDigit_digits n
  have hvalue := Nat.ofDigitChars_ten_toDigits (n := n)
  rw [← Decimal.digits] at hvalue
  rw [hcs] at hall hvalue ⊢
  have hfind : (c :: cs).find? (fun c => !c.isDigit) = none := by
    rw [List.find?_eq_none]
    intro d hd
    simp [List.all_eq_true.mp hall d hd]
  rw [decimal, hfind]
  dsimp only
  rw [if_neg fun hboth => hboth.2 (hzero hboth.1), hvalue, if_pos h]

/-- The digits of a number are value characters. -/
lemma isValueChar_of_mem_digits {n : Nat} :
    ∀ c ∈ Decimal.digits n, isValueChar c = true :=
  fun c hc => isValueChar_of_isDigit (List.all_eq_true.mp (Decimal.all_isDigit_digits n) c hc)

/-- A value may be written if it consists of at most 64 value characters. -/
lemma value_of_isValueChar {s : List Char} (hlength : s.length ≤ 64)
    (h : ∀ c ∈ s, isValueChar c = true) : value s = .ok s := by
  rw [value, utf8Length_of_isValueChar h, if_neg (by omega), find?_of_isValueChar h]

/-- A parameter is read back. -/
lemma param_join {n v : List Char} (hn : name n = .ok n) (hv : value v = .ok v)
    (hnchars : ∀ c ∈ n, isValueChar c = true) (hvchars : ∀ c ∈ v, isValueChar c = true) :
    param (n ++ '=' :: v) = .ok (n, v) := by
  have hsplit : split '=' (n ++ '=' :: v) = [n, v] := by
    rw [split_eq_splitOn, List.splitOn_append_cons_self_of_not_mem, List.splitOn_eq_singleton]
    · exact fun hmem => (of_isValueChar (hvchars _ hmem)).2.2.2 rfl
    · exact fun hmem => (of_isValueChar (hnchars _ hmem)).2.2.2 rfl
  rw [param, hsplit]
  dsimp only
  rw [hn, hv]
  rfl

/-- Base64 text consists of value characters. -/
lemma isValueChar_of_mem_encode (b : Bytes) :
    ∀ c ∈ Base64.encode .standard b, isValueChar c = true :=
  Base64.forall_mem_encode .standard (p := fun c => isValueChar c = true) isValueChar_symbol b

/-- The octets of base64 text are read back, if they are not too many. -/
lemma octets_encode {most : Nat} {b : Bytes} (h : b.length ≤ most) :
    octets most (Base64.encode .standard b) = .ok b := by
  rw [octets, utf8Length_of_isValueChar (isValueChar_of_mem_encode b), Base64.length_encode,
    if_neg (by omega), Base64.decode?_encode]

/-- A salt may be written if it consists of 4 to 64 value characters. -/
lemma saltText_of_isValueChar {s : List Char} (hleast : 4 ≤ s.length) (hmost : s.length ≤ 64)
    (h : ∀ c ∈ s, isValueChar c = true) : saltText s = .ok s := by
  rw [saltText, utf8Length_of_isValueChar h, if_neg (by omega), if_neg (by omega),
    find?_of_isValueChar h]

/-- A hash of 10 to 64 octets is read back. -/
lemma output_encode {b : Bytes} (hleast : 10 ≤ b.length) (hmost : b.length ≤ 64) :
    output (Base64.encode .standard b) = .ok b := by
  rw [output, octets_encode hmost]
  show (if b.length < 10 then _ else _) = _
  rw [if_neg (by omega)]
  rfl

/-! ### The whole form -/

/-- Parameters that may be written: each has a name and a value, and together they are not too
long. -/
structure Params (ps : List (List Char × List Char)) : Prop where
  ne_nil : ps ≠ []
  name : ∀ nv ∈ ps, nv.1 ≠ [] ∧ nv.1.length ≤ 32 ∧ ∀ c ∈ nv.1, isNameChar c = true
  value : ∀ nv ∈ ps, nv.2.length ≤ 64 ∧ ∀ c ∈ nv.2, isValueChar c = true
  length : (paramText ps).length ≤ 127

/-- A name may be written if it consists of 1 to 32 name characters. -/
lemma name_of_isNameChar {s : List Char} (hne : s ≠ []) (hlength : s.length ≤ 32)
    (h : ∀ c ∈ s, isNameChar c = true) : name s = .ok s := by
  have hchars : ∀ c ∈ s, isValueChar c = true := fun c hc => isValueChar_of_isNameChar (h c hc)
  rw [name, utf8Length_of_isValueChar hchars, if_pos ⟨hne, hlength, List.all_eq_true.mpr h⟩]

namespace Params

variable {ps : List (List Char × List Char)}

/-- Each parameter is read back. -/
lemma param (h : Params ps) : ∀ nv ∈ ps, param (nv.1 ++ '=' :: nv.2) = .ok nv := by
  intro nv hnv
  obtain ⟨hne, hshort, hname⟩ := h.name nv hnv
  obtain ⟨hlength, hvalue⟩ := h.value nv hnv
  exact param_join (name_of_isNameChar hne hshort hname) (value_of_isValueChar hlength hvalue)
    (fun c hc => isValueChar_of_isNameChar (hname c hc)) hvalue

/-- A character of a parameter's text is a value character or an equals sign. -/
lemma mem_join (h : Params ps) {s : List Char} (hs : s ∈ ps.map fun (n, v) => n ++ '=' :: v)
    {c : Char} (hc : c ∈ s) : isValueChar c = true ∨ c = '=' := by
  obtain ⟨nv, hnv, rfl⟩ := List.mem_map.mp hs
  rcases List.mem_append.mp hc with hname | hrest
  · exact Or.inl (isValueChar_of_isNameChar ((h.name nv hnv).2.2 c hname))
  · rcases List.mem_cons.mp hrest with hsign | hvalue
    · exact Or.inr hsign
    · exact Or.inl ((h.value nv hnv).2 c hvalue)

/-- Splitting at the commas gives the parameters. -/
lemma split_paramText (h : Params ps) :
    split ',' (paramText ps) = ps.map fun (n, v) => n ++ '=' :: v := by
  rw [split_eq_splitOn, paramText, List.splitOn_intercalate]
  · intro s hs hmem
    rcases h.mem_join hs hmem with hvalue | hsign
    · exact (of_isValueChar hvalue).2.2.1 rfl
    · exact absurd hsign (by decide)
  · simpa using h.ne_nil

/-- A character of parameters is a value character, an equals sign or a comma. -/
lemma mem_paramText (h : Params ps) {c : Char} (hc : c ∈ paramText ps) :
    isValueChar c = true ∨ c = '=' ∨ c = ',' := by
  have key : ∀ ls : List (List Char), (∀ l ∈ ls, ∀ d ∈ l, isValueChar d = true ∨ d = '=') →
      ∀ d ∈ List.intercalate [','] ls, isValueChar d = true ∨ d = '=' ∨ d = ',' := by
    intro ls
    induction ls with
    | nil => simp
    | cons l rest ih =>
        intro hls d hd
        obtain ⟨hl, hrest⟩ := List.forall_mem_cons.mp hls
        cases rest with
        | nil =>
            rw [List.intercalate_singleton] at hd
            exact (hl d hd).imp_right Or.inl
        | cons l' rest =>
            rw [List.intercalate_cons_cons, List.append_assoc] at hd
            rcases List.mem_append.mp hd with hfirst | hlater
            · exact (hl d hfirst).imp_right Or.inl
            · rcases List.mem_cons.mp hlater with hcomma | hlast
              · exact Or.inr (Or.inr hcomma)
              · exact ih hrest d hlast
  exact key _ (fun l hl d hd => h.mem_join hl hd) c hc

/-- The text of parameters has an equals sign. -/
lemma contains_paramText (h : Params ps) : (paramText ps).contains '=' = true := by
  cases ps with
  | nil => exact absurd rfl h.ne_nil
  | cons nv rest =>
      rw [List.contains_iff_mem, paramText, List.map_cons]
      have hmem : '=' ∈ nv.1 ++ '=' :: nv.2 := List.mem_append_right _ List.mem_cons_self
      cases rest.map fun (n, v) => n ++ '=' :: v with
      | nil => rwa [List.intercalate_singleton]
      | cons l ls =>
          rw [List.intercalate_cons_cons, List.append_assoc]
          exact List.mem_append_left _ hmem

/-- Parameters are read back. -/
lemma paramList_paramText (h : Params ps) : paramList (paramText ps) = .ok ps := by
  have hascii : ∀ c ∈ paramText ps, c.toNat < 128 := by
    intro c hc
    rcases h.mem_paramText hc with hvalue | rfl | rfl
    · exact (of_isValueChar hvalue).1
    · decide
    · decide
  have hne : paramText ps ≠ [] := by
    intro hnil
    have hcontains := h.contains_paramText
    rw [hnil] at hcontains
    cases hcontains
  have hmapM : ∀ qs : List (List Char × List Char),
      (∀ nv ∈ qs, PhcString.param (nv.1 ++ '=' :: nv.2) = .ok nv) →
      (qs.map fun (n, v) => n ++ '=' :: v).mapM PhcString.param = .ok qs := by
    intro qs
    induction qs with
    | nil => exact fun _ => rfl
    | cons nv rest ih =>
        intro hall
        obtain ⟨hfirst, hrest⟩ := List.forall_mem_cons.mp hall
        rw [List.map_cons, List.mapM_cons, hfirst, ih hrest]
        rfl
  rw [paramList, utf8Length_of_ascii hascii, if_neg (by have := h.length; omega), if_neg hne,
    h.split_paramText]
  exact hmapM ps h.param

end Params

/-- A number of 32 bits has at most ten digits. -/
lemma length_digits_le {n : Nat} (h : n < UInt32.size) : (Decimal.digits n).length ≤ 10 :=
  (Nat.length_toDigits_le_iff (by decide) (by decide)).mpr (Nat.lt_trans h (by decide))

/-- The version is read back, and the other fields are left. -/
lemma takeVersion_cons {n : Nat} (h : n < UInt32.size) (fields : List (List Char)) :
    takeVersion (('v' :: '=' :: Decimal.digits n) :: fields) = .ok (some n, fields) := by
  have hcomma : ((Decimal.digits n).contains ',') = false := by
    rw [← Bool.not_eq_true, List.contains_iff_mem]
    exact fun hmem => (of_isValueChar (isValueChar_of_mem_digits _ hmem)).2.2.1 rfl
  have hvalue := value_of_isValueChar (Nat.le_trans (length_digits_le h) (by decide))
    isValueChar_of_mem_digits
  rw [takeVersion, hcomma]
  show (value (Decimal.digits n) >>= decimal) >>= _ = _
  rw [hvalue]
  show decimal (Decimal.digits n) >>= _ = _
  rw [decimal_digits h]
  rfl

/-- A string form with all its fields is read back. -/
theorem parse_render {algorithm salt : List Char} {version : Nat}
    {ps : List (List Char × List Char)} {hash : Bytes}
    (halgorithm : algorithm ≠ [] ∧ algorithm.length ≤ 32 ∧ ∀ c ∈ algorithm, isNameChar c = true)
    (hversion : version < UInt32.size) (hparams : Params ps)
    (hsalt : 4 ≤ salt.length ∧ salt.length ≤ 64 ∧ ∀ c ∈ salt, isValueChar c = true)
    (hhash : 10 ≤ hash.length ∧ hash.length ≤ 64) :
    parse (render ⟨algorithm, some version, ps, some salt, some hash⟩) =
      .ok ⟨algorithm, some version, ps, some salt, some hash⟩ := by
  have hfields : (render ⟨algorithm, some version, ps, some salt, some hash⟩).toList =
      List.intercalate ['$'] [[], algorithm, 'v' :: '=' :: Decimal.digits version, paramText ps,
        salt, Base64.encode .standard hash] := by
    simp [render, field, hparams.ne_nil, List.intercalate_cons_cons]
  have hsplit : split '$' (render ⟨algorithm, some version, ps, some salt, some hash⟩).toList =
      [[], algorithm, 'v' :: '=' :: Decimal.digits version, paramText ps, salt,
        Base64.encode .standard hash] := by
    have hnone : ∀ l : List Char, (∀ c ∈ l, isValueChar c = true ∨ c = '=' ∨ c = ',') →
        '$' ∉ l := by
      intro l hl hmem
      rcases hl '$' hmem with hvalue | hsign | hcomma
      · exact (of_isValueChar hvalue).2.1 rfl
      · exact absurd hsign (by decide)
      · exact absurd hcomma (by decide)
    have hversion' : ∀ c ∈ 'v' :: '=' :: Decimal.digits version,
        isValueChar c = true ∨ c = '=' ∨ c = ',' :=
      List.forall_mem_cons.mpr ⟨Or.inl (by decide), List.forall_mem_cons.mpr ⟨Or.inr (Or.inl rfl),
        fun c hc => Or.inl (isValueChar_of_mem_digits c hc)⟩⟩
    rw [hfields, split_eq_splitOn, List.splitOn_intercalate _ _ (List.cons_ne_nil _ _)]
    simp only [List.forall_mem_cons]
    exact ⟨List.not_mem_nil,
      hnone _ fun c hc => Or.inl (isValueChar_of_isNameChar (halgorithm.2.2 c hc)),
      hnone _ hversion', hnone _ fun c hc => hparams.mem_paramText hc,
      hnone _ fun c hc => Or.inl (hsalt.2.2 c hc),
      hnone _ fun c hc => Or.inl (isValueChar_of_mem_encode hash c hc), by simp⟩
  have hname := name_of_isNameChar halgorithm.1 halgorithm.2.1 halgorithm.2.2
  have htake : takeSaltAndHash [salt, Base64.encode .standard hash] =
      .ok (some salt, some hash) := by
    rw [takeSaltAndHash, saltText_of_isValueChar hsalt.1 hsalt.2.1 hsalt.2.2]
    show output (Base64.encode .standard hash) >>= _ = _
    rw [output_encode hhash.1 hhash.2]
    rfl
  rw [parse, hsplit]
  dsimp only
  rw [hname]
  show takeVersion _ >>= _ = _
  rw [takeVersion_cons hversion]
  show takeParams _ >>= _ = _
  rw [takeParams, hparams.contains_paramText]
  show (paramList (paramText ps) >>= _) >>= _ = _
  rw [hparams.paramList_paramText]
  show takeSaltAndHash _ >>= _ = _
  rw [htake]
  rfl

end PhcString
/-! ### Hashes of passwords -/

namespace PasswordHash

variable {cost : PasswordCost}

/-- The memory of a cost fits into 32 bits. -/
lemma memory_lt (cost : PasswordCost) : cost.memory < UInt32.size := by
  rw [PasswordCost.memory]
  split_ifs with hcost
  · exact Nat.pow_lt_pow_right (by decide) (UInt32.lt_iff_toNat_lt.mp hcost)
  · decide

/-- The parameters that a hash is written with. -/
lemma params_digits {memory passes lanes : Nat} (hmemory : memory < UInt32.size)
    (hpasses : passes < UInt32.size) (hlanes : lanes < UInt32.size) :
    PhcString.Params [(['m'], Decimal.digits memory), (['t'], Decimal.digits passes),
      (['p'], Decimal.digits lanes)] := by
  have hm := PhcString.length_digits_le hmemory
  have ht := PhcString.length_digits_le hpasses
  have hp := PhcString.length_digits_le hlanes
  have hdigits : ∀ n : Nat, ∀ c ∈ Decimal.digits n, PhcString.isValueChar c = true :=
    fun n => PhcString.isValueChar_of_mem_digits
  refine ⟨List.cons_ne_nil _ _, ?_, ?_, ?_⟩
  · simp only [List.forall_mem_cons]
    simp [PhcString.isNameChar]
  · simp only [List.forall_mem_cons]
    exact ⟨⟨by omega, hdigits _⟩, ⟨by omega, hdigits _⟩, ⟨by omega, hdigits _⟩, by simp⟩
  · simp only [PhcString.paramText, List.map_cons, List.map_nil, List.intercalate_cons_cons,
      List.intercalate_singleton, List.length_append, List.length_cons, List.length_nil]
    omega

/-- A hash that was made is read back. -/
lemma parse_make (cost : PasswordCost) {salt : Bytes}
    (hsalt : salt.length = PasswordHasher.saltLength) (password : String) :
    PhcString.parse (make cost salt password) = .ok (phc cost salt password) := by
  have hlength : (Base64.encode .standard salt).length = 22 := by
    rw [Base64.length_encode, hsalt]
    rfl
  have hparams := params_digits (memory_lt cost) cost.iterations.toNat_lt cost.parallelism.toNat_lt
  unfold make phc
  generalize htag : Argon2.tag _ = tag
  have hhash : tag.length = outputLength := by rw [← htag, Argon2.length_tag]
  have hbounds : 10 ≤ tag.length ∧ tag.length ≤ 64 := by
    rw [hhash]
    decide
  exact PhcString.parse_render (by simp [PhcString.isNameChar]) (by decide) hparams
    ⟨by omega, by omega, PhcString.isValueChar_of_mem_encode salt⟩ hbounds

/-- The parameters of a hash that was made are those of its cost. -/
lemma readParams_digits (hcost : checkParams (.ofCost cost) = none) :
    readParams [(['m'], Decimal.digits cost.memory), (['t'], Decimal.digits cost.iterations.toNat),
      (['p'], Decimal.digits cost.parallelism.toNat)] = .ok (.ofCost cost) := by
  have hm : ∀ p : Params, readParam p (['m'], Decimal.digits cost.memory) =
      .ok { p with memory := cost.memory } := by
    intro p
    show PhcString.decimal _ >>= _ = _
    rw [PhcString.decimal_digits (memory_lt cost)]
    rfl
  have ht : ∀ p : Params, readParam p (['t'], Decimal.digits cost.iterations.toNat) =
      .ok { p with passes := cost.iterations.toNat } := by
    intro p
    show PhcString.decimal _ >>= _ = _
    rw [PhcString.decimal_digits cost.iterations.toNat_lt]
    rfl
  have hp : ∀ p : Params, readParam p (['p'], Decimal.digits cost.parallelism.toNat) =
      .ok { p with lanes := cost.parallelism.toNat } := by
    intro p
    show PhcString.decimal _ >>= _ = _
    rw [PhcString.decimal_digits cost.parallelism.toNat_lt]
    rfl
  have hall : [(['m'], Decimal.digits cost.memory), (['t'], Decimal.digits cost.iterations.toNat),
      (['p'], Decimal.digits cost.parallelism.toNat)].foldlM readParam {} = .ok (.ofCost cost) := by
    rw [List.foldlM_cons, hm]
    dsimp only [bind, Except.bind]
    rw [List.foldlM_cons, ht]
    dsimp only [bind, Except.bind]
    rw [List.foldlM_cons, hp]
    rfl
  rw [readParams, hall]
  dsimp only [bind, Except.bind]
  rw [hcost]
  rfl

/-- A salt of sixteen octets is read back. -/
lemma readSalt_encode {salt : Bytes} (hsalt : salt.length = PasswordHasher.saltLength) :
    readSalt (Base64.encode .standard salt) = .ok salt := by
  have hlength : salt.length = 16 := hsalt
  rw [readSalt, PhcString.octets_encode (by omega)]
  show (if salt.length < 8 then _ else _) = _
  rw [if_neg (by omega)]
  rfl

/-- What a hash that was made asks for is what it was made with. -/
lemma readInput_of_params (hcost : checkParams (.ofCost cost) = none) {salt : Bytes}
    (hsalt : salt.length = PasswordHasher.saltLength) (saltText : Option (List Char))
    (hash : Option Bytes) (length : Nat) :
    readInput ⟨"argon2id".toList, some 19, [(['m'], Decimal.digits cost.memory),
        (['t'], Decimal.digits cost.iterations.toNat),
        (['p'], Decimal.digits cost.parallelism.toNat)], saltText, hash⟩
      (Base64.encode .standard salt) length =
      .ok { variant := .id, version := .v19, memory := cost.memory,
            passes := cost.iterations.toNat, lanes := cost.parallelism.toNat, length,
            password := [], salt, associated := [] } := by
  rw [readInput, readParams_digits hcost]
  show (readSalt (Base64.encode .standard salt) >>= _) = _
  rw [readSalt_encode hsalt]
  rfl

end PasswordHash

namespace PasswordHasher

/-- What Argon2id makes of a password with a salt at the cost of a hasher. -/
def output (h : PasswordHasher) (salt : Bytes) (password : String) : Bytes :=
  Argon2.tag {
    variant := .id, version := .v19, memory := h.cost.memory, passes := h.cost.iterations.toNat,
    lanes := h.cost.parallelism.toNat, length := PasswordHash.outputLength,
    password := Bytes.ofText password, salt := salt, associated := [] }

/-- A hash that was made is compared by what Argon2id makes of the passwords, whatever hasher
compares it. -/
theorem verify_hash_eq (hasher hasher' : PasswordHasher) {salt : Bytes}
    (hsalt : salt.length = saltLength) (password other : String) :
    hasher'.verify password (hasher.hash salt other) =
      .ok (hasher.output salt password == hasher.output salt other) := by
  have hparse := PasswordHash.parse_make hasher.cost hsalt other
  unfold PasswordHash.phc at hparse
  generalize htag : Argon2.tag _ = tag at hparse
  have hlength : tag.length = PasswordHash.outputLength := by rw [← htag, Argon2.length_tag]
  have hinput := PasswordHash.readInput_of_params hasher.admissible hsalt
    (some (Base64.encode .standard salt)) (some tag) PasswordHash.outputLength
  rw [verify, PasswordHash.verify, hash, hparse]
  show Except.mapError _
    (PasswordHash.readInput _ (Base64.encode .standard salt) tag.length >>= _) = _
  rw [hlength, hinput, show hasher.output salt other = tag from htag]
  rfl

/-- A password matches the hash that was made of it. -/
theorem verify_hash (hasher : PasswordHasher) {salt : Bytes} (hsalt : salt.length = saltLength)
    (password : String) : hasher.verify password (hasher.hash salt password) = .ok true := by
  rw [verify_hash_eq hasher hasher hsalt, beq_self_eq_true]

end PasswordHasher
end AccountAccess
