import AccountAccess.Json.Parse
import AccountAccess.Proofs.Json.Lexeme

/-!
JSON that was written is read back.

* `Value.IsWritten`: the values that are built from texts and integers.
* **The scanner.** `Value.tokens` are the tokens of a value, and `scanFrom_compact` says that the
  scanner finds them in its compact text, whatever follows, as long as that ends a word.
* **The reader.** `valueFrom_tokens`: from the tokens of a value the reader goes on with the value.
  It holds of every value.
* `parse?_compact` puts the two together.
-/

namespace AccountAccess.Json

/-! ### Values and their tokens -/

mutual

/-- The value is built from texts and integers. -/
def Value.IsWritten : Value → Prop
  | .null => True
  | .bool _ => True
  | .num w => ∃ i : Int, w = Bytes.ofText (Decimal.text i)
  | .str w => ∃ b, w = escape b
  | .arr items => AreWritten items
  | .obj members => MembersAreWritten members

/-- All items are built from texts and integers. -/
def AreWritten : List Value → Prop
  | [] => True
  | v :: vs => v.IsWritten ∧ AreWritten vs

/-- All names are texts, and all values of members are built from texts and integers. -/
def MembersAreWritten : List (Bytes × Value) → Prop
  | [] => True
  | (k, v) :: ms => (∃ b, k = escape b) ∧ v.IsWritten ∧ MembersAreWritten ms

end

mutual

/-- The tokens of a value. -/
def Value.tokens : Value → List Token
  | .null => [.word .null]
  | .bool b => [.word (.bool b)]
  | .num w => [.word (.num w)]
  | .str w => [.str w]
  | .arr items => .openArray :: (itemTokens items ++ [.closeArray])
  | .obj members => .openObject :: (memberTokens members ++ [.closeObject])

/-- The tokens of items, with commas between them. -/
def itemTokens : List Value → List Token
  | [] => []
  | [v] => v.tokens
  | v :: vs => v.tokens ++ .comma :: itemTokens vs

/-- The tokens of members, with commas between them. -/
def memberTokens : List (Bytes × Value) → List Token
  | [] => []
  | [(k, v)] => .str k :: .colon :: v.tokens
  | (k, v) :: ms => .str k :: .colon :: (v.tokens ++ .comma :: memberTokens ms)

end

@[simp] lemma isWritten_ofText (s : String) : (Value.ofText s).IsWritten := ⟨_, rfl⟩

@[simp] lemma isWritten_ofInt (i : Int) : (Value.ofInt i).IsWritten := ⟨i, rfl⟩

/-- An array is written if its items are. -/
lemma isWritten_arr {vs : List Value} (h : ∀ v ∈ vs, v.IsWritten) : (Value.arr vs).IsWritten := by
  show AreWritten vs
  induction vs with
  | nil => trivial
  | cons v vs ih => exact ⟨h v (by simp), ih fun w hw => h w (List.mem_cons_of_mem v hw)⟩

/-- An object with texts as names is written if the values of its members are. -/
lemma isWritten_ofMembers {ms : List (String × Value)} (h : ∀ m ∈ ms, m.2.IsWritten) :
    (Value.ofMembers ms).IsWritten := by
  show MembersAreWritten (ms.map _)
  induction ms with
  | nil => trivial
  | cons m ms ih =>
      exact ⟨⟨_, rfl⟩, h m (by simp), ih fun n hn => h n (List.mem_cons_of_mem m hn)⟩

/-! ### Scanning words -/

/-- The octets end a word that stands before them: there are none, or the first is a delimiter. -/
def EndsWord : Bytes → Prop
  | [] => True
  | b :: _ => isDelimiter b = true

/-- The tokens that an octet completes stand in front of those that follow. -/
lemma scanFrom_cons {s s' : Scanning} {b : UInt8} {ts : List Token} (h : step s b = some (s', ts))
    (rest : Bytes) : scanFrom s (b :: rest) = (scanFrom s' rest).map (ts ++ ·) := by
  rw [scanFrom, h]
  cases hs : scanFrom s' rest <;> simp [hs]

/-- An octet that completes no token only changes what the scanner is in the middle of. -/
lemma scanFrom_cons_nil {s s' : Scanning} {b : UInt8} (h : step s b = some (s', []))
    (rest : Bytes) : scanFrom s (b :: rest) = scanFrom s' rest := by
  rw [scanFrom_cons h]
  cases scanFrom s' rest <;> rfl

/-- A word goes on to the octets that end it. -/
lemma scanFrom_word {w : Bytes} (hw : ∀ b ∈ w, isDelimiter b = false) {rest : Bytes}
    (hrest : EndsWord rest) (u : Bytes) {v : Value}
    (hv : wordValue? (u.reverse ++ w) = some v) :
    scanFrom (.word u) (w ++ rest) = (scanFrom .between rest).map (.word v :: ·) := by
  induction w generalizing u with
  | nil =>
      rw [List.append_nil] at hv
      cases rest with
      | nil => simp [scanFrom, finish, hv]
      | cons b rest =>
          have hb : isDelimiter b = true := hrest
          have hstep : step (.word u) b =
              some ((stepBetween b).1, .word v :: (stepBetween b).2) := by
            rw [step, if_pos hb, hv]
            rfl
          rw [List.nil_append, scanFrom_cons hstep, scanFrom_cons (s := .between) rfl,
            Option.map_map]
          rfl
  | cons b w ih =>
      have hb : isDelimiter b = false := hw b (by simp)
      have hstep : step (.word u) b = some (.word (b :: u), []) := by
        rw [step, if_neg (by simp [hb])]
      rw [List.cons_append, scanFrom_cons_nil hstep]
      exact ih (fun c hc => hw c (by simp [hc])) (b :: u) (by simpa using hv)

/-- A word between delimiters is one token. -/
lemma scanFrom_between_word {w : Bytes} (hne : w ≠ []) (hw : ∀ b ∈ w, isDelimiter b = false)
    {rest : Bytes} (hrest : EndsWord rest) {v : Value} (hv : wordValue? w = some v) :
    scanFrom .between (w ++ rest) = (scanFrom .between rest).map (.word v :: ·) := by
  cases w with
  | nil => exact absurd rfl hne
  | cons b w =>
      have hb : isDelimiter b = false := hw b (by simp)
      simp only [isDelimiter, Bool.or_eq_false_iff, Option.isSome_eq_false_iff,
        Option.isNone_iff_eq_none] at hb
      have hstep : step .between b = some (.word [b], []) := by
        simp [step, stepBetween, hb.1.1, hb.1.2, hb.2]
      rw [List.cons_append, scanFrom_cons_nil hstep]
      exact scanFrom_word (fun c hc => hw c (by simp [hc])) hrest [b] (by simpa using hv)

/-- Digits delimit nothing. -/
lemma isDelimiter_of_isDigit {b : UInt8} (h : isDigit b = true) : isDelimiter b = false := by
  have key : ∀ n < 10, isDelimiter (UInt8.ofNat (0x30 + n)) = false := by decide
  simp only [isDigit, Bool.and_eq_true, decide_eq_true_eq, UInt8.le_iff_toNat_le] at h
  have hlo : 0x30 ≤ b.toNat := h.1
  have hhi : b.toNat ≤ 0x39 := h.2
  have hb := key (b.toNat - 0x30) (by omega)
  rwa [show 0x30 + (b.toNat - 0x30) = b.toNat by omega, UInt8.ofNat_toNat] at hb

/-- No octet of an integer delimits anything. -/
lemma isDelimiter_of_mem_ofText_text {i : Int} {b : UInt8}
    (h : b ∈ Bytes.ofText (Decimal.text i)) : isDelimiter b = false := by
  cases i with
  | ofNat n =>
      rw [ofText_text_ofNat] at h
      exact isDelimiter_of_isDigit (List.all_eq_true.mp (all_isDigit_digitOctets n) b h)
  | negSucc n =>
      rw [ofText_text_negSucc] at h
      rcases List.mem_cons.mp h with rfl | h
      · decide
      · exact isDelimiter_of_isDigit (List.all_eq_true.mp (all_isDigit_digitOctets (n + 1)) b h)

/-- The lexeme of a number is a word that stands for the number. -/
lemma wordValue?_of_isNumber {w : Bytes} (h : isNumber w = true) :
    wordValue? w = some (.num w) := by
  have hne : ∀ v : Bytes, isNumber v = false → (w == v) = false := by
    intro v hv
    refine beq_false_of_ne ?_
    rintro rfl
    rw [h] at hv
    cases hv
  simp [wordValue?, hne _ (show isNumber (Bytes.ofText "null") = false by decide),
    hne _ (show isNumber (Bytes.ofText "true") = false by decide),
    hne _ (show isNumber (Bytes.ofText "false") = false by decide), h]

/-! ### Scanning strings -/

/-- An octet that may stand in a string is taken into it. -/
lemma scanFrom_string_cons {b : UInt8} (hquote : b ≠ 0x22) (hslash : b ≠ 0x5C) (u rest : Bytes) :
    scanFrom (.string u) (b :: rest) = scanFrom (.string (b :: u)) rest := by
  refine scanFrom_cons_nil ?_ rest
  have hq : (b == octet '"') = false := beq_false_of_ne hquote
  have hs : (b == octet '\\') = false := beq_false_of_ne hslash
  simp [step, hq, hs]

/-- An octet behind a backslash is taken into the string, even a quote. -/
lemma scanFrom_string_slash (e : UInt8) (u rest : Bytes) :
    scanFrom (.string u) (0x5C :: e :: rest) = scanFrom (.string (e :: 0x5C :: u)) rest := by
  have hslash : step (.string u) 0x5C = some (.escape (0x5C :: u), []) := rfl
  rw [scanFrom_cons_nil hslash, scanFrom_cons_nil rfl]

/-- A hexadecimal digit is neither a quote nor a backslash. -/
lemma ne_of_isHexDigit {b : UInt8} (h : isHexDigit b = true) : b ≠ 0x22 ∧ b ≠ 0x5C := by
  constructor <;> rintro rfl <;> exact absurd h (by decide)

/-- An escaped octet is taken into the string. -/
lemma scanFrom_string_escapeOctet (x : UInt8) (u rest : Bytes) :
    scanFrom (.string u) (escapeOctet x ++ rest) =
      scanFrom (.string ((escapeOctet x).reverse ++ u)) rest := by
  generalize escapeOctet x = w, escaped_escapeOctet x = hw
  cases hw with
  | plain hlo hquote hslash => exact scanFrom_string_cons hquote hslash u rest
  | short e he hb => exact scanFrom_string_slash e u rest
  | unit h l hcontrol hh hl hu =>
      have hzero : (0x30 : UInt8) ≠ 0x22 ∧ (0x30 : UInt8) ≠ 0x5C := by decide
      obtain ⟨hhq, hhs⟩ := ne_of_isHexDigit hh
      obtain ⟨hlq, hls⟩ := ne_of_isHexDigit hl
      simp only [List.cons_append, List.nil_append, List.reverse_cons, List.reverse_nil]
      rw [scanFrom_string_slash, scanFrom_string_cons hzero.1 hzero.2,
        scanFrom_string_cons hzero.1 hzero.2, scanFrom_string_cons hhq hhs,
        scanFrom_string_cons hlq hls]

/-- An escaped octet sequence is taken into the string. -/
lemma scanFrom_string_escape (b u rest : Bytes) :
    scanFrom (.string u) (escape b ++ rest) =
      scanFrom (.string ((escape b).reverse ++ u)) rest := by
  induction b generalizing u with
  | nil => rfl
  | cons x b ih =>
      have hcons : escape (x :: b) = escapeOctet x ++ escape b := rfl
      rw [hcons, List.append_assoc, scanFrom_string_escapeOctet, ih, List.reverse_append,
        List.append_assoc]

/-- A string between quotes is one token. -/
lemma scanFrom_quoted (b rest : Bytes) :
    scanFrom .between (quoted (escape b) ++ rest) =
      (scanFrom .between rest).map (.str (escape b) :: ·) := by
  have hopen : step .between 0x22 = some (.string [], []) := rfl
  have hclose : step (.string (escape b).reverse) 0x22 = some (.between, [.str (escape b)]) := by
    have hq : ((0x22 : UInt8) == octet '"') = true := rfl
    rw [step, if_pos hq, List.reverse_reverse, if_pos (isString_escape b)]
  rw [quoted, List.cons_append, List.cons_append, scanFrom_cons_nil hopen,
    List.append_assoc, scanFrom_string_escape, List.append_nil, List.singleton_append,
    scanFrom_cons hclose]
  rfl

/-! ### Scanning values -/

/-- A mark of punctuation is one token. -/
lemma scanFrom_punctuation {b : UInt8} {t : Token} (h : stepBetween b = (.between, [t]))
    (rest : Bytes) : scanFrom .between (b :: rest) = (scanFrom .between rest).map (t :: ·) :=
  scanFrom_cons (by rw [step, h]) rest

mutual

/-- The scanner finds the tokens of a value in its compact text. -/
theorem scanFrom_compact (v : Value) (h : v.IsWritten) (rest : Bytes) (hrest : EndsWord rest) :
    scanFrom .between (v.compact ++ rest) = (scanFrom .between rest).map (v.tokens ++ ·) := by
  match v with
  | .null => exact scanFrom_between_word (by decide) (by decide +kernel) hrest rfl
  | .bool true => exact scanFrom_between_word (by decide) (by decide +kernel) hrest rfl
  | .bool false => exact scanFrom_between_word (by decide) (by decide +kernel) hrest rfl
  | .num w =>
      obtain ⟨i, rfl⟩ := h
      have hnumber := isNumber_ofText_text i
      have hne : Bytes.ofText (Decimal.text i) ≠ [] := by
        intro hnil
        rw [hnil] at hnumber
        cases hnumber
      exact scanFrom_between_word hne (fun _ => isDelimiter_of_mem_ofText_text) hrest
        (wordValue?_of_isNumber hnumber)
  | .str w =>
      obtain ⟨b, rfl⟩ := h
      exact scanFrom_quoted b rest
  | .arr items =>
      have hitems := scanFrom_compactItems items h (0x5D :: rest) rfl
      simp only [Value.compact, Value.tokens, List.cons_append, List.append_assoc,
        List.nil_append]
      rw [scanFrom_punctuation (t := .openArray) rfl, hitems,
        scanFrom_punctuation (t := .closeArray) rfl, Option.map_map, Option.map_map]
      rfl
  | .obj members =>
      have hmembers := scanFrom_compactMembers members h (0x7D :: rest) rfl
      simp only [Value.compact, Value.tokens, List.cons_append, List.append_assoc,
        List.nil_append]
      rw [scanFrom_punctuation (t := .openObject) rfl, hmembers,
        scanFrom_punctuation (t := .closeObject) rfl, Option.map_map, Option.map_map]
      rfl

/-- The scanner finds the tokens of items in their compact text. -/
theorem scanFrom_compactItems (vs : List Value) (h : AreWritten vs) (rest : Bytes)
    (hrest : EndsWord rest) :
    scanFrom .between (compactItems vs ++ rest) =
      (scanFrom .between rest).map (itemTokens vs ++ ·) := by
  match vs with
  | [] => simp [compactItems, itemTokens]
  | [v] => exact scanFrom_compact v h.1 rest hrest
  | v :: w :: vs =>
      have htail := scanFrom_compactItems (w :: vs) h.2 rest hrest
      have hhead := scanFrom_compact v h.1 (0x2C :: (compactItems (w :: vs) ++ rest)) rfl
      simp only [compactItems, itemTokens, List.cons_append, List.append_assoc]
      rw [hhead, scanFrom_punctuation (t := .comma) rfl, htail, Option.map_map, Option.map_map]
      rfl

/-- The scanner finds the tokens of members in their compact text. -/
theorem scanFrom_compactMembers (ms : List (Bytes × Value)) (h : MembersAreWritten ms)
    (rest : Bytes) (hrest : EndsWord rest) :
    scanFrom .between (compactMembers ms ++ rest) =
      (scanFrom .between rest).map (memberTokens ms ++ ·) := by
  match ms with
  | [] => simp [compactMembers, memberTokens]
  | [(k, v)] =>
      obtain ⟨⟨b, rfl⟩, hv, -⟩ := h
      have hvalue := scanFrom_compact v hv rest hrest
      simp only [compactMembers, memberTokens, List.cons_append, List.append_assoc]
      rw [scanFrom_quoted, scanFrom_punctuation (t := .colon) rfl, hvalue, Option.map_map,
        Option.map_map]
      rfl
  | (k, v) :: m :: ms =>
      obtain ⟨⟨b, rfl⟩, hv, hms⟩ := h
      have htail := scanFrom_compactMembers (m :: ms) hms rest hrest
      have hvalue := scanFrom_compact v hv (0x2C :: (compactMembers (m :: ms) ++ rest)) rfl
      simp only [compactMembers, memberTokens, List.cons_append, List.append_assoc]
      rw [scanFrom_quoted, scanFrom_punctuation (t := .colon) rfl, hvalue,
        scanFrom_punctuation (t := .comma) rfl, htail, Option.map_map, Option.map_map,
        Option.map_map, Option.map_map]
      rfl

end

/-! ### Reading tokens -/

/-- No value begins with the end of an array. -/
lemma tokens_eq_cons (v : Value) : ∃ t ts, v.tokens = t :: ts ∧ t ≠ .closeArray := by
  cases v <;> exact ⟨_, _, rfl, Token.noConfusion⟩

/-- Items do not begin with the end of an array. -/
lemma itemTokens_eq_cons (v : Value) (vs : List Value) :
    ∃ t ts, itemTokens (v :: vs) = t :: ts ∧ t ≠ .closeArray := by
  obtain ⟨t, ts, htokens, ht⟩ := tokens_eq_cons v
  cases vs with
  | nil => exact ⟨t, ts, htokens, ht⟩
  | cons w vs =>
      refine ⟨t, ts ++ .comma :: itemTokens (w :: vs), ?_, ht⟩
      show v.tokens ++ .comma :: itemTokens (w :: vs) = _
      rw [htokens]
      rfl

/-- Members begin with a name and a colon. -/
lemma memberTokens_eq_cons (k : Bytes) (v : Value) (ms : List (Bytes × Value)) :
    ∃ ts, memberTokens ((k, v) :: ms) = .str k :: .colon :: ts := by
  cases ms <;> exact ⟨_, rfl⟩

mutual

/-- From the tokens of a value the reader goes on with the value. -/
theorem valueFrom_tokens (v : Value) (st : List Opened) (ts : List Token) :
    valueFrom st (v.tokens ++ ts) = afterValue v st ts := by
  match v with
  | .null => rfl
  | .bool _ => rfl
  | .num _ => rfl
  | .str _ => rfl
  | .arr [] => rfl
  | .arr (v :: vs) =>
      have hitems := valueFrom_itemTokens (v :: vs) (by simp) [] st ts
      obtain ⟨t, us, htokens, ht⟩ := itemTokens_eq_cons v vs
      simp only [Value.tokens, htokens, List.cons_append, List.append_assoc, List.nil_append,
        List.reverse_nil] at hitems ⊢
      rw [valueFrom, hitems]
      rintro _ ⟨⟩
      exact ht rfl
  | .obj [] => rfl
  | .obj ((k, v) :: ms) =>
      obtain ⟨us, htokens⟩ := memberTokens_eq_cons k v ms
      have hmembers := valueFrom_memberTokens ((k, v) :: ms) htokens [] st ts
      simp only [Value.tokens, htokens, List.cons_append, List.append_assoc, List.nil_append,
        List.reverse_nil] at hmembers ⊢
      rw [valueFrom, hmembers]

/-- From the tokens of the items that are left the reader goes on with the array. -/
theorem valueFrom_itemTokens (vs : List Value) (hne : vs ≠ []) (acc : List Value)
    (st : List Opened) (ts : List Token) :
    valueFrom (.array acc :: st) (itemTokens vs ++ .closeArray :: ts) =
      afterValue (.arr (acc.reverse ++ vs)) st ts := by
  match vs with
  | [] => exact absurd rfl hne
  | [v] => rw [itemTokens, valueFrom_tokens v, afterValue, List.reverse_cons]
  | v :: w :: vs =>
      have htail := valueFrom_itemTokens (w :: vs) (by simp) (v :: acc) st ts
      simp only [itemTokens, List.append_assoc, List.cons_append]
      rw [valueFrom_tokens v, afterValue, htail, List.reverse_cons, List.append_assoc,
        List.singleton_append]

/-- From the tokens of the members that are left, the first name read already, the reader goes on
with the object. -/
theorem valueFrom_memberTokens (ms : List (Bytes × Value)) {k : Bytes} {us : List Token}
    (htokens : memberTokens ms = .str k :: .colon :: us) (acc : List (Bytes × Value))
    (st : List Opened) (ts : List Token) :
    valueFrom (.object acc k :: st) (us ++ .closeObject :: ts) =
      afterValue (.obj (acc.reverse ++ ms)) st ts := by
  match ms with
  | [] => cases htokens
  | [(l, v)] =>
      cases htokens
      rw [valueFrom_tokens v, afterValue, List.reverse_cons]
  | (l, v) :: (l', w) :: ms =>
      obtain ⟨vs, hnext⟩ := memberTokens_eq_cons l' w ms
      have htail := valueFrom_memberTokens ((l', w) :: ms) hnext ((l, v) :: acc) st ts
      change .str l :: .colon :: (v.tokens ++ .comma :: memberTokens ((l', w) :: ms)) = _ at htokens
      rw [hnext] at htokens
      cases htokens
      rw [List.append_assoc, List.cons_append, valueFrom_tokens v]
      simp only [List.cons_append]
      rw [afterValue, htail, List.reverse_cons, List.append_assoc, List.singleton_append]

end

/-- **Reading undoes writing**: the compact text of a value that is built from texts and integers
spells the value. -/
theorem parse?_compact (v : Value) (h : v.IsWritten) : parse? v.compact = some v := by
  have hscan := scanFrom_compact v h [] trivial
  rw [List.append_nil] at hscan
  have hread := valueFrom_tokens v [] []
  rw [List.append_nil] at hread
  rw [parse?, scan, hscan]
  simp [scanFrom, finish, ofTokens?, hread, afterValue]

end AccountAccess.Json
