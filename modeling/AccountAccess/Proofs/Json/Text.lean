import AccountAccess.Proofs.Json.RoundTrip

/-!
JSON that is written from texts is a text.

* `Bytes.IsText`: octets that are the UTF-8 form of a text. Texts may be appended, and ASCII octets
  are a text.
* `isText_escape`: an escaped text is a text, since escaping changes ASCII octets alone and puts
  ASCII octets in their place. Hence an array is written as a text if its items are
  (`Value.isText_arr`), and an object if its members are (`Value.isText_ofMembers`).
* `Value.IsPlain`: a value that is built from texts and integers, in a form that is a text. It is
  read back from its text (`Value.IsPlain.exists_text?`).
-/

namespace AccountAccess

namespace Bytes

/-- The octets are the UTF-8 form of a text. -/
def IsText (b : Bytes) : Prop := ∃ s, b = ofText s

lemma isText_ofText (s : String) : IsText (ofText s) := ⟨s, rfl⟩

/-- A text and what follows it are a text if that is one. -/
lemma IsText.append {b c : Bytes} (hb : IsText b) (hc : IsText c) : IsText (b ++ c) := by
  obtain ⟨s, rfl⟩ := hb
  obtain ⟨t, rfl⟩ := hc
  exact ⟨s ++ t, by simp [ofText]⟩

/-- The octets of a character are a text. -/
lemma isText_utf8EncodeChar (c : Char) : IsText (String.utf8EncodeChar c) :=
  ⟨String.ofList [c], by simp [ofText, List.utf8Encode]⟩

/-- ASCII octets are a text. -/
lemma isText_of_ascii {b : Bytes} (h : ∀ x ∈ b, x.toNat < 128) : IsText b := by
  have hchars : b = (b.map Char.ofUInt8).map Char.toUInt8 := by
    rw [List.map_map]
    exact (List.map_id'' (fun x => UInt8.toUInt8_toUInt32 x) b).symm
  refine ⟨String.ofList (b.map Char.ofUInt8), ?_⟩
  rw [ofText_ofList_of_ascii, ← hchars]
  intro c hc
  obtain ⟨x, hx, rfl⟩ := List.mem_map.mp hc
  exact h x hx

/-- A text behind an ASCII octet is a text. -/
lemma IsText.cons {b : Bytes} {x : UInt8} (hx : x.toNat < 128) (hb : IsText b) :
    IsText (x :: b) :=
  (isText_of_ascii (b := [x]) (by simpa using hx)).append hb

/-- The octets of a text are those of its characters. -/
lemma ofText_eq_flatMap (s : String) : ofText s = s.toList.flatMap String.utf8EncodeChar := by
  conv_lhs => rw [← String.ofList_toList (s := s)]
  simp only [ofText, String.toByteArray_ofList, List.utf8Encode]
  simp

/-- The octets of a character beyond ASCII are beyond ASCII. -/
lemma le_of_mem_utf8EncodeChar {c : Char} (hc : 128 ≤ c.toNat) {x : UInt8}
    (hx : x ∈ String.utf8EncodeChar c) : 128 ≤ x.toNat := by
  have hv : c.val.toNat = c.toNat := rfl
  simp only [String.utf8EncodeChar, hv] at hx
  split_ifs at hx <;> simp only [List.mem_cons, List.not_mem_nil, or_false] at hx
  · omega
  · rcases hx with rfl | rfl <;> rw [UInt8.toNat_ofNat'] <;> omega
  · rcases hx with rfl | rfl | rfl <;> rw [UInt8.toNat_ofNat'] <;> omega
  · rcases hx with rfl | rfl | rfl | rfl <;> rw [UInt8.toNat_ofNat'] <;> omega

end Bytes

namespace Json

open Bytes (IsText)

/-! ### Strings -/

/-- What a short escape consists of and stands for is ASCII. -/
lemma lt_of_isSimpleEscape {e b : UInt8} (he : isSimpleEscape e = true)
    (hb : simpleEscape? e = some b) : e.toNat < 128 ∧ b.toNat < 128 := by
  simp only [isSimpleEscape, Bool.or_eq_true, beq_iff_eq] at he
  rcases he with ((((((rfl | rfl) | rfl) | rfl) | rfl) | rfl) | rfl) | rfl <;>
    exact ⟨by decide, by cases hb; decide⟩

/-- A hexadecimal digit is ASCII. -/
lemma lt_of_isHexDigit {h : UInt8} (hh : isHexDigit h = true) : h.toNat < 128 := by
  have hlt : h ≤ 0x66 → h.toNat < 128 := fun hle =>
    Nat.lt_of_le_of_lt (UInt8.le_iff_toNat_le.mp hle) (by decide)
  simp only [isHexDigit, isDigit, Bool.or_eq_true, Bool.and_eq_true, decide_eq_true_eq] at hh
  rcases hh with (⟨-, hle⟩ | ⟨-, hle⟩) | ⟨-, hle⟩
  · exact hlt (UInt8.le_trans hle (by decide))
  · exact hlt (UInt8.le_trans hle (by decide))
  · exact hlt hle

/-- ASCII octets are escaped to ASCII octets. -/
lemma lt_of_mem_escapeOctet {b x : UInt8} (hb : b.toNat < 128) (hx : x ∈ escapeOctet b) :
    x.toNat < 128 := by
  generalize escapeOctet b = w, escaped_escapeOctet b = hw at hx
  cases hw with
  | plain _ _ _ => exact List.mem_singleton.mp hx ▸ hb
  | short e he hs =>
      simp only [List.mem_cons, List.not_mem_nil, or_false] at hx
      rcases hx with rfl | rfl
      · decide
      · exact (lt_of_isSimpleEscape he hs).1
  | unit h l _ hh hl _ =>
      simp only [List.mem_cons, List.not_mem_nil, or_false] at hx
      rcases hx with rfl | rfl | rfl | rfl | rfl | rfl
      · decide
      · decide
      · decide
      · decide
      · exact lt_of_isHexDigit hh
      · exact lt_of_isHexDigit hl

/-- Octets beyond ASCII stand for themselves. -/
lemma escapeOctet_of_le {b : UInt8} (hb : 128 ≤ b.toNat) : escapeOctet b = [b] := by
  generalize escapeOctet b = w, escaped_escapeOctet b = hw
  cases hw with
  | plain _ _ _ => rfl
  | short e he hs => exact absurd (lt_of_isSimpleEscape he hs).2 (by omega)
  | unit h l hcontrol _ _ _ => exact absurd hcontrol (by omega)

lemma escape_of_le {b : Bytes} (hb : ∀ x ∈ b, 128 ≤ x.toNat) : escape b = b := by
  induction b with
  | nil => rfl
  | cons x b ih =>
      rw [escape, List.flatMap_cons, escapeOctet_of_le (hb x List.mem_cons_self), ← escape,
        ih fun y hy => hb y (List.mem_cons_of_mem x hy)]
      rfl

/-- The octets of a character are escaped to a text. -/
lemma isText_escape_utf8EncodeChar (c : Char) : IsText (escape (String.utf8EncodeChar c)) := by
  by_cases hc : c.toNat < 128
  · have hb : c.toUInt8.toNat < 128 := by
      show c.val.toUInt8.toNat < 128
      rw [UInt32.toNat_toUInt8]
      exact Nat.lt_of_le_of_lt (Nat.mod_le _ _) hc
    rw [Bytes.utf8EncodeChar_of_ascii hc, escape, List.flatMap_singleton]
    exact Bytes.isText_of_ascii fun x hx => lt_of_mem_escapeOctet hb hx
  · rw [escape_of_le fun x hx => Bytes.le_of_mem_utf8EncodeChar (Nat.le_of_not_lt hc) hx]
    exact Bytes.isText_utf8EncodeChar c

/-- An escaped text is a text. -/
theorem isText_escape (s : String) : IsText (escape (Bytes.ofText s)) := by
  rw [Bytes.ofText_eq_flatMap]
  induction s.toList with
  | nil => exact Bytes.isText_ofText ""
  | cons c cs ih =>
      rw [List.flatMap_cons, escape, List.flatMap_append]
      exact (isText_escape_utf8EncodeChar c).append ih

/-! ### Values -/

lemma isText_quoted {b : Bytes} (h : IsText b) : IsText (quoted b) :=
  (h.append (Bytes.isText_ofText "\"")).cons (by decide)

namespace Value

lemma isText_ofText (s : String) : IsText (Value.ofText s).compact := by
  rw [ofText, compact]
  exact isText_quoted (isText_escape s)

lemma isText_ofInt (i : Int) : IsText (Value.ofInt i).compact := by
  rw [ofInt, compact]
  exact Bytes.isText_ofText (Decimal.text i)

/-- An array is written as a text if its items are. -/
lemma isText_arr {vs : List Value} (h : ∀ v ∈ vs, IsText v.compact) :
    IsText (Value.arr vs).compact := by
  have hitems : IsText (compactItems vs) := by
    induction vs with
    | nil => exact Bytes.isText_ofText ""
    | cons v vs ih =>
        have hv := h v List.mem_cons_self
        cases vs with
        | nil => rwa [compactItems]
        | cons w vs =>
            rw [compactItems]
            · exact hv.append ((ih fun x hx => h x (List.mem_cons_of_mem v hx)).cons (by decide))
            · simp
  rw [compact]
  exact (hitems.append (Bytes.isText_ofText "]")).cons (by decide)

/-- An object is written as a text if its names and their values are. -/
lemma isText_obj {ms : List (Bytes × Value)}
    (h : ∀ m ∈ ms, IsText m.1 ∧ IsText m.2.compact) : IsText (Value.obj ms).compact := by
  have hmembers : IsText (compactMembers ms) := by
    induction ms with
    | nil => exact Bytes.isText_ofText ""
    | cons m ms ih =>
        obtain ⟨hname, hv⟩ := h m List.mem_cons_self
        have hmember := (isText_quoted hname).append (hv.cons (x := 0x3A) (by decide))
        cases ms with
        | nil => exact hmember
        | cons n ms =>
            have hrest := ih fun x hx => h x (List.mem_cons_of_mem m hx)
            exact hmember.append (hrest.cons (by decide))
  rw [compact]
  exact (hmembers.append (Bytes.isText_ofText "\x7d")).cons (by decide)

/-- An object with texts as names is written as a text if its values are. -/
lemma isText_ofMembers {ms : List (String × Value)} (h : ∀ m ∈ ms, IsText m.2.compact) :
    IsText (Value.ofMembers ms).compact := by
  refine isText_obj fun m hm => ?_
  obtain ⟨n, hn, rfl⟩ := List.mem_map.mp hm
  exact ⟨isText_escape n.1, h n hn⟩

/-- The value is built from texts and integers, and its compact form is a text. -/
structure IsPlain (v : Value) : Prop where
  isWritten : v.IsWritten
  isText : IsText v.compact

lemma isPlain_ofText (s : String) : (Value.ofText s).IsPlain :=
  ⟨isWritten_ofText s, isText_ofText s⟩

lemma isPlain_ofInt (i : Int) : (Value.ofInt i).IsPlain :=
  ⟨isWritten_ofInt i, isText_ofInt i⟩

lemma isPlain_arr {vs : List Value} (h : ∀ v ∈ vs, v.IsPlain) : (Value.arr vs).IsPlain :=
  ⟨isWritten_arr fun v hv => (h v hv).isWritten, isText_arr fun v hv => (h v hv).isText⟩

lemma isPlain_ofMembers {ms : List (String × Value)} (h : ∀ m ∈ ms, m.2.IsPlain) :
    (Value.ofMembers ms).IsPlain :=
  ⟨isWritten_ofMembers fun m hm => (h m hm).isWritten,
    isText_ofMembers fun m hm => (h m hm).isText⟩

/-- A plain value is read back from its text. -/
theorem IsPlain.exists_text? {v : Value} (h : v.IsPlain) :
    ∃ s, v.text? = some s ∧ parseText? s = some v := by
  obtain ⟨s, hs⟩ := h.isText
  refine ⟨s, by rw [text?, hs, Bytes.text?_ofText], ?_⟩
  rw [parseText?, ← hs]
  exact parse?_compact v h.isWritten

end Value

end Json

end AccountAccess
