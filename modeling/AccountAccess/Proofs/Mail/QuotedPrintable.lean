import AccountAccess.Mail.Domain
import AccountAccess.Mail.Body
import AccountAccess.Proofs.Mail.Lines

/-!
Quoted-printable text is read back.

* `decode?` reads it as a recipient does: blanks and tabs at the end of a line count for nothing, an
  equals sign at the end of a line takes the line end away, and an equals sign with two hexadecimal
  digits is an octet.
* `decode?_encode`: whatever octets are written, the same octets are read, wherever lines are
  broken.
* `length_le_of_mem_textLines_encode`: no line of what is written has more than 76 characters.
-/

namespace AccountAccess.Mail.QuotedPrintable

/-! ### Reading -/

/-- Nothing but blanks and tabs stands before the end of the line. -/
def endsLine (s : List Char) : Bool :=
  match s.dropWhile isSpace with
  | [] => true
  | '\r' :: '\n' :: _ => true
  | _ => false

/-- A visible character of ASCII other than the equals sign. -/
def isVisible (c : Char) : Bool := 33 ≤ c.toNat && c.toNat ≤ 126 && c != '='

/-- The octets that a text stands for. -/
def decode? : List Char → Option Bytes
  | [] => some []
  | '=' :: '\r' :: '\n' :: s => decode? s
  | '=' :: high :: low :: s => do
    let h ← Bytes.hexValue? high
    let l ← Bytes.hexValue? low
    return (16 * h + l).toUInt8 :: (← decode? s)
  | '\r' :: '\n' :: s => (decode? s).map (13 :: 10 :: ·)
  | c :: s =>
    if isSpace c && endsLine s then decode? s
    else if isSpace c || isVisible c then (decode? s).map (c.toUInt8 :: ·)
    else none

/-! ### Units -/

lemma toNat_ofUInt8 (b : UInt8) : (Char.ofUInt8 b).toNat = b.toNat := by
  show b.toUInt32.toNat = b.toNat
  simp

lemma toUInt8_ofUInt8 (b : UInt8) : (Char.ofUInt8 b).toUInt8 = b := by
  show b.toUInt32.toUInt8 = b
  simp

lemma isLiteral_iff {b : UInt8} :
    isLiteral b ↔ b.toNat = 9 ∨ (32 ≤ b.toNat ∧ b.toNat ≤ 126 ∧ b.toNat ≠ 61) := by
  simp [isLiteral, UInt8.le_iff_toNat_le, ← UInt8.toNat_inj, and_assoc]

/-- An octet that stands for itself is a blank, a tab or a visible character. -/
lemma isSpace_or_isVisible {b : UInt8} (h : isLiteral b) :
    isSpace (Char.ofUInt8 b) || isVisible (Char.ofUInt8 b) := by
  have hb := isLiteral_iff.mp h
  simp only [isSpace, isVisible, Bool.or_eq_true, Bool.and_eq_true, beq_iff_eq, bne_iff_ne, ne_eq,
    decide_eq_true_eq, ← Char.toNat_inj, toNat_ofUInt8, show ' '.toNat = 32 from rfl,
    show '\t'.toNat = 9 from rfl, show '='.toNat = 61 from rfl]
  omega

/-- An octet that stands for itself is no equals sign and no part of a line end. -/
lemma ne_of_isLiteral {b : UInt8} (h : isLiteral b) :
    Char.ofUInt8 b ≠ '=' ∧ Char.ofUInt8 b ≠ '\r' ∧ Char.ofUInt8 b ≠ '\n' := by
  have hb := isLiteral_iff.mp h
  simp only [ne_eq, ← Char.toNat_inj, toNat_ofUInt8, show '='.toNat = 61 from rfl,
    show '\r'.toNat = 13 from rfl, show '\n'.toNat = 10 from rfl]
  omega

/-- The digits of an escape are read back, and are no part of a line end. -/
lemma hexValue?_toUpper_hexDigit : ∀ n < 16,
    Bytes.hexValue? (Bytes.hexDigit n).toUpper = some n ∧
      (Bytes.hexDigit n).toUpper ≠ '\r' ∧ (Bytes.hexDigit n).toUpper ≠ '\n' := by
  decide

/-- An escaped octet is read back. -/
lemma decode?_escaped (b : UInt8) (s : List Char) :
    decode? (escaped b ++ s) = (decode? s).map (b :: ·) := by
  have hb := b.toNat_lt
  obtain ⟨hhigh, hr, -⟩ := hexValue?_toUpper_hexDigit (b.toNat / 16) (by omega)
  obtain ⟨hlow, -⟩ := hexValue?_toUpper_hexDigit (b.toNat % 16) (by omega)
  have hvalue : (16 * (b.toNat / 16) + b.toNat % 16).toUInt8 = b := by
    rw [Nat.div_add_mod]
    simp
  simp only [escaped, List.cons_append, List.nil_append]
  rw [decode?, hhigh, hlow]
  · cases decode? s with
    | none => rfl
    | some t => exact congrArg (fun x => some (x :: t)) hvalue
  · intro hh _
    exact hr hh

/-- An octet that stands for itself is read back, unless it is a blank at the end of a line. -/
lemma decode?_literal {b : UInt8} {s : List Char} (h : isLiteral b)
    (hs : isSpace (Char.ofUInt8 b) → endsLine s = false) :
    decode? (Char.ofUInt8 b :: s) = (decode? s).map (b :: ·) := by
  obtain ⟨heq, hr, -⟩ := ne_of_isLiteral h
  have hnot : ¬ (isSpace (Char.ofUInt8 b) && endsLine s) := by
    simp only [Bool.and_eq_true, not_and]
    intro hspace
    simp [hs hspace]
  rw [decode?, if_neg hnot, if_pos (isSpace_or_isVisible h), toUInt8_ofUInt8]
  · rintro t hc -
    exact heq hc
  · rintro c d t hc -
    exact heq hc
  · rintro t hc -
    exact hr hc

/-- An octet in the middle of a line is read back. -/
lemma decode?_unit {b : UInt8} {s : List Char} (hs : endsLine s = false) :
    decode? (unit b ++ s) = (decode? s).map (b :: ·) := by
  rw [unit]
  split
  · next h => exact decode?_literal h fun _ => hs
  · exact decode?_escaped b s

/-- The last octet of a line is escaped, or is no blank and stands for itself. -/
lemma lastUnit_cases (b : UInt8) :
    lastUnit b = escaped b ∨
      lastUnit b = [Char.ofUInt8 b] ∧ isLiteral b ∧ isSpace (Char.ofUInt8 b) = false := by
  have hspace : isSpace (Char.ofUInt8 b) = (b == 9 || b == 32) := by
    rw [Bool.eq_iff_iff]
    simp only [isSpace, Bool.or_eq_true, beq_iff_eq, ← Char.toNat_inj, toNat_ofUInt8,
      ← UInt8.toNat_inj]
    exact or_comm
  rw [lastUnit, ← hspace]
  cases h : isSpace (Char.ofUInt8 b) with
  | true => exact .inl rfl
  | false =>
      by_cases hb : isLiteral b
      · exact .inr ⟨by simp [unit, hb], hb, rfl⟩
      · exact .inl (by simp [unit, hb])

/-- The last octet of a line is read back. -/
lemma decode?_lastUnit (b : UInt8) (s : List Char) :
    decode? (lastUnit b ++ s) = (decode? s).map (b :: ·) := by
  rcases lastUnit_cases b with h | ⟨h, hb, hspace⟩
  · rw [h, decode?_escaped]
  · rw [h]
    exact decode?_literal hb (by simp [hspace])

/-! ### Lines that are broken -/

/-- A unit comes at once or behind a break, and the others follow. -/
lemma exists_wrap_cons (column : ℕ) (u : List Char) (us : List (List Char)) :
    ∃ front column', (front = [] ∨ front = softBreak) ∧
      wrap column (u :: us) = front ++ (u ++ wrap column' us) := by
  cases us with
  | nil =>
      rw [wrap]
      split
      · exact ⟨[], 0, .inl rfl, by simp [wrap]⟩
      · exact ⟨softBreak, 0, .inr rfl, by simp [wrap]⟩
  | cons v vs =>
      rw [wrap]
      · split
        · exact ⟨[], _, .inl rfl, rfl⟩
        · exact ⟨softBreak, _, .inr rfl, List.append_assoc _ _ _⟩
      · simp

/-- A break counts for nothing. -/
lemma decode?_front {front : List Char} (h : front = [] ∨ front = softBreak) (s : List Char) :
    decode? (front ++ s) = decode? s := by
  rcases h with rfl | rfl
  · rfl
  · simp [softBreak, decode?]

/-- A character that is no blank and starts no line end stands on the line. -/
lemma endsLine_cons_of_not {c : Char} {s : List Char} (h : isSpace c = false) (hr : c ≠ '\r') :
    endsLine (c :: s) = false := by
  rw [endsLine, List.dropWhile_cons_of_neg (by simp [h])]
  split <;> simp_all

lemma endsLine_cons_of_isSpace {c : Char} {s : List Char} (h : isSpace c) :
    endsLine (c :: s) = endsLine s := by
  rw [endsLine, List.dropWhile_cons_of_pos h, ← endsLine]

lemma endsLine_escaped (b : UInt8) (s : List Char) : endsLine (escaped b ++ s) = false :=
  endsLine_cons_of_not (by decide) (by decide)

/-- Where the last octet of a line is still to come, the line does not end. -/
lemma endsLine_lastUnit (b : UInt8) (s : List Char) : endsLine (lastUnit b ++ s) = false := by
  rcases lastUnit_cases b with h | ⟨h, hb, hspace⟩
  · rw [h, endsLine_escaped]
  · rw [h]
    exact endsLine_cons_of_not hspace (ne_of_isLiteral hb).2.1

/-- The same with other octets in front of the last one, blanks or not. -/
lemma endsLine_unit {b : UInt8} {s : List Char} (h : endsLine s = false) :
    endsLine (unit b ++ s) = false := by
  rw [unit]
  split
  · next hb =>
      cases hspace : isSpace (Char.ofUInt8 b) with
      | true =>
          rw [List.singleton_append, endsLine_cons_of_isSpace hspace, h]
      | false => exact endsLine_cons_of_not hspace (ne_of_isLiteral hb).2.1
  · exact endsLine_escaped b s

lemma endsLine_front {front s : List Char} (h : front = [] ∨ front = softBreak)
    (hs : endsLine s = false) : endsLine (front ++ s) = false := by
  rcases h with rfl | rfl
  · exact hs
  · exact endsLine_cons_of_not (by decide) (by decide)

lemma units_cons {b : UInt8} {l : Bytes} (h : l ≠ []) : units (b :: l) = unit b :: units l := by
  rw [units]
  exact h

/-- A line with octets on it does not end in front of them. -/
lemma endsLine_wrap {l : Bytes} (hl : l ≠ []) (column : ℕ) (s : List Char) :
    endsLine (wrap column (units l) ++ s) = false := by
  induction l using units.induct generalizing column with
  | case1 => exact absurd rfl hl
  | case2 b =>
      obtain ⟨front, column', hfront, hwrap⟩ := exists_wrap_cons column (lastUnit b) []
      rw [units, hwrap, List.append_assoc, List.append_assoc]
      exact endsLine_front hfront (endsLine_lastUnit b _)
  | case3 b l hne ih =>
      obtain ⟨front, column', hfront, hwrap⟩ := exists_wrap_cons column (unit b) (units l)
      rw [units_cons hne, hwrap, List.append_assoc, List.append_assoc]
      exact endsLine_front hfront (endsLine_unit (ih hne column'))

/-- The octets of a line are read back, wherever it is broken. -/
theorem decode?_wrap (l : Bytes) (column : ℕ) (s : List Char) :
    decode? (wrap column (units l) ++ s) = (decode? s).map (l ++ ·) := by
  induction l using units.induct generalizing column with
  | case1 => simp [units, wrap]
  | case2 b =>
      obtain ⟨front, column', hfront, hwrap⟩ := exists_wrap_cons column (lastUnit b) []
      rw [units, hwrap, List.append_assoc, List.append_assoc, decode?_front hfront,
        decode?_lastUnit]
      simp [wrap]
  | case3 b l hne ih =>
      obtain ⟨front, column', hfront, hwrap⟩ := exists_wrap_cons column (unit b) (units l)
      rw [units_cons hne, hwrap, List.append_assoc, List.append_assoc, decode?_front hfront,
        decode?_unit (endsLine_wrap hne column' s), ih, Option.map_map]
      rfl

/-! ### Whole texts -/

lemma lines_ne_nil (b : Bytes) : lines b ≠ [] := by
  fun_induction lines b <;> simp

/-- The lines of octets, with line ends between them, are the octets. -/
lemma intercalate_lines (b : Bytes) : [13, 10].intercalate (lines b) = b := by
  induction b using lines.induct with
  | case1 => rfl
  | case2 b ih =>
      obtain ⟨l, ls, hb⟩ := List.exists_cons_of_ne_nil (lines_ne_nil b)
      rw [hb] at ih
      rw [lines, hb, List.intercalate_cons_cons, ih]
      rfl
  | case3 b rest h hrest _ => exact absurd hrest (lines_ne_nil rest)
  | case4 b rest h l ls hrest ih =>
      rw [hrest] at ih
      rw [lines, hrest]
      · cases ls with
        | nil => simpa using ih
        | cons l' ls' =>
            rw [List.intercalate_cons_cons] at ih ⊢
            simp [← ih]
      · exact h

/-- Lines are read back one after another. -/
lemma decode?_intercalate {ls : List Bytes} (h : ls ≠ []) :
    decode? (crlf.intercalate (ls.map fun l => wrap 0 (units l))) =
      some ([13, 10].intercalate ls) := by
  induction ls with
  | nil => exact absurd rfl h
  | cons l ls ih =>
      cases ls with
      | nil => simpa [decode?] using decode?_wrap l 0 []
      | cons m ms =>
          have hms := ih (by simp)
          rw [List.map_cons] at hms
          rw [List.map_cons, List.map_cons, List.intercalate_cons_cons, List.append_assoc,
            decode?_wrap]
          show (decode? ('\r' :: '\n' :: crlf.intercalate _)).map _ = _
          rw [decode?, hms, List.intercalate_cons_cons]
          simp

/-- **Whatever is written is read back.** -/
theorem decode?_encode (b : Bytes) : decode? (encode b) = some b := by
  rw [encode, ← crlf, decode?_intercalate (lines_ne_nil b), intercalate_lines]

/-! ### The length of lines -/

lemma isUnbroken_literal {b : UInt8} (h : isLiteral b) : IsUnbroken [Char.ofUInt8 b] := by
  obtain ⟨-, hr, hn⟩ := ne_of_isLiteral h
  simp [IsUnbroken, hr.symm, hn.symm]

lemma isUnbroken_escaped (b : UInt8) : IsUnbroken (escaped b) := by
  have hb := b.toNat_lt
  obtain ⟨-, hhr, hhn⟩ := hexValue?_toUpper_hexDigit (b.toNat / 16) (by omega)
  obtain ⟨-, hlr, hln⟩ := hexValue?_toUpper_hexDigit (b.toNat % 16) (by omega)
  simp [IsUnbroken, escaped, hhr.symm, hhn.symm, hlr.symm, hln.symm]

/-- An octet takes at most three characters, none of them of a line end. -/
lemma isUnbroken_of_mem_units {l : Bytes} {u : List Char} (h : u ∈ units l) :
    IsUnbroken u ∧ u.length ≤ 3 := by
  induction l using units.induct with
  | case1 => simp [units] at h
  | case2 b =>
      rw [units, List.mem_singleton] at h
      rcases lastUnit_cases b with hu | ⟨hu, hb, -⟩
      · rw [h, hu]
        exact ⟨isUnbroken_escaped b, Nat.le_refl 3⟩
      · rw [h, hu]
        exact ⟨isUnbroken_literal hb, by simp⟩
  | case3 b l hne ih =>
      rw [units_cons hne, List.mem_cons] at h
      rcases h with rfl | h
      · rw [unit]
        split
        · next hb => exact ⟨isUnbroken_literal hb, by simp⟩
        · exact ⟨isUnbroken_escaped b, Nat.le_refl 3⟩
      · exact ih h

/-- A line may be broken behind what stands on it. -/
lemma textLines_append_softBreak {p : List Char} (hp : IsUnbroken p) (s : List Char) :
    textLines (p ++ (softBreak ++ s)) = (p ++ ['=']) :: textLines s := by
  have hline : IsUnbroken (p ++ ['=']) := isUnbroken_append.mpr ⟨hp, by decide⟩
  have h := textLines_append_crlf (p ++ ['=']) s
  rw [textLines_of_isUnbroken hline, List.append_assoc] at h
  exact h

/-- Units that are put on lines behind a text leave no line too long. -/
lemma length_le_of_mem_textLines_wrap {us : List (List Char)}
    (hus : ∀ u ∈ us, IsUnbroken u ∧ u.length ≤ 3) {p : List Char} (hp : IsUnbroken p)
    (hlen : p.length < lineLimit) :
    ∀ line ∈ textLines (p ++ wrap p.length us), line.length ≤ lineLimit := by
  induction us generalizing p with
  | nil =>
      rw [wrap, List.append_nil, textLines_of_isUnbroken hp]
      simp only [List.mem_singleton, forall_eq]
      omega
  | cons u us ih =>
      obtain ⟨⟨hu, hlenu⟩, hus⟩ := List.forall_mem_cons.mp hus
      have hlimit : lineLimit = 76 := rfl
      have hpu : IsUnbroken (p ++ u) := isUnbroken_append.mpr ⟨hp, hu⟩
      -- a line that is broken has an equals sign more than what stands on it
      have hbroken : ∀ s, (∀ line ∈ textLines s, line.length ≤ lineLimit) →
          ∀ line ∈ textLines (p ++ (softBreak ++ s)), line.length ≤ lineLimit := by
        intro s hs
        rw [textLines_append_softBreak hp, List.forall_mem_cons]
        exact ⟨by simp only [List.length_append, List.length_singleton]; omega, hs⟩
      cases us with
      | nil =>
          rw [wrap]
          split
          · next hfits =>
              rw [textLines_of_isUnbroken hpu]
              simpa using hfits
          · refine hbroken u ?_
            rw [textLines_of_isUnbroken hu]
            simp only [List.mem_singleton, forall_eq]
            omega
      | cons v vs =>
          rw [wrap]
          · split
            · next hfits =>
                have := ih hus hpu (by simpa using hfits)
                rwa [List.length_append, List.append_assoc] at this
            · rw [List.append_assoc]
              exact hbroken _ (ih hus hu (by omega))
          · simp

/-- **No line of what is written has more than 76 characters.** -/
theorem length_le_of_mem_textLines_encode (b : Bytes) :
    ∀ line ∈ textLines (encode b), line.length ≤ lineLimit := by
  intro line hline
  have hparts : (lines b).map (fun l => wrap 0 (units l)) ≠ [] := by simp [lines_ne_nil]
  rw [encode, ← crlf, textLines_intercalate hparts, List.flatMap_map] at hline
  obtain ⟨l, -, hline⟩ := List.mem_flatMap.mp hline
  exact length_le_of_mem_textLines_wrap (p := []) (fun u hu => isUnbroken_of_mem_units hu)
    (by decide) (by decide) line hline

end AccountAccess.Mail.QuotedPrintable
