import Mathlib.Data.List.Basic

/-!
Lines of a text in which every line ends with a carriage return and a line feed.

* `textLines` are the lines; `intercalate_textLines`: written one after another they are the text
  again, so nothing is lost.
* `textLines_append_crlf`: a line end between two texts parts their lines, and
  `eq_of_textLines_eq`: where there is an empty line among the lines, the text is parted.
* **Folding.** A text is folded (`IsFolded`) if it is written in lines of which all but the first
  start with a blank. `IsFolded.append` lets its last line grow, and `IsFolded.textLines_append`
  reads its lines off.
-/

namespace AccountAccess.Mail

/-! ### Lines -/

/-- The lines of a text, without the line ends. -/
def textLines : List Char → List (List Char)
  | [] => [[]]
  | '\r' :: '\n' :: s => [] :: textLines s
  | c :: s =>
    match textLines s with
    | [] => [[c]]
    | l :: ls => (c :: l) :: ls

/-- The two characters of a line end. -/
def crlf : List Char := ['\r', '\n']

/-- A text that holds neither character of a line end. -/
def IsUnbroken (s : List Char) : Prop := '\r' ∉ s ∧ '\n' ∉ s

instance decidableIsUnbroken (s : List Char) : Decidable (IsUnbroken s) :=
  inferInstanceAs (Decidable (_ ∧ _))

lemma textLines_ne_nil (s : List Char) : textLines s ≠ [] := by
  fun_induction textLines s <;> simp

/-- A character that starts no line end belongs to the first line. -/
lemma textLines_cons {c : Char} {s l : List Char} {ls : List (List Char)}
    (h : ∀ t, c = '\r' → s ≠ '\n' :: t) (hs : textLines s = l :: ls) :
    textLines (c :: s) = (c :: l) :: ls := by
  rw [textLines, hs]
  rintro t rfl rfl
  exact h t rfl rfl

/-- The lines, written one after another, are the text. -/
theorem intercalate_textLines (s : List Char) : crlf.intercalate (textLines s) = s := by
  induction s using textLines.induct with
  | case1 => rfl
  | case2 s ih =>
      obtain ⟨l, ls, hs⟩ := List.exists_cons_of_ne_nil (textLines_ne_nil s)
      rw [hs] at ih
      rw [textLines, hs, List.intercalate_cons_cons, ih]
      rfl
  | case3 c s h hs _ => exact absurd hs (textLines_ne_nil s)
  | case4 c s h l ls hs ih =>
      rw [hs] at ih
      rw [textLines_cons (fun t hc hs => h t hc hs) hs]
      cases ls with
      | nil => simpa using ih
      | cons l' ls' =>
          rw [List.intercalate_cons_cons] at ih ⊢
          simp [← ih]

/-- Lines in front of others end with a line end each. -/
lemma intercalate_append {ms : List (List Char)} (hms : ms ≠ []) (ls : List (List Char)) :
    crlf.intercalate (ls ++ ms) = ls.flatMap (· ++ crlf) ++ crlf.intercalate ms := by
  induction ls with
  | nil => rfl
  | cons l ls ih =>
      obtain ⟨n, ns, hns⟩ := List.exists_cons_of_ne_nil (List.append_ne_nil_of_right_ne_nil ls hms)
      rw [List.cons_append, hns, List.intercalate_cons_cons, ← hns, ih, List.flatMap_cons]
      simp only [List.append_assoc]

/-- A text with an empty line among its lines is parted there. -/
theorem eq_of_textLines_eq {s t : List Char} {ls : List (List Char)}
    (h : textLines s = ls ++ [] :: textLines t) : s = ls.flatMap (· ++ crlf) ++ (crlf ++ t) := by
  obtain ⟨l, ms, ht⟩ := List.exists_cons_of_ne_nil (textLines_ne_nil t)
  have hlast : crlf.intercalate ([] :: textLines t) = crlf ++ t := by
    rw [ht, List.intercalate_cons_cons, ← ht, intercalate_textLines, List.nil_append]
  rw [← intercalate_textLines s, h, intercalate_append (by simp), hlast]

/-- A line end between two texts parts their lines. -/
theorem textLines_append_crlf (s t : List Char) :
    textLines (s ++ (crlf ++ t)) = textLines s ++ textLines t := by
  induction s using textLines.induct with
  | case1 => rfl
  | case2 s ih =>
      show [] :: textLines (s ++ (crlf ++ t)) = [] :: (textLines s ++ textLines t)
      rw [ih]
  | case3 c s h hs _ => exact absurd hs (textLines_ne_nil s)
  | case4 c s h l ls hs ih =>
      rw [hs] at ih
      rw [textLines_cons (fun u hc hs => h u hc hs) hs, List.cons_append, List.cons_append]
      refine textLines_cons (fun u hc hu => ?_) ih
      cases s with
      | nil => simp [crlf] at hu
      | cons d s => exact h s hc (by simp at hu; rw [hu.1])

/-! ### Texts of one line -/

lemma isUnbroken_append {s t : List Char} : IsUnbroken (s ++ t) ↔ IsUnbroken s ∧ IsUnbroken t := by
  simp only [IsUnbroken, List.mem_append]
  tauto

lemma isUnbroken_cons {c : Char} {s : List Char} (hc : IsUnbroken [c]) :
    IsUnbroken (c :: s) ↔ IsUnbroken s :=
  (isUnbroken_append (s := [c])).trans (and_iff_right hc)

/-- Characters of a kind that no character of a line end is of. -/
lemma isUnbroken_of_forall {p : Char → Bool} (hp : ¬ p '\r' ∧ ¬ p '\n') {s : List Char}
    (h : ∀ c ∈ s, p c) : IsUnbroken s :=
  ⟨fun hc => hp.1 (h _ hc), fun hc => hp.2 (h _ hc)⟩

lemma IsUnbroken.of_sublist {s t : List Char} (h : IsUnbroken t) (hs : s.Sublist t) :
    IsUnbroken s :=
  ⟨fun hc => h.1 (hs.subset hc), fun hc => h.2 (hs.subset hc)⟩

/-- One such character in front. -/
lemma isUnbroken_cons_of_pos {p : Char → Bool} (hp : ¬ p '\r' ∧ ¬ p '\n') {c : Char} (hc : p c)
    {s : List Char} : IsUnbroken (c :: s) ↔ IsUnbroken s :=
  isUnbroken_cons (isUnbroken_of_forall hp (by simpa using hc))

lemma isUnbroken_replicate {c : Char} (h : IsUnbroken [c]) (n : ℕ) :
    IsUnbroken (List.replicate n c) := by
  simp only [IsUnbroken, List.mem_replicate, List.mem_singleton] at h ⊢
  tauto

/-- A text without characters of a line end is a line. -/
lemma textLines_of_isUnbroken {s : List Char} (h : IsUnbroken s) : textLines s = [s] := by
  induction s with
  | nil => rfl
  | cons c s ih =>
      simp only [IsUnbroken, List.mem_cons, not_or] at h
      exact textLines_cons (fun _ hc => absurd hc.symm h.1.1) (ih ⟨h.1.2, h.2.2⟩)

/-- Lines are written with a line end between each two of them. -/
lemma textLines_intercalate {parts : List (List Char)} (h : parts ≠ []) :
    textLines (crlf.intercalate parts) = parts.flatMap textLines := by
  induction parts with
  | nil => exact absurd rfl h
  | cons p ps ih =>
      cases ps with
      | nil => simp
      | cons q qs =>
          rw [List.intercalate_cons_cons, List.append_assoc, textLines_append_crlf, ih (by simp)]
          rfl

/-! ### Folding -/

/-- Lines of which all but the first start with a blank. -/
inductive IsFolded : List Char → Prop
  | line {l : List Char} (hl : IsUnbroken l) : IsFolded l
  | fold {s l : List Char} (hs : IsFolded s) (hl : IsUnbroken l) :
      IsFolded (s ++ (crlf ++ ' ' :: l))

/-- What stands on one line may be added to the last line. -/
lemma IsFolded.append {s t : List Char} (hs : IsFolded s) (ht : IsUnbroken t) :
    IsFolded (s ++ t) := by
  cases hs with
  | line hl => exact .line (isUnbroken_append.mpr ⟨hl, ht⟩)
  | fold hs hl =>
      rw [List.append_assoc, List.append_assoc, List.cons_append]
      exact .fold hs (isUnbroken_append.mpr ⟨hl, ht⟩)

/-- The lines of a folded text behind a text of one line: the first starts with that text, the
others start with a blank, and none has a character of a line end. -/
theorem IsFolded.textLines_append {s : List Char} (h : IsFolded s) {p : List Char}
    (hp : IsUnbroken p) :
    ∃ first rest, textLines (p ++ s) = (p ++ first) :: rest ∧ IsUnbroken (p ++ first) ∧
      ∀ l ∈ rest, IsUnbroken l ∧ l.head? = some ' ' := by
  induction h with
  | @line l hl =>
      have hpl : IsUnbroken (p ++ l) := isUnbroken_append.mpr ⟨hp, hl⟩
      exact ⟨l, [], textLines_of_isUnbroken hpl, hpl, by simp⟩
  | @fold s l hs hl ih =>
      obtain ⟨first, rest, hlines, hfirst, hrest⟩ := ih
      have hblank : IsUnbroken [' '] := by decide
      have hline : IsUnbroken (' ' :: l) := isUnbroken_append.mpr ⟨hblank, hl⟩
      refine ⟨first, rest ++ [' ' :: l], ?_, hfirst, ?_⟩
      · rw [← List.append_assoc, textLines_append_crlf, hlines, textLines_of_isUnbroken hline]
        rfl
      · intro m hm
        rcases List.mem_append.mp hm with hm | hm
        · exact hrest m hm
        · rw [List.mem_singleton.mp hm]
          exact ⟨hline, rfl⟩

end AccountAccess.Mail
