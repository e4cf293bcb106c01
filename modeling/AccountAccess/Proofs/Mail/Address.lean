import AccountAccess.Mail.Composition
import Mathlib.Data.List.Basic

/-!
How an address is read, whatever stands behind it.

The text of an address is its user, an at sign and its domain. A domain that was read is made of
atoms with single full stops between them (`IsDotAtom`), and so is a user, unless it has quotes of
its own; between these stands a quoted text (`IsQuotedText`).

* `isDotAtom_of_isUser` and `exists_quotedText_of_isUser`: a user is the one or the other.
* `isDotAtom_of_parts?`: every domain that was read is made of atoms.
* `spec?_append`: the text of an address is read as its domain and its user, and the user is taken
  out of its own quotes by that (`unquote`). It ends where an atom would (`EndsAtom`).
-/

namespace AccountAccess.Mail

open Mailbox

/-! ### Atoms with full stops between them -/

/-- Atoms with single full stops between them. -/
def IsDotAtom (s : List Char) : Prop := s.head?.any isAtomChar ∧ dotted s = (s, [])

/-- A character that goes on what stands in front of it. -/
lemma dotted_cons_of_pos {c : Char} {s : List Char}
    (h : isAtomChar c || (c == '.' && s.head?.any isAtomChar)) :
    dotted (c :: s) = (c :: (dotted s).1, (dotted s).2) := by
  rw [dotted, if_pos h]

lemma dotted_cons_of_neg {c : Char} {s : List Char}
    (h : ¬ (isAtomChar c || (c == '.' && s.head?.any isAtomChar))) :
    dotted (c :: s) = ([], c :: s) := by
  rw [dotted, if_neg h]

/-- What is read starts with an atom where the text does. -/
lemma any_head?_dotted (s : List Char) :
    (dotted s).1.head?.any isAtomChar = s.head?.any isAtomChar := by
  cases s with
  | nil => rfl
  | cons c s =>
      by_cases h : isAtomChar c || (c == '.' && s.head?.any isAtomChar)
      · rw [dotted_cons_of_pos h]
        rfl
      · rw [dotted_cons_of_neg h]
        simp only [Bool.or_eq_true, not_or, Bool.not_eq_true] at h
        simp [h.1]

/-- What was read once is read whole. -/
lemma dotted_dotted (s : List Char) : dotted (dotted s).1 = ((dotted s).1, []) := by
  induction s with
  | nil => rfl
  | cons c s ih =>
      by_cases h : isAtomChar c || (c == '.' && s.head?.any isAtomChar)
      · have h' : isAtomChar c || (c == '.' && (dotted s).1.head?.any isAtomChar) := by
          rwa [any_head?_dotted]
        rw [dotted_cons_of_pos h, dotted_cons_of_pos h', ih]
      · rw [dotted_cons_of_neg h]
        rfl

lemma isDotAtom_of_dotAtom? {s t r : List Char} (h : dotAtom? s = some (t, r)) : IsDotAtom t := by
  rw [dotAtom?] at h
  split at h
  · next hhead =>
      have ht : (dotted (skipSpace s)).1 = t := congrArg Prod.fst (Option.some.inj h)
      rw [← ht]
      exact ⟨(any_head?_dotted _).trans hhead, dotted_dotted _⟩
  · cases h

/-- What stands behind atoms ends them. -/
def EndsAtom (r : List Char) : Prop := ∀ c ∈ r.head?, ¬ isAtomChar c ∧ c ≠ '.'

lemma endsAtom_nil : EndsAtom [] := fun _ hc => by cases hc

lemma endsAtom_cons {c : Char} (hc : ¬ isAtomChar c ∧ c ≠ '.') (r : List Char) :
    EndsAtom (c :: r) := fun d hd => by
  cases hd
  exact hc

lemma dotted_append_of_endsAtom {s r : List Char} (h : dotted s = (s, [])) (hr : EndsAtom r) :
    dotted (s ++ r) = (s, r) := by
  induction s with
  | nil =>
      cases r with
      | nil => rfl
      | cons c r =>
          obtain ⟨hatom, hdot⟩ := hr c rfl
          exact dotted_cons_of_neg (by simp [hatom, hdot])
  | cons c s ih =>
      by_cases hc : isAtomChar c || (c == '.' && s.head?.any isAtomChar)
      · rw [dotted_cons_of_pos hc] at h
        have hs : dotted s = (s, []) := Prod.ext (by simpa using congrArg Prod.fst h)
          (by simpa using congrArg Prod.snd h)
        have hc' : isAtomChar c || (c == '.' && (s ++ r).head?.any isAtomChar) := by
          cases s <;> simp_all
        rw [List.cons_append, dotted_cons_of_pos hc', ih hs]
      · rw [dotted_cons_of_neg hc] at h
        cases h

lemma not_isSpace_of_isAtomChar {c : Char} (h : isAtomChar c) : ¬ isSpace c := by
  intro hspace
  simp only [isSpace, Bool.or_eq_true, beq_iff_eq] at hspace
  rcases hspace with rfl | rfl <;> exact absurd h (by decide)

/-- No atom begins with a blank. -/
lemma skipSpace_of_isDotAtom {s : List Char} (h : IsDotAtom s) (r : List Char) :
    skipSpace (s ++ r) = s ++ r := by
  obtain ⟨hhead, -⟩ := h
  cases s with
  | nil => simp at hhead
  | cons c s => exact List.dropWhile_cons_of_neg (not_isSpace_of_isAtomChar hhead)

lemma dotAtom?_append {s r : List Char} (h : IsDotAtom s) (hr : EndsAtom r) :
    dotAtom? (s ++ r) = some (s, r) := by
  have hhead : (s ++ r).head?.any isAtomChar := by
    have := h.1
    cases s <;> simp_all
  rw [dotAtom?, skipSpace_of_isDotAtom h, if_pos hhead, dotted_append_of_endsAtom h.2 hr]

/-! ### What was read -/

lemma isDotAtom_of_spec? {s user domain r : List Char} (h : spec? s = some ((user, domain), r)) :
    IsDotAtom domain := by
  simp only [spec?, Option.bind_eq_bind, Option.bind_eq_some_iff] at h
  obtain ⟨⟨u, behind⟩, -, h⟩ := h
  split at h
  · obtain ⟨⟨d, rest⟩, hd, h⟩ := Option.bind_eq_some_iff.mp h
    cases h
    exact isDotAtom_of_dotAtom? hd
  · cases h

lemma isDotAtom_of_angled? {s user domain r : List Char}
    (h : angled? s = some ((user, domain), r)) : IsDotAtom domain := by
  simp only [angled?, Option.bind_eq_bind] at h
  split at h
  · obtain ⟨⟨⟨u, d⟩, rest⟩, hspec, h⟩ := Option.bind_eq_some_iff.mp h
    have hd := isDotAtom_of_spec? hspec
    split at h
    · cases h
      exact hd
    · cases h
  · cases h

lemma isDotAtom_of_named? {s user domain r : List Char} {name : Option (List Char)}
    (h : named? s = some ((name, user, domain), r)) : IsDotAtom domain := by
  simp only [named?, Option.bind_eq_bind] at h
  split at h <;>
  · obtain ⟨⟨⟨u, d⟩, rest⟩, hangled, h⟩ := Option.bind_eq_some_iff.mp h
    cases h
    exact isDotAtom_of_angled? hangled

/-- Every domain that was read is made of atoms with single full stops between them. -/
lemma isDotAtom_of_parts? {s user domain : List Char} {name : Option (List Char)}
    (h : parts? s = some (name, user, domain)) : IsDotAtom domain := by
  simp only [parts?, Option.bind_eq_bind, Option.bind_eq_some_iff] at h
  obtain ⟨⟨⟨n, u, d⟩, rest⟩, hparts, h⟩ := h
  split at h
  · cases h
    rcases Option.or_eq_some_iff.mp hparts with hplain | ⟨-, hnamed⟩
    · obtain ⟨⟨⟨u', d'⟩, rest'⟩, hspec, heq⟩ := Option.map_eq_some_iff.mp hplain
      cases heq
      exact isDotAtom_of_spec? hspec
    · exact isDotAtom_of_named? hnamed
  · cases h

/-! ### Users -/

/-- The characters of names are characters of atoms. -/
lemma isAtomChar_of_isNameChar {c : Char} (h : isNameChar c) : isAtomChar c := by
  simp only [isNameChar, isWideChar, Bool.or_eq_true, Bool.and_eq_true, decide_eq_true_eq] at h
  simp only [isAtomChar, Bool.or_eq_true, decide_eq_true_eq]
  by_cases hascii : c.toNat < 0x80
  · rw [Text.isLetterOrDigit_eq_isAlphanum hascii] at h
    rcases h with h | h
    · exact .inl h
    · omega
  · exact .inr (by omega)

/-- Characters of atoms in front are read with the rest. -/
lemma dotted_append {l : List Char} (hl : ∀ c ∈ l, isAtomChar c) (s : List Char) :
    dotted (l ++ s) = (l ++ (dotted s).1, (dotted s).2) := by
  induction l with
  | nil => rfl
  | cons c l ih =>
      obtain ⟨hc, hl⟩ := List.forall_mem_cons.mp hl
      rw [List.cons_append, dotted_cons_of_pos (by simp [hc]), ih hl]
      rfl

/-- Labels with full stops between them are. -/
lemma isDotAtom_intercalate {ls : List (List Char)} (hls : ls ≠ [])
    (h : ∀ l ∈ ls, l ≠ [] ∧ ∀ c ∈ l, isAtomChar c) : IsDotAtom (['.'].intercalate ls) := by
  induction ls with
  | nil => exact absurd rfl hls
  | cons l ls ih =>
      obtain ⟨⟨hne, hatoms⟩, hrest⟩ := List.forall_mem_cons.mp h
      obtain ⟨c, l', rfl⟩ := List.exists_cons_of_ne_nil hne
      have hc : isAtomChar c := hatoms c (by simp)
      cases ls with
      | nil =>
          have hwhole := dotted_append hatoms []
          rw [List.append_nil] at hwhole
          exact ⟨by simpa using hc, by simpa [dotted] using hwhole⟩
      | cons m ms =>
          obtain ⟨hhead, hdotted⟩ := ih (by simp) hrest
          rw [List.intercalate_cons_cons, List.append_assoc]
          refine ⟨by simpa using hc, ?_⟩
          rw [dotted_append hatoms, List.singleton_append,
            dotted_cons_of_pos (by simp [hhead]), hdotted]

/-- A user without quotes of its own is made of atoms with single full stops between them. -/
lemma isDotAtom_of_isUser {s : List Char} (h : isUser s)
    (hquotes : ¬ (s.head? = some '"' ∧ s.getLast? = some '"')) : IsDotAtom s := by
  simp only [isUser, hquotes, if_false, Bool.and_eq_true, List.all_eq_true,
    decide_eq_true_eq] at h
  have hjoin : ['.'].intercalate (labels s) = s := List.intercalate_splitOn '.'
  rw [← hjoin]
  refine isDotAtom_intercalate (List.splitOn_ne_nil _ _) fun l hl => ?_
  obtain ⟨hne, hall⟩ := h.2 l hl
  exact ⟨hne, fun c hc => isAtomChar_of_isNameChar (hall c hc)⟩

/-! ### Quoted texts -/

/-- What may stand between quotes: characters that stand for themselves, and others behind a
backslash. -/
inductive IsQuotedText : List Char → Prop
  | nil : IsQuotedText []
  | plain {c : Char} {s : List Char} : isSpace c || isQuotable c → IsQuotedText s →
      IsQuotedText (c :: s)
  | escaped {c : Char} {s : List Char} : isEscapable c → IsQuotedText s →
      IsQuotedText ('\\' :: c :: s)

/-- It is read up to the quote behind it, whatever stands behind that. -/
lemma IsQuotedText.exists_quotedRest? {s : List Char} (h : IsQuotedText s) (space : List Char) :
    ∃ t, ∀ r, quotedRest? space (s ++ '"' :: r) = some (t, r) := by
  induction h generalizing space with
  | nil => exact ⟨[], fun _ => rfl⟩
  | @plain c s hc _ ih =>
      have hmark : c ≠ '\\' ∧ c ≠ '"' := by
        constructor <;> rintro rfl <;> revert hc <;> decide
      by_cases hspace : isSpace c
      · obtain ⟨t, ht⟩ := ih [' ']
        refine ⟨t, fun r => ?_⟩
        rw [List.cons_append, quotedRest?.eq_def]
        simp [hmark, hspace, ht]
      · obtain ⟨t, ht⟩ := ih []
        have hquotable : isQuotable c := by simpa [hspace] using hc
        refine ⟨space ++ c :: t, fun r => ?_⟩
        rw [List.cons_append, quotedRest?.eq_def]
        simp [hmark, hspace, hquotable, ht]
  | @escaped c s hc _ ih =>
      obtain ⟨t, ht⟩ := ih []
      refine ⟨space ++ c :: t, fun r => ?_⟩
      rw [List.cons_append, List.cons_append, quotedRest?, if_pos hc, ht]
      rfl

/-- The characters that a user has between its own quotes stand for themselves. -/
lemma isSpace_or_isQuotable {c : Char}
    (h : isSpace c || c == '!' || ('#' ≤ c && c ≤ '[') || (']' ≤ c && c ≤ '~') || isWideChar c) :
    isSpace c || isQuotable c := by
  simp only [isWideChar, Bool.or_eq_true, Bool.and_eq_true, beq_iff_eq, decide_eq_true_eq] at h
  simp only [isQuotable, Bool.or_eq_true, Bool.and_eq_true, beq_iff_eq, decide_eq_true_eq]
  have hle : ∀ a b : Char, a ≤ b ↔ a.toNat ≤ b.toNat := fun _ _ => UInt32.le_iff_toNat_le
  have hbounds : '#'.toNat = 35 ∧ '['.toNat = 91 ∧ ']'.toNat = 93 ∧ '~'.toNat = 126 := by decide
  simp only [hle, hbounds] at h
  rcases h with (((hspace | rfl) | hlow) | hhigh) | hwide
  · exact .inl hspace
  · decide
  all_goals exact .inr (by omega)

/-- What a user has between its own quotes. -/
lemma isQuotedText_of_isQuotedContent {s : List Char} (h : isQuotedContent s) : IsQuotedText s := by
  fun_induction isQuotedContent s with
  | case1 c s ih =>
      simp only [Bool.and_eq_true, decide_eq_true_eq] at h
      refine .escaped ?_ (ih h.2)
      simp only [isEscapable, Bool.or_eq_true, Bool.and_eq_true, decide_eq_true_eq, beq_iff_eq]
      omega
  | case2 c s _ ih =>
      simp only [Bool.and_eq_true] at h
      exact .plain (isSpace_or_isQuotable h.1) (ih h.2)
  | case3 => exact .nil

/-- A user with quotes of its own. -/
lemma exists_quotedText_of_isUser {s : List Char} (h : isUser s) (hquote : s.head? = some '"') :
    ∃ t, s = '"' :: t ++ ['"'] ∧ IsQuotedText t := by
  by_cases hlast : s.getLast? = some '"'
  · simp only [isUser, hquote, hlast, and_self, if_true, Bool.and_eq_true,
      decide_eq_true_eq] at h
    obtain ⟨-, hlength, hcontent⟩ := h
    refine ⟨s.tail.dropLast, ?_, isQuotedText_of_isQuotedContent hcontent⟩
    cases s with
    | nil => cases hquote
    | cons c s =>
        obtain rfl := Option.some.inj hquote
        have hs : s ≠ [] := by rintro rfl; simp at hlength
        rw [List.getLast?_cons_of_ne_nil hs] at hlast
        rw [List.tail_cons, List.cons_append, List.dropLast_append_getLast? _ hlast]
  · have hatoms := (isDotAtom_of_isUser h fun hquotes => hlast hquotes.2).1
    rw [hquote] at hatoms
    exact absurd hatoms (by decide)

/-! ### Reading -/

/-- A user without quotes of its own. -/
def unquote (user : List Char) : List Char := ((quoted? user).map Prod.fst).getD user

lemma unquote_of_isUser {user : List Char} (h : isUser user) (hquote : user.head? ≠ some '"') :
    unquote user = user := by
  have hnone : quoted? user = none := by
    rw [quoted?.eq_def]
    split
    · exact absurd rfl hquote
    · rfl
  rw [unquote, hnone]
  rfl

/-- A user with quotes of its own is read up to the last of them. -/
lemma quoted?_append {user : List Char} (h : isUser user) (hquote : user.head? = some '"')
    (r : List Char) : quoted? (user ++ r) = some (unquote user, r) := by
  obtain ⟨t, rfl, ht⟩ := exists_quotedText_of_isUser h hquote
  obtain ⟨u, hu⟩ := ht.exists_quotedRest? []
  have hread : ∀ r, quoted? ('"' :: t ++ ['"'] ++ r) = some (u, r) := fun r => by
    rw [List.append_assoc, List.singleton_append]
    exact hu r
  have hwhole := hread []
  rw [List.append_nil] at hwhole
  rw [hread, unquote, hwhole]
  rfl

/-- No user begins with a blank. -/
lemma skipSpace_of_isUser {user : List Char} (h : isUser user) (r : List Char) :
    skipSpace (user ++ r) = user ++ r := by
  by_cases hquote : user.head? = some '"'
  · obtain ⟨t, rfl, -⟩ := exists_quotedText_of_isUser h hquote
    rfl
  · exact skipSpace_of_isDotAtom (isDotAtom_of_isUser h fun hquotes => hquote hquotes.1) r

/-- **The text of an address is read** as far as it goes, and a user is taken out of its own quotes
by that. -/
lemma spec?_append {user domain r : List Char} (hu : isUser user) (hd : IsDotAtom domain)
    (hr : EndsAtom r) :
    spec? (user ++ '@' :: (domain ++ r)) = some ((unquote user, domain), r) := by
  have huser : (dotAtom? (user ++ '@' :: (domain ++ r))).or
      (quoted? (skipSpace (user ++ '@' :: (domain ++ r)))) =
        some (unquote user, '@' :: (domain ++ r)) := by
    by_cases hquote : user.head? = some '"'
    · have hnone : dotAtom? (user ++ '@' :: (domain ++ r)) = none := by
        rw [dotAtom?, skipSpace_of_isUser hu, List.head?_append, hquote, Option.some_or]
        exact if_neg (by decide)
      rw [hnone, Option.none_or, skipSpace_of_isUser hu, quoted?_append hu hquote]
    · have hatoms := isDotAtom_of_isUser hu fun hquotes => hquote hquotes.1
      rw [dotAtom?_append hatoms (endsAtom_cons (by decide) _), Option.some_or,
        unquote_of_isUser hu hquote]
  rw [spec?, huser]
  simp [dotAtom?_append hd hr]

end AccountAccess.Mail
