import AccountAccess.Proofs.Mail.Address
import AccountAccess.Proofs.Mail.Lines

/-!
Every reader of mailboxes stops at a line end.

The lemmas for the single readers say that a text has no line end if what is left of it has none, so
a text that is read whole has none (`isUnbroken_of_parse`). What is written of a mailbox has its
address in it, and the address of a mailbox that is read back has none either
(`isUnbroken_of_isReadable`).
-/

namespace AccountAccess.Mail

open Mailbox

/-! ### Readers -/

/-- Characters that are passed over hold no line end if no line end is passed over. -/
lemma isUnbroken_of_dropWhile {p : Char → Bool} (hp : ¬ p '\r' ∧ ¬ p '\n') {s : List Char}
    (h : IsUnbroken (s.dropWhile p)) : IsUnbroken s := by
  rw [← List.takeWhile_append_dropWhile (p := p) (l := s), isUnbroken_append]
  exact ⟨isUnbroken_of_forall hp fun c hc => List.all_eq_true.mp List.all_takeWhile c hc, h⟩

lemma isUnbroken_of_skipSpace {s : List Char} (h : IsUnbroken (skipSpace s)) : IsUnbroken s :=
  isUnbroken_of_dropWhile (by decide) h

lemma isUnbroken_of_atom? {s a r : List Char} (h : atom? s = some (a, r)) (hr : IsUnbroken r) :
    IsUnbroken s := by
  rw [atom?] at h
  split at h
  · cases h
  · cases h
    exact isUnbroken_of_dropWhile (by decide) hr

lemma isUnbroken_of_quotedRest? {space s t r : List Char} (h : quotedRest? space s = some (t, r))
    (hr : IsUnbroken r) : IsUnbroken s := by
  fun_induction quotedRest? space s generalizing t with
  | case1 space c s hc ih =>
      obtain ⟨⟨t', r'⟩, hs, heq⟩ := Option.map_eq_some_iff.mp h
      cases heq
      rw [isUnbroken_cons (by decide),
        isUnbroken_cons_of_pos (p := isEscapable) (by decide) hc]
      exact ih hs
  | case2 => cases h
  | case3 space c s _ hc =>
      cases h
      rwa [beq_iff_eq.mp hc, isUnbroken_cons (by decide)]
  | case4 space c s _ _ hc ih =>
      rw [isUnbroken_cons_of_pos (p := isSpace) (by decide) hc]
      exact ih h
  | case5 space c s _ _ _ hc ih =>
      obtain ⟨⟨t', r'⟩, hs, heq⟩ := Option.map_eq_some_iff.mp h
      cases heq
      rw [isUnbroken_cons_of_pos (p := isQuotable) (by decide) hc]
      exact ih hs
  | case6 => cases h
  | case7 => cases h

lemma isUnbroken_of_quoted? {s t r : List Char} (h : quoted? s = some (t, r))
    (hr : IsUnbroken r) : IsUnbroken s := by
  rw [quoted?.eq_def] at h
  split at h
  · exact (isUnbroken_cons (by decide)).mpr (isUnbroken_of_quotedRest? h hr)
  · cases h

lemma isUnbroken_of_word? {s t r : List Char} (h : word? s = some (t, r)) (hr : IsUnbroken r) :
    IsUnbroken s := by
  rcases Option.or_eq_some_iff.mp h with h | ⟨-, h⟩
  · exact isUnbroken_of_quoted? h hr
  · exact isUnbroken_of_atom? h hr

lemma isUnbroken_of_piece? {s t r : List Char} (h : piece? s = some (t, r)) (hr : IsUnbroken r) :
    IsUnbroken s := by
  rw [piece?.eq_def] at h
  split at h
  · cases h
    exact (isUnbroken_cons (by decide)).mpr hr
  · exact isUnbroken_of_word? h hr

lemma isUnbroken_of_phraseRest {fuel : ℕ} {s : List Char} (h : IsUnbroken (phraseRest fuel s).2) :
    IsUnbroken s := by
  induction fuel generalizing s with
  | zero => exact h
  | succ fuel ih =>
      rw [phraseRest] at h
      split at h
      · next w r hpiece => exact isUnbroken_of_skipSpace (isUnbroken_of_piece? hpiece (ih h))
      · exact h

lemma isUnbroken_of_phrase? {s t r : List Char} (h : phrase? s = some (t, r))
    (hr : IsUnbroken r) : IsUnbroken s := by
  obtain ⟨⟨w, r'⟩, hword, h⟩ := Option.bind_eq_some_iff.mp h
  cases h
  exact isUnbroken_of_word? hword (isUnbroken_of_phraseRest hr)

lemma isUnbroken_of_dotted {s : List Char} (h : IsUnbroken (dotted s).2) : IsUnbroken s := by
  induction s with
  | nil => exact h
  | cons c s ih =>
      rw [dotted] at h
      split at h
      · next hc =>
          have hkind : isAtomChar c || c == '.' := by
            simp only [Bool.or_eq_true, Bool.and_eq_true] at hc ⊢
            exact hc.imp_right And.left
          rw [isUnbroken_cons_of_pos (p := fun c => isAtomChar c || c == '.') (by decide)
            hkind]
          exact ih h
      · exact h

lemma isUnbroken_of_dotAtom? {s t r : List Char} (h : dotAtom? s = some (t, r))
    (hr : IsUnbroken r) : IsUnbroken s := by
  rw [dotAtom?] at h
  split at h
  · refine isUnbroken_of_skipSpace (isUnbroken_of_dotted ?_)
    rwa [Option.some.inj h]
  · cases h

lemma isUnbroken_of_spec? {s r : List Char} {a : List Char × List Char}
    (h : spec? s = some (a, r)) (hr : IsUnbroken r) : IsUnbroken s := by
  obtain ⟨⟨user, behind⟩, huser, h⟩ := Option.bind_eq_some_iff.mp h
  have hbehind : IsUnbroken behind := by
    dsimp only at h
    split at h
    · obtain ⟨⟨domain, r'⟩, hdomain, h⟩ := Option.bind_eq_some_iff.mp h
      cases h
      exact (isUnbroken_cons (by decide)).mpr (isUnbroken_of_dotAtom? hdomain hr)
    · cases h
  rcases Option.or_eq_some_iff.mp huser with huser | ⟨-, huser⟩
  · exact isUnbroken_of_dotAtom? huser hbehind
  · exact isUnbroken_of_skipSpace (isUnbroken_of_quoted? huser hbehind)

lemma isUnbroken_of_angled? {s r : List Char} {a : List Char × List Char}
    (h : angled? s = some (a, r)) (hr : IsUnbroken r) : IsUnbroken s := by
  refine isUnbroken_of_skipSpace ?_
  simp only [angled?, Option.bind_eq_bind] at h
  split at h
  · next front hfront =>
      obtain ⟨⟨a', behind⟩, hspec, h⟩ := Option.bind_eq_some_iff.mp h
      dsimp only at h
      split at h
      · cases h
        rw [hfront, isUnbroken_cons (by decide)]
        exact isUnbroken_of_spec? hspec ((isUnbroken_cons (by decide)).mpr hr)
      · cases h
  · cases h

lemma isUnbroken_of_named? {s r : List Char} {a : Option (List Char) × List Char × List Char}
    (h : named? s = some (a, r)) (hr : IsUnbroken r) : IsUnbroken s := by
  rw [named?] at h
  split at h
  · next name behind hphrase =>
      obtain ⟨⟨a', r'⟩, hangled, h⟩ := Option.bind_eq_some_iff.mp h
      cases h
      exact isUnbroken_of_phrase? hphrase (isUnbroken_of_angled? hangled hr)
  · obtain ⟨⟨a', r'⟩, hangled, h⟩ := Option.bind_eq_some_iff.mp h
    cases h
    exact isUnbroken_of_angled? hangled hr

/-- A text that is read has no line end. -/
lemma isUnbroken_of_parts? {s : List Char} {a : Option (List Char) × List Char × List Char}
    (h : parts? s = some a) : IsUnbroken s := by
  refine isUnbroken_of_skipSpace ?_
  simp only [parts?, Option.bind_eq_bind, Option.bind_eq_some_iff] at h
  obtain ⟨⟨a', r⟩, hread, h⟩ := h
  split at h
  · next hrest =>
      have hr : IsUnbroken r := isUnbroken_of_skipSpace (by rw [hrest]; decide)
      rcases Option.or_eq_some_iff.mp hread with hplain | ⟨-, hnamed⟩
      · obtain ⟨⟨a'', r'⟩, hspec, heq⟩ := Option.map_eq_some_iff.mp hplain
        cases heq
        exact isUnbroken_of_spec? hspec hr
      · exact isUnbroken_of_named? hnamed hr
  · cases h

/-! ### What is read back -/

/-- A mailbox that is read has no line end in its text. -/
lemma isUnbroken_of_parse {s : String} {r : Mailbox} (h : parse s = .ok r) :
    IsUnbroken s.toList := by
  rw [parse] at h
  split at h
  · cases h
  · next hparts => exact isUnbroken_of_parts? hparts

/-- The address stands in what is written of a mailbox. -/
lemma address_sublist_of_text? {m : Mailbox} {t : String} (h : m.text? = some t) :
    m.address.text.toList.Sublist t.toList := by
  rw [text?] at h
  split at h
  · cases h
    exact List.Sublist.refl _
  · obtain ⟨n, -, rfl⟩ := Option.map_eq_some_iff.mp h
    simp only [String.toList_append, List.append_assoc]
    exact ((List.sublist_append_left _ _).trans (List.sublist_append_right _ _)).trans
      (List.sublist_append_right _ _)

/-- The address of a mailbox that is read back has no line end. -/
lemma isUnbroken_of_isReadable {m : Mailbox} (h : m.isReadable) :
    IsUnbroken m.address.text.toList := by
  obtain ⟨t, r, ht, hr⟩ := m.isReadable_iff.mp h
  exact (isUnbroken_of_parse hr).of_sublist (address_sublist_of_text? ht)

end AccountAccess.Mail
