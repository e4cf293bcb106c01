import AccountAccess.Proofs.Mail.Address

/-!
Which mailboxes are read back from what is written of them.

* `all_isWritable_of_parts?`: the characters of a name that was read can be written (`isWritable`).
* `IsPassed` is what a name has to be for the address behind it to be read. One without quotes is
  (`isPassed_of_isUnquoted`), and so is one in quotes (`isPassed_of_isQuotedText`); these are the
  two ways to write a name (`exists_nameText?`).
* `exists_parts?_text`: so a mailbox that was read can be written and its address is read again, but
  for the quotes of its user.
* `isReadable_iff_of_mailbox`: it is read back exactly if the user is one without these quotes.
-/

namespace AccountAccess.Mail

open Mailbox

/-! ### Characters of names -/

/-- A character that a name can be written with. -/
def isWritable (c : Char) : Bool := c != '\x00' && c != '\r' && c != '\n'

/-- A character of a kind that the others are not of. -/
lemma isWritable_of_pos {p : Char → Bool} (hp : ¬ p '\x00' ∧ ¬ p '\r' ∧ ¬ p '\n') {c : Char}
    (hc : p c) : isWritable c := by
  have hne : ∀ d, ¬ p d → (c != d) = true := fun d hd => bne_iff_ne.mpr fun hcd => hd (hcd ▸ hc)
  simp only [isWritable, hne _ hp.1, hne _ hp.2.1, hne _ hp.2.2, Bool.and_self]

lemma all_isWritable_of_atom? {s a r : List Char} (h : atom? s = some (a, r)) :
    a.all isWritable := by
  rw [atom?] at h
  split at h
  · cases h
  · cases h
    refine List.all_eq_true.mpr fun c hc => isWritable_of_pos (p := isAtomChar) (by decide) ?_
    exact List.all_eq_true.mp List.all_takeWhile c hc

lemma all_isWritable_of_quotedRest? {space s t r : List Char} (hspace : space.all isWritable)
    (h : quotedRest? space s = some (t, r)) : t.all isWritable := by
  fun_induction quotedRest? space s generalizing t with
  | case1 space c s hc ih =>
      obtain ⟨⟨t', r'⟩, hs, heq⟩ := Option.map_eq_some_iff.mp h
      cases heq
      rw [List.all_append, List.all_cons, hspace, ih rfl hs,
        isWritable_of_pos (p := isEscapable) (by decide) hc]
      rfl
  | case2 => cases h
  | case3 => cases h; rfl
  | case4 space c s _ _ hc ih => exact ih (by decide) h
  | case5 space c s _ _ _ hc ih =>
      obtain ⟨⟨t', r'⟩, hs, heq⟩ := Option.map_eq_some_iff.mp h
      cases heq
      rw [List.all_append, List.all_cons, hspace, ih rfl hs,
        isWritable_of_pos (p := isQuotable) (by decide) hc]
      rfl
  | case6 => cases h
  | case7 => cases h

lemma all_isWritable_of_word? {s w r : List Char} (h : word? s = some (w, r)) :
    w.all isWritable := by
  rcases Option.or_eq_some_iff.mp h with h | ⟨-, h⟩
  · rw [quoted?.eq_def] at h
    split at h
    · exact all_isWritable_of_quotedRest? rfl h
    · cases h
  · exact all_isWritable_of_atom? h

lemma all_isWritable_of_piece? {s w r : List Char} (h : piece? s = some (w, r)) :
    w.all isWritable := by
  rw [piece?.eq_def] at h
  split at h
  · cases h
    decide
  · exact all_isWritable_of_word? h

lemma all_isWritable_phraseRest (fuel : ℕ) (s : List Char) :
    (phraseRest fuel s).1.all isWritable := by
  induction fuel generalizing s with
  | zero => rfl
  | succ fuel ih =>
      have hspace : (space s).all isWritable := by
        rw [space]
        split <;> decide
      rw [phraseRest]
      split
      · next w r hpiece =>
          simp only [List.all_append, hspace, all_isWritable_of_piece? hpiece, ih, Bool.and_self]
      · rfl

lemma all_isWritable_of_phrase? {s t r : List Char} (h : phrase? s = some (t, r)) :
    t.all isWritable := by
  obtain ⟨⟨w, r'⟩, hword, h⟩ := Option.bind_eq_some_iff.mp h
  cases h
  rw [List.all_append, all_isWritable_of_word? hword, all_isWritable_phraseRest]
  rfl

/-- A name that was read can be written. -/
lemma all_isWritable_of_parts? {s name user domain : List Char}
    (h : parts? s = some (some name, user, domain)) : name.all isWritable := by
  simp only [parts?, Option.bind_eq_bind, Option.bind_eq_some_iff] at h
  obtain ⟨⟨a, r⟩, hread, h⟩ := h
  split at h
  · cases h
    rcases Option.or_eq_some_iff.mp hread with hplain | ⟨-, hnamed⟩
    · obtain ⟨⟨a', r'⟩, -, heq⟩ := Option.map_eq_some_iff.mp hplain
      cases heq
    · rw [named?] at hnamed
      split at hnamed
      · next hphrase =>
          obtain ⟨⟨a', r'⟩, -, heq⟩ := Option.bind_eq_some_iff.mp hnamed
          cases heq
          exact all_isWritable_of_phrase? hphrase
      · obtain ⟨⟨a', r'⟩, -, heq⟩ := Option.bind_eq_some_iff.mp hnamed
        cases heq
  · cases h

/-! ### Names in front of a bracket -/

/-- A text in front of a bracket is read as a name, whatever stands behind the bracket. -/
structure IsPassed (n : List Char) : Prop where
  /-- It begins with no blank. -/
  skipped : ∀ r, skipSpace (n ++ r) = n ++ r
  /-- It is no user with an at sign behind it. -/
  noAddress : ∀ r, spec? (n ++ ' ' :: '<' :: r) = none
  /-- It is read as a name, up to the bracket. -/
  phrase : ∀ r, ∃ t r', phrase? (n ++ ' ' :: '<' :: r) = some (t, r') ∧ skipSpace r' = '<' :: r

/-- A blank is no other character. -/
lemma ne_of_isSpace {c d : Char} (hc : isSpace c) (hd : ¬ isSpace d) : c ≠ d := by
  rintro rfl
  exact hd hc

lemma isBlank_of_isSpace {c : Char} (h : isSpace c) : Text.isBlank c := by
  simp only [isSpace, Bool.or_eq_true, beq_iff_eq] at h
  rcases h with rfl | rfl <;> decide

lemma isAtomChar_of_isUnquoted {c : Char} (h : isUnquoted c) (hspace : ¬ isSpace c) :
    isAtomChar c := by
  simpa [isUnquoted, hspace] using h

/-- What is left has the characters of the whole. -/
lemma all_dropWhile {p q : Char → Bool} {s : List Char} (h : s.all q) : (s.dropWhile p).all q :=
  List.all_eq_true.mpr fun c hc =>
    List.all_eq_true.mp h c ((List.dropWhile_suffix p).subset hc)

/-- Characters of a kind in front of one that is not are all there is to drop. -/
lemma dropWhile_append_cons {p : Char → Bool} {c : Char} (hc : ¬ p c) (w r : List Char) :
    (w ++ c :: r).dropWhile p = w.dropWhile p ++ c :: r := by
  rw [List.dropWhile_append]
  split
  · next h => rw [List.isEmpty_iff.mp h, List.dropWhile_cons_of_neg hc, List.nil_append]
  · rfl

/-- An atom is a word, up to the blank behind it. -/
lemma word?_append {c : Char} (hc : isAtomChar c) (v r : List Char) :
    ∃ w, word? (c :: v ++ ' ' :: r) = some (w, v.dropWhile isAtomChar ++ ' ' :: r) := by
  have hquote : quoted? (c :: v ++ ' ' :: r) = none := by
    rw [quoted?.eq_def]
    split
    · next heq =>
        obtain ⟨rfl, -⟩ := List.cons.inj heq
        exact absurd hc (by decide)
    · rfl
  refine ⟨(c :: v ++ ' ' :: r).takeWhile isAtomChar, ?_⟩
  rw [word?, hquote, Option.none_or, atom?]
  split
  · next hnone => rw [List.cons_append, List.takeWhile_cons_of_pos hc] at hnone; cases hnone
  · rw [List.cons_append, List.dropWhile_cons_of_pos hc, dropWhile_append_cons (by decide)]

lemma piece?_append {c : Char} (hc : isAtomChar c) (v r : List Char) :
    ∃ w, piece? (c :: v ++ ' ' :: r) = some (w, v.dropWhile isAtomChar ++ ' ' :: r) := by
  rw [piece?.eq_def]
  split
  · next heq =>
      obtain ⟨rfl, -⟩ := List.cons.inj heq
      exact absurd hc (by decide)
  · exact word?_append hc v r

/-- Atoms and blanks in front of the opening bracket are passed over, and the bracket is left. -/
lemma phraseRest_append {fuel : ℕ} {w : List Char} (hfuel : w.length ≤ fuel)
    (hw : w.all isUnquoted) (r : List Char) :
    skipSpace (phraseRest fuel (w ++ ' ' :: '<' :: r)).2 = '<' :: r := by
  have hbracket : skipSpace (' ' :: '<' :: r) = '<' :: r := rfl
  induction fuel generalizing w with
  | zero =>
      obtain rfl := List.length_eq_zero_iff.mp (Nat.le_zero.mp hfuel)
      exact hbracket
  | succ fuel ih =>
      have hskip : skipSpace (w ++ ' ' :: '<' :: r) =
          if w.dropWhile isSpace = [] then '<' :: r
          else w.dropWhile isSpace ++ ' ' :: '<' :: r := by
        rw [skipSpace, List.dropWhile_append]
        simp only [List.isEmpty_iff]
        rfl
      by_cases hblank : w.dropWhile isSpace = []
      · have hnone : piece? ('<' :: r) = none := rfl
        rw [if_pos hblank] at hskip
        rw [phraseRest, hskip, hnone]
        exact hskip
      · -- an atom comes first, and the rest is shorter
        obtain ⟨c, v, hcv⟩ := List.exists_cons_of_ne_nil hblank
        have hspace : ¬ isSpace c := by
          have hhead := List.head_dropWhile_not isSpace hblank
          simp only [hcv, List.head_cons] at hhead
          simp [hhead]
        have hall : (c :: v).all isUnquoted := hcv ▸ all_dropWhile hw
        rw [List.all_cons, Bool.and_eq_true] at hall
        obtain ⟨a, hpiece⟩ := piece?_append (isAtomChar_of_isUnquoted hall.1 hspace) v ('<' :: r)
        rw [if_neg hblank, hcv] at hskip
        rw [phraseRest, hskip, hpiece]
        refine ih ?_ (all_dropWhile hall.2)
        have hlength := (List.dropWhile_suffix isSpace (l := w)).length_le
        have hshorter := (List.dropWhile_suffix isAtomChar (l := v)).length_le
        rw [hcv, List.length_cons] at hlength
        omega

/-- A blank stops the reading of an address. -/
lemma exists_dotted_append {w : List Char} (hw : w.all isUnquoted) (r : List Char) :
    ∃ a b r', dotted (w ++ ' ' :: r) = (a, b :: r') ∧ isSpace b := by
  induction w with
  | nil =>
      have hblank : isAtomChar ' ' = false := by decide
      exact ⟨[], ' ', r, dotted_cons_of_neg (by simp [hblank]), rfl⟩
  | cons c w ih =>
      rw [List.all_cons, Bool.and_eq_true] at hw
      by_cases hc : isAtomChar c
      · obtain ⟨a, b, r', hdotted, hb⟩ := ih hw.2
        refine ⟨c :: a, b, r', ?_, hb⟩
        rw [List.cons_append, dotted_cons_of_pos (by simp [hc]), hdotted]
      · have hspace : isSpace c := by simpa [isUnquoted, hc] using hw.1
        have hdot : (c == '.') = false := beq_false_of_ne (ne_of_isSpace hspace (by decide))
        exact ⟨[], c, w ++ ' ' :: r, dotted_cons_of_neg (by simp [hc, hdot]), hspace⟩

/-- A name without quotes is passed over. -/
lemma isPassed_of_isUnquoted {name : List Char} (hw : name.all isUnquoted)
    (hhead : name.head?.any isAtomChar) : IsPassed name := by
  obtain ⟨c, v, rfl⟩ : ∃ c v, name = c :: v := by
    cases name with
    | nil => cases hhead
    | cons c v => exact ⟨c, v, rfl⟩
  have hc : isAtomChar c := hhead
  have hskip : ∀ r, skipSpace (c :: v ++ r) = c :: v ++ r := fun r =>
    List.dropWhile_cons_of_neg (not_isSpace_of_isAtomChar hc)
  have hatom : ∀ r, (c :: v ++ r).head?.any isAtomChar := fun _ => hc
  refine ⟨hskip, fun r => ?_, fun r => ?_⟩
  · obtain ⟨a, b, r', hdotted, hblank⟩ := exists_dotted_append hw ('<' :: r)
    have hat : b ≠ '@' := ne_of_isSpace hblank (by decide)
    rw [spec?, dotAtom?, hskip, if_pos (hatom _), hdotted, Option.some_or]
    simp [hat]
  · obtain ⟨w, hword⟩ := word?_append hc v ('<' :: r)
    refine ⟨_, _, by rw [phrase?, hword]; rfl, phraseRest_append ?_ ?_ r⟩
    · rw [List.length_append]
      omega
    · rw [List.all_cons, Bool.and_eq_true] at hw
      exact all_dropWhile hw.2

/-! ### Names in quotes -/

/-- Quotes and backslashes may stand behind a backslash, and no others need to. -/
lemma isEscapable_of_isWritable {c : Char} (h : isWritable c)
    (hplain : ¬ (isSpace c || isQuotable c)) : isEscapable c := by
  have hne : ∀ d : Char, c ≠ d → c.toNat ≠ d.toNat := fun d hd => mt Char.toNat_inj.mp hd
  simp only [isWritable, Bool.and_eq_true, bne_iff_ne] at h
  simp only [isSpace, isQuotable, Bool.or_eq_true, Bool.and_eq_true, beq_iff_eq,
    decide_eq_true_eq, not_or] at hplain
  simp only [isEscapable, Bool.or_eq_true, Bool.and_eq_true, beq_iff_eq, decide_eq_true_eq]
  obtain ⟨⟨hzero, hreturn⟩, hfeed⟩ := h
  have hcodes : '\x00'.toNat = 0 ∧ '\r'.toNat = 13 ∧ '\n'.toNat = 10 := by decide
  have := hne _ hzero
  have := hne _ hreturn
  have := hne _ hfeed
  omega

/-- A name that can be written stands between quotes. -/
lemma isQuotedText_flatMap {name : List Char} (h : name.all isWritable) :
    IsQuotedText (name.flatMap quotedChar) := by
  induction name with
  | nil => exact .nil
  | cons c name ih =>
      rw [List.all_cons, Bool.and_eq_true] at h
      rw [List.flatMap_cons, quotedChar]
      split
      · next hplain => exact .plain hplain (ih h.2)
      · next hmarked => exact .escaped (isEscapable_of_isWritable h.1 hmarked) (ih h.2)

/-- A name in quotes is passed over. -/
lemma isPassed_of_isQuotedText {q : List Char} (h : IsQuotedText q) :
    IsPassed ('"' :: q ++ ['"']) := by
  obtain ⟨t, ht⟩ := h.exists_quotedRest? []
  have hquoted : ∀ r, quoted? ('"' :: q ++ ['"'] ++ r) = some (t, r) := fun r => by
    rw [List.append_assoc, List.singleton_append]
    exact ht r
  refine ⟨fun _ => rfl, fun r => ?_, fun r => ?_⟩
  · have hnone : dotAtom? ('"' :: q ++ ['"'] ++ ' ' :: '<' :: r) = none := rfl
    have hskip : skipSpace ('"' :: q ++ ['"'] ++ ' ' :: '<' :: r) =
      '"' :: q ++ ['"'] ++ ' ' :: '<' :: r := rfl
    rw [spec?, hnone, hskip, hquoted, Option.none_or]
    rfl
  · have hword : word? ('"' :: q ++ ['"'] ++ ' ' :: '<' :: r) = some (t, ' ' :: '<' :: r) := by
      rw [word?, hquoted, Option.some_or]
    have hfuel : ([] : List Char).length ≤ (' ' :: '<' :: r).length := Nat.zero_le _
    exact ⟨_, _, by rw [phrase?, hword]; rfl, phraseRest_append hfuel rfl r⟩

/-! ### Reading back -/

/-- A name that can be written is written, and passed over. -/
lemma exists_nameText? {name : List Char} (hname : name.all isWritable)
    (hne : name ≠ []) (hhead : ∀ c ∈ name.head?, ¬ Text.isBlank c) :
    ∃ n, nameText? name = some n ∧ IsPassed n := by
  rw [nameText?]
  split
  · next hunquoted =>
      refine ⟨name, rfl, isPassed_of_isUnquoted hunquoted ?_⟩
      obtain ⟨c, name, rfl⟩ := List.exists_cons_of_ne_nil hne
      rw [List.all_cons, Bool.and_eq_true] at hunquoted
      exact isAtomChar_of_isUnquoted hunquoted.1 (mt isBlank_of_isSpace (hhead c rfl))
  · have hbreak : ¬ name.any fun c => c == '\r' || c == '\n' := by
      rw [List.any_eq_true]
      rintro ⟨c, hc, hend⟩
      have hwritable := List.all_eq_true.mp hname c hc
      rw [Bool.or_eq_true, beq_iff_eq, beq_iff_eq] at hend
      rcases hend with rfl | rfl <;> exact absurd hwritable (by decide)
    rw [if_neg hbreak]
    exact ⟨_, rfl, isPassed_of_isQuotedText (isQuotedText_flatMap hname)⟩

/-- An address in angle brackets behind a name. -/
lemma parts?_of_isPassed {n user domain : List Char} (hn : IsPassed n) (hu : isUser user)
    (hd : IsDotAtom domain) :
    ∃ name, parts? (n ++ ' ' :: '<' :: (user ++ '@' :: (domain ++ ['>']))) =
      some (name, unquote user, domain) := by
  obtain ⟨t, r, hphrase, hskip⟩ := hn.phrase (user ++ '@' :: (domain ++ ['>']))
  have hspec := spec?_append hu hd (endsAtom_cons (c := '>') (by decide) [])
  have hangled : angled? r = some ((unquote user, domain), []) := by
    simp [angled?, hskip, hspec]
  refine ⟨some t, ?_⟩
  simp only [parts?, hn.skipped, hn.noAddress, named?, hphrase, hangled]
  rfl

/-- An address without a name. -/
lemma parts?_text {user domain : List Char} (hu : isUser user) (hd : IsDotAtom domain) :
    parts? (user ++ '@' :: domain) = some (none, unquote user, domain) := by
  have hspec := spec?_append hu hd endsAtom_nil
  rw [List.append_nil] at hspec
  simp only [parts?, skipSpace_of_isUser hu, hspec]
  rfl

/-- Nothing comes into a text by trimming. -/
lemma toList_trim_sublist (s : String) : (Text.trim s).toList.Sublist s.toList := by
  have hend : ∀ l : List Char, (Text.trimEnd l).Sublist l := fun l => by
    have := ((List.dropWhile_sublist Text.isBlank (l := l.reverse))).reverse
    rwa [List.reverse_reverse] at this
  rw [Text.trim, String.toList_ofList]
  exact (hend _).trans (List.dropWhile_sublist _)

/-- What was trimmed begins with no blank. -/
lemma not_isBlank_of_trim {s : String} {c : Char} (h : c ∈ (Text.trim s).toList.head?) :
    ¬ Text.isBlank c := by
  have hend : Text.trimEnd (Text.trimStart s.toList) <+: Text.trimStart s.toList := by
    have := List.reverse_prefix.mpr
      (List.dropWhile_suffix Text.isBlank (l := (Text.trimStart s.toList).reverse))
    rwa [List.reverse_reverse] at this
  rw [Text.trim, String.toList_ofList] at h
  have hhead : c ∈ (s.toList.dropWhile Text.isBlank).head? := by
    obtain ⟨t, ht⟩ := hend
    rw [Text.trimStart] at ht h
    rw [← ht, List.head?_append, Option.mem_def.mp h]
    rfl
  have := List.head?_dropWhile_not Text.isBlank s.toList
  rw [Option.mem_def.mp hhead] at this
  simpa using this

/-- What was read can be written, and is read again up to the blanks in the name. -/
lemma exists_parts?_text {s user domain : List Char} {name : Option (List Char)}
    (h : parts? s = some (name, user, domain)) (hu : isUser user) :
    ∃ t name', (Mailbox.mk (name.map String.ofList)
        ⟨String.ofList user, String.ofList domain⟩).text? = some t ∧
      parts? t.toList = some (name', unquote user, domain) := by
  have hd := isDotAtom_of_parts? h
  have htext : (Address.mk (String.ofList user) (String.ofList domain)).text.toList =
      user ++ '@' :: domain := by
    simp [Address.text]
  rw [text?]
  split
  · exact ⟨_, none, rfl, by rw [htext, parts?_text hu hd]⟩
  · next hne =>
      have hwritable : (Text.trim ((name.map String.ofList).getD "")).toList.all isWritable := by
        refine List.all_eq_true.mpr fun c hc => ?_
        cases name with
        | none => cases hc
        | some name =>
            refine List.all_eq_true.mp (all_isWritable_of_parts? h) c ?_
            simpa using (toList_trim_sublist _).subset hc
      obtain ⟨n, hn, hpassed⟩ := exists_nameText? hwritable hne fun c => not_isBlank_of_trim
      obtain ⟨name', hparts⟩ := parts?_of_isPassed hpassed hu hd
      refine ⟨_, name', by rw [hn]; rfl, ?_⟩
      simpa [htext] using hparts

/-- Past the grammar, it matters whether the user and the domain fit. -/
lemma isOk_parse {s : String} {user domain : List Char} {name : Option (List Char)}
    (h : parts? s.toList = some (name, user, domain)) :
    (parse s).isOk = (isUser user && isDomain domain) := by
  rw [parse, h]
  cases huser : isUser user <;> cases hdomain : isDomain domain <;>
    simp only [Address.ofParts, huser, hdomain] <;> rfl

/-- What was read, and what it was checked for. -/
lemma exists_of_mailbox_eq_ok {s : String} {r : Mailbox} (h : mailbox s = .ok r) :
    ∃ name user domain, parts? s.toList = some (name, user, domain) ∧ isUser user ∧
      isDomain domain ∧
      r = ⟨name.map String.ofList, String.ofList user, String.ofList domain⟩ := by
  have hparse : parse s = .ok r := by
    cases hs : parse s with
    | error e => rw [mailbox, hs] at h; cases h
    | ok r' => rw [mailbox, hs] at h; cases h; rfl
  cases hparts : parts? s.toList with
  | none => rw [parse, hparts] at hparse; cases hparse
  | some parts =>
      obtain ⟨name, user, domain⟩ := parts
      have hok := isOk_parse hparts
      rw [hparse, eq_comm, Except.isOk, Except.toBool, Bool.and_eq_true] at hok
      rw [parse, hparts] at hparse
      simp only [Address.ofParts, hok.1, hok.2] at hparse
      cases hparse
      exact ⟨name, user, domain, rfl, hok.1, hok.2, rfl⟩

/-- A mailbox that was read can be written. -/
lemma isSome_text?_of_mailbox {s : String} {r : Mailbox} (h : mailbox s = .ok r) :
    r.text?.isSome := by
  obtain ⟨name, user, domain, hparts, hu, -, rfl⟩ := exists_of_mailbox_eq_ok h
  obtain ⟨t, -, ht, -⟩ := exists_parts?_text hparts hu
  rw [ht]
  rfl

/-- **A mailbox that was read is read back** exactly if its user is a user without the quotes it
may have of its own. -/
theorem isReadable_iff_of_mailbox {s : String} {r : Mailbox} (h : mailbox s = .ok r) :
    r.isReadable ↔ isUser (unquote r.address.user.toList) := by
  obtain ⟨name, user, domain, hparts, hu, hd, rfl⟩ := exists_of_mailbox_eq_ok h
  obtain ⟨t, name', ht, hback⟩ := exists_parts?_text hparts hu
  rw [isReadable, ht, Option.any_some, isOk_parse hback, hd, Bool.and_true, String.toList_ofList]

/-- A mailbox that was read is read back if its user has no quotes of its own. -/
lemma isReadable_of_mailbox {s : String} {r : Mailbox} (h : mailbox s = .ok r)
    (hquote : r.address.user.toList.head? ≠ some '"') : r.isReadable := by
  rw [isReadable_iff_of_mailbox h]
  obtain ⟨name, user, domain, -, hu, -, rfl⟩ := exists_of_mailbox_eq_ok h
  rw [String.toList_ofList] at hquote ⊢
  rwa [unquote_of_isUser hu hquote]

end AccountAccess.Mail
