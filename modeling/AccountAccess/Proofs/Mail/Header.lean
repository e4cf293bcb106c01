import AccountAccess.Proofs.Mail.Unbroken

/-!
The header of a composed message.

* **Folding.** A `LineWriter` breaks a line only where it writes a blank next. Each of its
  operations keeps what is written folded, so `fieldText` and `fieldMailbox` are folded, whatever
  the text or the name is.
* **The header.** `textLines_text` are the lines of a message; `IsHeader` says of lines that each of
  them starts one of the fields or continues one, and that none of the fields is started twice;
  `composed_header` says that those in front of the first empty line do.
-/

namespace AccountAccess.Mail

/-! ### Writing -/

namespace LineWriter

variable {w : LineWriter}

/-- Blanks are no line ends. -/
lemma isUnbroken_blanks (n : ℕ) : IsUnbroken (List.replicate n ' ') :=
  isUnbroken_replicate (by decide) n

lemma isFolded_write (h : IsFolded w.written) {s : List Char} (hs : IsUnbroken s) :
    IsFolded (w.write s).written :=
  (h.append (isUnbroken_blanks w.pending)).append hs

/-- A new line starts with the blanks that were held back. -/
lemma isFolded_newLine_write (h : IsFolded w.written) (hpending : w.pending ≠ 0) {s : List Char}
    (hs : IsUnbroken s) : IsFolded (w.newLine.write s).written := by
  obtain ⟨n, hn⟩ := Nat.exists_eq_succ_of_ne_zero hpending
  have hline : (w.newLine.write s).written =
      w.written ++ (crlf ++ ' ' :: (List.replicate n ' ' ++ s)) := by
    simp [write, newLine, crlf, hn, List.replicate_succ]
  rw [hline]
  exact .fold h (isUnbroken_append.mpr ⟨isUnbroken_blanks n, hs⟩)

lemma isFolded_word (h : IsFolded w.written) {s : List Char} (hs : IsUnbroken s) :
    IsFolded (w.word s).written := by
  rw [word]
  split
  · next hbreak => exact isFolded_newLine_write h (by omega) hs
  · exact isFolded_write h hs

lemma isFolded_piece (h : IsFolded w.written) {s : List Char} (hs : IsUnbroken s) :
    IsFolded (w.piece s).written := by
  have hcore : IsUnbroken (s.takeWhile (· != ' ')) := hs.of_sublist (List.takeWhile_sublist _)
  show IsFolded (if _ then w else w.word _).written
  split
  · exact h
  · exact isFolded_word h hcore

lemma isFolded_pieces (h : IsFolded w.written) {ps : List (List Char)}
    (hps : ∀ p ∈ ps, IsUnbroken p) : IsFolded (ps.foldl piece w).written := by
  induction ps generalizing w with
  | nil => exact h
  | cons p ps ih =>
      obtain ⟨hp, hps⟩ := List.forall_mem_cons.mp hps
      exact ih (isFolded_piece h hp) hps

lemma isFolded_space (h : IsFolded w.written) (n : ℕ) : IsFolded (w.space n).written := h

lemma isFolded_text (h : IsFolded w.written) : IsFolded w.text :=
  h.append (isUnbroken_blanks w.pending)

end LineWriter

/-! ### Encoded words -/

/-- Base64 has no line ends. -/
lemma isUnbroken_encodedWord (s : List Char) : IsUnbroken (encodedWord s) := by
  have hsymbol : ∀ n < 64, isPlain (Base64.Alphabet.standard.symbol n) := by decide
  have hcode : ∀ b, IsUnbroken (Base64.encode .standard b) := fun b =>
    isUnbroken_of_forall (p := isPlain) (by decide)
      (Base64.forall_mem_encode .standard hsymbol b)
  have hpadding : ∀ n, IsUnbroken (List.replicate n '=') := isUnbroken_replicate (by decide)
  have hmarks : IsUnbroken "=?utf-8?b?".toList ∧ IsUnbroken "?=".toList := by decide
  exact isUnbroken_append.mpr ⟨isUnbroken_append.mpr
    ⟨hmarks.1, isUnbroken_append.mpr ⟨hcode _, hpadding _⟩⟩, hmarks.2⟩

variable {w : LineWriter}

/-- A new line starts with a blank here too: one that was held back, or one more. -/
lemma isFolded_encodedWordsFrom (h : IsFolded w.written) (fuel : ℕ) (again : Bool)
    (s : List Char) : IsFolded (encodedWordsFrom fuel again w s).written := by
  induction fuel generalizing again w s with
  | zero => exact h
  | succ fuel ih =>
      cases s with
      | nil => exact h
      | cons c s =>
          have hblank : w.pending + (if w.pending = 0 then 1 else 0) ≠ 0 := by
            split <;> omega
          rw [encodedWordsFrom]
          · refine ih ?_ _ _
            split
            · exact LineWriter.isFolded_newLine_write (w := w.space _) h hblank
                (isUnbroken_encodedWord _)
            · exact LineWriter.isFolded_write h (isUnbroken_encodedWord _)
          · simp

lemma isFolded_flush (h : IsFolded w.written) (s : List Char) : IsFolded (flush w s).written :=
  isFolded_encodedWordsFrom h _ _ _

lemma isFolded_writePieces (h : IsFolded w.written) (unplain : List Char) (ps : List (List Char)) :
    IsFolded (writePieces w unplain ps).written := by
  fun_induction writePieces w unplain ps with
  | case1 w unplain => exact isFolded_flush h unplain
  | case2 w unplain p ps hp ih =>
      have hplain : IsUnbroken p := isUnbroken_of_forall (p := isPlain) (by decide)
        (List.all_eq_true.mp hp)
      exact ih (LineWriter.isFolded_piece (isFolded_flush h unplain) hplain)
  | case3 w unplain p ps hp ih => exact ih h

/-! ### Values of fields -/

lemma isFolded_nil : IsFolded [] := .line (by decide)

/-- The value of a field that holds a text is folded, whatever the text is. -/
lemma isFolded_fieldText (field s : String) : IsFolded (fieldText field s).toList := by
  rw [fieldText, String.toList_ofList]
  exact LineWriter.isFolded_text (isFolded_writePieces isFolded_nil _ _)

/-- What stands in quotes is folded. -/
lemma isFolded_quoted (h : IsFolded w.written) {ps : List (List Char)}
    (hps : ∀ p ∈ ps, IsUnbroken p) :
    IsFolded ((ps.foldl LineWriter.piece (w.write ['"'])).write ['"']).written :=
  LineWriter.isFolded_write
    (LineWriter.isFolded_pieces (LineWriter.isFolded_write h (by decide)) hps) (by decide)

/-- The name of a mailbox is folded, whatever it is. -/
lemma isFolded_writeName (h : IsFolded w.written) (s : List Char) :
    IsFolded (writeName w s).written := by
  simp only [writeName]
  split
  · next hbare =>
      exact LineWriter.isFolded_write h (isUnbroken_of_forall (p := isBare) (by decide)
        (List.all_eq_true.mp hbare))
  split
  · next hblanks =>
      refine isFolded_quoted h fun p hp => ?_
      have hs : IsUnbroken s := isUnbroken_of_forall (by decide)
        (List.all_eq_true.mp hblanks)
      have hpart := List.sublist_flatten_of_mem hp
      rw [flatten_splitAfterBlanks] at hpart
      exact hs.of_sublist hpart
  split
  · next hescaped =>
      rw [← List.foldl_map]
      refine isFolded_quoted h fun p hp => ?_
      obtain ⟨c, hc, rfl⟩ := List.mem_map.mp hp
      have hsign : IsUnbroken [c] :=
        (isUnbroken_cons_of_pos (p := fun c => isBare c || c == ' ' || (c == '"' || c == '\\'))
          (by decide) (List.all_eq_true.mp hescaped c hc)).mpr (by decide)
      split
      · exact (isUnbroken_cons (by decide)).mpr hsign
      · exact hsign
  · exact isFolded_encodedWordsFrom h _ _ _

/-- The value of a field that holds a mailbox is folded if its address has no line end. -/
lemma isFolded_fieldMailbox (field : String) {m : Mailbox} (h : IsUnbroken m.address.text.toList) :
    IsFolded (fieldMailbox field m).toList := by
  rw [fieldMailbox, String.toList_ofList]
  refine LineWriter.isFolded_text ?_
  split
  · exact LineWriter.isFolded_write isFolded_nil h
  · next name hname =>
      have haddress : IsUnbroken ('<' :: m.address.text.toList ++ ['>']) := by
        rw [isUnbroken_append, isUnbroken_cons (by decide)]
        exact ⟨h, by decide⟩
      have hname := isFolded_writeName (w := { column := valueColumn field }) isFolded_nil
        name.toList
      exact LineWriter.isFolded_write (LineWriter.isFolded_space hname 1) haddress

/-! ### Lines of fields -/

/-- The lines of a header. -/
def headerLines (fields : List (String × String)) : List (List Char) :=
  fields.flatMap fun f => textLines (f.1 ++ ": " ++ f.2).toList

/-- The lines of a message: its header, an empty line, and its body. -/
theorem textLines_text (c : Composition) :
    textLines c.text.toList = headerLines c.fields ++ [] :: textLines c.body.toList := by
  have htext : c.text.toList =
      (c.fields.flatMap fun f => (f.1 ++ ": " ++ f.2).toList ++ crlf) ++
        (crlf ++ c.body.toList) := by
    simp [Composition.text, String.toList_join, List.flatMap_map, crlf]
  rw [htext, headerLines]
  induction c.fields with
  | nil => rfl
  | cons f fs ih =>
      rw [List.flatMap_cons, List.flatMap_cons, List.append_assoc, List.append_assoc,
        textLines_append_crlf, ih, List.append_assoc]

/-- A name is made of letters and hyphens. -/
def isFieldName (name : String) : Bool := name.toList.all fun c => c.isAlpha || c == '-'

/-- A field as it stands in a header: its value is folded. -/
def IsField (f : String × String) : Prop := isFieldName f.1 ∧ IsFolded f.2.toList

/-- A line starts the field of a name. -/
def startsField (name : String) (line : List Char) : Bool :=
  (name.toList ++ [':']).isPrefixOf line

/-- A line goes on with the field before it. -/
def isContinuation (line : List Char) : Bool := line.head?.any isSpace

/-- A name has neither blanks nor colons. -/
lemma notMem_of_isFieldName {name : String} (h : isFieldName name) {c : Char}
    (hc : (c.isAlpha || c == '-') = false) : c ∉ name.toList := fun hmem => by
  rw [List.all_eq_true.mp h c hmem] at hc
  cases hc

/-- The first line of a field starts it, and the others go on with it. -/
lemma IsField.lines {f : String × String} (h : IsField f) :
    ∃ first rest, textLines (f.1 ++ ": " ++ f.2).toList = (f.1.toList ++ ':' :: first) :: rest ∧
      IsUnbroken (f.1.toList ++ ':' :: first) ∧ ∀ l ∈ rest, IsUnbroken l ∧ l.head? = some ' ' := by
  obtain ⟨hname, hfolded⟩ := h
  have hmark : IsUnbroken (f.1.toList ++ [':', ' ']) := isUnbroken_append.mpr
    ⟨isUnbroken_of_forall (by decide) (List.all_eq_true.mp hname), by decide⟩
  obtain ⟨first, rest, hlines, hfirst, hrest⟩ := hfolded.textLines_append hmark
  refine ⟨' ' :: first, rest, ?_, ?_, hrest⟩
  · simpa using hlines
  · simpa using hfirst

/-- What stands in front of the first colon. -/
lemma takeWhile_colon {name : List Char} (h : ':' ∉ name) (s : List Char) :
    (name ++ ':' :: s).takeWhile (· != ':') = name := by
  have hname : ∀ c ∈ name, (c != ':') = true := fun c hc => by
    simpa using ne_of_mem_of_not_mem hc h
  rw [List.takeWhile_append_of_pos hname]
  simp

/-- The line that a field starts with starts no field of another name. -/
lemma startsField_append {name other : String} (hname : isFieldName name)
    (hother : isFieldName other) (s : List Char) :
    startsField other (name.toList ++ ':' :: s) = (name == other) := by
  rw [Bool.eq_iff_iff, beq_iff_eq, startsField, List.isPrefixOf_iff_prefix]
  constructor
  · rintro ⟨t, ht⟩
    have hsame := congrArg (List.takeWhile (· != ':')) ht
    rw [List.append_assoc, List.singleton_append,
      takeWhile_colon (notMem_of_isFieldName hother (by decide)),
      takeWhile_colon (notMem_of_isFieldName hname (by decide))] at hsame
    exact String.toList_injective hsame.symm
  · rintro rfl
    exact ⟨s, by simp⟩

/-- A line that goes on with a field starts none. -/
lemma not_startsField {name : String} (hname : isFieldName name) {line : List Char}
    (h : line.head? = some ' ') : ¬ startsField name line := by
  rw [startsField, List.isPrefixOf_iff_prefix]
  rintro ⟨t, rfl⟩
  have hblank := notMem_of_isFieldName hname (c := ' ') (by decide)
  cases hlist : name.toList with
  | nil => simp [hlist] at h
  | cons c cs =>
      rw [hlist] at h hblank
      simp_all

/-- Each field is started as often as its name is given. -/
lemma countP_headerLines {fields : List (String × String)} (h : ∀ f ∈ fields, IsField f)
    {name : String} (hname : isFieldName name) :
    (headerLines fields).countP (startsField name) = (fields.map Prod.fst).count name := by
  induction fields with
  | nil => rfl
  | cons f fs ih =>
      obtain ⟨hf, hfs⟩ := List.forall_mem_cons.mp h
      obtain ⟨first, rest, hlines, -, hrest⟩ := hf.lines
      have hnone : rest.countP (startsField name) = 0 :=
        List.countP_eq_zero.mpr fun l hl => not_startsField hname (hrest l hl).2
      rw [headerLines, List.flatMap_cons, hlines, List.countP_append, ← headerLines, ih hfs,
        List.map_cons, List.countP_cons, List.count_cons, hnone, startsField_append hf.1 hname]
      omega

/-! ### The header of a message -/

/-- The names of the fields of a message, in order. -/
def fieldNames : List String :=
  ["From", "To", "Subject", "Content-Type", "Content-Transfer-Encoding"]

lemma isFieldName_of_mem : ∀ name ∈ fieldNames, isFieldName name := by decide

/-- Lines that make up the fields of a message. -/
structure IsHeader (header : List (List Char)) : Prop where
  /-- No line is empty, and no character of a line end stands on a line. -/
  unbroken : ∀ line ∈ header, line ≠ [] ∧ IsUnbroken line
  /-- Each line starts one of the fields or goes on with one. -/
  belongs : ∀ line ∈ header,
    (∃ name ∈ fieldNames, startsField name line) ∨ isContinuation line
  /-- Each field is started once. -/
  once : ∀ name ∈ fieldNames, header.countP (startsField name) = 1

/-- Fields of these names make a header. -/
lemma isHeader_headerLines {fields : List (String × String)} (h : ∀ f ∈ fields, IsField f)
    (hnames : fields.map Prod.fst = fieldNames) : IsHeader (headerLines fields) := by
  -- a line belongs to one field, as the first line or as a later one
  have hline : ∀ line ∈ headerLines fields, (line ≠ [] ∧ IsUnbroken line) ∧
      ((∃ name ∈ fieldNames, startsField name line) ∨ isContinuation line) := by
    intro line hmem
    obtain ⟨f, hf, hmem⟩ := List.mem_flatMap.mp hmem
    obtain ⟨first, rest, hlines, hfirst, hrest⟩ := (h f hf).lines
    rw [hlines, List.mem_cons] at hmem
    rcases hmem with rfl | hmem
    · refine ⟨⟨by simp, hfirst⟩, .inl ⟨f.1, ?_, ?_⟩⟩
      · rw [← hnames]
        exact List.mem_map_of_mem hf
      · rw [startsField_append (h f hf).1 (h f hf).1, beq_self_eq_true]
    · obtain ⟨hunbroken, hblank⟩ := hrest line hmem
      refine ⟨⟨ne_of_apply_ne List.head? (by simp [hblank]), hunbroken⟩, .inr ?_⟩
      rw [isContinuation, hblank]
      rfl
  have hcount : ∀ name ∈ fieldNames, fieldNames.count name = 1 := by decide
  refine ⟨fun line hmem => (hline line hmem).1, fun line hmem => (hline line hmem).2, ?_⟩
  intro name hmem
  rw [countP_headerLines h (isFieldName_of_mem name hmem), hnames, hcount name hmem]

/-- The fields of a message that was composed. -/
lemma isField_headerFields {sender recipient : Mailbox} (hsender : sender.isReadable)
    (hrecipient : recipient.isReadable) (type : String) (m : Message) :
    ∀ f ∈ headerFields sender recipient type m, IsField f := by
  have hfield : ∀ name ∈ fieldNames, ∀ value : String, IsFolded value.toList →
      IsField (name, value) := fun name hname _ hvalue => ⟨isFieldName_of_mem name hname, hvalue⟩
  have hencoding : ∀ e : TransferEncoding, IsFolded e.name.toList := fun e =>
    .line (by cases e <;> decide)
  simp only [headerFields, List.forall_mem_cons, List.not_mem_nil, false_imp_iff, implies_true,
    and_true]
  exact ⟨hfield "From" (by decide) _ (isFolded_fieldMailbox _ (isUnbroken_of_isReadable hsender)),
    hfield "To" (by decide) _ (isFolded_fieldMailbox _ (isUnbroken_of_isReadable hrecipient)),
    hfield "Subject" (by decide) _ (isFolded_fieldText _ _),
    hfield "Content-Type" (by decide) _ (isFolded_fieldText _ _),
    hfield "Content-Transfer-Encoding" (by decide) _ (hencoding _)⟩

/-- **Nothing in a message gets into its header but as the value of its field.** The lines of a
message that was composed are a header, the first empty line, and lines that are written from its
body alone. -/
theorem composed_header {sender : Mailbox} {m : Message} {c : Composition}
    (h : compose sender m = .ok c) :
    ∃ header, textLines c.text.toList = header ++ [] :: textLines (relayText m.body).toList ∧
      c.text.toList = header.flatMap (· ++ crlf) ++ (crlf ++ (relayText m.body).toList) ∧
      IsHeader header := by
  obtain ⟨type, recipient, -, -, hsender, hrecipient, rfl⟩ := exists_of_compose_eq_ok h
  have hlines := textLines_text ⟨headerFields sender recipient type m, relayText m.body⟩
  exact ⟨_, hlines, eq_of_textLines_eq hlines,
    isHeader_headerLines (isField_headerFields hsender hrecipient type m) rfl⟩

/-- A subject and a body that bring lines of their own, with a field and a body. -/
theorem composed_header_smuggled :
    let sender : Mailbox := ⟨some "FitProfi", "noreply", "fitprofi.app"⟩
    let m : Message :=
      ⟨"Ana <ana@x.com>", "Hello\r\nBcc: eve@x.com\r\n\r\nBye", "text/plain",
        "Bcc: eve@x.com\r\n\r\nBye"⟩
    mailbox "FitProfi <noreply@fitprofi.app>" = .ok sender ∧
    ∃ c, compose sender m = .ok c ∧ ∃ header,
      textLines c.text.toList = header ++ [] :: textLines (relayText m.body).toList ∧
      c.text.toList = header.flatMap (· ++ crlf) ++ (crlf ++ (relayText m.body).toList) ∧
      IsHeader header := by
  intro sender m
  have htype : MediaType.normalize m.contentType = .ok "text/plain" := by decide +kernel
  have hrecipient : mailbox m.recipient = .ok ⟨some "Ana", "ana", "x.com"⟩ := by decide +kernel
  have hsender : sender.isReadable := by decide +kernel
  have hreadable : (⟨some "Ana", "ana", "x.com"⟩ : Mailbox).isReadable := by decide +kernel
  have h : compose sender m = _ := compose_of_mailbox htype hrecipient
  rw [hsender, hreadable] at h
  exact ⟨by decide +kernel, _, h, composed_header h⟩

end AccountAccess.Mail
