import AccountAccess.Proofs.Mail.QuotedPrintable
import AccountAccess.Proofs.Mail.ReadBack
import AccountAccess.Proofs.Mail.ResetMessage

/-!
The credential on its way through a relay.

* `TransferEncoding.choose_of_isPrintable`: a long line of visible characters and blanks is written
  in printable characters, and `withLineEnds` has nothing to do to it.
* `Message.isPrintable_passwordReset`: the body of a message that carries a token is such a line,
  however long the token is.
* `Arrives` says what a reader has of a composed message, and `arrives_of_token` that every message
  that carries a token arrives if it is composed at all.
* `Dispatch` says when it is: if its sender and its recipient are read back from what is written of
  them. `"\"ab\""@x.com` is, as `ab@x.com`, and `"\"a b\""@x.com` is not.
-/

namespace AccountAccess.Mail

/-! ### One long line -/

/-- A visible character of ASCII, or a blank. -/
def isPrintable (c : Char) : Bool := 32 ≤ c.toNat && c.toNat ≤ 126

lemma isPrintable_iff {c : Char} : isPrintable c ↔ 32 ≤ c.toNat ∧ c.toNat ≤ 126 := by
  simp [isPrintable]

/-- The octet of a printable character. -/
lemma toNat_toUInt8 {c : Char} (h : isPrintable c) : c.toUInt8.toNat = c.toNat := by
  obtain ⟨-, hc⟩ := isPrintable_iff.mp h
  show c.toNat % 256 = c.toNat
  omega

/-- A text of one line is too long if it is long. -/
lemma hasLongLine_of_notMem {b : Bytes} (h : 10 ∉ b) (column : ℕ) :
    TransferEncoding.hasLongLine column b = decide (76 ≤ column + b.length) := by
  induction b generalizing column with
  | nil => rfl
  | cons x b ih =>
      simp only [List.mem_cons, not_or] at h
      have hx : (x == 10) = false := by simpa using Ne.symm h.1
      rw [TransferEncoding.hasLongLine, hx, if_neg (by decide), ih h.2, List.length_cons]
      congr 2
      omega

/-- A text of one line has no line ends to mend. -/
lemma withLineEnds_of_notMem {b : Bytes} (h : 10 ∉ b) : withLineEnds b = b := by
  fun_induction withLineEnds b with
  | case1 => rfl
  | case2 => simp at h
  | case3 => simp_all
  | case4 x b hx hb ih => rw [ih fun hb => h (List.mem_cons_of_mem x hb)]

section

variable {cs : List Char} (h : ∀ c ∈ cs, isPrintable c)

include h

/-- Printable text has one octet a character. -/
lemma ofText_of_isPrintable : Bytes.ofText (String.ofList cs) = cs.map Char.toUInt8 :=
  Bytes.ofText_ofList_of_ascii fun c hc => by
    have := (isPrintable_iff.mp (h c hc)).2
    omega

/-- Every octet of a printable text is printable. -/
lemma forall_mem_ofText {b : UInt8} (hb : b ∈ Bytes.ofText (String.ofList cs)) :
    32 ≤ b.toNat ∧ b.toNat ≤ 126 := by
  rw [ofText_of_isPrintable h, List.mem_map] at hb
  obtain ⟨c, hc, rfl⟩ := hb
  rw [toNat_toUInt8 (h c hc)]
  exact isPrintable_iff.mp (h c hc)

/-- Printable text has one line. -/
lemma lineFeed_notMem_ofText : 10 ∉ Bytes.ofText (String.ofList cs) := fun hb =>
  absurd (forall_mem_ofText h hb).1 (by decide)

/-- **A long line of printable text is written in printable characters.** -/
theorem TransferEncoding.choose_of_isPrintable (hlong : 76 ≤ cs.length) :
    choose (Bytes.ofText (String.ofList cs)) = .quotedPrintable := by
  have hlength : (Bytes.ofText (String.ofList cs)).length = cs.length := by
    rw [ofText_of_isPrintable h, List.length_map]
  have hnone : (Bytes.ofText (String.ofList cs)).countP needsEscaping = 0 := by
    refine List.countP_eq_zero.mpr fun b hb => ?_
    obtain ⟨hlow, hhigh⟩ := forall_mem_ofText h hb
    simp [needsEscaping, UInt8.le_iff_toNat_le, hlow, hhigh]
  rw [choose, hasLongLine_of_notMem (lineFeed_notMem_ofText h), hlength, hnone]
  simp [hlong]

/-- What is written for a long line of printable text. -/
lemma relayText_of_isPrintable (hlong : 76 ≤ cs.length) :
    relayText (String.ofList cs) =
      String.ofList (QuotedPrintable.encode (Bytes.ofText (String.ofList cs))) := by
  rw [relayText, TransferEncoding.choose_of_isPrintable h hlong,
    withLineEnds_of_notMem (lineFeed_notMem_ofText h)]
  rfl

end

/-! ### The body of a message that carries a token -/

/-- Every token is printable. -/
lemma isPrintable_encode (codec : Codec) (claims : Claims) :
    ∀ c ∈ (codec.encode claims).toList, isPrintable c := by
  have hsymbol : ∀ n < 64, isPrintable (Base64.Alphabet.urlSafe.symbol n) := by decide
  have hsegment := Base64.forall_mem_encode .urlSafe (p := fun c => isPrintable c) hsymbol
  have hdot : isPrintable '.' := by decide
  simp only [Codec.encode, Codec.signingInput, String.toList_ofList, List.forall_mem_append,
    List.forall_mem_cons]
  exact ⟨⟨hsegment _, hdot, hsegment _⟩, hdot, hsegment _⟩

/-- The body of a message that carries a printable text is a long line of printable text. -/
lemma Message.isPrintable_passwordReset (recipient : String) {token : String}
    (h : ∀ c ∈ token.toList, isPrintable c) :
    (∀ c ∈ (passwordReset recipient token).body.toList, isPrintable c) ∧
      76 ≤ (passwordReset recipient token).body.toList.length := by
  have hhead : resetHead.all isPrintable ∧ 76 ≤ resetHead.length := by decide +kernel
  have hopening : "<b>".toList.all isPrintable := by decide
  have hclosing : ("</b>".toList ++ "</p>".toList).all isPrintable := by decide
  rw [toList_body_passwordReset, ← List.all_eq_true]
  refine ⟨?_, by simp only [List.length_append]; omega⟩
  rw [List.all_append, List.all_append, List.all_append, hhead.1, hopening, hclosing,
    List.all_eq_true.mpr h]
  rfl

/-! ### Arrival -/

/-- A body and the text between its tags arrive with a message in its final form. -/
structure Arrives (c : Composition) (body token : String) : Prop where
  /-- The message says how its body is written. -/
  declared : c.fields.lookup "Content-Transfer-Encoding" = some "quoted-printable"
  /-- No line of the body is too long for a relay. -/
  short : ∀ line ∈ textLines c.body.toList, line.length ≤ 76
  /-- The body is read back. -/
  decoded : (QuotedPrintable.decode? c.body.toList).bind Bytes.text? = some body
  /-- The text is what a reader finds between the first tags. -/
  found : Text.between? "<b>".toList "</b>".toList body.toList = some token.toList

/-- A composed message that carries a token brings it. -/
lemma arrives_of_token {codec : Codec} {claims : Claims} {sender : Mailbox} {recipient : String}
    {c : Composition}
    (h : compose sender (Message.passwordReset recipient (codec.encode claims)) = .ok c) :
    Arrives c (Message.passwordReset recipient (codec.encode claims)).body
      (codec.encode claims) := by
  obtain ⟨hprintable, hlong⟩ := Message.isPrintable_passwordReset recipient
    (isPrintable_encode codec claims)
  obtain ⟨type, r, -, -, -, -, rfl⟩ := exists_of_compose_eq_ok h
  have hchoose := TransferEncoding.choose_of_isPrintable hprintable hlong
  have hrelay := relayText_of_isPrintable hprintable hlong
  rw [String.ofList_toList] at hchoose hrelay
  refine ⟨?_, ?_, ?_, ?_⟩
  · rw [headerFields, hchoose]
    rfl
  · rw [hrelay, String.toList_ofList]
    exact QuotedPrintable.length_le_of_mem_textLines_encode _
  · rw [hrelay, String.toList_ofList, QuotedPrintable.decode?_encode]
    exact Bytes.text?_ofText _
  · have hfound := Message.resetToken?_passwordReset recipient (codec.lt_notMem_encode claims)
    rw [Message.resetToken?, Option.map_eq_some_iff] at hfound
    obtain ⟨found, hbetween, htoken⟩ := hfound
    rw [hbetween, ← htoken, String.toList_ofList]

/-- What becomes of a message from a sender to a recipient, with a text between its tags. -/
structure Dispatch (sender recipient : Mailbox) (m : Message) (token : String) : Prop where
  /-- It is composed exactly if both mailboxes are read back from what is written of them. -/
  composed : (∃ c, compose sender m = .ok c) ↔ sender.isReadable ∧ recipient.isReadable
  /-- A recipient is, exactly if its user without quotes of its own is a user. -/
  recipientReadable :
    recipient.isReadable ↔ Mailbox.isUser (unquote recipient.address.user.toList)
  /-- So is every recipient whose user has no quotes of its own. -/
  recipientPlain : recipient.address.user.toList.head? ≠ some '"' → recipient.isReadable
  /-- The same goes for a sender that was read, and it can be written. -/
  senderReadable : ∀ s, mailbox s = .ok sender → sender.text?.isSome ∧
    (sender.isReadable ↔ Mailbox.isUser (unquote sender.address.user.toList))
  /-- A sender that can be written and not be read back is refused. -/
  sourceMissing : sender.text?.isSome → ¬ sender.isReadable →
    compose sender m = .error (.composition "missing source address, invalid envelope")
  /-- A recipient that is not read back is refused. -/
  destinationMissing : sender.isReadable → ¬ recipient.isReadable →
    compose sender m = .error (.composition "missing destination address, invalid envelope")
  /-- Whatever is composed arrives. -/
  arrives : ∀ c, compose sender m = .ok c → Arrives c m.body token

/-- **A token arrives at every recipient that is read back**, from every sender that is, and all
other recipients and senders are refused. -/
theorem token_arrives (codec : Codec) (claims : Claims) (sender recipient : Mailbox)
    {s : String} (h : mailbox s = .ok recipient) :
    Dispatch sender recipient (Message.passwordReset s (codec.encode claims))
      (codec.encode claims) := by
  have htype : MediaType.normalize "text/html" = .ok "text/html" := rfl
  have hcompose : compose sender (Message.passwordReset s (codec.encode claims)) = _ :=
    compose_of_mailbox htype h
  refine ⟨?_, isReadable_iff_of_mailbox h, isReadable_of_mailbox h,
    fun t ht => ⟨isSome_text?_of_mailbox ht, isReadable_iff_of_mailbox ht⟩, fun _ hsender => ?_,
    fun hsender hrecipient => ?_, fun c hc => arrives_of_token hc⟩
  · rw [hcompose]
    cases sender.isReadable <;> cases recipient.isReadable <;> simp
  · rw [hcompose, if_pos (by simpa using hsender)]
  · rw [hcompose, if_neg (by simpa using hsender), if_pos (by simpa using hrecipient)]

/-- A token for user 42 arrives at a recipient with a name, and at one with quotes of its own. -/
theorem token_arrives_ana :
    let codec := Codec.ofLeeway (Bytes.ofText "0123456789abcdef0123456789abcdef") "fit-profi-api" 60
    let token := codec.encode
      ⟨none, "42", "fit-profi-api", 1709294400, 1709294400, 1709295300, 42, .user⟩
    let sender : Mailbox := ⟨some "FitProfi", "noreply", "fitprofi.app"⟩
    let m := Message.passwordReset "Ana <ana@x.com>" token
    let m' := Message.passwordReset "\"\\\"ana\\\"\"@x.com" token
    (mailbox m.recipient = .ok ⟨some "Ana", "ana", "x.com"⟩ ∧
      ∃ c, compose sender m = .ok c ∧ Arrives c m.body token) ∧
    mailbox m'.recipient = .ok ⟨none, "\"ana\"", "x.com"⟩ ∧
      ∃ c, compose sender m' = .ok c ∧ Arrives c m'.body token := by
  intro codec token sender m m'
  have h : mailbox m.recipient = .ok ⟨some "Ana", "ana", "x.com"⟩ := by
    show mailbox "Ana <ana@x.com>" = _
    decide +kernel
  have h' : mailbox m'.recipient = .ok ⟨none, "\"ana\"", "x.com"⟩ := by
    show mailbox "\"\\\"ana\\\"\"@x.com" = _
    decide +kernel
  have hsender : sender.isReadable := by decide +kernel
  have hd := token_arrives codec
    ⟨none, "42", "fit-profi-api", 1709294400, 1709294400, 1709295300, 42, .user⟩ sender _ h
  have hd' := token_arrives codec
    ⟨none, "42", "fit-profi-api", 1709294400, 1709294400, 1709295300, 42, .user⟩ sender _ h'
  obtain ⟨c, hc⟩ := hd.composed.mpr ⟨hsender, hd.recipientPlain (by decide)⟩
  obtain ⟨c', hc'⟩ := hd'.composed.mpr ⟨hsender, hd'.recipientReadable.mpr (by decide +kernel)⟩
  exact ⟨⟨h, c, hc, hd.arrives c hc⟩, h', c', hc', hd'.arrives c' hc'⟩

/-- Not every recipient that can be read gets the message: the user of this one is `"a b"`, quotes
included, and it reads as a user `a b`, which there cannot be. -/
theorem exists_recipient_without_message :
    ¬ ∀ (codec : Codec) (claims : Claims) (sender recipient : Mailbox) (s : String),
      mailbox s = .ok recipient →
        ∃ c, compose sender (Message.passwordReset s (codec.encode claims)) = .ok c := by
  intro hall
  have h : mailbox "\"\\\"a b\\\"\"@x.com" = .ok ⟨none, "\"a b\"", "x.com"⟩ := by decide +kernel
  have hunreadable : (⟨none, "\"a b\"", "x.com"⟩ : Mailbox).isReadable = false := by
    decide +kernel
  obtain ⟨c, hc⟩ := hall ⟨[], "", 0⟩ ⟨none, "", "", 0, 0, 0, 0, .user⟩
    ⟨none, "noreply", "fitprofi.app"⟩ _ _ h
  obtain ⟨type, r, -, hr, -, hreadable, -⟩ := exists_of_compose_eq_ok hc
  obtain rfl : _ = r := Except.ok.inj (h.symm.trans hr)
  rw [hunreadable] at hreadable
  cases hreadable

end AccountAccess.Mail
