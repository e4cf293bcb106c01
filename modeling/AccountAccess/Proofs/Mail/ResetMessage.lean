import AccountAccess.Mail.Message
import AccountAccess.Proofs.Credential.RoundTrip

/-!
The credential in a message that carries one.

* `Text.splitAt?` finds the first place of a mark in a text, and `Text.IsClear` says that a text has
  none, whatever is written behind it. `Text.splitAt?_append`: a mark behind a clear text is found.
* `Mail.Message.resetToken?` takes the credential out of a message as its reader does: what stands
  between the first opening and the first closing `b` tag.
* `Mail.Message.resetToken?_passwordReset`: that is the credential which was put in, for every text
  without an opening angle bracket; and no token has one (`Codec.lt_notMem_encode`).
-/

namespace AccountAccess

/-! ### Marks in a text -/

namespace Text

/-- What stands in front of the first place of a mark in a text, and what stands behind that. -/
def splitAt? (mark : List Char) : List Char → Option (List Char × List Char)
  | [] => none
  | c :: cs =>
    if mark.isPrefixOf (c :: cs) then some ([], (c :: cs).drop mark.length)
    else (splitAt? mark cs).map fun (before, behind) => (c :: before, behind)

/-- What stands between the first places of two marks. -/
def between? (opening closing text : List Char) : Option (List Char) := do
  let (before, _) ← splitAt? closing text
  let (_, found) ← splitAt? opening before
  return found

/-- No mark begins in a text, whatever is written behind the text. -/
def IsClear (mark : List Char) : List Char → Prop
  | [] => True
  | c :: cs => (¬ mark <+: c :: cs ∧ ¬ c :: cs <+: mark) ∧ IsClear mark cs

instance decidableIsClear (mark text : List Char) : Decidable (IsClear mark text) :=
  match text with
  | [] => inferInstanceAs (Decidable True)
  | _ :: cs =>
    have := decidableIsClear mark cs
    inferInstanceAs (Decidable (_ ∧ _))

variable {mark : List Char}

/-- Where neither of two texts begins with the other, what is written behind the second changes
nothing. -/
lemma not_prefix_append {text : List Char} (h : ¬ mark <+: text ∧ ¬ text <+: mark)
    (behind : List Char) : ¬ mark <+: text ++ behind ∧ ¬ text ++ behind <+: mark := by
  refine ⟨fun hmark => ?_, fun htext => h.2 ((List.prefix_append text behind).trans htext)⟩
  rcases List.prefix_or_prefix_of_prefix hmark (List.prefix_append text behind) with hleft | hright
  · exact h.1 hleft
  · exact h.2 hright

/-- Two clear texts are clear one behind the other. -/
lemma IsClear.append {first second : List Char} (hfirst : IsClear mark first)
    (hsecond : IsClear mark second) : IsClear mark (first ++ second) := by
  induction first with
  | nil => exact hsecond
  | cons c cs ih => exact ⟨not_prefix_append hfirst.1 second, ih hfirst.2⟩

/-- A text without the first character of a mark is clear. -/
lemma isClear_of_notMem {first : Char} {rest text : List Char} (h : first ∉ text) :
    IsClear (first :: rest) text := by
  induction text with
  | nil => trivial
  | cons c cs ih =>
      obtain ⟨hne, hcs⟩ : first ≠ c ∧ first ∉ cs := by simpa using h
      exact ⟨⟨fun hmark => hne (List.cons_prefix_cons.mp hmark).1,
        fun htext => hne (List.cons_prefix_cons.mp htext).1.symm⟩, ih hcs⟩

/-- A mark behind a clear text is the first one. -/
theorem splitAt?_append {before : List Char} (h : IsClear mark before) (hmark : mark ≠ [])
    (behind : List Char) : splitAt? mark (before ++ (mark ++ behind)) = some (before, behind) := by
  induction before with
  | nil =>
      obtain ⟨c, cs, rfl⟩ := List.exists_cons_of_ne_nil hmark
      have hhere : (c :: cs).isPrefixOf (c :: (cs ++ behind)) = true :=
        List.isPrefixOf_iff_prefix.mpr (List.prefix_append (c :: cs) behind)
      rw [List.nil_append, List.cons_append, splitAt?, if_pos hhere]
      simp
  | cons c cs ih =>
      have hnot : ¬ mark.isPrefixOf (c :: (cs ++ (mark ++ behind))) := by
        rw [List.isPrefixOf_iff_prefix]
        exact (not_prefix_append h.1 (mark ++ behind)).1
      rw [List.cons_append, splitAt?, if_neg hnot, ih h.2]
      rfl

/-- What is written between two marks is found, unless a mark begins before its place. -/
lemma between?_append {opening closing head text : List Char} (hopening : IsClear opening head)
    (hclosing : IsClear closing (head ++ (opening ++ text))) (hopening' : opening ≠ [])
    (hclosing' : closing ≠ []) (tail : List Char) :
    between? opening closing ((head ++ (opening ++ text)) ++ (closing ++ tail)) = some text := by
  rw [between?, splitAt?_append hclosing hclosing']
  show (splitAt? opening (head ++ (opening ++ text))).bind _ = _
  rw [splitAt?_append hopening hopening']
  rfl

end Text

/-! ### The credential of a message -/

namespace Mail.Message

/-- What stands between the first opening and the first closing `b` tag of a message. -/
def resetToken? (m : Message) : Option String :=
  (Text.between? "<b>".toList "</b>".toList m.body.toList).map String.ofList

/-- What stands in front of the credential and its tag. -/
def resetHead : List Char :=
  ("<h2>" ++ resetSubject ++ "</h2><p>Hello!</p>" ++
    "<p>To reset your password, use this token:</p><p>").toList

lemma toList_body_passwordReset (recipient token : String) :
    (passwordReset recipient token).body.toList =
      (resetHead ++ ("<b>".toList ++ token.toList)) ++ ("</b>".toList ++ "</p>".toList) := by
  simp [passwordReset, resetHead]

/-- A message tells the credential that it carries. -/
lemma token_eq_of_passwordReset_eq {recipient recipient' token token' : String}
    (h : passwordReset recipient token = passwordReset recipient' token') : token = token' := by
  have hbody := congrArg (fun m => m.body.toList) h
  rw [toList_body_passwordReset, toList_body_passwordReset] at hbody
  have hfront := List.append_cancel_left (List.append_cancel_right hbody)
  exact String.toList_injective (List.append_cancel_left hfront)

/-- No tag of the credential begins in front of it. -/
lemma isClear_resetHead :
    Text.IsClear "<b>".toList resetHead ∧ Text.IsClear "</b>".toList resetHead := by
  decide +kernel

/-- What was put in is taken out, unless it has an opening angle bracket. -/
theorem resetToken?_passwordReset (recipient : String) {token : String}
    (h : '<' ∉ token.toList) : (passwordReset recipient token).resetToken? = some token := by
  have hclosing : Text.IsClear "</b>".toList (resetHead ++ ("<b>".toList ++ token.toList)) :=
    isClear_resetHead.2.append (Text.IsClear.append (by decide) (Text.isClear_of_notMem h))
  rw [resetToken?, toList_body_passwordReset,
    Text.between?_append isClear_resetHead.1 hclosing (by decide) (by decide), Option.map_some,
    String.ofList_toList]

end Mail.Message

/-! ### Tokens -/

/-- No token has an opening angle bracket. -/
lemma Codec.lt_notMem_encode (codec : Codec) (c : Claims) : '<' ∉ (codec.encode c).toList := by
  have hsegment : ∀ b, '<' ∉ Base64.encode .urlSafe b := Base64.notMem_encode (by decide)
  simp [encode, signingInput, hsegment]

end AccountAccess
