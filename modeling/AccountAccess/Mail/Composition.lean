import AccountAccess.Mail.Body
import AccountAccess.Mail.Message
import AccountAccess.Mail.Header
import AccountAccess.Mail.MediaType

/-!
Messages as they are handed to a relay: header fields, an empty line, and the body. The relay's
client adds the date.

* `compose` refuses a message for its media type first, then for its recipient, then for a mailbox
  that cannot be read back (`compose_of_mailbox`).
* `exists_of_compose_eq_ok`: a message that was composed has the fields `headerFields` and the body
  `relayText`, which is made from the body of the message alone.
-/

namespace AccountAccess.Mail

/-- A message in its final form. -/
structure Composition where
  /-- The names and values of the fields; a value may be folded into several lines. -/
  fields : List (String × String)
  body : String
  deriving DecidableEq, Repr

/-- The message as text. -/
def Composition.text (c : Composition) : String :=
  String.join (c.fields.map fun (name, value) => name ++ ": " ++ value ++ "\r\n") ++
    "\r\n" ++ c.body

/-- The mailbox that a text describes. -/
def mailbox (s : String) : Except MailError Mailbox :=
  (Mailbox.parse s).mapError fun e => .address (s ++ ": " ++ e.message)

/-- Brings a message into its final form. The relay is told the addresses that are read back from
the fields. A sender whose name cannot even be written gets no further than one that cannot be read
back; no mailbox that was read has such a name. -/
def compose (sender : Mailbox) (m : Message) : Except MailError Composition := do
  let type ← (MediaType.normalize m.contentType).mapError fun e =>
    MailError.composition ("content type: " ++ e.message)
  let recipient ← mailbox m.recipient
  if !sender.isReadable then
    .error (.composition "missing source address, invalid envelope")
  if !recipient.isReadable then
    .error (.composition "missing destination address, invalid envelope")
  let octets := Bytes.ofText m.body
  let encoding := TransferEncoding.choose octets
  return {
    fields := [("From", fieldMailbox "From" sender), ("To", fieldMailbox "To" recipient),
      ("Subject", fieldText "Subject" m.subject), ("Content-Type", fieldText "Content-Type" type),
      ("Content-Transfer-Encoding", encoding.name)]
    body := String.ofList (encodedBody (withLineEnds octets) encoding) }

/-! ### What is composed -/

/-- The body of a message in its final form. -/
def relayText (s : String) : String :=
  let octets := Bytes.ofText s
  String.ofList (encodedBody (withLineEnds octets) (TransferEncoding.choose octets))

/-- The fields of a message with a media type in its usual form. -/
def headerFields (sender recipient : Mailbox) (type : String) (m : Message) :
    List (String × String) :=
  [("From", fieldMailbox "From" sender), ("To", fieldMailbox "To" recipient),
    ("Subject", fieldText "Subject" m.subject), ("Content-Type", fieldText "Content-Type" type),
    ("Content-Transfer-Encoding", (TransferEncoding.choose (Bytes.ofText m.body)).name)]

/-- Where the media type and the recipient are right, it matters what can be read back. -/
theorem compose_of_mailbox {sender recipient : Mailbox} {m : Message} {type : String}
    (htype : MediaType.normalize m.contentType = .ok type)
    (hrecipient : mailbox m.recipient = .ok recipient) :
    compose sender m =
      if !sender.isReadable then
        .error (.composition "missing source address, invalid envelope")
      else if !recipient.isReadable then
        .error (.composition "missing destination address, invalid envelope")
      else .ok ⟨headerFields sender recipient type m, relayText m.body⟩ := by
  have hok : ∀ f : MediaTypeError → MailError,
      (Except.ok type : Except MediaTypeError String).mapError f = .ok type := fun _ => rfl
  simp only [compose, htype, hrecipient, hok, bind, Except.bind, pure, Except.pure]
  split <;> rfl

/-- What a message that was composed is made of. -/
theorem exists_of_compose_eq_ok {sender : Mailbox} {m : Message} {c : Composition}
    (h : compose sender m = .ok c) :
    ∃ type recipient, MediaType.normalize m.contentType = .ok type ∧
      mailbox m.recipient = .ok recipient ∧ sender.isReadable ∧ recipient.isReadable ∧
      c = ⟨headerFields sender recipient type m, relayText m.body⟩ := by
  cases htype : MediaType.normalize m.contentType with
  | error e => rw [compose, htype] at h; cases h
  | ok type =>
    cases hrecipient : mailbox m.recipient with
    | error e => rw [compose, htype, hrecipient] at h; cases h
    | ok recipient =>
      rw [compose_of_mailbox htype hrecipient] at h
      split at h
      · cases h
      · split at h
        · cases h
        · cases h
          exact ⟨type, recipient, rfl, rfl, by simp_all, by simp_all, rfl⟩

end AccountAccess.Mail
