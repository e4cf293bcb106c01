import AccountAccess.Failure

/-!
Messages to be sent, the one that carries a reset credential, and why mail is not sent.
-/

namespace AccountAccess.Mail

/-- A message, apart from who sends it. -/
structure Message where
  /-- The mailbox of the recipient. -/
  recipient : String
  subject : String
  /-- The media type of the body, such as `text/html`. -/
  contentType : String
  body : String
  deriving DecidableEq, Repr

namespace Message

/-- The subject of a message that carries a reset credential. -/
def resetSubject : String := "FitProfi: reset password"

/-- The message that carries a reset credential; the credential stands between the only `b` tags. -/
def passwordReset (recipient token : String) : Message where
  recipient := recipient
  subject := resetSubject
  contentType := "text/html"
  body := "<h2>" ++ resetSubject ++ "</h2><p>Hello!</p>" ++
    "<p>To reset your password, use this token:</p><p><b>" ++ token ++ "</b></p>"

end Message

/-! ### Failure -/

/-- Why mail is not sent. -/
inductive MailError where
  /-- The settings of the relay are unfit. -/
  | configuration (reason : String)
  /-- A sender or recipient is no mailbox. -/
  | address (reason : String)
  /-- The message cannot be composed. -/
  | composition (reason : String)
  /-- The relay did not take the message. -/
  | sending (reason : String)
  deriving DecidableEq, Repr

namespace MailError

/-- The wording. -/
def message : MailError → String
  | configuration m => "Invalid configuration: " ++ m
  | address m => "Invalid address: " ++ m
  | composition m => "Failed to build message: " ++ m
  | sending m => "Send failed: " ++ m

/-- Unfit settings are a matter of configuration, and all else of delivery. -/
def toFailure : MailError → Failure
  | configuration m => .configuration m
  | e => .delivery e.message

end MailError
end AccountAccess.Mail
