import Passbook.Json.Value

/-!
# Mail messages

A message has a subject, a body in HTML and recipients. A relay accepts or rejects it.
-/
namespace Passbook

structure Message where
  subject : String
  /-- HTML -/
  content : String
  recipients : List String
deriving DecidableEq, Repr

def Message.json (message : Message) : Json.Value :=
  .object [
    ("subject", .ofString message.subject),
    ("content", .ofString message.content),
    ("to", .array (message.recipients.map .ofString))]

/-- Why a message was not handed over. -/
inductive MailFault where
  | invalidRelayUrl (reason : String)
  /-- nobody answered -/
  | unreachable
  | rejected (status : Nat)
deriving DecidableEq, Repr

def MailFault.message : MailFault → String
  | .invalidRelayUrl reason => "invalid relay URL: " ++ reason
  | .unreachable => "relay request failed"
  | .rejected status => "relay rejected message with status " ++ Decimal.text status

end Passbook
