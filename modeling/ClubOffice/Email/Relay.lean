import ClubOffice.Email.Mailbox
import ClubOffice.Fault

/-!
# Sending mail

Mail goes to a relay from one sender, or to the console. The sender is read when the relay is set
up, and every recipient when mail is sent to it. A letter holds both in their written forms, and
whoever carries it goes by what can be read there.
-/

namespace ClubOffice.Email

/-- A relay, by the sender of its mail. -/
structure Relay where
  sender : Mailbox
deriving DecidableEq, Repr

/-- Why mail was not sent: the recipient is no mailbox, the letter does not tell where it comes from
or where it goes, or the relay did not take it, for a cause that may be known. -/
inductive Unsent
  | recipient (flaw : Mailbox.Flaw)
  | noSource
  | noDestination
  | notTaken (cause : Option String)
deriving DecidableEq, Repr

def Unsent.fault (recipient : String) : Unsent → Fault
  | .recipient flaw => .validation s!"invalid recipient address '{recipient}': {flaw.message}"
  | .noSource => .internal "failed to build email: missing source address, invalid envelope"
  | .noDestination =>
      .internal "failed to build email: missing destination address, invalid envelope"
  | .notTaken none => .internal s!"failed to send email to '{recipient}'"
  | .notTaken (some cause) => .internal s!"failed to send email to '{recipient}': {cause}"

namespace Relay

def make (sender : String) : Except Fault Relay :=
  match Mailbox.read sender with
  | .ok mailbox => .ok ⟨mailbox⟩
  | .error flaw => .error (.validation s!"invalid SMTP sender address '{sender}': {flaw.message}")

def reread (mailbox : Mailbox) (unreadable : Unsent) : Except Unsent Mailbox :=
  (Mailbox.read mailbox.text).mapError fun _ => unreadable

/-- Sends mail to a recipient, when `transport` says what becomes of mail from one mailbox to
another. -/
def send (relay : Relay) (recipient : String)
    (transport : (source destination : Mailbox) → Except (Option String) Unit) :
    Except Unsent Unit := do
  let mailbox ← (Mailbox.read recipient).mapError .recipient
  let source ← reread relay.sender .noSource
  let destination ← reread mailbox .noDestination
  (transport source destination).mapError .notTaken

end Relay

/-- Shows mail on the console, which always works. -/
def showOnConsole (_recipient _subject _body : String) (_html : Option String) :
    Except Fault Unit := .ok ()

end ClubOffice.Email
