import Overlay.Log
import Overlay.Mailbox

namespace Overlay

/-!
# Subscribers

The two seams between a node and the code that uses it. Events go to a `Bus`, frames from
established connections to a `Handler`. Neither ever waits, and a subscriber that has gone away
costs nothing but a log entry.
-/

/-! ### Events -/

/-- Where events go. -/
inductive Bus where
  /-- Nobody ever listens. -/
  | silent
  /-- One subscriber takes events from a mailbox. -/
  | channel (mailbox : Mailbox Lifecycle.Event)
deriving DecidableEq, Inhabited

namespace Bus

/-- A bus whose subscriber has taken nothing yet. -/
def fresh : Bus := channel {}

/-- Publish an event: the bus afterwards, and what is logged. -/
def publish (bus : Bus) (e : Lifecycle.Event) : Bus × List Log.Entry :=
  match bus with
  | silent => (silent, [])
  | channel mailbox =>
    match mailbox.post e with
    | (true, mailbox) => (channel mailbox, [])
    | (false, mailbox) => (channel mailbox, [.eventDropped e.transition])

/-- The subscriber takes the oldest event. -/
def take (bus : Bus) : Option Lifecycle.Event × Bus :=
  match bus with
  | silent => (none, silent)
  | channel mailbox => (mailbox.take.1, channel mailbox.take.2)

/-- The subscriber takes all events. -/
def drain (bus : Bus) : List Lifecycle.Event × Bus :=
  match bus with
  | silent => ([], silent)
  | channel mailbox => (mailbox.drain.1, channel mailbox.drain.2)

/-- The subscriber goes away. -/
def detach (bus : Bus) : Bus :=
  match bus with
  | silent => silent
  | channel mailbox => channel mailbox.close

end Bus

/-! ### Messages -/

/-- A frame from an established connection. -/
structure Message where
  /-- The frame came from an API client. -/
  isApi : Bool
  /-- The frame came in on a connection from the parent's side of the tree. -/
  fromParent : Bool
  /-- The payload of the frame. -/
  payload : ByteArray
deriving DecidableEq, Inhabited

/-- What is done with every message. -/
structure Handler where
  /-- Whether messages are passed on to a subscriber; otherwise they are only noted in the log. -/
  passesOn : Bool
  /-- Whether the handler breaks down on a message, which ends the connection it came from. The
  number says how many messages the handler was given before. -/
  breaksOn : Nat → Message → Bool

namespace Handler

/-- Passes every message on. -/
def forwarding : Handler := ⟨true, fun _ _ => false⟩

/-- Notes every message. -/
def noting : Handler := ⟨false, fun _ _ => false⟩

/-- Passes messages on, but breaks down on payloads that begin with `word`. -/
def fragile (word : String) : Handler :=
  ⟨true, fun _ m => m.payload.extract 0 word.utf8ByteSize = word.toUTF8⟩

/-- What handling a message comes to. -/
structure Outcome where
  /-- The subscriber's mailbox afterwards. -/
  mailbox : Mailbox Message
  /-- What is logged. -/
  log : List Log.Entry := []
  /-- Whether the handler broke down. -/
  broke : Bool := false

/-- Handle one message, given the subscriber's mailbox and the number of messages before. -/
def handle (h : Handler) (mailbox : Mailbox Message) (m : Message) (earlier : Nat := 0) :
    Outcome :=
  if h.breaksOn earlier m then
    { mailbox, broke := true }
  else if h.passesOn then
    match mailbox.post m with
    | (true, mailbox) => { mailbox }
    | (false, mailbox) => { mailbox, log := [.messageDropped] }
  else
    { mailbox, log := [.noted m.payload.size m.isApi m.fromParent] }

end Handler

end Overlay
