import Overlay.CommandLine
import Overlay.Session

namespace Overlay.Service

/-!
# The service

The program serves a node that is set up by settings: every message is noted in the log, and so
is every event, by a subscriber of the program's own. It goes on until it is interrupted.

* `node` — the node;
* `witness` — what the program's subscriber logs;
* `serve` — a whole run of the service, for visitors that come one after another.
-/

/-- The node that the program serves. -/
def node (s : Settings) : Node := .fresh s.name .noting .fresh

/-- What is logged when the node listens. -/
def opening (s : Settings) (address : String) : List Log.Entry :=
  [.listening s.name address, .serving CommandLine.version s.name address]

/-- What the program's own subscriber logs. -/
def witness (events : List Lifecycle.Event) : List Log.Entry :=
  events.map fun e => .witnessed e.transition e.peerName

/-- A peer that connects, sends bytes, ends its stream and goes away. -/
structure Visitor where
  /-- Where the visitor is. -/
  address : String
  /-- What it sends. -/
  bytes : ByteArray

/-- What a visitor does. -/
def Visitor.actions (v : Visitor) : List Session.Action :=
  [.connect v.address v.address none, .raw v.address v.bytes, .close v.address]

/-- What a run of the service came to. -/
structure Report where
  /-- The payloads that each visitor received. -/
  greetings : List (List ByteArray)
  /-- The log, without what the program's own subscriber wrote. -/
  log : List Log.Entry
  /-- What the program's own subscriber wrote. -/
  witnessed : List Log.Entry

/-- The first fault that kept a visitor from connecting. -/
def refusal? (seen : List Session.Observation) : Option IoFault :=
  seen.findSome? fun o =>
    match o.result with
    | .connectFailed fault => some fault
    | _ => none

/-- What reached a visitor. -/
def greetings (seen : List Session.Observation) (v : Visitor) : List ByteArray :=
  seen.flatMap fun o =>
    (o.received.filter (·.1 = v.address)).flatMap fun entry => entry.2.frames

/-- Serve visitors one after another until the interruption. -/
def serve (host : Host) (address : String) (s : Settings) (visitors : List Visitor) :
    Except IoFault Report :=
  let seen := (Session.play host address (node s) (visitors.flatMap Visitor.actions)).tail
  match refusal? seen with
  | some fault => .error fault
  | none =>
    .ok
      { greetings := visitors.map (greetings seen)
        log := opening s address ++ seen.flatMap (·.log) ++ [.stopping]
        witnessed := witness (seen.flatMap (·.events)) }

end Overlay.Service
