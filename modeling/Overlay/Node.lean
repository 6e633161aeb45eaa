import Overlay.Frame.Reader
import Overlay.Subscribers
import Overlay.Switchboard

namespace Overlay

/-!
# Nodes

The state of a node, and what it does that can be seen from outside.

* `Connection` — one accepted connection: how far it has come, the bytes that wait for the rest
  of their frame, and whether the node still has its sending side open;
* `Node` — the connections, the switchboard and the two subscribers;
* `Effect` — one visible act of a node, in the order in which a node acts;
* `Step` — a node and the effects that led to it; steps are joined by `Step.andThen`.
-/

/-- How far a connection has come. -/
inductive Stage where
  /-- The node has greeted its peer and waits for the peer's name. -/
  | introducing
  /-- The peer has taken its place, and its frames are handled. -/
  | serving (role : Role)
  /-- The node has closed the connection. -/
  | finished
deriving DecidableEq, Inhabited, Repr

/-- One accepted connection. -/
structure Connection where
  /-- Where the peer is. -/
  address : String
  /-- How far the connection has come. -/
  stage : Stage
  /-- The bytes received that belong to no whole frame yet. -/
  inbound : Frame.Decoder := {}
  /-- Why writing to the peer fails, if it does. -/
  fault : Option IoFault := none
  /-- Whether the node's sending side is open. -/
  sending : Bool := true
deriving DecidableEq, Inhabited

/-- One visible act of a node. -/
inductive Effect where
  /-- The node writes to its log, for the connection `source` if it is about one. -/
  | logged (source : Option ConnectionId) (e : Log.Entry)
  /-- A connection takes the place of its role. -/
  | entered (id : ConnectionId) (role : Role)
  /-- A connection leaves the place of its role, or finds that it has lost it. -/
  | left (id : ConnectionId) (role : Role)
  /-- The node announces an event of a connection on its bus. -/
  | published (id : ConnectionId) (e : Lifecycle.Event)
  /-- The node hands a frame of a connection to its handler. -/
  | handled (id : ConnectionId) (m : Message)
  /-- The node accepts a payload for a connection. -/
  | accepted (id : ConnectionId) (payload : ByteArray)
  /-- The node writes bytes to a connection. -/
  | sent (id : ConnectionId) (bytes : ByteArray)
  /-- The node closes its sending side of a connection. -/
  | hungUp (id : ConnectionId)
deriving DecidableEq, Inhabited

/-- A node. -/
structure Node where
  /-- The node's own name, with which it greets every peer. -/
  localName : String
  /-- What is done with the frames of established connections. -/
  handler : Handler
  /-- Where events go. -/
  bus : Bus
  /-- Where the handler passes messages on to. -/
  messages : Mailbox Message := {}
  /-- How many messages the handler was given. -/
  calls : Nat := 0
  /-- Whether new connections are accepted. -/
  listening : Bool := true
  /-- The number of the next connection. -/
  nextId : ConnectionId := 1
  /-- The roster and the queues of outgoing frames. A connection's outbox has its number. -/
  board : Switchboard := {}
  /-- Every connection accepted so far. -/
  connections : Std.ExtTreeMap ConnectionId Connection := ∅

/-- A node, and what it did to get there. -/
structure Step where
  /-- The node afterwards. -/
  node : Node
  /-- What it did, in order. -/
  effects : List Effect := []

namespace Step

/-- Go on from where a step has led. -/
def andThen (s : Step) (next : Node → Step) : Step :=
  let t := next s.node
  ⟨t.node, s.effects ++ t.effects⟩

@[simp] theorem node_andThen (s : Step) (next : Node → Step) :
    (s.andThen next).node = (next s.node).node := rfl

@[simp] theorem effects_andThen (s : Step) (next : Node → Step) :
    (s.andThen next).effects = s.effects ++ (next s.node).effects := rfl

theorem andThen_assoc (s : Step) (f g : Node → Step) :
    (s.andThen f).andThen g = s.andThen fun n => (f n).andThen g := by
  simp [andThen, List.append_assoc]

/-- What a step logs. -/
def log (s : Step) : List Log.Entry :=
  s.effects.filterMap fun
    | .logged _ e => some e
    | _ => none

/-- The events that a step announces. -/
def events (s : Step) : List Lifecycle.Event :=
  s.effects.filterMap fun
    | .published _ e => some e
    | _ => none

/-- The payloads that a step accepts, each with the connection it is for. -/
def postings (s : Step) : List (ConnectionId × ByteArray) :=
  s.effects.filterMap fun
    | .accepted id payload => some (id, payload)
    | _ => none

/-- The bytes that a step writes to a connection. -/
def bytesTo (s : Step) (id : ConnectionId) : ByteArray :=
  s.effects.foldl (fun bytes e =>
    match e with
    | .sent id' more => if id' = id then bytes ++ more else bytes
    | _ => bytes) .empty

/-- Whether a step closes the node's sending side of a connection. -/
def hangsUpOn (s : Step) (id : ConnectionId) : Bool := s.effects.contains (.hungUp id)

end Step

namespace Node

/-- A node to which no connection has come yet. -/
def fresh (localName : String) (handler : Handler) (bus : Bus) : Node :=
  { localName, handler, bus }

/-- Do nothing. -/
def idle (n : Node) : Step := ⟨n, []⟩

/-- Write to the log. -/
def report (n : Node) (entries : List Log.Entry) : Step := ⟨n, entries.map (.logged none)⟩

/-- Write to the log for a connection. -/
def reportOn (n : Node) (id : ConnectionId) (entries : List Log.Entry) : Step :=
  ⟨n, entries.map (.logged (some id))⟩

/-- Change what is known of a connection. -/
def update (n : Node) (id : ConnectionId) (change : Connection → Connection) : Node :=
  { n with connections := n.connections.modify id change }

/-- How far a connection has come; one that was never accepted counts as finished. -/
def stage (n : Node) (id : ConnectionId) : Stage :=
  (n.connections[id]?.map (·.stage)).getD .finished

/-- The address of a connection. -/
def address (n : Node) (id : ConnectionId) : String :=
  (n.connections[id]?.map (·.address)).getD ""

end Node

end Overlay
