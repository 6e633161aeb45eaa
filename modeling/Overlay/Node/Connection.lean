import Overlay.Node

namespace Overlay.Node

/-!
# The life of a connection

A connection is greeted, introduces itself, takes its place, delivers frames and ends.

* `accept` — a new connection: it gets a number and the node's greeting;
* `receive` — bytes arrive: every frame that becomes whole is taken in order (`takeFrame`), the
  first as the peer's name, the others by the handler;
* `breakOff` — no further frame will come, for the given reason.

Taking a place is `enter`, then `announce`; losing it is `finish`, `leave`, then `announce`.
Each of these four is one critical section: the roster changes in one of them at a time, and a
connection's events lie inside the time in which it serves.
-/

/-! ### Critical sections -/

/-- Publish an event of a connection. -/
def announce (n : Node) (id : ConnectionId) (e : Lifecycle.Event) : Step :=
  let (bus, log) := n.bus.publish e
  ⟨{ n with bus }, .published id e :: log.map (.logged (some id))⟩

/-- What is logged when a peer takes its place, perhaps from an earlier connection. -/
def entering (role : Role) : Option Contact → List Log.Entry
  | none => [.connected role]
  | some earlier => [.replaced role.name earlier.id earlier.address, .connected role]

/-- A connection takes the place of its role. -/
def enter (n : Node) (id : ConnectionId) (role : Role) : Step :=
  let contact : Contact := ⟨id, role.name, n.address id, id⟩
  let (earlier, roster) := n.board.roster.install role.rank contact
  let board := { n.board.openOutbox id with roster }
  ⟨{ n with board }.update id ({ · with stage := .serving role }),
    .entered id role :: (entering role earlier).map (.logged (some id))⟩

/-- What is logged when a peer leaves; `held` says whether it still had its place. -/
def leaving (role : Role) (id : ConnectionId) (held : Bool) : List Log.Entry :=
  if held then [.disconnected role.name]
  else [.replacedBefore role.name id, .disconnected role.name]

/-- A connection leaves its place, if it still has it. -/
def leave (n : Node) (id : ConnectionId) (role : Role) : Step :=
  let (held, roster) := n.board.roster.withdraw role id
  ⟨{ n with board := { n.board with roster } },
    .left id role :: (leaving role id held).map (.logged (some id))⟩

/-- Close the node's sending side of a connection, once. -/
def hangUp (n : Node) (id : ConnectionId) : Step :=
  if n.connections[id]?.any (·.sending) then
    ⟨n.update id ({ · with sending := false }), [.hungUp id]⟩
  else
    n.idle

/-- Close a connection in both directions. Frames that wait for its peer are lost. -/
def finish (n : Node) (id : ConnectionId) : Step :=
  { n with board := n.board.closeOutbox id }.update id
      ({ · with stage := .finished, inbound := {} })
    |>.hangUp id

/-! ### From greeting to teardown -/

/-- A peer takes its place, and the node says so. -/
def register (n : Node) (id : ConnectionId) (role : Role) : Step :=
  (n.enter id role).andThen (·.announce id role.arrival)

/-- An established connection ends: it is closed, leaves its place, and the node says so. -/
def tearDown (n : Node) (id : ConnectionId) (role : Role) : Step :=
  ((n.finish id).andThen (·.leave id role)).andThen (·.announce id role.departure)

/-- The handler has been given a message, and this came of it. -/
def hand (n : Node) (id : ConnectionId) (m : Message) (outcome : Handler.Outcome) : Step :=
  ⟨{ n with messages := outcome.mailbox, calls := n.calls + 1 },
    .handled id m :: outcome.log.map (.logged (some id))⟩

/-- Hand a frame to the handler. A handler that breaks down ends the connection. -/
def dispatch (n : Node) (id : ConnectionId) (role : Role) (payload : ByteArray) : Step :=
  let m : Message := ⟨role.isApi, true, payload⟩
  let outcome := n.handler.handle n.messages m n.calls
  if outcome.broke then (n.hand id m outcome).andThen (·.tearDown id role)
  else n.hand id m outcome

/-- Take a frame from a connection: the peer's name, or a message. -/
def takeFrame (n : Node) (id : ConnectionId) (payload : ByteArray) : Step :=
  match n.stage id with
  | .introducing =>
    match Introduction.ofBytes payload with
    | .declined => (n.reportOn id [.declined (n.address id)]).andThen (·.finish id)
    | .accepted role => n.register id role
  | .serving role => n.dispatch id role payload
  | .finished => n.idle

/-- Take several frames from a connection, in order. -/
def takeFrames (n : Node) (id : ConnectionId) : List ByteArray → Step
  | [] => n.idle
  | payload :: rest => (n.takeFrame id payload).andThen (·.takeFrames id rest)

/-- What is logged when an established connection gives no further frame. -/
def parting (role : Role) : Frame.Error → Log.Entry
  | .closed => .closed role.name
  | cause => .readFailed (.reading role.name cause)

/-- A connection gives no further frame, for the reason `cause`. -/
def breakOff (n : Node) (id : ConnectionId) (cause : Frame.Error) : Step :=
  match n.stage id with
  | .introducing =>
    (n.reportOn id [.handshakeFailed (.introduction (n.address id) cause)]).andThen
      (·.finish id)
  | .serving role => (n.reportOn id [parting role cause]).andThen (·.tearDown id role)
  | .finished => n.idle

/-- Keep the bytes behind the last whole frame, unless they declare an oversized one. -/
def retain (n : Node) (id : ConnectionId) (rest : ByteArray) : Step :=
  match Frame.front rest with
  | .oversized length => n.breakOff id (.tooLarge length)
  | _ => (n.update id ({ · with inbound := ⟨rest⟩ })).idle

/-- Bytes arrive on a connection. -/
def receive (n : Node) (id : ConnectionId) (bytes : ByteArray) : Step :=
  match n.connections[id]? with
  | none => n.idle
  | some c =>
    let (frames, rest) := Frame.split (c.inbound.push bytes).buffer
    (n.takeFrames id frames).andThen fun n =>
      if n.stage id = .finished then n.idle else n.retain id rest

/-- The peer of a connection ends its stream. -/
def endOfStream (n : Node) (id : ConnectionId) : Step :=
  match n.connections[id]? with
  | none => n.idle
  | some c => n.breakOff id (Frame.Reader.endError c.inbound)

/-- Greet a new connection. A greeting that cannot be sent ends it. -/
def greet (n : Node) (id : ConnectionId) (c : Connection) : Step :=
  match Frame.encode n.localName.toUTF8, c.fault with
  | .error cause, _ =>
    (n.reportOn id [.handshakeFailed (.greeting c.address cause)]).andThen (·.finish id)
  | .ok _, some fault =>
    (n.reportOn id [.handshakeFailed (.greeting c.address (.io fault))]).andThen (·.finish id)
  | .ok frame, none => ⟨n, [.sent id frame]⟩

/-- Give a new connection the next number. -/
def arrive (n : Node) (c : Connection) : Node :=
  { n with nextId := n.nextId + 1, connections := n.connections.insert n.nextId c }

/-- A connection comes in from `address`; `fault` is why writing to it fails, if it does. -/
def accept (n : Node) (address : String) (fault : Option IoFault) : Step :=
  let c : Connection := { address, fault, stage := .introducing }
  ((n.arrive c).report [.accepted address]).andThen (·.greet n.nextId c)

end Overlay.Node
