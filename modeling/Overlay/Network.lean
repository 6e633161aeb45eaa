import Overlay.Host
import Overlay.Service
import Std.Async.DNS
import Std.Async.TCP
import Std.Sync.Mutex

namespace Overlay.Network

/-!
# The network

Serving a node on real sockets. Every connection has a thread that waits for its bytes. The node
itself is shared: a thread that has something for it lets it take one step, and does what the
step says before another thread gets to it. All decisions are the node's. Every thread ends when
the service is told to stop.
-/

open Std.Async.TCP

/-! ### Faults and addresses -/

/-- The system's number for an error; the networking library counts some of them downwards from
`2 ^ 32`. -/
def systemNumber (code : UInt32) : Nat :=
  if code < 0x80000000 then code.toNat else LittleEndian.modulus - code.toNat

/-- The number in the text of an error that was turned into text on its way. -/
def codeIn? (text : String) : Option UInt32 :=
  match text.splitOn "(error code: " with
  | [_, rest] => (String.ofList (rest.toList.takeWhile Char.isDigit)).toNat?.map Nat.toUInt32
  | _ => none

/-- The fault behind an error. -/
def faultOf : IO.Error → IoFault
  | .alreadyExists _ code _ | .illegalOperation code _ | .inappropriateType _ code _
  | .interrupted _ code _ | .invalidArgument _ code _ | .noFileOrDirectory _ code _
  | .noSuchThing _ code _ | .otherError code _ | .permissionDenied _ code _
  | .protocolError code _ | .resourceBusy code _ | .resourceExhausted _ code _
  | .resourceVanished code _ | .timeExpired code _ | .unsatisfiedConstraints code _
  | .unsupportedOperation code _ | .hardwareFault code _ => .system (systemNumber code)
  | .unexpectedEof => .described "unexpected end of file"
  | .userError text =>
    match codeIn? text with
    | some code => .system (systemNumber code)
    | none => .described text

/-- Try something that can fail. -/
def attempt {α : Type} (action : IO α) : IO (Except IoFault α) := do
  match ← action.toBaseIO with
  | .ok value => return .ok value
  | .error e => return .error (faultOf e)

/-- An address for the networking library. -/
def toSocketAddress : Address → Std.Net.SocketAddress
  | .v4 octets port =>
    .v4 ⟨.ofParts (octets.getD 0 0) (octets.getD 1 0) (octets.getD 2 0) (octets.getD 3 0), port⟩
  | .v6 groups _ port => .v6 ⟨⟨Vector.ofFn fun i => groups.getD i 0⟩, port⟩

/-- An address from the networking library. -/
def ofSocketAddress : Std.Net.SocketAddress → Address
  | .v4 a => .v4 a.addr.octets.toList a.port
  | .v6 a => .v6 a.addr.segments.toList 0 a.port

/-- An address that was found for a name, with a port. -/
def withPort (port : UInt16) : Std.Net.IPAddr → Address
  | .v4 a => .v4 a.octets.toList port
  | .v6 a => .v6 a.segments.toList 0 port

/-- Find the first address that a `host:port` text names. -/
def lookUp (target : String) : IO (Except IoFault Address) := do
  match Host.resolve target, Text.cutAt ':' target.toList with
  | .ok address, _ => return .ok address
  | .error fault, [host, port] =>
    match Address.port? port, target.toList.contains '\x00' with
    | some port, false =>
      match ← attempt (Std.Async.DNS.getAddrInfo (String.ofList host) "").block with
      | .error _ => return .error fault
      | .ok found =>
        match found[0]? with
        | some address => return .ok (withPort port address)
        | none => return .error (.described "address resolved to nothing")
    | _, _ => return .error fault
  | .error fault, _ => return .error fault

/-! ### Listening -/

/-- How many connections may wait to be accepted. -/
def backlog : UInt32 := 1024

/-- Open a socket at an address. -/
def bindTo (address : Address) : IO Socket.Server := do
  let socket ← Socket.Server.mk
  socket.bind (toSocketAddress address)
  socket.listen backlog
  return socket

/-- Open the listener at a `host:port` text: the socket and its address, or why there is none. -/
def listen (target : String) : IO (Except Failure (Socket.Server × Address)) := do
  match ← lookUp target with
  | .error fault => return .error (.listen target fault)
  | .ok address =>
    match ← attempt (bindTo address) with
    | .error fault => return .error (.listen address.text fault)
    | .ok socket =>
      match ← attempt socket.getSockName with
      | .error fault => return .error (.listen address.text fault)
      | .ok own => return .ok (socket, ofSocketAddress own)

/-! ### Serving -/

/-- What the threads share. -/
structure Hub where
  /-- The node. -/
  node : Node
  /-- The sockets of the connections that the node has not closed. -/
  sockets : List (ConnectionId × Socket.Client) := []

/-- A node on the network. -/
structure Service where
  /-- What the threads share. -/
  hub : Std.Mutex Hub
  /-- Is over when every thread has to end. -/
  stop : Task Unit
  /-- Writes to the log. -/
  note : Log.Entry → IO Unit

namespace Service

/-- Wait for something unless the service is told to stop. -/
def awaitUnlessStopped {α : Type} (s : Service) (action : Std.Async.Async α) :
    IO (Except IoFault (Option α)) := do
  match ← attempt action.toIO with
  | .error fault => return .error fault
  | .ok task =>
    IO.waitAny [Task.map (fun _ => ()) task, s.stop]
    if ← IO.hasFinished task then attempt (some <$> IO.ofExcept task.get) else return .ok none

/-- Do what a step of the node says. The answer is the node after it has been told of every
socket that could not be written to. -/
def perform (s : Service) (sockets : List (ConnectionId × Socket.Client)) (node : Node) :
    List Effect → IO Node
  | [] => return node
  | effect :: rest => do
    let node ←
      match effect with
      | .logged _ e => do
        s.note e
        pure node
      | .published _ e => do
        (Overlay.Service.witness [e]).forM s.note
        pure node
      | .sent id bytes =>
        match sockets.lookup id with
        | none => pure node
        | some socket => do
          match ← attempt (socket.send bytes).block with
          | .ok () => pure node
          | .error fault => pure (node.step (.impair id fault)).node
      | .hungUp id =>
        match sockets.lookup id with
        | none => pure node
        | some socket => do
          discard (attempt socket.shutdown.block)
          pure node
      | .entered .. | .left .. | .handled .. | .accepted .. => pure node
    perform s sockets node rest

/-- Let the node take one step. -/
def advance (s : Service) (hub : Hub) (i : Node.Input) : IO Hub := do
  let step := hub.node.step i
  let node ← s.perform hub.sockets step.node step.effects
  let node := { node with bus := node.bus.drain.2, messages := node.messages.drain.2 }
  return { node, sockets := hub.sockets.filter fun entry => node.stage entry.1 != .finished }

/-- Tell the node what came in on a connection: whether the connection goes on. -/
def tell (s : Service) (id : ConnectionId) (i : Node.Input) : IO Bool :=
  s.hub.atomically do
    let hub ← s.advance (← get) i
    set hub
    return hub.node.stage id != .finished

/-- Wait for bytes on a connection until it is closed. -/
partial def attend (s : Service) (id : ConnectionId) (socket : Socket.Client) : IO Unit := do
  match ← s.awaitUnlessStopped (socket.recv? Frame.readSize.toUInt64) with
  | .ok none => return
  | .ok (some (some bytes)) => if ← s.tell id (.receive id bytes) then s.attend id socket
  | .ok (some none) => discard (s.tell id (.close id))
  | .error fault => discard (s.tell id (.fail id fault))

/-- Greet a new peer: why this was not possible, if it was not. -/
def greet (socket : Socket.Client) (localName : String) : IO (Option IoFault) := do
  match Frame.encode localName.toUTF8 with
  | .error _ => return none
  | .ok frame =>
    match ← attempt (socket.send frame).block with
    | .ok () => return none
    | .error fault => return some fault

/-- Let the node take in a new connection: its number, and whether it goes on. -/
def takeIn (s : Service) (socket : Socket.Client) (address : String) (fault : Option IoFault) :
    IO (ConnectionId × Bool) :=
  s.hub.atomically do
    let hub ← get
    let id := hub.node.nextId
    let hub ← s.advance hub (.connect address fault)
    let goesOn := hub.node.stage id != .finished
    set { hub with sockets := if goesOn then (id, socket) :: hub.sockets else hub.sockets }
    return (id, goesOn)

/-- Everything about one connection. -/
def welcome (s : Service) (localName : String) (socket : Socket.Client) : IO Unit := do
  let address := (ofSocketAddress (← socket.getPeerName)).text
  let (id, goesOn) ← s.takeIn socket address (← greet socket localName)
  if goesOn then s.attend id socket

/-- Accept connections until this fails, and then say why, or the service is told to stop. -/
partial def acceptEach (s : Service) (localName : String) (listener : Socket.Server) :
    IO (Option Failure) := do
  match ← s.awaitUnlessStopped listener.accept with
  | .ok none => return none
  | .ok (some socket) =>
    discard (IO.asTask (s.welcome localName socket) .dedicated)
    s.acceptEach localName listener
  | .error fault =>
    let failure : Failure := .accept fault
    s.note (.listenerFailed failure)
    return some failure

end Service

end Overlay.Network
