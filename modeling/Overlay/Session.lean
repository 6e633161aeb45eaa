import Overlay.Host
import Overlay.Node.Run

namespace Overlay

/-!
# Sessions

A node together with the peers at the far ends of its connections, told apart by names of their
own. A session goes from action to action; each gives a result, and everything that the node
and its peers could see of it (`Observation`).
-/

namespace Session

/-- The far end of a connection. -/
structure Peer where
  /-- The connection, as the node numbers it. -/
  id : ConnectionId
  /-- The bytes from the node that make up no whole frame yet. -/
  inbound : Frame.Decoder := {}
  /-- Whether the peer has closed or reset the connection. -/
  hasLeft : Bool := false
  /-- Whether the peer has stopped looking at what the node sends. -/
  isBlind : Bool := false
deriving Inhabited

/-- What is done next. -/
inductive Action where
  /-- A new peer connects from `address` and, if a name is given, declares it. -/
  | connect (peer address : String) (declared : Option ByteArray)
  /-- A peer sends one frame. -/
  | frame (peer : String) (payload : ByteArray)
  /-- A peer sends bytes. -/
  | raw (peer : String) (bytes : ByteArray)
  /-- A peer ends its stream, reads to the end of the node's, and goes away. -/
  | close (peer : String)
  /-- A peer resets the connection. -/
  | reset (peer : String)
  /-- Other code sends a payload. -/
  | post (route : Route) (payload : ByteArray)
  /-- Other code keeps a copy of the contact that a route leads to. -/
  | keep (route : Route) (label : String)
  /-- Other code asks whether a kept contact is closed. -/
  | keptClosed (label : String)
  /-- Other code gives up a kept contact. -/
  | release (label : String)
  /-- The subscriber to events goes away. -/
  | detachEvents
  /-- The subscriber to messages goes away. -/
  | detachMessages
  /-- The listener is stopped. -/
  | stopListener
  /-- The listener is made to fail. -/
  | breakListener
  /-- A second listener is opened at the address of the first, and given up at once. -/
  | bindAgain
  /-- Nothing is done. -/
  | wait
deriving Inhabited

/-- What an action comes to. -/
inductive Result where
  /-- The node has been started. -/
  | started
  /-- What was asked for was done. -/
  | ok
  /-- The peer could not connect. -/
  | connectFailed (fault : IoFault)
  /-- One end of the peer's connection is gone. -/
  | peerClosed
  /-- There never was such a peer. -/
  | noPeer
  /-- Yes or no. -/
  | flag (value : Bool)
  /-- How many contacts accepted a payload. -/
  | count (value : Nat)
  /-- A failure of the node. -/
  | failure (cause : Failure)
  /-- Nothing to report. -/
  | nothing
deriving DecidableEq, Inhabited

/-- What reached a peer. -/
structure Received where
  /-- The payloads of the frames. -/
  frames : List ByteArray
  /-- Whether the node ended its stream. -/
  ended : Bool

/-- Everything that could be seen of one action. -/
structure Observation where
  /-- What the action came to. -/
  result : Result
  /-- Who holds which place afterwards. -/
  roster : Roster
  /-- What was logged. -/
  log : List Log.Entry
  /-- What the subscriber to events got. -/
  events : List Lifecycle.Event
  /-- What the subscriber to messages got. -/
  messages : List Message
  /-- What reached the peers; those that nothing reached are left out. -/
  received : List (String × Received)

end Session

/-- A node, its peers, and the machine they run on. -/
structure Session where
  /-- The machine. -/
  host : Host
  /-- Where the node listens. -/
  address : String
  /-- The node. -/
  node : Node
  /-- The peers by name. -/
  peers : Std.ExtTreeMap String Session.Peer := ∅
  /-- Whether the subscriber to events is still there. -/
  hasEvents : Bool := true
  /-- Whether the subscriber to messages is still there. -/
  hasMessages : Bool := true

namespace Session

/-! ### Peers -/

/-- Note in what a step of the node shows to a peer. -/
def look (name : String) (p : Peer) (s : Step) : Peer × Option (String × Received) :=
  if p.isBlind then
    (p, none)
  else
    let (result, inbound) := p.inbound.feed (s.bytesTo p.id)
    let frames := result.toOption.getD []
    let ended := s.hangsUpOn p.id
    ({ p with inbound },
      if frames.isEmpty && !ended then none else some (name, ⟨frames, ended⟩))

/-- Let every peer see a step of the node, and hand everything out. -/
def observe (s : Session) (result : Result) (step : Step) : Observation × Session :=
  let seen := s.peers.toList.map fun (name, p) => (name, look name p step)
  let (events, bus) := step.node.bus.drain
  let (messages, mailbox) := step.node.messages.drain
  ({ result
     roster := step.node.board.roster
     log := step.log
     events
     messages
     received := seen.filterMap (·.2.2) },
   { s with
     node := { step.node with bus, messages := mailbox }
     peers := seen.foldl (fun peers entry => peers.insert entry.1 entry.2.1) s.peers })

/-! ### Actions -/

/-- A new peer connects. -/
def connect (s : Session) (peer address : String) (declared : Option ByteArray) :
    Result × Session × Step :=
  match s.host.connect s.node.listening with
  | .error fault => (.connectFailed fault, s, s.node.idle)
  | .ok () =>
    let id := s.node.nextId
    let greeted := s.node.step (.connect address none)
    let introduced :=
      match declared with
      | none => greeted
      | some name => greeted.andThen (·.step (.receive id (Frame.wire name)))
    (.ok, { s with peers := s.peers.insert peer { id } }, introduced)

/-- A peer sends bytes, if both ends of its connection are there. -/
def sendBytes (s : Session) (peer : String) (bytes : ByteArray) : Result × Session × Step :=
  match s.peers[peer]? with
  | none => (.noPeer, s, s.node.idle)
  | some p =>
    if p.hasLeft || s.node.stage p.id = .finished then (.peerClosed, s, s.node.idle)
    else (.ok, s, s.node.step (.receive p.id bytes))

/-- A peer leaves, which the node notices by `input`. -/
def depart (s : Session) (peer : String) (isBlind : Bool)
    (input : ConnectionId → Node.Input) : Result × Session × Step :=
  match s.peers[peer]? with
  | none => (.noPeer, s, s.node.idle)
  | some p =>
    if p.hasLeft then (.peerClosed, s, s.node.idle)
    else
      (.ok, { s with peers := s.peers.insert peer { p with hasLeft := true, isBlind } },
        s.node.step (input p.id))

/-- Other code sends a payload: a count for many addressees, yes or no for one. -/
def post (s : Session) (route : Route) (payload : ByteArray) : Result × Session × Step :=
  let step := s.node.step (.post route payload)
  let accepted := step.postings.length
  match route with
  | .clients => (.count accepted, s, step)
  | .kept label =>
    (if s.node.board.kept.contains label then .flag (0 < accepted) else .nothing, s, step)
  | _ => (.flag (0 < accepted), s, step)

/-- What an action does, before anybody looks. -/
def perform (s : Session) : Action → Result × Session × Step
  | .connect peer address declared => s.connect peer address declared
  | .frame peer payload => s.sendBytes peer (Frame.wire payload)
  | .raw peer bytes => s.sendBytes peer bytes
  | .close peer => s.depart peer false .close
  | .reset peer => s.depart peer true (.fail · .connectionReset)
  | .post route payload => s.post route payload
  | .keep route label =>
    (.flag (!(s.node.board.addressees route).isEmpty), s, s.node.step (.keep route label))
  | .keptClosed label =>
    (match s.node.board.kept[label]? with
      | none => .nothing
      | some c => .flag (!s.node.board.isOpen c.outbox),
     s, s.node.idle)
  | .release label =>
    (.flag (s.node.board.kept.contains label), s, s.node.step (.release label))
  | .detachEvents =>
    (.flag s.hasEvents, { s with hasEvents := false }, s.node.step .detachEvents)
  | .detachMessages =>
    (.flag s.hasMessages, { s with hasMessages := false }, s.node.step .detachMessages)
  | .stopListener => (.flag s.node.listening, s, s.node.step .stopListening)
  | .breakListener =>
    if s.node.listening then
      let failure : Failure := .accept .invalidArgument
      (.failure failure, s,
        (s.node.report [.listenerFailed failure]).andThen (·.step .stopListening))
    else
      (.nothing, s, s.node.idle)
  | .bindAgain =>
    if s.node.listening then
      let failure : Failure := .listen s.address .addressInUse
      (.failure failure, s, s.node.report [.listenerFailed failure])
    else
      (.ok, s, s.node.report [.listening s.node.localName s.address])
  | .wait => (.nothing, s, s.node.idle)

/-- Do what an action says and see what comes of it. -/
def act (s : Session) (a : Action) : Observation × Session :=
  let (result, s, step) := s.perform a
  s.observe result step

/-- Do several actions in turn. -/
def actEach (s : Session) : List Action → List Observation
  | [] => []
  | a :: rest => (s.act a).1 :: (s.act a).2.actEach rest

/-- Start a node that listens at `address`, and do several actions in turn. -/
def play (host : Host) (address : String) (node : Node) (actions : List Action) :
    List Observation :=
  let s : Session := { host, address, node }
  let (first, s) := s.observe .started (node.report [.listening node.localName address])
  first :: s.actEach actions

end Session

end Overlay
