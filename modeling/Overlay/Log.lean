import Overlay.Failure
import Overlay.Lifecycle
import Overlay.Text.Plain

namespace Overlay

/-!
# The log

Everything a node reports to its operator is one of the entries here. An entry knows how
serious it is, which part of the node it comes from, and how it reads.
-/

namespace Log

/-- How serious an entry is, most serious first. -/
inductive Level where
  | error
  | warn
  | info
  | debug
deriving DecidableEq, Inhabited, Repr

/-- The word for a level. -/
def Level.word : Level → String
  | error => "ERROR"
  | warn => "WARN"
  | info => "INFO"
  | debug => "DEBUG"

/-- A level's place among all levels; a filter lets through everything up to its own place. -/
def Level.rank : Level → Nat
  | error => 1
  | warn => 2
  | info => 3
  | debug => 4

/-- The part of a node that an entry comes from. -/
inductive Origin where
  | service
  | listener
  | handshake
  | connection
  | writer
  | events
  | handler
deriving DecidableEq, Inhabited, Repr

/-- The path by which log filters name a part. -/
def Origin.path : Origin → String
  | service => "tree_net"
  | listener => "tree_net::net::listener"
  | handshake => "tree_net::net::handshake"
  | connection => "tree_net::net::dispatch"
  | writer => "tree_net::net::peer"
  | events => "tree_net::net::events"
  | handler => "tree_net::net::handler"

/-- One report. -/
inductive Entry where
  /-- The node named `node` accepts connections at `address`. -/
  | listening (node address : String)
  /-- The listener could not be opened, or stopped. -/
  | listenerFailed (failure : Failure)
  /-- A connection came in. -/
  | accepted (peer : String)
  /-- A peer declared the close sentinel. -/
  | declined (peer : String)
  /-- The exchange of names failed. -/
  | handshakeFailed (failure : Failure)
  /-- A peer takes the place of an earlier connection. -/
  | replaced (name : String) (earlier : Nat) (address : String)
  /-- A peer has taken its place. -/
  | connected (role : Role)
  /-- A connection that ends had lost its place before. -/
  | replacedBefore (name : String) (connection : Nat)
  /-- A peer has left its place. -/
  | disconnected (name : String)
  /-- An established connection was closed by its peer. -/
  | closed (name : String)
  /-- An established connection failed. -/
  | readFailed (failure : Failure)
  /-- A payload was refused before it was queued for a peer. -/
  | refused (name : String) (error : Frame.Error)
  /-- Writing to a peer failed. -/
  | writeFailed (name : String) (fault : IoFault)
  /-- An event found no subscriber. -/
  | eventDropped (transition : Lifecycle.Transition)
  /-- A message found no subscriber. -/
  | messageDropped
  /-- A message was noted and not passed on. -/
  | noted (size : Nat) (isApi fromParent : Bool)
  /-- The service named `node` runs at `address`. -/
  | serving (version node address : String)
  /-- The service's own subscriber saw an event. -/
  | witnessed (transition : Lifecycle.Transition) (name : String)
  /-- The service was asked to stop. -/
  | stopping
deriving DecidableEq, Inhabited, Repr

namespace Entry

/-- How serious an entry is. -/
def level : Entry → Level
  | listenerFailed _ | handshakeFailed _ | readFailed _ | writeFailed .. => .error
  | replaced .. | refused .. | messageDropped => .warn
  | listening .. | declined _ | connected _ | disconnected _ | closed _ | serving ..
  | witnessed .. | stopping => .info
  | accepted _ | replacedBefore .. | eventDropped _ | noted .. => .debug

/-- Where an entry comes from. -/
def origin : Entry → Origin
  | listening .. | listenerFailed _ | accepted _ => .listener
  | declined _ => .handshake
  | handshakeFailed _ | replaced .. | connected _ | replacedBefore .. | disconnected _
  | closed _ | readFailed _ => .connection
  | refused .. | writeFailed .. => .writer
  | eventDropped _ => .events
  | messageDropped | noted .. => .handler
  | serving .. | witnessed .. | stopping => .service

/-- How an entry reads. -/
def text : Entry → String
  | listening node address => s!"[Listener] {node} listening on {address}"
  | listenerFailed failure => s!"[Listener] {failure.kind}: {failure.message}"
  | accepted peer => s!"[Listener] Accepted {peer}"
  | declined peer => s!"[Handshake] Connection closed by peer {peer}: handshake declined"
  | handshakeFailed failure => s!"[Handshake] {failure.kind}: {failure.message}"
  | replaced name earlier address =>
    s!"[Registry] {name} replaces connection #{earlier} ({address})"
  | connected role =>
    match role.rank with
    | .parent => s!"[Registry] {role.name} connected as parent"
    | .api => s!"[Registry] {role.name} connected as API client"
  | replacedBefore name connection =>
    s!"[Registry] {name} (#{connection}) was already replaced"
  | disconnected name => s!"[Registry] {name} disconnected"
  | closed name => s!"[Dispatch] {name} closed the connection"
  | readFailed failure => s!"[Dispatch] {failure.kind}: {failure.message}"
  | refused name error => s!"[Peer] Not sending to {name}: {error.message}"
  | writeFailed name fault => s!"[Peer] Write error for {name}: {fault.message}"
  | eventDropped transition => s!"[Events] No subscriber left, dropped {transition.name}"
  | messageDropped => "[Handler] Message channel closed, frame dropped"
  | noted size isApi fromParent =>
    s!"[Handler] {size} bytes (api={isApi}, from_parent={fromParent})"
  | serving version node address => s!"tree-net v{version} serving {node} on {address}"
  | witnessed transition name => s!"[Events] {transition.name} {name}"
  | stopping => "Shutting down..."

/-- An entry on one line: the level, then the text. -/
def line (e : Entry) : String := s!"{e.level.word} {e.text}"

/-- A text whose further lines are set in by four blanks. -/
def setIn (text : String) : String :=
  String.ofList (text.toList.flatMap fun c => if c = '\n' then "\n    ".toList else [c])

/-- An entry as it stands in a log file, behind its time and with a line break at its end. -/
def record (e : Entry) : String :=
  let level := e.level.word ++ "".pushn ' ' (5 - e.level.word.length)
  Text.plain s!"{level} {e.origin.path}] {setIn e.text}\n"

end Entry

end Log

end Overlay
