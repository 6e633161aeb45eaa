import Overlay.Node.Connection
import Overlay.Writer

namespace Overlay.Node

/-!
# Runs of a node

What happens to a node is a list of inputs. After each of them the node works until nothing is
left to do (`settle`): every writer writes the frames that wait for its peer, and a writer to
whom nobody can send any more ends, which its peer sees as the end of the stream. Reading goes
on all the same.

* `react` — what one input does at once;
* `step` — the same, and then everything that follows from it;
* `run` — a whole run.
-/

/-! ### Writers -/

/-- Let the writer of a connection work until it is idle or has ended. -/
def flush (n : Node) (id : ConnectionId) : Step :=
  match n.connections[id]?, n.stage id with
  | some c, .serving role =>
    match n.board.drain id with
    | (none, _) => n.idle
    | (some frames, board) =>
      let d := deliver role.name c.fault frames
      let written : Step :=
        ⟨{ n with board }, d.written.map (.sent id) ++ d.log.map (.logged (some id))⟩
      if d.survives && board.isReferenced id then written
      else
        written.andThen fun n => { n with board := n.board.closeOutbox id }.hangUp id
  | _, _ => n.idle

/-- Let the writers of several connections work in turn. -/
def flushEach (n : Node) : List ConnectionId → Step
  | [] => n.idle
  | id :: rest => (n.flush id).andThen (·.flushEach rest)

/-- Let every writer work until it is idle or has ended. -/
def settle (n : Node) : Step := n.flushEach n.connections.keys

/-! ### Inputs -/

/-- What can happen to a node. -/
inductive Input where
  /-- A connection comes in; `fault` is why writing to it fails, if it does. -/
  | connect (address : String) (fault : Option IoFault)
  /-- Bytes arrive on a connection. -/
  | receive (id : ConnectionId) (bytes : ByteArray)
  /-- The peer of a connection ends its stream. -/
  | close (id : ConnectionId)
  /-- Reading from a connection fails. -/
  | fail (id : ConnectionId) (fault : IoFault)
  /-- From now on writing to a connection fails. -/
  | impair (id : ConnectionId) (fault : IoFault)
  /-- Other code sends a payload. -/
  | post (route : Route) (payload : ByteArray)
  /-- Other code keeps a copy of the contact that a route leads to. -/
  | keep (route : Route) (label : String)
  /-- Other code gives up the copy kept under a label. -/
  | release (label : String)
  /-- The subscriber to events goes away. -/
  | detachEvents
  /-- The subscriber to messages goes away. -/
  | detachMessages
  /-- The listener stops accepting. Established connections go on. -/
  | stopListening
deriving DecidableEq, Inhabited

/-- Other code sends a payload. -/
def post (n : Node) (route : Route) (payload : ByteArray) : Step :=
  let p := n.board.post route payload
  ⟨{ n with board := p.board },
    p.accepted.map (fun c => .accepted c.id payload) ++ p.log.map (.logged none)⟩

/-- Other code keeps a copy of the contact that a route leads to, if it leads to one. -/
def keep (n : Node) (route : Route) (label : String) : Node :=
  match n.board.addressees route with
  | [] => n
  | c :: _ => { n with board := n.board.keep label c }

/-- What an input does at once. -/
def react (n : Node) : Input → Step
  | .connect address fault => if n.listening then n.accept address fault else n.idle
  | .receive id bytes => n.receive id bytes
  | .close id => n.endOfStream id
  | .fail id fault => n.breakOff id (.io fault)
  | .impair id fault => (n.update id ({ · with fault := some fault })).idle
  | .post route payload => n.post route payload
  | .keep route label => (n.keep route label).idle
  | .release label => { n with board := (n.board.release label).2 }.idle
  | .detachEvents => { n with bus := n.bus.detach }.idle
  | .detachMessages => { n with messages := n.messages.close }.idle
  | .stopListening => { n with listening := false }.idle

/-- Everything that follows from an input. -/
def step (n : Node) (i : Input) : Step := (n.react i).andThen settle

/-- Everything that follows from a list of inputs. -/
def run (n : Node) : List Input → Step
  | [] => n.idle
  | i :: rest => (n.step i).andThen (·.run rest)

/-- A run can be cut anywhere. -/
theorem run_append (n : Node) (is js : List Input) :
    n.run (is ++ js) = (n.run is).andThen (·.run js) := by
  induction is generalizing n with
  | nil => simp [run, idle, Step.andThen]
  | cons i is ih =>
    simp only [List.cons_append, run, Step.andThen_assoc]
    congr 1
    funext n'
    exact ih n'

end Overlay.Node
