import Overlay.Log
import Overlay.Mailbox

namespace Overlay

/-!
# Writers

Every established connection has a writer, which takes frames from the connection's outbox and
writes them to the peer. It ends when a write fails, when it is aborted, and when nobody is left
who could send; from then on the outbox is closed.

* `deliver` — writing waiting frames, shared by all writers;
* `Writer` — one writer with one sender, seen from the sender's side.
-/

/-- What writing the waiting frames comes to. -/
structure Delivery where
  /-- The frames written. -/
  written : List ByteArray
  /-- What is logged. -/
  log : List Log.Entry
  /-- Whether the writer goes on. -/
  survives : Bool

/-- Write frames to the peer `name`; `fault` is why writing to it fails, if it does. The first
write that fails ends the writer. -/
def deliver (name : String) (fault : Option IoFault) (frames : List ByteArray) : Delivery :=
  match fault, frames with
  | none, frames => ⟨frames, [], true⟩
  | some _, [] => ⟨[], [], true⟩
  | some fault, _ :: _ => ⟨[], [.writeFailed name fault], false⟩

/-- A writer and the one handle on its outbox. -/
structure Writer where
  /-- The peer's name. -/
  name : String
  /-- Why writing to the peer fails, if it does. -/
  fault : Option IoFault := none
  /-- The outbox. -/
  outbox : Mailbox ByteArray := {}
  /-- Whether the handle is still there. -/
  hasHandle : Bool := true
  /-- Whether the writer was aborted. -/
  aborted : Bool := false
  /-- Everything written so far. -/
  delivered : ByteArray := .empty
deriving Inhabited

namespace Writer

/-- Whether the outbox has stopped taking frames. -/
def isClosed (w : Writer) : Bool := !w.outbox.isOpen

/-- Send a payload through the handle: whether it was accepted, and what is logged. -/
def send (w : Writer) (payload : ByteArray) : Bool × Writer × List Log.Entry :=
  match Frame.encode payload with
  | .error e => (false, w, [.refused w.name e])
  | .ok frame =>
    match w.outbox.post frame with
    | (accepted, outbox) => (accepted, { w with outbox }, [])

/-- Abort the writer: whether this is the first time. -/
def abort (w : Writer) : Bool × Writer :=
  (!w.aborted, { w with aborted := true, outbox := w.outbox.close })

/-- Give up the handle: whether it was there. -/
def dropHandle (w : Writer) : Bool × Writer := (w.hasHandle, { w with hasHandle := false })

/-- Let the writer work until it is idle or has ended. -/
def settle (w : Writer) : Writer × List Log.Entry :=
  if w.outbox.isOpen then
    let d := deliver w.name w.fault w.outbox.queued
    let outbox := if d.survives && w.hasHandle then w.outbox.drain.2 else w.outbox.close
    ({ w with outbox, delivered := d.written.foldl (· ++ ·) w.delivered }, d.log)
  else
    (w, [])

end Writer

end Overlay
