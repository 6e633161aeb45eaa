import Overlay.Log
import Overlay.Mailbox
import Overlay.Roster

namespace Overlay

/-!
# The switchboard

Frames for peers are queued in outboxes, one per connection. A switchboard holds the roster, the
outboxes and the copies of contacts that other code has kept, and sends by any of these routes.

* `Switchboard.send` — one payload to one contact: it is queued, or refused with a log entry
  when it is too large, or silently when the outbox is closed;
* `Switchboard.post` — one payload along a `Route`;
* `Switchboard.isReferenced` — whether any copy of a contact with a given outbox is left.
-/

/-- Roster, queues, and copies of contacts outside the roster. -/
structure Switchboard where
  /-- Who holds which place. -/
  roster : Roster := {}
  /-- The queues of encoded frames. -/
  outboxes : Std.ExtTreeMap OutboxId (Mailbox ByteArray) := ∅
  /-- Copies of contacts that other code keeps, each under a label of its own. -/
  kept : Std.ExtTreeMap String Contact := ∅
deriving Inhabited

/-- How a payload is addressed. -/
inductive Route where
  /-- To the parent. -/
  | parent
  /-- To the API client of a name. -/
  | client (name : String)
  /-- To every API client. -/
  | clients
  /-- To the contact kept under a label. -/
  | kept (label : String)
deriving DecidableEq, Inhabited, Repr

/-- What sending comes to. -/
structure Posting where
  /-- The contacts that accepted the payload, in the order in which they were tried. -/
  accepted : List Contact
  /-- The switchboard afterwards. -/
  board : Switchboard
  /-- What is logged. -/
  log : List Log.Entry

namespace Switchboard

/-! ### Outboxes -/

/-- Whether an outbox still takes frames. -/
def isOpen (b : Switchboard) (key : OutboxId) : Bool := b.outboxes[key]?.any (·.isOpen)

/-- Set up an empty outbox. -/
def openOutbox (b : Switchboard) (key : OutboxId) : Switchboard :=
  { b with outboxes := b.outboxes.insert key {} }

/-- Close an outbox; the frames in it are lost. -/
def closeOutbox (b : Switchboard) (key : OutboxId) : Switchboard :=
  { b with outboxes := b.outboxes.modify key Mailbox.close }

/-- Put a frame into an outbox. -/
def enqueue (b : Switchboard) (key : OutboxId) (frame : ByteArray) : Switchboard :=
  { b with outboxes := b.outboxes.modify key fun outbox => (outbox.post frame).2 }

/-- The frames that wait in an outbox. -/
def waiting (b : Switchboard) (key : OutboxId) : List ByteArray :=
  (b.outboxes[key]?.map (·.queued)).getD []

/-- Take all frames out of an outbox; `none` when it is closed. -/
def drain (b : Switchboard) (key : OutboxId) : Option (List ByteArray) × Switchboard :=
  if b.isOpen key then
    (some (b.waiting key),
      { b with outboxes := b.outboxes.modify key fun outbox => outbox.drain.2 })
  else
    (none, b)

/-! ### Copies of contacts -/

/-- Keep a copy of a contact under a label, in place of an earlier one. -/
def keep (b : Switchboard) (label : String) (c : Contact) : Switchboard :=
  { b with kept := b.kept.insert label c }

/-- Give up the copy kept under a label: whether there was one. -/
def release (b : Switchboard) (label : String) : Bool × Switchboard :=
  (b.kept.contains label, { b with kept := b.kept.erase label })

/-- Whether any copy of a contact with this outbox is left, in the roster or outside. -/
def isReferenced (b : Switchboard) (key : OutboxId) : Bool :=
  b.roster.contacts.any (·.outbox = key) || b.kept.values.any (·.outbox = key)

/-! ### Sending -/

/-- Send one payload to one contact. -/
def send (b : Switchboard) (c : Contact) (payload : ByteArray) : Posting :=
  match Frame.encode payload with
  | .error e => ⟨[], b, [.refused c.name e]⟩
  | .ok frame =>
    if b.isOpen c.outbox then ⟨[c], b.enqueue c.outbox frame, []⟩ else ⟨[], b, []⟩

/-- Send one payload to several contacts in turn. -/
def sendEach (b : Switchboard) (payload : ByteArray) : List Contact → Posting
  | [] => ⟨[], b, []⟩
  | c :: rest =>
    let first := b.send c payload
    let others := first.board.sendEach payload rest
    ⟨first.accepted ++ others.accepted, others.board, first.log ++ others.log⟩

/-- The contacts that a route leads to. -/
def addressees (b : Switchboard) : Route → List Contact
  | .parent => b.roster.parent.toList
  | .client name => (b.roster.client? name).toList
  | .clients => b.roster.clients.values
  | .kept label => b.kept[label]?.toList

/-- Send one payload along a route. -/
def post (b : Switchboard) (route : Route) (payload : ByteArray) : Posting :=
  b.sendEach payload (b.addressees route)

/-- Sending changes neither the roster nor the copies kept. -/
theorem send_keeps (b : Switchboard) (c : Contact) (payload : ByteArray) :
    (b.send c payload).board.roster = b.roster ∧ (b.send c payload).board.kept = b.kept := by
  unfold send
  split
  · exact ⟨rfl, rfl⟩
  · split <;> exact ⟨rfl, rfl⟩

theorem sendEach_keeps (b : Switchboard) (payload : ByteArray) (cs : List Contact) :
    (b.sendEach payload cs).board.roster = b.roster ∧
      (b.sendEach payload cs).board.kept = b.kept := by
  induction cs generalizing b with
  | nil => exact ⟨rfl, rfl⟩
  | cons c cs ih =>
    have h := send_keeps b c payload
    have h' := ih (b.send c payload).board
    exact ⟨h'.1.trans h.1, h'.2.trans h.2⟩

/-- Posting changes neither the roster nor the copies kept. -/
theorem post_keeps (b : Switchboard) (route : Route) (payload : ByteArray) :
    (b.post route payload).board.roster = b.roster ∧
      (b.post route payload).board.kept = b.kept :=
  sendEach_keeps b payload _

end Switchboard

end Overlay
