namespace Overlay

/-!
# Mailboxes

An unbounded queue between writers, who never wait, and one reader, who may go away. Once the
reader is gone the mailbox is closed for good: what was queued is lost, and nothing more is
accepted.
-/

/-- A queue with one reader. -/
structure Mailbox (α : Type) where
  /-- What was put in and not yet taken, oldest first. -/
  queued : List α := []
  /-- Whether the reader is still there. -/
  isOpen : Bool := true
deriving DecidableEq, Inhabited

namespace Mailbox

variable {α : Type}

/-- Put an item in: whether it was accepted. -/
def post (m : Mailbox α) (item : α) : Bool × Mailbox α :=
  if m.isOpen then (true, { m with queued := m.queued ++ [item] }) else (false, m)

/-- Take the oldest item. -/
def take (m : Mailbox α) : Option α × Mailbox α :=
  match m.queued with
  | [] => (none, m)
  | item :: rest => (some item, { m with queued := rest })

/-- Take everything. -/
def drain (m : Mailbox α) : List α × Mailbox α := (m.queued, { m with queued := [] })

/-- The reader goes away. -/
def close (_ : Mailbox α) : Mailbox α := ⟨[], false⟩

@[simp] theorem post_of_open {m : Mailbox α} (h : m.isOpen = true) (item : α) :
    m.post item = (true, ⟨m.queued ++ [item], true⟩) := by
  simp [post, h]

@[simp] theorem post_of_closed {m : Mailbox α} (h : m.isOpen = false) (item : α) :
    m.post item = (false, m) := by
  simp [post, h]

@[simp] theorem isOpen_close (m : Mailbox α) : m.close.isOpen = false := rfl

end Mailbox

end Overlay
