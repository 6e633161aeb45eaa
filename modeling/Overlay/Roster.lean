import Overlay.Role
import Overlay.Text.Quoted
import Std.Data.ExtTreeMap

namespace Overlay

/-!
# The roster

Who holds which place at a node: at most one parent, and API clients by name. A newcomer takes
the place of whoever held it before. Leaving is keyed by connection, so a connection that has
lost its place cannot evict its successor.

* `Contact` — what the node knows of a connected peer, and where frames for it are queued;
* `Roster.install`, `Roster.withdraw` — taking and leaving a place;
* `Roster.parent`, `Roster.clients` — the two views; every question is answered from them.
-/

/-- Identifies one connection for the life of the process. -/
abbrev ConnectionId := Nat

/-- Identifies one queue of outgoing frames. -/
abbrev OutboxId := Nat

/-- The sending side of a connection, as the rest of the node sees it. Any number of copies may
be about. -/
structure Contact where
  /-- The connection. -/
  id : ConnectionId
  /-- The name that the peer declared. -/
  name : String
  /-- Where the peer is. -/
  address : String
  /-- The queue for frames to the peer. -/
  outbox : OutboxId
deriving DecidableEq, Inhabited, Repr

/-- A contact as it shows itself to a person. -/
def Contact.describe (c : Contact) : String :=
  "PeerHandle \x7b id: " ++ toString c.id ++ ", name: " ++ Text.quote c.name ++
    ", remote_addr: " ++ c.address ++ ", .. \x7d"

/-- Who holds which place. -/
structure Roster where
  /-- The parent. -/
  parent : Option Contact := none
  /-- The API clients by name. -/
  clients : Std.ExtTreeMap String Contact := ∅
deriving Inhabited

namespace Roster

/-! ### Taking and leaving places -/

/-- Make `c` the parent: who was it before, and the roster afterwards. -/
def setParent (r : Roster) (c : Contact) : Option Contact × Roster :=
  (r.parent, { r with parent := some c })

/-- Give up the parent's place if connection `id` holds it: whether it did. -/
def clearParentIf (r : Roster) (id : ConnectionId) : Bool × Roster :=
  if r.parent.any (·.id = id) then (true, { r with parent := none }) else (false, r)

/-- Make `c` the client of its name: who was it before, and the roster afterwards. -/
def insertClient (r : Roster) (c : Contact) : Option Contact × Roster :=
  (r.clients[c.name]?, { r with clients := r.clients.insert c.name c })

/-- Give up the place of client `name` if connection `id` holds it: whether it did. -/
def removeClientIf (r : Roster) (name : String) (id : ConnectionId) : Bool × Roster :=
  if r.clients[name]?.any (·.id = id) then
    (true, { r with clients := r.clients.erase name })
  else
    (false, r)

/-- Take the place of a rank: who held it before, and the roster afterwards. -/
def install (r : Roster) (rank : Rank) (c : Contact) : Option Contact × Roster :=
  match rank with
  | .parent => r.setParent c
  | .api => r.insertClient c

/-- Leave the place of a role, if connection `id` still holds it: whether it did. -/
def withdraw (r : Roster) (role : Role) (id : ConnectionId) : Bool × Roster :=
  match role.rank with
  | .parent => r.clearParentIf id
  | .api => r.removeClientIf role.name id

/-! ### Questions -/

/-- The name of the parent. -/
def parentName (r : Roster) : Option String := r.parent.map (·.name)

/-- Whether there is a parent. Without one the node is a root. -/
def hasParent (r : Roster) : Bool := r.parent.isSome

/-- The client of a name. -/
def client? (r : Roster) (name : String) : Option Contact := r.clients[name]?

/-- Whether there is a client of a name. -/
def hasClient (r : Roster) (name : String) : Bool := r.clients.contains name

/-- The names of all clients, in ascending order. -/
def clientNames (r : Roster) : List String := r.clients.keys

/-- How many clients there are. -/
def clientCount (r : Roster) : Nat := r.clients.size

/-- Everybody who holds a place. -/
def contacts (r : Roster) : List Contact := r.parent.toList ++ r.clients.values

/-- Two rosters that give the same answers are the same. -/
theorem ext_lookup {r s : Roster} (hp : r.parent = s.parent)
    (hc : ∀ name : String, r.clients[name]? = s.clients[name]?) : r = s := by
  obtain ⟨p, m⟩ := r
  obtain ⟨q, n⟩ := s
  obtain rfl : m = n := Std.ExtTreeMap.ext_getElem? hc
  simp_all

/-! ### Descriptions -/

/-- The clients as they show themselves to a person. -/
def describeClients (r : Roster) : String :=
  "\x7b" ++ String.intercalate ", "
    (r.clients.toList.map fun entry => Text.quote entry.1 ++ ": " ++ entry.2.describe) ++ "\x7d"

/-- The parent as it shows itself to a person. -/
def describeParent (r : Roster) : String :=
  match r.parent with
  | none => "None"
  | some c => "Some(" ++ c.describe ++ ")"

/-- A node as it shows itself to a person: its name and its roster. -/
def describeNode (localName : String) (r : Roster) : String :=
  "NodeContext \x7b local_name: " ++ Text.quote localName ++
    ", registry: ConnectionRegistry \x7b state: Mutex \x7b data: RegistryState \x7b parent: " ++
    r.describeParent ++ ", api: " ++ r.describeClients ++
    " \x7d, poisoned: false, .. \x7d \x7d, .. \x7d"

end Roster

end Overlay
