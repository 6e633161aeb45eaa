import Overlay.Bytes
import Overlay.Role

namespace Overlay

/-!
# Lifecycle events

A node announces when a peer takes its place and when it leaves it. The payload of an event is
the peer's name as bytes, so a subscriber reads the same name from it (`Event.peerName`).
-/

namespace Lifecycle

/-- A change that subscribers hear of. -/
inductive Transition where
  /-- An API client took its place. -/
  | apiConnected
  /-- An API client's connection ended. -/
  | apiDisconnected
  /-- A peer became the parent. -/
  | parentConnected
  /-- A parent's connection ended. -/
  | parentDisconnected
deriving DecidableEq, Inhabited, Repr

/-- The name of a transition, as subscribers see it. -/
def Transition.name : Transition → String
  | apiConnected => "ON_API_CONNECTED"
  | apiDisconnected => "ON_API_DISCONNECTED"
  | parentConnected => "ON_PARENT_CONNECTED"
  | parentDisconnected => "ON_PARENT_DISCONNECTED"

/-- One announcement. -/
structure Event where
  /-- What happened. -/
  transition : Transition
  /-- The name of the peer, as bytes. -/
  payload : ByteArray
  /-- An attachment; a node's own announcements have none. -/
  extra : Option ByteArray := none
deriving DecidableEq, Inhabited

/-- The name that a subscriber reads from an event. -/
def Event.peerName (e : Event) : String := Text.decode e.payload

end Lifecycle

namespace Role

open Lifecycle

/-- The transition of a peer that takes its place. -/
def connecting (role : Role) : Transition :=
  match role.rank with
  | .parent => .parentConnected
  | .api => .apiConnected

/-- The transition of a peer that leaves its place. -/
def disconnecting (role : Role) : Transition :=
  match role.rank with
  | .parent => .parentDisconnected
  | .api => .apiDisconnected

/-- The announcement that a peer has taken its place. -/
def arrival (role : Role) : Event := ⟨role.connecting, role.name.toUTF8, none⟩

/-- The announcement that a peer has left its place. -/
def departure (role : Role) : Event := ⟨role.disconnecting, role.name.toUTF8, none⟩

end Role

end Overlay
