import Overlay.Text.Lossy

namespace Overlay

/-!
# Roles

A peer that connects declares a name, and the name alone decides what becomes of it: the close
sentinel turns the connection down, a name with the API marker anywhere in it makes the peer an
API client, and every other name makes it the parent.

* `Introduction.ofName` — the decision for a name;
* `Introduction.ofBytes` — the decision for declared bytes, read as text first;
* `ofName_eq_declined_iff` and `rank_of_ofName` — exactly when each case arises.
-/

/-- Marks the names of API clients, wherever it stands in the name. -/
def apiMarker : String := "api-"

/-- Declared instead of a name by a peer that wants the connection closed. -/
def closeSentinel : String := "***CLOSE_CONNECTION***"

/-- Whether `part` occurs contiguously in `whole`. -/
def occursIn (part : List Char) : List Char → Bool
  | [] => part.isEmpty
  | c :: rest => part.isPrefixOf (c :: rest) || occursIn part rest

/-- The two places a peer can take at a node. -/
inductive Rank where
  /-- The link towards the root of the tree; a node has at most one. -/
  | parent
  /-- A client of the control plane; any number of them, told apart by name. -/
  | api
deriving DecidableEq, Inhabited, Repr

/-- The word for a rank in an answer. -/
def Rank.word : Rank → String
  | parent => "parent"
  | api => "api"

/-- What a peer is for the whole life of its connection. -/
structure Role where
  /-- The place it takes. -/
  rank : Rank
  /-- The name it declared. -/
  name : String
deriving DecidableEq, Inhabited, Repr

/-- Whether the peer is an API client. -/
def Role.isApi (role : Role) : Bool := role.rank = .api

/-- What a declared name leads to. -/
inductive Introduction where
  /-- The peer asked for the connection to be closed. -/
  | declined
  /-- The peer takes its place. -/
  | accepted (role : Role)
deriving DecidableEq, Inhabited, Repr

namespace Introduction

/-- The rank that a name stands for. -/
def rankOf (name : String) : Rank :=
  if occursIn apiMarker.toList name.toList then .api else .parent

/-- What a declared name leads to. -/
def ofName (name : String) : Introduction :=
  if name = closeSentinel then .declined else .accepted ⟨rankOf name, name⟩

/-- What declared bytes lead to: they are read as text, whatever they are. -/
def ofBytes (declared : ByteArray) : Introduction := ofName (Text.decode declared)

theorem ofName_eq_declined_iff {name : String} :
    ofName name = .declined ↔ name = closeSentinel := by
  unfold ofName
  split <;> simp_all

/-- An accepted peer keeps the name it declared. -/
theorem name_of_ofName {name : String} {role : Role} (h : ofName name = .accepted role) :
    role.name = name := by
  unfold ofName at h
  split at h <;> simp_all
  simp [← h]

theorem rank_of_ofName {name : String} {role : Role} (h : ofName name = .accepted role) :
    role.rank = rankOf name := by
  unfold ofName at h
  split at h <;> simp_all
  simp [← h]

end Introduction

end Overlay
