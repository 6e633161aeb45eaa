import Overlay.Proofs.Outboxes

namespace Overlay

/-!
# The sending side of a node

What a node writes, and to whom, depends on a part of it that reading leaves alone.

* `Outlet` — the sending side of one connection; `Outlook` — that of a node;
* `Step.traffic` — the acts that tell of it: a payload is accepted, bytes are written, the node
  hangs up;
* one pair of lemmas, `outlook_…` and `traffic_…`, for every critical section of a node.
-/

/-- The sending side of a connection. -/
structure Outlet where
  /-- How far the connection has come. -/
  stage : Stage
  /-- Why writing to the peer fails, if it does. -/
  fault : Option IoFault
  /-- Whether the node's sending side is open. -/
  sending : Bool
  /-- The frames that wait to be written. -/
  outbox : Mailbox ByteArray

/-- The sending side of a node. -/
structure Outlook where
  /-- The node's own name, with which it greets every peer. -/
  localName : String
  /-- The number of the next connection. -/
  nextId : ConnectionId
  /-- The sending side of each connection. -/
  outlet : ConnectionId → Outlet
  /-- Who holds which place. -/
  roster : Roster
  /-- Copies of contacts that other code keeps. -/
  kept : Std.ExtTreeMap String Contact

/-- An act that tells what is accepted for a peer, what is written to it, and when that ends. -/
def Effect.isTraffic : Effect → Bool
  | .accepted .. | .sent .. | .hungUp .. => true
  | _ => false

/-- The acts of a step that tell of its sending side. -/
def Step.traffic (s : Step) : List Effect := s.effects.filter Effect.isTraffic

@[simp] theorem Step.traffic_andThen (s : Step) (next : Node → Step) :
    (s.andThen next).traffic = s.traffic ++ (next s.node).traffic := by
  simp [traffic, List.filter_append]

namespace Outlook

/-- Change the sending side of one connection. -/
def set (v : Outlook) (id : ConnectionId) (o : Outlet) : Outlook :=
  { v with outlet := Function.update v.outlet id o }

@[simp] theorem outlet_set_self (v : Outlook) (id : ConnectionId) (o : Outlet) :
    (v.set id o).outlet id = o := Function.update_self ..

theorem outlet_set_of_ne (v : Outlook) {id j : ConnectionId} (h : j ≠ id) (o : Outlet) :
    (v.set id o).outlet j = v.outlet j := Function.update_of_ne h ..

@[simp] theorem set_outlet_self (v : Outlook) (id : ConnectionId) : v.set id (v.outlet id) = v := by
  unfold set
  rw [Function.update_eq_self]

@[simp] theorem set_set (v : Outlook) (id : ConnectionId) (o o' : Outlet) :
    (v.set id o).set id o' = v.set id o' := by
  unfold set
  rw [Function.update_idem]

/-- A new connection gets the next number. -/
def welcome (v : Outlook) (o : Outlet) : Outlook := { v.set v.nextId o with nextId := v.nextId + 1 }

/-- What is set of a new connection at once is how it comes. -/
theorem set_welcome (v : Outlook) (o o' : Outlet) :
    (v.welcome o).set v.nextId o' = v.welcome o' := by
  unfold welcome set
  simp only [Function.update_idem]

end Outlook

/-- A connection that the node has closed for sending: what waited for the peer is lost. -/
def Outlet.mute (o : Outlet) : Outlet := { o with sending := false, outbox := .shut }

/-- What is seen when the node closes its sending side, unless it was closed before. -/
def Outlet.parting (o : Outlet) (id : ConnectionId) : List Effect :=
  if o.sending then [.hungUp id] else []

namespace Node

/-- The sending side of a connection. -/
def outlet (n : Node) (id : ConnectionId) : Outlet :=
  match n.connections[id]? with
  | none => ⟨.finished, none, false, n.board.outbox id⟩
  | some c => ⟨c.stage, c.fault, c.sending, n.board.outbox id⟩

/-- The sending side of a node. -/
def outlook (n : Node) : Outlook where
  localName := n.localName
  nextId := n.nextId
  outlet := n.outlet
  roster := n.board.roster
  kept := n.board.kept

/-- What has been set of one connection is seen of it. -/
theorem outlet_of_outlook {n : Node} {v : Outlook} {id : ConnectionId} {o : Outlet}
    (h : n.outlook = v.set id o) : n.outlet id = o := by
  have houtlet : n.outlet id = (v.set id o).outlet id := congrFun (congrArg Outlook.outlet h) id
  rw [houtlet, Outlook.outlet_set_self]

@[simp] theorem outlet_stage (n : Node) (id : ConnectionId) :
    (n.outlet id).stage = n.stage id := by
  unfold outlet stage
  cases n.connections[id]? <;> rfl

@[simp] theorem outlet_outbox (n : Node) (id : ConnectionId) :
    (n.outlet id).outbox = n.board.outbox id := by
  unfold outlet
  cases n.connections[id]? <;> rfl

theorem outlet_sending (n : Node) (id : ConnectionId) :
    (n.outlet id).sending = n.connections[id]?.any (·.sending) := by
  unfold outlet
  cases n.connections[id]? <;> rfl

/-- A connection that has not finished was accepted. -/
theorem exists_connection {n : Node} {id : ConnectionId} (h : n.stage id ≠ .finished) :
    ∃ c, n.connections[id]? = some c := by
  unfold stage at h
  cases hc : n.connections[id]? with
  | none => simp [hc] at h
  | some c => exact ⟨c, rfl⟩

/-- Changing a connection changes its own sending side alone. -/
theorem outlet_update {n : Node} {id : ConnectionId} {c : Connection}
    (hc : n.connections[id]? = some c) (change : Connection → Connection) :
    (n.update id change).outlet = Function.update n.outlet id
      ⟨(change c).stage, (change c).fault, (change c).sending, n.board.outbox id⟩ := by
  funext j
  unfold outlet update
  simp only
  rw [lookup_modify, Function.update_apply]
  by_cases hj : j = id
  · rw [if_pos hj, if_pos hj, hj, hc]
    rfl
  · rw [if_neg hj, if_neg hj]

/-- Changing a connection that was never accepted changes nothing. -/
theorem outlet_update_of_none {n : Node} {id : ConnectionId} (hc : n.connections[id]? = none)
    (change : Connection → Connection) : (n.update id change).outlet = n.outlet := by
  funext j
  unfold outlet update
  simp only
  rw [lookup_modify]
  by_cases hj : j = id
  · rw [if_pos hj, hj, hc]
    rfl
  · rw [if_neg hj]

/-- Changing the reading side of a connection does not matter to its sending side. -/
theorem outlook_update {n : Node} {id : ConnectionId} {change : Connection → Connection}
    (h : ∀ c, (change c).stage = c.stage ∧ (change c).fault = c.fault ∧
      (change c).sending = c.sending) : (n.update id change).outlook = n.outlook := by
  have houtlet : (n.update id change).outlet = n.outlet := by
    cases hc : n.connections[id]? with
    | none => exact outlet_update_of_none hc change
    | some c =>
      obtain ⟨hstage, hfault, hsending⟩ := h c
      rw [outlet_update hc, hstage, hfault, hsending]
      refine Function.update_eq_self_iff.2 ?_
      rw [outlet, hc]
  unfold outlook
  rw [houtlet]
  rfl

/-- A connection comes to another stage. -/
theorem outlook_restage {n : Node} {id : ConnectionId} (h : n.stage id ≠ .finished)
    {change : Connection → Connection} {stage : Stage}
    (hchange : ∀ c, (change c).stage = stage ∧ (change c).fault = c.fault ∧
      (change c).sending = c.sending) :
    (n.update id change).outlook = n.outlook.set id { n.outlet id with stage := stage } := by
  obtain ⟨c, hc⟩ := exists_connection h
  obtain ⟨hstage, hfault, hsending⟩ := hchange c
  have houtlet : n.outlet id = ⟨c.stage, c.fault, c.sending, n.board.outbox id⟩ := by
    rw [outlet, hc]
  unfold outlook Outlook.set
  rw [outlet_update hc, hstage, hfault, hsending, houtlet]
  rfl

/-- Queues belong to connections. -/
theorem outlook_board {n : Node} {board : Switchboard} {id : ConnectionId}
    {box : Mailbox ByteArray} (hroster : board.roster = n.board.roster)
    (hkept : board.kept = n.board.kept)
    (hbox : board.outbox = Function.update n.board.outbox id box) :
    ({ n with board } : Node).outlook = n.outlook.set id { n.outlet id with outbox := box } := by
  have houtlet : ({ n with board } : Node).outlet =
      Function.update n.outlet id { n.outlet id with outbox := box } := by
    funext j
    by_cases hj : j = id
    · subst hj
      rw [Function.update_self]
      unfold outlet
      simp only [hbox, Function.update_self]
      cases n.connections[j]? <;> rfl
    · rw [Function.update_of_ne hj]
      unfold outlet
      simp only [hbox, Function.update_of_ne hj]
  unfold outlook Outlook.set
  simp only [houtlet, hroster, hkept]

/-- A new connection brings its own sending side along. -/
theorem outlook_arrive (n : Node) (c : Connection) :
    (n.arrive c).outlook =
      n.outlook.welcome ⟨c.stage, c.fault, c.sending, n.board.outbox n.nextId⟩ := by
  have houtlet : (n.arrive c).outlet = Function.update n.outlet n.nextId
      ⟨c.stage, c.fault, c.sending, n.board.outbox n.nextId⟩ := by
    funext j
    unfold outlet arrive
    simp only
    rw [lookup_insert, Function.update_apply]
    by_cases hj : j = n.nextId
    · rw [if_pos hj, if_pos hj, hj]
    · rw [if_neg hj, if_neg hj]
  unfold outlook Outlook.welcome Outlook.set
  rw [houtlet]
  rfl

/-! ### Critical sections -/

/-- Entries of the log are no traffic. -/
theorem traffic_logged (n : Node) (source : Option ConnectionId) (entries : List Log.Entry) :
    (⟨n, entries.map (.logged source)⟩ : Step).traffic = [] := by
  simp [Step.traffic, Effect.isTraffic]

@[simp] theorem traffic_report (n : Node) (entries : List Log.Entry) :
    (n.report entries).traffic = [] := traffic_logged n none entries

@[simp] theorem traffic_reportOn (n : Node) (id : ConnectionId) (entries : List Log.Entry) :
    (n.reportOn id entries).traffic = [] := traffic_logged n (some id) entries

/-- An act of reading is no traffic, and neither is what is logged along with it. -/
theorem traffic_act (n : Node) {e : Effect} (act : e.isTraffic = false)
    (source : Option ConnectionId) (entries : List Log.Entry) :
    (⟨n, e :: entries.map (.logged source)⟩ : Step).traffic = [] := by
  have hlogged := traffic_logged n source entries
  unfold Step.traffic at hlogged ⊢
  rw [List.filter_cons_of_neg (by simp [act]), hlogged]

@[simp] theorem outlook_announce (n : Node) (id : ConnectionId) (e : Lifecycle.Event) :
    (n.announce id e).node.outlook = n.outlook := rfl

@[simp] theorem traffic_announce (n : Node) (id : ConnectionId) (e : Lifecycle.Event) :
    (n.announce id e).traffic = [] := traffic_act _ rfl _ _

@[simp] theorem outlook_hand (n : Node) (id : ConnectionId) (m : Message)
    (outcome : Handler.Outcome) : (n.hand id m outcome).node.outlook = n.outlook := rfl

@[simp] theorem traffic_hand (n : Node) (id : ConnectionId) (m : Message)
    (outcome : Handler.Outcome) : (n.hand id m outcome).traffic = [] := traffic_act _ rfl _ _

@[simp] theorem outlook_leave (n : Node) (id : ConnectionId) (role : Role) :
    (n.leave id role).node.outlook =
      { n.outlook with roster := (n.board.roster.withdraw role id).2 } := rfl

@[simp] theorem traffic_leave (n : Node) (id : ConnectionId) (role : Role) :
    (n.leave id role).traffic = [] := traffic_act _ rfl _ _

/-- A connection that takes its place gets an empty queue. -/
theorem outlook_enter {n : Node} {id : ConnectionId} (h : n.stage id ≠ .finished) (role : Role) :
    (n.enter id role).node.outlook =
      { n.outlook.set id { n.outlet id with stage := .serving role, outbox := {} } with
        roster := (n.board.roster.install role.rank ⟨id, role.name, n.address id, id⟩).2 } := by
  -- The queue is set up, and then the stage changes.
  let opened : Node := { n with board := n.board.openOutbox id }
  have hopened : opened.outlook = n.outlook.set id { n.outlet id with outbox := {} } :=
    outlook_board rfl rfl (n.board.outbox_openOutbox id)
  have hstaged : (opened.update id ({ · with stage := .serving role })).outlook =
      opened.outlook.set id { opened.outlet id with stage := .serving role } :=
    outlook_restage (n := opened) h fun _ => ⟨rfl, rfl, rfl⟩
  rw [outlet_of_outlook hopened, hopened, Outlook.set_set] at hstaged
  have hroster : (n.enter id role).node.outlook =
      { (opened.update id ({ · with stage := .serving role })).outlook with
        roster := (n.board.roster.install role.rank ⟨id, role.name, n.address id, id⟩).2 } := rfl
  rw [hroster, hstaged]

@[simp] theorem traffic_enter (n : Node) (id : ConnectionId) (role : Role) :
    (n.enter id role).traffic = [] := traffic_act _ rfl _ _

/-- Closing the sending side of a connection changes nothing else. -/
theorem outlook_hangUp (n : Node) (id : ConnectionId) :
    (n.hangUp id).node.outlook = n.outlook.set id { n.outlet id with sending := false } := by
  unfold hangUp
  rw [← outlet_sending]
  by_cases hsending : (n.outlet id).sending = true
  · rw [if_pos hsending]
    obtain ⟨c, hc⟩ : ∃ c, n.connections[id]? = some c := by
      rw [outlet_sending, Option.any_eq_true] at hsending
      obtain ⟨c, hc, -⟩ := hsending
      exact ⟨c, hc⟩
    have hupdate := outlet_update hc ({ · with sending := false })
    have houtlet : n.outlet id = ⟨c.stage, c.fault, c.sending, n.board.outbox id⟩ := by
      rw [outlet, hc]
    unfold outlook Outlook.set
    rw [hupdate, houtlet]
    rfl
  -- It was closed before, so nothing changes.
  · have hclosed : (n.outlet id).sending = false := by simpa using hsending
    rw [if_neg hsending, node_idle, ← hclosed]
    exact (n.outlook.set_outlet_self id).symm

/-- The node hangs up on a connection once. -/
theorem traffic_hangUp (n : Node) (id : ConnectionId) :
    (n.hangUp id).traffic = (n.outlet id).parting id := by
  unfold hangUp Outlet.parting
  rw [← outlet_sending]
  split <;> rfl

theorem outlook_closeOutbox (n : Node) (id : ConnectionId) :
    ({ n with board := n.board.closeOutbox id } : Node).outlook =
      n.outlook.set id { n.outlet id with outbox := .shut } :=
  outlook_board rfl rfl (n.board.outbox_closeOutbox id)

/-- A writer that ends loses its queue and closes the sending side. -/
theorem outlook_mute (n : Node) (id : ConnectionId) :
    ({ n with board := n.board.closeOutbox id }.hangUp id).node.outlook =
      n.outlook.set id (n.outlet id).mute := by
  have hclosed := n.outlook_closeOutbox id
  rw [outlook_hangUp, outlet_of_outlook hclosed, hclosed, Outlook.set_set]
  rfl

theorem traffic_mute (n : Node) (id : ConnectionId) :
    ({ n with board := n.board.closeOutbox id }.hangUp id).traffic =
      (n.outlet id).parting id := by
  rw [traffic_hangUp, outlet_of_outlook (n.outlook_closeOutbox id)]
  rfl

/-- A connection that ends loses its queue and closes the sending side. -/
theorem finish_spec {n : Node} {id : ConnectionId} (h : n.stage id ≠ .finished) :
    (n.finish id).node.outlook =
        n.outlook.set id { (n.outlet id).mute with stage := .finished } ∧
      (n.finish id).traffic = (n.outlet id).parting id := by
  let closed : Node := { n with board := n.board.closeOutbox id }
  let ended : Node := closed.update id ({ · with stage := .finished, inbound := {} })
  have hclosed : closed.outlook = n.outlook.set id { n.outlet id with outbox := .shut } :=
    n.outlook_closeOutbox id
  have hended : ended.outlook =
      closed.outlook.set id { closed.outlet id with stage := .finished } :=
    outlook_restage (n := closed) h fun _ => ⟨rfl, rfl, rfl⟩
  rw [outlet_of_outlook hclosed, hclosed, Outlook.set_set] at hended
  show (ended.hangUp id).node.outlook = _ ∧ (ended.hangUp id).traffic = _
  rw [outlook_hangUp, traffic_hangUp, outlet_of_outlook hended, hended, Outlook.set_set]
  exact ⟨rfl, rfl⟩

end Node

end Overlay
