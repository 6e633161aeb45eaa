import Mathlib.Data.List.Sort
import Overlay.Proofs.Dealings
import Overlay.Proofs.Renumbering

namespace Overlay

/-!
# Two nodes side by side

One node is visited by more connections than another, and the connections that only the first has
seen never took a place there. As far as the others are concerned the two nodes are alike, and
whatever one of these does, it does at both.

* `Mirrors` — the two nodes are alike, told by their look-ups, for the connections that stay;
* `Matches` — two steps that lead to such nodes, with the same visible acts;
* one lemma `…_matches` for every critical section, and from these for everything that a connection
  that stays, a writer or other code does.
-/

/-- A node `m` is like `n`, but only the connections in `stays` have come to it. -/
structure Mirrors (stays : ConnectionId → Bool) (n m : Node) : Prop where
  localName : m.localName = n.localName
  handler : m.handler = n.handler
  bus : m.bus = n.bus
  messages : m.messages = n.messages
  calls : m.calls = n.calls
  listening : m.listening = n.listening
  /-- The next connection comes next at both. -/
  nextId : m.nextId = renumber stays n.nextId
  /-- Connections that stay are the same under their new numbers. -/
  connection : ∀ id, stays id = true →
    m.connections[renumber stays id]? = n.connections[id]?
  /-- No other connection has come to `m`. -/
  image : ∀ j, m.connections[j]? ≠ none → ∃ id, stays id = true ∧ renumber stays id = j
  /-- The same peers hold the same places. -/
  roster : m.board.roster = n.board.roster.renumber (renumber stays)
  /-- Other code keeps the same copies. -/
  copies : ∀ label : String,
    m.board.kept[label]? = n.board.kept[label]?.map (·.renumber (renumber stays))
  /-- The same frames wait for connections that stay. -/
  outbox : ∀ id, stays id = true → m.board.outbox (renumber stays id) = n.board.outbox id
  /-- Contacts that are about lead to connections that stay. -/
  known : ∀ c, n.board.Knows c → stays c.id = true ∧ c.outbox = c.id
  /-- Who serves stays. -/
  aside : ∀ id role, n.stage id = .serving role → stays id = true

/-- Two steps lead to nodes that are alike, and the connections that stay see no difference. -/
structure Matches (stays : ConnectionId → Bool) (s t : Step) : Prop where
  /-- The nodes are alike. -/
  node : Mirrors stays s.node t.node
  /-- All that is done at one is done at the other, but for connections that are left out. -/
  visible : t.visible (fun _ => true) = (s.visible stays).map (Effect.renumber (renumber stays))

variable {stays : ConnectionId → Bool} {n m : Node} {id : ConnectionId}

namespace Matches

variable {s t : Step}

/-- Going on in the same way at both nodes. -/
theorem andThen (h : Matches stays s t) {f g : Node → Step}
    (hnext : Mirrors stays s.node t.node → Matches stays (f s.node) (g t.node)) :
    Matches stays (s.andThen f) (t.andThen g) := by
  have hmatches := hnext h.node
  refine ⟨hmatches.node, ?_⟩
  rw [Step.visible_andThen, Step.visible_andThen, h.visible, hmatches.visible, List.map_append]

/-- Going on after something has happened at one node alone. -/
theorem andThen_left (h : Matches stays s m.idle) {f : Node → Step}
    (hnext : Mirrors stays s.node m → Matches stays (f s.node) t) :
    Matches stays (s.andThen f) t := by
  have hmatches := hnext h.node
  have hnothing : (s.visible stays).map (Effect.renumber (renumber stays)) = [] := h.visible.symm
  refine ⟨hmatches.node, ?_⟩
  rw [Step.visible_andThen, List.map_append, hnothing, List.nil_append, ← hmatches.visible]

end Matches

/-- Nothing happens at either node. -/
theorem Mirrors.idle (h : Mirrors stays n m) : Matches stays n.idle m.idle := ⟨h, rfl⟩

/-- Whatever is logged is not visible. -/
theorem Mirrors.logged (h : Mirrors stays n m) (source source' : Option ConnectionId)
    (entries entries' : List Log.Entry) :
    Matches stays ⟨n, entries.map (.logged source)⟩ ⟨m, entries'.map (.logged source')⟩ := by
  refine ⟨h, ?_⟩
  rw [Step.visible_logged, Step.visible_logged]
  rfl

/-- Visible acts, whatever is logged along with them. -/
theorem Mirrors.acts (h : Mirrors stays n m) (acts : List Effect)
    (hvisible : ∀ e ∈ acts, e.isVisible stays = true) (source source' : Option ConnectionId)
    (entries entries' : List Log.Entry) :
    Matches stays ⟨n, acts ++ entries.map (.logged source)⟩
      ⟨m, acts.map (Effect.renumber (renumber stays)) ++ entries'.map (.logged source')⟩ := by
  have hlogged := Step.visible_logged stays n source entries
  have hlogged' := Step.visible_logged (fun _ => true) m source' entries'
  have hacts : acts.filter (·.isVisible stays) = acts := List.filter_eq_self.2 hvisible
  have hacts' : (acts.map (Effect.renumber (renumber stays))).filter
      (·.isVisible fun _ => true) = acts.map (Effect.renumber (renumber stays)) := by
    refine List.filter_eq_self.2 fun e' he' => ?_
    obtain ⟨e, he, rfl⟩ := List.mem_map.1 he'
    exact Effect.isVisible_renumber (hvisible e he) _
  refine ⟨h, ?_⟩
  unfold Step.visible at hlogged hlogged' ⊢
  rw [List.filter_append, List.filter_append, hlogged, hlogged', hacts, hacts',
    List.append_nil, List.append_nil]

/-- One visible act, whatever is logged along with it. -/
theorem Mirrors.act (h : Mirrors stays n m) {e : Effect} (hvisible : e.isVisible stays = true)
    (source source' : Option ConnectionId) (entries entries' : List Log.Entry) :
    Matches stays ⟨n, e :: entries.map (.logged source)⟩
      ⟨m, e.renumber (renumber stays) :: entries'.map (.logged source')⟩ :=
  h.acts [e] (by simpa using hvisible) source source' entries entries'

namespace Mirrors

/-! ### Questions -/

theorem stage (h : Mirrors stays n m) (hid : stays id = true) :
    m.stage (renumber stays id) = n.stage id := by
  unfold Node.stage
  rw [h.connection id hid]

theorem address (h : Mirrors stays n m) (hid : stays id = true) :
    m.address (renumber stays id) = n.address id := by
  unfold Node.address
  rw [h.connection id hid]

theorem isOpen (h : Mirrors stays n m) (hid : stays id = true) :
    m.board.isOpen (renumber stays id) = n.board.isOpen id := by
  rw [Switchboard.isOpen_eq, Switchboard.isOpen_eq, h.outbox id hid]

/-- The same contacts are about. -/
theorem knows_iff (h : Mirrors stays n m) {d : Contact} :
    m.board.Knows d ↔ ∃ c, n.board.Knows c ∧ c.renumber (renumber stays) = d := by
  unfold Switchboard.Knows
  simp only [h.roster, Roster.holder_renumber, h.copies, Option.map_eq_some_iff]
  constructor
  · rintro (⟨p, c, hp, rfl⟩ | ⟨label, c, hlabel, rfl⟩)
    · exact ⟨c, .inl ⟨p, hp⟩, rfl⟩
    · exact ⟨c, .inr ⟨label, hlabel⟩, rfl⟩
  · rintro ⟨c, ⟨p, hp⟩ | ⟨label, hlabel⟩, rfl⟩
    · exact .inl ⟨p, c, hp, rfl⟩
    · exact .inr ⟨label, c, hlabel, rfl⟩

/-- A writer is needed at one node if it is needed at the other. -/
theorem isReferenced (h : Mirrors stays n m) (hid : stays id = true) :
    m.board.isReferenced (renumber stays id) = n.board.isReferenced id := by
  rw [Bool.eq_iff_iff, Switchboard.isReferenced_iff, Switchboard.isReferenced_iff]
  constructor
  · rintro ⟨d, hd, hbox⟩
    obtain ⟨c, hc, rfl⟩ := h.knows_iff.1 hd
    obtain ⟨hstays, hout⟩ := h.known c hc
    refine ⟨c, hc, ?_⟩
    rw [hout]
    rw [Contact.renumber, hout, renumber_inj hstays hid] at hbox
    exact hbox
  · rintro ⟨c, hc, rfl⟩
    exact ⟨c.renumber (renumber stays), h.knows_iff.2 ⟨c, hc, rfl⟩, rfl⟩

/-- Every route leads to the same contacts. -/
theorem addressees (h : Mirrors stays n m) (route : Route) :
    m.board.addressees route =
      (n.board.addressees route).map (·.renumber (renumber stays)) := by
  cases route with
  | parent =>
    show m.board.roster.parent.toList = n.board.roster.parent.toList.map _
    rw [h.roster]
    exact Option.toList_map ..
  | client name =>
    show (m.board.roster.client? name).toList = (n.board.roster.client? name).toList.map _
    rw [h.roster, Roster.client?_renumber, Option.toList_map]
  | clients =>
    show m.board.roster.clients.values = n.board.roster.clients.values.map _
    rw [h.roster, Roster.values_renumber]
  | kept label =>
    show m.board.kept[label]?.toList = n.board.kept[label]?.toList.map _
    rw [h.copies, Option.toList_map]

end Mirrors

/-! ### Changes of one part -/

/-- Whoever serves after a connection has come served before. -/
theorem Node.serving_of_arrive {c : Connection} (before : c.stage = .introducing)
    {role : Role} (h : (n.arrive c).stage id = .serving role) : n.stage id = .serving role := by
  unfold Node.stage Node.arrive at h
  simp only [lookup_insert] at h
  by_cases hnew : id = n.nextId
  · simp [hnew, before] at h
  · rwa [if_neg hnew] at h

/-- A switchboard is like another, but for the queue of one connection. -/
structure Switchboard.Requeued (b : Switchboard) (key : OutboxId) (box : Mailbox ByteArray)
    (b' : Switchboard) : Prop where
  roster : b'.roster = b.roster
  kept : b'.kept = b.kept
  outbox : b'.outbox = Function.update b.outbox key box

theorem Switchboard.requeued_closeOutbox (b : Switchboard) (key : OutboxId) :
    b.Requeued key .shut (b.closeOutbox key) := ⟨rfl, rfl, b.outbox_closeOutbox key⟩

theorem Switchboard.requeued_openOutbox (b : Switchboard) (key : OutboxId) :
    b.Requeued key {} (b.openOutbox key) := ⟨rfl, rfl, b.outbox_openOutbox key⟩

theorem Switchboard.requeued_enqueue (b : Switchboard) {key : OutboxId}
    (h : b.isOpen key = true) (frame : ByteArray) :
    b.Requeued key ⟨(b.outbox key).queued ++ [frame], true⟩ (b.enqueue key frame) :=
  ⟨rfl, rfl, b.outbox_enqueue h frame⟩

/-- All that waits is taken out of a queue that has a reader. -/
theorem Switchboard.exists_drain (b : Switchboard) {key : OutboxId} (h : b.isOpen key = true) :
    ∃ b', b.drain key = (some (b.outbox key).queued, b') ∧ b.Requeued key {} b' := by
  obtain ⟨hfrom, hto⟩ := b.drain_eq h
  obtain ⟨hroster, hkept⟩ := Node.keeps_drain b key
  exact ⟨_, Prod.ext hfrom rfl, hroster, hkept, hto⟩

/-- Whether a writer is needed is not a matter of queues. -/
theorem Switchboard.Requeued.isReferenced {b b' : Switchboard} {key : OutboxId}
    {box : Mailbox ByteArray} (h : b.Requeued key box b') (j : OutboxId) :
    b'.isReferenced j = b.isReferenced j := by
  unfold Switchboard.isReferenced
  rw [h.roster, h.kept]

namespace Mirrors

/-- A connection that stays changes in the same way at both nodes. -/
theorem update (h : Mirrors stays n m) (hid : stays id = true) (change : Connection → Connection) :
    Mirrors stays (n.update id change) (m.update (renumber stays id) change) where
  __ := h
  connection j hj := by
    show (m.connections.modify (renumber stays id) change)[renumber stays j]? =
      (n.connections.modify id change)[j]?
    rw [lookup_modify, lookup_modify, h.connection j hj]
    simp only [renumber_inj hj hid]
  image j hj := by
    refine h.image j fun hnone => hj ?_
    show (m.connections.modify (renumber stays id) change)[j]? = none
    rw [lookup_modify, hnone]
    split <;> rfl
  aside j role hserving := by
    by_cases hj : j = id
    · rw [hj, hid]
    · refine h.aside j role ?_
      rw [← hserving]
      unfold Node.stage Node.update
      simp only [lookup_modify, if_neg hj]

/-- A connection that is left out may change at one node alone, as long as it does not serve. -/
theorem update_aside (h : Mirrors stays n m) (hid : stays id = false)
    (change : Connection → Connection)
    (hchange : ∀ c role, (change c).stage = .serving role → c.stage = .serving role) :
    Mirrors stays (n.update id change) m where
  __ := h
  connection j hj := by
    have hne : j ≠ id := fun heq => by simp [heq, hid] at hj
    show m.connections[renumber stays j]? = (n.connections.modify id change)[j]?
    rw [lookup_modify, if_neg hne]
    exact h.connection j hj
  aside j role hserving := by
    refine h.aside j role ?_
    unfold Node.stage Node.update at hserving
    simp only [lookup_modify] at hserving
    unfold Node.stage
    by_cases hj : j = id
    · rw [if_pos hj] at hserving
      cases hc : n.connections[j]? with
      | none => simp [hc] at hserving
      | some c =>
        rw [hc] at hserving
        exact hchange c role hserving
    · rwa [if_neg hj] at hserving

/-- The queue of a connection that stays changes in the same way at both nodes. -/
theorem requeue (h : Mirrors stays n m) (hid : stays id = true) {b b' : Switchboard}
    {box : Mailbox ByteArray} (hb : n.board.Requeued id box b)
    (hb' : m.board.Requeued (renumber stays id) box b') :
    Mirrors stays { n with board := b } { m with board := b' } where
  __ := h
  roster := by rw [hb'.roster, hb.roster, h.roster]
  copies label := by rw [hb'.kept, hb.kept, h.copies]
  outbox j hj := by
    rw [hb'.outbox, hb.outbox, Function.update_apply, Function.update_apply, h.outbox j hj]
    simp only [renumber_inj hj hid]
  known c hc := h.known c ((Switchboard.knows_congr hb.roster hb.kept).1 hc)

/-- The queue of a connection that is left out may change at one node alone. -/
theorem requeue_aside (h : Mirrors stays n m) (hid : stays id = false) {b : Switchboard}
    {box : Mailbox ByteArray} (hb : n.board.Requeued id box b) :
    Mirrors stays { n with board := b } m where
  __ := h
  roster := by rw [hb.roster, h.roster]
  copies label := by rw [hb.kept, h.copies]
  outbox j hj := by
    have hne : j ≠ id := fun heq => by simp [heq, hid] at hj
    rw [hb.outbox, Function.update_of_ne hne, h.outbox j hj]
  known c hc := h.known c ((Switchboard.knows_congr hb.roster hb.kept).1 hc)

/-- Places are taken and left in the same way at both nodes. -/
theorem rearrange (h : Mirrors stays n m) (r r' : Roster)
    (hr : r' = r.renumber (renumber stays))
    (hknown : ∀ p c, r.holder p = some c → stays c.id = true ∧ c.outbox = c.id) :
    Mirrors stays { n with board := { n.board with roster := r } }
      { m with board := { m.board with roster := r' } } where
  __ := h
  roster := hr
  known c hc := by
    rcases hc with ⟨p, hp⟩ | hcopy
    · exact hknown p c hp
    · exact h.known c (.inr hcopy)

end Mirrors

namespace Mirrors

/-! ### Critical sections -/

theorem announce_matches (h : Mirrors stays n m) (id : ConnectionId) (e : Lifecycle.Event) :
    Matches stays (n.announce id e) (m.announce (renumber stays id) e) := by
  have hbus : Mirrors stays { n with bus := (n.bus.publish e).1 }
      { m with bus := (m.bus.publish e).1 } := { h with bus := by rw [h.bus] }
  exact hbus.act (e := .published id e) rfl _ _ _ _

theorem enter_matches (h : Mirrors stays n m) (hid : stays id = true) (role : Role) :
    Matches stays (n.enter id role) (m.enter (renumber stays id) role) := by
  -- The queue is set up, the place is taken, and then the stage changes.
  have hopened := h.requeue hid (n.board.requeued_openOutbox id)
    (m.board.requeued_openOutbox (renumber stays id))
  have hplaced := hopened.rearrange
    (n.board.roster.install role.rank ⟨id, role.name, n.address id, id⟩).2
    (m.board.roster.install role.rank
      ⟨renumber stays id, role.name, m.address (renumber stays id), renumber stays id⟩).2 ?_ ?_
  · exact (hplaced.update hid ({ · with stage := .serving role })).act
      (e := .entered id role) rfl _ _ _ _
  · rw [h.roster, h.address hid]
    exact n.board.roster.install_renumber _ role ⟨id, role.name, n.address id, id⟩ rfl
  · intro p c hp
    rw [Roster.holder_install _ rfl] at hp
    split at hp
    · cases hp
      exact ⟨hid, rfl⟩
    · exact h.known c (.inl ⟨p, hp⟩)

theorem leave_matches (h : Mirrors stays n m) (hid : stays id = true) (role : Role) :
    Matches stays (n.leave id role) (m.leave (renumber stays id) role) := by
  have hleft := h.rearrange (n.board.roster.withdraw role id).2
    (m.board.roster.withdraw role (renumber stays id)).2 ?_ ?_
  · exact hleft.act (e := .left id role) rfl _ _ _ _
  -- Whoever holds a place stays, and is told apart by its new number, too.
  · rw [h.roster]
    refine Roster.withdraw_renumber role fun p c hp heq => ?_
    exact (renumber_inj (h.known c (.inl ⟨p, hp⟩)).1 hid).1 heq
  · intro p c hp
    rw [Roster.holder_withdraw] at hp
    split at hp
    · cases hp
    · exact h.known c (.inl ⟨p, hp⟩)

theorem hangUp_matches (h : Mirrors stays n m) (hid : stays id = true) :
    Matches stays (n.hangUp id) (m.hangUp (renumber stays id)) := by
  unfold Node.hangUp
  rw [h.connection id hid]
  split
  · exact (h.update hid ({ · with sending := false })).act (e := .hungUp id) hid none none [] []
  · exact h.idle

theorem finish_matches (h : Mirrors stays n m) (hid : stays id = true) :
    Matches stays (n.finish id) (m.finish (renumber stays id)) := by
  have hclosed := h.requeue hid (n.board.requeued_closeOutbox id)
    (m.board.requeued_closeOutbox (renumber stays id))
  exact (hclosed.update hid ({ · with stage := .finished, inbound := {} })).hangUp_matches hid

theorem hand_matches (h : Mirrors stays n m) (id : ConnectionId) (message : Message)
    (outcome : Handler.Outcome) :
    Matches stays (n.hand id message outcome) (m.hand (renumber stays id) message outcome) := by
  have hcalled : Mirrors stays { n with messages := outcome.mailbox, calls := n.calls + 1 }
      { m with messages := outcome.mailbox, calls := m.calls + 1 } :=
    { h with
      messages := rfl
      calls := by rw [h.calls] }
  exact hcalled.act (e := .handled id message) rfl _ _ _ _

/-! ### A connection's own work -/

theorem register_matches (h : Mirrors stays n m) (hid : stays id = true) (role : Role) :
    Matches stays (n.register id role) (m.register (renumber stays id) role) :=
  (h.enter_matches hid role).andThen fun h => h.announce_matches id _

theorem tearDown_matches (h : Mirrors stays n m) (hid : stays id = true) (role : Role) :
    Matches stays (n.tearDown id role) (m.tearDown (renumber stays id) role) := by
  refine Matches.andThen ?_ fun h => h.announce_matches id _
  exact (h.finish_matches hid).andThen fun h => h.leave_matches hid role

theorem dispatch_matches (h : Mirrors stays n m) (hid : stays id = true) (role : Role)
    (payload : ByteArray) :
    Matches stays (n.dispatch id role payload) (m.dispatch (renumber stays id) role payload) := by
  simp only [Node.dispatch, h.handler, h.messages, h.calls]
  split
  · exact (h.hand_matches id _ _).andThen fun h => h.tearDown_matches hid role
  · exact h.hand_matches id _ _

theorem takeFrame_matches (h : Mirrors stays n m) (hid : stays id = true) (payload : ByteArray) :
    Matches stays (n.takeFrame id payload) (m.takeFrame (renumber stays id) payload) := by
  unfold Node.takeFrame
  rw [h.stage hid]
  split
  · split
    · exact (h.logged _ _ _ _).andThen fun h => h.finish_matches hid
    · exact h.register_matches hid _
  · exact h.dispatch_matches hid _ payload
  · exact h.idle

theorem takeFrames_matches (h : Mirrors stays n m) (hid : stays id = true)
    (payloads : List ByteArray) :
    Matches stays (n.takeFrames id payloads) (m.takeFrames (renumber stays id) payloads) := by
  induction payloads generalizing n m with
  | nil => exact h.idle
  | cons payload payloads ih => exact (h.takeFrame_matches hid payload).andThen fun h => ih h

theorem breakOff_matches (h : Mirrors stays n m) (hid : stays id = true) (cause : Frame.Error) :
    Matches stays (n.breakOff id cause) (m.breakOff (renumber stays id) cause) := by
  unfold Node.breakOff
  rw [h.stage hid]
  split
  · exact (h.logged _ _ _ _).andThen fun h => h.finish_matches hid
  · exact (h.logged _ _ _ _).andThen fun h => h.tearDown_matches hid _
  · exact h.idle

theorem retain_matches (h : Mirrors stays n m) (hid : stays id = true) (rest : ByteArray) :
    Matches stays (n.retain id rest) (m.retain (renumber stays id) rest) := by
  unfold Node.retain
  split
  · exact h.breakOff_matches hid _
  · exact (h.update hid _).idle

theorem receive_matches (h : Mirrors stays n m) (hid : stays id = true) (bytes : ByteArray) :
    Matches stays (n.receive id bytes) (m.receive (renumber stays id) bytes) := by
  unfold Node.receive
  rw [h.connection id hid]
  split
  · exact h.idle
  · refine (h.takeFrames_matches hid _).andThen fun h => ?_
    rw [h.stage hid]
    split
    · exact h.idle
    · exact h.retain_matches hid _

theorem endOfStream_matches (h : Mirrors stays n m) (hid : stays id = true) :
    Matches stays (n.endOfStream id) (m.endOfStream (renumber stays id)) := by
  unfold Node.endOfStream
  rw [h.connection id hid]
  split
  · exact h.idle
  · exact h.breakOff_matches hid _

theorem greet_matches (h : Mirrors stays n m) (hid : stays id = true) (c : Connection) :
    Matches stays (n.greet id c) (m.greet (renumber stays id) c) := by
  unfold Node.greet
  rw [h.localName]
  split
  · exact (h.logged _ _ _ _).andThen fun h => h.finish_matches hid
  · exact (h.logged _ _ _ _).andThen fun h => h.finish_matches hid
  · exact h.act (e := .sent id _) hid none none [] []

/-- A connection that stays comes to both nodes. -/
theorem arrive (h : Mirrors stays n m) (hid : stays n.nextId = true) {c : Connection}
    (before : c.stage = .introducing) : Mirrors stays (n.arrive c) (m.arrive c) where
  __ := h
  nextId := by
    show m.nextId + 1 = renumber stays (n.nextId + 1)
    rw [renumber_succ_of_stays hid, h.nextId]
  connection j hj := by
    show (m.connections.insert m.nextId c)[renumber stays j]? =
      (n.connections.insert n.nextId c)[j]?
    rw [lookup_insert, lookup_insert, h.connection j hj, h.nextId]
    simp only [renumber_inj hj hid]
  image j hj := by
    change (m.connections.insert m.nextId c)[j]? ≠ none at hj
    rw [lookup_insert] at hj
    by_cases hnew : j = m.nextId
    · exact ⟨n.nextId, hid, by rw [hnew, h.nextId]⟩
    · exact h.image j (by rwa [if_neg hnew] at hj)
  aside j role hserving := h.aside j role (Node.serving_of_arrive before hserving)

/-- A connection that is left out comes to one node alone. -/
theorem arrive_aside (h : Mirrors stays n m) (hid : stays n.nextId = false) {c : Connection}
    (before : c.stage = .introducing) : Mirrors stays (n.arrive c) m where
  __ := h
  nextId := by
    show m.nextId = renumber stays (n.nextId + 1)
    rw [renumber_succ_of_leaves hid, h.nextId]
  connection j hj := by
    have hne : j ≠ n.nextId := fun heq => by simp [heq, hid] at hj
    show m.connections[renumber stays j]? = (n.connections.insert n.nextId c)[j]?
    rw [lookup_insert, if_neg hne]
    exact h.connection j hj
  aside j role hserving := h.aside j role (Node.serving_of_arrive before hserving)

theorem accept_matches (h : Mirrors stays n m) (hid : stays n.nextId = true) (address : String)
    (fault : Option IoFault) :
    Matches stays (n.accept address fault) (m.accept address fault) := by
  let c : Connection := { address, fault, stage := .introducing }
  have hcome : Mirrors stays (n.arrive c) (m.arrive c) := h.arrive hid rfl
  show Matches stays (((n.arrive c).report [.accepted address]).andThen (·.greet n.nextId c))
    (((m.arrive c).report [.accepted address]).andThen (·.greet m.nextId c))
  rw [h.nextId]
  exact (hcome.logged _ _ _ _).andThen fun h => h.greet_matches hid c

/-! ### Writers -/

theorem flush_matches (h : Mirrors stays n m) (hid : stays id = true) :
    Matches stays (n.flush id) (m.flush (renumber stays id)) := by
  unfold Node.flush
  rw [h.connection id hid, h.stage hid]
  split
  case h_2 => exact h.idle
  case h_1 c role hc hrole =>
    have hsame := h.isOpen hid
    by_cases hopen : n.board.isOpen id = true
    case neg =>
      have hshut : n.board.isOpen id = false := by simpa using hopen
      rw [n.board.drain_of_shut hshut, m.board.drain_of_shut (hsame.trans hshut)]
      exact h.idle
    case pos =>
      obtain ⟨b, hdrain, hb⟩ := n.board.exists_drain hopen
      obtain ⟨b', hdrain', hb'⟩ := m.board.exists_drain (hsame.trans hopen)
      have hdrained := h.requeue hid hb hb'
      have hneeded : b'.isReferenced (renumber stays id) = b.isReferenced id := by
        rw [hb.isReferenced, hb'.isReferenced, h.isReferenced hid]
      rw [hdrain, hdrain', h.outbox id hid]
      simp only [hneeded]
      generalize deliver role.name c.fault (n.board.outbox id).queued = d
      -- What is written is written to the same peer.
      have hwritten : Matches stays
          ⟨{ n with board := b }, d.written.map (.sent id) ++ d.log.map (.logged (some id))⟩
          ⟨{ m with board := b' }, d.written.map (.sent (renumber stays id)) ++
            d.log.map (.logged (some (renumber stays id)))⟩ := by
        have hacts := hdrained.acts (d.written.map (.sent id)) ?_ (some id)
          (some (renumber stays id)) d.log d.log
        · rwa [List.map_map] at hacts
        · intro e he
          obtain ⟨frame, -, rfl⟩ := List.mem_map.1 he
          exact hid
      split
      · exact hwritten
      · refine hwritten.andThen fun h => ?_
        have hclosed := h.requeue hid (Switchboard.requeued_closeOutbox _ id)
          (Switchboard.requeued_closeOutbox _ (renumber stays id))
        exact hclosed.hangUp_matches hid

/-- A connection that is left out has no writer. -/
theorem flush_aside (h : Mirrors stays n m) (hid : stays id = false) : n.flush id = n.idle := by
  refine Node.flush_of_absent fun role hrole => ?_
  have hstays := h.aside id role hrole
  rw [hid] at hstays
  cases hstays

theorem flushEach_matches (h : Mirrors stays n m) (ids : List ConnectionId) :
    Matches stays (n.flushEach ids)
      (m.flushEach ((ids.filter stays).map (renumber stays))) := by
  induction ids generalizing n m with
  | nil => exact h.idle
  | cons id ids ih =>
    cases hid : stays id with
    | true =>
      rw [List.filter_cons_of_pos hid]
      exact (h.flush_matches hid).andThen fun h => ih h
    | false =>
      rw [List.filter_cons_of_neg (by simp [hid])]
      show Matches stays ((n.flush id).andThen _) _
      rw [h.flush_aside hid]
      exact ih h

/-- The connections of both nodes come in the same order. -/
theorem keys (h : Mirrors stays n m) :
    m.connections.keys = (n.connections.keys.filter stays).map (renumber stays) := by
  have hordered (t : Std.ExtTreeMap ConnectionId Connection) : t.keys.Pairwise (· < ·) :=
    t.ordered_keys.imp fun hlt => Nat.compare_eq_lt.1 hlt
  refine (hordered m.connections).eq_of_mem_iff ?_ fun j => ?_
  · rw [List.pairwise_map, List.pairwise_filter]
    exact (hordered n.connections).imp fun hlt hstays _ => renumber_lt hstays hlt
  · simp only [List.mem_map, List.mem_filter, Std.ExtTreeMap.mem_keys,
      Std.ExtTreeMap.mem_iff_isSome_getElem?]
    constructor
    · intro hj
      obtain ⟨id, hid, rfl⟩ := h.image j fun hnone => by simp [hnone] at hj
      rw [h.connection id hid] at hj
      exact ⟨id, ⟨hj, hid⟩, rfl⟩
    · rintro ⟨id, ⟨hsome, hid⟩, rfl⟩
      rwa [h.connection id hid]

theorem settle_matches (h : Mirrors stays n m) : Matches stays n.settle m.settle := by
  unfold Node.settle
  rw [h.keys]
  exact h.flushEach_matches n.connections.keys

/-! ### Other code -/

/-- A contact takes a payload at both nodes, or at neither. -/
theorem takes_iff (h : Mirrors stays n m) {c : Contact} (hc : n.board.Knows c)
    (payload : ByteArray) :
    m.board.Takes payload (c.renumber (renumber stays)) ↔ n.board.Takes payload c := by
  obtain ⟨hstays, hout⟩ := h.known c hc
  unfold Switchboard.Takes Contact.renumber
  rw [hout, h.isOpen hstays]

theorem send (h : Mirrors stays n m) {c : Contact} (hc : n.board.Knows c) (payload : ByteArray) :
    Mirrors stays { n with board := (n.board.send c payload).board }
      { m with board := (m.board.send (c.renumber (renumber stays)) payload).board } := by
  have hsame := h.takes_iff hc payload
  obtain ⟨hstays, hout⟩ := h.known c hc
  rcases n.board.send_cases c payload with ⟨htakes, hsend⟩ | ⟨htakes, -, hboard⟩ <;>
    rcases m.board.send_cases (c.renumber (renumber stays)) payload with
      ⟨htakes', hsend'⟩ | ⟨htakes', -, hboard'⟩
  · have hb := n.board.requeued_enqueue htakes.2 (Frame.wire payload)
    have hb' := m.board.requeued_enqueue htakes'.2 (Frame.wire payload)
    rw [hsend, hsend']
    simp only [Contact.renumber] at hb' ⊢
    rw [hout] at hb hb' ⊢
    rw [h.outbox c.id hstays] at hb'
    exact h.requeue hstays hb hb'
  · exact absurd (hsame.2 htakes) htakes'
  · exact absurd (hsame.1 htakes') htakes
  · rw [hboard, hboard']
    exact h

theorem sendEach (h : Mirrors stays n m) {cs : List Contact} (hcs : ∀ c ∈ cs, n.board.Knows c)
    (payload : ByteArray) :
    Mirrors stays { n with board := (n.board.sendEach payload cs).board }
      { m with board :=
          (m.board.sendEach payload (cs.map (·.renumber (renumber stays)))).board } := by
  induction cs generalizing n m with
  | nil => exact h
  | cons c cs ih =>
    obtain ⟨hroster, hkept⟩ := n.board.send_keeps c payload
    have hfirst := h.send (hcs c List.mem_cons_self) payload
    -- After the first contact the others are about still.
    refine ih hfirst fun d hd => ?_
    exact (Switchboard.knows_congr hroster hkept).2 (hcs d (List.mem_cons_of_mem _ hd))

theorem post_matches (h : Mirrors stays n m) (route : Route) (payload : ByteArray) :
    Matches stays (n.post route payload) (m.post route payload) := by
  have hknown : ∀ c ∈ n.board.addressees route, n.board.Knows c :=
    fun c hc => Switchboard.knows_of_mem_addressees hc
  have hsent := h.sendEach hknown payload
  rw [← h.addressees] at hsent
  -- The same contacts accept the payload.
  have haccepted : (m.board.post route payload).accepted =
      (n.board.post route payload).accepted.map (·.renumber (renumber stays)) := by
    rw [Switchboard.post_accepted, Switchboard.post_accepted, h.addressees, List.filter_map]
    refine congrArg _ (List.filter_congr fun c hc => ?_)
    exact decide_eq_decide.2 (h.takes_iff (hknown c hc) payload)
  have hacts := hsent.acts
    ((n.board.post route payload).accepted.map fun c => .accepted c.id payload) ?_
    none none (n.board.post route payload).log (m.board.post route payload).log
  · simp only [Node.post, haccepted, List.map_map] at hacts ⊢
    exact hacts
  · intro e he
    obtain ⟨c, hc, rfl⟩ := List.mem_map.1 he
    rw [Switchboard.post_accepted] at hc
    exact (h.known c (hknown c (List.mem_of_mem_filter hc))).1

theorem keep (h : Mirrors stays n m) (route : Route) (label : String) :
    Mirrors stays (n.keep route label) (m.keep route label) := by
  unfold Node.keep
  rw [h.addressees]
  cases hroute : n.board.addressees route with
  | nil => exact h
  | cons c rest =>
    have hc : n.board.Knows c := Switchboard.knows_of_mem_addressees (hroute ▸ List.mem_cons_self)
    refine { h with copies := fun other => ?_, known := fun d hd => ?_ }
    · show (m.board.kept.insert label _)[other]? = ((n.board.kept.insert label c)[other]?).map _
      rw [lookup_insert, lookup_insert, h.copies]
      split <;> rfl
    · rcases hd with hplace | ⟨other, hother⟩
      · exact h.known d (.inl hplace)
      · change (n.board.kept.insert label c)[other]? = some d at hother
        rw [lookup_insert] at hother
        split at hother
        · cases hother
          exact h.known c hc
        · exact h.known d (.inr ⟨other, hother⟩)

theorem release (h : Mirrors stays n m) (label : String) :
    Mirrors stays { n with board := (n.board.release label).2 }
      { m with board := (m.board.release label).2 } := by
  refine { h with copies := fun other => ?_, known := fun d hd => ?_ }
  · show (m.board.kept.erase label)[other]? = ((n.board.kept.erase label)[other]?).map _
    rw [lookup_erase, lookup_erase, h.copies]
    split <;> rfl
  · rcases hd with hplace | ⟨other, hother⟩
    · exact h.known d (.inl hplace)
    · change (n.board.kept.erase label)[other]? = some d at hother
      rw [lookup_erase] at hother
      split at hother
      · cases hother
      · exact h.known d (.inr ⟨other, hother⟩)

end Mirrors

end Overlay
