import Overlay.Proofs.Lines

namespace Overlay

/-!
# Delivery

A payload that is accepted for a connection is written to that connection, once, whole, and in the
order of acceptance; nothing else is written to anybody.

* `Step.upTo` — what a step has done at a given moment;
* `DeliveryExact` — what is promised of it;
* `Node.post_postings` — for whom a payload is accepted that is sent along a route;
* `Node.post_refused` — a payload that nobody accepts leaves no trace;
* `Node.delivery_exact` — the promises are kept at every moment, at whatever pace writers work.
-/

/-- What a step has done after its first `k` acts. -/
def Step.upTo (s : Step) (k : Nat) : Step := { s with effects := s.effects.take k }

theorem Step.trafficOf_upTo (s : Step) (k : Nat) (id : ConnectionId) :
    (s.upTo k).trafficOf id <+: s.trafficOf id := by
  rw [trafficOf_eq, trafficOf_eq]
  exact (List.take_prefix k s.effects).filter _

/-- The promises of delivery, for a schedule that has led to the step `s`. -/
structure DeliveryExact (localName : String) (s : Step) : Prop where
  /-- Bytes are written only if the node's name has a frame. -/
  greeting : ∀ id, s.bytesTo id ≠ .empty →
    Frame.encode localName.toUTF8 = .ok (Frame.wire localName.toUTF8)
  /-- Every payload that was accepted has a frame. -/
  frames : ∀ id, ∀ payload ∈ s.payloadsTo id, Frame.encode payload = .ok (Frame.wire payload)
  /-- At every moment the bytes written to a connection are the beginning of the greeting and the
  frames of the payloads accepted for it so far, in the order of acceptance. -/
  always : ∀ k id, ∃ rest, (s.upTo k).bytesTo id ++ rest =
    Frame.wire localName.toUTF8 ++ Frame.wireAll ((s.upTo k).payloadsTo id)
  /-- They are all of it when nothing is left to do for the connection's writer, if the connection
  has not ended and writing to it works. -/
  complete : ∀ id, s.node.stage id ≠ .finished → (s.node.outlet id).fault = none →
    s.node.IsSettled id →
      s.bytesTo id = Frame.wire localName.toUTF8 ++ Frame.wireAll (s.payloadsTo id)
  /-- It comes to that as soon as the writers have had their turn. -/
  settles : s.node.settle.node.IsQuiet
  /-- A connection has a writer while it serves and the node has not hung up on it. -/
  writer : ∀ id, s.node.board.isOpen id = true ↔
    (∃ role, s.node.stage id = .serving role) ∧ s.hangsUpOn id = false
  /-- A payload sent along a route is accepted for those connections on it that have a writer,
  provided that it has a frame. -/
  accepted : ∀ route payload, (s.node.post route payload).postings =
    ((s.node.board.addressees route).filter
      fun c => Frame.Fits payload ∧ s.node.board.isOpen c.id = true).map
        fun c => (c.id, payload)
  /-- It is accepted for none of them twice. -/
  once : ∀ route payload, ((s.node.post route payload).postings.map (·.1)).Nodup
  /-- If nobody accepts it then nothing is queued for anybody, and nothing is written. -/
  refused : ∀ route payload, (s.node.post route payload).postings = [] →
    (s.node.post route payload).node = s.node ∧
      ∀ id, (s.node.post route payload).bytesTo id = .empty

namespace Node

/-! ### Sending -/

/-- **For whom a payload is accepted:** those on the route who can take it. -/
theorem post_postings (n : Node) (route : Route) (payload : ByteArray) :
    (n.post route payload).postings =
      ((n.board.addressees route).filter (n.board.Takes payload ·)).map
        fun c => (c.id, payload) := by
  have hlogged (log : List Log.Entry) :
      (⟨n, log.map (.logged none)⟩ : Step).postings = [] := by
    induction log with
    | nil => rfl
    | cons _ _ ih => exact ih
  have haccepted (cs : List Contact) (log : List Log.Entry) :
      (⟨n, cs.map (fun c => .accepted c.id payload) ++ log.map (.logged none)⟩ : Step).postings =
        cs.map fun c => (c.id, payload) := by
    induction cs with
    | nil => exact hlogged log
    | cons c cs ih => exact congrArg (List.cons (c.id, payload)) ih
  rw [← Switchboard.post_accepted]
  exact haccepted _ _

/-- **A payload that nobody accepts leaves no trace.** -/
theorem post_refused {n : Node} {route : Route} {payload : ByteArray}
    (h : (n.post route payload).postings = []) :
    (n.post route payload).node = n ∧ (n.post route payload).traffic = [] := by
  have hnobody : (n.board.post route payload).accepted = [] := by
    rw [post_postings, List.map_eq_nil_iff] at h
    rw [Switchboard.post_accepted]
    exact h
  have hboard := Switchboard.post_refused hnobody
  have heffects : (n.post route payload).effects =
      (n.board.post route payload).log.map (.logged none) := by
    show (n.board.post route payload).accepted.map _ ++ _ = _
    rw [hnobody]
    rfl
  constructor
  · show ({ n with board := (n.board.post route payload).board } : Node) = n
    rw [hboard]
  · have hlogged := traffic_logged n none (n.board.post route payload).log
    unfold Step.traffic at hlogged ⊢
    rw [heffects]
    exact hlogged

end Node

/-- No two contacts on a route are of one connection. -/
theorem Placed.addressees_nodup {s : Step} (hs : Placed s) (route : Route) :
    ((s.node.board.addressees route).map (·.id)).Nodup := by
  refine Switchboard.addressees_nodup_map (fun name name' c d hc hd hid => ?_) route
  -- Of one connection there is one place, so the names are the same.
  have hplace := hs.place_unique hc hd hid
  rwa [Place.client.injEq] at hplace

namespace Node

variable (localName : String) (handler : Handler) (bus : Bus)

/-- Nothing has to be done by a node to which no connection has come. -/
theorem quiet_fresh : (fresh localName handler bus).IsQuiet := by
  intro id role hrole
  cases hrole

theorem delivery_of_play (ps : List Pulse) :
    DeliveryExact localName ((fresh localName handler bus).play ps) := by
  have hs := conducted_play localName handler bus ps
  have hplaced := placed_play localName handler bus ps
  generalize (fresh localName handler bus).play ps = s at hs hplaced
  have hopen (id : ConnectionId) : s.node.board.isOpen id = (s.node.outlet id).outbox.isOpen := by
    rw [Switchboard.isOpen_eq, outlet_outbox]
  have hpostings (route : Route) (payload : ByteArray) :
      (s.node.post route payload).postings =
        ((s.node.board.addressees route).filter
          fun c => Frame.Fits payload ∧ s.node.board.isOpen c.id = true).map
            fun c => (c.id, payload) := by
    rw [post_postings]
    congr 1
    refine List.filter_congr fun c hc => decide_eq_decide.2 ?_
    unfold Switchboard.Takes
    rw [hs.addressed c (Switchboard.knows_of_mem_addressees hc)]
  constructor
  case greeting =>
    intro id hsome
    rw [Step.bytesTo_eq] at hsome
    exact Frame.encode_eq_ok_iff.2 ⟨(hs.line id).fits_greeting hsome, rfl⟩
  case frames =>
    intro id payload hmem
    rw [Step.payloadsTo_eq] at hmem
    exact Frame.encode_eq_ok_iff.2 ⟨(hs.line id).fits_of_mem_taken hmem, rfl⟩
  case always =>
    intro k id
    rw [Step.bytesTo_eq, Step.payloadsTo_eq]
    exact (hs.line id).begins (s.trafficOf_upTo k id)
  case complete =>
    intro id hstage works hsettled
    rw [Step.bytesTo_eq, Step.payloadsTo_eq]
    refine (hs.line id).complete (by rwa [outlet_stage]) works ?_
    -- Where nothing is left to do, nothing waits.
    by_cases hwriter : (s.node.outlet id).outbox.isOpen = true
    -- The writer is there, and idle.
    · obtain ⟨⟨role, hrole⟩, -⟩ := (hs.line id).open_iff.1 hwriter
      rw [outlet_stage] at hrole
      rw [← hopen] at hwriter
      rw [outlet_outbox]
      exact (hsettled role hrole hwriter).1
    · exact (hs.line id).empty_of_shut hwriter
  case settles => exact settle_quiet s.node
  case writer =>
    intro id
    have hhungUp : s.hangsUpOn id = false ↔ .hungUp id ∉ s.trafficOf id := by
      rw [← Step.hangsUpOn_iff, Bool.not_eq_true]
    rw [hopen, (hs.line id).open_iff, hhungUp, outlet_stage]
  case accepted => exact hpostings
  case once =>
    intro route payload
    rw [hpostings, List.map_map]
    have hsub := (List.filter_sublist (p := fun c : Contact =>
      decide (Frame.Fits payload ∧ s.node.board.isOpen c.id = true))
      (l := s.node.board.addressees route)).map (·.id)
    exact (hplaced.addressees_nodup route).sublist hsub
  case refused =>
    intro route payload h
    obtain ⟨hnode, htraffic⟩ := post_refused h
    refine ⟨hnode, fun id => ?_⟩
    rw [Step.bytesTo_eq, Step.trafficOf, htraffic]
    rfl

/-- **Delivery is exact.** At whatever pace writers work, and at every moment: what has been
written to a connection is the beginning of the greeting and the frames of the payloads accepted
for it, in the order of acceptance; when its writer has nothing left to do it is all of that,
whoever holds the connection's place by then. A payload is accepted only for those to whom its
route leads, and once for each; what is not accepted leaves no trace. A run is one such schedule,
and after it no writer has anything left to do. -/
theorem delivery_exact :
    (∀ ps, DeliveryExact localName ((fresh localName handler bus).play ps)) ∧
      ∀ is, DeliveryExact localName ((fresh localName handler bus).run is) ∧
        ((fresh localName handler bus).run is).node.IsQuiet := by
  refine ⟨delivery_of_play localName handler bus, fun is => ⟨?_, ?_⟩⟩
  · obtain ⟨ps, hplay⟩ := run_eq_play (fresh localName handler bus) is
    rw [hplay]
    exact delivery_of_play localName handler bus ps
  · exact run_quiet (quiet_fresh localName handler bus) is

end Node

end Overlay
