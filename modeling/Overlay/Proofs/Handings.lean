import Overlay.Proofs.Life

namespace Overlay

/-!
# Frames that are handed over

The handler is given the frames of all connections one after another, and may break down on any of
them. Which one it breaks down on depends on how many it was given before, by any connection.

* `Step.handings` — the frames that are handed over, in order, each with its connection;
* `Node.Tallies`, `Node.tallies_run` — a node counts them all;
* `Node.BreaksOn` — the handler breaks down on a frame of a connection;
* `Node.takeFrames_serving_or_breaks` — a connection that serves goes on until that happens.
-/

/-- The frame that is handed over, with its connection. -/
def Effect.handing? : Effect → Option (ConnectionId × Message)
  | .handled id m => some (id, m)
  | _ => none

namespace Step

/-- The frames that are handed over, in order, each with its connection. -/
def handings (s : Step) : List (ConnectionId × Message) := s.effects.filterMap Effect.handing?

theorem handings_append (s t : Step) :
    (⟨t.node, s.effects ++ t.effects⟩ : Step).handings = s.handings ++ t.handings := by
  simp [handings]

theorem handings_eq (s : Step) : s.handings = s.record.filterMap Effect.handing? := by
  refine (filterMap_record (fun e he => ?_) s).symm
  cases e <;> first | rfl | cases he

/-- A frame that is handed over is recorded of its connection. -/
theorem mem_acts_of_handing {s : Step} {id : ConnectionId} {m : Message}
    (h : (id, m) ∈ s.handings) : .handled id m ∈ s.acts id := by
  rw [handings_eq, List.mem_filterMap] at h
  obtain ⟨e, hmem, hhanding⟩ := h
  cases e <;> cases hhanding
  exact List.mem_filter.2 ⟨hmem, decide_eq_true rfl⟩

end Step

namespace Effect

@[simp] theorem handing?_taking (id : ConnectionId) (role : Role) :
    (taking id role).filterMap handing? = [] := rfl

@[simp] theorem handing?_leaving (id : ConnectionId) (role : Role) (reason : Option Frame.Error) :
    (leaving id role reason).filterMap handing? = [] := by
  cases reason <;> rfl

end Effect

namespace Node

variable {n : Node} {s t : Step} {id : ConnectionId}

/-! ### The count -/

/-- A node counts the frames that it hands over. -/
def Tallies (n : Node) (s : Step) : Prop := s.node.calls = n.calls + s.handings.length

namespace Tallies

theorem of_record (calls : s.node.calls = n.calls)
    (record : s.record.filterMap Effect.handing? = []) : n.Tallies s := by
  rw [Tallies, Step.handings_eq, record, calls]
  rfl

theorem append (hs : n.Tallies s) (ht : s.node.Tallies t) :
    n.Tallies ⟨t.node, s.effects ++ t.effects⟩ := by
  rw [Tallies, Step.handings_append, List.length_append, ← Nat.add_assoc, ← hs]
  exact ht

theorem andThen {next : Node → Step} (hs : n.Tallies s) (ht : s.node.Tallies (next s.node)) :
    n.Tallies (s.andThen next) :=
  hs.append ht

end Tallies

theorem tallies_idle (n : Node) : n.Tallies n.idle := rfl

theorem calls_hangUp (n : Node) (id : ConnectionId) : (n.hangUp id).node.calls = n.calls := by
  unfold hangUp
  split <;> rfl

theorem calls_tearDown (n : Node) (id : ConnectionId) (role : Role) :
    (n.tearDown id role).node.calls = n.calls := calls_hangUp _ id

theorem tallies_tearDown (n : Node) (id : ConnectionId) (role : Role) :
    n.Tallies (n.tearDown id role) := by
  refine .of_record (calls_tearDown n id role) ?_
  rw [record_tearDown, Effect.handing?_leaving]

theorem tallies_refuse (n : Node) (id : ConnectionId) {verdict : Log.Entry}
    (refusal : verdict.isRefusal = true) :
    n.Tallies ((n.reportOn id [verdict]).andThen (·.finish id)) := by
  refine .of_record (calls_hangUp _ id) ?_
  rw [record_refuse n id refusal]
  rfl

theorem tallies_hand (n : Node) (id : ConnectionId) (role : Role) (payload : ByteArray) :
    n.Tallies (n.hand id ⟨role.isApi, true, payload⟩
      (n.handler.handle n.messages ⟨role.isApi, true, payload⟩ n.calls)) := by
  rw [Tallies, Step.handings_eq, record_hand]
  rfl

theorem tallies_dispatch (n : Node) (id : ConnectionId) (role : Role) (payload : ByteArray) :
    n.Tallies (n.dispatch id role payload) := by
  simp only [dispatch]
  split
  · exact (tallies_hand n id role payload).andThen (tallies_tearDown _ id role)
  · exact tallies_hand n id role payload

theorem tallies_takeFrame (n : Node) (id : ConnectionId) (payload : ByteArray) :
    n.Tallies (n.takeFrame id payload) := by
  unfold takeFrame
  split
  · split
    · exact tallies_refuse n id rfl
    · refine .of_record rfl ?_
      rw [record_register, Effect.handing?_taking]
  · exact tallies_dispatch n id _ payload
  · exact tallies_idle n

theorem tallies_takeFrames (n : Node) (id : ConnectionId) (payloads : List ByteArray) :
    n.Tallies (n.takeFrames id payloads) := by
  induction payloads generalizing n with
  | nil => exact tallies_idle n
  | cons payload payloads ih => exact (tallies_takeFrame n id payload).andThen (ih _)

theorem tallies_breakOff (n : Node) (id : ConnectionId) (cause : Frame.Error) :
    n.Tallies (n.breakOff id cause) := by
  unfold breakOff
  split
  · exact tallies_refuse n id rfl
  · refine .of_record (calls_tearDown _ id _) ?_
    rw [record_part, Effect.handing?_leaving]
  · exact tallies_idle n

theorem tallies_retain (n : Node) (id : ConnectionId) (rest : ByteArray) :
    n.Tallies (n.retain id rest) := by
  unfold retain
  split
  · exact tallies_breakOff n id _
  · rfl

theorem tallies_receive (n : Node) (id : ConnectionId) (bytes : ByteArray) :
    n.Tallies (n.receive id bytes) := by
  unfold receive
  split
  · exact tallies_idle n
  · refine (tallies_takeFrames n id _).andThen ?_
    split
    · exact tallies_idle _
    · exact tallies_retain _ id _

theorem tallies_accept (n : Node) (address : String) (fault : Option IoFault) :
    n.Tallies (n.accept address fault) := by
  have harrive (c : Connection) : n.Tallies ((n.arrive c).report [.accepted address]) :=
    .of_record rfl (by rw [record_report]; rfl)
  simp only [accept, greet]
  refine (harrive _).andThen ?_
  split
  · exact tallies_refuse _ _ rfl
  · exact tallies_refuse _ _ rfl
  · rfl

/-- Writers hand over no frame. -/
theorem handings_settle (n : Node) : n.settle.handings = [] := by
  refine List.eq_nil_iff_forall_not_mem.2 fun ⟨id, m⟩ hmem => ?_
  have hacts := Step.mem_acts_of_handing hmem
  rw [(settle_apart n id).1] at hacts
  cases hacts

theorem calls_flush (n : Node) (id : ConnectionId) : (n.flush id).node.calls = n.calls := by
  unfold flush
  split
  · split
    · rfl
    · simp only
      split
      · rfl
      · exact calls_hangUp _ id
  · rfl

theorem tallies_settle (n : Node) : n.Tallies n.settle := by
  have hcalls (ids : List ConnectionId) : (n.flushEach ids).node.calls = n.calls := by
    induction ids generalizing n with
    | nil => rfl
    | cons id ids ih => exact (ih _).trans (calls_flush n id)
  rw [Tallies, handings_settle, settle, hcalls]
  rfl

theorem tallies_react (n : Node) (i : Input) : n.Tallies (n.react i) := by
  cases i with
  | connect address fault =>
    simp only [react]
    split
    · exact tallies_accept n address fault
    · exact tallies_idle n
  | receive id bytes => exact tallies_receive n id bytes
  | close id =>
    simp only [react, endOfStream]
    split
    · exact tallies_idle n
    · exact tallies_breakOff n id _
  | fail id fault => exact tallies_breakOff n id _
  | post route payload =>
    refine .of_record rfl ?_
    simp [react, post, Step.record, Effect.isRecord]
  | keep route label =>
    refine .of_record ?_ rfl
    simp only [react, keep]
    split <;> rfl
  | impair | release | detachEvents | detachMessages | stopListening => rfl

/-- **A node counts all frames that it hands over.** -/
theorem tallies_run (n : Node) (is : List Input) : n.Tallies (n.run is) := by
  induction is generalizing n with
  | nil => exact tallies_idle n
  | cons i is ih => exact ((tallies_react n i).andThen (tallies_settle _)).andThen (ih _)

/-! ### Breaking down -/

/-- During a step that a node makes, its handler breaks down on a frame of a connection. -/
def BreaksOn (n : Node) (s : Step) (id : ConnectionId) : Prop :=
  ∃ (k : Nat) (m : Message), s.handings[k]? = some (id, m) ∧
    n.handler.breaksOn (n.calls + k) m = true

/-- Where no frame is handed over, the handler does not break down. -/
theorem not_breaksOn_of_record {acts : List Effect} (h : s.record = acts)
    (hacts : acts.filterMap Effect.handing? = []) : ¬ n.BreaksOn s id := by
  rintro ⟨k, m, hk, -⟩
  rw [Step.handings_eq, h, hacts] at hk
  cases hk

/-- Nor does it break down on a connection of which nothing is recorded. -/
theorem not_breaksOn_of_acts (h : s.acts id = []) : ¬ n.BreaksOn s id := by
  rintro ⟨k, m, hk, -⟩
  have hacts := Step.mem_acts_of_handing (List.mem_of_getElem? hk)
  rw [h] at hacts
  cases hacts

/-- **The handler breaks down now or later.** -/
theorem breaksOn_append (tallies : n.Tallies s) (handler : s.node.handler = n.handler)
    (t : Step) (id : ConnectionId) :
    n.BreaksOn ⟨t.node, s.effects ++ t.effects⟩ id ↔ n.BreaksOn s id ∨ s.node.BreaksOn t id := by
  unfold BreaksOn
  rw [Step.handings_append, handler, tallies]
  constructor
  · rintro ⟨k, m, hk, hbreaks⟩
    by_cases hlt : k < s.handings.length
    · rw [List.getElem?_append_left hlt] at hk
      exact .inl ⟨k, m, hk, hbreaks⟩
    · have hle : s.handings.length ≤ k := Nat.le_of_not_lt hlt
      rw [List.getElem?_append_right hle] at hk
      refine .inr ⟨k - s.handings.length, m, hk, ?_⟩
      rwa [Nat.add_assoc, Nat.add_sub_cancel' hle]
  · rintro (⟨k, m, hk, hbreaks⟩ | ⟨k, m, hk, hbreaks⟩)
    · refine ⟨k, m, ?_, hbreaks⟩
      rwa [List.getElem?_append_left (List.getElem?_eq_some_iff.1 hk).1]
    · refine ⟨s.handings.length + k, m, ?_, by rwa [← Nat.add_assoc]⟩
      rwa [List.getElem?_append_right (Nat.le_add_right _ _), Nat.add_sub_cancel_left]

/-- A run on whose first part a connection has no part. -/
theorem breaksOn_run_append {is : List Input} (h : (n.run is).acts id = []) (js : List Input) :
    n.BreaksOn (n.run (is ++ js)) id ↔
      (n.run is).node.BreaksOn ((n.run is).node.run js) id := by
  have handler : (n.run is).node.handler = n.handler := (run_moves_all n is).keeps.2.1
  have hparts := breaksOn_append (tallies_run n is) handler ((n.run is).node.run js) id
  rw [run_append]
  exact hparts.trans (or_iff_right (not_breaksOn_of_acts h))

/-- A frame of a connection that serves is handed over. Then the connection goes on, unless the
handler has broken down. -/
theorem takeFrame_serving_or_breaks {role : Role} (h : n.stage id = .serving role)
    (payload : ByteArray) :
    (n.takeFrame id payload).node.view = n.view ∧ ¬ n.BreaksOn (n.takeFrame id payload) id ∨
      (n.takeFrame id payload).node.stage id = .finished ∧
        n.BreaksOn (n.takeFrame id payload) id := by
  have hhanding : (Effect.serving id role [payload]).filterMap Effect.handing? =
      [(id, ⟨role.isApi, true, payload⟩)] := rfl
  simp only [takeFrame, h, dispatch, Handler.broke_handle]
  split
  case isTrue hbreaks =>
    refine .inr ⟨?_, 0, ⟨role.isApi, true, payload⟩, ?_, hbreaks⟩
    · rw [Step.node_andThen, ← view_stage, view_tearDown]
      exact View.stage_alter_finished fun _ => rfl
    · rw [Step.handings_eq, Step.record_andThen, record_hand, record_tearDown,
        List.filterMap_append, hhanding]
      rfl
  case isFalse hbreaks =>
    refine .inl ⟨view_hand .., ?_⟩
    rintro ⟨k, m, hk, hbroke⟩
    rw [Step.handings_eq, record_hand, hhanding] at hk
    cases k with
    | zero =>
      cases hk
      exact hbreaks hbroke
    | succ k => cases hk

/-- **The frames of a connection that serves** are handed over one by one, and the connection goes
on unless the handler breaks down on one of them. -/
theorem takeFrames_serving_or_breaks {role : Role} (h : n.stage id = .serving role)
    (payloads : List ByteArray) :
    (n.takeFrames id payloads).node.view = n.view ∧ ¬ n.BreaksOn (n.takeFrames id payloads) id ∨
      (n.takeFrames id payloads).node.stage id = .finished ∧
        n.BreaksOn (n.takeFrames id payloads) id := by
  induction payloads generalizing n with
  | nil => exact .inl ⟨rfl, not_breaksOn_of_acts rfl⟩
  | cons payload payloads ih =>
    have hmoves : Moves (fun _ => True) n (n.takeFrame id payload) :=
      takeFrame_moves n trivial payload
    have hlater := breaksOn_append (tallies_takeFrame n id payload) hmoves.keeps.2.1
      ((n.takeFrame id payload).node.takeFrames id payloads) id
    rcases takeFrame_serving_or_breaks h payload with ⟨hview, hwhole⟩ | ⟨hfinished, hbroke⟩
    · have hstage : (n.takeFrame id payload).node.stage id = .serving role := by
        rw [← view_stage, hview, view_stage, h]
      rcases ih hstage with ⟨hviews, hwholes⟩ | ⟨hfinished, hbroke⟩
      · exact .inl ⟨hviews.trans hview, fun hbreaks => (hlater.1 hbreaks).elim hwhole hwholes⟩
      · exact .inr ⟨hfinished, hlater.2 (.inr hbroke)⟩
    · refine .inr ⟨?_, hlater.2 (.inl hbroke)⟩
      rw [takeFrames, Step.node_andThen, takeFrames_finished hfinished]
      exact hfinished

end Node

end Overlay
