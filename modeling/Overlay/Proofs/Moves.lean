import Overlay.Proofs.View

namespace Overlay.Node

/-!
# The moves of a node

Whatever a node does is made up of a few moves, each of which changes what matters of one
connection at most. An invariant of all runs need only be checked move by move.

* `Cause` — on whose account a move is made;
* `Move` — one move: what it requires, what it changes, and what is recorded of it;
* `Moves` — moves one after another, for allowed causes only;
* `step_moves`, `run_moves` — every step and every run consists of moves.
-/

/-- On whose account a node makes a move. -/
inductive Cause where
  /-- A connection. -/
  | connection (id : ConnectionId)
  /-- The subscriber to events, who goes away. -/
  | subscriber
  /-- Writers, other code, and the owner of the listener. -/
  | others
deriving DecidableEq

/-- One move of a node. -/
inductive Move : Cause → Node → Step → Prop
  /-- Nothing that matters changes. -/
  | quiet {cause : Cause} {n : Node} {s : Step}
      (view : s.node.view = n.view) (record : s.record = []) : Move cause n s
  /-- The listener stops. -/
  | stop {n : Node} {s : Step}
      (view : s.node.view = { n.view with listening := false }) (record : s.record = []) :
      Move .others n s
  /-- The subscriber to events goes away. -/
  | detach {n : Node} {s : Step}
      (view : s.node.view = { n.view with bus := n.bus.detach }) (record : s.record = []) :
      Move .subscriber n s
  /-- A connection comes in. -/
  | arrive {n : Node} {s : Step} (address : String)
      (view : s.node.view =
        { n.view with
          nextId := n.nextId + 1
          intake := Function.update n.view.intake n.nextId (some ⟨address, .introducing, {}⟩) })
      (record : s.record = []) : Move (.connection n.nextId) n s
  /-- Bytes of a connection are kept for later. -/
  | retain {n : Node} {s : Step} {id : ConnectionId} (rest : ByteArray)
      (view : s.node.view = n.view.alter id ({ · with inbound := ⟨rest⟩ }))
      (record : s.record = []) : Move (.connection id) n s
  /-- A connection that has no place is given its verdict and ends. -/
  | refuse {n : Node} {s : Step} {id : ConnectionId} (verdict : Log.Entry)
      (refusal : verdict.isRefusal = true) (before : n.stage id = .introducing)
      (view : s.node.view = n.view.alter id ({ · with stage := .finished, inbound := {} }))
      (record : s.record = [.logged (some id) verdict]) : Move (.connection id) n s
  /-- A connection takes its place, by the name that its peer declared. -/
  | register {n : Node} {s : Step} {id : ConnectionId} {role : Role} {declared : ByteArray}
      (before : n.stage id = .introducing)
      (name : Introduction.ofBytes declared = .accepted role)
      (view : s.node.view = (n.register id role).node.view)
      (record : s.record = Effect.taking id role) : Move (.connection id) n s
  /-- A frame of a connection is handled. -/
  | handle {n : Node} {s : Step} {id : ConnectionId} {role : Role} (payload : ByteArray)
      (before : n.stage id = .serving role) (view : s.node.view = n.view)
      (record : s.record = Effect.serving id role [payload]) : Move (.connection id) n s
  /-- A connection that serves ends and leaves its place. Without a reason it is the handler that
  broke down. -/
  | tearDown {n : Node} {s : Step} {id : ConnectionId} {role : Role}
      (reason : Option Frame.Error) (before : n.stage id = .serving role)
      (view : s.node.view = (n.tearDown id role).node.view)
      (record : s.record = Effect.leaving id role reason) : Move (.connection id) n s

/-- Moves one after another, all for allowed causes. -/
inductive Moves (allowed : Cause → Prop) : Node → Step → Prop
  /-- No move at all. -/
  | idle {n : Node} : Moves allowed n n.idle
  /-- One move more. -/
  | more {n : Node} {s t : Step} {cause : Cause} (earlier : Moves allowed n s)
      (ok : allowed cause) (last : Move cause s.node t) :
      Moves allowed n ⟨t.node, s.effects ++ t.effects⟩

namespace Moves

variable {allowed : Cause → Prop} {n : Node} {s : Step}

/-- One move. -/
theorem of_move {cause : Cause} (ok : allowed cause) (h : Move cause n s) :
    Moves allowed n s := by
  have hmoves := Moves.more .idle ok h
  simpa [Node.idle] using hmoves

/-- Moves after moves. -/
theorem append {t : Step} (hs : Moves allowed n s) (ht : Moves allowed s.node t) :
    Moves allowed n ⟨t.node, s.effects ++ t.effects⟩ := by
  -- The later moves are added one by one to those before.
  induction ht with
  | idle => simpa [Node.idle] using hs
  | more _ ok last ih =>
    have hmoves := Moves.more ih ok last
    simpa [List.append_assoc] using hmoves

/-- Going on from moves with moves. -/
theorem andThen {next : Node → Step} (hs : Moves allowed n s)
    (ht : Moves allowed s.node (next s.node)) : Moves allowed n (s.andThen next) :=
  hs.append ht

/-- What any single move keeps, moves keep. The property speaks of a step, which grows. -/
theorem induct {P : Step → Prop} (h : Moves allowed n s) (h0 : P n.idle)
    (hmove : ∀ {cause s t}, P s → allowed cause → Move cause s.node t →
      P ⟨t.node, s.effects ++ t.effects⟩) : P s := by
  induction h with
  | idle => exact h0
  | more _ ok last ih => exact hmove ih ok last

end Moves

/-! ### A connection's own work -/

variable {allowed : Cause → Prop}

/-- A refusal is one move: the verdict, and the end. -/
theorem refusal_moves {n : Node} {id : ConnectionId} (ok : allowed (.connection id))
    {verdict : Log.Entry} (refusal : verdict.isRefusal = true)
    (before : n.stage id = .introducing) :
    Moves allowed n ((n.reportOn id [verdict]).andThen (·.finish id)) :=
  .of_move ok
    (.refuse verdict refusal before (view_finish n id) (record_refuse n id refusal))

theorem tearDown_moves {n : Node} {id : ConnectionId} {role : Role}
    (ok : allowed (.connection id)) (before : n.stage id = .serving role) :
    Moves allowed n (n.tearDown id role) :=
  .of_move ok (.tearDown none before rfl (record_tearDown n id role))

/-- The end of an established connection is one move: the verdict, and the teardown. -/
theorem parting_moves {n : Node} {id : ConnectionId} {role : Role}
    (ok : allowed (.connection id)) (reason : Frame.Error) (before : n.stage id = .serving role) :
    Moves allowed n ((n.reportOn id [parting role reason]).andThen (·.tearDown id role)) :=
  .of_move ok (.tearDown (some reason) before rfl (record_part n id role reason))

theorem hand_moves {n : Node} {id : ConnectionId} {role : Role} {payload : ByteArray}
    (ok : allowed (.connection id)) (before : n.stage id = .serving role) :
    Moves allowed n (n.hand id ⟨role.isApi, true, payload⟩
      (n.handler.handle n.messages ⟨role.isApi, true, payload⟩ n.calls)) :=
  .of_move ok (.handle payload before (view_hand ..) (record_hand n id role payload))

theorem dispatch_moves {n : Node} {id : ConnectionId} {role : Role}
    (ok : allowed (.connection id)) (before : n.stage id = .serving role)
    (payload : ByteArray) : Moves allowed n (n.dispatch id role payload) := by
  simp only [dispatch]
  split
  · exact (hand_moves ok before).andThen (tearDown_moves ok before)
  · exact hand_moves ok before

theorem takeFrame_moves (n : Node) {id : ConnectionId} (ok : allowed (.connection id))
    (payload : ByteArray) : Moves allowed n (n.takeFrame id payload) := by
  unfold takeFrame
  split
  case h_1 before =>
    split
    case h_1 => exact refusal_moves ok rfl before
    case h_2 role name =>
      exact .of_move ok (.register before name rfl (record_register n id role))
  case h_2 role before => exact dispatch_moves ok before payload
  case h_3 => exact .idle

theorem takeFrames_moves (n : Node) {id : ConnectionId} (ok : allowed (.connection id))
    (payloads : List ByteArray) : Moves allowed n (n.takeFrames id payloads) := by
  induction payloads generalizing n with
  | nil => exact .idle
  | cons payload payloads ih => exact (takeFrame_moves n ok payload).andThen (ih _)

theorem breakOff_moves (n : Node) {id : ConnectionId} (ok : allowed (.connection id))
    (cause : Frame.Error) : Moves allowed n (n.breakOff id cause) := by
  unfold breakOff
  split
  case h_1 before => exact refusal_moves ok rfl before
  case h_2 role before => exact parting_moves ok cause before
  case h_3 => exact .idle

theorem retain_moves (n : Node) {id : ConnectionId} (ok : allowed (.connection id))
    (rest : ByteArray) : Moves allowed n (n.retain id rest) := by
  unfold retain
  split
  · exact breakOff_moves n ok _
  · exact .of_move ok (.retain rest (view_update fun _ => rfl) rfl)

theorem receive_moves (n : Node) {id : ConnectionId} (ok : allowed (.connection id))
    (bytes : ByteArray) : Moves allowed n (n.receive id bytes) := by
  unfold receive
  split
  · exact .idle
  -- The frames first; then the bytes behind them, unless a frame has ended the connection.
  · refine (takeFrames_moves n ok _).andThen ?_
    split
    · exact .idle
    · exact retain_moves _ ok _

theorem endOfStream_moves (n : Node) {id : ConnectionId} (ok : allowed (.connection id)) :
    Moves allowed n (n.endOfStream id) := by
  unfold endOfStream
  split
  · exact .idle
  · exact breakOff_moves n ok _

theorem view_arrive (n : Node) (c : Connection) :
    (n.arrive c).view =
      { n.view with
        nextId := n.nextId + 1
        intake := Function.update n.view.intake n.nextId (some c.intake) } := by
  unfold arrive view
  congr 1
  funext j
  rw [lookup_insert, Function.update_apply]
  split <;> rfl

theorem greet_moves {n : Node} {id : ConnectionId} (ok : allowed (.connection id))
    (before : n.stage id = .introducing) (c : Connection) :
    Moves allowed n (n.greet id c) := by
  unfold greet
  split
  · exact refusal_moves ok rfl before
  · exact refusal_moves ok rfl before
  · exact .of_move ok (.quiet rfl rfl)

theorem accept_moves (n : Node) (ok : allowed (.connection n.nextId)) (address : String)
    (fault : Option IoFault) : Moves allowed n (n.accept address fault) := by
  have harrive : Moves allowed n
      ((n.arrive { address, fault, stage := .introducing }).report [.accepted address]) :=
    .of_move ok (.arrive address (view_arrive n _) (record_report _ _))
  -- The greeting may fail, and ends the connection while it is still to introduce itself.
  have hstage : (n.arrive { address, fault, stage := .introducing }).stage n.nextId =
      .introducing := by
    rw [← view_stage, view_arrive]
    simp [View.stage, Connection.intake]
  simp only [accept]
  refine harrive.andThen ?_
  exact greet_moves ok hstage _

/-! ### Writers and other code -/

/-- What a writer logs is no verdict. -/
theorem verdicts_deliver (name : String) (fault : Option IoFault) (frames : List ByteArray) :
    (deliver name fault frames).log.filter (·.isVerdict) = [] := by
  unfold deliver
  split <;> rfl

theorem roster_drain (b : Switchboard) (key : OutboxId) :
    (b.drain key).2.roster = b.roster := by
  unfold Switchboard.drain
  split <;> rfl

/-- What a writer writes and logs is not recorded. -/
theorem record_written (n : Node) (id : ConnectionId) (d : Delivery)
    (hlog : d.log.filter (·.isVerdict) = []) :
    (⟨n, d.written.map (.sent id) ++ d.log.map (.logged (some id))⟩ : Step).record = [] := by
  have hlogged := record_logged n id d.log
  rw [hlog] at hlogged
  rw [Step.record_append, hlogged]
  simp [Step.record, Effect.isRecord]

theorem view_board {n : Node} {board : Switchboard} (h : board.roster = n.board.roster) :
    ({ n with board } : Node).view = n.view := by
  simp [view, h]

/-- Work that changes nothing that matters is made up of moves, on anybody's account. -/
theorem quiet_moves {n : Node} {s : Step} (ok : allowed .others) (view : s.node.view = n.view)
    (record : s.record = []) : Moves allowed n s :=
  .of_move ok (.quiet view record)

theorem flush_moves (n : Node) (id : ConnectionId) (ok : allowed .others) :
    Moves allowed n (n.flush id) := by
  unfold flush
  split
  case h_2 => exact .idle
  case h_1 c role hc hrole =>
    split
    case h_1 => exact .idle
    case h_2 frames board hdrain =>
      have hroster : board.roster = n.board.roster := by
        rw [← roster_drain n.board id, hdrain]
      have hview : ({ n with board } : Node).view = n.view := view_board hroster
      have hrecord := record_written { n with board } id _
        (verdicts_deliver role.name c.fault frames)
      have hwritten := quiet_moves ok hview hrecord
      simp only
      split
      · exact hwritten
      -- The writer ends: its outbox closes, and its peer sees the end of the stream.
      · refine hwritten.andThen (quiet_moves ok ?_ (record_hangUp _ _))
        rw [view_hangUp]
        exact view_board rfl

theorem flushEach_moves (n : Node) (ids : List ConnectionId) (ok : allowed .others) :
    Moves allowed n (n.flushEach ids) := by
  induction ids generalizing n with
  | nil => exact .idle
  | cons id ids ih => exact (flush_moves n id ok).andThen (ih _)

theorem settle_moves (n : Node) (ok : allowed .others) : Moves allowed n n.settle :=
  flushEach_moves n _ ok

theorem post_moves (n : Node) (route : Route) (payload : ByteArray) (ok : allowed .others) :
    Moves allowed n (n.post route payload) := by
  refine quiet_moves ok (view_board (n.board.post_keeps route payload).1) ?_
  simp [post, Step.record, Effect.isRecord]

theorem view_keep (n : Node) (route : Route) (label : String) :
    (n.keep route label).view = n.view := by
  unfold keep
  split <;> rfl

/-! ### Inputs -/

/-- On whose account a node reacts to an input. -/
def cause (n : Node) : Input → Cause
  | .connect .. => .connection n.nextId
  | .receive id _ | .close id | .fail id _ => .connection id
  | .detachEvents => .subscriber
  | _ => .others

theorem react_moves (n : Node) (i : Input) (ok : allowed (n.cause i)) :
    Moves allowed n (n.react i) := by
  cases i with
  | connect address fault =>
    simp only [react]
    split
    · exact accept_moves n ok address fault
    · exact .idle
  | receive id bytes => exact receive_moves n ok bytes
  | close id => exact endOfStream_moves n ok
  | fail id fault => exact breakOff_moves n ok _
  | impair id fault => exact quiet_moves ok (view_update_of_intake fun _ => rfl) rfl
  | post route payload => exact post_moves n route payload ok
  | keep route label => exact quiet_moves ok (view_keep n route label) rfl
  | release label => exact quiet_moves ok (view_board rfl) rfl
  | detachEvents => exact .of_move ok (.detach rfl rfl)
  | detachMessages => exact quiet_moves ok rfl rfl
  | stopListening => exact .of_move ok (.stop rfl rfl)

/-- **A step consists of moves.** They are made on account of the input, and of writers. -/
theorem step_moves (n : Node) (i : Input) (ok : allowed (n.cause i)) (others : allowed .others) :
    Moves allowed n (n.step i) :=
  (react_moves n i ok).andThen (settle_moves _ others)

/-- **A run consists of moves.** -/
theorem run_moves (n : Node) (is : List Input) (others : allowed .others)
    (ok : ∀ m, ∀ i ∈ is, allowed (cause m i)) : Moves allowed n (n.run is) := by
  induction is generalizing n with
  | nil => exact .idle
  | cons i is ih =>
    have hstep : Moves allowed n (n.step i) := step_moves n i (ok n i (by simp)) others
    exact hstep.andThen (ih _ fun m j hj => ok m j (by simp [hj]))

/-- Any run consists of moves on anybody's account. -/
theorem run_moves_all (n : Node) (is : List Input) : Moves (fun _ => True) n (n.run is) :=
  run_moves n is trivial fun _ _ _ => trivial

end Overlay.Node
