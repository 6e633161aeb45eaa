import Overlay.Proofs.Moves
import Overlay.Proofs.Segmentation

namespace Overlay

/-!
# Reading from one connection

What a connection has come to is a function of the bytes read from it, however they were cut.

* `Effect.life` — all that is ever recorded of a connection, said of the frames of its stream;
* `Heard` — a stage, the bytes that wait and the record so far fit the bytes read so far;
* `Node.takeFrames_heard`, `Node.retain_hears`, `Node.receive_hears` — more bytes are read, and
  it still fits;
* `Node.endOfStream_hears` — the stream ends, and the record is that of a whole life.
-/

namespace Effect

/-- A connection at a stage gives no further frame. -/
def breakingOff (id : ConnectionId) (address : String) (reason : Frame.Error) :
    Stage → List Effect
  | .introducing => [.logged (some id) (.handshakeFailed (.introduction address reason))]
  | .serving role => leaving id role (some reason)
  | .finished => []

/-- The life of a connection from `address` whose peer sends `frames`, and then nothing that
makes up another frame, for the given reason. Without a frame the exchange of names fails. The
first frame is the peer's name: it is declined, and whatever follows is ignored; or the peer takes
its place and announces that, the other frames are handled one by one, the reason is noted, and
the peer leaves its place and announces that. -/
def life (id : ConnectionId) (address : String) (frames : List ByteArray)
    (reason : Frame.Error) : List Effect :=
  match frames with
  | [] => [.logged (some id) (.handshakeFailed (.introduction address reason))]
  | name :: payloads =>
    match Introduction.ofBytes name with
    | .declined => [.logged (some id) (.declined address)]
    | .accepted role =>
      taking id role ++ serving id role payloads ++ leaving id role (some reason)

end Effect

/-- A handler that never breaks down. -/
def Handler.IsSteady (h : Handler) : Prop := ∀ earlier m, h.breaksOn earlier m = false

/-- A connection from `address` from which the bytes `s` were read: its stage, the bytes that wait
for the rest of their frame, and what has been recorded. -/
inductive Heard (id : ConnectionId) (address : String) (s : ByteArray) :
    Stage → ByteArray → List Effect → Prop
  /-- No frame is whole. -/
  | introducing {rest : ByteArray} (split : Frame.split s = ([], rest)) :
      Heard id address s .introducing rest []
  /-- The first frame has given the peer its role. -/
  | serving {name rest : ByteArray} {payloads : List ByteArray} {role : Role}
      (split : Frame.split s = (name :: payloads, rest))
      (accepted : Introduction.ofBytes name = .accepted role) :
      Heard id address s (.serving role) rest
        (Effect.taking id role ++ Effect.serving id role payloads)
  /-- The connection has ended, and no further byte could change what is recorded of it. -/
  | finished {rest : ByteArray} {acts : List Effect}
      (final : ∀ more frames left reason, Frame.Parses (s ++ more) frames left reason →
        acts = Effect.life id address frames reason) :
      Heard id address s .finished rest acts

namespace Heard

variable {id : ConnectionId} {address : String} {s rest : ByteArray} {stage : Stage}
  {acts : List Effect}

/-- **The end of a life.** If the stream ends here, the record is that of a whole life. -/
theorem life_eq (h : Heard id address s stage rest acts) {frames : List ByteArray}
    {left : ByteArray} {reason : Frame.Error} (parse : Frame.Parses s frames left reason) :
    acts ++ Effect.breakingOff id address reason stage =
      Effect.life id address frames reason := by
  obtain ⟨hframes, -⟩ := parse.eq_split
  cases h with
  | introducing split =>
    obtain rfl : [] = frames := congrArg Prod.fst (split.symm.trans hframes)
    rfl
  | serving split accepted =>
    obtain rfl : _ = frames := congrArg Prod.fst (split.symm.trans hframes)
    simp only [Effect.life, accepted]
    rfl
  | finished final =>
    rw [Effect.breakingOff, List.append_nil]
    exact final .empty frames left reason (by rwa [ByteArray.append_empty])

/-- A connection that has ended does not mind what bytes come. -/
theorem append_of_finished (h : Heard id address s .finished rest acts)
    (more left : ByteArray) : Heard id address (s ++ more) .finished left acts := by
  cases h with
  | finished final =>
    refine .finished fun more' frames left reason parse => ?_
    rw [ByteArray.append_assoc] at parse
    exact final _ frames left reason parse

/-- What waits at a connection that has ended is of no matter. -/
theorem of_finished (h : Heard id address s .finished rest acts) (left : ByteArray) :
    Heard id address s .finished left acts := by
  cases h with
  | finished final => exact .finished final

/-- Behind an oversized header no frame ever becomes whole. -/
theorem append_of_oversized (h : Heard id address s stage rest acts) {length : Nat}
    (hfront : Frame.front rest = .oversized length) (more : ByteArray) :
    Heard id address (s ++ more) stage (rest ++ more) acts := by
  have hsplit {frames : List ByteArray} (h : Frame.split s = (frames, rest)) :
      Frame.split (s ++ more) = (frames, rest ++ more) := by
    have hlarge : Frame.front (Frame.split s).2 = .oversized length := by rw [h]; exact hfront
    rw [Frame.split_append_of_oversized hlarge, h]
  cases h with
  | introducing split => exact .introducing (hsplit split)
  | serving split accepted => exact .serving (hsplit split) accepted
  | finished final =>
    have hended : Heard id address s .finished rest acts := .finished final
    exact hended.append_of_finished more _

/-- The bytes that wait behind the whole frames. -/
theorem split_snd (h : Heard id address s stage rest acts) (hne : stage ≠ .finished) :
    (Frame.split s).2 = rest := by
  cases h with
  | introducing split => rw [split]
  | serving split => rw [split]
  | finished => exact absurd rfl hne

end Heard

namespace Node

variable {n : Node} {id : ConnectionId} {address : String}

/-! ### What a connection's own work comes to -/

theorem View.intake_alter (v : View) (id : ConnectionId) (change : Intake → Intake) :
    (v.alter id change).intake id = (v.intake id).map change := by
  simp [alter]

theorem stage_of_intake {i : Intake} (h : n.view.intake id = some i) : n.stage id = i.stage := by
  rw [← view_stage]
  simp [View.stage, h]

theorem address_of_intake {i : Intake} (h : n.view.intake id = some i) :
    n.address id = i.address := by
  rw [address_eq, h]
  rfl

/-- A connection that gives no further frame ends, with the record for its stage. -/
theorem breakOff_exact {stage : Stage} {d : Frame.Decoder}
    (h : n.view.intake id = some ⟨address, stage, d⟩) (hne : stage ≠ .finished)
    (reason : Frame.Error) :
    (n.breakOff id reason).record = Effect.breakingOff id address reason stage ∧
      (n.breakOff id reason).node.view.intake id = some ⟨address, .finished, {}⟩ := by
  have hstage := stage_of_intake h
  have haddress := address_of_intake h
  cases stage with
  | introducing =>
    simp only [breakOff, hstage, haddress]
    refine ⟨record_refuse n id rfl, ?_⟩
    rw [Step.node_andThen, view_finish, View.intake_alter, node_reportOn, h]
    rfl
  | serving role =>
    simp only [breakOff, hstage]
    refine ⟨record_part n id role reason, ?_⟩
    rw [Step.node_andThen, view_tearDown, View.intake_alter, node_reportOn]
    show (n.view.intake id).map _ = _
    rw [h]
    rfl
  | finished => exact absurd rfl hne

/-- A peer that declares the sentinel is turned down. -/
theorem takeFrame_declined {d : Frame.Decoder} {declared : ByteArray}
    (h : n.view.intake id = some ⟨address, .introducing, d⟩)
    (name : Introduction.ofBytes declared = .declined) :
    (n.takeFrame id declared).record = [.logged (some id) (.declined address)] ∧
      (n.takeFrame id declared).node.view.intake id = some ⟨address, .finished, {}⟩ := by
  simp only [takeFrame, stage_of_intake h, name, address_of_intake h]
  refine ⟨record_refuse n id rfl, ?_⟩
  rw [Step.node_andThen, view_finish, View.intake_alter, node_reportOn, h]
  rfl

/-- A peer that declares any other name takes its place. -/
theorem takeFrame_accepted {d : Frame.Decoder} {declared : ByteArray} {role : Role}
    (h : n.view.intake id = some ⟨address, .introducing, d⟩)
    (name : Introduction.ofBytes declared = .accepted role) :
    (n.takeFrame id declared).record = Effect.taking id role ∧
      (n.takeFrame id declared).node.handler = n.handler ∧
      (n.takeFrame id declared).node.view.intake id = some ⟨address, .serving role, d⟩ := by
  simp only [takeFrame, stage_of_intake h, name]
  refine ⟨record_register n id role, congrArg View.handler (view_register n id role), ?_⟩
  rw [view_register, View.intake_alter]
  show (n.view.intake id).map _ = _
  rw [h]
  rfl

/-- A steady handler is given a frame, and that is all. -/
theorem takeFrame_serving (steady : n.handler.IsSteady) {role : Role}
    (h : n.stage id = .serving role) (payload : ByteArray) :
    (n.takeFrame id payload).record = Effect.serving id role [payload] ∧
      (n.takeFrame id payload).node.view = n.view := by
  have hbroke : (n.handler.handle n.messages ⟨role.isApi, true, payload⟩ n.calls).broke =
      false := (Handler.broke_handle ..).trans (steady ..)
  simp only [takeFrame, h, dispatch, hbroke, Bool.false_eq_true, if_false]
  exact ⟨record_hand n id role payload, view_hand ..⟩

/-- A steady handler is given all frames in order. -/
theorem takeFrames_serving (steady : n.handler.IsSteady) {role : Role}
    (h : n.stage id = .serving role) (payloads : List ByteArray) :
    (n.takeFrames id payloads).record = Effect.serving id role payloads ∧
      (n.takeFrames id payloads).node.view = n.view := by
  induction payloads generalizing n with
  | nil => exact ⟨rfl, rfl⟩
  | cons payload payloads ih =>
    obtain ⟨hrecord, hview⟩ := takeFrame_serving steady h payload
    have hsteady : (n.takeFrame id payload).node.handler.IsSteady := by
      rw [show (n.takeFrame id payload).node.handler = n.handler from congrArg View.handler hview]
      exact steady
    have hstage : (n.takeFrame id payload).node.stage id = .serving role := by
      rw [← view_stage, hview, view_stage, h]
    obtain ⟨hrecords, hviews⟩ := ih hsteady hstage
    simp only [takeFrames]
    rw [Step.record_andThen, Step.node_andThen, hrecord, hrecords, hviews, hview]
    exact ⟨rfl, rfl⟩

/-- Frames of a connection that has ended are ignored. -/
theorem takeFrames_finished (h : n.stage id = .finished) (payloads : List ByteArray) :
    n.takeFrames id payloads = n.idle := by
  induction payloads with
  | nil => rfl
  | cons payload payloads ih =>
    have hidle : n.takeFrame id payload = n.idle := by simp only [takeFrame, h]
    simp only [takeFrames, hidle]
    show (n.takeFrames id payloads) = n.idle
    exact ih

/-! ### More bytes -/

/-- **All frames that become whole are taken.** -/
theorem takeFrames_heard (steady : n.handler.IsSteady) {s rest bytes left : ByteArray}
    {frames : List ByteArray} {stage : Stage} {d : Frame.Decoder} {acts : List Effect}
    (h : n.view.intake id = some ⟨address, stage, d⟩)
    (heard : Heard id address s stage rest acts)
    (hsplit : Frame.split (rest ++ bytes) = (frames, left)) :
    ∃ stage' d', (n.takeFrames id frames).node.view.intake id = some ⟨address, stage', d'⟩ ∧
      Heard id address (s ++ bytes) stage' left (acts ++ (n.takeFrames id frames).record) := by
  cases heard with
  | finished final =>
    have hstage : n.stage id = .finished := stage_of_intake h
    rw [takeFrames_finished hstage, record_idle, List.append_nil]
    have hended : Heard id address s .finished rest acts := .finished final
    exact ⟨.finished, d, h, hended.append_of_finished bytes left⟩
  | @serving name _ payloads role split accepted =>
    obtain ⟨hrecord, hview⟩ := takeFrames_serving steady (stage_of_intake h) frames
    rw [hrecord, hview, List.append_assoc, ← Effect.serving_append]
    have hwhole : Frame.split (s ++ bytes) = (name :: (payloads ++ frames), left) := by
      rw [Frame.split_append, split, hsplit]
      rfl
    exact ⟨.serving role, d, h, .serving hwhole accepted⟩
  | introducing split =>
    have hwhole : Frame.split (s ++ bytes) = (frames, left) := by
      rw [Frame.split_append, split, hsplit]
      rfl
    rw [List.nil_append]
    cases frames with
    | nil => exact ⟨.introducing, d, h, .introducing hwhole⟩
    | cons name payloads =>
      cases hname : Introduction.ofBytes name with
      | declined =>
        obtain ⟨hrecord, hintake⟩ := takeFrame_declined h hname
        have hidle := takeFrames_finished (stage_of_intake hintake) payloads
        simp only [takeFrames]
        rw [Step.record_andThen, Step.node_andThen, hidle, hrecord]
        refine ⟨.finished, {}, hintake, .finished fun more frames left' reason parse => ?_⟩
        -- Whatever comes, the first frame is the sentinel.
        have hframes := congrArg Prod.fst parse.eq_split.1
        rw [Frame.split_append, hwhole] at hframes
        obtain rfl := hframes
        simp only [Effect.life, List.cons_append, hname]
        rfl
      | accepted role =>
        -- The frames behind the name are handled at once.
        obtain ⟨hrecord, hhandler, hintake⟩ := takeFrame_accepted h hname
        have hsteady : (n.takeFrame id name).node.handler.IsSteady := by rwa [hhandler]
        obtain ⟨hrecords, hview⟩ :=
          takeFrames_serving hsteady (stage_of_intake hintake) payloads
        simp only [takeFrames]
        rw [Step.record_andThen, Step.node_andThen, hrecord, hrecords, hview]
        exact ⟨.serving role, d, hintake, .serving hwhole hname⟩

/-- What is known of a connection from which the bytes `s` were read, between two inputs: the
bytes that wait do not declare an oversized frame. -/
structure Hears (n : Node) (id : ConnectionId) (address : String) (s : ByteArray)
    (acts : List Effect) (stage : Stage) (rest : ByteArray) : Prop where
  /-- The reading side of the connection. -/
  intake : n.view.intake id = some ⟨address, stage, ⟨rest⟩⟩
  /-- Stage and record fit the bytes read. -/
  heard : Heard id address s stage rest acts
  /-- The bytes that wait are the beginning of a legal frame. -/
  waiting : stage ≠ .finished → Frame.front rest = .incomplete

/-- **The bytes behind the frames are kept, or end the connection.** -/
theorem retain_hears {s rest : ByteArray} {stage : Stage} {d : Frame.Decoder}
    {acts : List Effect} (h : n.view.intake id = some ⟨address, stage, d⟩)
    (heard : Heard id address s stage rest acts) (hne : stage ≠ .finished) :
    ∃ stage' rest', (n.retain id rest).node.Hears id address s
      (acts ++ (n.retain id rest).record) stage' rest' := by
  unfold retain
  split
  case h_1 length hfront =>
    obtain ⟨hrecord, hintake⟩ := breakOff_exact h hne (.tooLarge length)
    rw [hrecord]
    refine ⟨.finished, .empty, hintake, .finished fun more frames left reason parse => ?_, ?_⟩
    -- However the stream goes on, it ends with this header as its leftover.
    · have hmore := heard.append_of_oversized hfront more
      obtain ⟨hsplit, hending⟩ := parse.eq_split
      have hleft : rest ++ more = left := by rw [← hmore.split_snd hne, hsplit]
      rw [← hleft, Frame.ending, Frame.front_append_of_oversized hfront] at hending
      subst hending
      exact hmore.life_eq parse
    · exact fun hfinished => absurd rfl hfinished
  case h_2 hfront =>
    have hview : (n.update id ({ · with inbound := ⟨rest⟩ })).view =
        n.view.alter id ({ · with inbound := ⟨rest⟩ }) := view_update fun _ => rfl
    rw [record_idle, List.append_nil]
    refine ⟨stage, rest, ?_, heard, fun _ => ?_⟩
    · rw [node_idle, hview, View.intake_alter, h]
      rfl
    -- Neither a frame nor an oversized header is in front, so part of a frame is.
    · rw [← heard.split_snd hne] at hfront ⊢
      refine (Frame.front_split_cases s).resolve_right ?_
      rintro ⟨length, hlarge⟩
      exact hfront length hlarge

/-- **More bytes are read.** -/
theorem receive_hears (steady : n.handler.IsSteady) {s rest : ByteArray} {stage : Stage}
    {acts : List Effect} (h : n.Hears id address s acts stage rest) (bytes : ByteArray) :
    ∃ stage' rest', (n.receive id bytes).node.Hears id address (s ++ bytes)
      (acts ++ (n.receive id bytes).record) stage' rest' := by
  obtain ⟨c, hc, hintake⟩ := Option.map_eq_some_iff.1 h.intake
  have hinbound : c.inbound = ⟨rest⟩ := congrArg Intake.inbound hintake
  cases hsplit : Frame.split (rest ++ bytes) with
  | mk frames left =>
    obtain ⟨stage', d', hintake', hheard'⟩ :=
      takeFrames_heard steady h.intake h.heard hsplit
    have hsplit' : Frame.split (c.inbound.push bytes).buffer = (frames, left) := by
      rw [hinbound]
      exact hsplit
    have hstage' : (n.takeFrames id frames).node.stage id = stage' := stage_of_intake hintake'
    simp only [receive, hc, hsplit']
    rw [Step.record_andThen, Step.node_andThen, hstage', ← List.append_assoc]
    split
    case isTrue hfinished =>
      subst hfinished
      rw [record_idle, List.append_nil]
      exact ⟨.finished, d'.buffer, hintake', hheard'.of_finished d'.buffer,
        fun hne => absurd rfl hne⟩
    case isFalse hne => exact retain_hears hintake' hheard' hne

/-- **The stream ends**, and with it the life of the connection. -/
theorem endOfStream_hears {s rest left : ByteArray} {stage : Stage} {acts : List Effect}
    (h : n.Hears id address s acts stage rest) {frames : List ByteArray} {reason : Frame.Error}
    (parse : Frame.Parses s frames left reason) :
    acts ++ (n.endOfStream id).record = Effect.life id address frames reason ∧
      (n.endOfStream id).node.stage id = .finished := by
  obtain ⟨c, hc, hintake⟩ := Option.map_eq_some_iff.1 h.intake
  have hinbound : c.inbound = ⟨rest⟩ := congrArg Intake.inbound hintake
  simp only [endOfStream, hc]
  by_cases hne : stage = .finished
  -- The node has ended the connection before; its peer's end comes too late to matter.
  · subst hne
    have hidle : n.breakOff id (Frame.Reader.endError c.inbound) = n.idle := by
      simp only [breakOff, stage_of_intake h.intake]
    rw [hidle]
    exact ⟨h.heard.life_eq parse, stage_of_intake h.intake⟩
  · have hend : Frame.Reader.endError c.inbound = reason := by
      have hfront : Frame.front c.inbound.buffer = .incomplete := by
        rw [hinbound]
        exact h.waiting hne
      rw [Frame.Reader.endError_eq_ending hfront, hinbound]
      show Frame.ending rest = reason
      rw [← h.heard.split_snd hne, parse.eq_split.1]
      exact parse.eq_split.2
    obtain ⟨hrecord, hintake'⟩ := breakOff_exact h.intake hne reason
    rw [hend, hrecord]
    exact ⟨h.heard.life_eq parse, stage_of_intake hintake'⟩

end Node

end Overlay
