import Mathlib.Data.List.Induction
import Overlay.Proofs.Handings

namespace Overlay

/-!
# The course of a connection

With a handler that may break down, the bytes of a connection do not tell all that is recorded of
it. But they tell whether its peer takes a place and in which role; and the connection goes on until
its stream ends, an oversized frame is declared, or the handler breaks down on one of its frames.

* `Declares`, `Introduces` — the first frame of a stream, and the role in which it is accepted;
* `Node.Served` — whether a connection that has its role goes on, and why not;
* `Node.Course` — how far its bytes have brought a connection;
* `Course.apart`, `Course.receive` — what others do, and more bytes;
* `Node.run_course` — as long as a stream is open, whatever else happens.
-/

/-! ### The first frame -/

/-- The first frame of a stream that begins with the bytes `s`. -/
def Declares (s declared : ByteArray) : Prop := (Frame.split s).1.head? = some declared

instance (s declared : ByteArray) : Decidable (Declares s declared) :=
  inferInstanceAs (Decidable (_ = _))

/-- The first frame of a stream that begins with the bytes `s` is the name of a peer that is
accepted in a role. -/
def Introduces (s : ByteArray) (role : Role) : Prop :=
  ∃ declared, Declares s declared ∧ Introduction.ofBytes declared = .accepted role

/-- Later bytes do not change what was declared. -/
theorem Declares.append {s declared : ByteArray} (h : Declares s declared) (more : ByteArray) :
    Declares (s ++ more) declared := by
  unfold Declares at h ⊢
  rw [Frame.split_append]
  cases hs : (Frame.split s).1 with
  | nil =>
    rw [hs] at h
    cases h
  | cons first rest =>
    rw [hs] at h
    exact h

namespace Introduces

variable {s : ByteArray} {role : Role}

theorem append (h : Introduces s role) (more : ByteArray) : Introduces (s ++ more) role := by
  obtain ⟨declared, hdeclares, hname⟩ := h
  exact ⟨declared, hdeclares.append more, hname⟩

/-- A peer is accepted in one role. -/
theorem unique (h : Introduces s role) {r : Role} (h' : Introduces s r) : r = role := by
  obtain ⟨declared, hdeclares, hname⟩ := h
  obtain ⟨declared', hdeclares', hname'⟩ := h'
  obtain rfl : declared' = declared := Option.some.inj (hdeclares'.symm.trans hdeclares)
  exact Introduction.accepted.inj (hname'.symm.trans hname)

/-- Where no frame is whole, nothing is declared. -/
theorem not_of_no_frame {rest : ByteArray} (h : Frame.split s = ([], rest)) :
    ¬ Introduces s role := by
  rintro ⟨declared, hdeclares, -⟩
  rw [Declares, h] at hdeclares
  cases hdeclares

/-- The first frame decides. -/
theorem iff_of_frame {first rest : ByteArray} {payloads : List ByteArray}
    (h : Frame.split s = (first :: payloads, rest)) :
    Introduces s role ↔ Introduction.ofBytes first = .accepted role := by
  constructor
  · rintro ⟨declared, hdeclares, hname⟩
    rw [Declares, h] at hdeclares
    cases hdeclares
    exact hname
  · exact fun hname => ⟨first, by rw [Declares, h]; rfl, hname⟩

end Introduces

namespace Node

variable {n m : Node} {s t : Step} {id : ConnectionId} {address : String}

/-! ### The frames of some bytes, and what is behind them -/

theorem stage_eq_of_intake (h : m.view.intake id = n.view.intake id) :
    m.stage id = n.stage id := by
  rw [← view_stage, ← view_stage, View.stage, View.stage, h]

/-- Take frames from a connection, and keep the bytes behind them unless it has ended. -/
def consume (n : Node) (id : ConnectionId) (frames : List ByteArray) (rest : ByteArray) : Step :=
  (n.takeFrames id frames).andThen fun n =>
    if n.stage id = .finished then n.idle else n.retain id rest

/-- Bytes are read by taking their frames. -/
theorem receive_eq_consume {stage : Stage} {waiting : ByteArray}
    (h : n.view.intake id = some ⟨address, stage, ⟨waiting⟩⟩) (bytes : ByteArray) :
    n.receive id bytes = n.consume id (Frame.split (waiting ++ bytes)).1
      (Frame.split (waiting ++ bytes)).2 := by
  obtain ⟨c, hc, hintake⟩ := Option.map_eq_some_iff.1 h
  have hinbound : c.inbound = ⟨waiting⟩ := congrArg Intake.inbound hintake
  simp only [receive, hc, hinbound]
  rfl

theorem consume_finished (h : n.stage id = .finished) (frames : List ByteArray)
    (rest : ByteArray) : n.consume id frames rest = n.idle := by
  rw [consume, takeFrames_finished h]
  simp [Step.andThen, idle, h]

theorem consume_nil (h : n.stage id ≠ .finished) (rest : ByteArray) :
    n.consume id [] rest = n.retain id rest := by
  simp [consume, takeFrames, Step.andThen, idle, h]

theorem consume_cons (n : Node) (id : ConnectionId) (first : ByteArray)
    (payloads : List ByteArray) (rest : ByteArray) :
    n.consume id (first :: payloads) rest =
      (n.takeFrame id first).andThen (·.consume id payloads rest) :=
  Step.andThen_assoc ..

/-- Whatever comes for a connection that has ended, nothing is done. -/
theorem receive_finished (h : n.stage id = .finished) (bytes : ByteArray) :
    n.receive id bytes = n.idle := by
  unfold receive
  split
  · rfl
  · exact consume_finished h _ _

/-- Bytes behind which part of a frame is missing are kept. -/
theorem retain_incomplete {stage : Stage} {d : Frame.Decoder} {rest : ByteArray}
    (h : n.view.intake id = some ⟨address, stage, d⟩) (hfront : Frame.front rest = .incomplete) :
    (n.retain id rest).node.view.intake id = some ⟨address, stage, ⟨rest⟩⟩ ∧
      (n.retain id rest).record = [] := by
  have hview : (n.update id ({ · with inbound := ⟨rest⟩ })).view =
      n.view.alter id ({ · with inbound := ⟨rest⟩ }) := view_update fun _ => rfl
  have hretain : n.retain id rest = (n.update id ({ · with inbound := ⟨rest⟩ })).idle := by
    simp only [retain, hfront]
  rw [hretain, record_idle, node_idle, hview, View.intake_alter, h]
  exact ⟨rfl, rfl⟩

/-- An oversized header ends the connection. -/
theorem retain_oversized {stage : Stage} {d : Frame.Decoder} {rest : ByteArray} {length : Nat}
    (h : n.view.intake id = some ⟨address, stage, d⟩) (hne : stage ≠ .finished)
    (hfront : Frame.front rest = .oversized length) :
    (n.retain id rest).node.stage id = .finished ∧
      (n.retain id rest).record = Effect.breakingOff id address (.tooLarge length) stage := by
  have hretain : n.retain id rest = n.breakOff id (.tooLarge length) := by
    simp only [retain, hfront]
  obtain ⟨hrecord, hintake⟩ := breakOff_exact h hne (.tooLarge length)
  rw [hretain]
  exact ⟨stage_of_intake hintake, hrecord⟩

/-! ### Being served -/

/-- What a step of the node `n` has made of a connection that has its role, if the bytes `rest` are
behind its frames. -/
inductive Served (n : Node) (s : Step) (id : ConnectionId) (address : String) (role : Role)
    (rest : ByteArray) : Prop
  /-- It is served: the bytes are kept, and the handler has not broken down on its frames. -/
  | on (intake : s.node.view.intake id = some ⟨address, .serving role, ⟨rest⟩⟩)
      (waiting : Frame.front rest = .incomplete) (unbroken : ¬ n.BreaksOn s id)
  /-- It has ended: the bytes declare an oversized frame, or the handler has broken down. -/
  | ended (ended : s.node.stage id = .finished)
      (reason : (∃ length, Frame.front rest = .oversized length) ∨ n.BreaksOn s id)

namespace Served

variable {role : Role} {rest : ByteArray}

/-- What was done before makes no difference, if the handler did not break down by it. -/
theorem after (tallies : n.Tallies s) (handler : s.node.handler = n.handler)
    (unbroken : ¬ n.BreaksOn s id) (h : s.node.Served t id address role rest) :
    n.Served ⟨t.node, s.effects ++ t.effects⟩ id address role rest := by
  have hbreaks : n.BreaksOn ⟨t.node, s.effects ++ t.effects⟩ id ↔ s.node.BreaksOn t id := by
    rw [breaksOn_append tallies handler, or_iff_right unbroken]
  cases h with
  | on intake waiting unbroken => exact .on intake waiting (mt hbreaks.1 unbroken)
  | ended ended reason => exact .ended ended (reason.imp_right hbreaks.2)

/-- What others do makes no difference. -/
theorem apart (tallies : n.Tallies s) (handler : s.node.handler = n.handler)
    (h : n.Served s id address role rest) (acts : t.acts id = [])
    (intake : t.node.view.intake id = s.node.view.intake id) :
    n.Served ⟨t.node, s.effects ++ t.effects⟩ id address role rest := by
  have hbreaks : n.BreaksOn ⟨t.node, s.effects ++ t.effects⟩ id ↔ n.BreaksOn s id := by
    rw [breaksOn_append tallies handler, or_iff_left (not_breaksOn_of_acts acts)]
  cases h with
  | on intake' waiting unbroken => exact .on (intake.trans intake') waiting (mt hbreaks.1 unbroken)
  | ended ended reason =>
    exact .ended ((stage_eq_of_intake intake).trans ended) (reason.imp_right hbreaks.2)

end Served

/-- **The frames of a connection that serves, and what is behind them.** -/
theorem consume_serving {role : Role} {d : Frame.Decoder} {rest : ByteArray}
    (h : n.view.intake id = some ⟨address, .serving role, d⟩) (frames : List ByteArray)
    (front : Frame.front rest = .incomplete ∨ ∃ length, Frame.front rest = .oversized length) :
    n.Served (n.consume id frames rest) id address role rest := by
  have hmoves : Moves (fun _ => True) n (n.takeFrames id frames) :=
    takeFrames_moves n trivial frames
  have hlater (t : Step) := breaksOn_append (tallies_takeFrames n id frames) hmoves.keeps.2.1 t id
  rcases takeFrames_serving_or_breaks (stage_of_intake h) frames with
    ⟨hview, hwhole⟩ | ⟨hfinished, hbroke⟩
  · have hintake : (n.takeFrames id frames).node.view.intake id =
        some ⟨address, .serving role, d⟩ := by rw [hview, h]
    have hretain : n.consume id frames rest =
        (n.takeFrames id frames).andThen (·.retain id rest) := by
      have hne : (n.takeFrames id frames).node.stage id ≠ .finished := by
        simp [stage_of_intake hintake]
      simp only [consume, Step.andThen, if_neg hne]
    rw [hretain]
    rcases front with hpart | ⟨length, hlarge⟩
    -- Keeping bytes hands over no frame.
    · obtain ⟨hkept, hrecord⟩ := retain_incomplete hintake hpart
      refine .on hkept hpart fun hbreaks => ?_
      exact ((hlater _).1 hbreaks).elim hwhole (not_breaksOn_of_record hrecord rfl)
    · exact .ended (retain_oversized hintake (by simp) hlarge).1 (.inl ⟨length, hlarge⟩)
  · refine .ended ?_ (.inr ((hlater _).2 (.inl hbroke)))
    simp only [consume, Step.node_andThen, if_pos hfinished]
    exact hfinished

/-- A peer that declares the sentinel is turned down, whatever comes behind it. -/
theorem consume_declined {d : Frame.Decoder} {first : ByteArray}
    (h : n.view.intake id = some ⟨address, .introducing, d⟩)
    (name : Introduction.ofBytes first = .declined) (payloads : List ByteArray)
    (rest : ByteArray) :
    (n.consume id (first :: payloads) rest).node.stage id = .finished ∧
      (n.consume id (first :: payloads) rest).record = [.logged (some id) (.declined address)] := by
  obtain ⟨hrecord, hintake⟩ := takeFrame_declined h name
  have hfinished := stage_of_intake hintake
  rw [consume_cons, Step.node_andThen, Step.record_andThen, consume_finished hfinished, hrecord]
  exact ⟨hfinished, rfl⟩

/-- A peer that declares another name takes its place and is served. -/
theorem consume_accepted {d : Frame.Decoder} {first rest : ByteArray} {role : Role}
    (h : n.view.intake id = some ⟨address, .introducing, d⟩)
    (name : Introduction.ofBytes first = .accepted role) (payloads : List ByteArray)
    (front : Frame.front rest = .incomplete ∨ ∃ length, Frame.front rest = .oversized length) :
    n.Served (n.consume id (first :: payloads) rest) id address role rest ∧
      role ∈ (n.consume id (first :: payloads) rest).rolesOf id := by
  obtain ⟨hrecord, hhandler, hintake⟩ := takeFrame_accepted h name
  have hwhole : ¬ n.BreaksOn (n.takeFrame id first) id := not_breaksOn_of_record hrecord rfl
  rw [consume_cons]
  refine ⟨(consume_serving hintake payloads front).after (tallies_takeFrame n id first) hhandler
    hwhole, ?_⟩
  refine (Step.rolesOf_append _ _ id).symm ▸ List.mem_append_left _ ?_
  rw [Step.mem_rolesOf, Step.entries_eq, hrecord]
  exact List.mem_singleton_self _

/-! ### Courses -/

/-- How far the bytes that were read from connection `id` have brought it, in a step that began
when it came in from `address` at the node `n`. -/
inductive Course (n : Node) (s : Step) (id : ConnectionId) (address : String)
    (bytes : ByteArray) : Prop
  /-- No frame is whole, and none is oversized. -/
  | introducing (intake : s.node.view.intake id = some ⟨address, .introducing, ⟨bytes⟩⟩)
      (waiting : Frame.front bytes = .incomplete) (acts : s.acts id = [])
  /-- The peer was turned down, and no further byte could give it a place. -/
  | refused (ended : s.node.stage id = .finished) (roles : s.rolesOf id = [])
      (unintroduced : ∀ more role, ¬ Introduces (bytes ++ more) role)
  /-- The peer has taken the place that its first frame gives it. -/
  | accepted {role : Role} (introduces : Introduces bytes role) (taken : role ∈ s.rolesOf id)
      (served : n.Served s id address role (Frame.split bytes).2)

namespace Course

variable {bytes : ByteArray}

/-- A peer that introduces itself in a role has it. -/
theorem taken_of_introduces (h : n.Course s id address bytes) {role : Role}
    (introduces : Introduces bytes role) : role ∈ s.rolesOf id := by
  cases h with
  | introducing _ waiting =>
    have hsplit : Frame.split bytes = ([], bytes) := Frame.split_stop (by simp [waiting])
    exact absurd introduces (Introduces.not_of_no_frame hsplit)
  | refused _ _ unintroduced =>
    refine absurd ?_ (unintroduced .empty role)
    rwa [ByteArray.append_empty]
  | accepted introduces' taken => exact introduces'.unique introduces ▸ taken

/-- A peer that has a role has introduced itself in one. -/
theorem exists_introduces_of_taken (h : n.Course s id address bytes)
    (taken : s.rolesOf id ≠ []) :
    ∃ role ∈ s.rolesOf id, Introduces bytes role := by
  cases h with
  | introducing _ _ acts =>
    rw [Step.rolesOf, acts] at taken
    exact absurd rfl taken
  | refused _ roles => exact absurd roles taken
  | accepted introduces taken => exact ⟨_, taken, introduces⟩

/-- **What others do** is of no matter to the course of a connection. -/
theorem apart (tallies : n.Tallies s) (handler : s.node.handler = n.handler)
    (h : n.Course s id address bytes) (others : Moves (· ≠ .connection id) s.node t) :
    n.Course ⟨t.node, s.effects ++ t.effects⟩ id address bytes := by
  obtain ⟨hacts, hintake⟩ := others.apart
  have hsum : (⟨t.node, s.effects ++ t.effects⟩ : Step).acts id = s.acts id := by
    rw [Step.acts_append, hacts, List.append_nil]
  have hroles : (⟨t.node, s.effects ++ t.effects⟩ : Step).rolesOf id = s.rolesOf id :=
    congrArg (List.filterMap Effect.role?) hsum
  cases h with
  | introducing intake waiting acts =>
    exact .introducing (hintake.trans intake) waiting (hsum.trans acts)
  | refused ended roles unintroduced =>
    exact .refused ((stage_eq_of_intake hintake).trans ended) (hroles.trans roles) unintroduced
  | accepted introduces taken served =>
    exact .accepted introduces (hroles ▸ taken) (served.apart tallies handler hacts hintake)

/-- More bytes from a peer that has not declared itself. -/
theorem receive_introducing (tallies : n.Tallies s) (handler : s.node.handler = n.handler)
    (intake : s.node.view.intake id = some ⟨address, .introducing, ⟨bytes⟩⟩)
    (acts : s.acts id = []) (more : ByteArray) :
    n.Course (s.andThen (·.receive id more)) id address (bytes ++ more) := by
  have hmoves : Moves (· = .connection id) s.node (s.node.receive id more) := by
    apply receive_moves
    rfl
  have hacts {record : List Effect} (hrecord : (s.node.receive id more).record = record) :
      (s.andThen (·.receive id more)).acts id = record := by
    refine (Step.acts_append _ _ id).trans ?_
    rw [acts, hmoves.acts_eq, hrecord, List.nil_append]
  have hroles {record : List Effect} (hrecord : (s.node.receive id more).record = record) :
      (s.andThen (·.receive id more)).rolesOf id = record.filterMap Effect.role? :=
    congrArg (List.filterMap Effect.role?) (hacts hrecord)
  have hreceive := receive_eq_consume intake more
  have hfront := Frame.front_split_cases (bytes ++ more)
  cases hframes : (Frame.split (bytes ++ more)).1 with
  | nil =>
    -- All bytes are part of one frame, or its header is oversized.
    have hsplit : (Frame.split (bytes ++ more)).2 = bytes ++ more := by
      have hwhole := Frame.wireAll_split (bytes ++ more)
      rw [hframes] at hwhole
      simpa [Frame.wireAll] using hwhole
    have hstage : s.node.stage id ≠ .finished := by simp [stage_of_intake intake]
    rw [hframes, hsplit, consume_nil hstage] at hreceive
    rw [hsplit] at hfront
    rcases hfront with hpart | ⟨length, hlarge⟩
    · obtain ⟨hkept, hrecord⟩ := retain_incomplete intake hpart
      rw [← hreceive] at hkept hrecord
      exact .introducing hkept hpart (hacts hrecord)
    · obtain ⟨hended, hrecord⟩ := retain_oversized intake (by simp) hlarge
      rw [← hreceive] at hended hrecord
      refine .refused hended (hroles hrecord) fun later role => ?_
      have hnone := Frame.split_append_of_oversized (hsplit.symm ▸ hlarge) later
      rw [hframes] at hnone
      exact Introduces.not_of_no_frame hnone
  | cons first payloads =>
    have hsplit : Frame.split (bytes ++ more) =
        (first :: payloads, (Frame.split (bytes ++ more)).2) := Prod.ext hframes rfl
    rw [hframes] at hreceive
    cases hname : Introduction.ofBytes first with
    | declined =>
      obtain ⟨hended, hrecord⟩ := consume_declined intake hname payloads
        (Frame.split (bytes ++ more)).2
      rw [← hreceive] at hended hrecord
      refine .refused hended (hroles hrecord) fun later role introduces => ?_
      have hfirst := Frame.split_append (bytes ++ more) later
      rw [hframes, List.cons_append] at hfirst
      rw [Introduces.iff_of_frame hfirst, hname] at introduces
      cases introduces
    | accepted role =>
      obtain ⟨hserved, htaken⟩ := consume_accepted intake hname payloads hfront
      rw [← hreceive] at hserved htaken
      refine .accepted ((Introduces.iff_of_frame hsplit).2 hname) ?_ ?_
      · exact (Step.rolesOf_append _ _ id).symm ▸ List.mem_append_right _ htaken
      · exact hserved.after tallies handler (not_breaksOn_of_acts acts)

/-- **More bytes.** -/
theorem receive (tallies : n.Tallies s) (handler : s.node.handler = n.handler)
    (h : n.Course s id address bytes) (more : ByteArray) :
    n.Course (s.andThen (·.receive id more)) id address (bytes ++ more) := by
  have hsame (hended : s.node.stage id = .finished) : s.andThen (·.receive id more) = s := by
    simp [Step.andThen, receive_finished hended, idle]
  cases h with
  | introducing intake _ acts => exact receive_introducing tallies handler intake acts more
  | refused ended roles unintroduced =>
    rw [hsame ended]
    refine .refused ended roles fun later role => ?_
    rw [ByteArray.append_assoc]
    exact unintroduced _ role
  | @accepted role introduces taken served =>
    refine .accepted (introduces.append more)
      ((Step.rolesOf_append _ _ id).symm ▸ List.mem_append_left _ taken) ?_
    cases served with
    | on intake waiting unbroken =>
      have hsplit : (Frame.split (bytes ++ more)).2 =
          (Frame.split ((Frame.split bytes).2 ++ more)).2 := by rw [Frame.split_append]
      have hserved := consume_serving intake (Frame.split ((Frame.split bytes).2 ++ more)).1
        (Frame.front_split_cases ((Frame.split bytes).2 ++ more))
      rw [← receive_eq_consume intake] at hserved
      rw [hsplit]
      exact hserved.after tallies handler unbroken
    | ended ended reason =>
      rw [hsame ended]
      refine .ended ended (reason.imp_left ?_)
      -- What is behind an oversized header does not make it less so.
      rintro ⟨length, hlarge⟩
      rw [Frame.split_append_of_oversized hlarge]
      exact ⟨length, Frame.front_append_of_oversized hlarge more⟩

end Course

/-! ### As long as the stream is open -/

/-- The last step of a run. -/
theorem run_concat (n : Node) (is : List Input) (i : Input) :
    n.run (is ++ [i]) = (n.run is).andThen (·.step i) := by
  rw [run_append]
  simp [run, idle, Step.andThen]

/-- **The course of a connection.** As long as its stream is open, its bytes and the handler decide
what becomes of it, whatever else happens. -/
theorem run_course (hid : id < n.nextId)
    (h : n.view.intake id = some ⟨address, .introducing, {}⟩) {is : List Input}
    (isOpen : ∀ i ∈ is, i.ends id = false) : n.Course (n.run is) id address (received id is) := by
  induction is using List.reverseRecOn with
  | nil => exact .introducing h rfl rfl
  | append_singleton is i ih =>
    have hcourse := ih fun j hj => isOpen j (List.mem_append_left _ hj)
    have hmoves := run_moves_all n is
    have hid' : id < (n.run is).node.nextId := Nat.lt_of_lt_of_le hid hmoves.keeps.2.2
    have htallies := tallies_run n is
    have hhandler := hmoves.keeps.2.1
    rw [run_concat, received_append]
    by_cases hmine : ∃ more, i = .receive id more
    -- Bytes of the connection itself, and then the work of writers.
    · obtain ⟨more, rfl⟩ := hmine
      have hbytes : received id [.receive id more] = more := by simp [received]
      have hreceive := hcourse.receive htallies hhandler more
      have hread : Moves (fun _ => True) (n.run is).node ((n.run is).node.receive id more) :=
        receive_moves _ trivial more
      have hsettle : Moves (· ≠ .connection id) ((n.run is).node.receive id more).node
          ((n.run is).node.receive id more).node.settle := settle_moves _ (by simp)
      have hworked := hreceive.apart (htallies.append (tallies_receive _ id more))
        (hread.keeps.2.1.trans hhandler) hsettle
      rw [hbytes]
      simpa [Step.andThen, step, react] using hworked
    -- An input that does not concern the connection.
    · have hopen : i.ends id = false :=
        isOpen i (List.mem_append_right _ (List.mem_singleton_self i))
      obtain ⟨hcause, hbytes⟩ := cause_of_other hid' hopen fun more heq => hmine ⟨more, heq⟩
      rw [hbytes, ByteArray.append_empty]
      exact hcourse.apart htallies hhandler (step_moves _ i hcause (by simp))

/-- A connection comes in and is greeted. From then on it goes its course. -/
theorem connect_course (fits : Frame.Fits n.localName.toUTF8) (listens : n.listening = true)
    (address : String) {during : List Input} (isOpen : ∀ i ∈ during, i.ends n.nextId = false) :
    (n.step (.connect address none)).acts n.nextId = [] ∧
      (n.step (.connect address none)).node.Course
        ((n.step (.connect address none)).node.run during) n.nextId address
        (received n.nextId during) := by
  obtain ⟨hid, hbegins⟩ := connect_hears listens fits address
  exact ⟨hbegins.nothing, run_course hid hbegins.intake isOpen⟩

end Node

end Overlay
