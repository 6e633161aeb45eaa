import Overlay.Proofs.Places
import Overlay.Proofs.Reading

namespace Overlay

/-!
# The life of one connection among others

Whatever else a node does, and however the bytes of a connection were cut, what becomes of the
connection is a function of those bytes.

* `Node.Moves.apart` — moves on the account of others leave a connection alone;
* `Node.Moves.finished` — a connection that has ended stays so, whatever happens;
* `Node.run_hears` — while a connection is open, its state fits the bytes that have come;
* `Node.life_of_connection` — the whole life of a connection in any run.
-/

namespace Node

variable {n : Node} {s : Step} {id : ConnectionId}

/-! ### What others do -/

/-- A node keeps its name and its handler, and gives no number twice. -/
theorem Move.keeps {cause : Cause} (h : Move cause n s) :
    s.node.localName = n.localName ∧ s.node.handler = n.handler ∧ n.nextId ≤ s.node.nextId := by
  have hkeeps {v : View} (hview : s.node.view = v) :
      s.node.localName = v.localName ∧ s.node.handler = v.handler ∧
        s.node.nextId = v.nextId :=
    ⟨congrArg View.localName hview, congrArg View.handler hview, congrArg View.nextId hview⟩
  cases h with
  | quiet view | stop view | detach view | retain _ view | refuse _ _ _ view | handle _ _ view =>
    obtain ⟨hname, hhandler, hnext⟩ := hkeeps view
    exact ⟨hname, hhandler, Nat.le_of_eq hnext.symm⟩
  | arrive _ view =>
    obtain ⟨hname, hhandler, hnext⟩ := hkeeps view
    exact ⟨hname, hhandler, hnext ▸ Nat.le_succ _⟩
  | register _ _ view =>
    rw [view_register] at view
    obtain ⟨hname, hhandler, hnext⟩ := hkeeps view
    exact ⟨hname, hhandler, Nat.le_of_eq hnext.symm⟩
  | tearDown _ _ view =>
    rw [view_tearDown] at view
    obtain ⟨hname, hhandler, hnext⟩ := hkeeps view
    exact ⟨hname, hhandler, Nat.le_of_eq hnext.symm⟩

theorem Moves.keeps {allowed : Cause → Prop} (h : Moves allowed n s) :
    s.node.localName = n.localName ∧ s.node.handler = n.handler ∧ n.nextId ≤ s.node.nextId := by
  refine h.induct (P := fun s => s.node.localName = n.localName ∧ s.node.handler = n.handler ∧
    n.nextId ≤ s.node.nextId) ⟨rfl, rfl, Nat.le_refl _⟩ ?_
  rintro cause s t ⟨hname, hhandler, hnext⟩ - hmove
  obtain ⟨hname', hhandler', hnext'⟩ := hmove.keeps
  exact ⟨hname'.trans hname, hhandler'.trans hhandler, Nat.le_trans hnext hnext'⟩

/-- Whatever a move records is recorded of the connection on whose account it is made. -/
theorem Move.about {cause : Cause} (h : Move cause n s) {e : Effect} (he : e ∈ s.record) :
    ∃ j, cause = .connection j ∧ e.isAbout j = true := by
  cases h with
  | quiet _ record | stop _ record | detach _ record | arrive _ _ record | retain _ _ record =>
    rw [record] at he
    cases he
  | refuse _ _ _ _ record =>
    rw [record, List.mem_singleton] at he
    exact ⟨_, rfl, he ▸ decide_eq_true rfl⟩
  | register _ _ _ record =>
    rw [record] at he
    simp only [Effect.taking, List.mem_cons, List.not_mem_nil, or_false] at he
    rcases he with rfl | rfl <;> exact ⟨_, rfl, decide_eq_true rfl⟩
  | handle _ _ _ record =>
    rw [record] at he
    exact ⟨_, rfl, Effect.isAbout_of_mem_serving he⟩
  | tearDown _ _ _ record =>
    rw [record] at he
    exact ⟨_, rfl, Effect.isAbout_of_mem_leaving he⟩

/-- What was read from a connection changes on its own account only. -/
theorem Move.intake_eq {cause : Cause} (h : Move cause n s) (hcause : cause ≠ .connection id) :
    s.node.view.intake id = n.view.intake id := by
  have halter {v : View} {j : ConnectionId} {change : Intake → Intake}
      (hj : Cause.connection j ≠ .connection id) :
      (v.alter j change).intake id = v.intake id := by
    have hne : id ≠ j := fun heq => hj (heq ▸ rfl)
    simp [View.alter, hne]
  cases h with
  | quiet view | handle _ _ view => rw [view]
  | stop view | detach view => rw [view]
  | retain _ view | refuse _ _ _ view =>
    rw [view]
    exact halter hcause
  | arrive _ view =>
    have hne : id ≠ n.nextId := fun heq => hcause (heq ▸ rfl)
    rw [view]
    exact Function.update_of_ne hne _ _
  | register _ _ view =>
    rw [view, view_register]
    exact halter hcause
  | tearDown _ _ view =>
    rw [view, view_tearDown]
    exact halter hcause

/-- **Others leave a connection alone.** -/
theorem Moves.apart (h : Moves (· ≠ .connection id) n s) :
    s.acts id = [] ∧ s.node.view.intake id = n.view.intake id := by
  refine h.induct (P := fun s => s.acts id = [] ∧ s.node.view.intake id = n.view.intake id)
    ⟨rfl, rfl⟩ ?_
  rintro cause s t ⟨hacts, hintake⟩ hcause hmove
  refine ⟨?_, (hmove.intake_eq hcause).trans hintake⟩
  rw [Step.acts_append, hacts, List.nil_append, Step.acts, List.filter_eq_nil_iff]
  intro e he habout
  obtain ⟨j, rfl, hj⟩ := hmove.about he
  exact hcause (congrArg Cause.connection (Effect.isAbout_unique habout hj))

/-- All that is recorded on the account of a connection is recorded of it. -/
theorem Moves.acts_eq (h : Moves (· = .connection id) n s) : s.acts id = s.record := by
  refine h.induct (P := fun s => s.acts id = s.record) rfl ?_
  rintro cause s t hacts rfl hmove
  have ht : t.acts id = t.record := by
    rw [Step.acts, List.filter_eq_self]
    intro e he
    obtain ⟨j, hj, habout⟩ := hmove.about he
    cases hj
    exact habout
  rw [Step.acts_append, hacts, ht]
  simp [Step.record]

end Node

/-! ### After the end -/

/-- A turn of one connection is none of another. -/
theorem Turn.other {n : Node} {s : Step} {id j : ConnectionId} {stage : Stage}
    {acts : List Effect} (hne : id ≠ j)
    (hstage : s.node.stage = Function.update n.stage j stage) (hrecord : s.record = acts)
    (habout : ∀ e ∈ acts, e.isAbout j = true) :
    s.node.stage id = n.stage id ∧ s.acts id = [] := by
  rw [hstage, Function.update_of_ne hne, Step.acts_of_record hrecord habout, if_neg hne]
  exact ⟨rfl, rfl⟩

/-- A connection that has ended takes no turn. -/
theorem Turn.finished {n : Node} {s : Step} {id : ConnectionId} (h : Turn n s)
    (hid : id < n.nextId) (hfinished : n.stage id = .finished) :
    s.node.stage id = .finished ∧ s.acts id = [] := by
  have hne {j : ConnectionId} {stage : Stage} (hj : n.stage j = stage)
      (hstage : stage ≠ .finished) : id ≠ j := by
    rintro rfl
    exact hstage (hj.symm.trans hfinished)
  rw [← hfinished]
  cases h with
  | still standing record =>
    refine ⟨congrFun (congrArg Standing.stage standing) id, ?_⟩
    rw [Step.acts, record]
    rfl
  | arrive standing record =>
    exact other (Nat.ne_of_lt hid) (congrArg Standing.stage standing) record (by simp)
  | refuse j verdict refusal before standing record =>
    exact other (hne before (by simp)) (congrArg Standing.stage standing) record
      (by simp [Effect.isAbout])
  | register j role declared before name standing record =>
    exact other (hne before (by simp)) (congrArg Standing.stage standing) record
      (by simp [Effect.taking, Effect.isAbout])
  | handle j role payload before standing record =>
    refine ⟨congrFun (congrArg Standing.stage standing) id, ?_⟩
    rw [Step.acts_of_record record fun e he => Effect.isAbout_of_mem_serving he,
      if_neg (hne before (by simp))]
  | tearDown j role reason before standing record =>
    exact other (hne before (by simp)) (congrArg Standing.stage standing) record
      fun e he => Effect.isAbout_of_mem_leaving he

namespace Node

variable {n : Node} {s : Step} {id : ConnectionId}

/-- **A connection that has ended stays so**, and nothing more is recorded of it. -/
theorem Moves.finished {allowed : Cause → Prop} (h : Moves allowed n s) (hid : id < n.nextId)
    (hfinished : n.stage id = .finished) : s.node.stage id = .finished ∧ s.acts id = [] := by
  have hall : id < s.node.nextId ∧ s.node.stage id = .finished ∧ s.acts id = [] := by
    refine h.induct (P := fun s => id < s.node.nextId ∧ s.node.stage id = .finished ∧
      s.acts id = []) ⟨hid, hfinished, rfl⟩ ?_
    rintro cause s t ⟨hlt, hstage, hacts⟩ - hmove
    obtain ⟨hstage', hacts'⟩ := hmove.turn.finished hlt hstage
    refine ⟨Nat.lt_of_lt_of_le hlt hmove.keeps.2.2, hstage', ?_⟩
    rw [Step.acts_append, hacts, hacts']
    rfl
  exact hall.2

/-! ### While a connection is open -/

/-- Whether an input ends the stream of a connection. -/
def Input.ends (id : ConnectionId) : Input → Bool
  | .close j | .fail j _ => j = id
  | _ => false

/-- The bytes that arrive on a connection. -/
def received (id : ConnectionId) : List Input → ByteArray
  | [] => .empty
  | .receive j bytes :: rest => if j = id then bytes ++ received id rest else received id rest
  | _ :: rest => received id rest

theorem Hears.of_intake {m : Node} {address : String} {bytes rest : ByteArray}
    {acts : List Effect} {stage : Stage} (h : n.Hears id address bytes acts stage rest)
    (hintake : m.view.intake id = n.view.intake id) : m.Hears id address bytes acts stage rest :=
  ⟨hintake.trans h.intake, h.heard, h.waiting⟩

/-- Nothing is recorded of a connection that introduces itself. -/
theorem Hears.nothing {address : String} {bytes rest : ByteArray} {acts : List Effect}
    (h : n.Hears id address bytes acts .introducing rest) : acts = [] := by
  cases h.heard
  rfl

/-- What follows from an input does not concern any connection. -/
theorem settle_apart (n : Node) (id : ConnectionId) :
    n.settle.acts id = [] ∧ n.settle.node.view.intake id = n.view.intake id :=
  Moves.apart (settle_moves n (by simp))

/-- Inputs that are about other connections are on their account, and bring no bytes. -/
theorem cause_of_other {i : Input} (hid : id < n.nextId) (hopen : i.ends id = false)
    (hother : ∀ bytes, i ≠ .receive id bytes) :
    n.cause i ≠ .connection id ∧ received id [i] = .empty := by
  cases i with
  | connect address fault =>
    -- A newcomer gets a number that was not given out before.
    refine ⟨fun heq => ?_, rfl⟩
    exact Nat.ne_of_gt hid (Cause.connection.inj heq)
  | receive j bytes =>
    have hne : ¬ j = id := fun heq => hother bytes (heq ▸ rfl)
    exact ⟨fun heq => hne (Cause.connection.inj heq), by simp [received, hne]⟩
  | close j | fail j =>
    exact ⟨fun heq => of_decide_eq_false hopen (Cause.connection.inj heq), rfl⟩
  | _ => exact ⟨fun heq => (by cases heq), rfl⟩

/-- **One input while a connection is open.** -/
theorem step_hears {address : String} {bytes rest : ByteArray} {acts : List Effect}
    {stage : Stage} (steady : n.handler.IsSteady) (hid : id < n.nextId)
    (h : n.Hears id address bytes acts stage rest) {i : Input} (hopen : i.ends id = false) :
    ∃ stage' rest', (n.step i).node.Hears id address (bytes ++ received id [i])
      (acts ++ (n.step i).acts id) stage' rest' := by
  by_cases hmine : ∃ more, i = .receive id more
  -- Bytes of the connection itself.
  · obtain ⟨more, rfl⟩ := hmine
    obtain ⟨stage', rest', hhears⟩ := receive_hears steady h more
    obtain ⟨hacts, hintake⟩ := settle_apart (n.receive id more).node id
    have hmoves : Moves (· = .connection id) n (n.receive id more) := by
      apply receive_moves
      rfl
    have hsum : (n.step (.receive id more)).acts id =
        (n.receive id more).acts id ++ (n.receive id more).node.settle.acts id :=
      Step.acts_append _ _ id
    have hbytes : received id [.receive id more] = more := by simp [received]
    rw [hsum, hmoves.acts_eq, hacts, List.append_nil, hbytes]
    exact ⟨stage', rest', hhears.of_intake hintake⟩
  -- An input that does not concern the connection.
  · obtain ⟨hcause, hbytes⟩ := cause_of_other hid hopen fun more heq => hmine ⟨more, heq⟩
    obtain ⟨hacts, hintake⟩ := Moves.apart (step_moves n i hcause (by simp))
    rw [hacts, hbytes, List.append_nil, ByteArray.append_empty]
    exact ⟨stage, rest, h.of_intake hintake⟩

theorem received_cons (id : ConnectionId) (i : Input) (is : List Input) :
    received id (i :: is) = received id [i] ++ received id is := by
  cases i with
  | receive j bytes =>
    by_cases hj : j = id
    · simp [received, hj]
    · simp [received, hj]
  | _ => exact ByteArray.empty_append.symm

theorem received_append (id : ConnectionId) (is js : List Input) :
    received id (is ++ js) = received id is ++ received id js := by
  induction is with
  | nil => exact ByteArray.empty_append.symm
  | cons i is ih =>
    rw [List.cons_append, received_cons, ih, ← ByteArray.append_assoc, ← received_cons]

/-- **A run while a connection is open.** Its state fits the bytes that have come, whatever else
has happened. -/
theorem run_hears {address : String} {bytes rest : ByteArray} {acts : List Effect}
    {stage : Stage} (steady : n.handler.IsSteady) (hid : id < n.nextId)
    (h : n.Hears id address bytes acts stage rest) {is : List Input}
    (hopen : ∀ i ∈ is, i.ends id = false) :
    ∃ stage' rest', (n.run is).node.Hears id address (bytes ++ received id is)
      (acts ++ (n.run is).acts id) stage' rest' := by
  induction is generalizing n bytes acts stage rest with
  | nil =>
    refine ⟨stage, rest, ?_⟩
    simpa [run, idle, received, Step.acts, Step.record] using h
  | cons i is ih =>
    obtain ⟨stage', rest', hstep⟩ := step_hears steady hid h (hopen i (by simp))
    have hmoves : Moves (fun _ => True) n (n.step i) := step_moves n i trivial trivial
    obtain ⟨-, hhandler, hnext⟩ := hmoves.keeps
    have hsteady : (n.step i).node.handler.IsSteady := by rwa [hhandler]
    obtain ⟨stage'', rest'', hrun⟩ := ih hsteady (Nat.lt_of_lt_of_le hid hnext) hstep
      fun j hj => hopen j (by simp [hj])
    have hsum : (n.run (i :: is)).acts id =
        (n.step i).acts id ++ ((n.step i).node.run is).acts id :=
      Step.acts_append _ _ id
    rw [hsum, received_cons, ← List.append_assoc, ← ByteArray.append_assoc]
    exact ⟨stage'', rest'', hrun⟩

/-! ### From beginning to end -/

/-- A node that can greet its peers waits for the name of a new one. -/
theorem accept_exact (fits : Frame.Fits n.localName.toUTF8) (address : String) :
    (n.accept address none).record = [] ∧
      (n.accept address none).node.view.intake n.nextId = some ⟨address, .introducing, {}⟩ ∧
      (n.accept address none).node.nextId = n.nextId + 1 := by
  have hgreeting : Frame.encode n.localName.toUTF8 = .ok (Frame.wire n.localName.toUTF8) :=
    Frame.encode_eq_ok_iff.2 ⟨fits, rfl⟩
  have hview := view_arrive n { address, stage := .introducing }
  have hgreet : (n.arrive { address, stage := .introducing }).greet n.nextId
      { address, stage := .introducing } =
        ⟨n.arrive { address, stage := .introducing },
          [.sent n.nextId (Frame.wire n.localName.toUTF8)]⟩ := by
    unfold greet
    rw [show (n.arrive { address, stage := .introducing }).localName = n.localName from rfl,
      hgreeting]
  simp only [accept]
  rw [Step.record_andThen, Step.node_andThen, record_report, node_report, hgreet]
  refine ⟨rfl, ?_, rfl⟩
  rw [hview]
  exact Function.update_self ..

/-- **The beginning.** The node greets a new connection and waits for the name. -/
theorem connect_hears (listens : n.listening = true) (fits : Frame.Fits n.localName.toUTF8)
    (address : String) :
    n.nextId < (n.step (.connect address none)).node.nextId ∧
      (n.step (.connect address none)).node.Hears n.nextId address .empty
        ((n.step (.connect address none)).acts n.nextId) .introducing .empty := by
  obtain ⟨hrecord, haccept, hnext⟩ := accept_exact fits address
  obtain ⟨hacts, hintake⟩ := settle_apart (n.accept address none).node n.nextId
  have hmoves : Moves (· = .connection n.nextId) n (n.accept address none) := by
    apply accept_moves
    rfl
  have hsettle : Moves (fun _ => True) (n.accept address none).node
      (n.accept address none).node.settle :=
    settle_moves _ trivial
  have hreact : n.step (.connect address none) = (n.accept address none).andThen settle := by
    simp only [step, react, listens, if_true]
  have hsum : (n.step (.connect address none)).acts n.nextId = [] := by
    rw [hreact]
    refine (Step.acts_append _ _ _).trans ?_
    rw [hmoves.acts_eq, hrecord, hacts]
    rfl
  have hsplit : Frame.split .empty = ([], .empty) := by
    refine Frame.split_stop fun payload left h => ?_
    cases h
  rw [hsum, hreact]
  refine ⟨?_, hintake.trans haccept, .introducing hsplit, fun _ => rfl⟩
  exact Nat.lt_of_lt_of_le (hnext ▸ Nat.lt_succ_self _) hsettle.keeps.2.2

/-- **The end.** With the stream the life of the connection ends. -/
theorem close_hears {address : String} {bytes rest left : ByteArray} {acts : List Effect}
    {stage : Stage} (hid : id < n.nextId) (h : n.Hears id address bytes acts stage rest)
    {frames : List ByteArray} {reason : Frame.Error}
    (parse : Frame.Parses bytes frames left reason) :
    acts ++ (n.step (.close id)).acts id = Effect.life id address frames reason ∧
      (n.step (.close id)).node.stage id = .finished := by
  obtain ⟨hlife, hfinished⟩ := endOfStream_hears h parse
  have hmoves : Moves (· = .connection id) n (n.endOfStream id) := by
    apply endOfStream_moves
    rfl
  have hlt : id < (n.endOfStream id).node.nextId := Nat.lt_of_lt_of_le hid hmoves.keeps.2.2
  have hsettle : Moves (fun _ => True) (n.endOfStream id).node (n.endOfStream id).node.settle :=
    settle_moves _ trivial
  obtain ⟨hstage, hacts⟩ := hsettle.finished hlt hfinished
  refine ⟨?_, hstage⟩
  have hsum : (n.step (.close id)).acts id =
      (n.endOfStream id).acts id ++ (n.endOfStream id).node.settle.acts id :=
    Step.acts_append _ _ id
  rw [hsum, hmoves.acts_eq, hacts, List.append_nil]
  exact hlife

theorem acts_run_cons (n : Node) (i : Input) (is : List Input) (id : ConnectionId) :
    (n.run (i :: is)).acts id = (n.step i).acts id ++ ((n.step i).node.run is).acts id :=
  Step.acts_append _ _ id

theorem acts_run_append (n : Node) (is js : List Input) (id : ConnectionId) :
    (n.run (is ++ js)).acts id = (n.run is).acts id ++ ((n.run is).node.run js).acts id := by
  rw [run_append]
  exact Step.acts_append _ _ id

/-- The life of a connection from its beginning on. -/
theorem life_from (steady : n.handler.IsSteady) (fits : Frame.Fits n.localName.toUTF8)
    (listens : n.listening = true) {during : List Input} (after : List Input) (address : String)
    (isOpen : ∀ i ∈ during, i.ends n.nextId = false) {frames : List ByteArray}
    {left : ByteArray} {reason : Frame.Error}
    (parse : Frame.Parses (received n.nextId during) frames left reason) :
    (n.run (.connect address none :: (during ++ .close n.nextId :: after))).acts n.nextId =
        Effect.life n.nextId address frames reason ∧
      (n.run (.connect address none :: (during ++ .close n.nextId :: after))).node.stage
        n.nextId = .finished := by
  obtain ⟨hid, hbegins⟩ := connect_hears listens fits address
  generalize hc : n.step (.connect address none) = c at hid hbegins
  have hcmoves : Moves (fun _ => True) n c := hc ▸ step_moves n _ trivial trivial
  have hsteady : c.node.handler.IsSteady := by rwa [hcmoves.keeps.2.1]
  -- The bytes come.
  obtain ⟨stage, rest, hhears⟩ := run_hears hsteady hid hbegins isOpen
  generalize hd : c.node.run during = d at hhears
  have hdmoves : Moves (fun _ => True) c.node d := hd ▸ run_moves_all _ _
  have hid' : n.nextId < d.node.nextId := Nat.lt_of_lt_of_le hid hdmoves.keeps.2.2
  -- The stream ends.
  rw [ByteArray.empty_append] at hhears
  obtain ⟨hlife, hfinished⟩ := close_hears hid' hhears parse
  generalize he : d.node.step (.close n.nextId) = e at hlife hfinished
  have hemoves : Moves (fun _ => True) d.node e := he ▸ step_moves _ _ trivial trivial
  have hid'' : n.nextId < e.node.nextId := Nat.lt_of_lt_of_le hid' hemoves.keeps.2.2
  -- Nothing comes after it.
  obtain ⟨hstage, hacts⟩ := (run_moves_all e.node after).finished hid'' hfinished
  constructor
  · rw [acts_run_cons, hc, acts_run_append, hd, acts_run_cons, he, hacts, List.append_nil,
      ← List.append_assoc]
    exact hlife
  · simp only [run, run_append, Step.node_andThen, hc, hd, he]
    exact hstage

/-- What it means to be entered: with the name of its peer, a connection comes to hold the place of
its role, and no other place changes hands. -/
theorem holder_takeFrame {address : String} {d : Frame.Decoder} {declared : ByteArray} {role : Role}
    (h : n.view.intake id = some ⟨address, .introducing, d⟩)
    (name : Introduction.ofBytes declared = .accepted role) (p : Place) :
    (n.takeFrame id declared).node.board.roster.holder p =
      if p = role.place then some ⟨id, role.name, address, id⟩ else n.board.roster.holder p := by
  have hregister : n.takeFrame id declared = n.register id role := by
    simp only [takeFrame, stage_of_intake h, name]
  have haddress : n.address id = address := address_of_intake h
  rw [hregister, ← haddress]
  -- The announcement that follows does not touch the roster.
  exact holder_enter n id role p

/-- **The life of a connection.** A connection comes in after any run and ends its stream. What
is recorded of it is a function of the bytes that it sent in between: however they were cut,
whatever happened to other connections meanwhile, and whatever happens afterwards.

That it is entered means that it holds its place from then on (`holder_takeFrame`), until a later
connection takes it or it ends itself (`roster_exact`). -/
theorem life_of_connection (localName : String) (handler : Handler) (bus : Bus)
    (before during after : List Input) (address : String) {frames : List ByteArray}
    {left : ByteArray} {reason : Frame.Error}
    (steady : handler.IsSteady) (fits : Frame.Fits localName.toUTF8)
    (listens : ((fresh localName handler bus).run before).node.listening = true)
    (isOpen : ∀ i ∈ during,
      i.ends ((fresh localName handler bus).run before).node.nextId = false)
    (parse : Frame.Parses
      (received ((fresh localName handler bus).run before).node.nextId during)
      frames left reason) :
    let id := ((fresh localName handler bus).run before).node.nextId
    let s := (fresh localName handler bus).run
      (before ++ .connect address none :: (during ++ .close id :: after))
    s.acts id = Effect.life id address frames reason ∧ s.node.stage id = .finished := by
  intro id s
  have horderly := orderly_run localName handler bus before
  have hnothing : ((fresh localName handler bus).run before).acts id = [] :=
    (horderly.outside id (Nat.le_refl _)).2
  obtain ⟨hname, hhandler, -⟩ := (run_moves_all (fresh localName handler bus) before).keeps
  obtain ⟨hlife, hfinished⟩ := life_from (n := ((fresh localName handler bus).run before).node)
    (by rwa [hhandler]) (by rwa [hname]) listens after address isOpen parse
  constructor
  · rw [acts_run_append, hnothing, List.nil_append]
    exact hlife
  · simp only [s, run_append, Step.node_andThen]
    exact hfinished

/-- A client whose name and first frame come cut inside both headers, while another peer connects
and declares the sentinel. Before it closes, it holds its place. -/
theorem life_of_client_among_others :
    let during : List Input :=
      [.receive 1 ⟨#[7, 0]⟩, .connect "10.0.0.8:4002" none,
        .receive 1 ⟨#[0, 0, 97, 112, 105, 45, 99, 108, 105, 1, 0]⟩,
        .receive 2 (Frame.wire closeSentinel.toUTF8), .receive 1 ⟨#[0, 0, 42]⟩]
    let frames : List ByteArray := [⟨#[97, 112, 105, 45, 99, 108, 105]⟩, ⟨#[42]⟩]
    let client : Role := ⟨.api, "api-cli"⟩
    let s := (fresh "root" .forwarding .fresh).run
      (.connect "10.0.0.7:4001" none :: (during ++ .close 1 :: [.close 2]))
    Frame.Parses (received 1 during) frames .empty .closed ∧
      s.acts 1 = Effect.taking 1 client ++ Effect.serving 1 client [⟨#[42]⟩] ++
        Effect.leaving 1 client (some .closed) ∧
      ((fresh "root" .forwarding .fresh).run
        (.connect "10.0.0.7:4001" none :: during)).node.board.roster.client? "api-cli" =
          some ⟨1, "api-cli", "10.0.0.7:4001", 1⟩ := by
  intro during frames client s
  have parse : Frame.Parses (received 1 during) frames .empty .closed :=
    ⟨by decide, by decide, .nothing⟩
  have hname : Introduction.ofBytes ⟨#[97, 112, 105, 45, 99, 108, 105]⟩ = .accepted client := by
    decide +kernel
  obtain ⟨hlife, -⟩ := life_of_connection "root" .forwarding .fresh [] during [.close 2]
    "10.0.0.7:4001" (fun _ _ => rfl) (by decide) rfl (by decide) parse
  simp only [Effect.life, frames, hname] at hlife
  exact ⟨parse, hlife, by decide +kernel⟩

end Node

end Overlay
