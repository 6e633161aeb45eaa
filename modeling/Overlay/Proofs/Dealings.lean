import Overlay.Proofs.Outlook

namespace Overlay

/-!
# The dealings of a node with its peers

Whatever a node does is, for what it writes and to whom, made up of a few dealings, each with one
peer. An invariant of the sending side need only be checked dealing by dealing.

* `Chain` — steps of one kind, one after another;
* `Worked` — what becomes of a queue when its writer works;
* `Deal` — one dealing: what it requires, what it changes, and what is seen of it;
* `Node.flush_worked`, `Node.react_deals` — what writers and inputs do consists of dealings;
* `Node.settle_quiet` — after every step no writer has anything left to do.
-/

/-! ### One step after another -/

/-- Steps of one kind, one after another. -/
inductive Chain (R : Node → Step → Prop) (n : Node) : Step → Prop
  /-- No step at all. -/
  | idle : Chain R n n.idle
  /-- One step more. -/
  | more {s t : Step} (earlier : Chain R n s) (last : R s.node t) :
      Chain R n ⟨t.node, s.effects ++ t.effects⟩

namespace Chain

variable {R : Node → Step → Prop} {n : Node} {s : Step}

/-- One step. -/
theorem single (h : R n s) : Chain R n s := by
  have hchain := Chain.more .idle h
  simpa [Node.idle] using hchain

/-- Steps after steps. -/
theorem append {t : Step} (hs : Chain R n s) (ht : Chain R s.node t) :
    Chain R n ⟨t.node, s.effects ++ t.effects⟩ := by
  induction ht with
  | idle => simpa [Node.idle] using hs
  | more _ last ih =>
    have hchain := Chain.more ih last
    simpa [List.append_assoc] using hchain

/-- Going on from steps with steps. -/
theorem andThen {next : Node → Step} (hs : Chain R n s) (ht : Chain R s.node (next s.node)) :
    Chain R n (s.andThen next) :=
  hs.append ht

/-- What any single step keeps, a chain keeps. The property speaks of a step, which grows. -/
theorem induct {P : Step → Prop} (h : Chain R n s) (h0 : P n.idle)
    (hstep : ∀ {s t}, P s → R s.node t → P ⟨t.node, s.effects ++ t.effects⟩) : P s := by
  induction h with
  | idle => exact h0
  | more _ last ih => exact hstep ih last

end Chain

/-! ### Writers at work -/

/-- Whether a writer can write what waits. -/
def Outlet.Flows (o : Outlet) : Prop := o.fault = none ∨ o.outbox.queued = []

/-- The frames that a writer writes. -/
def Outlet.writing (o : Outlet) (id : ConnectionId) : List Effect := o.outbox.queued.map (.sent id)

/-- What becomes of a connection when its writer works. -/
inductive Worked (n : Node) (id : ConnectionId) (s : Step) : Prop
  /-- There is no writer. -/
  | idle (node : s.node = n) (traffic : s.traffic = [])
      (absent : ∀ role, n.stage id = .serving role → n.board.isOpen id = false)
  /-- All that waits is written, and the writer goes on. -/
  | write (role : Role) (before : n.stage id = .serving role) (isOpen : n.board.isOpen id = true)
      (flows : (n.outlet id).Flows) (needed : n.board.isReferenced id = true)
      (outlook : s.node.outlook = n.outlook.set id { n.outlet id with outbox := {} })
      (traffic : s.traffic = (n.outlet id).writing id)
  /-- All that waits is written, and the writer ends, because nobody can send any more. -/
  | retire (role : Role) (before : n.stage id = .serving role) (isOpen : n.board.isOpen id = true)
      (flows : (n.outlet id).Flows) (needless : n.board.isReferenced id = false)
      (outlook : s.node.outlook = n.outlook.set id (n.outlet id).mute)
      (traffic : s.traffic = (n.outlet id).writing id ++ (n.outlet id).parting id)
  /-- Writing fails, and the writer ends. -/
  | choke (role : Role) (before : n.stage id = .serving role) (isOpen : n.board.isOpen id = true)
      (stuck : ¬ (n.outlet id).Flows)
      (outlook : s.node.outlook = n.outlook.set id (n.outlet id).mute)
      (traffic : s.traffic = (n.outlet id).parting id)

/-! ### Dealings -/

/-- One dealing of a node with a peer, or with other code. -/
inductive Deal (n : Node) (s : Step) : Prop
  /-- Nothing changes on the sending side. -/
  | still (outlook : s.node.outlook = n.outlook) (traffic : s.traffic = [])
  /-- A new connection is greeted. -/
  | greet (fits : Frame.Fits n.localName.toUTF8)
      (outlook : s.node.outlook =
        n.outlook.welcome ⟨.introducing, none, true, n.board.outbox n.nextId⟩)
      (traffic : s.traffic = [.sent n.nextId (Frame.wire n.localName.toUTF8)])
  /-- A new connection cannot be greeted, and ends. -/
  | snub (fault : Option IoFault)
      (outlook : s.node.outlook = n.outlook.welcome ⟨.finished, fault, false, .shut⟩)
      (traffic : s.traffic = [.hungUp n.nextId])
  /-- A connection that has no place ends. -/
  | refuse (id : ConnectionId) (before : n.stage id = .introducing)
      (outlook : s.node.outlook =
        n.outlook.set id { (n.outlet id).mute with stage := .finished })
      (traffic : s.traffic = (n.outlet id).parting id)
  /-- A connection takes its place and gets a queue. -/
  | register (id : ConnectionId) (role : Role) (before : n.stage id = .introducing)
      (outlook : s.node.outlook =
        { n.outlook.set id { n.outlet id with stage := .serving role, outbox := {} } with
          roster := (n.board.roster.install role.rank ⟨id, role.name, n.address id, id⟩).2 })
      (traffic : s.traffic = [])
  /-- A connection that serves ends and leaves its place. -/
  | tearDown (id : ConnectionId) (role : Role) (before : n.stage id = .serving role)
      (outlook : s.node.outlook =
        { n.outlook.set id { (n.outlet id).mute with stage := .finished } with
          roster := (n.board.roster.withdraw role id).2 })
      (traffic : s.traffic = (n.outlet id).parting id)
  /-- A writer works. -/
  | work (id : ConnectionId) (worked : Worked n id s)
  /-- A payload is accepted for a contact that is about. -/
  | take (c : Contact) (payload : ByteArray) (known : n.board.Knows c)
      (takes : n.board.Takes payload c)
      (outlook : s.node.outlook = n.outlook.set c.outbox
        { n.outlet c.outbox with
          outbox := ⟨(n.board.outbox c.outbox).queued ++ [Frame.wire payload], true⟩ })
      (traffic : s.traffic = [.accepted c.id payload])
  /-- Other code keeps a copy of a contact that is about. -/
  | keep (label : String) (c : Contact) (known : n.board.Knows c)
      (outlook : s.node.outlook = { n.outlook with kept := n.board.kept.insert label c })
      (traffic : s.traffic = [])
  /-- Other code gives up a copy. -/
  | release (label : String)
      (outlook : s.node.outlook = { n.outlook with kept := n.board.kept.erase label })
      (traffic : s.traffic = [])
  /-- From now on writing to a connection fails. -/
  | impair (id : ConnectionId) (fault : IoFault)
      (outlook : s.node.outlook = n.outlook.set id { n.outlet id with fault := some fault })
      (traffic : s.traffic = [])

/-- Dealings one after another. -/
abbrev Deals : Node → Step → Prop := Chain Deal

namespace Node

/-! ### The work of writers -/

theorem keeps_drain (b : Switchboard) (key : OutboxId) :
    (b.drain key).2.roster = b.roster ∧ (b.drain key).2.kept = b.kept := by
  unfold Switchboard.drain
  split <;> exact ⟨rfl, rfl⟩

/-- What a writer writes is traffic, and what it logs is not. -/
theorem traffic_written (n : Node) (id : ConnectionId) (d : Delivery) :
    (⟨n, d.written.map (.sent id) ++ d.log.map (.logged (some id))⟩ : Step).traffic =
      d.written.map (.sent id) := by
  have hlogged := traffic_logged n (some id) d.log
  unfold Step.traffic at hlogged ⊢
  rw [List.filter_append, hlogged, List.append_nil, List.filter_eq_self]
  intro e he
  obtain ⟨frame, -, rfl⟩ := List.mem_map.1 he
  rfl

/-- Without a fault, or without a frame, everything is written. -/
theorem deliver_of_flows (name : String) {o : Outlet} (h : o.Flows) :
    (deliver name o.fault o.outbox.queued).written = o.outbox.queued ∧
      (deliver name o.fault o.outbox.queued).survives = true := by
  rcases h with hfault | hnothing
  · rw [hfault]
    exact ⟨rfl, rfl⟩
  · rw [hnothing]
    cases o.fault <;> exact ⟨rfl, rfl⟩

/-- The first write that fails ends the writer. -/
theorem deliver_of_stuck (name : String) {o : Outlet} (h : ¬ o.Flows) :
    (deliver name o.fault o.outbox.queued).written = [] ∧
      (deliver name o.fault o.outbox.queued).survives = false := by
  unfold Outlet.Flows at h
  cases hfault : o.fault with
  | none => exact absurd (.inl hfault) h
  | some fault =>
    cases hqueued : o.outbox.queued with
    | nil => exact absurd (.inr hqueued) h
    | cons frame rest => exact ⟨rfl, rfl⟩

/-- Without a writer there is no work. -/
theorem flush_of_absent {n : Node} {id : ConnectionId}
    (h : ∀ role, n.stage id = .serving role → n.board.isOpen id = false) :
    n.flush id = n.idle := by
  unfold flush
  split
  case h_1 role _ hrole => rw [n.board.drain_of_shut (h role hrole)]
  case h_2 => rfl

/-- **A writer at work.** -/
theorem flush_worked (n : Node) (id : ConnectionId) : Worked n id (n.flush id) := by
  by_cases hwriter : ∃ role, n.stage id = .serving role ∧ n.board.isOpen id = true
  case neg =>
    have habsent : ∀ role, n.stage id = .serving role → n.board.isOpen id = false := by
      intro role hrole
      by_contra hopen
      exact hwriter ⟨role, hrole, by simpa using hopen⟩
    rw [flush_of_absent habsent]
    exact .idle rfl rfl habsent
  case pos =>
    obtain ⟨role, hrole, hopen⟩ := hwriter
    have hstage : n.stage id ≠ .finished := by simp [hrole]
    obtain ⟨c, hc⟩ := exists_connection hstage
    have hfault : (n.outlet id).fault = c.fault := by rw [outlet, hc]
    obtain ⟨hfrom, hto⟩ := n.board.drain_eq hopen
    obtain ⟨hroster, hkept⟩ := keeps_drain n.board id
    have hdrained : n.board.drain id =
        (some (n.outlet id).outbox.queued, (n.board.drain id).2) := by
      rw [outlet_outbox, ← hfrom]
    -- From here on only the look-ups of what `drain` leaves behind matter.
    generalize (n.board.drain id).2 = board at hto hroster hkept hdrained
    -- What is written is taken out of the queue.
    have hwritten : ({ n with board } : Node).outlook =
        n.outlook.set id { n.outlet id with outbox := {} } := outlook_board hroster hkept hto
    have hneeded : board.isReferenced id = n.board.isReferenced id := by
      unfold Switchboard.isReferenced
      rw [hroster, hkept]
    have htraffic := traffic_written { n with board } id
      (deliver role.name c.fault (n.outlet id).outbox.queued)
    -- However a writer ends, its queue is empty by then.
    have hmuted : ({ n with board := board.closeOutbox id }.hangUp id).node.outlook =
        n.outlook.set id (n.outlet id).mute := by
      have hmute := outlook_mute { n with board } id
      rw [outlet_of_outlook hwritten, hwritten, Outlook.set_set] at hmute
      exact hmute
    have hparting : ({ n with board := board.closeOutbox id }.hangUp id).traffic =
        (n.outlet id).parting id := by
      have hmute := traffic_mute { n with board } id
      rw [outlet_of_outlook hwritten] at hmute
      exact hmute
    simp only [flush, hc, hrole, hdrained]
    rw [← hfault] at htraffic ⊢
    by_cases hflows : (n.outlet id).Flows
    · obtain ⟨hall, hsurvives⟩ := deliver_of_flows role.name hflows
      rw [hall] at htraffic
      rw [hsurvives, Bool.true_and, hneeded]
      by_cases hreferenced : n.board.isReferenced id = true
      · rw [if_pos hreferenced, hall]
        exact .write role hrole hopen hflows hreferenced hwritten htraffic
      · rw [if_neg hreferenced, hall]
        refine .retire role hrole hopen hflows (by simpa using hreferenced) hmuted ?_
        rw [Step.traffic_andThen, htraffic]
        exact congrArg _ hparting
    · obtain ⟨hnone, hends⟩ := deliver_of_stuck role.name hflows
      rw [hnone] at htraffic
      rw [hends, Bool.false_and, if_neg Bool.false_ne_true, hnone]
      refine .choke role hrole hopen hflows hmuted ?_
      rw [Step.traffic_andThen, htraffic]
      exact hparting

/-! ### A connection's own work -/

/-- Work that changes nothing on the sending side. -/
theorem still_deals {n : Node} {s : Step} (outlook : s.node.outlook = n.outlook)
    (traffic : s.traffic = []) : Deals n s := .single (.still outlook traffic)

theorem refusal_deals {n : Node} {id : ConnectionId} (entries : List Log.Entry)
    (before : n.stage id = .introducing) :
    Deals n ((n.reportOn id entries).andThen (·.finish id)) := by
  have hstage : n.stage id ≠ .finished := by simp [before]
  obtain ⟨houtlook, htraffic⟩ := finish_spec hstage
  refine (still_deals rfl (traffic_reportOn n id entries)).andThen ?_
  exact .single (.refuse id before houtlook htraffic)

theorem register_deals {n : Node} {id : ConnectionId} (role : Role)
    (before : n.stage id = .introducing) : Deals n (n.register id role) := by
  have hstage : n.stage id ≠ .finished := by simp [before]
  have houtlook := outlook_enter hstage role
  have hplace : Deals n (n.enter id role) :=
    .single (.register id role before houtlook (traffic_enter n id role))
  exact hplace.andThen (still_deals (outlook_announce ..) (traffic_announce ..))

theorem tearDown_deals {n : Node} {id : ConnectionId} {role : Role}
    (before : n.stage id = .serving role) : Deals n (n.tearDown id role) := by
  have hstage : n.stage id ≠ .finished := by simp [before]
  obtain ⟨houtlook, htraffic⟩ := finish_spec hstage
  have hroster : (n.finish id).node.board.roster = n.board.roster :=
    congrArg Outlook.roster houtlook
  -- Closing the connection and leaving the place are one dealing.
  have hended : Deals n ((n.finish id).andThen (·.leave id role)) := by
    refine .single (.tearDown id role before ?_ ?_)
    · rw [Step.node_andThen, outlook_leave, houtlook, hroster]
    · rw [Step.traffic_andThen, htraffic, traffic_leave, List.append_nil]
  exact hended.andThen (still_deals (outlook_announce ..) (traffic_announce ..))

theorem dispatch_deals {n : Node} {id : ConnectionId} {role : Role}
    (before : n.stage id = .serving role) (payload : ByteArray) :
    Deals n (n.dispatch id role payload) := by
  have hhand (m : Message) (outcome : Handler.Outcome) : Deals n (n.hand id m outcome) :=
    still_deals (outlook_hand ..) (traffic_hand ..)
  simp only [dispatch]
  split
  · exact (hhand _ _).andThen (tearDown_deals before)
  · exact hhand _ _

theorem takeFrame_deals (n : Node) (id : ConnectionId) (payload : ByteArray) :
    Deals n (n.takeFrame id payload) := by
  unfold takeFrame
  split
  case h_1 before =>
    split
    case h_1 => exact refusal_deals _ before
    case h_2 role _ => exact register_deals role before
  case h_2 role before => exact dispatch_deals before payload
  case h_3 => exact .idle

theorem takeFrames_deals (n : Node) (id : ConnectionId) (payloads : List ByteArray) :
    Deals n (n.takeFrames id payloads) := by
  induction payloads generalizing n with
  | nil => exact .idle
  | cons payload payloads ih => exact (takeFrame_deals n id payload).andThen (ih _)

theorem breakOff_deals (n : Node) (id : ConnectionId) (cause : Frame.Error) :
    Deals n (n.breakOff id cause) := by
  unfold breakOff
  split
  case h_1 before => exact refusal_deals _ before
  case h_2 role before =>
    exact (still_deals rfl (traffic_reportOn ..)).andThen (tearDown_deals before)
  case h_3 => exact .idle

theorem receive_deals (n : Node) (id : ConnectionId) (bytes : ByteArray) :
    Deals n (n.receive id bytes) := by
  unfold receive
  split
  · exact .idle
  · refine (takeFrames_deals n id _).andThen ?_
    split
    · exact .idle
    -- Bytes that wait for the rest of their frame are of no matter here.
    · unfold retain
      split
      · exact breakOff_deals _ id _
      · exact still_deals (outlook_update fun _ => ⟨rfl, rfl, rfl⟩) rfl

theorem endOfStream_deals (n : Node) (id : ConnectionId) : Deals n (n.endOfStream id) := by
  unfold endOfStream
  split
  · exact .idle
  · exact breakOff_deals n id _

/-! ### New connections -/

/-- A connection that cannot be greeted ends. -/
theorem snub_spec (n : Node) {c : Connection} (before : c.stage = .introducing)
    (sending : c.sending = true) (entries : List Log.Entry) :
    (((n.arrive c).reportOn n.nextId entries).andThen (·.finish n.nextId)).node.outlook =
        n.outlook.welcome ⟨.finished, c.fault, false, .shut⟩ ∧
      (((n.arrive c).reportOn n.nextId entries).andThen (·.finish n.nextId)).traffic =
        [.hungUp n.nextId] := by
  have harrive := outlook_arrive n c
  have houtlet : (n.arrive c).outlet n.nextId =
      ⟨c.stage, c.fault, c.sending, n.board.outbox n.nextId⟩ := by
    have hself := congrFun (congrArg Outlook.outlet harrive) n.nextId
    exact hself.trans (Outlook.outlet_set_self ..)
  have hstage : (n.arrive c).stage n.nextId ≠ .finished := by
    rw [← outlet_stage, houtlet, before]
    exact fun heq => by cases heq
  obtain ⟨houtlook, htraffic⟩ := finish_spec hstage
  rw [houtlet, harrive] at houtlook
  rw [houtlet] at htraffic
  rw [Step.node_andThen, Step.traffic_andThen, node_reportOn, traffic_reportOn, List.nil_append]
  exact ⟨houtlook.trans (n.outlook.set_welcome _ _), htraffic.trans (if_pos sending)⟩

/-- **A new connection** is greeted, or ends at once. -/
theorem accept_deal (n : Node) (address : String) (fault : Option IoFault) :
    Deal n (n.accept address fault) := by
  let c : Connection := { address, fault, stage := .introducing }
  have htraffic : (n.accept address fault).traffic = ((n.arrive c).greet n.nextId c).traffic := by
    show (((n.arrive c).report _).andThen (·.greet n.nextId c)).traffic = _
    rw [Step.traffic_andThen, traffic_report, List.nil_append, node_report]
  have hnode : (n.accept address fault).node = ((n.arrive c).greet n.nextId c).node := rfl
  unfold greet at htraffic hnode
  cases hencode : Frame.encode n.localName.toUTF8 with
  | error cause =>
    -- The node's name has no frame.
    have hname : Frame.encode (n.arrive c).localName.toUTF8 = .error cause := hencode
    rw [hname] at htraffic hnode
    obtain ⟨houtlook, hhungUp⟩ := snub_spec n (c := c) rfl rfl
      [.handshakeFailed (.greeting c.address cause)]
    exact .snub fault (hnode ▸ houtlook) (htraffic.trans hhungUp)
  | ok frame =>
    have hname : Frame.encode (n.arrive c).localName.toUTF8 = .ok frame := hencode
    rw [hname] at htraffic hnode
    cases fault with
    | some fault =>
      obtain ⟨houtlook, hhungUp⟩ := snub_spec n (c := c) rfl rfl
        [.handshakeFailed (.greeting c.address (.io fault))]
      exact .snub (some fault) (hnode ▸ houtlook) (htraffic.trans hhungUp)
    | none =>
      obtain ⟨hfits, rfl⟩ := Frame.encode_eq_ok_iff.1 hencode
      refine .greet hfits ?_ htraffic
      rw [hnode]
      exact outlook_arrive n c

/-! ### Other code -/

/-- A payload sent to contacts that are about is accepted by one after another. -/
theorem sendEach_deals (n : Node) {cs : List Contact} (known : ∀ c ∈ cs, n.board.Knows c)
    (payload : ByteArray) :
    Deals n ⟨{ n with board := (n.board.sendEach payload cs).board },
      (n.board.sendEach payload cs).accepted.map fun c => .accepted c.id payload⟩ := by
  induction cs generalizing n with
  | nil => exact .idle
  | cons c cs ih =>
    obtain ⟨hroster, hkept⟩ := n.board.send_keeps c payload
    -- After the first contact the others are about still.
    let first : Node := { n with board := (n.board.send c payload).board }
    have hothers : Deals first ⟨{ first with board := (first.board.sendEach payload cs).board },
        (first.board.sendEach payload cs).accepted.map fun c => .accepted c.id payload⟩ := by
      refine ih first fun d hd => ?_
      exact (Switchboard.knows_congr hroster hkept).2 (known d (List.mem_cons_of_mem _ hd))
    have hfirst : Deals n ⟨first,
        (n.board.send c payload).accepted.map fun c => .accepted c.id payload⟩ := by
      rcases n.board.send_cases c payload with ⟨htakes, hsend⟩ | ⟨-, haccepted, hboard⟩
      · refine .single (.take c payload (known c List.mem_cons_self) htakes ?_ ?_)
        · simp only [first, hsend]
          exact outlook_board rfl rfl (n.board.outbox_enqueue htakes.2 _)
        · simp only [hsend]
          rfl
      · rw [haccepted]
        refine still_deals ?_ rfl
        simp only [first, hboard]
    have hboth := hfirst.append hothers
    rw [← List.map_append] at hboth
    exact hboth

theorem post_deals (n : Node) (route : Route) (payload : ByteArray) :
    Deals n (n.post route payload) := by
  have hknown : ∀ c ∈ n.board.addressees route, n.board.Knows c :=
    fun c hc => Switchboard.knows_of_mem_addressees hc
  have hsent := sendEach_deals n hknown payload
  have hlogged : Deals { n with board := (n.board.post route payload).board }
      ⟨{ n with board := (n.board.post route payload).board },
        (n.board.post route payload).log.map (.logged none)⟩ :=
    still_deals rfl (traffic_logged _ none _)
  exact hsent.append hlogged

theorem keep_deals (n : Node) (route : Route) (label : String) :
    Deals n (n.keep route label).idle := by
  unfold keep
  split
  case h_1 => exact .idle
  case h_2 c rest hroute =>
    have hmem : c ∈ n.board.addressees route := by
      rw [hroute]
      exact List.mem_cons_self
    have hknown : n.board.Knows c := Switchboard.knows_of_mem_addressees hmem
    exact .single (.keep label c hknown rfl rfl)

theorem impair_deals (n : Node) (id : ConnectionId) (fault : IoFault) :
    Deals n (n.update id ({ · with fault := some fault })).idle := by
  cases hc : n.connections[id]? with
  | none =>
    have houtlet := outlet_update_of_none hc ({ · with fault := some fault })
    refine still_deals ?_ rfl
    rw [node_idle, outlook, houtlet]
    rfl
  | some c =>
    have hupdate := outlet_update hc ({ · with fault := some fault })
    have houtlet : n.outlet id = ⟨c.stage, c.fault, c.sending, n.board.outbox id⟩ := by
      rw [outlet, hc]
    refine .single (.impair id fault ?_ rfl)
    rw [node_idle, outlook, hupdate, houtlet]
    rfl

/-! ### Inputs -/

/-- **Whatever an input does consists of dealings.** -/
theorem react_deals (n : Node) (i : Input) : Deals n (n.react i) := by
  cases i with
  | connect address fault =>
    simp only [react]
    split
    · exact .single (accept_deal n address fault)
    · exact .idle
  | receive id bytes => exact receive_deals n id bytes
  | close id => exact endOfStream_deals n id
  | fail id fault => exact breakOff_deals n id _
  | impair id fault => exact impair_deals n id fault
  | post route payload => exact post_deals n route payload
  | keep route label => exact keep_deals n route label
  | release label => exact .single (.release label rfl rfl)
  | detachEvents => exact still_deals rfl rfl
  | detachMessages => exact still_deals rfl rfl
  | stopListening => exact still_deals rfl rfl

/-! ### When nothing is left to do -/

/-- The writer of a connection has nothing to do: all is written, and somebody can still send. -/
def IsSettled (n : Node) (id : ConnectionId) : Prop :=
  ∀ role, n.stage id = .serving role → n.board.isOpen id = true →
    (n.board.outbox id).queued = [] ∧ n.board.isReferenced id = true

/-- Nothing is left to do for any writer. -/
def IsQuiet (n : Node) : Prop := ∀ id, n.IsSettled id

/-- What a writer has to do can be seen from the sending side. -/
theorem IsSettled.of_outlook {n m : Node} {id : ConnectionId} (h : n.IsSettled id)
    (houtlet : m.outlet id = n.outlet id) (hroster : m.board.roster = n.board.roster)
    (hkept : m.board.kept = n.board.kept) : m.IsSettled id := by
  have hstage : m.stage id = n.stage id := by rw [← outlet_stage, houtlet, outlet_stage]
  have hbox : m.board.outbox id = n.board.outbox id := by
    rw [← outlet_outbox, houtlet, outlet_outbox]
  have hneeded : m.board.isReferenced id = n.board.isReferenced id := by
    unfold Switchboard.isReferenced
    rw [hroster, hkept]
  intro role hrole hopen
  rw [Switchboard.isOpen_eq, hbox, ← Switchboard.isOpen_eq] at hopen
  rw [hbox, hneeded]
  exact h role (hstage ▸ hrole) hopen

end Node

namespace Worked

open Node

variable {n : Node} {s : Step} {id : ConnectionId}

/-- A writer changes neither the roster nor the copies kept, and no other connection. -/
theorem keeps (h : Worked n id s) : s.node.board.roster = n.board.roster ∧
    s.node.board.kept = n.board.kept ∧ ∀ j, j ≠ id → s.node.outlet j = n.outlet j := by
  have hset {o : Outlet} (outlook : s.node.outlook = n.outlook.set id o) :
      s.node.board.roster = n.board.roster ∧ s.node.board.kept = n.board.kept ∧
        ∀ j, j ≠ id → s.node.outlet j = n.outlet j := by
    refine ⟨congrArg Outlook.roster outlook, congrArg Outlook.kept outlook, fun j hj => ?_⟩
    have houtlet := congrFun (congrArg Outlook.outlet outlook) j
    exact houtlet.trans (n.outlook.outlet_set_of_ne hj o)
  cases h with
  | idle node => exact node ▸ ⟨rfl, rfl, fun _ _ => rfl⟩
  | write _ _ _ _ _ outlook | retire _ _ _ _ _ outlook | choke _ _ _ _ outlook =>
    exact hset outlook

/-- A writer that has worked has nothing left to do. -/
theorem settled (h : Worked n id s) : s.node.IsSettled id := by
  intro role hrole hopen
  rw [Switchboard.isOpen_eq] at hopen
  cases h with
  | idle node _ absent =>
    rw [node] at hrole hopen
    rw [← Switchboard.isOpen_eq, absent role hrole] at hopen
    cases hopen
  | write _ _ _ _ needed outlook =>
    have hbox : s.node.board.outbox id = {} := by
      rw [← outlet_outbox, outlet_of_outlook outlook]
    have hroster : s.node.board.roster = n.board.roster := congrArg Outlook.roster outlook
    have hkept : s.node.board.kept = n.board.kept := congrArg Outlook.kept outlook
    rw [hbox]
    refine ⟨rfl, ?_⟩
    rwa [Switchboard.isReferenced, hroster, hkept]
  | retire _ _ _ _ _ outlook | choke _ _ _ _ outlook =>
    rw [← outlet_outbox, outlet_of_outlook outlook] at hopen
    cases hopen

end Worked

/-- Whoever comes to be about is a connection that takes its place. -/
theorem Deal.knows {n : Node} {s : Step} (h : Deal n s) {c : Contact}
    (hc : s.node.board.Knows c) : n.board.Knows c ∨
      ∃ (id : ConnectionId) (role : Role) (address : String),
        n.stage id = .introducing ∧ c = ⟨id, role.name, address, id⟩ := by
  cases h with
  | still outlook | greet _ outlook | snub _ outlook | refuse _ _ outlook
  | take _ _ _ _ outlook | impair _ _ outlook =>
    exact .inl ((Switchboard.knows_congr (congrArg Outlook.roster outlook)
      (congrArg Outlook.kept outlook)).1 hc)
  | work id worked =>
    obtain ⟨hroster, hkept, -⟩ := worked.keeps
    exact .inl ((Switchboard.knows_congr hroster hkept).1 hc)
  | register id role before outlook =>
    have hroster := congrArg Outlook.roster outlook
    have hkept : s.node.board.kept = n.board.kept := congrArg Outlook.kept outlook
    rcases hc with ⟨p, hp⟩ | ⟨label, hlabel⟩
    -- The place in question is the newcomer's own, or another.
    · change s.node.board.roster = _ at hroster
      rw [hroster, Roster.holder_install _ rfl] at hp
      split at hp
      · cases hp
        exact .inr ⟨id, role, n.address id, before, rfl⟩
      · exact .inl (.inl ⟨p, hp⟩)
    · exact .inl (.inr ⟨label, hkept ▸ hlabel⟩)
  | tearDown id role before outlook =>
    have hroster := congrArg Outlook.roster outlook
    have hkept : s.node.board.kept = n.board.kept := congrArg Outlook.kept outlook
    rcases hc with ⟨p, hp⟩ | ⟨label, hlabel⟩
    · change s.node.board.roster = _ at hroster
      rw [hroster, Roster.holder_withdraw] at hp
      split at hp
      · cases hp
      · exact .inl (.inl ⟨p, hp⟩)
    · exact .inl (.inr ⟨label, hkept ▸ hlabel⟩)
  | keep label d known outlook =>
    have hroster : s.node.board.roster = n.board.roster := congrArg Outlook.roster outlook
    have hkept : s.node.board.kept = n.board.kept.insert label d := congrArg Outlook.kept outlook
    rcases hc with ⟨p, hp⟩ | ⟨other, hother⟩
    · exact .inl (.inl ⟨p, hroster ▸ hp⟩)
    -- A copy is made of a contact that is about already.
    · rw [hkept, Std.ExtTreeMap.getElem?_insert] at hother
      split at hother
      · cases hother
        exact .inl known
      · exact .inl (.inr ⟨other, hother⟩)
  | release label outlook =>
    have hroster : s.node.board.roster = n.board.roster := congrArg Outlook.roster outlook
    have hkept : s.node.board.kept = n.board.kept.erase label := congrArg Outlook.kept outlook
    rcases hc with ⟨p, hp⟩ | ⟨other, hother⟩
    · exact .inl (.inl ⟨p, hroster ▸ hp⟩)
    · rw [hkept, Std.ExtTreeMap.getElem?_erase] at hother
      split at hother
      · cases hother
      · exact .inl (.inr ⟨other, hother⟩)

namespace Node

/-- Work leaves those settled who were. -/
theorem flushEach_settled (n : Node) (ids : List ConnectionId) {id : ConnectionId}
    (h : n.IsSettled id ∨ id ∈ ids) : (n.flushEach ids).node.IsSettled id := by
  induction ids generalizing n with
  | nil =>
    rcases h with hsettled | hnone
    · exact hsettled
    · cases hnone
  | cons j ids ih =>
    have hworked := flush_worked n j
    obtain ⟨hroster, hkept, hothers⟩ := hworked.keeps
    refine ih (n.flush j).node ?_
    -- This was the turn of `id` itself, or it stays what it is and may have its turn later.
    by_cases hj : id = j
    · subst hj
      exact .inl hworked.settled
    · rcases h with hsettled | hmem
      · exact .inl (hsettled.of_outlook (hothers id hj) hroster hkept)
      · exact .inr ((List.mem_cons.1 hmem).resolve_left hj)

/-- **After every step no writer has anything left to do.** -/
theorem settle_quiet (n : Node) : n.settle.node.IsQuiet := by
  intro id
  refine flushEach_settled n _ ?_
  cases hc : n.connections[id]? with
  | none =>
    -- A connection that was never accepted does not serve.
    refine .inl fun role hrole => ?_
    have hstage : n.stage id ≠ .finished := by simp [hrole]
    obtain ⟨c, hsome⟩ := exists_connection hstage
    rw [hc] at hsome
    cases hsome
  | some c =>
    refine .inr (Std.ExtTreeMap.mem_keys.2 ?_)
    rw [Std.ExtTreeMap.mem_iff_isSome_getElem?, hc]
    rfl

/-- A node that begins quiet is quiet after every run. -/
theorem run_quiet {n : Node} (h : n.IsQuiet) (is : List Input) : (n.run is).node.IsQuiet := by
  induction is generalizing n with
  | nil => exact h
  | cons i is ih => exact ih (settle_quiet _)

end Node

end Overlay
