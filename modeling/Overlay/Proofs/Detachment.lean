import Overlay.Proofs.Erasure

namespace Overlay

/-!
# Subscribers come and go unnoticed

Events and messages are given to subscribers, and nothing comes back. A node works the same whatever
its subscribers are and whenever they go away; only what they get is different, and what is logged
about what they did not get.

* `Fickle` — which of the two subscribers may differ; `Node.unheard` and `Step.unheard` — what is
  left of a node and of a step without them;
* `Deaf` — work of a node that comes to the same whatever those subscribers are;
* one lemma `deaf_…` for every critical section, and from these for everything a node does;
* `Unmoved` — what that means for those who look at two nodes;
* `Node.subscribers_unnoticed` — every run, every schedule, and the middle of any work.
-/

/-- Which subscribers may differ between two nodes, and go away. -/
structure Fickle where
  /-- The subscriber to events. -/
  events : Bool
  /-- The subscriber to messages. -/
  messages : Bool

/-- An entry that says that one of these subscribers did not get something. -/
def Log.Entry.isDrop (w : Fickle) : Log.Entry → Bool
  | .eventDropped _ => w.events
  | .messageDropped => w.messages
  | _ => false

/-- Whether an act is only to log that one of these subscribers did not get something. -/
def Effect.isDrop (w : Fickle) : Effect → Bool
  | .logged _ e => e.isDrop w
  | _ => false

/-- Whether one of these subscribers goes away. -/
def Node.Input.detaches (w : Fickle) : Node.Input → Bool
  | .detachEvents => w.events
  | .detachMessages => w.messages
  | _ => false

/-- The same of a pulse. -/
def Node.Pulse.detaches (w : Fickle) : Node.Pulse → Bool
  | .input i => i.detaches w
  | .writer _ => false

/-- A node without these subscribers. -/
def Node.unheard (w : Fickle) (n : Node) : Node :=
  { n with
    bus := if w.events then .silent else n.bus
    messages := if w.messages then {} else n.messages }

/-- A step without these subscribers, and without what is logged of their absence. -/
def Step.unheard (w : Fickle) (s : Step) : Step :=
  ⟨s.node.unheard w, s.effects.filter fun e => !e.isDrop w⟩

variable {w : Fickle}

theorem Step.unheard_andThen (s : Step) (next : Node → Step) :
    (s.andThen next).unheard w =
      ⟨(next s.node).node.unheard w,
        (s.unheard w).effects ++ ((next s.node).unheard w).effects⟩ := by
  simp [unheard, List.filter_append]

/-- Work that comes to the same whatever these subscribers are. -/
def Deaf (w : Fickle) (f : Node → Step) : Prop :=
  ∀ n, (f n).unheard w = (f (n.unheard w)).unheard w

namespace Deaf

variable {f g : Node → Step}

/-- **Two nodes that differ in these subscribers only** do the same work. -/
theorem congr (h : Deaf w f) {n m : Node} (hnm : n.unheard w = m.unheard w) :
    (f n).unheard w = (f m).unheard w := by
  rw [h n, hnm, ← h m]

/-- Going on from work that ends alike with work that ends alike. -/
theorem andThen_congr (h : Deaf w g) {s t : Step} (hst : s.unheard w = t.unheard w) :
    (s.andThen g).unheard w = (t.andThen g).unheard w := by
  have hnode : s.node.unheard w = t.node.unheard w := congrArg Step.node hst
  have hnext := h.congr hnode
  rw [Step.unheard_andThen, Step.unheard_andThen, hst, hnext]
  exact congrArg (Step.mk · _) (congrArg Step.node hnext)

/-- One piece of work after another. -/
theorem andThen (hf : Deaf w f) (hg : Deaf w g) : Deaf w fun n => (f n).andThen g :=
  fun n => hg.andThen_congr (hf n)

/-- Work that begins with a change of something else. -/
theorem after (h : Deaf w f) {change : Node → Node}
    (hchange : ∀ n, (change n).unheard w = (change (n.unheard w)).unheard w) :
    Deaf w fun n => f (change n) :=
  fun n => h.congr (hchange n)

/-- Work whose kind depends on something else. -/
theorem ite {p : Node → Prop} [DecidablePred p] (hf : Deaf w f) (hg : Deaf w g)
    (hp : ∀ n, p n ↔ p (n.unheard w)) : Deaf w fun n => if p n then f n else g n := by
  intro n
  simp only [← hp n]
  split
  · exact hf n
  · exact hg n

end Deaf

namespace Node

/-! ### Critical sections -/

theorem deaf_idle : Deaf w idle := by
  intro n
  obtain ⟨_ | _, _ | _⟩ := w <;> rfl

theorem deaf_report (entries : List Log.Entry) : Deaf w fun n => n.report entries := by
  intro n
  obtain ⟨_ | _, _ | _⟩ := w <;> rfl

theorem deaf_reportOn (id : ConnectionId) (entries : List Log.Entry) :
    Deaf w fun n => n.reportOn id entries := by
  intro n
  obtain ⟨_ | _, _ | _⟩ := w <;> rfl

/-- An event that nobody takes is logged, and that is all. -/
theorem deaf_announce (id : ConnectionId) (e : Lifecycle.Event) :
    Deaf w fun n => n.announce id e := by
  intro n
  obtain ⟨events, messages⟩ := w
  cases events with
  | false => cases messages <;> rfl
  | true =>
    have hlog : ((n.bus.publish e).2.map (Effect.logged (some id))).filter
        (fun e => !e.isDrop ⟨true, messages⟩) = [] := by
      unfold Bus.publish Mailbox.post
      split
      · rfl
      · split <;> rename_i h <;> split at h <;> cases h <;> rfl
    have hannounced : (n.announce id e).effects.filter (fun e => !e.isDrop ⟨true, messages⟩) =
        [.published id e] := congrArg (Effect.published id e :: ·) hlog
    unfold Step.unheard
    rw [hannounced]
    cases messages <;> rfl

theorem deaf_enter (id : ConnectionId) (role : Role) : Deaf w fun n => n.enter id role := by
  intro n
  obtain ⟨_ | _, _ | _⟩ := w <;> rfl

theorem deaf_leave (id : ConnectionId) (role : Role) : Deaf w fun n => n.leave id role := by
  intro n
  obtain ⟨_ | _, _ | _⟩ := w <;> rfl

theorem deaf_hangUp (id : ConnectionId) : Deaf w fun n => n.hangUp id := by
  unfold hangUp
  refine Deaf.ite (fun n => ?_) deaf_idle fun n => Iff.rfl
  obtain ⟨_ | _, _ | _⟩ := w <;> rfl

theorem deaf_finish (id : ConnectionId) : Deaf w fun n => n.finish id := by
  unfold finish
  refine (deaf_hangUp id).after fun n => ?_
  obtain ⟨_ | _, _ | _⟩ := w <;> rfl

/-- A message that nobody takes is logged, and that is all. -/
theorem deaf_hand (id : ConnectionId) (m : Message) :
    Deaf w fun n => n.hand id m (n.handler.handle n.messages m n.calls) := by
  intro n
  obtain ⟨events, messages⟩ := w
  cases messages with
  | false => cases events <;> rfl
  | true =>
    have hlog (mailbox : Mailbox Message) :
        ((n.handler.handle mailbox m n.calls).log.map (Effect.logged (some id))).filter
          (fun e => !e.isDrop ⟨events, true⟩) =
        ((n.handler.handle {} m n.calls).log.map (Effect.logged (some id))).filter
          (fun e => !e.isDrop ⟨events, true⟩) := by
      unfold Handler.handle Mailbox.post
      split
      · rfl
      · split
        · by_cases hopen : mailbox.isOpen = true
          · simp [hopen]
          · simp [hopen, Effect.isDrop, Log.Entry.isDrop]
        · rfl
    have hhanded : (n.hand id m (n.handler.handle n.messages m n.calls)).effects.filter
          (fun e => !e.isDrop ⟨events, true⟩) =
        (n.hand id m (n.handler.handle {} m n.calls)).effects.filter
          (fun e => !e.isDrop ⟨events, true⟩) := congrArg (Effect.handled id m :: ·) (hlog _)
    unfold Step.unheard
    rw [hhanded]
    cases events <;> rfl

/-! ### A connection's own work -/

theorem deaf_register (id : ConnectionId) (role : Role) : Deaf w fun n => n.register id role :=
  (deaf_enter id role).andThen (deaf_announce id role.arrival)

theorem deaf_tearDown (id : ConnectionId) (role : Role) : Deaf w fun n => n.tearDown id role :=
  ((deaf_finish id).andThen (deaf_leave id role)).andThen (deaf_announce id role.departure)

theorem deaf_dispatch (id : ConnectionId) (role : Role) (payload : ByteArray) :
    Deaf w fun n => n.dispatch id role payload := by
  have hhand := deaf_hand (w := w) id ⟨role.isApi, true, payload⟩
  unfold dispatch
  refine Deaf.ite (hhand.andThen (deaf_tearDown id role)) hhand fun n => ?_
  rw [Handler.broke_handle, Handler.broke_handle]
  rfl

theorem deaf_takeFrame (id : ConnectionId) (payload : ByteArray) :
    Deaf w fun n => n.takeFrame id payload := by
  intro n
  have hstage : (n.unheard w).stage id = n.stage id := rfl
  simp only [takeFrame, hstage]
  split
  · split
    · exact ((deaf_reportOn id _).andThen (deaf_finish id)) n
    · exact deaf_register id _ n
  · exact deaf_dispatch id _ payload n
  · exact deaf_idle n

theorem deaf_takeFrames (id : ConnectionId) (payloads : List ByteArray) :
    Deaf w fun n => n.takeFrames id payloads := by
  induction payloads with
  | nil => exact deaf_idle
  | cons payload payloads ih => exact (deaf_takeFrame id payload).andThen ih

theorem deaf_breakOff (id : ConnectionId) (cause : Frame.Error) :
    Deaf w fun n => n.breakOff id cause := by
  intro n
  have hstage : (n.unheard w).stage id = n.stage id := rfl
  simp only [breakOff, hstage]
  split
  · exact ((deaf_reportOn id _).andThen (deaf_finish id)) n
  · exact ((deaf_reportOn id _).andThen (deaf_tearDown id _)) n
  · exact deaf_idle n

theorem deaf_retain (id : ConnectionId) (rest : ByteArray) :
    Deaf w fun n => n.retain id rest := by
  unfold retain
  split
  · exact deaf_breakOff id _
  · refine deaf_idle.after fun n => ?_
    obtain ⟨_ | _, _ | _⟩ := w <;> rfl

theorem deaf_receive (id : ConnectionId) (bytes : ByteArray) :
    Deaf w fun n => n.receive id bytes := by
  intro n
  have hconnection : (n.unheard w).connections[id]? = n.connections[id]? := rfl
  simp only [receive, hconnection]
  split
  · exact deaf_idle n
  · refine ((deaf_takeFrames id _).andThen ?_) n
    exact Deaf.ite deaf_idle (deaf_retain id _) fun _ => Iff.rfl

theorem deaf_endOfStream (id : ConnectionId) : Deaf w fun n => n.endOfStream id := by
  intro n
  have hconnection : (n.unheard w).connections[id]? = n.connections[id]? := rfl
  simp only [endOfStream, hconnection]
  split
  · exact deaf_idle n
  · exact deaf_breakOff id _ n

theorem deaf_greet (id : ConnectionId) (c : Connection) : Deaf w fun n => n.greet id c := by
  intro n
  have hname : (n.unheard w).localName = n.localName := rfl
  simp only [greet, hname]
  split
  · exact ((deaf_reportOn id _).andThen (deaf_finish id)) n
  · exact ((deaf_reportOn id _).andThen (deaf_finish id)) n
  · obtain ⟨_ | _, _ | _⟩ := w <;> rfl

theorem deaf_accept (address : String) (fault : Option IoFault) :
    Deaf w fun n => n.accept address fault := by
  intro n
  have harrive : Deaf w fun n =>
      (n.arrive { address, fault, stage := .introducing }).report [.accepted address] := by
    refine (deaf_report _).after fun n => ?_
    obtain ⟨_ | _, _ | _⟩ := w <;> rfl
  exact (harrive.andThen (deaf_greet n.nextId _)) n

/-! ### Writers and other code -/

theorem deaf_flush (id : ConnectionId) : Deaf w fun n => n.flush id := by
  intro n
  have hstage : (n.unheard w).stage id = n.stage id := rfl
  have hconnection : (n.unheard w).connections[id]? = n.connections[id]? := rfl
  have hboard : (n.unheard w).board = n.board := rfl
  simp only [flush, hstage, hconnection, hboard]
  split
  case h_2 => exact deaf_idle n
  case h_1 c role hc hrole =>
    split
    case h_1 => exact deaf_idle n
    case h_2 frames board hdrain =>
      have hwritten : Deaf w fun n =>
          ⟨{ n with board }, (deliver role.name c.fault frames).written.map (.sent id) ++
            (deliver role.name c.fault frames).log.map (.logged (some id))⟩ := by
        intro n
        obtain ⟨_ | _, _ | _⟩ := w <;> rfl
      have hclosed : Deaf w fun n => { n with board := n.board.closeOutbox id }.hangUp id := by
        refine (deaf_hangUp id).after fun n => ?_
        obtain ⟨_ | _, _ | _⟩ := w <;> rfl
      split
      · exact hwritten n
      · exact (hwritten.andThen hclosed) n

theorem deaf_flushEach (ids : List ConnectionId) : Deaf w fun n => n.flushEach ids := by
  induction ids with
  | nil => exact deaf_idle
  | cons id ids ih => exact (deaf_flush id).andThen ih

theorem deaf_settle : Deaf w settle := fun n => deaf_flushEach n.connections.keys n

theorem deaf_post (route : Route) (payload : ByteArray) :
    Deaf w fun n => n.post route payload := by
  intro n
  obtain ⟨_ | _, _ | _⟩ := w <;> rfl

theorem deaf_keep (route : Route) (label : String) :
    Deaf w fun n => (n.keep route label).idle := by
  refine deaf_idle.after fun n => ?_
  have hboard : (n.unheard w).board = n.board := rfl
  simp only [keep, hboard]
  split <;> obtain ⟨_ | _, _ | _⟩ := w <;> rfl

/-! ### Inputs -/

/-- **Whatever comes, a node does the same** for any subscribers. -/
theorem deaf_react (i : Input) : Deaf w fun n => n.react i := by
  cases i with
  | connect address fault =>
    exact Deaf.ite (deaf_accept address fault) deaf_idle fun _ => Iff.rfl
  | receive id bytes => exact deaf_receive id bytes
  | close id => exact deaf_endOfStream id
  | fail id fault => exact deaf_breakOff id _
  | post route payload => exact deaf_post route payload
  | keep route label => exact deaf_keep route label
  | impair | release | detachEvents | detachMessages | stopListening =>
    refine deaf_idle.after fun n => ?_
    obtain ⟨_ | _, _ | _⟩ := w <;> rfl

/-- That one of these subscribers goes away changes nothing else. -/
theorem unheard_of_detaches {i : Input} (h : i.detaches w = true) (n : Node) :
    (n.react i).unheard w = n.idle.unheard w := by
  obtain ⟨events, messages⟩ := w
  cases i with
  | detachEvents =>
    obtain rfl : events = true := h
    rfl
  | detachMessages =>
    obtain rfl : messages = true := h
    rfl
  | _ => cases h

theorem deaf_step (i : Input) : Deaf w fun n => n.step i := (deaf_react i).andThen deaf_settle

theorem deaf_beat (p : Pulse) : Deaf w fun n => n.beat p := by
  cases p with
  | input i => exact deaf_react i
  | writer id => exact deaf_flush id

/-! ### Runs -/

section Follow

variable {α : Type} {act : Node → α → Step}

theorem deaf_follow (h : ∀ a, Deaf w fun n => act n a) (as : List α) :
    Deaf w fun n => n.follow act as := by
  induction as with
  | nil => exact deaf_idle
  | cons a as ih => exact (h a).andThen ih

/-- What is not noticed can be left out. -/
theorem unheard_follow {P : Node → Prop} {detaches : α → Bool} (h : ∀ a, Deaf w fun n => act n a)
    (hkeeps : ∀ n a, P n → P (act n a).node)
    (hdetach : ∀ n a, P n → detaches a = true → (act n a).unheard w = n.idle.unheard w)
    {n : Node} (hn : P n) (as : List α) :
    (n.follow act as).unheard w = (n.follow act (as.filter (!detaches ·))).unheard w := by
  induction as generalizing n with
  | nil => rfl
  | cons a as ih =>
    have hrest := ih (hkeeps n a hn)
    cases ha : detaches a with
    | false =>
      rw [List.filter_cons_of_pos (by simp [ha])]
      show ((act n a).andThen (·.follow act as)).unheard w =
        ((act n a).andThen (·.follow act _)).unheard w
      rw [Step.unheard_andThen, Step.unheard_andThen, hrest]
      exact congrArg (Step.mk · _) (congrArg Step.node hrest)
    | true =>
      rw [List.filter_cons_of_neg (by simp [ha]), ← ih hn]
      have hsame := (deaf_follow h as).andThen_congr (hdetach n a hn ha)
      refine hsame.trans ?_
      simp [Step.andThen, idle]

end Follow

/-- That a subscriber goes away leaves no writer anything to do. -/
theorem quiet_of_detaches {i : Input} (h : i.detaches w = true) {n : Node} (hn : n.IsQuiet) :
    (n.react i).node.IsQuiet := by
  cases i <;> first | exact hn | cases h

/-- **A run goes the same without these subscribers going away.** -/
theorem unheard_run {n : Node} (hn : n.IsQuiet) (is : List Input) :
    (n.run is).unheard w = (n.run (is.filter (!·.detaches w))).unheard w := by
  rw [run_eq_follow, run_eq_follow]
  refine unheard_follow deaf_step (P := IsQuiet) (fun n i _ => settle_quiet _) ?_ hn is
  intro n i hn hi
  have hidle : (n.react i).node.settle = (n.react i).node.idle :=
    flushEach_of_quiet (quiet_of_detaches hi hn) _
  rw [← unheard_of_detaches hi n, step, Step.andThen, hidle]
  simp [idle]

/-- **A schedule goes the same without these subscribers going away.** -/
theorem unheard_play (n : Node) (ps : List Pulse) :
    (n.play ps).unheard w = (n.play (ps.filter (!·.detaches w))).unheard w := by
  rw [play_eq_follow, play_eq_follow]
  refine unheard_follow deaf_beat (P := fun _ => True) (fun _ _ _ => trivial) ?_ trivial ps
  intro n p _ hp
  cases p with
  | input i => exact unheard_of_detaches hp n
  | writer id => cases hp

end Node

/-! ### What is seen of it -/

/-- Nothing but what these subscribers get is different, and what is logged about that. -/
structure Unmoved (w : Fickle) (s t : Step) : Prop where
  /-- Everything is done in the same order, but that something lost is logged. -/
  acts : (t.effects.filter fun e => !e.isDrop w) = s.effects.filter fun e => !e.isDrop w
  /-- Afterwards only the subscribers are different. -/
  node : t.node = { s.node with bus := t.node.bus, messages := t.node.messages }
  /-- The same peers hold the same places. -/
  roster : t.node.board.roster = s.node.board.roster
  /-- Every connection has come as far. -/
  stages : ∀ id, t.node.stage id = s.node.stage id
  /-- Connections take their places, have frames handled, end and leave at the same times. -/
  record : t.record = s.record
  /-- Peers receive the same bytes, and see the same end of the stream. -/
  received : ∀ id, t.bytesTo id = s.bytesTo id ∧ t.hangsUpOn id = s.hangsUpOn id
  /-- The handler is given the same messages. -/
  handled : t.messages = s.messages
  /-- The same events are announced. -/
  announced : t.events = s.events
  /-- A subscriber to messages that does not differ gets the same. -/
  messages : w.messages = false → t.node.messages = s.node.messages
  /-- A subscriber to events that does not differ gets the same. -/
  bus : w.events = false → t.node.bus = s.node.bus

/-- **What is the same without these subscribers** is the same for everybody else. -/
theorem Unmoved.of_unheard {s t : Step} (h : t.unheard w = s.unheard w) : Unmoved w s t := by
  have hacts : (t.effects.filter fun e => !e.isDrop w) = s.effects.filter fun e => !e.isDrop w :=
    congrArg Step.effects h
  have hnode : t.node.unheard w = s.node.unheard w := congrArg Step.node h
  have hboard : t.node.board = s.node.board := (congrArg Node.board hnode :)
  have hconnections : t.node.connections = s.node.connections :=
    (congrArg Node.connections hnode :)
  -- Entries about something lost are not among what is looked at below.
  have hread {α : Type} {f : Effect → Option α} (hf : ∀ source e, f (.logged source e) = none) :
      t.effects.filterMap f = s.effects.filterMap f := by
    have hdrop : ∀ e : Effect, (!e.isDrop w) = false → f e = none := by
      intro e he
      cases e with
      | logged source e => exact hf source e
      | _ => cases he
    rw [← Step.filterMap_filter_eq hdrop t.effects, hacts, Step.filterMap_filter_eq hdrop]
  have hseen {p : Effect → Bool} (hp : ∀ e : Effect, e.isDrop w = true → p e = false) :
      t.effects.filter p = s.effects.filter p := by
    have hboth (es : List Effect) :
        (es.filter fun e => !e.isDrop w).filter p = es.filter p := by
      rw [List.filter_filter]
      refine List.filter_congr fun e _ => ?_
      cases hdrop : e.isDrop w with
      | false => simp
      | true => simp [hp e hdrop]
    rw [← hboth, hacts, hboth]
  have htraffic (id : ConnectionId) : t.trafficOf id = s.trafficOf id := by
    rw [t.trafficOf_eq, s.trafficOf_eq]
    refine hseen fun e he => ?_
    cases e <;> first | rfl | cases he
  constructor
  case acts => exact hacts
  case node =>
    show ({ t.node.unheard w with bus := t.node.bus, messages := t.node.messages } : Node) = _
    rw [hnode]
    rfl
  case roster => rw [hboard]
  case stages =>
    intro id
    unfold Node.stage
    rw [hconnections]
  case record =>
    refine hseen fun e he => ?_
    cases e with
    | logged source e =>
      cases e with
      | eventDropped | messageDropped => cases source <;> rfl
      | _ => cases he
    | _ => cases he
  case received =>
    intro id
    refine ⟨?_, ?_⟩
    · rw [t.bytesTo_eq, s.bytesTo_eq, htraffic]
    · rw [Bool.eq_iff_iff, t.hangsUpOn_iff, s.hangsUpOn_iff, htraffic]
  case handled => exact hread fun _ _ => rfl
  case announced => exact hread fun _ _ => rfl
  case messages =>
    intro hmessages
    have hsame := congrArg Node.messages hnode
    simpa [Node.unheard, hmessages] using hsame
  case bus =>
    intro hevents
    have hsame := congrArg Node.bus hnode
    simpa [Node.unheard, hevents] using hsame

/-- Whatever comes to two nodes, it moves them alike; these subscribers may go away at any time. -/
structure UnmovedAlong {α : Type} (w : Fickle) (detaches : α → Bool) (go go' : List α → Step) :
    Prop where
  /-- In the end. -/
  afterwards : ∀ as bs, as.filter (!detaches ·) = bs.filter (!detaches ·) →
    Unmoved w (go as) (go' bs)
  /-- And at every moment until then. -/
  always : ∀ as bs, as.filter (!detaches ·) = bs.filter (!detaches ·) →
    ∀ before, before <+: as → ∃ before', before' <+: bs ∧
      before.filter (!detaches ·) = before'.filter (!detaches ·) ∧
        Unmoved w (go before) (go' before')

/-- These subscribers change amid the work for a connection, and the work comes to the same. -/
structure UnmovedAmid (w : Fickle) (change : Node → Node) : Prop where
  /-- Between two frames, read together or not. -/
  reading : ∀ (n : Node) id payloads more, Unmoved w (n.takeFrames id (payloads ++ more))
    ((n.takeFrames id payloads).andThen fun n => (change n).takeFrames id more)
  /-- Between taking a place and the announcement. -/
  registering : ∀ (n : Node) id role, Unmoved w (n.register id role)
    ((n.enter id role).andThen fun n => (change n).announce id role.arrival)
  /-- Before a place is left, and again before the announcement. -/
  ending : ∀ (n : Node) id role, Unmoved w (n.tearDown id role)
    (((n.finish id).andThen fun n => (change n).leave id role).andThen
      fun n => (change n).announce id role.departure)

namespace Node

/-- Frames are taken one by one. -/
theorem takeFrames_append (n : Node) (id : ConnectionId) (payloads more : List ByteArray) :
    n.takeFrames id (payloads ++ more) =
      (n.takeFrames id payloads).andThen (·.takeFrames id more) := by
  induction payloads generalizing n with
  | nil => simp [takeFrames, idle, Step.andThen]
  | cons payload payloads ih =>
    rw [List.cons_append, takeFrames, takeFrames, Step.andThen_assoc]
    exact (n.takeFrame id payload).andThen_congr (ih _)

/-- A change of these subscribers before some work leaves the work as it is. -/
theorem unheard_change {g : Node → Step} (h : Deaf w g) {change : Node → Node}
    (hchange : ∀ n, (change n).unheard w = n.unheard w) (s : Step) :
    (s.andThen fun n => g (change n)).unheard w = (s.andThen g).unheard w := by
  have hnext := h.congr (hchange s.node)
  rw [Step.unheard_andThen, Step.unheard_andThen, hnext]
  exact congrArg (Step.mk · _) (congrArg Step.node hnext)

/-- **Whenever these subscribers change**, the work for a connection comes to the same. -/
theorem unmoved_amid {change : Node → Node} (hchange : ∀ n, (change n).unheard w = n.unheard w) :
    UnmovedAmid w change where
  reading := by
    intro n id payloads more
    rw [takeFrames_append]
    exact .of_unheard (unheard_change (deaf_takeFrames id more) hchange _)
  registering := by
    intro n id role
    exact .of_unheard (unheard_change (deaf_announce id _) hchange _)
  ending := by
    intro n id role
    have hleft := unheard_change (deaf_leave id role) hchange (n.finish id)
    refine .of_unheard ?_
    rw [unheard_change (deaf_announce id role.departure) hchange]
    exact (deaf_announce id role.departure).andThen_congr hleft

/-- What is left when these subscribers stay decides all; and any beginning of it is what is left of
some beginning. -/
theorem unmovedAlong_of_unheard {α : Type} {detaches : α → Bool} {go go' : List α → Step}
    (h : ∀ as, (go as).unheard w = (go (as.filter (!detaches ·))).unheard w)
    (h' : ∀ bs, (go' bs).unheard w = (go' (bs.filter (!detaches ·))).unheard w)
    (hsame : ∀ as, (go as).unheard w = (go' as).unheard w) :
    UnmovedAlong w detaches go go' := by
  have hafterwards : ∀ as bs, as.filter (!detaches ·) = bs.filter (!detaches ·) →
      Unmoved w (go as) (go' bs) := by
    intro as bs heq
    refine .of_unheard ?_
    rw [h' bs, ← heq, ← hsame, ← h as]
  refine ⟨hafterwards, fun as bs heq before hbefore => ?_⟩
  have hfiltered := hbefore.filter (!detaches ·)
  rw [heq] at hfiltered
  obtain ⟨before', hbefore', heq'⟩ := List.prefix_filter_iff.1 hfiltered
  exact ⟨before', hbefore', heq', hafterwards before before' heq'⟩

/-- **Subscribers cannot influence a node.** Take two nodes that have different subscribers, of one
kind or of both, and let the same come to both, but that these subscribers may go away at any time.

* At every moment, nothing is different but what these subscribers got, and what is logged about
  that.
* The same holds if writers work at their own pace.
* It holds also if these subscribers go away, or are exchanged, amid the work for a connection. -/
theorem subscribers_unnoticed (localName : String) (handler : Handler) (w : Fickle)
    {bus bus' : Bus} (same : w.events = false → bus' = bus) :
    UnmovedAlong w (Input.detaches w) (fresh localName handler bus).run
        (fresh localName handler bus').run ∧
      UnmovedAlong w (Pulse.detaches w) (fresh localName handler bus).play
        (fresh localName handler bus').play ∧
      ∀ change : Node → Node, (∀ n, (change n).unheard w = n.unheard w) →
        UnmovedAmid w change := by
  have hfresh : (fresh localName handler bus).unheard w =
      (fresh localName handler bus').unheard w := by
    cases hevents : w.events with
    | false => rw [same hevents]
    | true => simp [unheard, fresh, hevents]
  refine ⟨unmovedAlong_of_unheard ?_ ?_ ?_, unmovedAlong_of_unheard ?_ ?_ ?_, ?_⟩
  · exact unheard_run (quiet_fresh localName handler bus)
  · exact unheard_run (quiet_fresh localName handler bus')
  · intro is
    rw [run_eq_follow, run_eq_follow]
    exact (deaf_follow deaf_step is).congr hfresh
  · exact unheard_play _
  · exact unheard_play _
  · intro ps
    rw [play_eq_follow, play_eq_follow]
    exact (deaf_follow deaf_beat ps).congr hfresh
  · exact fun change hchange => unmoved_amid hchange

/-- Nobody hears of events at one node, and both subscribers of the other go away while a client is
connected, and before a second one comes. Both nodes serve the two alike: the first has been greeted
and hung up on, its frame was handled, and the second has its place. -/
theorem client_unmoved_by_detachment :
    let w : Fickle := ⟨true, true⟩
    let is : List Input := [.connect "10.0.0.7:4001" none,
      .receive 1 (Frame.wire "api-cli".toUTF8), .detachMessages, .receive 1 (Frame.wire ⟨#[42]⟩),
      .detachEvents, .connect "10.0.0.8:4002" none, .receive 2 (Frame.wire "api-two".toUTF8),
      .close 1]
    let js : List Input := [.connect "10.0.0.7:4001" none,
      .receive 1 (Frame.wire "api-cli".toUTF8), .receive 1 (Frame.wire ⟨#[42]⟩),
      .connect "10.0.0.8:4002" none, .receive 2 (Frame.wire "api-two".toUTF8), .close 1]
    let s := (fresh "root" .forwarding .fresh).run is
    let t := (fresh "root" .forwarding .silent).run js
    (w.events = false → Bus.silent = .fresh) ∧
      is.filter (!·.detaches w) = js.filter (!·.detaches w) ∧ Unmoved w s t ∧
      (t.node.board.roster.client? "api-cli" = none ∧
        t.node.board.roster.client? "api-two" = some ⟨2, "api-two", "10.0.0.8:4002", 2⟩) ∧
      (t.node.stage 1 = .finished ∧ t.node.stage 2 = .serving ⟨.api, "api-two"⟩) ∧
      (t.bytesTo 1 = Frame.wire "root".toUTF8 ∧ t.hangsUpOn 1 = true) ∧
      t.messages = [⟨true, true, ⟨#[42]⟩⟩] ∧
      s.node.messages ≠ t.node.messages ∧ s.node.bus ≠ t.node.bus := by
  intro w is js s t
  have hsame : w.events = false → Bus.silent = .fresh := by simp [w]
  have hlists : is.filter (!·.detaches w) = js.filter (!·.detaches w) := rfl
  have hunmoved : Unmoved w s t :=
    (subscribers_unnoticed "root" .forwarding w hsame).1.afterwards is js hlists
  -- What the other node comes to can be computed at this one.
  have hroster : s.node.board.roster.client? "api-cli" = none ∧
      s.node.board.roster.client? "api-two" = some ⟨2, "api-two", "10.0.0.8:4002", 2⟩ := by
    decide +kernel
  have hstages : s.node.stage 1 = .finished ∧ s.node.stage 2 = .serving ⟨.api, "api-two"⟩ := by
    decide +kernel
  have hreceived : s.bytesTo 1 = Frame.wire "root".toUTF8 ∧ s.hangsUpOn 1 = true := by
    decide +kernel
  have hmessages : s.messages = [⟨true, true, ⟨#[42]⟩⟩] := by decide +kernel
  rw [← hunmoved.roster] at hroster
  rw [← hunmoved.stages, ← hunmoved.stages] at hstages
  rw [← (hunmoved.received 1).1, ← (hunmoved.received 1).2] at hreceived
  rw [← hunmoved.handled] at hmessages
  exact ⟨hsame, hlists, hunmoved, hroster, hstages, hreceived, hmessages, by decide +kernel,
    by decide +kernel⟩

end Node

end Overlay
