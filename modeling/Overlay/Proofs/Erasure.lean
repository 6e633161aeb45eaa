import Overlay.Proofs.Delivery
import Overlay.Proofs.Mirror
import Overlay.Proofs.Refusals

namespace Overlay

/-!
# Connections that leave no trace

A connection that never took a place, because its peer declined, because the exchange of names
failed or because it never came to an end, might as well not have come. What the others see of the
node is the same without it; only numbers move up.

* `Node.without` — what is left of a list of inputs when connections are left out;
* one lemma `…_aside` for everything that a connection does that is left out;
* `run_matches`, `play_matches` — whole runs, by induction;
* `Traceless` — what the same means for those who look at a node;
* `unaccepted_leave_no_trace` — every run and every schedule.
-/

namespace Node

/-- An input under the connection's new number. -/
def Input.renumber (ρ : ConnectionId → ConnectionId) : Input → Input
  | .receive id bytes => .receive (ρ id) bytes
  | .close id => .close (ρ id)
  | .fail id fault => .fail (ρ id) fault
  | .impair id fault => .impair (ρ id) fault
  | i => i

/-- The connection that an input is about, if it is about one. -/
def owner (n : Node) : Input → Option ConnectionId
  | .connect .. => if n.listening then some n.nextId else none
  | .receive id _ | .close id | .fail id _ | .impair id _ => some id
  | _ => none

/-- A pulse under the connection's new number. -/
def Pulse.renumber (ρ : ConnectionId → ConnectionId) : Pulse → Pulse
  | .input i => .input (i.renumber ρ)
  | .writer id => .writer (ρ id)

/-- The connection that a pulse is about, if it is about one. -/
def pulseOwner (n : Node) : Pulse → Option ConnectionId
  | .input i => n.owner i
  | .writer id => some id

/-- Do one thing after another. -/
def follow {α : Type} (act : Node → α → Step) (n : Node) : List α → Step
  | [] => n.idle
  | a :: rest => (act n a).andThen (·.follow act rest)

/-- What is left of a list of things to do when only the connections in `stays` come. -/
def without {α : Type} (act : Node → α → Step) (owner : Node → α → Option ConnectionId)
    (rename : (ConnectionId → ConnectionId) → α → α) (stays : ConnectionId → Bool) (n : Node) :
    List α → List α
  | [] => []
  | a :: rest =>
    let later := without act owner rename stays (act n a).node rest
    if (owner n a).all stays then rename (Overlay.renumber stays) a :: later else later

/-- What is left of a list of inputs when only the connections in `stays` come. -/
def inputsWithout (stays : ConnectionId → Bool) (n : Node) (is : List Input) : List Input :=
  without step owner Input.renumber stays n is

/-- What is left of a schedule when only the connections in `stays` come. -/
def pulsesWithout (stays : ConnectionId → Bool) (n : Node) (ps : List Pulse) : List Pulse :=
  without beat pulseOwner Pulse.renumber stays n ps

theorem run_eq_follow (n : Node) (is : List Input) : n.run is = n.follow step is := by
  induction is generalizing n with
  | nil => rfl
  | cons i is ih => exact (n.step i).andThen_congr (ih _)

theorem play_eq_follow (n : Node) (ps : List Pulse) : n.play ps = n.follow beat ps := by
  induction ps generalizing n with
  | nil => rfl
  | cons p ps ih => exact (n.beat p).andThen_congr (ih _)

section Follow

variable {α : Type} (act : Node → α → Step) (owner : Node → α → Option ConnectionId)
  (rename : (ConnectionId → ConnectionId) → α → α)

/-- What is left of a list grows with the list. -/
theorem without_append (stays : ConnectionId → Bool) (n : Node) (as bs : List α) :
    n.without act owner rename stays (as ++ bs) = n.without act owner rename stays as ++
      (n.follow act as).node.without act owner rename stays bs := by
  induction as generalizing n with
  | nil => rfl
  | cons a as ih =>
    have hrest := ih (act n a).node
    simp only [List.cons_append, without, hrest]
    split <;> rfl

end Follow

end Node

variable {stays : ConnectionId → Bool} {n m : Node} {id : ConnectionId}

namespace Mirrors

/-! ### What a connection does that is left out -/

theorem not_serving (h : Mirrors stays n m) (hid : stays id = false) (role : Role) :
    n.stage id ≠ .serving role := by
  intro hserving
  have hstays := h.aside id role hserving
  rw [hid] at hstays
  cases hstays

theorem hangUp_aside (h : Mirrors stays n m) (hid : stays id = false) :
    Matches stays (n.hangUp id) m.idle := by
  unfold Node.hangUp
  split
  · refine ⟨h.update_aside hid _ fun _ _ hstage => hstage, ?_⟩
    simp [Step.visible, Effect.isVisible, hid, Node.idle]
  · exact h.idle

theorem finish_aside (h : Mirrors stays n m) (hid : stays id = false) :
    Matches stays (n.finish id) m.idle := by
  have hclosed := h.requeue_aside hid (n.board.requeued_closeOutbox id)
  have hended : Mirrors stays (({ n with board := n.board.closeOutbox id } : Node).update id
      ({ · with stage := .finished, inbound := {} })) m :=
    hclosed.update_aside hid _ fun _ _ hstage => by cases hstage
  exact hended.hangUp_aside hid

/-- A connection that has no place ends. -/
theorem refuse_aside (h : Mirrors stays n m) (hid : stays id = false)
    (entries : List Log.Entry) :
    Matches stays ((n.reportOn id entries).andThen (·.finish id)) m.idle :=
  (h.logged (some id) none entries []).andThen_left fun h => h.finish_aside hid

/-- A connection that is left out can only be turned down. -/
theorem takeFrame_aside (h : Mirrors stays n m) (hid : stays id = false) {payload : ByteArray}
    (hnone : ∀ role, .entered id role ∉ (n.takeFrame id payload).effects) :
    Matches stays (n.takeFrame id payload) m.idle := by
  unfold Node.takeFrame at hnone ⊢
  cases hstage : n.stage id with
  | serving role => exact absurd hstage (h.not_serving hid role)
  | finished => exact h.idle
  | introducing =>
    simp only [hstage] at hnone ⊢
    cases hname : Introduction.ofBytes payload with
    | declined => exact h.refuse_aside hid _
    | accepted role =>
      simp only [hname] at hnone
      exact absurd List.mem_cons_self (hnone role)

theorem takeFrames_aside (h : Mirrors stays n m) (hid : stays id = false)
    {payloads : List ByteArray}
    (hnone : ∀ role, .entered id role ∉ (n.takeFrames id payloads).effects) :
    Matches stays (n.takeFrames id payloads) m.idle := by
  induction payloads generalizing n with
  | nil => exact h.idle
  | cons payload payloads ih =>
    have hparts (role : Role) : .entered id role ∉ (n.takeFrame id payload).effects ∧
        .entered id role ∉ ((n.takeFrame id payload).node.takeFrames id payloads).effects := by
      simpa [Node.takeFrames] using hnone role
    refine (h.takeFrame_aside hid fun role => (hparts role).1).andThen_left fun h => ?_
    exact ih h fun role => (hparts role).2

theorem breakOff_aside (h : Mirrors stays n m) (hid : stays id = false) (cause : Frame.Error) :
    Matches stays (n.breakOff id cause) m.idle := by
  unfold Node.breakOff
  cases hstage : n.stage id with
  | serving role => exact absurd hstage (h.not_serving hid role)
  | finished => exact h.idle
  | introducing => exact h.refuse_aside hid _

theorem retain_aside (h : Mirrors stays n m) (hid : stays id = false) (rest : ByteArray) :
    Matches stays (n.retain id rest) m.idle := by
  unfold Node.retain
  split
  · exact h.breakOff_aside hid _
  · exact (h.update_aside hid ({ · with inbound := ⟨rest⟩ }) fun _ _ hstage => hstage).idle

theorem receive_aside (h : Mirrors stays n m) (hid : stays id = false) {bytes : ByteArray}
    (hnone : ∀ role, .entered id role ∉ (n.receive id bytes).effects) :
    Matches stays (n.receive id bytes) m.idle := by
  unfold Node.receive at hnone ⊢
  split
  case h_1 => exact h.idle
  case h_2 c hc =>
    simp only [hc, Step.effects_andThen, List.mem_append, not_or] at hnone
    refine (h.takeFrames_aside hid fun role => (hnone role).1).andThen_left fun h => ?_
    split
    · exact h.idle
    · exact h.retain_aside hid _

theorem endOfStream_aside (h : Mirrors stays n m) (hid : stays id = false) :
    Matches stays (n.endOfStream id) m.idle := by
  unfold Node.endOfStream
  split
  · exact h.idle
  · exact h.breakOff_aside hid _

theorem accept_aside (h : Mirrors stays n m) (hid : stays n.nextId = false) (address : String)
    (fault : Option IoFault) : Matches stays (n.accept address fault) m.idle := by
  let c : Connection := { address, fault, stage := .introducing }
  have hcome : Mirrors stays (n.arrive c) m := h.arrive_aside hid rfl
  show Matches stays (((n.arrive c).report [.accepted address]).andThen (·.greet n.nextId c)) _
  refine (hcome.logged none none [.accepted address] []).andThen_left fun h => ?_
  unfold Node.greet
  split
  · exact h.refuse_aside hid _
  · exact h.refuse_aside hid _
  -- The greeting is between the node and the newcomer.
  · refine ⟨h, ?_⟩
    simp [Step.visible, Effect.isVisible, hid, Node.idle]

/-! ### Inputs -/

/-- **An input that is not about a connection left out** does the same at both nodes. -/
theorem react_matches (h : Mirrors stays n m) {i : Node.Input}
    (howner : (n.owner i).all stays = true) :
    Matches stays (n.react i) (m.react (i.renumber (renumber stays))) := by
  cases i with
  | connect address fault =>
    simp only [Node.react, Node.Input.renumber, h.listening]
    by_cases hlistens : n.listening = true
    · rw [if_pos hlistens, if_pos hlistens]
      simp only [Node.owner, if_pos hlistens, Option.all_some] at howner
      exact h.accept_matches howner address fault
    · rw [if_neg hlistens, if_neg hlistens]
      exact h.idle
  | receive id bytes => exact h.receive_matches howner bytes
  | close id => exact h.endOfStream_matches howner
  | fail id fault => exact h.breakOff_matches howner _
  | impair id fault => exact (h.update howner _).idle
  | post route payload => exact h.post_matches route payload
  | keep route label => exact (h.keep route label).idle
  | release label => exact (h.release label).idle
  | detachEvents => exact Mirrors.idle { h with bus := by rw [h.bus] }
  | detachMessages => exact Mirrors.idle { h with messages := rfl }
  | stopListening => exact Mirrors.idle { h with listening := rfl }

/-- **An input about a connection that is left out** does nothing as far as the others are
concerned, unless the connection takes a place. -/
theorem react_aside (h : Mirrors stays n m) {i : Node.Input} (howner : n.owner i = some id)
    (hid : stays id = false) (hnone : ∀ role, .entered id role ∉ (n.react i).effects) :
    Matches stays (n.react i) m.idle := by
  cases i with
  | connect address fault =>
    simp only [Node.owner] at howner
    split at howner
    case isTrue hlistens =>
      cases howner
      simp only [Node.react, if_pos hlistens]
      exact h.accept_aside hid address fault
    case isFalse => cases howner
  | receive j bytes =>
    cases howner
    exact h.receive_aside hid hnone
  | close j =>
    cases howner
    exact h.endOfStream_aside hid
  | fail j fault =>
    cases howner
    exact h.breakOff_aside hid _
  | impair j fault =>
    cases howner
    exact (h.update_aside hid ({ · with fault := some fault }) fun _ _ hstage => hstage).idle
  | _ => cases howner

end Mirrors

/-! ### Whole runs -/

namespace Node

/-- A writer that has nothing to do does nothing. -/
theorem flush_of_settled {n : Node} {id : ConnectionId} (h : n.IsSettled id) :
    n.flush id = n.idle := by
  unfold flush
  split
  case h_2 => rfl
  case h_1 c role hc hrole =>
    by_cases hopen : n.board.isOpen id = true
    case neg => rw [n.board.drain_of_shut (by simpa using hopen)]
    case pos =>
      obtain ⟨hempty, hneeded⟩ := h role hrole hopen
      have hnothing : deliver role.name c.fault [] = ⟨[], [], true⟩ := by
        cases c.fault <;> rfl
      rw [n.board.drain_of_empty hopen hempty]
      simp only [hnothing, hneeded]
      rfl

theorem flushEach_of_quiet {n : Node} (h : n.IsQuiet) (ids : List ConnectionId) :
    n.flushEach ids = n.idle := by
  induction ids with
  | nil => rfl
  | cons id ids ih =>
    show (n.flush id).andThen (·.flushEach ids) = n.idle
    rw [flush_of_settled (h id)]
    exact ih

end Node

namespace Mirrors

/-- If no writer has anything to do at one node, none has at the other. -/
theorem quiet (h : Mirrors stays n m) (hquiet : m.IsQuiet) : n.IsQuiet := by
  intro id role hrole hopen
  have hid := h.aside id role hrole
  rw [← h.outbox id hid, ← h.isReferenced hid]
  exact hquiet _ role ((h.stage hid).trans hrole) ((h.isOpen hid).trans hopen)

/-- Whoever is not among those that stay is left out. -/
theorem exists_of_not_all {owner : Option ConnectionId} (h : ¬ owner.all stays = true) :
    ∃ id, owner = some id ∧ stays id = false := by
  cases owner with
  | none => exact absurd rfl h
  | some id => exact ⟨id, rfl, by simpa using h⟩

/-- **What is left when connections are left out goes the same way,** if that can be said of each
single act: it does the same at both nodes, or nothing where its connection has not come. `P` may be
used for what holds of the second node all along. -/
theorem follow_matches {α : Type} {act : Node → α → Step}
    {owner : Node → α → Option ConnectionId} {rename : (ConnectionId → ConnectionId) → α → α}
    {P : Node → Prop}
    (same : ∀ {n m : Node} {a : α}, Mirrors stays n m → (owner n a).all stays = true →
      Matches stays (act n a) (act m (rename (renumber stays) a)))
    (keeps : ∀ (m : Node) (a : α), P (act m a).node)
    (aside : ∀ {n m : Node} {a : α} {id : ConnectionId}, Mirrors stays n m → P m →
      owner n a = some id → stays id = false → (∀ role, .entered id role ∉ (act n a).effects) →
        Matches stays (act n a) m.idle)
    (h : Mirrors stays n m) (hP : P m) (as : List α)
    (hadmits : ∀ id role, .entered id role ∈ (n.follow act as).effects → stays id = true) :
    Matches stays (n.follow act as) (m.follow act (n.without act owner rename stays as)) := by
  induction as generalizing n m with
  | nil => exact h.idle
  | cons a as ih =>
    have hlater : ∀ id role, .entered id role ∈ ((act n a).node.follow act as).effects →
        stays id = true := by
      intro id role he
      exact hadmits id role (List.mem_append_right _ he)
    rw [Node.without]
    split
    case isTrue howner => exact (same h howner).andThen fun h => ih h (keeps _ _) hlater
    case isFalse howner =>
      obtain ⟨id, hid, hleft⟩ := exists_of_not_all howner
      have hnone : ∀ role, .entered id role ∉ (act n a).effects := by
        intro role he
        rw [hadmits id role (List.mem_append_left _ he)] at hleft
        cases hleft
      exact (aside h hP hid hleft hnone).andThen_left fun h => ih h hP hlater

/-- An input of a connection that is left out leaves nothing to do for writers, either. -/
theorem step_aside (h : Mirrors stays n m) (hquiet : m.IsQuiet) {i : Node.Input}
    (howner : n.owner i = some id) (hid : stays id = false)
    (hnone : ∀ role, .entered id role ∉ (n.step i).effects) :
    Matches stays (n.step i) m.idle := by
  have hreact : ∀ role, .entered id role ∉ (n.react i).effects :=
    fun role he => hnone role (List.mem_append_left _ he)
  refine (h.react_aside howner hid hreact).andThen_left fun h => ?_
  have hsettle : (n.react i).node.settle = (n.react i).node.idle :=
    Node.flushEach_of_quiet (h.quiet hquiet) _
  rw [hsettle]
  exact h.idle

/-- **A run without the connections that are left out** goes the same way. -/
theorem run_matches (h : Mirrors stays n m) (hquiet : m.IsQuiet) (is : List Node.Input)
    (hadmits : ∀ id role, .entered id role ∈ (n.run is).effects → stays id = true) :
    Matches stays (n.run is) (m.run (n.inputsWithout stays is)) := by
  rw [Node.run_eq_follow] at hadmits ⊢
  rw [Node.run_eq_follow]
  refine follow_matches (P := Node.IsQuiet) ?_ ?_ ?_ h hquiet is hadmits
  · intro n m i h howner
    exact (h.react_matches howner).andThen fun h => h.settle_matches
  · intro m i
    exact Node.settle_quiet _
  · intro n m i id h hquiet howner hid hnone
    exact h.step_aside hquiet howner hid hnone

/-- **A schedule without the connections that are left out** goes the same way, at whatever pace
writers work. -/
theorem play_matches (h : Mirrors stays n m) (ps : List Node.Pulse)
    (hadmits : ∀ id role, .entered id role ∈ (n.play ps).effects → stays id = true) :
    Matches stays (n.play ps) (m.play (n.pulsesWithout stays ps)) := by
  rw [Node.play_eq_follow] at hadmits ⊢
  rw [Node.play_eq_follow]
  refine follow_matches (P := fun _ => True) ?_ ?_ ?_ h trivial ps hadmits
  · intro n m p h howner
    cases p with
    | input i => exact h.react_matches howner
    | writer id => exact h.flush_matches howner
  · intro m p
    trivial
  · intro n m p id h _ howner hid hnone
    cases p with
    | input i => exact h.react_aside howner hid hnone
    | writer j =>
      cases howner
      show Matches stays (n.flush id) m.idle
      rw [h.flush_aside hid]
      exact h.idle

end Mirrors

/-! ### What is seen of it -/

namespace Effect

/-- What is for a connection that stays is visible. -/
theorem isVisible_of_isFor {e : Effect} (hid : stays id = true) (h : e.isFor id = true) :
    e.isVisible stays = true := by
  cases e with
  | accepted j | sent j | hungUp j => exact (of_decide_eq_true h) ▸ hid
  | _ => cases h

/-- What is for a connection that stays is for the same connection under its new number. -/
theorem isFor_renumber {e : Effect} (hid : stays id = true) (h : e.isVisible stays = true) :
    (e.renumber (Overlay.renumber stays)).isFor (Overlay.renumber stays id) = e.isFor id := by
  cases e with
  | accepted j | sent j | hungUp j => exact decide_eq_decide.2 (renumber_inj h hid)
  | _ => rfl

@[simp] theorem written_renumber (ρ : ConnectionId → ConnectionId) (es : List Effect) :
    written (es.map (renumber ρ)) = written es := by
  induction es with
  | nil => rfl
  | cons e es ih =>
    cases e with
    | sent id bytes => exact congrArg (bytes ++ ·) ih
    | _ => exact ih

end Effect

namespace Matches

variable {s t : Step}

/-- What can be read off visible acts, whatever the numbers are, is the same. -/
theorem filterMap_eq (h : Matches stays s t) {α : Type} {f : Effect → Option α}
    (hvisible : ∀ stays e, e.isVisible stays = false → f e = none)
    (hnumber : ∀ ρ e, f (e.renumber ρ) = f e) : t.effects.filterMap f = s.effects.filterMap f := by
  rw [← Step.filterMap_visible (hvisible stays) s, ← Step.filterMap_visible (hvisible _) t,
    h.visible, List.filterMap_map]
  exact congrArg (List.filterMap · _) (funext fun e => hnumber _ e)

/-- The traffic of a connection that stays is the same under its new number. -/
theorem trafficOf_eq (h : Matches stays s t) (hid : stays id = true) :
    t.trafficOf (renumber stays id) =
      (s.trafficOf id).map (Effect.renumber (renumber stays)) := by
  have hall (stays : ConnectionId → Bool) (s : Step) {id : ConnectionId} (hid : stays id = true) :
      s.trafficOf id = (s.visible stays).filter (·.isFor id) := by
    rw [s.trafficOf_eq, Step.visible, List.filter_filter]
    refine List.filter_congr fun e _ => ?_
    by_cases hfor : e.isFor id = true
    · rw [hfor, Effect.isVisible_of_isFor hid hfor]
      rfl
    · simp [hfor]
  rw [hall (fun _ => true) t rfl, hall stays s hid, h.visible, List.filter_map]
  refine congrArg _ (List.filter_congr fun e he => ?_)
  exact Effect.isFor_renumber hid (List.of_mem_filter he)

end Matches

/-- What a node has done is the same as if only the connections in `stays` had come. -/
structure Traceless (stays : ConnectionId → Bool) (s t : Step) : Prop where
  /-- The new numbers are in the same order. -/
  ordered : ∀ id j, stays id = true → id < j → renumber stays id < renumber stays j
  /-- Everything that is visible to others is done in the same order, and nothing else. -/
  visible : t.visible (fun _ => true) = (s.visible stays).map (Effect.renumber (renumber stays))
  /-- The same events are announced, and the same wait for their subscriber. -/
  events : t.events = s.events ∧ t.node.bus = s.node.bus
  /-- The handler is given the same messages, and the same wait for their subscriber. -/
  messages : t.messages = s.messages ∧ t.node.messages = s.node.messages
  /-- The same peers hold the same places. -/
  roster : t.node.board.roster = s.node.board.roster.renumber (renumber stays)
  /-- Peers receive the same bytes, and see the same end of the stream. -/
  received : ∀ id, stays id = true → t.bytesTo (renumber stays id) = s.bytesTo id ∧
    t.hangsUpOn (renumber stays id) = s.hangsUpOn id

theorem Matches.traceless {s t : Step} (h : Matches stays s t) : Traceless stays s t where
  ordered _ _ := renumber_lt
  visible := h.visible
  events := by
    refine ⟨?_, h.node.bus⟩
    rw [t.events_eq_filterMap, s.events_eq_filterMap]
    refine h.filterMap_eq (fun stays e he => ?_) fun ρ e => by cases e <;> rfl
    cases e <;> first | rfl | cases he
  messages := by
    refine ⟨?_, h.node.messages⟩
    refine h.filterMap_eq (fun stays e he => ?_) fun ρ e => by cases e <;> rfl
    cases e <;> first | rfl | cases he
  roster := h.node.roster
  received id hid := by
    have htraffic := h.trafficOf_eq hid
    refine ⟨?_, ?_⟩
    · rw [t.bytesTo_eq, s.bytesTo_eq, htraffic, Effect.written_renumber]
    · rw [Bool.eq_iff_iff, t.hangsUpOn_iff, s.hangsUpOn_iff, htraffic, List.mem_map]
      constructor
      · rintro ⟨e, he, hrenumber⟩
        have hfor : e.isFor id = true := by
          rw [Step.trafficOf_eq] at he
          exact List.of_mem_filter he
        cases e with
        | hungUp j =>
          obtain rfl : j = id := of_decide_eq_true hfor
          exact he
        | _ => cases hrenumber
      · intro he
        exact ⟨_, he, rfl⟩

namespace Node

variable (localName : String) (handler : Handler) (bus : Bus)

/-- Two nodes to which no connection has come are alike. -/
theorem mirrors_fresh (hzero : stays 0 = false) :
    Mirrors stays (fresh localName handler bus) (fresh localName handler bus) where
  localName := rfl
  handler := rfl
  bus := rfl
  messages := rfl
  calls := rfl
  listening := rfl
  nextId := by
    show 1 = renumber stays (0 + 1)
    rw [renumber_succ_of_leaves hzero]
    rfl
  connection _ _ := rfl
  image _ hj := absurd rfl hj
  roster := by
    refine Roster.ext_holder fun p => ?_
    rw [Roster.holder_renumber]
    cases p <;> rfl
  copies _ := rfl
  outbox _ _ := rfl
  known c hc := by
    rcases hc with ⟨p, hp⟩ | ⟨label, hlabel⟩
    · cases p <;> cases hp
    · cases hlabel
  aside _ _ hserving := by cases hserving

/-- **Connections that take no place leave no trace.** From any run, leave out every connection that
took no place in it, and all that is about these connections.

* What is left of the beginning of the run is the beginning of what is left of the run, and after
  it, everything is the same but for the numbers: events, messages, places, and what the other peers
  receive.
* The connections that took no place are those that were refused and those that are still
  introducing themselves, and the node has closed its side of every connection that was refused.

The same holds if writers work at their own pace. -/
theorem unaccepted_leave_no_trace :
    (∀ is js : List Input,
      let n := fresh localName handler bus
      let stays := (n.run (is ++ js)).admits
      n.inputsWithout stays is <+: n.inputsWithout stays (is ++ js) ∧
        Traceless stays (n.run is) (n.run (n.inputsWithout stays is)) ∧ Refusals (n.run is)) ∧
    ∀ ps qs : List Pulse,
      let n := fresh localName handler bus
      let stays := (n.play (ps ++ qs)).admits
      n.pulsesWithout stays ps <+: n.pulsesWithout stays (ps ++ qs) ∧
        Traceless stays (n.play ps) (n.play (n.pulsesWithout stays ps)) ∧
          Refusals (n.play ps) := by
  refine ⟨fun is js => ?_, fun ps qs => ?_⟩
  · intro n stays
    have hrefusals (is : List Input) : Refusals (n.run is) := by
      obtain ⟨ps, hplay⟩ := run_eq_play n is
      rw [hplay]
      exact refusals_play localName handler bus ps
    have hzero : stays 0 = false := (hrefusals (is ++ js)).outside 0 (.inl rfl)
    have hadmits : ∀ id role, .entered id role ∈ (n.run is).effects → stays id = true := by
      intro id role he
      refine Step.admits_iff.2 ⟨role, ?_⟩
      rw [run_append]
      exact List.mem_append_left _ he
    have hmirrors := mirrors_fresh localName handler bus hzero
    have hmatches := hmirrors.run_matches (quiet_fresh localName handler bus) is hadmits
    refine ⟨?_, hmatches.traceless, hrefusals is⟩
    rw [inputsWithout, inputsWithout, without_append]
    exact List.prefix_append _ _
  · intro n stays
    have hrefusals := refusals_play localName handler bus
    have hzero : stays 0 = false := (hrefusals (ps ++ qs)).outside 0 (.inl rfl)
    have hadmits : ∀ id role, .entered id role ∈ (n.play ps).effects → stays id = true := by
      intro id role he
      refine Step.admits_iff.2 ⟨role, ?_⟩
      rw [play_append]
      exact List.mem_append_left _ he
    have hmirrors := mirrors_fresh localName handler bus hzero
    have hmatches := hmirrors.play_matches ps hadmits
    refine ⟨?_, hmatches.traceless, hrefusals ps⟩
    rw [pulsesWithout, pulsesWithout, without_append]
    exact List.prefix_append _ _

end Node

end Overlay
