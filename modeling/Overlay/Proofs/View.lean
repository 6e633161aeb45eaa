import Mathlib.Tactic.Common
import Mathlib.Logic.Function.Basic
import Overlay.Node.Run

namespace Overlay

/-!
# What matters of a node

Who is served and who holds which place depends on a part of a node only, and only some of its
acts tell of it. Writers, queues and copies of contacts are left out here.

* `Node.View` — that part of a node; `View.alter` changes what was read from one connection;
* `Step.record` — those acts: a connection takes its place, leaves it, has an event announced,
  a frame handled, or is given its verdict in the log;
* one pair of lemmas, `view_…` and `record_…`, for every critical section of a node. Nothing
  after this file has to look inside them.
-/

/-! ### Looking up what has changed -/

section LookUp

theorem compare_eq_iff {α : Type} [Ord α] [Std.LawfulEqOrd α] {key k : α} :
    compare key k = .eq ↔ k = key :=
  Std.compare_eq_iff_eq.trans eq_comm

variable {α β : Type} [Ord α] [Std.TransOrd α] [Std.LawfulEqOrd α] [DecidableEq α]

/-- Changing what is under one key changes no other. -/
theorem lookup_modify (m : Std.ExtTreeMap α β) (key k : α) (change : β → β) :
    (m.modify key change)[k]? = if k = key then m[k]?.map change else m[k]? := by
  simp only [Std.ExtTreeMap.getElem?_modify, compare_eq_iff]
  split
  case isTrue hk => rw [hk]
  case isFalse => rfl

/-- Putting something under one key changes no other. -/
theorem lookup_insert (m : Std.ExtTreeMap α β) (key k : α) (v : β) :
    (m.insert key v)[k]? = if k = key then some v else m[k]? := by
  simp only [Std.ExtTreeMap.getElem?_insert, compare_eq_iff]

/-- Taking away what is under one key changes no other. -/
theorem lookup_erase (m : Std.ExtTreeMap α β) (key k : α) :
    (m.erase key)[k]? = if k = key then none else m[k]? := by
  simp only [Std.ExtTreeMap.getElem?_erase, compare_eq_iff]

end LookUp

/-- What reading from a connection has come to. -/
structure Intake where
  /-- Where the peer is. -/
  address : String
  /-- How far the connection has come. -/
  stage : Stage
  /-- The bytes received that belong to no whole frame yet. -/
  inbound : Frame.Decoder

/-- The reading side of a connection. -/
def Connection.intake (c : Connection) : Intake := ⟨c.address, c.stage, c.inbound⟩

/-- An entry that says why a connection got no place. -/
def Log.Entry.isRefusal : Log.Entry → Bool
  | .declined _ | .handshakeFailed _ => true
  | _ => false

/-- An entry that says how a connection ended. -/
def Log.Entry.isVerdict : Log.Entry → Bool
  | .declined _ | .handshakeFailed _ | .closed _ | .readFailed _ => true
  | _ => false

/-- An act that tells who is served and who holds which place. -/
def Effect.isRecord : Effect → Bool
  | .entered .. | .left .. | .published .. | .handled .. => true
  | .logged (some _) e => e.isVerdict
  | _ => false

namespace Effect

/-- A connection takes its place and announces that. -/
def taking (id : ConnectionId) (role : Role) : List Effect :=
  [.entered id role, .published id role.arrival]

/-- Frames of a connection are handled. -/
def serving (id : ConnectionId) (role : Role) (payloads : List ByteArray) : List Effect :=
  payloads.map fun payload => .handled id ⟨role.isApi, true, payload⟩

/-- Handling frames is handling one after another. -/
theorem serving_append (id : ConnectionId) (role : Role) (payloads more : List ByteArray) :
    serving id role (payloads ++ more) = serving id role payloads ++ serving id role more :=
  List.map_append

/-- What is recorded of the reason why a connection gives no further frame. -/
def farewell (id : ConnectionId) (role : Role) : Option Frame.Error → List Effect
  | none => []
  | some reason => [.logged (some id) (Node.parting role reason)]

/-- A connection ends, leaves its place and announces that. -/
def leaving (id : ConnectionId) (role : Role) (reason : Option Frame.Error) : List Effect :=
  farewell id role reason ++ [.left id role, .published id role.departure]

end Effect

namespace Step

/-- The acts of a step that tell who is served and who holds which place. -/
def record (s : Step) : List Effect := s.effects.filter Effect.isRecord

@[simp] theorem record_andThen (s : Step) (next : Node → Step) :
    (s.andThen next).record = s.record ++ (next s.node).record := by
  simp [record, List.filter_append]

theorem record_append (n : Node) (es fs : List Effect) :
    (⟨n, es ++ fs⟩ : Step).record = (⟨n, es⟩ : Step).record ++ (⟨n, fs⟩ : Step).record := by
  simp [record, List.filter_append]

theorem record_cons (n : Node) (e : Effect) (es : List Effect) :
    (⟨n, e :: es⟩ : Step).record = if e.isRecord then e :: (⟨n, es⟩ : Step).record
      else (⟨n, es⟩ : Step).record := by
  simp [record, List.filter_cons]

end Step

/-- Whether the handler breaks down does not depend on who takes its messages. -/
theorem Handler.broke_handle (h : Handler) (mailbox : Mailbox Message) (m : Message)
    (earlier : Nat) : (h.handle mailbox m earlier).broke = h.breaksOn earlier m := by
  unfold Handler.handle
  split
  case isTrue hbreaks => exact hbreaks.symm
  case isFalse hbreaks =>
    rw [Bool.not_eq_true] at hbreaks
    rw [hbreaks]
    split
    · split <;> rfl
    · rfl

namespace Node

/-- The part of a node that decides who is served and who holds which place. -/
structure View where
  /-- The node's own name. -/
  localName : String
  /-- What is done with the frames of established connections. -/
  handler : Handler
  /-- Whether new connections are accepted. -/
  listening : Bool
  /-- The number of the next connection. -/
  nextId : ConnectionId
  /-- What reading from each connection has come to. -/
  intake : ConnectionId → Option Intake
  /-- Who holds which place. -/
  roster : Roster
  /-- Where events go. -/
  bus : Bus

/-- What matters of a node. -/
def view (n : Node) : View where
  localName := n.localName
  handler := n.handler
  listening := n.listening
  nextId := n.nextId
  intake := fun id => n.connections[id]?.map (·.intake)
  roster := n.board.roster
  bus := n.bus

namespace View

/-- Change what was read from a connection. -/
def alter (v : View) (id : ConnectionId) (change : Intake → Intake) : View :=
  { v with intake := fun j => if j = id then (v.intake j).map change else v.intake j }

/-- How far a connection has come; one that was never accepted counts as finished. -/
def stage (v : View) (id : ConnectionId) : Stage :=
  ((v.intake id).map (·.stage)).getD .finished

/-- A connection that has not finished was accepted. -/
theorem exists_intake {v : View} {id : ConnectionId} (h : v.stage id ≠ .finished) :
    ∃ i, v.intake id = some i ∧ i.stage = v.stage id := by
  unfold stage at h ⊢
  cases hi : v.intake id with
  | none => simp [hi] at h
  | some i => exact ⟨i, rfl, by simp⟩

theorem stage_alter_of_ne {v : View} {id j : ConnectionId} (h : j ≠ id)
    (change : Intake → Intake) : (v.alter id change).stage j = v.stage j := by
  simp [stage, alter, h]

/-- A connection that has not finished comes to the stage that is set. -/
theorem stage_alter_self {v : View} {id : ConnectionId} (h : v.stage id ≠ .finished)
    {change : Intake → Intake} {stage : Stage} (hchange : ∀ i, (change i).stage = stage) :
    (v.alter id change).stage id = stage := by
  obtain ⟨i, hi, -⟩ := exists_intake h
  simp [View.stage, alter, hi, hchange]

/-- A connection that is finished is so whether it was accepted or not. -/
theorem stage_alter_finished {v : View} {id : ConnectionId} {change : Intake → Intake}
    (hchange : ∀ i, (change i).stage = .finished) : (v.alter id change).stage id = .finished := by
  unfold stage alter
  cases hi : v.intake id <;> simp [hi, hchange]

end View

@[simp] theorem view_stage (n : Node) (id : ConnectionId) : n.view.stage id = n.stage id := by
  show ((n.connections[id]?.map (·.intake)).map (·.stage)).getD .finished = _
  unfold stage
  cases n.connections[id]? <;> rfl

/-- The address of a connection is part of what matters. -/
theorem address_eq (n : Node) (id : ConnectionId) :
    n.address id = ((n.view.intake id).map (·.address)).getD "" := by
  show _ = ((n.connections[id]?.map (·.intake)).map (·.address)).getD ""
  unfold address
  cases n.connections[id]? <;> rfl

/-- Changing a connection changes its reading side alone, if `change` is `change'` there. -/
theorem view_update {n : Node} {id : ConnectionId} {change : Connection → Connection}
    {change' : Intake → Intake} (h : ∀ c, (change c).intake = change' c.intake) :
    (n.update id change).view = n.view.alter id change' := by
  unfold update view View.alter
  congr 1
  funext j
  rw [lookup_modify]
  split
  · simp [Option.map_map, Function.comp_def, h]
  · rfl

/-- Changing the writing side of a connection changes nothing that matters. -/
theorem view_update_of_intake {n : Node} {id : ConnectionId} {change : Connection → Connection}
    (h : ∀ c, (change c).intake = c.intake) : (n.update id change).view = n.view := by
  have hview : (n.update id change).view = n.view.alter id fun i => i := view_update h
  rw [hview]
  simp [View.alter]

/-! ### Critical sections -/

@[simp] theorem node_idle (n : Node) : n.idle.node = n := rfl

@[simp] theorem record_idle (n : Node) : n.idle.record = [] := rfl

@[simp] theorem node_report (n : Node) (entries : List Log.Entry) :
    (n.report entries).node = n := rfl

/-- The listener's own entries are about no connection. -/
@[simp] theorem record_report (n : Node) (entries : List Log.Entry) :
    (n.report entries).record = [] := by
  simp [report, Step.record, Effect.isRecord]

@[simp] theorem node_reportOn (n : Node) (id : ConnectionId) (entries : List Log.Entry) :
    (n.reportOn id entries).node = n := rfl

/-- Of the entries for a connection only its verdict counts. -/
theorem record_logged (n : Node) (id : ConnectionId) (entries : List Log.Entry) :
    (⟨n, entries.map (.logged (some id))⟩ : Step).record =
      (entries.filter (·.isVerdict)).map (.logged (some id)) := by
  simp only [Step.record, List.filter_map]
  rfl

theorem record_reportOn (n : Node) (id : ConnectionId) (entries : List Log.Entry) :
    (n.reportOn id entries).record =
      (entries.filter (·.isVerdict)).map (.logged (some id)) :=
  record_logged n id entries

/-- Of an act and what is logged along with it, only the act counts if no verdict is logged. -/
theorem record_act (n : Node) (id : ConnectionId) {e : Effect} {entries : List Log.Entry}
    (act : e.isRecord = true) (log : entries.filter (·.isVerdict) = []) :
    (⟨n, e :: entries.map (.logged (some id))⟩ : Step).record = [e] := by
  rw [Step.record_cons, if_pos act, record_logged, log]
  rfl

theorem view_announce (n : Node) (id : ConnectionId) (e : Lifecycle.Event) :
    (n.announce id e).node.view = { n.view with bus := (n.bus.publish e).1 } := rfl

theorem record_announce (n : Node) (id : ConnectionId) (e : Lifecycle.Event) :
    (n.announce id e).record = [.published id e] := by
  -- An event that nobody takes is logged, but that is no verdict.
  have hlog : (n.bus.publish e).2.filter (·.isVerdict) = [] := by
    unfold Bus.publish Mailbox.post
    split
    · rfl
    · split <;> rename_i h <;> split at h <;> cases h <;> rfl
  exact record_act _ id rfl hlog

theorem view_enter (n : Node) (id : ConnectionId) (role : Role) :
    (n.enter id role).node.view =
      { n.view with
        roster := (n.board.roster.install role.rank ⟨id, role.name, n.address id, id⟩).2 }.alter
        id ({ · with stage := .serving role }) := by
  unfold enter
  exact view_update fun _ => rfl

theorem record_enter (n : Node) (id : ConnectionId) (role : Role) :
    (n.enter id role).record = [.entered id role] := by
  have hlog (earlier : Option Contact) :
      (entering role earlier).filter (·.isVerdict) = [] := by
    cases earlier <;> rfl
  exact record_act _ id rfl (hlog _)

theorem view_leave (n : Node) (id : ConnectionId) (role : Role) :
    (n.leave id role).node.view =
      { n.view with roster := (n.board.roster.withdraw role id).2 } := rfl

theorem record_leave (n : Node) (id : ConnectionId) (role : Role) :
    (n.leave id role).record = [.left id role] := by
  have hlog (held : Bool) : (leaving role id held).filter (·.isVerdict) = [] := by
    cases held <;> rfl
  exact record_act _ id rfl (hlog _)

@[simp] theorem view_hangUp (n : Node) (id : ConnectionId) :
    (n.hangUp id).node.view = n.view := by
  unfold hangUp
  split
  · exact view_update_of_intake fun _ => rfl
  · rfl

@[simp] theorem record_hangUp (n : Node) (id : ConnectionId) : (n.hangUp id).record = [] := by
  unfold hangUp
  split <;> rfl

theorem view_finish (n : Node) (id : ConnectionId) :
    (n.finish id).node.view =
      n.view.alter id ({ · with stage := .finished, inbound := {} }) := by
  unfold finish
  rw [view_hangUp]
  exact view_update fun _ => rfl

@[simp] theorem record_finish (n : Node) (id : ConnectionId) : (n.finish id).record = [] :=
  record_hangUp _ _

/-- What the handler notes in the log is no verdict. -/
theorem verdicts_handle (h : Handler) (mailbox : Mailbox Message) (m : Message) (earlier : Nat) :
    (h.handle mailbox m earlier).log.filter (·.isVerdict) = [] := by
  unfold Handler.handle
  split
  · rfl
  · split
    · split <;> rfl
    · rfl

theorem view_hand (n : Node) (id : ConnectionId) (m : Message) (outcome : Handler.Outcome) :
    (n.hand id m outcome).node.view = n.view := rfl

theorem record_hand (n : Node) (id : ConnectionId) (role : Role) (payload : ByteArray) :
    (n.hand id ⟨role.isApi, true, payload⟩
      (n.handler.handle n.messages ⟨role.isApi, true, payload⟩ n.calls)).record =
        Effect.serving id role [payload] :=
  record_act _ id rfl (verdicts_handle ..)

/-! ### Taking a place and losing it -/

theorem view_register (n : Node) (id : ConnectionId) (role : Role) :
    (n.register id role).node.view =
      { n.view with
        roster := (n.board.roster.install role.rank ⟨id, role.name, n.address id, id⟩).2
        bus := (n.bus.publish role.arrival).1 }.alter id ({ · with stage := .serving role }) := by
  unfold register
  rw [Step.node_andThen, view_announce, view_enter]
  rfl

theorem record_register (n : Node) (id : ConnectionId) (role : Role) :
    (n.register id role).record = Effect.taking id role := by
  unfold register
  rw [Step.record_andThen, record_enter, record_announce]
  rfl

theorem view_tearDown (n : Node) (id : ConnectionId) (role : Role) :
    (n.tearDown id role).node.view =
      { n.view with
        roster := (n.board.roster.withdraw role id).2
        bus := (n.bus.publish role.departure).1 }.alter id
          ({ · with stage := .finished, inbound := {} }) := by
  -- The connection is closed first, which touches neither roster nor bus.
  have hview := view_finish n id
  have hroster : (n.finish id).node.board.roster = n.board.roster :=
    congrArg View.roster hview
  have hbus : ((n.finish id).node.leave id role).node.bus = n.bus := congrArg View.bus hview
  unfold tearDown
  rw [Step.node_andThen, Step.node_andThen, view_announce, view_leave, hview, hroster, hbus]
  rfl

theorem record_tearDown (n : Node) (id : ConnectionId) (role : Role) :
    (n.tearDown id role).record = Effect.leaving id role none := by
  unfold tearDown
  rw [Step.record_andThen, Step.record_andThen, record_finish, record_leave, record_announce]
  rfl

/-! ### Ending with a verdict -/

/-- A connection that has no place is given its verdict and ends. -/
theorem record_refuse (n : Node) (id : ConnectionId) {verdict : Log.Entry}
    (refusal : verdict.isRefusal = true) :
    ((n.reportOn id [verdict]).andThen (·.finish id)).record = [.logged (some id) verdict] := by
  have hverdict : verdict.isVerdict = true := by
    cases verdict <;> first | rfl | cases refusal
  rw [Step.record_andThen, record_reportOn, record_finish, List.filter_cons_of_pos hverdict]
  rfl

/-- A connection that has a place is given its verdict and ends. -/
theorem record_part (n : Node) (id : ConnectionId) (role : Role) (reason : Frame.Error) :
    ((n.reportOn id [parting role reason]).andThen (·.tearDown id role)).record =
      Effect.leaving id role (some reason) := by
  have hverdict : (parting role reason).isVerdict = true := by
    cases reason <;> rfl
  rw [Step.record_andThen, record_reportOn, List.filter_cons_of_pos hverdict]
  exact congrArg _ (record_tearDown _ id role)

end Node

end Overlay
