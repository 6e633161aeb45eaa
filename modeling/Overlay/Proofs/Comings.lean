import Overlay.Proofs.Balance
import Overlay.Proofs.Courses

namespace Overlay

/-!
# Who comes, and who goes

Who is accepted by a node, and whether it is served still, can be told from what came to the node:
from the bytes that arrived on each connection while its stream was open, and from the frames on
which the handler broke down.

* `Node.Comes` — in a run, a connection comes in and is greeted;
* `Node.Joins` — and its peer declares a name that is accepted;
* `Node.Parts` — or its stream ends, an oversized frame is declared, the handler breaks down;
* `Node.entered_iff_joins` — whoever joins takes its place, and nobody else does;
* `Node.ended_iff_parts` — of those, whoever parts has ended, and everybody else is served.
-/

namespace Step

variable {s : Step} {id : ConnectionId}

theorem rolesOf_of_acts (h : s.acts id = []) : s.rolesOf id = [] := by
  rw [rolesOf, h]
  rfl

/-- A step in whose record no place is taken gives no connection a role. -/
theorem rolesOf_of_record {acts : List Effect} (h : s.record = acts)
    (hacts : acts.filterMap Effect.role? = []) : s.rolesOf id = [] := by
  have hsub : (s.rolesOf id).Sublist (s.record.filterMap Effect.role?) :=
    List.filter_sublist.filterMap _
  rw [h, hacts] at hsub
  exact List.sublist_nil.1 hsub

end Step

namespace Node

variable {n : Node} {s : Step} {id : ConnectionId}

/-! ### Numbers -/

/-- Only a newcomer takes the next number. -/
theorem Moves.nextId_eq (h : Moves (· ≠ .connection n.nextId) n s) :
    s.node.nextId = n.nextId := by
  refine h.induct (P := fun s => s.node.nextId = n.nextId) rfl ?_
  rintro cause s t hnext hcause hmove
  rw [← hnext] at hcause ⊢
  cases hmove with
  | quiet view | stop view | detach view | retain _ view | refuse _ _ _ view | handle _ _ view =>
    exact congrArg View.nextId view
  | register _ _ view =>
    rw [view_register] at view
    exact congrArg View.nextId view
  | tearDown _ _ view =>
    rw [view_tearDown] at view
    exact congrArg View.nextId view
  | arrive => exact absurd rfl hcause

theorem nextId_settle (n : Node) : n.settle.node.nextId = n.nextId :=
  Moves.nextId_eq (settle_moves n (by simp))

/-! ### The ends of a connection -/

/-- A connection that is refused has ended, without a place. -/
theorem refuse_ends (n : Node) (id : ConnectionId) (verdict : Log.Entry)
    (refusal : verdict.isRefusal = true) :
    ((n.reportOn id [verdict]).andThen (·.finish id)).node.nextId = n.nextId ∧
      ((n.reportOn id [verdict]).andThen (·.finish id)).node.stage id = .finished ∧
      ((n.reportOn id [verdict]).andThen (·.finish id)).rolesOf id = [] := by
  refine ⟨congrArg View.nextId (view_finish n id), ?_,
    Step.rolesOf_of_record (record_refuse n id refusal) rfl⟩
  rw [Step.node_andThen, ← view_stage, view_finish]
  exact View.stage_alter_finished fun _ => rfl

/-- A connection that gives no further frame has ended, and takes no place by that. -/
theorem breakOff_ends (n : Node) (id : ConnectionId) (cause : Frame.Error) :
    (n.breakOff id cause).node.stage id = .finished ∧ (n.breakOff id cause).rolesOf id = [] := by
  unfold breakOff
  split
  case h_1 => exact (refuse_ends n id _ rfl).2
  case h_2 role _ =>
    refine ⟨?_, Step.rolesOf_of_record (record_part n id role cause) (Effect.role?_leaving ..)⟩
    rw [Step.node_andThen, ← view_stage, view_tearDown]
    exact View.stage_alter_finished fun _ => rfl
  case h_3 hfinished => exact ⟨hfinished, rfl⟩

/-- **The end of a stream** ends the connection. -/
theorem step_ends {i : Input} (ends : i.ends id = true) :
    (n.step i).node.stage id = .finished ∧ (n.step i).rolesOf id = [] := by
  have hended : (n.react i).node.stage id = .finished ∧ (n.react i).rolesOf id = [] := by
    cases i with
    | close j =>
      obtain rfl : j = id := of_decide_eq_true ends
      simp only [react, endOfStream]
      split
      case h_1 hnone => exact ⟨by simp [idle, stage, hnone], rfl⟩
      case h_2 => exact breakOff_ends n j _
    | fail j fault =>
      obtain rfl : j = id := of_decide_eq_true ends
      exact breakOff_ends n j _
    | _ => cases ends
  obtain ⟨hacts, hintake⟩ := settle_apart (n.react i).node id
  refine ⟨(stage_eq_of_intake hintake).trans hended.1, ?_⟩
  rw [step, Step.rolesOf_andThen, hended.2, Step.rolesOf_of_acts hacts]
  rfl

/-- A newcomer is greeted, or it is refused. -/
theorem greet_cases (n : Node) (id : ConnectionId) (c : Connection) :
    (n.greet id c).node.nextId = n.nextId ∧
      (c.fault = none ∧ Frame.Fits n.localName.toUTF8 ∨
        (n.greet id c).node.stage id = .finished ∧ (n.greet id c).rolesOf id = []) := by
  cases hgreeting : Frame.encode n.localName.toUTF8 with
  | error cause =>
    obtain ⟨hnext, hended⟩ := refuse_ends n id (.handshakeFailed (.greeting c.address cause)) rfl
    simp only [greet, hgreeting]
    exact ⟨hnext, .inr hended⟩
  | ok frame =>
    cases hfault : c.fault with
    | some fault =>
      obtain ⟨hnext, hended⟩ :=
        refuse_ends n id (.handshakeFailed (.greeting c.address (.io fault))) rfl
      simp only [greet, hgreeting, hfault]
      exact ⟨hnext, .inr hended⟩
    | none =>
      simp only [greet, hgreeting, hfault]
      exact ⟨trivial, .inl ⟨trivial, (Frame.encode_eq_ok_iff.1 hgreeting).1⟩⟩

/-- **Who comes in** gets the next number, and is greeted or refused. -/
theorem connect_cases (listens : n.listening = true) (address : String)
    (fault : Option IoFault) :
    (n.step (.connect address fault)).node.nextId = n.nextId + 1 ∧
      (fault = none ∧ Frame.Fits n.localName.toUTF8 ∨
        (n.step (.connect address fault)).node.stage n.nextId = .finished ∧
          (n.step (.connect address fault)).rolesOf n.nextId = []) := by
  let c : Connection := { address, fault, stage := .introducing }
  have hstep : n.step (.connect address fault) =
      (((n.arrive c).report [.accepted address]).andThen (·.greet n.nextId c)).andThen settle := by
    simp only [step, react, listens, if_true]
    rfl
  obtain ⟨hnext, hgreeted⟩ := greet_cases (n.arrive c) n.nextId c
  obtain ⟨hacts, hintake⟩ := settle_apart ((n.arrive c).greet n.nextId c).node n.nextId
  rw [hstep]
  refine ⟨(nextId_settle _).trans hnext, hgreeted.imp_right ?_⟩
  rintro ⟨hended, hroles⟩
  constructor
  · exact (stage_eq_of_intake hintake).trans hended
  · have hreport : ((n.arrive c).report [.accepted address]).rolesOf n.nextId = [] :=
      Step.rolesOf_of_record (record_report _ _) rfl
    rw [Step.rolesOf_andThen, Step.rolesOf_andThen, hreport, node_report, hroles]
    exact Step.rolesOf_of_acts hacts

/-- **Numbers are given to newcomers only.** -/
theorem nextId_step (outside : n.stage n.nextId = .finished) (i : Input) :
    (n.step i).node.nextId = n.nextId ∨ ∃ address fault, i = .connect address fault ∧
      n.listening = true ∧ (n.step i).node.nextId = n.nextId + 1 := by
  have hquiet (h : n.react i = n.idle) : (n.step i).node.nextId = n.nextId := by
    rw [step, h]
    exact nextId_settle n
  by_cases hcause : n.cause i = .connection n.nextId
  -- The next number is nobody's, so there is nothing to do for it.
  · cases i with
    | connect address fault =>
      by_cases hlistens : n.listening = true
      · exact .inr ⟨address, fault, rfl, hlistens, (connect_cases hlistens address fault).1⟩
      · exact .inl (hquiet (if_neg hlistens))
    | receive j bytes =>
      obtain rfl : j = n.nextId := Cause.connection.inj hcause
      exact .inl (hquiet (receive_finished outside bytes))
    | close j =>
      obtain rfl : j = n.nextId := Cause.connection.inj hcause
      refine .inl (hquiet ?_)
      simp only [react, endOfStream]
      split
      · rfl
      · simp only [breakOff, outside]
    | fail j fault =>
      obtain rfl : j = n.nextId := Cause.connection.inj hcause
      exact .inl (hquiet (by simp only [react, breakOff, outside]))
    | _ => cases hcause
  · exact .inl (Moves.nextId_eq (step_moves n i hcause (by simp)))

/-! ### In a run -/

/-- In the inputs `is` of a node, connection `id` comes in and is greeted, and then the inputs
`after` come. -/
def Comes (n : Node) (is : List Input) (id : ConnectionId) (after : List Input) : Prop :=
  ∃ before address, is = before ++ .connect address none :: after ∧
    (n.run before).node.listening = true ∧ (n.run before).node.nextId = id ∧
    Frame.Fits n.localName.toUTF8

/-- The peer of connection `id` joins in a role: the connection comes in and is greeted, and the
first frame that arrives while its stream is open is a name that is accepted in this role. -/
def Joins (n : Node) (is : List Input) (id : ConnectionId) (role : Role) : Prop :=
  ∃ during later, n.Comes is id (during ++ later) ∧ (∀ i ∈ during, i.ends id = false) ∧
    Introduces (received id during) role

/-- Connection `id` parts: its stream ends or cannot be read any more, an oversized frame is
declared behind its whole frames, or the handler breaks down on one of them. -/
def Parts (n : Node) (is : List Input) (id : ConnectionId) : Prop :=
  ∃ after, n.Comes is id after ∧ ((∃ i ∈ after, i.ends id = true) ∨
    (∃ length, Frame.front (Frame.split (received id after)).2 = .oversized length) ∨
    n.BreaksOn (n.run is) id)

/-- Inputs up to the end of a stream, if it ends. -/
theorem exists_open (id : ConnectionId) (is : List Input) :
    ∃ during later, is = during ++ later ∧ (∀ i ∈ during, i.ends id = false) ∧
      (later = [] ∨ ∃ i rest, later = i :: rest ∧ i.ends id = true) := by
  induction is with
  | nil => exact ⟨[], [], rfl, by simp, .inl rfl⟩
  | cons i is ih =>
    cases hends : i.ends id with
    | true => exact ⟨[], i :: is, rfl, by simp, .inr ⟨i, is, rfl, hends⟩⟩
    | false =>
      obtain ⟨during, later, rfl, hopen, hlater⟩ := ih
      refine ⟨i :: during, later, rfl, fun j hj => ?_, hlater⟩
      rcases List.mem_cons.1 hj with rfl | hj
      · exact hends
      · exact hopen j hj

/-- What becomes of connection `id` in the inputs `after`, if it has just come in from `address` at
the node `n`. -/
structure Fate (n : Node) (id : ConnectionId) (address : String)
    (after during later : List Input) : Prop where
  /-- Some of the inputs come while its stream is open, and the others later. -/
  cut : after = during ++ later
  /-- None of the first ends the stream. -/
  isOpen : ∀ i ∈ during, i.ends id = false
  /-- So long the connection goes its course. -/
  course : n.Course (n.run during) id address (received id during)
  /-- Later it takes no place. -/
  rolesOf : (n.run after).rolesOf id = (n.run during).rolesOf id
  /-- If there are any later ones, they have ended it. -/
  ended : later = [] ∨ (n.run after).node.stage id = .finished ∧ ∃ i ∈ after, i.ends id = true

/-- **The fate of a connection** that has just come in. -/
theorem exists_fate (hid : id < n.nextId) {address : String}
    (h : n.view.intake id = some ⟨address, .introducing, {}⟩) (after : List Input) :
    ∃ during later, n.Fate id address after during later := by
  obtain ⟨during, later, rfl, hopen, hlater⟩ := exists_open id after
  have hcourse := run_course hid h hopen
  rcases hlater with rfl | ⟨i, rest, rfl, hends⟩
  · exact ⟨during, [], rfl, hopen, hcourse, by rw [List.append_nil], .inl rfl⟩
  · have hmoves := run_moves_all n during
    have hid' : id < (n.run during).node.nextId := Nat.lt_of_lt_of_le hid hmoves.keeps.2.2
    obtain ⟨hended, hroles⟩ := step_ends (n := (n.run during).node) hends
    have hstep : Moves (fun _ => True) (n.run during).node ((n.run during).node.step i) :=
      step_moves _ i trivial trivial
    obtain ⟨hstage, hacts⟩ := (run_moves_all ((n.run during).node.step i).node rest).finished
      (Nat.lt_of_lt_of_le hid' hstep.keeps.2.2) hended
    refine ⟨during, i :: rest, rfl, hopen, hcourse, ?_, .inr ⟨?_, i, by simp, hends⟩⟩
    · rw [run_append, Step.rolesOf_andThen, run, Step.rolesOf_andThen, hroles,
        Step.rolesOf_of_acts hacts]
      simp
    · rw [run_append, Step.node_andThen, run, Step.node_andThen]
      exact hstage

/-! ### In runs of a node -/

section Runs

variable {localName : String} {handler : Handler} {bus : Bus} {is : List Input}

/-- A connection comes in at some moment of a run, and all that concerns it is done from then on. -/
structure Enters (n : Node) (is : List Input) (id : ConnectionId) (c : Node) (address : String)
    (after : List Input) : Prop where
  /-- It has its number. -/
  number : id < c.nextId
  /-- It is about to introduce itself. -/
  intake : c.view.intake id = some ⟨address, .introducing, {}⟩
  /-- The run ends as it goes on from there. -/
  node : (n.run is).node = (c.run after).node
  /-- What is recorded of the connection is recorded there. -/
  acts : (n.run is).acts id = (c.run after).acts id
  /-- If the handler breaks down on it, that is there. -/
  breaksOn : n.BreaksOn (n.run is) id ↔ c.BreaksOn (c.run after) id

/-- Nothing is recorded of a connection before it has come in. -/
theorem Comes.exists_enters {after : List Input}
    (h : (fresh localName handler bus).Comes is id after) :
    ∃ c address, (fresh localName handler bus).Enters is id c address after := by
  obtain ⟨before, address, rfl, listens, rfl, fits⟩ := h
  have horderly := orderly_run localName handler bus before
  have hname := (run_moves_all (fresh localName handler bus) before).keeps.1
  generalize hn : fresh localName handler bus = n at *
  obtain ⟨hid, hbegins⟩ := connect_hears listens (hname ▸ fits) address
  have hentered : (n.run (before ++ [.connect address none])).acts (n.run before).node.nextId =
      [] := by
    rw [run_concat]
    refine (Step.acts_append _ _ _).trans ?_
    rw [hbegins.nothing, (horderly.outside _ (Nat.le_refl _)).2]
    rfl
  have hcut : before ++ .connect address none :: after =
      (before ++ [.connect address none]) ++ after := by simp
  refine ⟨(n.run (before ++ [.connect address none])).node, address, ?_, ?_, ?_, ?_, ?_⟩
  · rw [run_concat]
    exact hid
  · rw [run_concat]
    exact hbegins.intake
  · rw [hcut, run_append]
    rfl
  · rw [hcut, acts_run_append, hentered, List.nil_append]
  · rw [hcut, breaksOn_run_append hentered]

/-- Whoever has a number has come in. -/
theorem exists_connect (first : 0 < id)
    (came : id < ((fresh localName handler bus).run is).node.nextId) :
    ∃ before address fault after, is = before ++ .connect address fault :: after ∧
      ((fresh localName handler bus).run before).node.listening = true ∧
      ((fresh localName handler bus).run before).node.nextId = id := by
  induction is using List.reverseRecOn with
  | nil => exact absurd came (Nat.not_lt_of_le first)
  | append_singleton is i ih =>
    have horderly := orderly_run localName handler bus is
    rw [run_concat] at came
    by_cases hearlier : id < ((fresh localName handler bus).run is).node.nextId
    · obtain ⟨before, address, fault, after, rfl, hlistens, hnext⟩ := ih hearlier
      exact ⟨before, address, fault, after ++ [i], by simp, hlistens, hnext⟩
    · change id < (((fresh localName handler bus).run is).node.step i).node.nextId at came
      rcases nextId_step (horderly.outside _ (Nat.le_refl _)).1 i with
        hnext | ⟨address, fault, rfl, hlistens, hnext⟩
      · exact absurd (hnext ▸ came) hearlier
      · have hlast := Nat.le_of_lt_succ (hnext ▸ came)
        exact ⟨is, address, fault, [], rfl, hlistens,
          Nat.le_antisymm (Nat.le_of_not_lt hearlier) hlast⟩

/-- Whoever takes a place has come in and was greeted. -/
theorem exists_comes {role : Role}
    (taken : role ∈ ((fresh localName handler bus).run is).rolesOf id) :
    ∃ after, (fresh localName handler bus).Comes is id after := by
  have hnone (h : ((fresh localName handler bus).run is).rolesOf id = []) : False :=
    List.not_mem_nil (h ▸ taken)
  have hfirst : 0 < id := by
    refine Nat.pos_of_ne_zero fun hzero => hnone (Step.rolesOf_of_acts ?_)
    rw [hzero]
    exact ((run_moves_all (fresh localName handler bus) is).finished Nat.one_pos rfl).2
  have hcame : id < ((fresh localName handler bus).run is).node.nextId := by
    by_contra hge
    exact hnone ((orderly_run localName handler bus is).rolesOf_of_outside (Nat.le_of_not_lt hge))
  obtain ⟨before, address, fault, after, rfl, listens, rfl⟩ := exists_connect hfirst hcame
  have hname := (run_moves_all (fresh localName handler bus) before).keeps.1
  obtain ⟨hnext, ⟨rfl, fits⟩ | ⟨hended, hroles⟩⟩ := connect_cases listens address fault
  · exact ⟨after, before, address, rfl, listens, rfl, hname ▸ fits⟩
  -- Whoever was refused takes no place any more.
  · have hearlier := (orderly_run localName handler bus before).rolesOf_of_outside (Nat.le_refl _)
    obtain ⟨-, hacts⟩ := (run_moves_all _ after).finished (hnext ▸ Nat.lt_succ_self _) hended
    refine (hnone ?_).elim
    rw [run_append, Step.rolesOf_andThen, hearlier, run, Step.rolesOf_andThen, hroles,
      Step.rolesOf_of_acts hacts]
    rfl

/-- **Whoever joins takes its place**, and nobody else does. -/
theorem entered_iff_joins {role : Role} :
    (id, role) ∈ ((fresh localName handler bus).run is).entries ↔
      (fresh localName handler bus).Joins is id role := by
  rw [← Step.mem_rolesOf]
  constructor
  · intro taken
    obtain ⟨after, comes⟩ := exists_comes taken
    obtain ⟨c, address, enters⟩ := comes.exists_enters
    obtain ⟨during, later, fate⟩ := exists_fate enters.number enters.intake after
    have hroles : ((fresh localName handler bus).run is).rolesOf id = (c.run during).rolesOf id :=
      (congrArg (List.filterMap Effect.role?) enters.acts).trans fate.rolesOf
    -- It has taken one place, so that is the one for which it has declared itself.
    have hone : ((fresh localName handler bus).run is).rolesOf id = [role] :=
      ((orderly_run localName handler bus is).passage id).roles_of_role taken
    obtain ⟨r, htaken, introduces⟩ :=
      fate.course.exists_introduces_of_taken (List.ne_nil_of_mem (hroles ▸ taken))
    rw [← hroles, hone, List.mem_singleton] at htaken
    subst htaken
    exact ⟨during, later, fate.cut ▸ comes, fate.isOpen, introduces⟩
  · rintro ⟨during, later, comes, isOpen, introduces⟩
    obtain ⟨c, address, enters⟩ := comes.exists_enters
    have htaken := (run_course enters.number enters.intake isOpen).taken_of_introduces introduces
    have hroles : ((fresh localName handler bus).run is).rolesOf id =
        (c.run (during ++ later)).rolesOf id :=
      congrArg (List.filterMap Effect.role?) enters.acts
    rw [hroles, run_append, Step.rolesOf_andThen]
    exact List.mem_append_left _ htaken

/-- **Of those who have joined, whoever parts has ended**, and everybody else is served. -/
theorem ended_iff_parts {role : Role} (joins : (fresh localName handler bus).Joins is id role) :
    ((fresh localName handler bus).run is).node.serves id = false ↔
      (fresh localName handler bus).Parts is id := by
  constructor
  · intro hended
    obtain ⟨before, rest, comes, -, introduces⟩ := joins
    obtain ⟨c, address, enters⟩ := comes.exists_enters
    obtain ⟨during, later, fate⟩ := exists_fate enters.number enters.intake (before ++ rest)
    refine ⟨before ++ rest, comes, ?_⟩
    rcases fate.ended with rfl | ⟨-, hends⟩
    -- The stream is open still, so it is its bytes or the handler.
    · have hcut := fate.cut.trans (List.append_nil during)
      have hcourse := fate.course
      rw [← hcut] at hcourse
      have taken :=
        hcourse.taken_of_introduces (received_append id before rest ▸ introduces.append _)
      cases hcourse with
      | introducing _ _ acts => simp [Step.rolesOf_of_acts acts] at taken
      | refused _ roles => simp [roles] at taken
      | accepted _ _ served =>
        cases served with
        | on intake => simp [enters.node, serves, stage_of_intake intake] at hended
        | ended _ reason => exact .inr (reason.imp_right enters.breaksOn.2)
    · exact .inl hends
  · rintro ⟨after, comes, hparts⟩
    obtain ⟨c, address, enters⟩ := comes.exists_enters
    obtain ⟨during, later, fate⟩ := exists_fate enters.number enters.intake after
    rw [enters.node, serves]
    rcases fate.ended with rfl | ⟨hended, -⟩
    · obtain rfl : after = during := fate.cut.trans (List.append_nil during)
      cases fate.course with
      | introducing intake => simp [stage_of_intake intake]
      | refused ended => simp [ended]
      | accepted _ _ served =>
        cases served with
        | ended ended => simp [ended]
        -- A connection that is served has no reason to part.
        | on _ waiting unbroken =>
          rcases hparts with ⟨i, hi, hends⟩ | ⟨length, hlarge⟩ | hbreaks
          · simp [fate.isOpen i hi] at hends
          · simp [waiting] at hlarge
          · exact absurd (enters.breaksOn.1 hbreaks) unbroken
    · simp [hended]

end Runs

end Node

end Overlay
