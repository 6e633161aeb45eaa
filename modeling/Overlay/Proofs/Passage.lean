import Overlay.Proofs.Moves

namespace Overlay

/-!
# The passage of a connection

Every connection goes through a node in one direction: it introduces itself, serves in one role,
and is finished; or it is finished without ever having served.

* `Step.acts` — what is recorded of one connection; `Step.entries` — who took a place, in order;
* `Turn` — what a move means for who is served, with everything else left out;
* `Passage` — what a connection has done by the time it has come to a stage;
* `Node.orderly_run` — in every run, every connection has done just that.
-/

namespace Effect

/-- Whether a recorded act is one of a given connection. -/
def isAbout (id : ConnectionId) : Effect → Bool
  | .entered j _ | .left j _ | .published j _ | .handled j _ | .logged (some j) _ => j = id
  | _ => false

/-- The role in which a connection takes a place. -/
def role? : Effect → Option Role
  | .entered _ role => some role
  | _ => none

/-- The connection that takes a place, and its role. -/
def entry? : Effect → Option (ConnectionId × Role)
  | .entered id role => some (id, role)
  | _ => none

/-- The event that is announced. -/
def event? : Effect → Option Lifecycle.Event
  | .published _ e => some e
  | _ => none

/-- No act is of two connections. -/
theorem isAbout_unique {e : Effect} {id j : ConnectionId} (h : e.isAbout id = true)
    (hj : e.isAbout j = true) : j = id := by
  unfold isAbout at h hj
  split at h
  all_goals first | exact (of_decide_eq_true hj).symm.trans (of_decide_eq_true h) | cases h

end Effect

namespace Step

/-- The connections that take a place, in order, each with its role. -/
def entries (s : Step) : List (ConnectionId × Role) := s.effects.filterMap Effect.entry?

/-- What is recorded of one connection. -/
def acts (s : Step) (id : ConnectionId) : List Effect := s.record.filter (·.isAbout id)

/-- The roles in which a connection takes a place. -/
def rolesOf (s : Step) (id : ConnectionId) : List Role := (s.acts id).filterMap Effect.role?

/-- The events that one connection announces, in order. -/
def eventsOf (s : Step) (id : ConnectionId) : List Lifecycle.Event :=
  (s.acts id).filterMap Effect.event?

/-- Acts from which nothing is read may be left out. -/
theorem filterMap_filter_eq {α : Type} {p : Effect → Bool} {f : Effect → Option α}
    (h : ∀ e, p e = false → f e = none) (es : List Effect) :
    (es.filter p).filterMap f = es.filterMap f := by
  rw [List.filterMap_filter]
  congr 1
  funext e
  by_cases he : p e = true
  · simp [he]
  · simp [he, h]

/-- What is read from the record alone can be read from all effects. -/
theorem filterMap_record {α : Type} {f : Effect → Option α}
    (h : ∀ e, e.isRecord = false → f e = none) (s : Step) :
    s.record.filterMap f = s.effects.filterMap f := filterMap_filter_eq h s.effects

theorem entries_eq (s : Step) : s.entries = s.record.filterMap Effect.entry? := by
  refine (filterMap_record (fun e he => ?_) s).symm
  cases e <;> first | rfl | cases he

/-- Events are announced by acts. -/
theorem events_eq_filterMap (s : Step) : s.events = s.effects.filterMap Effect.event? := by
  unfold events
  congr 1

theorem events_eq (s : Step) : s.events = s.record.filterMap Effect.event? := by
  rw [events_eq_filterMap]
  refine (filterMap_record (fun e he => ?_) s).symm
  cases e <;> first | rfl | cases he

/-- A connection takes a place in the roles that are its own. -/
theorem mem_rolesOf {s : Step} {id : ConnectionId} {role : Role} :
    role ∈ s.rolesOf id ↔ (id, role) ∈ s.entries := by
  rw [rolesOf, entries_eq, List.mem_filterMap, List.mem_filterMap]
  constructor
  -- An act of the connection is one of its entries, and the other way round.
  · rintro ⟨e, hmem, hrole⟩
    obtain ⟨hmem, habout⟩ := List.mem_filter.1 hmem
    cases e <;> cases hrole
    exact ⟨_, hmem, by rw [Effect.entry?, of_decide_eq_true habout]⟩
  · rintro ⟨e, hmem, hentry⟩
    cases e <;> cases hentry
    exact ⟨_, List.mem_filter.2 ⟨hmem, decide_eq_true rfl⟩, rfl⟩

section Append

variable (s t : Step)

@[simp] theorem entries_append :
    (⟨t.node, s.effects ++ t.effects⟩ : Step).entries = s.entries ++ t.entries := by
  simp [entries]

theorem acts_append (id : ConnectionId) :
    (⟨t.node, s.effects ++ t.effects⟩ : Step).acts id = s.acts id ++ t.acts id := by
  simp [acts, record]

theorem rolesOf_append (id : ConnectionId) :
    (⟨t.node, s.effects ++ t.effects⟩ : Step).rolesOf id = s.rolesOf id ++ t.rolesOf id := by
  simp [rolesOf, acts_append]

theorem rolesOf_andThen (next : Node → Step) (id : ConnectionId) :
    (s.andThen next).rolesOf id = s.rolesOf id ++ (next s.node).rolesOf id :=
  rolesOf_append s (next s.node) id

end Append

/-- What is recorded of one connection alone is not recorded of any other. -/
theorem acts_of_record {t : Step} {id : ConnectionId} {acts : List Effect}
    (h : t.record = acts) (habout : ∀ e ∈ acts, e.isAbout id = true) (j : ConnectionId) :
    t.acts j = if j = id then acts else [] := by
  unfold Step.acts
  rw [h]
  by_cases hj : j = id
  · rw [if_pos hj, List.filter_eq_self, hj]
    exact habout
  · rw [if_neg hj, List.filter_eq_nil_iff]
    exact fun e he habout' => hj (Effect.isAbout_unique (habout e he) habout')

end Step

/-! ### What is recorded of a connection -/

namespace Effect

theorem isAbout_of_mem_serving {id : ConnectionId} {role : Role} {payloads : List ByteArray}
    {e : Effect} (h : e ∈ serving id role payloads) : e.isAbout id = true := by
  obtain ⟨payload, -, rfl⟩ := List.mem_map.1 h
  exact decide_eq_true rfl

theorem isAbout_of_mem_leaving {id : ConnectionId} {role : Role} {reason : Option Frame.Error}
    {e : Effect} (h : e ∈ leaving id role reason) : e.isAbout id = true := by
  cases reason <;> simp only [leaving, farewell, List.nil_append, List.cons_append,
    List.mem_cons, List.not_mem_nil, or_false] at h
  · rcases h with rfl | rfl <;> exact decide_eq_true rfl
  · rcases h with rfl | rfl | rfl <;> exact decide_eq_true rfl

@[simp] theorem role?_taking (id : ConnectionId) (role : Role) :
    (taking id role).filterMap role? = [role] := rfl

@[simp] theorem event?_taking (id : ConnectionId) (role : Role) :
    (taking id role).filterMap event? = [role.arrival] := rfl

/-- Handling frames is neither taking a place nor announcing anything. -/
@[simp] theorem role?_serving (id : ConnectionId) (role : Role) (payloads : List ByteArray) :
    (serving id role payloads).filterMap role? = [] := by
  simp [serving, role?]

@[simp] theorem event?_serving (id : ConnectionId) (role : Role) (payloads : List ByteArray) :
    (serving id role payloads).filterMap event? = [] := by
  simp [serving, event?]

@[simp] theorem entry?_leaving (id : ConnectionId) (role : Role) (reason : Option Frame.Error) :
    (leaving id role reason).filterMap entry? = [] := by
  cases reason <;> rfl

@[simp] theorem role?_leaving (id : ConnectionId) (role : Role) (reason : Option Frame.Error) :
    (leaving id role reason).filterMap role? = [] := by
  cases reason <;> rfl

@[simp] theorem event?_leaving (id : ConnectionId) (role : Role) (reason : Option Frame.Error) :
    (leaving id role reason).filterMap event? = [role.departure] := by
  cases reason <;> rfl

end Effect

/-! ### Who is served -/

/-- Whether a connection serves at this stage. -/
def Stage.isServing : Stage → Bool
  | .serving _ => true
  | _ => false

@[simp] theorem Stage.isServing_serving (role : Role) : (Stage.serving role).isServing = true :=
  rfl

@[simp] theorem Stage.isServing_introducing : Stage.introducing.isServing = false := rfl

@[simp] theorem Stage.isServing_finished : Stage.finished.isServing = false := rfl

/-- Whether the frames of a connection are being handled. -/
def Node.serves (n : Node) (id : ConnectionId) : Bool := (n.stage id).isServing

/-- Who is served and who holds which place. -/
structure Standing where
  /-- The number of the next connection. -/
  nextId : ConnectionId
  /-- How far each connection has come. -/
  stage : ConnectionId → Stage
  /-- Who holds which place. -/
  roster : Roster

/-- Who is served, and who holds which place. -/
def Node.View.standing (v : Node.View) : Standing := ⟨v.nextId, v.stage, v.roster⟩

/-- Who is served at a node, and who holds which place. -/
def Node.standing (n : Node) : Standing := ⟨n.nextId, n.stage, n.board.roster⟩

theorem Node.standing_view (n : Node) : n.view.standing = n.standing := by
  have hstage : n.view.stage = n.stage := funext n.view_stage
  show Standing.mk _ n.view.stage _ = _
  rw [hstage]
  rfl

namespace Node.View

/-- What is read from a connection may change, as long as its stage stays. -/
theorem standing_alter_of_stage {v : View} {id : ConnectionId} {change : Intake → Intake}
    (h : ∀ i, (change i).stage = i.stage) : (v.alter id change).standing = v.standing := by
  have hstage : (v.alter id change).stage = v.stage := by
    funext j
    by_cases hj : j = id
    · subst hj
      simp [stage, alter, Function.comp_def, h]
    · exact stage_alter_of_ne hj change
  show Standing.mk _ (v.alter id change).stage _ = _
  rw [hstage]
  rfl

/-- A connection that has not finished comes to another stage; no other does. -/
theorem standing_alter {v : View} {id : ConnectionId} {change : Intake → Intake} {stage : Stage}
    (h : v.stage id ≠ .finished) (hchange : ∀ i, (change i).stage = stage) :
    (v.alter id change).standing =
      { v.standing with stage := Function.update v.stage id stage } := by
  have hstage : (v.alter id change).stage = Function.update v.stage id stage := by
    funext j
    by_cases hj : j = id
    · subst hj
      rw [Function.update_self, stage_alter_self h hchange]
    · rw [Function.update_of_ne hj, stage_alter_of_ne hj]
  show Standing.mk _ (v.alter id change).stage _ = _
  rw [hstage]
  rfl

end Node.View

/-- What a move means for who is served and who holds which place. -/
inductive Turn (n : Node) (s : Step) : Prop
  /-- Nothing. -/
  | still (standing : s.node.standing = n.standing) (record : s.record = [])
  /-- A connection comes in. -/
  | arrive
      (standing : s.node.standing =
        { n.standing with
          nextId := n.nextId + 1
          stage := Function.update n.stage n.nextId .introducing })
      (record : s.record = [])
  /-- A connection that has no place is given its verdict and ends. -/
  | refuse (id : ConnectionId) (verdict : Log.Entry) (refusal : verdict.isRefusal = true)
      (before : n.stage id = .introducing)
      (standing : s.node.standing =
        { n.standing with stage := Function.update n.stage id .finished })
      (record : s.record = [.logged (some id) verdict])
  /-- A connection takes its place, by the name that its peer declared. -/
  | register (id : ConnectionId) (role : Role) (declared : ByteArray)
      (before : n.stage id = .introducing)
      (name : Introduction.ofBytes declared = .accepted role)
      (standing : s.node.standing =
        { n.standing with
          stage := Function.update n.stage id (.serving role)
          roster := (n.board.roster.install role.rank ⟨id, role.name, n.address id, id⟩).2 })
      (record : s.record = Effect.taking id role)
  /-- A frame of a connection is handled. -/
  | handle (id : ConnectionId) (role : Role) (payload : ByteArray)
      (before : n.stage id = .serving role) (standing : s.node.standing = n.standing)
      (record : s.record = Effect.serving id role [payload])
  /-- A connection that serves ends and leaves its place. -/
  | tearDown (id : ConnectionId) (role : Role) (reason : Option Frame.Error)
      (before : n.stage id = .serving role)
      (standing : s.node.standing =
        { n.standing with
          stage := Function.update n.stage id .finished
          roster := (n.board.roster.withdraw role id).2 })
      (record : s.record = Effect.leaving id role reason)

namespace Node

variable {n : Node} {s : Step}

/-- **Every move is a turn.** -/
theorem Move.turn {cause : Cause} (h : Move cause n s) : Turn n s := by
  have hstanding := s.node.standing_view.symm
  have hstage : n.view.stage = n.stage := funext n.view_stage
  cases h with
  | quiet view record =>
    rw [view, n.standing_view] at hstanding
    exact .still hstanding record
  | handle payload before view record =>
    rw [view, n.standing_view] at hstanding
    exact .handle _ _ payload before hstanding record
  | stop view record | detach view record =>
    rw [view] at hstanding
    exact .still (hstanding.trans n.standing_view) record
  | retain rest view record =>
    rw [view] at hstanding
    have hkept := hstanding.trans (View.standing_alter_of_stage fun _ => rfl)
    exact .still (hkept.trans n.standing_view) record
  | arrive address view record =>
    rw [view] at hstanding
    -- Only the new number has another stage than before.
    refine .arrive (hstanding.trans ?_) record
    show Standing.mk _ _ _ = Standing.mk _ _ _
    congr 1
    funext j
    by_cases hj : j = n.nextId
    · subst hj
      simp [View.stage]
    · rw [Function.update_of_ne hj, ← hstage]
      simp [View.stage, Function.update_of_ne hj]
  | @refuse _ _ id verdict refusal before view record =>
    have hne : n.view.stage id ≠ .finished := by simp [before]
    rw [view] at hstanding
    have hended := hstanding.trans (View.standing_alter hne fun _ => rfl)
    rw [hstage, n.standing_view] at hended
    exact .refuse id verdict refusal before hended record
  | @register _ _ id role declared before name view record =>
    have hne : n.view.stage id ≠ .finished := by simp [before]
    -- The roster is given by the connection's contact, and the stage by its reading side.
    rw [view, view_register] at hstanding
    have hserving := hstanding.trans (View.standing_alter hne fun _ => rfl)
    refine .register id role declared before name (hserving.trans ?_) record
    show Standing.mk _ (Function.update n.view.stage _ _) _ = _
    rw [hstage]
    rfl
  | @tearDown _ _ id role reason before view record =>
    have hne : n.view.stage id ≠ .finished := by simp [before]
    rw [view, view_tearDown] at hstanding
    have hended := hstanding.trans (View.standing_alter hne fun _ => rfl)
    refine .tearDown id role reason before (hended.trans ?_) record
    show Standing.mk _ (Function.update n.view.stage _ _) _ = _
    rw [hstage]
    rfl

/-- What holds at the beginning and is kept by every turn holds after every run. -/
theorem run_turns {P : Step → Prop} (n : Node) (is : List Input) (h0 : P n.idle)
    (hturn : ∀ {s t : Step}, P s → Turn s.node t → P ⟨t.node, s.effects ++ t.effects⟩) :
    P (n.run is) := by
  refine (run_moves_all n is).induct h0 ?_
  intro cause s t hs _ hmove
  exact hturn hs hmove.turn

end Node

/-! ### One way through -/

/-- What a connection has done by the time it has come to a stage. -/
inductive Passage (id : ConnectionId) : Stage → List Effect → Prop
  /-- The connection has not come in. -/
  | outside : Passage id .finished []
  /-- So far only the node has spoken. -/
  | introducing : Passage id .introducing []
  /-- The connection was given its verdict and ended before it had a place. -/
  | refused (verdict : Log.Entry) (refusal : verdict.isRefusal = true) :
      Passage id .finished [.logged (some id) verdict]
  /-- The peer has taken its place, once, and since then some frames were handled. -/
  | serving (role : Role) (payloads : List ByteArray) :
      Passage id (.serving role) (Effect.taking id role ++ Effect.serving id role payloads)
  /-- The peer had a place, and has left it, once. -/
  | gone (role : Role) (payloads : List ByteArray) (reason : Option Frame.Error) :
      Passage id .finished (Effect.taking id role ++ Effect.serving id role payloads ++
        Effect.leaving id role reason)

/-- Every connection has gone its way, and those still to come have not set out. -/
structure Orderly (s : Step) : Prop where
  /-- A connection that has not come in yet has no stage, and nothing is recorded of it. -/
  outside : ∀ id, s.node.nextId ≤ id → s.node.stage id = .finished ∧ s.acts id = []
  /-- What each connection has done is what its stage says. -/
  passage : ∀ id, Passage id (s.node.stage id) (s.acts id)
  /-- Roles come from the names that peers declare. -/
  declared : ∀ entry ∈ s.entries, ∃ name, Introduction.ofBytes name = .accepted entry.2

namespace Orderly

variable {s t : Step} {id : ConnectionId}

/-- A connection that has not finished has come in. -/
theorem lt_nextId (hs : Orderly s) (h : s.node.stage id ≠ .finished) : id < s.node.nextId := by
  by_cases hlt : id < s.node.nextId
  · exact hlt
  · exact absurd (hs.outside id (Nat.le_of_not_lt hlt)).1 h

/-- Nothing is recorded of a connection that introduces itself. -/
theorem acts_of_introducing (hs : Orderly s) (h : s.node.stage id = .introducing) :
    s.acts id = [] := by
  have hpassage := hs.passage id
  rw [h] at hpassage
  generalize s.acts id = acts at hpassage
  cases hpassage
  rfl

/-- A connection that serves has taken its place, and some of its frames were handled. -/
theorem acts_of_serving (hs : Orderly s) {role : Role} (h : s.node.stage id = .serving role) :
    ∃ payloads, s.acts id = Effect.taking id role ++ Effect.serving id role payloads := by
  have hpassage := hs.passage id
  rw [h] at hpassage
  generalize s.acts id = acts at hpassage
  cases hpassage with
  | serving _ payloads => exact ⟨payloads, rfl⟩

/-- A connection that has not come in has taken no place. -/
theorem rolesOf_of_outside (hs : Orderly s) (h : s.node.nextId ≤ id) : s.rolesOf id = [] := by
  rw [Step.rolesOf, (hs.outside id h).2]
  rfl

/-- A connection that introduces itself has taken no place. -/
theorem rolesOf_of_introducing (hs : Orderly s) (h : s.node.stage id = .introducing) :
    s.rolesOf id = [] := by
  rw [Step.rolesOf, hs.acts_of_introducing h]
  rfl

/-- A connection that serves has taken one place. -/
theorem rolesOf_of_serving (hs : Orderly s) {role : Role} (h : s.node.stage id = .serving role) :
    s.rolesOf id = [role] := by
  obtain ⟨payloads, hacts⟩ := hs.acts_of_serving h
  simp [Step.rolesOf, hacts]

/-- One connection comes to another stage. What it does on the way is all that is recorded. -/
theorem advance (hs : Orderly s) {stage : Stage} {acts : List Effect}
    (hnext : s.node.nextId ≤ t.node.nextId) (hid : id < t.node.nextId)
    (hstage : t.node.stage = Function.update s.node.stage id stage)
    (hrecord : t.record = acts) (habout : ∀ e ∈ acts, e.isAbout id = true)
    (hpassage : Passage id stage (s.acts id ++ acts))
    (hdeclared : ∀ entry ∈ acts.filterMap Effect.entry?,
      ∃ name, Introduction.ofBytes name = .accepted entry.2) :
    Orderly ⟨t.node, s.effects ++ t.effects⟩ := by
  have hacts := Step.acts_of_record hrecord habout
  constructor
  -- Connections still to come are others.
  · intro j hj
    have hne : j ≠ id := fun heq => Nat.lt_irrefl id (Nat.lt_of_lt_of_le hid (heq ▸ hj))
    rw [Step.acts_append, hacts, if_neg hne, List.append_nil]
    show t.node.stage j = _ ∧ _
    rw [hstage, Function.update_of_ne hne]
    exact hs.outside j (Nat.le_trans hnext hj)
  · intro j
    rw [Step.acts_append, hacts]
    show Passage j (t.node.stage j) _
    rw [hstage]
    by_cases hj : j = id
    · subst hj
      simpa using hpassage
    · simpa [hj] using hs.passage j
  · intro entry hentry
    rw [Step.entries_append, List.mem_append, t.entries_eq, hrecord] at hentry
    rcases hentry with hearlier | hnow
    · exact hs.declared entry hearlier
    · exact hdeclared entry hnow

/-- A connection that has come in and not finished comes to another stage. -/
theorem proceed (hs : Orderly s) {stage : Stage} {acts : List Effect}
    (before : s.node.stage id ≠ .finished) (hnext : t.node.nextId = s.node.nextId)
    (hstage : t.node.stage = Function.update s.node.stage id stage)
    (hrecord : t.record = acts) (habout : ∀ e ∈ acts, e.isAbout id = true)
    (hpassage : Passage id stage (s.acts id ++ acts))
    (hdeclared : ∀ entry ∈ acts.filterMap Effect.entry?,
      ∃ name, Introduction.ofBytes name = .accepted entry.2) :
    Orderly ⟨t.node, s.effects ++ t.effects⟩ := by
  have hid : id < t.node.nextId := hnext ▸ hs.lt_nextId before
  exact hs.advance (Nat.le_of_eq hnext.symm) hid hstage hrecord habout hpassage hdeclared

/-- **A turn keeps every connection on its way.** -/
theorem turn (hs : Orderly s) (h : Turn s.node t) :
    Orderly ⟨t.node, s.effects ++ t.effects⟩ := by
  cases h with
  | still standing record =>
    have hnext : t.node.nextId = s.node.nextId := congrArg Standing.nextId standing
    have hstage : t.node.stage = s.node.stage := congrArg Standing.stage standing
    have hacts (j : ConnectionId) : t.acts j = [] := by rw [Step.acts, record]; rfl
    constructor
    · intro j hj
      rw [Step.acts_append, hacts, List.append_nil]
      show t.node.stage j = _ ∧ _
      rw [hstage]
      exact hs.outside j (hnext ▸ hj)
    · intro j
      rw [Step.acts_append, hacts, List.append_nil]
      show Passage j (t.node.stage j) _
      rw [hstage]
      exact hs.passage j
    · rw [Step.entries_append, t.entries_eq, record]
      simpa using hs.declared
  | arrive standing record =>
    have hnext : t.node.nextId = s.node.nextId + 1 := congrArg Standing.nextId standing
    refine hs.advance (hnext ▸ Nat.le_succ _) (hnext ▸ Nat.lt_succ_self _)
      (congrArg Standing.stage standing) record (by simp) ?_ (by simp)
    rw [(hs.outside _ (Nat.le_refl _)).2]
    exact .introducing
  | refuse id verdict refusal before standing record =>
    refine hs.proceed (by simp [before]) (congrArg Standing.nextId standing)
      (congrArg Standing.stage standing) record (by simp [Effect.isAbout]) ?_
      (by simp [Effect.entry?])
    rw [hs.acts_of_introducing before]
    exact .refused verdict refusal
  | register id role declared before name standing record =>
    refine hs.proceed (by simp [before]) (congrArg Standing.nextId standing)
      (congrArg Standing.stage standing) record (by simp [Effect.taking, Effect.isAbout]) ?_ ?_
    · rw [hs.acts_of_introducing before]
      exact .serving role []
    · simpa [Effect.taking, Effect.entry?] using ⟨declared, name⟩
  | handle id role payload before standing record =>
    -- The connection comes to the stage at which it was.
    have hstage : t.node.stage = Function.update s.node.stage id (.serving role) := by
      rw [← before, Function.update_eq_self]
      exact congrArg Standing.stage standing
    obtain ⟨payloads, hacts⟩ := hs.acts_of_serving before
    refine hs.proceed (by simp [before]) (congrArg Standing.nextId standing) hstage record
      (fun e he => Effect.isAbout_of_mem_serving he) ?_ (by simp [Effect.serving, Effect.entry?])
    rw [hacts, List.append_assoc, ← Effect.serving_append]
    exact .serving role (payloads ++ [payload])
  | tearDown id role reason before standing record =>
    obtain ⟨payloads, hacts⟩ := hs.acts_of_serving before
    refine hs.proceed (by simp [before]) (congrArg Standing.nextId standing)
      (congrArg Standing.stage standing) record
      (fun e he => Effect.isAbout_of_mem_leaving he) ?_ (by simp)
    rw [hacts]
    exact .gone role payloads reason

end Orderly

namespace Node

variable (localName : String) (handler : Handler) (bus : Bus)

theorem orderly_fresh : Orderly (fresh localName handler bus).idle where
  outside _ _ := ⟨rfl, rfl⟩
  passage _ := .outside
  declared _ h := by cases h

/-- **In every run every connection goes its way.** -/
theorem orderly_run (is : List Input) : Orderly ((fresh localName handler bus).run is) :=
  run_turns _ is (orderly_fresh localName handler bus) fun hs h => hs.turn h

end Node

end Overlay
