import Mathlib.Data.Finset.Card
import Overlay.Proofs.Places

namespace Overlay

/-!
# Connections side by side

Every connection is served by a task of its own. A task takes its place, announces that, leaves its
place if that is still its own, and announces that: four critical sections, and between any two of
them any other task may have its turn.

* `Phase` — how far a task has come; `Node.advance` — its next critical section;
* `Tasks.run` — any number of tasks, in the order in which they have their turns;
* `Attended` — the invariant of all turns;
* `Tasks.interleaving_safe` — what holds after every sequence of turns, and so at every moment.
-/

/-- How far a task has come. -/
inductive Phase where
  /-- It has not begun. -/
  | outside
  /-- It has taken its place. -/
  | entered
  /-- It has announced that it has. -/
  | announced
  /-- It has left its place, or found that it has lost it. -/
  | left
  /-- It has announced that, and has nothing left to do. -/
  | departed
deriving DecidableEq

namespace Phase

/-- What comes next. -/
def next : Phase → Phase
  | outside => entered
  | entered => announced
  | announced => left
  | left => departed
  | departed => departed

/-- Whether a task has taken its place and not left it. -/
def isInside : Phase → Bool
  | entered | announced => true
  | _ => false

/-- What is recorded of the next critical section. -/
def deed (id : ConnectionId) (role : Role) : Phase → List Effect
  | outside => [.entered id role]
  | entered => [.published id role.arrival]
  | announced => [.left id role]
  | left => [.published id role.departure]
  | departed => []

/-- What has been recorded of a task so far. -/
def acts (id : ConnectionId) (role : Role) : Phase → List Effect
  | outside => []
  | entered => [.entered id role]
  | announced => [.entered id role, .published id role.arrival]
  | left => [.entered id role, .published id role.arrival, .left id role]
  | departed =>
    [.entered id role, .published id role.arrival, .left id role, .published id role.departure]

variable (id : ConnectionId) (role : Role)

theorem acts_next (phase : Phase) :
    phase.next.acts id role = phase.acts id role ++ phase.deed id role := by
  cases phase <;> rfl

theorem isAbout_of_mem_deed (phase : Phase) : ∀ e ∈ phase.deed id role, e.isAbout id = true := by
  intro e he
  cases phase <;> simp only [deed, List.mem_singleton, List.not_mem_nil] at he
  all_goals
    rw [he]
    exact decide_eq_true rfl

/-- A task that has begun has taken the place of its role, and no other. -/
theorem role?_acts {phase : Phase} (h : phase ≠ outside) :
    (phase.acts id role).filterMap Effect.role? = [role] := by
  cases phase with
  | outside => exact absurd rfl h
  | _ => rfl

end Phase

namespace Node

/-- The next critical section of the task of a connection. -/
def advance (n : Node) (id : ConnectionId) (role : Role) : Phase → Step
  | .outside => n.enter id role
  | .entered => n.announce id role.arrival
  | .announced => n.leave id role
  | .left => n.announce id role.departure
  | .departed => n.idle

/-- Taking a place and tearing a connection down are made of these critical sections. -/
theorem register_and_tearDown_advance (n : Node) (id : ConnectionId) (role : Role) :
    n.register id role =
        (n.advance id role .outside).andThen (·.advance id role .entered) ∧
      n.tearDown id role = (n.finish id).andThen fun m =>
        (m.advance id role .announced).andThen (·.advance id role .left) := by
  refine ⟨rfl, ?_⟩
  unfold tearDown
  rw [Step.andThen_assoc]
  rfl

theorem record_advance (n : Node) (id : ConnectionId) (role : Role) (phase : Phase) :
    (n.advance id role phase).record = phase.deed id role := by
  cases phase with
  | outside => exact record_enter n id role
  | entered => exact record_announce n id _
  | announced => exact record_leave n id role
  | left => exact record_announce n id _
  | departed => rfl

/-- Only a task that begins takes a place: that of its role. -/
theorem latest_advance (n : Node) (id : ConnectionId) (role : Role) (phase : Phase) (p : Place) :
    (n.advance id role phase).latest p =
      if phase = .outside ∧ p = role.place then some id else none := by
  have hentries : (n.advance id role phase).entries =
      (phase.deed id role).filterMap Effect.entry? := by
    rw [Step.entries_eq, record_advance]
  cases phase with
  | outside =>
    rw [Step.latest_of_entry hentries]
    simp only [true_and]
  | _ =>
    rw [Step.latest_of_entries_nil hentries, if_neg]
    rintro ⟨hphase, -⟩
    cases hphase

/-- **Leaving a place never changes what another connection holds.** -/
theorem holder_leave_of_ne {n : Node} {id : ConnectionId} {p : Place} {c : Contact}
    (hc : n.board.roster.holder p = some c) (hne : c.id ≠ id) (role : Role) :
    (n.leave id role).node.board.roster.holder p = some c := by
  rw [holder_leave, if_neg]
  · exact hc
  · rintro ⟨-, hany⟩
    rw [hc] at hany
    exact hne (of_decide_eq_true hany)

end Node

/-! ### Turns -/

/-- Tasks under way: what they have done, and how far each has come. -/
structure Tasks where
  /-- The node, and what was done. -/
  step : Step
  /-- How far the task of each connection has come. -/
  phase : ConnectionId → Phase

namespace Tasks

/-- A task has its turn, and passes its next critical section. -/
def advance (roles : ConnectionId → Role) (t : Tasks) (id : ConnectionId) : Tasks where
  step := t.step.andThen (·.advance id (roles id) (t.phase id))
  phase := Function.update t.phase id (t.phase id).next

section Advance

variable (roles : ConnectionId → Role) (t : Tasks) (id : ConnectionId)

theorem node_advance : (t.advance roles id).step.node =
    (t.step.node.advance id (roles id) (t.phase id)).node := rfl

theorem phase_advance :
    (t.advance roles id).phase = Function.update t.phase id (t.phase id).next := rfl

/-- A task that begins is the last who took the place of its role. -/
theorem latest_advance (p : Place) : (t.advance roles id).step.latest p =
    (if t.phase id = .outside ∧ p = (roles id).place then some id else none).or
      (t.step.latest p) := by
  rw [← Node.latest_advance t.step.node]
  exact Step.latest_append t.step _ p

theorem acts_advance (j : ConnectionId) : (t.advance roles id).step.acts j =
    t.step.acts j ++ if j = id then (t.phase id).deed id (roles id) else [] := by
  have hrecord := t.step.node.record_advance id (roles id) (t.phase id)
  have habout := Phase.isAbout_of_mem_deed id (roles id) (t.phase id)
  rw [← Step.acts_of_record hrecord habout]
  exact Step.acts_append t.step _ j

end Advance

/-- Tasks have their turns in the given order, beginning at the node `n`. A task that is not named
does not begin, and one that is named more than four times has nothing left to do. -/
def run (roles : ConnectionId → Role) (n : Node) (schedule : List ConnectionId) : Tasks :=
  schedule.foldl (advance roles) ⟨n.idle, fun _ => .outside⟩

end Tasks

/-- Places are held by those who took them last, and every task has done what it had to. -/
structure Attended (roles : ConnectionId → Role) (t : Tasks) : Prop where
  /-- A place is held by the task that took it last, until it leaves. -/
  occupied : ∀ p, (t.step.node.board.roster.holder p).map (·.id) =
    (t.step.latest p).filter fun id => (t.phase id).isInside
  /-- Whoever holds a place does so in its own role. -/
  named : ∀ p c, t.step.node.board.roster.holder p = some c →
    (roles c.id).place = p ∧ c.name = (roles c.id).name
  /-- What a task has done is what its phase says, in that order. -/
  acts : ∀ id, t.step.acts id = (t.phase id).acts id (roles id)

namespace Attended

variable {roles : ConnectionId → Role} {t : Tasks}

/-- Two tests that agree on who took a place last agree. -/
theorem filter_congr {latest : Option ConnectionId} {f g : ConnectionId → Bool}
    (h : ∀ id, latest = some id → f id = g id) : latest.filter f = latest.filter g := by
  cases latest with
  | none => rfl
  | some id => simp only [Option.filter_some, h id rfl]

/-- A task that has not begun has taken no place. -/
theorem latest_ne_of_outside (ht : Attended roles t) {id : ConnectionId}
    (h : t.phase id = .outside) (p : Place) : t.step.latest p ≠ some id := by
  refine Placed.latest_ne_of_rolesOf_nil ?_ p
  rw [Step.rolesOf, ht.acts, h]
  rfl

/-- A task takes the place of its own role. -/
theorem place_of_latest (ht : Attended roles t) {id : ConnectionId} {p : Place}
    (h : t.step.latest p = some id) : (roles id).place = p := by
  have hbegun : t.phase id ≠ .outside := fun hout => ht.latest_ne_of_outside hout p h
  obtain ⟨role, hrole, hplace⟩ := Step.exists_role_of_latest h
  rw [Step.rolesOf, ht.acts, Phase.role?_acts _ _ hbegun, List.mem_singleton] at hrole
  rw [← hrole]
  exact hplace

/-- Only clients take the places of clients. -/
theorem rank_of_latest_client (ht : Attended roles t) {id : ConnectionId} {name : String}
    (h : t.step.latest (.client name) = some id) : (roles id).rank = .api := by
  have hplace := ht.place_of_latest h
  unfold Role.place at hplace
  cases hrank : (roles id).rank with
  | api => rfl
  | parent =>
    rw [hrank] at hplace
    cases hplace

/-- The holder of a place is the one who took it last, and has not left it. -/
theorem holds_iff (ht : Attended roles t) (p : Place) (id : ConnectionId) :
    (∃ c, t.step.node.board.roster.holder p = some c ∧ c.id = id) ↔
      t.step.latest p = some id ∧ (t.phase id).isInside = true := by
  rw [← Option.map_eq_some_iff, ht.occupied, Option.filter_eq_some_iff]

/-- What a turn records goes behind what was recorded of the task before. -/
theorem acts_advance (ht : Attended roles t) (id j : ConnectionId) :
    (t.advance roles id).step.acts j =
      ((t.advance roles id).phase j).acts j (roles j) := by
  rw [Tasks.acts_advance, Tasks.phase_advance, ht.acts]
  by_cases hj : j = id
  · subst hj
    rw [if_pos rfl, Function.update_self, Phase.acts_next]
  · rw [if_neg hj, List.append_nil, Function.update_of_ne hj]

/-- A turn in which no place is taken or left. -/
theorem keep (ht : Attended roles t) {id : ConnectionId} (hbegun : t.phase id ≠ .outside)
    (hinside : (t.phase id).next.isInside = (t.phase id).isInside)
    (hroster : (t.advance roles id).step.node.board.roster = t.step.node.board.roster) :
    Attended roles (t.advance roles id) := by
  refine ⟨fun p => ?_, fun p c hc => ?_, ht.acts_advance id⟩
  -- The task has moved on, but is inside exactly if it was.
  · rw [hroster, Tasks.latest_advance, if_neg (fun h => hbegun h.1), Option.none_or, ht.occupied,
      Tasks.phase_advance]
    refine filter_congr fun j _ => ?_
    by_cases hj : j = id
    · rw [hj, Function.update_self, hinside]
    · rw [Function.update_of_ne hj]
  · rw [hroster] at hc
    exact ht.named p c hc

/-- A task takes its place, whoever held it before. -/
theorem enter (ht : Attended roles t) {id : ConnectionId} (before : t.phase id = .outside) :
    Attended roles (t.advance roles id) := by
  have hholder (p : Place) : (t.advance roles id).step.node.board.roster.holder p =
      if p = (roles id).place then
        some ⟨id, (roles id).name, t.step.node.address id, id⟩
      else t.step.node.board.roster.holder p := by
    rw [Tasks.node_advance, before]
    exact Node.holder_enter ..
  refine ⟨fun p => ?_, fun p c hc => ?_, ht.acts_advance id⟩
  · rw [hholder, Tasks.latest_advance, Tasks.phase_advance]
    by_cases hp : p = (roles id).place
    -- Its own place is held by the newcomer now.
    · rw [if_pos hp, if_pos ⟨before, hp⟩, Option.some_or, Option.filter_some,
        Function.update_self, before]
      rfl
    -- Any other is held as before, by those who began before.
    · rw [if_neg hp, if_neg (fun h => hp h.2), Option.none_or, ht.occupied]
      refine filter_congr fun j hj => ?_
      have hne : j ≠ id := by
        rintro rfl
        exact ht.latest_ne_of_outside before p hj
      rw [Function.update_of_ne hne]
  · rw [hholder] at hc
    split at hc
    case isTrue hp =>
      cases hc
      exact ⟨hp.symm, rfl⟩
    case isFalse => exact ht.named p c hc

/-- A task leaves its place, if that is still its own. -/
theorem leave (ht : Attended roles t) {id : ConnectionId} (before : t.phase id = .announced) :
    Attended roles (t.advance roles id) := by
  have hnode : (t.advance roles id).step.node = (t.step.node.leave id (roles id)).node := by
    rw [Tasks.node_advance, before]
    rfl
  have hbegun : t.phase id ≠ .outside := by simp [before]
  refine ⟨fun p => ?_, fun p c hc => ?_, ht.acts_advance id⟩
  · rw [hnode, Tasks.latest_advance, if_neg (fun h => hbegun h.1), Option.none_or,
      Tasks.phase_advance]
    by_cases hmine : t.step.latest p = some id
    -- Nobody came after it: it still holds the place, and gives it up.
    · have hinside : (t.phase id).isInside = true := by rw [before]; rfl
      obtain ⟨c, hc, hid⟩ := (ht.holds_iff p id).2 ⟨hmine, hinside⟩
      have hany : (t.step.node.board.roster.holder p).any (·.id = id) = true := by
        rw [hc]
        exact decide_eq_true hid
      rw [Node.holder_leave, if_pos ⟨(ht.place_of_latest hmine).symm, hany⟩, hmine,
        Option.filter_some, Function.update_self, before]
      rfl
    -- Another task took the place, so what that holds stays as it is.
    · have hothers : (t.step.node.leave id (roles id)).node.board.roster.holder p =
          t.step.node.board.roster.holder p := by
        cases hc : t.step.node.board.roster.holder p with
        | none =>
          rw [Node.holder_leave, hc]
          split <;> rfl
        | some c =>
          refine Node.holder_leave_of_ne hc ?_ _
          rintro rfl
          exact hmine ((ht.holds_iff p c.id).1 ⟨c, hc, rfl⟩).1
      rw [hothers, ht.occupied]
      refine filter_congr fun j hj => ?_
      have hne : j ≠ id := by
        rintro rfl
        exact hmine hj
      rw [Function.update_of_ne hne]
  · rw [hnode, Node.holder_leave] at hc
    split at hc
    case isTrue => cases hc
    case isFalse => exact ht.named p c hc

/-- **A turn of any task** leaves places with those who took them last. -/
theorem advance (ht : Attended roles t) (id : ConnectionId) :
    Attended roles (t.advance roles id) := by
  cases hphase : t.phase id with
  | outside => exact ht.enter hphase
  | announced => exact ht.leave hphase
  -- Announcements change no roster.
  | entered | left | departed =>
    refine ht.keep (by simp [hphase]) (by rw [hphase]; rfl) ?_
    rw [Tasks.node_advance, hphase]
    rfl

/-- **Turns in any order** leave places with those who took them last. -/
theorem run {n : Node} (hempty : n.board.roster = {}) (schedule : List ConnectionId) :
    Attended roles (Tasks.run roles n schedule) := by
  have hbegin : Attended roles ⟨n.idle, fun _ => .outside⟩ := by
    have hnobody (p : Place) : n.idle.node.board.roster.holder p = none := by
      rw [Node.node_idle, hempty]
      cases p <;> rfl
    refine ⟨fun p => ?_, fun p c hc => ?_, fun _ => rfl⟩
    · rw [hnobody]
      rfl
    · rw [hnobody] at hc
      cases hc
  unfold Tasks.run
  generalize (⟨n.idle, fun _ => .outside⟩ : Tasks) = t at hbegin
  induction schedule generalizing t with
  | nil => exact hbegin
  | cons id schedule ih => exact ih _ (hbegin.advance id)

end Attended

/-! ### What can be seen at every moment -/

/-- What holds of tasks at every moment, whatever the order of their turns. -/
structure InterleavingSafe (roles : ConnectionId → Role) (t : Tasks) : Prop where
  /-- Whoever holds a place has entered and not left, and does so in its own role. -/
  inside : ∀ p c, t.step.node.board.roster.holder p = some c →
    (t.phase c.id).isInside = true ∧ (roles c.id).place = p ∧ c.name = (roles c.id).name
  /-- The holder of a place is the task that took it last, if that has not left. -/
  latest : ∀ p id, (∃ c, t.step.node.board.roster.holder p = some c ∧ c.id = id) ↔
    t.step.latest p = some id ∧ (t.phase id).isInside = true
  /-- A task that leaves changes no place that another holds. -/
  apart : ∀ id p c, t.phase id = .announced → t.step.node.board.roster.holder p = some c →
    c.id ≠ id → (t.advance roles id).step.node.board.roster.holder p = some c
  /-- Of each task is recorded what its phase says, in that order: it announces its arrival after
  it has taken its place, and its departure after it has left it. -/
  order : ∀ id, t.step.acts id = (t.phase id).acts id (roles id)
  /-- When a number of clients of different names have taken their places, and no other client has
  begun, then their names are those of all clients. Whoever is the parent does not matter. -/
  names : ∀ ids : Finset ConnectionId,
    (∀ id ∈ ids, (t.phase id).isInside = true ∧ (roles id).rank = .api) →
    (∀ id, id ∉ ids → (roles id).rank = .api → t.phase id = .outside) →
    (∀ id ∈ ids, ∀ j ∈ ids, (roles id).name = (roles j).name → id = j) →
      (∀ name, name ∈ t.step.node.board.roster.clientNames ↔ ∃ id ∈ ids, (roles id).name = name) ∧
        t.step.node.board.roster.clientCount = ids.card
  /-- When everybody has left, or not begun, nobody holds a place. -/
  deserted : (∀ id, (t.phase id).isInside = false) → t.step.node.board.roster = {}
  /-- A task that has departed has announced its arrival and its departure, once each. -/
  events : ∀ id, t.phase id = .departed →
    t.step.eventsOf id = [(roles id).arrival, (roles id).departure]

namespace Attended

variable {roles : ConnectionId → Role} {t : Tasks}

/-- A task that has begun has taken its place, so somebody took that place last. -/
theorem exists_latest (ht : Attended roles t) {id : ConnectionId} (h : t.phase id ≠ .outside) :
    ∃ j, t.step.latest (roles id).place = some j := by
  have hentry : (id, roles id) ∈ t.step.entries := by
    rw [← Step.mem_rolesOf, Step.rolesOf, ht.acts, Phase.role?_acts _ _ h]
    exact List.mem_singleton_self _
  exact Step.exists_latest hentry

/-- The names of clients are those under which a task holds a place. -/
theorem mem_clientNames_iff {r : Roster} {name : String} :
    name ∈ r.clientNames ↔ ∃ c, r.holder (.client name) = some c := by
  unfold Roster.clientNames
  rw [Std.ExtTreeMap.mem_keys, Std.ExtTreeMap.mem_iff_isSome_getElem?, Option.isSome_iff_exists]
  rfl

/-- Clients of different names, and no others, are all listed. -/
theorem names (ht : Attended roles t) {ids : Finset ConnectionId}
    (inside : ∀ id ∈ ids, (t.phase id).isInside = true ∧ (roles id).rank = .api)
    (outside : ∀ id, id ∉ ids → (roles id).rank = .api → t.phase id = .outside)
    (distinct : ∀ id ∈ ids, ∀ j ∈ ids, (roles id).name = (roles j).name → id = j) :
    (∀ name, name ∈ t.step.node.board.roster.clientNames ↔ ∃ id ∈ ids, (roles id).name = name) ∧
      t.step.node.board.roster.clientCount = ids.card := by
  have hplace (id : ConnectionId) (hid : id ∈ ids) :
      (roles id).place = .client (roles id).name := by
    unfold Role.place
    rw [(inside id hid).2]
  -- Whoever took the place of a client last is one of them.
  have hmember (id : ConnectionId) (name : String)
      (hlatest : t.step.latest (.client name) = some id) : id ∈ ids := by
    by_contra hid
    have hclient := ht.rank_of_latest_client hlatest
    exact ht.latest_ne_of_outside (outside id hid hclient) _ hlatest
  have hnames (name : String) : name ∈ t.step.node.board.roster.clientNames ↔
      ∃ id ∈ ids, (roles id).name = name := by
    rw [mem_clientNames_iff]
    constructor
    · rintro ⟨c, hc⟩
      obtain ⟨hlatest, -⟩ := (ht.holds_iff _ c.id).1 ⟨c, hc, rfl⟩
      have hid := hmember c.id _ hlatest
      have hp := ht.place_of_latest hlatest
      rw [hplace c.id hid, Place.client.injEq] at hp
      exact ⟨c.id, hid, hp⟩
    · rintro ⟨id, hid, rfl⟩
      have hbegun : t.phase id ≠ .outside := by
        intro hout
        have hinside := (inside id hid).1
        rw [hout] at hinside
        cases hinside
      obtain ⟨j, hlatest⟩ := ht.exists_latest hbegun
      rw [hplace id hid] at hlatest
      -- The last who took the place goes by the same name.
      have hj := hmember j _ hlatest
      have hp := ht.place_of_latest hlatest
      rw [hplace j hj, Place.client.injEq] at hp
      obtain ⟨c, hc, -⟩ := (ht.holds_iff _ j).2 ⟨hlatest, (inside j hj).1⟩
      exact ⟨c, hc⟩
  refine ⟨hnames, ?_⟩
  have hset : t.step.node.board.roster.clientNames.toFinset =
      ids.image fun id => (roles id).name := by
    ext name
    rw [List.mem_toFinset, hnames, Finset.mem_image]
  have hcard : (ids.image fun id => (roles id).name).card = ids.card :=
    Finset.card_image_of_injOn fun id hid j hj heq => distinct id hid j hj heq
  have hnodup : t.step.node.board.roster.clientNames.Nodup := Std.ExtTreeMap.nodup_keys
  rw [← hcard, ← hset, List.toFinset_card_of_nodup hnodup]
  exact Std.ExtTreeMap.length_keys.symm

/-- When everybody has left, nobody holds a place. -/
theorem deserted (ht : Attended roles t) (h : ∀ id, (t.phase id).isInside = false) :
    t.step.node.board.roster = {} := by
  have hnobody (p : Place) : t.step.node.board.roster.holder p = none := by
    cases hc : t.step.node.board.roster.holder p with
    | none => rfl
    | some c =>
      have hinside := ((ht.holds_iff p c.id).1 ⟨c, hc, rfl⟩).2
      rw [h] at hinside
      cases hinside
  refine Roster.ext_lookup (hnobody .parent) fun name => ?_
  rw [Std.ExtTreeMap.getElem?_empty]
  exact hnobody (.client name)

end Attended

/-- **Critical sections may be interleaved in any way.** Let tasks of any number of connections have
their turns in any order, from a node whose places are all empty. Then at every moment each place is
held by the task that took it last, if that has not left, and by nobody otherwise; who leaves
changes no place that another holds; every task announces its arrival after it has taken its place,
and its departure after it has left it; clients of different names that have all taken their places
are all listed; and when everybody has left, every place is empty again. -/
theorem Tasks.interleaving_safe (roles : ConnectionId → Role) {n : Node}
    (hempty : n.board.roster = {}) (schedule : List ConnectionId) :
    InterleavingSafe roles (run roles n schedule) := by
  have ht : Attended roles (run roles n schedule) := .run hempty schedule
  generalize run roles n schedule = t at ht
  constructor
  case inside =>
    intro p c hc
    obtain ⟨-, hinside⟩ := (ht.holds_iff p c.id).1 ⟨c, hc, rfl⟩
    exact ⟨hinside, ht.named p c hc⟩
  case latest => exact ht.holds_iff
  case apart =>
    intro id p c hphase hc hne
    show (t.step.node.advance id (roles id) (t.phase id)).node.board.roster.holder p = some c
    rw [hphase]
    exact Node.holder_leave_of_ne hc hne (roles id)
  case order => exact ht.acts
  case names => exact fun ids inside outside distinct => ht.names inside outside distinct
  case deserted => exact ht.deserted
  case events =>
    intro id hdeparted
    rw [Step.eventsOf, ht.acts, hdeparted]
    rfl

/-- Two clients claim one name. The first has left when the second has only entered, and the second
still holds the name. -/
theorem Tasks.second_client_stays :
    let roles : ConnectionId → Role := fun _ => ⟨.api, "api-cli"⟩
    let t := run roles (.fresh "root" .noting .fresh) [1, 1, 2, 1, 1]
    (Node.fresh "root" .noting .fresh).board.roster = {} ∧
      (∃ c, t.step.node.board.roster.holder (.client "api-cli") = some c ∧ c.id = 2) ∧
        t.step.eventsOf 1 = [(roles 1).arrival, (roles 1).departure] := by
  intro roles t
  have hempty : (Node.fresh "root" .noting .fresh).board.roster = {} := rfl
  have hsafe := interleaving_safe roles hempty [1, 1, 2, 1, 1]
  have hlatest : t.step.latest (.client "api-cli") = some 2 := by decide +kernel
  exact ⟨hempty, (hsafe.latest _ 2).2 ⟨hlatest, rfl⟩, hsafe.events 1 rfl⟩

end Overlay
