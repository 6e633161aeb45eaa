import Overlay.Proofs.Comings

namespace Overlay

/-!
# What is announced of a run

Who is announced follows from what came to the node, and from nothing that the node says about
itself: a connection whose peer declares an accepted name is announced once, and once more exactly
if its stream has ended, an oversized frame was declared or the handler broke down on it. So the
events count who is served.

* `EventsBalanced` — the events of a run, against the inputs of the run;
* `Node.events_balance` — in every run.
-/

open Lifecycle

/-- The events of a run `s`, in which the inputs `is` came to the node `n`, tell who was served and
who is served. -/
structure EventsBalanced (n : Node) (is : List Node.Input) (s : Step) : Prop where
  /-- A subscriber who stays gets all events, in order. -/
  delivered : s.node.bus = .channel ⟨s.events, true⟩
  /-- Every event is one of a connection that has joined. -/
  owned : ∀ e ∈ s.events, ∃ id role, n.Joins is id role ∧ e ∈ s.eventsOf id
  /-- The events of a connection are announced in the order that they have in its own list. -/
  ordered : ∀ id, (s.eventsOf id).Sublist s.events
  /-- The connections that take places are those whose peers declare accepted names. -/
  entered : ∀ id role, (id, role) ∈ s.entries ↔ n.Joins is id role
  /-- A connection that has joined took its place once. It has announced its arrival, and its
  departure exactly if it does not serve any more. -/
  accepted : ∀ id role, n.Joins is id role → s.rolesOf id = [role] ∧
    s.eventsOf id = if s.node.serves id then [role.arrival] else [role.arrival, role.departure]
  /-- It serves until it parts, whether it has been replaced or not. -/
  ended : ∀ id role, n.Joins is id role → (s.node.serves id = false ↔ n.Parts is id)
  /-- No other connection has announced anything: -/
  others : ∀ id, (∀ role, ¬ n.Joins is id role) → s.eventsOf id = []
  /-- neither one that was declined or failed to introduce itself, -/
  refused : ∀ id verdict, .logged (some id) verdict ∈ s.effects → verdict.isRefusal = true →
    s.eventsOf id = []
  /-- nor one that has yet to introduce itself. -/
  pending : ∀ id, s.node.stage id = .introducing → s.eventsOf id = []
  /-- At no time have more peers left in a role than have arrived. -/
  early : ∀ (role : Role) (l : List Event), l <+: s.events →
    l.count role.departure ≤ l.count role.arrival
  /-- Those who have arrived in a role and not left are those who serve in it. -/
  balance : ∀ role : Role, s.events.count role.arrival =
    s.events.count role.departure + (s.node.serving role).card
  /-- They are counted without omission, whether they have been replaced or not. -/
  counted : ∀ role id, id ∈ s.node.serving role ↔ s.node.stage id = .serving role
  /-- These are the connections that have joined in the role and not parted. -/
  serving : ∀ role id, id ∈ s.node.serving role ↔ n.Joins is id role ∧ ¬ n.Parts is id

namespace Node

variable (localName : String) (handler : Handler)

/-- **Events balance.** In any run with a subscriber who stays, whatever came from any number of
peers in whatever order, and however often the handler broke down: each connection whose peer
declared an accepted name announces its arrival once and, exactly if it has ended, its departure
once, and nobody announces anything else. -/
theorem events_balance {is : List Input} (stays : .detachEvents ∉ is) :
    EventsBalanced (fresh localName handler .fresh) is
      ((fresh localName handler .fresh).run is) := by
  have hs := balanced_run localName handler .fresh is
  have hbus := publishes_run (fresh localName handler .fresh) stays
  have hentered (id : ConnectionId) (role : Role) :
      (id, role) ∈ ((fresh localName handler .fresh).run is).entries ↔
        (fresh localName handler .fresh).Joins is id role := entered_iff_joins
  have hended (id : ConnectionId) (role : Role)
      (joins : (fresh localName handler .fresh).Joins is id role) :
      ((fresh localName handler .fresh).run is).node.serves id = false ↔
        (fresh localName handler .fresh).Parts is id := ended_iff_parts joins
  generalize (fresh localName handler .fresh).run is = s at hs hbus hentered hended
  have hothers (id : ConnectionId)
      (hnone : ∀ role, ¬ (fresh localName handler .fresh).Joins is id role) :
      s.eventsOf id = [] := by
    refine (hs.orderly.passage id).events_of_no_role (List.eq_nil_iff_forall_not_mem.2 ?_)
    exact fun role hrole => hnone role ((hentered id role).1 (Step.mem_rolesOf.1 hrole))
  constructor
  case delivered =>
    rw [hbus]
    exact Bus.publishEach_channel [] s.events
  case owned =>
    intro e he
    obtain ⟨id, hid⟩ := Step.exists_eventsOf he
    by_contra hnobody
    rw [hothers id fun role joins => hnobody ⟨id, role, joins, hid⟩] at hid
    cases hid
  case ordered => exact s.eventsOf_sublist
  case entered => exact hentered
  case accepted =>
    intro id role joins
    have hrole : role ∈ s.rolesOf id := Step.mem_rolesOf.2 ((hentered id role).2 joins)
    have hpassage := hs.orderly.passage id
    exact ⟨hpassage.roles_of_role hrole, hpassage.events_of_role hrole⟩
  case ended => exact hended
  case others => exact hothers
  case refused =>
    intro id verdict hmem refusal
    have hpassage := hs.orderly.passage id
    exact hpassage.events_of_no_role
      (hpassage.no_role_of_refusal refusal (Step.mem_acts_of_refusal hmem refusal))
  case pending =>
    intro id hstage
    exact (hs.orderly.passage id).events_of_no_role (hs.orderly.rolesOf_of_introducing hstage)
  case early => exact hs.early
  case balance => exact hs.balance
  case counted => exact fun role id => hs.orderly.mem_serving
  case serving =>
    intro role id
    rw [hs.orderly.mem_serving]
    constructor
    · intro hstage
      have hroles := hs.orderly.rolesOf_of_serving hstage
      have joins := (hentered id role).1 (Step.mem_rolesOf.1 (by simp [hroles]))
      exact ⟨joins, fun parts => by simpa [serves, hstage] using (hended id role joins).2 parts⟩
    · rintro ⟨joins, hstays⟩
      have hrole := Step.mem_rolesOf.2 ((hentered id role).2 joins)
      cases hstage : s.node.stage id with
      | serving r =>
        rw [hs.orderly.rolesOf_of_serving hstage, List.mem_singleton] at hrole
        rw [hrole]
      | introducing | finished =>
        exact absurd ((hended id role joins).1 (by simp [serves, hstage])) hstays

/-- A client is replaced by a second of its name, on whose first frame the handler breaks down.
Three events are announced: two arrivals, and the departure of the second. The first is served
still, and has no place. -/
theorem events_balance_after_replacement :
    let is : List Input :=
      [.connect "10.0.0.7:4001" none, .connect "10.0.0.8:4002" none,
        .receive 1 (Frame.wire "api-cli".toUTF8), .receive 2 (Frame.wire "api-cli".toUTF8),
        .receive 2 (Frame.wire "boom".toUTF8)]
    let n := fresh "root" (.fragile "boom") .fresh
    let s := n.run is
    let client : Role := ⟨.api, "api-cli"⟩
    .detachEvents ∉ is ∧ n.Joins is 1 client ∧ n.Joins is 2 client ∧ n.Parts is 2 ∧
      EventsBalanced n is s ∧
      s.eventsOf 1 = [⟨.apiConnected, "api-cli".toUTF8, none⟩] ∧
      s.eventsOf 2 = [⟨.apiConnected, "api-cli".toUTF8, none⟩,
        ⟨.apiDisconnected, "api-cli".toUTF8, none⟩] ∧
      s.events = [⟨.apiConnected, "api-cli".toUTF8, none⟩,
        ⟨.apiConnected, "api-cli".toUTF8, none⟩, ⟨.apiDisconnected, "api-cli".toUTF8, none⟩] ∧
      s.node.serves 1 = true ∧ s.node.board.roster.client? "api-cli" = none := by
  intro is n s client
  have stays : .detachEvents ∉ is := by simp [is]
  have hbalanced : EventsBalanced n is s := events_balance "root" (.fragile "boom") stays
  have hjoins : n.Joins is 1 client := by
    refine ⟨is.tail, [], ⟨[], "10.0.0.7:4001", rfl, rfl, rfl, by decide⟩, by decide, ?_⟩
    exact ⟨"api-cli".toUTF8, by decide +kernel, by decide +kernel⟩
  have hjoins' : n.Joins is 2 client := by
    refine ⟨is.tail.tail, [], ⟨[.connect "10.0.0.7:4001" none], "10.0.0.8:4002", rfl,
      by decide +kernel, by decide +kernel, by decide⟩, by decide, ?_⟩
    exact ⟨"api-cli".toUTF8, by decide +kernel, by decide +kernel⟩
  have hparts : n.Parts is 2 := by
    refine ⟨is.tail.tail, ⟨[.connect "10.0.0.7:4001" none], "10.0.0.8:4002", rfl,
      by decide +kernel, by decide +kernel, by decide⟩, .inr (.inr ?_)⟩
    exact ⟨0, ⟨true, true, "boom".toUTF8⟩, by decide +kernel, by decide +kernel⟩
  have hserves : s.node.serves 1 = true := by decide +kernel
  have hended : s.node.serves 2 = false := (hbalanced.ended 2 client hjoins').2 hparts
  have hevents := (hbalanced.accepted 1 client hjoins).2
  have hevents' := (hbalanced.accepted 2 client hjoins').2
  rw [hserves] at hevents
  rw [hended] at hevents'
  exact ⟨stays, hjoins, hjoins', hparts, hbalanced, hevents, hevents', by decide +kernel, hserves,
    by decide +kernel⟩

end Node

end Overlay
