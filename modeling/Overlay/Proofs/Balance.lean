import Mathlib.Data.Finset.Card
import Overlay.Proofs.Passage

namespace Overlay

/-!
# Events balance

A subscriber to events can tell from them alone how many peers are served. Events carry no
connection, and peers may share a role and a name; so what balances is their number.

* `Node.publishes_run` — the bus gets the events of a run, all of them and in order;
* `Passage.events_of_role` — the events of one connection: an arrival, and a departure at the end;
* `Node.serving` — the connections that serve in a role;
* `Balanced` — the invariant of all turns: arrivals are departures and connections that serve;
* `Node.balanced_run` — in every run.
-/

open Lifecycle

/-! ### The bus -/

/-- Publish several events in turn. -/
def Bus.publishEach (bus : Bus) (events : List Event) : Bus :=
  events.foldl (fun bus e => (bus.publish e).1) bus

/-- A subscriber who stays gets all that is published, in order. -/
theorem Bus.publishEach_channel (queued events : List Event) :
    (Bus.channel ⟨queued, true⟩).publishEach events = .channel ⟨queued ++ events, true⟩ := by
  induction events generalizing queued with
  | nil => simp [publishEach]
  | cons e events ih =>
    have hpublish : ((Bus.channel ⟨queued, true⟩).publish e).1 =
        .channel ⟨queued ++ [e], true⟩ := rfl
    show (((Bus.channel ⟨queued, true⟩).publish e).1).publishEach events = _
    rw [hpublish, ih, List.append_assoc]
    rfl

theorem Step.events_append (s t : Step) :
    (⟨t.node, s.effects ++ t.effects⟩ : Step).events = s.events ++ t.events := by
  simp [events]

namespace Node

/-- The bus changes by what a move announces, unless the subscriber goes away. -/
theorem Move.bus {cause : Cause} {n : Node} {s : Step} (h : Move cause n s)
    (stays : cause ≠ .subscriber) : s.node.bus = n.bus.publishEach s.events := by
  have hevents := s.events_eq
  cases h with
  | quiet view record | stop view record | arrive _ view record | retain _ view record
  | refuse _ _ _ view record | handle _ _ view record =>
    rw [record] at hevents
    rw [hevents]
    exact congrArg View.bus view
  | register _ _ view record =>
    rw [record] at hevents
    rw [hevents]
    exact (congrArg View.bus view).trans (congrArg View.bus (view_register ..))
  | tearDown _ _ view record =>
    rw [record, Effect.event?_leaving] at hevents
    rw [hevents]
    exact (congrArg View.bus view).trans (congrArg View.bus (view_tearDown ..))
  | detach => exact absurd rfl stays

/-- **The bus gets the events of a run.** -/
theorem publishes_run (n : Node) {is : List Input} (stays : .detachEvents ∉ is) :
    (n.run is).node.bus = n.bus.publishEach (n.run is).events := by
  have hmoves : Moves (· ≠ .subscriber) n (n.run is) := by
    refine run_moves n is (by simp) fun m i hi => ?_
    cases i <;> simp_all [cause]
  refine hmoves.induct (P := fun s => s.node.bus = n.bus.publishEach s.events) rfl ?_
  intro cause s t hs ok hmove
  rw [Step.events_append, hmove.bus ok, hs]
  simp [Bus.publishEach]

end Node

/-! ### The events of one connection -/

namespace Passage

variable {id : ConnectionId} {stage : Stage} {acts : List Effect}

/-- A connection that has taken a place has announced its arrival; and its departure, exactly if
it does not serve any more. -/
theorem events_of_role (h : Passage id stage acts) {role : Role}
    (hrole : role ∈ acts.filterMap Effect.role?) :
    acts.filterMap Effect.event? =
      if stage.isServing then [role.arrival] else [role.arrival, role.departure] := by
  cases h with
  | outside | introducing | refused => cases hrole
  | serving r payloads =>
    obtain rfl : role = r := by simpa using hrole
    simp
  | gone r payloads reason =>
    obtain rfl : role = r := by simpa using hrole
    simp

/-- A connection takes no second place. -/
theorem roles_of_role (h : Passage id stage acts) {role : Role}
    (hrole : role ∈ acts.filterMap Effect.role?) : acts.filterMap Effect.role? = [role] := by
  cases h with
  | outside | introducing | refused => cases hrole
  | serving r payloads =>
    obtain rfl : role = r := by simpa using hrole
    simp
  | gone r payloads reason =>
    obtain rfl : role = r := by simpa using hrole
    simp

/-- A connection that has taken no place has announced nothing. -/
theorem events_of_no_role (h : Passage id stage acts) (hrole : acts.filterMap Effect.role? = []) :
    acts.filterMap Effect.event? = [] := by
  cases h with
  | outside | introducing | refused => rfl
  | serving r payloads => simp at hrole
  | gone r payloads reason => simp at hrole

/-- A connection that was refused has taken no place. -/
theorem no_role_of_refusal (h : Passage id stage acts) {verdict : Log.Entry}
    (refusal : verdict.isRefusal = true) (hmem : .logged (some id) verdict ∈ acts) :
    acts.filterMap Effect.role? = [] := by
  cases h with
  | outside | introducing | refused => rfl
  | serving r payloads => simp [Effect.taking, Effect.serving] at hmem
  | gone r payloads reason =>
    rcases reason with - | reason
    · simp [Effect.taking, Effect.serving, Effect.leaving, Effect.farewell] at hmem
    -- The verdict on a connection that had a place is no refusal.
    · have hparting : verdict = Node.parting r reason := by
        simpa [Effect.taking, Effect.serving, Effect.leaving, Effect.farewell] using hmem
      rw [hparting] at refusal
      cases reason <;> cases refusal

end Passage

/-! ### Counting -/

namespace Role

/-- An event tells roles apart if its transition tells ranks apart. -/
theorem event_inj {transition : Role → Transition}
    (h : ∀ r r', transition r = transition r' → r.rank = r'.rank) {r r' : Role} :
    (⟨transition r, r.name.toUTF8, none⟩ : Event) = ⟨transition r', r'.name.toUTF8, none⟩ ↔
      r = r' := by
  refine ⟨fun heq => ?_, fun heq => heq ▸ rfl⟩
  rw [Event.mk.injEq] at heq
  have hrank : r.rank = r'.rank := h r r' heq.1
  have hname : r.name = r'.name := String.toByteArray_inj.1 heq.2.1
  cases r
  cases r'
  exact Role.mk.injEq .. ▸ ⟨hrank, hname⟩

theorem arrival_inj {r r' : Role} : r.arrival = r'.arrival ↔ r = r' := by
  refine event_inj fun ⟨rank, _⟩ ⟨rank', _⟩ h => ?_
  cases rank <;> cases rank' <;> first | rfl | cases h

theorem departure_inj {r r' : Role} : r.departure = r'.departure ↔ r = r' := by
  refine event_inj fun ⟨rank, _⟩ ⟨rank', _⟩ h => ?_
  cases rank <;> cases rank' <;> first | rfl | cases h

/-- No arrival is a departure. -/
theorem arrival_ne_departure (r r' : Role) : r.arrival ≠ r'.departure := by
  intro h
  obtain ⟨rank, name⟩ := r
  obtain ⟨rank', name'⟩ := r'
  cases rank <;> cases rank' <;> cases congrArg Event.transition h

end Role

namespace Node

/-- The connections that serve in a role. -/
def serving (n : Node) (role : Role) : Finset ConnectionId :=
  (Finset.range n.nextId).filter (n.stage · = .serving role)

end Node

namespace Orderly

variable {s t : Step}

/-- Whoever serves has come in, so nobody is left out. -/
theorem mem_serving (hs : Orderly s) {id : ConnectionId} {role : Role} :
    id ∈ s.node.serving role ↔ s.node.stage id = .serving role := by
  unfold Node.serving
  rw [Finset.mem_filter, Finset.mem_range]
  exact ⟨fun h => h.2, fun h => ⟨hs.lt_nextId (by simp [h]), h⟩⟩

/-- A turn of a connection that does not serve in a role, before or after, leaves those who do. -/
theorem serving_of_update (hs : Orderly s) (ht : Orderly t) {id : ConnectionId} {stage : Stage}
    {role : Role} (hstage : t.node.stage = Function.update s.node.stage id stage)
    (before : s.node.stage id ≠ .serving role) (after : stage ≠ .serving role) :
    t.node.serving role = s.node.serving role := by
  ext j
  rw [hs.mem_serving, ht.mem_serving, hstage]
  by_cases hj : j = id
  · subst hj
    simp [before, after]
  · rw [Function.update_of_ne hj]

/-- A connection that begins to serve in a role is one more. -/
theorem card_serving_of_update (hs : Orderly s) (ht : Orderly t) {id : ConnectionId} {role : Role}
    (hstage : t.node.stage = Function.update s.node.stage id (.serving role))
    (before : s.node.stage id ≠ .serving role) :
    (t.node.serving role).card = (s.node.serving role).card + 1 := by
  have hinsert : t.node.serving role = insert id (s.node.serving role) := by
    ext j
    rw [Finset.mem_insert, hs.mem_serving, ht.mem_serving, hstage]
    by_cases hj : j = id
    · subst hj
      simp
    · simp [hj]
  have hnot : id ∉ s.node.serving role := fun h => before (hs.mem_serving.1 h)
  rw [hinsert, Finset.card_insert_of_notMem hnot]

end Orderly

/-- Arrivals are departures and connections that serve. -/
structure Balanced (s : Step) : Prop where
  /-- Every connection has gone its way. -/
  orderly : Orderly s
  /-- Whoever has arrived in a role has left it again, or serves in it. -/
  balance : ∀ role : Role, s.events.count role.arrival =
    s.events.count role.departure + (s.node.serving role).card
  /-- At no time have more left than have arrived. -/
  early : ∀ (role : Role) (l : List Event), l <+: s.events →
    l.count role.departure ≤ l.count role.arrival

namespace Balanced

variable {s t : Step}

/-- Nothing is announced, and nobody begins or ends to serve. -/
theorem keep (hs : Balanced s) (horderly : Orderly ⟨t.node, s.effects ++ t.effects⟩)
    (hserving : ∀ role, t.node.serving role = s.node.serving role) (hevents : t.events = []) :
    Balanced ⟨t.node, s.effects ++ t.effects⟩ := by
  have hsame : (⟨t.node, s.effects ++ t.effects⟩ : Step).events = s.events := by
    rw [Step.events_append, hevents, List.append_nil]
  refine ⟨horderly, fun role => ?_, fun role l hl => ?_⟩
  · rw [hsame]
    show _ = _ + (t.node.serving role).card
    rw [hserving]
    exact hs.balance role
  · exact hs.early role l (hsame ▸ hl)

/-- One event is announced, and the balance is right again. Then it always was. -/
theorem announce (hs : Balanced s) (horderly : Orderly ⟨t.node, s.effects ++ t.effects⟩)
    {e : Event} (hevents : t.events = [e])
    (hbalance : ∀ role : Role, (s.events ++ [e]).count role.arrival =
      (s.events ++ [e]).count role.departure + (t.node.serving role).card) :
    Balanced ⟨t.node, s.effects ++ t.effects⟩ := by
  have hmore : (⟨t.node, s.effects ++ t.effects⟩ : Step).events = s.events ++ [e] := by
    rw [Step.events_append, hevents]
  refine ⟨horderly, fun role => ?_, fun role l hl => ?_⟩
  · rw [hmore]
    exact hbalance role
  · rw [hmore, List.prefix_concat_iff] at hl
    rcases hl with rfl | hearlier
    -- A difference that counts connections is not negative.
    · rw [hbalance role]
      exact Nat.le_add_right _ _
    · exact hs.early role l hearlier

/-- An arrival makes one more who serves. -/
theorem register (hs : Balanced s) (horderly : Orderly ⟨t.node, s.effects ++ t.effects⟩)
    {id : ConnectionId} {role : Role} (before : s.node.stage id = .introducing)
    (hstage : t.node.stage = Function.update s.node.stage id (.serving role))
    (hevents : t.events = [role.arrival]) : Balanced ⟨t.node, s.effects ++ t.effects⟩ := by
  have hstage' : (⟨t.node, s.effects ++ t.effects⟩ : Step).node.stage =
      Function.update s.node.stage id (.serving role) := hstage
  refine hs.announce horderly hevents fun r => ?_
  have hbalance := hs.balance r
  rw [List.count_append, List.count_append, List.count_singleton, List.count_singleton]
  by_cases hr : r = role
  -- One arrival more, and one connection more.
  · subst hr
    have hcard : (t.node.serving r).card = (s.node.serving r).card + 1 :=
      hs.orderly.card_serving_of_update horderly hstage' (by simp [before])
    have hne := r.arrival_ne_departure r
    simp only [beq_self_eq_true, if_true, beq_iff_eq, hne, if_false]
    omega
  -- Another role: neither its events nor its connections change.
  · have hserving : t.node.serving r = s.node.serving r :=
      hs.orderly.serving_of_update horderly hstage' (by simp [before])
        (fun h => hr (Stage.serving.inj h).symm)
    have hne := role.arrival_ne_departure r
    have hne' : role.arrival ≠ r.arrival := fun h => hr (Role.arrival_inj.1 h).symm
    simp only [beq_iff_eq, hne, hne', if_false]
    rw [hserving]
    exact hbalance

/-- A departure makes one less who serves. -/
theorem tearDown (hs : Balanced s) (horderly : Orderly ⟨t.node, s.effects ++ t.effects⟩)
    {id : ConnectionId} {role : Role} (before : s.node.stage id = .serving role)
    (hstage : t.node.stage = Function.update s.node.stage id .finished)
    (hevents : t.events = [role.departure]) : Balanced ⟨t.node, s.effects ++ t.effects⟩ := by
  have hstage' : (⟨t.node, s.effects ++ t.effects⟩ : Step).node.stage =
      Function.update s.node.stage id .finished := hstage
  refine hs.announce horderly hevents fun r => ?_
  have hbalance := hs.balance r
  rw [List.count_append, List.count_append, List.count_singleton, List.count_singleton]
  by_cases hr : r = role
  · subst hr
    -- Read backwards, a departure is an arrival.
    have hback : s.node.stage = Function.update t.node.stage id (.serving r) := by
      rw [hstage, Function.update_idem, ← before, Function.update_eq_self]
    have hcard : (s.node.serving r).card = (t.node.serving r).card + 1 :=
      horderly.card_serving_of_update hs.orderly hback (by simp [hstage])
    have hne := (r.arrival_ne_departure r).symm
    simp only [beq_self_eq_true, if_true, beq_iff_eq, hne, if_false]
    omega
  · have hserving : t.node.serving r = s.node.serving r :=
      hs.orderly.serving_of_update horderly hstage'
        (by rw [before]; exact fun h => hr (Stage.serving.inj h).symm) (by simp)
    have hne := (r.arrival_ne_departure role).symm
    have hne' : role.departure ≠ r.departure := fun h => hr (Role.departure_inj.1 h).symm
    simp only [beq_iff_eq, hne, hne', if_false]
    rw [hserving]
    exact hbalance

/-- **A turn keeps the balance.** -/
theorem turn (hs : Balanced s) (h : Turn s.node t) :
    Balanced ⟨t.node, s.effects ++ t.effects⟩ := by
  have horderly := hs.orderly.turn h
  have hevents := t.events_eq
  cases h with
  | still standing record | handle _ _ _ _ standing record =>
    rw [record] at hevents
    have hnext : t.node.nextId = s.node.nextId := congrArg Standing.nextId standing
    have hstage : t.node.stage = s.node.stage := congrArg Standing.stage standing
    refine hs.keep horderly (fun role => ?_) hevents
    rw [Node.serving, Node.serving, hnext, hstage]
  | arrive standing record =>
    rw [record] at hevents
    have houtside := (hs.orderly.outside s.node.nextId (Nat.le_refl _)).1
    refine hs.keep horderly (fun role => ?_) hevents
    exact hs.orderly.serving_of_update horderly (congrArg Standing.stage standing)
      (by simp [houtside]) (by simp)
  | refuse id verdict refusal before standing record =>
    rw [record] at hevents
    refine hs.keep horderly (fun role => ?_) hevents
    exact hs.orderly.serving_of_update horderly (congrArg Standing.stage standing)
      (by simp [before]) (by simp)
  | register id role declared before name standing record =>
    rw [record] at hevents
    exact hs.register horderly before (congrArg Standing.stage standing) hevents
  | tearDown id role reason before standing record =>
    rw [record, Effect.event?_leaving] at hevents
    exact hs.tearDown horderly before (congrArg Standing.stage standing) hevents

end Balanced

namespace Step

/-- Every event is one of some connection. -/
theorem exists_eventsOf {s : Step} {e : Event} (h : e ∈ s.events) : ∃ id, e ∈ s.eventsOf id := by
  rw [s.events_eq, List.mem_filterMap] at h
  obtain ⟨effect, hmem, hevent⟩ := h
  cases effect <;> cases hevent
  rename_i id
  exact ⟨id, List.mem_filterMap.2 ⟨_, List.mem_filter.2 ⟨hmem, decide_eq_true rfl⟩, rfl⟩⟩

theorem eventsOf_sublist (s : Step) (id : ConnectionId) : (s.eventsOf id).Sublist s.events := by
  rw [s.events_eq]
  exact List.filter_sublist.filterMap _

/-- A verdict on a connection is one of its acts. -/
theorem mem_acts_of_refusal {s : Step} {id : ConnectionId} {verdict : Log.Entry}
    (h : .logged (some id) verdict ∈ s.effects) (refusal : verdict.isRefusal = true) :
    .logged (some id) verdict ∈ s.acts id := by
  have hverdict : verdict.isVerdict = true := by
    cases verdict <;> first | rfl | cases refusal
  exact List.mem_filter.2 ⟨List.mem_filter.2 ⟨h, hverdict⟩, decide_eq_true rfl⟩

end Step

namespace Node

variable (localName : String) (handler : Handler)

theorem balanced_fresh (bus : Bus) : Balanced (fresh localName handler bus).idle where
  orderly := orderly_fresh localName handler bus
  balance role := by simp [Step.events, idle, serving, fresh, stage]
  early role l hl := by simp [List.prefix_nil.1 hl]

/-- **In every run, arrivals are departures and connections that serve.** -/
theorem balanced_run (bus : Bus) (is : List Input) :
    Balanced ((fresh localName handler bus).run is) :=
  run_turns _ is (balanced_fresh localName handler bus) fun hs h => hs.turn h

end Node

end Overlay
