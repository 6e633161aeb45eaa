import Overlay.Proofs.Places

namespace Overlay

/-!
# Claimants of a place

Several connections may serve in roles of one place. The last of them to come has the place; when
it ends, the place is empty, even if one that came before still serves. So a place that is held is
claimed, but a place that is claimed need not be held.

* `Node.Claims` — a connection serves in a role of a place;
* `Node.Moves.vacates` — a place is given up only when a connection leaves it;
* `ClaimantsExact` — what a held place, and an empty one, say about those who claim it;
* `Node.claimants_exact` — so it is after every run.
-/

/-- A connection claims a place while it serves in a role of it. -/
def Node.Claims (n : Node) (p : Place) (id : ConnectionId) : Prop :=
  ∃ role, n.stage id = .serving role ∧ role.place = p

/-- What the places at a node say about those who claim them, after a run that has led to `s`. -/
structure ClaimantsExact (s : Step) : Prop where
  /-- There is a parent exactly while the connection serves that became the parent last. -/
  parent : s.node.board.roster.hasParent = true ↔
    ∃ id, s.latest .parent = some id ∧ s.node.Claims .parent id
  /-- There is a client of a name exactly while the connection serves that became it last. -/
  client : ∀ name, s.node.board.roster.hasClient name = true ↔
    ∃ id, s.latest (.client name) = some id ∧ s.node.Claims (.client name) id
  /-- Who holds a place claims it. -/
  served : ∀ p c, s.node.board.roster.holder p = some c → s.node.Claims p c.id
  /-- If nobody holds a place that is claimed then a later connection had it, and has ended. -/
  empty : ∀ p id, s.node.Claims p id → s.node.board.roster.holder p = none →
    ∃ later, s.latest p = some later ∧ later ≠ id ∧ s.node.stage later = .finished
  /-- Where nobody claims the place but the last who took it, it is held exactly while it is
  claimed. -/
  sole : ∀ p, (∀ id, s.node.Claims p id → s.latest p = some id) →
    ((s.node.board.roster.holder p).isSome = true ↔ ∃ id, s.node.Claims p id)
  /-- A place that was held is empty afterwards only if a connection of that place has ended
  meanwhile. -/
  vacated : ∀ i p, (s.node.board.roster.holder p).isSome = true →
    (s.node.step i).node.board.roster.holder p = none →
      ∃ id role, role.place = p ∧ .left id role ∈ (s.node.step i).effects ∧
        (s.node.step i).node.stage id = .finished

/-- Who has left a place has ended. -/
theorem Orderly.finished_of_left {s : Step} (hs : Orderly s) {id : ConnectionId} {role : Role}
    (h : .left id role ∈ s.effects) : s.node.stage id = .finished := by
  have hmem : .left id role ∈ s.acts id :=
    List.mem_filter.2 ⟨List.mem_filter.2 ⟨h, rfl⟩, decide_eq_true rfl⟩
  have hpassage := hs.passage id
  generalize s.acts id = acts at hmem hpassage
  generalize s.node.stage id = stage at hpassage
  cases hpassage with
  | outside | refused | gone => rfl
  | introducing => cases hmem
  | serving => simp [Effect.taking, Effect.serving] at hmem

namespace Placed

variable {s : Step} {p : Place} {id : ConnectionId}

/-- The last who took a place holds it exactly while it claims it. -/
theorem isSome_holder_iff (hs : Placed s) :
    (s.node.board.roster.holder p).isSome = true ↔
      ∃ id, s.latest p = some id ∧ s.node.Claims p id := by
  constructor
  · intro hheld
    obtain ⟨c, hc⟩ := Option.isSome_iff_exists.1 hheld
    obtain ⟨hlatest, -⟩ := (hs.holds_iff p c.id).1 ⟨c, hc, rfl⟩
    obtain ⟨role, hrole, hplace, -⟩ := hs.named p c hc
    exact ⟨c.id, hlatest, role, hrole, hplace⟩
  · rintro ⟨id, hlatest, role, hrole, -⟩
    have hserves : s.node.serves id = true := congrArg Stage.isServing hrole
    obtain ⟨c, hc, -⟩ := (hs.holds_iff p id).2 ⟨hlatest, hserves⟩
    exact Option.isSome_iff_exists.2 ⟨c, hc⟩

/-- Whoever claims a place has taken it, so somebody took it last. -/
theorem exists_latest (hs : Placed s) (h : s.node.Claims p id) :
    ∃ later, s.latest p = some later := by
  obtain ⟨role, hrole, hplace⟩ := h
  have hentry : (id, role) ∈ s.entries := by
    rw [← Step.mem_rolesOf, hs.orderly.rolesOf_of_serving hrole]
    exact List.mem_singleton_self role
  rw [← hplace]
  exact Step.exists_latest hentry

/-- Who took a place last serves in a role of it, or has ended. -/
theorem claims_or_finished (hs : Placed s) (h : s.latest p = some id) :
    s.node.Claims p id ∨ s.node.stage id = .finished := by
  obtain ⟨role, hrole, hplace⟩ := Step.exists_role_of_latest h
  cases hstage : s.node.stage id with
  | introducing =>
    rw [hs.orderly.rolesOf_of_introducing hstage] at hrole
    cases hrole
  | serving r =>
    rw [hs.orderly.rolesOf_of_serving hstage, List.mem_singleton] at hrole
    exact .inl ⟨r, hstage, hrole ▸ hplace⟩
  | finished => exact .inr rfl

/-- **A place that is claimed, but empty**, was taken later by a connection that has ended. -/
theorem finished_of_empty (hs : Placed s) (h : s.node.Claims p id)
    (hempty : s.node.board.roster.holder p = none) :
    ∃ later, s.latest p = some later ∧ later ≠ id ∧ s.node.stage later = .finished := by
  obtain ⟨later, hlatest⟩ := hs.exists_latest h
  -- If it still served it would hold the place.
  have hgone : ¬ s.node.Claims p later := by
    intro hclaims
    have hheld := hs.isSome_holder_iff.2 ⟨later, hlatest, hclaims⟩
    rw [hempty] at hheld
    cases hheld
  refine ⟨later, hlatest, ?_, (hs.claims_or_finished hlatest).resolve_left hgone⟩
  rintro rfl
  exact hgone h

end Placed

namespace Node

/-- **A place is given up only when a connection leaves it.** -/
theorem Moves.vacates {allowed : Cause → Prop} {n : Node} {s : Step} (h : Moves allowed n s)
    {p : Place} (held : (n.board.roster.holder p).isSome = true)
    (hempty : s.node.board.roster.holder p = none) :
    ∃ id role, role.place = p ∧ .left id role ∈ s.effects := by
  refine h.induct (P := fun s => s.node.board.roster.holder p = none →
    ∃ id role, role.place = p ∧ .left id role ∈ s.effects) ?_ ?_ hempty
  · intro hnone
    rw [node_idle] at hnone
    rw [hnone] at held
    cases held
  · intro cause s t hs _ hmove hnone
    have hearlier (hbefore : s.node.board.roster.holder p = none) :
        ∃ id role, role.place = p ∧ .left id role ∈ s.effects ++ t.effects := by
      obtain ⟨id, role, hplace, hleft⟩ := hs hbefore
      exact ⟨id, role, hplace, List.mem_append_left _ hleft⟩
    change t.node.board.roster.holder p = none at hnone
    -- Only taking a place and leaving one change who holds it.
    cases hmove.turn with
    | still standing | arrive standing | refuse _ _ _ _ standing | handle _ _ _ _ standing =>
      have hroster : t.node.board.roster = s.node.board.roster :=
        congrArg Standing.roster standing
      exact hearlier (hroster ▸ hnone)
    | register id role declared before name standing =>
      have hroster := congrArg Standing.roster standing
      change t.node.board.roster = _ at hroster
      rw [hroster, Roster.holder_install _ rfl] at hnone
      split at hnone
      · cases hnone
      · exact hearlier hnone
    | tearDown id role reason before standing record =>
      have hroster := congrArg Standing.roster standing
      change t.node.board.roster = _ at hroster
      rw [hroster, Roster.holder_withdraw] at hnone
      split at hnone
      case isTrue hplace =>
        have hleft : .left id role ∈ t.record := by
          rw [record]
          exact List.mem_append_right _ List.mem_cons_self
        refine ⟨id, role, hplace.1.symm, ?_⟩
        exact List.mem_append_right _ (List.mem_filter.1 hleft).1
      case isFalse => exact hearlier hnone

variable (localName : String) (handler : Handler) (bus : Bus)

/-- **What the places say about those who claim them.** After any run: a place is held exactly while
the last connection that took it serves. So who holds a place claims it; a place that is claimed,
but empty, was taken later by a connection that has ended; and a place becomes empty only in a step
in which a connection of that place ends. -/
theorem claimants_exact (is : List Input) :
    ClaimantsExact ((fresh localName handler bus).run is) := by
  have hs := placed_run localName handler bus is
  constructor
  case parent => exact hs.isSome_holder_iff (p := .parent)
  case client =>
    intro name
    rw [← hs.isSome_holder_iff, Roster.hasClient, Std.ExtTreeMap.contains_eq_isSome_getElem?]
    rfl
  case served =>
    intro p c hc
    obtain ⟨role, hrole, hplace, -⟩ := hs.named p c hc
    exact ⟨role, hrole, hplace⟩
  case empty => exact fun p id hclaims hempty => hs.finished_of_empty hclaims hempty
  case sole =>
    intro p hsole
    rw [hs.isSome_holder_iff]
    constructor
    · rintro ⟨id, -, hclaims⟩
      exact ⟨id, hclaims⟩
    · rintro ⟨id, hclaims⟩
      exact ⟨id, hsole id hclaims, hclaims⟩
  case vacated =>
    intro i p hheld hempty
    have hmoves : Moves (fun _ => True) ((fresh localName handler bus).run is).node
        (((fresh localName handler bus).run is).node.step i) := step_moves _ i trivial trivial
    obtain ⟨id, role, hplace, hleft⟩ := hmoves.vacates hheld hempty
    -- One input more is a run, too.
    have hlonger := orderly_run localName handler bus (is ++ [i])
    have hmem : .left id role ∈ ((fresh localName handler bus).run (is ++ [i])).effects := by
      rw [run_append, Step.effects_andThen]
      refine List.mem_append_right _ ?_
      show _ ∈ (Step.andThen _ _).effects
      rw [Step.effects_andThen]
      exact List.mem_append_left _ hleft
    have hfinished := hlonger.finished_of_left hmem
    rw [run_append] at hfinished
    exact ⟨id, role, hplace, hleft, hfinished⟩

/-- Two clients of one name: the second ends, the first still serves, and the name is not taken. -/
theorem claimed_and_not_held :
    let s := (fresh "root" .noting .fresh).run
      [.connect "10.0.0.7:4001" none, .receive 1 (Frame.wire "api-cli".toUTF8),
        .connect "10.0.0.8:4002" none, .receive 2 (Frame.wire "api-cli".toUTF8), .close 2]
    ¬ (s.node.board.roster.hasClient "api-cli" = true ↔
      ∃ id, s.node.Claims (.client "api-cli") id) := by
  intro s hiff
  have hserving : s.node.stage 1 = .serving ⟨.api, "api-cli"⟩ := by decide +kernel
  have habsent : s.node.board.roster.hasClient "api-cli" = false := by decide +kernel
  rw [hiff.2 ⟨1, _, hserving, rfl⟩] at habsent
  cases habsent

end Node

end Overlay
