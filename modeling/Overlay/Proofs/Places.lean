import Overlay.Proofs.Passage

namespace Overlay

/-!
# Who holds which place

The roster is exact: a place is held by the connection that took it last, for as long as that
connection serves, and by nobody else.

* `Place` — the parent's place, or that of one client; `Roster.holder` looks one up;
* `Step.latest` — the connection that took a place last in a run;
* `Placed` — the invariant of all turns;
* `Node.roster_exact` — the roster of a node after any run.
-/

/-- A place at a node. -/
inductive Place where
  /-- The parent's. -/
  | parent
  /-- That of the API client of a name. -/
  | client (name : String)
deriving DecidableEq

/-- The place that a peer takes. -/
def Role.place (role : Role) : Place :=
  match role.rank with
  | .parent => .parent
  | .api => .client role.name

namespace Roster

/-- Who holds a place. -/
def holder (r : Roster) : Place → Option Contact
  | .parent => r.parent
  | .client name => r.client? name

/-- Two rosters in which everybody has the same place are the same. -/
theorem ext_holder {r s : Roster} (h : ∀ p, r.holder p = s.holder p) : r = s :=
  ext_lookup (h .parent) fun name => h (.client name)

/-- Taking a place changes that place alone. -/
theorem holder_install (r : Roster) {role : Role} {c : Contact} (h : c.name = role.name)
    (p : Place) :
    (r.install role.rank c).2.holder p = if p = role.place then some c else r.holder p := by
  obtain ⟨rank, name⟩ := role
  cases rank <;> cases p
  case parent.parent => rfl
  case parent.client => rfl
  case api.parent => rfl
  case api.client other =>
    show (r.clients.insert c.name c)[other]? = _
    rw [lookup_insert, h]
    simp [Role.place, holder, client?]

/-- Leaving a place changes that place alone, and only if it is still held. -/
theorem holder_withdraw (r : Roster) (role : Role) (id : ConnectionId) (p : Place) :
    (r.withdraw role id).2.holder p =
      if p = role.place ∧ (r.holder p).any (·.id = id) then none else r.holder p := by
  obtain ⟨rank, name⟩ := role
  cases rank <;> cases p
  case parent.parent =>
    show (r.clearParentIf id).2.parent = _
    unfold clearParentIf
    split <;> simp_all [Role.place, holder]
  case parent.client other =>
    show (r.clearParentIf id).2.clients[other]? = _
    unfold clearParentIf
    split <;> simp [Role.place, holder, client?]
  case api.parent =>
    show (r.removeClientIf name id).2.parent = _
    unfold removeClientIf
    split <;> simp [Role.place, holder]
  case api.client other =>
    show (r.removeClientIf name id).2.clients[other]? = _
    unfold removeClientIf
    by_cases hname : other = name
    · subst hname
      split <;> simp_all [Role.place, holder, client?]
    · split <;> simp [Role.place, holder, client?, lookup_erase, hname]

end Roster

namespace Node

variable (n : Node) (id : ConnectionId) (role : Role) (p : Place)

/-- Who holds a place after a connection has taken its own. -/
theorem holder_enter :
    (n.enter id role).node.board.roster.holder p =
      if p = role.place then some ⟨id, role.name, n.address id, id⟩
      else n.board.roster.holder p :=
  Roster.holder_install _ rfl p

/-- Who holds a place after a connection has left its own. -/
theorem holder_leave :
    (n.leave id role).node.board.roster.holder p =
      if p = role.place ∧ (n.board.roster.holder p).any (·.id = id) then none
      else n.board.roster.holder p :=
  Roster.holder_withdraw _ role id p

end Node

namespace Step

/-- The connection that took a place last. -/
def latest (s : Step) (p : Place) : Option ConnectionId :=
  ((s.entries.filter (·.2.place = p)).getLast?).map (·.1)

theorem latest_append (s t : Step) (p : Place) :
    (⟨t.node, s.effects ++ t.effects⟩ : Step).latest p = (t.latest p).or (s.latest p) := by
  simp [latest, Option.map_or]

theorem latest_of_entries_nil {s : Step} (h : s.entries = []) (p : Place) :
    s.latest p = none := by
  simp [latest, h]

theorem latest_of_entry {s : Step} {id : ConnectionId} {role : Role}
    (h : s.entries = [(id, role)]) (p : Place) :
    s.latest p = if p = role.place then some id else none := by
  by_cases hp : p = role.place
  · simp [latest, h, hp]
  · have hrole : ¬ role.place = p := fun heq => hp heq.symm
    simp [latest, h, hp, hrole]

/-- The connection that took a place last did so in a role of that place. -/
theorem exists_role_of_latest {s : Step} {id : ConnectionId} {p : Place}
    (h : s.latest p = some id) : ∃ role ∈ s.rolesOf id, role.place = p := by
  obtain ⟨⟨j, role⟩, hlast, rfl⟩ := Option.map_eq_some_iff.1 h
  have hmem := List.mem_filter.1 (List.mem_of_getLast? hlast)
  exact ⟨role, mem_rolesOf.2 hmem.1, by simpa using hmem.2⟩

/-- Where somebody has taken a place, somebody took it last. -/
theorem exists_latest {s : Step} {id : ConnectionId} {role : Role} (h : (id, role) ∈ s.entries) :
    ∃ later, s.latest role.place = some later := by
  have hmem : (id, role) ∈ s.entries.filter (·.2.place = role.place) :=
    List.mem_filter.2 ⟨h, decide_eq_true rfl⟩
  obtain ⟨last, hlast⟩ := Option.isSome_iff_exists.1
    (List.getLast?_isSome.2 (List.ne_nil_of_mem hmem))
  exact ⟨last.1, Option.map_eq_some_iff.2 ⟨last, hlast, rfl⟩⟩

end Step

/-! ### Names -/

/-- What `occursIn` decides. -/
theorem occursIn_iff {part whole : List Char} : occursIn part whole = true ↔ part <:+: whole := by
  induction whole with
  | nil => simp [occursIn]
  | cons c rest ih =>
    rw [List.infix_cons_iff, ← ih, ← List.isPrefixOf_iff_prefix]
    simp [occursIn]

/-- Whether the API marker stands anywhere in a name. -/
def isMarked (name : String) : Prop := apiMarker.toList <:+: name.toList

/-- The declared name decides the place, and the sentinel gets none. -/
theorem Introduction.place_of_ofBytes {declared : ByteArray} {role : Role}
    (h : ofBytes declared = .accepted role) :
    (role.place = .parent ∧ ¬ isMarked role.name ∧ role.name ≠ closeSentinel) ∨
      (role.place = .client role.name ∧ isMarked role.name) := by
  unfold ofBytes at h
  have hrank := rank_of_ofName h
  have hname := name_of_ofName h
  -- The sentinel would have been declined.
  have hsentinel : role.name ≠ closeSentinel := by
    intro heq
    rw [← hname, ofName_eq_declined_iff.2 heq] at h
    cases h
  rw [← hname] at hrank
  unfold rankOf at hrank
  unfold isMarked Role.place
  rw [← occursIn_iff]
  split at hrank
  case isTrue hmarked =>
    rw [hrank]
    exact .inr ⟨rfl, hmarked⟩
  case isFalse hmarked =>
    rw [hrank]
    exact .inl ⟨rfl, hmarked, hsentinel⟩

/-! ### The invariant -/

/-- Everyone holds the place they are entitled to. -/
structure Placed (s : Step) : Prop where
  /-- Every connection has gone its way. -/
  orderly : Orderly s
  /-- A place is held by who took it last, while they serve. -/
  occupied : ∀ p, (s.node.board.roster.holder p).map (·.id) = (s.latest p).filter s.node.serves
  /-- Who holds a place serves in a role of that place, and by its name. -/
  named : ∀ p c, s.node.board.roster.holder p = some c →
    ∃ role, s.node.stage c.id = .serving role ∧ role.place = p ∧ c.name = role.name

namespace Placed

variable {s t : Step}

/-- A connection that introduces itself is nobody's latest. -/
theorem latest_ne_of_rolesOf_nil {id : ConnectionId} (h : s.rolesOf id = []) (p : Place) :
    s.latest p ≠ some id := by
  intro hlatest
  obtain ⟨role, hrole, -⟩ := Step.exists_role_of_latest hlatest
  rw [h] at hrole
  cases hrole

/-- Whether a connection serves does not matter to the places that others took last. -/
theorem filter_update {stage : ConnectionId → Stage} {latest : Option ConnectionId}
    {id : ConnectionId} (h : latest ≠ some id) (next : Stage) :
    latest.filter (fun j => (Function.update stage id next j).isServing) =
      latest.filter (fun j => (stage j).isServing) := by
  cases latest with
  | none => rfl
  | some j =>
    have hj : j ≠ id := fun heq => h (heq ▸ rfl)
    simp only [Option.filter_some, Function.update_of_ne hj]

/-- Who serves after a turn of one connection. -/
theorem serves_of_update {id : ConnectionId} {stage : Stage}
    (hstage : t.node.stage = Function.update s.node.stage id stage) :
    t.node.serves = fun j => (Function.update s.node.stage id stage j).isServing :=
  funext fun j => congrArg (fun f => (f j).isServing) hstage

/-- Who holds a place does not mind a turn of another connection. -/
theorem named_of_ne (hs : Placed s) {p : Place} {c : Contact} {id : ConnectionId}
    (hc : s.node.board.roster.holder p = some c) (hne : c.id ≠ id) (stage : Stage) :
    ∃ role, Function.update s.node.stage id stage c.id = .serving role ∧ role.place = p ∧
      c.name = role.name := by
  rw [Function.update_of_ne hne]
  exact hs.named p c hc

/-- A connection comes or goes without ever having had a place. -/
theorem bystander (hs : Placed s) {id : ConnectionId} {stage : Stage}
    (horderly : Orderly ⟨t.node, s.effects ++ t.effects⟩) (hroles : s.rolesOf id = [])
    (hstage : t.node.stage = Function.update s.node.stage id stage)
    (hroster : t.node.board.roster = s.node.board.roster) (hentries : t.entries = []) :
    Placed ⟨t.node, s.effects ++ t.effects⟩ := by
  refine ⟨horderly, fun p => ?_, fun p c hc => ?_⟩
  · rw [Step.latest_append, Step.latest_of_entries_nil hentries, Option.none_or]
    show (t.node.board.roster.holder p).map _ = (s.latest p).filter t.node.serves
    rw [hroster, serves_of_update hstage, filter_update (latest_ne_of_rolesOf_nil hroles p)]
    exact hs.occupied p
  · change t.node.board.roster.holder p = some c at hc
    show ∃ role, t.node.stage c.id = _ ∧ _
    rw [hroster] at hc
    rw [hstage]
    refine hs.named_of_ne hc ?_ stage
    rintro rfl
    obtain ⟨role, hrole, -⟩ := hs.named p c hc
    rw [hs.orderly.rolesOf_of_serving hrole] at hroles
    cases hroles

/-- A connection takes a place, whoever had it before. -/
theorem register (hs : Placed s) {id : ConnectionId} {role : Role}
    (horderly : Orderly ⟨t.node, s.effects ++ t.effects⟩)
    (before : s.node.stage id = .introducing)
    (hstage : t.node.stage = Function.update s.node.stage id (.serving role))
    (hroster : t.node.board.roster = (s.node.board.roster.install role.rank
      ⟨id, role.name, s.node.address id, id⟩).2)
    (hentries : t.entries = [(id, role)]) : Placed ⟨t.node, s.effects ++ t.effects⟩ := by
  have hroles := hs.orderly.rolesOf_of_introducing before
  have hholder (p : Place) : t.node.board.roster.holder p =
      if p = role.place then some ⟨id, role.name, s.node.address id, id⟩
      else s.node.board.roster.holder p := by
    rw [hroster]
    exact Roster.holder_install _ rfl p
  refine ⟨horderly, fun p => ?_, fun p c hc => ?_⟩
  · rw [Step.latest_append, Step.latest_of_entry hentries]
    show (t.node.board.roster.holder p).map _ = Option.filter t.node.serves _
    rw [hholder, serves_of_update hstage]
    by_cases hp : p = role.place
    -- The newcomer's place is its own now.
    · simp [hp, Option.filter_some]
    -- Any other place is held as before, and the newcomer never took it.
    · rw [if_neg hp, if_neg hp, Option.none_or,
        filter_update (latest_ne_of_rolesOf_nil hroles p)]
      exact hs.occupied p
  · change t.node.board.roster.holder p = some c at hc
    show ∃ role, t.node.stage c.id = _ ∧ _
    rw [hstage]
    rw [hholder] at hc
    split at hc
    case isTrue hp =>
      cases hc
      exact ⟨role, Function.update_self .., hp.symm, rfl⟩
    case isFalse =>
      refine hs.named_of_ne hc ?_ _
      rintro rfl
      obtain ⟨r, hr, -⟩ := hs.named p c hc
      rw [before] at hr
      cases hr

/-- A connection that served ends. It takes nobody's place with it but its own. -/
theorem tearDown (hs : Placed s) {id : ConnectionId} {role : Role}
    (horderly : Orderly ⟨t.node, s.effects ++ t.effects⟩)
    (before : s.node.stage id = .serving role)
    (hstage : t.node.stage = Function.update s.node.stage id .finished)
    (hroster : t.node.board.roster = (s.node.board.roster.withdraw role id).2)
    (hentries : t.entries = []) : Placed ⟨t.node, s.effects ++ t.effects⟩ := by
  have hroles := hs.orderly.rolesOf_of_serving before
  have hholder (p : Place) : t.node.board.roster.holder p =
      if p = role.place ∧ (s.node.board.roster.holder p).any (·.id = id) then none
      else s.node.board.roster.holder p := by
    rw [hroster]
    exact Roster.holder_withdraw _ role id p
  refine ⟨horderly, fun p => ?_, fun p c hc => ?_⟩
  · have hoccupied := hs.occupied p
    rw [Step.latest_append, Step.latest_of_entries_nil hentries, Option.none_or]
    show (t.node.board.roster.holder p).map _ = (s.latest p).filter t.node.serves
    rw [hholder, serves_of_update hstage]
    by_cases hlatest : s.latest p = some id
    -- The connection still has its place: nobody came after it.
    · obtain ⟨r, hr, hplace⟩ := Step.exists_role_of_latest hlatest
      rw [hroles, List.mem_singleton] at hr
      subst hr
      have hserving : s.node.serves id = true := congrArg Stage.isServing before
      rw [hlatest, Option.filter_some, if_pos hserving] at hoccupied
      obtain ⟨c, hc, hcid⟩ := Option.map_eq_some_iff.1 hoccupied
      simp [hlatest, hplace, hc, hcid, Option.filter_some]
    -- It was replaced before, or has another place; so this one is left alone.
    · rw [filter_update hlatest]
      rw [if_neg]
      · exact hoccupied
      · rintro ⟨-, hany⟩
        obtain ⟨c, hc, hcid⟩ := (Option.any_eq_true ..).1 hany
        rw [hc, Option.map_some, of_decide_eq_true hcid] at hoccupied
        exact hlatest (Option.filter_eq_some_iff.1 hoccupied.symm).1
  · change t.node.board.roster.holder p = some c at hc
    show ∃ role, t.node.stage c.id = _ ∧ _
    rw [hstage]
    rw [hholder] at hc
    split at hc
    case isTrue => cases hc
    case isFalse hkept =>
      -- Whoever is left is another connection: the one that ends has given up its only place.
      refine hs.named_of_ne hc ?_ _
      rintro rfl
      obtain ⟨r, hr, hplace, -⟩ := hs.named p c hc
      rw [before, Stage.serving.injEq] at hr
      subst hr
      exact hkept ⟨hplace.symm, by simp [hc]⟩

/-- Nothing changes for anybody. -/
theorem keep (hs : Placed s) (horderly : Orderly ⟨t.node, s.effects ++ t.effects⟩)
    (standing : t.node.standing = s.node.standing) (hentries : t.entries = []) :
    Placed ⟨t.node, s.effects ++ t.effects⟩ := by
  have hstage : t.node.stage =
      Function.update s.node.stage s.node.nextId (s.node.stage s.node.nextId) := by
    rw [Function.update_eq_self]
    exact congrArg Standing.stage standing
  exact hs.bystander horderly (hs.orderly.rolesOf_of_outside (Nat.le_refl _)) hstage
    (congrArg Standing.roster standing) hentries

/-- **A turn leaves everyone the place they are entitled to.** -/
theorem turn (hs : Placed s) (h : Turn s.node t) : Placed ⟨t.node, s.effects ++ t.effects⟩ := by
  have horderly := hs.orderly.turn h
  have hentries := t.entries_eq
  cases h with
  | still standing record =>
    rw [record] at hentries
    exact hs.keep horderly standing hentries
  | handle id role payload before standing record =>
    rw [record] at hentries
    exact hs.keep horderly standing hentries
  | arrive standing record =>
    rw [record] at hentries
    exact hs.bystander horderly (hs.orderly.rolesOf_of_outside (Nat.le_refl _))
      (congrArg Standing.stage standing) (congrArg Standing.roster standing) hentries
  | refuse id verdict refusal before standing record =>
    rw [record] at hentries
    exact hs.bystander horderly (hs.orderly.rolesOf_of_introducing before)
      (congrArg Standing.stage standing) (congrArg Standing.roster standing) hentries
  | register id role declared before name standing record =>
    rw [record] at hentries
    exact hs.register horderly before (congrArg Standing.stage standing)
      (congrArg Standing.roster standing) hentries
  | tearDown id role reason before standing record =>
    rw [record, Effect.entry?_leaving] at hentries
    exact hs.tearDown horderly before (congrArg Standing.stage standing)
      (congrArg Standing.roster standing) hentries

/-- A place is held by exactly who took it last and still serves. -/
theorem holds_iff (hs : Placed s) (p : Place) (id : ConnectionId) :
    (∃ c, s.node.board.roster.holder p = some c ∧ c.id = id) ↔
      s.latest p = some id ∧ s.node.serves id = true := by
  rw [← Option.map_eq_some_iff, hs.occupied, Option.filter_eq_some_iff]

/-- Who holds a place was accepted by a name for that place. -/
theorem exists_declared (hs : Placed s) {p : Place} {c : Contact}
    (hc : s.node.board.roster.holder p = some c) :
    ∃ declared role, Introduction.ofBytes declared = .accepted role ∧
      s.node.stage c.id = .serving role ∧ role.place = p ∧ role.name = c.name := by
  obtain ⟨role, hrole, hplace, hname⟩ := hs.named p c hc
  have hentry : (c.id, role) ∈ s.entries := by
    rw [← Step.mem_rolesOf, hs.orderly.rolesOf_of_serving hrole]
    exact List.mem_singleton_self role
  obtain ⟨declared, hdeclared⟩ := hs.orderly.declared _ hentry
  exact ⟨declared, role, hdeclared, hrole, hplace, hname.symm⟩

/-- Nobody holds two places. -/
theorem place_unique (hs : Placed s) {p q : Place} {c d : Contact}
    (hc : s.node.board.roster.holder p = some c) (hd : s.node.board.roster.holder q = some d)
    (h : c.id = d.id) : p = q := by
  obtain ⟨r, hr, hp, -⟩ := hs.named p c hc
  obtain ⟨r', hr', hq, -⟩ := hs.named q d hd
  rw [h, hr', Stage.serving.injEq] at hr
  rw [← hp, ← hq, hr]

end Placed

/-- The roster says exactly who is served, and where. -/
structure RosterExact (s : Step) : Prop where
  /-- The parent is the connection that became the parent last, while it serves. -/
  parent : ∀ id, (∃ c, s.node.board.roster.parent = some c ∧ c.id = id) ↔
    s.latest .parent = some id ∧ s.node.serves id = true
  /-- The client of a name is the connection that became it last, while it serves. -/
  client : ∀ name id, (∃ c, s.node.board.roster.client? name = some c ∧ c.id = id) ↔
    s.latest (.client name) = some id ∧ s.node.serves id = true
  /-- Whoever holds a place serves, in a role of that place, which its peer's declared bytes
  gave it. -/
  serving : ∀ p c, s.node.board.roster.holder p = some c →
    ∃ declared role, Introduction.ofBytes declared = .accepted role ∧
      s.node.stage c.id = .serving role ∧ role.place = p ∧ role.name = c.name
  /-- Nobody holds two places. -/
  distinct : ∀ p q c d, s.node.board.roster.holder p = some c →
    s.node.board.roster.holder q = some d → c.id = d.id → p = q
  /-- A client goes by its own name, and that has the API marker in it. -/
  marked : ∀ name c, s.node.board.roster.client? name = some c → c.name = name ∧ isMarked name
  /-- The parent's name has no API marker in it and is not the sentinel. -/
  unmarked : ∀ c, s.node.board.roster.parent = some c →
    ¬ isMarked c.name ∧ c.name ≠ closeSentinel

namespace Node

variable (localName : String) (handler : Handler) (bus : Bus)

theorem placed_fresh : Placed (fresh localName handler bus).idle where
  orderly := orderly_fresh localName handler bus
  occupied p := by cases p <;> rfl
  named p c hc := by cases p <;> cases hc

theorem placed_run (is : List Input) : Placed ((fresh localName handler bus).run is) :=
  run_turns _ is (placed_fresh localName handler bus) fun hs h => hs.turn h

/-- **The roster is exact.** After any run, whatever came from any number of peers in whatever
order, and however often the handler broke down: each place is held by the connection that took
it last if that still serves, and by nobody otherwise. -/
theorem roster_exact (is : List Input) :
    RosterExact ((fresh localName handler bus).run is) := by
  have hs := placed_run localName handler bus is
  constructor
  case parent => exact hs.holds_iff .parent
  case client => exact fun name => hs.holds_iff (.client name)
  case serving => exact fun p c hc => hs.exists_declared hc
  case distinct => exact fun p q c d hc hd h => hs.place_unique hc hd h
  case marked =>
    intro name c hc
    obtain ⟨declared, role, hdeclared, -, hplace, hname⟩ :=
      hs.exists_declared (p := .client name) hc
    rcases Introduction.place_of_ofBytes hdeclared with ⟨hparent, -⟩ | ⟨hclient, hmarked⟩
    · rw [hplace] at hparent
      cases hparent
    · rw [hplace, Place.client.injEq] at hclient
      rw [← hname, hclient]
      exact ⟨rfl, hmarked⟩
  case unmarked =>
    intro c hc
    obtain ⟨declared, role, hdeclared, -, hplace, hname⟩ := hs.exists_declared (p := .parent) hc
    rcases Introduction.place_of_ofBytes hdeclared with ⟨-, hunmarked⟩ | ⟨hclient, -⟩
    · rwa [← hname]
    · rw [hplace] at hclient
      cases hclient

end Node

end Overlay
