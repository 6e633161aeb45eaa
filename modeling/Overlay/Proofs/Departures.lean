import Mathlib.Data.List.Nodup
import Overlay.Proofs.Places

namespace Overlay

/-!
# Teardowns in any order

Connections end in any order, and several of them may have taken the same place one after another.
A teardown gives up the place of its own connection and no other one, so the order in which
teardowns are done does not matter.

* `Teardown`, `Roster.tearDown` — a connection that ends, and what that does to the roster;
* `Roster.holder_tearDowns` — any number of teardowns: the roster afterwards depends only on which
  they are; `Roster.answers_tearDowns` — so does what each of them returns;
* `Change`, `Roster.changed` — the rosters that are reached by taking and leaving places, and
  `Roster.mem_entries_of_holder`, the invariant of all of them;
* `Teardown.ownOnly` — a teardown concerns nobody else, where each number stands for one connection;
* `teardowns_commute` — teardowns of distinct connections, in two orders.
-/

/-- The end of a connection, by the role that its peer had. -/
structure Teardown where
  /-- The role; it says which place is given up. -/
  role : Role
  /-- The connection. -/
  id : ConnectionId
deriving DecidableEq

namespace Roster

variable {r s : Roster} {t u : Teardown} {ts us : List Teardown} {p : Place} {c : Contact}

/-! ### One teardown -/

/-- Tear down one connection: whether it still held its place, and the roster afterwards. -/
def tearDown (r : Roster) (t : Teardown) : Bool × Roster := r.withdraw t.role t.id

/-- Whether the connection of a teardown holds the place that is given up. -/
def holds (r : Roster) (t : Teardown) : Bool := (r.holder t.role.place).any (·.id = t.id)

theorem holds_iff : r.holds t = true ↔ ∃ c, r.holder t.role.place = some c ∧ c.id = t.id := by
  simp [holds, Option.any_eq_true]

/-- Only the place that is given up matters. -/
theorem holds_congr (h : r.holder t.role.place = s.holder t.role.place) :
    r.holds t = s.holds t := by
  rw [holds, holds, h]

/-- A teardown returns whether its connection held the place. -/
theorem tearDown_fst (r : Roster) (t : Teardown) : (r.tearDown t).1 = r.holds t := by
  obtain ⟨⟨rank, name⟩, id⟩ := t
  cases rank with
  | parent =>
    show (r.clearParentIf id).1 = r.parent.any (·.id = id)
    unfold clearParentIf
    split <;> simp_all
  | api =>
    show (r.removeClientIf name id).1 = r.clients[name]?.any (·.id = id)
    unfold removeClientIf
    split <;> simp_all

/-- A teardown changes the place that its connection held, if it held it, and nothing else. -/
theorem holder_tearDown (r : Roster) (t : Teardown) (p : Place) :
    (r.tearDown t).2.holder p =
      if p = t.role.place ∧ r.holds t = true then none else r.holder p := by
  have hleft := r.holder_withdraw t.role t.id p
  by_cases hp : p = t.role.place
  · subst hp
    exact hleft
  · rw [if_neg (fun h => hp h.1)] at hleft ⊢
    exact hleft

/-- A teardown of a connection that has lost its place does nothing. -/
theorem tearDown_of_not_holds (h : r.holds t = false) : r.tearDown t = (false, r) := by
  have hroster : (r.tearDown t).2 = r := ext_holder fun p => by simp [holder_tearDown, h]
  exact Prod.ext (by rw [tearDown_fst, h]) hroster

/-- Whether another connection holds its place is not changed by a teardown. -/
theorem holds_tearDown_of_ne (h : u.id ≠ t.id) : (r.tearDown t).2.holds u = r.holds u := by
  by_cases hplace : u.role.place = t.role.place ∧ r.holds t = true
  -- The place is empty now, but it was not `u` that held it.
  · obtain ⟨hplace, hheld⟩ := hplace
    obtain ⟨c, hc, hid⟩ := holds_iff.1 hheld
    have hne : c.id ≠ u.id := fun heq => h (heq.symm.trans hid)
    have hempty : (r.tearDown t).2.holder t.role.place = none := by
      rw [holder_tearDown, if_pos ⟨rfl, hheld⟩]
    simp [holds, hplace, hempty, hc, hne]
  · exact holds_congr (by rw [holder_tearDown, if_neg hplace])

/-! ### Teardowns in a row -/

/-- Tear down connections one by one: what each teardown returns, and the roster afterwards. -/
def tearDowns (r : Roster) : List Teardown → List Bool × Roster
  | [] => ([], r)
  | t :: ts =>
    let first := r.tearDown t
    let others := first.2.tearDowns ts
    (first.1 :: others.1, others.2)

/-- **The roster after teardowns.** Exactly those places are empty whose holder is among the
connections that ended. -/
theorem holder_tearDowns (r : Roster) (ts : List Teardown) (p : Place) :
    (r.tearDowns ts).2.holder p =
      if ∃ t ∈ ts, p = t.role.place ∧ r.holds t = true then none else r.holder p := by
  induction ts generalizing r with
  | nil => simp [tearDowns]
  | cons t ts ih =>
    show ((r.tearDown t).2.tearDowns ts).2.holder p = _
    rw [ih]
    by_cases hfirst : p = t.role.place ∧ r.holds t = true
    -- The first teardown empties the place, and it stays so.
    · simp [holder_tearDown, hfirst]
    -- The first teardown does not touch it, so the other ones find what was there.
    · have hkept : (r.tearDown t).2.holder p = r.holder p := by rw [holder_tearDown, if_neg hfirst]
      have hlater : (∃ u ∈ ts, p = u.role.place ∧ (r.tearDown t).2.holds u = true) ↔
          ∃ u ∈ ts, p = u.role.place ∧ r.holds u = true := by
        refine exists_congr fun u => and_congr_right fun _ => and_congr_right fun hp => ?_
        subst hp
        rw [holds_congr hkept]
      simp [hkept, hlater, hfirst]

/-- **The order does not matter** to the roster. -/
theorem tearDowns_perm (r : Roster) (h : ts.Perm us) : (r.tearDowns ts).2 = (r.tearDowns us).2 := by
  refine ext_holder fun p => ?_
  simp only [holder_tearDowns, h.mem_iff]

/-- **What teardowns return.** If they are of distinct connections, each returns what it would
have returned at the very beginning. -/
theorem answers_tearDowns (r : Roster) (h : (ts.map (·.id)).Nodup) :
    (r.tearDowns ts).1 = ts.map r.holds := by
  induction ts generalizing r with
  | nil => rfl
  | cons t ts ih =>
    rw [List.map_cons, List.nodup_cons] at h
    obtain ⟨hfirst, hlater⟩ := h
    show (r.tearDown t).1 :: ((r.tearDown t).2.tearDowns ts).1 = r.holds t :: ts.map r.holds
    rw [ih _ hlater, tearDown_fst]
    congr 1
    refine List.map_congr_left fun u hu => holds_tearDown_of_ne fun heq => hfirst ?_
    rw [← heq]
    exact List.mem_map_of_mem hu

/-- Who holds a place after teardowns held it before. -/
theorem holder_of_tearDowns (h : (r.tearDowns ts).2.holder p = some c) : r.holder p = some c := by
  rw [holder_tearDowns] at h
  split at h
  · cases h
  · exact h

/-- A teardown that has been done already does nothing. -/
theorem tearDown_of_mem (h : t ∈ ts) :
    (r.tearDowns ts).2.tearDown t = (false, (r.tearDowns ts).2) := by
  refine tearDown_of_not_holds ?_
  rw [holds, holder_tearDowns]
  cases hheld : r.holds t with
  | true => rw [if_pos ⟨t, h, rfl, hheld⟩]; rfl
  | false =>
    split
    · rfl
    · exact hheld

end Roster

/-! ### Rosters that are reached -/

/-- One change of the roster. -/
inductive Change where
  /-- A peer takes the place of its rank. -/
  | enter (rank : Rank) (c : Contact)
  /-- A connection ends. -/
  | leave (t : Teardown)

/-- Who takes which place. -/
def Change.entry? : Change → Option (Place × Contact)
  | .enter rank c => some (Role.place ⟨rank, c.name⟩, c)
  | .leave _ => none

/-- All places that are taken, with who takes them. -/
def entries (changes : List Change) : List (Place × Contact) := changes.filterMap Change.entry?

theorem mem_entries_cons {x : Change} {changes : List Change} {entry : Place × Contact} :
    entry ∈ entries (x :: changes) ↔ x.entry? = some entry ∨ entry ∈ entries changes := by
  simp [entries, List.mem_filterMap]

namespace Roster

/-- The roster after one change. -/
def change (r : Roster) : Change → Roster
  | .enter rank c => (r.install rank c).2
  | .leave t => (r.tearDown t).2

/-- The roster that an empty one becomes by changes. -/
def changed (changes : List Change) : Roster := changes.foldl change {}

variable {r : Roster} {p : Place} {c : Contact}

/-- Who holds a place after a change took it by that change, or held it before. -/
theorem holder_of_change {x : Change} (h : (r.change x).holder p = some c) :
    x.entry? = some (p, c) ∨ r.holder p = some c := by
  cases x with
  | enter rank d =>
    have hname : d.name = (⟨rank, d.name⟩ : Role).name := rfl
    change (r.install (⟨rank, d.name⟩ : Role).rank d).2.holder p = some c at h
    rw [holder_install r hname] at h
    split at h
    case isTrue hp =>
      cases h
      exact .inl (by rw [hp]; rfl)
    case isFalse => exact .inr h
  | leave t =>
    change (r.tearDown t).2.holder p = some c at h
    rw [holder_tearDown] at h
    split at h
    · cases h
    · exact .inr h

/-- **Who holds a place** has taken it. -/
theorem mem_entries_of_holder {changes : List Change} (h : (changed changes).holder p = some c) :
    (p, c) ∈ entries changes := by
  suffices hfrom : ∀ r : Roster, (changes.foldl change r).holder p = some c →
      (p, c) ∈ entries changes ∨ r.holder p = some c by
    rcases hfrom {} h with hmem | hempty
    · exact hmem
    · cases p <;> cases hempty
  clear h
  induction changes with
  | nil => exact fun r h => .inr h
  | cons x changes ih =>
    intro r h
    rw [mem_entries_cons]
    rcases ih (r.change x) h with hlater | hheld
    · exact .inl (.inr hlater)
    · exact (holder_of_change hheld).imp_left .inl

end Roster

/-! ### Teardowns commute -/

/-- A teardown concerns its own connection only, where places were taken by `taken`. -/
structure Teardown.OwnOnly (taken : List (Place × Contact)) (r : Roster) (t : Teardown) :
    Prop where
  /-- It returns whether its connection holds the place. -/
  answer : (r.tearDown t).1 = true ↔ ∃ c, r.holder t.role.place = some c ∧ c.id = t.id
  /-- For whoever has taken a place under that number: it returns whether the place is given up
  and is still theirs. -/
  own : ∀ p c, (p, c) ∈ taken → c.id = t.id →
    ((r.tearDown t).1 = true ↔ p = t.role.place ∧ r.holder p = some c)
  /-- At most that one place is emptied. -/
  emptied : ∀ p, (r.tearDown t).2.holder p = r.holder p ∨
    (r.tearDown t).1 = true ∧ p = t.role.place ∧ (r.tearDown t).2.holder p = none
  /-- All other connections keep their places. -/
  kept : ∀ p c, r.holder p = some c → c.id ≠ t.id → (r.tearDown t).2.holder p = some c
  /-- If a place was given up, the connection has none any more. -/
  gone : (r.tearDown t).1 = true → ∀ p c, (r.tearDown t).2.holder p = some c → c.id ≠ t.id
  /-- A second time, nothing happens. -/
  again : (r.tearDown t).2.tearDown t = (false, (r.tearDown t).2)

/-- The teardowns `ts` may be done in the order of `us` as well. -/
structure TeardownsCommute (changes : List Change) (ts us : List Teardown) : Prop where
  /-- The roster is the same in the end. -/
  roster : ((Roster.changed changes).tearDowns ts).2 = ((Roster.changed changes).tearDowns us).2
  /-- Each teardown returns the same in both orders: whether its connection held the place before
  any of them. -/
  answers : ∃ answer : Teardown → Bool,
    ((Roster.changed changes).tearDowns ts).1 = ts.map answer ∧
    ((Roster.changed changes).tearDowns us).1 = us.map answer ∧
    ∀ t, answer t = true ↔
      ∃ c, (Roster.changed changes).holder t.role.place = some c ∧ c.id = t.id
  /-- Each concerns its own connection only, whichever were done before it. -/
  each : ∀ before t later, ts = before ++ t :: later →
    t.OwnOnly (entries changes) ((Roster.changed changes).tearDowns before).2
  /-- None does anything when it is repeated in the end. -/
  repeated : ∀ t ∈ ts, ((Roster.changed changes).tearDowns ts).2.tearDown t =
    (false, ((Roster.changed changes).tearDowns ts).2)

/-- One teardown, where every place is held by who took it, and all who did are distinct. -/
theorem Teardown.ownOnly {taken : List (Place × Contact)} {r : Roster} (t : Teardown)
    (hheld : ∀ p c, r.holder p = some c → (p, c) ∈ taken)
    (once : (taken.map (·.2.id)).Nodup) : t.OwnOnly taken r := by
  -- A number stands for one connection, and that has taken one place.
  have hunique {p q : Place} {c d : Contact} (hc : (p, c) ∈ taken) (hd : (q, d) ∈ taken)
      (hid : c.id = d.id) : p = q ∧ c = d :=
    Prod.mk.inj (List.inj_on_of_nodup_map once hc hd hid)
  have hanswer : (r.tearDown t).1 = true ↔ ∃ c, r.holder t.role.place = some c ∧ c.id = t.id := by
    rw [r.tearDown_fst, Roster.holds_iff]
  constructor
  case answer => exact hanswer
  case own =>
    intro p c hc hid
    rw [hanswer]
    constructor
    · rintro ⟨d, hd, hdid⟩
      obtain ⟨rfl, rfl⟩ := hunique hc (hheld _ d hd) (hid.trans hdid.symm)
      exact ⟨rfl, hd⟩
    · rintro ⟨rfl, hholder⟩
      exact ⟨c, hholder, hid⟩
  case emptied =>
    intro p
    rw [r.tearDown_fst, Roster.holder_tearDown]
    split
    case isTrue h => exact .inr ⟨h.2, h.1, rfl⟩
    case isFalse => exact .inl rfl
  case kept =>
    intro p c hc hne
    rw [Roster.holder_tearDown, if_neg, hc]
    rintro ⟨rfl, h⟩
    obtain ⟨d, hd, hid⟩ := Roster.holds_iff.1 h
    rw [hc, Option.some.injEq] at hd
    exact hne (hd ▸ hid)
  case gone =>
    intro h p c hc hid
    obtain ⟨d, hd, hdid⟩ := hanswer.1 h
    rw [Roster.holder_tearDown] at hc
    split at hc
    case isTrue => cases hc
    case isFalse hother =>
      obtain ⟨hp, -⟩ := hunique (hheld p c hc) (hheld _ d hd) (hid.trans hdid.symm)
      exact hother ⟨hp, Roster.holds_iff.2 ⟨d, hd, hdid⟩⟩
  case again => exact Roster.tearDown_of_mem (List.mem_singleton_self t)

/-- **Teardowns commute.** However the roster was reached by connections of which each took its
place once: teardowns of distinct connections may be done in any order. -/
theorem teardowns_commute {changes : List Change}
    (once : ((entries changes).map (·.2.id)).Nodup) {ts us : List Teardown} (order : us.Perm ts)
    (distinct : (ts.map (·.id)).Nodup) : TeardownsCommute changes ts us where
  roster := Roster.tearDowns_perm _ order.symm
  answers := ⟨(Roster.changed changes).holds, Roster.answers_tearDowns _ distinct,
    Roster.answers_tearDowns _ ((order.map _).nodup_iff.2 distinct), fun _ => Roster.holds_iff⟩
  each _ t _ _ := t.ownOnly
    (fun _ _ h => Roster.mem_entries_of_holder (Roster.holder_of_tearDowns h)) once
  repeated _ h := Roster.tearDown_of_mem h

/-- A parent that has been replaced ends, and its successor ends, in both orders. -/
theorem teardowns_of_replaced_parent :
    let changes : List Change := [.enter .parent ⟨1, "child-7", "127.0.0.1:4000", 1⟩,
      .enter .parent ⟨2, "child-8", "127.0.0.1:4001", 2⟩]
    let stale : Teardown := ⟨⟨.parent, "child-7"⟩, 1⟩
    let current : Teardown := ⟨⟨.parent, "child-8"⟩, 2⟩
    ((Roster.changed changes).tearDowns [stale, current]).1 = [false, true] ∧
      ((Roster.changed changes).tearDowns [current, stale]).1 = [true, false] ∧
      TeardownsCommute changes [stale, current] [current, stale] := by
  intro changes stale current
  exact ⟨rfl, rfl, teardowns_commute (by decide) (.swap stale current []) (by decide)⟩

end Overlay
