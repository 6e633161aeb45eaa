import Mathlib.Data.List.Induction
import Overlay.Proofs.Books
import Overlay.Proofs.ByteOrder

namespace Overlay

/-!
# Look-ups and history

A roster can be asked about its parent and its clients in several ways. All answers agree, and they
follow from what has been done to the roster: a place is held by who took it last, if nobody has
given it up since.

* `Deed`, `Roster.history` — the changes of a roster, with what each of them returned;
* `Kept` — what a history says about who holds a place;
* `Roster.holder_change_iff` — what one change makes of that, `Roster.holder_changed_iff` — what any
  number of them do;
* `Roster.clientNames_ascending` — the order in which clients are listed;
* `lookups_agree` — all answers of a roster, after any changes.
-/

/-! ### What changes return -/

/-- The place that a change is about. -/
def Change.place : Change → Place
  | .enter rank c => Role.place ⟨rank, c.name⟩
  | .leave t => t.role.place

/-- A change of the roster, with what it returned. -/
inductive Deed where
  /-- A contact took the place of a rank, which `former` had held. -/
  | entered (rank : Rank) (c : Contact) (former : Option Contact)
  /-- A connection ended; it did or did not give up its place. -/
  | left (t : Teardown) (gaveUp : Bool)

namespace Deed

/-- A contact took a place. -/
def Takes : Deed → Place → Contact → Prop
  | entered rank c _, p, d => d = c ∧ p = Role.place ⟨rank, c.name⟩
  | left .., _, _ => False

/-- A place was given up. -/
def GivesUp : Deed → Place → Prop
  | entered .., _ => False
  | left t gaveUp, p => p = t.role.place ∧ gaveUp = true

end Deed

/-- By this history, `c` took the place last, and nobody has given it up since. -/
def Kept (past : List Deed) (p : Place) (c : Contact) : Prop :=
  ∃ earlier d later, past = earlier ++ d :: later ∧ d.Takes p c ∧
    ∀ e ∈ later, ¬ e.GivesUp p ∧ ∀ other, ¬ e.Takes p other

theorem not_kept_nil {p : Place} {c : Contact} : ¬ Kept [] p c := by
  rintro ⟨earlier, d, later, hnil, -⟩
  simp at hnil

/-- The last deed decides, if it concerns the place at all. -/
theorem kept_append_iff {past : List Deed} {d : Deed} {p : Place} {c : Contact} :
    Kept (past ++ [d]) p c ↔
      d.Takes p c ∨ Kept past p c ∧ ¬ d.GivesUp p ∧ ∀ other, ¬ d.Takes p other := by
  constructor
  · rintro ⟨earlier, e, later, heq, htakes, hlater⟩
    rcases later.eq_nil_or_concat' with rfl | ⟨later, f, rfl⟩
    · obtain ⟨-, hd⟩ := List.append_inj' heq rfl
      obtain ⟨rfl, -⟩ := List.cons.inj hd
      exact .inl htakes
    · rw [← List.cons_append, ← List.append_assoc] at heq
      obtain ⟨rfl, hd⟩ := List.append_inj' heq rfl
      obtain ⟨rfl, -⟩ := List.cons.inj hd
      rw [List.forall_mem_append, List.forall_mem_singleton] at hlater
      exact .inr ⟨⟨earlier, e, later, rfl, htakes, hlater.1⟩, hlater.2⟩
  · rintro (htakes | ⟨⟨earlier, e, later, rfl, htakes, hlater⟩, hd⟩)
    · exact ⟨past, d, [], rfl, htakes, by simp⟩
    · refine ⟨earlier, e, later ++ [d], by simp, htakes, ?_⟩
      rw [List.forall_mem_append, List.forall_mem_singleton]
      exact ⟨hlater, hd⟩

namespace Roster

variable {r : Roster} {x : Change} {p : Place} {c : Contact} {name : String}

/-- A change, with what it returns. -/
def deed (r : Roster) : Change → Deed
  | .enter rank c => .entered rank c (r.install rank c).1
  | .leave t => .left t (r.tearDown t).1

/-- Changes one after another, with what each of them returns. -/
def deeds (r : Roster) : List Change → List Deed
  | [] => []
  | x :: changes => r.deed x :: (r.change x).deeds changes

/-- What has been done to a roster that was empty in the beginning. -/
def history (changes : List Change) : List Deed := ({} : Roster).deeds changes

theorem changed_append (changes : List Change) (x : Change) :
    changed (changes ++ [x]) = (changed changes).change x := by
  simp [changed]

theorem history_append (changes : List Change) (x : Change) :
    history (changes ++ [x]) = history changes ++ [(changed changes).deed x] := by
  suffices hfrom : ∀ r : Roster,
      r.deeds (changes ++ [x]) = r.deeds changes ++ [(changes.foldl change r).deed x] from
    hfrom {}
  induction changes with
  | nil => exact fun _ => rfl
  | cons y changes ih => exact fun r => congrArg (r.deed y :: ·) (ih (r.change y))

/-! ### One change -/

/-- Taking a place returns who held it. -/
theorem install_fst (r : Roster) (rank : Rank) (c : Contact) :
    (r.install rank c).1 = r.holder (Role.place ⟨rank, c.name⟩) := by
  cases rank <;> rfl

/-- A contact that takes a place takes the one of its own name. -/
theorem holder_install_own (r : Roster) (rank : Rank) (c : Contact) (p : Place) :
    (r.install rank c).2.holder p =
      if p = Role.place ⟨rank, c.name⟩ then some c else r.holder p := by
  have hname : c.name = (⟨rank, c.name⟩ : Role).name := rfl
  exact r.holder_install hname p

/-- **Who holds a place after a change**, by what the change returned. -/
theorem holder_change_iff : (r.change x).holder p = some c ↔
    (r.deed x).Takes p c ∨
      r.holder p = some c ∧ ¬ (r.deed x).GivesUp p ∧ ∀ other, ¬ (r.deed x).Takes p other := by
  cases x with
  | enter rank d =>
    change (r.install rank d).2.holder p = some c ↔ _
    simp only [holder_install_own, deed, Deed.Takes, Deed.GivesUp]
    by_cases hp : p = Role.place ⟨rank, d.name⟩
    · simp [hp, eq_comm]
    · simp [hp]
  | leave t =>
    change (r.tearDown t).2.holder p = some c ↔ _
    simp only [holder_tearDown, deed, tearDown_fst, Deed.Takes, Deed.GivesUp]
    by_cases hp : p = t.role.place ∧ r.holds t = true
    · simp [hp]
    · simp [hp]

/-- A change concerns one place; whoever holds another one keeps it. -/
theorem holder_change_of_ne (h : p ≠ x.place) : (r.change x).holder p = r.holder p := by
  cases x with
  | enter rank d => exact (r.holder_install_own rank d p).trans (if_neg h)
  | leave t => exact (r.holder_tearDown t p).trans (if_neg fun hp => h hp.1)

/-! ### Any number of changes -/

/-- **Who holds a place** took it last, and nobody has given it up since. -/
theorem holder_changed_iff {changes : List Change} :
    (changed changes).holder p = some c ↔ Kept (history changes) p c := by
  induction changes using List.reverseRecOn with
  | nil =>
    refine iff_of_false ?_ not_kept_nil
    cases p <;> exact nofun
  | append_singleton changes x ih =>
    rw [changed_append, history_append, kept_append_iff, holder_change_iff, ih]

/-! ### Lists of clients -/

/-- Clients are listed in the order of the bytes of their names, each once. -/
theorem clientNames_ascending (r : Roster) :
    r.clientNames.Pairwise fun a b => a.toUTF8.data.toList < b.toUTF8.data.toList := by
  refine (Std.ExtTreeMap.ordered_keys (t := r.clients)).imp fun {a b} h => Text.bytes_lt ?_
  exact compareOfLessAndEq_eq_lt.1 h

theorem hasClient_iff : r.hasClient name = true ↔ ∃ c, r.client? name = some c := by
  unfold hasClient client?
  rw [Std.ExtTreeMap.contains_eq_isSome_getElem?, Option.isSome_iff_exists]

theorem mem_clientNames_iff_hasClient : name ∈ r.clientNames ↔ r.hasClient name = true := by
  unfold clientNames hasClient
  rw [Std.ExtTreeMap.mem_keys, Std.ExtTreeMap.mem_iff_contains]

end Roster

/-! ### All answers at once -/

/-- The answers of a roster agree with each other and with what has been done to it. -/
structure LookUpsAgree (past : List Deed) (r : Roster) : Prop where
  /-- A client goes by the name under which it is found. -/
  named : ∀ name c, r.client? name = some c → c.name = name
  /-- Whoever takes a place gets back exactly who held it, and holds it from then on. -/
  displaced : ∀ rank c, (r.install rank c).1 = r.holder (Role.place ⟨rank, c.name⟩) ∧
    (r.install rank c).2.holder (Role.place ⟨rank, c.name⟩) = some c
  /-- The names of clients are listed in the order of their bytes, each once. -/
  ascending : r.clientNames.Pairwise fun a b => a.toUTF8.data.toList < b.toUTF8.data.toList
  /-- A name is listed exactly if the roster says that it has a client of this name. -/
  listed : ∀ name, name ∈ r.clientNames ↔ r.hasClient name = true
  /-- The roster says so exactly if a client is found under the name. -/
  found : ∀ name, r.hasClient name = true ↔ ∃ c, r.client? name = some c
  /-- The client that is found took the name last, and nobody has given it up since; if there is
  no such client, none is found. -/
  client : ∀ name c, r.client? name = some c ↔ Kept past (.client name) c
  /-- There are as many clients as names. -/
  count : r.clientCount = r.clientNames.length
  /-- The roster says that it has a parent exactly if a parent is found. -/
  hasParent : r.hasParent = true ↔ ∃ c, r.parent = some c
  /-- The parent's name is that of the parent who is found. -/
  parentName : ∀ name, r.parentName = some name ↔ ∃ c, r.parent = some c ∧ c.name = name
  /-- The parent who is found took that place last, and nobody has given it up since; if there is
  no such contact, none is found. -/
  parent : ∀ c, r.parent = some c ↔ Kept past .parent c
  /-- A place is given up exactly if somebody holds it under the number that is given. -/
  gaveUp : ∀ t, (r.tearDown t).1 = true ↔ ∃ c, r.holder t.role.place = some c ∧ c.id = t.id
  /-- Nobody holds a place that has just been given up. -/
  emptied : ∀ t, (r.tearDown t).1 = true → (r.tearDown t).2.holder t.role.place = none
  /-- If a place is not given up, nothing changes at all. -/
  refused : ∀ t, (r.tearDown t).1 = false → (r.tearDown t).2 = r
  /-- Places that a change is not about stay as they were. -/
  others : ∀ x p, p ≠ x.place → (r.change x).holder p = r.holder p

/-- **Look-ups agree** with each other and with the history, whatever was done to a roster: any
contacts, with any names and numbers, took places, and any connections gave them up. -/
theorem lookups_agree (changes : List Change) :
    LookUpsAgree (Roster.history changes) (Roster.changed changes) where
  named name c h :=
    Switchboard.name_of_entry (Roster.mem_entries_of_holder (p := .client name) h)
  displaced rank c := by
    rw [Roster.install_fst, Roster.holder_install_own, if_pos rfl]
    exact ⟨rfl, rfl⟩
  ascending := Roster.clientNames_ascending _
  listed _ := Roster.mem_clientNames_iff_hasClient
  found _ := Roster.hasClient_iff
  client name _ := Roster.holder_changed_iff (p := .client name)
  count := Std.ExtTreeMap.length_keys.symm
  hasParent := Option.isSome_iff_exists
  parentName _ := Option.map_eq_some_iff
  parent _ := Roster.holder_changed_iff (p := .parent)
  gaveUp t := by rw [Roster.tearDown_fst, Roster.holds_iff]
  emptied t h := by
    rw [Roster.tearDown_fst] at h
    rw [Roster.holder_tearDown, if_pos ⟨rfl, h⟩]
  refused t h := by
    rw [Roster.tearDown_fst] at h
    rw [Roster.tearDown_of_not_holds h]
  others _ _ := Roster.holder_change_of_ne

/-- Letters that are not ASCII come last, and a name is not given up under another's number. -/
example :
    let changes : List Change := [.enter .api ⟨1, "api-é", "127.0.0.1:4000", 1⟩,
      .enter .api ⟨2, "api-z", "127.0.0.1:4001", 2⟩, .leave ⟨⟨.api, "api-z"⟩, 1⟩]
    (Roster.changed changes).clientNames = ["api-z", "api-é"] := by decide +kernel

end Overlay
