import Mathlib.Data.Nat.Count
import Overlay.Proofs.Outboxes
import Overlay.Proofs.Passage

namespace Overlay

/-!
# Leaving connections out

Connections are numbered as they come. When some of them are left out, those behind them move up,
and their order stays the same.

* `renumber` — the number that a connection gets when only some come;
* `Contact.renumber`, `Roster.renumber`, `Effect.renumber` — the same for all that carries numbers;
* `Roster.install_renumber`, `Roster.withdraw_renumber` — places are taken and left in the same way
  under the new numbers;
* `Step.visible` — what a step does for everybody but the connections that are left out.
-/

/-! ### Numbers -/

/-- The number of a connection when only the connections in `stays` come. -/
def renumber (stays : ConnectionId → Bool) (id : ConnectionId) : ConnectionId :=
  Nat.count (fun j => stays j = true) id + 1

section Numbers

variable {stays : ConnectionId → Bool} {id j : ConnectionId}

theorem renumber_succ_of_stays (h : stays id = true) :
    renumber stays (id + 1) = renumber stays id + 1 := by
  simp [renumber, Nat.count_succ, h]

/-- A connection that is left out takes no number. -/
theorem renumber_succ_of_leaves (h : stays id = false) :
    renumber stays (id + 1) = renumber stays id := by
  simp [renumber, Nat.count_succ, h]

/-- The order stays the same. -/
theorem renumber_lt (h : stays id = true) (hlt : id < j) : renumber stays id < renumber stays j :=
  Nat.succ_lt_succ (Nat.count_strict_mono h hlt)

theorem renumber_inj (h : stays id = true) (hj : stays j = true) :
    renumber stays id = renumber stays j ↔ id = j := by
  constructor
  · intro heq
    exact Nat.count_injective h hj (Nat.succ_injective heq)
  · intro heq
    rw [heq]

end Numbers

/-! ### Contacts and rosters -/

/-- A contact under its connection's new number. -/
def Contact.renumber (ρ : ConnectionId → ConnectionId) (c : Contact) : Contact :=
  { c with id := ρ c.id, outbox := ρ c.outbox }

namespace Roster

/-- A roster under new numbers. -/
def renumber (ρ : ConnectionId → ConnectionId) (r : Roster) : Roster where
  parent := r.parent.map (·.renumber ρ)
  clients := r.clients.map fun _ c => c.renumber ρ

variable (ρ : ConnectionId → ConnectionId) (r : Roster)

theorem client?_renumber (name : String) :
    (r.renumber ρ).client? name = (r.client? name).map (·.renumber ρ) :=
  Std.ExtTreeMap.getElem?_map

theorem holder_renumber (p : Place) :
    (r.renumber ρ).holder p = (r.holder p).map (·.renumber ρ) := by
  cases p with
  | parent => rfl
  | client name => exact r.client?_renumber ρ name

theorem values_renumber :
    (r.renumber ρ).clients.values = r.clients.values.map (·.renumber ρ) := by
  rw [values_eq_map_toList, values_eq_map_toList, renumber, Std.ExtTreeMap.toList_map,
    List.map_map, List.map_map]
  rfl

/-- **A place is taken in the same way** under new numbers. -/
theorem install_renumber (role : Role) (c : Contact) (h : c.name = role.name) :
    ((r.renumber ρ).install role.rank (c.renumber ρ)).2 =
      (r.install role.rank c).2.renumber ρ := by
  refine ext_holder fun p => ?_
  have hname : (c.renumber ρ).name = role.name := h
  rw [holder_renumber, holder_install _ hname, holder_install _ h, holder_renumber]
  split <;> rfl

variable {ρ} {r}

/-- **A place is left in the same way** under new numbers, if they keep apart who holds it. -/
theorem withdraw_renumber (role : Role) {id : ConnectionId}
    (apart : ∀ p c, r.holder p = some c → ρ c.id = ρ id → c.id = id) :
    ((r.renumber ρ).withdraw role (ρ id)).2 = (r.withdraw role id).2.renumber ρ := by
  refine ext_holder fun p => ?_
  rw [holder_renumber, holder_withdraw, holder_withdraw, holder_renumber]
  cases hp : r.holder p with
  | none => simp
  | some c =>
    have hid : ρ c.id = ρ id ↔ c.id = id := ⟨apart p c hp, congrArg ρ⟩
    simp only [Option.map_some, Option.any_some, Contact.renumber, hid]
    split <;> rfl

end Roster

/-! ### Acts -/

namespace Effect

/-- An act under new numbers. -/
def renumber (ρ : ConnectionId → ConnectionId) : Effect → Effect
  | .logged source e => .logged (source.map ρ) e
  | .entered id role => .entered (ρ id) role
  | .left id role => .left (ρ id) role
  | .published id e => .published (ρ id) e
  | .handled id m => .handled (ρ id) m
  | .accepted id payload => .accepted (ρ id) payload
  | .sent id bytes => .sent (ρ id) bytes
  | .hungUp id => .hungUp (ρ id)

/-- Whether an act is of any concern when only the connections in `stays` are looked at: it is not
just logged, and it is not just between the node and a peer that is left out. -/
def isVisible (stays : ConnectionId → Bool) : Effect → Bool
  | .logged .. => false
  | .accepted id _ | .sent id _ | .hungUp id => stays id
  | _ => true

/-- What is visible stays so among the connections that stay. -/
theorem isVisible_renumber {stays : ConnectionId → Bool} {e : Effect}
    (h : e.isVisible stays = true) (ρ : ConnectionId → ConnectionId) :
    (e.renumber ρ).isVisible (fun _ => true) = true := by
  cases e with
  | logged => cases h
  | _ => rfl

/-- The message that is handled. -/
def message? : Effect → Option Message
  | .handled _ m => some m
  | _ => none

end Effect

namespace Step

/-- What a step does for everybody but the connections that are left out. -/
def visible (stays : ConnectionId → Bool) (s : Step) : List Effect :=
  s.effects.filter (·.isVisible stays)

/-- The messages that a step gives to the handler, in order. -/
def messages (s : Step) : List Message := s.effects.filterMap Effect.message?

section Visible

variable (stays : ConnectionId → Bool)

theorem visible_andThen (s : Step) (next : Node → Step) :
    (s.andThen next).visible stays = s.visible stays ++ (next s.node).visible stays := by
  simp [visible, List.filter_append]

/-- What is only logged is not visible. -/
theorem visible_logged (n : Node) (source : Option ConnectionId) (entries : List Log.Entry) :
    (⟨n, entries.map (.logged source)⟩ : Step).visible stays = [] := by
  simp [visible, Effect.isVisible]

variable {stays} in
/-- What can be read off visible acts alone. -/
theorem filterMap_visible {α : Type} {f : Effect → Option α}
    (h : ∀ e, e.isVisible stays = false → f e = none) (s : Step) :
    (s.visible stays).filterMap f = s.effects.filterMap f := filterMap_filter_eq h s.effects

end Visible

end Step

end Overlay
