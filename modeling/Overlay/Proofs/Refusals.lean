import Overlay.Proofs.Balance
import Overlay.Proofs.Lines

namespace Overlay

/-!
# Connections that are turned away

A connection that has come in and takes no place is still introducing itself, or it was refused: its
peer declined, or the exchange of names failed. The node has closed its side of every connection that
was refused.

* `Step.admits` — which connections took a place;
* `Answered` — numbers are given from one on, and whoever has ended has left a record;
* `Deal.welcomes` — whoever gets a number is greeted, or hung up on;
* `Refusals` — what becomes of those who take no place; `refusals_play` — in every schedule.
-/

/-- Whether a connection has taken a place. -/
def Step.admits (s : Step) (id : ConnectionId) : Bool := s.entries.any (·.1 = id)

theorem Step.admits_iff {s : Step} {id : ConnectionId} :
    s.admits id = true ↔ ∃ role, .entered id role ∈ s.effects := by
  simp only [Step.admits, Step.entries, List.any_eq_true, List.mem_filterMap, decide_eq_true_eq]
  constructor
  · rintro ⟨⟨j, role⟩, ⟨e, hmem, hentry⟩, rfl⟩
    cases e <;> cases hentry
    exact ⟨role, hmem⟩
  · rintro ⟨role, hmem⟩
    exact ⟨(id, role), ⟨_, hmem, rfl⟩, rfl⟩

theorem Step.admits_eq_false_iff {s : Step} {id : ConnectionId} :
    s.admits id = false ↔ s.rolesOf id = [] := by
  rw [List.eq_nil_iff_forall_not_mem]
  simp only [Step.mem_rolesOf, Step.admits, List.any_eq_false, decide_eq_true_eq]
  constructor
  · intro h role hmem
    exact h (id, role) hmem rfl
  · rintro h ⟨j, role⟩ hmem rfl
    exact h role hmem

/-! ### Who has a record -/

/-- Numbers are given from one on, and whoever has ended has left a record. -/
structure Answered (s : Step) : Prop where
  /-- The first connection gets the number one. -/
  first : 0 < s.node.nextId
  /-- Nobody has the number zero. -/
  nobody : s.node.stage 0 = .finished ∧ s.acts 0 = []
  /-- Something is recorded of every connection that has ended. -/
  answered : ∀ id, 0 < id → id < s.node.nextId → s.node.stage id = .finished → s.acts id ≠ []

namespace Answered

variable {s t : Step} {id : ConnectionId}

/-- One connection comes to another stage, and if it ends there, something is recorded of that. -/
theorem proceed (hs : Answered s) {stage : Stage} {acts : List Effect}
    (before : s.node.stage id ≠ .finished) (hnext : t.node.nextId = s.node.nextId)
    (hstage : t.node.stage = Function.update s.node.stage id stage) (hrecord : t.record = acts)
    (habout : ∀ e ∈ acts, e.isAbout id = true) (hended : stage = .finished → acts ≠ []) :
    Answered ⟨t.node, s.effects ++ t.effects⟩ := by
  have hzero : id ≠ 0 := fun heq => before (heq ▸ hs.nobody.1)
  have hacts := Step.acts_of_record hrecord habout
  refine ⟨hnext ▸ hs.first, ⟨?_, ?_⟩, ?_⟩
  · show t.node.stage 0 = _
    rw [hstage, Function.update_of_ne hzero.symm]
    exact hs.nobody.1
  · rw [Step.acts_append, hacts, if_neg hzero.symm, hs.nobody.2]
    rfl
  · intro j hpos hlt hfinished
    rw [Step.acts_append, hacts]
    change t.node.stage j = .finished at hfinished
    rw [hstage] at hfinished
    by_cases hj : j = id
    · rw [hj, Function.update_self] at hfinished
      rw [if_pos hj]
      exact List.append_ne_nil_of_right_ne_nil _ (hended hfinished)
    · rw [Function.update_of_ne hj] at hfinished
      exact List.append_ne_nil_of_left_ne_nil (hs.answered j hpos (hnext ▸ hlt) hfinished) _

/-- **A turn leaves a record** of whoever ends by it. -/
theorem turn (hs : Answered s) (h : Turn s.node t) :
    Answered ⟨t.node, s.effects ++ t.effects⟩ := by
  cases h with
  | still standing record =>
    have hnext : t.node.nextId = s.node.nextId := congrArg Standing.nextId standing
    have hstage : t.node.stage = s.node.stage := congrArg Standing.stage standing
    have hacts (j : ConnectionId) : t.acts j = [] := by rw [Step.acts, record]; rfl
    refine ⟨hnext ▸ hs.first, ?_, fun j hpos hlt hfinished => ?_⟩
    · rw [Step.acts_append, hacts, List.append_nil]
      exact hstage ▸ hs.nobody
    · rw [Step.acts_append, hacts, List.append_nil]
      exact hs.answered j hpos (hnext ▸ hlt) (hstage ▸ hfinished)
  | arrive standing record =>
    have hnext : t.node.nextId = s.node.nextId + 1 := congrArg Standing.nextId standing
    have hstage : t.node.stage = Function.update s.node.stage s.node.nextId .introducing :=
      congrArg Standing.stage standing
    have hacts (j : ConnectionId) : t.acts j = [] := by rw [Step.acts, record]; rfl
    refine ⟨hnext ▸ Nat.succ_pos _, ?_, fun j hpos hlt hfinished => ?_⟩
    · rw [Step.acts_append, hacts, List.append_nil]
      refine ⟨?_, hs.nobody.2⟩
      show t.node.stage 0 = _
      rw [hstage, Function.update_of_ne (Nat.ne_of_lt hs.first)]
      exact hs.nobody.1
    · change j < t.node.nextId at hlt
      change t.node.stage j = .finished at hfinished
      rw [Step.acts_append, hacts, List.append_nil]
      -- The newcomer has not ended, and the others came before.
      by_cases hj : j = s.node.nextId
      · rw [hstage, hj, Function.update_self] at hfinished
        cases hfinished
      · rw [hstage, Function.update_of_ne hj] at hfinished
        rw [hnext] at hlt
        have hearlier : j < s.node.nextId := Nat.lt_of_le_of_ne (Nat.le_of_lt_succ hlt) hj
        exact hs.answered j hpos hearlier hfinished
  | refuse id verdict _ before standing record =>
    exact hs.proceed (by simp [before]) (congrArg Standing.nextId standing)
      (congrArg Standing.stage standing) record (by simp [Effect.isAbout]) (by simp)
  | register id role declared before _ standing record =>
    exact hs.proceed (by simp [before]) (congrArg Standing.nextId standing)
      (congrArg Standing.stage standing) record (by simp [Effect.taking, Effect.isAbout]) (by simp)
  | handle id role payload before standing record =>
    have hstage : t.node.stage = Function.update s.node.stage id (.serving role) := by
      rw [← before, Function.update_eq_self]
      exact congrArg Standing.stage standing
    exact hs.proceed (by simp [before]) (congrArg Standing.nextId standing) hstage record
      (fun e he => Effect.isAbout_of_mem_serving he) (by simp)
  | tearDown id role reason before standing record =>
    exact hs.proceed (by simp [before]) (congrArg Standing.nextId standing)
      (congrArg Standing.stage standing) record
      (fun e he => Effect.isAbout_of_mem_leaving he) (by simp [Effect.leaving])

end Answered

/-! ### Who was greeted -/

/-- Whoever gets a number is greeted, or hung up on. -/
theorem Deal.welcomes {n : Node} {s : Step} (h : Deal n s) :
    s.node.nextId = n.nextId ∨ s.node.nextId = n.nextId + 1 ∧ s.trafficOf n.nextId ≠ [] := by
  cases h with
  | greet _ outlook traffic | snub _ outlook traffic =>
    refine .inr ⟨congrArg Outlook.nextId outlook, ?_⟩
    rw [Step.trafficOf, traffic]
    simp [Effect.isFor]
  | work id worked =>
    cases worked with
    | idle node => exact .inl (by rw [node])
    | write _ _ _ _ _ outlook | retire _ _ _ _ _ outlook | choke _ _ _ _ outlook =>
      exact .inl (congrArg Outlook.nextId outlook)
  | still outlook | refuse _ _ outlook | register _ _ _ outlook | tearDown _ _ _ outlook
  | take _ _ _ _ outlook | keep _ _ _ outlook | release _ outlook | impair _ _ outlook =>
    exact .inl (congrArg Outlook.nextId outlook)

/-- A connection that came in and has ended was hung up on. -/
theorem Line.hungUp_of_finished {greeting : ByteArray} {id : ConnectionId} {o : Outlet}
    {acts : List Effect} (h : Line greeting id o acts) (ended : o.stage = .finished)
    (came : acts ≠ []) : o.sending = false ∧ .hungUp id ∈ acts := by
  cases h with
  | outside => exact absurd rfl came
  | snubbed | ended => simp
  | introducing | serving | muted => cases ended

/-! ### What becomes of those who take no place -/

/-- What becomes of connections that take no place. -/
structure Refusals (s : Step) : Prop where
  /-- Nobody takes a place who has not come in. -/
  outside : ∀ id, id = 0 ∨ s.node.nextId ≤ id → s.admits id = false
  /-- Whoever has come in and taken no place is still introducing itself, or was refused. -/
  unaccepted : ∀ id, 0 < id → id < s.node.nextId →
    (s.admits id = false ↔ s.node.stage id = .introducing ∨
      ∃ verdict, verdict.isRefusal = true ∧ .logged (some id) verdict ∈ s.effects)
  /-- Whoever was refused has come to the end, and the node has closed its side. -/
  closed : ∀ id verdict, verdict.isRefusal = true → .logged (some id) verdict ∈ s.effects →
    s.node.stage id = .finished ∧ (s.node.outlet id).sending = false ∧ s.hangsUpOn id = true

/-- A connection that was refused has ended. -/
theorem Passage.finished_of_refusal {id : ConnectionId} {stage : Stage} {acts : List Effect}
    (h : Passage id stage acts) {verdict : Log.Entry} (refusal : verdict.isRefusal = true)
    (hmem : .logged (some id) verdict ∈ acts) : stage = .finished := by
  have hrole := h.no_role_of_refusal refusal hmem
  cases h with
  | introducing => cases hmem
  | serving role payloads => simp at hrole
  | outside | refused | gone => rfl

namespace Node

variable (localName : String) (handler : Handler) (bus : Bus)

theorem answered_play (ps : List Pulse) : Answered ((fresh localName handler bus).play ps) := by
  refine (play_moves _ ps).induct ⟨Nat.one_pos, ⟨rfl, rfl⟩, ?_⟩ fun hs _ h => hs.turn h.turn
  intro id hpos hlt
  exact absurd hlt (Nat.not_lt_of_le hpos)

/-- Whoever has come in was greeted, or hung up on. -/
theorem welcomed_play (ps : List Pulse) : ∀ id, 0 < id →
    id < ((fresh localName handler bus).play ps).node.nextId →
      ((fresh localName handler bus).play ps).trafficOf id ≠ [] := by
  refine (play_deals _ ps).induct (P := fun s => ∀ id, 0 < id → id < s.node.nextId →
    s.trafficOf id ≠ []) ?_ ?_
  · intro id hpos hlt
    exact absurd hlt (Nat.not_lt_of_le hpos)
  · intro s t hs hdeal id hpos hlt
    rw [Step.trafficOf_join]
    change id < t.node.nextId at hlt
    rcases hdeal.welcomes with hnext | ⟨hnext, hwelcome⟩
    · exact List.append_ne_nil_of_left_ne_nil (hs id hpos (hnext ▸ hlt)) _
    · by_cases hid : id = s.node.nextId
      · exact List.append_ne_nil_of_right_ne_nil _ (hid ▸ hwelcome)
      · rw [hnext] at hlt
        have hearlier : id < s.node.nextId := Nat.lt_of_le_of_ne (Nat.le_of_lt_succ hlt) hid
        exact List.append_ne_nil_of_left_ne_nil (hs id hpos hearlier) _

/-- **Whoever takes no place** is still introducing itself, or was refused and closed, at whatever
pace writers work. -/
theorem refusals_play (ps : List Pulse) :
    Refusals ((fresh localName handler bus).play ps) := by
  have horderly := (placed_play localName handler bus ps).orderly
  have hanswered := answered_play localName handler bus ps
  have hline := (conducted_play localName handler bus ps).line
  have hwelcomed := welcomed_play localName handler bus ps
  generalize (fresh localName handler bus).play ps = s at horderly hanswered hline hwelcomed
  refine ⟨?_, ?_, ?_⟩
  · intro id hid
    rw [Step.admits_eq_false_iff]
    rcases hid with rfl | hlt
    · rw [Step.rolesOf, hanswered.nobody.2]
      rfl
    · exact horderly.rolesOf_of_outside hlt
  · intro id hpos hlt
    rw [Step.admits_eq_false_iff]
    have hpassage := horderly.passage id
    constructor
    · intro hroles
      by_cases hstage : s.node.stage id = .introducing
      · exact .inl hstage
      · have hsome := hanswered.answered id hpos hlt
        have hacts : ∀ e ∈ s.acts id, e ∈ s.effects := fun e he =>
          List.mem_of_mem_filter (List.mem_of_mem_filter he)
        unfold Step.rolesOf at hroles
        generalize s.node.stage id = stage at hpassage hstage hsome
        generalize s.acts id = acts at hpassage hsome hroles hacts
        cases hpassage with
        | outside => exact absurd rfl (hsome rfl)
        | introducing => exact absurd rfl hstage
        | refused verdict refusal => exact .inr ⟨verdict, refusal, hacts _ List.mem_cons_self⟩
        | serving role payloads => simp at hroles
        | gone role payloads reason => simp at hroles
    · rintro (hstage | ⟨verdict, refusal, hmem⟩)
      · exact horderly.rolesOf_of_introducing hstage
      · exact hpassage.no_role_of_refusal refusal (Step.mem_acts_of_refusal hmem refusal)
  · intro id verdict refusal hmem
    have hacts := Step.mem_acts_of_refusal hmem refusal
    have hfinished := (horderly.passage id).finished_of_refusal refusal hacts
    -- Something is recorded of the connection, so it has come in.
    have hpos : 0 < id := by
      refine Nat.pos_of_ne_zero fun hzero => ?_
      rw [hzero, hanswered.nobody.2] at hacts
      cases hacts
    have hlt : id < s.node.nextId := by
      by_contra hge
      rw [(horderly.outside id (Nat.le_of_not_lt hge)).2] at hacts
      cases hacts
    have hended : (s.node.outlet id).stage = .finished := by rw [outlet_stage, hfinished]
    obtain ⟨hsending, hhungUp⟩ := (hline id).hungUp_of_finished hended (hwelcomed id hpos hlt)
    exact ⟨hfinished, hsending, (s.hangsUpOn_iff id).2 hhungUp⟩

end Node

end Overlay
