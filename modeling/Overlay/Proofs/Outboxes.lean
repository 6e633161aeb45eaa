import Overlay.Proofs.Places

namespace Overlay

/-!
# Queues of outgoing frames

A switchboard seen by its look-ups: what waits for each connection, and whose contacts are about.

* `Switchboard.outbox` — the queue of a connection; one lemma for each operation says which queue
  it changes, and how;
* `Switchboard.Knows` — a contact is about, in the roster or outside; `isReferenced_iff` says that
  this is what keeps a writer going;
* `Switchboard.send_cases` — one payload to one contact is queued, or nothing happens;
* `Switchboard.post_accepted`, `Switchboard.post_refused` — who accepts a payload that is sent along
  a route, and what becomes of one that nobody accepts.
-/

/-- A queue without a reader. -/
def Mailbox.shut {α : Type} : Mailbox α := ⟨[], false⟩

/-- The entries of a map, without their keys. -/
theorem values_eq_map_toList {α β : Type} [Ord α] [Std.TransOrd α] (m : Std.ExtTreeMap α β) :
    m.values = m.toList.map Prod.snd := by
  -- The library says so of the tree inside only.
  obtain ⟨m⟩ := m
  induction m using Std.ExtDTreeMap.inductionOn with
  | mk m =>
    obtain ⟨t, h⟩ := m
    show Std.DTreeMap.Internal.Impl.values t =
      (Std.DTreeMap.Internal.Impl.Const.toList t).map Prod.snd
    rw [Std.DTreeMap.Internal.Impl.values_eq_map_snd,
      Std.DTreeMap.Internal.Impl.Const.toList_eq_toListModel_map]
    simp

/-- Whatever is in a map can be looked up. -/
theorem mem_values_iff {α β : Type} [Ord α] [Std.TransOrd α] [Std.LawfulEqOrd α]
    {m : Std.ExtTreeMap α β} {v : β} : v ∈ m.values ↔ ∃ k : α, m[k]? = some v := by
  rw [values_eq_map_toList, List.mem_map]
  constructor
  · rintro ⟨⟨k, v⟩, hmem, rfl⟩
    exact ⟨k, Std.ExtTreeMap.mem_toList_iff_getElem?_eq_some.1 hmem⟩
  · rintro ⟨k, hk⟩
    exact ⟨(k, v), Std.ExtTreeMap.mem_toList_iff_getElem?_eq_some.2 hk, rfl⟩

namespace Switchboard

/-! ### Queues -/

/-- The queue of a connection. One that was never set up has no reader. -/
def outbox (b : Switchboard) (key : OutboxId) : Mailbox ByteArray := b.outboxes[key]?.getD .shut

theorem isOpen_eq (b : Switchboard) (key : OutboxId) : b.isOpen key = (b.outbox key).isOpen := by
  unfold isOpen outbox
  cases b.outboxes[key]? <;> rfl

theorem waiting_eq (b : Switchboard) (key : OutboxId) :
    b.waiting key = (b.outbox key).queued := by
  unfold waiting outbox
  cases b.outboxes[key]? <;> rfl

/-- Changing one queue changes no other. A queue without a reader stays as it is. -/
theorem outbox_modify (b : Switchboard) (key : OutboxId)
    {change : Mailbox ByteArray → Mailbox ByteArray} (h : change .shut = .shut) :
    ({ b with outboxes := b.outboxes.modify key change } : Switchboard).outbox =
      Function.update b.outbox key (change (b.outbox key)) := by
  funext j
  unfold outbox
  rw [lookup_modify, Function.update_apply]
  split
  case isTrue hj =>
    rw [hj]
    cases b.outboxes[key]? with
    | none => exact h.symm
    | some box => rfl
  case isFalse => rfl

theorem outbox_openOutbox (b : Switchboard) (key : OutboxId) :
    (b.openOutbox key).outbox = Function.update b.outbox key {} := by
  funext j
  unfold outbox openOutbox
  rw [lookup_insert, Function.update_apply]
  split <;> rfl

theorem outbox_closeOutbox (b : Switchboard) (key : OutboxId) :
    (b.closeOutbox key).outbox = Function.update b.outbox key .shut :=
  outbox_modify b key rfl

/-- A frame goes behind those that wait already. -/
theorem outbox_enqueue (b : Switchboard) {key : OutboxId} (h : b.isOpen key = true)
    (frame : ByteArray) :
    (b.enqueue key frame).outbox =
      Function.update b.outbox key ⟨(b.outbox key).queued ++ [frame], true⟩ := by
  have hopen : (b.outbox key).isOpen = true := by rwa [← isOpen_eq]
  have henqueue : (b.enqueue key frame).outbox =
      Function.update b.outbox key ((b.outbox key).post frame).2 := outbox_modify b key rfl
  rw [henqueue, Mailbox.post_of_open hopen]

/-- Everything is taken out of a queue that has a reader. -/
theorem drain_eq (b : Switchboard) {key : OutboxId} (h : b.isOpen key = true) :
    (b.drain key).1 = some (b.outbox key).queued ∧
      (b.drain key).2.outbox = Function.update b.outbox key {} := by
  have hopen : (b.outbox key).isOpen = true := by rwa [← isOpen_eq]
  unfold drain
  rw [if_pos h]
  refine ⟨congrArg some (b.waiting_eq key), ?_⟩
  let change : Mailbox ByteArray → Mailbox ByteArray := fun outbox => outbox.drain.2
  have hdrain : ({ b with outboxes := b.outboxes.modify key change } : Switchboard).outbox =
      Function.update b.outbox key ⟨[], (b.outbox key).isOpen⟩ := outbox_modify b key rfl
  rw [hopen] at hdrain
  exact hdrain

/-- Nothing can be taken out of a queue without a reader. -/
theorem drain_of_shut (b : Switchboard) {key : OutboxId} (h : b.isOpen key = false) :
    b.drain key = (none, b) := by
  unfold drain
  rw [if_neg (by simp [h])]

/-- Taking everything out of an empty queue leaves it as it is. -/
theorem drain_of_empty (b : Switchboard) {key : OutboxId} (h : b.isOpen key = true)
    (hempty : (b.outbox key).queued = []) : b.drain key = (some [], b) := by
  unfold drain
  rw [if_pos h, waiting_eq, hempty]
  refine Prod.ext rfl (congrArg (fun outboxes => { b with outboxes }) ?_)
  refine Std.ExtTreeMap.ext_getElem? fun j => ?_
  rw [lookup_modify]
  split
  case isFalse => rfl
  case isTrue hj =>
    unfold outbox at hempty
    rw [hj]
    cases hbox : b.outboxes[key]? with
    | none => rfl
    | some box =>
      rw [hbox] at hempty
      obtain ⟨queued, isOpen⟩ := box
      cases hempty
      rfl

/-! ### Contacts that are about -/

/-- A contact is about: it holds a place, or other code keeps a copy of it. -/
def Knows (b : Switchboard) (c : Contact) : Prop :=
  (∃ p, b.roster.holder p = some c) ∨ ∃ label : String, b.kept[label]? = some c

/-- Roster and copies say whose contacts are about. -/
theorem knows_congr {b b' : Switchboard} (hroster : b'.roster = b.roster)
    (hkept : b'.kept = b.kept) {c : Contact} : b'.Knows c ↔ b.Knows c := by
  unfold Knows
  rw [hroster, hkept]

/-- Whoever holds a place is listed. -/
theorem mem_contacts_iff {r : Roster} {c : Contact} :
    c ∈ r.contacts ↔ ∃ p, r.holder p = some c := by
  unfold Roster.contacts
  rw [List.mem_append, mem_values_iff, Option.mem_toList]
  constructor
  · rintro (hparent | ⟨name, hname⟩)
    · exact ⟨.parent, hparent⟩
    · exact ⟨.client name, hname⟩
  · rintro ⟨p, hp⟩
    cases p with
    | parent => exact .inl hp
    | client name => exact .inr ⟨name, hp⟩

/-- A writer goes on exactly as long as a contact with its queue is about. -/
theorem isReferenced_iff {b : Switchboard} {key : OutboxId} :
    b.isReferenced key = true ↔ ∃ c, b.Knows c ∧ c.outbox = key := by
  unfold isReferenced Knows
  simp only [Bool.or_eq_true, List.any_eq_true, decide_eq_true_eq, mem_contacts_iff,
    mem_values_iff]
  constructor
  · rintro (⟨c, hplace, hkey⟩ | ⟨c, hkept, hkey⟩)
    · exact ⟨c, .inl hplace, hkey⟩
    · exact ⟨c, .inr hkept, hkey⟩
  · rintro ⟨c, hplace | hkept, hkey⟩
    · exact .inl ⟨c, hplace, hkey⟩
    · exact .inr ⟨c, hkept, hkey⟩

/-- Every route leads to contacts that are about. -/
theorem knows_of_mem_addressees {b : Switchboard} {route : Route} {c : Contact}
    (h : c ∈ b.addressees route) : b.Knows c := by
  cases route with
  | parent => exact .inl ⟨.parent, Option.mem_toList.1 h⟩
  | client name => exact .inl ⟨.client name, Option.mem_toList.1 h⟩
  | clients =>
    obtain ⟨name, hname⟩ := mem_values_iff.1 h
    exact .inl ⟨.client name, hname⟩
  | kept label => exact .inr ⟨label, Option.mem_toList.1 h⟩

/-- Contacts on one route are distinct in whatever tells clients apart. -/
theorem addressees_nodup_map {α : Type} {b : Switchboard} {f : Contact → α}
    (h : ∀ name name' c d, b.roster.holder (.client name) = some c →
      b.roster.holder (.client name') = some d → f c = f d → name = name') (route : Route) :
    ((b.addressees route).map f).Nodup := by
  have hone (c? : Option Contact) : (c?.toList.map f).Nodup := by
    cases c? <;> simp
  cases route with
  | parent => exact hone _
  | client name => exact hone _
  | kept label => exact hone _
  | clients =>
    show (b.roster.clients.values.map f).Nodup
    rw [values_eq_map_toList, List.map_map, List.Nodup, List.pairwise_map]
    refine Std.ExtTreeMap.distinct_keys_toList.imp_of_mem ?_
    intro x y hx hy hkeys heq
    rw [Std.ExtTreeMap.mem_toList_iff_getElem?_eq_some] at hx hy
    exact hkeys (Std.compare_eq_iff_eq.2 (h x.1 y.1 x.2 y.2 hx hy heq))

/-! ### Sending -/

/-- A payload can be sent to a contact: it fits, and the contact's writer is there. -/
def Takes (b : Switchboard) (payload : ByteArray) (c : Contact) : Prop :=
  Frame.Fits payload ∧ b.isOpen c.outbox = true

instance (b : Switchboard) (payload : ByteArray) (c : Contact) :
    Decidable (b.Takes payload c) :=
  inferInstanceAs (Decidable (_ ∧ _))

/-- **One payload to one contact** is queued, or nothing happens. -/
theorem send_cases (b : Switchboard) (c : Contact) (payload : ByteArray) :
    (b.Takes payload c ∧
      b.send c payload = ⟨[c], b.enqueue c.outbox (Frame.wire payload), []⟩) ∨
    (¬ b.Takes payload c ∧ (b.send c payload).accepted = [] ∧ (b.send c payload).board = b) := by
  unfold send Takes
  cases hencode : Frame.encode payload with
  | error e =>
    obtain ⟨hfits, -⟩ := Frame.encode_eq_error_iff.1 hencode
    exact .inr ⟨fun htakes => hfits htakes.1, rfl, rfl⟩
  | ok frame =>
    obtain ⟨hfits, rfl⟩ := Frame.encode_eq_ok_iff.1 hencode
    by_cases hopen : b.isOpen c.outbox = true
    · exact .inl ⟨⟨hfits, hopen⟩, if_pos hopen⟩
    · have hidle : (if b.isOpen c.outbox = true then
          (⟨[c], b.enqueue c.outbox (Frame.wire payload), []⟩ : Posting) else ⟨[], b, []⟩) =
            ⟨[], b, []⟩ := if_neg hopen
      exact .inr ⟨fun htakes => hopen htakes.2, congrArg Posting.accepted hidle,
        congrArg Posting.board hidle⟩

/-- Sending neither opens nor closes a queue. -/
theorem isOpen_send (b : Switchboard) (c : Contact) (payload : ByteArray) (key : OutboxId) :
    (b.send c payload).board.isOpen key = b.isOpen key := by
  rcases b.send_cases c payload with ⟨⟨-, hopen⟩, hsend⟩ | ⟨-, -, hboard⟩
  · rw [hsend, isOpen_eq, isOpen_eq, outbox_enqueue b hopen]
    by_cases hkey : key = c.outbox
    · subst hkey
      rw [Function.update_self, ← isOpen_eq, hopen]
    · rw [Function.update_of_ne hkey]
  · rw [hboard]

/-- Several contacts accept a payload, or do not, independently of each other. -/
theorem sendEach_accepted (b : Switchboard) (payload : ByteArray) (cs : List Contact) :
    (b.sendEach payload cs).accepted = cs.filter (b.Takes payload ·) := by
  induction cs generalizing b with
  | nil => rfl
  | cons c cs ih =>
    -- What the first contact does is of no matter to the others: no queue was opened or closed.
    have hothers : ∀ d, (b.send c payload).board.Takes payload d ↔ b.Takes payload d := by
      intro d
      unfold Takes
      rw [isOpen_send]
    show (b.send c payload).accepted ++ ((b.send c payload).board.sendEach payload cs).accepted = _
    rw [ih, List.filter_cons]
    simp only [hothers]
    rcases b.send_cases c payload with ⟨htakes, hsend⟩ | ⟨htakes, haccepted, -⟩
    · rw [hsend, if_pos (decide_eq_true htakes)]
      rfl
    · rw [haccepted, if_neg (by simpa using htakes)]
      rfl

/-- **Who accepts a payload:** those on the route who can take it. -/
theorem post_accepted (b : Switchboard) (route : Route) (payload : ByteArray) :
    (b.post route payload).accepted = (b.addressees route).filter (b.Takes payload ·) :=
  sendEach_accepted b payload _

/-- A payload that nobody accepts changes nothing. -/
theorem sendEach_refused {b : Switchboard} {payload : ByteArray} {cs : List Contact}
    (h : (b.sendEach payload cs).accepted = []) : (b.sendEach payload cs).board = b := by
  induction cs generalizing b with
  | nil => rfl
  | cons c cs ih =>
    obtain ⟨hfirst, hothers⟩ := List.append_eq_nil_iff.1 h
    rcases b.send_cases c payload with ⟨-, hsend⟩ | ⟨-, -, hboard⟩
    · rw [hsend] at hfirst
      cases hfirst
    · show ((b.send c payload).board.sendEach payload cs).board = b
      rw [ih hothers, hboard]

/-- **What nobody accepts leaves no trace** in any queue. -/
theorem post_refused {b : Switchboard} {route : Route} {payload : ByteArray}
    (h : (b.post route payload).accepted = []) : (b.post route payload).board = b :=
  sendEach_refused h

end Switchboard

end Overlay
