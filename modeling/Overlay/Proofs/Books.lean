import Mathlib.Data.List.Induction
import Overlay.Proofs.Departures
import Overlay.Proofs.Outboxes

namespace Overlay

/-!
# The books of a switchboard

Contacts take places, lose them and are copied, their queues are read and closed, and payloads are
sent by every route. Books of all that say for each queue what was accepted for it, what was taken
out of it and what was lost with it.

* `Switchboard.outbox_post` — what a payload does to each queue;
* `Switchboard.Use`, `Switchboard.books` — what is done with a switchboard, and the books about it;
* `Switchboard.Agree` — the invariant of every use: the books agree with the queues;
* `Switchboard.postings_exact` — what a payload does on whatever state is reached, and what has
  become of those sent before;
* `Switchboard.accepted_and_lost` — a queue that is closed takes with it what waits there.
-/

namespace Switchboard

/-! ### One payload along a route -/

/-- **What a payload does to a queue:** one copy of its frame is added for each contact with this
queue that accepts it. -/
theorem outbox_sendEach (b : Switchboard) (payload : ByteArray) (cs : List Contact)
    (key : OutboxId) :
    (b.sendEach payload cs).board.outbox key =
      ⟨(b.outbox key).queued ++ ((cs.filter (b.Takes payload ·)).filter (·.outbox = key)).map
        fun _ => Frame.wire payload, (b.outbox key).isOpen⟩ := by
  induction cs generalizing b with
  | nil => simp [sendEach]
  | cons c cs ih =>
    -- The first contact opens and closes nothing, so it is of no matter to the other ones.
    have hothers : ∀ d, (b.send c payload).board.Takes payload d ↔ b.Takes payload d := by
      intro d
      unfold Takes
      rw [isOpen_send]
    show ((b.send c payload).board.sendEach payload cs).board.outbox key = _
    rw [ih]
    simp only [hothers, List.filter_cons]
    rcases b.send_cases c payload with ⟨htakes, hsend⟩ | ⟨htakes, -, hboard⟩
    · rw [hsend, outbox_enqueue b htakes.2, if_pos (decide_eq_true htakes), List.filter_cons]
      by_cases hkey : key = c.outbox
      · subst hkey
        have hopen : (b.outbox c.outbox).isOpen = true := by
          rw [← isOpen_eq]
          exact htakes.2
        simp [hopen]
      · have hother : ¬ c.outbox = key := fun h => hkey h.symm
        simp [Function.update_of_ne hkey, hother]
    · rw [hboard, if_neg (by simpa using htakes)]

theorem outbox_post (b : Switchboard) (route : Route) (payload : ByteArray) (key : OutboxId) :
    (b.post route payload).board.outbox key =
      ⟨(b.outbox key).queued ++ ((b.post route payload).accepted.filter (·.outbox = key)).map
        fun _ => Frame.wire payload, (b.outbox key).isOpen⟩ := by
  rw [post_accepted]
  exact outbox_sendEach b payload _ key

theorem isOpen_post (b : Switchboard) (route : Route) (payload : ByteArray) (key : OutboxId) :
    (b.post route payload).board.isOpen key = b.isOpen key := by
  rw [isOpen_eq, isOpen_eq, outbox_post]

/-- Whoever accepts a payload is on its route, and can take it. -/
theorem takes_of_mem_accepted {b : Switchboard} {route : Route} {payload : ByteArray}
    {c : Contact} (h : c ∈ (b.post route payload).accepted) :
    c ∈ b.addressees route ∧ b.Takes payload c := by
  rw [post_accepted, List.mem_filter, decide_eq_true_eq] at h
  exact h

/-- Nobody accepts anything for a queue without a reader. -/
theorem accepted_of_shut {b : Switchboard} {route : Route} {payload : ByteArray} {key : OutboxId}
    (h : b.isOpen key = false) :
    (b.post route payload).accepted.filter (·.outbox = key) = [] := by
  rw [List.filter_eq_nil_iff]
  intro c hc hkey
  have hopen := (takes_of_mem_accepted hc).2.2
  rw [of_decide_eq_true hkey, h] at hopen
  cases hopen

/-! ### Uses, and the books about them -/

/-- One thing that is done with a switchboard. -/
inductive Use where
  /-- A queue is set up for a new contact. -/
  | connect (c : Contact)
  /-- A copy of a contact is kept under a label. -/
  | keep (label : String) (c : Contact)
  /-- The copy under a label is given up. -/
  | release (label : String)
  /-- A contact takes a place, or a connection ends. -/
  | change (x : Change)
  /-- The reader of a queue goes away. -/
  | close (key : OutboxId)
  /-- The reader of a queue takes all that waits there. -/
  | drain (key : OutboxId)
  /-- A payload is sent along a route. -/
  | post (route : Route) (payload : ByteArray)

namespace Use

/-- The contact that is brought in. -/
def contact? : Use → Option Contact
  | connect c | keep _ c | change (.enter _ c) => some c
  | _ => none

/-- The queue that is set up. -/
def opened? : Use → Option OutboxId
  | connect c => some c.outbox
  | _ => none

/-- What happens to the roster. -/
def change? : Use → Option Change
  | change x => some x
  | _ => none

end Use

/-- The contacts that are brought in. -/
def contactsIn (uses : List Use) : List Contact := uses.filterMap Use.contact?

/-- The queues that are set up. -/
def openedIn (uses : List Use) : List OutboxId := uses.filterMap Use.opened?

/-- The changes of the roster. -/
def changesIn (uses : List Use) : List Change := uses.filterMap Use.change?

/-- Each contact has a queue of its own. -/
structure OwnQueues (uses : List Use) : Prop where
  /-- Contacts with one queue are copies of one contact. -/
  own : ∀ c ∈ contactsIn uses, ∀ d ∈ contactsIn uses, c.outbox = d.outbox → c = d
  /-- No queue is set up again. -/
  once : (openedIn uses).Nodup

/-- A switchboard, and what has been done with it. -/
structure Books where
  /-- The switchboard. -/
  board : Switchboard := {}
  /-- The payloads that were accepted, with the contacts that accepted them. -/
  accepted : List (Contact × ByteArray) := []
  /-- The frames that were taken out of queues. -/
  drained : List (OutboxId × ByteArray) := []
  /-- The frames that waited in queues when these were closed. -/
  lost : List (OutboxId × ByteArray) := []

namespace Books

/-- Do one thing, and write down what comes of it. -/
def use (l : Books) : Use → Books
  | .connect c => { l with board := l.board.openOutbox c.outbox }
  | .keep label c => { l with board := l.board.keep label c }
  | .release label => { l with board := (l.board.release label).2 }
  | .change x => { l with board := { l.board with roster := l.board.roster.change x } }
  | .close key =>
    { l with
      board := l.board.closeOutbox key
      lost := l.lost ++ (l.board.waiting key).map (key, ·) }
  | .drain key =>
    { l with
      board := (l.board.drain key).2
      drained := l.drained ++ ((l.board.drain key).1.getD []).map (key, ·) }
  | .post route payload =>
    { l with
      board := (l.board.post route payload).board
      accepted := l.accepted ++ (l.board.post route payload).accepted.map (·, payload) }

/-- The payloads that a contact has accepted, in the order of acceptance. -/
def acceptedBy (l : Books) (c : Contact) : List ByteArray :=
  (l.accepted.filter (·.1 = c)).map (·.2)

/-- The payloads that were accepted for a queue. -/
def acceptedFor (l : Books) (key : OutboxId) : List ByteArray :=
  (l.accepted.filter (·.1.outbox = key)).map (·.2)

/-- What was taken out of a queue. -/
def drainedFrom (l : Books) (key : OutboxId) : List ByteArray :=
  (l.drained.filter (·.1 = key)).map (·.2)

/-- What was lost with a queue. -/
def lostWith (l : Books) (key : OutboxId) : List ByteArray :=
  (l.lost.filter (·.1 = key)).map (·.2)

end Books

/-- The books of a switchboard that was empty in the beginning. -/
def books (uses : List Use) : Books := uses.foldl Books.use {}

theorem books_append (uses : List Use) (u : Use) : books (uses ++ [u]) = (books uses).use u := by
  simp [books]

/-! ### The books agree with the queues -/

/-- Frames that are noted under one key, seen from any key. -/
theorem noted_under (key k : OutboxId) (frames : List ByteArray) :
    ((frames.map (key, ·)).filter (·.1 = k)).map (·.2) = if k = key then frames else [] := by
  split
  case isTrue h => simp [h, List.filter_map, Function.comp_def]
  case isFalse h =>
    have hother : ¬ key = k := fun heq => h heq.symm
    simp [List.filter_map, Function.comp_def, hother]

/-- The books agree with the queues. -/
structure Agree (uses : List Use) (l : Books) : Prop where
  /-- What was taken out of a queue, lost with it or still waits there is what was accepted. -/
  balance : ∀ key, l.drainedFrom key ++ l.lostWith key ++ (l.board.outbox key).queued =
    (l.acceptedFor key).map Frame.wire
  /-- What was accepted has a frame. -/
  fits : ∀ entry ∈ l.accepted, Frame.Fits entry.2
  /-- Nothing is lost with a queue that has a reader. -/
  safe : ∀ key, l.board.isOpen key = true → l.lostWith key = []
  /-- Nothing waits in a queue without a reader. -/
  idle : ∀ key, l.board.isOpen key = false → (l.board.outbox key).queued = []
  /-- A queue that was not set up has no reader, and nothing was accepted for it. -/
  unopened : ∀ key, key ∉ openedIn uses → l.board.isOpen key = false ∧ l.acceptedFor key = []
  /-- Whoever has accepted something was brought in. -/
  known : ∀ entry ∈ l.accepted, entry.1 ∈ contactsIn uses
  /-- Copies outside the roster were brought in. -/
  kept : ∀ (label : String) c, l.board.kept[label]? = some c → c ∈ contactsIn uses
  /-- The roster is what its changes have made of it. -/
  roster : l.board.roster = Roster.changed (changesIn uses)

/-- Whoever takes a place was brought in. -/
theorem mem_contactsIn_of_entry {uses : List Use} {p : Place} {c : Contact}
    (h : (p, c) ∈ entries (changesIn uses)) : c ∈ contactsIn uses := by
  obtain ⟨x, hx, hentry⟩ := List.mem_filterMap.1 h
  obtain ⟨u, hu, hchange⟩ := List.mem_filterMap.1 hx
  refine List.mem_filterMap.2 ⟨u, hu, ?_⟩
  cases u <;> cases hchange
  cases x <;> cases hentry
  rfl

/-- A client has the name under which it is found. -/
theorem name_of_entry {name : String} {c : Contact} {changes : List Change}
    (h : (.client name, c) ∈ entries changes) : c.name = name := by
  obtain ⟨x, -, hentry⟩ := List.mem_filterMap.1 h
  cases x with
  | leave => cases hentry
  | enter rank d =>
    cases rank <;> cases hentry
    rfl

theorem contactsIn_append (uses : List Use) (u : Use) :
    contactsIn (uses ++ [u]) = contactsIn uses ++ u.contact?.toList := by
  cases h : u.contact? <;> simp [contactsIn, h]

theorem openedIn_append (uses : List Use) (u : Use) :
    openedIn (uses ++ [u]) = openedIn uses ++ u.opened?.toList := by
  cases h : u.opened? <;> simp [openedIn, h]

theorem changed_append (uses : List Use) (x : Change) :
    Roster.changed (changesIn (uses ++ [.change x])) =
      (Roster.changed (changesIn uses)).change x := by
  simp [changesIn, Use.change?, Roster.changed]

theorem changesIn_append_of_none {uses : List Use} {u : Use} (h : u.change? = none) :
    changesIn (uses ++ [u]) = changesIn uses := by
  simp [changesIn, h]

namespace Agree

variable {uses : List Use} {l : Books}

/-- Whoever is about was brought in. -/
theorem mem_contactsIn (hl : Agree uses l) {c : Contact} (h : l.board.Knows c) :
    c ∈ contactsIn uses := by
  rcases h with ⟨p, hp⟩ | ⟨label, hlabel⟩
  · rw [hl.roster] at hp
    exact mem_contactsIn_of_entry (Roster.mem_entries_of_holder hp)
  · exact hl.kept label c hlabel

theorem mem_contactsIn_append {u : Use} {c : Contact} (h : c ∈ contactsIn uses) :
    c ∈ contactsIn (uses ++ [u]) := by
  rw [contactsIn_append]
  exact List.mem_append_left _ h

/-- A queue that is not among those set up in the end was not among them before. -/
theorem not_mem_openedIn {u : Use} {key : OutboxId} (h : key ∉ openedIn (uses ++ [u])) :
    key ∉ openedIn uses := by
  rw [openedIn_append] at h
  exact fun hmem => h (List.mem_append_left _ hmem)

/-- Nothing has been taken out of a queue that was not set up, and nothing was lost with it. -/
theorem nothing_of_unopened (hl : Agree uses l) {key : OutboxId} (h : key ∉ openedIn uses) :
    l.drainedFrom key = [] ∧ l.lostWith key = [] := by
  have hbalance := hl.balance key
  rw [(hl.unopened key h).2, List.map_nil, List.append_eq_nil_iff, List.append_eq_nil_iff]
    at hbalance
  exact hbalance.1

/-- Copies and places may change as they like. -/
theorem rearrange (hl : Agree uses l) {u : Use} {b : Switchboard}
    (houtboxes : b.outboxes = l.board.outboxes)
    (hkept : ∀ (label : String) c, b.kept[label]? = some c → c ∈ contactsIn (uses ++ [u]))
    (hroster : b.roster = Roster.changed (changesIn (uses ++ [u]))) :
    Agree (uses ++ [u]) { l with board := b } := by
  have houtbox : b.outbox = l.board.outbox := by
    funext key
    rw [outbox, outbox, houtboxes]
  have hopen : ∀ key, b.isOpen key = l.board.isOpen key := fun key => by
    rw [isOpen_eq, isOpen_eq, houtbox]
  constructor
  case balance =>
    intro key
    rw [houtbox]
    exact hl.balance key
  case fits => exact hl.fits
  case safe => exact fun key h => hl.safe key (hopen key ▸ h)
  case idle =>
    intro key h
    rw [houtbox]
    exact hl.idle key (hopen key ▸ h)
  case unopened =>
    intro key h
    have hbefore := hl.unopened key (not_mem_openedIn h)
    exact ⟨(hopen key).trans hbefore.1, hbefore.2⟩
  case known => exact fun entry h => mem_contactsIn_append (hl.known entry h)
  case kept => exact hkept
  case roster => exact hroster

/-- A use that is about a queue leaves roster and copies alone. -/
theorem outside (hl : Agree uses l) {u : Use} {b : Switchboard} (hchange : u.change? = none)
    (hroster : b.roster = l.board.roster) (hkept : b.kept = l.board.kept) :
    (∀ (label : String) c, b.kept[label]? = some c → c ∈ contactsIn (uses ++ [u])) ∧
      b.roster = Roster.changed (changesIn (uses ++ [u])) := by
  constructor
  · rw [hkept]
    exact fun label c h => mem_contactsIn_append (hl.kept label c h)
  · rw [hroster, changesIn_append_of_none hchange]
    exact hl.roster

/-- One queue changes, by something else than a payload that is accepted for it. -/
theorem requeue (hl : Agree uses l) {u : Use} {l' : Books} {key : OutboxId}
    {box : Mailbox ByteArray} (hchange : u.change? = none)
    (houtbox : l'.board.outbox = Function.update l.board.outbox key box)
    (hroster : l'.board.roster = l.board.roster) (hkept : l'.board.kept = l.board.kept)
    (haccepted : l'.accepted = l.accepted)
    (hothers : ∀ k, k ≠ key → l'.drainedFrom k = l.drainedFrom k ∧ l'.lostWith k = l.lostWith k)
    (hbalance : l'.drainedFrom key ++ l'.lostWith key ++ box.queued =
      (l.acceptedFor key).map Frame.wire)
    (hopen : box.isOpen = true → l'.lostWith key = [] ∧ key ∈ openedIn (uses ++ [u]))
    (hshut : box.isOpen = false → box.queued = []) : Agree (uses ++ [u]) l' := by
  have hself : l'.board.outbox key = box := by rw [houtbox, Function.update_self]
  have hother : ∀ k, k ≠ key → l'.board.outbox k = l.board.outbox k := fun k hk => by
    rw [houtbox, Function.update_of_ne hk]
  have hisOpen : ∀ k, k ≠ key → l'.board.isOpen k = l.board.isOpen k := fun k hk => by
    rw [isOpen_eq, isOpen_eq, hother k hk]
  have hfor : ∀ k, l'.acceptedFor k = l.acceptedFor k := fun k => by
    rw [Books.acceptedFor, haccepted, Books.acceptedFor]
  obtain ⟨hkept, hroster⟩ := hl.outside hchange hroster hkept
  constructor
  case balance =>
    intro k
    rw [hfor]
    by_cases hk : k = key
    · rw [hk, hself]
      exact hbalance
    · rw [hother k hk, (hothers k hk).1, (hothers k hk).2]
      exact hl.balance k
  case fits =>
    rw [haccepted]
    exact hl.fits
  case safe =>
    intro k h
    by_cases hk : k = key
    · rw [hk, isOpen_eq, hself] at h
      exact hk ▸ (hopen h).1
    · rw [(hothers k hk).2]
      exact hl.safe k (hisOpen k hk ▸ h)
  case idle =>
    intro k h
    by_cases hk : k = key
    · rw [hk, isOpen_eq, hself] at h
      rw [hk, hself]
      exact hshut h
    · rw [hother k hk]
      exact hl.idle k (hisOpen k hk ▸ h)
  case unopened =>
    intro k h
    have hbefore := hl.unopened k (not_mem_openedIn h)
    refine ⟨?_, (hfor k).trans hbefore.2⟩
    by_cases hk : k = key
    · rw [hk, isOpen_eq, hself]
      exact Bool.eq_false_iff.2 fun heq => h (hk ▸ (hopen heq).2)
    · exact (hisOpen k hk).trans hbefore.1
  case known =>
    rw [haccepted]
    exact fun entry h => mem_contactsIn_append (hl.known entry h)
  case kept => exact hkept
  case roster => exact hroster

/-- A queue that is set up is empty, and nothing was ever in it. -/
theorem connect (hl : Agree uses l) {c : Contact} (hnew : c.outbox ∉ openedIn uses) :
    Agree (uses ++ [.connect c]) (l.use (.connect c)) := by
  obtain ⟨hdrained, hlost⟩ := hl.nothing_of_unopened hnew
  refine hl.requeue rfl (outbox_openOutbox l.board c.outbox) rfl rfl rfl (fun _ _ => ⟨rfl, rfl⟩)
    ?_ (fun _ => ⟨hlost, ?_⟩) (fun _ => rfl)
  · show l.drainedFrom c.outbox ++ l.lostWith c.outbox ++ [] = _
    rw [hdrained, hlost, (hl.unopened _ hnew).2]
    rfl
  · rw [openedIn_append]
    exact List.mem_append_right _ List.mem_cons_self

/-- What waits in a queue that is closed is lost with it. -/
theorem close (hl : Agree uses l) (key : OutboxId) :
    Agree (uses ++ [.close key]) (l.use (.close key)) := by
  have hlost : ∀ k, (l.use (.close key)).lostWith k =
      l.lostWith k ++ if k = key then (l.board.outbox key).queued else [] := fun k => by
    show ((l.lost ++ (l.board.waiting key).map (key, ·)).filter (·.1 = k)).map (·.2) = _
    rw [List.filter_append, List.map_append, noted_under, waiting_eq, Books.lostWith]
  refine hl.requeue rfl (outbox_closeOutbox l.board key) rfl rfl rfl (fun k hk => ⟨rfl, ?_⟩)
    ?_ (fun h => Bool.noConfusion h) (fun _ => rfl)
  · rw [hlost, if_neg hk, List.append_nil]
  · rw [hlost, if_pos rfl, ← hl.balance key, ← List.append_assoc]
    exact List.append_nil _

/-- What is taken out of a queue no longer waits there. -/
theorem drain (hl : Agree uses l) (key : OutboxId) :
    Agree (uses ++ [.drain key]) (l.use (.drain key)) := by
  cases hkey : l.board.isOpen key with
  | false =>
    have hnothing : l.use (.drain key) = { l with board := l.board } := by
      simp [Books.use, drain_of_shut l.board hkey]
    obtain ⟨hkept, hroster⟩ := hl.outside (u := .drain key) rfl rfl rfl
    rw [hnothing]
    exact hl.rearrange rfl hkept hroster
  | true =>
    obtain ⟨htaken, houtbox⟩ := drain_eq l.board hkey
    have hdrained : ∀ k, (l.use (.drain key)).drainedFrom k =
        l.drainedFrom k ++ if k = key then (l.board.outbox key).queued else [] := fun k => by
      show ((l.drained ++ ((l.board.drain key).1.getD []).map (key, ·)).filter (·.1 = k)).map
        (·.2) = _
      rw [htaken, Option.getD_some, List.filter_append, List.map_append, noted_under,
        Books.drainedFrom]
    have hkeeps : (l.board.drain key).2.roster = l.board.roster ∧
        (l.board.drain key).2.kept = l.board.kept := by
      unfold Switchboard.drain
      rw [if_pos hkey]
      exact ⟨rfl, rfl⟩
    have hmem : key ∈ openedIn (uses ++ [.drain key]) := by
      by_contra hnot
      rw [(hl.unopened key (not_mem_openedIn hnot)).1] at hkey
      cases hkey
    refine hl.requeue rfl houtbox hkeeps.1 hkeeps.2 rfl (fun k hk => ⟨?_, rfl⟩)
      ?_ (fun _ => ⟨hl.safe key hkey, hmem⟩) (fun _ => rfl)
    · rw [hdrained, if_neg hk, List.append_nil]
    · show _ ++ l.lostWith key ++ [] = _
      rw [hdrained, if_pos rfl, ← hl.balance key, hl.safe key hkey, List.append_nil,
        List.append_nil, List.append_nil]

/-- What is accepted waits behind all that was accepted before. -/
theorem post (hl : Agree uses l) (route : Route) (payload : ByteArray) :
    Agree (uses ++ [.post route payload]) (l.use (.post route payload)) := by
  have hkeeps := post_keeps l.board route payload
  obtain ⟨hkept, hroster⟩ := hl.outside (u := .post route payload) rfl hkeeps.1 hkeeps.2
  have haccepted : ∀ key, (l.use (.post route payload)).acceptedFor key = l.acceptedFor key ++
      ((l.board.post route payload).accepted.filter (·.outbox = key)).map fun _ => payload :=
    fun key => by simp [Books.acceptedFor, Books.use, List.filter_map, Function.comp_def]
  constructor
  case balance =>
    intro key
    show l.drainedFrom key ++ l.lostWith key ++
      ((l.board.post route payload).board.outbox key).queued = _
    rw [haccepted, List.map_append, ← hl.balance key, outbox_post]
    simp
  case fits =>
    intro entry h
    rcases List.mem_append.1 h with hbefore | hnow
    · exact hl.fits entry hbefore
    · obtain ⟨c, hc, rfl⟩ := List.mem_map.1 hnow
      exact (takes_of_mem_accepted hc).2.1
  case safe => exact fun key h => hl.safe key (isOpen_post l.board route payload key ▸ h)
  case idle =>
    intro key h
    have hshut := (isOpen_post l.board route payload key).symm.trans h
    show ((l.board.post route payload).board.outbox key).queued = []
    rw [outbox_post, accepted_of_shut hshut, hl.idle key hshut]
    rfl
  case unopened =>
    intro key h
    have hbefore := hl.unopened key (not_mem_openedIn h)
    refine ⟨(isOpen_post l.board route payload key).trans hbefore.1, ?_⟩
    rw [haccepted, hbefore.2, accepted_of_shut hbefore.1]
    rfl
  case known =>
    intro entry h
    refine mem_contactsIn_append ?_
    rcases List.mem_append.1 h with hbefore | hnow
    · exact hl.known entry hbefore
    · obtain ⟨c, hc, rfl⟩ := List.mem_map.1 hnow
      exact hl.mem_contactsIn (knows_of_mem_addressees (takes_of_mem_accepted hc).1)
  case kept => exact hkept
  case roster => exact hroster

/-- **Every use keeps the books in order.** -/
theorem use (hl : Agree uses l) {u : Use} (own : OwnQueues (uses ++ [u])) :
    Agree (uses ++ [u]) (l.use u) := by
  cases u with
  | connect c =>
    have honce := own.once
    rw [openedIn_append] at honce
    exact hl.connect fun hmem =>
      List.disjoint_of_nodup_append honce hmem List.mem_cons_self
  | keep label c =>
    refine hl.rearrange rfl ?_ (by rw [changesIn_append_of_none rfl]; exact hl.roster)
    intro other d h
    change (l.board.kept.insert label c)[other]? = some d at h
    rw [lookup_insert] at h
    split at h
    · cases h
      rw [contactsIn_append]
      exact List.mem_append_right _ List.mem_cons_self
    · exact mem_contactsIn_append (hl.kept other d h)
  | release label =>
    refine hl.rearrange rfl ?_ (by rw [changesIn_append_of_none rfl]; exact hl.roster)
    intro other d h
    change (l.board.kept.erase label)[other]? = some d at h
    rw [lookup_erase] at h
    split at h
    · cases h
    · exact mem_contactsIn_append (hl.kept other d h)
  | change x =>
    refine hl.rearrange rfl (fun label d h => mem_contactsIn_append (hl.kept label d h)) ?_
    rw [changed_append, ← hl.roster]
  | close key => exact hl.close key
  | drain key => exact hl.drain key
  | post route payload => exact hl.post route payload

/-- Contacts on one route have queues of their own. -/
theorem addressees_nodup (hl : Agree uses l) (own : OwnQueues uses) (route : Route) :
    ((l.board.addressees route).map (·.outbox)).Nodup := by
  refine addressees_nodup_map (fun name name' c d hc hd houtbox => ?_) route
  have hcd : c = d := own.own c (hl.mem_contactsIn (.inl ⟨_, hc⟩)) d
    (hl.mem_contactsIn (.inl ⟨_, hd⟩)) houtbox
  -- One contact has one name.
  rw [hl.roster] at hc hd
  rw [← name_of_entry (Roster.mem_entries_of_holder hc),
    ← name_of_entry (Roster.mem_entries_of_holder hd), hcd]

/-- What was accepted for a queue was accepted by the contact with this queue. -/
theorem acceptedFor_outbox (hl : Agree uses l) (own : OwnQueues uses) {c : Contact}
    (hc : c ∈ contactsIn uses) : l.acceptedFor c.outbox = l.acceptedBy c := by
  unfold Books.acceptedFor Books.acceptedBy
  congr 1
  refine List.filter_congr fun entry hentry => decide_eq_decide.2 ⟨fun h => ?_, fun h => h ▸ rfl⟩
  exact own.own _ (hl.known entry hentry) c hc h

end Agree

theorem agree_empty : Agree [] {} where
  balance _ := rfl
  fits _ h := nomatch h
  safe _ _ := rfl
  idle _ _ := rfl
  unopened _ _ := ⟨rfl, rfl⟩
  known _ h := nomatch h
  kept _ _ h := nomatch h
  roster := rfl

/-- Each contact has a queue of its own at every moment. -/
theorem OwnQueues.of_append {uses : List Use} {u : Use} (own : OwnQueues (uses ++ [u])) :
    OwnQueues uses := by
  constructor
  case own =>
    intro c hc d hd
    exact own.own c (Agree.mem_contactsIn_append hc) d (Agree.mem_contactsIn_append hd)
  case once =>
    have honce := own.once
    rw [openedIn_append] at honce
    exact honce.of_append_left

/-- **The books agree with the queues** at every moment. -/
theorem agree_books (uses : List Use) (own : OwnQueues uses) : Agree uses (books uses) := by
  induction uses using List.reverseRecOn with
  | nil => exact agree_empty
  | append_singleton uses u ih =>
    rw [books_append]
    exact (ih own.of_append).use own

/-! ### What sending comes to -/

/-- What a payload does that is sent after some uses, and what has become of those sent before. -/
structure PostingsExact (uses : List Use) (l : Books) : Prop where
  /-- A payload that has a frame is accepted by those on its route whose queue has a reader. -/
  accepted : ∀ route payload frame, Frame.encode payload = .ok frame →
    (l.board.post route payload).accepted =
      (l.board.addressees route).filter (l.board.isOpen ·.outbox)
  /-- One copy of the frame goes behind what waits in the queue of each of them, and no other queue
  changes. -/
  queued : ∀ route payload frame, Frame.encode payload = .ok frame → ∀ key,
    (l.board.post route payload).board.outbox key =
      if l.board.isOpen key = true ∧ ∃ c ∈ l.board.addressees route, c.outbox = key then
        ⟨(l.board.outbox key).queued ++ [frame], true⟩
      else
        l.board.outbox key
  /-- The parent accepts it exactly if there is one and its queue has a reader. -/
  parent : ∀ payload frame, Frame.encode payload = .ok frame →
    ((l.board.post .parent payload).accepted ≠ [] ↔
      ∃ c, l.board.roster.parent = some c ∧ l.board.isOpen c.outbox = true)
  /-- So does the client of a name. -/
  client : ∀ name payload frame, Frame.encode payload = .ok frame →
    ((l.board.post (.client name) payload).accepted ≠ [] ↔
      ∃ c, l.board.roster.client? name = some c ∧ l.board.isOpen c.outbox = true)
  /-- Of all clients, as many accept it as have a queue with a reader. -/
  clients : ∀ payload frame, Frame.encode payload = .ok frame →
    (l.board.post .clients payload).accepted.length =
      (l.board.roster.clients.toList.filter (l.board.isOpen ·.2.outbox)).length
  /-- A payload that is too large is accepted by nobody, and changes nothing. -/
  refused : ∀ route payload, Frame.maxPayload < payload.size →
    (l.board.post route payload).accepted = [] ∧ (l.board.post route payload).board = l.board
  /-- Sending does not change the roster. -/
  roster : ∀ route payload, (l.board.post route payload).board.roster = l.board.roster
  /-- What was taken out of a contact's queue, then what was lost with it, then what waits there,
  are the frames of the payloads that the contact has accepted, in the order of acceptance. -/
  history : ∀ c ∈ contactsIn uses,
    (l.drainedFrom c.outbox ++ l.lostWith c.outbox ++ (l.board.outbox c.outbox).queued).map .ok =
      (l.acceptedBy c).map Frame.encode
  /-- Nothing is lost with a queue that has a reader. -/
  safe : ∀ key, l.board.isOpen key = true → l.lostWith key = []
  /-- Nothing waits in a queue without a reader. -/
  idle : ∀ key, l.board.isOpen key = false → (l.board.outbox key).queued = []

/-- Of contacts with queues of their own, at most one has a given queue. -/
theorem filter_of_nodup_map {cs : List Contact} (h : (cs.map (·.outbox)).Nodup) (key : OutboxId) :
    cs.filter (·.outbox = key) = [] ∨
      ∃ c ∈ cs, c.outbox = key ∧ cs.filter (·.outbox = key) = [c] := by
  induction cs with
  | nil => exact .inl rfl
  | cons c cs ih =>
    rw [List.map_cons, List.nodup_cons] at h
    by_cases hkey : c.outbox = key
    · have hothers : cs.filter (·.outbox = key) = [] := by
        rw [List.filter_eq_nil_iff]
        intro d hd heq
        exact h.1 (hkey ▸ of_decide_eq_true heq ▸ List.mem_map_of_mem hd)
      exact .inr ⟨c, List.mem_cons_self, hkey, by simp [hkey, hothers]⟩
    · rw [List.filter_cons_of_neg (by simpa using hkey)]
      refine (ih h.2).imp_right ?_
      rintro ⟨d, hd, hdkey, hfilter⟩
      exact ⟨d, List.mem_cons_of_mem _ hd, hdkey, hfilter⟩

/-- A payload with a frame is accepted by those on its route whose queue has a reader. -/
theorem post_accepted_of_encode (b : Switchboard) (route : Route) {payload frame : ByteArray}
    (h : Frame.encode payload = .ok frame) :
    (b.post route payload).accepted = (b.addressees route).filter (b.isOpen ·.outbox) := by
  rw [post_accepted]
  refine List.filter_congr fun c _ => ?_
  have hfits := (Frame.encode_eq_ok_iff.1 h).1
  simp [Takes, hfits]

/-- One addressee accepts a payload exactly if there is one and its queue has a reader. -/
theorem filter_toList_ne_nil_iff {c? : Option Contact} {p : Contact → Bool} :
    c?.toList.filter p ≠ [] ↔ ∃ c, c? = some c ∧ p c = true := by
  cases c? <;> simp

/-- **What sending comes to.** However a state was reached, where each contact has a queue of its
own: a payload goes once into the queues of those on its route whose queue has a reader, and into no
other queue. Whatever was accepted for a contact before has been taken out of its queue, in the
order of acceptance, or waits there, or was lost when the queue was closed. -/
theorem postings_exact {uses : List Use} (own : OwnQueues uses) :
    PostingsExact uses (books uses) := by
  have hl := agree_books uses own
  generalize books uses = l at hl
  have haccepted := fun route payload frame (h : Frame.encode payload = .ok frame) =>
    post_accepted_of_encode l.board route h
  constructor
  case accepted => exact haccepted
  case queued =>
    intro route payload frame h key
    obtain ⟨-, rfl⟩ := Frame.encode_eq_ok_iff.1 h
    have hnodup : ((l.board.post route payload).accepted.map (·.outbox)).Nodup := by
      rw [haccepted route payload _ h]
      exact (hl.addressees_nodup own route).sublist (List.filter_sublist.map _)
    rw [outbox_post]
    rcases filter_of_nodup_map hnodup key with hnobody | ⟨c, hc, hkey, hone⟩
    · rw [hnobody, if_neg]
      · simp
      · rintro ⟨hopen, c, hc, rfl⟩
        rw [haccepted route payload _ h, List.filter_filter, List.filter_eq_nil_iff] at hnobody
        exact hnobody c hc (by simpa using hopen)
    · obtain ⟨haddressee, -, hopen⟩ := takes_of_mem_accepted hc
      rw [hkey] at hopen
      rw [hone, if_pos ⟨hopen, c, haddressee, hkey⟩, ← isOpen_eq, hopen]
      rfl
  case parent =>
    intro payload frame h
    rw [haccepted .parent payload frame h]
    exact filter_toList_ne_nil_iff
  case client =>
    intro name payload frame h
    rw [haccepted (.client name) payload frame h]
    exact filter_toList_ne_nil_iff
  case clients =>
    intro payload frame h
    rw [haccepted .clients payload frame h]
    show (l.board.roster.clients.values.filter _).length = _
    rw [values_eq_map_toList, List.filter_map, List.length_map]
    rfl
  case refused =>
    intro route payload hlarge
    have hnobody : (l.board.post route payload).accepted = [] := by
      rw [post_accepted, List.filter_eq_nil_iff]
      intro c _ htakes
      exact absurd (of_decide_eq_true htakes).1 (Nat.not_le.2 hlarge)
    exact ⟨hnobody, post_refused hnobody⟩
  case roster => exact fun route payload => (post_keeps l.board route payload).1
  case history =>
    intro c hc
    rw [hl.balance, hl.acceptedFor_outbox own hc, List.map_map]
    refine List.map_congr_left fun payload hmem => ?_
    obtain ⟨entry, hentry, rfl⟩ := List.mem_map.1 hmem
    have hfits := hl.fits entry (List.mem_filter.1 hentry).1
    exact (Frame.encode_eq_ok_iff.2 ⟨hfits, rfl⟩).symm
  case safe => exact hl.safe
  case idle => exact hl.idle

/-- Two clients, of which the first is the parent as well: a payload for all clients, one for the
parent, and one through a copy that is kept. The queue of the second is closed in between. -/
theorem postings_to_client_and_parent :
    let a : Contact := ⟨1, "api-a", "127.0.0.1:4000", 0⟩
    let b : Contact := ⟨2, "api-b", "127.0.0.1:4001", 1⟩
    let uses : List Use := [.connect a, .keep "a" a, .connect b, .change (.enter .api a),
      .change (.enter .parent a), .change (.enter .api b), .post .clients "x".toUTF8,
      .post .parent "y".toUTF8, .drain 0, .close 1, .post (.kept "a") "z".toUTF8,
      .post .clients "z".toUTF8]
    OwnQueues uses ∧
      (books uses).acceptedBy a = ["x".toUTF8, "y".toUTF8, "z".toUTF8, "z".toUTF8] ∧
      (books uses).acceptedBy b = ["x".toUTF8] ∧
      (books uses).lostWith 1 = [Frame.wire "x".toUTF8] ∧
      PostingsExact uses (books uses) := by
  intro a b uses
  have own : OwnQueues uses := ⟨by decide +kernel, by decide +kernel⟩
  exact ⟨own, by decide +kernel, by decide +kernel, by decide +kernel, postings_exact own⟩

/-- A payload is accepted, and its queue is closed: it was never taken out, and waits no more. -/
theorem accepted_and_lost :
    let c : Contact := ⟨1, "api-a", "127.0.0.1:4000", 0⟩
    let uses : List Use := [.connect c, .keep "a" c, .post (.kept "a") "x".toUTF8, .close 0]
    OwnQueues uses ∧
      ¬ (books uses).drainedFrom 0 ++ ((books uses).board.outbox 0).queued =
        ((books uses).acceptedBy c).map Frame.wire := by
  intro c uses
  exact ⟨⟨by decide +kernel, by decide +kernel⟩, by decide +kernel⟩

end Switchboard

end Overlay
