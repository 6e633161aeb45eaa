import Overlay.Proofs.Delivery
import Overlay.Proofs.Life

namespace Overlay

/-!
# Hanging up

A writer goes on for as long as somebody can send through it. The contact of a connection is handed
to the roster when the connection takes its place, so a newcomer in that place drops it; unless
other code keeps a copy, the writer ends with it, and the peer sees the end of the stream while its
frames are still read and handled.

* `Switchboard.Forsakes` — nobody can send to a connection any more;
* `Node.SparesWriters` — no writer that could write has ended for another reason;
* `Step.Replaces` — a later connection has the place of an earlier one, and no copy is kept;
* `Node.hangs_up_iff_replaced` — that is when the node hangs up on a connection it still serves.
-/

/-- Nobody can send to a connection any more. -/
def Switchboard.Forsakes (b : Switchboard) (id : ConnectionId) : Prop :=
  ∀ c, b.Knows c → c.id ≠ id

/-- The connection serves and could be written to, but its writer has ended. -/
def Outlet.Silenced (o : Outlet) : Prop :=
  (∃ role, o.stage = .serving role) ∧ o.fault = none ∧ o.outbox.isOpen = false

/-- No writer that could write has ended, unless nobody could send through it any more. -/
def Node.SparesWriters (n : Node) : Prop :=
  ∀ id, (n.outlet id).Silenced → n.board.Forsakes id

/-- A later connection has taken the place of connection `id`, and no copy of its contact is
kept. -/
def Step.Replaces (s : Step) (id : ConnectionId) (role : Role) : Prop :=
  s.latest role.place ≠ some id ∧
    ∀ (label : String) c, s.node.board.kept[label]? = some c → c.id ≠ id

namespace Deal

variable {n : Node} {s : Step} {id : ConnectionId}

/-- Who is silenced was so before, or nobody could send to it and its writer has just ended. -/
theorem silenced (h : Deal n s) (hs : (s.node.outlet id).Silenced) :
    (n.outlet id).Silenced ∨
      (∃ role, n.stage id = .serving role) ∧ n.board.isReferenced id = false := by
  have hsame (houtlet : s.node.outlet = n.outlet) : (n.outlet id).Silenced := houtlet ▸ hs
  -- What is set of one connection does not matter if that is not silenced by it.
  have hset {j : ConnectionId} {o : Outlet} (houtlet : s.node.outlet = Function.update n.outlet j o)
      (ho : ¬ o.Silenced) : (n.outlet id).Silenced := by
    rw [houtlet] at hs
    by_cases hid : id = j
    · rw [hid, Function.update_self] at hs
      exact absurd hs ho
    · rwa [Function.update_of_ne hid] at hs
  have hended {o : Outlet} (hstage : o.stage = .finished) : ¬ o.Silenced := by
    rintro ⟨⟨role, hrole⟩, -⟩
    rw [hstage] at hrole
    cases hrole
  have hopen {o : Outlet} (hbox : o.outbox.isOpen = true) : ¬ o.Silenced := by
    rintro ⟨-, -, hshut⟩
    rw [hbox] at hshut
    cases hshut
  cases h with
  | still outlook => exact .inl (hsame (congrArg Outlook.outlet outlook))
  | keep _ _ _ outlook | release _ outlook => exact .inl (hsame (congrArg Outlook.outlet outlook))
  | greet _ outlook =>
    refine .inl (hset (congrArg Outlook.outlet outlook) ?_)
    rintro ⟨⟨role, hrole⟩, -⟩
    cases hrole
  | snub _ outlook => exact .inl (hset (congrArg Outlook.outlet outlook) (hended rfl))
  | refuse _ _ outlook => exact .inl (hset (congrArg Outlook.outlet outlook) (hended rfl))
  | tearDown _ _ _ outlook => exact .inl (hset (congrArg Outlook.outlet outlook) (hended rfl))
  | register _ _ _ outlook => exact .inl (hset (congrArg Outlook.outlet outlook) (hopen rfl))
  | take _ _ _ _ outlook => exact .inl (hset (congrArg Outlook.outlet outlook) (hopen rfl))
  | impair _ fault outlook =>
    refine .inl (hset (congrArg Outlook.outlet outlook) ?_)
    rintro ⟨-, hworks, -⟩
    cases hworks
  | work j worked =>
    cases worked with
    | idle node => exact .inl (hsame (congrArg Node.outlet node))
    | write _ _ _ _ _ outlook => exact .inl (hset (congrArg Outlook.outlet outlook) (hopen rfl))
    -- The one way in which a writer ends that could write.
    | retire role before _ _ needless outlook =>
      by_cases hid : id = j
      · exact .inr ⟨⟨role, hid ▸ before⟩, hid ▸ needless⟩
      · have houtlet := congrFun (congrArg Outlook.outlet outlook) id
        change s.node.outlet id = Function.update n.outlet j _ id at houtlet
        rw [Function.update_of_ne hid] at houtlet
        exact .inl (houtlet ▸ hs)
    | choke _ _ _ stuck outlook =>
      refine .inl (hset (congrArg Outlook.outlet outlook) ?_)
      rintro ⟨-, hworks, -⟩
      exact stuck (.inl hworks)

/-- **A dealing ends no writer that is still of use.** -/
theorem sparesWriters (h : Deal n s) (addressed : ∀ c, s.node.board.Knows c → c.outbox = c.id)
    (hn : n.SparesWriters) : s.node.SparesWriters := by
  intro id hsilenced c hc hid
  have hbefore := h.silenced hsilenced
  have hserving : ∃ role, n.stage id = .serving role := by
    rcases hbefore with ⟨⟨role, hrole⟩, -⟩ | ⟨hserving, -⟩
    · exact ⟨role, by rwa [← Node.outlet_stage]⟩
    · exact hserving
  rcases h.knows hc with hknown | ⟨j, role, address, hintroducing, rfl⟩
  · rcases hbefore with hsilenced | ⟨-, hneedless⟩
    · exact hn id hsilenced c hknown hid
    -- The writer has ended because nobody was about, but somebody is.
    · have hneeded : n.board.isReferenced id = true :=
        Switchboard.isReferenced_iff.2 ⟨c, hknown, (addressed c hc).trans hid⟩
      rw [hneeded] at hneedless
      cases hneedless
  -- Whoever takes a place now did not serve before.
  · obtain ⟨r, hr⟩ := hserving
    change j = id at hid
    rw [← hid, hintroducing] at hr
    cases hr

end Deal

/-- Nobody can send to a connection that serves exactly if it was replaced. -/
theorem Placed.forsakes_iff {s : Step} (hs : Placed s) {id : ConnectionId} {role : Role}
    (serving : s.node.stage id = .serving role) :
    s.node.board.Forsakes id ↔ s.Replaces id role := by
  constructor
  · intro hforsakes
    constructor
    -- If it were the latest it would hold its place.
    · intro hlatest
      have hserves : s.node.serves id = true := congrArg Stage.isServing serving
      obtain ⟨c, hc, hid⟩ := (hs.holds_iff role.place id).2 ⟨hlatest, hserves⟩
      exact hforsakes c (.inl ⟨_, hc⟩) hid
    · intro label c hkept
      exact hforsakes c (.inr ⟨label, hkept⟩)
  · rintro ⟨hlatest, hcopies⟩ c (⟨p, hp⟩ | ⟨label, hkept⟩) hid
    · obtain ⟨hp', -⟩ := (hs.holds_iff p id).1 ⟨c, hp, hid⟩
      obtain ⟨r, hr, hplace, -⟩ := hs.named p c hp
      rw [hid, serving, Stage.serving.injEq] at hr
      rw [← hplace, ← hr] at hp'
      exact hlatest hp'
    · exact hcopies label c hkept hid

namespace Node

variable (localName : String) (handler : Handler) (bus : Bus)

/-- **No writer ends that is still of use**, at whatever pace writers work. -/
theorem sparesWriters_play (ps : List Pulse) :
    ((fresh localName handler bus).play ps).node.SparesWriters := by
  have hboth : Conducted localName.toUTF8 ((fresh localName handler bus).play ps) ∧
      ((fresh localName handler bus).play ps).node.SparesWriters := by
    refine (play_deals _ ps).induct
      (P := fun s => Conducted localName.toUTF8 s ∧ s.node.SparesWriters)
      ⟨conducted_fresh localName handler bus, ?_⟩ ?_
    -- Nobody serves at a fresh node.
    · rintro id ⟨⟨role, hrole⟩, -⟩
      cases hrole
    · rintro s t ⟨hs, hspares⟩ h
      exact ⟨hs.deal h, h.sparesWriters (hs.addressed_of_deal h) hspares⟩
  exact hboth.2

/-- An input that does not come from a connection leaves it at its stage. -/
theorem stage_react {n : Node} {i : Input} {id : ConnectionId}
    (hcause : n.cause i ≠ .connection id) : (n.react i).node.stage id = n.stage id := by
  have hmoves : Moves (· ≠ .connection id) n (n.react i) := react_moves n i hcause
  obtain ⟨-, hintake⟩ := hmoves.apart
  rw [← view_stage, ← view_stage, View.stage, hintake]
  rfl

/-- **When the node hangs up on a connection that it still serves.** Take any schedule of inputs and
writers, and a connection that serves and to which writing works. If the node has hung up on it then
a later connection took its place and no copy of its contact is kept; and once its writer has had
its turn, that is enough. Its frames are read all the same: only what comes from the connection
itself can end its service. -/
theorem hangs_up_iff_replaced (ps : List Pulse) {id : ConnectionId} {role : Role}
    (serving : ((fresh localName handler bus).play ps).node.stage id = .serving role)
    (works : (((fresh localName handler bus).play ps).node.outlet id).fault = none) :
    let s := (fresh localName handler bus).play ps
    (s.hangsUpOn id = true → s.Replaces id role) ∧
      (s.node.IsSettled id → s.Replaces id role → s.hangsUpOn id = true) ∧
      ∀ i, s.node.cause i ≠ .connection id →
        (s.node.react i).node.stage id = .serving role := by
  intro s
  have hwriter := (delivery_of_play localName handler bus ps).writer id
  have hspares := sparesWriters_play localName handler bus ps id
  have hforsakes := (placed_play localName handler bus ps).forsakes_iff serving
  have hshut : s.hangsUpOn id = true ↔ s.node.board.isOpen id = false := by
    rw [← Bool.not_eq_true, hwriter, not_and, Bool.not_eq_false]
    exact ⟨fun hhungUp _ => hhungUp, fun h => h ⟨role, serving⟩⟩
  refine ⟨fun hhungUp => ?_, fun hsettled hreplaced => ?_, fun i hcause => ?_⟩
  · refine hforsakes.1 (hspares ⟨⟨role, ?_⟩, works, ?_⟩)
    · rw [outlet_stage]
      exact serving
    · rw [outlet_outbox, ← Switchboard.isOpen_eq]
      exact hshut.1 hhungUp
  · rw [hshut]
    by_contra hopen
    -- A writer that is still there has somebody who can send through it.
    obtain ⟨-, hneeded⟩ := hsettled role serving (by simpa using hopen)
    obtain ⟨c, hknown, hkey⟩ := Switchboard.isReferenced_iff.1 hneeded
    have haddressed := (conducted_play localName handler bus ps).addressed c hknown
    exact hforsakes.2 hreplaced c hknown (haddressed.symm.trans hkey)
  · exact (stage_react hcause).trans serving

/-- Two peers become the parent, one after the other. When the writers have had their turn the node
has hung up on the first, and still serves it. -/
theorem first_of_two_parents_hung_up :
    let ps : List Pulse :=
      [.input (.connect "10.0.0.7:4001" none), .input (.receive 1 (Frame.wire "child-a".toUTF8)),
        .input (.connect "10.0.0.8:4002" none), .input (.receive 2 (Frame.wire "child-b".toUTF8)),
        .writer 1, .writer 2]
    let s := (fresh "root" .noting .fresh).play ps
    s.node.stage 1 = .serving ⟨.parent, "child-a"⟩ ∧ (s.node.outlet 1).fault = none ∧
      s.hangsUpOn 1 = true ∧ s.Replaces 1 ⟨.parent, "child-a"⟩ := by
  intro ps s
  have serving : s.node.stage 1 = .serving ⟨.parent, "child-a"⟩ := by decide +kernel
  have works : (s.node.outlet 1).fault = none := by decide +kernel
  have hhungUp : s.hangsUpOn 1 = true := by decide +kernel
  obtain ⟨hreplaced, -⟩ := hangs_up_iff_replaced "root" .noting .fresh ps serving works
  exact ⟨serving, works, hhungUp, hreplaced hhungUp⟩

end Node

end Overlay
