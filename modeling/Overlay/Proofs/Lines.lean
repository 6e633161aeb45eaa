import Mathlib.Data.List.Induction
import Overlay.Proofs.Pace

namespace Overlay

/-!
# What goes over one line

What has been accepted for a peer, what has been written to it, and what still waits are tied
together: nothing is lost, doubled or reordered while the line is open.

* `Step.trafficOf` — the traffic of one connection; `Effect.written` and `Effect.taken` say what
  was written and what was accepted in it;
* `Carries` — how the traffic of a greeted connection comes about, act by act, and which payloads
  wait after it;
* `Line` — the sending side of a connection and its traffic, at every stage;
* `Conducted` — the invariant of all dealings.
-/

namespace Effect

/-- Whether an act of the sending side is for a given connection. -/
def isFor (id : ConnectionId) : Effect → Bool
  | .accepted j _ | .sent j _ | .hungUp j => j = id
  | _ => false

/-- The bytes that are written, one piece behind the other. -/
def written : List Effect → ByteArray
  | [] => .empty
  | .sent _ bytes :: rest => bytes ++ written rest
  | _ :: rest => written rest

/-- The payload that is accepted. -/
def payload? : Effect → Option ByteArray
  | .accepted _ payload => some payload
  | _ => none

/-- The payloads that are accepted, in order. -/
def taken (es : List Effect) : List ByteArray := es.filterMap payload?

@[simp] theorem written_append (es fs : List Effect) :
    written (es ++ fs) = written es ++ written fs := by
  induction es with
  | nil => exact ByteArray.empty_append.symm
  | cons e es ih =>
    cases e <;> simp only [List.cons_append, written, ih, ByteArray.append_assoc]

@[simp] theorem taken_append (es fs : List Effect) : taken (es ++ fs) = taken es ++ taken fs :=
  List.filterMap_append

/-- No act is for two connections. -/
theorem isFor_unique {e : Effect} {id j : ConnectionId} (h : e.isFor id = true)
    (hj : e.isFor j = true) : j = id := by
  cases e with
  | accepted | sent | hungUp => exact (of_decide_eq_true hj).symm.trans (of_decide_eq_true h)
  | _ => cases h

end Effect

namespace Step

/-- The acts of a step that are for one connection. -/
def trafficOf (s : Step) (id : ConnectionId) : List Effect := s.traffic.filter (·.isFor id)

/-- The payloads that a step accepts for one connection, in order. -/
def payloadsTo (s : Step) (id : ConnectionId) : List ByteArray :=
  (s.postings.filter (·.1 = id)).map (·.2)

theorem trafficOf_join (s t : Step) (id : ConnectionId) :
    (⟨t.node, s.effects ++ t.effects⟩ : Step).trafficOf id = s.trafficOf id ++ t.trafficOf id := by
  simp [trafficOf, traffic]

/-- What is done for one connection goes behind what was done for it before, and is nothing to any
other. -/
theorem trafficOf_append (s : Step) {t : Step} {id : ConnectionId} {acts : List Effect}
    (h : t.traffic = acts) (hfor : ∀ e ∈ acts, e.isFor id = true) (j : ConnectionId) :
    (⟨t.node, s.effects ++ t.effects⟩ : Step).trafficOf j =
      s.trafficOf j ++ if j = id then acts else [] := by
  rw [trafficOf_join]
  congr 1
  unfold trafficOf
  rw [h]
  by_cases hj : j = id
  · rw [if_pos hj, List.filter_eq_self, hj]
    exact hfor
  · rw [if_neg hj, List.filter_eq_nil_iff]
    intro e he hfor'
    exact hj (Effect.isFor_unique (hfor e he) hfor')

/-- What is for a connection is traffic. -/
theorem trafficOf_eq (s : Step) (id : ConnectionId) :
    s.trafficOf id = s.effects.filter (·.isFor id) := by
  unfold trafficOf traffic
  rw [List.filter_filter]
  congr 1
  funext e
  cases e <;> simp [Effect.isFor, Effect.isTraffic]

/-- The bytes written to a connection can be read off its traffic. -/
theorem bytesTo_eq (s : Step) (id : ConnectionId) :
    s.bytesTo id = Effect.written (s.trafficOf id) := by
  rw [trafficOf_eq]
  unfold bytesTo
  -- Bytes are added at the end, so the induction takes the last act off.
  induction s.effects using List.reverseRecOn with
  | nil => rfl
  | append_singleton es e ih =>
    rw [List.foldl_append, ih, List.filter_append, Effect.written_append]
    cases e with
    | sent j more =>
      by_cases hj : j = id
      · simp [Effect.isFor, Effect.written, hj]
      · simp [Effect.isFor, Effect.written, hj]
    | accepted j payload | hungUp j =>
      by_cases hj : j = id
      · simp [Effect.isFor, Effect.written, hj]
      · simp [Effect.isFor, Effect.written, hj]
    | _ => simp [Effect.isFor, Effect.written]

/-- The payloads accepted for a connection can be read off its traffic. -/
theorem payloadsTo_eq (s : Step) (id : ConnectionId) :
    s.payloadsTo id = Effect.taken (s.trafficOf id) := by
  rw [trafficOf_eq]
  unfold payloadsTo postings Effect.taken
  rw [List.filter_filterMap, List.map_filterMap, List.filterMap_filter]
  congr 1
  funext e
  cases e with
  | accepted j payload =>
    by_cases hj : j = id
    · simp [Effect.isFor, Effect.payload?, hj]
    · simp [Effect.isFor, hj]
  | _ => simp [Effect.isFor, Effect.payload?]

theorem hangsUpOn_iff (s : Step) (id : ConnectionId) :
    s.hangsUpOn id = true ↔ .hungUp id ∈ s.trafficOf id := by
  unfold hangsUpOn
  rw [trafficOf_eq, List.contains_iff_mem, List.mem_filter]
  exact ⟨fun h => ⟨h, decide_eq_true rfl⟩, fun h => h.1⟩

end Step

/-! ### From acceptance to writing -/

open Effect

/-- How the traffic of a connection comes about that was greeted, and which payloads wait after
it. -/
inductive Carries (greeting : ByteArray) (id : ConnectionId) :
    List Effect → List ByteArray → Prop
  /-- The greeting is written. -/
  | greeted (fits : Frame.Fits greeting) : Carries greeting id [.sent id (Frame.wire greeting)] []
  /-- A payload is accepted, and waits behind the others. -/
  | take {acts : List Effect} {waiting : List ByteArray} {payload : ByteArray}
      (earlier : Carries greeting id acts waiting) (fits : Frame.Fits payload) :
      Carries greeting id (acts ++ [.accepted id payload]) (waiting ++ [payload])
  /-- The payload that has waited longest is written. -/
  | write {acts : List Effect} {payload : ByteArray} {waiting : List ByteArray}
      (earlier : Carries greeting id acts (payload :: waiting)) :
      Carries greeting id (acts ++ [.sent id (Frame.wire payload)]) waiting

namespace Carries

variable {greeting : ByteArray} {id : ConnectionId} {acts : List Effect}
  {waiting : List ByteArray}

/-- **The balance of a line.** What is written and what waits is the greeting and what was
accepted. -/
theorem balance (h : Carries greeting id acts waiting) :
    written acts ++ Frame.wireAll waiting = Frame.wire greeting ++ Frame.wireAll (taken acts) := by
  induction h with
  | greeted =>
    show Frame.wire greeting ++ .empty ++ .empty = Frame.wire greeting ++ .empty
    rw [ByteArray.append_empty]
  | @take acts waiting payload earlier fits ih =>
    -- The payload is added at both ends.
    have htaken : taken (acts ++ [.accepted id payload]) = taken acts ++ [payload] :=
      taken_append ..
    have hwritten : written (acts ++ [.accepted id payload]) = written acts := by
      rw [written_append]
      exact ByteArray.append_empty
    rw [htaken, hwritten, Frame.wireAll_append, Frame.wireAll_append, ← ByteArray.append_assoc, ih,
      ByteArray.append_assoc]
  | @write acts payload waiting earlier ih =>
    -- Its frame goes over from what waits to what is written.
    have htaken : taken (acts ++ [.sent id (Frame.wire payload)]) = taken acts := by
      rw [taken_append]
      exact List.append_nil _
    have hwritten : written (acts ++ [.sent id (Frame.wire payload)]) =
        written acts ++ Frame.wire payload := by
      rw [written_append]
      exact congrArg _ ByteArray.append_empty
    rw [htaken, hwritten, ByteArray.append_assoc]
    exact ih

/-- Whoever was greeted can be. -/
theorem fits_greeting (h : Carries greeting id acts waiting) : Frame.Fits greeting := by
  induction h with
  | greeted fits => exact fits
  | take _ _ ih => exact ih
  | write _ ih => exact ih

/-- What is accepted has a frame. -/
theorem fits_of_mem_taken (h : Carries greeting id acts waiting) :
    ∀ payload ∈ taken acts, Frame.Fits payload := by
  induction h with
  | greeted => exact fun payload hmem => by cases hmem
  | take _ fits ih =>
    intro payload hmem
    rw [taken_append, List.mem_append] at hmem
    rcases hmem with hmem | hmem
    · exact ih payload hmem
    · rwa [List.mem_singleton.1 hmem]
  | write _ ih =>
    intro payload hmem
    rw [taken_append, List.mem_append] at hmem
    rcases hmem with hmem | hmem
    · exact ih payload hmem
    · cases hmem

/-- A line that is open has not been hung up. -/
theorem hungUp_not_mem (h : Carries greeting id acts waiting) : .hungUp id ∉ acts := by
  induction h with
  | greeted => simp
  | take _ _ ih => simp [ih]
  | write _ ih => simp [ih]

theorem ne_nil (h : Carries greeting id acts waiting) : acts ≠ [] := by
  cases h <;> simp

/-- What came about act by act did so at every moment before. -/
theorem of_prefix {before : List Effect} (h : Carries greeting id acts waiting)
    (hbefore : before <+: acts) :
    before = [] ∨ ∃ waiting', Carries greeting id before waiting' := by
  induction h with
  | greeted fits =>
    rcases List.prefix_cons_iff.1 hbefore with rfl | ⟨rest, rfl, hrest⟩
    · exact .inl rfl
    · rw [List.prefix_nil.1 hrest]
      exact .inr ⟨[], .greeted fits⟩
  -- Where an act was added, the moment is now, or it was one before.
  | take earlier fits ih =>
    rcases List.prefix_concat_iff.1 hbefore with rfl | hearlier
    · exact .inr ⟨_, earlier.take fits⟩
    · exact ih hearlier
  | write earlier ih =>
    rcases List.prefix_concat_iff.1 hbefore with rfl | hearlier
    · exact .inr ⟨_, earlier.write⟩
    · exact ih hearlier

/-- A writer writes all that waits, in order. -/
theorem writeAll (h : Carries greeting id acts waiting) :
    Carries greeting id (acts ++ (waiting.map Frame.wire).map (.sent id)) [] := by
  induction waiting generalizing acts with
  | nil => simpa using h
  | cons payload waiting ih =>
    have hrest := ih h.write
    rwa [List.append_assoc] at hrest

end Carries

/-! ### The line of a connection -/

theorem Outlet.isFor_of_mem_writing (o : Outlet) {id : ConnectionId} :
    ∀ e ∈ o.writing id, e.isFor id = true := by
  intro e he
  obtain ⟨frame, -, rfl⟩ := List.mem_map.1 he
  exact decide_eq_true rfl

theorem Outlet.isFor_of_mem_parting (o : Outlet) {id : ConnectionId} :
    ∀ e ∈ o.parting id, e.isFor id = true := by
  intro e he
  unfold Outlet.parting at he
  split at he
  · rw [List.mem_singleton.1 he]
    exact decide_eq_true rfl
  · cases he

/-- The sending side of a connection and its traffic, at every stage. -/
inductive Line (greeting : ByteArray) (id : ConnectionId) : Outlet → List Effect → Prop
  /-- The connection is still to come. -/
  | outside (fault : Option IoFault) : Line greeting id ⟨.finished, fault, false, .shut⟩ []
  /-- It could not be greeted. -/
  | snubbed (fault : Option IoFault) :
      Line greeting id ⟨.finished, fault, false, .shut⟩ [.hungUp id]
  /-- It was greeted. -/
  | introducing (fault : Option IoFault) (fits : Frame.Fits greeting) :
      Line greeting id ⟨.introducing, fault, true, .shut⟩ [.sent id (Frame.wire greeting)]
  /-- It serves, and has a writer. -/
  | serving (role : Role) (fault : Option IoFault) {acts : List Effect}
      {waiting : List ByteArray} (carries : Carries greeting id acts waiting) :
      Line greeting id ⟨.serving role, fault, true, ⟨waiting.map Frame.wire, true⟩⟩ acts
  /-- It serves, but its writer has ended. If that could write, nothing is left. -/
  | muted (role : Role) (fault : Option IoFault) {acts : List Effect}
      {waiting : List ByteArray} (carries : Carries greeting id acts waiting)
      (lossless : fault = none → waiting = []) :
      Line greeting id ⟨.serving role, fault, false, .shut⟩ (acts ++ [.hungUp id])
  /-- It was greeted, and has ended. -/
  | ended (fault : Option IoFault) {acts : List Effect} {waiting : List ByteArray}
      (carries : Carries greeting id acts waiting) :
      Line greeting id ⟨.finished, fault, false, .shut⟩ (acts ++ [.hungUp id])

namespace Line

variable {greeting : ByteArray} {id : ConnectionId} {o : Outlet} {acts : List Effect}

/-! #### What happens to it -/

/-- Writing to the peer fails from now on. -/
theorem impair (h : Line greeting id o acts) (fault : IoFault) :
    Line greeting id { o with fault := some fault } acts := by
  cases h with
  | outside => exact .outside _
  | snubbed => exact .snubbed _
  | introducing _ fits => exact .introducing _ fits
  | serving role _ carries => exact .serving role _ carries
  | muted role _ carries => exact .muted role _ carries fun hnone => by cases hnone
  | ended _ carries => exact .ended _ carries

/-- The connection takes its place and gets a queue. -/
theorem register (h : Line greeting id o acts) (before : o.stage = .introducing) (role : Role) :
    Line greeting id { o with stage := .serving role, outbox := {} } acts := by
  cases h with
  | introducing fault fits => exact .serving role fault (.greeted fits)
  | _ => cases before

/-- The connection ends, wherever it was. -/
theorem finish (h : Line greeting id o acts) (before : o.stage ≠ .finished) :
    Line greeting id { o.mute with stage := .finished } (acts ++ o.parting id) := by
  cases h with
  | outside | snubbed | ended => exact absurd rfl before
  | introducing fault fits => exact .ended fault (.greeted fits)
  | serving role fault carries => exact .ended fault carries
  | muted role fault carries =>
    -- The node had hung up before.
    show Line greeting id _ (_ ++ [])
    rw [List.append_nil]
    exact .ended fault carries

/-- A payload is accepted. -/
theorem take (h : Line greeting id o acts) (hopen : o.outbox.isOpen = true)
    {payload : ByteArray} (fits : Frame.Fits payload) :
    Line greeting id { o with outbox := ⟨o.outbox.queued ++ [Frame.wire payload], true⟩ }
      (acts ++ [.accepted id payload]) := by
  cases h with
  | @serving role fault acts waiting carries =>
    have hqueued : waiting.map Frame.wire ++ [Frame.wire payload] =
        (waiting ++ [payload]).map Frame.wire := by
      rw [List.map_append, List.map_singleton]
    show Line greeting id ⟨_, _, _, ⟨waiting.map Frame.wire ++ [Frame.wire payload], true⟩⟩ _
    rw [hqueued]
    exact .serving role fault (carries.take fits)
  | _ => cases hopen

/-- The writer writes all that waits. -/
theorem write (h : Line greeting id o acts) (hopen : o.outbox.isOpen = true) :
    Line greeting id { o with outbox := {} } (acts ++ o.writing id) := by
  cases h with
  | serving role fault carries =>
    have hwritten := carries.writeAll
    exact .serving role fault hwritten
  | _ => cases hopen

/-- The writer writes all that waits, and ends. -/
theorem retire (h : Line greeting id o acts) (hopen : o.outbox.isOpen = true) :
    Line greeting id o.mute (acts ++ (o.writing id ++ o.parting id)) := by
  rw [← List.append_assoc]
  cases h with
  | serving role fault carries => exact .muted role fault carries.writeAll fun _ => rfl
  | _ => cases hopen

/-- Writing fails, and the writer ends. -/
theorem choke (h : Line greeting id o acts) (hopen : o.outbox.isOpen = true)
    (stuck : ¬ o.Flows) : Line greeting id o.mute (acts ++ o.parting id) := by
  cases h with
  | serving role fault carries =>
    exact .muted role fault carries fun hnone => absurd (.inl hnone) stuck
  | _ => cases hopen

/-! #### What can be said of it -/

/-- A connection that has not finished has been greeted. -/
theorem ne_nil (h : Line greeting id o acts) (before : o.stage ≠ .finished) : acts ≠ [] := by
  cases h with
  | outside | snubbed | ended => exact absurd rfl before
  | introducing => simp
  | serving _ _ carries => exact carries.ne_nil
  | muted => simp

/-- Who has a writer serves. -/
theorem stage_of_open (h : Line greeting id o acts) (hopen : o.outbox.isOpen = true) :
    o.stage ≠ .finished := by
  cases h with
  | serving => exact fun heq => by cases heq
  | _ => cases hopen

/-- Nothing waits where there is no writer. -/
theorem empty_of_shut (h : Line greeting id o acts) (hshut : ¬ o.outbox.isOpen = true) :
    o.outbox.queued = [] := by
  cases h with
  | serving => exact absurd rfl hshut
  | _ => rfl

/-- A connection without traffic is still to come. -/
theorem shut_of_nil (h : Line greeting id o []) : o.outbox = .shut := by
  -- The cases cannot be told apart while the acts are given.
  generalize hacts : ([] : List Effect) = acts at h
  cases h with
  | serving _ _ carries => exact absurd hacts.symm carries.ne_nil
  | _ => rfl

/-- **The writer of a connection** is there while it serves and the node has not hung up. -/
theorem open_iff (h : Line greeting id o acts) :
    o.outbox.isOpen = true ↔ (∃ role, o.stage = .serving role) ∧ .hungUp id ∉ acts := by
  cases h with
  | serving role _ carries => exact ⟨fun _ => ⟨⟨role, rfl⟩, carries.hungUp_not_mem⟩, fun _ => rfl⟩
  | _ => simp [Mailbox.shut]

/-- Bytes are written to those only who can be greeted. -/
theorem fits_greeting (h : Line greeting id o acts) (hsome : written acts ≠ .empty) :
    Frame.Fits greeting := by
  cases h with
  | outside | snubbed => exact absurd rfl hsome
  | introducing _ fits => exact fits
  | serving _ _ carries | muted _ _ carries | ended _ carries => exact carries.fits_greeting

/-- What is accepted has a frame. -/
theorem fits_of_mem_taken (h : Line greeting id o acts) {payload : ByteArray}
    (hmem : payload ∈ taken acts) : Frame.Fits payload := by
  cases h with
  | outside | snubbed | introducing => cases hmem
  | serving _ _ carries => exact carries.fits_of_mem_taken payload hmem
  | muted _ _ carries | ended _ carries =>
    rw [taken_append, List.mem_append] at hmem
    rcases hmem with hmem | hmem
    · exact carries.fits_of_mem_taken payload hmem
    · cases hmem

/-- **At every moment** what has been written is the beginning of the greeting and the frames of
what was accepted. -/
theorem begins (h : Line greeting id o acts) {before : List Effect} (hbefore : before <+: acts) :
    ∃ rest, written before ++ rest = Frame.wire greeting ++ Frame.wireAll (taken before) := by
  have hnothing : ∃ rest, written [] ++ rest = Frame.wire greeting ++ Frame.wireAll (taken []) :=
    ⟨_, ByteArray.empty_append⟩
  have hcarries {acts : List Effect} {waiting : List ByteArray}
      (carries : Carries greeting id acts waiting) (hbefore : before <+: acts) :
      ∃ rest, written before ++ rest = Frame.wire greeting ++ Frame.wireAll (taken before) := by
    rcases carries.of_prefix hbefore with rfl | ⟨waiting', hcarries⟩
    · exact hnothing
    · exact ⟨_, hcarries.balance⟩
  -- Hanging up writes nothing.
  have hhungUp {acts : List Effect} {waiting : List ByteArray}
      (carries : Carries greeting id acts waiting) (hbefore : before <+: acts ++ [.hungUp id]) :
      ∃ rest, written before ++ rest = Frame.wire greeting ++ Frame.wireAll (taken before) := by
    rcases List.prefix_concat_iff.1 hbefore with rfl | hearlier
    · refine ⟨Frame.wireAll waiting, ?_⟩
      rw [written_append, taken_append]
      show written acts ++ .empty ++ _ = _ ++ Frame.wireAll (taken acts ++ [])
      rw [ByteArray.append_empty, List.append_nil]
      exact carries.balance
    · exact hcarries carries hearlier
  cases h with
  | outside =>
    rw [List.prefix_nil.1 hbefore]
    exact hnothing
  | snubbed =>
    rcases List.prefix_cons_iff.1 hbefore with rfl | ⟨rest, rfl, hrest⟩
    · exact hnothing
    · rw [List.prefix_nil.1 hrest]
      exact hnothing
  | introducing _ fits => exact hcarries (.greeted fits) hbefore
  | serving _ _ carries => exact hcarries carries hbefore
  | muted _ _ carries | ended _ carries => exact hhungUp carries hbefore

/-- **When nothing waits any more** all of it has been written, if writing works. -/
theorem complete (h : Line greeting id o acts) (before : o.stage ≠ .finished)
    (works : o.fault = none) (empty : o.outbox.queued = []) :
    written acts = Frame.wire greeting ++ Frame.wireAll (taken acts) := by
  have hbalance {acts : List Effect} (carries : Carries greeting id acts []) :
      written acts = Frame.wire greeting ++ Frame.wireAll (taken acts) := by
    have h := carries.balance
    rwa [Frame.wireAll, ByteArray.append_empty] at h
  cases h with
  | outside | snubbed | ended => exact absurd rfl before
  | introducing _ fits => exact hbalance (.greeted fits)
  | serving _ _ carries =>
    obtain rfl := List.map_eq_nil_iff.1 empty
    exact hbalance carries
  | muted _ _ carries lossless =>
    obtain rfl := lossless works
    rw [written_append, taken_append]
    show _ ++ .empty = _ ++ Frame.wireAll (_ ++ [])
    rw [ByteArray.append_empty, List.append_nil]
    exact hbalance carries

end Line

/-! ### The invariant -/

/-- Every line is in order. -/
structure Conducted (greeting : ByteArray) (s : Step) : Prop where
  /-- The node greets with its name. -/
  named : s.node.localName.toUTF8 = greeting
  /-- What is sent to a contact goes to its connection. -/
  addressed : ∀ c, s.node.board.Knows c → c.outbox = c.id
  /-- A connection that is still to come has no traffic. -/
  unborn : ∀ id, s.node.nextId ≤ id → s.trafficOf id = []
  /-- The line of every connection is in order. -/
  line : ∀ id, Line greeting id (s.node.outlet id) (s.trafficOf id)

namespace Conducted

variable {greeting : ByteArray} {s t : Step}

/-- Something happens on one line. -/
theorem set (hs : Conducted greeting s)
    (haddressed : ∀ c, t.node.board.Knows c → c.outbox = c.id) {id : ConnectionId} {o : Outlet}
    {roster : Roster} {kept : Std.ExtTreeMap String Contact} {acts : List Effect}
    (outlook : t.node.outlook = { s.node.outlook.set id o with roster := roster, kept := kept })
    (traffic : t.traffic = acts) (hfor : ∀ e ∈ acts, e.isFor id = true)
    (hborn : s.trafficOf id = [] → acts = [])
    (hline : Line greeting id o (s.trafficOf id ++ acts)) :
    Conducted greeting ⟨t.node, s.effects ++ t.effects⟩ := by
  have hname : t.node.localName = s.node.localName := congrArg Outlook.localName outlook
  have hnext : t.node.nextId = s.node.nextId := congrArg Outlook.nextId outlook
  have houtlet : t.node.outlet = Function.update s.node.outlet id o :=
    congrArg Outlook.outlet outlook
  have htraffic := s.trafficOf_append traffic hfor
  refine ⟨hname ▸ hs.named, haddressed, fun j hj => ?_, fun j => ?_⟩
  -- Nothing happens on a line on which nothing has happened yet.
  · have hnone : s.trafficOf j = [] := hs.unborn j (hnext ▸ hj)
    rw [htraffic, hnone]
    split
    case isTrue heq => exact hborn (heq ▸ hnone)
    case isFalse => rfl
  · rw [htraffic]
    show Line greeting j (t.node.outlet j) _
    rw [houtlet]
    by_cases hj : j = id
    · subst hj
      rwa [Function.update_self, if_pos rfl]
    · rw [Function.update_of_ne hj, if_neg hj, List.append_nil]
      exact hs.line j

/-- Nothing happens on any line. -/
theorem keep (hs : Conducted greeting s)
    (haddressed : ∀ c, t.node.board.Knows c → c.outbox = c.id) {roster : Roster}
    {kept : Std.ExtTreeMap String Contact}
    (outlook : t.node.outlook = { s.node.outlook with roster := roster, kept := kept })
    (traffic : t.traffic = []) : Conducted greeting ⟨t.node, s.effects ++ t.effects⟩ := by
  -- Any line may be set to what it is, also one that is still to come.
  have hset : t.node.outlook =
      { s.node.outlook.set s.node.nextId (s.node.outlet s.node.nextId) with
        roster := roster, kept := kept } := by
    have hsame := s.node.outlook.set_outlet_self s.node.nextId
    rw [outlook]
    exact congrArg (fun v : Outlook => { v with roster := roster, kept := kept }) hsame.symm
  refine hs.set haddressed hset traffic (by simp) (fun _ => rfl) ?_
  rw [List.append_nil]
  exact hs.line _

/-- A new connection comes. -/
theorem welcome (hs : Conducted greeting s)
    (haddressed : ∀ c, t.node.board.Knows c → c.outbox = c.id) {o : Outlet} {acts : List Effect}
    (outlook : t.node.outlook = s.node.outlook.welcome o) (traffic : t.traffic = acts)
    (hfor : ∀ e ∈ acts, e.isFor s.node.nextId = true)
    (hline : Line greeting s.node.nextId o acts) :
    Conducted greeting ⟨t.node, s.effects ++ t.effects⟩ := by
  have hname : t.node.localName = s.node.localName := congrArg Outlook.localName outlook
  have hnext : t.node.nextId = s.node.nextId + 1 := congrArg Outlook.nextId outlook
  have houtlet : t.node.outlet = Function.update s.node.outlet s.node.nextId o :=
    congrArg Outlook.outlet outlook
  have htraffic := s.trafficOf_append traffic hfor
  refine ⟨hname ▸ hs.named, haddressed, fun j hj => ?_, fun j => ?_⟩
  · have hlt : s.node.nextId < j := by
      change t.node.nextId ≤ j at hj
      rw [hnext] at hj
      exact hj
    rw [htraffic, hs.unborn j (Nat.le_of_lt hlt), if_neg (Nat.ne_of_gt hlt)]
    rfl
  · rw [htraffic]
    show Line greeting j (t.node.outlet j) _
    rw [houtlet]
    by_cases hj : j = s.node.nextId
    · subst hj
      rwa [Function.update_self, if_pos rfl, hs.unborn _ (Nat.le_refl _)]
    · rw [Function.update_of_ne hj, if_neg hj, List.append_nil]
      exact hs.line j

/-- Only contacts whose queue is their connection's come to be about. -/
theorem addressed_of_deal (hs : Conducted greeting s) (h : Deal s.node t) :
    ∀ c, t.node.board.Knows c → c.outbox = c.id := by
  intro c hc
  rcases h.knows hc with hknown | ⟨id, role, address, -, rfl⟩
  · exact hs.addressed c hknown
  · rfl

/-- A writer keeps the line in order. -/
theorem work (hs : Conducted greeting s) {id : ConnectionId} (h : Worked s.node id t)
    (haddressed : ∀ c, t.node.board.Knows c → c.outbox = c.id) :
    Conducted greeting ⟨t.node, s.effects ++ t.effects⟩ := by
  have hline := hs.line id
  have hopen (isOpen : s.node.board.isOpen id = true) :
      (s.node.outlet id).outbox.isOpen = true := by
    rwa [Node.outlet_outbox, ← Switchboard.isOpen_eq]
  have hborn {acts : List Effect} (isOpen : s.node.board.isOpen id = true)
      (hnone : s.trafficOf id = []) : acts = [] :=
    absurd hnone (hline.ne_nil (hline.stage_of_open (hopen isOpen)))
  cases h with
  | idle node traffic => exact hs.keep haddressed (congrArg Node.outlook node) traffic
  | write role _ isOpen _ _ outlook traffic =>
    exact hs.set haddressed outlook traffic (Outlet.isFor_of_mem_writing _) (hborn isOpen)
      (hline.write (hopen isOpen))
  | retire role _ isOpen _ _ outlook traffic =>
    refine hs.set haddressed outlook traffic ?_ (hborn isOpen) (hline.retire (hopen isOpen))
    intro e he
    rcases List.mem_append.1 he with hwriting | hparting
    · exact Outlet.isFor_of_mem_writing _ e hwriting
    · exact Outlet.isFor_of_mem_parting _ e hparting
  | choke role _ isOpen stuck outlook traffic =>
    exact hs.set haddressed outlook traffic (Outlet.isFor_of_mem_parting _) (hborn isOpen)
      (hline.choke (hopen isOpen) stuck)

/-- **A dealing keeps every line in order.** -/
theorem deal (hs : Conducted greeting s) (h : Deal s.node t) :
    Conducted greeting ⟨t.node, s.effects ++ t.effects⟩ := by
  have haddressed := hs.addressed_of_deal h
  have hborn {id : ConnectionId} {acts : List Effect} (before : s.node.stage id ≠ .finished)
      (hnone : s.trafficOf id = []) : acts = [] :=
    absurd hnone ((hs.line id).ne_nil (by rwa [Node.outlet_stage]))
  cases h with
  | still outlook traffic => exact hs.keep haddressed outlook traffic
  | greet fits outlook traffic =>
    -- The number of the newcomer is new, so there is no queue under it.
    have hbox : s.node.board.outbox s.node.nextId = .shut := by
      have hline := hs.line s.node.nextId
      rw [hs.unborn _ (Nat.le_refl _)] at hline
      rw [← Node.outlet_outbox, hline.shut_of_nil]
    rw [hbox] at outlook
    rw [hs.named] at fits traffic
    exact hs.welcome haddressed outlook traffic (by simp [isFor]) (.introducing none fits)
  | snub fault outlook traffic =>
    exact hs.welcome haddressed outlook traffic (by simp [isFor]) (.snubbed fault)
  | refuse id before outlook traffic =>
    have hstage : s.node.stage id ≠ .finished := by simp [before]
    exact hs.set haddressed outlook traffic (Outlet.isFor_of_mem_parting _) (hborn hstage)
      ((hs.line id).finish (by rwa [Node.outlet_stage]))
  | register id role before outlook traffic =>
    have hline := (hs.line id).register (by rwa [Node.outlet_stage]) role
    refine hs.set haddressed outlook traffic (by simp) (fun _ => rfl) ?_
    rwa [List.append_nil]
  | tearDown id role before outlook traffic =>
    have hstage : s.node.stage id ≠ .finished := by simp [before]
    exact hs.set haddressed outlook traffic (Outlet.isFor_of_mem_parting _) (hborn hstage)
      ((hs.line id).finish (by rwa [Node.outlet_stage]))
  | work id worked => exact hs.work worked haddressed
  | take c payload known takes outlook traffic =>
    -- The contact may have lost its place long ago: its queue is its connection's all the same.
    have hto : c.outbox = c.id := hs.addressed c known
    obtain ⟨fits, isOpen⟩ := takes
    rw [hto] at outlook isOpen
    rw [Switchboard.isOpen_eq, ← Node.outlet_outbox] at isOpen
    have hline := hs.line c.id
    have hstage := hline.stage_of_open isOpen
    rw [Node.outlet_stage] at hstage
    have htaken := hline.take isOpen fits
    rw [Node.outlet_outbox] at htaken
    exact hs.set haddressed outlook traffic (by simp [isFor]) (hborn hstage) htaken
  | keep label c known outlook traffic | release label outlook traffic =>
    exact hs.keep haddressed outlook traffic
  | impair id fault outlook traffic =>
    have hline := (hs.line id).impair fault
    refine hs.set haddressed outlook traffic (by simp) (fun _ => rfl) ?_
    rwa [List.append_nil]

end Conducted

namespace Node

variable (localName : String) (handler : Handler) (bus : Bus)

theorem conducted_fresh : Conducted localName.toUTF8 (fresh localName handler bus).idle where
  named := rfl
  addressed c hc := by
    rcases hc with ⟨p, hp⟩ | ⟨label, hlabel⟩
    · cases p <;> cases hp
    · cases hlabel
  unborn _ _ := rfl
  line _ := .outside none

/-- **In every schedule every line is in order.** -/
theorem conducted_play (ps : List Pulse) :
    Conducted localName.toUTF8 ((fresh localName handler bus).play ps) :=
  (play_deals _ ps).induct (conducted_fresh localName handler bus) fun hs h => hs.deal h

end Node

end Overlay
