import Overlay.Proofs.Balance
import Overlay.Proofs.Courses
import Overlay.Proofs.Dealings
import Overlay.Proofs.Declarations

namespace Overlay

/-!
# One name for each connection

The first frame of a connection is decoded once. The text is the connection's name wherever the node
uses one, from the place that it takes to the last event about it.

* `Node.kept_react` — which contacts other code keeps is its own affair;
* `Named` — whoever is about bears the name in which its connection took its place;
* `Node.connect_declares` — the first frame gives the connection its place;
* `OneName` — all that a name is used for; `Node.one_name_everywhere` — in every run.
-/

namespace Node

/-! ### Copies that other code keeps -/

section Copies

variable (n : Node) (id : ConnectionId)

theorem kept_hangUp : (n.hangUp id).node.board.kept = n.board.kept := by
  unfold hangUp
  split <;> rfl

theorem kept_finish : (n.finish id).node.board.kept = n.board.kept := kept_hangUp _ id

theorem kept_tearDown (role : Role) : (n.tearDown id role).node.board.kept = n.board.kept :=
  kept_finish n id

theorem kept_takeFrame (payload : ByteArray) :
    (n.takeFrame id payload).node.board.kept = n.board.kept := by
  unfold takeFrame
  split
  · split
    · exact kept_finish _ id
    · rfl
  · simp only [dispatch]
    split
    · exact kept_tearDown _ id _
    · rfl
  · rfl

theorem kept_takeFrames (payloads : List ByteArray) :
    (n.takeFrames id payloads).node.board.kept = n.board.kept := by
  induction payloads generalizing n with
  | nil => rfl
  | cons payload payloads ih => exact (ih _).trans (kept_takeFrame n id payload)

theorem kept_breakOff (cause : Frame.Error) :
    (n.breakOff id cause).node.board.kept = n.board.kept := by
  unfold breakOff
  split
  · exact kept_finish _ id
  · exact kept_tearDown _ id _
  · rfl

theorem kept_receive (bytes : ByteArray) :
    (n.receive id bytes).node.board.kept = n.board.kept := by
  unfold receive
  split
  · rfl
  · simp only [Step.node_andThen]
    split
    · exact kept_takeFrames n id _
    · unfold retain
      split
      · exact (kept_breakOff _ id _).trans (kept_takeFrames n id _)
      · exact kept_takeFrames n id _

theorem kept_accept (address : String) (fault : Option IoFault) :
    (n.accept address fault).node.board.kept = n.board.kept := by
  simp only [accept, greet, Step.node_andThen]
  split
  · exact kept_finish _ _
  · exact kept_finish _ _
  · rfl

/-- **Which contacts are kept** is for other code alone to say. -/
theorem kept_react (i : Input) (hkeep : ∀ route label, i ≠ .keep route label)
    (hrelease : ∀ label, i ≠ .release label) :
    (n.react i).node.board.kept = n.board.kept := by
  cases i with
  | connect address fault =>
    simp only [react]
    split
    · exact kept_accept n address fault
    · rfl
  | receive id bytes => exact kept_receive n id bytes
  | close id =>
    simp only [react, endOfStream]
    split
    · rfl
    · exact kept_breakOff n id _
  | fail id fault => exact kept_breakOff n id _
  | post route payload => exact (n.board.post_keeps route payload).2
  | keep route label => exact absurd rfl (hkeep route label)
  | release label => exact absurd rfl (hrelease label)
  | impair | detachEvents | detachMessages | stopListening => rfl

theorem kept_settle : n.settle.node.board.kept = n.board.kept := by
  have heach (ids : List ConnectionId) : (n.flushEach ids).node.board.kept = n.board.kept := by
    induction ids generalizing n with
    | nil => rfl
    | cons id ids ih => exact (ih _).trans (flush_worked n id).keeps.2.1
  exact heach _

end Copies

end Node

/-! ### Whoever is about -/

/-- Copies that other code keeps bear the names in which their connections took their places. -/
def Named (s : Step) : Prop :=
  ∀ (label : String) c, s.node.board.kept[label]? = some c → ∃ role ∈ s.rolesOf c.id,
    c.name = role.name

namespace Named

variable {s t : Step}

/-- So does everybody who is about. -/
theorem known (hs : Named s) (placed : Placed s) {c : Contact} (hc : s.node.board.Knows c) :
    ∃ role ∈ s.rolesOf c.id, c.name = role.name := by
  rcases hc with ⟨p, hp⟩ | ⟨label, hlabel⟩
  · obtain ⟨role, hrole, -, hname⟩ := placed.named p c hp
    rw [placed.orderly.rolesOf_of_serving hrole]
    exact ⟨role, List.mem_singleton_self role, hname⟩
  · exact hs label c hlabel

/-- **An input gives no copy another name.** -/
theorem step (hs : Named s) (placed : Placed s) (i : Node.Input) :
    Named ⟨(s.node.step i).node, s.effects ++ (s.node.step i).effects⟩ := by
  have hcopies : ∀ (label : String) c, (s.node.react i).node.board.kept[label]? = some c →
      s.node.board.Knows c := by
    intro label c hc
    cases i with
    | keep route other =>
      simp only [Node.react, Node.keep] at hc
      split at hc
      · exact .inr ⟨label, hc⟩
      · rename_i d rest hroute
        change (s.node.board.kept.insert other d)[label]? = some c at hc
        rw [lookup_insert] at hc
        split at hc
        · cases hc
          exact Switchboard.knows_of_mem_addressees (hroute ▸ List.mem_cons_self)
        · exact .inr ⟨label, hc⟩
    | release other =>
      change (s.node.board.kept.erase other)[label]? = some c at hc
      rw [lookup_erase] at hc
      split at hc
      · cases hc
      · exact .inr ⟨label, hc⟩
    | _ =>
      rw [Node.kept_react _ _ (by simp) (by simp)] at hc
      exact .inr ⟨label, hc⟩
  intro label c hc
  change ((s.node.react i).node.settle).node.board.kept[label]? = some c at hc
  rw [Node.kept_settle] at hc
  obtain ⟨role, hrole, hname⟩ := hs.known placed (hcopies label c hc)
  -- Roles once taken stay on record.
  exact ⟨role, (Step.rolesOf_append _ _ c.id).symm ▸ List.mem_append_left _ hrole, hname⟩

end Named

namespace Node

/-- In every run, copies bear the names of their connections. -/
theorem named_run (localName : String) (handler : Handler) (bus : Bus) (is : List Input) :
    Named ((fresh localName handler bus).run is) := by
  induction is using List.reverseRecOn with
  | nil =>
    intro label c hc
    simp [run, idle, fresh] at hc
  | append_singleton is i ih =>
    have hstep := ih.step (placed_run localName handler bus is) i
    rw [run_append]
    simpa [run, idle, Step.andThen] using hstep

end Node

/-! ### Everywhere the same -/

/-- A connection goes by one name everywhere: the text of the bytes that its peer declared. -/
structure OneName (s : Step) (id : ConnectionId) (declared : ByteArray) : Prop where
  /-- It takes one place, in the role that has this name. -/
  entered : ∀ role, .entered id role ∈ s.effects ↔ role = .ofBytes declared
  /-- Its contact bears the name, whoever keeps it. -/
  contact : ∀ c, s.node.board.Knows c → c.id = id → c.name = Text.decode declared
  /-- As the parent, it is known by the name. -/
  parent : ∀ c, s.node.board.roster.parent = some c → c.id = id →
    s.node.board.roster.parentName = some (Text.decode declared)
  /-- As a client, it is listed under the name. -/
  client : ∀ (key : String) c, s.node.board.roster.client? key = some c → c.id = id →
    key = Text.decode declared
  /-- When it ends, its place is looked up in the same role. -/
  left : ∀ role, .left id role ∈ s.effects → role = .ofBytes declared
  /-- And nothing of it stays behind. -/
  removed : s.node.stage id = .finished → ∀ p c, s.node.board.roster.holder p = some c → c.id ≠ id
  /-- Its arrival is announced; and its departure, exactly if it has ended. -/
  announced : s.eventsOf id = if s.node.serves id then [(Role.ofBytes declared).arrival]
    else [(Role.ofBytes declared).arrival, (Role.ofBytes declared).departure]
  /-- What is announced of it is the name, as bytes and as a subscriber reads it. -/
  events : ∀ e, .published id e ∈ s.effects →
    e.payload = (Text.decode declared).toUTF8 ∧ e.peerName = Text.decode declared
  /-- Decoding what was announced changes nothing. -/
  stable : ∀ e, .published id e ∈ s.effects → (Text.decode e.payload).toUTF8 = e.payload
  /-- Declared text is announced as it was declared. -/
  verbatim : declared.IsValidUTF8 → (Text.decode declared).toUTF8 = declared

/-- An event of a connection is one of its events. -/
theorem Step.mem_eventsOf {s : Step} {id : ConnectionId} {e : Lifecycle.Event}
    (h : .published id e ∈ s.effects) : e ∈ s.eventsOf id := by
  refine List.mem_filterMap.2 ⟨.published id e, ?_, rfl⟩
  exact List.mem_filter.2 ⟨List.mem_filter.2 ⟨h, rfl⟩, decide_eq_true rfl⟩

/-- A connection leaves in the role in which it came. -/
theorem Passage.eq_of_left {id : ConnectionId} {stage : Stage} {acts : List Effect}
    (h : Passage id stage acts) {role r : Role} (hrole : role ∈ acts.filterMap Effect.role?)
    (hleft : .left id r ∈ acts) : r = role := by
  cases h with
  | outside | introducing | refused => cases hrole
  | serving r' payloads => simp [Effect.taking, Effect.serving] at hleft
  | gone r' payloads reason =>
    obtain rfl : role = r' := by simpa using hrole
    cases reason <;>
      simpa [Effect.taking, Effect.serving, Effect.leaving, Effect.farewell] using hleft

/-- **Whoever has taken a place under a declared name goes by it everywhere.** -/
theorem Named.oneName {s : Step} (hs : Named s) (placed : Placed s) {id : ConnectionId}
    {declared : ByteArray} (hrole : .ofBytes declared ∈ s.rolesOf id) :
    OneName s id declared := by
  have hpassage := placed.orderly.passage id
  have hroles : s.rolesOf id = [.ofBytes declared] := hpassage.roles_of_role hrole
  have hevents : s.eventsOf id = if s.node.serves id then [(Role.ofBytes declared).arrival]
      else [(Role.ofBytes declared).arrival, (Role.ofBytes declared).departure] :=
    hpassage.events_of_role hrole
  have hcontact : ∀ c, s.node.board.Knows c → c.id = id → c.name = Text.decode declared := by
    intro c hc hid
    obtain ⟨r, hr, hname⟩ := hs.known placed hc
    rw [hid, hroles, List.mem_singleton] at hr
    rw [hname, hr]
    rfl
  have hpublished : ∀ e, .published id e ∈ s.effects →
      ∃ transition, e = ⟨transition, (Text.decode declared).toUTF8, none⟩ := by
    intro e he
    have hmem := Step.mem_eventsOf he
    rw [hevents] at hmem
    split at hmem
    · exact ⟨_, List.mem_singleton.1 hmem⟩
    · rcases List.mem_pair.1 hmem with rfl | rfl <;> exact ⟨_, rfl⟩
  constructor
  case contact => exact hcontact
  case announced => exact hevents
  case entered =>
    intro r
    have hentry : .entered id r ∈ s.effects ↔ r ∈ s.rolesOf id := by
      rw [Step.mem_rolesOf, Step.entries, List.mem_filterMap]
      constructor
      · exact fun h => ⟨_, h, rfl⟩
      · rintro ⟨e, hmem, he⟩
        cases e <;> cases he
        exact hmem
    rw [hentry, hroles, List.mem_singleton]
  case parent =>
    intro c hc hid
    rw [Roster.parentName, hc, Option.map_some, hcontact c (.inl ⟨.parent, hc⟩) hid]
  case client =>
    intro key c hc hid
    obtain ⟨declared', r, hdeclared, -, hplace, hname⟩ :=
      placed.exists_declared (p := .client key) hc
    rw [← hcontact c (.inl ⟨.client key, hc⟩) hid, ← hname]
    rcases Introduction.place_of_ofBytes hdeclared with ⟨hparent, -⟩ | ⟨hclient, -⟩
    · rw [hplace] at hparent
      cases hparent
    · rw [hplace, Place.client.injEq] at hclient
      exact hclient
  case left =>
    intro r hleft
    refine hpassage.eq_of_left hrole ?_
    exact List.mem_filter.2 ⟨List.mem_filter.2 ⟨hleft, rfl⟩, decide_eq_true rfl⟩
  case removed =>
    intro hfinished p c hc hid
    obtain ⟨r, hserving, -⟩ := placed.named p c hc
    rw [hid, hfinished] at hserving
    cases hserving
  case events =>
    intro e he
    obtain ⟨transition, rfl⟩ := hpublished e he
    exact ⟨rfl, Text.decode_toUTF8 _⟩
  case stable =>
    intro e he
    obtain ⟨transition, rfl⟩ := hpublished e he
    exact congrArg String.toUTF8 (Text.decode_toUTF8 _)
  case verbatim => exact Text.toUTF8_decode_iff.2

namespace Node

/-- A connection comes in, is greeted, and its first frame gives it its place. -/
theorem connect_declares {n : Node} (fits : Frame.Fits n.localName.toUTF8)
    (listens : n.listening = true) {during : List Input} (later : List Input) (address : String)
    (isOpen : ∀ i ∈ during, i.ends n.nextId = false) {declared : ByteArray} {role : Role}
    (declares : Declares (received n.nextId during) declared)
    (name : Introduction.ofBytes declared = .accepted role) :
    role ∈ (n.run (.connect address none :: (during ++ later))).rolesOf n.nextId := by
  obtain ⟨-, hcourse⟩ := connect_course fits listens address isOpen
  have htaken := hcourse.taken_of_introduces ⟨declared, declares, name⟩
  rw [Step.mem_rolesOf] at htaken ⊢
  -- What comes later takes no entry back.
  have hrun : n.run (.connect address none :: (during ++ later)) =
      ((n.step (.connect address none)).andThen (·.run during)).andThen (·.run later) := by
    rw [run, Step.andThen_assoc]
    simp only [run_append]
  rw [hrun]
  refine (Step.entries_append _ _).symm ▸ List.mem_append_left _ ?_
  exact (Step.entries_append _ _).symm ▸ List.mem_append_right _ htaken

/-- **One name everywhere.** A connection comes in after any run, is greeted, and its peer declares
any bytes but the sentinel as its first frame, however they are cut. Then, whatever happens to it
and to others from then on, all that is ever done under a name for it is done under the text of
those bytes. -/
theorem one_name_everywhere (localName : String) (handler : Handler) (bus : Bus)
    (before during later : List Input) (address : String) (declared : ByteArray)
    (fits : Frame.Fits localName.toUTF8)
    (listens : ((fresh localName handler bus).run before).node.listening = true)
    (isOpen : ∀ i ∈ during,
      i.ends ((fresh localName handler bus).run before).node.nextId = false)
    (declares : Declares
      (received ((fresh localName handler bus).run before).node.nextId during) declared)
    (noSentinel : declared ≠ closeSentinel.toUTF8) :
    let id := ((fresh localName handler bus).run before).node.nextId
    let s := (fresh localName handler bus).run
      (before ++ .connect address none :: (during ++ later))
    OneName s id declared := by
  intro id s
  obtain ⟨hname, -, -⟩ := (run_moves_all (fresh localName handler bus) before).keeps
  have htaken := connect_declares (hname ▸ fits) listens later address isOpen declares
    (Introduction.ofBytes_of_ne noSentinel)
  have hrole : .ofBytes declared ∈ s.rolesOf id := by
    rw [Step.mem_rolesOf] at htaken ⊢
    simp only [s, run_append]
    exact (Step.entries_append _ _).symm ▸ List.mem_append_right _ htaken
  exact (named_run localName handler bus _).oneName (placed_run localName handler bus _) hrole

/-- A client whose name ends in a byte that is no text, cut inside its header: it comes and goes
under the same name, with a replacement character at the end. -/
theorem flawed_name_announced :
    let declared : ByteArray := ⟨#[97, 112, 105, 45, 0xFF]⟩
    let during : List Input := [.receive 1 ⟨#[5, 0]⟩, .connect "10.0.0.8:4002" none,
      .receive 1 ⟨#[0, 0, 97, 112, 105, 45, 0xFF, 1]⟩]
    let s := (fresh "root" .forwarding .fresh).run
      ([] ++ .connect "10.0.0.7:4001" none :: (during ++ [.close 1]))
    Declares (received 1 during) declared ∧ declared ≠ closeSentinel.toUTF8 ∧
      OneName s 1 declared ∧
      s.eventsOf 1 = [⟨.apiConnected, "api-\ufffd".toUTF8, none⟩,
        ⟨.apiDisconnected, "api-\ufffd".toUTF8, none⟩] := by
  intro declared during s
  have hdeclares : Declares (received 1 during) declared := by decide +kernel
  have hname : OneName s 1 declared :=
    one_name_everywhere "root" .forwarding .fresh [] during [.close 1] "10.0.0.7:4001" declared
      (by decide) rfl (by decide) hdeclares (by decide)
  have hended : s.node.serves 1 = false := by decide +kernel
  have hrole : Role.ofBytes declared = ⟨.api, "api-\ufffd"⟩ := by decide +kernel
  refine ⟨hdeclares, by decide, hname, ?_⟩
  rw [hname.announced, hended, hrole]
  rfl

end Node

end Overlay
