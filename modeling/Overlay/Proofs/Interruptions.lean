import Overlay.Proofs.Turns

namespace Overlay.Frame

/-!
# Interrupted streams

A stream may fail now and then, or look as if it were at its end, and go on afterwards. A reader
that is asked again after every such call loses nothing and reads nothing twice.

* `bytesOf` — all bytes that a script of arrivals brings;
* `Reader.Comes` — after some calls that give some frames, a reader does what another one does:
  from it a reader is followed through any script (`Reader.comes_through`), or up to an oversized
  frame (`Reader.comes_to_refusal`);
* `Fails` — what a call is that fails; `Reader.fails_of_read` says that there is nothing else;
* `interrupted_reads_lose_nothing` — what all calls on an interrupted stream come to.
-/

/-- All bytes that a script of arrivals brings. -/
def bytesOf (script : List Arrival) : ByteArray := joined (script.map Arrival.bytes)

/-- How many arrivals of a script interrupt the call that meets them. -/
def interruptions (script : List Arrival) : Nat := script.countP (!·.isData)

theorem bytesOf_cons (arrival : Arrival) (script : List Arrival) :
    bytesOf (arrival :: script) = arrival.bytes ++ bytesOf script := rfl

/-- An interruption brings no bytes. -/
theorem Arrival.bytes_of_interrupts {cut : Arrival} (h : cut.isData = false) :
    cut.bytes = .empty := by
  cases cut with
  | data bytes => cases h
  | finished | failed fault => rfl

/-- The bytes of a script are those of the reads that bring any. -/
theorem bytesOf_filter (script : List Arrival) :
    bytesOf (script.filter (·.isData)) = bytesOf script := by
  induction script with
  | nil => rfl
  | cons arrival script ih =>
    cases hdata : arrival.isData with
    | true => rw [List.filter_cons_of_pos hdata, bytesOf_cons, ih, bytesOf_cons]
    | false =>
      rw [List.filter_cons_of_neg (by rw [hdata]; exact Bool.false_ne_true), ih, bytesOf_cons,
        Arrival.bytes_of_interrupts hdata, ByteArray.empty_append]

namespace Reader

/-! ### Calls behind calls -/

theorem frames_succ (n : Nat) (r : Reader) :
    r.frames (n + 1) = given r.read.1 ++ r.read.2.frames n := rfl

theorem frames_add (n m : Nat) (r : Reader) :
    r.frames (n + m) = r.frames n ++ (r.left n).frames m := by
  induction n generalizing r with
  | zero =>
    rw [Nat.zero_add]
    rfl
  | succ n ih => rw [Nat.succ_add, frames_succ, frames_succ, ih, left, List.append_assoc]

/-- A reader that a call leaves as it is stays so. -/
theorem left_of_unchanged {r : Reader} (h : r.read.2 = r) (n : Nat) : r.left n = r := by
  induction n with
  | zero => rfl
  | succ n ih => rw [left, h, ih]

/-- A call takes arrivals off the front of the stream. -/
theorem arrivals_read (r : Reader) : r.read.2.arrivals <:+ r.arrivals := by
  obtain ⟨pieces, hcall⟩ := r.exists_call
  obtain ⟨later, harrivals, hanswers⟩ := hcall.exists_answers
  rw [harrivals]
  generalize r.read.1 = answer, r.read.2 = r' at hanswers
  have hlater : r'.arrivals <:+ later := by
    cases hanswers with
    | gives whole => exact List.suffix_rfl
    | refuses large => exact List.suffix_rfl
    | stops part interrupts => exact List.suffix_cons _ _
    | ends part => exact List.suffix_rfl
  exact hlater.trans (List.suffix_append _ _)

/-- Any number of calls take arrivals off the front of the stream. -/
theorem arrivals_left_add (n m : Nat) (r : Reader) :
    (r.left (n + m)).arrivals <:+ (r.left n).arrivals := by
  induction m with
  | zero => exact List.suffix_rfl
  | succ m ih =>
    rw [← Nat.add_assoc, left_succ]
    exact (arrivals_read _).trans ih

/-! ### Readers that do the same -/

/-- After `k` calls that give `frames`, a reader does what `r'` does. It may have to read bytes
first that `r'` holds already. -/
structure Comes (r : Reader) (k : Nat) (frames : List ByteArray) (r' : Reader) : Prop where
  /-- What the calls give. -/
  given : r.frames k = frames
  /-- The next call is one of `r'`. -/
  next : (r.left k).read = r'.read
  /-- What `r'` has not read is unread. -/
  unread : r'.arrivals <:+ (r.left k).arrivals

namespace Comes

variable {r r' r'' : Reader} {k m : Nat} {frames more : List ByteArray}

/-- Readers that do the same give the same frames. -/
theorem frames_eq (h : r.read = r'.read) (m : Nat) : r.frames m = r'.frames m := by
  cases m with
  | zero => rfl
  | succ m => rw [frames_succ, frames_succ, h]

/-- Calls behind calls. -/
theorem trans (h : Comes r k frames r') (h' : Comes r' m more r'') :
    Comes r (k + m) (frames ++ more) r'' := by
  refine ⟨?_, ?_, ?_⟩
  · rw [frames_add, h.given, frames_eq h.next, h'.given]
  · rw [left_add, ← h'.next]
    cases m with
    | zero => exact h.next
    | succ m => rw [left, left, h.next]
  · rw [left_add]
    cases m with
    | zero => exact h'.unread.trans h.unread
    | succ m =>
      rw [left, h.next]
      exact h'.unread

end Comes

/-- One call, and the reader that it leaves. -/
theorem comes_of_read {r r' : Reader} {answer : Except Error ByteArray}
    (h : r.read = (answer, r')) : Comes r 1 (given answer) r' := by
  obtain rfl : r.left 1 = r' := by rw [left, left, h]
  refine ⟨?_, rfl, List.suffix_rfl⟩
  rw [frames_succ, h]
  exact List.append_nil _

/-- **The frames held** are given one by one, before the stream is looked at. -/
theorem comes_held (later : List Arrival) (held : ByteArray) :
    Comes ⟨later, ⟨held⟩⟩ (split held).1.length (split held).1 ⟨later, ⟨(split held).2⟩⟩ := by
  -- Every frame given leaves fewer bytes.
  induction hn : held.size using Nat.strongRecOn generalizing held with
  | ind n ih =>
    by_cases h : ∃ payload rest, front held = .frame payload rest
    · obtain ⟨payload, rest, h⟩ := h
      have hlt := size_rest_lt h
      have hfirst := comes_of_read (@Answers.gives held payload rest later h).read_eq
      have hcomes := hfirst.trans (ih rest.size (by omega) rest rfl)
      rw [split_frame h, List.length_cons, Nat.add_comm]
      exact hcomes
    · rw [split_stop (by simpa using h)]
      exact ⟨rfl, rfl, List.suffix_rfl⟩

/-- **An arrival, when nothing whole is held.** Bytes are only remembered; an interruption costs one
call, and no byte. -/
theorem comes_past {held : ByteArray} (part : front held = .incomplete) (arrival : Arrival)
    (later : List Arrival) :
    Comes ⟨arrival :: later, ⟨held⟩⟩ (interruptions [arrival]) []
      ⟨later, ⟨held ++ arrival.bytes⟩⟩ := by
  cases hdata : arrival.isData with
  | true =>
    have hcalls : interruptions [arrival] = 0 := by simp [interruptions, hdata]
    rw [hcalls]
    cases arrival with
    | data piece =>
      refine ⟨rfl, ?_, List.suffix_cons _ _⟩
      rw [left, read_eq_turn, turn_takes part]
      rfl
    | finished | failed fault => cases hdata
  | false =>
    have hcalls : interruptions [arrival] = 1 := by simp [interruptions, hdata]
    rw [hcalls, Arrival.bytes_of_interrupts hdata, ByteArray.append_empty]
    exact comes_of_read (Answers.stops part hdata).read_eq

/-- What stands behind the frames held is parsed together with the arrivals. -/
theorem split_bytesOf_cons (held : ByteArray) (arrival : Arrival) (before : List Arrival) :
    split (held ++ bytesOf (arrival :: before)) =
      ((split held).1 ++ (split ((split held).2 ++ arrival.bytes ++ bytesOf before)).1,
        (split ((split held).2 ++ arrival.bytes ++ bytesOf before)).2) := by
  rw [split_append, bytesOf_cons, ByteArray.append_assoc]

/-- **Through a script.** Where nothing oversized is declared, one call is made for every frame and
one for every interruption, and then the reader stands behind the script. -/
theorem comes_through (before later : List Arrival) (held : ByteArray)
    (hopen : front (split (held ++ bytesOf before)).2 = .incomplete) :
    Comes ⟨before ++ later, ⟨held⟩⟩
      ((split (held ++ bytesOf before)).1.length + interruptions before)
      (split (held ++ bytesOf before)).1 ⟨later, ⟨(split (held ++ bytesOf before)).2⟩⟩ := by
  induction before generalizing held with
  | nil =>
    have hbytes : held ++ bytesOf [] = held := ByteArray.append_empty
    rw [hbytes]
    exact comes_held later held
  | cons arrival before ih =>
    -- First the frames that are held, then the arrival, then the rest of the script.
    have hpart : front (split held).2 = .incomplete := front_split_of_append hopen
    have hcalls : interruptions (arrival :: before) =
        interruptions [arrival] + interruptions before := by
      rw [interruptions, ← List.singleton_append, List.countP_append]
      rfl
    rw [split_bytesOf_cons] at hopen
    have hcomes := ((comes_held (arrival :: (before ++ later)) held).trans
      (comes_past hpart arrival (before ++ later))).trans (ih _ hopen)
    rw [List.append_nil] at hcomes
    rw [split_bytesOf_cons, hcalls, List.length_append, List.cons_append]
    convert hcomes using 1
    omega

/-- **Up to an oversized frame.** The frames before it are given, and then the reader holds what
declares it, with all that stands behind the script unread. -/
theorem comes_to_refusal (before later : List Arrival) (held : ByteArray) {length : Nat}
    (hlarge : front (split (held ++ bytesOf before)).2 = .oversized length) :
    ∃ k unread rest, Comes ⟨before ++ later, ⟨held⟩⟩ k (split (held ++ bytesOf before)).1
      ⟨unread ++ later, ⟨rest⟩⟩ ∧ front rest = .oversized length := by
  induction before generalizing held with
  | nil =>
    have hbytes : held ++ bytesOf [] = held := ByteArray.append_empty
    rw [hbytes] at hlarge ⊢
    exact ⟨_, [], _, comes_held later held, hlarge⟩
  | cons arrival before ih =>
    have hheld := comes_held (arrival :: (before ++ later)) held
    rcases front_split_cases held with hpart | ⟨length', hlarge'⟩
    -- Nothing oversized is held, so the arrival is read.
    · rw [split_bytesOf_cons] at hlarge
      obtain ⟨k, unread, rest, hcomes, hrest⟩ := ih _ hlarge
      have hall := (hheld.trans (comes_past hpart arrival (before ++ later))).trans hcomes
      rw [List.append_nil] at hall
      rw [split_bytesOf_cons]
      exact ⟨_, unread, rest, hall, hrest⟩
    -- The oversized frame is declared by what is held, and the script stays unread.
    · rw [split_append_of_oversized hlarge', front_append_of_oversized hlarge'] at hlarge
      cases hlarge
      rw [split_append_of_oversized hlarge']
      exact ⟨_, arrival :: before, _, hheld, hlarge'⟩

end Reader

/-! ### Failing calls -/

/-- What a call is that fails: the pieces that it takes are added to the bytes held, and that is all
that becomes of them. -/
inductive Fails : Reader → Error → Reader → Prop
  /-- An oversized frame is declared. The stream is not read any further. -/
  | refuses {held : ByteArray} {pieces : List ByteArray} {later : List Arrival} {length : Nat}
      (large : front (held ++ joined pieces) = .oversized length) :
      Fails ⟨pieces.map .data ++ later, ⟨held⟩⟩ (.tooLarge length) ⟨later, ⟨held ++ joined pieces⟩⟩
  /-- The stream interrupts the call, once. -/
  | stops {held : ByteArray} {pieces : List ByteArray} {cut : Arrival} {later : List Arrival}
      (part : front (held ++ joined pieces) = .incomplete) (interrupts : cut.isData = false) :
      Fails ⟨pieces.map .data ++ cut :: later, ⟨held⟩⟩
        (cut.report (ending (held ++ joined pieces))) ⟨later, ⟨held ++ joined pieces⟩⟩
  /-- The stream is over. -/
  | ends {held : ByteArray} {pieces : List ByteArray}
      (part : front (held ++ joined pieces) = .incomplete) :
      Fails ⟨pieces.map .data, ⟨held⟩⟩ (ending (held ++ joined pieces))
        ⟨[], ⟨held ++ joined pieces⟩⟩

namespace Reader

/-- **A failing call** fails in one of these ways. -/
theorem fails_of_read {r : Reader} {e : Error} (h : r.read.1 = .error e) :
    Fails r e r.read.2 := by
  obtain ⟨pieces, hcall⟩ := r.exists_call
  obtain ⟨later, harrivals, hanswers⟩ := hcall.exists_answers
  rw [h] at hanswers
  obtain ⟨arrivals, ⟨held⟩⟩ := r
  change arrivals = _ at harrivals
  subst harrivals
  generalize (read _).2 = r' at hanswers
  cases hanswers with
  | refuses large => exact .refuses large
  | stops part interrupts => exact .stops part interrupts
  | ends part =>
    rw [List.append_nil]
    exact .ends part

/-- What is reported of an interruption, or of the end of the stream, inside or between frames. -/
theorem ending_of_part {held : ByteArray} (part : front held = .incomplete) :
    ending held = if held.isEmpty then .closed else .truncated held.size := by
  simp [ending, part]

/-- An interruption is not taken for an oversized frame. -/
theorem report_ne_tooLarge {held : ByteArray} (part : front held = .incomplete) (cut : Arrival)
    (length : Nat) : cut.report (ending held) ≠ .tooLarge length := by
  rw [ending_of_part part]
  cases cut <;> cases held.isEmpty <;> simp [Arrival.report]

/-- The end of a stream is reported as truncated exactly if part of a frame has come before it. -/
theorem report_eq_truncated_iff {held : ByteArray} (part : front held = .incomplete)
    {cut : Arrival} (interrupts : cut.isData = false) {m : Nat} :
    cut.report (ending held) = .truncated m ↔ cut = .finished ∧ held.size = m ∧ 0 < m := by
  rw [ending_of_part part]
  cases cut with
  | data bytes => cases interrupts
  | failed fault => simp [Arrival.report]
  | finished =>
    simp only [Arrival.report, true_and]
    by_cases hempty : held.size = 0
    · rw [if_pos (by rw [ByteArray.isEmpty, hempty]; rfl), hempty]
      simp only [reduceCtorEq, false_iff]
      omega
    · rw [if_neg (by simpa [ByteArray.isEmpty] using hempty), Error.truncated.injEq]
      omega

/-- **A reader that has refused an oversized frame** refuses it again, and reads nothing more. -/
theorem read_of_refusal {r : Reader} {length : Nat} (h : r.read.1 = .error (.tooLarge length)) :
    r.read.2.read = (.error (.tooLarge length), r.read.2) := by
  have hfails := fails_of_read h
  generalize r.read.2 = r', he : Error.tooLarge length = e at hfails
  cases hfails with
  | refuses large =>
    cases he
    exact (Answers.refuses large).read_eq
  | @stops held pieces cut later part interrupts =>
    exact absurd he.symm (report_ne_tooLarge part cut length)
  | ends part => exact absurd he.symm (report_ne_tooLarge part .finished length)

/-- The frames that a call gives are legal. -/
theorem fits_of_mem_frames (n : Nat) (r : Reader) : ∀ payload ∈ r.frames n, Fits payload := by
  induction n generalizing r with
  | zero =>
    intro payload hpayload
    cases hpayload
  | succ n ih =>
    intro payload hpayload
    rw [frames_succ, List.mem_append] at hpayload
    rcases hpayload with hpayload | hpayload
    · obtain ⟨pieces, hcall⟩ := r.exists_call
      obtain ⟨later, -, hanswers⟩ := hcall.exists_answers
      generalize r.read.1 = answer, r.read.2 = r' at hanswers hpayload
      cases hanswers with
      | gives whole =>
        cases List.mem_singleton.1 hpayload
        exact (front_eq_frame_iff.1 whole).1
      | refuses large => cases hpayload
      | stops part interrupts => cases hpayload
      | ends part => cases hpayload
    · exact ih r.read.2 payload hpayload

/-- The frames that some calls give are the first of those in the bytes of the script. -/
theorem frames_prefix (script : List Arrival) (n : Nat) :
    (fresh script).frames n <+: (split (bytesOf script)).1 := by
  have hbytes : bytesOf script =
      wireAll ((fresh script).frames n) ++ ((fresh script).left n).bytes := by
    rw [← bytes_reads]
    exact (ByteArray.empty_append).symm
  rw [hbytes, split_wireAll_append (fits_of_mem_frames n _)]
  exact List.prefix_append _ _

/-- After enough calls, all frames in the bytes of the script have been given. -/
theorem exists_frames_eq (script : List Arrival) :
    ∃ n, (fresh script).frames n = (split (bytesOf script)).1 := by
  have hbytes : .empty ++ bytesOf script = bytesOf script := ByteArray.empty_append
  rcases front_split_cases (bytesOf script) with hpart | ⟨length, hlarge⟩
  · have hcomes := comes_through script [] .empty (by rw [hbytes]; exact hpart)
    rw [hbytes, List.append_nil] at hcomes
    exact ⟨_, hcomes.given⟩
  · obtain ⟨n, unread, rest, hcomes, -⟩ :=
      comes_to_refusal script [] .empty (by rw [hbytes]; exact hlarge)
    rw [hbytes, List.append_nil] at hcomes
    exact ⟨n, hcomes.given⟩

/-! ### Which call meets an interruption -/

/-- The call number `i` takes the arrival from the stream behind which `later` stands. -/
def Passes (r : Reader) (i : Nat) (later : List Arrival) : Prop :=
  later.length < (r.left i).arrivals.length ∧ (r.left (i + 1)).arrivals.length ≤ later.length

/-- An arrival is taken by one call only. -/
theorem Passes.unique {r : Reader} {i j : Nat} {later : List Arrival} (hi : r.Passes i later)
    (hj : r.Passes j later) : i = j := by
  -- What one call has taken, no later one can take.
  have hlt {a b : Nat} (ha : r.Passes a later) (hb : r.Passes b later) : ¬ a < b := by
    intro hab
    obtain ⟨c, rfl⟩ := Nat.exists_eq_add_of_lt hab
    have hshort := (arrivals_left_add (a + 1) c r).length_le
    rw [show a + 1 + c = a + c + 1 by omega] at hshort
    exact absurd (Nat.le_trans hshort ha.2) (Nat.not_le_of_lt hb.1)
  have h1 := hlt hi hj
  have h2 := hlt hj hi
  omega

/-- **The call that meets an interruption,** and what becomes of it. Before it, all frames have been
given that the bytes before the interruption complete. -/
theorem comes_to_stop {before : List Arrival} {cut : Arrival} (later : List Arrival)
    {rest : ByteArray} {frames : List ByteArray} {e : Error} (interrupts : cut.isData = false)
    (parse : Parses (bytesOf before) frames rest e) (hopen : ∀ length, e ≠ .tooLarge length) :
    (fresh (before ++ cut :: later)).Passes (frames.length + interruptions before) later ∧
      (fresh (before ++ cut :: later)).frames (frames.length + interruptions before) = frames ∧
      ((fresh (before ++ cut :: later)).left (frames.length + interruptions before)).read =
        (.error (cut.report e), ⟨later, ⟨rest⟩⟩) := by
  obtain ⟨hsplit, hending, hpart⟩ := parse.part hopen
  have hbytes : .empty ++ bytesOf before = bytesOf before := ByteArray.empty_append
  have hcomes := comes_through before (cut :: later) .empty (by rw [hbytes, hsplit]; exact hpart)
  rw [hbytes, hsplit] at hcomes
  have hread : ((fresh (before ++ cut :: later)).left (frames.length + interruptions before)).read =
      (.error (cut.report e), ⟨later, ⟨rest⟩⟩) := by
    rw [← hending]
    exact hcomes.next.trans (Answers.stops hpart interrupts).read_eq
  refine ⟨⟨?_, ?_⟩, hcomes.given, hread⟩
  · exact Nat.lt_of_lt_of_le (Nat.lt_succ_self _) hcomes.unread.length_le
  · exact Nat.le_of_eq (by rw [left_succ, hread])

/-- **An interruption behind an oversized frame** is not met by any call. -/
theorem not_passes_of_large {before later : List Arrival} {cut : Arrival} {rest : ByteArray}
    {frames : List ByteArray} {length : Nat}
    (parse : Parses (bytesOf before) frames rest (.tooLarge length)) (i : Nat) :
    ¬ (fresh (before ++ cut :: later)).Passes i later := by
  obtain ⟨hsplit, hlarge⟩ := parse.large
  have hbytes : .empty ++ bytesOf before = bytesOf before := ByteArray.empty_append
  obtain ⟨k, unread, held, hcomes, hheld⟩ :=
    comes_to_refusal before (cut :: later) .empty (by rw [hbytes, hsplit]; exact hlarge)
  have hread : read ⟨unread ++ cut :: later, ⟨held⟩⟩ =
      (.error (.tooLarge length), ⟨unread ++ cut :: later, ⟨held⟩⟩) :=
    (Answers.refuses hheld).read_eq
  have hleft (j : Nat) : ((fresh (before ++ cut :: later)).left (k + 1 + j)) =
      ⟨unread ++ cut :: later, ⟨held⟩⟩ := by
    rw [left_add, left_succ, show (fresh (before ++ cut :: later)).left k =
      left k ⟨before ++ cut :: later, ⟨.empty⟩⟩ from rfl, hcomes.next, hread]
    exact left_of_unchanged (by rw [hread]) j
  rintro ⟨-, hpassed⟩
  -- However many calls are made, the interruption is still unread after them.
  have hshort := (arrivals_left_add (i + 1) (k + 1) (fresh (before ++ cut :: later))).length_le
  rw [Nat.add_comm (i + 1), hleft, List.length_append, List.length_cons] at hshort
  omega

end Reader

/-! ### All calls -/

/-- What calls on a fresh reader come to, when its stream brings the script. -/
structure LosesNothing (script : List Arrival) : Prop where
  /-- The frames given are, in order, those of the script without its interruptions. -/
  frames : ∀ frames rest e, Parses (bytesOf (script.filter (·.isData))) frames rest e →
    (∀ n, (Reader.fresh script).frames n <+: frames) ∧
      ∃ n, ∀ m, n ≤ m → (Reader.fresh script).frames m = frames
  /-- An interruption is met by exactly one call, which reports it: as a fault, or as the end of the
  stream behind the bytes that came before it, inside a frame or between two. Before that call there
  is one for every frame that those bytes complete, and one for every interruption among them. -/
  stopped : ∀ before cut later, script = before ++ cut :: later → cut.isData = false →
    ∀ frames rest e, Parses (bytesOf before) frames rest e → (∀ length, e ≠ .tooLarge length) →
      ∃ call, call = frames.length + interruptions before ∧
        (∀ i, (Reader.fresh script).Passes i later ↔ i = call) ∧
        (Reader.fresh script).frames call = frames ∧
        ((Reader.fresh script).left call).read = (.error (cut.report e), ⟨later, ⟨rest⟩⟩) ∧
        ∀ m, cut.report e = .truncated m ↔ cut = .finished ∧ rest.size = m ∧ 0 < m
  /-- An interruption behind an oversized frame is met by no call. -/
  spared : ∀ before cut later, script = before ++ cut :: later →
    ∀ frames rest length, Parses (bytesOf before) frames rest (.tooLarge length) →
      ∀ i, ¬ (Reader.fresh script).Passes i later
  /-- A call that fails has met one interruption, or the end of the script, or an oversized frame,
  and leaves the bytes held as they were after its last read that brought any. -/
  failing : ∀ i e, ((Reader.fresh script).left i).read.1 = .error e →
    Fails ((Reader.fresh script).left i) e ((Reader.fresh script).left (i + 1))
  /-- After an oversized frame, every call reports it again, and the stream is left alone. -/
  refused : ∀ i length, ((Reader.fresh script).left i).read.1 = .error (.tooLarge length) →
    ∀ j, i < j → (Reader.fresh script).left j = (Reader.fresh script).left (i + 1) ∧
      ((Reader.fresh script).left j).read =
        (.error (.tooLarge length), (Reader.fresh script).left (i + 1))

/-- **Interrupted reads lose nothing.** Whatever faults and ends of the stream a script holds among
its bytes, calls on a fresh reader give the frames of the bytes alone; every interruption is
reported by the one call that meets it, at the place where it stands among the frames; and a call
that fails leaves what was read. -/
theorem interrupted_reads_lose_nothing (script : List Arrival) : LosesNothing script := by
  constructor
  case frames =>
    intro frames rest e parse
    rw [bytesOf_filter] at parse
    have hsplit := parse.eq_split.1
    have hbegins (n : Nat) : (Reader.fresh script).frames n <+: frames := by
      have h := Reader.frames_prefix script n
      rw [hsplit] at h
      exact h
    obtain ⟨n, hn⟩ := Reader.exists_frames_eq script
    rw [hsplit] at hn
    refine ⟨hbegins, n, fun m hm => ?_⟩
    obtain ⟨k, rfl⟩ := Nat.exists_eq_add_of_le hm
    have hlength : frames.length ≤ ((Reader.fresh script).frames (n + k)).length := by
      rw [Reader.frames_add, hn, List.length_append]
      exact Nat.le_add_right _ _
    exact (hbegins (n + k)).eq_of_length_le hlength
  case stopped =>
    rintro before cut later rfl interrupts frames rest e parse hopen
    obtain ⟨hpasses, hframes, hread⟩ := Reader.comes_to_stop later interrupts parse hopen
    refine ⟨_, rfl, fun i => ⟨fun hi => hi.unique hpasses, ?_⟩, hframes, hread, fun m => ?_⟩
    · rintro rfl
      exact hpasses
    · obtain ⟨-, hending, hpart⟩ := parse.part hopen
      rw [← hending]
      exact Reader.report_eq_truncated_iff hpart interrupts
  case spared =>
    rintro before cut later rfl frames rest length parse i
    exact Reader.not_passes_of_large parse i
  case failing =>
    intro i e h
    rw [Reader.left_succ]
    exact Reader.fails_of_read h
  case refused =>
    intro i length h j hj
    have hread := Reader.read_of_refusal h
    rw [← Reader.left_succ] at hread
    obtain ⟨k, rfl⟩ := Nat.exists_eq_add_of_lt hj
    have hleft : (Reader.fresh script).left (i + k + 1) = (Reader.fresh script).left (i + 1) := by
      rw [show i + k + 1 = i + 1 + k by omega, Reader.left_add]
      exact Reader.left_of_unchanged (by rw [hread]) k
    rw [hleft]
    exact ⟨rfl, hread⟩

/-- A fault inside a header. The call after the one that reports it gives the frame. -/
theorem fault_inside_header :
    let script : List Arrival :=
      [.data ⟨#[1, 0]⟩, .failed .connectionReset, .data ⟨#[0, 0, 7]⟩, .finished]
    Parses (bytesOf [.data ⟨#[1, 0]⟩]) [] ⟨#[1, 0]⟩ (.truncated 2) ∧
      (∀ i, (Reader.fresh script).Passes i [.data ⟨#[0, 0, 7]⟩, .finished] ↔ i = 0) ∧
      ((Reader.fresh script).left 0).read =
        (.error (.io .connectionReset), ⟨[.data ⟨#[0, 0, 7]⟩, .finished], ⟨⟨#[1, 0]⟩⟩⟩) := by
  intro script
  have parse : Parses (bytesOf [.data ⟨#[1, 0]⟩]) [] ⟨#[1, 0]⟩ (.truncated 2) := by
    refine ⟨by simp, rfl, ?_⟩
    -- Two bytes of the header are missing, and the payload.
    exact @Leftover.part ⟨#[1, 0]⟩ ⟨#[0, 0, 7]⟩ ⟨#[7]⟩ (by decide) (by decide) (by decide) rfl
  obtain ⟨call, rfl, hpasses, -, hread, -⟩ :=
    (interrupted_reads_lose_nothing script).stopped [.data ⟨#[1, 0]⟩] (.failed .connectionReset)
      [.data ⟨#[0, 0, 7]⟩, .finished] rfl rfl _ _ _ parse (by simp)
  exact ⟨parse, hpasses, hread⟩

end Overlay.Frame
