import Overlay.Proofs.Turns

namespace Overlay.Frame

/-!
# How much a reader holds

A peer decides what a stream brings, and in which pieces. It cannot make a reader hold more than one
legal frame and one read, nor keep a call in its loop for more reads than a legal frame has bytes.

* `Measured` — a script whose reads bring as much as was asked for at most, and something at least;
* `Reader.Bounded` — the invariant of every turn: what is held is bounded, and what stands behind a
  whole frame has come with the last read;
* `Call.length_pieces_le` — each read of a call brings it nearer to the end of the frame in front;
* `backlog_bounded` — the bounds, at every moment and for every call.
-/

/-- A script whose reads bring at least one byte, and no more than a read asks for. -/
def Measured (script : List Arrival) : Prop :=
  ∀ piece, .data piece ∈ script → 0 < piece.size ∧ piece.size ≤ readSize

/-- A buffer that gives nothing yet is shorter than the longest legal frame. -/
theorem size_of_part {held : ByteArray} (part : front held = .incomplete) :
    held.size ≤ maxPayload + 3 := by
  rcases front_eq_incomplete_iff.1 part with hshort | ⟨length, -, hmax, hshort⟩
  · simp only [headerSize, LittleEndian.width] at hshort
    omega
  · simp only [headerSize, LittleEndian.width] at hshort
    omega

/-- When a piece completes a frame, what stands behind the frame is part of that piece. -/
theorem size_behind_lt {held piece payload rest : ByteArray} (part : front held = .incomplete)
    (whole : front (held ++ piece) = .frame payload rest) : rest.size < piece.size := by
  obtain ⟨hfits, hbytes⟩ := front_eq_frame_iff.1 whole
  have hsize : held.size + piece.size = headerSize + payload.size + rest.size := by
    rw [← ByteArray.size_append, hbytes, ByteArray.size_append, size_wire]
  -- The frame is longer than the bytes that were held before, since these did not complete it.
  have hheld : held.size < headerSize + payload.size := by
    rcases front_eq_incomplete_iff.1 part with hshort | ⟨length, hword, -, hshort⟩
    · omega
    · have hsame := decode?_append_of_some hword piece
      rw [hbytes, decode?_append_of_some (decode?_wire hfits) rest, Option.some.injEq] at hsame
      omega
  omega

/-! ### What every turn keeps -/

namespace Reader

/-- A reader that holds no more than it should. -/
structure Bounded (r : Reader) : Prop where
  /-- What the stream will bring keeps to the limit of a read. -/
  measured : Measured r.arrivals
  /-- At most a legal frame but for one byte is held, and what one read has added to it. -/
  held : r.decoder.buffered ≤ maxPayload + 3 + readSize
  /-- Behind a whole frame there is less than one read. -/
  behind : ∀ payload rest, front r.decoder.buffer = .frame payload rest → rest.size < readSize

/-- A fresh reader holds nothing. -/
theorem bounded_fresh {script : List Arrival} (h : Measured script) : (fresh script).Bounded := by
  refine ⟨h, Nat.zero_le _, ?_⟩
  intro payload rest whole
  have hpart : front (fresh script).decoder.buffer = .incomplete := rfl
  rw [hpart] at whole
  cases whole

namespace Bounded

variable {r r' : Reader} {pieces : List ByteArray} {answer : Except Error ByteArray}

/-- An answer adds nothing to what is held. -/
theorem answers (hr : r.Bounded) (h : Answers r answer r') : r'.Bounded := by
  cases h with
  | @gives held payload rest later whole =>
    have hrest : rest.size < readSize := hr.behind payload rest whole
    refine ⟨hr.measured, ?_, ?_⟩
    · show rest.size ≤ _
      omega
    · intro payload' rest' whole'
      have hlt : rest'.size < rest.size := size_rest_lt whole'
      omega
  | refuses large => exact hr
  | stops part interrupts =>
    exact ⟨fun piece hp => hr.measured piece (List.mem_cons_of_mem _ hp), hr.held, hr.behind⟩
  | ends part => exact hr

/-- A read adds a piece only to a part of a frame. -/
theorem takes {held piece : ByteArray} {later : List Arrival}
    (hr : Bounded ⟨.data piece :: later, ⟨held⟩⟩) (part : front held = .incomplete) :
    Bounded ⟨later, ⟨held ++ piece⟩⟩ := by
  have hpiece : piece.size ≤ readSize := (hr.measured piece List.mem_cons_self).2
  refine ⟨fun p hp => hr.measured p (List.mem_cons_of_mem _ hp), ?_, ?_⟩
  · show (held ++ piece).size ≤ _
    have hheld := size_of_part part
    rw [ByteArray.size_append]
    omega
  · intro payload rest whole
    exact Nat.lt_of_lt_of_le (size_behind_lt part whole) hpiece

/-- **A turn** leaves a bounded reader bounded. -/
theorem turn (hr : r.Bounded) : r.turn.2.Bounded := by
  rcases r.answers_or_takes with ⟨answer, r', h⟩ | ⟨held, piece, later, rfl, part⟩
  · rw [h.turn_eq]
    exact hr.answers h
  · rw [turn_takes part]
    exact hr.takes part

/-- **Any number of turns** leave it bounded. -/
theorem turns (hr : r.Bounded) (n : Nat) : (r.turns n).Bounded := by
  induction n generalizing r with
  | zero => exact hr
  | succ n ih => exact ih hr.turn

/-- A call answers out of a bounded reader. -/
theorem last (hr : r.Bounded) (h : Call r pieces answer r') :
    ∃ r₀ : Reader, r₀.Bounded ∧ Answers r₀ answer r' := by
  induction h with
  | answers last => exact ⟨_, hr, last⟩
  | takes part more ih => exact ih (hr.takes part)

/-- **A call** leaves a bounded reader bounded. -/
theorem read (hr : r.Bounded) : r.read.2.Bounded := by
  obtain ⟨pieces, hcall⟩ := r.exists_call
  obtain ⟨r₀, hr₀, hanswers⟩ := hr.last hcall
  exact hr₀.answers hanswers

/-- **Any number of calls** leave it bounded. -/
theorem left (hr : r.Bounded) (n : Nat) : (r.left n).Bounded := by
  induction n generalizing r with
  | zero => exact hr
  | succ n ih => exact ih hr.read

end Bounded

/-- After a call that gives a frame, less than one read is held. -/
theorem buffered_of_frame {r : Reader} (hr : r.Bounded) {payload : ByteArray}
    (h : r.read.1 = .ok payload) : r.read.2.decoder.buffered < readSize := by
  obtain ⟨pieces, hcall⟩ := r.exists_call
  obtain ⟨r₀, hr₀, hanswers⟩ := hr.last hcall
  rw [h] at hanswers
  generalize r.read.2 = r' at hanswers
  cases hanswers with
  | gives whole => exact hr₀.behind _ _ whole

end Reader

/-! ### How long a call reads -/

/-- **A call makes a bounded number of reads that bring bytes.** Each brings at least one byte, and
none is made once a whole frame or an oversized header is held. -/
theorem Call.length_pieces_le {r r' : Reader} {pieces : List ByteArray}
    {answer : Except Error ByteArray} (h : Call r pieces answer r')
    (brings : ∀ piece, .data piece ∈ r.arrivals → 0 < piece.size) :
    pieces.length ≤ maxPayload + 4 - r.decoder.buffered := by
  induction h with
  | answers last => exact Nat.zero_le _
  | @takes held piece later pieces answer r' part more ih =>
    have hpiece : 0 < piece.size := brings piece List.mem_cons_self
    have hheld := size_of_part part
    have hmore := ih fun p hp => brings p (List.mem_cons_of_mem _ hp)
    change pieces.length ≤ maxPayload + 4 - (held ++ piece).size at hmore
    show pieces.length + 1 ≤ maxPayload + 4 - held.size
    rw [ByteArray.size_append] at hmore
    omega

/-- The first `k` arrivals of a stream that never ends. -/
def firstOf (stream : Nat → Arrival) (k : Nat) : List Arrival := (List.range k).map stream

theorem firstOf_succ (stream : Nat → Arrival) (k : Nat) :
    firstOf stream (k + 1) = stream 0 :: firstOf (fun i => stream (i + 1)) k := by
  unfold firstOf
  rw [List.range_succ_eq_map, List.map_cons, List.map_map]
  rfl

/-- **A call comes to an end on a stream that never does.** It looks at some arrivals only, and what
follows them does not matter. -/
theorem Reader.exists_read_firstOf (stream : Nat → Arrival)
    (brings : ∀ i piece, stream i = .data piece → 0 < piece.size) (d : Decoder) :
    ∃ k answer d', (firstOf stream k).countP Arrival.isData ≤ maxPayload + 4 - d.buffered ∧
      ∀ later, read ⟨firstOf stream k ++ later, d⟩ = (answer, ⟨later, d'⟩) := by
  -- Every read that brings bytes leaves less room below the bound.
  induction hn : maxPayload + 4 - d.buffered using Nat.strongRecOn generalizing stream d with
  | ind n ih =>
    obtain ⟨held⟩ := d
    cases hfront : front held with
    | frame payload rest =>
      exact ⟨0, .ok payload, ⟨rest⟩, Nat.zero_le _, fun later => (Answers.gives hfront).read_eq⟩
    | oversized length =>
      exact ⟨0, .error (.tooLarge length), ⟨held⟩, Nat.zero_le _,
        fun later => (Answers.refuses hfront).read_eq⟩
    | incomplete =>
      cases hdata : (stream 0).isData with
      | false =>
        refine ⟨1, .error ((stream 0).report (ending held)), ⟨held⟩, ?_, fun later => ?_⟩
        · show [stream 0].countP _ ≤ _
          rw [List.countP_cons_of_neg (by rw [hdata]; exact Bool.false_ne_true)]
          exact Nat.zero_le _
        · exact (Answers.stops hfront hdata).read_eq
      | true =>
        cases hpiece : stream 0 with
        | finished => rw [hpiece] at hdata; cases hdata
        | failed fault => rw [hpiece] at hdata; cases hdata
        | data piece =>
          have hsize : 0 < piece.size := brings 0 piece hpiece
          have hheld := size_of_part hfront
          have hbuffered : (⟨held ++ piece⟩ : Decoder).buffered = held.size + piece.size :=
            ByteArray.size_append
          change maxPayload + 4 - held.size = n at hn
          obtain ⟨k, answer, d', hcount, hread⟩ :=
            ih (maxPayload + 4 - (⟨held ++ piece⟩ : Decoder).buffered) (by omega)
              (fun i => stream (i + 1)) (fun i => brings (i + 1)) ⟨held ++ piece⟩ rfl
          refine ⟨k + 1, answer, d', ?_, fun later => ?_⟩
          · rw [firstOf_succ, List.countP_cons_of_pos hdata]
            omega
          · rw [firstOf_succ, hpiece, List.cons_append, read_eq_turn, turn_takes hfront]
            exact hread later

/-- **A reader's backlog is bounded,** whatever its peer sends and in which pieces.

* At every moment of every call, a reader holds at most a legal frame but for one byte, and one
  read behind it.
* After a call that has given a frame, it holds less than one read.
* A call that begins with `b` bytes held makes at most `maxPayload + 4 - b` reads that bring any,
  one in each turn, and then answers.
* So it does on a stream that never ends, and what comes after its last read does not matter. -/
theorem backlog_bounded {script : List Arrival} (measured : Measured script) :
    (∀ n k, (((Reader.fresh script).left n).turns k).decoder.buffered ≤
      maxPayload + 3 + readSize) ∧
    (∀ n payload, ((Reader.fresh script).left n).read.1 = .ok payload →
      ((Reader.fresh script).left (n + 1)).decoder.buffered ≤ readSize - 1) ∧
    (∀ n, ∃ k, k ≤ maxPayload + 4 - ((Reader.fresh script).left n).decoder.buffered ∧
      (∀ j < k, (((Reader.fresh script).left n).turns j).turn.1 = none) ∧
      (((Reader.fresh script).left n).turns k).turn =
        (some ((Reader.fresh script).left n).read.1, (Reader.fresh script).left (n + 1))) ∧
    ∀ (stream : Nat → Arrival) (d : Decoder),
      (∀ i piece, stream i = .data piece → 0 < piece.size ∧ piece.size ≤ readSize) →
        ∃ k answer d', (firstOf stream k).countP Arrival.isData ≤ maxPayload + 4 - d.buffered ∧
          ∀ later, Reader.read ⟨firstOf stream k ++ later, d⟩ = (answer, ⟨later, d'⟩) := by
  have hbounded (n : Nat) : ((Reader.fresh script).left n).Bounded :=
    (Reader.bounded_fresh measured).left n
  refine ⟨fun n k => ((hbounded n).turns k).held, fun n payload h => ?_, fun n => ?_, ?_⟩
  · have hlt := Reader.buffered_of_frame (hbounded n) h
    rw [Reader.left_succ]
    omega
  · obtain ⟨pieces, hcall⟩ := ((Reader.fresh script).left n).exists_call
    have hreads := hcall.length_pieces_le fun piece hp => ((hbounded n).measured piece hp).1
    rw [Reader.left_succ]
    exact ⟨pieces.length, hreads, hcall.turns_eq⟩
  · intro stream d hstream
    exact Reader.exists_read_firstOf stream (fun i piece h => (hstream i piece h).1) d

/-- One read brings a frame and a byte of the next one. -/
theorem backlog_of_early_byte :
    let script : List Arrival := [.data ⟨#[1, 0, 0, 0, 7, 9]⟩]
    Measured script ∧ ((Reader.fresh script).left 0).read.1 = .ok ⟨#[7]⟩ ∧
      ((Reader.fresh script).left 1).decoder.buffered ≤ readSize - 1 := by
  intro script
  have measured : Measured script := by
    intro piece hpiece
    cases List.mem_singleton.1 hpiece
    decide
  have whole : front (.empty ++ ⟨#[1, 0, 0, 0, 7, 9]⟩) = .frame ⟨#[7]⟩ ⟨#[9]⟩ :=
    front_eq_frame_iff.2 ⟨by decide, rfl⟩
  have hread : ((Reader.fresh script).left 0).read.1 = .ok ⟨#[7]⟩ := by
    show (Reader.read ⟨script, ⟨.empty⟩⟩).1 = .ok ⟨#[7]⟩
    rw [Reader.read_eq_turn, Reader.turn_takes rfl]
    exact congrArg Prod.fst (Answers.gives whole).read_eq
  exact ⟨measured, hread, (backlog_bounded measured).2.1 0 _ hread⟩

end Overlay.Frame
