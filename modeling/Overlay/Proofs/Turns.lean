import Overlay.Proofs.Conservation

namespace Overlay.Frame

/-!
# A reader turn by turn

A call of a reader is a loop. Each turn of it looks at the bytes held; if they give nothing yet, it
takes one arrival from the stream, and if that brings bytes, they are added to those held and
another turn follows.

* `Reader.turn` — one turn: the answer, if there is one, and the reader afterwards; `Reader.turns`
  makes several turns, across the ends of calls;
* `Answers` — the four ways in which a turn can answer; `Reader.answers_or_takes` says that every
  turn that does not answer takes a piece of the stream;
* `Call` — a whole call, with the pieces of the stream that it takes; every call of `Reader.read`
  is one (`Reader.exists_call`), and it is made of that many turns (`Call.turns_eq`).
-/

/-- Whether a read of the stream brings bytes. The others interrupt the call that makes them. -/
def Arrival.isData : Arrival → Bool
  | data _ => true
  | finished | failed _ => false

/-- What a call reports that an arrival interrupts where the end of the stream means `e`. -/
def Arrival.report (cut : Arrival) (e : Error) : Error :=
  match cut with
  | failed fault => .io fault
  | data _ | finished => e

namespace Reader

/-- One turn of the loop: it answers, or it adds one piece of the stream to the bytes held. -/
def turn (r : Reader) : Option (Except Error ByteArray) × Reader :=
  match r.decoder.next with
  | (.ok (some payload), d) => (some (.ok payload), ⟨r.arrivals, d⟩)
  | (.error e, d) => (some (.error e), ⟨r.arrivals, d⟩)
  | (.ok none, d) =>
    match r.arrivals with
    | [] => (some (.error (endError d)), ⟨[], d⟩)
    | .data bytes :: later => (none, ⟨later, d.push bytes⟩)
    | .finished :: later => (some (.error (endError d)), ⟨later, d⟩)
    | .failed fault :: later => (some (.error (.io fault)), ⟨later, d⟩)

/-- A reader after some turns. Behind a turn that answers, the next call begins. -/
def turns : Nat → Reader → Reader
  | 0, r => r
  | n + 1, r => turns n r.turn.2

/-- **A call is its turns:** the first one that answers gives the answer. -/
theorem read_eq_turn (r : Reader) :
    r.read =
      match r.turn with
      | (some answer, r') => (answer, r')
      | (none, r') => r'.read := by
  obtain ⟨arrivals, d⟩ := r
  show readFrom d arrivals = _
  cases hnext : d.next with
  | mk answer d' =>
    match answer with
    | .ok (some payload) => cases arrivals <;> simp [readFrom, turn, hnext]
    | .error e => cases arrivals <;> simp [readFrom, turn, hnext]
    | .ok none =>
      -- The bytes held give nothing, so the next arrival decides.
      cases arrivals with
      | nil => simp [readFrom, turn, hnext]
      | cons arrival later => cases arrival <;> simp [readFrom, turn, hnext, read]

end Reader

/-! ### What a turn can do -/

/-- How a turn of a reader answers, and what it leaves. -/
inductive Answers : Reader → Except Error ByteArray → Reader → Prop
  /-- A frame stands in front of the bytes held. It is given, without a look at the stream. -/
  | gives {held payload rest : ByteArray} {later : List Arrival}
      (whole : front held = .frame payload rest) :
      Answers ⟨later, ⟨held⟩⟩ (.ok payload) ⟨later, ⟨rest⟩⟩
  /-- The bytes held declare an oversized frame. Nothing changes, and the stream is left alone. -/
  | refuses {held : ByteArray} {length : Nat} {later : List Arrival}
      (large : front held = .oversized length) :
      Answers ⟨later, ⟨held⟩⟩ (.error (.tooLarge length)) ⟨later, ⟨held⟩⟩
  /-- The bytes held give nothing yet, and the next read fails or sees the end of the stream. -/
  | stops {held : ByteArray} {cut : Arrival} {later : List Arrival}
      (part : front held = .incomplete) (interrupts : cut.isData = false) :
      Answers ⟨cut :: later, ⟨held⟩⟩ (.error (cut.report (ending held))) ⟨later, ⟨held⟩⟩
  /-- The bytes held give nothing yet, and the stream is over. -/
  | ends {held : ByteArray} (part : front held = .incomplete) :
      Answers ⟨[], ⟨held⟩⟩ (.error (ending held)) ⟨[], ⟨held⟩⟩

/-- A turn answers in one way only. -/
theorem Answers.turn_eq {r r' : Reader} {answer : Except Error ByteArray}
    (h : Answers r answer r') : r.turn = (some answer, r') := by
  cases h with
  | gives whole => simp [Reader.turn, Decoder.next, whole]
  | refuses large => simp [Reader.turn, Decoder.next, large]
  | @stops held cut later part interrupts =>
    have hending : Reader.endError ⟨held⟩ = ending held := Reader.endError_eq_ending part
    cases cut with
    | data bytes => cases interrupts
    | finished => simp [Reader.turn, Decoder.next, part, hending, Arrival.report]
    | failed fault => simp [Reader.turn, Decoder.next, part, Arrival.report]
  | @ends held part =>
    have hending : Reader.endError ⟨held⟩ = ending held := Reader.endError_eq_ending part
    simp [Reader.turn, Decoder.next, part, hending]

/-- A call whose first turn answers. -/
theorem Answers.read_eq {r r' : Reader} {answer : Except Error ByteArray}
    (h : Answers r answer r') : r.read = (answer, r') := by
  rw [Reader.read_eq_turn, h.turn_eq]

namespace Reader

/-- A turn that takes a piece of the stream, because the bytes held give nothing yet. -/
theorem turn_takes {held : ByteArray} (part : front held = .incomplete) (piece : ByteArray)
    (later : List Arrival) :
    turn ⟨.data piece :: later, ⟨held⟩⟩ = (none, ⟨later, ⟨held ++ piece⟩⟩) := by
  simp [turn, Decoder.next, part, Decoder.push]

/-- **What a turn can do:** answer in one of four ways, or take a piece of the stream. -/
theorem answers_or_takes (r : Reader) :
    (∃ answer r', Answers r answer r') ∨
      ∃ held piece later, r = ⟨.data piece :: later, ⟨held⟩⟩ ∧ front held = .incomplete := by
  obtain ⟨arrivals, ⟨held⟩⟩ := r
  cases hfront : front held with
  | frame payload rest => exact .inl ⟨_, _, .gives hfront⟩
  | oversized length => exact .inl ⟨_, _, .refuses hfront⟩
  | incomplete =>
    match arrivals with
    | [] => exact .inl ⟨_, _, .ends hfront⟩
    | .finished :: later => exact .inl ⟨_, _, .stops hfront rfl⟩
    | .failed fault :: later => exact .inl ⟨_, _, .stops hfront rfl⟩
    | .data piece :: later => exact .inr ⟨held, piece, later, rfl, hfront⟩

end Reader

/-! ### Whole calls -/

/-- A call that takes some pieces of the stream, one in each turn, and then answers. -/
inductive Call : Reader → List ByteArray → Except Error ByteArray → Reader → Prop
  /-- The turn answers. -/
  | answers {r r' : Reader} {answer : Except Error ByteArray} (last : Answers r answer r') :
      Call r [] answer r'
  /-- The bytes held give nothing yet, and the turn takes a piece. -/
  | takes {held piece : ByteArray} {later : List Arrival} {pieces : List ByteArray}
      {answer : Except Error ByteArray} {r' : Reader} (part : front held = .incomplete)
      (more : Call ⟨later, ⟨held ++ piece⟩⟩ pieces answer r') :
      Call ⟨.data piece :: later, ⟨held⟩⟩ (piece :: pieces) answer r'

/-- **Every call comes to an end:** it takes some pieces, and then a turn answers. -/
theorem Reader.exists_call (r : Reader) : ∃ pieces, Call r pieces r.read.1 r.read.2 := by
  obtain ⟨arrivals, d⟩ := r
  -- Every turn that does not answer leaves one arrival less.
  induction arrivals generalizing d with
  | nil =>
    rcases answers_or_takes ⟨[], d⟩ with ⟨answer, r', h⟩ | ⟨held, piece, later, h, -⟩
    · rw [h.read_eq]
      exact ⟨[], .answers h⟩
    · cases h
  | cons arrival later ih =>
    rcases answers_or_takes ⟨arrival :: later, d⟩ with ⟨answer, r', h⟩ | ⟨held, piece, _, h, part⟩
    · rw [h.read_eq]
      exact ⟨[], .answers h⟩
    · cases h
      obtain ⟨pieces, hcall⟩ := ih ⟨held ++ piece⟩
      rw [read_eq_turn, turn_takes part]
      exact ⟨piece :: pieces, .takes part hcall⟩

namespace Call

variable {r r' : Reader} {pieces : List ByteArray} {answer : Except Error ByteArray}

/-- **A call is made of turns:** one for each piece, and one that answers. -/
theorem turns_eq (h : Call r pieces answer r') :
    (∀ k < pieces.length, (r.turns k).turn.1 = none) ∧
      (r.turns pieces.length).turn = (some answer, r') := by
  induction h with
  | answers last =>
    refine ⟨fun k hk => ?_, last.turn_eq⟩
    exact absurd hk (Nat.not_lt_zero k)
  | @takes held piece later pieces answer r' part more ih =>
    have hturns (k : Nat) : Reader.turns (k + 1) ⟨.data piece :: later, ⟨held⟩⟩ =
        Reader.turns k ⟨later, ⟨held ++ piece⟩⟩ := by
      rw [Reader.turns, Reader.turn_takes part]
    refine ⟨fun k hk => ?_, ?_⟩
    · cases k with
      | zero => exact congrArg Prod.fst (Reader.turn_takes part piece later)
      | succ k =>
        rw [hturns]
        exact ih.1 k (Nat.lt_of_succ_lt_succ hk)
    · rw [List.length_cons, hturns]
      exact ih.2

/-- What a call takes from the stream, and what it has in its hands when it answers. -/
theorem exists_answers (h : Call r pieces answer r') :
    ∃ later, r.arrivals = pieces.map .data ++ later ∧
      Answers ⟨later, ⟨r.decoder.buffer ++ joined pieces⟩⟩ answer r' := by
  induction h with
  | @answers r r' answer last =>
    refine ⟨r.arrivals, rfl, ?_⟩
    rw [joined, ByteArray.append_empty]
    exact last
  | @takes held piece later pieces answer r' part more ih =>
    obtain ⟨rest, harrivals, hanswers⟩ := ih
    refine ⟨rest, by rw [List.map_cons, List.cons_append, ← harrivals], ?_⟩
    rw [joined, ← ByteArray.append_assoc]
    exact hanswers

end Call

/-! ### Calls behind calls -/

namespace Reader

/-- A reader that holds nothing yet, and the script of what its stream will bring. -/
def fresh (script : List Arrival) : Reader := ⟨script, {}⟩

theorem left_add (n m : Nat) (r : Reader) : r.left (n + m) = (r.left n).left m := by
  induction n generalizing r with
  | zero => rw [Nat.zero_add, left]
  | succ n ih => rw [Nat.succ_add, left, left, ih]

theorem left_succ (n : Nat) (r : Reader) : r.left (n + 1) = (r.left n).read.2 := left_add n 1 r

end Reader

end Overlay.Frame
