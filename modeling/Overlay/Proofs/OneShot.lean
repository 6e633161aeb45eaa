import Mathlib.Tactic.Common
import Overlay.Frame.Front

namespace Overlay.Frame

/-!
# Parsing a whole stream at once

What a stream of bytes is, said without any decoder: whole legal frames one behind the other,
and then a `Leftover` that begins with no further frame.

* `Leftover` — the three kinds of bytes that can stand behind the last frame, each with the
  error that the end of the stream means there;
* `Parses` — a stream, its frames, what is left and the error for it;
* `parses_split` and `Parses.eq_split` — every stream parses in exactly one way, and `split`
  with `ending` is that way;
* `split_append` — later bytes change nothing about the frames before them;
* `front_split_cases` — behind the last frame, part of a frame or an oversized header; `Parses.part`
  and `Parses.large` say the same of a stream that is parsed already.
-/

/-- Bytes that no frame begins with, and what the end of the stream means behind them. -/
inductive Leftover : ByteArray → Error → Prop
  /-- Nothing is left: the stream ends between two frames. -/
  | nothing : Leftover .empty .closed
  /-- A legal frame has begun, and at least one byte of it is missing. -/
  | part {rest missing payload : ByteArray} (begun : 0 < rest.size) (short : 0 < missing.size)
      (fits : Fits payload) (frame : rest ++ missing = wire payload) :
      Leftover rest (.truncated rest.size)
  /-- A header declares more bytes than a legal frame may have. -/
  | oversized {length : Nat} (large : maxPayload < length) (word : length < LittleEndian.modulus)
      (behind : ByteArray) : Leftover (LittleEndian.encode length ++ behind) (.tooLarge length)

/-- The stream `s` is `frames`, one behind the other, and then `rest`, where it ends with `e`. -/
structure Parses (s : ByteArray) (frames : List ByteArray) (rest : ByteArray) (e : Error) :
    Prop where
  /-- Every frame is legal. -/
  fits : ∀ payload ∈ frames, Fits payload
  /-- Nothing else is in the stream. -/
  bytes : s = wireAll frames ++ rest
  /-- No further frame follows. -/
  left : Leftover rest e

/-! ### Bytes behind a front -/

/-- The first word of a buffer does not depend on what stands behind it. -/
theorem decode?_append_of_some {b : ByteArray} {n : Nat} (h : LittleEndian.decode? b = some n)
    (more : ByteArray) : LittleEndian.decode? (b ++ more) = some n := by
  have hb := LittleEndian.eq_encode_append_of_decode? h
  rw [hb, ByteArray.append_assoc, LittleEndian.decode?_encode_append,
    Nat.mod_eq_of_lt (LittleEndian.lt_of_decode? h)]

/-- A whole frame at the front stays there when more bytes arrive. -/
theorem front_append_of_frame {b payload rest : ByteArray} (h : front b = .frame payload rest)
    (more : ByteArray) : front (b ++ more) = .frame payload (rest ++ more) := by
  obtain ⟨hfits, rfl⟩ := front_eq_frame_iff.1 h
  rw [ByteArray.append_assoc]
  exact front_wire_append hfits _

/-- An oversized header stays oversized when more bytes arrive. -/
theorem front_append_of_oversized {b : ByteArray} {length : Nat} (h : front b = .oversized length)
    (more : ByteArray) : front (b ++ more) = .oversized length := by
  obtain ⟨hd, hlarge⟩ := front_eq_oversized_iff.1 h
  exact front_eq_oversized_iff.2 ⟨decode?_append_of_some hd more, hlarge⟩

/-- The first word of a frame is the size of its payload. -/
theorem decode?_wire {payload : ByteArray} (h : Fits payload) :
    LittleEndian.decode? (wire payload) = some payload.size := by
  have hp : payload.size ≤ 16777216 := h
  rw [wire, LittleEndian.decode?_encode_append, LittleEndian.modulus, Nat.mod_eq_of_lt (by omega)]

/-- A buffer gives nothing yet exactly if it is shorter than the frame that it begins. -/
theorem front_eq_incomplete_iff {b : ByteArray} :
    front b = .incomplete ↔ b.size < headerSize ∨
      ∃ length, LittleEndian.decode? b = some length ∧ length ≤ maxPayload ∧
        b.size < headerSize + length := by
  cases hd : LittleEndian.decode? b with
  | none =>
    have hshort : b.size < headerSize := LittleEndian.decode?_eq_none_iff.1 hd
    simp [front, hd, hshort]
  | some length =>
    have hsize : ¬ b.size < headerSize := by
      intro hlt
      rw [LittleEndian.decode?_eq_none_iff.2 hlt] at hd
      cases hd
    simp only [front, hd, hsize, Option.some.injEq, exists_eq_left', false_or]
    split
    · simp only [reduceCtorEq, false_iff]; omega
    · split <;> simp only [reduceCtorEq, true_iff, false_iff] <;> omega

/-! ### Leftovers and fronts -/

/-- `n` zero bytes. -/
def zeros (n : Nat) : ByteArray := ⟨Array.replicate n 0⟩

@[simp] theorem size_zeros (n : Nat) : (zeros n).size = n := by
  simp [zeros, ByteArray.size]

/-- Fewer than four bytes are the beginning of a legal header: with zeros behind them they
declare fewer than `2 ^ 24` bytes. -/
theorem header_of_short {b : ByteArray} (h : b.size < headerSize) :
    ∃ length, length ≤ maxPayload ∧
      b ++ zeros (headerSize - b.size) = LittleEndian.encode length := by
  simp only [headerSize, LittleEndian.width] at h ⊢
  have hsize : (b ++ zeros (4 - b.size)).size = 4 := by
    simp only [ByteArray.size_append, size_zeros]; omega
  have hlast : (b ++ zeros (4 - b.size))[3] = 0 := by
    rw [ByteArray.getElem_append_right (by omega)]
    simp [zeros, ByteArray.getElem_eq_getElem_data]
  cases hd : LittleEndian.decode? (b ++ zeros (4 - b.size)) with
  | none =>
    have := LittleEndian.decode?_eq_none_iff.1 hd
    simp only [LittleEndian.width] at this
    omega
  | some length =>
    -- The last byte is a zero, so the word is less than `2 ^ 24`.
    refine ⟨length, ?_, ?_⟩
    · unfold LittleEndian.decode? at hd
      rw [dif_pos (by omega)] at hd
      have hlength := Option.some.inj hd
      have h0 := (b ++ zeros (4 - b.size))[0].toNat_lt
      have h1 := (b ++ zeros (4 - b.size))[1].toNat_lt
      have h2 := (b ++ zeros (4 - b.size))[2].toNat_lt
      rw [hlast] at hlength
      simp only [UInt8.toNat_zero] at hlength
      simp only [maxPayload]
      omega
    · have hb := LittleEndian.eq_encode_append_of_decode? hd
      rw [hsize, LittleEndian.width, ByteArray.extract_eq_empty_iff.2 (by omega),
        ByteArray.append_empty] at hb
      exact hb

/-- Whatever gives nothing yet can still become a legal frame. -/
theorem exists_missing {b : ByteArray} (h : front b = .incomplete) :
    ∃ missing payload, 0 < missing.size ∧ Fits payload ∧ b ++ missing = wire payload := by
  rcases front_eq_incomplete_iff.1 h with hshort | ⟨length, hd, hmax, hshort⟩
  -- Inside the header: zeros complete it, and as many zeros as it then declares follow.
  · obtain ⟨length, hmax, hheader⟩ := header_of_short hshort
    refine ⟨zeros (headerSize - b.size) ++ zeros length, zeros length, ?_, ?_, ?_⟩
    · simp only [ByteArray.size_append, size_zeros]; omega
    · simpa [Fits] using hmax
    · rw [← ByteArray.append_assoc, hheader, wire, size_zeros]
  -- Inside the payload: zeros fill it up.
  · have hb := LittleEndian.eq_encode_append_of_decode? hd
    have hsize : (b.extract LittleEndian.width b.size).size = b.size - headerSize := by
      simp only [ByteArray.size_extract, headerSize]; omega
    have hwhole : headerSize ≤ b.size := by
      rw [hb]; simp [ByteArray.size_append, headerSize]
    refine ⟨zeros (headerSize + length - b.size),
      b.extract LittleEndian.width b.size ++ zeros (headerSize + length - b.size), ?_, ?_, ?_⟩
    · simp only [size_zeros]; omega
    · simp only [Fits, ByteArray.size_append, size_zeros, hsize]; omega
    · have hlength : (b.extract LittleEndian.width b.size ++
          zeros (headerSize + length - b.size)).size = length := by
        simp only [ByteArray.size_append, size_zeros, hsize]; omega
      rw [wire, hlength, ← ByteArray.append_assoc, ← hb]

/-- A buffer that is cut inside a legal frame gives nothing yet. -/
theorem front_of_cut {b missing payload : ByteArray} (short : 0 < missing.size)
    (fits : Fits payload) (frame : b ++ missing = wire payload) : front b = .incomplete := by
  have hsize : b.size + missing.size = headerSize + payload.size := by
    rw [← ByteArray.size_append, frame, size_wire]
  refine front_eq_incomplete_iff.2 ?_
  by_cases hheader : b.size < headerSize
  · exact Or.inl hheader
  · right
    cases hd : LittleEndian.decode? b with
    | none => exact absurd (LittleEndian.decode?_eq_none_iff.1 hd) hheader
    | some length =>
      -- The header is whole, and the missing bytes do not change what it declares.
      have hword := decode?_append_of_some hd missing
      rw [frame, decode?_wire fits, Option.some.injEq] at hword
      refine ⟨length, rfl, ?_, by omega⟩
      rw [← hword]
      exact fits

/-- **What a leftover is to the decoder.** No frame is found in it, and the end of the stream
means there what the leftover says. -/
theorem Leftover.ending_eq {rest : ByteArray} {e : Error} (h : Leftover rest e) :
    (∀ payload more, front rest ≠ .frame payload more) ∧ ending rest = e := by
  cases h with
  | nothing =>
    have hfront : front .empty = .incomplete := rfl
    exact ⟨by simp [hfront], rfl⟩
  | part begun short fits frame =>
    have hfront := front_of_cut short fits frame
    have hfull : rest.isEmpty = false := by
      rw [ByteArray.isEmpty, beq_eq_false_iff_ne]
      omega
    exact ⟨by simp [hfront], by simp [ending, hfront, hfull]⟩
  | @oversized length large word behind =>
    have hfront : front (LittleEndian.encode length ++ behind) = .oversized length := by
      refine front_eq_oversized_iff.2 ⟨?_, large⟩
      rw [LittleEndian.decode?_encode_append, Nat.mod_eq_of_lt word]
    exact ⟨by simp [hfront], by simp [ending, hfront]⟩

/-- An oversized frame begins with its header. -/
theorem Leftover.exists_header {rest : ByteArray} {length : Nat}
    (h : Leftover rest (.tooLarge length)) :
    ∃ behind, rest = LittleEndian.encode length ++ behind := by
  cases h with
  | oversized large word behind => exact ⟨behind, rfl⟩

/-- Bytes in which the decoder finds no frame are a leftover. -/
theorem leftover_ending {rest : ByteArray}
    (h : ∀ payload more, front rest ≠ .frame payload more) : Leftover rest (ending rest) := by
  cases hfront : front rest with
  | frame payload more => exact absurd hfront (h payload more)
  | oversized length =>
    obtain ⟨hd, hlarge⟩ := front_eq_oversized_iff.1 hfront
    have hrest := LittleEndian.eq_encode_append_of_decode? hd
    have hlt := LittleEndian.lt_of_decode? hd
    rw [show ending rest = .tooLarge length by simp [ending, hfront], hrest]
    exact .oversized hlarge hlt _
  | incomplete =>
    by_cases hempty : rest = .empty
    · subst hempty
      exact .nothing
    · have hsize : rest.size ≠ 0 := fun h0 => hempty (ByteArray.size_eq_zero_iff.1 h0)
      obtain ⟨missing, payload, hshort, hfits, hframe⟩ := exists_missing hfront
      have hfull : rest.isEmpty = false := by
        rw [ByteArray.isEmpty, beq_eq_false_iff_ne]
        exact hsize
      rw [show ending rest = .truncated rest.size by simp [ending, hfront, hfull]]
      exact .part (by omega) hshort hfits hframe

/-! ### The one way to parse a stream -/

/-- The frames that `split` takes off are legal, and it stops where no further frame begins. -/
theorem split_stops (s : ByteArray) :
    (∀ payload ∈ (split s).1, Fits payload) ∧
      ∀ payload more, front (split s).2 ≠ .frame payload more := by
  -- The recursion of `split` is on the bytes left, not on a list, so the induction is on size.
  induction hn : s.size using Nat.strongRecOn generalizing s with
  | ind n ih =>
    by_cases h : ∃ payload more, front s = .frame payload more
    · obtain ⟨payload, more, h⟩ := h
      have hlt := size_rest_lt h
      obtain ⟨hfits, hstop⟩ := ih more.size (by omega) more rfl
      rw [split_frame h]
      refine ⟨?_, hstop⟩
      intro p hp
      rcases List.mem_cons.1 hp with rfl | hp
      · exact (front_eq_frame_iff.1 h).1
      · exact hfits p hp
    · have hstop : ∀ payload more, front s ≠ .frame payload more := by simpa using h
      rw [split_stop hstop]
      exact ⟨by simp, hstop⟩

/-- **Every stream parses**, and `split` and `ending` say how. -/
theorem parses_split (s : ByteArray) : Parses s (split s).1 (split s).2 (ending (split s).2) where
  fits := (split_stops s).1
  bytes := (wireAll_split s).symm
  left := leftover_ending (split_stops s).2

/-- **A stream parses in one way only.** -/
theorem Parses.eq_split {s : ByteArray} {frames : List ByteArray} {rest : ByteArray} {e : Error}
    (h : Parses s frames rest e) : split s = (frames, rest) ∧ ending rest = e := by
  obtain ⟨hstop, hending⟩ := h.left.ending_eq
  refine ⟨?_, hending⟩
  rw [h.bytes, split_wireAll_append h.fits, split_stop hstop, List.append_nil]

/-- Bytes that arrive later are parsed behind the frames and the leftover of those before. -/
theorem split_append (s more : ByteArray) :
    split (s ++ more) =
      ((split s).1 ++ (split ((split s).2 ++ more)).1, (split ((split s).2 ++ more)).2) := by
  conv_lhs => rw [← wireAll_split s, ByteArray.append_assoc]
  exact split_wireAll_append (split_stops s).1 _

/-! ### Behind the last frame -/

/-- Behind the last whole frame, the bytes give nothing yet or declare an oversized frame. -/
theorem front_split_cases (s : ByteArray) :
    front (split s).2 = .incomplete ∨ ∃ length, front (split s).2 = .oversized length := by
  cases h : front (split s).2 with
  | frame payload rest => exact absurd h ((split_stops s).2 payload rest)
  | oversized length => exact .inr ⟨length, rfl⟩
  | incomplete => exact .inl rfl

/-- Once an oversized frame is declared, bytes that arrive later belong to no frame. -/
theorem split_append_of_oversized {s : ByteArray} {length : Nat}
    (h : front (split s).2 = .oversized length) (more : ByteArray) :
    split (s ++ more) = ((split s).1, (split s).2 ++ more) := by
  have hfront := front_append_of_oversized h more
  have hstop : split ((split s).2 ++ more) = ([], (split s).2 ++ more) :=
    split_stop (by simp [hfront])
  rw [split_append, hstop, List.append_nil]

/-- Where nothing oversized has been declared yet, nothing was before. -/
theorem front_split_of_append {s more : ByteArray}
    (h : front (split (s ++ more)).2 = .incomplete) : front (split s).2 = .incomplete := by
  rcases front_split_cases s with hpart | ⟨length, hlarge⟩
  · exact hpart
  · rw [split_append_of_oversized hlarge, front_append_of_oversized hlarge] at h
    cases h

/-- A stream with nothing oversized behind its frames ends between two frames or inside one. -/
theorem Parses.part {s rest : ByteArray} {frames : List ByteArray} {e : Error}
    (h : Parses s frames rest e) (hopen : ∀ length, e ≠ .tooLarge length) :
    split s = (frames, rest) ∧ ending rest = e ∧ front rest = .incomplete := by
  obtain ⟨hsplit, hending⟩ := h.eq_split
  refine ⟨hsplit, hending, ?_⟩
  rcases front_split_cases s with hpart | ⟨length, hlarge⟩
  · rw [hsplit] at hpart
    exact hpart
  · rw [hsplit] at hlarge
    exact absurd (by simp [← hending, ending, hlarge]) (hopen length)

/-- A stream that declares an oversized frame does so right behind its frames. -/
theorem Parses.large {s rest : ByteArray} {frames : List ByteArray} {length : Nat}
    (h : Parses s frames rest (.tooLarge length)) :
    split s = (frames, rest) ∧ front rest = .oversized length := by
  obtain ⟨hsplit, hending⟩ := h.eq_split
  refine ⟨hsplit, ?_⟩
  rcases front_split_cases s with hpart | ⟨length', hlarge⟩
  · -- The end of the stream is never reported as an oversized frame.
    rw [hsplit] at hpart
    unfold ending at hending
    rw [hpart] at hending
    cases hempty : rest.isEmpty <;> simp [hempty] at hending
  · rw [hsplit] at hlarge
    simp only [ending, hlarge, Error.tooLarge.injEq] at hending
    rw [hlarge, hending]

/-- Bytes that stop at an oversized frame are the frames before it, and then its header. -/
theorem parses_split_of_oversized {s : ByteArray} {length : Nat}
    (h : front (split s).2 = .oversized length) :
    Parses s (split s).1 (split s).2 (.tooLarge length) := by
  have parse := parses_split s
  rw [show ending (split s).2 = .tooLarge length by simp [ending, h]] at parse
  exact parse

end Overlay.Frame
