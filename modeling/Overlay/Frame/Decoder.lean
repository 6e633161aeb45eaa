import Overlay.Frame.Front

namespace Overlay.Frame

/-!
# Incremental decoding

A `Decoder` holds the stream bytes that no frame has used yet. Bytes are pushed as they come
and frames are taken as they become whole, one at a time (`next`) or all at once (`feed`).

An oversized header stays in the buffer, so the decoder fails in the same way from then on
(`next_push_of_oversized`).
-/

/-- The bytes of a stream that have arrived and belong to no frame taken so far. -/
structure Decoder where
  /-- The bytes held, oldest first. -/
  buffer : ByteArray := .empty
deriving DecidableEq, Inhabited

namespace Decoder

/-- Append bytes that have arrived. -/
def push (d : Decoder) (bytes : ByteArray) : Decoder := ⟨d.buffer ++ bytes⟩

/-- How many bytes are held. -/
def buffered (d : Decoder) : Nat := d.buffer.size

/-- Whether any byte is held. -/
def hasPartial (d : Decoder) : Bool := !d.buffer.isEmpty

/-- Take the next frame if it is whole: its payload, or `none` while bytes are missing. -/
def next (d : Decoder) : Except Error (Option ByteArray) × Decoder :=
  match front d.buffer with
  | .frame payload rest => (.ok (some payload), ⟨rest⟩)
  | .oversized length => (.error (.tooLarge length), d)
  | .incomplete => (.ok none, d)

/-- Append bytes and take every whole frame. If an oversized header stands behind the frames,
they are gone and only the error is reported. -/
def feed (d : Decoder) (bytes : ByteArray) : Except Error (List ByteArray) × Decoder :=
  let (frames, rest) := split (d.buffer ++ bytes)
  match front rest with
  | .oversized length => (.error (.tooLarge length), ⟨rest⟩)
  | _ => (.ok frames, ⟨rest⟩)

/-! ### Laws -/

@[simp] theorem buffer_push (d : Decoder) (bytes : ByteArray) :
    (d.push bytes).buffer = d.buffer ++ bytes := rfl

/-- Taking a frame removes exactly its bytes. -/
theorem next_eq_some_iff {d d' : Decoder} {payload : ByteArray} :
    d.next = (.ok (some payload), d') ↔ Fits payload ∧ d.buffer = wire payload ++ d'.buffer := by
  rw [← front_eq_frame_iff]
  obtain ⟨b'⟩ := d'
  unfold next
  split <;> simp_all

/-- A decoder that gives no frame keeps all its bytes. -/
theorem next_keeps {d d' : Decoder} {r : Except Error (Option ByteArray)}
    (h : d.next = (r, d')) (hr : ∀ payload, r ≠ .ok (some payload)) : d' = d := by
  unfold next at h
  split at h
  · simp only [Prod.mk.injEq] at h
    exact absurd h.1.symm (hr _)
  · simp_all
  · simp_all

/-- An oversized header is reported again after every push. -/
theorem next_push_of_oversized {d : Decoder} {length : Nat}
    (h : front d.buffer = .oversized length) (bytes : ByteArray) :
    (d.push bytes).next = (.error (.tooLarge length), d.push bytes) := by
  have hf : front (d.push bytes).buffer = .oversized length := by
    rw [front_eq_oversized_iff] at h ⊢
    refine ⟨?_, h.2⟩
    have hb := LittleEndian.eq_encode_append_of_decode? h.1
    rw [buffer_push, hb, ByteArray.append_assoc, LittleEndian.decode?_encode_append]
    rw [Nat.mod_eq_of_lt (LittleEndian.lt_of_decode? h.1)]
  unfold next
  rw [hf]

end Decoder

end Overlay.Frame
