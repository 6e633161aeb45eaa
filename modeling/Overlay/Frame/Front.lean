import Overlay.Frame

namespace Overlay.Frame

/-!
# The front of a buffer

A buffer of stream bytes begins with a whole frame, or declares an oversized one, or holds too
little to tell; nothing else is possible.

* `front` — which of the three it is; `front_eq_frame_iff` and `front_eq_oversized_iff` say
  exactly when;
* `split` — all whole frames at the front, and the bytes behind them; `wireAll_split` says
  that no byte is lost, and `split_wireAll_append` that written frames are read back;
* `ending` — what the end of the stream means, given the bytes left over.
-/

/-- What a buffer begins with. -/
inductive Front where
  /-- A whole frame with this payload, and the bytes behind it. -/
  | frame (payload rest : ByteArray)
  /-- A header that declares more than `maxPayload` bytes. -/
  | oversized (length : Nat)
  /-- Part of a legal frame, or nothing at all. -/
  | incomplete
deriving DecidableEq, Inhabited

/-- Look at the front of a buffer. An oversized header is noticed before its payload arrives. -/
def front (buffer : ByteArray) : Front :=
  match LittleEndian.decode? buffer with
  | none => .incomplete
  | some length =>
    if maxPayload < length then
      .oversized length
    else if buffer.size < headerSize + length then
      .incomplete
    else
      .frame (buffer.extract headerSize (headerSize + length))
        (buffer.extract (headerSize + length) buffer.size)

/-! ### When each case arises -/

/-- A written frame is read back, whatever stands behind it. -/
theorem front_wire_append {payload : ByteArray} (h : Fits payload) (rest : ByteArray) :
    front (wire payload ++ rest) = .frame payload rest := by
  have hp : payload.size ≤ 16777216 := h
  have hd : LittleEndian.decode? (wire payload ++ rest) = some payload.size := by
    rw [wire, ByteArray.append_assoc, LittleEndian.decode?_encode_append, LittleEndian.modulus]
    congr 1
    omega
  have hw : (wire payload ++ rest).size = headerSize + payload.size + rest.size := by
    simp [ByteArray.size_append]
  unfold front
  simp only [hd]
  rw [if_neg (by simp only [maxPayload]; omega), if_neg (by omega)]
  congr 1
  · rw [wire, ByteArray.append_assoc, ByteArray.extract_append,
      ByteArray.extract_eq_empty_iff.2 (by simp [headerSize]), ByteArray.empty_append,
      show headerSize - (LittleEndian.encode payload.size).size = 0 by simp [headerSize],
      show headerSize + payload.size - (LittleEndian.encode payload.size).size = payload.size by
        simp [headerSize]]
    exact ByteArray.extract_append_eq_left rfl
  · exact ByteArray.extract_append_eq_right (by simp) (by simp [ByteArray.size_append])

/-- A frame is found exactly where one was written. -/
theorem front_eq_frame_iff {buffer payload rest : ByteArray} :
    front buffer = .frame payload rest ↔ Fits payload ∧ buffer = wire payload ++ rest := by
  constructor
  · intro h
    unfold front at h
    split at h
    · cases h
    · rename_i length hd
      split at h
      · cases h
      · split at h
        · cases h
        · rename_i hlen hsize
          injection h with hpay hrest
          have hps : payload.size = length := by
            rw [← hpay, ByteArray.size_extract]; omega
          refine ⟨by unfold Fits; omega, ?_⟩
          have hb := LittleEndian.eq_encode_append_of_decode? hd
          rw [ByteArray.extract_eq_extract_append_extract (headerSize + length)
            (show LittleEndian.width ≤ headerSize + length by unfold headerSize; omega)
            (by omega)] at hb
          rw [wire, hps, ← hpay, ← hrest, ByteArray.append_assoc]
          exact hb
  · rintro ⟨hf, rfl⟩
    exact front_wire_append hf rest

/-- A header is called oversized exactly when it declares more than `maxPayload` bytes. -/
theorem front_eq_oversized_iff {buffer : ByteArray} {length : Nat} :
    front buffer = .oversized length ↔
      LittleEndian.decode? buffer = some length ∧ maxPayload < length := by
  unfold front
  split
  · simp_all
  · split
    · simp_all only [Front.oversized.injEq, Option.some.injEq, iff_self_and]
      omega
    · split <;> simp_all <;> omega

/-- Taking a frame off a buffer makes it shorter. -/
theorem size_rest_lt {buffer payload rest : ByteArray} (h : front buffer = .frame payload rest) :
    rest.size < buffer.size := by
  obtain ⟨-, rfl⟩ := front_eq_frame_iff.1 h
  simp only [ByteArray.size_append, size_wire, headerSize, LittleEndian.width]
  omega

/-! ### All frames at once -/

/-- Take every whole frame off the front of a buffer, adding them behind those taken before. -/
def splitOnto (taken : Array ByteArray) (buffer : ByteArray) : Array ByteArray × ByteArray :=
  match _h : front buffer with
  | .frame payload rest => splitOnto (taken.push payload) rest
  | .oversized _ => (taken, buffer)
  | .incomplete => (taken, buffer)
termination_by buffer.size
decreasing_by exact size_rest_lt _h

/-- The payloads of all whole frames at the front of a buffer, and the bytes behind them. -/
def split (buffer : ByteArray) : List ByteArray × ByteArray :=
  let (frames, rest) := splitOnto #[] buffer
  (frames.toList, rest)

theorem splitOnto_frame {buffer payload rest : ByteArray} (taken : Array ByteArray)
    (h : front buffer = .frame payload rest) :
    splitOnto taken buffer = splitOnto (taken.push payload) rest := by
  rw [splitOnto]
  split <;> simp_all

theorem splitOnto_stop {buffer : ByteArray} (taken : Array ByteArray)
    (h : ∀ payload rest, front buffer ≠ .frame payload rest) :
    splitOnto taken buffer = (taken, buffer) := by
  rw [splitOnto]
  split <;> simp_all

/-- Frames taken before do not influence which are taken next. -/
theorem splitOnto_eq (taken : Array ByteArray) (buffer : ByteArray) :
    splitOnto taken buffer = (taken ++ (splitOnto #[] buffer).1, (splitOnto #[] buffer).2) := by
  induction hn : buffer.size using Nat.strongRecOn generalizing taken buffer with
  | ind n ih =>
    by_cases h : ∃ payload rest, front buffer = .frame payload rest
    · obtain ⟨payload, rest, h⟩ := h
      have hlt := size_rest_lt h
      rw [splitOnto_frame _ h, splitOnto_frame _ h,
        ih rest.size (by omega) (taken.push payload) rest rfl,
        ih rest.size (by omega) (#[].push payload) rest rfl]
      simp
    · rw [splitOnto_stop taken (by simpa using h), splitOnto_stop #[] (by simpa using h)]
      simp

theorem split_frame {buffer payload rest : ByteArray} (h : front buffer = .frame payload rest) :
    split buffer = (payload :: (split rest).1, (split rest).2) := by
  unfold split
  rw [splitOnto_frame _ h, splitOnto_eq]
  simp

theorem split_stop {buffer : ByteArray} (h : ∀ payload rest, front buffer ≠ .frame payload rest) :
    split buffer = ([], buffer) := by
  unfold split
  rw [splitOnto_stop _ h]

/-- Splitting loses no byte: the frames taken and the bytes left over make up the buffer. -/
theorem wireAll_split (buffer : ByteArray) :
    wireAll (split buffer).1 ++ (split buffer).2 = buffer := by
  induction hn : buffer.size using Nat.strongRecOn generalizing buffer with
  | ind n ih =>
    by_cases h : ∃ payload rest, front buffer = .frame payload rest
    · obtain ⟨payload, rest, h⟩ := h
      have hlt := size_rest_lt h
      rw [split_frame h]
      simp only [wireAll, ByteArray.append_assoc]
      rw [ih rest.size (by omega) rest rfl]
      exact (front_eq_frame_iff.1 h).2.symm
    · rw [split_stop (by simpa using h)]
      simp [wireAll]

/-- Written frames are read back in order, and whatever follows them is split on its own. -/
theorem split_wireAll_append {payloads : List ByteArray} (h : ∀ p ∈ payloads, Fits p)
    (rest : ByteArray) :
    split (wireAll payloads ++ rest) = (payloads ++ (split rest).1, (split rest).2) := by
  induction payloads with
  | nil => simp [wireAll]
  | cons p ps ih =>
    have hp : Fits p := h p (by simp)
    simp only [wireAll, ByteArray.append_assoc]
    rw [split_frame (front_wire_append hp _), ih fun q hq => h q (by simp [hq])]
    simp

/-- The end of the stream as a frame error, given the bytes that no frame has used. -/
def ending (rest : ByteArray) : Error :=
  match front rest with
  | .oversized length => .tooLarge length
  | _ => if rest.isEmpty then .closed else .truncated rest.size

end Overlay.Frame
