import Overlay.IoFault
import Overlay.LittleEndian

namespace Overlay

/-!
# Frames

Every message travels as one frame: the payload's length as a little-endian word, then the
payload. An empty payload is a legal message; a payload above `maxPayload` has no frame.

* `Frame.wire` — the bytes of a frame, for any payload;
* `Frame.encode` — the frame of a payload, or the refusal of one that is too large;
* `Frame.Error` — everything that can go wrong between two ends of a stream of frames.
-/

namespace Frame

/-- Bytes of the length in front of every payload. -/
def headerSize : Nat := LittleEndian.width

/-- Most bytes one payload may have (16 MiB). -/
def maxPayload : Nat := 16777216

/-- Most bytes taken from a stream by one read. -/
def readSize : Nat := 65536

/-- What ended, or prevented, the exchange of a frame. -/
inductive Error where
  /-- The stream ended between two frames. -/
  | closed
  /-- The stream ended inside a frame of which `buffered` bytes had arrived. -/
  | truncated (buffered : Nat)
  /-- A length above `maxPayload` was declared or asked for. -/
  | tooLarge (length : Nat)
  /-- The stream itself failed. -/
  | io (fault : IoFault)
deriving DecidableEq, Inhabited, Repr

namespace Error

/-- The text of a frame error. -/
def message : Error → String
  | closed => "connection closed by peer"
  | truncated n => s!"connection closed mid-frame ({n} bytes buffered)"
  | tooLarge n => s!"frame too large: {n} bytes (max {maxPayload})"
  | io fault => s!"i/o error: {fault.message}"

/-- The texts of the faults that lie behind a frame error, outermost first. -/
def causes : Error → List String
  | io fault => [fault.message]
  | _ => []

end Error

/-- A payload that may travel: at most `maxPayload` bytes. -/
def Fits (payload : ByteArray) : Prop := payload.size ≤ maxPayload

instance (payload : ByteArray) : Decidable (Fits payload) :=
  inferInstanceAs (Decidable (_ ≤ _))

/-- The bytes of a frame: the length, then the payload. -/
def wire (payload : ByteArray) : ByteArray :=
  LittleEndian.encode payload.size ++ payload

/-- The frame of a payload that fits; a larger one is refused with its size. -/
def encode (payload : ByteArray) : Except Error ByteArray :=
  if Fits payload then .ok (wire payload) else .error (.tooLarge payload.size)

/-- The frames of several payloads, one behind the other. -/
def wireAll : List ByteArray → ByteArray
  | [] => .empty
  | payload :: rest => wire payload ++ wireAll rest

@[simp] theorem size_wire (payload : ByteArray) :
    (wire payload).size = headerSize + payload.size := by
  simp [wire, headerSize]

theorem encode_eq_ok_iff {payload frame : ByteArray} :
    encode payload = .ok frame ↔ Fits payload ∧ frame = wire payload := by
  unfold encode
  split <;> simp_all [eq_comm]

theorem encode_eq_error_iff {payload : ByteArray} {e : Error} :
    encode payload = .error e ↔ ¬ Fits payload ∧ e = .tooLarge payload.size := by
  unfold encode
  split <;> simp_all [eq_comm]

@[simp] theorem wireAll_append (ps qs : List ByteArray) :
    wireAll (ps ++ qs) = wireAll ps ++ wireAll qs := by
  induction ps with
  | nil => simp [wireAll]
  | cons p ps ih => simp [wireAll, ih, ByteArray.append_assoc]

end Frame

end Overlay
