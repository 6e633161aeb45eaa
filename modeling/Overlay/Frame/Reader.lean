import Overlay.Frame.Decoder

namespace Overlay.Frame

/-!
# Reading frames from a stream

A stream is the list of what its reads will give: some bytes, a fault, or the end. A `Reader`
takes one frame per call and keeps bytes that came too early for the next call.

* `Arrival.ofChunk` — how a chunk of any size is delivered by reads of limited size;
* `Reader.read` — one frame, or what prevented it. The end of the stream and a fault are each
  reported by one call, and the bytes received before stay held.
-/

/-- What one read of a stream gives. -/
inductive Arrival where
  /-- Some bytes; a reader expects between one and `readSize` of them. -/
  | data (bytes : ByteArray)
  /-- The end of the stream, as this read sees it. -/
  | finished
  /-- The read failed. -/
  | failed (fault : IoFault)
deriving DecidableEq, Inhabited

/-- The reads that deliver a chunk of bytes: as many as `readSize` asks for. A read that gives
no byte at all signals the end of the stream. -/
def Arrival.ofChunk (bytes : ByteArray) : List Arrival :=
  if bytes.isEmpty then
    [.finished]
  else if _h : bytes.size ≤ readSize then
    [.data bytes]
  else
    .data (bytes.extract 0 readSize) :: ofChunk (bytes.extract readSize bytes.size)
termination_by bytes.size
decreasing_by simp only [ByteArray.size_extract, readSize] at _h ⊢; omega

/-- A stream still to be read, and the bytes read from it that no frame has used. -/
structure Reader where
  /-- What the reads to come will give. After the last of them the stream is at its end. -/
  arrivals : List Arrival
  /-- The bytes received and not yet used. -/
  decoder : Decoder := {}
deriving DecidableEq, Inhabited

namespace Reader

/-- The frame error for an end of the stream while `d` holds what is left. -/
def endError (d : Decoder) : Error :=
  if d.hasPartial then .truncated d.buffered else .closed

/-- Read the next frame, given the bytes held and the reads to come. -/
def readFrom (d : Decoder) : List Arrival → Except Error ByteArray × Reader
  | [] =>
    match d.next with
    | (.ok (some payload), d') => (.ok payload, ⟨[], d'⟩)
    | (.error e, d') => (.error e, ⟨[], d'⟩)
    | (.ok none, d') => (.error (endError d'), ⟨[], d'⟩)
  | arrival :: later =>
    match d.next with
    | (.ok (some payload), d') => (.ok payload, ⟨arrival :: later, d'⟩)
    | (.error e, d') => (.error e, ⟨arrival :: later, d'⟩)
    | (.ok none, d') =>
      match arrival with
      | .data bytes => readFrom (d'.push bytes) later
      | .finished => (.error (endError d'), ⟨later, d'⟩)
      | .failed fault => (.error (.io fault), ⟨later, d'⟩)

/-- Read the next frame: its payload, or what prevented it. -/
def read (r : Reader) : Except Error ByteArray × Reader := readFrom r.decoder r.arrivals

/-- The results of `n` calls of `read` one after another, each with the reader it leaves. -/
def reads : Nat → Reader → List (Except Error ByteArray × Reader)
  | 0, _ => []
  | n + 1, r => r.read :: reads n r.read.2

/-- A reader as it shows itself to a person: only how much it holds. -/
def describe (r : Reader) : String :=
  "FrameReader \x7b buffered: " ++ toString r.decoder.buffered ++ ", .. \x7d"

/-- A frame that is already held is given without touching the stream. -/
theorem read_of_held {r : Reader} {payload : ByteArray} {d' : Decoder}
    (h : r.decoder.next = (.ok (some payload), d')) :
    r.read = (.ok payload, ⟨r.arrivals, d'⟩) := by
  obtain ⟨arrivals, d⟩ := r
  cases arrivals <;> simp_all [read, readFrom]

/-- Bytes that complete no frame yet are only remembered. -/
theorem read_data {d : Decoder} {bytes : ByteArray} {later : List Arrival}
    (h : front d.buffer = .incomplete) :
    read ⟨.data bytes :: later, d⟩ = read ⟨later, d.push bytes⟩ := by
  simp [read, readFrom, Decoder.next, h]

end Reader

end Overlay.Frame
