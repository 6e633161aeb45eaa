import Mathlib.Data.List.Induction
import Overlay.Frame.Decoder
import Overlay.Proofs.Segmentation

namespace Overlay.Frame

/-!
# What a decoder makes of its bytes

A decoder is given bytes and asked for frames, in any order and any number of times. It loses no
byte and invents none, and what it answers is a matter of the bytes that it holds.

* `Verdict` — the three things that a buffer can be, each with the answer and the bytes that stay;
* `Decoder.next_eq_iff` — the decoder's answer is the verdict on its buffer;
* `Verdict.unique`, `exists_verdict` — there is one verdict on every buffer;
* `Decoder.Ledger` — a decoder with all answers so far; `Ledger.Balanced` is kept by every call;
* `decoder_conserves` — the balance of any calls, and the verdict on any buffer;
* `Reader.bytes_reads` — the balance of any calls on a reader, whatever its stream brings.
-/

/-- What a buffer is: the answer to a request for a frame, and the bytes that are held after it. -/
inductive Verdict : ByteArray → Except Error (Option ByteArray) → ByteArray → Prop
  /-- A legal frame stands in front. It is given, and the bytes behind it stay. -/
  | whole {payload frame : ByteArray} (legal : encode payload = .ok frame) (rest : ByteArray) :
      Verdict (frame ++ rest) (.ok (some payload)) rest
  /-- The first four bytes declare more than a legal frame may have. All bytes stay. -/
  | oversized {length : Nat} (large : maxPayload < length) (word : length < LittleEndian.modulus)
      (behind : ByteArray) : Verdict (LittleEndian.encode length ++ behind)
        (.error (.tooLarge length)) (LittleEndian.encode length ++ behind)
  /-- At least one byte of a legal frame is missing. All bytes stay. -/
  | cut {buffer missing payload : ByteArray} (short : 0 < missing.size)
      (legal : encode payload = .ok (buffer ++ missing)) : Verdict buffer (.ok none) buffer

/-! ### One verdict on every buffer -/

/-- **A decoder answers with the verdict on the bytes that it holds.** -/
theorem Decoder.next_eq_iff {d d' : Decoder} {r : Except Error (Option ByteArray)} :
    d.next = (r, d') ↔ Verdict d.buffer r d'.buffer := by
  constructor
  · intro h
    unfold next at h
    cases hfront : front d.buffer with
    | frame payload rest =>
      simp only [hfront, Prod.mk.injEq] at h
      obtain ⟨rfl, rfl⟩ := h
      obtain ⟨hfits, hbytes⟩ := front_eq_frame_iff.1 hfront
      rw [hbytes]
      exact .whole (encode_eq_ok_iff.2 ⟨hfits, rfl⟩) rest
    | oversized length =>
      simp only [hfront, Prod.mk.injEq] at h
      obtain ⟨rfl, rfl⟩ := h
      obtain ⟨hword, hlarge⟩ := front_eq_oversized_iff.1 hfront
      rw [LittleEndian.eq_encode_append_of_decode? hword]
      exact .oversized hlarge (LittleEndian.lt_of_decode? hword) _
    | incomplete =>
      simp only [hfront, Prod.mk.injEq] at h
      obtain ⟨rfl, rfl⟩ := h
      obtain ⟨missing, payload, hshort, hfits, hframe⟩ := exists_missing hfront
      exact .cut hshort (encode_eq_ok_iff.2 ⟨hfits, hframe⟩)
  · intro h
    obtain ⟨buffer⟩ := d
    obtain ⟨buffer'⟩ := d'
    -- The verdict fixes the buffer, and the front of that is known in each case.
    change Verdict buffer r buffer' at h
    cases h with
    | whole legal rest =>
      obtain ⟨hfits, rfl⟩ := encode_eq_ok_iff.1 legal
      simp only [next, front_wire_append hfits]
    | @oversized length large word behind =>
      have hfront : front (LittleEndian.encode length ++ behind) = .oversized length := by
        refine front_eq_oversized_iff.2 ⟨?_, large⟩
        rw [LittleEndian.decode?_encode_append, Nat.mod_eq_of_lt word]
      simp only [next, hfront]
    | cut short legal =>
      obtain ⟨hfits, hframe⟩ := encode_eq_ok_iff.1 legal
      simp only [next, front_of_cut short hfits hframe]

/-- There is a verdict on every buffer. -/
theorem exists_verdict (buffer : ByteArray) : ∃ r rest, Verdict buffer r rest :=
  ⟨_, _, Decoder.next_eq_iff (d := ⟨buffer⟩).1 rfl⟩

/-- There are no two verdicts on a buffer. -/
theorem Verdict.unique {buffer rest rest' : ByteArray} {r r' : Except Error (Option ByteArray)}
    (h : Verdict buffer r rest) (h' : Verdict buffer r' rest') : r = r' ∧ rest = rest' := by
  have hnext : Decoder.next ⟨buffer⟩ = (r, ⟨rest⟩) := Decoder.next_eq_iff.2 h
  have hnext' : Decoder.next ⟨buffer⟩ = (r', ⟨rest'⟩) := Decoder.next_eq_iff.2 h'
  rw [hnext, Prod.mk.injEq, Decoder.mk.injEq] at hnext'
  exact hnext'

/-! ### Any calls -/

theorem joined_append (pieces more : List ByteArray) :
    joined (pieces ++ more) = joined pieces ++ joined more := by
  induction pieces with
  | nil => simp [joined]
  | cons piece pieces ih => simp [joined, ih, ByteArray.append_assoc]

namespace Decoder

/-- What can be asked of a decoder. -/
inductive Call where
  /-- Take these bytes. -/
  | push (bytes : ByteArray)
  /-- Give the next frame. -/
  | next

/-- The bytes that a call brings. -/
def Call.bytes : Call → ByteArray
  | push bytes => bytes
  | next => .empty

/-- A decoder, and the answers that it has given. -/
structure Ledger where
  /-- The decoder. -/
  decoder : Decoder := {}
  /-- What it has answered to requests for a frame, in order. -/
  answers : List (Except Error (Option ByteArray)) := []

/-- One call more. -/
def Ledger.call (l : Ledger) : Call → Ledger
  | .push bytes => { l with decoder := l.decoder.push bytes }
  | .next => ⟨l.decoder.next.2, l.answers ++ [l.decoder.next.1]⟩

/-- A fresh decoder after some calls. -/
def ledger (calls : List Call) : Ledger := calls.foldl Ledger.call {}

/-- The payload in an answer, if one was given. -/
def given : Except Error (Option ByteArray) → Option ByteArray
  | .ok payload => payload
  | .error _ => none

/-- The payloads of the frames given so far. -/
def Ledger.frames (l : Ledger) : List ByteArray := l.answers.filterMap given

/-- The books of a decoder that has been given the bytes `s`. -/
structure Ledger.Balanced (l : Ledger) (s : ByteArray) : Prop where
  /-- Every frame given is legal. -/
  fits : ∀ payload ∈ l.frames, Fits payload
  /-- The frames given and the bytes held are what came in. -/
  bytes : wireAll l.frames ++ l.decoder.buffer = s

namespace Ledger

/-- An answer without a frame changes nothing in the books. -/
theorem Balanced.keep {l : Ledger} {s : ByteArray} (h : l.Balanced s)
    {r : Except Error (Option ByteArray)} (hr : given r = none) :
    Balanced ⟨l.decoder, l.answers ++ [r]⟩ s := by
  have hframes : Ledger.frames ⟨l.decoder, l.answers ++ [r]⟩ = l.frames := by
    simp [frames, List.filterMap_append, hr]
  refine ⟨?_, ?_⟩
  · rw [hframes]
    exact h.fits
  · rw [hframes]
    exact h.bytes

/-- **Every call keeps the books balanced.** -/
theorem Balanced.call {l : Ledger} {s : ByteArray} (h : l.Balanced s) (c : Call) :
    (l.call c).Balanced (s ++ c.bytes) := by
  cases c with
  | push bytes =>
    refine ⟨h.fits, ?_⟩
    show wireAll l.frames ++ (l.decoder.buffer ++ bytes) = s ++ bytes
    rw [← ByteArray.append_assoc, h.bytes]
  | next =>
    rw [Call.bytes, ByteArray.append_empty]
    cases hnext : l.decoder.next with
    | mk r d' =>
      have hcall : l.call .next = ⟨d', l.answers ++ [r]⟩ := by rw [Ledger.call, hnext]
      rw [hcall]
      match r, hnext with
      | .ok (some payload), hnext =>
        -- The frame goes over from the bytes held to the frames given.
        obtain ⟨hfits, hbuffer⟩ := next_eq_some_iff.1 hnext
        have hframes :
            frames ⟨d', l.answers ++ [.ok (some payload)]⟩ = l.frames ++ [payload] := by
          simp [frames, List.filterMap_append, given]
        refine ⟨?_, ?_⟩
        · intro p hp
          rw [hframes, List.mem_append, List.mem_singleton] at hp
          rcases hp with hp | rfl
          · exact h.fits p hp
          · exact hfits
        · rw [hframes, wireAll_append, wireAll, wireAll, ByteArray.append_empty,
            ByteArray.append_assoc, ← hbuffer]
          exact h.bytes
      | .ok none, hnext =>
        rw [next_keeps hnext (by simp)]
        exact h.keep rfl
      | .error e, hnext =>
        rw [next_keeps hnext (by simp)]
        exact h.keep rfl

end Ledger

/-- **The books of a fresh decoder are balanced after any calls.** -/
theorem balanced_ledger (calls : List Call) :
    (ledger calls).Balanced (joined (calls.map Call.bytes)) := by
  -- The last call is the one that is made on the books so far.
  induction calls using List.reverseRecOn with
  | nil => exact ⟨by simp [ledger, Ledger.frames], rfl⟩
  | append_singleton calls c ih =>
    have hledger : ledger (calls ++ [c]) = (ledger calls).call c := by
      simp [ledger, List.foldl_append]
    rw [hledger, List.map_append, List.map_singleton, joined_append, joined, joined,
      ByteArray.append_empty]
    exact ih.call c

end Decoder

/-- **A decoder conserves its bytes, and its grammar is exact.**

* After any calls on a fresh decoder, the frames given so far have encodings, and these, followed
  by the bytes held, are all bytes that were pushed.
* On every buffer there is exactly one verdict: it begins with a legal frame, or declares an
  oversized one, or is cut inside a legal one.
* That verdict is what a decoder answers which holds the buffer, and what it then holds. -/
theorem decoder_conserves :
    (∀ calls : List Decoder.Call, ∃ wires,
      (Decoder.ledger calls).frames.mapM encode = .ok wires ∧
        joined wires ++ (Decoder.ledger calls).decoder.buffer =
          joined (calls.map Decoder.Call.bytes)) ∧
    (∀ buffer : ByteArray, ∃! verdict : Except Error (Option ByteArray) × ByteArray,
      Verdict buffer verdict.1 verdict.2) ∧
    ∀ (d d' : Decoder) (r : Except Error (Option ByteArray)),
      d.next = (r, d') ↔ Verdict d.buffer r d'.buffer := by
  refine ⟨?_, ?_, fun d d' r => Decoder.next_eq_iff⟩
  · intro calls
    have hbalanced := Decoder.balanced_ledger calls
    obtain ⟨wires, hwires, hjoined⟩ := joined_of_encoded hbalanced.fits
    exact ⟨wires, hwires, hjoined ▸ hbalanced.bytes⟩
  · intro buffer
    obtain ⟨r, rest, hverdict⟩ := exists_verdict buffer
    refine ⟨(r, rest), hverdict, ?_⟩
    rintro ⟨r', rest'⟩ hverdict'
    obtain ⟨rfl, rfl⟩ := hverdict.unique hverdict'
    rfl

/-! ### Readers -/

/-- The bytes that a read of the stream brings. -/
def Arrival.bytes : Arrival → ByteArray
  | data bytes => bytes
  | finished | failed _ => .empty

namespace Reader

/-- All that a reader holds, and all that its stream will ever bring. -/
def bytes (r : Reader) : ByteArray := r.decoder.buffer ++ joined (r.arrivals.map Arrival.bytes)

/-- The reader that `n` calls leave. -/
def left : Nat → Reader → Reader
  | 0, r => r
  | n + 1, r => left n r.read.2

/-- The frame in an answer, if there is one. -/
def given (answer : Except Error ByteArray) : List ByteArray := answer.toOption.toList

/-- The frames that `n` calls give. -/
def frames (n : Nat) (r : Reader) : List ByteArray := (r.results n).flatMap given

/-- An oversized frame at the front is reported without touching the stream. -/
theorem read_of_refused {r : Reader} {e : Error} {d' : Decoder}
    (h : r.decoder.next = (.error e, d')) : r.read = (.error e, ⟨r.arrivals, d'⟩) := by
  obtain ⟨arrivals, d⟩ := r
  cases arrivals <;> simp_all [read, readFrom]

/-- A call that the bytes held decide takes the bytes of the frame that it gives, and no other. -/
theorem bytes_read_of_decided {r : Reader} (h : r.decoder.next ≠ (.ok none, r.decoder)) :
    r.bytes = wireAll (given r.read.1) ++ r.read.2.bytes := by
  cases hnext : r.decoder.next with
  | mk answer d' =>
    cases answer with
    | error e =>
      rw [read_of_refused hnext, Decoder.next_keeps hnext (by simp)]
      exact (ByteArray.empty_append).symm
    | ok frame =>
      cases frame with
      | none =>
        rw [Decoder.next_keeps hnext (by simp)] at hnext
        exact absurd hnext h
      | some payload =>
        obtain ⟨-, hbuffer⟩ := Decoder.next_eq_some_iff.1 hnext
        rw [read_of_held hnext, bytes, hbuffer]
        simp [given, Except.toOption, wireAll, bytes, ByteArray.append_assoc]

/-- **One call takes the bytes of the frame that it gives, and no other,** whether the stream brings
bytes, fails or ends on the way. -/
theorem bytes_read (r : Reader) : r.bytes = wireAll (given r.read.1) ++ r.read.2.bytes := by
  obtain ⟨arrivals, d⟩ := r
  -- Each arrival that is looked at adds its bytes to those held.
  induction arrivals generalizing d with
  | nil =>
    by_cases hnext : d.next = (.ok none, d)
    · simp [read, readFrom, hnext, given, Except.toOption, wireAll]
    · exact bytes_read_of_decided hnext
  | cons arrival later ih =>
    by_cases hnext : d.next = (.ok none, d)
    · cases arrival with
      | data chunk =>
        have hread : read ⟨.data chunk :: later, d⟩ = read ⟨later, d.push chunk⟩ := by
          simp only [read, readFrom, hnext]
        have hbytes : bytes ⟨.data chunk :: later, d⟩ = bytes ⟨later, d.push chunk⟩ := by
          simp [bytes, joined, Arrival.bytes, ByteArray.append_assoc]
        rw [hread, hbytes]
        exact ih (d.push chunk)
      | finished | failed fault =>
        simp [read, readFrom, hnext, given, Except.toOption, wireAll, bytes, joined, Arrival.bytes]
    · exact bytes_read_of_decided hnext

/-- **Any number of calls** take the bytes of the frames that they give, and no other. -/
theorem bytes_reads (n : Nat) (r : Reader) :
    r.bytes = wireAll (r.frames n) ++ (r.left n).bytes := by
  induction n generalizing r with
  | zero =>
    show r.bytes = .empty ++ r.bytes
    rw [ByteArray.empty_append]
  | succ n ih =>
    have hframes : r.frames (n + 1) = given r.read.1 ++ r.read.2.frames n := rfl
    rw [bytes_read r, ih r.read.2, hframes, wireAll_append, ByteArray.append_assoc]
    rfl

end Reader

end Overlay.Frame
