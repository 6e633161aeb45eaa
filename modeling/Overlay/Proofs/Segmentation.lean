import Overlay.Frame.Reader
import Overlay.Proofs.OneShot

namespace Overlay.Frame

/-!
# The reader and the whole stream

A reader gets its stream in pieces of any size. However the stream was cut, successive calls give
the frames of the whole stream in order and then, again and again, the error that the end of the
stream means behind them.

* `Reader.Pending` — the bytes that a reader holds, followed by those still to arrive: all that
  its answers depend on;
* `Reader.read_of_frame`, `Reader.read_of_leftover` — one call, by the front of those bytes;
* `Reader.results_of_parses` — any number of calls, by induction on that number;
* `reads_agree_with_parse` — the answers of a fresh reader.
-/

/-- Pieces of a stream, put together. -/
def joined : List ByteArray → ByteArray
  | [] => .empty
  | piece :: rest => piece ++ joined rest

/-- What the `i`-th call gives for a stream of `frames` that ends with `e`. -/
def nthResult (frames : List ByteArray) (e : Error) (i : Nat) : Except Error ByteArray :=
  match frames[i]? with
  | some payload => .ok payload
  | none => .error e

namespace Reader

/-- A fresh reader whose stream delivers `pieces` by one read each, and is then at its end. -/
def ofPieces (pieces : List ByteArray) : Reader := ⟨pieces.map .data, {}⟩

/-- What `n` calls give one after another. -/
def results (n : Nat) (r : Reader) : List (Except Error ByteArray) := (r.reads n).map Prod.fst

/-- The bytes `s` are still to be parsed: some are held, the others will arrive, and then the
stream is at its end. -/
def Pending (r : Reader) (s : ByteArray) : Prop :=
  ∃ pieces, r.arrivals = pieces.map .data ∧ s = r.decoder.buffer ++ joined pieces

theorem pending_ofPieces (pieces : List ByteArray) :
    (ofPieces pieces).Pending (joined pieces) :=
  ⟨pieces, rfl, by simp [ofPieces]⟩

/-- The end of the stream behind bytes that give nothing yet. -/
theorem endError_eq_ending {d : Decoder} (h : front d.buffer = .incomplete) :
    endError d = ending d.buffer := by
  unfold endError ending Decoder.hasPartial Decoder.buffered
  rw [h]
  cases d.buffer.isEmpty <;> rfl

/-- **A call with a frame in front.** The frame is given, and the bytes behind it are pending. -/
theorem read_of_frame {r : Reader} {s payload more : ByteArray} (h : r.Pending s)
    (hfront : front s = .frame payload more) :
    r.read.1 = .ok payload ∧ r.read.2.Pending more := by
  obtain ⟨arrivals, d⟩ := r
  obtain ⟨pieces, harrivals, hs⟩ := h
  simp only at harrivals hs
  subst harrivals
  induction pieces generalizing d with
  | nil =>
    have hd : front d.buffer = .frame payload more := by
      rw [← hfront, hs, joined, ByteArray.append_empty]
    refine ⟨by simp [read, readFrom, Decoder.next, hd], [], ?_, ?_⟩ <;>
      simp [read, readFrom, Decoder.next, hd, joined]
  | cons piece pieces ih =>
    cases hd : front d.buffer with
    | frame payload' more' =>
      -- The frame is held already; the pieces to come only stand behind it.
      have hs' := front_append_of_frame hd (joined (piece :: pieces))
      rw [← hs, hfront] at hs'
      injection hs' with hpayload hmore
      subst hpayload hmore
      refine ⟨by simp [read, readFrom, Decoder.next, hd], piece :: pieces, ?_, ?_⟩ <;>
        simp [read, readFrom, Decoder.next, hd]
    | oversized length =>
      -- Then there would be no frame in front.
      have hs' := front_append_of_oversized hd (joined (piece :: pieces))
      rw [← hs, hfront] at hs'
      cases hs'
    | incomplete =>
      rw [List.map_cons, read_data hd]
      exact ih (d.push piece) (by rw [hs, joined, Decoder.buffer_push, ByteArray.append_assoc])

/-- **A call with a leftover in front.** Its error is given, and it stays pending. -/
theorem read_of_leftover {r : Reader} {s : ByteArray} (h : r.Pending s)
    (hfront : ∀ payload more, front s ≠ .frame payload more) :
    r.read.1 = .error (ending s) ∧ r.read.2.Pending s := by
  obtain ⟨arrivals, d⟩ := r
  obtain ⟨pieces, harrivals, hs⟩ := h
  simp only at harrivals hs
  subst harrivals
  induction pieces generalizing d with
  | nil =>
    rw [joined, ByteArray.append_empty] at hs
    subst hs
    cases hd : front d.buffer with
    | frame payload more => exact absurd hd (hfront payload more)
    | oversized length =>
      refine ⟨by simp [read, readFrom, Decoder.next, hd, ending], [], ?_, ?_⟩ <;>
        simp [read, readFrom, Decoder.next, hd, joined]
    | incomplete =>
      refine ⟨by simp [read, readFrom, Decoder.next, hd, endError_eq_ending hd], [], ?_, ?_⟩ <;>
        simp [read, readFrom, Decoder.next, hd, joined]
  | cons piece pieces ih =>
    cases hd : front d.buffer with
    | frame payload more =>
      have hs' := front_append_of_frame hd (joined (piece :: pieces))
      rw [← hs] at hs'
      exact absurd hs' (hfront _ _)
    | oversized length =>
      have hs' := front_append_of_oversized hd (joined (piece :: pieces))
      rw [← hs] at hs'
      refine ⟨by simp [read, readFrom, Decoder.next, hd, ending, hs'], piece :: pieces, ?_, ?_⟩ <;>
        simp [read, readFrom, Decoder.next, hd, hs]
    | incomplete =>
      rw [List.map_cons, read_data hd]
      exact ih (d.push piece) (by rw [hs, joined, Decoder.buffer_push, ByteArray.append_assoc])

/-- **Any number of calls.** The answers depend on the pending bytes alone: the frames in order,
and behind them the same error for ever. -/
theorem results_of_parses {r : Reader} {s rest : ByteArray} {frames : List ByteArray} {e : Error}
    (h : r.Pending s) (hs : Parses s frames rest e) (n : Nat) :
    r.results n = (List.range n).map (nthResult frames e) := by
  induction n generalizing r s frames with
  | zero => rfl
  | succ n ih =>
    have hcall : r.results (n + 1) = r.read.1 :: r.read.2.results n := rfl
    rw [hcall, List.range_succ_eq_map, List.map_cons, List.map_map]
    cases frames with
    | nil =>
      -- Only the leftover is pending, before and after the call.
      have hbytes : s = rest := by rw [hs.bytes, wireAll, ByteArray.empty_append]
      obtain ⟨hstop, hending⟩ := hs.left.ending_eq
      rw [← hbytes] at hstop hending
      obtain ⟨hread, hpending⟩ := read_of_leftover h hstop
      rw [hread, hending, ih hpending hs]
      rfl
    | cons payload frames =>
      -- The first frame is in front, and the call leaves a stream with one frame less.
      have hfront : front s = .frame payload (wireAll frames ++ rest) := by
        rw [hs.bytes, wireAll, ByteArray.append_assoc]
        exact front_wire_append (hs.fits payload (by simp)) _
      have hmore : Parses (wireAll frames ++ rest) frames rest e :=
        ⟨fun p hp => hs.fits p (by simp [hp]), rfl, hs.left⟩
      obtain ⟨hread, hpending⟩ := read_of_frame h hfront
      rw [hread, ih hpending hmore]
      rfl

end Reader

/-! ### Written streams -/

/-- Payloads that may travel have frames, and the frames together are the stream of them. -/
theorem joined_of_encoded {payloads : List ByteArray} (h : ∀ p ∈ payloads, p.size ≤ maxPayload) :
    ∃ wires, payloads.mapM encode = .ok wires ∧ joined wires = wireAll payloads := by
  induction payloads with
  | nil => exact ⟨[], rfl, rfl⟩
  | cons p ps ih =>
    obtain ⟨wires, hwires, hjoined⟩ := ih fun q hq => h q (by simp [hq])
    have hp : encode p = .ok (wire p) := encode_eq_ok_iff.2 ⟨h p (by simp), rfl⟩
    refine ⟨wire p :: wires, ?_, by rw [joined, hjoined, wireAll]⟩
    rw [List.mapM_cons, hp, hwires]
    rfl

/-- The stream of some payloads parses into them, and nothing is left. -/
theorem parses_wireAll {payloads : List ByteArray} (h : ∀ p ∈ payloads, Fits p) :
    Parses (wireAll payloads) payloads .empty .closed :=
  ⟨h, by rw [ByteArray.append_empty], .nothing⟩

/-! ### The reader and the parse -/

/-- **The reader agrees with a one-shot parse of the whole stream.** However a stream is cut into
the pieces that arrive:

* the whole stream parses in exactly one way, and the `i`-th call on a fresh reader gives the
  `i`-th frame, or behind the last frame the error for what is left;
* two ways to cut the same stream give the same answers;
* the frames of payloads of at most `maxPayload` bytes, one behind the other, are read back as
  those payloads, and then the stream is closed. -/
theorem reads_agree_with_parse :
    (∀ pieces : List ByteArray, ∃ frames rest e,
      Parses (joined pieces) frames rest e ∧
      (∀ frames' rest' e', Parses (joined pieces) frames' rest' e' →
        frames' = frames ∧ rest' = rest ∧ e' = e) ∧
      ∀ n, (Reader.ofPieces pieces).results n = (List.range n).map (nthResult frames e)) ∧
    (∀ pieces pieces' : List ByteArray, joined pieces = joined pieces' →
      ∀ n, (Reader.ofPieces pieces).results n = (Reader.ofPieces pieces').results n) ∧
    (∀ payloads : List ByteArray, (∀ p ∈ payloads, p.size ≤ maxPayload) →
      ∃ wires, payloads.mapM encode = .ok wires ∧
        ∀ pieces, joined pieces = joined wires → ∀ n,
          (Reader.ofPieces pieces).results n =
            (List.range n).map (nthResult payloads .closed)) := by
  refine ⟨?_, ?_, ?_⟩
  · intro pieces
    have hparses := parses_split (joined pieces)
    refine ⟨_, _, _, hparses, ?_, ?_⟩
    · intro frames' rest' e' h'
      obtain ⟨hsplit, hending⟩ := h'.eq_split
      rw [hsplit]
      exact ⟨rfl, rfl, hending.symm⟩
    · intro n
      exact Reader.results_of_parses (Reader.pending_ofPieces pieces) hparses n
  · intro pieces pieces' hsame n
    have hparses := parses_split (joined pieces)
    have hpending := Reader.pending_ofPieces pieces'
    rw [← hsame] at hpending
    rw [Reader.results_of_parses (Reader.pending_ofPieces pieces) hparses,
      Reader.results_of_parses hpending hparses]
  · intro payloads hfits
    obtain ⟨wires, hwires, hjoined⟩ := joined_of_encoded hfits
    refine ⟨wires, hwires, ?_⟩
    intro pieces hpieces n
    have hpending := Reader.pending_ofPieces pieces
    rw [hpieces, hjoined] at hpending
    exact Reader.results_of_parses hpending (parses_wireAll hfits) n

/-- A payload of one byte and an empty one, cut inside both headers. -/
theorem reads_across_headers :
    (∀ p ∈ [(⟨#[7]⟩ : ByteArray), .empty], p.size ≤ maxPayload) ∧
      (Reader.ofPieces [⟨#[1]⟩, ⟨#[0, 0, 0, 7, 0]⟩, ⟨#[0, 0, 0]⟩]).results 3 =
        [.ok ⟨#[7]⟩, .ok .empty, .error .closed] := by
  have hfits : ∀ p ∈ [(⟨#[7]⟩ : ByteArray), .empty], p.size ≤ maxPayload := by decide
  obtain ⟨wires, hwires, hread⟩ := reads_agree_with_parse.2.2 _ hfits
  have hframes : wires = [⟨#[1, 0, 0, 0, 7]⟩, ⟨#[0, 0, 0, 0]⟩] :=
    (Except.ok.inj (hwires.symm.trans rfl))
  refine ⟨hfits, ?_⟩
  rw [hread [⟨#[1]⟩, ⟨#[0, 0, 0, 7, 0]⟩, ⟨#[0, 0, 0]⟩] (by rw [hframes]; rfl) 3]
  rfl

end Overlay.Frame
