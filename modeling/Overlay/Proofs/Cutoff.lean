import Mathlib.Data.List.Induction
import Overlay.Proofs.Segmentation
import Overlay.Proofs.Sending

namespace Overlay.Frame

/-!
# Streams that are cut off

Payloads are sent one after another into a sink that takes only so many bytes in total. What gets
through is the beginning of the stream that they make up, and whoever reads it finds the payloads
whose frames fitted, and knows whether something is missing behind them.

* `stream` — what some payloads make up together; payloads without a frame add nothing to it;
* `Sink.fill` — as much of a stream as the capacity allows; `Sink.Reaches` — whether a frame that
  ends at some byte is a part of that;
* `Sink.exists_after_eq` — what any payloads leave in the sink, one payload after the other;
* `SendExact` — what each of them comes to;
* `parses_fill` — what is read of the beginning of a stream;
* `sends_until_cut_off` — both ends together.
-/

/-- The payloads that have a frame. -/
def legal (payloads : List ByteArray) : List ByteArray := payloads.filter fun p => Fits p

/-- The stream that payloads make up: the frames of those that have one, one behind the other. -/
def stream (payloads : List ByteArray) : ByteArray :=
  joined (payloads.filterMap fun p => (encode p).toOption)

theorem fits_of_mem_legal {payloads : List ByteArray} : ∀ p ∈ legal payloads, Fits p := by
  intro p hp
  simpa using (List.mem_filter.1 hp).2

@[simp] theorem stream_nil : stream [] = .empty := rfl

/-- A payload without a frame adds nothing to the stream. -/
theorem stream_cons_of_not_fits {p : ByteArray} (h : ¬ Fits p) (payloads : List ByteArray) :
    stream (p :: payloads) = stream payloads := by
  simp [stream, encode, h, Except.toOption]

/-- A payload with a frame adds that. -/
theorem stream_cons_of_fits {p : ByteArray} (h : Fits p) (payloads : List ByteArray) :
    stream (p :: payloads) = wire p ++ stream payloads := by
  simp [stream, encode, h, Except.toOption, joined]

theorem stream_eq (payloads : List ByteArray) : stream payloads = wireAll (legal payloads) := by
  induction payloads with
  | nil => rfl
  | cons p ps ih =>
    by_cases h : Fits p
    · simp [stream_cons_of_fits h, ih, legal, h, wireAll]
    · simp [stream_cons_of_not_fits h, ih, legal, h]

theorem stream_append (payloads more : List ByteArray) :
    stream (payloads ++ more) = stream payloads ++ stream more := by
  simp [stream_eq, legal, List.filter_append]

/-! ### As much as the capacity allows -/

namespace Sink

/-- The first `n` bytes of a stream are within the capacity. -/
def Reaches (s : Sink) (n : Nat) : Prop := ∀ limit, s.capacity = some limit → n ≤ limit

/-- As much of a stream as the capacity allows. -/
def fill (s : Sink) (bytes : ByteArray) : ByteArray :=
  bytes.extract 0 (bounded bytes.size s.capacity)

theorem Reaches.mono {s : Sink} {n m : Nat} (h : s.Reaches m) (hle : n ≤ m) : s.Reaches n :=
  fun limit hcapacity => Nat.le_trans hle (h limit hcapacity)

theorem not_reaches_iff {s : Sink} {n : Nat} :
    ¬ s.Reaches n ↔ ∃ limit, s.capacity = some limit ∧ limit < n := by
  simp [Reaches]

/-- A stream within the capacity gets through whole. -/
theorem fill_of_reaches {s : Sink} {bytes : ByteArray} (h : s.Reaches bytes.size) :
    s.fill bytes = bytes := by
  have hall : bounded bytes.size s.capacity = bytes.size := by
    cases hcapacity : s.capacity with
    | none => rfl
    | some limit => exact Nat.min_eq_left (h limit hcapacity)
  rw [fill, hall, ByteArray.extract_zero_size]

theorem fill_of_capacity {s : Sink} {limit : Nat} (h : s.capacity = some limit)
    (bytes : ByteArray) : s.fill bytes = bytes.extract 0 limit := by
  unfold fill
  rw [h, bounded]
  by_cases hle : limit ≤ bytes.size
  · rw [Nat.min_eq_right hle]
  · rw [Nat.min_eq_left (by omega), ByteArray.extract_zero_size]
    refine ByteArray.ext ?_
    rw [ByteArray.data_extract, Array.extract_eq_self_of_le]
    show bytes.size ≤ limit
    omega

theorem size_fill_of_capacity {s : Sink} {limit : Nat} (h : s.capacity = some limit)
    (bytes : ByteArray) : (s.fill bytes).size = min bytes.size limit := by
  rw [fill_of_capacity h, ByteArray.size_extract]
  omega

/-- A stream that goes beyond the capacity is cut inside what it was continued with, or before. -/
theorem fill_append_of_capacity {s : Sink} {limit : Nat} (h : s.capacity = some limit)
    (bytes more : ByteArray) :
    s.fill (bytes ++ more) = s.fill bytes ++ more.extract 0 (limit - bytes.size) := by
  rw [fill_of_capacity h, fill_of_capacity h, ByteArray.extract_append, Nat.zero_sub]

/-! ### One payload after another -/

/-- The sink after some payloads were sent, whatever became of each. -/
def after (s : Sink) (payloads : List ByteArray) : Sink :=
  payloads.foldl (fun s p => (s.send p).2) s

/-- One payload more. -/
theorem after_concat (s : Sink) (payloads : List ByteArray) (payload : ByteArray) :
    s.after (payloads ++ [payload]) = ((s.after payloads).send payload).2 := by
  simp [after, List.foldl_append]

theorem sends_append (s : Sink) (payloads more : List ByteArray) :
    s.sends (payloads ++ more) = s.sends payloads ++ (s.after payloads).sends more := by
  induction payloads generalizing s with
  | nil => rfl
  | cons p ps ih =>
    show s.send p :: (s.send p).2.sends (ps ++ more) = _
    rw [ih]
    rfl

theorem length_sends (s : Sink) (payloads : List ByteArray) :
    (s.sends payloads).length = payloads.length := by
  induction payloads generalizing s with
  | nil => rfl
  | cons p ps ih => exact congrArg Nat.succ (ih _)

/-- A sink that has taken what its capacity allows of a stream takes the next frame exactly if that
ends within the capacity. -/
theorem takes_iff_reaches {s : Sink} (steady : s.perWrite ≠ some 0) {bytes : ByteArray}
    (filled : s.written = s.fill bytes) {n : Nat} (some : 0 < n) :
    s.Takes n ↔ s.Reaches (bytes.size + n) := by
  constructor
  · intro takes limit hcapacity
    have hroom := takes.room limit hcapacity
    rw [filled, size_fill_of_capacity hcapacity] at hroom
    omega
  · intro reaches
    refine ⟨fun _ => steady, fun limit hcapacity => ?_⟩
    have hwithin := reaches limit hcapacity
    rw [filled, size_fill_of_capacity hcapacity]
    omega

/-- **One payload more.** A sink that has taken what its capacity allows of a stream goes on to take
what it allows of the stream with the payload's frame. -/
theorem exists_send_eq {s : Sink} (steady : s.perWrite ≠ some 0) {payloads : List ByteArray}
    (filled : s.written = s.fill (stream payloads)) (payload : ByteArray) :
    ∃ flushes, (s.send payload).2 =
      { s with written := s.fill (stream (payloads ++ [payload])), flushes } := by
  have hsent := s.send_sent payload
  generalize s.send payload = sent at hsent
  cases hsent with
  | refused large =>
    refine ⟨s.flushes, ?_⟩
    rw [stream_append, stream_cons_of_not_fits large, stream_nil, ByteArray.append_empty, ← filled]
  | @cut taken missing fault frame short refuses =>
    obtain ⟨hfits, hframe⟩ := encode_eq_ok_iff.1 frame
    refine ⟨s.flushes, ?_⟩
    rw [stream_append, stream_cons_of_fits hfits, stream_nil, ByteArray.append_empty, ← hframe]
    -- What was taken of the frame is what the capacity had left over.
    generalize hn : taken.size = n at refuses
    cases refuses with
    | idle perWrite => exact absurd perWrite steady
    | @full limit capacity =>
      rw [filled, size_fill_of_capacity capacity] at hn
      rw [fill_append_of_capacity capacity, ByteArray.extract_append_eq_left (by omega), ← filled]
      rfl
  | @unflushed frame fault legal takes flush | @through frame legal takes flush =>
    obtain ⟨hfits, hframe⟩ := encode_eq_ok_iff.1 legal
    refine ⟨s.flushes + 1, ?_⟩
    rw [stream_append, stream_cons_of_fits hfits, stream_nil, ByteArray.append_empty, ← hframe]
    -- The frame ends within the capacity, and so does all that went before.
    have hpos : 0 < frame.size := by
      rw [hframe, size_wire]
      exact Nat.lt_of_lt_of_le (by decide) (Nat.le_add_right headerSize _)
    have hreaches := (takes_iff_reaches steady filled hpos).1 takes
    have hbefore := hreaches.mono (Nat.le_add_right _ _)
    rw [← ByteArray.size_append] at hreaches
    rw [fill_of_reaches hreaches, ← fill_of_reaches hbefore, ← filled]
    rfl

/-- **What payloads leave in a sink:** as much of their stream as its capacity allows. -/
theorem exists_after_eq {s : Sink} (steady : s.perWrite ≠ some 0) (fresh : s.written = .empty)
    (payloads : List ByteArray) :
    ∃ flushes, s.after payloads = { s with written := s.fill (stream payloads), flushes } := by
  induction payloads using List.reverseRecOn with
  | nil =>
    refine ⟨s.flushes, ?_⟩
    have hnothing : s.fill .empty = s.written := by
      rw [fresh, fill, ByteArray.extract_eq_empty_iff.2 (by simp)]
    rw [stream_nil, hnothing]
    rfl
  | append_singleton payloads payload ih =>
    obtain ⟨flushes, hafter⟩ := ih
    let before : Sink := { s with written := s.fill (stream payloads), flushes }
    have hsteady : before.perWrite ≠ some 0 := steady
    rw [after_concat, hafter]
    exact exists_send_eq hsteady rfl payload

end Sink

/-- What sending `payload` behind `earlier` comes to: the result, and what is done to the sink. -/
structure SendExact (s : Sink) (earlier : List ByteArray) (payload : ByteArray)
    (result : Except Error Unit) : Prop where
  /-- A payload that is too large is refused with its size and touches nothing. -/
  large : maxPayload < payload.size →
    result = .error (.tooLarge payload.size) ∧ s.after (earlier ++ [payload]) = s.after earlier
  /-- A frame that ends within the capacity is written whole and flushed once, and the flush
  decides. -/
  whole : ∀ frame, encode payload = .ok frame → s.Reaches ((stream earlier).size + frame.size) →
    (s.after (earlier ++ [payload])).written = (s.after earlier).written ++ frame ∧
      (s.after (earlier ++ [payload])).flushes = (s.after earlier).flushes + 1 ∧
      result = match s.flushFault with
        | none => .ok ()
        | some fault => .error (.io fault)
  /-- Any other frame fails with what the sink says when it is full, and nothing is flushed. -/
  cut : ∀ frame, encode payload = .ok frame → ¬ s.Reaches ((stream earlier).size + frame.size) →
    result = .error (.io s.refusal.fault) ∧
      (s.after (earlier ++ [payload])).flushes = (s.after earlier).flushes

/-- **Each sending by itself.** -/
theorem send_exact {s : Sink} (steady : s.perWrite ≠ some 0) (fresh : s.written = .empty)
    (earlier : List ByteArray) (payload : ByteArray) :
    SendExact s earlier payload ((s.after earlier).send payload).1 := by
  obtain ⟨flushes, hafter⟩ := Sink.exists_after_eq steady fresh earlier
  have hsteady : (s.after earlier).perWrite ≠ some 0 := by
    rw [hafter]
    exact steady
  have hfilled : (s.after earlier).written = (s.after earlier).fill (stream earlier) := by
    rw [hafter]
    rfl
  -- Whether the frame is taken is a matter of where it ends in the stream.
  have hends {frame : ByteArray} (legal : encode payload = .ok frame) :
      (s.after earlier).Takes frame.size ↔ s.Reaches ((stream earlier).size + frame.size) := by
    have hpos : 0 < frame.size := by
      rw [(encode_eq_ok_iff.1 legal).2, size_wire]
      exact Nat.lt_of_lt_of_le (by decide) (Nat.le_add_right headerSize _)
    rw [Sink.takes_iff_reaches hsteady hfilled hpos, hafter]
    rfl
  have hflushFault : (s.after earlier).flushFault = s.flushFault := by rw [hafter]
  have hrefusal : (s.after earlier).refusal = s.refusal := by rw [hafter]
  have hsent := (s.after earlier).send_sent payload
  have hlast := s.after_concat earlier payload
  generalize (s.after earlier).send payload = sent at hsent hlast
  cases hsent with
  | refused large =>
    have hnone : ∀ frame, encode payload ≠ .ok frame :=
      fun frame legal => large (encode_eq_ok_iff.1 legal).1
    exact ⟨fun _ => ⟨rfl, hlast⟩, fun frame legal => absurd legal (hnone frame),
      fun frame legal => absurd legal (hnone frame)⟩
  | @cut taken missing fault frame short refuses =>
    have hfits : Fits payload := (encode_eq_ok_iff.1 frame).1
    have hmore : taken.size < (taken ++ missing).size := by
      rw [ByteArray.size_append]
      omega
    have hbeyond := mt (hends frame).2 (refuses.not_takes hmore)
    have hfault : fault = s.refusal.fault := by
      rw [← hrefusal]
      exact refuses.fault_eq hsteady
    refine ⟨fun hlarge => absurd hfits (Nat.not_le_of_lt hlarge), ?_, ?_⟩
    · intro frame' legal hwithin
      rw [frame, Except.ok.injEq] at legal
      subst legal
      exact absurd hwithin hbeyond
    · intro frame' legal hbeyond'
      rw [hlast, hfault]
      exact ⟨rfl, rfl⟩
  | @unflushed frame fault legal takes flush | @through frame legal takes flush =>
    have hfits : Fits payload := (encode_eq_ok_iff.1 legal).1
    rw [hflushFault] at flush
    refine ⟨fun hlarge => absurd hfits (Nat.not_le_of_lt hlarge), ?_, ?_⟩
    · intro frame' legal' hwithin
      rw [legal, Except.ok.injEq] at legal'
      subst legal'
      rw [hlast, flush]
      exact ⟨rfl, rfl, rfl⟩
    · intro frame' legal' hbeyond
      rw [legal, Except.ok.injEq] at legal'
      subst legal'
      exact absurd ((hends legal).1 takes) hbeyond

/-! ### Reading what got through -/

/-- Of the frames that begin at byte `start` a first few lie within the capacity. -/
theorem exists_frames_from (s : Sink) {start : Nat} (hstart : s.Reaches start)
    (payloads : List ByteArray) :
    ∃ k ≤ payloads.length, ∀ j ≤ payloads.length,
      j ≤ k ↔ s.Reaches (start + (wireAll (payloads.take j)).size) := by
  induction payloads generalizing start with
  | nil =>
    refine ⟨0, Nat.le_refl 0, fun j hj => ?_⟩
    obtain rfl : j = 0 := Nat.le_zero.1 hj
    simpa [wireAll] using hstart
  | cons p ps ih =>
    by_cases hfirst : s.Reaches (start + (wire p).size)
    -- The first frame does, and so do some of the others.
    · obtain ⟨k, hk, hothers⟩ := ih hfirst
      refine ⟨k + 1, Nat.succ_le_succ hk, fun j hj => ?_⟩
      cases j with
      | zero => simpa [wireAll] using hstart
      | succ j =>
        have hj' : j ≤ ps.length := Nat.le_of_succ_le_succ hj
        rw [Nat.add_le_add_iff_right, hothers j hj', List.take_succ_cons, wireAll,
          ByteArray.size_append, Nat.add_assoc]
    -- The first frame does not, and no other.
    · refine ⟨0, Nat.zero_le _, fun j hj => ?_⟩
      cases j with
      | zero => simpa [wireAll] using hstart
      | succ j =>
        rw [List.take_succ_cons, wireAll, ByteArray.size_append]
        refine ⟨fun h => absurd h (by omega), fun h => absurd (h.mono ?_) hfirst⟩
        omega

/-- **The beginning of a frame that is not the whole frame** is what a stream may end with: nothing at
all, or a frame cut short. -/
theorem leftover_extract {p : ByteArray} (h : Fits p) {n : Nat} (hn : n < (wire p).size) :
    Leftover ((wire p).extract 0 n)
      (if ((wire p).extract 0 n).size = 0 then .closed
        else .truncated ((wire p).extract 0 n).size) := by
  have hsize : ((wire p).extract 0 n).size = n := by
    rw [ByteArray.size_extract]
    omega
  by_cases hn0 : n = 0
  · subst hn0
    rw [if_pos hsize, ByteArray.size_eq_zero_iff.1 hsize]
    exact .nothing
  · rw [if_neg (by omega)]
    have hwhole : (wire p).extract 0 n ++ (wire p).extract n (wire p).size = wire p := by
      rw [← ByteArray.extract_eq_extract_append_extract n (Nat.zero_le _) (Nat.le_of_lt hn),
        ByteArray.extract_zero_size]
    have hshort : 0 < ((wire p).extract n (wire p).size).size := by
      rw [ByteArray.size_extract]
      omega
    exact .part (by omega) hshort h hwhole

/-- **What is read of the beginning of a stream:** the frames that lie within the capacity, and then
whether the cut falls between two frames or inside one. -/
theorem parses_fill (s : Sink) {payloads : List ByteArray} (h : ∀ p ∈ payloads, Fits p) {k : Nat}
    (hk : k ≤ payloads.length)
    (within : ∀ j ≤ payloads.length, j ≤ k ↔ s.Reaches (wireAll (payloads.take j)).size) :
    ∃ rest, s.fill (wireAll payloads) = wireAll (payloads.take k) ++ rest ∧
      Parses (s.fill (wireAll payloads)) (payloads.take k) rest
        (if rest.size = 0 then .closed else .truncated rest.size) := by
  have hgot : s.Reaches (wireAll (payloads.take k)).size := (within k hk).1 (Nat.le_refl k)
  have hfits : ∀ p ∈ payloads.take k, Fits p := fun p hp => h p (List.mem_of_mem_take hp)
  have hall : wireAll payloads = wireAll (payloads.take k) ++ wireAll (payloads.drop k) := by
    rw [← wireAll_append, List.take_append_drop]
  cases hdrop : payloads.drop k with
  | nil =>
    -- All frames are there.
    have hfill : s.fill (wireAll payloads) = wireAll (payloads.take k) ++ .empty := by
      rw [hall, hdrop, wireAll, ByteArray.append_empty, Sink.fill_of_reaches hgot]
    exact ⟨.empty, hfill, hfits, hfill, .nothing⟩
  | cons p ps =>
    -- The next frame is not there, or not all of it.
    have hlt : k < payloads.length := by
      by_contra hge
      rw [List.drop_eq_nil_of_le (Nat.le_of_not_lt hge)] at hdrop
      cases hdrop
    have hnext : payloads.take (k + 1) = payloads.take k ++ [p] := by
      have hp : payloads[k]? = some p := by rw [← List.head?_drop, hdrop, List.head?_cons]
      rw [List.take_add_one, hp, Option.toList_some]
    have hbeyond : ¬ s.Reaches (wireAll (payloads.take (k + 1))).size :=
      mt (within (k + 1) hlt).2 (Nat.not_succ_le_self k)
    obtain ⟨limit, hcapacity, hlimit⟩ := Sink.not_reaches_iff.1 hbeyond
    have hroom := hgot limit hcapacity
    rw [hnext, wireAll_append, ByteArray.size_append, wireAll, wireAll, ByteArray.append_empty]
      at hlimit
    -- The bytes left over are the beginning of that frame.
    obtain ⟨n, rfl⟩ := Nat.exists_eq_add_of_le hroom
    have hn : n < (wire p).size := by omega
    have hfill : s.fill (wireAll payloads) =
        wireAll (payloads.take k) ++ (wire p).extract 0 n := by
      have hcut : (wire p ++ wireAll ps).extract 0 n = (wire p).extract 0 n := by
        have hnothing : (wireAll ps).extract 0 0 = .empty :=
          ByteArray.extract_eq_empty_iff.2 (by omega)
        rw [ByteArray.extract_append, Nat.zero_sub, Nat.sub_eq_zero_of_le (Nat.le_of_lt hn),
          hnothing, ByteArray.append_empty]
      rw [hall, hdrop, wireAll, Sink.fill_append_of_capacity hcapacity, Sink.fill_of_reaches hgot,
        Nat.add_sub_cancel_left, hcut]
    have hp : p ∈ payloads := List.mem_of_mem_drop (hdrop ▸ List.mem_cons_self)
    exact ⟨_, hfill, hfits, hfill, leftover_extract (h p hp) hn⟩

/-- **Sending and reading when the stream is cut off.** Payloads are sent one after another into a
sink that takes at most `perWrite` bytes in one write and `capacity` bytes in total.

* What has been taken in the end is as much as the capacity allows of the stream that the payloads
  make up, and no other byte.
* Each payload comes to what `SendExact` says: it is too large, or its frame gets through and is
  flushed, or the sink refuses a part of it.
* However the bytes that were taken are cut when they are read, the reads give the payloads whose
  frames lie within the capacity, in order, and after them always the same: that the stream is
  closed, or that it was cut inside a frame of which so many bytes had come. -/
theorem sends_until_cut_off (capacity perWrite : Option Nat) (refusal : Refusal)
    (flushFault : Option IoFault) (steady : ∀ n, perWrite = some n → 1 ≤ n) :
    let s : Sink := { capacity, perWrite, refusal, flushFault }
    (∀ payloads, (s.after payloads).written =
      (stream payloads).extract 0 (Sink.bounded (stream payloads).size capacity)) ∧
    (∀ earlier payload later, ∃ result,
      (s.sends (earlier ++ payload :: later))[earlier.length]? =
          some (result, s.after (earlier ++ [payload])) ∧
        SendExact s earlier payload result) ∧
    ∀ payloads, ∃ k ≤ (legal payloads).length,
      (∀ j ≤ (legal payloads).length,
        j ≤ k ↔ s.Reaches (stream ((legal payloads).take j)).size) ∧
      ∀ pieces, joined pieces = (s.after payloads).written →
        let got := (legal payloads).take k
        let surplus := (s.after payloads).written.size - (stream got).size
        ∀ n, (Reader.ofPieces pieces).results n = (List.range n).map
          (nthResult got (if surplus = 0 then .closed else .truncated surplus)) := by
  intro s
  have hsteady : s.perWrite ≠ some 0 := fun h => absurd (steady 0 h) (by decide)
  have hwritten (payloads : List ByteArray) :
      (s.after payloads).written = s.fill (stream payloads) := by
    obtain ⟨flushes, hafter⟩ := Sink.exists_after_eq hsteady rfl payloads
    rw [hafter]
  refine ⟨hwritten, ?_, ?_⟩
  · intro earlier payload later
    refine ⟨_, ?_, send_exact hsteady rfl earlier payload⟩
    rw [Sink.sends_append, List.getElem?_append_right (Nat.le_of_eq (s.length_sends earlier)),
      s.length_sends, Nat.sub_self, Sink.after_concat]
    rfl
  · intro payloads
    have hstart : s.Reaches 0 := fun limit _ => Nat.zero_le limit
    obtain ⟨k, hk, hwithin⟩ := exists_frames_from s hstart (legal payloads)
    simp only [Nat.zero_add] at hwithin
    -- The payloads that were read are legal, so their frames are all of their stream.
    have hframes (j : Nat) :
        stream ((legal payloads).take j) = wireAll ((legal payloads).take j) := by
      rw [stream_eq]
      refine congrArg wireAll (List.filter_eq_self.2 fun p hp => ?_)
      simpa using fits_of_mem_legal p (List.mem_of_mem_take hp)
    obtain ⟨rest, hfill, hparses⟩ := parses_fill s fits_of_mem_legal hk hwithin
    rw [← stream_eq, ← hwritten] at hfill hparses
    refine ⟨k, hk, fun j hj => by rw [hframes, hwithin j hj], ?_⟩
    intro pieces hpieces got surplus n
    have hsurplus : surplus = rest.size := by
      show (s.after payloads).written.size - (stream got).size = rest.size
      rw [hframes, hfill, ByteArray.size_append, Nat.add_sub_cancel_left]
    rw [hsurplus]
    refine Reader.results_of_parses ?_ hparses n
    have hpending := Reader.pending_ofPieces pieces
    rwa [hpieces] at hpending

/-- Of three frames the second is cut off in its header, and the third finds no room at all. -/
theorem second_frame_cut_off :
    (∀ n, some 3 = some n → 1 ≤ n) ∧
      let s : Sink := { capacity := some 7, perWrite := some 3 }
      (s.after [⟨#[7]⟩, ⟨#[8, 9]⟩, .empty]).written = ⟨#[1, 0, 0, 0, 7, 2, 0]⟩ ∧
        (Reader.ofPieces [⟨#[1, 0]⟩, ⟨#[0, 0, 7, 2, 0]⟩]).results 2 =
          [.ok ⟨#[7]⟩, .error (.truncated 2)] := by
  have hsteady : ∀ n, some 3 = some n → 1 ≤ n := by simp
  obtain ⟨hwritten, -, hread⟩ :=
    sends_until_cut_off (some 7) (some 3) .takesNothing none hsteady
  have htaken := hwritten [⟨#[7]⟩, ⟨#[8, 9]⟩, .empty]
  obtain ⟨k, hk, hwithin, hresults⟩ := hread [⟨#[7]⟩, ⟨#[8, 9]⟩, .empty]
  -- The first frame ends at byte five and the second would at byte eleven.
  have hfirst : 1 ≤ k := (hwithin 1 (by decide)).2 (by simp [Sink.Reaches]; decide)
  have hsecond : ¬ 2 ≤ k := fun h => absurd ((hwithin 2 (by decide)).1 h 7 rfl) (by decide)
  obtain rfl : k = 1 := by omega
  refine ⟨hsteady, htaken, ?_⟩
  rw [hresults [⟨#[1, 0]⟩, ⟨#[0, 0, 7, 2, 0]⟩] (by rw [htaken]; rfl) 2, htaken]
  rfl

end Overlay.Frame
