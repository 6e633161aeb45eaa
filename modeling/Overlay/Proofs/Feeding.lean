import Overlay.Proofs.Segmentation

namespace Overlay.Frame

/-!
# Feeding a decoder

A decoder that is fed gives all frames that have become whole, at once. What it gives does not
depend on how the bytes were cut into chunks, and it fails on an oversized frame only.

* `Decoder.feeds` — feeding chunks one by one; `Decoder.fed` — the decoders reached in this way;
* `Decoder.feed_of_part`, `Decoder.feed_of_large` — one call, by what stands behind the frames;
* `Decoder.feeds_of_part` — any number of calls are worth one with all bytes;
* `Decoder.Jammed` — an oversized frame has been declared; nothing that is done to the decoder
  afterwards changes that;
* `feeding_exact` — chunks do not matter, and a failure is exact.
-/

namespace Decoder

/-- Feed chunks one by one: what each call gives, and the decoder afterwards. -/
def feeds (d : Decoder) : List ByteArray → List (Except Error (List ByteArray)) × Decoder
  | [] => ([], d)
  | chunk :: later =>
    let first := d.feed chunk
    let others := first.2.feeds later
    (first.1 :: others.1, others.2)

/-- A fresh decoder that has been fed some chunks. -/
def fed (chunks : List ByteArray) : Decoder := (feeds {} chunks).2

/-! ### One call -/

variable {d : Decoder} {bytes : ByteArray}

/-- Where nothing oversized stands behind the frames, they are given. -/
theorem feed_of_part (h : front (split (d.buffer ++ bytes)).2 = .incomplete) :
    d.feed bytes = (.ok (split (d.buffer ++ bytes)).1, ⟨(split (d.buffer ++ bytes)).2⟩) := by
  simp [feed, h]

/-- Where an oversized frame is declared behind the frames, they are gone, and it is reported. -/
theorem feed_of_large {length : Nat}
    (h : front (split (d.buffer ++ bytes)).2 = .oversized length) :
    d.feed bytes = (.error (.tooLarge length), ⟨(split (d.buffer ++ bytes)).2⟩) := by
  simp [feed, h]

/-- What stands behind the frames is held after the call, whether it fails or not. -/
theorem buffer_feed (d : Decoder) (bytes : ByteArray) :
    (d.feed bytes).2.buffer = (split (d.buffer ++ bytes)).2 := by
  rcases front_split_cases (d.buffer ++ bytes) with hpart | ⟨length, hlarge⟩
  · rw [feed_of_part hpart]
  · rw [feed_of_large hlarge]

/-- **A call fails** exactly if an oversized frame is declared behind the whole frames. -/
theorem feed_eq_error_iff {e : Error} :
    (d.feed bytes).1 = .error e ↔
      ∃ frames rest length, e = .tooLarge length ∧
        Parses (d.buffer ++ bytes) frames rest (.tooLarge length) := by
  constructor
  · intro h
    rcases front_split_cases (d.buffer ++ bytes) with hpart | ⟨length, hlarge⟩
    · rw [feed_of_part hpart] at h
      cases h
    · rw [feed_of_large hlarge] at h
      cases h
      exact ⟨_, _, length, rfl, parses_split_of_oversized hlarge⟩
  · rintro ⟨frames, rest, length, rfl, parse⟩
    obtain ⟨hsplit, hlarge⟩ := parse.large
    rw [feed_of_large (by rw [hsplit]; exact hlarge)]

/-- Behind a call, no whole frame is held. -/
theorem not_frame_feed (d : Decoder) (bytes payload rest : ByteArray) :
    front (d.feed bytes).2.buffer ≠ .frame payload rest := by
  rw [buffer_feed]
  exact (split_stops (d.buffer ++ bytes)).2 payload rest

/-! ### Calls in a row -/

/-- A decoder that has only been fed holds no whole frame. -/
theorem not_frame_fed (chunks : List ByteArray) (payload rest : ByteArray) :
    front (fed chunks).buffer ≠ .frame payload rest := by
  suffices h : ∀ d : Decoder, front d.buffer ≠ .frame payload rest →
      front (d.feeds chunks).2.buffer ≠ .frame payload rest by
    have hempty : front .empty = .incomplete := rfl
    exact h {} (by simp [hempty])
  induction chunks with
  | nil => exact fun d h => h
  | cons chunk later ih => exact fun d _ => ih _ (not_frame_feed d chunk payload rest)

/-- **Chunk by chunk or at once.** Where nothing oversized is declared, all calls with the chunks
succeed, and together they give what one call with all bytes gives. -/
theorem feeds_of_part (hstop : ∀ payload rest, front d.buffer ≠ .frame payload rest)
    {chunks : List ByteArray}
    (hpart : front (split (d.buffer ++ joined chunks)).2 = .incomplete) :
    ∃ parts : List (List ByteArray), (d.feeds chunks).1 = parts.map .ok ∧
      d.feed (joined chunks) = (.ok parts.flatten, (d.feeds chunks).2) := by
  induction chunks generalizing d with
  | nil =>
    refine ⟨[], rfl, ?_⟩
    rw [feed_of_part hpart, joined, ByteArray.append_empty, split_stop hstop]
    rfl
  | cons chunk later ih =>
    rw [joined, ← ByteArray.append_assoc] at hpart
    -- The first call succeeds, and leaves the other ones what stands behind its frames.
    have hfirst := feed_of_part (front_split_of_append hpart)
    have hsplit := split_append (d.buffer ++ chunk) (joined later)
    have hlater : front (split ((d.feed chunk).2.buffer ++ joined later)).2 = .incomplete := by
      rw [hsplit] at hpart
      rw [buffer_feed]
      exact hpart
    obtain ⟨parts, hparts, hfeed⟩ := ih (not_frame_feed d chunk) hlater
    refine ⟨(split (d.buffer ++ chunk)).1 :: parts, ?_, ?_⟩
    · rw [feeds, hparts, hfirst]
      rfl
    · rw [ByteArray.append_assoc] at hpart hsplit
      rw [feed_of_part hlater, Prod.mk.injEq, Except.ok.injEq, buffer_feed] at hfeed
      rw [joined, feed_of_part hpart, hsplit, feeds, ← hfeed.2, hfeed.1, List.flatten_cons]

/-! ### After a failure -/

/-- Behind its whole frames, of which it holds none, a decoder holds an oversized header. -/
def Jammed (d : Decoder) (length : Nat) : Prop := front d.buffer = .oversized length

/-- What can be done to a decoder. -/
inductive Use where
  /-- Push these bytes. -/
  | push (bytes : ByteArray)
  /-- Ask for the next frame. -/
  | next
  /-- Feed these bytes. -/
  | feed (bytes : ByteArray)

/-- A decoder after one use. -/
def use (d : Decoder) : Use → Decoder
  | .push bytes => d.push bytes
  | .next => d.next.2
  | .feed bytes => (d.feed bytes).2

namespace Jammed

variable {length : Nat}

/-- A jammed decoder gives no frame. -/
theorem next_eq (h : d.Jammed length) : d.next = (.error (.tooLarge length), d) := by
  unfold Jammed at h
  simp [Decoder.next, h]

/-- Pushing does not help. -/
theorem push (h : d.Jammed length) (bytes : ByteArray) : (d.push bytes).Jammed length :=
  front_append_of_oversized h bytes

/-- Feeding only pushes. -/
theorem feed_eq (h : d.Jammed length) (bytes : ByteArray) :
    d.feed bytes = (.error (.tooLarge length), d.push bytes) := by
  have hfront : front (d.buffer ++ bytes) = .oversized length := h.push bytes
  have hsplit : split (d.buffer ++ bytes) = ([], d.buffer ++ bytes) :=
    split_stop (by simp [hfront])
  rw [feed_of_large (by rw [hsplit]; exact hfront), hsplit]
  rfl

/-- **Every use** leaves a jammed decoder jammed. -/
theorem use (h : d.Jammed length) (u : Use) : (d.use u).Jammed length := by
  cases u with
  | push bytes => exact h.push bytes
  | next =>
    show d.next.2.Jammed length
    rw [h.next_eq]
    exact h
  | feed bytes =>
    show (d.feed bytes).2.Jammed length
    rw [h.feed_eq]
    exact h.push bytes

/-- **Any uses** leave it jammed. -/
theorem uses (h : d.Jammed length) (us : List Use) : (us.foldl Decoder.use d).Jammed length := by
  induction us generalizing d with
  | nil => exact h
  | cons u us ih => exact ih (h.use u)

end Jammed

end Decoder

/-! ### Feeding is exact -/

/-- A decoder that is fed gives what has become whole, and fails for an oversized frame only. -/
structure FeedsExactly (d : Decoder) : Prop where
  /-- Where nothing oversized is declared, all calls with the chunks succeed. Their frames are
  those of one call with all bytes, and the same bytes are held in the end. -/
  chunked : ∀ chunks : List ByteArray,
    (∀ frames rest length, ¬ Parses (d.buffer ++ joined chunks) frames rest (.tooLarge length)) →
      ∃ parts : List (List ByteArray), (d.feeds chunks).1 = parts.map .ok ∧
        d.feed (joined chunks) = (.ok parts.flatten, (d.feeds chunks).2)
  /-- A call with nothing oversized gives all whole frames, and what is left is held. -/
  gives : ∀ x frames rest e, Parses (d.buffer ++ x) frames rest e →
    (∀ length, e ≠ .tooLarge length) → d.feed x = (.ok frames, ⟨rest⟩)
  /-- A call fails exactly if the bytes held and fed are legal frames and then an oversized
  header, and it reports the length in that header. -/
  fails : ∀ x e, (d.feed x).1 = .error e ↔
    ∃ frames rest length, e = .tooLarge length ∧
      Parses (d.buffer ++ x) frames rest (.tooLarge length)
  /-- A call that fails removes exactly those frames. What is held begins with the header. -/
  removed : ∀ x frames rest length, Parses (d.buffer ++ x) frames rest (.tooLarge length) →
    (d.feed x).2.buffer = rest ∧ ∃ behind, rest = LittleEndian.encode length ++ behind
  /-- After a call that fails, all calls fail in the same way, whatever is done in between. -/
  stuck : ∀ x e, (d.feed x).1 = .error e → ∀ uses : List Decoder.Use,
    let later := uses.foldl Decoder.use (d.feed x).2
    later.next.1 = .error e ∧ ∀ y, (later.feed y).1 = .error e

/-- **Feeding is exact**, for every decoder that has only been fed. -/
theorem feeding_exact (earlier : List ByteArray) : FeedsExactly (Decoder.fed earlier) := by
  constructor
  case chunked =>
    intro chunks hlegal
    refine Decoder.feeds_of_part (Decoder.not_frame_fed earlier) ?_
    rcases front_split_cases ((Decoder.fed earlier).buffer ++ joined chunks) with
      hpart | ⟨length, hlarge⟩
    · exact hpart
    · exact absurd (parses_split_of_oversized hlarge) (hlegal _ _ length)
  case gives =>
    intro x frames rest e parse hopen
    obtain ⟨hsplit, -, hpart⟩ := parse.part hopen
    rw [Decoder.feed_of_part (by rw [hsplit]; exact hpart), hsplit]
  case fails => exact fun x e => Decoder.feed_eq_error_iff
  case removed =>
    intro x frames rest length parse
    obtain ⟨hsplit, -⟩ := parse.large
    rw [Decoder.buffer_feed, hsplit]
    exact ⟨rfl, parse.left.exists_header⟩
  case stuck =>
    intro x e h uses later
    obtain ⟨frames, rest, length, rfl, parse⟩ := Decoder.feed_eq_error_iff.1 h
    obtain ⟨hsplit, hlarge⟩ := parse.large
    have hjammed : ((Decoder.fed earlier).feed x).2.Jammed length := by
      rw [Decoder.Jammed, Decoder.buffer_feed, hsplit]
      exact hlarge
    have hlater : later.Jammed length := hjammed.uses uses
    exact ⟨by rw [hlater.next_eq], fun y => by rw [hlater.feed_eq]⟩

/-- A frame in three chunks, and then an empty frame with an oversized header behind it. -/
theorem feeding_of_cut_header :
    let d := Decoder.fed [⟨#[2, 0]⟩]
    let legal : List ByteArray := [⟨#[0, 0, 7]⟩, ⟨#[8]⟩]
    let oversized : ByteArray := ⟨#[0, 0, 7, 8, 0, 0, 0, 0, 1, 0, 0, 1]⟩
    (∃ parts : List (List ByteArray), (d.feeds legal).1 = parts.map .ok ∧
      d.feed (joined legal) = (.ok parts.flatten, (d.feeds legal).2)) ∧
    d.feed (joined legal) = (.ok [⟨#[7, 8]⟩], ⟨.empty⟩) ∧
    (d.feed oversized).1 = .error (.tooLarge 16777217) ∧
    (d.feed oversized).2.buffer = ⟨#[1, 0, 0, 1]⟩ ∧
    ((d.feed oversized).2.push ⟨#[9]⟩).next.1 = .error (.tooLarge 16777217) := by
  intro d legal oversized
  have hexact := feeding_exact [⟨#[2, 0]⟩]
  have hfront : front ⟨#[2, 0]⟩ = .incomplete := rfl
  have hheld : d.buffer = ⟨#[2, 0]⟩ := by
    have hsplit : split ⟨#[2, 0]⟩ = ([], ⟨#[2, 0]⟩) := split_stop (by simp [hfront])
    calc d.buffer = (split (.empty ++ ⟨#[2, 0]⟩)).2 := Decoder.buffer_feed {} ⟨#[2, 0]⟩
      _ = ⟨#[2, 0]⟩ := by rw [ByteArray.empty_append, hsplit]
  have parse : Parses (d.buffer ++ oversized) [⟨#[7, 8]⟩, .empty] ⟨#[1, 0, 0, 1]⟩
      (.tooLarge 16777217) := by
    rw [hheld]
    exact ⟨by decide, rfl, @Leftover.oversized 16777217 (by decide) (by decide) .empty⟩
  have whole : Parses (d.buffer ++ joined legal) [⟨#[7, 8]⟩] .empty .closed := by
    rw [hheld]
    exact ⟨by decide, rfl, .nothing⟩
  have hfails := (hexact.fails oversized (.tooLarge 16777217)).2 ⟨_, _, _, rfl, parse⟩
  refine ⟨hexact.chunked legal fun frames rest length oversize => ?_,
    hexact.gives _ _ _ _ whole (by simp), hfails, (hexact.removed _ _ _ _ parse).1,
    (hexact.stuck oversized _ hfails [.push ⟨#[9]⟩]).1⟩
  -- The bytes parse in one way only.
  obtain ⟨hsplit, hlarge⟩ := oversize.large
  rw [whole.eq_split.1, Prod.mk.injEq] at hsplit
  rw [← hsplit.2] at hlarge
  cases hlarge

end Overlay.Frame
