import Overlay.NameExchange
import Overlay.Proofs.Conservation
import Overlay.Proofs.Sending

namespace Overlay.NameExchange

/-!
# What an exchange of names comes to

The greeting is sent first, and only if all of it went out and was flushed is one frame read. All
that an exchange takes from the peer's stream is that frame; whatever stands behind it is there for
the calls that follow.

* `Greets` — the greeting gets through;
* `Exact` — the result, both streams and the log, for every stream of the peer and every sink;
* `run_of_unsent`, `run_of_unread`, `run_of_read` — the three ways through an exchange;
* `exchange_exact` — every exchange.
-/

open Overlay.Frame

/-- The greeting gets through: the name has a frame, the sink takes all of it, and flushing works. -/
structure Greets (sink : Sink) (name : ByteArray) : Prop where
  /-- The name is not too large. -/
  fits : Fits name
  /-- The sink takes the whole frame. -/
  takes : sink.Takes (headerSize + name.size)
  /-- Flushing works. -/
  flushes : sink.flushFault = none

/-- What an exchange of names comes to. -/
structure Exact (reader : Reader) (sink : Sink) (localName peer : String) (o : Outcome) : Prop where
  /-- When the greeting does not get through, the failure says why, and nothing was read. -/
  unsent : ¬ Greets sink localName.toUTF8 → ∃ cause,
    sink.Sent localName.toUTF8 (.error cause, o.sink) ∧
      o.result = .error (.greeting peer cause) ∧ o.reader = reader
  /-- Otherwise its frame has been written, and flushed once. -/
  greeted : Greets sink localName.toUTF8 → ∃ frame, encode localName.toUTF8 = .ok frame ∧
    o.sink = { sink with written := sink.written ++ frame, flushes := sink.flushes + 1 }
  /-- When the peer's first frame cannot be read, the failure says why. -/
  unread : Greets sink localName.toUTF8 → ∀ cause, reader.read.1 = .error cause →
    o.result = .error (.introduction peer cause)
  /-- Otherwise the frame, read as text, decides. -/
  decided : Greets sink localName.toUTF8 → ∀ declared, reader.read.1 = .ok declared →
    o.result = .ok (Introduction.ofName (Text.decode declared))
  /-- When nothing was read, later calls give what they would have given at first. -/
  untouched : ¬ Greets sink localName.toUTF8 → ∀ n, o.reader.reads n = reader.reads n
  /-- Otherwise they go on as after one call. -/
  resumed : Greets sink localName.toUTF8 → ∀ n,
    reader.reads (n + 1) = reader.read :: o.reader.reads n
  /-- No byte behind the name is lost, and none is seen twice. -/
  conserved : Greets sink localName.toUTF8 → ∀ n,
    reader.bytes = wireAll (Reader.given reader.read.1 ++ o.reader.frames n) ++
      (o.reader.left n).bytes
  /-- Frames sent right behind the name are read behind it, however they arrive. -/
  pipelined : Greets sink localName.toUTF8 → ∀ pieces declared frames rest e,
    reader = .ofPieces pieces → Parses (joined pieces) (declared :: frames) rest e →
      o.result = .ok (Introduction.ofName (Text.decode declared)) ∧
        ∀ n, o.reader.results n = (List.range n).map (nthResult frames e)
  /-- One line is logged if the peer was turned down, and none otherwise. -/
  logged : o.result = .ok .declined ∧ o.log = [.declined peer] ∨
    o.result ≠ .ok .declined ∧ o.log = []

theorem send_eq_ok_iff_greets {sink : Sink} {name : ByteArray} :
    (sink.send name).1 = .ok () ↔ Greets sink name := by
  rw [Sink.send_eq_ok_iff]
  exact ⟨fun ⟨fits, takes, flushes⟩ => ⟨fits, takes, flushes⟩,
    fun h => ⟨h.fits, h.takes, h.flushes⟩⟩

/-! ### The ways through an exchange -/

variable {reader : Reader} {sink : Sink} {localName peer : String}

/-- An exchange whose greeting is not sent. -/
theorem run_of_unsent (reader : Reader) (peer : String) (h : ¬ Greets sink localName.toUTF8) :
    ∃ cause left, sink.send localName.toUTF8 = (.error cause, left) ∧
      run reader sink localName peer = ⟨.error (.greeting peer cause), reader, left, []⟩ := by
  rw [← send_eq_ok_iff_greets] at h
  cases hsend : sink.send localName.toUTF8 with
  | mk answer left =>
    cases answer with
    | ok u => exact absurd (by rw [hsend]) h
    | error cause => exact ⟨cause, left, rfl, by simp only [run, hsend]⟩

/-- The sink behind a greeting that got through. -/
theorem send_of_greets (h : Greets sink localName.toUTF8) :
    sink.send localName.toUTF8 = (.ok (), (sink.took (wire localName.toUTF8)).flushed) := by
  have hok := send_eq_ok_iff_greets.2 h
  have hsent := sink.send_sent localName.toUTF8
  generalize sink.send localName.toUTF8 = sent at hok hsent
  cases hsent with
  | refused | cut | unflushed => cases hok
  | through legal => rw [(encode_eq_ok_iff.1 legal).2]

/-- An exchange whose greeting is sent and whose peer gives no name. -/
theorem run_of_unread (h : Greets sink localName.toUTF8) {cause : Frame.Error} {later : Reader}
    (hread : reader.read = (.error cause, later)) :
    run reader sink localName peer = ⟨.error (.introduction peer cause), later,
      (sink.took (wire localName.toUTF8)).flushed, []⟩ := by
  simp only [run, send_of_greets h, hread]

/-- An exchange whose greeting is sent and whose peer gives a name. -/
theorem run_of_read (h : Greets sink localName.toUTF8) {declared : ByteArray} {later : Reader}
    (hread : reader.read = (.ok declared, later)) :
    run reader sink localName peer = ⟨.ok (Introduction.ofBytes declared), later,
      (sink.took (wire localName.toUTF8)).flushed,
      report peer (Introduction.ofBytes declared)⟩ := by
  simp only [run, send_of_greets h, hread]

/-- Both streams when the greeting got through. -/
theorem streams_of_greets (h : Greets sink localName.toUTF8) :
    (run reader sink localName peer).reader = reader.read.2 ∧
      (run reader sink localName peer).sink = (sink.took (wire localName.toUTF8)).flushed := by
  cases hread : reader.read with
  | mk answer later =>
    cases answer with
    | error cause => simp [run_of_unread h hread]
    | ok declared => simp [run_of_read h hread]

/-- What is logged about a decision. -/
theorem report_cases (peer : String) (i : Introduction) :
    i = .declined ∧ report peer i = [.declined peer] ∨ i ≠ .declined ∧ report peer i = [] := by
  cases i <;> simp [report]

/-- **Every exchange of names comes to what `Exact` says.** -/
theorem exchange_exact (reader : Reader) (sink : Sink) (localName peer : String) :
    Exact reader sink localName peer (run reader sink localName peer) where
  unsent := by
    intro h
    obtain ⟨cause, left, hsend, hrun⟩ := run_of_unsent reader peer h
    refine ⟨cause, ?_, ?_, ?_⟩
    · rw [hrun, ← hsend]
      exact sink.send_sent localName.toUTF8
    · rw [hrun]
    · rw [hrun]
  greeted := by
    intro h
    exact ⟨_, encode_eq_ok_iff.2 ⟨h.fits, rfl⟩, (streams_of_greets h).2⟩
  unread := by
    intro h cause hread
    rw [run_of_unread h (Prod.ext hread rfl)]
  decided := by
    intro h declared hread
    rw [run_of_read h (Prod.ext hread rfl)]
    rfl
  untouched := by
    intro h n
    obtain ⟨cause, left, -, hrun⟩ := run_of_unsent reader peer h
    rw [hrun]
  resumed := by
    intro h n
    rw [(streams_of_greets h).1]
    rfl
  conserved := by
    intro h n
    rw [(streams_of_greets h).1]
    exact reader.bytes_reads (n + 1)
  pipelined := by
    intro h pieces declared frames rest e hreader hparses
    have hresults (n : Nat) : reader.read.1 :: reader.read.2.results n =
        .ok declared :: (List.range n).map (nthResult frames e) := by
      have hall := Reader.results_of_parses (Reader.pending_ofPieces pieces) hparses (n + 1)
      rw [← hreader, List.range_succ_eq_map, List.map_cons, List.map_map] at hall
      exact hall
    refine ⟨?_, fun n => ?_⟩
    · rw [run_of_read h (Prod.ext (List.cons.inj (hresults 0)).1 rfl)]
      rfl
    · rw [(streams_of_greets h).1]
      exact (List.cons.inj (hresults n)).2
  logged := by
    by_cases h : Greets sink localName.toUTF8
    · cases hread : reader.read with
      | mk answer later =>
        cases answer with
        | error cause => simp [run_of_unread h hread]
        | ok declared =>
          rw [run_of_read h hread]
          simpa using report_cases peer (Introduction.ofBytes declared)
    · obtain ⟨cause, left, -, hrun⟩ := run_of_unsent reader peer h
      simp [hrun]

end Overlay.NameExchange
