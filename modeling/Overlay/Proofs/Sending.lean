import Mathlib.Tactic.Common
import Overlay.Frame.Sink

namespace Overlay.Frame

/-!
# What becomes of one frame

However few bytes a sink takes at a time, a frame that is sent into it ends in one of four ways: it
is refused for its size, it is cut off where the sink takes no more, or it is written whole, and
then the flush succeeds or fails.

* `Sink.Takes`, `Sink.Refuses` — whether so many more bytes are taken, or where and why not;
* `Sink.writeFrom_cases` — writing as the sink sees it, by recursion on the bytes left;
* `Sink.Sent`, `Sink.send_sent` — the four ways, for every sink and every payload;
* `Sink.send_eq_ok_iff` — when a frame gets through.
-/

/-- The fault that the answer of a full sink comes to. -/
def Refusal.fault : Refusal → IoFault
  | takesNothing => .wroteNothing
  | fails fault => fault

namespace Sink

/-- The sink after it has taken some bytes. -/
def took (s : Sink) (bytes : ByteArray) : Sink := { s with written := s.written ++ bytes }

/-- The sink after a flush was attempted. -/
def flushed (s : Sink) : Sink := { s with flushes := s.flushes + 1 }

@[simp] theorem took_empty (s : Sink) : s.took .empty = s := by
  simp [took]

@[simp] theorem took_took (s : Sink) (bytes more : ByteArray) :
    (s.took bytes).took more = s.took (bytes ++ more) := by
  simp [took, ByteArray.append_assoc]

@[simp] theorem size_written_took (s : Sink) (bytes : ByteArray) :
    (s.took bytes).written.size = s.written.size + bytes.size := by
  simp [took, ByteArray.size_append]

/-- The sink takes `n` bytes more: there is room for them, and it is not one that takes nothing. -/
structure Takes (s : Sink) (n : Nat) : Prop where
  /-- Writes that are offered a byte take one. -/
  steady : 0 < n → s.perWrite ≠ some 0
  /-- The capacity allows for the bytes. -/
  room : ∀ limit, s.capacity = some limit → n ≤ limit - s.written.size

/-- The sink takes `n` bytes more and then reports a fault. -/
inductive Refuses (s : Sink) : Nat → IoFault → Prop
  /-- Its capacity is used up by then. -/
  | full {limit : Nat} (capacity : s.capacity = some limit) :
      Refuses s (limit - s.written.size) s.refusal.fault
  /-- It takes nothing at all, however much room there is. -/
  | idle (perWrite : s.perWrite = some 0) : Refuses s 0 .wroteNothing

/-! ### Writing -/

/-- What refuses behind some bytes that are taken refuses behind them from the beginning. -/
theorem Refuses.of_took {s : Sink} {bytes : ByteArray} {n : Nat} {fault : IoFault}
    (h : (s.took bytes).Refuses n fault) (takes : s.Takes bytes.size) (some : 0 < bytes.size) :
    s.Refuses (bytes.size + n) fault := by
  cases h with
  | @full limit capacity =>
    have hroom := takes.room limit capacity
    have hn : bytes.size + (limit - (s.took bytes).written.size) = limit - s.written.size := by
      rw [size_written_took]
      omega
    rw [hn]
    exact .full capacity
  | idle perWrite => exact absurd perWrite (takes.steady some)

/-- What a sink refuses, it does not take. -/
theorem Refuses.not_takes {s : Sink} {n m : Nat} {fault : IoFault} (h : s.Refuses n fault)
    (more : n < m) : ¬ s.Takes m := by
  intro takes
  cases h with
  | full capacity =>
    have hroom := takes.room _ capacity
    omega
  | idle perWrite => exact takes.steady more perWrite

/-- A sink that is not idle refuses in its own way. -/
theorem Refuses.fault_eq {s : Sink} {n : Nat} {fault : IoFault} (h : s.Refuses n fault)
    (steady : s.perWrite ≠ some 0) : fault = s.refusal.fault := by
  cases h with
  | full => rfl
  | idle perWrite => exact absurd perWrite steady

/-- A sink that is neither full nor idle takes at least one byte, and no more than it may. -/
theorem room_bounds {s : Sink} {n : Nat} (offered : 0 < n) (steady : s.perWrite ≠ some 0)
    (space : ∀ limit, s.capacity = some limit → 0 < limit - s.written.size) :
    0 < s.room n ∧ s.room n ≤ n ∧
      ∀ limit, s.capacity = some limit → s.room n ≤ limit - s.written.size := by
  have hfirst : 0 < bounded n s.perWrite ∧ bounded n s.perWrite ≤ n := by
    cases hp : s.perWrite with
    | none => exact ⟨offered, Nat.le_refl n⟩
    | some c =>
      have hc : c ≠ 0 := fun h0 => steady (h0 ▸ hp)
      simp only [bounded]
      omega
  unfold room
  generalize bounded n s.perWrite = first at hfirst
  cases hcapacity : s.capacity with
  | none => exact ⟨hfirst.1, hfirst.2, fun limit h => by cases h⟩
  | some limit =>
    have hspace := space limit hcapacity
    simp only [Option.map_some, bounded, Option.some.injEq, forall_eq']
    omega

/-- **One write** takes nothing, because the sink refuses, or at least one byte. -/
theorem write_cases (s : Sink) {bytes : ByteArray} {start : Nat} (h : start < bytes.size) :
    (∃ fault, s.Refuses 0 fault ∧ (s.write bytes start = (.error fault, s) ∨
      fault = .wroteNothing ∧ s.write bytes start = (.ok 0, s))) ∨
    ∃ n, 0 < n ∧ start + n ≤ bytes.size ∧ s.Takes n ∧
      s.write bytes start = (.ok n, s.took (bytes.extract start (start + n))) := by
  by_cases hfull : s.full = true
  -- The sink is full, and answers in its own way.
  · have hrefuses : s.Refuses 0 s.refusal.fault := by
      unfold full at hfull
      cases hcapacity : s.capacity with
      | none => simp [hcapacity] at hfull
      | some limit =>
        have hroom : limit - s.written.size = 0 := by
          simp [hcapacity] at hfull
          omega
        exact hroom ▸ .full hcapacity
    refine .inl ⟨_, hrefuses, ?_⟩
    simp only [write, hfull, if_true]
    cases s.refusal with
    | takesNothing => exact .inr ⟨rfl, rfl⟩
    | fails fault => exact .inl rfl
  · have hwrite : s.write bytes start = (.ok (s.room (bytes.size - start)),
        s.took (bytes.extract start (start + s.room (bytes.size - start)))) := by
      simp [write, hfull, took]
    have hspace : ∀ limit, s.capacity = some limit → 0 < limit - s.written.size := by
      intro limit hcapacity
      simp [full, hcapacity] at hfull
      omega
    by_cases hperWrite : s.perWrite = some 0
    -- There is room, but no byte is taken.
    · have hroom : s.room (bytes.size - start) = 0 := by
        cases hcapacity : s.capacity <;> simp [room, bounded, hperWrite, hcapacity]
      refine .inl ⟨_, .idle hperWrite, .inr ⟨rfl, ?_⟩⟩
      rw [hwrite, hroom, Nat.add_zero, ByteArray.extract_eq_empty_iff.2 (by omega), took_empty]
    · have hoffered : 0 < bytes.size - start := by omega
      obtain ⟨hpos, hle, hroom⟩ := s.room_bounds hoffered hperWrite hspace
      exact .inr ⟨_, hpos, by omega, ⟨fun _ => hperWrite, hroom⟩, hwrite⟩

/-- **Writing from `start` on.** Everything is taken, or the bytes up to where the sink refuses. -/
theorem writeFrom_cases (s : Sink) {bytes : ByteArray} {start : Nat} (h : start ≤ bytes.size) :
    (s.Takes (bytes.size - start) ∧
      s.writeFrom bytes start = (.ok (), s.took (bytes.extract start bytes.size))) ∨
    ∃ n fault, start + n < bytes.size ∧ s.Refuses n fault ∧
      s.writeFrom bytes start = (.error fault, s.took (bytes.extract start (start + n))) := by
  -- Every write takes at least one byte, so the induction is on the bytes left.
  induction hleft : bytes.size - start using Nat.strongRecOn generalizing s start with
  | ind left ih =>
    have hnone : bytes.extract start (start + 0) = .empty :=
      ByteArray.extract_eq_empty_iff.2 (by omega)
    rw [writeFrom]
    by_cases hlt : start < bytes.size
    case neg =>
      rw [if_neg hlt, ByteArray.extract_eq_empty_iff.2 (by omega), took_empty]
      exact .inl ⟨⟨fun hpos => by omega, fun limit _ => by omega⟩, rfl⟩
    case pos =>
      rw [if_pos hlt]
      rcases s.write_cases hlt with ⟨fault, hrefuses, hwrite | ⟨rfl, hwrite⟩⟩ |
        ⟨n, hpos, hle, htakes, hwrite⟩
      · refine .inr ⟨0, fault, by omega, hrefuses, ?_⟩
        rw [hwrite, hnone, took_empty]
      · refine .inr ⟨0, .wroteNothing, by omega, hrefuses, ?_⟩
        rw [hwrite, hnone, took_empty]
        rfl
      -- Some bytes were taken, and the others follow.
      · have hsize : (bytes.extract start (start + n)).size = n := by
          rw [ByteArray.size_extract]
          omega
        have hrest := ih (bytes.size - (start + n)) (by omega)
          (s.took (bytes.extract start (start + n))) hle rfl
        simp only [hwrite, if_neg (Nat.ne_of_gt hpos)]
        rcases hrest with ⟨hothers, hwritten⟩ | ⟨m, fault, hm, hrefuses, hwritten⟩
        · rw [hwritten, took_took,
            ← ByteArray.extract_eq_extract_append_extract (start + n) (by omega) hle]
          refine .inl ⟨⟨fun _ => htakes.steady hpos, ?_⟩, rfl⟩
          intro limit hcapacity
          have hfirst := htakes.room limit hcapacity
          have hroom := hothers.room limit hcapacity
          rw [size_written_took, hsize] at hroom
          omega
        · refine .inr ⟨n + m, fault, by omega, ?_, ?_⟩
          · have hbehind := hrefuses.of_took (by rwa [hsize]) (by rwa [hsize])
            rwa [hsize] at hbehind
          · rw [hwritten, took_took,
              ← ByteArray.extract_eq_extract_append_extract (start + n) (by omega) (by omega),
              Nat.add_assoc]

/-! ### Sending -/

/-- How sending a payload ends, and how it leaves the sink. -/
inductive Sent (s : Sink) (payload : ByteArray) : Except Error Unit × Sink → Prop
  /-- The payload has no frame. Nothing is written and nothing is flushed. -/
  | refused (large : ¬ Fits payload) : Sent s payload (.error (.tooLarge payload.size), s)
  /-- Behind the first bytes of the frame the sink takes no more. Nothing is flushed. -/
  | cut {taken missing : ByteArray} {fault : IoFault}
      (frame : encode payload = .ok (taken ++ missing)) (short : 0 < missing.size)
      (refuses : s.Refuses taken.size fault) :
      Sent s payload (.error (.io fault), s.took taken)
  /-- The frame is written, and the flush fails. -/
  | unflushed {frame : ByteArray} {fault : IoFault} (legal : encode payload = .ok frame)
      (takes : s.Takes frame.size) (flush : s.flushFault = some fault) :
      Sent s payload (.error (.io fault), (s.took frame).flushed)
  /-- The frame is written and flushed. -/
  | through {frame : ByteArray} (legal : encode payload = .ok frame)
      (takes : s.Takes frame.size) (flush : s.flushFault = none) :
      Sent s payload (.ok (), (s.took frame).flushed)

/-- **Every sending ends in one of four ways.** -/
theorem send_sent (s : Sink) (payload : ByteArray) : Sent s payload (s.send payload) := by
  unfold send
  cases hencode : encode payload with
  | error e =>
    obtain ⟨hlarge, rfl⟩ := encode_eq_error_iff.1 hencode
    exact .refused hlarge
  | ok frame =>
    have hwrite := s.writeFrom_cases (Nat.zero_le frame.size)
    simp only [Nat.sub_zero, Nat.zero_add, ByteArray.extract_zero_size] at hwrite
    rcases hwrite with ⟨htakes, hwritten⟩ | ⟨n, fault, hn, hrefuses, hwritten⟩
    · -- The frame is written, and the flush decides.
      cases hflush : s.flushFault with
      | none =>
        have hthrough := Sent.through hencode htakes hflush
        simpa [writeAll, hwritten, flush, took, flushed, hflush] using hthrough
      | some fault =>
        have hunflushed := Sent.unflushed hencode htakes hflush
        simpa [writeAll, hwritten, flush, took, flushed, hflush] using hunflushed
    · have hbytes : frame = frame.extract 0 n ++ frame.extract n frame.size := by
        rw [← ByteArray.extract_eq_extract_append_extract n (Nat.zero_le _) (by omega),
          ByteArray.extract_zero_size]
      have hsize : (frame.extract 0 n).size = n := by
        rw [ByteArray.size_extract]
        omega
      have hmissing : 0 < (frame.extract n frame.size).size := by
        rw [ByteArray.size_extract]
        omega
      have hcut : Sent s payload (.error (.io fault), s.took (frame.extract 0 n)) := by
        refine .cut ?_ hmissing (by rwa [hsize])
        rw [← hbytes]
        exact hencode
      simpa [writeAll, hwritten] using hcut

/-- **When a frame gets through:** the payload has one, the sink takes all of it, and flushing
works. -/
theorem send_eq_ok_iff {s : Sink} {payload : ByteArray} :
    (s.send payload).1 = .ok () ↔
      Fits payload ∧ s.Takes (headerSize + payload.size) ∧ s.flushFault = none := by
  have hsize {frame : ByteArray} (legal : encode payload = .ok frame) :
      frame.size = headerSize + payload.size := by
    rw [(encode_eq_ok_iff.1 legal).2, size_wire]
  have hsent := s.send_sent payload
  generalize s.send payload = sent at hsent
  cases hsent with
  | refused large => simp [large]
  | @cut taken missing fault frame short refuses =>
    have hmore : taken.size < headerSize + payload.size := by
      rw [← hsize frame, ByteArray.size_append]
      omega
    have hnot := refuses.not_takes hmore
    simp [hnot]
  | unflushed legal takes flush => simp [flush]
  | through legal takes flush =>
    rw [hsize legal] at takes
    simp [(encode_eq_ok_iff.1 legal).1, takes, flush]

end Sink

end Overlay.Frame
