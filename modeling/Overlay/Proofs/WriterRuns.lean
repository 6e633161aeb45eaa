import Mathlib.Data.List.Induction
import Overlay.Writer

namespace Overlay

/-!
# A writer and its handle

A handle says what became of a payload before it is written, so what it says and what is written
have to be brought together. Payloads are sent through the handle, the writer is aborted, the handle
is given up, in any order, and the writer is idle again after each of these.

* `Writer.Act`, `Writer.act` — one thing that is done, and what it comes to;
* `Writer.record` — any number of them;
* `Writer.Recorded` — the invariant of every act: the handle's answers, the state of the outbox,
  what was written and what was logged are determined by what was done;
* `Writer.handle_agrees` — what that means to whoever holds the handle.
-/

/-- A log entry that reports a failed write. -/
def Log.Entry.isWriteFailure : Log.Entry → Bool
  | writeFailed .. => true
  | _ => false

namespace Writer

/-! ### Acts -/

/-- One thing that is done with a writer. -/
inductive Act where
  /-- A payload is sent through the handle, if it is still there. -/
  | send (payload : ByteArray)
  /-- The writer is aborted. -/
  | abort
  /-- The handle is given up. -/
  | dropHandle
deriving DecidableEq

/-- What an act comes to once the writer is idle again. -/
structure Outcome where
  /-- What the act returned; `none` if it needed the handle and that was gone. -/
  result : Option Bool
  /-- The writer. -/
  writer : Writer
  /-- What was logged. -/
  log : List Log.Entry

/-- Let the writer work after an act. -/
def idle (w : Writer) (result : Option Bool) (log : List Log.Entry) : Outcome :=
  ⟨result, w.settle.1, log ++ w.settle.2⟩

/-- Do one thing, and let the writer work. -/
def act (w : Writer) : Act → Outcome
  | .send payload =>
    if w.hasHandle then
      (w.send payload).2.1.idle (some (w.send payload).1) (w.send payload).2.2
    else
      w.idle none []
  | .abort => w.abort.2.idle (some w.abort.1) []
  | .dropHandle => w.dropHandle.2.idle (some w.dropHandle.1) []

/-- The payload that was accepted, if the act was to send one. -/
def Outcome.accepted (o : Outcome) : Act → List ByteArray
  | .send payload => if o.result = some true then [payload] else []
  | _ => []

/-! ### One act on an idle writer -/

variable {w : Writer} {payload : ByteArray}

/-- Nothing is left to do: nothing waits, and an outbox that is open has a handle. -/
structure IsIdle (w : Writer) : Prop where
  /-- Nothing waits. -/
  empty : w.outbox.queued = []
  /-- Nobody could send through an outbox without a handle. -/
  handled : w.outbox.isOpen = true → w.hasHandle = true

/-- A writer whose outbox is closed has ended. -/
theorem settle_of_closed (h : w.outbox.isOpen = false) : w.settle = (w, []) := by
  simp [settle, h]

/-- A writer has nothing to do while nothing waits. -/
theorem settle_of_isIdle (h : w.IsIdle) : w.settle = (w, []) := by
  cases hopen : w.outbox.isOpen with
  | false => exact settle_of_closed hopen
  | true =>
    obtain ⟨name, fault, ⟨queued, isOpen⟩, hasHandle, aborted, delivered⟩ := w
    obtain ⟨rfl, hhandle⟩ := h
    obtain rfl : hasHandle = true := hhandle hopen
    cases hopen
    cases fault <;> rfl

/-- Without the handle nothing can be sent. -/
theorem act_send_of_dropped (hw : w.IsIdle) (h : w.hasHandle = false) :
    w.act (.send payload) = ⟨none, w, []⟩ := by
  simp [act, h, idle, settle_of_isIdle hw]

/-- **A payload that is too large** is refused, and nothing else happens. -/
theorem act_send_of_oversized (hw : w.IsIdle) (h : w.hasHandle = true)
    (hlarge : ¬ Frame.Fits payload) :
    w.act (.send payload) = ⟨some false, w, [.refused w.name (.tooLarge payload.size)]⟩ := by
  have hencode := Frame.encode_eq_error_iff.2 ⟨hlarge, rfl⟩
  simp [act, h, send, hencode, idle, settle_of_isIdle hw]

/-- Nothing is accepted once the outbox is closed. -/
theorem act_send_of_closed (hw : w.IsIdle) (h : w.hasHandle = true)
    (hfits : Frame.Fits payload) (hclosed : w.outbox.isOpen = false) :
    w.act (.send payload) = ⟨some false, w, []⟩ := by
  have hencode := Frame.encode_eq_ok_iff.2 ⟨hfits, rfl⟩
  have hsend : w.send payload = (false, w, []) := by
    unfold send
    rw [hencode]
    simp only [Mailbox.post_of_closed hclosed]
  simp [act, h, hsend, idle, settle_of_isIdle hw]

/-- **A payload that is accepted** is written at once, if writing works. -/
theorem act_send_of_works (hw : w.IsIdle) (hopen : w.outbox.isOpen = true)
    (hfits : Frame.Fits payload) (hfault : w.fault = none) :
    w.act (.send payload) =
      ⟨some true, { w with delivered := w.delivered ++ Frame.wire payload }, []⟩ := by
  have hencode := Frame.encode_eq_ok_iff.2 ⟨hfits, rfl⟩
  obtain ⟨name, fault, ⟨queued, isOpen⟩, hasHandle, aborted, delivered⟩ := w
  obtain ⟨rfl, hhandle⟩ := hw
  obtain rfl : hasHandle = true := hhandle hopen
  cases hopen
  cases hfault
  simp [act, send, hencode, Mailbox.post, idle, settle, deliver, Mailbox.drain]

/-- **A payload that is accepted** ends the writer, if writing fails. -/
theorem act_send_of_fails (hw : w.IsIdle) (hopen : w.outbox.isOpen = true)
    (hfits : Frame.Fits payload) {fault : IoFault} (hfault : w.fault = some fault) :
    w.act (.send payload) =
      ⟨some true, { w with outbox := w.outbox.close }, [.writeFailed w.name fault]⟩ := by
  have hencode := Frame.encode_eq_ok_iff.2 ⟨hfits, rfl⟩
  have hhandle := hw.handled hopen
  simp [act, hhandle, send, hencode, Mailbox.post_of_open hopen, hw.empty, idle, settle, deliver,
    hfault, Mailbox.close]

/-- A writer that is aborted has ended. -/
theorem act_abort (w : Writer) :
    w.act .abort = ⟨some (!w.aborted), w.abort.2, []⟩ := by
  have hclosed : w.abort.2.outbox.isOpen = false := rfl
  simp only [act, idle, settle_of_closed hclosed, List.append_nil]
  rfl

/-- A writer ends when its handle is given up. -/
theorem act_dropHandle (hw : w.IsIdle) :
    w.act .dropHandle =
      ⟨some w.hasHandle, { w with hasHandle := false, outbox := w.outbox.close }, []⟩ := by
  obtain ⟨name, fault, ⟨queued, isOpen⟩, hasHandle, aborted, delivered⟩ := w
  obtain ⟨rfl, -⟩ := hw
  cases isOpen <;> cases fault <;>
    simp [act, dropHandle, idle, settle, deliver, Mailbox.close]

/-! ### Any number of acts -/

/-- A writer, and what has been done with it. -/
structure Record where
  /-- The writer. -/
  writer : Writer
  /-- The payloads that were accepted. -/
  accepted : List ByteArray := []
  /-- What was logged. -/
  log : List Log.Entry := []

/-- Do one thing more. -/
def Record.act (r : Record) (a : Act) : Record where
  writer := (r.writer.act a).writer
  accepted := r.accepted ++ (r.writer.act a).accepted a
  log := r.log ++ (r.writer.act a).log

/-- A writer that has just been set up. -/
def fresh (name : String) (fault : Option IoFault) : Writer := { name, fault }

/-- What has been done with a writer since it was set up. -/
def record (name : String) (fault : Option IoFault) (acts : List Act) : Record :=
  acts.foldl Record.act ⟨fresh name fault, [], []⟩

/-- The failed writes that were logged. -/
def Record.writeFailures (r : Record) : List Log.Entry := r.log.filter (·.isWriteFailure)

theorem record_append (name : String) (fault : Option IoFault) (acts : List Act) (a : Act) :
    record name fault (acts ++ [a]) = (record name fault acts).act a := by
  simp [record]

/-- A payload that has a frame was sent before the writer was aborted and the handle given up. -/
def SentInTime (acts : List Act) : Prop :=
  ∃ before payload later, acts = before ++ .send payload :: later ∧ Frame.Fits payload ∧
    .abort ∉ before ∧ .dropHandle ∉ before

/-- The writer has not been stopped, and no write can have failed. -/
def StillWrites (fault : Option IoFault) (acts : List Act) : Prop :=
  .abort ∉ acts ∧ .dropHandle ∉ acts ∧ (fault ≠ none → ¬ SentInTime acts)

/-- What a record says, by what was done. -/
structure Recorded (name : String) (fault : Option IoFault) (acts : List Act) (r : Record) :
    Prop where
  /-- The writer is idle. -/
  idle : r.writer.IsIdle
  /-- Its name is the one it was given. -/
  named : r.writer.name = name
  /-- Writing fails, or does not, as it did in the beginning. -/
  failing : r.writer.fault = fault
  /-- The handle is there until it is given up. -/
  handle : r.writer.hasHandle = true ↔ .dropHandle ∉ acts
  /-- The outbox is open until the writer is stopped, or a write has failed. -/
  isOpen : r.writer.outbox.isOpen = true ↔ StillWrites fault acts
  /-- What was accepted has a frame. -/
  fits : ∀ payload ∈ r.accepted, Frame.Fits payload
  /-- What was accepted has been written, if writing works. -/
  written : fault = none → r.writer.delivered = Frame.wireAll r.accepted
  /-- Otherwise nothing has been written. -/
  unwritten : fault ≠ none → r.writer.delivered = .empty
  /-- No failed write is logged if writing works. -/
  silent : fault = none → r.writeFailures = []
  /-- If it fails, one failed write is logged, if anything was sent in time. -/
  failure : ∀ f, fault = some f →
    (SentInTime acts ∧ r.writeFailures = [.writeFailed name f]) ∨
      (¬ SentInTime acts ∧ r.writeFailures = [])

/-- Only a payload that is sent now can be the first that was sent in time. -/
theorem sentInTime_append {acts : List Act} {a : Act} :
    SentInTime (acts ++ [a]) ↔ SentInTime acts ∨
      ∃ payload, a = .send payload ∧ Frame.Fits payload ∧ .abort ∉ acts ∧ .dropHandle ∉ acts := by
  constructor
  · rintro ⟨before, payload, later, heq, hfits, habort, hdrop⟩
    rcases later.eq_nil_or_concat with rfl | ⟨later, last, rfl⟩
    · obtain ⟨rfl, hlast⟩ := List.append_inj' heq rfl
      exact .inr ⟨payload, (List.cons.inj hlast).1, hfits, habort, hdrop⟩
    · rw [List.concat_eq_append, ← List.cons_append, ← List.append_assoc] at heq
      obtain ⟨rfl, -⟩ := List.append_inj' heq rfl
      exact .inl ⟨before, payload, later, rfl, hfits, habort, hdrop⟩
  · rintro (⟨before, payload, later, rfl, hfits, habort, hdrop⟩ | ⟨payload, rfl, hfits, hothers⟩)
    · exact ⟨before, payload, later ++ [a], by simp, hfits, habort, hdrop⟩
    · exact ⟨acts, payload, [], rfl, hfits, hothers⟩

/-- A payload that has a frame was sent in time if the writer has not been stopped since. -/
theorem sentInTime_of_mem {acts : List Act} (habort : .abort ∉ acts) (hdrop : .dropHandle ∉ acts)
    {payload : ByteArray} (hmem : .send payload ∈ acts) (hfits : Frame.Fits payload) :
    SentInTime acts := by
  obtain ⟨before, later, rfl⟩ := List.append_of_mem hmem
  exact ⟨before, payload, later, rfl, hfits, fun h => habort (List.mem_append_left _ h),
    fun h => hdrop (List.mem_append_left _ h)⟩

namespace Recorded

variable {name : String} {fault : Option IoFault} {acts : List Act} {r : Record} {a : Act}

/-- Nobody has anything more to write after an act that neither is sent in time nor stops
anything. -/
theorem unmoved (h : Recorded name fault acts r) {result : Option Bool} {log : List Log.Entry}
    (hact : r.writer.act a = ⟨result, r.writer, log⟩) (haccepted : result ≠ some true)
    (hlog : log.filter (·.isWriteFailure) = [])
    (hsent : SentInTime (acts ++ [a]) ↔ SentInTime acts)
    (hdrop : .dropHandle ∈ acts ++ [a] ↔ .dropHandle ∈ acts)
    (hwrites : StillWrites fault (acts ++ [a]) ↔ StillWrites fault acts) :
    Recorded name fault (acts ++ [a]) (r.act a) := by
  have hwriter : (r.act a).writer = r.writer := by simp only [Record.act, hact]
  have hpayloads : (r.act a).accepted = r.accepted := by
    have hnone : (r.writer.act a).accepted a = [] := by
      cases a <;> simp [Outcome.accepted, hact, haccepted]
    rw [Record.act, hnone, List.append_nil]
  have hfailures : (r.act a).writeFailures = r.writeFailures := by
    simp only [Record.writeFailures, Record.act, hact, List.filter_append, hlog, List.append_nil]
  constructor
  case idle => rw [hwriter]; exact h.idle
  case named => rw [hwriter]; exact h.named
  case failing => rw [hwriter]; exact h.failing
  case handle => rw [hwriter, hdrop]; exact h.handle
  case isOpen => rw [hwriter, hwrites]; exact h.isOpen
  case fits => rw [hpayloads]; exact h.fits
  case written => rw [hwriter, hpayloads]; exact h.written
  case unwritten => rw [hwriter]; exact h.unwritten
  case silent => rw [hfailures]; exact h.silent
  case failure => rw [hfailures, hsent]; exact h.failure

/-- A payload is sent that is not accepted. -/
theorem refused (h : Recorded name fault acts r) {payload : ByteArray} {result : Option Bool}
    {log : List Log.Entry}
    (hact : r.writer.act (.send payload) = ⟨result, r.writer, log⟩) (haccepted : result ≠ some true)
    (hlog : log.filter (·.isWriteFailure) = [])
    (hlate : Frame.Fits payload → .abort ∉ acts → .dropHandle ∉ acts →
      fault ≠ none ∧ SentInTime acts) :
    Recorded name fault (acts ++ [.send payload]) (r.act (.send payload)) := by
  have hsent : SentInTime (acts ++ [.send payload]) ↔ SentInTime acts := by
    rw [sentInTime_append, or_iff_left_iff_imp]
    rintro ⟨_, heq, hfits, habort, hdrop⟩
    cases heq
    exact (hlate hfits habort hdrop).2
  refine h.unmoved hact haccepted hlog hsent (by simp) ?_
  unfold StillWrites
  rw [hsent]
  simp

/-- A payload that is accepted has a frame, as those before. -/
theorem fits_append (h : Recorded name fault acts r) {payload : ByteArray}
    (hfits : Frame.Fits payload) : ∀ p ∈ r.accepted ++ [payload], Frame.Fits p :=
  List.forall_mem_append.2 ⟨h.fits, by simpa using hfits⟩

/-- A payload is accepted, and written. -/
theorem writes (h : Recorded name none acts r) (hopen : r.writer.outbox.isOpen = true)
    {payload : ByteArray} (hfits : Frame.Fits payload) :
    Recorded name none (acts ++ [.send payload]) (r.act (.send payload)) := by
  have hact := act_send_of_works h.idle hopen hfits h.failing
  have hpayloads : (r.act (.send payload)).accepted = r.accepted ++ [payload] := by
    simp only [Record.act, hact, Outcome.accepted, if_true]
  have hwriter : (r.act (.send payload)).writer =
      { r.writer with delivered := r.writer.delivered ++ Frame.wire payload } := by
    simp only [Record.act, hact]
  constructor
  case idle => rw [hwriter]; exact ⟨h.idle.empty, h.idle.handled⟩
  case named => rw [hwriter]; exact h.named
  case failing => rw [hwriter]; exact h.failing
  case handle =>
    rw [hwriter]
    exact h.handle.trans (by simp)
  case isOpen =>
    rw [hwriter]
    exact h.isOpen.trans (by simp [StillWrites])
  case fits => rw [hpayloads]; exact h.fits_append hfits
  case written =>
    intro _
    rw [hwriter, hpayloads]
    simp only [h.written rfl, Frame.wireAll_append, Frame.wireAll, ByteArray.append_empty]
  case unwritten => exact fun hne => absurd rfl hne
  case silent =>
    intro _
    simp only [Record.writeFailures, Record.act, hact, List.append_nil]
    exact h.silent rfl
  case failure =>
    intro f hf
    cases hf

/-- A payload is accepted, and the writer ends with it. -/
theorem fails {f : IoFault} (h : Recorded name (some f) acts r)
    (hopen : r.writer.outbox.isOpen = true) {payload : ByteArray} (hfits : Frame.Fits payload) :
    Recorded name (some f) (acts ++ [.send payload]) (r.act (.send payload)) := by
  have hact := act_send_of_fails h.idle hopen hfits h.failing
  have hpayloads : (r.act (.send payload)).accepted = r.accepted ++ [payload] := by
    simp only [Record.act, hact, Outcome.accepted, if_true]
  have hwriter : (r.act (.send payload)).writer =
      { r.writer with outbox := r.writer.outbox.close } := by
    simp only [Record.act, hact]
  obtain ⟨habort, hdrop, hfirst⟩ := h.isOpen.1 hopen
  have hnow : SentInTime (acts ++ [.send payload]) :=
    sentInTime_append.2 (.inr ⟨payload, rfl, hfits, habort, hdrop⟩)
  constructor
  case idle => rw [hwriter]; exact ⟨rfl, fun hclosed => Bool.noConfusion hclosed⟩
  case named => rw [hwriter]; exact h.named
  case failing => rw [hwriter]; exact h.failing
  case handle =>
    rw [hwriter]
    exact h.handle.trans (by simp)
  case isOpen =>
    rw [hwriter]
    constructor
    · exact fun hclosed => Bool.noConfusion hclosed
    · exact fun hstill => absurd hnow (hstill.2.2 (by simp))
  case fits => rw [hpayloads]; exact h.fits_append hfits
  case written => exact fun hnone => nomatch hnone
  case unwritten =>
    intro hne
    rw [hwriter]
    exact h.unwritten hne
  case silent => exact fun hnone => nomatch hnone
  case failure =>
    rintro _ ⟨⟩
    have hbefore : r.writeFailures = [] := by
      rcases h.failure f rfl with ⟨hsent, -⟩ | ⟨-, hnone⟩
      · exact absurd hsent (hfirst (by simp))
      · exact hnone
    refine .inl ⟨hnow, ?_⟩
    unfold Record.writeFailures at hbefore
    simp only [Record.writeFailures, Record.act, hact, List.filter_append, hbefore, h.named]
    rfl

theorem send (h : Recorded name fault acts r) (payload : ByteArray) :
    Recorded name fault (acts ++ [.send payload]) (r.act (.send payload)) := by
  by_cases hhandle : r.writer.hasHandle = true
  case neg =>
    refine h.refused (act_send_of_dropped h.idle (Bool.eq_false_iff.2 hhandle)) (by simp) rfl ?_
    exact fun _ _ hdrop => absurd (h.handle.2 hdrop) hhandle
  by_cases hfits : Frame.Fits payload
  case neg =>
    exact h.refused (act_send_of_oversized h.idle hhandle hfits) (by simp) rfl
      fun hfits' => absurd hfits' hfits
  by_cases hopen : r.writer.outbox.isOpen = true
  case neg =>
    refine h.refused (act_send_of_closed h.idle hhandle hfits (Bool.eq_false_iff.2 hopen))
      (by simp) rfl fun _ habort hdrop => ?_
    by_contra hlate
    exact hopen (h.isOpen.2 ⟨habort, hdrop, fun hne hsent => hlate ⟨hne, hsent⟩⟩)
  cases fault with
  | none => exact h.writes hopen hfits
  | some f => exact h.fails hopen hfits

/-- The writer is stopped. -/
theorem stop (h : Recorded name fault acts r) {result : Option Bool} {w : Writer}
    (hstops : a = .abort ∨ a = .dropHandle) (hact : r.writer.act a = ⟨result, w, []⟩)
    (houtbox : w.outbox = ⟨[], false⟩) (hname : w.name = r.writer.name)
    (hfault : w.fault = r.writer.fault) (hdelivered : w.delivered = r.writer.delivered)
    (hhandle : w.hasHandle = true ↔ .dropHandle ∉ acts ++ [a]) :
    Recorded name fault (acts ++ [a]) (r.act a) := by
  have hwriter : (r.act a).writer = w := by simp only [Record.act, hact]
  have hpayloads : (r.act a).accepted = r.accepted := by
    rcases hstops with rfl | rfl <;> exact List.append_nil _
  have hfailures : (r.act a).writeFailures = r.writeFailures := by
    simp only [Record.writeFailures, Record.act, hact, List.append_nil]
  have hsent : SentInTime (acts ++ [a]) ↔ SentInTime acts := by
    rw [sentInTime_append, or_iff_left_iff_imp]
    rintro ⟨payload, rfl, -⟩
    rcases hstops with hsend | hsend <;> cases hsend
  constructor
  case idle =>
    rw [hwriter]
    exact ⟨by rw [houtbox], by rw [houtbox]; exact fun h => Bool.noConfusion h⟩
  case named => rw [hwriter, hname]; exact h.named
  case failing => rw [hwriter, hfault]; exact h.failing
  case handle => rw [hwriter]; exact hhandle
  case isOpen =>
    rw [hwriter, houtbox]
    constructor
    · exact fun hclosed => Bool.noConfusion hclosed
    · rintro ⟨habort, hdrop, -⟩
      rcases hstops with rfl | rfl
      · exact absurd (List.mem_append_right _ List.mem_cons_self) habort
      · exact absurd (List.mem_append_right _ List.mem_cons_self) hdrop
  case fits => rw [hpayloads]; exact h.fits
  case written => rw [hwriter, hdelivered, hpayloads]; exact h.written
  case unwritten => rw [hwriter, hdelivered]; exact h.unwritten
  case silent => rw [hfailures]; exact h.silent
  case failure => rw [hfailures, hsent]; exact h.failure

/-- **Every act keeps the record.** -/
theorem act (h : Recorded name fault acts r) (a : Act) :
    Recorded name fault (acts ++ [a]) (r.act a) := by
  cases a with
  | send payload => exact h.send payload
  | abort =>
    refine h.stop (.inl rfl) (act_abort r.writer) rfl rfl rfl rfl ?_
    show r.writer.hasHandle = true ↔ _
    rw [h.handle]
    simp
  | dropHandle =>
    refine h.stop (.inr rfl) (act_dropHandle h.idle) rfl rfl rfl rfl ?_
    simp

end Recorded

/-- **A record is determined by what was done.** -/
theorem recorded (name : String) (fault : Option IoFault) (acts : List Act) :
    Recorded name fault acts (record name fault acts) := by
  induction acts using List.reverseRecOn with
  | nil =>
    have hnothing : ¬ SentInTime [] := by
      rintro ⟨before, payload, later, heq, -⟩
      cases before <;> cases heq
    constructor
    case idle => exact ⟨rfl, fun _ => rfl⟩
    case named => rfl
    case failing => rfl
    case handle => exact iff_of_true rfl List.not_mem_nil
    case isOpen =>
      exact iff_of_true rfl ⟨List.not_mem_nil, List.not_mem_nil, fun _ => hnothing⟩
    case fits => exact fun _ h => absurd h List.not_mem_nil
    case written => exact fun _ => rfl
    case unwritten => exact fun _ => rfl
    case silent => exact fun _ => rfl
    case failure => exact fun _ _ => .inr ⟨hnothing, rfl⟩
  | append_singleton acts a ih =>
    rw [record_append]
    exact ih.act a

/-! ### What the handle says -/

/-- What holds after some acts for whoever holds the handle. -/
structure HandleAgrees (name : String) (fault : Option IoFault) (acts : List Act) (r : Record) :
    Prop where
  /-- If writing works, a payload is accepted exactly if it has a frame and the writer has not been
  aborted. -/
  accepts : fault = none → .dropHandle ∉ acts → ∀ payload,
    (r.writer.act (.send payload)).result = some (decide (Frame.Fits payload ∧ .abort ∉ acts))
  /-- The outbox is closed exactly if the writer was aborted. -/
  closed : fault = none → .dropHandle ∉ acts → (r.writer.isClosed = true ↔ .abort ∈ acts)
  /-- The frames of the payloads that were accepted have been written, in that order. -/
  delivered : fault = none → r.writer.delivered = Frame.wireAll r.accepted
  /-- All of them have frames. -/
  frames : ∀ payload ∈ r.accepted, Frame.encode payload = .ok (Frame.wire payload)
  /-- No failed write is logged. -/
  silent : fault = none → r.writeFailures = []
  /-- If writing fails, only the first payload is accepted that has a frame, unless the writer has
  been aborted before. -/
  acceptsFirst : fault ≠ none → .dropHandle ∉ acts → ∀ payload, ∃ accepted,
    (r.writer.act (.send payload)).result = some accepted ∧
      (accepted = true ↔ Frame.Fits payload ∧ .abort ∉ acts ∧
        ∀ earlier, .send earlier ∈ acts → ¬ Frame.Fits earlier)
  /-- The outbox is closed from that payload on, or since the writer was aborted. -/
  closedByFirst : fault ≠ none → .dropHandle ∉ acts →
    (r.writer.isClosed = true ↔
      .abort ∈ acts ∨ ∃ earlier, .send earlier ∈ acts ∧ Frame.Fits earlier)
  /-- Nothing is written. -/
  undelivered : fault ≠ none → r.writer.delivered = .empty
  /-- The payload that is accepted causes a failed write to be logged. -/
  causesFailure : ∀ f, fault = some f → ∀ payload,
    (r.writer.act (.send payload)).result = some true →
      (r.writer.act (.send payload)).log = [.writeFailed name f]
  /-- It is the only one; if the writer was stopped before such a payload, there is none. -/
  failure : ∀ f, fault = some f →
    (SentInTime acts ∧ r.writeFailures = [.writeFailed name f]) ∨
      (¬ SentInTime acts ∧ r.writeFailures = [])
  /-- A closed outbox stays closed. -/
  staysClosed : r.writer.isClosed = true → ∀ a, (r.writer.act a).writer.isClosed = true
  /-- A payload that is too large is refused, and changes nothing. -/
  oversized : .dropHandle ∉ acts → ∀ payload, ¬ Frame.Fits payload →
    (r.writer.act (.send payload)).result = some false ∧
      (r.writer.act (.send payload)).writer = r.writer

/-- A payload is accepted exactly if it has a frame and the outbox is open. -/
theorem result_send (hw : w.IsIdle) (hhandle : w.hasHandle = true) (payload : ByteArray) :
    (w.act (.send payload)).result =
      some (decide (Frame.Fits payload ∧ w.outbox.isOpen = true)) := by
  by_cases hfits : Frame.Fits payload
  case neg =>
    rw [act_send_of_oversized hw hhandle hfits]
    simp [hfits]
  cases hopen : w.outbox.isOpen with
  | false =>
    rw [act_send_of_closed hw hhandle hfits hopen]
    simp
  | true =>
    cases hfault : w.fault with
    | none =>
      rw [act_send_of_works hw hopen hfits hfault]
      simp [hfits]
    | some fault =>
      rw [act_send_of_fails hw hopen hfits hfault]
      simp [hfits]

/-- **A closed outbox stays closed.** -/
theorem isClosed_act (hw : w.IsIdle) (h : w.isClosed = true) (a : Act) :
    (w.act a).writer.isClosed = true := by
  have hclosed : w.outbox.isOpen = false := by simpa [isClosed] using h
  cases a with
  | abort => rw [act_abort]; rfl
  | dropHandle => rw [act_dropHandle hw]; rfl
  | send payload =>
    cases hhandle : w.hasHandle with
    | false => rw [act_send_of_dropped hw hhandle]; exact h
    | true =>
      by_cases hfits : Frame.Fits payload
      · rw [act_send_of_closed hw hhandle hfits hclosed]; exact h
      · rw [act_send_of_oversized hw hhandle hfits]; exact h

/-- **Writer and handle agree**, whatever was sent, and whenever the writer was aborted or the
handle given up. -/
theorem handle_agrees (name : String) (fault : Option IoFault) (acts : List Act) :
    HandleAgrees name fault acts (record name fault acts) := by
  have h := recorded name fault acts
  generalize record name fault acts = r at h
  have hopen : .dropHandle ∉ acts → (r.writer.outbox.isOpen = true ↔
      .abort ∉ acts ∧ (fault ≠ none → ¬ SentInTime acts)) := fun hdrop => by
    rw [h.isOpen, StillWrites]
    simp [hdrop]
  have hworks : fault = none → .dropHandle ∉ acts →
      (r.writer.outbox.isOpen = true ↔ .abort ∉ acts) := fun hfault hdrop => by
    rw [hopen hdrop]
    simp [hfault]
  -- As long as nothing was stopped, any payload with a frame was sent in time.
  have hintime : .abort ∉ acts → .dropHandle ∉ acts →
      (SentInTime acts ↔ ∃ earlier, .send earlier ∈ acts ∧ Frame.Fits earlier) :=
    fun habort hdrop => by
      constructor
      · rintro ⟨before, payload, later, rfl, hfits, -⟩
        exact ⟨payload, by simp, hfits⟩
      · rintro ⟨earlier, hmem, hfits⟩
        exact sentInTime_of_mem habort hdrop hmem hfits
  constructor
  case accepts =>
    intro hfault hdrop payload
    rw [result_send h.idle (h.handle.2 hdrop), Option.some.injEq, decide_eq_decide,
      hworks hfault hdrop]
  case closed =>
    intro hfault hdrop
    rw [isClosed, Bool.not_eq_true', ← Bool.not_eq_true, hworks hfault hdrop, not_not]
  case delivered => exact h.written
  case frames => exact fun payload hmem => Frame.encode_eq_ok_iff.2 ⟨h.fits payload hmem, rfl⟩
  case silent => exact h.silent
  case acceptsFirst =>
    intro hfault hdrop payload
    refine ⟨_, result_send h.idle (h.handle.2 hdrop) payload, ?_⟩
    rw [decide_eq_true_eq, hopen hdrop]
    refine and_congr_right fun _ => and_congr_right fun habort => ?_
    simp [hfault, hintime habort hdrop]
  case closedByFirst =>
    intro hfault hdrop
    rw [isClosed, Bool.not_eq_true', ← Bool.not_eq_true, hopen hdrop]
    by_cases habort : .abort ∈ acts
    · simp [habort]
    · simp [habort, hfault, hintime habort hdrop]
  case undelivered => exact h.unwritten
  case causesFailure =>
    intro f hfault payload haccepted
    have hfailing := h.failing.trans hfault
    cases hhandle : r.writer.hasHandle with
    | false =>
      rw [act_send_of_dropped h.idle hhandle] at haccepted
      cases haccepted
    | true =>
      rw [result_send h.idle hhandle, Option.some.injEq, decide_eq_true_eq] at haccepted
      rw [act_send_of_fails h.idle haccepted.2 haccepted.1 hfailing, h.named]
  case failure => exact h.failure
  case staysClosed => exact isClosed_act h.idle
  case oversized =>
    intro hdrop payload hlarge
    rw [act_send_of_oversized h.idle (h.handle.2 hdrop) hlarge]
    exact ⟨rfl, rfl⟩

end Writer

end Overlay
