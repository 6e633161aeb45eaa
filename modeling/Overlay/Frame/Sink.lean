import Overlay.Frame

namespace Overlay.Frame

/-!
# Sending frames into an unreliable stream

A `Sink` is a stream that takes only so many bytes, perhaps a few at a time, and may fail when
it is full or when it is flushed.

* `Sink.write` — one write, which may take only part of what it is offered;
* `Sink.writeAll` — writes until everything is taken or one of them fails;
* `Sink.send` — one frame, then one flush. A payload that is too large touches nothing.
-/

/-- How a full sink answers a write. -/
inductive Refusal where
  /-- It takes none of the bytes and reports no fault. -/
  | takesNothing
  /-- The write fails. -/
  | fails (fault : IoFault)
deriving DecidableEq, Inhabited, Repr

/-- A stream open for writing. -/
structure Sink where
  /-- Most bytes it takes in total; `none` for no limit. -/
  capacity : Option Nat := none
  /-- Most bytes it takes in one write; `none` for no limit. -/
  perWrite : Option Nat := none
  /-- How it answers once `capacity` is used up. -/
  refusal : Refusal := .takesNothing
  /-- The fault of every flush; `none` when flushing works. -/
  flushFault : Option IoFault := none
  /-- Everything taken so far. -/
  written : ByteArray := .empty
  /-- How often a flush was attempted. -/
  flushes : Nat := 0
deriving Inhabited

namespace Sink

/-- The smaller of a number and an optional bound. -/
def bounded (n : Nat) : Option Nat → Nat
  | none => n
  | some limit => min n limit

/-- How many of `n` bytes the next write would take. -/
def room (s : Sink) (n : Nat) : Nat :=
  bounded (bounded n s.perWrite) (s.capacity.map (· - s.written.size))

/-- Whether the capacity is used up. -/
def full (s : Sink) : Bool :=
  match s.capacity with
  | none => false
  | some limit => limit ≤ s.written.size

/-- Offer the bytes from `start` on in one write: how many were taken, or why it failed. -/
def write (s : Sink) (bytes : ByteArray) (start : Nat) : Except IoFault Nat × Sink :=
  if s.full then
    match s.refusal with
    | .takesNothing => (.ok 0, s)
    | .fails fault => (.error fault, s)
  else
    let n := s.room (bytes.size - start)
    (.ok n, { s with written := s.written ++ bytes.extract start (start + n) })

/-- Write the bytes from `start` on, in as many writes as it takes. A write that takes nothing
is a fault. -/
def writeFrom (s : Sink) (bytes : ByteArray) (start : Nat) : Except IoFault Unit × Sink :=
  if start < bytes.size then
    match s.write bytes start with
    | (.error fault, s') => (.error fault, s')
    | (.ok n, s') =>
      if n = 0 then (.error .wroteNothing, s') else writeFrom s' bytes (start + n)
  else
    (.ok (), s)
termination_by bytes.size - start

/-- Write all bytes. -/
def writeAll (s : Sink) (bytes : ByteArray) : Except IoFault Unit × Sink := s.writeFrom bytes 0

/-- Attempt a flush. -/
def flush (s : Sink) : Except IoFault Unit × Sink :=
  let s := { s with flushes := s.flushes + 1 }
  match s.flushFault with
  | none => (.ok (), s)
  | some fault => (.error fault, s)

/-- Send one payload as a frame and flush it. -/
def send (s : Sink) (payload : ByteArray) : Except Error Unit × Sink :=
  match encode payload with
  | .error e => (.error e, s)
  | .ok frame =>
    match s.writeAll frame with
    | (.error fault, s) => (.error (.io fault), s)
    | (.ok (), s) =>
      match s.flush with
      | (.error fault, s) => (.error (.io fault), s)
      | (.ok (), s) => (.ok (), s)

/-- Send payloads one after another, whatever becomes of each: every result, with the sink as
it was left. -/
def sends (s : Sink) : List ByteArray → List (Except Error Unit × Sink)
  | [] => []
  | payload :: rest => s.send payload :: sends (s.send payload).2 rest

end Sink

end Overlay.Frame
