import Overlay.Proofs.Dealings

namespace Overlay

/-!
# Writers at their own pace

In a run every writer works until it is idle before the next input comes. Writers are tasks of
their own, though: inputs come while frames still wait, and a connection may lose its place
meanwhile. So what a node writes is looked at for every schedule of inputs and writers.

* `Pulse` — an input, or the turn of a writer; `Node.play` — a schedule;
* `run_eq_play` — a run is a schedule;
* `play_deals`, `play_moves` — what a schedule consists of.
-/

/-- What comes after a step depends on where it has led only. -/
theorem Step.andThen_congr (s : Step) {f g : Node → Step} (h : f s.node = g s.node) :
    s.andThen f = s.andThen g := by
  simp only [andThen, h]

namespace Node

/-- What a node does next. -/
inductive Pulse where
  /-- An input comes. -/
  | input (i : Input)
  /-- The writer of a connection works. -/
  | writer (id : ConnectionId)

/-- What a pulse does. -/
def beat (n : Node) : Pulse → Step
  | .input i => n.react i
  | .writer id => n.flush id

/-- Everything that a schedule does. -/
def play (n : Node) : List Pulse → Step
  | [] => n.idle
  | p :: rest => (n.beat p).andThen (·.play rest)

/-- Going on after a schedule. -/
theorem play_append (n : Node) (ps qs : List Pulse) :
    n.play (ps ++ qs) = (n.play ps).andThen (·.play qs) := by
  induction ps generalizing n with
  | nil => simp [play, idle, Step.andThen]
  | cons p ps ih =>
    rw [List.cons_append, play, play, Step.andThen_assoc]
    exact (n.beat p).andThen_congr (ih _)

theorem flushEach_eq_play (n : Node) (ids : List ConnectionId) :
    n.flushEach ids = n.play (ids.map .writer) := by
  induction ids generalizing n with
  | nil => rfl
  | cons id ids ih =>
    show (n.flush id).andThen (·.flushEach ids) = (n.flush id).andThen (·.play (ids.map .writer))
    exact (n.flush id).andThen_congr (ih _)

/-- **A run is a schedule:** after each input every writer has its turn. -/
theorem run_eq_play (n : Node) (is : List Input) : ∃ ps, n.run is = n.play ps := by
  induction is generalizing n with
  | nil => exact ⟨[], rfl⟩
  | cons i is ih =>
    -- What follows from the input, and then the rest of the run.
    let writers : List Pulse := (n.react i).node.connections.keys.map .writer
    have hstep : n.step i = n.play (.input i :: writers) := by
      show (n.react i).andThen settle = (n.react i).andThen (·.play writers)
      exact (n.react i).andThen_congr (flushEach_eq_play _ _)
    obtain ⟨ps, hrest⟩ := ih (n.step i).node
    refine ⟨(.input i :: writers) ++ ps, ?_⟩
    rw [play_append, ← hstep]
    exact (n.step i).andThen_congr hrest

/-- **A schedule consists of dealings.** -/
theorem play_deals (n : Node) (ps : List Pulse) : Deals n (n.play ps) := by
  induction ps generalizing n with
  | nil => exact .idle
  | cons p ps ih =>
    have hbeat : Deals n (n.beat p) := by
      cases p with
      | input i => exact react_deals n i
      | writer id => exact .single (.work id (flush_worked n id))
    exact hbeat.andThen (ih _)

/-- **A schedule consists of moves.** -/
theorem play_moves (n : Node) (ps : List Pulse) : Moves (fun _ => True) n (n.play ps) := by
  induction ps generalizing n with
  | nil => exact .idle
  | cons p ps ih =>
    have hbeat : Moves (fun _ => True) n (n.beat p) := by
      cases p with
      | input i => exact react_moves n i trivial
      | writer id => exact flush_moves n id trivial
    exact hbeat.andThen (ih _)

variable (localName : String) (handler : Handler) (bus : Bus)

/-- At whatever pace writers work, everyone holds the place they are entitled to. -/
theorem placed_play (ps : List Pulse) : Placed ((fresh localName handler bus).play ps) := by
  refine (play_moves _ ps).induct (placed_fresh localName handler bus) ?_
  intro cause s t hs _ hmove
  exact hs.turn hmove.turn

end Node

end Overlay
