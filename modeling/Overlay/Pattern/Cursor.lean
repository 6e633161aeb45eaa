import Overlay.Pattern.Fault

namespace Overlay.Pattern

/-!
# Reading a pattern

A `Cursor` stands between two characters of a pattern. In the free form of patterns it passes over
blanks, and over comments that go from a number sign to the end of a line.

* `Cursor.advance` — over one character;
* `Cursor.step` — over one character, and over what does not count behind it.
-/

/-- How much of a pattern has been read. -/
structure Cursor where
  /-- What has not been read. -/
  rest : List Char
  /-- Where that begins. -/
  spot : Spot := {}
  /-- Whether blanks and comments do not count. -/
  isFree : Bool := false
deriving DecidableEq, Inhabited, Repr

namespace Cursor

/-! ### Places -/

/-- Read over one character. -/
def advance (k : Cursor) : Cursor :=
  match k.rest with
  | [] => k
  | c :: rest => { k with rest, spot := k.spot.behind c }

/-- Read over several characters. -/
def advanceBy (k : Cursor) : Nat → Cursor
  | 0 => k
  | n + 1 => k.advance.advanceBy n

/-- The empty part at the cursor. -/
def here (k : Cursor) : Span := ⟨k.spot, k.spot⟩

/-- The next character's part. -/
def charSpan (k : Cursor) : Span := ⟨k.spot, k.advance.spot⟩

/-- The part from a spot up to the cursor. -/
def since (k : Cursor) (start : Spot) : Span := ⟨start, k.spot⟩

/-- Give up at the next character. -/
def refuse {α : Type} (k : Cursor) (complaint : Complaint) : Except Fault α :=
  .error { complaint, place := k.charSpan }

/-- Give up right at the cursor. -/
def refuseHere {α : Type} (k : Cursor) (complaint : Complaint) : Except Fault α :=
  .error { complaint, place := k.here }

/-- Give up over all from a spot up to the cursor. -/
def refuseSince {α : Type} (k : Cursor) (start : Spot) (complaint : Complaint) :
    Except Fault α :=
  .error { complaint, place := k.since start }

/-! ### Blanks and comments -/

/-- How many characters at the front do not count. -/
def idle (inComment : Bool) : List Char → Nat
  | [] => 0
  | c :: rest =>
    if inComment then idle (c != '\n') rest + 1
    else if Text.isBlank c then idle false rest + 1
    else if c = '#' then idle true rest + 1
    else 0

/-- Read over what does not count. -/
def skip (k : Cursor) : Cursor := if k.isFree then k.advanceBy (idle false k.rest) else k

/-- Read over one character, and over what does not count behind it. -/
def step (k : Cursor) : Cursor := k.advance.skip

/-! ### Progress -/

/-- Reading a character leaves fewer of them. -/
theorem length_rest_advance_lt {k : Cursor} (h : k.rest ≠ []) :
    k.advance.rest.length < k.rest.length := by
  rcases k with ⟨_ | ⟨c, rest⟩, spot, isFree⟩
  · exact absurd rfl h
  · simp [advance]

/-- Reading never leaves more characters. -/
theorem length_rest_advance_le (k : Cursor) : k.advance.rest.length ≤ k.rest.length := by
  rcases k with ⟨_ | ⟨c, rest⟩, spot, isFree⟩ <;> simp [advance]

/-- Reading several characters never leaves more of them. -/
theorem length_rest_advanceBy_le (k : Cursor) (n : Nat) :
    (k.advanceBy n).rest.length ≤ k.rest.length := by
  induction n generalizing k with
  | zero => exact Nat.le_refl _
  | succ n ih => exact Nat.le_trans (ih k.advance) k.length_rest_advance_le

/-- Reading over what does not count never leaves more characters. -/
theorem length_rest_skip_le (k : Cursor) : k.skip.rest.length ≤ k.rest.length := by
  unfold skip
  split
  · exact k.length_rest_advanceBy_le _
  · exact Nat.le_refl _

/-- A step leaves fewer characters. -/
theorem length_rest_step_lt {k : Cursor} (h : k.rest ≠ []) :
    k.step.rest.length < k.rest.length :=
  Nat.lt_of_le_of_lt k.advance.length_rest_skip_le (length_rest_advance_lt h)

/-! ### What comes next -/

/-- The next character but one. -/
def second? (k : Cursor) : Option Char := k.rest.tail.head?

/-- The first character that is neither blank nor a number sign; without one, the first
character. -/
def firstSolid? (cs : List Char) : Option Char :=
  match cs.dropWhile Text.isBlank with
  | '#' :: more => (more.dropWhile Text.isBlank).head?.orElse fun _ => cs.head?
  | c :: _ => some c
  | [] => cs.head?

/-- The next character but one, without blanks where they do not count. -/
def secondSolid? (k : Cursor) : Option Char :=
  if k.isFree then firstSolid? k.rest.tail else k.second?

/-! ### Runs -/

/-- Read over a text, if it comes next. -/
def past? (k : Cursor) (text : String) : Option Cursor :=
  if text.toList.isPrefixOf k.rest then some (k.advanceBy text.toList.length) else none

/-- Read over a run of characters of a kind, and over what does not count between them. -/
def run (k : Cursor) (p : Char → Bool) : List Char × Cursor :=
  match _ : k.rest with
  | [] => ([], k)
  | c :: _ =>
    if p c then
      let (more, behind) := k.step.run p
      (c :: more, behind)
    else
      ([], k)
termination_by k.rest.length
decreasing_by exact length_rest_step_lt (by simp [*])

/-- Read over blanks. -/
def skipBlanks (k : Cursor) : Cursor := k.advanceBy (k.rest.takeWhile Text.isBlank).length

end Cursor

end Overlay.Pattern
