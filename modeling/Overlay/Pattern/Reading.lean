import Overlay.Pattern.Bracket
import Overlay.Pattern.Opening

namespace Overlay.Pattern

/-!
# Reading patterns

A pattern is read from left to right. Open groups are kept on a stack, the innermost first.

* `Tree.read` — reads a whole pattern.
-/

/-! ### Repetitions -/

/-- The greatest number in a pattern. -/
def countLimit : Nat := 4294967295

/-- Read a number. Without digits there is none, which may yet turn out not to matter. -/
def readCount (k : Cursor) : Except Fault (Option Nat) × Cursor :=
  let k := k.skipBlanks
  let start := k.spot
  let (digits, k) := k.run Char.isDigit
  let behind := (k.run Text.isBlank).2
  let n := digits.foldl (fun n c => n * 10 + (c.toNat - '0'.toNat)) 0
  if digits.isEmpty then (.ok none, behind)
  else if n ≤ countLimit then (.ok (some n), behind)
  else (k.refuseSince start .largeNumber, behind)

/-- The place where `readCount` misses digits. -/
def countPlace (k : Cursor) : Span := k.skipBlanks.here

/-- A number that has to be there. -/
def needCount (place : Span) : Except Fault (Option Nat) → Except Fault Nat
  | .error fault => .error fault
  | .ok (some n) => .ok n
  | .ok none => .error { complaint := .noCount, place }

/-- Read counts between braces. The opening brace comes next. -/
def readCounts (k : Cursor) : Except Fault (Nat × Option Nat × Cursor) :=
  let start := k.spot
  let first := k.step
  if first.rest.isEmpty then first.refuseSince start .openCount
  else
    let (least, k) := readCount first
    let least := needCount (countPlace first) least
    let close (k : Cursor) (least : Nat) (most : Option Nat) :
        Except Fault (Nat × Option Nat × Cursor) :=
      match k.rest with
      | '\x7d' :: _ => .ok (least, most, k)
      | _ => k.refuseSince start .openCount
    match k.rest with
    | [] => k.refuseSince start .openCount
    | ',' :: _ =>
      let second := k.step
      match second.rest, least with
      | [], _ => second.refuseSince start .openCount
      | _, .error fault => .error fault
      | '\x7d' :: _, .ok n => .ok (n, none, second)
      | _, .ok n =>
        let (most, k) := readCount second
        match needCount (countPlace second) most with
        | .error fault => .error fault
        | .ok m => close k n (some m)
    | _ =>
      match least with
      | .error fault => .error fault
      | .ok n => close k n (some n)

/-- Pass over the mark of a repetition that wants little. -/
def pastModest (k : Cursor) : Cursor := if k.rest.head? = some '?' then k.advance else k

/-! ### Open groups -/

/-- What has been read of a group, or of the whole pattern. -/
structure OpenGroup where
  /-- Where the present alternative starts. -/
  start : Spot
  /-- The parts of the present alternative, the last one first. -/
  parts : List Tree := []
  /-- Where the first alternative starts. -/
  firstStart : Spot := start
  /-- The alternatives before, the last one first. -/
  before : List Tree := []
deriving Inhabited

namespace OpenGroup

/-- Add a part. -/
def push (g : OpenGroup) (t : Tree) : OpenGroup := { g with parts := t :: g.parts }

/-- The present alternative, up to a spot. -/
def alternative (g : OpenGroup) (stop : Spot) : Tree :=
  .ofParts ⟨g.start, stop⟩ g.parts.reverse

/-- All alternatives, up to a spot. -/
def content (g : OpenGroup) (stop : Spot) : Tree :=
  let last := g.alternative stop
  if g.before.isEmpty then last else .choice ⟨g.firstStart, stop⟩ (last :: g.before).reverse

/-- Begin another alternative behind a bar. -/
def nextAlternative (g : OpenGroup) (bar : Cursor) : OpenGroup :=
  { g with start := bar.advance.spot, parts := [], before := g.alternative bar.spot :: g.before }

/-- Repeat the last part. The sign for it comes next, and `stop` is behind it. -/
def repeatLast (g : OpenGroup) (sign stop : Cursor) (least : Nat) (most : Option Nat) :
    Except Fault OpenGroup :=
  match g.parts with
  | [] => sign.refuseHere .nothingToRepeat
  | t :: before =>
    if t.isRepeatable then
      .ok { g with parts := .repetition (stop.since t.place.start) least most t :: before }
    else sign.refuseHere .nothingToRepeat

end OpenGroup

/-- What is left behind when a group is opened. -/
structure Outside where
  /-- What had been read before. -/
  group : OpenGroup
  /-- The parenthesis. -/
  place : Span
  /-- The flags of the new group. -/
  items : List FlagItem
  /-- Whether the new group is remembered. -/
  isRemembered : Bool
  /-- Whether blanks did not count before. -/
  isFree : Bool
deriving Inhabited

/-- What has been read of a pattern. -/
structure Reader where
  /-- The innermost open group. -/
  group : OpenGroup
  /-- What lies around it, the nearest first. -/
  outside : List Outside := []
  /-- The names of groups. -/
  names : Names := []
deriving Inhabited

namespace Reader

/-- Read a parenthesis that opens. -/
def opening (r : Reader) (k : Cursor) : Except Fault (Reader × Cursor) :=
  match readParenthesis r.names k with
  | .error fault => .error fault
  | .ok (.flags place items, names, k) =>
    .ok ({ r with group := r.group.push (.flags place items), names },
      { k with isFree := (flagState .free items).getD k.isFree })
  | .ok (.group place items isRemembered, names, k) =>
    .ok ({ group := { start := k.spot }
           outside := ⟨r.group, place, items, isRemembered, k.isFree⟩ :: r.outside
           names },
      { k with isFree := (flagState .free items).getD k.isFree })

/-- Read a parenthesis that closes. -/
def closing (r : Reader) (k : Cursor) : Except Fault (Reader × Cursor) :=
  match r.outside with
  | [] => k.refuse .unopenedGroup
  | o :: outside =>
    let inner := r.group.content k.spot
    let place := k.advance.since o.place.start
    .ok ({ r with group := o.group.push (.group place o.items o.isRemembered inner), outside },
      { k.advance with isFree := o.isFree })

/-- Repeat the last part so many times. The sign for it comes next. -/
def repeating (r : Reader) (k : Cursor) (least : Nat) (most : Option Nat) :
    Except Fault (Reader × Cursor) :=
  let behind := pastModest k.advance
  (r.group.repeatLast k behind least most).map fun group => ({ r with group }, behind)

/-- Repeat the last part as braces say. The opening brace comes next. -/
def counting (r : Reader) (k : Cursor) : Except Fault (Reader × Cursor) :=
  match r.group.repeatLast k k 0 none with
  | .error fault => .error fault
  | .ok _ =>
    match readCounts k with
    | .error fault => .error fault
    | .ok (least, most, last) =>
      let behind := pastModest last.step
      if most.any (· < least) then behind.refuseSince k.spot .reversedCount
      else (r.group.repeatLast k behind least most).map fun group => ({ r with group }, behind)

/-- Read the next part. There is a character to read, with at most `n` behind it. -/
def next (n : Nat) (r : Reader) (k : Cursor) : Except Fault (Reader × Cursor) :=
  match k.rest with
  | '(' :: _ => r.opening k
  | ')' :: _ => r.closing k
  | '|' :: _ => .ok ({ r with group := r.group.nextAlternative k }, k.advance)
  | '[' :: _ => (readClass n k).map fun (t, k) => ({ r with group := r.group.push t }, k)
  | '?' :: _ => r.repeating k 0 (some 1)
  | '*' :: _ => r.repeating k 0 none
  | '+' :: _ => r.repeating k 1 none
  | '\x7b' :: _ => r.counting k
  | _ => (readAtom k).map fun (a, k) => ({ r with group := r.group.push (.atom a) }, k)

/-- What has been read, at the end of a pattern. -/
def finish (r : Reader) (k : Cursor) : Except Fault Tree :=
  match r.outside with
  | o :: _ => .error { complaint := .openGroup, place := o.place }
  | [] => .ok (r.group.content k.spot)

/-- Read on to the end. Every turn reads a character, so that the number of characters bounds the
turns. -/
def readOn : Nat → Reader → Cursor → Except Fault Tree
  | 0, r, k => r.finish k
  | n + 1, r, k =>
    let k := k.skip
    if k.rest.isEmpty then r.finish k
    else
      match r.next n k with
      | .error fault => .error fault
      | .ok (r, k) => readOn n r k

end Reader

/-- Read a pattern. -/
def Tree.read (pattern : String) : Except Fault Tree :=
  let k : Cursor := { rest := pattern.toList }
  match Reader.readOn (k.rest.length + 1) { group := { start := k.spot } } k with
  | .error fault => .error fault
  | .ok t =>
    match t.checkDepth 0 with
    | .error fault => .error fault
    | .ok () => .ok t

end Overlay.Pattern
