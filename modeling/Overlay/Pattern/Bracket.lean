import Overlay.Pattern.Escape

namespace Overlay.Pattern

/-!
# Classes in patterns

A class is a set of characters between square brackets: characters, ranges, named sets and further
classes, side by side. Behind a caret it holds all other characters. Two signs `&&`, `--` or `~~`
make one set of those on both sides.

* `readClass` — reads a class.
-/

/-! ### Open classes -/

/-- A class that has been opened. -/
structure OpenClass where
  /-- The bracket with what belongs to it. -/
  opening : Span
  /-- Whether the class holds all other characters. -/
  negated : Bool
  /-- Where the present row of parts begins. -/
  row : Span
  /-- The parts of the present row, the last one first. -/
  parts : List ClassTree
  /-- A set that makes one with the present row. -/
  pending : Option (Operation × ClassTree) := none
deriving Inhabited

namespace OpenClass

/-- Add a part to the present row. -/
def push (c : OpenClass) (t : ClassTree) : OpenClass := { c with parts := t :: c.parts }

/-- The parts of the present row as one. -/
def whole (c : OpenClass) : ClassTree :=
  match c.parts with
  | [] => .nothing c.row
  | [only] => only
  | last :: before =>
    let first := before.getLast?.getD last
    .union ⟨first.place.start, last.place.stop⟩ (last :: before).reverse

/-- All that has been read as one. -/
def content (c : OpenClass) : ClassTree :=
  match c.pending with
  | none => c.whole
  | some (op, left) =>
    let right := c.whole
    .operation ⟨left.place.start, right.place.stop⟩ op left right

/-- Begin a new row that makes one set with what has been read. -/
def operate (c : OpenClass) (op : Operation) (row : Span) : OpenClass :=
  { c with row, parts := [], pending := some (op, c.content) }

/-- Give up because a class has no end. -/
def refuse {α : Type} (c : OpenClass) : Except Fault α :=
  .error { complaint := .openClass, place := c.opening }

end OpenClass

/-! ### Parts -/

/-- Read minus signs at the beginning of a class, where they stand for themselves. -/
def readDashes (k : Cursor) (parts : List ClassTree) : List ClassTree × Cursor :=
  match _ : k.rest with
  | '-' :: _ => readDashes k.step (.literal { place := k.charSpan, char := '-' } :: parts)
  | _ => (parts, k)
termination_by k.rest.length
decreasing_by exact Cursor.length_rest_step_lt (by simp [*])

/-- Read the beginning of a class. The bracket comes next. -/
def readOpening (k : Cursor) : Except Fault (OpenClass × Cursor) :=
  let start := k.spot
  let k := k.step
  let negated := k.rest.head? = some '^'
  let k := if negated then k.step else k
  if k.rest.isEmpty then k.refuseSince start .openClass
  else
    let row := k.here
    let (parts, k) := readDashes k []
    if k.rest.isEmpty then .error { complaint := .openClass, place := ⟨start, start⟩ }
    else if parts.isEmpty ∧ k.rest.head? = some ']' then
      let bracket := ClassTree.literal { place := k.charSpan, char := ']' }
      let k := k.step
      if k.rest.isEmpty then k.refuseSince start .openClass
      else .ok ({ opening := k.since start, negated, row, parts := [bracket] }, k)
    else
      .ok ({ opening := k.since start, negated, row, parts }, k)

/-- Read the name of a set between colons, if there is one. -/
def readNamed? (k : Cursor) : Option (ClassTree × Cursor) := do
  let inner ← k.past? "[:"
  let negated := inner.rest.head? = some '^'
  let inner := if negated then inner.advance else inner
  let name := inner.rest.takeWhile (· ≠ ':')
  let behind ← (inner.advanceBy name.length).past? ":]"
  let n ← NamedClass.ofName? (String.ofList name)
  return (.named (behind.since k.spot) n negated, behind)

/-- Read a character or an escape. -/
def readMember (k : Cursor) : Except Fault (Atom × Cursor) :=
  match k.rest with
  | '\\' :: _ => readEscape k
  | c :: _ => .ok (.literal { place := k.charSpan, char := c }, k.advance)
  | [] => k.refuseHere .openClass

/-- An atom as part of a class. -/
def memberOf : Atom → Except Fault ClassTree
  | .literal l => .ok (.literal l)
  | .shorthand place s negated => .ok (.shorthand place s negated)
  | .property place name value negated => .ok (.property place name value negated)
  | a => .error { complaint := .notForClasses, place := a.place }

/-- An atom as one end of a range. -/
def endOf : Atom → Except Fault Literal
  | .literal l => .ok l
  | a => .error { complaint := .rangeOfSets, place := a.place }

/-- A range between two atoms. -/
def rangeOf (first last : Atom) : Except Fault ClassTree :=
  match endOf first, endOf last with
  | .error fault, _ => .error fault
  | .ok _, .error fault => .error fault
  | .ok a, .ok b =>
    let place : Span := ⟨a.place.start, b.place.stop⟩
    if a.char ≤ b.char then .ok (.range place a b)
    else .error { complaint := .reversedRange, place }

/-- Read a character, an escape or a range. -/
def readRange (c : OpenClass) (k : Cursor) : Except Fault (ClassTree × Cursor) :=
  match readMember k with
  | .error fault => .error fault
  | .ok (first, k) =>
    let k := k.skip
    let alone := k.secondSolid? = some ']' ∨ k.secondSolid? = some '-'
    match k.rest with
    | [] => c.refuse
    | '-' :: _ =>
      if alone then (memberOf first).map fun t => (t, k)
      else
        let k := k.step
        if k.rest.isEmpty then c.refuse
        else
          match readMember k with
          | .error fault => .error fault
          | .ok (last, k) => (rangeOf first last).map fun t => (t, k)
    | _ => (memberOf first).map fun t => (t, k)

/-! ### Classes -/

/-- Read on inside of a class, which can lie inside of others. Every turn reads a character, so
that the number of characters bounds the turns. -/
def readClassOn : Nat → OpenClass → List OpenClass → Cursor → Except Fault (Tree × Cursor)
  | 0, c, _, _ => c.refuse
  | n + 1, c, outer, k =>
    let k := k.skip
    let operate (op : Operation) : Except Fault (Tree × Cursor) :=
      readClassOn n (c.operate op (k.advanceBy 2).here) outer (k.advanceBy 2)
    match k.rest with
    | [] => c.refuse
    | '[' :: _ =>
      match readNamed? k with
      | some (t, k) => readClassOn n (c.push t) outer k
      | none =>
        match readOpening k with
        | .error fault => .error fault
        | .ok (inner, k) => readClassOn n inner (c :: outer) k
    | ']' :: _ =>
      let k := k.advance
      let place := k.since c.opening.start
      match outer with
      | [] => .ok (.bracket place c.negated c.content, k)
      | d :: outer => readClassOn n (d.push (.bracket place c.negated c.content)) outer k
    | '&' :: '&' :: _ => operate .both
    | '-' :: '-' :: _ => operate .firstOnly
    | '~' :: '~' :: _ => operate .oneOnly
    | _ =>
      match readRange c k with
      | .error fault => .error fault
      | .ok (t, k) => readClassOn n (c.push t) outer k

/-- Read a class. The bracket comes next, and at most `n` characters behind it. -/
def readClass (n : Nat) (k : Cursor) : Except Fault (Tree × Cursor) :=
  match readOpening k with
  | .error fault => .error fault
  | .ok (c, k) => readClassOn (n + 1) c [] k

end Overlay.Pattern
