import Overlay.Pattern.Shape
import Overlay.Pattern.Tree

namespace Overlay.Pattern

/-!
# What patterns mean

From the notation of a pattern to what it matches. Flags change the meaning of all that follows
them inside of their group. A pattern is about characters, or about bytes; what it matches is a
text in either case. Properties and words of characters beyond the plain ones are not known here.

* `Mode` — what flags have come to;
* `Tree.meaning` — the shape that a pattern stands for.
-/

/-! ### Modes -/

/-- What flags have come to. -/
structure Mode where
  /-- Capital and small letters are told together. -/
  caseless : Bool := false
  /-- Conditions on the text hold for its lines. -/
  byLine : Bool := false
  /-- Anything can also be a line break. -/
  breaks : Bool := false
  /-- Carriage returns end lines too. -/
  returns : Bool := false
  /-- Characters count, and not bytes. -/
  unicode : Bool := true
deriving DecidableEq, Inhabited, Repr

namespace Mode

/-- What further flags come to. -/
def withFlags (m : Mode) (items : List FlagItem) : Mode where
  caseless := (flagState .caseless items).getD m.caseless
  byLine := (flagState .byLine items).getD m.byLine
  breaks := (flagState .breaks items).getD m.breaks
  returns := (flagState .returns items).getD m.returns
  unicode := (flagState .unicode items).getD m.unicode

/-- Take letters together, where flags ask for it. -/
def foldCase (m : Mode) (place : Span) (s : CharSet) : Except Fault CharSet :=
  if !m.caseless then .ok s
  else if !m.unicode then .ok s.evenOut
  else if s.isEven ∨ s.edges.isEmpty then .ok { s with isEven := true }
  else .error { complaint := .caseForBytesOnly, place }

/-- A set of bytes, if these are text. -/
def bytesOf (place : Span) (s : CharSet) : Except Fault CharSet :=
  if s.isBelow 0x80 then .ok s else .error { complaint := .notText, place }

/-- A set as it is, or all others. -/
def sided (m : Mode) (negated : Bool) (s : CharSet) : CharSet :=
  if negated then s.complement (if m.unicode then charCount else byteCount) else s

/-- A set with letters taken together, and with all others instead where this is asked for. -/
def finishSet (m : Mode) (place : Span) (negated : Bool) (s : CharSet) :
    Except Fault CharSet :=
  match m.foldCase place s with
  | .error fault => .error fault
  | .ok s => if m.unicode then .ok (m.sided negated s) else bytesOf place (m.sided negated s)

/-- The set with a letter for a name. -/
def shorthandSet (m : Mode) (place : Span) (s : Shorthand) (negated : Bool) :
    Except Fault CharSet :=
  if m.unicode then .error { complaint := .bytesOnly, place }
  else bytesOf place (m.sided negated (.ofRanges s.named.ranges))

/-- The name of a property without what does not count in it: `is` in front, capitals, blanks and
lines. -/
def plainName (name : String) : String :=
  let cs := name.toList
  let cs := if (cs.take 2).map Char.toLower = ['i', 's'] then cs.drop 2 else cs
  String.ofList ((cs.filter fun c => c.toNat < 0x80 && !" _-".toList.contains c).map Char.toLower)

/-- No property is known. Three names are ones of general categories, which are values. -/
def refuseProperty {α : Type} (m : Mode) (place : Span) (name : String)
    (value : Option String) : Except Fault α :=
  let complaint : Complaint :=
    if !m.unicode then .notAByte
    else if value.isNone ∧ ["cf", "sc", "lc"].contains (plainName name) then .unknownValue
    else .unknownProperty
  .error { complaint, place }

/-- The character that a literal stands for, where only bytes can stand. -/
def byteOf (l : Literal) : Except Fault Char :=
  if l.char.toNat < 0x80 then .ok l.char
  else .error { complaint := if l.isByte then .notText else .notAByte, place := l.place }

/-- The character that a literal of a class stands for. -/
def memberChar (m : Mode) (l : Literal) : Except Fault Char :=
  if m.unicode then .ok l.char else byteOf l

end Mode

/-! ### Atoms -/

/-- The condition that is meant in some mode. -/
def Condition.meaning (m : Mode) : Condition → Look
  | lineStart => if m.byLine then .lineStart m.returns else .textStart
  | lineEnd => if m.byLine then .lineEnd m.returns else .textEnd
  | textStart => .textStart
  | textEnd => .textEnd
  | wordEdge => .word .edge m.unicode
  | noWordEdge => .word .noEdge m.unicode
  | wordStart => .word .start m.unicode
  | wordEnd => .word .stop m.unicode
  | noWordBefore => .word .noneBefore m.unicode
  | noWordBehind => .word .noneBehind m.unicode

/-- What an atom means in some mode. -/
def Atom.meaning (m : Mode) : Atom → Except Fault Shape
  | literal l =>
    if m.unicode then (m.foldCase l.place (.single l.char)).map .one
    else if l.isByte ∧ ¬l.char.toNat < 0x80 then .error { complaint := .notText, place := l.place }
    else if l.char.isAlpha then (m.foldCase l.place (.single l.char)).map .one
    else .ok (.one (.single l.char))
  | anything place =>
    if !m.unicode then .error { complaint := .notText, place }
    else
      let breaks : CharSet :=
        if m.breaks then .empty
        else if m.returns then .ofRanges [('\n', '\n'), ('\r', '\r')]
        else .single '\n'
      .ok (.one (breaks.complement charCount))
  | condition _ c => .ok (.look (c.meaning m))
  | shorthand place s negated => (m.shorthandSet place s negated).map .one
  | property place name value _ => m.refuseProperty place name value

/-! ### Classes -/

/-- Add all characters from one to another. -/
def CharSet.add (s : CharSet) (first last : Char) : CharSet :=
  { s.union (range first last) with isEven := false }

/-- Make one set of two. -/
def Operation.apply (op : Operation) (s t : CharSet) : CharSet :=
  match op with
  | both => s.intersect t
  | firstOnly => s.subtract t
  | oneOnly => s.exclude t

mutual

/-- What a part of a class adds to a set in some mode. -/
def ClassTree.meaning (m : Mode) (s : CharSet) : ClassTree → Except Fault CharSet
  | .nothing _ => .ok s
  | .literal l => (m.memberChar l).map fun c => s.add c c
  | .range _ first last =>
    match m.memberChar first with
    | .error fault => .error fault
    | .ok first => (m.memberChar last).map (s.add first)
  | .named place n negated =>
    (m.finishSet place negated (.ofRanges n.ranges)).map s.union
  | .shorthand place h negated => (m.shorthandSet place h negated).map s.union
  | .property place name value _ => m.refuseProperty place name value
  | .bracket place negated inner =>
    match inner.meaning m .empty with
    | .error fault => .error fault
    | .ok t => (m.finishSet place negated t).map s.union
  | .union _ parts => ClassTree.meanings m s parts
  | .operation _ op left right =>
    match left.meaning m .empty with
    | .error fault => .error fault
    | .ok l =>
      match right.meaning m .empty with
      | .error fault => .error fault
      | .ok r =>
        match m.foldCase right.place r with
        | .error fault => .error fault
        | .ok r => (m.foldCase left.place l).map fun l => s.union (op.apply l r)

/-- What parts of a class add to a set in some mode. -/
def ClassTree.meanings (m : Mode) (s : CharSet) : List ClassTree → Except Fault CharSet
  | [] => .ok s
  | t :: rest =>
    match t.meaning m s with
    | .error fault => .error fault
    | .ok s => ClassTree.meanings m s rest

end

/-! ### Patterns -/

mutual

/-- What a pattern means in some mode, and the mode behind it. -/
def Tree.meaning (m : Mode) : Tree → Except Fault (Shape × Mode)
  | .nothing _ => .ok (.nothing, m)
  | .flags _ items => .ok (.nothing, m.withFlags items)
  | .atom a => (a.meaning m).map fun s => (s, m)
  | .bracket place negated inner =>
    match inner.meaning m .empty with
    | .error fault => .error fault
    | .ok s => (m.finishSet place negated s).map fun s => (.one s, m)
  | .repetition _ least most inner =>
    (inner.meaning m).map fun (s, m) => (s.repeated least most, m)
  | .group _ items isRemembered inner =>
    (inner.meaning (m.withFlags items)).map fun (s, _) =>
      (if isRemembered then .group s else s, m)
  | .choice _ parts =>
    (Tree.meanings m [] parts).map fun (shapes, m) => (.joined .choice shapes, m)
  | .sequence _ parts =>
    (Tree.meanings m [] parts).map fun (shapes, m) => (.joined .sequence shapes, m)

/-- What patterns mean that come one behind the other, on top of others; the last one is first. -/
def Tree.meanings (m : Mode) (done : List Shape) :
    List Tree → Except Fault (List Shape × Mode)
  | [] => .ok (done, m)
  | t :: rest =>
    match t.meaning m with
    | .error fault => .error fault
    | .ok (s, m) => Tree.meanings m (s :: done) rest

end

end Overlay.Pattern
