import Overlay.Pattern.Fault

namespace Overlay.Pattern

/-!
# Patterns as they are written

The parts of a pattern, each with its place.

* `Atom` — what stands for one character, or for a condition on a place in the text;
* `ClassTree` — what stands between square brackets;
* `Tree` — a whole pattern.

Parts contain each other only up to a limit (`Tree.checkDepth`).
-/

/-! ### Atoms -/

/-- A character that stands for itself. -/
structure Literal where
  /-- Where it stands. -/
  place : Span
  /-- The character. -/
  char : Char
  /-- Whether it is written as a byte, with two hexadecimal digits. -/
  isByte : Bool := false
deriving DecidableEq, Inhabited, Repr

/-- A condition on a place in the text. -/
inductive Condition where
  /-- The start of the text, or of a line. -/
  | lineStart
  /-- The end of the text, or of a line. -/
  | lineEnd
  /-- The start of the text. -/
  | textStart
  /-- The end of the text. -/
  | textEnd
  /-- One side belongs to a word, the other does not. -/
  | wordEdge
  /-- Both sides belong to words, or none. -/
  | noWordEdge
  /-- A word begins. -/
  | wordStart
  /-- A word ends. -/
  | wordEnd
  /-- No word goes on from before. -/
  | noWordBefore
  /-- No word goes on behind. -/
  | noWordBehind
deriving DecidableEq, Inhabited, Repr

/-- A set of characters with a letter for a name. -/
inductive Shorthand where
  /-- Digits. -/
  | digit
  /-- Blanks. -/
  | blank
  /-- The characters of words. -/
  | word
deriving DecidableEq, Inhabited, Repr

/-- A set of characters that is named between colons, with its ranges. -/
structure NamedClass where
  /-- The name. -/
  name : String
  /-- The ranges; both ends belong to a range. -/
  ranges : List (Char × Char)
deriving DecidableEq, Inhabited, Repr

namespace NamedClass

def digit : NamedClass := ⟨"digit", [('0', '9')]⟩
def space : NamedClass := ⟨"space", [('\t', '\r'), (' ', ' ')]⟩
def word : NamedClass := ⟨"word", [('0', '9'), ('A', 'Z'), ('_', '_'), ('a', 'z')]⟩

/-- All named sets. -/
def all : List NamedClass :=
  [⟨"alnum", [('0', '9'), ('A', 'Z'), ('a', 'z')]⟩,
    ⟨"alpha", [('A', 'Z'), ('a', 'z')]⟩,
    ⟨"ascii", [('\x00', '\x7f')]⟩,
    ⟨"blank", [('\t', '\t'), (' ', ' ')]⟩,
    ⟨"cntrl", [('\x00', '\x1f'), ('\x7f', '\x7f')]⟩,
    digit,
    ⟨"graph", [('!', '~')]⟩,
    ⟨"lower", [('a', 'z')]⟩,
    ⟨"print", [(' ', '~')]⟩,
    ⟨"punct", [('!', '/'), (':', '@'), ('[', '\x60'), ('\x7b', '~')]⟩,
    space,
    ⟨"upper", [('A', 'Z')]⟩,
    word,
    ⟨"xdigit", [('0', '9'), ('A', 'F'), ('a', 'f')]⟩]

/-- The set with a name. -/
def ofName? (name : String) : Option NamedClass := all.find? (·.name = name)

end NamedClass

/-- The named set behind a shorthand. -/
def Shorthand.named : Shorthand → NamedClass
  | digit => .digit
  | blank => .space
  | word => .word

/-- What stands for one character, or for a condition. -/
inductive Atom where
  /-- One character. -/
  | literal (l : Literal)
  /-- Any character. -/
  | anything (place : Span)
  /-- A condition. -/
  | condition (place : Span) (c : Condition)
  /-- A character of a set with a letter for a name, or of all others. -/
  | shorthand (place : Span) (s : Shorthand) (negated : Bool)
  /-- A character with a property, or without it. The property can have a value. -/
  | property (place : Span) (name : String) (value : Option String) (negated : Bool)
deriving DecidableEq, Inhabited, Repr

/-- Where an atom stands. -/
def Atom.place : Atom → Span
  | literal l => l.place
  | anything place | condition place _ | shorthand place .. | property place .. => place

/-! ### Classes -/

/-- How two sets make one. -/
inductive Operation where
  /-- What is in both. -/
  | both
  /-- What is in the first only. -/
  | firstOnly
  /-- What is in one of them only. -/
  | oneOnly
deriving DecidableEq, Inhabited, Repr

/-- What stands between square brackets. -/
inductive ClassTree where
  /-- Nothing. -/
  | nothing (place : Span)
  /-- One character. -/
  | literal (l : Literal)
  /-- All characters from one to another. -/
  | range (place : Span) (first last : Literal)
  /-- A set named between colons, or all others. -/
  | named (place : Span) (n : NamedClass) (negated : Bool)
  /-- A set with a letter for a name, or all others. -/
  | shorthand (place : Span) (s : Shorthand) (negated : Bool)
  /-- Characters with a property, or without it. -/
  | property (place : Span) (name : String) (value : Option String) (negated : Bool)
  /-- A class inside a class, or all other characters. -/
  | bracket (place : Span) (negated : Bool) (inner : ClassTree)
  /-- Several of these, side by side. -/
  | union (place : Span) (parts : List ClassTree)
  /-- Two sets that make one. -/
  | operation (place : Span) (op : Operation) (left right : ClassTree)
deriving Inhabited, Repr

/-- Where a part of a class stands. -/
def ClassTree.place : ClassTree → Span
  | literal l => l.place
  | nothing place | range place .. | named place .. | shorthand place .. | property place ..
  | bracket place .. | union place _ | operation place .. => place

/-! ### Patterns -/

/-- A flag. -/
inductive Flag where
  /-- Capital and small letters are told together. -/
  | caseless
  /-- Conditions on the text hold for its lines. -/
  | byLine
  /-- Anything can also be a line break. -/
  | breaks
  /-- Repetitions want little. -/
  | modest
  /-- Characters count, and not bytes. -/
  | unicode
  /-- A carriage return ends lines. -/
  | returns
  /-- Blanks and comments do not count. -/
  | free
deriving DecidableEq, Inhabited, Repr

/-- A flag or a minus sign, as it is written. -/
structure FlagItem where
  /-- Where it stands. -/
  place : Span
  /-- The flag; without one, it is the minus sign. -/
  flag : Option Flag
deriving DecidableEq, Inhabited, Repr

/-- What flags say about one of them. Behind a minus sign they are switched off. -/
def flagState (f : Flag) (items : List FlagItem) : Option Bool :=
  let (on, off) := items.span fun i => i.flag.isSome
  if on.any fun i => i.flag == some f then some true
  else if off.any fun i => i.flag == some f then some false
  else none

/-- A pattern. -/
inductive Tree where
  /-- Nothing. -/
  | nothing (place : Span)
  /-- Flags for all that follows. -/
  | flags (place : Span) (items : List FlagItem)
  /-- An atom. -/
  | atom (a : Atom)
  /-- A character of a class, or any other. -/
  | bracket (place : Span) (negated : Bool) (inner : ClassTree)
  /-- A repetition; without a greatest count it has no bound. -/
  | repetition (place : Span) (least : Nat) (most : Option Nat) (inner : Tree)
  /-- A group, with flags for what is in it. Some are remembered. -/
  | group (place : Span) (items : List FlagItem) (isRemembered : Bool) (inner : Tree)
  /-- One of several. -/
  | choice (place : Span) (parts : List Tree)
  /-- Several, one behind the other. -/
  | sequence (place : Span) (parts : List Tree)
deriving Inhabited, Repr

namespace Tree

/-- Where a pattern stands. -/
def place : Tree → Span
  | atom a => a.place
  | nothing place | flags place _ | bracket place .. | repetition place .. | group place ..
  | choice place _ | sequence place _ => place

/-- Whether a pattern can be repeated. -/
def isRepeatable : Tree → Bool
  | nothing _ | flags .. => false
  | _ => true

/-- Several patterns as one. -/
def ofParts (place : Span) : List Tree → Tree
  | [] => nothing place
  | [only] => only
  | parts => sequence place parts

end Tree

/-! ### Depth -/

/-- How deeply parts of a pattern can contain each other. -/
def depthLimit : Nat := 250

/-- Go one level down, if there is one. -/
def descend (place : Span) (depth : Nat) : Except Fault Unit :=
  if depth < depthLimit then .ok () else .error { complaint := .tooDeep depthLimit, place }

mutual

/-- Look whether a class at some depth goes too deep. -/
def ClassTree.checkDepth (depth : Nat) : ClassTree → Except Fault Unit
  | bracket place _ inner =>
    match descend place depth with
    | .error fault => .error fault
    | .ok () => inner.checkDepth (depth + 1)
  | union place parts =>
    match descend place depth with
    | .error fault => .error fault
    | .ok () => ClassTree.checkDepths (depth + 1) parts
  | operation place _ left right =>
    match descend place depth with
    | .error fault => .error fault
    | .ok () =>
      match left.checkDepth (depth + 1) with
      | .error fault => .error fault
      | .ok () => right.checkDepth (depth + 1)
  | _ => .ok ()

/-- Look whether one of several classes goes too deep. -/
def ClassTree.checkDepths (depth : Nat) : List ClassTree → Except Fault Unit
  | [] => .ok ()
  | t :: rest =>
    match t.checkDepth depth with
    | .error fault => .error fault
    | .ok () => ClassTree.checkDepths depth rest

end

mutual

/-- Look whether a pattern at some depth goes too deep. -/
def Tree.checkDepth (depth : Nat) : Tree → Except Fault Unit
  | .bracket place _ inner =>
    match descend place depth with
    | .error fault => .error fault
    | .ok () => inner.checkDepth (depth + 1)
  | .repetition place _ _ inner | .group place _ _ inner =>
    match descend place depth with
    | .error fault => .error fault
    | .ok () => inner.checkDepth (depth + 1)
  | .choice place parts | .sequence place parts =>
    match descend place depth with
    | .error fault => .error fault
    | .ok () => Tree.checkDepths (depth + 1) parts
  | _ => .ok ()

/-- Look whether one of several patterns goes too deep. -/
def Tree.checkDepths (depth : Nat) : List Tree → Except Fault Unit
  | [] => .ok ()
  | t :: rest =>
    match t.checkDepth depth with
    | .error fault => .error fault
    | .ok () => Tree.checkDepths depth rest

end

end Overlay.Pattern
