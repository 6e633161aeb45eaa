import Overlay.Pattern.CharSet

namespace Overlay.Pattern

/-!
# What patterns match

A `Shape` is what a pattern comes to once its notation is understood. It is matched for many places
in a text at once: from the places where a match may begin come the places where it can end.

* `Look` — conditions on a place in a text;
* `Shape.ends` — where matches end;
* `Shape.occursIn` — whether a text has a match in it.
-/

/-! ### Conditions -/

/-- A condition about the word characters on the two sides of a place. -/
inductive WordLook where
  /-- There is one on one side only. -/
  | edge
  /-- There are two, or none. -/
  | noEdge
  /-- There is one behind only. -/
  | start
  /-- There is one before only. -/
  | stop
  /-- There is none before. -/
  | noneBefore
  /-- There is none behind. -/
  | noneBehind
deriving DecidableEq, Inhabited, Repr

/-- A condition on a place in a text. -/
inductive Look where
  /-- The text starts. -/
  | textStart
  /-- The text ends. -/
  | textEnd
  /-- A line starts. Carriage returns may end lines too. -/
  | lineStart (returns : Bool)
  /-- A line ends. -/
  | lineEnd (returns : Bool)
  /-- Words begin or end. Word characters of all scripts, or plain ones only. -/
  | word (kind : WordLook) (ofAllScripts : Bool)
deriving DecidableEq, Inhabited, Repr

/-- Whether a character is a plain letter, a plain digit or an underscore. -/
def isPlainWord (c : Char) : Bool := c.isAlphanum || c = '_'

/-- Whether a condition about words holds between a word character or none and another. -/
def WordLook.holds (l : WordLook) (before behind : Bool) : Bool :=
  match l with
  | edge => before != behind
  | noEdge => before == behind
  | start => !before && behind
  | stop => before && !behind
  | noneBefore => !before
  | noneBehind => !behind

/-- Whether a condition holds between two characters, of which one or both may be missing. -/
def Look.holds (l : Look) (before behind : Option Char) : Bool :=
  match l with
  | textStart => before.isNone
  | textEnd => behind.isNone
  | lineStart returns =>
    before.all fun b => b = '\n' || (returns && b = '\r' && behind != some '\n')
  | lineEnd returns =>
    behind.all fun c =>
      if returns then c = '\r' || (c = '\n' && before != some '\r') else c = '\n'
  | word kind _ => kind.holds (before.any isPlainWord) (behind.any isPlainWord)

/-! ### Shapes -/

/-- What a pattern matches. -/
inductive Shape where
  /-- Nothing, anywhere. -/
  | nothing
  /-- One character of a set. -/
  | one (s : CharSet)
  /-- Nothing, where a condition holds. -/
  | look (l : Look)
  /-- A match that is remembered. -/
  | group (inner : Shape)
  /-- One match behind another. -/
  | sequence (first second : Shape)
  /-- One of two matches. -/
  | choice (first second : Shape)
  /-- Several matches, one behind the other; without a greatest count there is no bound. -/
  | repetition (least : Nat) (most : Option Nat) (inner : Shape)
deriving DecidableEq, Inhabited, Repr

namespace Shape

/-! ### Places -/

/-- All places in two ascending lists. -/
def merge : List Nat → List Nat → List Nat
  | [], ys => ys
  | xs, [] => xs
  | x :: xs, y :: ys =>
    if x < y then x :: merge xs (y :: ys)
    else if y < x then y :: merge (x :: xs) ys
    else x :: merge xs ys
termination_by xs ys => xs.length + ys.length

/-- Go so many steps from some places. Nothing changes any more once a step changes nothing. -/
def times (step : List Nat → List Nat) : Nat → List Nat → List Nat
  | 0, here => here
  | n + 1, here =>
    let next := step here
    if next = here then here else times step n next

/-- Go at most so many steps from some places, behind those that have been found. -/
def upTo (step : List Nat → List Nat) (start : List Nat) : Nat → List Nat → List Nat
  | 0, found => found
  | n + 1, found =>
    let more := merge start (step found)
    if more = found then found else upTo step start n more

/-- The character before a place. -/
def before? (text : Array Char) (place : Nat) : Option Char :=
  if place = 0 then none else text[place - 1]?

/-- Where matches end that begin at some places. -/
def ends (text : Array Char) : Shape → List Nat → List Nat
  | nothing, here => here
  | one s, here => (here.filter fun i => text[i]?.any s.has).map (· + 1)
  | look l, here => here.filter fun i => l.holds (before? text i) text[i]?
  | group inner, here => inner.ends text here
  | sequence first second, here => second.ends text (first.ends text here)
  | choice first second, here => merge (first.ends text here) (second.ends text here)
  | repetition least most inner, here =>
    let start := times (inner.ends text) least here
    /- Every step but the last finds a new place, or has found them all. -/
    let more := match most with
      | none => text.size + 1
      | some most => most - least
    upTo (inner.ends text) start more start

/-- Whether a text has a match in it. -/
def occursIn (s : Shape) (text : String) : Bool :=
  let chars := text.toList.toArray
  !(s.ends chars (List.range (chars.size + 1))).isEmpty

/-! ### Building -/

/-- Several shapes joined in pairs from the end, given from the last to the first. -/
def joined (join : Shape → Shape → Shape) : List Shape → Shape
  | [] => nothing
  | last :: before => before.foldl (fun s t => join t s) last

/-- Whether a shape can match only nothing. -/
def isEmptyOnly : Shape → Bool
  | nothing | look _ => true
  | one _ => false
  | group inner => inner.isEmptyOnly
  | sequence first second | choice first second => first.isEmptyOnly && second.isEmptyOnly
  | repetition _ most inner => most = some 0 || inner.isEmptyOnly

/-- A repetition. To match nothing several times is to match it once. -/
def repeated (least : Nat) (most : Option Nat) (inner : Shape) : Shape :=
  let (least, most) :=
    if inner.isEmptyOnly then (min least 1, some (min (most.getD 1) 1)) else (least, most)
  if most = some 0 then nothing
  else if least = 1 ∧ most = some 1 then inner
  else repetition least most inner

/-! ### Bounds -/

/-- Whether a shape looks for words of all scripts. -/
def needsScripts : Shape → Bool
  | look (.word _ ofAllScripts) => ofAllScripts
  | nothing | one _ | look _ => false
  | group inner | repetition _ _ inner => inner.needsScripts
  | sequence first second | choice first second => first.needsScripts || second.needsScripts

/-- The size of a set of characters, in a machine that reads bytes: a state has 32 bytes, and a
transition between states 8. -/
def setSize (s : CharSet) : Nat :=
  match s.edges with
  | [first, last] =>
    if last = first + 1 then
      if first < 0x80 then 32 else if first < 0x800 then 64 else if first < 0xf800 then 96 else 128
    else if last ≤ 0x80 then 72 else 432
  | edges => if s.isBelow 0x80 then 64 + edges.length * 4 else 432

/-- The size of a shape, in a machine that reads bytes, on top of another size. -/
def sizeOver (n : Nat) : Shape → Nat
  | nothing | look _ => n + 32
  | one s => n + setSize s
  | group inner => inner.sizeOver (n + 64)
  | sequence first second => second.sizeOver (first.sizeOver n)
  | choice first second => second.sizeOver (first.sizeOver (n + 40))
  | repetition least none inner => n + (max least 1) * inner.sizeOver 0 + 72
  | repetition least (some most) inner =>
    let once := inner.sizeOver 0
    n + least * once + (most - least) * (once + 40) + 32

end Shape

end Overlay.Pattern
