import Overlay.Pattern.Meaning
import Overlay.Pattern.Reading

namespace Overlay

/-!
# Patterns

A pattern describes texts: most characters stand for themselves, and some signs have meanings.

* `Pattern.compile` — from the text of a pattern to its shape, or to why it has none;
* `Pattern.Shape.occursIn` — whether a text has a match in it.
-/

namespace Pattern

/-- The largest size of a shape. -/
def sizeLimit : Nat := 10485760

/-- Why a pattern has no shape. -/
inductive Rejection where
  /-- It makes no sense. -/
  | fault (f : Fault) (pattern : String)
  /-- It is too large. -/
  | tooLarge
  /-- It needs to know the words of all scripts. -/
  | needsScripts
deriving DecidableEq, Inhabited, Repr

/-- The text of a rejection. -/
def Rejection.message : Rejection → String
  | fault f pattern => f.report pattern
  | tooLarge => s!"Compiled regex exceeds size limit of {sizeLimit} bytes."
  | needsScripts => "error building NFA"

/-- The shape of a pattern. -/
def compile (pattern : String) : Except Rejection Shape :=
  match (Tree.read pattern).bind fun t => t.meaning {} with
  | .error f => .error (.fault f pattern)
  | .ok (s, _) =>
    if s.sizeOver 0 > sizeLimit then .error .tooLarge
    else if s.needsScripts then .error .needsScripts
    else .ok s

end Pattern

end Overlay
