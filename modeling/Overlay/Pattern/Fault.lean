import Overlay.Text.Cut

namespace Overlay.Pattern

/-!
# What is wrong with a pattern

A pattern that makes no sense is reported with the place where it does not: the lines of the
pattern, marks under the place, and a complaint.

* `Spot`, `Span` — places in a pattern;
* `Complaint` — what can be wrong;
* `Fault.report` — the whole text of a fault.
-/

/-! ### Places -/

/-- A place between two characters of a pattern. Lines and columns are counted from one. -/
structure Spot where
  /-- The number of characters before it. -/
  offset : Nat := 0
  /-- The line. -/
  line : Nat := 1
  /-- The column. -/
  column : Nat := 1
deriving DecidableEq, Inhabited, Repr

/-- The spot behind a character. -/
def Spot.behind (s : Spot) (c : Char) : Spot :=
  if c = '\n' then ⟨s.offset + 1, s.line + 1, 1⟩ else ⟨s.offset + 1, s.line, s.column + 1⟩

/-- A part of a pattern. -/
structure Span where
  /-- Where it starts. -/
  start : Spot
  /-- Where it ends. -/
  stop : Spot
deriving DecidableEq, Inhabited, Repr

namespace Span

/-- Whether a part lies in one line. -/
def isInLine (s : Span) : Bool := s.start.line = s.stop.line

/-- Whether one part comes before another. -/
def isBefore (s t : Span) : Bool :=
  s.start.offset < t.start.offset ||
    (s.start.offset = t.start.offset && s.stop.offset ≤ t.stop.offset)

end Span

/-! ### Complaints -/

/-- What can be wrong. -/
inductive Complaint where
  /-- A class holds an escape that stands for no set of characters. -/
  | notForClasses
  /-- A range ends before it begins. -/
  | reversedRange
  /-- A range begins or ends with a set of characters. -/
  | rangeOfSets
  /-- A class has no end. -/
  | openClass
  /-- A number is too large. -/
  | largeNumber
  /-- A hexadecimal number has no digits. -/
  | noHexDigits
  /-- A hexadecimal number stands for no character. -/
  | noCharacter
  /-- A hexadecimal number has a wrong digit. -/
  | badHexDigit
  /-- The pattern ends inside an escape. -/
  | endInEscape
  /-- There is no such escape. -/
  | unknownEscape
  /-- No flag follows a minus sign. -/
  | danglingMinus
  /-- A flag occurs twice. -/
  | repeatedFlag
  /-- A minus sign occurs twice. -/
  | repeatedMinus
  /-- The pattern ends inside flags. -/
  | endInFlags
  /-- There is no such flag. -/
  | unknownFlag
  /-- A group's name occurs twice. -/
  | repeatedName
  /-- A group's name is empty. -/
  | emptyName
  /-- A group's name has a wrong character. -/
  | badName
  /-- The pattern ends inside a group's name. -/
  | endInName
  /-- A group has no end. -/
  | openGroup
  /-- A group has no beginning. -/
  | unopenedGroup
  /-- Groups, repetitions and classes contain each other too deeply. -/
  | tooDeep (limit : Nat)
  /-- A repetition asks for more than it allows. -/
  | reversedCount
  /-- A repetition has no number. -/
  | noCount
  /-- A repetition has no end. -/
  | openCount
  /-- There is nothing to repeat. -/
  | nothingToRepeat
  /-- The kind of a word boundary has no end. -/
  | openBoundary
  /-- There is no such kind of word boundary. -/
  | unknownBoundary
  /-- The pattern ends behind a brace that belongs to a word boundary or counts it. -/
  | endInBoundary
  /-- A backslash cannot name a property. -/
  | badProperty
  /-- A pattern cannot refer to what a group matched. -/
  | backReference
  /-- A pattern cannot look ahead or behind. -/
  | lookAround
  /-- A set of bytes holds a character that is no byte. -/
  | notAByte
  /-- What matches could be no text. -/
  | notText
  /-- There is no such property of characters. -/
  | unknownProperty
  /-- There is no such value of a property. -/
  | unknownValue
  /-- Sets of digits, blanks and word characters are known only for bytes. -/
  | bytesOnly
  /-- Capital and small letters are told together only for bytes. -/
  | caseForBytesOnly
deriving DecidableEq, Inhabited, Repr

/-- The text of a complaint. -/
def Complaint.message : Complaint → String
  | notForClasses => "invalid escape sequence found in character class"
  | reversedRange => "invalid character class range, the start must be <= the end"
  | rangeOfSets => "invalid range boundary, must be a literal"
  | openClass => "unclosed character class"
  | largeNumber => "decimal literal invalid"
  | noHexDigits => "hexadecimal literal empty"
  | noCharacter => "hexadecimal literal is not a Unicode scalar value"
  | badHexDigit => "invalid hexadecimal digit"
  | endInEscape => "incomplete escape sequence, reached end of pattern prematurely"
  | unknownEscape => "unrecognized escape sequence"
  | danglingMinus => "dangling flag negation operator"
  | repeatedFlag => "duplicate flag"
  | repeatedMinus => "flag negation operator repeated"
  | endInFlags => "expected flag but got end of regex"
  | unknownFlag => "unrecognized flag"
  | repeatedName => "duplicate capture group name"
  | emptyName => "empty capture group name"
  | badName => "invalid capture group character"
  | endInName => "unclosed capture group name"
  | openGroup => "unclosed group"
  | unopenedGroup => "unopened group"
  | tooDeep limit => s!"exceed the maximum number of nested parentheses/brackets ({limit})"
  | reversedCount => "invalid repetition count range, the start must be <= the end"
  | noCount => "repetition quantifier expects a valid decimal"
  | openCount => "unclosed counted repetition"
  | nothingToRepeat => "repetition operator missing expression"
  | openBoundary =>
    "special word boundary assertion is either unclosed or contains an invalid character"
  | unknownBoundary =>
    "unrecognized special word boundary assertion, valid choices are: " ++
      "start, end, start-half or end-half"
  | endInBoundary =>
    "found either the beginning of a special word boundary or a bounded repetition " ++
      "on a \\b with an opening brace, but no closing brace"
  | badProperty => "invalid Unicode character class"
  | backReference => "backreferences are not supported"
  | lookAround => "look-around, including look-ahead and look-behind, is not supported"
  | notAByte => "Unicode not allowed here"
  | notText => "pattern can match invalid UTF-8"
  | unknownProperty => "Unicode property not found"
  | unknownValue => "Unicode property value not found"
  | bytesOnly =>
    "Unicode-aware Perl class not found (make sure the unicode-perl feature is enabled)"
  | caseForBytesOnly =>
    "Unicode-aware case insensitivity matching is not available " ++
      "(make sure the unicode-case feature is enabled)"

/-- What is wrong, and where. -/
structure Fault where
  /-- What is wrong. -/
  complaint : Complaint
  /-- Where it is wrong. -/
  place : Span
  /-- What it clashes with. -/
  earlier : Option Span := none
deriving DecidableEq, Inhabited, Repr

/-! ### Reports -/

/-- The lines of a pattern, each without its line break. -/
def linesOf (pattern : String) : List String :=
  let parts := (Text.cutAt '\n' pattern.toList).reverse
  let whole := parts.tail.map fun line =>
    String.ofList (if line.getLast? = some '\r' then line.dropLast else line)
  let last := String.ofList (parts.head?.getD [])
  ((if last = "" then [] else [last]) ++ whole).reverse

/-- Marks under parts of a line, behind so many columns. -/
def marks (done : Nat) : List Span → String
  | [] => ""
  | s :: rest =>
    let gap := s.start.column - 1 - done
    let width := max 1 (s.stop.column - s.start.column)
    "".pushn ' ' gap ++ "".pushn '^' width ++ marks (done + gap + width) rest

namespace Fault

/-- The marked parts, in order. -/
def spans (f : Fault) : List Span :=
  match f.earlier with
  | none => [f.place]
  | some other => if f.place.isBefore other then [f.place, other] else [other, f.place]

/-- The lines of a pattern, with marks. If there are several, they are numbered. -/
def notated (f : Fault) (pattern : String) : String :=
  let lines := linesOf pattern
  let count := lines.length + if pattern.toList.getLast? = some '\n' then 1 else 0
  let width := if count ≤ 1 then 0 else (toString count).length
  let label (n : Nat) : String :=
    if width = 0 then "    " else "".pushn ' ' (width - (toString n).length) ++ s!"{n}: "
  let margin := if width = 0 then 4 else width + 2
  String.join (lines.mapIdx fun i line =>
    let here := f.spans.filter fun s => s.isInLine && s.start.line = i + 1
    label (i + 1) ++ line ++ "\n" ++
      if here.isEmpty then "" else "".pushn ' ' margin ++ marks 0 here ++ "\n")

/-- Where a part lies that goes over several lines. -/
def extent (s : Span) : String :=
  s!"on line {s.start.line} (column {s.start.column}) " ++
    s!"through line {s.stop.line} (column {s.stop.column - 1})\n"

/-- The text of a fault. -/
def report (f : Fault) (pattern : String) : String :=
  let divider := "".pushn '~' 79 ++ "\n"
  let body :=
    if pattern.toList.contains '\n' then
      divider ++ f.notated pattern ++ divider ++
        String.join ((f.spans.filter (!·.isInLine)).map extent)
    else
      f.notated pattern
  s!"regex parse error:\n{body}error: {f.complaint.message}"

end Fault

end Overlay.Pattern
