import Overlay.Pattern.Cursor
import Overlay.Pattern.Tree

namespace Overlay.Pattern

/-!
# Escapes in patterns

A backslash takes away the meaning of a sign, or gives a meaning to a letter: a character that
cannot be typed, a set of characters, or a condition.

* `readEscape` — reads an escape;
* `readAtom` — reads whatever stands for one character or for a condition.
-/

/-- Whether a character has a meaning somewhere in patterns. -/
def isSign (c : Char) : Bool := "\\.+*?()|[]\x7b\x7d^$#&-~".toList.contains c

/-- Whether a character can stand behind a backslash and means itself there. -/
def isQuotable (c : Char) : Bool :=
  isSign c || (c.toNat < 0x80 && !c.isAlphanum && c != '<' && c != '>')

/-- The characters that cannot be typed, by their letters. -/
def unprintable? : Char → Option Char
  | 'a' => some '\x07'
  | 'f' => some '\x0c'
  | 't' => some '\t'
  | 'n' => some '\n'
  | 'r' => some '\r'
  | 'v' => some '\x0b'
  | _ => none

/-- The conditions by their letters. -/
def condition? : Char → Option Condition
  | 'A' => some .textStart
  | 'z' => some .textEnd
  | 'b' => some .wordEdge
  | 'B' => some .noWordEdge
  | '<' => some .wordStart
  | '>' => some .wordEnd
  | _ => none

/-- The kinds of word boundaries by their names. -/
def boundary? (name : String) : Option Condition :=
  [("start", Condition.wordStart), ("end", .wordEnd), ("start-half", .noWordBefore),
    ("end-half", .noWordBehind)].lookup name

/-! ### Characters by number -/

/-- The value of a hexadecimal digit. -/
def hexValue? (c : Char) : Option Nat :=
  if c.isDigit then some (c.toNat - '0'.toNat)
  else if 'a' ≤ c ∧ c ≤ 'f' then some (c.toNat - 'a'.toNat + 10)
  else if 'A' ≤ c ∧ c ≤ 'F' then some (c.toNat - 'A'.toNat + 10)
  else none

/-- The character with a number in hexadecimal digits. -/
def charOfHex? (digits : List Char) : Option Char :=
  let n := digits.foldl (fun n c => n * 16 + (hexValue? c).getD 0) 0
  if n < 0xd800 ∨ (0xdfff < n ∧ n < 0x110000) then some (Char.ofNat n) else none

/-- Read so many hexadecimal digits. The first of them comes next. -/
def readHexDigits (k : Cursor) : Nat → Except Fault (List Char × Cursor)
  | 0 => .ok ([], k)
  | n + 1 =>
    match k.rest with
    | [] => k.refuseHere .endInEscape
    | c :: _ =>
      if (hexValue? c).isNone then k.refuse .badHexDigit
      else
        match readHexDigits k.step n with
        | .error fault => .error fault
        | .ok (digits, k) => .ok (c :: digits, k)

/-- Read a character by its number, in so many digits or between braces. The letter that says so
comes next, and the escape starts at `start`. -/
def readHex (start : Spot) (width : Nat) (k : Cursor) : Except Fault (Atom × Cursor) :=
  let k := k.step
  match k.rest with
  | [] => k.refuseHere .endInEscape
  | '\x7b' :: _ =>
    let brace := k.spot
    let inner := k.advance.spot
    let (digits, k) := k.step.run fun c => (hexValue? c).isSome
    match k.rest with
    | [] => k.refuseSince brace .endInEscape
    | '\x7d' :: _ =>
      if digits.isEmpty then k.step.refuseSince brace .noHexDigits
      else
        match charOfHex? digits with
        | none => k.refuseSince inner .noCharacter
        | some char => .ok (.literal { place := k.step.since start, char }, k.step)
    | _ => k.refuse .badHexDigit
  | _ =>
    let first := k.spot
    match readHexDigits k width with
    | .error fault => .error fault
    | .ok (digits, k) =>
      match charOfHex? digits with
      | none => k.refuseSince first .noCharacter
      | some char =>
        .ok (.literal { place := k.since start, char, isByte := width = 2 }, k)

/-! ### Sets and conditions -/

/-- A property and its value, from a text between braces. -/
def splitProperty (text : List Char) : String × Option String :=
  let rec find (sign : List Char) : List Char → Option (List Char × List Char)
    | [] => none
    | c :: rest =>
      if sign.isPrefixOf (c :: rest) then some ([], (c :: rest).drop sign.length)
      else (find sign rest).map fun parts => (c :: parts.1, parts.2)
  match (find ['!', '='] text).orElse fun _ => (find [':'] text).orElse fun _ =>
    find ['='] text with
  | some (name, value) => (String.ofList name, some (String.ofList value))
  | none => (String.ofList text, none)

/-- Read a property. Its letter comes next. -/
def readProperty (start : Spot) (negated : Bool) (k : Cursor) : Except Fault (Atom × Cursor) :=
  let k := k.step
  match k.rest with
  | [] => k.refuseHere .endInEscape
  | '\x7b' :: _ =>
    let (text, k) := k.step.run (· ≠ '\x7d')
    if k.rest.isEmpty then k.refuseHere .endInEscape
    else
      let (name, value) := splitProperty text
      .ok (.property (k.advance.since start) name value negated, k.advance)
  | '\\' :: _ => k.refuse .badProperty
  | c :: _ => .ok (.property (k.step.since start) c.toString none negated, k.step)

/-- Read the kind of a word boundary between braces, if there is one. The brace comes next. -/
def readBoundary (start : Spot) (k : Cursor) :
    Except Fault (Option (Condition × Cursor)) :=
  let isNameChar (c : Char) : Bool := c.isAlpha || c = '-'
  let brace := k.spot
  let k := k.step
  let inner := k.spot
  match k.rest with
  | [] => k.refuseSince start .endInBoundary
  | c :: _ =>
    if !isNameChar c then .ok none
    else
      let (name, k) := k.run isNameChar
      if k.rest.head? ≠ some '\x7d' then k.refuseSince brace .openBoundary
      else
        match boundary? (String.ofList name) with
        | some kind => .ok (some (kind, k.advance))
        | none => k.refuseSince inner .unknownBoundary

/-! ### Escapes -/

/-- Read an escape. The backslash comes next. -/
def readEscape (k : Cursor) : Except Fault (Atom × Cursor) :=
  let start := k.spot
  let k := k.advance
  match k.rest with
  | [] => k.refuseSince start .endInEscape
  | c :: _ =>
    let behind := k.advance
    let place := behind.since start
    let set (s : Shorthand) (negated : Bool) : Except Fault (Atom × Cursor) :=
      .ok (.shorthand place s negated, behind)
    match c with
    | 'x' => readHex start 2 k
    | 'u' => readHex start 4 k
    | 'U' => readHex start 8 k
    | 'p' => readProperty start false k
    | 'P' => readProperty start true k
    | 'd' => set .digit false
    | 'D' => set .digit true
    | 's' => set .blank false
    | 'S' => set .blank true
    | 'w' => set .word false
    | 'W' => set .word true
    | c =>
      if c.isDigit then behind.refuseSince start .backReference
      else if isQuotable c then .ok (.literal { place, char := c }, behind)
      else
        match unprintable? c, condition? c with
        | some char, _ => .ok (.literal { place, char }, behind)
        | none, some condition =>
          if c = 'b' ∧ behind.rest.head? = some '\x7b' then
            match readBoundary start behind with
            | .error fault => .error fault
            | .ok none => .ok (.condition place condition, behind)
            | .ok (some (kind, k)) => .ok (.condition (k.since start) kind, k)
          else
            .ok (.condition place condition, behind)
        | none, none => behind.refuseSince start .unknownEscape

/-- Read an atom. There is a character to read. -/
def readAtom (k : Cursor) : Except Fault (Atom × Cursor) :=
  match k.rest with
  | [] => k.refuseHere .endInEscape
  | '\\' :: _ => readEscape k
  | '.' :: _ => .ok (.anything k.charSpan, k.advance)
  | '^' :: _ => .ok (.condition k.charSpan .lineStart, k.advance)
  | '$' :: _ => .ok (.condition k.charSpan .lineEnd, k.advance)
  | char :: _ => .ok (.literal { place := k.charSpan, char }, k.advance)

end Overlay.Pattern
