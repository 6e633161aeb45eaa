import Overlay.Number.Shortest
import Overlay.Text.Quoted

namespace Overlay.Json

/-!
# What is wrong with a JSON text

A reader stops at the first thing that is wrong. A `Fault` says what it is and where: by the
text that was still unread, so that a reader need not count. Lines are counted from one. A
column counts bytes, so a position just behind a line break is column zero of the next line.
-/

/-! ### Complaints -/

/-- What stands where something else was wanted. -/
inductive Found where
  | null
  | boolean (value : Bool)
  | natural (n : Nat)
  | negative (n : Nat)
  | floating (f : Float)
  | text (s : String)
  | sequence
  | map
deriving Inhabited

/-- Floating-point numbers are written plainly from `0.00001` up to sixteen digits in front of
the point, and with a signed exponent otherwise. -/
def floatLayout : Number.Layout := ⟨-5, 15⟩

/-- The words for what was found. -/
def Found.phrase : Found → String
  | null => "null"
  | boolean value => s!"boolean `{value}`"
  | natural n => s!"integer `{n}`"
  | negative n => s!"integer `-{n}`"
  | floating f => s!"floating point `{floatLayout.floatText f}`"
  | text s => s!"string {Text.quote s}"
  | sequence => "sequence"
  | map => "map"

/-- What is wrong. -/
inductive Complaint where
  /-- The text ends where a value should be. -/
  | endInValue
  /-- The text ends inside an object. -/
  | endInObject
  /-- The text ends inside a list. -/
  | endInList
  /-- The text ends inside a string. -/
  | endInString
  /-- No value begins with this character. -/
  | noValue
  /-- A word that begins like `null`, `true` or `false` goes on differently. -/
  | badWord
  /-- A key is not followed by a colon. -/
  | noColon
  /-- An element of a list is followed by neither a comma nor the end of the list. -/
  | noListComma
  /-- A member of an object is followed by neither a comma nor the end of the object. -/
  | noObjectComma
  /-- A member of an object does not begin with a string. -/
  | keyNotString
  /-- The last element or member is followed by a comma. -/
  | trailingComma
  /-- Something stands behind the value. -/
  | trailingCharacters
  /-- A number breaks off, or has a superfluous zero in front. -/
  | badNumber
  /-- A number is too large to be represented. -/
  | numberOutOfRange
  /-- A backslash is followed by something that cannot be escaped. -/
  | badEscape
  /-- The first half of a surrogate pair is not followed by the second. -/
  | brokenHexEscape
  /-- The second half of a surrogate pair stands where the first should, or the other way. -/
  | loneSurrogate
  /-- A control character stands in a string. -/
  | controlCharacter
  /-- A known field occurs twice. -/
  | duplicateField (name : String)
  /-- A value has the wrong type. -/
  | wrongType (found : Found) (wanted : String)
  /-- A value has the right type and lies outside the range. -/
  | wrongValue (found : Found) (wanted : String)
deriving Inhabited

/-- The words for what is wrong. -/
def Complaint.phrase : Complaint → String
  | endInValue => "EOF while parsing a value"
  | endInObject => "EOF while parsing an object"
  | endInList => "EOF while parsing a list"
  | endInString => "EOF while parsing a string"
  | noValue => "expected value"
  | badWord => "expected ident"
  | noColon => "expected `:`"
  | noListComma => "expected `,` or `]`"
  | noObjectComma => "expected `,` or `\x7d`"
  | keyNotString => "key must be a string"
  | trailingComma => "trailing comma"
  | trailingCharacters => "trailing characters"
  | badNumber => "invalid number"
  | numberOutOfRange => "number out of range"
  | badEscape => "invalid escape"
  | brokenHexEscape => "unexpected end of hex escape"
  | loneSurrogate => "lone leading surrogate in hex escape"
  | controlCharacter => "control character (\\u0000-\\u001F) found while parsing a string"
  | duplicateField name => s!"duplicate field `{name}`"
  | wrongType found wanted => s!"invalid type: {found.phrase}, expected {wanted}"
  | wrongValue found wanted => s!"invalid value: {found.phrase}, expected {wanted}"

/-! ### Places -/

/-- Something wrong, `beyond` bytes into the text `unread`. -/
structure Fault where
  /-- What is wrong. -/
  complaint : Complaint
  /-- The text from some character before the place on. -/
  unread : List Char
  /-- How many bytes of it lie before the place. -/
  beyond : Nat
deriving Inhabited

/-- Something wrong that shows at the end of what has been read. -/
def Fault.here (complaint : Complaint) (unread : List Char) : Fault := ⟨complaint, unread, 0⟩

/-- Something wrong with the next character; its place is behind the character's first byte. -/
def Fault.next (complaint : Complaint) (unread : List Char) : Fault :=
  ⟨complaint, unread, if unread.isEmpty then 0 else 1⟩

/-- How many bytes a text takes. -/
def byteLength (cs : List Char) : Nat := cs.foldl (fun n c => n + c.utf8Size) 0

/-- A line and a column. -/
structure Place where
  /-- The line, counted from one. -/
  line : Nat := 1
  /-- The column, in bytes from the last line break. -/
  column : Nat := 0
deriving DecidableEq, Repr

/-- The place `offset` bytes into a text. -/
def Place.advance (place : Place) (offset : Nat) : List Char → Place
  | [] => place
  | c :: rest =>
    if offset < c.utf8Size then { place with column := place.column + offset }
    else if c = '\n' then advance ⟨place.line + 1, 0⟩ (offset - 1) rest
    else advance ⟨place.line, place.column + c.utf8Size⟩ (offset - c.utf8Size) rest

/-- The place of a fault in the text that was read. -/
def Fault.place (fault : Fault) (whole : List Char) : Place :=
  Place.advance {} (byteLength whole - byteLength fault.unread + fault.beyond) whole

/-- The text of a fault, with its place in the text that was read. -/
def Fault.message (fault : Fault) (whole : List Char) : String :=
  let place := fault.place whole
  s!"{fault.complaint.phrase} at line {place.line} column {place.column}"

end Overlay.Json
