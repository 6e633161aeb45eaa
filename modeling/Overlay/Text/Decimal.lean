namespace Overlay.Text

/-!
# Decimal numbers in text

Whole numbers are written as an optional sign and ASCII digits, any number of leading zeros
included, and nothing else: no blanks, no separators, no other digits.

* `unsigned limit` reads a number up to `limit`, with an optional plus sign;
* `signed` reads a 64-bit signed number, with an optional sign.

Digits are taken from the left, and the first that does not fit decides the fault.
-/

/-- Why a text is not a number of the range asked for. -/
inductive NumberFault where
  /-- There is no text. -/
  | empty
  /-- A character is no digit, or there is no digit. -/
  | invalidDigit
  /-- The number is above the range. -/
  | tooLarge
  /-- The number is below the range. -/
  | tooSmall
deriving DecidableEq, Inhabited, Repr

/-- The text of a number fault. -/
def NumberFault.message : NumberFault → String
  | empty => "cannot parse integer from empty string"
  | invalidDigit => "invalid digit found in string"
  | tooLarge => "number too large to fit in target type"
  | tooSmall => "number too small to fit in target type"

/-- The value of a decimal digit. -/
def digitValue (c : Char) : Nat := c.toNat - '0'.toNat

/-- Read digits behind the number read so far; `beyond` is the fault above `limit`. -/
def digitsOnto (limit : Nat) (beyond : NumberFault) (read : Nat) :
    List Char → Except NumberFault Nat
  | [] => .ok read
  | c :: rest =>
    if c.isDigit then
      let number := read * 10 + digitValue c
      if limit < number then .error beyond else digitsOnto limit beyond number rest
    else
      .error .invalidDigit

/-- Read at least one digit. -/
def digits (limit : Nat) (beyond : NumberFault) : List Char → Except NumberFault Nat
  | [] => .error .invalidDigit
  | cs => digitsOnto limit beyond 0 cs

/-- Read a number from `0` to `limit`: an optional plus sign, then digits. -/
def unsigned (limit : Nat) (s : String) : Except NumberFault Nat :=
  match s.toList with
  | [] => .error .empty
  | '+' :: rest => digits limit .tooLarge rest
  | cs => digits limit .tooLarge cs

/-- Largest signed number, `2 ^ 63 - 1`. -/
def signedLimit : Nat := 9223372036854775807

/-- Read a number from `-2 ^ 63` to `2 ^ 63 - 1`: an optional sign, then digits. -/
def signed (s : String) : Except NumberFault Int :=
  match s.toList with
  | [] => .error .empty
  | '+' :: rest => (digits signedLimit .tooLarge rest).map Int.ofNat
  | '-' :: rest => (digits (signedLimit + 1) .tooSmall rest).map fun n => -Int.ofNat n
  | cs => (digits signedLimit .tooLarge cs).map Int.ofNat

/-- Largest port number. -/
def portLimit : Nat := 65535

/-- Read a port number. -/
def port (s : String) : Except NumberFault UInt16 :=
  (unsigned portLimit s).map Nat.toUInt16

end Overlay.Text
