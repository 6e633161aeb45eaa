namespace Overlay.Number

/-!
# The shortest decimal of a floating-point number

Of all decimals that read back as a given number, the one with the fewest digits, and of those
the nearest. The numbers that read back as `m · 2 ^ q` form an interval around it; the search
goes through the decimal grids of 1, 2, … 17 digits and tests the two neighbours on each grid in
exact integer arithmetic. The bounds of the interval belong to it if and only if `m` is even.
-/

/-- A finite number above zero as `m · 2 ^ q`, taken from the bits of its encoding. -/
structure Binary where
  /-- The significand. -/
  m : Nat
  /-- The exponent. -/
  q : Int
  /-- Whether the number below lies only half as far away as the number above. -/
  narrowBelow : Bool
deriving DecidableEq, Repr

/-- Bits of the fraction in an encoding. -/
def fractionBits : Nat := 52

/-- Bits of an encoding below the sign. -/
def unsignedBits : Nat := 63

/-- Split the encoding of a finite number, the sign aside. -/
def Binary.ofBits (bits : UInt64) : Binary :=
  let unit := Nat.pow 2 fractionBits
  let fraction := bits.toNat % unit
  let exponent := bits.toNat % Nat.pow 2 unsignedBits / unit
  if exponent = 0 then ⟨fraction, -1074, false⟩
  else ⟨unit + fraction, (exponent : Int) - 1075, fraction = 0 && exponent > 1⟩

/-- A decimal `digits · 10 ^ exponent`. -/
structure Decimal where
  /-- The digits, as a number. -/
  digits : Nat
  /-- The power of ten they are multiplied by. -/
  exponent : Int
deriving DecidableEq, Repr

/-- The positive rational `a · 2 ^ b · 10 ^ c` as a numerator and a denominator. -/
def ratio (a : Nat) (b c : Int) : Nat × Nat :=
  (a * Nat.pow 2 b.toNat * Nat.pow 10 c.toNat, Nat.pow 2 (-b).toNat * Nat.pow 10 (-c).toNat)

/-- Whether a rational is at most another. -/
def ratioLe (x y : Nat × Nat) : Bool := x.1 * y.2 ≤ y.1 * x.2

/-- Whether a rational is less than another. -/
def ratioLt (x y : Nat × Nat) : Bool := x.1 * y.2 < y.1 * x.2

/-- Whether a decimal reads back as `b`: it lies between the midpoints to the neighbours. -/
def readsBack (b : Binary) (d : Decimal) : Bool :=
  let x := ratio d.digits 0 d.exponent
  let below :=
    if b.narrowBelow then ratio (4 * b.m - 1) (b.q - 2) 0 else ratio (2 * b.m - 1) (b.q - 1) 0
  let above := ratio (2 * b.m + 1) (b.q - 1) 0
  if b.m % 2 = 0 then ratioLe below x && ratioLe x above
  else ratioLt below x && ratioLt x above

/-- The neighbours of `b` on the grid of multiples of `10 ^ e`: the one at or below it, and
whether the one above is nearer, with a half going to the even digit. -/
def onGrid (b : Binary) (e : Int) : Nat × Bool :=
  let (n, d) := ratio b.m b.q (-e)
  let low := n / d
  let twice := 2 * (n % d)
  (low, d < twice || (twice = d && low % 2 = 1))

/-- The decimal on the grid of multiples of `10 ^ e` that reads back as `b`, if there is one;
of two, the nearer. -/
def pick (b : Binary) (e : Int) : Option Decimal :=
  let (low, upNearer) := onGrid b e
  let down : Decimal := ⟨low, e⟩
  let up : Decimal := ⟨low + 1, e⟩
  let (near, far) := if upNearer then (up, down) else (down, up)
  if readsBack b near && near.digits ≠ 0 then some near
  else if readsBack b far && far.digits ≠ 0 then some far
  else none

/-- The power of ten of the first digit of `b`, or one more. -/
def magnitude (b : Binary) : Int :=
  let (n, d) := ratio b.m b.q 0
  if d ≤ n then ((n / d).repr.length : Int) - 1 else -((d / n).repr.length : Int)

/-- Go through finer and finer grids, starting with multiples of `10 ^ e`. -/
def search (b : Binary) (e : Int) : Nat → Decimal
  | 0 => ⟨(onGrid b e).1, e⟩
  | n + 1 =>
    match pick b e with
    | some d => d
    | none => search b (e - 1) n

/-- The shortest decimal that reads back as `b`. -/
def shortest (b : Binary) : Decimal := search b (magnitude b + 1) 20

/-! ### Writing it down -/

/-- How the text of a number is laid out. -/
structure Layout where
  /-- The least power of ten of a first digit that is written without an exponent. -/
  plainFrom : Int
  /-- The greatest power of ten of a first digit that is written without an exponent. -/
  plainTo : Int

/-- The text of a decimal, laid out with a point and at least one digit on each side of it, or
with a point behind the first digit and an exponent with its sign. -/
def Layout.text (layout : Layout) (d : Decimal) : String :=
  let digits := (toString d.digits).toList
  let kept := (digits.reverse.dropWhile (· = '0')).reverse
  let first : Int := d.exponent + digits.length - 1
  if layout.plainFrom ≤ first && first ≤ layout.plainTo then
    if first < 0 then
      "0." ++ String.ofList (List.replicate (-first - 1).toNat '0' ++ kept)
    else
      let whole := first.toNat + 1
      let front := kept.take whole ++ List.replicate (whole - kept.length) '0'
      let back := kept.drop whole
      String.ofList front ++ "." ++ (if back.isEmpty then "0" else String.ofList back)
  else
    let mantissa :=
      match kept with
      | [] => "0"
      | [c] => c.toString
      | c :: rest => c.toString ++ "." ++ String.ofList rest
    let sign := if first < 0 then "-" else "+"
    mantissa ++ "e" ++ sign ++ toString first.natAbs

/-- The text of a finite number. -/
def Layout.floatText (layout : Layout) (f : Float) : String :=
  let bits := f.toBits
  let signUnit := Nat.pow 2 unsignedBits
  let sign := if bits.toNat / signUnit = 1 then "-" else ""
  if bits.toNat % signUnit = 0 then sign ++ "0.0"
  else sign ++ layout.text (shortest (.ofBits bits))

end Overlay.Number
