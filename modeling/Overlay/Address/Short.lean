import Overlay.Address

namespace Overlay.Address

/-!
# Short forms of addresses

The octets of a version 4 address may be written as fewer than four numbers. Then the last number
fills all the octets that are left: `127.1` is `127.0.0.1`. Each number can be decimal, octal
behind a zero, or hexadecimal behind `0x`.

* `shortOctets?` — reads the octets;
* `shortForm?` — reads an address with a port.
-/

/-- Read a number below `2 ^ 32` in the base that its beginning tells. -/
def prefixedNumber? : List Char → Option Nat
  | '0' :: 'x' :: digits | '0' :: 'X' :: digits => number? 16 scopeBound digits
  | '0' :: digits => if digits.isEmpty then some 0 else number? 8 scopeBound digits
  | digits => number? 10 scopeBound digits

/-- A number as so many octets, the highest first. -/
def spread (n : Nat) : Nat → List UInt8
  | 0 => []
  | width + 1 => (n / Nat.pow 256 width).toUInt8 :: spread n width

/-- Read four octets from one to four numbers. -/
def shortOctets? (s : List Char) : Option (List UInt8) := do
  let numbers ← (Text.cutAt '.' s).mapM prefixedNumber?
  let front := numbers.dropLast
  let last ← numbers.getLast?
  if front.length < 4 ∧ front.all (· < 256) ∧ last < Nat.pow 256 (4 - front.length) then
    return front.map Nat.toUInt8 ++ spread last (4 - front.length)
  else
    none

/-- Read a version 4 address in a short form, with a port. -/
def shortForm? (s : String) : Option Address :=
  match Text.cutAt ':' s.toList with
  | [octets, port] => do
    let octets ← shortOctets? octets
    let port ← port? port
    return .v4 octets port
  | _ => none

/-! ### Laws -/

/-- A number is spread over as many octets as there are to fill. -/
@[simp]
theorem length_spread (n width : Nat) : (spread n width).length = width := by
  induction width with
  | zero => rfl
  | succ width ih => simp [spread, ih]

/-- Whatever the form, four octets are read. -/
theorem length_shortOctets? {s : List Char} {octets : List UInt8}
    (h : shortOctets? s = some octets) : octets.length = 4 := by
  unfold shortOctets? at h
  simp only [Option.bind_eq_bind, Option.bind_eq_some_iff] at h
  obtain ⟨numbers, -, last, -, h⟩ := h
  split at h
  · rename_i within
    obtain ⟨short, -⟩ := within
    cases h
    simp only [List.length_append, List.length_map, length_spread]
    omega
  · cases h

end Overlay.Address
