import Overlay.Text.Cut
import Overlay.Text.Quoted

namespace Overlay

/-!
# Addresses of sockets

A peer or a listener is found at an IP address and a port, written `10.0.0.1:8888` or
`[2001:db8::1]:8888`.

* `Address.parse?` — reads both forms, with leading zeros in the port but not in an octet;
* `Address.text` — the one written form: the longest run of two or more zero groups of a
  version 6 address, and of equal ones the first, is written `::`.
-/

/-- Where a socket is. -/
inductive Address where
  /-- A version 4 address: four octets and a port. -/
  | v4 (octets : List UInt8) (port : UInt16)
  /-- A version 6 address: eight groups, the number of an interface, and a port. -/
  | v6 (groups : List UInt16) (scope : Nat) (port : UInt16)
deriving DecidableEq, Inhabited, Repr

namespace Address

/-! ### Reading -/

/-- Read a number below `bound` from at least one digit of a base. -/
def number? (base bound : Nat) (digits : List Char) : Option Nat :=
  if digits.isEmpty then none
  else
    digits.foldlM (fun n c =>
      let d :=
        if c.isDigit then c.toNat - '0'.toNat
        else if 'a' ≤ c ∧ c ≤ 'f' then c.toNat - 'a'.toNat + 10
        else if 'A' ≤ c ∧ c ≤ 'F' then c.toNat - 'A'.toNat + 10
        else base
      if d < base ∧ n * base + d < bound then some (n * base + d) else none) 0

/-- Read an octet: at most three digits, and no zero in front of another digit. -/
def octet? (digits : List Char) : Option UInt8 :=
  if digits.length > 3 ∨ (digits.length > 1 ∧ digits.head? = some '0') then none
  else (number? 10 256 digits).map Nat.toUInt8

/-- Read four octets. -/
def octets? (s : List Char) : Option (List UInt8) :=
  match (Text.cutAt '.' s).mapM octet? with
  | some octets => if octets.length = 4 then some octets else none
  | none => none

/-- Read a group of at most four hexadecimal digits. -/
def group? (digits : List Char) : Option UInt16 :=
  if digits.length > 4 then none else (number? 16 65536 digits).map Nat.toUInt16

/-- Two octets as one group. -/
def pairUp (a b : UInt8) : UInt16 := (a.toNat * 256 + b.toNat).toUInt16

/-- Read groups; where `tail` allows it, the last two may be written as four octets. -/
def groups? (tail : Bool) : List (List Char) → Option (List UInt16)
  | [] => some []
  | [last] =>
    match octets? last with
    | some [a, b, c, d] => if tail then some [pairUp a b, pairUp c d] else none
    | _ => (group? last).map fun g => [g]
  | part :: parts => do
    let g ← group? part
    let gs ← groups? tail parts
    return g :: gs

/-- The groups of one side of `::`, which may be missing. -/
def side? (tail : Bool) (s : List Char) : Option (List UInt16) :=
  if s.isEmpty then some [] else groups? tail (Text.cutAt ':' s)

/-- Read the eight groups of a version 6 address. -/
def v6Groups? (s : List Char) : Option (List UInt16) :=
  match Text.cutAtPair ':' s with
  | none => (side? true s).filter (·.length = 8)
  | some (front, back) => do
    let front ← side? false front
    let back ← side? true back
    if front.length + back.length < 8 then
      return front ++ List.replicate (8 - front.length - back.length) 0 ++ back
    else
      none

/-- Read a port. -/
def port? (s : List Char) : Option UInt16 := (number? 10 65536 s).map Nat.toUInt16

/-- The number of an interface lies below this, `2 ^ 32`. -/
def scopeBound : Nat := 4294967296

/-- Read a version 6 address between brackets, with an interface number behind a percent sign. -/
def v6? (inner : List Char) (port : List Char) : Option Address := do
  let (address, scope) := inner.span (· ≠ '%')
  let groups ← v6Groups? address
  let scope ← if scope.isEmpty then some 0 else number? 10 scopeBound scope.tail
  let port ← port? port
  return .v6 groups scope port

/-- Read a socket address. -/
def parse? (s : String) : Option Address :=
  match s.toList with
  | '[' :: rest =>
    match rest.span (· ≠ ']') with
    | (inner, ']' :: ':' :: port) => v6? inner port
    | _ => none
  | cs =>
    match Text.cutAt ':' cs with
    | [octets, port] => do
      let octets ← octets? octets
      let port ← port? port
      return .v4 octets port
    | _ => none

/-! ### Writing -/

/-- Four octets with dots between them. -/
def octetsText (octets : List UInt8) : String :=
  String.intercalate "." (octets.map fun o => toString o.toNat)

/-- Groups with colons between them. -/
def groupsText (groups : List UInt16) : String :=
  String.intercalate ":" (groups.map fun g => Text.hexDigits g.toNat)

/-- Start and length of the longest run of zeros, counted from position `at`. -/
def longestZeros (start : Nat) : List UInt16 → Nat × Nat
  | [] => (start, 0)
  | g :: rest =>
    let here := ((g :: rest).takeWhile (· = 0)).length
    let later := longestZeros (start + 1) rest
    if here < later.2 then later else (start, here)

/-- A version 6 address without brackets. -/
def v6Text (groups : List UInt16) : String :=
  match groups with
  | [0, 0, 0, 0, 0, 0xffff, a, b] =>
    "::ffff:" ++ octetsText
      [(a.toNat / 256).toUInt8, a.toUInt8, (b.toNat / 256).toUInt8, b.toUInt8]
  | groups =>
    let (start, count) := longestZeros 0 groups
    if count < 2 then groupsText groups
    else groupsText (groups.take start) ++ "::" ++ groupsText (groups.drop (start + count))

/-- The written form of a socket address. -/
def text : Address → String
  | v4 octets port => octetsText octets ++ ":" ++ toString port.toNat
  | v6 groups scope port =>
    let scope := if scope = 0 then "" else "%" ++ toString scope
    "[" ++ v6Text groups ++ scope ++ "]:" ++ toString port.toNat

/-- The port of a socket address. -/
def port : Address → UInt16
  | v4 _ port => port
  | v6 _ _ port => port

end Address

end Overlay
