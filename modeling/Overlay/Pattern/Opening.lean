import Overlay.Pattern.Cursor
import Overlay.Pattern.Tree
import Overlay.Text.Letter

namespace Overlay.Pattern

/-!
# Openings of groups

A group begins with a parenthesis. Behind it can stand a name, or flags for the group. Flags with a
parenthesis behind them are no group: they hold for all that follows.

* `readParenthesis` — reads the beginning of a group, or flags.
-/

/-! ### Flags -/

/-- The flag of a letter. -/
def flag? : Char → Option Flag
  | 'i' => some .caseless
  | 'm' => some .byLine
  | 's' => some .breaks
  | 'U' => some .modest
  | 'u' => some .unicode
  | 'R' => some .returns
  | 'x' => some .free
  | _ => none

/-- The next character as a flag, or as the minus sign between flags. None comes twice. -/
def readFlag (items : List FlagItem) (k : Cursor) (c : Char) : Except Fault FlagItem :=
  let fresh (flag : Option Flag) (complaint : Complaint) : Except Fault FlagItem :=
    match items.find? (·.flag = flag) with
    | some earlier => .error { complaint, place := k.charSpan, earlier := some earlier.place }
    | none => .ok ⟨k.charSpan, flag⟩
  if c = '-' then fresh none .repeatedMinus
  else
    match flag? c with
    | none => k.refuse .unknownFlag
    | some flag => fresh (some flag) .repeatedFlag

/-- Read flags up to a colon or a parenthesis, behind those that have been read. -/
def readFlags (k : Cursor) (items : List FlagItem) : Except Fault (List FlagItem × Cursor) :=
  match _ : k.rest with
  | [] => k.refuseHere .endInFlags
  | c :: _ =>
    if c = ':' || c = ')' then
      match items.getLast? with
      | some ⟨place, none⟩ => .error { complaint := .danglingMinus, place }
      | _ => .ok (items, k)
    else
      match readFlag items k c with
      | .error fault => .error fault
      | .ok item =>
        if k.advance.rest.isEmpty then k.advance.refuseHere .endInFlags
        else readFlags k.advance (items ++ [item])
termination_by k.rest.length
decreasing_by exact Cursor.length_rest_advance_lt (by simp [*])

/-! ### Names -/

/-- The names of groups, with their places. -/
abbrev Names := List (String × Span)

/-- Whether a character can begin a name. -/
def beginsName (c : Char) : Bool := c = '_' || Text.isLetter c

/-- Whether a character can stand in a name. -/
def belongsToName (c : Char) : Bool :=
  "_.[]".toList.contains c || Text.isLetter c || Text.isNumber c

/-- Read a name up to an angle. -/
def readName (names : Names) (k : Cursor) : Except Fault (Names × Cursor) :=
  let start := k.spot
  let name := k.rest.takeWhile (· ≠ '>')
  let good :=
    match name with
    | [] => 0
    | c :: rest => if beginsName c then (rest.takeWhile belongsToName).length + 1 else 0
  let behind := k.advanceBy name.length
  let place := behind.since start
  if good < name.length then (k.advanceBy good).refuse .badName
  else if behind.rest.isEmpty then behind.refuseHere .endInName
  else if name.isEmpty then k.refuseHere .emptyName
  else
    let name := String.ofList name
    match names.find? (·.1 = name) with
    | some earlier =>
      .error { complaint := .repeatedName, place, earlier := some earlier.2 }
    | none => .ok ((name, place) :: names, behind.advance)

/-! ### Openings -/

/-- What a parenthesis begins. -/
inductive Opening where
  /-- Flags for all that follows. -/
  | flags (place : Span) (items : List FlagItem)
  /-- A group, with flags for what is in it. Some groups are remembered. -/
  | group (place : Span) (items : List FlagItem) (isRemembered : Bool)
deriving Inhabited

/-- Whether the next characters would look ahead or behind. -/
def pastLookAround? (k : Cursor) : Option Cursor :=
  ["?=", "?!", "?<=", "?<!"].findSome? k.past?

/-- Read the beginning of a group, or flags. The parenthesis comes next. -/
def readParenthesis (names : Names) (k : Cursor) : Except Fault (Opening × Names × Cursor) :=
  let place := k.charSpan
  let k := k.step
  match pastLookAround? k with
  | some behind => behind.refuseSince place.start .lookAround
  | none =>
    match (k.past? "?P<").orElse fun _ => k.past? "?<" with
    | some inner =>
      match readName names inner with
      | .error fault => .error fault
      | .ok (names, k) => .ok (.group place [] true, names, k)
    | none =>
      match k.past? "?" with
      | none => .ok (.group place [] true, names, k)
      | some inner =>
        if inner.rest.isEmpty then .error { complaint := .openGroup, place }
        else
          match readFlags inner [] with
          | .error fault => .error fault
          | .ok (items, last) =>
            if last.rest.head? = some ':' then
              .ok (.group place items false, names, last.advance)
            else if items.isEmpty then k.refuseHere .nothingToRepeat
            else .ok (.flags (last.advance.since place.start) items, names, last.advance)

end Overlay.Pattern
