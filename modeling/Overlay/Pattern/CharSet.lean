namespace Overlay.Pattern

/-!
# Sets of characters

A set of characters is given by its edges: going up through all characters, membership changes at
each edge. Characters are counted without the gap that code points have.

* `CharSet.has` — membership;
* `CharSet.union`, `intersect`, `subtract`, `exclude`, `complement` — new sets out of old ones.

Sets of letters are told without regard to case only where both letters are in a set. For sets of
characters this cannot be worked out, but some sets are known to be that way (`isEven`).
-/

/-- The place of a character among all characters. -/
def rank (c : Char) : Nat := if c.toNat < 0xd800 then c.toNat else c.toNat - 0x800

/-- The number of all characters. -/
def charCount : Nat := 0x10f800

/-- The number of all bytes. -/
def byteCount : Nat := 256

/-- A set of characters. -/
structure CharSet where
  /-- The places where membership changes, in ascending order. -/
  edges : List Nat := []
  /-- Whether the set is known to have both letters or none of each pair. -/
  isEven : Bool := true
deriving DecidableEq, Inhabited, Repr

namespace CharSet

/-! ### Edges -/

/-- Put an edge in front where membership changes. -/
def changeAt (x : Nat) (was is : Bool) (edges : List Nat) : List Nat :=
  if was = is then edges else x :: edges

/-- The edges of a set made of two. So far the answers for them are `p` and `q`. -/
def combine (f : Bool → Bool → Bool) (p q : Bool) : List Nat → List Nat → List Nat
  | [], [] => []
  | x :: xs, [] => changeAt x (f p q) (f (!p) q) (combine f (!p) q xs [])
  | [], y :: ys => changeAt y (f p q) (f p (!q)) (combine f p (!q) [] ys)
  | x :: xs, y :: ys =>
    if x < y then changeAt x (f p q) (f (!p) q) (combine f (!p) q xs (y :: ys))
    else if y < x then changeAt y (f p q) (f p (!q)) (combine f p (!q) (x :: xs) ys)
    else changeAt x (f p q) (f (!p) (!q)) (combine f (!p) (!q) xs ys)
termination_by xs ys => xs.length + ys.length

/-- Whether a place lies behind an odd number of edges. -/
def isInside (x : Nat) : List Nat → Bool
  | [] => false
  | e :: rest => if e ≤ x then !isInside x rest else false

/-! ### Sets -/

/-- Whether a character is in a set. -/
def has (s : CharSet) (c : Char) : Bool := isInside (rank c) s.edges

/-- The empty set. -/
def empty : CharSet := {}

/-- The set of all below a number. -/
def below (count : Nat) : CharSet := { edges := [0, count] }

/-- All characters from one to another. -/
def range (first last : Char) : CharSet :=
  { edges := [rank first, rank last + 1], isEven := false }

/-- One character. -/
def single (c : Char) : CharSet := range c c

/-- What is in one of two sets. -/
def union (s t : CharSet) : CharSet :=
  if t.edges.isEmpty ∨ s.edges = t.edges then s
  else ⟨combine or false false s.edges t.edges, s.isEven && t.isEven⟩

/-- What is in both of two sets. -/
def intersect (s t : CharSet) : CharSet :=
  if s.edges.isEmpty then s
  else if t.edges.isEmpty then empty
  else ⟨combine and false false s.edges t.edges, s.isEven && t.isEven⟩

/-- What is in the first of two sets only. -/
def subtract (s t : CharSet) : CharSet :=
  if s.edges.isEmpty ∨ t.edges.isEmpty then s
  else ⟨combine (fun p q => p && !q) false false s.edges t.edges, s.isEven && t.isEven⟩

/-- What is in one of two sets only. -/
def exclude (s t : CharSet) : CharSet := (s.union t).subtract (s.intersect t)

/-- What is not in a set, of all below a number. -/
def complement (count : Nat) (s : CharSet) : CharSet :=
  if s.edges.isEmpty then below count
  else ⟨combine (fun p q => q && !p) false false s.edges [0, count], s.isEven⟩

/-- The characters of several ranges. -/
def ofRanges (ranges : List (Char × Char)) : CharSet :=
  ranges.foldl (fun s r => s.union (range r.1 r.2)) empty

/-- Whether all in a set is below a number. -/
def isBelow (s : CharSet) (count : Nat) : Bool := s.edges.all (· ≤ count)

/-- Move a set up and then down. -/
def shift (s : CharSet) (up down : Nat) : CharSet :=
  { s with edges := s.edges.map (· + up - down) }

/-- A set with the other letter for every plain letter in it. -/
def evenOut (s : CharSet) : CharSet :=
  let raised := (s.intersect (range 'A' 'Z')).shift 32 0
  let lowered := (s.intersect (range 'a' 'z')).shift 0 32
  { (s.union raised).union lowered with isEven := true }

/-! ### Laws -/

/-- Edges in ascending order, all from a place on. -/
def Ascending (low : Nat) : List Nat → Prop
  | [] => True
  | e :: rest => low ≤ e ∧ Ascending (e + 1) rest

theorem ascending_nil {low : Nat} : Ascending low [] := trivial

theorem Ascending.mono {low high : Nat} {edges : List Nat} (h : Ascending high edges)
    (le : low ≤ high) : Ascending low edges := by
  cases edges with
  | nil => trivial
  | cons e rest => exact ⟨Nat.le_trans le h.1, h.2⟩

/-- Nothing lies inside before the first edge. -/
theorem isInside_of_lt {x low : Nat} {edges : List Nat} (h : Ascending low edges)
    (lt : x < low) : isInside x edges = false := by
  cases edges with
  | nil => rfl
  | cons e rest =>
    have : ¬e ≤ x := by have := h.1; omega
    simp [isInside, this]

/-- Whether a place is inside, with an edge put in front. -/
theorem isInside_changeAt {x e : Nat} {was is : Bool} {edges : List Nat}
    (h : Ascending (e + 1) edges) :
    (was ^^ isInside x (changeAt e was is edges)) =
      if e ≤ x then is ^^ isInside x edges else was := by
  unfold changeAt
  by_cases same : was = is
  · rw [if_pos same]
    split
    · rw [same]
    · rw [isInside_of_lt h (by omega), Bool.xor_false]
  · rw [if_neg same]
    simp only [isInside]
    split
    · revert same
      cases was <;> cases is <;> simp
    · rw [Bool.xor_false]

theorem ascending_changeAt {low e : Nat} {was is : Bool} {edges : List Nat} (le : low ≤ e)
    (h : Ascending (e + 1) edges) : Ascending low (changeAt e was is edges) := by
  unfold changeAt
  split
  · exact h.mono (by omega)
  · exact ⟨le, h⟩

theorem ascending_combine {f : Bool → Bool → Bool} {p q : Bool} {low : Nat} {xs ys : List Nat}
    (hx : Ascending low xs) (hy : Ascending low ys) : Ascending low (combine f p q xs ys) := by
  fun_induction combine f p q xs ys generalizing low with
  | case1 => trivial
  | case2 p q x xs ih => exact ascending_changeAt hx.1 (ih hx.2 ascending_nil)
  | case3 p q y ys ih => exact ascending_changeAt hy.1 (ih ascending_nil hy.2)
  | case4 p q x xs y ys lt ih =>
    exact ascending_changeAt hx.1 (ih hx.2 ⟨lt, hy.2⟩)
  | case5 p q x xs y ys _ lt ih =>
    exact ascending_changeAt hy.1 (ih ⟨lt, hx.2⟩ hy.2)
  | case6 p q x xs y ys _ _ ih =>
    have : x = y := by omega
    subst this
    exact ascending_changeAt hx.1 (ih hx.2 hy.2)

/-- A place is inside of the set made of two just as it is inside of these. -/
theorem isInside_combine {f : Bool → Bool → Bool} {p q : Bool} {low x : Nat} {xs ys : List Nat}
    (hx : Ascending low xs) (hy : Ascending low ys) :
    (f p q ^^ isInside x (combine f p q xs ys)) =
      f (p ^^ isInside x xs) (q ^^ isInside x ys) := by
  fun_induction combine f p q xs ys generalizing low with
  | case1 => simp [isInside]
  | case2 p q e xs ih =>
    rw [isInside_changeAt (ascending_combine hx.2 ascending_nil)]
    by_cases le : e ≤ x
    · simp [le, isInside, ih hx.2 ascending_nil]
    · simp [le, isInside]
  | case3 p q e ys ih =>
    rw [isInside_changeAt (ascending_combine ascending_nil hy.2)]
    by_cases le : e ≤ x
    · simp [le, isInside, ih ascending_nil hy.2]
    · simp [le, isInside]
  | case4 p q e xs d ys lt ih =>
    have hd : Ascending (e + 1) (d :: ys) := ⟨lt, hy.2⟩
    rw [isInside_changeAt (ascending_combine hx.2 hd)]
    by_cases le : e ≤ x
    · simp [le, isInside, ih hx.2 hd]
    · have : ¬d ≤ x := by omega
      simp [le, this, isInside]
  | case5 p q e xs d ys _ lt ih =>
    have he : Ascending (d + 1) (e :: xs) := ⟨lt, hx.2⟩
    rw [isInside_changeAt (ascending_combine he hy.2)]
    by_cases le : d ≤ x
    · simp [le, isInside, ih he hy.2]
    · have : ¬e ≤ x := by omega
      simp [le, this, isInside]
  | case6 p q e xs d ys _ _ ih =>
    have : e = d := by omega
    subst this
    rw [isInside_changeAt (ascending_combine hx.2 hy.2)]
    by_cases le : e ≤ x
    · simp [le, isInside, ih hx.2 hy.2]
    · simp [le, isInside]

end CharSet

end Overlay.Pattern
