namespace Overlay.Text

/-!
# Ranges of characters

A kind of characters is kept as a table of ranges of code points, in ascending order; both ends
belong to a range.
-/

/-- Whether a character lies in one of some ranges. -/
def inRanges (ranges : Array (Nat × Nat)) (c : Char) : Bool :=
  ranges.any fun range => range.1 ≤ c.toNat && c.toNat ≤ range.2

end Overlay.Text
