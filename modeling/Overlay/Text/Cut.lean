namespace Overlay.Text

/-!
# Cutting text

* `cutAt` — the parts of a text between the occurrences of a character;
* `cutAtPair` — the parts around the first occurrence of two characters in a row;
* `trim` — a text without the blanks around it.
-/

/-- Cut a text at every occurrence of a character. -/
def cutAt (sep : Char) : List Char → List (List Char)
  | [] => [[]]
  | c :: rest =>
    if c = sep then [] :: cutAt sep rest
    else
      match cutAt sep rest with
      | [] => [[c]]
      | part :: parts => (c :: part) :: parts

/-- Cut a text at the first occurrence of two characters in a row. -/
def cutAtPair (sep : Char) : List Char → Option (List Char × List Char)
  | a :: b :: rest =>
    if a = sep ∧ b = sep then some ([], rest)
    else (cutAtPair sep (b :: rest)).map fun parts => (a :: parts.1, parts.2)
  | _ => none

/-- Whether a character is blank, by the White_Space property of Unicode. -/
def isBlank (c : Char) : Bool :=
  (9 ≤ c.toNat && c.toNat ≤ 13) || c.toNat == 0x20 || c.toNat == 0x85 || c.toNat == 0xa0 ||
    c.toNat == 0x1680 || (0x2000 ≤ c.toNat && c.toNat ≤ 0x200a) || c.toNat == 0x2028 ||
    c.toNat == 0x2029 || c.toNat == 0x202f || c.toNat == 0x205f || c.toNat == 0x3000

/-- A text without the blanks at its end. -/
def trimEnd (s : List Char) : List Char := (s.reverse.dropWhile isBlank).reverse

/-- A text without the blanks around it. -/
def trim (s : List Char) : List Char := trimEnd (s.dropWhile isBlank)

/-! ### Laws -/

/-- There is always a part. -/
theorem cutAt_ne_nil (sep : Char) (s : List Char) : cutAt sep s ≠ [] := by
  cases s with
  | nil => simp [cutAt]
  | cons c rest =>
    simp only [cutAt]
    split
    · simp
    · split <;> simp

/-- The parts with the character between them are the text. -/
theorem intercalate_cutAt (sep : Char) (s : List Char) :
    [sep].intercalate (cutAt sep s) = s := by
  induction s with
  | nil => rfl
  | cons c rest ih =>
    simp only [cutAt]
    split
    · rename_i h
      have hne := cutAt_ne_nil sep rest
      cases hp : cutAt sep rest with
      | nil => exact absurd hp hne
      | cons part parts =>
        rw [hp] at ih
        simpa [List.intercalate, List.intersperse, h] using ih
    · cases hp : cutAt sep rest with
      | nil => exact absurd hp (cutAt_ne_nil sep rest)
      | cons part parts =>
        rw [hp] at ih
        cases parts with
        | nil => simpa [List.intercalate, List.intersperse] using ih
        | cons other others => simpa [List.intercalate, List.intersperse] using ih

end Overlay.Text
