import Mathlib.Algebra.Group.Nat.Defs
import Overlay.Proofs.Decoding

namespace Overlay.Text

/-!
# The order of bytes

Texts are in the same order by their bytes as by their characters. An encoding is a first byte and
continuation bytes, each with six bits of the character's number, the highest in front. The first
byte tells how many bytes follow, and the more follow, the greater it is.

* `Precedes` — bytes that come before others, whatever is put behind both;
* `spread` — a number in bytes; `encode_eq_spread` says that encodings are made that way;
* `encode_precedes` — the encodings of two characters are in the order of the characters;
* `bytes_lt` — so are the bytes of two texts.
-/

/-- The bytes `a` come before the bytes `b`, whatever is put behind both. -/
def Precedes (a b : List UInt8) : Prop := ∀ x y, a ++ x < b ++ y

/-! ### Numbers in bytes -/

/-- How many values the first byte can take if `more` bytes follow. -/
def room : Nat → Nat
  | 0 => 0x80
  | 1 => 0x20
  | 2 => 0x10
  | _ => 8

/-- The least first byte if `more` bytes follow. -/
def mark : Nat → Nat
  | 0 => 0
  | 1 => 0xC0
  | 2 => 0xE0
  | _ => 0xF0

/-- A number in bytes: a first byte, from `base` on and with one of `values` values, and behind it
`more` continuation bytes. -/
def spread (values base : Nat) : Nat → Nat → List UInt8
  | 0, v => [UInt8.ofNat (v % values + base)]
  | more + 1, v => spread values base more (v / 64) ++ [UInt8.ofNat (v % 64 + 0x80)]

/-- How many continuation bytes the character of a number has. -/
def tailCount (v : Nat) : Nat :=
  if v ≤ 0x7F then 0 else if v ≤ 0x7FF then 1 else if v ≤ 0xFFFF then 2 else 3

/-- **Encodings** are the numbers of characters in bytes. -/
theorem encode_eq_spread (c : Char) :
    String.utf8EncodeChar c =
      spread (room (tailCount c.val.toNat)) (mark (tailCount c.val.toNat)) (tailCount c.val.toNat)
        c.val.toNat := by
  unfold String.utf8EncodeChar tailCount
  generalize c.val.toNat = v
  dsimp only
  split_ifs with hone
  · rw [spread, room, mark, Nat.mod_eq_of_lt (Nat.lt_succ_of_le hone)]
    rfl
  all_goals simp [spread, room, mark, Nat.div_div_eq_div_mul]

/-- The first byte decides. -/
theorem byte_cons_lt {m n : Nat} (h : m < n) (hn : n < 256) (x y : List UInt8) :
    UInt8.ofNat m :: x < UInt8.ofNat n :: y := by
  refine List.cons_lt_cons_iff.2 (.inl (UInt8.lt_iff_toNat_lt.2 ?_))
  rwa [toNat_byte (Nat.lt_trans h hn), toNat_byte hn]

section Spread

variable {values base values' base' more more' v w : Nat}

/-- The first byte lies in its range. -/
theorem exists_spread_eq (base more v : Nat) (hvalues : 0 < values) :
    ∃ first rest, spread values base more v = UInt8.ofNat first :: rest ∧
      base ≤ first ∧ first < values + base := by
  induction more generalizing v with
  | zero => exact ⟨_, [], rfl, Nat.le_add_left .., Nat.add_lt_add_right (Nat.mod_lt v hvalues) base⟩
  | succ more ih =>
    obtain ⟨first, rest, heq, hrange⟩ := ih (v / 64)
    exact ⟨first, rest ++ _, by rw [spread, heq, List.cons_append], hrange⟩

/-- Ranges of first bytes decide, where they are apart. -/
theorem spread_precedes_of_base (hvalues : 0 < values) (hvalues' : 0 < values')
    (hapart : values + base ≤ base') (hfits : values' + base' ≤ 256) :
    Precedes (spread values base more v) (spread values' base' more' w) := by
  obtain ⟨first, rest, heq, -, hfirst⟩ := exists_spread_eq base more v hvalues
  obtain ⟨first', rest', heq', hfirst', hlast'⟩ := exists_spread_eq base' more' w hvalues'
  intro x y
  rw [heq, heq', List.cons_append, List.cons_append]
  exact byte_cons_lt (by omega) (by omega) _ _

/-- Among numbers with equally many bytes, the first byte that is different decides. -/
theorem spread_precedes (hfits : values + base ≤ 256) (hlt : v < w) (hw : w < values * 64 ^ more) :
    Precedes (spread values base more v) (spread values base more w) := by
  induction more generalizing v w with
  | zero =>
    rw [Nat.pow_zero, Nat.mul_one] at hw
    intro x y
    rw [spread, spread, Nat.mod_eq_of_lt hw, Nat.mod_eq_of_lt (Nat.lt_trans hlt hw)]
    exact byte_cons_lt (by omega) (by omega) _ _
  | succ more ih =>
    intro x y
    rw [spread, spread, List.append_assoc, List.append_assoc]
    rcases Nat.lt_or_eq_of_le (Nat.div_le_div_right (c := 64) (Nat.le_of_lt hlt)) with hless | hsame
    · have hw' : w / 64 < values * 64 ^ more := by
        refine Nat.div_lt_of_lt_mul (Nat.lt_of_lt_of_eq hw ?_)
        rw [Nat.pow_succ, Nat.mul_comm 64, Nat.mul_assoc]
      exact ih hless hw' _ _
    -- All bytes but the last are the same.
    · rw [hsame]
      exact List.append_left_lt (byte_cons_lt (by omega) (by omega) _ _)

end Spread

/-! ### Characters and texts -/

theorem room_pos (more : Nat) : 0 < room more := by
  unfold room
  split <;> decide

theorem room_add_mark_le (more : Nat) : room more + mark more ≤ 256 := by
  unfold room mark
  split <;> decide

/-- The first bytes of longer encodings are greater. -/
theorem room_add_mark_le_mark {more more' : Nat} (h : more < more') (hmost : more' ≤ 3) :
    room more + mark more ≤ mark more' := by
  have hall : ∀ k ≤ 3, ∀ j < k, room j + mark j ≤ mark k := by decide
  exact hall more' hmost more h

theorem tailCount_le (v : Nat) : tailCount v ≤ 3 := by
  unfold tailCount
  split_ifs <;> decide

/-- The greater a number, the more bytes it has. -/
theorem tailCount_mono {v w : Nat} (h : v ≤ w) : tailCount v ≤ tailCount w := by
  unfold tailCount
  split_ifs <;> omega

/-- A character's number has enough bytes. -/
theorem lt_room {v : Nat} (h : v < 0x110000) : v < room (tailCount v) * 64 ^ tailCount v := by
  unfold tailCount
  split_ifs <;> simp only [room] <;> omega

/-- **Encodings are in the order of their characters.** -/
theorem encode_precedes {c d : Char} (h : c < d) :
    Precedes (String.utf8EncodeChar c) (String.utf8EncodeChar d) := by
  have hlt : c.val.toNat < d.val.toNat := UInt32.lt_iff_toNat_lt.1 (Char.lt_def.1 h)
  have hd : d.val.toNat < 0x110000 := by
    have hvalid : d.val.toNat < 0xD800 ∨ 0xDFFF < d.val.toNat ∧ d.val.toNat < 0x110000 := d.valid
    omega
  rw [encode_eq_spread, encode_eq_spread]
  generalize c.val.toNat = v at hlt
  generalize d.val.toNat = w at hlt hd
  rcases Nat.lt_or_eq_of_le (tailCount_mono (Nat.le_of_lt hlt)) with hfewer | hsame
  · exact spread_precedes_of_base (room_pos _) (room_pos _)
      (room_add_mark_le_mark hfewer (tailCount_le w)) (room_add_mark_le _)
  · rw [hsame]
    exact spread_precedes (room_add_mark_le _) hlt (lt_room hd)

/-- The first character that is different decides. -/
theorem encodeChars_lt {cs ds : List Char} (h : cs < ds) : encodeChars cs < encodeChars ds := by
  rw [← List.lex_lt] at h
  induction h with
  | @nil d ds =>
    obtain ⟨b, rest, hd⟩ := List.exists_cons_of_ne_nil (encode_ne_nil d)
    show [] < String.utf8EncodeChar d ++ encodeChars ds
    rw [hd]
    exact List.nil_lt_cons ..
  | rel hlt => exact encode_precedes hlt _ _
  | cons _ ih => exact List.append_left_lt ih

/-- **The bytes of texts are in the order of the texts.** -/
theorem bytes_lt {s t : String} (h : s < t) : s.toUTF8.data.toList < t.toUTF8.data.toList := by
  rw [bytes_toUTF8, bytes_toUTF8]
  exact encodeChars_lt (String.lt_iff.1 h)

end Overlay.Text
