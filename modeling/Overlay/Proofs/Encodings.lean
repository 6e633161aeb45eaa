import Mathlib.Data.List.Basic
import Mathlib.Tactic.Common
import Overlay.Text.Lossy

namespace Overlay.Text

/-!
# What encodings look like

The first byte of a character's encoding promises what follows it: nothing, or a second byte within
bounds and continuation bytes behind that. The promise is exact. Whatever keeps it is the encoding
of a character, and every encoding keeps it.

* `Lead.of_cases` — the table of first bytes;
* `Follows`, `Shape` — bytes that can stand behind a first byte, and all of those it asks for;
* `encode_of_follows`, `shape_of_encode` — the two directions;
* `begins_cons_iff` — exactly which byte strings an encoding begins with.
-/

/-- A continuation byte. -/
def IsTail (b : UInt8) : Prop := 0x80 ≤ b.toNat ∧ b.toNat ≤ 0xBF

/-- Bytes that can stand behind a first byte, some of which may be missing: the second byte lies
between its bounds, and continuation bytes follow. -/
def Follows (low high : UInt8) : List UInt8 → Prop
  | [] => True
  | x :: more => low ≤ x ∧ x ≤ high ∧ ∀ y ∈ more, IsTail y

/-- The bytes `part` are all that the first byte `b` asks for. -/
def Shape (b : UInt8) (part : List UInt8) : Prop :=
  (Lead.of b = .single ∧ part = []) ∨ ∃ bits low high more,
    Lead.of b = .opens bits low high more ∧ part.length = more + 1 ∧ Follows low high part

/-- The encoding of some character begins with these bytes. -/
def Begins (bytes : List UInt8) : Prop := ∃ c, bytes <+: String.utf8EncodeChar c

theorem Follows.of_append {low high : UInt8} {part more : List UInt8}
    (h : Follows low high (part ++ more)) : Follows low high part := by
  cases part with
  | nil => trivial
  | cons x part =>
    obtain ⟨hlow, hhigh, htails⟩ := h
    exact ⟨hlow, hhigh, fun y hy => htails y (List.mem_append_left more hy)⟩

/-- First bytes, by what they promise. -/
theorem Lead.of_cases (b : UInt8) :
    (b.toNat < 0x80 ∧ Lead.of b = .single) ∨
    (0xC2 ≤ b.toNat ∧ b.toNat < 0xE0 ∧ Lead.of b = .opens (b.toNat - 0xC0) 0x80 0xBF 0) ∨
    (0xE0 ≤ b.toNat ∧ b.toNat < 0xF0 ∧ Lead.of b = .opens (b.toNat - 0xE0)
      (if b = 0xE0 then 0xA0 else 0x80) (if b = 0xED then 0x9F else 0xBF) 1) ∨
    (0xF0 ≤ b.toNat ∧ b.toNat < 0xF5 ∧ Lead.of b = .opens (b.toNat - 0xF0)
      (if b = 0xF0 then 0x90 else 0x80) (if b = 0xF4 then 0x8F else 0xBF) 2) ∨
    ((0x80 ≤ b.toNat ∧ b.toNat < 0xC2 ∨ 0xF5 ≤ b.toNat) ∧ Lead.of b = .invalid) := by
  unfold Lead.of
  simp only [UInt8.lt_iff_toNat_lt, ← UInt8.toNat_inj, UInt8.reduceToNat]
  split_ifs <;> simp_all <;> omega

/-- The bounds of a second byte leave room for one, and it is a continuation byte. -/
theorem Lead.bounds {b : UInt8} {bits more : Nat} {low high : UInt8}
    (h : Lead.of b = .opens bits low high more) :
    0x80 ≤ low.toNat ∧ low.toNat ≤ high.toNat ∧ high.toNat ≤ 0xBF := by
  rcases Lead.of_cases b with ⟨_, hl⟩ | ⟨_, _, hl⟩ | ⟨_, _, hl⟩ | ⟨_, _, hl⟩ | ⟨_, hl⟩ <;>
    simp only [hl, reduceCtorEq, Lead.opens.injEq] at h <;> obtain ⟨-, rfl, rfl, -⟩ := h
  · decide
  · split_ifs <;> simp_all
  · split_ifs <;> simp_all

theorem Follows.isTail {b : UInt8} {bits more : Nat} {low high : UInt8} {part : List UInt8}
    (h : Follows low high part) (hlead : Lead.of b = .opens bits low high more) :
    ∀ y ∈ part, IsTail y := by
  have hbounds := Lead.bounds hlead
  intro y hy
  cases part with
  | nil => simp at hy
  | cons x part =>
    obtain ⟨hlow, hhigh, htails⟩ := h
    simp only [UInt8.le_iff_toNat_le] at hlow hhigh
    rcases List.mem_cons.1 hy with rfl | hy
    · exact ⟨by omega, by omega⟩
    · exact htails y hy

theorem lead_single_iff {b : UInt8} : Lead.of b = .single ↔ b.toNat < 0x80 := by
  rcases Lead.of_cases b with ⟨h, hl⟩ | ⟨h, _, hl⟩ | ⟨h, _, hl⟩ | ⟨h, _, hl⟩ | ⟨h, hl⟩ <;>
    simp only [hl, reduceCtorEq, true_iff, false_iff] <;> omega

/-! ### From bytes to a character -/

theorem toNat_ofNat {v : Nat} (h : v.isValidChar) : (Char.ofNat v).val.toNat = v := by
  unfold Char.ofNat
  rw [dif_pos h]
  rfl

theorem addBits_of_tail {x : UInt8} (h : IsTail x) (bits : Nat) :
    addBits bits x = bits * 64 + (x.toNat - 0x80) := by
  unfold IsTail at h
  unfold addBits
  omega

theorem encode_one {b : UInt8} (hb : b.toNat < 0x80) :
    String.utf8EncodeChar (Char.ofNat b.toNat) = [b] := by
  have hc := toNat_ofNat (v := b.toNat) (.inl (by omega))
  unfold String.utf8EncodeChar
  simp only [hc]
  rw [if_pos (by omega)]
  simp

theorem encode_two {b x : UInt8} (hb : 0xC2 ≤ b.toNat ∧ b.toNat < 0xE0) (hx : IsTail x) :
    String.utf8EncodeChar (Char.ofNat (addBits (b.toNat - 0xC0) x)) = [b, x] := by
  rw [addBits_of_tail hx]
  unfold IsTail at hx
  have hc := toNat_ofNat (v := (b.toNat - 0xC0) * 64 + (x.toNat - 0x80)) (.inl (by omega))
  unfold String.utf8EncodeChar
  simp only [hc]
  rw [if_neg (by omega), if_pos (by omega)]
  simp only [List.cons.injEq, ← UInt8.toNat_inj, UInt8.toNat_ofNat', and_true]
  omega

theorem encode_three {b x y : UInt8} (hb : 0xE0 ≤ b.toNat ∧ b.toNat < 0xF0)
    (hx : IsTail x) (hy : IsTail y) (hlow : b.toNat = 0xE0 → 0xA0 ≤ x.toNat)
    (hhigh : b.toNat = 0xED → x.toNat ≤ 0x9F) :
    String.utf8EncodeChar (Char.ofNat (addBits (addBits (b.toNat - 0xE0) x) y)) = [b, x, y] := by
  rw [addBits_of_tail hx, addBits_of_tail hy]
  unfold IsTail at hx hy
  have hc := toNat_ofNat
    (v := ((b.toNat - 0xE0) * 64 + (x.toNat - 0x80)) * 64 + (y.toNat - 0x80))
    (by unfold Nat.isValidChar; omega)
  unfold String.utf8EncodeChar
  simp only [hc]
  rw [if_neg (by omega), if_neg (by omega), if_pos (by omega)]
  simp only [List.cons.injEq, ← UInt8.toNat_inj, UInt8.toNat_ofNat', and_true]
  omega

theorem encode_four {b x y z : UInt8} (hb : 0xF0 ≤ b.toNat ∧ b.toNat < 0xF5)
    (hx : IsTail x) (hy : IsTail y) (hz : IsTail z) (hlow : b.toNat = 0xF0 → 0x90 ≤ x.toNat)
    (hhigh : b.toNat = 0xF4 → x.toNat ≤ 0x8F) :
    String.utf8EncodeChar (Char.ofNat (addBits (addBits (addBits (b.toNat - 0xF0) x) y) z)) =
      [b, x, y, z] := by
  rw [addBits_of_tail hx, addBits_of_tail hy, addBits_of_tail hz]
  unfold IsTail at hx hy hz
  have hc := toNat_ofNat
    (v := (((b.toNat - 0xF0) * 64 + (x.toNat - 0x80)) * 64 + (y.toNat - 0x80)) * 64 +
      (z.toNat - 0x80)) (by unfold Nat.isValidChar; omega)
  unfold String.utf8EncodeChar
  simp only [hc]
  rw [if_neg (by omega), if_neg (by omega), if_neg (by omega)]
  simp only [List.cons.injEq, ← UInt8.toNat_inj, UInt8.toNat_ofNat', and_true]
  omega

/-- **All that a first byte asks for is an encoding**, of the character with the bits gathered. -/
theorem encode_of_follows {b : UInt8} {bits more : Nat} {low high : UInt8} {part : List UInt8}
    (h : Lead.of b = .opens bits low high more) (hlen : part.length = more + 1)
    (hpart : Follows low high part) :
    String.utf8EncodeChar (Char.ofNat (part.foldl addBits bits)) = b :: part := by
  have htails := hpart.isTail h
  rcases Lead.of_cases b with ⟨_, hl⟩ | ⟨hb, hb', hl⟩ | ⟨hb, hb', hl⟩ | ⟨hb, hb', hl⟩ | ⟨_, hl⟩ <;>
    simp only [hl, reduceCtorEq, Lead.opens.injEq] at h <;> obtain ⟨rfl, rfl, rfl, rfl⟩ := h
  · obtain ⟨x, rfl⟩ := List.length_eq_one_iff.1 hlen
    exact encode_two ⟨hb, hb'⟩ (htails x (by simp))
  · obtain ⟨x, y, rfl⟩ := List.length_eq_two.1 hlen
    refine encode_three ⟨hb, hb'⟩ (htails x (by simp)) (htails y (by simp)) ?_ ?_ <;> intro hb
    · have hlow := hpart.1
      rwa [if_pos (UInt8.toNat_inj.1 hb)] at hlow
    · have hhigh := hpart.2.1
      rwa [if_pos (UInt8.toNat_inj.1 hb)] at hhigh
  · obtain ⟨x, y, z, rfl⟩ := List.length_eq_three.1 hlen
    refine encode_four ⟨hb, hb'⟩ (htails x (by simp)) (htails y (by simp)) (htails z (by simp))
      ?_ ?_ <;> intro hb
    · have hlow := hpart.1
      rwa [if_pos (UInt8.toNat_inj.1 hb)] at hlow
    · have hhigh := hpart.2.1
      rwa [if_pos (UInt8.toNat_inj.1 hb)] at hhigh

/-! ### From a character to bytes -/

theorem shape_two {b x : UInt8} (hb : 0xC2 ≤ b.toNat ∧ b.toNat < 0xE0) (hx : IsTail x) :
    Shape b [x] := by
  unfold IsTail at hx
  rcases Lead.of_cases b with h | ⟨_, _, h⟩ | h | h | h
  · omega
  · refine .inr ⟨_, _, _, _, h, rfl, ?_⟩
    simp only [Follows, UInt8.le_iff_toNat_le, UInt8.reduceToNat]
    exact ⟨hx.1, hx.2, by simp⟩
  all_goals omega

theorem shape_three {b x y : UInt8} (hb : 0xE0 ≤ b.toNat ∧ b.toNat < 0xF0)
    (hx : IsTail x) (hy : IsTail y) (hlow : b.toNat = 0xE0 → 0xA0 ≤ x.toNat)
    (hhigh : b.toNat = 0xED → x.toNat ≤ 0x9F) : Shape b [x, y] := by
  unfold IsTail at hx
  rcases Lead.of_cases b with h | h | ⟨_, _, h⟩ | h | h
  · omega
  · omega
  · refine .inr ⟨_, _, _, _, h, rfl, ?_⟩
    simp only [Follows, UInt8.le_iff_toNat_le, ← UInt8.toNat_inj, UInt8.reduceToNat]
    refine ⟨?_, ?_, by simpa using hy⟩ <;> split_ifs <;> simp only [UInt8.reduceToNat] <;> omega
  all_goals omega

theorem shape_four {b x y z : UInt8} (hb : 0xF0 ≤ b.toNat ∧ b.toNat < 0xF5)
    (hx : IsTail x) (hy : IsTail y) (hz : IsTail z) (hlow : b.toNat = 0xF0 → 0x90 ≤ x.toNat)
    (hhigh : b.toNat = 0xF4 → x.toNat ≤ 0x8F) : Shape b [x, y, z] := by
  unfold IsTail at hx
  rcases Lead.of_cases b with h | h | h | ⟨_, _, h⟩ | h
  · omega
  · omega
  · omega
  · refine .inr ⟨_, _, _, _, h, rfl, ?_⟩
    simp only [Follows, UInt8.le_iff_toNat_le, ← UInt8.toNat_inj, UInt8.reduceToNat]
    refine ⟨?_, ?_, by simpa using ⟨hy, hz⟩⟩ <;> split_ifs <;> simp only [UInt8.reduceToNat] <;>
      omega
  · omega

theorem toNat_byte {n : Nat} (h : n < 256) : (UInt8.ofNat n).toNat = n := by
  rw [UInt8.toNat_ofNat', Nat.mod_eq_of_lt h]

theorem isTail_byte (n : Nat) : IsTail (UInt8.ofNat (n % 64 + 0x80)) := by
  unfold IsTail
  rw [toNat_byte (by omega)]
  omega

/-- **Every encoding is what its first byte asks for.** -/
theorem shape_of_encode {c : Char} {b : UInt8} {part : List UInt8}
    (h : String.utf8EncodeChar c = b :: part) : Shape b part := by
  have hvalid : c.val.toNat < 0xD800 ∨ 0xDFFF < c.val.toNat ∧ c.val.toNat < 0x110000 := c.valid
  unfold String.utf8EncodeChar at h
  generalize c.val.toNat = v at h hvalid
  dsimp only at h
  split_ifs at h with h1 h2 h3 <;> obtain ⟨rfl, rfl⟩ := List.cons.inj h
  · have hlead := toNat_byte (n := v) (by omega)
    exact .inl ⟨lead_single_iff.2 (by omega), rfl⟩
  · have hlead := toNat_byte (n := v / 64 % 32 + 0xC0) (by omega)
    exact shape_two ⟨by omega, by omega⟩ (isTail_byte v)
  · have hlead := toNat_byte (n := v / 4096 % 16 + 0xE0) (by omega)
    have hsecond := toNat_byte (n := v / 64 % 64 + 0x80) (by omega)
    exact shape_three ⟨by omega, by omega⟩ (isTail_byte _) (isTail_byte v) (by omega) (by omega)
  · have hlead := toNat_byte (n := v / 262144 % 8 + 0xF0) (by omega)
    have hsecond := toNat_byte (n := v / 4096 % 64 + 0x80) (by omega)
    exact shape_four ⟨by omega, by omega⟩ (isTail_byte _) (isTail_byte _) (isTail_byte v)
      (by omega) (by omega)

/-! ### What an encoding begins with -/

/-- Behind any bytes that follow a first byte, others can be put until nothing is missing. -/
theorem Follows.complete {b : UInt8} {bits more : Nat} {low high : UInt8} {part : List UInt8}
    (hlead : Lead.of b = .opens bits low high more) (h : Follows low high part)
    (hlen : part.length ≤ more + 1) :
    ∃ missing, (part ++ missing).length = more + 1 ∧ Follows low high (part ++ missing) := by
  cases part with
  | nil =>
    have hbounds := Lead.bounds hlead
    refine ⟨low :: List.replicate more 0x80, by simp, UInt8.le_refl low,
      UInt8.le_iff_toNat_le.2 hbounds.2.1, fun y hy => ?_⟩
    rw [List.eq_of_mem_replicate hy]
    exact ⟨by decide, by decide⟩
  | cons x part =>
    obtain ⟨hlow, hhigh, htails⟩ := h
    simp only [List.length_cons] at hlen
    refine ⟨List.replicate (more - part.length) 0x80, by simp; omega, hlow, hhigh, fun y hy => ?_⟩
    rcases List.mem_append.1 hy with hy | hy
    · exact htails y hy
    · rw [List.eq_of_mem_replicate hy]
      exact ⟨by decide, by decide⟩

/-- **An encoding begins with a first byte and with bytes that can follow it**, at most as many as
it asks for. -/
theorem begins_cons_iff {b : UInt8} {part : List UInt8} :
    Begins (b :: part) ↔ (Lead.of b = .single ∧ part = []) ∨ ∃ bits low high more,
      Lead.of b = .opens bits low high more ∧ part.length ≤ more + 1 ∧ Follows low high part := by
  constructor
  · rintro ⟨c, rest, h⟩
    rw [List.cons_append] at h
    rcases shape_of_encode h.symm with ⟨hl, hpart⟩ | ⟨bits, low, high, more, hl, hlen, hfollows⟩
    · exact .inl ⟨hl, (List.append_eq_nil_iff.1 hpart).1⟩
    · rw [List.length_append] at hlen
      exact .inr ⟨bits, low, high, more, hl, by omega, hfollows.of_append⟩
  · rintro (⟨hl, rfl⟩ | ⟨bits, low, high, more, hl, hlen, hfollows⟩)
    · exact ⟨Char.ofNat b.toNat, [], by rw [encode_one (lead_single_iff.1 hl)]; rfl⟩
    · obtain ⟨missing, hlen', hfollows'⟩ := hfollows.complete hl hlen
      exact ⟨_, missing, (encode_of_follows hl hlen' hfollows').symm⟩

/-- Behind the first byte there are only continuation bytes. -/
theorem Begins.isTail {b : UInt8} {part : List UInt8} (h : Begins (b :: part)) :
    ∀ y ∈ part, IsTail y := by
  rcases begins_cons_iff.1 h with ⟨-, rfl⟩ | ⟨_, _, _, _, hl, -, hfollows⟩
  · simp
  · exact hfollows.isTail hl

end Overlay.Text
