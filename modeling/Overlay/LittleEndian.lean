import Overlay.Bytes

namespace Overlay

/-!
# Little-endian words

A 32-bit length travels as four bytes, least significant first.

* `LittleEndian.encode` writes a number modulo `2 ^ 32`;
* `LittleEndian.decode?` reads the number at the front of a buffer, if four bytes are there;
* `decode?_encode_append` — reading what was written gives the number back, whatever follows;
* `eq_encode_append_of_decode?` — and only a written number can be read.
-/

namespace LittleEndian

/-- Number of bytes of an encoded word. -/
def width : Nat := 4

/-- Number of different words, `2 ^ 32`. -/
def modulus : Nat := 4294967296

/-- The four bytes of `n` modulo `2 ^ 32`, least significant first. -/
def encode (n : Nat) : ByteArray :=
  ⟨#[n.toUInt8, (n / 256).toUInt8, (n / 65536).toUInt8, (n / 16777216).toUInt8]⟩

/-- The word at the front of `b`; `none` when fewer than four bytes are there. -/
def decode? (b : ByteArray) : Option Nat :=
  if h : 4 ≤ b.size then
    some (b[0].toNat + 256 * b[1].toNat + 65536 * b[2].toNat + 16777216 * b[3].toNat)
  else
    none

@[simp] theorem size_encode (n : Nat) : (encode n).size = width := rfl

theorem decode?_eq_none_iff {b : ByteArray} : decode? b = none ↔ b.size < width := by
  unfold decode? width
  split <;> simp <;> omega

/-- A decoded word fits 32 bits. -/
theorem lt_of_decode? {b : ByteArray} {n : Nat} (h : decode? b = some n) : n < modulus := by
  unfold decode? at h
  split at h
  · rename_i hb
    have h0 := b[0].toNat_lt
    have h1 := b[1].toNat_lt
    have h2 := b[2].toNat_lt
    have h3 := b[3].toNat_lt
    have := Option.some.inj h
    unfold modulus
    omega
  · cases h

/-- Reading what was written gives the number back, whatever follows it. -/
theorem decode?_encode_append (n : Nat) (b : ByteArray) :
    decode? (encode n ++ b) = some (n % modulus) := by
  have hs : 4 ≤ (encode n ++ b).size := by
    simp only [ByteArray.size_append, size_encode, width]; omega
  have byte : ∀ i (hi : i < (encode n).data.size) (hb : i < (encode n ++ b).size),
      (encode n ++ b)[i] = (encode n).data[i] := by
    intro i hi hb
    show (encode n ++ b).data[i] = _
    simp only [ByteArray.data_append]
    exact Array.getElem_append_left hi
  have four : (encode n).data.size = 4 := rfl
  unfold decode?
  rw [dif_pos hs, byte 0 (by omega), byte 1 (by omega), byte 2 (by omega), byte 3 (by omega)]
  simp only [encode, List.getElem_toArray, List.getElem_cons_zero, List.getElem_cons_succ,
    Nat.toUInt8_eq, UInt8.toNat_ofNat', modulus]
  congr 1
  omega

/-- The first four bytes of a buffer are the encoding of the word read from them. -/
theorem eq_encode_append_of_decode? {b : ByteArray} {n : Nat} (h : decode? b = some n) :
    b = encode n ++ b.extract width b.size := by
  unfold decode? at h
  split at h
  case isFalse => cases h
  case isTrue hb =>
    have hn := Option.some.inj h
    have h0 := b[0].toNat_lt
    have h1 := b[1].toNat_lt
    have h2 := b[2].toNat_lt
    have h3 := b[3].toNat_lt
    have hfront : b.extract 0 width = encode n := by
      refine ByteArray.ext_getElem (by simp [ByteArray.size_extract, width]; omega) ?_
      intro i hi _
      have hi4 : i = 0 ∨ i = 1 ∨ i = 2 ∨ i = 3 := by
        simp only [ByteArray.size_extract, width] at hi; omega
      rw [ByteArray.getElem_extract]
      apply UInt8.toNat_inj.1
      rcases hi4 with rfl | rfl | rfl | rfl
      · show b[0].toNat = n.toUInt8.toNat
        simp only [Nat.toUInt8_eq, UInt8.toNat_ofNat']; omega
      · show b[1].toNat = (n / 256).toUInt8.toNat
        simp only [Nat.toUInt8_eq, UInt8.toNat_ofNat']; omega
      · show b[2].toNat = (n / 65536).toUInt8.toNat
        simp only [Nat.toUInt8_eq, UInt8.toNat_ofNat']; omega
      · show b[3].toNat = (n / 16777216).toUInt8.toNat
        simp only [Nat.toUInt8_eq, UInt8.toNat_ofNat']; omega
    rw [← hfront, ← ByteArray.extract_eq_extract_append_extract width (Nat.zero_le _) hb,
      ByteArray.extract_zero_size]

end LittleEndian

end Overlay
