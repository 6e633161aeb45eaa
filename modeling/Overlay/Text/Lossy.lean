namespace Overlay.Text

/-!
# Bytes as text, whatever they are

UTF-8 bytes become characters. Where the bytes are not UTF-8, the longest beginning of a valid
sequence (at least one byte) becomes one replacement character, and decoding goes on with the
byte that did not fit.

* `Lead.of` — what a first byte promises;
* `takeChar` — the character at the front of the bytes, and the bytes behind it;
* `decodeChars`, `decode` — the whole text; `decodeChars_cons` is its recursion.
-/

/-- Stands for bytes that are not UTF-8. -/
def replacement : Char := '\ufffd'

/-- What the first byte of a sequence says about the bytes after it. -/
inductive Lead where
  /-- The byte is a character by itself. -/
  | single
  /-- The byte carries the high bits of a character. The next byte lies between `low` and
  `high`, and `more` further continuation bytes follow. -/
  | opens (bits : Nat) (low high : UInt8) (more : Nat)
  /-- No character begins with this byte. -/
  | invalid
deriving DecidableEq, Repr

/-- Read a first byte. The bounds of the second byte exclude overlong forms, surrogates and
everything above the last code point. -/
def Lead.of (b : UInt8) : Lead :=
  if b < 0x80 then .single
  else if b < 0xC2 then .invalid
  else if b < 0xE0 then .opens (b.toNat - 0xC0) 0x80 0xBF 0
  else if b = 0xE0 then .opens 0 0xA0 0xBF 1
  else if b = 0xED then .opens 0xD 0x80 0x9F 1
  else if b < 0xF0 then .opens (b.toNat - 0xE0) 0x80 0xBF 1
  else if b = 0xF0 then .opens 0 0x90 0xBF 2
  else if b < 0xF4 then .opens (b.toNat - 0xF0) 0x80 0xBF 2
  else if b = 0xF4 then .opens 4 0x80 0x8F 2
  else .invalid

/-- Add the six bits of a continuation byte. -/
def addBits (bits : Nat) (b : UInt8) : Nat := bits * 64 + b.toNat % 64

/-- Take `more` continuation bytes and finish the character. -/
def takeMore (bits : Nat) : Nat → List UInt8 → Char × List UInt8
  | 0, rest => (Char.ofNat bits, rest)
  | _ + 1, [] => (replacement, [])
  | more + 1, b :: rest =>
    if 0x80 ≤ b ∧ b ≤ 0xBF then takeMore (addBits bits b) more rest
    else (replacement, b :: rest)

/-- The character that begins with byte `b`, and the bytes behind it. -/
def takeChar (b : UInt8) (rest : List UInt8) : Char × List UInt8 :=
  match Lead.of b, rest with
  | .single, rest => (Char.ofNat b.toNat, rest)
  | .invalid, rest => (replacement, rest)
  | .opens .., [] => (replacement, [])
  | .opens bits low high more, c :: rest =>
    if low ≤ c ∧ c ≤ high then takeMore (addBits bits c) more rest
    else (replacement, c :: rest)

theorem length_takeMore_le (bits more : Nat) (bytes : List UInt8) :
    (takeMore bits more bytes).2.length ≤ bytes.length := by
  fun_induction takeMore bits more bytes <;> simp_all
  omega

theorem length_takeChar_le (b : UInt8) (rest : List UInt8) :
    (takeChar b rest).2.length ≤ rest.length := by
  unfold takeChar
  split
  · simp
  · simp
  · simp
  · rename_i bits low high more c rest' _
    split
    · exact Nat.le_trans (length_takeMore_le _ _ _) (Nat.le_succ _)
    · simp

/-- Decode bytes, adding the characters behind those already decoded. -/
def decodeOnto (done : Array Char) : List UInt8 → Array Char
  | [] => done
  | b :: rest =>
    decodeOnto (done.push (takeChar b rest).1) (takeChar b rest).2
termination_by bytes => bytes.length
decreasing_by have := length_takeChar_le b rest; simp; omega

/-- The characters that bytes stand for. -/
def decodeChars (bytes : List UInt8) : List Char := (decodeOnto #[] bytes).toList

/-- The text that bytes stand for. -/
def decode (bytes : ByteArray) : String := String.ofList (decodeChars bytes.data.toList)

/-! ### Recursion of the decoder -/

/-- Characters decoded before do not influence the rest. -/
theorem decodeOnto_eq (done : Array Char) (bytes : List UInt8) :
    (decodeOnto done bytes).toList = done.toList ++ decodeChars bytes := by
  induction hn : bytes.length using Nat.strongRecOn generalizing done bytes with
  | ind n ih =>
    cases bytes with
    | nil => simp [decodeChars, decodeOnto]
    | cons b rest =>
      have hlt := length_takeChar_le b rest
      have hn' : rest.length + 1 = n := by simpa using hn
      rw [decodeChars, decodeOnto, decodeOnto,
        ih (takeChar b rest).2.length (by omega) _ _ rfl,
        ih (takeChar b rest).2.length (by omega) _ _ rfl]
      simp

@[simp] theorem decodeChars_nil : decodeChars [] = [] := by simp [decodeChars, decodeOnto]

/-- The text begins with the first character taken and goes on behind its bytes. -/
theorem decodeChars_cons (b : UInt8) (rest : List UInt8) :
    decodeChars (b :: rest) = (takeChar b rest).1 :: decodeChars (takeChar b rest).2 := by
  rw [decodeChars, decodeOnto, decodeOnto_eq]
  simp

end Overlay.Text
