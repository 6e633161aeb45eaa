import Overlay.Json.Fault

namespace Overlay.Json

/-!
# Blanks, words and strings

The small parts of a JSON text. A scanner takes the unread text and gives what it read together
with the text behind it, or the fault that stopped it.

* `skipBlanks`, `word` — blanks, and the rest of a word whose first letter is known;
* `string` — a string, unescaped; `skipString` — a string nobody wants. The two disagree on
  halves of surrogate pairs, which matter only to who wants the text;
* `length_string_lt` and its neighbours — every scanner reads at least one character.
-/

/-- What a scanner gives. -/
abbrev Scan (α : Type) := Except Fault (α × List Char)

/-! ### Blanks and words -/

/-- The four blanks of JSON. -/
def isBlank (c : Char) : Bool := c = ' ' || c = '\n' || c = '\t' || c = '\r'

/-- The text from the first character on that is no blank. -/
def skipBlanks (s : List Char) : List Char := s.dropWhile isBlank

/-- Read the given letters. -/
def word : List Char → List Char → Except Fault (List Char)
  | [], s => .ok s
  | _ :: _, [] => .error (.here .endInValue [])
  | l :: letters, c :: s =>
    if c = l then word letters s else .error (.next .badWord (c :: s))

/-! ### Escapes -/

/-- The character that a one-letter escape stands for. -/
def shortEscape? : Char → Option Char
  | '"' => some '"'
  | '\\' => some '\\'
  | '/' => some '/'
  | 'b' => some '\x08'
  | 'f' => some '\x0c'
  | 'n' => some '\n'
  | 'r' => some '\r'
  | 't' => some '\t'
  | _ => none

/-- The value of a hexadecimal digit. -/
def hexValue? (c : Char) : Option Nat :=
  if c.isDigit then some (c.toNat - '0'.toNat)
  else if 'a' ≤ c ∧ c ≤ 'f' then some (c.toNat - 'a'.toNat + 10)
  else if 'A' ≤ c ∧ c ≤ 'F' then some (c.toNat - 'A'.toNat + 10)
  else none

/-- The number that hexadecimal digits stand for. -/
def hexNumber? (digits : List Char) : Option Nat :=
  digits.foldlM (fun n c => (hexValue? c).map (n * 16 + ·)) 0

/-- Read four hexadecimal digits. Four bytes are taken in any case. -/
def hexFour : List Char → Scan Nat
  | a :: b :: c :: d :: rest =>
    match hexNumber? [a, b, c, d] with
    | some n => .ok (n, rest)
    | none => .error ⟨.badEscape, a :: b :: c :: d :: rest, 4⟩
  | s => if byteLength s < 4 then .error (.here .endInString []) else .error ⟨.badEscape, s, 4⟩

/-- Whether a number is the first half of a surrogate pair. -/
def isHighHalf (n : Nat) : Bool := 0xD800 ≤ n && n ≤ 0xDBFF

/-- Whether a number is the second half of a surrogate pair. -/
def isLowHalf (n : Nat) : Bool := 0xDC00 ≤ n && n ≤ 0xDFFF

/-- The character that a surrogate pair stands for. -/
def joinHalves (high low : Nat) : Char :=
  Char.ofNat ((high - 0xD800) * 0x400 + (low - 0xDC00) + 0x10000)

/-- Read the second half of a surrogate pair, as an escape of its own. -/
def lowHalf (high : Nat) : List Char → Scan Char
  | [] => .error (.here .endInString [])
  | ['\\'] => .error (.here .endInString [])
  | '\\' :: 'u' :: s =>
    match hexFour s with
    | .error fault => .error fault
    | .ok (low, s) =>
      if isLowHalf low then .ok (joinHalves high low, s)
      else .error (.here .loneSurrogate s)
  | '\\' :: s => .error (.next .brokenHexEscape s)
  | s => .error (.next .brokenHexEscape s)

/-- Read the digits of a hexadecimal escape, and its second half where there is one. -/
def hexEscape (s : List Char) : Scan Char :=
  match hexFour s with
  | .error fault => .error fault
  | .ok (n, s) =>
    if isLowHalf n then .error (.here .loneSurrogate s)
    else if isHighHalf n then lowHalf n s
    else .ok (Char.ofNat n, s)

/-- Read what follows a backslash. -/
def escape : List Char → Scan Char
  | [] => .error (.here .endInString [])
  | c :: s =>
    if c = 'u' then hexEscape s
    else
      match shortEscape? c with
      | some e => .ok (e, s)
      | none => .error (.next .badEscape (c :: s))

/-- Skip what follows a backslash. -/
def skipEscape : List Char → Except Fault (List Char)
  | [] => .error (.here .endInString [])
  | c :: s =>
    if c = 'u' then (hexFour s).map (·.2)
    else
      match shortEscape? c with
      | some _ => .ok s
      | none => .error (.next .badEscape (c :: s))

theorem length_hexFour_lt {s r : List Char} {n : Nat} (h : hexFour s = .ok (n, r)) :
    r.length < s.length := by
  unfold hexFour at h
  split at h
  · split at h
    · obtain ⟨-, rfl⟩ := Prod.mk.inj (Except.ok.inj h)
      simp only [List.length_cons]
      omega
    · cases h
  · split at h <;> cases h

theorem length_lowHalf_lt {s r : List Char} {high : Nat} {c : Char}
    (h : lowHalf high s = .ok (c, r)) : r.length < s.length := by
  unfold lowHalf at h
  split at h
  · cases h
  · cases h
  · split at h
    · cases h
    · rename_i hf
      split at h
      · obtain ⟨-, rfl⟩ := Prod.mk.inj (Except.ok.inj h)
        have := length_hexFour_lt hf
        simp only [List.length_cons]
        omega
      · cases h
  · cases h
  · cases h

theorem length_hexEscape_lt {s r : List Char} {c : Char} (h : hexEscape s = .ok (c, r)) :
    r.length < s.length := by
  unfold hexEscape at h
  split at h
  · cases h
  · rename_i hf
    have hlt := length_hexFour_lt hf
    split at h
    · cases h
    · split at h
      · exact Nat.lt_trans (length_lowHalf_lt h) hlt
      · obtain ⟨-, rfl⟩ := Prod.mk.inj (Except.ok.inj h)
        exact hlt

/-- An escape has at least one character. -/
theorem length_escape_lt {s r : List Char} {c : Char} (h : escape s = .ok (c, r)) :
    r.length < s.length := by
  unfold escape at h
  split at h
  · cases h
  · split at h
    · have := length_hexEscape_lt h
      simp only [List.length_cons]
      omega
    · split at h
      · obtain ⟨-, rfl⟩ := Prod.mk.inj (Except.ok.inj h)
        simp
      · cases h

/-- A skipped escape has at least one character. -/
theorem length_skipEscape_lt {s r : List Char} (h : skipEscape s = .ok r) :
    r.length < s.length := by
  unfold skipEscape at h
  split at h
  · cases h
  · rename_i s'
    split at h
    · cases hf : hexFour s' with
      | error fault => rw [hf] at h; cases h
      | ok p =>
        rw [hf] at h
        obtain rfl := Except.ok.inj h
        have := length_hexFour_lt hf
        simp only [List.length_cons]
        omega
    · split at h
      · obtain rfl := Except.ok.inj h
        simp
      · cases h

/-! ### Strings -/

/-- Read a string up to its closing quote, adding characters behind those already read. -/
def stringOnto (done : Array Char) : List Char → Scan String
  | [] => .error (.here .endInString [])
  | '"' :: s => .ok (String.ofList done.toList, s)
  | '\\' :: s =>
    match _h : escape s with
    | .error fault => .error fault
    | .ok (c, s') => stringOnto (done.push c) s'
  | c :: s =>
    if c < ' ' then .error (.next .controlCharacter (c :: s)) else stringOnto (done.push c) s
termination_by s => s.length
decreasing_by
  · have := length_escape_lt _h; simp only [List.length_cons]; omega
  · simp

/-- Read a string behind its opening quote. -/
def string (s : List Char) : Scan String := stringOnto #[] s

theorem length_stringOnto_lt {done : Array Char} {s r : List Char} {t : String}
    (h : stringOnto done s = .ok (t, r)) : r.length < s.length := by
  fun_induction stringOnto done s with
  | case1 => cases h
  | case2 done s => obtain ⟨-, rfl⟩ := Prod.mk.inj (Except.ok.inj h); simp
  | case3 => cases h
  | case4 done s c s' he ih =>
    have h1 := ih h
    have h2 := length_escape_lt he
    simp only [List.length_cons]
    omega
  | case5 => cases h
  | case6 done c s _ _ _ ih =>
    have h1 := ih h
    simp only [List.length_cons]
    omega

/-- A string has at least its closing quote. -/
theorem length_string_lt {s r : List Char} {t : String} (h : string s = .ok (t, r)) :
    r.length < s.length :=
  length_stringOnto_lt h

/-- Skip a string behind its opening quote. A control character is reported before it. -/
def skipString : List Char → Except Fault (List Char)
  | [] => .error (.here .endInString [])
  | '"' :: s => .ok s
  | '\\' :: s =>
    match _h : skipEscape s with
    | .error fault => .error fault
    | .ok s' => skipString s'
  | c :: s =>
    if c < ' ' then .error (.here .controlCharacter (c :: s)) else skipString s
termination_by s => s.length
decreasing_by
  · have := length_skipEscape_lt _h; simp only [List.length_cons]; omega
  · simp

/-- A skipped string has at least its closing quote. -/
theorem length_skipString_lt {s r : List Char} (h : skipString s = .ok r) :
    r.length < s.length := by
  fun_induction skipString s with
  | case1 => cases h
  | case2 s => obtain rfl := Except.ok.inj h; simp
  | case3 => cases h
  | case4 s s' he ih =>
    have h1 := ih h
    have h2 := length_skipEscape_lt he
    simp only [List.length_cons]
    omega
  | case5 => cases h
  | case6 c s _ _ _ ih =>
    have h1 := ih h
    simp only [List.length_cons]
    omega

end Overlay.Json
