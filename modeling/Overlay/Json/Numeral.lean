import Overlay.Json.Lexical

namespace Overlay.Json

/-!
# Numbers

A number is a whole number as long as it fits 64 bits, sign included; `-0`, larger numbers and
numbers with a fraction or an exponent are floating-point. A significand keeps as many digits
as fit 64 bits, and the digits behind them only shift the exponent.

* `numeral` — a number that somebody wants;
* `skipNumeral` — a number nobody wants, of which only the grammar is checked.
-/

/-- A number of a JSON text. -/
inductive Numeral where
  /-- A whole number without a sign. -/
  | natural (n : Nat)
  /-- A whole number below zero. -/
  | negative (n : Nat)
  /-- Any other number. -/
  | floating (f : Float)
deriving Inhabited

/-- How a number is called where something else was wanted. -/
def Numeral.found : Numeral → Found
  | natural n => .natural n
  | negative n => .negative n
  | floating f => .floating f

/-- The value of a decimal digit. -/
def digitValue (c : Char) : Nat := c.toNat - '0'.toNat

/-- Whether the text goes on with a digit. -/
def startsWithDigit : List Char → Bool
  | [] => false
  | c :: _ => c.isDigit

/-- The text behind a run of digits. -/
def skipDigits (s : List Char) : List Char := s.dropWhile Char.isDigit

/-- Largest significand, `2 ^ 64 - 1`. -/
def maxSignificand : Nat := 18446744073709551615

/-- Largest significand behind a minus sign, `2 ^ 63`. -/
def maxNegative : Nat := 9223372036854775808

/-- Largest written exponent, `2 ^ 31 - 1`. -/
def maxExponent : Nat := 2147483647

/-! ### Values -/

/-- `f · 10 ^ e`, rounded at each of a few multiplications; `none` when it is too large. -/
def scaled (f : Float) (e : Int) : Option Float :=
  if 0 ≤ e then
    if e ≤ 308 then
      let g := f * Float.ofScientific 1 false e.toNat
      if g.isInf then none else some g
    else if f == 0 then some f
    else none
  else if -308 ≤ e then
    some (f / Float.ofScientific 1 false (-e).toNat)
  else if f == 0 then
    some f
  else
    scaled (f / Float.ofScientific 1 false 308) (e + 308)
termination_by (-e).toNat

/-- The number with the given sign, significand and exponent. -/
def floating (negative : Bool) (significand : Nat) (e : Int) (rest : List Char) : Scan Numeral :=
  match scaled significand.toUInt64.toFloat e with
  | some f => .ok (.floating (if negative then -f else f), rest)
  | none => .error (.here .numberOutOfRange rest)

/-- The whole number with the given sign and significand. -/
def whole (negative : Bool) (significand : Nat) : Numeral :=
  if !negative then .natural significand
  else if significand = 0 ∨ maxNegative < significand then .floating (-significand.toUInt64.toFloat)
  else .negative significand

/-! ### Digits -/

/-- Read the digits of an exponent behind the first. An exponent beyond all bounds makes the
number zero, or too large. -/
def exponentDigits (negative : Bool) (significand : Nat) (before : Int) (down : Bool)
    (read : Nat) : List Char → Scan Numeral
  | [] => floating negative significand (if down then before - read else before + read) []
  | c :: s =>
    if c.isDigit then
      if maxExponent < read * 10 + digitValue c then
        if significand ≠ 0 && !down then .error (.here .numberOutOfRange s)
        else .ok (.floating (if negative then -0.0 else 0.0), skipDigits s)
      else
        exponentDigits negative significand before down (read * 10 + digitValue c) s
    else
      floating negative significand (if down then before - read else before + read) (c :: s)

/-- Read the first digit of an exponent. -/
def firstExponentDigit (negative : Bool) (significand : Nat) (before : Int) (down : Bool) :
    List Char → Scan Numeral
  | [] => .error (.here .endInValue [])
  | c :: s =>
    if c.isDigit then exponentDigits negative significand before down (digitValue c) s
    else .error (.next .badNumber (c :: s))

/-- Read what follows the letter of an exponent. -/
def exponent (negative : Bool) (significand : Nat) (before : Int) : List Char → Scan Numeral
  | '+' :: s => firstExponentDigit negative significand before false s
  | '-' :: s => firstExponentDigit negative significand before true s
  | s => firstExponentDigit negative significand before false s

/-- Read an exponent if there is one, behind a significand that is not whole. -/
def optionalExponent (negative : Bool) (significand : Nat) (before : Int) :
    List Char → Scan Numeral
  | 'e' :: s => exponent negative significand before s
  | 'E' :: s => exponent negative significand before s
  | s => floating negative significand before s

/-- Read the digits of a fraction; `any` says whether there was one already. -/
def fractionDigits (negative : Bool) (significand : Nat) (before : Int) (any : Bool) :
    List Char → Scan Numeral
  | [] =>
    if any then floating negative significand before []
    else .error (.here .endInValue [])
  | c :: s =>
    if c.isDigit then
      if maxSignificand < significand * 10 + digitValue c then
        optionalExponent negative significand before (skipDigits s)
      else
        fractionDigits negative (significand * 10 + digitValue c) (before - 1) true s
    else if any then
      optionalExponent negative significand before (c :: s)
    else
      .error (.next .badNumber (c :: s))

/-- Read the digits of a whole number that no longer fit the significand. -/
def surplusDigits (negative : Bool) (significand : Nat) (surplus : Int) :
    List Char → Scan Numeral
  | [] => floating negative significand surplus []
  | c :: s =>
    if c.isDigit then surplusDigits negative significand (surplus + 1) s
    else if c = '.' then fractionDigits negative significand surplus false s
    else optionalExponent negative significand surplus (c :: s)

/-- Read what follows the digits of a whole number that fits. -/
def numeralTail (negative : Bool) (significand : Nat) : List Char → Scan Numeral
  | '.' :: s => fractionDigits negative significand 0 false s
  | 'e' :: s => exponent negative significand 0 s
  | 'E' :: s => exponent negative significand 0 s
  | s => .ok (whole negative significand, s)

/-- Read the digits of a whole number behind the first. -/
def wholeDigits (negative : Bool) (significand : Nat) : List Char → Scan Numeral
  | [] => .ok (whole negative significand, [])
  | c :: s =>
    if c.isDigit then
      if maxSignificand < significand * 10 + digitValue c then
        surplusDigits negative significand 0 (c :: s)
      else
        wholeDigits negative (significand * 10 + digitValue c) s
    else
      numeralTail negative significand (c :: s)

/-- Read a number behind its sign. -/
def magnitude (negative : Bool) : List Char → Scan Numeral
  | [] => .error (.here .endInValue [])
  | c :: s =>
    if c = '0' then
      if startsWithDigit s then .error (.next .badNumber s) else numeralTail negative 0 s
    else if c.isDigit then wholeDigits negative (digitValue c) s
    else .error (.next .badNumber (c :: s))

/-- Whether a number begins with a character. -/
def startsNumeral (c : Char) : Bool := c = '-' || c.isDigit

/-- Read a number. -/
def numeral : List Char → Scan Numeral
  | '-' :: s => magnitude true s
  | s => magnitude false s

/-! ### Numbers nobody wants -/

/-- Skip the exponent behind its letter and sign. -/
def skipExponentDigits : List Char → Except Fault (List Char)
  | [] => .error (.here .badNumber [])
  | c :: s => if c.isDigit then .ok (skipDigits s) else .error (.next .badNumber (c :: s))

/-- Skip an exponent if there is one. -/
def skipExponent : List Char → Except Fault (List Char)
  | [] => .ok []
  | c :: s =>
    if c = 'e' ∨ c = 'E' then
      match s with
      | '+' :: s => skipExponentDigits s
      | '-' :: s => skipExponentDigits s
      | s => skipExponentDigits s
    else
      .ok (c :: s)

/-- Skip a fraction and an exponent if they are there. -/
def skipFraction : List Char → Except Fault (List Char)
  | '.' :: s =>
    if startsWithDigit s then skipExponent (skipDigits s) else .error (.next .badNumber s)
  | s => skipExponent s

/-- Skip a number behind its sign. -/
def skipMagnitude : List Char → Except Fault (List Char)
  | [] => .error (.here .badNumber [])
  | c :: s =>
    if c = '0' then
      if startsWithDigit s then .error (.next .badNumber s) else skipFraction s
    else if c.isDigit then skipFraction (skipDigits s)
    else .error (.next .badNumber (c :: s))

/-- Skip a number. -/
def skipNumeral : List Char → Except Fault (List Char)
  | '-' :: s => skipMagnitude s
  | s => skipMagnitude s

/-! ### A number has at least one character -/

theorem length_skipDigits_le (s : List Char) : (skipDigits s).length ≤ s.length :=
  (List.dropWhile_sublist _).length_le

theorem rest_of_floating {negative : Bool} {significand : Nat} {e : Int} {s r : List Char}
    {n : Numeral} (h : floating negative significand e s = .ok (n, r)) : r = s := by
  unfold floating at h
  split at h
  · exact (Prod.mk.inj (Except.ok.inj h)).2.symm
  · cases h

theorem length_exponentDigits_le {negative down : Bool} {significand read : Nat} {before : Int}
    {s r : List Char} {n : Numeral}
    (h : exponentDigits negative significand before down read s = .ok (n, r)) :
    r.length ≤ s.length := by
  induction s generalizing read with
  | nil => exact Nat.le_of_eq (congrArg List.length (rest_of_floating h))
  | cons c s ih =>
    unfold exponentDigits at h
    split at h
    · split at h
      · split at h
        · cases h
        · obtain ⟨-, rfl⟩ := Prod.mk.inj (Except.ok.inj h)
          exact Nat.le_trans (length_skipDigits_le s) (by simp)
      · exact Nat.le_trans (ih h) (by simp)
    · exact Nat.le_of_eq (congrArg List.length (rest_of_floating h))

theorem length_firstExponentDigit_le {negative down : Bool} {significand : Nat} {before : Int}
    {s r : List Char} {n : Numeral}
    (h : firstExponentDigit negative significand before down s = .ok (n, r)) :
    r.length ≤ s.length := by
  unfold firstExponentDigit at h
  split at h
  · cases h
  · split at h
    · exact Nat.le_trans (length_exponentDigits_le h) (by simp)
    · cases h

theorem length_exponent_le {negative : Bool} {significand : Nat} {before : Int}
    {s r : List Char} {n : Numeral} (h : exponent negative significand before s = .ok (n, r)) :
    r.length ≤ s.length := by
  unfold exponent at h
  split at h
  · exact Nat.le_trans (length_firstExponentDigit_le h) (by simp)
  · exact Nat.le_trans (length_firstExponentDigit_le h) (by simp)
  · exact length_firstExponentDigit_le h

theorem length_optionalExponent_le {negative : Bool} {significand : Nat} {before : Int}
    {s r : List Char} {n : Numeral}
    (h : optionalExponent negative significand before s = .ok (n, r)) :
    r.length ≤ s.length := by
  unfold optionalExponent at h
  split at h
  · exact Nat.le_trans (length_exponent_le h) (by simp)
  · exact Nat.le_trans (length_exponent_le h) (by simp)
  · exact Nat.le_of_eq (congrArg List.length (rest_of_floating h))

theorem length_fractionDigits_le {negative any : Bool} {significand : Nat} {before : Int}
    {s r : List Char} {n : Numeral}
    (h : fractionDigits negative significand before any s = .ok (n, r)) :
    r.length ≤ s.length := by
  induction s generalizing significand before any with
  | nil =>
    unfold fractionDigits at h
    split at h
    · exact Nat.le_of_eq (congrArg List.length (rest_of_floating h))
    · cases h
  | cons c s ih =>
    unfold fractionDigits at h
    split at h
    · split at h
      · exact Nat.le_trans (length_optionalExponent_le h)
          (Nat.le_trans (length_skipDigits_le s) (by simp))
      · exact Nat.le_trans (ih h) (by simp)
    · split at h
      · exact length_optionalExponent_le h
      · cases h

theorem length_surplusDigits_le {negative : Bool} {significand : Nat} {surplus : Int}
    {s r : List Char} {n : Numeral}
    (h : surplusDigits negative significand surplus s = .ok (n, r)) :
    r.length ≤ s.length := by
  induction s generalizing surplus with
  | nil => exact Nat.le_of_eq (congrArg List.length (rest_of_floating h))
  | cons c s ih =>
    unfold surplusDigits at h
    split at h
    · exact Nat.le_trans (ih h) (by simp)
    · split at h
      · exact Nat.le_trans (length_fractionDigits_le h) (by simp)
      · exact length_optionalExponent_le h

theorem length_numeralTail_le {negative : Bool} {significand : Nat} {s r : List Char}
    {n : Numeral} (h : numeralTail negative significand s = .ok (n, r)) :
    r.length ≤ s.length := by
  unfold numeralTail at h
  split at h
  · exact Nat.le_trans (length_fractionDigits_le h) (by simp)
  · exact Nat.le_trans (length_exponent_le h) (by simp)
  · exact Nat.le_trans (length_exponent_le h) (by simp)
  · exact Nat.le_of_eq (congrArg List.length (Prod.mk.inj (Except.ok.inj h)).2.symm)

theorem length_wholeDigits_le {negative : Bool} {significand : Nat} {s r : List Char}
    {n : Numeral} (h : wholeDigits negative significand s = .ok (n, r)) :
    r.length ≤ s.length := by
  induction s generalizing significand with
  | nil => exact Nat.le_of_eq (congrArg List.length (Prod.mk.inj (Except.ok.inj h)).2.symm)
  | cons c s ih =>
    unfold wholeDigits at h
    split at h
    · split at h
      · exact length_surplusDigits_le h
      · exact Nat.le_trans (ih h) (by simp)
    · exact length_numeralTail_le h

theorem length_magnitude_lt {negative : Bool} {s r : List Char} {n : Numeral}
    (h : magnitude negative s = .ok (n, r)) : r.length < s.length := by
  unfold magnitude at h
  split at h
  · cases h
  · split at h
    · split at h
      · cases h
      · exact Nat.lt_succ_of_le (length_numeralTail_le h)
    · split at h
      · exact Nat.lt_succ_of_le (length_wholeDigits_le h)
      · cases h

/-- A number has at least one character. -/
theorem length_numeral_lt {s r : List Char} {n : Numeral} (h : numeral s = .ok (n, r)) :
    r.length < s.length := by
  unfold numeral at h
  split at h
  · exact Nat.lt_trans (length_magnitude_lt h) (by simp)
  · exact length_magnitude_lt h

theorem length_skipExponentDigits_le {s r : List Char} (h : skipExponentDigits s = .ok r) :
    r.length ≤ s.length := by
  unfold skipExponentDigits at h
  split at h
  · cases h
  · split at h
    · obtain rfl := Except.ok.inj h
      exact Nat.le_trans (length_skipDigits_le _) (by simp)
    · cases h

theorem length_skipExponent_le {s r : List Char} (h : skipExponent s = .ok r) :
    r.length ≤ s.length := by
  unfold skipExponent at h
  split at h
  · obtain rfl := Except.ok.inj h
    simp
  · split at h
    · split at h
      all_goals
        have hdigits := length_skipExponentDigits_le h
        simp only [List.length_cons] at *
        omega
    · obtain rfl := Except.ok.inj h
      simp

theorem length_skipFraction_le {s r : List Char} (h : skipFraction s = .ok r) :
    r.length ≤ s.length := by
  unfold skipFraction at h
  split at h
  · split at h
    · have h1 := length_skipExponent_le h
      rename_i s' _
      have h2 := length_skipDigits_le s'
      simp only [List.length_cons]
      omega
    · cases h
  · exact length_skipExponent_le h

theorem length_skipMagnitude_lt {s r : List Char} (h : skipMagnitude s = .ok r) :
    r.length < s.length := by
  unfold skipMagnitude at h
  split at h
  · cases h
  · rename_i c s'
    have hd := length_skipDigits_le s'
    split at h
    · split at h
      · cases h
      · have := length_skipFraction_le h
        simp only [List.length_cons]
        omega
    · split at h
      · have := length_skipFraction_le h
        simp only [List.length_cons]
        omega
      · cases h

/-- A skipped number has at least one character. -/
theorem length_skipNumeral_lt {s r : List Char} (h : skipNumeral s = .ok r) :
    r.length < s.length := by
  unfold skipNumeral at h
  split at h
  · have := length_skipMagnitude_lt h
    simp only [List.length_cons]
    omega
  · exact length_skipMagnitude_lt h

end Overlay.Json
