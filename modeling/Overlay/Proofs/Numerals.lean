import Mathlib.Data.List.Basic
import Mathlib.Tactic.Common
import Overlay.Proofs.WrittenForm

namespace Overlay.Json

/-!
# How numbers are spelled

A number nobody wants is skipped by its grammar alone. A number that somebody wants is read as a
whole number only if it is written with digits alone; signs, fractions and exponents make another
kind of number of it, even where the value is whole.

* `IsNumeral` — the grammar of numbers; `skipNumeral_append` — what has it is skipped;
* `numeral_eq_natural_iff` — the texts that are read as a whole number;
* `numeral_append` — which numbers these are.
-/

/-! ### The grammar -/

/-- At least one digit. -/
def IsDigits (t : List Char) : Prop := t ≠ [] ∧ ∀ c ∈ t, c.isDigit = true

/-- The whole part of a number: digits, which begin with zero only if there are no others. -/
inductive IsWhole : List Char → Prop
  /-- Zero. -/
  | zero : IsWhole ['0']
  /-- Digits that do not begin with zero. -/
  | digits {c : Char} {t : List Char} :
    c ≠ '0' → (∀ d ∈ c :: t, d.isDigit = true) → IsWhole (c :: t)

/-- The fraction of a number. -/
inductive IsFraction : List Char → Prop
  /-- There is none. -/
  | none : IsFraction []
  /-- Digits behind a point. -/
  | digits {t : List Char} : IsDigits t → IsFraction ('.' :: t)

/-- The exponent of a number. -/
inductive IsExponent : List Char → Prop
  /-- There is none. -/
  | none : IsExponent []
  /-- Digits behind a letter, and perhaps a sign. -/
  | digits {e : Char} {sign t : List Char} :
    e = 'e' ∨ e = 'E' → sign = [] ∨ sign = ['+'] ∨ sign = ['-'] → IsDigits t →
      IsExponent (e :: (sign ++ t))

/-- A number: perhaps a minus sign, the whole part, the fraction and the exponent. -/
inductive IsNumeral : List Char → Prop
  /-- All parts together. -/
  | mk {sign whole fraction exponent : List Char} :
    sign = [] ∨ sign = ['-'] → IsWhole whole → IsFraction fraction → IsExponent exponent →
      IsNumeral (sign ++ (whole ++ (fraction ++ exponent)))

/-- Digits do not begin with anything else. -/
theorem IsDigits.ne_cons {t : List Char} (h : IsDigits t) {c : Char} (hc : c.isDigit = false)
    (rest s : List Char) : t ++ rest ≠ c :: s := by
  obtain ⟨hne, hdigits⟩ := h
  obtain ⟨d, t, rfl⟩ := List.exists_cons_of_ne_nil hne
  intro heq
  obtain ⟨rfl, -⟩ := List.cons.inj heq
  exact Bool.eq_false_iff.1 hc (hdigits d List.mem_cons_self)

theorem IsWhole.isDigits {t : List Char} (h : IsWhole t) : IsDigits t := by
  cases h with
  | zero => exact ⟨List.cons_ne_nil _ _, List.forall_mem_singleton.2 rfl⟩
  | digits _ hdigits => exact ⟨List.cons_ne_nil _ _, hdigits⟩

theorem IsWhole.isNumeral {t : List Char} (h : IsWhole t) : IsNumeral t := by
  have hall := IsNumeral.mk (.inl rfl) h .none .none
  rwa [List.append_nil, List.append_nil, List.nil_append] at hall

/-- A number of digits alone is nothing but its whole part. -/
theorem IsNumeral.isWhole {t : List Char} (h : IsNumeral t) (hdigits : ∀ c ∈ t, c.isDigit = true) :
    IsWhole t := by
  obtain ⟨hsign, hwhole, hfraction, hexponent⟩ := h
  simp only [List.forall_mem_append] at hdigits
  obtain ⟨hdigitsSign, -, hdigitsFraction, hdigitsExponent⟩ := hdigits
  obtain rfl : _ = [] := hsign.resolve_right fun hminus =>
    absurd (hdigitsSign '-' (hminus ▸ List.mem_cons_self)) (by decide)
  cases hfraction with
  | digits _ => exact absurd (hdigitsFraction '.' List.mem_cons_self) (by decide)
  | none =>
    cases hexponent with
    | @digits e _ _ he _ _ =>
      have hletter : e.isDigit = false := by rcases he with rfl | rfl <;> rfl
      exact absurd (hdigitsExponent e List.mem_cons_self) (Bool.eq_false_iff.1 hletter)
    | none => rwa [List.append_nil, List.append_nil, List.nil_append]

/-- A number begins with a character that begins numbers. -/
theorem IsNumeral.head {t : List Char} (h : IsNumeral t) :
    ∃ c t', t = c :: t' ∧ startsNumeral c = true := by
  obtain ⟨hsign, hwhole, -, -⟩ := h
  rcases hsign with rfl | rfl
  · obtain ⟨hne, hdigits⟩ := hwhole.isDigits
    obtain ⟨c, t', rfl⟩ := List.exists_cons_of_ne_nil hne
    refine ⟨c, _, rfl, ?_⟩
    rw [startsNumeral, hdigits c List.mem_cons_self, Bool.or_true]
  · exact ⟨'-', _, rfl, rfl⟩

/-! ### Numbers nobody wants -/

section Skipping

variable {rest : List Char}

theorem skipDigits_append {t : List Char} (ht : ∀ c ∈ t, c.isDigit = true)
    (hrest : startsWithDigit rest = false) : skipDigits (t ++ rest) = rest := by
  rw [skipDigits, List.dropWhile_append_of_pos ht]
  cases rest with
  | nil => rfl
  | cons c rest => exact List.dropWhile_cons_of_neg (Bool.not_eq_true _ ▸ hrest)

theorem skipExponentDigits_append {t : List Char} (ht : IsDigits t) (hrest : EndsNumeral rest) :
    skipExponentDigits (t ++ rest) = .ok rest := by
  obtain ⟨hne, hdigits⟩ := ht
  obtain ⟨c, t, rfl⟩ := List.exists_cons_of_ne_nil hne
  obtain ⟨hc, hdigits⟩ := List.forall_mem_cons.1 hdigits
  rw [List.cons_append, skipExponentDigits, if_pos hc,
    skipDigits_append hdigits (startsWithDigit_of_ends hrest)]

theorem skipExponent_append {t : List Char} (ht : IsExponent t) (hrest : EndsNumeral rest) :
    skipExponent (t ++ rest) = .ok rest := by
  cases ht with
  | none =>
    cases rest with
    | nil => rfl
    | cons c rest =>
      obtain ⟨-, -, he, hE⟩ := hrest c rfl
      rw [List.nil_append, skipExponent.eq_def]
      exact if_neg (not_or.2 ⟨he, hE⟩)
  | @digits e sign t he hsign ht =>
    have hskip := skipExponentDigits_append ht hrest
    rw [List.cons_append, List.append_assoc, skipExponent.eq_def]
    refine (if_pos he).trans ?_
    rcases hsign with rfl | rfl | rfl
    · rw [List.nil_append]
      split
      case h_1 heq => exact absurd heq (ht.ne_cons (by decide) rest _)
      case h_2 heq => exact absurd heq (ht.ne_cons (by decide) rest _)
      case h_3 => exact hskip
    · exact hskip
    · exact hskip

/-- An exponent goes on with neither a digit nor a point. -/
theorem head_exponent {e : List Char} (he : IsExponent e) (hrest : EndsNumeral rest) :
    ∀ c ∈ (e ++ rest).head?, c.isDigit = false ∧ c ≠ '.' := by
  cases he with
  | none => exact fun c hc => ⟨(hrest c hc).1, (hrest c hc).2.1⟩
  | digits he _ _ =>
    rintro c ⟨⟩
    rcases he with rfl | rfl <;> decide

theorem startsWithDigit_eq_false {s : List Char} (h : ∀ c ∈ s.head?, c.isDigit = false) :
    startsWithDigit s = false := by
  cases s with
  | nil => rfl
  | cons c s => exact h c rfl

/-- What follows the whole part does not go on with a digit. -/
theorem startsWithDigit_fraction {f e : List Char} (hf : IsFraction f) (he : IsExponent e)
    (hrest : EndsNumeral rest) : startsWithDigit (f ++ (e ++ rest)) = false := by
  cases hf with
  | none => exact startsWithDigit_eq_false fun c hc => (head_exponent he hrest c hc).1
  | digits => rfl

theorem skipFraction_append {f e : List Char} (hf : IsFraction f) (he : IsExponent e)
    (hrest : EndsNumeral rest) : skipFraction (f ++ (e ++ rest)) = .ok rest := by
  have hskip := skipExponent_append he hrest
  cases hf with
  | none =>
    rw [List.nil_append, skipFraction]
    · exact hskip
    · intro s hs
      exact (head_exponent he hrest '.' (by rw [hs]; rfl)).2 rfl
  | @digits t ht =>
    obtain ⟨hne, hdigits⟩ := ht
    have hstarts : startsWithDigit (t ++ (e ++ rest)) = true := by
      obtain ⟨c, t, rfl⟩ := List.exists_cons_of_ne_nil hne
      exact hdigits c List.mem_cons_self
    have hends := startsWithDigit_eq_false fun c hc => (head_exponent he hrest c hc).1
    rw [List.cons_append, skipFraction, if_pos hstarts, skipDigits_append hdigits hends, hskip]

theorem skipMagnitude_append {w f e : List Char} (hw : IsWhole w) (hf : IsFraction f)
    (he : IsExponent e) (hrest : EndsNumeral rest) :
    skipMagnitude (w ++ (f ++ (e ++ rest))) = .ok rest := by
  have hends := startsWithDigit_fraction hf he hrest
  have hskip := skipFraction_append hf he hrest
  cases hw with
  | zero =>
    rw [List.cons_append, List.nil_append, skipMagnitude, if_pos rfl, hends, if_neg (by decide),
      hskip]
  | digits hzero hdigits =>
    obtain ⟨hc, hdigits⟩ := List.forall_mem_cons.1 hdigits
    rw [List.cons_append, skipMagnitude, if_neg hzero, if_pos hc, skipDigits_append hdigits hends,
      hskip]

/-- **A number is skipped up to its end.** -/
theorem skipNumeral_append {t : List Char} (ht : IsNumeral t) (hrest : EndsNumeral rest) :
    skipNumeral (t ++ rest) = .ok rest := by
  obtain ⟨hsign, hwhole, hfraction, hexponent⟩ := ht
  have hskip := skipMagnitude_append hwhole hfraction hexponent hrest
  rw [List.append_assoc, List.append_assoc, List.append_assoc]
  rcases hsign with rfl | rfl
  · rw [List.nil_append, skipNumeral]
    · exact hskip
    · exact fun s => hwhole.isDigits.ne_cons (by decide) _ s
  · exact hskip

end Skipping

/-! ### Numbers that somebody wants -/

section Reading

variable {negative down any : Bool} {significand read n : Nat} {before surplus : Int}
  {s r : List Char}

theorem whole_eq_natural_iff :
    whole negative significand = .natural n ↔ negative = false ∧ significand = n := by
  unfold whole
  cases negative with
  | false => simp
  | true =>
    simp only [Bool.not_true, Bool.false_eq_true, if_false, false_and, iff_false, reduceCtorEq]
    split <;> exact Numeral.noConfusion

theorem floating_ne_natural : floating negative significand before s ≠ .ok (.natural n, r) := by
  unfold floating
  split <;> simp

theorem exponentDigits_ne_natural :
    exponentDigits negative significand before down read s ≠ .ok (.natural n, r) := by
  induction s generalizing read with
  | nil => exact floating_ne_natural
  | cons c s ih =>
    unfold exponentDigits
    split
    · split
      · split <;> simp
      · exact ih
    · exact floating_ne_natural

theorem firstExponentDigit_ne_natural :
    firstExponentDigit negative significand before down s ≠ .ok (.natural n, r) := by
  unfold firstExponentDigit
  split
  · simp
  · split
    · exact exponentDigits_ne_natural
    · simp

theorem exponent_ne_natural : exponent negative significand before s ≠ .ok (.natural n, r) := by
  unfold exponent
  split <;> exact firstExponentDigit_ne_natural

theorem optionalExponent_ne_natural :
    optionalExponent negative significand before s ≠ .ok (.natural n, r) := by
  unfold optionalExponent
  split
  · exact exponent_ne_natural
  · exact exponent_ne_natural
  · exact floating_ne_natural

theorem fractionDigits_ne_natural :
    fractionDigits negative significand before any s ≠ .ok (.natural n, r) := by
  induction s generalizing significand before any with
  | nil =>
    unfold fractionDigits
    split
    · exact floating_ne_natural
    · simp
  | cons c s ih =>
    unfold fractionDigits
    split
    · split
      · exact optionalExponent_ne_natural
      · exact ih
    · split
      · exact optionalExponent_ne_natural
      · simp

theorem surplusDigits_ne_natural :
    surplusDigits negative significand surplus s ≠ .ok (.natural n, r) := by
  induction s generalizing surplus with
  | nil => exact floating_ne_natural
  | cons c s ih =>
    unfold surplusDigits
    split
    · exact ih
    · split
      · exact fractionDigits_ne_natural
      · exact optionalExponent_ne_natural

/-- Behind the digits, a whole number is at its end. -/
theorem numeralTail_natural (h : numeralTail negative significand s = .ok (.natural n, r))
    (hdigit : startsWithDigit s = false) :
    negative = false ∧ significand = n ∧ s = r ∧ EndsNumeral s := by
  unfold numeralTail at h
  split at h
  case h_1 => exact absurd h fractionDigits_ne_natural
  case h_2 => exact absurd h exponent_ne_natural
  case h_3 => exact absurd h exponent_ne_natural
  case h_4 hpoint he hE =>
    obtain ⟨hwhole, rfl⟩ := Prod.mk.inj (Except.ok.inj h)
    obtain ⟨hpositive, hvalue⟩ := whole_eq_natural_iff.1 hwhole
    refine ⟨hpositive, hvalue, rfl, ?_⟩
    cases s with
    | nil => exact fun c hc => nomatch hc
    | cons c s =>
      rintro _ ⟨⟩
      refine ⟨hdigit, ?_, ?_, ?_⟩
      · rintro rfl
        exact hpoint s rfl
      · rintro rfl
        exact he s rfl
      · rintro rfl
        exact hE s rfl

/-- What is read as a whole number behind its first digits goes on with digits, up to its end. -/
theorem wholeDigits_natural (h : wholeDigits negative significand s = .ok (.natural n, r))
    (hread : significand ≤ maxSignificand) :
    negative = false ∧ ∃ t, s = t ++ r ∧ (∀ c ∈ t, c.isDigit = true) ∧
      Nat.ofDigitChars 10 t significand = n ∧ n ≤ maxSignificand ∧ EndsNumeral r := by
  induction s generalizing significand with
  | nil =>
    obtain ⟨hwhole, rfl⟩ := Prod.mk.inj (Except.ok.inj h)
    obtain ⟨hpositive, rfl⟩ := whole_eq_natural_iff.1 hwhole
    exact ⟨hpositive, [], rfl, by simp, Nat.ofDigitChars_nil, hread, fun c hc => nomatch hc⟩
  | cons c s ih =>
    unfold wholeDigits at h
    split at h
    case isTrue hc =>
      split at h
      case isTrue => exact absurd h surplusDigits_ne_natural
      case isFalse hfits =>
        obtain ⟨hpositive, t, rfl, hdigits, hvalue, hends⟩ := ih h (Nat.not_lt.1 hfits)
        refine ⟨hpositive, c :: t, rfl, List.forall_mem_cons.2 ⟨hc, hdigits⟩, ?_, hends⟩
        rw [Nat.ofDigitChars_cons, Nat.mul_comm]
        exact hvalue
    case isFalse hc =>
      obtain ⟨hpositive, rfl, rfl, hends⟩ := numeralTail_natural h (Bool.eq_false_iff.2 hc)
      exact ⟨hpositive, [], rfl, by simp, Nat.ofDigitChars_nil, hread, hends⟩

theorem magnitude_natural (h : magnitude negative s = .ok (.natural n, r)) :
    negative = false ∧ ∃ t, s = t ++ r ∧ IsWhole t ∧ Nat.ofDigitChars 10 t 0 = n ∧
      n ≤ maxSignificand ∧ EndsNumeral r := by
  unfold magnitude at h
  split at h
  case h_1 => cases h
  case h_2 c s =>
    split at h
    case isTrue hzero =>
      subst hzero
      split at h
      case isTrue => cases h
      case isFalse hdigit =>
        obtain ⟨hpositive, rfl, rfl, hends⟩ := numeralTail_natural h (Bool.eq_false_iff.2 hdigit)
        exact ⟨hpositive, ['0'], rfl, .zero, rfl, Nat.zero_le _, hends⟩
    case isFalse hzero =>
      split at h
      case isTrue hc =>
        have hsmall : digitValue c ≤ maxSignificand :=
          Nat.le_trans (Nat.sub_le _ _) (Nat.le_trans (Nat.le_of_lt c.val.toNat_lt) (by decide))
        obtain ⟨hpositive, t, rfl, hdigits, hvalue, hfits, hends⟩ := wholeDigits_natural h hsmall
        refine ⟨hpositive, c :: t, rfl, .digits hzero (List.forall_mem_cons.2 ⟨hc, hdigits⟩), ?_,
          hfits, hends⟩
        rw [Nat.ofDigitChars_cons, Nat.mul_zero, Nat.zero_add]
        exact hvalue
      case isFalse => cases h

/-- **The texts that are read as a whole number.** -/
theorem numeral_eq_natural_iff :
    numeral s = .ok (.natural n, r) ↔
      ∃ t, s = t ++ r ∧ IsWhole t ∧ Nat.ofDigitChars 10 t 0 = n ∧ n ≤ maxSignificand ∧
        EndsNumeral r := by
  constructor
  · intro h
    unfold numeral at h
    split at h
    case h_1 => exact absurd (magnitude_natural h).1 (by decide)
    case h_2 => exact (magnitude_natural h).2
  · rintro ⟨t, rfl, hwhole, hvalue, hfits, hends⟩
    cases hwhole with
    | zero =>
      rw [List.cons_append, List.nil_append, numeral_of_isDigit (by decide), magnitude, if_pos rfl,
        startsWithDigit_of_ends hends, if_neg (by decide), numeralTail_of_ends hends]
      rw [← hvalue]
      rfl
    | @digits c t hzero hdigits =>
      obtain ⟨hc, hdigits⟩ := List.forall_mem_cons.1 hdigits
      rw [Nat.ofDigitChars_cons, Nat.mul_zero, Nat.zero_add] at hvalue
      change Nat.ofDigitChars 10 t (digitValue c) = n at hvalue
      rw [List.cons_append, numeral_of_isDigit hc, magnitude, if_neg hzero, if_pos hc,
        wholeDigits_append hdigits hends (hvalue.symm ▸ hfits), hvalue]

/-- **A number is read as a whole number if it is made of digits.** Whatever is read can be skipped
too, so the two readers agree on where the number ends. -/
theorem numeral_append {t rest : List Char} (ht : IsNumeral t) (hrest : EndsNumeral rest) :
    numeral (t ++ rest) = .ok (.natural n, r) ↔
      IsDigits t ∧ Nat.ofDigitChars 10 t 0 = n ∧ n ≤ maxSignificand ∧ r = rest := by
  rw [numeral_eq_natural_iff]
  constructor
  · rintro ⟨t', heq, hwhole, hvalue, hfits, hends⟩
    have hskip := skipNumeral_append ht hrest
    rw [heq, skipNumeral_append hwhole.isNumeral hends, Except.ok.injEq] at hskip
    subst hskip
    obtain rfl := List.append_cancel_right heq
    exact ⟨hwhole.isDigits, hvalue, hfits, rfl⟩
  · rintro ⟨⟨-, hdigits⟩, hvalue, hfits, rfl⟩
    exact ⟨t, rfl, ht.isWhole hdigits, hvalue, hfits, hrest⟩

end Reading

end Overlay.Json
