import Mathlib.Data.List.Basic
import Mathlib.Tactic.Common
import Overlay.Proofs.WrittenForm

namespace Overlay.Json

/-!
# How strings are spelled

Every character of a string may be escaped, and many in several ways. A string that somebody wants
is read as what it spells. A string nobody wants is only checked, and there the halves of surrogate
pairs may stand alone, which spell nothing.

* `IsEscape`, `Spells` — what stands for one character, and for the characters of a string;
* `string_eq_ok_iff` — a string is read if it spells something;
* `IsQuoted` — what may stand between quotes; `skipString_append` — it is skipped up to its end.
-/

/-! ### Escapes -/

/-- Four hexadecimal digits, and their number. -/
def IsHexFour (digits : List Char) (n : Nat) : Prop :=
  digits.length = 4 ∧ hexNumber? digits = some n

/-- What may follow a backslash, and the character that it stands for. -/
inductive IsEscape : List Char → Char → Prop
  /-- One letter or sign. -/
  | short {e c : Char} : shortEscape? e = some c → IsEscape [e] c
  /-- The number of the character. -/
  | number {digits : List Char} {n : Nat} :
    IsHexFour digits n → isHighHalf n = false → isLowHalf n = false →
      IsEscape ('u' :: digits) (Char.ofNat n)
  /-- Both halves of a surrogate pair, each by its number. -/
  | pair {digits digits' : List Char} {high low : Nat} :
    IsHexFour digits high → isHighHalf high = true →
    IsHexFour digits' low → isLowHalf low = true →
      IsEscape ('u' :: (digits ++ '\\' :: 'u' :: digits')) (joinHalves high low)

/-- Four hexadecimal digits are read as their number. -/
theorem hexFour_eq_ok_iff {s r : List Char} {n : Nat} :
    hexFour s = .ok (n, r) ↔ ∃ digits, s = digits ++ r ∧ IsHexFour digits n := by
  constructor
  · intro h
    unfold hexFour at h
    split at h
    case h_1 a b c d rest =>
      cases hn : hexNumber? [a, b, c, d] with
      | none => simp only [hn, reduceCtorEq] at h
      | some m =>
        simp only [hn, Except.ok.injEq, Prod.mk.injEq] at h
        obtain ⟨rfl, rfl⟩ := h
        exact ⟨[a, b, c, d], rfl, rfl, hn⟩
    case h_2 => split at h <;> cases h
  · rintro ⟨digits, rfl, hlength, hn⟩
    match digits, hlength with
    | [a, b, c, d], _ => simp only [hexFour, List.cons_append, List.nil_append, hn]

theorem not_isHighHalf_of_isLowHalf {n : Nat} (h : isLowHalf n = true) : isHighHalf n = false := by
  simp only [isLowHalf, isHighHalf, Bool.and_eq_true, decide_eq_true_eq, Bool.and_eq_false_iff,
    decide_eq_false_iff_not] at *
  omega

/-- The second half of a pair is an escape of its own. -/
theorem lowHalf_eq_ok_iff {high : Nat} {s r : List Char} {c : Char} :
    lowHalf high s = .ok (c, r) ↔
      ∃ digits low, s = '\\' :: 'u' :: (digits ++ r) ∧ IsHexFour digits low ∧
        isLowHalf low = true ∧ c = joinHalves high low := by
  constructor
  · intro h
    unfold lowHalf at h
    split at h
    case h_3 s =>
      cases hread : hexFour s with
      | error fault => simp only [hread, reduceCtorEq] at h
      | ok p =>
        obtain ⟨low, rest⟩ := p
        rw [hread] at h
        cases hlow : isLowHalf low with
        | false => simp only [hlow, Bool.false_eq_true, if_false, reduceCtorEq] at h
        | true =>
          simp only [hlow, if_true, Except.ok.injEq, Prod.mk.injEq] at h
          obtain ⟨rfl, rfl⟩ := h
          obtain ⟨digits, rfl, hdigits⟩ := hexFour_eq_ok_iff.1 hread
          exact ⟨digits, low, rfl, hdigits, hlow, rfl⟩
    all_goals cases h
  · rintro ⟨digits, low, rfl, hdigits, hlow, hc⟩
    have hread := hexFour_eq_ok_iff.2 ⟨digits, (rfl : digits ++ r = digits ++ r), hdigits⟩
    simp only [lowHalf, hread, hlow, if_true, hc]

/-- Behind its letter, an escape by a number is read as the character, or as half of one. -/
theorem hexEscape_eq_ok_iff {s r : List Char} {c : Char} :
    hexEscape s = .ok (c, r) ↔ ∃ e, s = e ++ r ∧ IsEscape ('u' :: e) c := by
  constructor
  · intro h
    rw [hexEscape] at h
    cases hread : hexFour s with
    | error fault => simp only [hread, reduceCtorEq] at h
    | ok p =>
      obtain ⟨n, rest⟩ := p
      obtain ⟨digits, rfl, hdigits⟩ := hexFour_eq_ok_iff.1 hread
      simp only [hread] at h
      cases hlow : isLowHalf n with
      | true => simp only [hlow, if_true, reduceCtorEq] at h
      | false =>
        cases hhigh : isHighHalf n with
        | true =>
          simp only [hlow, hhigh, Bool.false_eq_true, if_false, if_true] at h
          obtain ⟨digits', low, rfl, hdigits', hlow', hc⟩ := lowHalf_eq_ok_iff.1 h
          refine ⟨digits ++ '\\' :: 'u' :: digits', ?_,
            hc ▸ .pair hdigits hhigh hdigits' hlow'⟩
          simp only [List.cons_append, List.append_assoc]
        | false =>
          simp only [hlow, hhigh, Bool.false_eq_true, if_false, Except.ok.injEq,
            Prod.mk.injEq] at h
          obtain ⟨rfl, rfl⟩ := h
          exact ⟨digits, rfl, .number hdigits hhigh hlow⟩
  · rintro ⟨e, rfl, hescape⟩
    cases hescape with
    | short hshort => cases hshort
    | number hdigits hhigh hlow =>
      have hread := hexFour_eq_ok_iff.2 ⟨e, (rfl : e ++ r = e ++ r), hdigits⟩
      simp only [hexEscape, hread, hhigh, hlow, Bool.false_eq_true, if_false]
    | @pair digits digits' high low hdigits hhigh hdigits' hlow =>
      have hlow' : isLowHalf high = false := by
        by_contra hlow'
        rw [not_isHighHalf_of_isLowHalf (Bool.of_not_eq_false hlow')] at hhigh
        cases hhigh
      have hread := hexFour_eq_ok_iff.2
        ⟨digits, (rfl : digits ++ '\\' :: 'u' :: (digits' ++ r) = _), hdigits⟩
      have hsecond := lowHalf_eq_ok_iff.2
        ⟨digits', low, (rfl : '\\' :: 'u' :: (digits' ++ r) = _), hdigits', hlow,
          (rfl : joinHalves high low = _)⟩
      simp only [hexEscape, List.cons_append, List.append_assoc, hread, hlow', hhigh, hsecond,
        Bool.false_eq_true, if_false, if_true]

/-- **An escape is read as the character that it stands for.** -/
theorem escape_eq_ok_iff {s r : List Char} {c : Char} :
    escape s = .ok (c, r) ↔ ∃ e, s = e ++ r ∧ IsEscape e c := by
  have hnumber : ∀ s, escape ('u' :: s) = hexEscape s := fun s => by
    rw [escape, if_pos rfl]
  constructor
  · intro h
    cases s with
    | nil => cases h
    | cons first s =>
      by_cases hu : first = 'u'
      · rw [hu, hnumber] at h
        obtain ⟨e, rfl, hescape⟩ := hexEscape_eq_ok_iff.1 h
        exact ⟨'u' :: e, hu ▸ rfl, hescape⟩
      · rw [escape, if_neg hu] at h
        cases hshort : shortEscape? first with
        | none => simp only [hshort, reduceCtorEq] at h
        | some e =>
          simp only [hshort, Except.ok.injEq, Prod.mk.injEq] at h
          obtain ⟨rfl, rfl⟩ := h
          exact ⟨[first], rfl, .short hshort⟩
  · rintro ⟨e, rfl, hescape⟩
    have hrest : ∀ e', e = 'u' :: e' → escape (e ++ r) = .ok (c, r) := by
      rintro e' rfl
      rw [List.cons_append, hnumber]
      exact hexEscape_eq_ok_iff.2 ⟨e', rfl, hescape⟩
    cases hescape with
    | @short first _ hshort =>
      have hu : first ≠ 'u' := by
        rintro rfl
        cases hshort
      simp only [escape, List.cons_append, List.nil_append, if_neg hu, hshort]
    | number => exact hrest _ rfl
    | pair => exact hrest _ rfl

/-! ### Strings that somebody wants -/

/-- Whether a character may stand in a string as it is. -/
def IsPlain (c : Char) : Prop := c ≠ '"' ∧ c ≠ '\\' ∧ ¬ c < ' '

instance (c : Char) : Decidable (IsPlain c) := inferInstanceAs (Decidable (_ ∧ _))

/-- The text between quotes, and the characters that it spells. -/
inductive Spells : List Char → List Char → Prop
  /-- Nothing spells no characters. -/
  | nil : Spells [] []
  /-- A character that stands for itself. -/
  | plain {c : Char} {t cs : List Char} : IsPlain c → Spells t cs → Spells (c :: t) (c :: cs)
  /-- A character that is escaped. -/
  | escaped {e t cs : List Char} {c : Char} :
    IsEscape e c → Spells t cs → Spells ('\\' :: (e ++ t)) (c :: cs)

/-- What spells something is read as it. -/
theorem Spells.stringOnto {t cs : List Char} (h : Spells t cs) (done : Array Char)
    (rest : List Char) :
    stringOnto done (t ++ '"' :: rest) = .ok (String.ofList (done.toList ++ cs), rest) := by
  induction h generalizing done with
  | nil =>
    rw [List.append_nil]
    exact stringOnto_quote done rest
  | plain hplain _ ih =>
    obtain ⟨hquote, hslash, hcontrol⟩ := hplain
    rw [List.cons_append, stringOnto_plain done hquote hslash hcontrol, ih, Array.toList_push,
      List.append_assoc]
    rfl
  | @escaped e t cs c hescape _ ih =>
    have hread := escape_eq_ok_iff.2 ⟨e, (rfl : e ++ (t ++ '"' :: rest) = _), hescape⟩
    rw [List.cons_append, List.append_assoc, stringOnto_escape done hread, ih, Array.toList_push,
      List.append_assoc]
    rfl

/-- What is read as a string spells it. -/
theorem spells_of_stringOnto {done : Array Char} {s r : List Char} {x : String}
    (h : stringOnto done s = .ok (x, r)) :
    ∃ t cs, s = t ++ '"' :: r ∧ Spells t cs ∧ x = String.ofList (done.toList ++ cs) := by
  fun_induction stringOnto done s with
  | case1 => cases h
  | case2 done s =>
    obtain ⟨rfl, rfl⟩ := Prod.mk.inj (Except.ok.inj h)
    exact ⟨[], [], rfl, .nil, by rw [List.append_nil]⟩
  | case3 => cases h
  | case4 done s c s' hread ih =>
    obtain ⟨t, cs, rfl, hspells, rfl⟩ := ih h
    obtain ⟨e, rfl, hescape⟩ := escape_eq_ok_iff.1 hread
    refine ⟨'\\' :: (e ++ t), c :: cs, ?_, .escaped hescape hspells, ?_⟩
    · rw [List.cons_append, List.append_assoc]
    · rw [Array.toList_push, List.append_assoc]
      rfl
  | case5 => cases h
  | case6 done c s hquote hslash hcontrol ih =>
    obtain ⟨t, cs, rfl, hspells, rfl⟩ := ih h
    refine ⟨c :: t, c :: cs, rfl, .plain ⟨?_, ?_, hcontrol⟩ hspells, ?_⟩
    · exact hquote
    · exact hslash
    · rw [Array.toList_push, List.append_assoc]
      rfl

/-- **A string is read as what it spells.** -/
theorem string_eq_ok_iff {s r : List Char} {x : String} :
    string s = .ok (x, r) ↔ ∃ t, s = t ++ '"' :: r ∧ Spells t x.toList := by
  constructor
  · intro h
    obtain ⟨t, cs, rfl, hspells, rfl⟩ := spells_of_stringOnto h
    refine ⟨t, rfl, ?_⟩
    rw [List.nil_append, String.toList_ofList]
    exact hspells
  · rintro ⟨t, rfl, hspells⟩
    have hread := hspells.stringOnto #[] r
    rwa [List.nil_append, String.ofList_toList] at hread

/-- A text spells one thing at most. -/
theorem Spells.unique {t : List Char} {x y : String} (h : Spells t x.toList)
    (h' : Spells t y.toList) : x = y := by
  have hread := string_eq_ok_iff.2 ⟨t, (rfl : t ++ ['"'] = _), h⟩
  have hread' := string_eq_ok_iff.2 ⟨t, (rfl : t ++ ['"'] = _), h'⟩
  exact (Prod.mk.inj (Except.ok.inj (hread.symm.trans hread'))).1

/-! ### Strings nobody wants -/

/-- What may stand between quotes. -/
inductive IsQuoted : List Char → Prop
  /-- Nothing. -/
  | nil : IsQuoted []
  /-- A character as it is. -/
  | plain {c : Char} {t : List Char} : IsPlain c → IsQuoted t → IsQuoted (c :: t)
  /-- An escape of one letter or sign. -/
  | short {e c : Char} {t : List Char} :
    shortEscape? e = some c → IsQuoted t → IsQuoted ('\\' :: e :: t)
  /-- An escape by any number, be it half of a pair. -/
  | number {digits t : List Char} {n : Nat} :
    IsHexFour digits n → IsQuoted t → IsQuoted ('\\' :: 'u' :: (digits ++ t))

/-- What spells something may stand between quotes. -/
theorem Spells.isQuoted {t cs : List Char} (h : Spells t cs) : IsQuoted t := by
  induction h with
  | nil => exact .nil
  | plain hplain _ ih => exact .plain hplain ih
  | escaped hescape _ ih =>
    cases hescape with
    | short hshort => exact .short hshort ih
    | number hdigits _ _ => exact .number hdigits ih
    | pair hdigits _ hdigits' _ =>
      have hboth := IsQuoted.number hdigits (.number hdigits' ih)
      simpa only [List.cons_append, List.append_assoc] using hboth

/-- An escape is skipped. -/
theorem skipString_escape {s rest : List Char} (h : skipEscape s = .ok rest) :
    skipString ('\\' :: s) = skipString rest := by
  rw [skipString]
  split
  case h_1 fault hfault =>
    rw [h] at hfault
    cases hfault
  case h_2 rest' hread =>
    rw [h] at hread
    cases hread
    rfl

/-- **A string is skipped up to its closing quote.** -/
theorem skipString_append {t : List Char} (h : IsQuoted t) (rest : List Char) :
    skipString (t ++ '"' :: rest) = .ok rest := by
  induction h with
  | nil => rw [List.nil_append, skipString]
  | @plain c t hplain _ ih =>
    obtain ⟨hquote, hslash, hcontrol⟩ := hplain
    rw [List.cons_append, skipString, if_neg hcontrol, ih]
    · exact hquote
    · exact hslash
  | @short e c t hshort _ ih =>
    have hu : e ≠ 'u' := by
      rintro rfl
      cases hshort
    have hskip : skipEscape (e :: (t ++ '"' :: rest)) = .ok (t ++ '"' :: rest) := by
      simp only [skipEscape, if_neg hu, hshort]
    rw [List.cons_append, List.cons_append, skipString_escape hskip, ih]
  | @number digits t n hdigits _ ih =>
    have hread := hexFour_eq_ok_iff.2 ⟨digits, (rfl : digits ++ (t ++ '"' :: rest) = _), hdigits⟩
    have hskip : skipEscape ('u' :: (digits ++ (t ++ '"' :: rest))) = .ok (t ++ '"' :: rest) := by
      simp only [skipEscape, if_true, hread, Except.map]
    rw [List.cons_append, List.cons_append, List.append_assoc, skipString_escape hskip, ih]

/-- **A string that is well-formed is read if it spells something**, and then up to its closing
quote. The two readers cannot disagree on where that is, since what is read can be skipped too. -/
theorem string_append {t : List Char} (h : IsQuoted t) {rest r : List Char} {x : String} :
    string (t ++ '"' :: rest) = .ok (x, r) ↔ Spells t x.toList ∧ r = rest := by
  constructor
  · intro hread
    obtain ⟨t', heq, hspells⟩ := string_eq_ok_iff.1 hread
    have hskip := skipString_append h rest
    rw [heq, skipString_append hspells.isQuoted, Except.ok.injEq] at hskip
    subst hskip
    exact ⟨List.append_cancel_right heq ▸ hspells, rfl⟩
  · rintro ⟨hspells, rfl⟩
    exact string_eq_ok_iff.2 ⟨t, rfl, hspells⟩

end Overlay.Json
