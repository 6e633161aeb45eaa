import Overlay.Json.Numeral

namespace Overlay.Json

/-!
# Values nobody wants

A value is skipped by checking its grammar alone: numbers of any size, strings with halves of
surrogate pairs, and nesting of any depth. The lists and objects that are still open are kept
on a stack, innermost first.
-/

/-- A list or an object that is still open. -/
inductive Enclosure where
  | list
  | object
deriving DecidableEq, Inhabited, Repr

/-- The character that closes a list or an object. -/
def Enclosure.closer : Enclosure → Char
  | list => ']'
  | object => '\x7d'

/-- The complaint when the text ends in a list or an object. -/
def Enclosure.ending : Enclosure → Complaint
  | list => .endInList
  | object => .endInObject

/-- The complaint when an element is followed by neither a comma nor the end. -/
def Enclosure.noComma : Enclosure → Complaint
  | list => .noListComma
  | object => .noObjectComma

theorem length_skipBlanks_le (s : List Char) : (skipBlanks s).length ≤ s.length :=
  (List.dropWhile_sublist _).length_le

theorem length_word_le {letters s r : List Char} (h : word letters s = .ok r) :
    r.length ≤ s.length := by
  fun_induction word letters s with
  | case1 s => obtain rfl := Except.ok.inj h; exact Nat.le_refl _
  | case2 => cases h
  | case3 l letters s ih => exact Nat.le_trans (ih h) (by simp)
  | case4 => cases h

/-- Skip a value that is neither a list nor an object and begins with character `c`. -/
def skipScalar (c : Char) (s : List Char) : Except Fault (List Char) :=
  if c = 'n' then word ['u', 'l', 'l'] s
  else if c = 't' then word ['r', 'u', 'e'] s
  else if c = 'f' then word ['a', 'l', 's', 'e'] s
  else if c = '"' then skipString s
  else if startsNumeral c then skipNumeral (c :: s)
  else .error (.next .noValue (c :: s))

theorem length_skipScalar_le {c : Char} {s r : List Char} (h : skipScalar c s = .ok r) :
    r.length ≤ s.length := by
  unfold skipScalar at h
  split at h
  · exact length_word_le h
  · split at h
    · exact length_word_le h
    · split at h
      · exact length_word_le h
      · split at h
        · exact Nat.le_of_lt (length_skipString_lt h)
        · split at h
          · exact Nat.le_of_lt_succ (length_skipNumeral_lt h)
          · cases h

/-- Skip the key of a member and its colon. -/
def skipKey (s : List Char) : Except Fault (List Char) :=
  match skipBlanks s with
  | [] => .error (.here .endInObject [])
  | '"' :: s =>
    match skipString s with
    | .error fault => .error fault
    | .ok s =>
      match skipBlanks s with
      | [] => .error (.here .endInObject [])
      | ':' :: s => .ok s
      | c :: s => .error (.next .noColon (c :: s))
  | c :: s => .error (.next .keyNotString (c :: s))

theorem length_skipKey_le {s r : List Char} (h : skipKey s = .ok r) : r.length ≤ s.length := by
  have hb := length_skipBlanks_le s
  unfold skipKey at h
  split at h
  · cases h
  · rename_i s₁ hs₁
    rw [hs₁, List.length_cons] at hb
    split at h
    · cases h
    · rename_i s₂ hs₂
      have h2 := length_skipString_lt hs₂
      have hb2 := length_skipBlanks_le s₂
      split at h
      · cases h
      · rename_i s₃ hs₃
        rw [hs₃, List.length_cons] at hb2
        obtain rfl := Except.ok.inj h
        omega
      · cases h
  · cases h

/-- Go to the next element of an enclosure: past its key, if it has one. -/
def skipToElement : Enclosure → List Char → Except Fault (List Char)
  | .list, s => .ok s
  | .object, s => skipKey s

theorem length_skipToElement_le {e : Enclosure} {s r : List Char}
    (h : skipToElement e s = .ok r) : r.length ≤ s.length := by
  unfold skipToElement at h
  split at h
  · obtain rfl := Except.ok.inj h; exact Nat.le_refl _
  · exact length_skipKey_le h

mutual

/-- Skip a value, and then whatever the open enclosures hold behind it. -/
def skipNested (stack : List Enclosure) (s : List Char) : Except Fault (List Char) :=
  match _hb : skipBlanks s with
  | [] => .error (.here .endInValue [])
  | '[' :: s' => skipRest false .list stack s'
  | '\x7b' :: s' => skipRest false .object stack s'
  | c :: s' =>
    match _hs : skipScalar c s' with
    | .error fault => .error fault
    | .ok r =>
      match stack with
      | [] => .ok r
      | e :: outer => skipRest true e outer r
termination_by (s.length, 0)
decreasing_by
  · apply Prod.Lex.left
    have h1 := length_skipBlanks_le s
    rw [_hb, List.length_cons] at h1
    omega
  · apply Prod.Lex.left
    have h1 := length_skipBlanks_le s
    rw [_hb, List.length_cons] at h1
    omega
  · apply Prod.Lex.left
    have h1 := length_skipBlanks_le s
    have h2 := length_skipScalar_le _hs
    rw [_hb, List.length_cons] at h1
    omega

/-- Skip the rest of enclosure `e` and of the enclosures around it. `comma` says that an element
was just read, so that a comma may follow. -/
def skipRest (comma : Bool) (e : Enclosure) (outer : List Enclosure) (s : List Char) :
    Except Fault (List Char) :=
  match _hb : skipBlanks s with
  | [] => .error (.here e.ending [])
  | c :: s' =>
    if c = ',' ∧ comma = true then
      match _hk : skipToElement e s' with
      | .error fault => .error fault
      | .ok r => skipNested (e :: outer) r
    else if c = e.closer then
      match outer with
      | [] => .ok s'
      | e' :: outer' => skipRest true e' outer' s'
    else if comma then
      .error (.next e.noComma (c :: s'))
    else
      match _hk : skipToElement e (c :: s') with
      | .error fault => .error fault
      | .ok r => skipNested (e :: outer) r
termination_by (s.length, 1)
decreasing_by
  · apply Prod.Lex.left
    have h1 := length_skipBlanks_le s
    have h2 := length_skipToElement_le _hk
    rw [_hb, List.length_cons] at h1
    omega
  · apply Prod.Lex.left
    have h1 := length_skipBlanks_le s
    rw [_hb, List.length_cons] at h1
    omega
  · have h1 := length_skipBlanks_le s
    have h2 := length_skipToElement_le _hk
    rw [_hb] at h1
    rcases Nat.lt_or_eq_of_le (Nat.le_trans h2 h1) with h | h
    · exact Prod.Lex.left _ _ h
    · rw [h]; exact Prod.Lex.right _ (by decide)

end

/-- Skip one value. -/
def skipValue (s : List Char) : Except Fault (List Char) := skipNested [] s

/-- What skipping a value leaves is shorter, if that holds of the rest of every enclosure in
what stands behind the value's first character. -/
theorem length_skipNested_lt_of {stack : List Enclosure} {s r : List Char}
    (rest : ∀ comma e outer (t u : List Char), t.length < s.length →
      skipRest comma e outer t = .ok u → u.length < t.length)
    (h : skipNested stack s = .ok r) : r.length < s.length := by
  have hb := length_skipBlanks_le s
  rw [skipNested] at h
  split at h
  · cases h
  · rename_i s' hs
    rw [hs, List.length_cons] at hb
    have := rest _ _ _ _ _ (by omega) h
    omega
  · rename_i s' hs
    rw [hs, List.length_cons] at hb
    have := rest _ _ _ _ _ (by omega) h
    omega
  · rename_i c s' _ _ hs
    rw [hs, List.length_cons] at hb
    split at h
    · cases h
    · rename_i t ht
      have hle := length_skipScalar_le ht
      split at h
      · obtain rfl := Except.ok.inj h
        omega
      · have := rest _ _ _ _ _ (by omega) h
        omega

/-- What skipping the rest of an enclosure leaves is shorter, if that holds of all that can
follow in it. -/
theorem length_skipRest_lt_of {comma : Bool} {e : Enclosure} {outer : List Enclosure}
    {s r : List Char}
    (nested : ∀ stack (t u : List Char), t.length ≤ s.length →
      skipNested stack t = .ok u → u.length < t.length)
    (rest : ∀ comma e outer (t u : List Char), t.length < s.length →
      skipRest comma e outer t = .ok u → u.length < t.length)
    (h : skipRest comma e outer s = .ok r) : r.length < s.length := by
  have hb := length_skipBlanks_le s
  rw [skipRest] at h
  split at h
  · cases h
  · rename_i c s' hs
    rw [hs, List.length_cons] at hb
    split at h
    · split at h
      · cases h
      · rename_i t ht
        have hle := length_skipToElement_le ht
        have := nested _ _ _ (by omega) h
        omega
    · split at h
      · split at h
        · obtain rfl := Except.ok.inj h
          omega
        · have := rest _ _ _ _ _ (by omega) h
          omega
      · split at h
        · cases h
        · split at h
          · cases h
          · rename_i t ht
            have hle := length_skipToElement_le ht
            rw [List.length_cons] at hle
            have := nested _ _ _ (by omega) h
            omega

/-- The rest of an enclosure has at least one character. -/
theorem length_skipRest_lt {comma : Bool} {e : Enclosure} {outer : List Enclosure}
    {s r : List Char} (h : skipRest comma e outer s = .ok r) : r.length < s.length := by
  induction hn : s.length using Nat.strongRecOn generalizing comma e outer s r with
  | ind n ih =>
    subst hn
    have rest : ∀ comma e outer (t u : List Char), t.length < s.length →
        skipRest comma e outer t = .ok u → u.length < t.length :=
      fun _ _ _ t u ht hu => ih t.length ht hu rfl
    refine length_skipRest_lt_of (fun stack t u ht hu => ?_) rest h
    exact length_skipNested_lt_of
      (fun _ _ _ v w hv hw => rest _ _ _ v w (Nat.lt_of_lt_of_le hv ht) hw) hu

/-- A skipped value has at least one character. -/
theorem length_skipValue_lt {s r : List Char} (h : skipValue s = .ok r) :
    r.length < s.length :=
  length_skipNested_lt_of (fun _ _ _ _ _ _ hu => length_skipRest_lt hu) h

end Overlay.Json
