import Mathlib.Data.List.DropRight
import Overlay.Proofs.Numerals
import Overlay.Proofs.Spelling

namespace Overlay.Json

/-!
# Values and the blanks in them

A value may hold blanks between its tokens, and lists and objects in it to any depth. A value nobody
wants is skipped up to its end, whatever it holds: what looks like a key or an end inside a string
is not taken for one, and every enclosure is closed by its own end.

* `Spaced` — a part of a value as it is written, with the same part without blanks;
* `resume` — what is left to do behind a value, given the enclosures that are still open;
* `Spaced.skips` — whatever part is skipped, it is skipped up to its end;
* `skipValue_append` — so is a whole value.
-/

/-! ### Blanks -/

/-- Nothing but blanks. -/
def IsBlanks (b : List Char) : Prop := ∀ c ∈ b, isBlank c = true

instance (b : List Char) : Decidable (IsBlanks b) :=
  decidable_of_iff (b.all isBlank = true) List.all_eq_true

section Blanks

variable {b s : List Char} {c : Char}

theorem IsBlanks.nil : IsBlanks [] := fun _ hc => nomatch hc

/-- Blanks are skipped. -/
theorem skipBlanks_append (hb : IsBlanks b) (s : List Char) :
    skipBlanks (b ++ s) = skipBlanks s :=
  List.dropWhile_append_of_pos hb

theorem skipBlanks_cons (hc : isBlank c = false) (s : List Char) : skipBlanks (c :: s) = c :: s :=
  List.dropWhile_cons_of_neg (Bool.eq_false_iff.1 hc)

/-- Blanks are skipped up to a character that is none. -/
theorem skipBlanks_to (hb : IsBlanks b) (hc : isBlank c = false) (s : List Char) :
    skipBlanks (b ++ c :: s) = c :: s := by
  rw [skipBlanks_append hb, skipBlanks_cons hc]

theorem skipBlanks_of_isBlanks (hb : IsBlanks b) : skipBlanks b = [] := by
  have hskip := skipBlanks_append hb []
  rwa [List.append_nil] at hskip

/-- Behind blanks there are no others. -/
theorem skipBlanks_skipBlanks (s : List Char) : skipBlanks (skipBlanks s) = skipBlanks s :=
  List.dropWhile_idempotent _ s

theorem endsNumeral_cons (hc : c.isDigit = false ∧ c ≠ '.' ∧ c ≠ 'e' ∧ c ≠ 'E') (s : List Char) :
    EndsNumeral (c :: s) := by
  rintro _ ⟨⟩
  exact hc

/-- A number ends where blanks begin. -/
theorem EndsNumeral.append (hb : IsBlanks b) (hs : EndsNumeral s) : EndsNumeral (b ++ s) := by
  cases b with
  | nil => exact hs
  | cons c b =>
    have hblank := hb c List.mem_cons_self
    simp only [isBlank, Bool.or_eq_true, decide_eq_true_eq] at hblank
    refine endsNumeral_cons ?_ (b ++ s)
    rcases hblank with ((rfl | rfl) | rfl) | rfl <;> decide

end Blanks

/-! ### The grammar of values -/

/-- The character that opens a list or an object. -/
def Enclosure.opener : Enclosure → Char
  | list => '['
  | object => '\x7b'

/-- A value that is neither a list nor an object. -/
inductive IsScalar : List Char → Prop
  | null : IsScalar ['n', 'u', 'l', 'l']
  | true : IsScalar ['t', 'r', 'u', 'e']
  | false : IsScalar ['f', 'a', 'l', 's', 'e']
  | string {t : List Char} : IsQuoted t → IsScalar ('"' :: (t ++ ['"']))
  | numeral {t : List Char} : IsNumeral t → IsScalar t

/-- What stands in front of the value of an element: in an object, a key and a colon. Next to it,
the same without blanks. -/
inductive IsLead : Enclosure → List Char → List Char → Prop
  /-- The elements of a list are values alone. -/
  | list : IsLead .list [] []
  /-- The elements of an object have a key, whatever it spells. -/
  | object {key gap : List Char} : IsQuoted key → IsBlanks gap →
    IsLead .object ('"' :: (key ++ '"' :: (gap ++ [':']))) ('"' :: (key ++ ['"', ':']))

/-- The parts of a value. -/
inductive Part where
  /-- A value, with no blanks around it. -/
  | value
  /-- The elements of a list or an object, at least one, with any blanks around them. -/
  | elements (e : Enclosure)

/-- A part as it is written, and the same without the blanks between its tokens. -/
inductive Spaced : Part → List Char → List Char → Prop
  /-- A value of one token has no blanks. -/
  | scalar {t : List Char} : IsScalar t → Spaced .value t t
  /-- An empty list or object. -/
  | empty {e : Enclosure} {b : List Char} : IsBlanks b →
    Spaced .value (e.opener :: (b ++ [e.closer])) [e.opener, e.closer]
  /-- A list or an object with elements. -/
  | enclosed {e : Enclosure} {t c : List Char} : Spaced (.elements e) t c →
    Spaced .value (e.opener :: (t ++ [e.closer])) (e.opener :: (c ++ [e.closer]))
  /-- One element. -/
  | single {e : Enclosure} {b lead lead' b' v c b'' : List Char} :
    IsBlanks b → IsLead e lead lead' → IsBlanks b' → Spaced .value v c → IsBlanks b'' →
      Spaced (.elements e) (b ++ (lead ++ (b' ++ (v ++ b'')))) (lead' ++ c)
  /-- An element in front of others. -/
  | more {e : Enclosure} {b lead lead' b' v c b'' t c' : List Char} :
    IsBlanks b → IsLead e lead lead' → IsBlanks b' → Spaced .value v c → IsBlanks b'' →
    Spaced (.elements e) t c' →
      Spaced (.elements e) (b ++ (lead ++ (b' ++ (v ++ (b'' ++ ',' :: t)))))
        (lead' ++ (c ++ ',' :: c'))

/-- Whether a character can be the first of a value. -/
def BeginsValue (c : Char) : Prop := isBlank c = false ∧ ∀ e : Enclosure, c ≠ e.closer

theorem beginsValue_of_startsNumeral {c : Char} (h : startsNumeral c = true) : BeginsValue c := by
  simp only [startsNumeral, Bool.or_eq_true, decide_eq_true_eq] at h
  constructor
  · by_contra hblank
    simp only [isBlank, Bool.not_eq_false, Bool.or_eq_true, decide_eq_true_eq] at hblank
    rcases hblank with ((rfl | rfl) | rfl) | rfl <;> revert h <;> decide
  · rintro (_ | _) rfl <;> revert h <;> decide

/-- A value begins with neither a blank nor the end of an enclosure. -/
theorem Spaced.head {v c : List Char} (h : Spaced .value v c) :
    ∃ x v', v = x :: v' ∧ BeginsValue x := by
  have hall : ∀ x ∈ ['n', 't', 'f', '"', '[', '\x7b'], BeginsValue x := by
    intro x hx
    simp only [List.mem_cons, List.not_mem_nil, or_false] at hx
    rcases hx with rfl | rfl | rfl | rfl | rfl | rfl <;>
      exact ⟨by decide, fun e => by cases e <;> decide⟩
  have hopener : ∀ e : Enclosure, BeginsValue e.opener := fun e =>
    hall e.opener (by cases e <;> decide)
  cases h with
  | scalar hscalar =>
    cases hscalar with
    | null => exact ⟨'n', _, rfl, hall 'n' (by decide)⟩
    | true => exact ⟨'t', _, rfl, hall 't' (by decide)⟩
    | false => exact ⟨'f', _, rfl, hall 'f' (by decide)⟩
    | string => exact ⟨'"', _, rfl, hall '"' (by decide)⟩
    | numeral hnumeral =>
      obtain ⟨x, v', rfl, hx⟩ := hnumeral.head
      exact ⟨x, v', rfl, beginsValue_of_startsNumeral hx⟩
  | @empty e => exact ⟨e.opener, _, rfl, hopener e⟩
  | @enclosed e => exact ⟨e.opener, _, rfl, hopener e⟩

/-! ### Skipping, step by step -/

/-- Skip whatever the open enclosures hold behind a value. -/
def resume : List Enclosure → List Char → Except Fault (List Char)
  | [], s => .ok s
  | e :: outer, s => skipRest true e outer s

/-- Skip an element of an enclosure, and then whatever follows. -/
def skipElement (e : Enclosure) (outer : List Enclosure) (s : List Char) :
    Except Fault (List Char) :=
  match skipToElement e s with
  | .error fault => .error fault
  | .ok r => skipNested (e :: outer) r

section Skipping

variable {stack outer : List Enclosure} {e : Enclosure} {comma : Bool} {s s' r : List Char}
  {c : Char}

/-- Skipping a value opens an enclosure, or skips a value of one token. -/
theorem skipNested_eq (hs : skipBlanks s = c :: s') :
    skipNested stack s =
      if c = '[' then skipRest false .list stack s'
      else if c = '\x7b' then skipRest false .object stack s'
      else match skipScalar c s' with
        | .error fault => .error fault
        | .ok r => resume stack r := by
  rw [skipNested]
  split
  case h_1 hs' => rw [hs] at hs'; cases hs'
  case h_2 hs' =>
    rw [hs] at hs'
    obtain ⟨rfl, rfl⟩ := List.cons.inj hs'
    rfl
  case h_3 hs' =>
    rw [hs] at hs'
    obtain ⟨rfl, rfl⟩ := List.cons.inj hs'
    rfl
  case h_4 hlist hobject hs' =>
    rw [hs] at hs'
    obtain ⟨rfl, rfl⟩ := List.cons.inj hs'
    rw [if_neg hlist, if_neg hobject]
    split
    case h_1 hread => rw [hread]
    case h_2 hread =>
      rw [hread]
      cases stack <;> rfl

/-- Skipping the rest of an enclosure goes on with an element, or leaves the enclosure. -/
theorem skipRest_eq (hs : skipBlanks s = c :: s') :
    skipRest comma e outer s =
      if c = ',' ∧ comma = true then skipElement e outer s'
      else if c = e.closer then resume outer s'
      else if comma then .error (.next e.noComma (c :: s'))
      else skipElement e outer (c :: s') := by
  rw [skipRest]
  split
  case h_1 hs' => rw [hs] at hs'; cases hs'
  case h_2 hs' =>
    rw [hs] at hs'
    obtain ⟨rfl, rfl⟩ := List.cons.inj hs'
    split
    case isTrue =>
      rw [skipElement]
      split
      case h_1 hfault => rw [hfault]
      case h_2 hread => rw [hread]
    case isFalse =>
      split
      case isTrue => cases outer <;> rfl
      case isFalse =>
        split
        case isTrue => rfl
        case isFalse =>
          rw [skipElement]
          split
          case h_1 hfault => rw [hfault]
          case h_2 hread => rw [hread]

/-- Behind blanks, skipping a value goes on as without them. -/
theorem skipNested_skipBlanks (s : List Char) :
    skipNested stack (skipBlanks s) = skipNested stack s := by
  cases hs : skipBlanks s with
  | nil =>
    have hnil : ∀ t, skipBlanks t = [] → skipNested stack t = .error (.here .endInValue []) := by
      intro t ht
      rw [skipNested]
      split
      case h_1 => rfl
      all_goals
        rename_i ht'
        rw [ht] at ht'
        cases ht'
    rw [hnil s hs, hnil [] rfl]
  | cons c s' =>
    have hagain : skipBlanks (c :: s') = c :: s' := by rw [← hs, skipBlanks_skipBlanks]
    rw [skipNested_eq hs, skipNested_eq hagain]

/-- So does skipping an element. -/
theorem skipElement_skipBlanks (s : List Char) :
    skipElement e outer (skipBlanks s) = skipElement e outer s := by
  cases e with
  | list => exact skipNested_skipBlanks s
  | object =>
    rw [skipElement, skipElement, skipToElement, skipToElement, skipKey, skipKey,
      skipBlanks_skipBlanks]

/-- So does skipping the rest of an enclosure in which an element was read. -/
theorem skipRest_comma (hs : skipBlanks s = ',' :: s') :
    skipRest true e outer s = skipElement e outer s' := by
  rw [skipRest_eq hs, if_pos ⟨rfl, rfl⟩]

/-- The end of an enclosure is skipped. -/
theorem skipRest_closer (hs : skipBlanks s = e.closer :: s') :
    skipRest comma e outer s = resume outer s' := by
  have hcomma : e.closer ≠ ',' := by cases e <;> decide
  rw [skipRest_eq hs, if_neg (fun h => hcomma h.1), if_pos rfl]

/-- The first element of an enclosure is skipped. -/
theorem skipRest_first (hs : skipBlanks s = c :: s') (hc : BeginsValue c) :
    skipRest false e outer s = skipElement e outer s := by
  rw [skipRest_eq hs, if_neg (fun h => nomatch h.2), if_neg (hc.2 e), if_neg Bool.false_ne_true,
    ← hs, skipElement_skipBlanks]

/-- A list or an object is entered. -/
theorem skipNested_opener (s : List Char) :
    skipNested stack (e.opener :: s) = skipRest false e stack s := by
  cases e with
  | list => rw [skipNested_eq (skipBlanks_cons (by decide) s), Enclosure.opener, if_pos rfl]
  | object =>
    rw [skipNested_eq (skipBlanks_cons (by decide) s), Enclosure.opener, if_neg (by decide),
      if_pos rfl]

/-- Blanks in front of a value are skipped. -/
theorem skipNested_append {b : List Char} (hb : IsBlanks b) (s : List Char) :
    skipNested stack (b ++ s) = skipNested stack s := by
  rw [← skipNested_skipBlanks, skipBlanks_append hb, skipNested_skipBlanks]

/-! ### Skipping to the end -/

theorem skipNested_token (hblank : isBlank c = false) (hlist : c ≠ '[') (hobject : c ≠ '\x7b')
    (hskip : skipScalar c s = .ok r) : skipNested stack (c :: s) = resume stack r := by
  rw [skipNested_eq (skipBlanks_cons hblank s), if_neg hlist, if_neg hobject, hskip]

/-- A value of one token is skipped up to its end. -/
theorem skipNested_scalar {t rest : List Char} (ht : IsScalar t) (hrest : EndsNumeral rest) :
    skipNested stack (t ++ rest) = resume stack rest := by
  cases ht with
  | null => exact skipNested_token rfl (by decide) (by decide) rfl
  | true => exact skipNested_token rfl (by decide) (by decide) rfl
  | false => exact skipNested_token rfl (by decide) (by decide) rfl
  | @string t hquoted =>
    rw [List.cons_append, List.append_assoc]
    exact skipNested_token rfl (by decide) (by decide) (skipString_append hquoted rest)
  | numeral hnumeral =>
    have hskip := skipNumeral_append hnumeral hrest
    obtain ⟨c, t, rfl, hc⟩ := hnumeral.head
    have hne : ∀ d, startsNumeral d = false → c ≠ d := by
      rintro d hd rfl
      rw [hc] at hd
      cases hd
    have hscalar : skipScalar c (t ++ rest) = .ok rest := by
      rw [skipScalar, if_neg (hne 'n' rfl), if_neg (hne 't' rfl), if_neg (hne 'f' rfl),
        if_neg (hne '"' rfl), if_pos hc]
      exact hskip
    exact skipNested_token (beginsValue_of_startsNumeral hc).1 (hne '[' rfl) (hne '\x7b' rfl)
      hscalar

/-- What stands in front of the value of an element is skipped. -/
theorem skipElement_lead {b lead lead' : List Char} (hb : IsBlanks b) (hlead : IsLead e lead lead')
    (s : List Char) : skipElement e outer (b ++ (lead ++ s)) = skipNested (e :: outer) s := by
  cases hlead with
  | list =>
    rw [List.nil_append, skipElement]
    exact skipNested_append hb s
  | @object key gap hkey hgap =>
    have hread : skipKey (b ++ ('"' :: (key ++ '"' :: (gap ++ [':'])) ++ s)) = .ok s := by
      simp only [List.cons_append, List.append_assoc, List.nil_append, skipKey,
        skipBlanks_to hb (by decide : isBlank '"' = false), skipString_append hkey,
        skipBlanks_to hgap (by decide : isBlank ':' = false)]
    rw [skipElement, skipToElement, hread]

/-- An element is skipped, if its value is. -/
theorem skipElement_append {b lead lead' b' v b'' : List Char} (hb : IsBlanks b)
    (hlead : IsLead e lead lead') (hb' : IsBlanks b') (hb'' : IsBlanks b'') (hs : EndsNumeral s)
    (hv : ∀ rest, EndsNumeral rest →
      skipNested (e :: outer) (v ++ rest) = resume (e :: outer) rest) :
    skipElement e outer (b ++ (lead ++ (b' ++ (v ++ (b'' ++ s))))) =
      skipRest true e outer (b'' ++ s) := by
  rw [skipElement_lead hb hlead, skipNested_append hb', hv _ (hs.append hb''), resume]

/-- Elements begin with neither the end of an enclosure nor nothing. -/
theorem Spaced.head_elements {t c : List Char} (h : Spaced (.elements e) t c) (rest : List Char) :
    ∃ x s, skipBlanks (t ++ rest) = x :: s ∧ BeginsValue x := by
  -- An element begins with its key, or else with its value.
  have hfirst : ∀ {b lead lead' b' v c : List Char}, IsBlanks b → IsLead e lead lead' →
      IsBlanks b' → Spaced .value v c → ∀ u,
        ∃ x s, skipBlanks (b ++ (lead ++ (b' ++ (v ++ u)))) = x :: s ∧ BeginsValue x := by
    intro b lead lead' b' v c hb hlead hb' hv u
    cases hlead with
    | list =>
      obtain ⟨x, v', rfl, hx⟩ := hv.head
      refine ⟨x, v' ++ u, ?_, hx⟩
      rw [List.nil_append, skipBlanks_append hb, List.cons_append, skipBlanks_to hb' hx.1]
    | object hkey hgap =>
      refine ⟨'"', _, skipBlanks_to hb (by decide) _, by decide, fun e => ?_⟩
      cases e <;> decide
  cases h with
  | single hb hlead hb' hv _ =>
    simp only [List.append_assoc]
    exact hfirst hb hlead hb' hv _
  | more hb hlead hb' hv _ _ =>
    simp only [List.append_assoc]
    exact hfirst hb hlead hb' hv _

end Skipping

/-- A part is skipped up to its end, whatever is open around it and whatever stands behind it. -/
def Skips : Part → List Char → Prop
  | .value, t => ∀ stack rest, EndsNumeral rest → skipNested stack (t ++ rest) = resume stack rest
  | .elements e, t => ∀ outer rest, skipElement e outer (t ++ e.closer :: rest) = resume outer rest

/-- **Every part of a value is skipped up to its end.** -/
theorem Spaced.skips {p : Part} {t c : List Char} (h : Spaced p t c) : Skips p t := by
  induction h with
  | scalar hscalar => exact fun stack rest hrest => skipNested_scalar hscalar hrest
  | @empty e b hb =>
    intro stack rest _
    have hcloser : isBlank e.closer = false := by cases e <;> decide
    rw [List.cons_append, skipNested_opener, List.append_assoc, List.cons_append,
      List.nil_append]
    exact skipRest_closer (skipBlanks_to hb hcloser rest)
  | @enclosed e t c helements ih =>
    intro stack rest _
    obtain ⟨x, s, hs, hx⟩ := helements.head_elements (e.closer :: rest)
    rw [List.cons_append, skipNested_opener, List.append_assoc, List.cons_append, List.nil_append,
      skipRest_first hs hx]
    exact ih stack rest
  | @single e b lead lead' b' v c b'' hb hlead hb' _ hb'' ih =>
    intro outer rest
    have hcloser : isBlank e.closer = false := by cases e <;> decide
    have hends := endsNumeral_cons (c := e.closer) (by cases e <;> decide) rest
    simp only [List.append_assoc]
    rw [skipElement_append hb hlead hb' hb'' hends (ih (e :: outer))]
    exact skipRest_closer (skipBlanks_to hb'' hcloser rest)
  | @more e b lead lead' b' v c b'' t c' hb hlead hb' _ hb'' _ ih ihrest =>
    intro outer rest
    have hends := endsNumeral_cons (c := ',') (by decide) (t ++ e.closer :: rest)
    simp only [List.append_assoc, List.cons_append]
    rw [skipElement_append hb hlead hb' hb'' hends (ih (e :: outer)),
      skipRest_comma (skipBlanks_to hb'' (by decide) _)]
    exact ihrest outer rest

/-- **A value is skipped up to its end**, with blanks in front of it. -/
theorem skipValue_append {b v c rest : List Char} (hb : IsBlanks b) (hv : Spaced .value v c)
    (hrest : EndsNumeral rest) : skipValue (b ++ (v ++ rest)) = .ok rest := by
  rw [skipValue, skipNested_append hb]
  exact hv.skips [] rest hrest

end Overlay.Json
