import Mathlib.Data.List.Basic
import Mathlib.Tactic.Common
import Overlay.Settings.Document

namespace Overlay

/-!
# The written form is read back

Settings are written with one kind of escape where a reader knows several, and on lines of their own
where a reader skips any blanks. Whatever the texts and the port are, reading gives them back.

* `Json.stringOnto_writeChar` — one character, escaped or not; `Json.string_written` — a string;
* `Json.numeral_toString` — a whole number;
* `Settings.textValue_written`, `Settings.portValue_written` — a value;
* `Settings.members_line` — one member of the object, on a line of its own;
* `Settings.read_written` — the whole file.
-/

namespace Json

/-! ### Strings -/

/-- A digit of an escape is read as what it was written for. -/
theorem hexValue_hexDigit (n : Nat) : hexValue? (hexDigit n) = some (n % 16) := by
  have hall : ∀ k < 16, hexValue? (Nat.digitChar k) = some k := by decide
  exact hall (n % 16) (Nat.mod_lt n (by decide))

/-- A hexadecimal escape of a control character. -/
theorem escape_control {c : Char} (h : c < ' ') (rest : List Char) :
    escape ('u' :: '0' :: '0' :: hexDigit (c.toNat / 16) :: hexDigit c.toNat :: rest) =
      .ok (c, rest) := by
  have hlow : c.toNat < 32 := h
  have hzero : hexValue? '0' = some 0 := by decide
  have hnumber : hexNumber? ['0', '0', hexDigit (c.toNat / 16), hexDigit c.toNat] =
      some c.toNat := by
    simp only [hexNumber?, List.foldlM_cons, List.foldlM_nil, hexValue_hexDigit, hzero,
      Option.map_some, Option.bind_eq_bind, Option.bind_some, Option.pure_def]
    congr 1
    omega
  have hhigh : isHighHalf c.toNat = false := by
    simp only [isHighHalf, Bool.and_eq_false_iff, decide_eq_false_iff_not]
    omega
  have hlower : isLowHalf c.toNat = false := by
    simp only [isLowHalf, Bool.and_eq_false_iff, decide_eq_false_iff_not]
    omega
  simp only [escape, if_true, hexEscape, hexFour, hnumber, hhigh, hlower, Bool.false_eq_true,
    if_false, Char.ofNat_toNat]

theorem stringOnto_quote (done : Array Char) (rest : List Char) :
    stringOnto done ('"' :: rest) = .ok (String.ofList done.toList, rest) := by
  rw [stringOnto]

/-- An escape stands for its character. -/
theorem stringOnto_escape (done : Array Char) {s rest : List Char} {c : Char}
    (h : escape s = .ok (c, rest)) :
    stringOnto done ('\\' :: s) = stringOnto (done.push c) rest := by
  rw [stringOnto]
  split
  case h_1 fault hfault =>
    rw [h] at hfault
    cases hfault
  case h_2 c' rest' hread =>
    rw [h] at hread
    cases hread
    rfl

/-- A character that needs no escape stands for itself. -/
theorem stringOnto_plain (done : Array Char) {c : Char} (hquote : c ≠ '"') (hslash : c ≠ '\\')
    (hcontrol : ¬ c < ' ') (rest : List Char) :
    stringOnto done (c :: rest) = stringOnto (done.push c) rest := by
  rw [stringOnto, if_neg hcontrol]
  · exact hquote
  · exact hslash

/-- **A written character is read back.** -/
theorem stringOnto_writeChar (done : Array Char) (c : Char) (rest : List Char) :
    stringOnto done (writeChar c ++ rest) = stringOnto (done.push c) rest := by
  unfold writeChar
  split
  case h_8 hquote hslash _ _ _ _ _ =>
    split
    case isTrue hcontrol => exact stringOnto_escape done (escape_control hcontrol rest)
    case isFalse hcontrol => exact stringOnto_plain done hquote hslash hcontrol rest
  all_goals exact stringOnto_escape done rfl

theorem stringOnto_written (done : Array Char) (cs rest : List Char) :
    stringOnto done (cs.flatMap writeChar ++ '"' :: rest) =
      .ok (String.ofList (done.toList ++ cs), rest) := by
  induction cs generalizing done with
  | nil =>
    rw [List.append_nil]
    exact stringOnto_quote done rest
  | cons c cs ih =>
    rw [List.flatMap_cons, List.append_assoc, stringOnto_writeChar, ih, Array.toList_push,
      List.append_assoc]
    rfl

/-- **A written string is read back**, whatever is in it. -/
theorem string_written (s : String) (rest : List Char) :
    string (s.toList.flatMap writeChar ++ '"' :: rest) = .ok (s, rest) := by
  have hwritten := stringOnto_written #[] s.toList rest
  rwa [List.nil_append, String.ofList_toList] at hwritten

/-! ### Whole numbers -/

/-- What can stand behind a whole number: nothing that would go on with it. -/
def EndsNumeral (s : List Char) : Prop :=
  ∀ c ∈ s.head?, c.isDigit = false ∧ c ≠ '.' ∧ c ≠ 'e' ∧ c ≠ 'E'

theorem numeralTail_of_ends {n : Nat} {rest : List Char} (h : EndsNumeral rest) :
    numeralTail false n rest = .ok (.natural n, rest) := by
  unfold numeralTail
  split
  · exact absurd rfl (h '.' rfl).2.1
  · exact absurd rfl (h 'e' rfl).2.2.1
  · exact absurd rfl (h 'E' rfl).2.2.2
  · rfl

theorem startsWithDigit_of_ends {rest : List Char} (h : EndsNumeral rest) :
    startsWithDigit rest = false := by
  cases rest with
  | nil => rfl
  | cons c rest => exact (h c rfl).1

/-- More digits make a number no smaller. -/
theorem le_ofDigitChars (n : Nat) (digits : List Char) : n ≤ Nat.ofDigitChars 10 digits n := by
  induction digits generalizing n with
  | nil => simp
  | cons c digits ih =>
    rw [Nat.ofDigitChars_cons]
    have hrest := ih (10 * n + (c.toNat - '0'.toNat))
    omega

/-- **Digits are read one by one**, as long as the number fits. -/
theorem wholeDigits_append {digits rest : List Char} (hdigits : ∀ c ∈ digits, c.isDigit = true)
    (hrest : EndsNumeral rest) {n : Nat} (hfits : Nat.ofDigitChars 10 digits n ≤ maxSignificand) :
    wholeDigits false n (digits ++ rest) = .ok (.natural (Nat.ofDigitChars 10 digits n), rest) := by
  induction digits generalizing n with
  | nil =>
    rw [Nat.ofDigitChars_nil, List.nil_append]
    cases rest with
    | nil => rfl
    | cons c rest =>
      have hend := numeralTail_of_ends (n := n) hrest
      simp only [wholeDigits, (hrest c rfl).1, Bool.false_eq_true, if_false, hend]
  | cons c digits ih =>
    obtain ⟨hc, hdigits⟩ := List.forall_mem_cons.1 hdigits
    rw [Nat.ofDigitChars_cons, Nat.mul_comm] at hfits ⊢
    have hnow := Nat.le_trans (le_ofDigitChars _ digits) hfits
    have hnot : ¬ maxSignificand < n * 10 + digitValue c := Nat.not_lt.2 hnow
    simp only [List.cons_append, wholeDigits, hc, if_true, if_neg hnot]
    exact ih hdigits hfits

/-- The digits of a positive number do not begin with zero. -/
theorem first_of_toDigits {n : Nat} (hn : 0 < n) : (Nat.toDigits 10 n).head? ≠ some '0' := by
  induction n using Nat.strongRecOn with
  | ind n ih =>
    rcases Nat.lt_or_ge n 10 with hsmall | hlarge
    · rw [Nat.toDigits_of_lt_base hsmall, List.head?_cons, ne_eq, Option.some.injEq,
        Nat.digitChar_eq_zero]
      exact Nat.ne_of_gt hn
    · have hfewer : n / 10 < n := Nat.div_lt_self hn (by decide)
      rw [Nat.toDigits_of_base_le (by decide) hlarge,
        List.head?_append_of_ne_nil _ Nat.toDigits_ne_nil]
      exact ih (n / 10) hfewer (Nat.div_pos hlarge (by decide))

theorem numeral_of_isDigit {c : Char} (hc : c.isDigit = true) (s : List Char) :
    numeral (c :: s) = magnitude false (c :: s) := by
  unfold numeral
  split
  case h_1 hminus =>
    obtain ⟨rfl, -⟩ := List.cons.inj hminus
    exact absurd hc (by decide)
  case h_2 => rfl

theorem toList_toString (n : Nat) : (toString n).toList = Nat.toDigits 10 n := by
  rw [Nat.toString_eq_ofList_toDigits, String.toList_ofList]

/-- A written number begins with a digit, and is made of digits. -/
theorem toString_eq_cons (n : Nat) :
    ∃ c digits, (toString n).toList = c :: digits ∧ ∀ d ∈ c :: digits, d.isDigit = true := by
  obtain ⟨c, digits, hs⟩ := List.exists_cons_of_ne_nil (Nat.toDigits_ne_nil (n := n) (b := 10))
  refine ⟨c, digits, (toList_toString n).trans hs, fun d hd => ?_⟩
  exact Nat.isDigit_of_mem_toDigits (b := 10) (n := n) (by decide) (by decide) (hs ▸ hd)

/-- **A written number is read back.** -/
theorem numeral_toString {n : Nat} (hfits : n ≤ maxSignificand) {rest : List Char}
    (hrest : EndsNumeral rest) :
    numeral ((toString n).toList ++ rest) = .ok (.natural n, rest) := by
  obtain ⟨c, digits, hs, hdigits⟩ := toString_eq_cons n
  obtain ⟨hc, hdigits⟩ := List.forall_mem_cons.1 hdigits
  have hvalue : Nat.ofDigitChars 10 (Nat.toDigits 10 n) 0 = n := Nat.ofDigitChars_ten_toDigits
  rw [← toList_toString, hs, Nat.ofDigitChars_cons, Nat.mul_zero, Nat.zero_add] at hvalue
  change Nat.ofDigitChars 10 digits (digitValue c) = n at hvalue
  rw [hs, List.cons_append, numeral_of_isDigit hc, magnitude]
  by_cases hzero : c = '0'
  · rw [toList_toString] at hs
    obtain rfl : n = 0 := by
      by_contra hn
      exact first_of_toDigits (Nat.pos_of_ne_zero hn) (hs ▸ congrArg some hzero)
    obtain ⟨-, rfl⟩ := List.cons.inj (Nat.toDigits_zero 10 ▸ hs)
    rw [if_pos hzero, List.nil_append, startsWithDigit_of_ends hrest, if_neg (by decide),
      numeralTail_of_ends hrest]
  · rw [if_neg hzero, if_pos hc, wholeDigits_append hdigits hrest (hvalue.symm ▸ hfits), hvalue]

end Json

namespace Settings

open Json

/-! ### Values and members -/

theorem ofKey?_key (field : Field) : Field.ofKey? field.key = some field := by
  cases field <;> decide

/-- A text value is read back. -/
theorem textValue_written (s : String) (rest : List Char) :
    textValue (' ' :: ((writeString s).toList ++ rest)) = .ok (s, rest) := by
  have hquoted : (writeString s).toList ++ rest =
      '"' :: (s.toList.flatMap writeChar ++ '"' :: rest) := by
    simp only [writeString, String.toList_ofList, List.cons_append, List.append_assoc,
      List.nil_append]
  have hskip : skipBlanks (' ' :: '"' :: (s.toList.flatMap writeChar ++ '"' :: rest)) =
      '"' :: (s.toList.flatMap writeChar ++ '"' :: rest) := rfl
  rw [hquoted, textValue, hskip]
  exact string_written s rest

theorem skipBlanks_digit {c : Char} (hc : c.isDigit = true) (s : List Char) :
    skipBlanks (c :: s) = c :: s := by
  refine List.dropWhile_cons_of_neg fun hblank => ?_
  simp only [isBlank, Bool.or_eq_true, decide_eq_true_eq] at hblank
  rcases hblank with ((rfl | rfl) | rfl) | rfl <;> exact absurd hc (by decide)

/-- A port is read back. -/
theorem portValue_written (port : UInt16) {rest : List Char} (hrest : EndsNumeral rest) :
    portValue (' ' :: ((toString port.toNat).toList ++ rest)) = .ok (port, rest) := by
  have hlimit : port.toNat ≤ Text.portLimit := Nat.le_of_lt_succ port.toNat_lt
  have hnumeral := numeral_toString
    (Nat.le_trans hlimit (by decide : Text.portLimit ≤ maxSignificand)) hrest
  obtain ⟨c, digits, hs, hdigits⟩ := toString_eq_cons port.toNat
  have hc : c.isDigit = true := hdigits c List.mem_cons_self
  have hstarts : startsNumeral c = true := by rw [startsNumeral, hc, Bool.or_true]
  rw [hs, List.cons_append] at hnumeral ⊢
  have hskip : skipBlanks (' ' :: c :: (digits ++ rest)) = c :: (digits ++ rest) :=
    skipBlanks_digit hc (digits ++ rest)
  simp only [portValue, hskip, hstarts, if_true, hnumeral, if_pos hlimit, Nat.toUInt16_eq,
    UInt16.ofNat_toNat]

/-- The line of a member, with what stands behind it. -/
def line (field : Field) (value rest : List Char) : List Char :=
  '\n' :: ' ' :: ' ' :: '"' ::
    (field.key.toList.flatMap writeChar ++ '"' :: ':' :: ' ' :: (value ++ rest))

/-- The key of a line is read, and its value is left. -/
theorem member_line {fields fields' : Fields} {field : Field} (hnew : fields.has field = false)
    {value rest : List Char}
    (hvalue : fieldValue fields field (' ' :: (value ++ rest)) = .ok (fields', rest)) :
    member fields
        (field.key.toList.flatMap writeChar ++ '"' :: ':' :: ' ' :: (value ++ rest)) =
      .ok (fields', rest) := by
  have hkey : freshKey fields
      (field.key.toList.flatMap writeChar ++ '"' :: ':' :: ' ' :: (value ++ rest)) =
        .ok (field.key, ':' :: ' ' :: (value ++ rest)) := by
    simp only [freshKey, string_written, ofKey?_key, hnew, Bool.false_eq_true, if_false]
  have hcolon : colon (':' :: ' ' :: (value ++ rest)) = .ok (' ' :: (value ++ rest)) := rfl
  simp only [member, hkey, hcolon, keyValue, ofKey?_key, hvalue]

/-- One turn of reading members. -/
theorem members_eq (fields : Fields) (comma : Bool) (s : List Char) :
    members fields comma s =
      match nextMember comma s with
      | .error fault => .error fault
      | .ok (.finished rest) => .ok (fields, rest)
      | .ok (.more rest) =>
        match member fields rest with
        | .error fault => .error fault
        | .ok (fields, rest) => members fields true rest := by
  rw [members]
  split
  case h_1 h => rw [h]
  case h_2 h => rw [h]
  case h_3 h =>
    rw [h]
    split
    case h_1 h' => simp only [h']
    case h_2 h' => simp only [h']

/-- A turn in which a member is read. -/
theorem members_of_next {fields fields' : Fields} {comma : Bool} {s r r' : List Char}
    (hnext : nextMember comma s = .ok (.more r)) (hmember : member fields r = .ok (fields', r')) :
    members fields comma s = members fields' true r' := by
  rw [members_eq, hnext]
  simp only [hmember]

/-- What stands in front of the line of a member: a comma, if a member was just written. -/
def separator (comma : Bool) : List Char := if comma then [','] else []

/-- **A member is read back**, whether it is the first or a further one. -/
theorem members_line {fields fields' : Fields} {field : Field} (hnew : fields.has field = false)
    {value rest : List Char}
    (hvalue : fieldValue fields field (' ' :: (value ++ rest)) = .ok (fields', rest))
    (comma : Bool) :
    members fields comma (separator comma ++ line field value rest) =
      members fields' true rest := by
  cases comma <;> exact members_of_next rfl (member_line hnew hvalue)

/-! ### Whole files -/

/-- The written form, line by line. -/
theorem toList_written (s : Settings) :
    s.written.toList = '\x7b' :: line .name (writeString s.name).toList
      (',' :: line .host (writeString s.host).toList
        (',' :: line .port (toString s.port.toNat).toList ['\n', '\x7d'])) := by
  simp [written, writtenMember, line, writeString, Field.key]

theorem document_written (s : Settings) :
    document s.written.toList = .ok ⟨some s.name, some s.host, some s.port⟩ := by
  have hends : EndsNumeral ['\n', '\x7d'] := by
    rintro c ⟨⟩
    decide
  have hname : ∀ rest, fieldValue {} .name (' ' :: ((writeString s.name).toList ++ rest)) =
      .ok ({ name := some s.name }, rest) := fun rest => by
    simp only [fieldValue, textValue_written, Except.map]
  have hhost : ∀ rest, fieldValue { name := some s.name } .host
      (' ' :: ((writeString s.host).toList ++ rest)) =
        .ok ({ name := some s.name, host := some s.host }, rest) := fun rest => by
    simp only [fieldValue, textValue_written, Except.map]
  have hport : fieldValue { name := some s.name, host := some s.host } .port
      (' ' :: ((toString s.port.toNat).toList ++ ['\n', '\x7d'])) =
        .ok (⟨some s.name, some s.host, some s.port⟩, ['\n', '\x7d']) := by
    simp only [fieldValue, portValue_written s.port hends, Except.map]
  have hend : ∀ fields, members fields true ['\n', '\x7d'] = .ok (fields, []) := fun fields => by
    rw [members]
    rfl
  have hbody : body s.written.toList = .ok (⟨some s.name, some s.host, some s.port⟩, []) := by
    rw [toList_written]
    calc
      _ = members { name := some s.name } true _ := members_line rfl (hname _) false
      _ = members { name := some s.name, host := some s.host } true _ :=
        members_line rfl (hhost _) true
      _ = members ⟨some s.name, some s.host, some s.port⟩ true _ := members_line rfl hport true
      _ = _ := hend _
  rw [document, hbody]
  rfl

/-- **Settings are read back**, whatever is built in. -/
theorem read_written (builtIn s : Settings) : read builtIn s.written = .ok s := by
  simp only [read, document_written, Fields.fill, Option.getD_some]

end Settings

end Overlay
