import Overlay.Proofs.Values

namespace Overlay

/-!
# Objects of settings

The members of an object are read one after another. A member whose key means nothing is skipped, be
its value what it may; any other has to be the first of its field, and its value has to be one of
the field's. What is read is the same whatever blanks there are, and however a key is spelled.

* `Json.IsMember`, `Json.IsObject` — the text of a member and of an object, with what they say;
* `Settings.Field.Reads` — the values of a field;
* `Settings.Joins`, `Settings.Collects` — what one member adds to what was read, and what all do;
* `Settings.document_eq_ok_iff` — an object is read as what its members collect.
-/

namespace Json

/-! ### The text of an object -/

/-- A member of an object: what its key spells, and its value without blanks. -/
abbrev Member := String × List Char

/-- The text of a member, with any blanks around it. Its key has to spell something. -/
inductive IsMember : List Char → Member → Prop
  | mk {b k gap b' v b'' : List Char} {key : String} {value : List Char} :
    IsBlanks b → Spells k key.toList → IsBlanks gap → IsBlanks b' → Spaced .value v value →
    IsBlanks b'' →
      IsMember (b ++ '"' :: (k ++ '"' :: (gap ++ ':' :: (b' ++ (v ++ b''))))) (key, value)

/-- The text of members, at least one. -/
inductive AreMembers : List Char → List Member → Prop
  /-- One member. -/
  | single {t : List Char} {m : Member} : IsMember t m → AreMembers t [m]
  /-- A member in front of others. -/
  | more {t t' : List Char} {m : Member} {ms : List Member} :
    IsMember t m → AreMembers t' ms → AreMembers (t ++ ',' :: t') (m :: ms)

/-- The text of an object, with any blanks around it. -/
inductive IsObject : List Char → List Member → Prop
  /-- An object without members. -/
  | empty {b b' b'' : List Char} : IsBlanks b → IsBlanks b' → IsBlanks b'' →
    IsObject (b ++ '\x7b' :: (b' ++ '\x7d' :: b'')) []
  /-- An object with members. -/
  | full {b t b'' : List Char} {ms : List Member} : IsBlanks b → AreMembers t ms → IsBlanks b'' →
    IsObject (b ++ '\x7b' :: (t ++ '\x7d' :: b'')) ms

/-- The text of a string. -/
def IsText (v : List Char) (x : String) : Prop := ∃ t, v = '"' :: (t ++ ['"']) ∧ Spells t x.toList

/-- A value is a string, or a number, or begins otherwise than both. Strings and numbers have no
blanks. -/
theorem Spaced.kinds {v c : List Char} (h : Spaced .value v c) :
    (∃ t, IsQuoted t ∧ v = '"' :: (t ++ ['"']) ∧ c = v) ∨ (IsNumeral v ∧ c = v) ∨
      ∃ x v' c', v = x :: v' ∧ c = x :: c' ∧ isBlank x = false ∧ x ≠ '"' ∧
        startsNumeral x = false := by
  cases h with
  | scalar hscalar =>
    cases hscalar with
    | null => exact .inr (.inr ⟨_, _, _, rfl, rfl, rfl, by decide, rfl⟩)
    | true => exact .inr (.inr ⟨_, _, _, rfl, rfl, rfl, by decide, rfl⟩)
    | false => exact .inr (.inr ⟨_, _, _, rfl, rfl, rfl, by decide, rfl⟩)
    | string hquoted => exact .inl ⟨_, hquoted, rfl, rfl⟩
    | numeral hnumeral => exact .inr (.inl ⟨hnumeral, rfl⟩)
  | @empty e _ _ => exact .inr (.inr ⟨e.opener, _, _, rfl, rfl, by cases e <;> decide⟩)
  | @enclosed e _ _ _ => exact .inr (.inr ⟨e.opener, _, _, rfl, rfl, by cases e <;> decide⟩)

/-- What is read through a map. -/
theorem map_eq_ok_iff {α β : Type} {scan : Scan α} {g : α → β} {y : β} {r : List Char} :
    scan.map (fun p => (g p.1, p.2)) = .ok (y, r) ↔ ∃ x, scan = .ok (x, r) ∧ g x = y := by
  cases scan with
  | error fault => simp [Except.map]
  | ok p =>
    obtain ⟨x, s⟩ := p
    simp only [Except.map, Except.ok.injEq, Prod.mk.injEq]
    constructor
    · rintro ⟨hx, hs⟩
      exact ⟨x, ⟨rfl, hs⟩, hx⟩
    · rintro ⟨_, ⟨rfl, hs⟩, hx⟩
      exact ⟨hx, hs⟩

end Json

namespace Settings

open Json

/-! ### Fields -/

/-- What a field holds. -/
def Field.Content : Field → Type
  | name => String
  | host => String
  | port => UInt16

/-- What settings have in a field. -/
def value (s : Settings) : (field : Field) → field.Content
  | .name => s.name
  | .host => s.host
  | .port => s.port

/-- What was read of a field. -/
def Fields.get (fields : Fields) : (field : Field) → Option field.Content
  | .name => fields.name
  | .host => fields.host
  | .port => fields.port

/-- Add the content of a field. -/
def Fields.set (fields : Fields) : (field : Field) → field.Content → Fields
  | .name, x => { fields with name := some x }
  | .host, x => { fields with host := some x }
  | .port, x => { fields with port := some x }

section Fields

variable {fields fields' : Fields} {f g : Field}

theorem Fields.has_eq (fields : Fields) (f : Field) : fields.has f = (fields.get f).isSome := by
  cases f <;> rfl

theorem Fields.get_empty (f : Field) : Fields.get {} f = none := by
  cases f <;> rfl

@[simp] theorem Fields.get_set (fields : Fields) (f : Field) (x : f.Content) :
    (fields.set f x).get f = some x := by
  cases f <;> rfl

theorem Fields.get_set_of_ne (h : g ≠ f) (x : f.Content) :
    (fields.set f x).get g = fields.get g := by
  cases f <;> cases g <;> first | rfl | exact absurd rfl h

theorem Fields.ext_get (h : ∀ f, fields.get f = fields'.get f) : fields = fields' := by
  rw [Fields.mk.injEq]
  exact ⟨h .name, h .host, h .port⟩

theorem value_fill (fields : Fields) (builtIn : Settings) (f : Field) :
    (fields.fill builtIn).value f = (fields.get f).getD (builtIn.value f) := by
  cases f <;> rfl

end Fields

/-! ### Values of fields -/

/-- The values of a field: for the name and the host a string that spells it, for the port a whole
number of digits alone. -/
def Field.Reads : (field : Field) → List Char → field.Content → Prop
  | name, v, x => IsText v x
  | host, v, x => IsText v x
  | port, v, p => IsDigits v ∧ Nat.ofDigitChars 10 v 0 = p.toNat

/-- A value stands for one content at most. -/
theorem Field.Reads.unique {f : Field} {v : List Char} {x y : f.Content} (h : f.Reads v x)
    (h' : f.Reads v y) : x = y := by
  have htext : ∀ x y : String, IsText v x → IsText v y → x = y := by
    rintro x y ⟨t, rfl, hspells⟩ ⟨t', heq, hspells'⟩
    obtain rfl := List.append_cancel_right (List.cons.inj heq).2
    exact hspells.unique hspells'
  cases f with
  | name => exact htext x y h h'
  | host => exact htext x y h h'
  | port => exact UInt16.toNat_inj.1 (h.2.symm.trans h'.2)

section Values

variable {b v c rest r : List Char}

/-- **A text value is read if it is a string that spells something.** -/
theorem textValue_eq_ok_iff (hb : IsBlanks b) (hv : Spaced .value v c) {x : String} :
    textValue (b ++ (v ++ rest)) = .ok (x, r) ↔ IsText c x ∧ r = rest := by
  have hnone : ∀ y v' c', isBlank y = false → y ≠ '"' → v = y :: v' → c = y :: c' →
      (textValue (b ++ (v ++ rest)) = .ok (x, r) ↔ IsText c x ∧ r = rest) := by
    rintro y v' c' hblank hquote rfl rfl
    constructor
    · intro h
      rw [textValue, List.cons_append, skipBlanks_to hb hblank] at h
      split at h
      case h_1 heq => exact absurd (List.cons.inj heq).1 hquote
      case h_2 => cases h
    · rintro ⟨⟨t, heq, -⟩, -⟩
      exact absurd (List.cons.inj heq).1 hquote
  rcases hv.kinds with ⟨t, hquoted, rfl, rfl⟩ | ⟨hnumeral, rfl⟩ |
    ⟨y, v', c', hv, hc, hblank, hquote, -⟩
  · have hread : textValue (b ++ ('"' :: (t ++ ['"']) ++ rest)) = string (t ++ '"' :: rest) := by
      simp only [textValue, List.cons_append, List.append_assoc, List.nil_append,
        skipBlanks_to hb (by decide : isBlank '"' = false)]
    rw [hread, string_append hquoted]
    refine and_congr_left fun _ => ⟨fun hspells => ⟨t, rfl, hspells⟩, ?_⟩
    rintro ⟨t', heq, hspells⟩
    exact List.append_cancel_right (List.cons.inj heq).2 ▸ hspells
  · obtain ⟨y, v', rfl, hy⟩ := hnumeral.head
    refine hnone y v' v' (beginsValue_of_startsNumeral hy).1 ?_ rfl rfl
    rintro rfl
    cases hy
  · exact hnone y v' c' hblank hquote hv hc

/-- **A port is read if it is a whole number of digits alone**, and small enough. -/
theorem portValue_eq_ok_iff (hb : IsBlanks b) (hv : Spaced .value v c) (hrest : EndsNumeral rest)
    {p : UInt16} :
    portValue (b ++ (v ++ rest)) = .ok (p, r) ↔ Field.port.Reads c p ∧ r = rest := by
  have hlimit : p.toNat ≤ Text.portLimit := Nat.le_of_lt_succ p.toNat_lt
  have hnone : ∀ y v' c', isBlank y = false → startsNumeral y = false → v = y :: v' → c = y :: c' →
      (portValue (b ++ (v ++ rest)) = .ok (p, r) ↔ Field.port.Reads c p ∧ r = rest) := by
    rintro y v' c' hblank hstarts rfl rfl
    constructor
    · intro h
      simp only [portValue, List.cons_append, skipBlanks_to hb hblank, hstarts,
        Bool.false_eq_true, if_false, reduceCtorEq] at h
    · rintro ⟨⟨⟨-, hdigits⟩, -⟩, -⟩
      rw [startsNumeral, hdigits y List.mem_cons_self, Bool.or_true] at hstarts
      cases hstarts
  rcases hv.kinds with ⟨t, -, rfl, rfl⟩ | ⟨hnumeral, rfl⟩ | ⟨y, v', c', hv, hc, hblank, -, hstarts⟩
  · exact hnone '"' _ _ rfl rfl rfl rfl
  · have hwhole := @numeral_append p.toNat r c rest hnumeral hrest
    obtain ⟨y, v', hv', hy⟩ := hnumeral.head
    have htext : c ++ rest = y :: (v' ++ rest) := by
      rw [hv']
      rfl
    have hskip : skipBlanks (b ++ (c ++ rest)) = y :: (v' ++ rest) := by
      rw [htext]
      exact skipBlanks_to hb (beginsValue_of_startsNumeral hy).1 _
    rw [htext] at hwhole
    constructor
    · intro h
      simp only [portValue, hskip, hy, if_true] at h
      split at h
      case h_2 n rest' hn =>
        split at h
        case isTrue hn' =>
          obtain ⟨rfl, rfl⟩ := Prod.mk.inj (Except.ok.inj h)
          have hsame : n.toUInt16.toNat = n := Nat.mod_eq_of_lt (Nat.lt_succ_of_le hn')
          rw [hsame] at hwhole
          obtain ⟨hdigits, hvalue, -, hend⟩ := hwhole.1 hn
          exact ⟨⟨hdigits, hvalue.trans hsame.symm⟩, hend⟩
        case isFalse => cases h
      all_goals cases h
    · rintro ⟨⟨hdigits, hvalue⟩, hend⟩
      have hn := hwhole.2 ⟨hdigits, hvalue, Nat.le_trans hlimit (by decide), hend⟩
      simp only [portValue, hskip, hy, if_true, hn, if_pos hlimit, Nat.toUInt16_eq,
        UInt16.ofNat_toNat]
  · exact hnone y v' c' hblank hstarts hv hc

/-- **The value of a field is read**, and added to what was read before. -/
theorem fieldValue_eq_ok_iff (hb : IsBlanks b) (hv : Spaced .value v c) (hrest : EndsNumeral rest)
    {fields fields' : Fields} {f : Field} :
    fieldValue fields f (b ++ (v ++ rest)) = .ok (fields', r) ↔
      ∃ x, (f.Reads c x ∧ r = rest) ∧ fields.set f x = fields' := by
  cases f with
  | name =>
    refine (map_eq_ok_iff (g := fields.set .name)).trans (exists_congr fun x => ?_)
    exact and_congr_left fun _ => textValue_eq_ok_iff hb hv
  | host =>
    refine (map_eq_ok_iff (g := fields.set .host)).trans (exists_congr fun x => ?_)
    exact and_congr_left fun _ => textValue_eq_ok_iff hb hv
  | port =>
    refine (map_eq_ok_iff (g := fields.set .port)).trans (exists_congr fun p => ?_)
    exact and_congr_left fun _ => portValue_eq_ok_iff hb hv hrest

end Values

/-! ### Members -/

/-- What a member adds to what was read before it. -/
inductive Joins (fields : Fields) : Member → Fields → Prop
  /-- A key that means nothing adds nothing. -/
  | skipped {key : String} {v : List Char} : Field.ofKey? key = none → Joins fields (key, v) fields
  /-- The key of a field adds the field, unless it was read before. -/
  | added {key : String} {f : Field} {v : List Char} {x : f.Content} :
    Field.ofKey? key = some f → fields.get f = none → f.Reads v x →
      Joins fields (key, v) (fields.set f x)

/-- What several members add, one after another. -/
inductive Collects : Fields → List Member → Fields → Prop
  /-- No members add nothing. -/
  | nil {fields : Fields} : Collects fields [] fields
  /-- The first member adds to what was read, and then the others do. -/
  | cons {fields joined fields' : Fields} {m : Member} {ms : List Member} :
    Joins fields m joined → Collects joined ms fields' → Collects fields (m :: ms) fields'

section Members

variable {fields fields' : Fields} {comma : Bool} {s r : List Char}

theorem joins_of_none {key : String} {v : List Char} (hkey : Field.ofKey? key = none) :
    Joins fields (key, v) fields' ↔ fields = fields' := by
  constructor
  · intro h
    cases h with
    | skipped => rfl
    | added hadded =>
      rw [hkey] at hadded
      cases hadded
  · rintro rfl
    exact .skipped hkey

theorem joins_of_some {key : String} {v : List Char} {f : Field}
    (hkey : Field.ofKey? key = some f) :
    Joins fields (key, v) fields' ↔
      fields.get f = none ∧ ∃ x, f.Reads v x ∧ fields.set f x = fields' := by
  constructor
  · intro h
    cases h with
    | skipped hskipped =>
      rw [hkey] at hskipped
      cases hskipped
    | added hadded hnew hreads =>
      rw [hkey] at hadded
      cases hadded
      exact ⟨hnew, _, hreads, rfl⟩
  · rintro ⟨hnew, x, hreads, rfl⟩
    exact .added hkey hnew hreads

/-- **A member is read as what it adds**, behind the opening quote of its key. -/
theorem member_eq_ok_iff {k gap b v value rest : List Char} {key : String}
    (hkey : Spells k key.toList) (hgap : IsBlanks gap) (hb : IsBlanks b)
    (hv : Spaced .value v value) (hrest : EndsNumeral rest) :
    member fields (k ++ '"' :: (gap ++ ':' :: (b ++ (v ++ rest)))) = .ok (fields', r) ↔
      Joins fields (key, value) fields' ∧ r = rest := by
  have hstring := string_eq_ok_iff.2
    ⟨k, (rfl : k ++ '"' :: (gap ++ ':' :: (b ++ (v ++ rest))) = _), hkey⟩
  have hcolon : colon (gap ++ ':' :: (b ++ (v ++ rest))) = .ok (b ++ (v ++ rest)) := by
    simp only [colon, skipBlanks_to hgap (by decide : isBlank ':' = false)]
  cases hfield : Field.ofKey? key with
  | none =>
    rw [joins_of_none hfield]
    simp only [member, freshKey, hstring, hfield, hcolon, keyValue, skipValue_append hb hv hrest,
      Except.map, Except.ok.injEq, Prod.mk.injEq, eq_comm]
  | some f =>
    rw [joins_of_some hfield]
    cases hget : fields.get f with
    | some y => simp [member, freshKey, hstring, hfield, Fields.has_eq, hget]
    | none =>
      simp only [member, freshKey, hstring, hfield, Fields.has_eq, hget, Option.isSome_none,
        Bool.false_eq_true, if_false, hcolon, keyValue, fieldValue_eq_ok_iff hb hv hrest]
      constructor
      · rintro ⟨x, ⟨hreads, hend⟩, hset⟩
        exact ⟨⟨trivial, x, hreads, hset⟩, hend⟩
      · rintro ⟨⟨-, x, hreads, hset⟩, hend⟩
        exact ⟨x, ⟨hreads, hend⟩, hset⟩

/-- Blanks in front of a member, or of the end, are skipped. -/
theorem members_append {b : List Char} (hb : IsBlanks b) (s : List Char) :
    members fields comma (b ++ s) = members fields comma s := by
  have hnext : nextMember comma (b ++ s) = nextMember comma s := by
    rw [nextMember, nextMember, skipBlanks_append hb]
  rw [members_eq, members_eq, hnext]

/-- The end of an object is read. -/
theorem members_end (rest : List Char) :
    members fields comma ('\x7d' :: rest) = .ok (fields, rest) := by
  rw [members_eq]
  rfl

/-- The next member begins behind the opening quote of its key. -/
theorem nextMember_more {b : List Char} (hb : IsBlanks b) (s : List Char) :
    nextMember comma (separator comma ++ (b ++ '"' :: s)) = .ok (.more s) := by
  have hskip := skipBlanks_to hb (by decide : isBlank '"' = false) s
  cases comma with
  | false => simp [separator, nextMember, hskip]
  | true =>
    have hcomma : skipBlanks (',' :: (b ++ '"' :: s)) = ',' :: (b ++ '"' :: s) :=
      skipBlanks_cons (by decide) _
    simp [separator, nextMember, hcomma, hskip]

/-- **One member is read as what it adds**, behind a comma unless it is the first. -/
theorem members_member {t : List Char} {m : Member} (hm : IsMember t m) (hs : EndsNumeral s) :
    members fields comma (separator comma ++ (t ++ s)) = .ok (fields', r) ↔
      ∃ joined, Joins fields m joined ∧ members joined true s = .ok (fields', r) := by
  obtain ⟨hb, hkey, hgap, hb', hv, hb''⟩ := hm
  rename_i b k gap b' v b'' key value
  simp only [List.append_assoc, List.cons_append]
  rw [members_eq, nextMember_more hb]
  generalize hu : k ++ '"' :: (gap ++ ':' :: (b' ++ (v ++ (b'' ++ s)))) = u
  have hmember : ∀ joined rest, member fields u = .ok (joined, rest) ↔
      Joins fields (key, value) joined ∧ rest = b'' ++ s := fun joined rest =>
    hu ▸ member_eq_ok_iff hkey hgap hb' hv (hs.append hb'')
  constructor
  · intro h
    cases hread : member fields u with
    | error fault => simp only [hread, reduceCtorEq] at h
    | ok p =>
      obtain ⟨joined, rest⟩ := p
      obtain ⟨hjoins, rfl⟩ := (hmember joined rest).1 hread
      simp only [hread, members_append hb''] at h
      exact ⟨joined, hjoins, h⟩
  · rintro ⟨joined, hjoins, h⟩
    simp only [(hmember joined _).2 ⟨hjoins, rfl⟩, members_append hb'', h]

/-- **Members are read as what they collect**, up to the end of the object. -/
theorem members_eq_ok_iff {t rest : List Char} {ms : List Member} (h : AreMembers t ms) :
    members fields comma (separator comma ++ (t ++ '\x7d' :: rest)) = .ok (fields', r) ↔
      Collects fields ms fields' ∧ r = rest := by
  induction h generalizing fields comma with
  | single hm =>
    rw [members_member hm (endsNumeral_cons (by decide) rest)]
    constructor
    · rintro ⟨joined, hjoins, hread⟩
      rw [members_end] at hread
      cases hread
      exact ⟨.cons hjoins .nil, rfl⟩
    · rintro ⟨hcollects, rfl⟩
      cases hcollects with
      | cons hjoins hnone =>
        cases hnone
        exact ⟨_, hjoins, members_end _⟩
  | @more t t' m ms hm _ ih =>
    rw [List.append_assoc, List.cons_append,
      members_member hm (endsNumeral_cons (by decide) (t' ++ '\x7d' :: rest))]
    constructor
    · rintro ⟨joined, hjoins, hread⟩
      obtain ⟨hcollects, hend⟩ := (@ih _ true).1 hread
      exact ⟨.cons hjoins hcollects, hend⟩
    · rintro ⟨hcollects, hend⟩
      cases hcollects with
      | cons hjoins hothers => exact ⟨_, hjoins, (@ih _ true).2 ⟨hothers, hend⟩⟩

/-- An object is read up to the blanks behind it. -/
theorem body_eq_ok_iff {text : List Char} {ms : List Member} (h : IsObject text ms) :
    ∃ b, IsBlanks b ∧
      ∀ fields r, body text = .ok (fields, r) ↔ Collects {} ms fields ∧ r = b := by
  have hopen : ∀ {b : List Char}, IsBlanks b → ∀ s,
      body (b ++ '\x7b' :: s) = members {} false s := fun hb s => by
    simp only [body, skipBlanks_to hb (by decide : isBlank '\x7b' = false), if_true]
  cases h with
  | @empty b b' b'' hb hb' hb'' =>
    refine ⟨b'', hb'', fun fields r => ?_⟩
    rw [hopen hb, members_append hb', members_end]
    constructor
    · intro h
      cases h
      exact ⟨.nil, rfl⟩
    · rintro ⟨hcollects, rfl⟩
      cases hcollects
      rfl
  | @full b t b'' _ hb ht hb'' =>
    refine ⟨b'', hb'', fun fields r => ?_⟩
    rw [hopen hb]
    exact @members_eq_ok_iff {} fields false r t b'' ms ht

/-- **An object is read as what its members collect.** -/
theorem document_eq_ok_iff {text : List Char} {ms : List Member} (h : IsObject text ms) :
    document text = .ok fields ↔ Collects {} ms fields := by
  obtain ⟨b, hb, hbody⟩ := body_eq_ok_iff h
  rw [document]
  cases hread : body text with
  | error fault =>
    constructor
    · intro h
      cases h
    · intro h
      have hok := (hbody fields b).2 ⟨h, rfl⟩
      rw [hread] at hok
      cases hok
  | ok p =>
    obtain ⟨joined, r⟩ := p
    obtain ⟨hjoined, rfl⟩ := (hbody joined r).1 hread
    simp only [skipBlanks_of_isBlanks hb, Except.ok.injEq]
    constructor
    · rintro rfl
      exact hjoined
    · intro h
      have hok := (hbody fields r).2 ⟨h, rfl⟩
      rw [hread] at hok
      exact (Prod.mk.inj (Except.ok.inj hok)).1

end Members

end Settings

end Overlay
