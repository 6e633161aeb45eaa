import Mathlib.Data.List.Basic
import Overlay.Proofs.Layers
import Overlay.Proofs.Objects

namespace Overlay.Settings

/-!
# What a settings file means

A settings file that is an object means what its members say about the fields, each field by itself:
nothing if it is not mentioned, the one value that is mentioned, and no settings at all if there are
two or if the value is not one of the field's. Neither the order of the members, nor the members of
other keys, nor blanks, nor the spelling of a key are of any matter.

* `Field.values` — what an object says about a field;
* `Field.Takes`, `collects_iff` — reading members in order comes to one condition for each field;
* `FileMeans`, `file_means` — what is loaded from a file.
-/

open Json

/-! ### Each field by itself -/

/-- The values that members have under the key of a field. -/
def Field.values (f : Field) (ms : List Member) : List (List Char) :=
  (ms.filter fun m => m.1 = f.key).map Prod.snd

/-- What is known of a field behind the values that members have for it: what was known before if
there are none, and otherwise the content of the only one, if nothing was known before. -/
inductive Field.Takes (f : Field) (before : Option f.Content) :
    List (List Char) → Option f.Content → Prop
  /-- There is no value. -/
  | absent : Takes f before [] before
  /-- There is one value. -/
  | once {v : List Char} {x : f.Content} : before = none → f.Reads v x → Takes f before [v] (some x)

section Fields

variable {f g : Field} {key : String} {v : List Char} {vs vs' : List (List Char)} {m : Member}
  {ms ms' : List Member} {fields fields' : Fields}

theorem ofKey?_eq_some_iff : Field.ofKey? key = some f ↔ f.key = key := by
  constructor
  · intro h
    exact of_decide_eq_true (List.find?_some (p := fun g : Field => g.key = key) h)
  · rintro rfl
    exact ofKey?_key f

theorem Field.key_injective : Function.Injective Field.key := fun f g h =>
  Option.some.inj ((ofKey?_key f).symm.trans (h ▸ ofKey?_key g))

theorem values_cons_of_key : f.values ((f.key, v) :: ms) = v :: f.values ms := by
  simp [Field.values]

theorem values_cons_of_ne (h : key ≠ f.key) : f.values ((key, v) :: ms) = f.values ms := by
  simp [Field.values, h]

/-- Without values, nothing is taken. -/
theorem Field.Takes.eq_of_nil {before after : Option f.Content} (h : f.Takes before [] after) :
    after = before := by
  cases h
  rfl

/-- A value that was taken is the only one. -/
theorem Field.Takes.eq_of_cons {before after : Option f.Content}
    (h : f.Takes before (v :: vs) after) :
    before = none ∧ vs = [] ∧ ∃ x, f.Reads v x ∧ after = some x := by
  cases h with
  | once hbefore hreads => exact ⟨hbefore, rfl, _, hreads, rfl⟩

/-- Behind something known, nothing is taken. -/
theorem Field.Takes.eq_of_some {x : f.Content} {after : Option f.Content}
    (h : f.Takes (some x) vs after) : vs = [] ∧ after = some x := by
  cases h with
  | absent => exact ⟨rfl, rfl⟩
  | once hbefore => cases hbefore

/-- A value among those taken is the content. -/
theorem Field.Takes.eq_of_mem {before after : Option f.Content} (h : f.Takes before vs after)
    (hv : v ∈ vs) : ∃ x, f.Reads v x ∧ after = some x := by
  cases h with
  | absent => exact absurd hv List.not_mem_nil
  | once _ hreads =>
    obtain rfl := List.mem_singleton.1 hv
    exact ⟨_, hreads, rfl⟩

/-- Values are taken only if there is one at most, and if it is one of the field's. -/
theorem Field.Takes.wellFormed {before after : Option f.Content} (h : f.Takes before vs after) :
    vs.length ≤ 1 ∧ ∀ v ∈ vs, ∃ x, f.Reads v x := by
  refine ⟨?_, fun v hv => ?_⟩
  · cases h <;> simp
  · obtain ⟨x, hreads, -⟩ := h.eq_of_mem hv
    exact ⟨x, hreads⟩

/-- Such values are taken, if nothing was known. -/
theorem Field.exists_takes (hone : vs.length ≤ 1) (hreads : ∀ v ∈ vs, ∃ x, f.Reads v x) :
    ∃ after, f.Takes none vs after := by
  match vs, hone with
  | [], _ => exact ⟨none, .absent⟩
  | [v], _ =>
    obtain ⟨x, hx⟩ := hreads v List.mem_cons_self
    exact ⟨some x, .once rfl hx⟩

/-- What is taken does not depend on the order of the values. -/
theorem Field.Takes.perm {before after : Option f.Content} (h : f.Takes before vs after)
    (hperm : vs.Perm vs') : f.Takes before vs' after := by
  cases h with
  | absent => exact hperm.nil_eq ▸ .absent
  | once hbefore hreads => exact (List.singleton_perm.1 hperm).symm ▸ .once hbefore hreads

/-- A key that means nothing is not the key of a field. -/
theorem ne_key_of_none (h : Field.ofKey? key = none) (f : Field) : key ≠ f.key := by
  rintro rfl
  rw [ofKey?_key] at h
  cases h

variable {after : (f : Field) → Option f.Content}

/-- If a member adds something and the others are taken behind it, all are taken. -/
theorem Joins.takes {joined : Fields} (h : Joins fields m joined)
    (hothers : ∀ f : Field, f.Takes (joined.get f) (f.values ms) (after f)) (f : Field) :
    f.Takes (fields.get f) (f.values (m :: ms)) (after f) := by
  cases h with
  | skipped hkey =>
    rw [values_cons_of_ne (ne_key_of_none hkey f)]
    exact hothers f
  | @added _ g _ x hkey hnew hreads =>
    obtain rfl := ofKey?_eq_some_iff.1 hkey
    by_cases hf : f = g
    · subst hf
      have htakes := hothers f
      rw [Fields.get_set] at htakes
      obtain ⟨hnone, hafter⟩ := htakes.eq_of_some
      rw [values_cons_of_key, hnone, hafter]
      exact .once hnew hreads
    · rw [values_cons_of_ne (fun h => hf (Field.key_injective h.symm)), ← Fields.get_set_of_ne hf x]
      exact hothers f

/-- If all members are taken, the first adds something, and the others are taken behind it. -/
theorem exists_joins (h : ∀ f : Field, f.Takes (fields.get f) (f.values (m :: ms)) (after f)) :
    ∃ joined, Joins fields m joined ∧
      ∀ f : Field, f.Takes (joined.get f) (f.values ms) (after f) := by
  obtain ⟨key, v⟩ := m
  cases hkey : Field.ofKey? key with
  | none =>
    refine ⟨fields, .skipped hkey, fun f => ?_⟩
    have htakes := h f
    rwa [values_cons_of_ne (ne_key_of_none hkey f)] at htakes
  | some g =>
    obtain rfl := ofKey?_eq_some_iff.1 hkey
    have htakes := h g
    rw [values_cons_of_key] at htakes
    obtain ⟨hnew, hnone, x, hreads, hafter⟩ := htakes.eq_of_cons
    refine ⟨fields.set g x, .added hkey hnew hreads, fun f => ?_⟩
    by_cases hf : f = g
    · subst hf
      rw [Fields.get_set, hnone, hafter]
      exact .absent
    · have hother := h f
      rw [values_cons_of_ne (fun h => hf (Field.key_injective h.symm))] at hother
      rwa [Fields.get_set_of_ne hf]

/-- **Reading members in order comes to one condition for each field.** -/
theorem collects_iff : Collects fields ms fields' ↔
    ∀ f : Field, f.Takes (fields.get f) (f.values ms) (fields'.get f) := by
  induction ms generalizing fields with
  | nil =>
    constructor
    · intro h f
      cases h
      exact .absent
    · intro h
      have hsame : fields = fields' := Fields.ext_get fun f => (h f).eq_of_nil.symm
      exact hsame ▸ .nil
  | cons m ms ih =>
    constructor
    · intro h
      cases h with
      | cons hjoins hcollects => exact hjoins.takes (ih.1 hcollects)
    · intro h
      obtain ⟨joined, hjoins, hothers⟩ := exists_joins h
      exact .cons hjoins (ih.2 hothers)

end Fields

/-! ### Loading a file -/

/-- The members that mean something. -/
def meaningful (ms : List Member) : List Member :=
  ms.filter fun m => (Field.ofKey? m.1).isSome

/-- The values of a field are among the members that mean something. -/
theorem values_meaningful (f : Field) (ms : List Member) :
    f.values (meaningful ms) = f.values ms := by
  rw [Field.values, Field.values, meaningful, List.filter_filter]
  congr 1
  refine List.filter_congr fun m _ => ?_
  by_cases hm : m.1 = f.key
  · rw [hm, ofKey?_key]
    simp
  · simp [hm]

/-- Results with the same successes. -/
theorem toOption_congr {ε α : Type} {a b : Except ε α} (h : ∀ x, a = .ok x ↔ b = .ok x) :
    a.toOption = b.toOption := by
  cases b with
  | ok y => rw [(h y).2 rfl]
  | error fault =>
    cases a with
    | ok x => exact nomatch (h x).1 rfl
    | error => rfl

section Loading

variable {builtIn t : Settings} {files : Files} {path text : String} {ms : List Member}

/-- What is read of an object that is the text of a file. -/
theorem fileMentions_iff {fields : Fields} (hobject : IsObject text.toList ms)
    (hfile : files path = .ok text.toUTF8) :
    FileMentions files (some path) fields ↔ Collects {} ms fields := by
  have htext : String.fromUTF8? text.toUTF8 = some text := dif_pos text.isValidUTF8
  constructor
  · intro h
    cases h with
    | document hbytes htext' hread =>
      obtain rfl := Except.ok.inj (hfile.symm.trans hbytes)
      obtain rfl := Option.some.inj (htext.symm.trans htext')
      exact (document_eq_ok_iff hobject).1 hread
  · exact fun h => .document hfile htext ((document_eq_ok_iff hobject).2 h)

/-- **What is loaded from an object**, without an environment. -/
theorem load_object (hobject : IsObject text.toList ms) (hfile : files path = .ok text.toUTF8) :
    load builtIn files (some path) (fun _ => none) = .ok t ↔
      ∃ fields : Fields, (∀ f : Field, f.Takes none (f.values ms) (fields.get f)) ∧
        t = fields.fill builtIn := by
  rw [load_eq_ok_iff]
  refine exists_congr fun fields => and_congr ?_ Iff.rfl
  rw [fileMentions_iff hobject hfile, collects_iff]
  exact forall_congr' fun f => by rw [Fields.get_empty]

/-- What a file means that holds an object with members `ms`. -/
structure FileMeans (builtIn : Settings) (files : Files) (path : String) (ms : List Member) :
    Prop where
  /-- It is loaded if every field is mentioned at most once, and by one of its values. -/
  loads : (∃ t, load builtIn files (some path) (fun _ => none) = .ok t) ↔
    ∀ f : Field, (f.values ms).length ≤ 1 ∧ ∀ v ∈ f.values ms, ∃ x, f.Reads v x
  /-- A field that is mentioned is what its value stands for. -/
  mentioned : ∀ t, load builtIn files (some path) (fun _ => none) = .ok t →
    ∀ f : Field, ∀ v ∈ f.values ms, f.Reads v (t.value f)
  /-- Any other field is what is built in. -/
  unmentioned : ∀ t, load builtIn files (some path) (fun _ => none) = .ok t →
    ∀ f : Field, f.values ms = [] → t.value f = builtIn.value f
  /-- Another file means the same if its object has the same members that mean something, in any
  order, with any other members between them, and with any blanks. -/
  same : ∀ files' path' text' ms', IsObject (String.toList text') ms' →
    files' path' = .ok text'.toUTF8 → (meaningful ms').Perm (meaningful ms) →
      (load builtIn files' (some path') fun _ => none).toOption =
        (load builtIn files (some path) fun _ => none).toOption

/-- **What a settings file means.** -/
theorem file_means (hobject : IsObject text.toList ms) (hfile : files path = .ok text.toUTF8) :
    FileMeans builtIn files path ms := by
  constructor
  case loads =>
    constructor
    · rintro ⟨t, ht⟩ f
      obtain ⟨fields, htakes, rfl⟩ := (load_object hobject hfile).1 ht
      exact (htakes f).wellFormed
    · intro h
      choose content hcontent using fun f => Field.exists_takes (h f).1 (h f).2
      refine ⟨_, (load_object hobject hfile).2
        ⟨⟨content .name, content .host, content .port⟩, fun f => ?_, rfl⟩⟩
      cases f <;> exact hcontent _
  case mentioned =>
    intro t ht f v hv
    obtain ⟨fields, htakes, rfl⟩ := (load_object hobject hfile).1 ht
    obtain ⟨x, hreads, hx⟩ := (htakes f).eq_of_mem hv
    rw [value_fill, hx]
    exact hreads
  case unmentioned =>
    intro t ht f hnone
    obtain ⟨fields, htakes, rfl⟩ := (load_object hobject hfile).1 ht
    have htake := htakes f
    rw [hnone] at htake
    rw [value_fill, htake.eq_of_nil]
    rfl
  case same =>
    intro files' path' text' ms' hobject' hfile' hperm
    have hvalues : ∀ f : Field, (f.values ms').Perm (f.values ms) := fun f => by
      rw [← values_meaningful f ms', ← values_meaningful f ms]
      exact (hperm.filter _).map _
    refine toOption_congr fun t => ?_
    rw [load_object hobject' hfile', load_object hobject hfile]
    refine exists_congr fun fields => and_congr (forall_congr' fun f => ?_) Iff.rfl
    exact ⟨fun h => h.perm (hvalues f), fun h => h.perm (hvalues f).symm⟩

end Loading

/-- An object with a list that holds a name of its own, and with a name whose key is escaped. -/
def escapedKey : String := "\x7b\"x\":[\x7b\"name\":1\x7d], \"\\u006eame\": \"a\"\x7d"

/-- Its members. -/
def escapedKeyMembers : List Member :=
  [("x", "[\x7b\"name\":1\x7d]".toList), ("name", "\"a\"".toList)]

/-- Its name is that of the escaped key. -/
theorem escaped_key_means_name :
    IsObject escapedKey.toList escapedKeyMembers ∧
      FileMeans ⟨"node", "0.0.0.0", 0⟩ (fun _ => .ok escapedKey.toUTF8) "node.json"
        escapedKeyMembers := by
  have hone : Spaced .value "1".toList "1".toList :=
    .scalar (.numeral (IsWhole.isNumeral (.digits (by decide) (List.forall_mem_singleton.2 rfl))))
  have hquoted : IsQuoted "name".toList :=
    .plain (by decide) (.plain (by decide) (.plain (by decide) (.plain (by decide) .nil)))
  have hobject : Spaced .value "\x7b\"name\":1\x7d".toList "\x7b\"name\":1\x7d".toList :=
    .enclosed (e := .object) (.single .nil (.object hquoted .nil) .nil hone .nil)
  have hlist : Spaced .value "[\x7b\"name\":1\x7d]".toList "[\x7b\"name\":1\x7d]".toList :=
    .enclosed (e := .list) (.single .nil .list .nil hobject .nil)
  have hstrange : IsMember "\"x\":[\x7b\"name\":1\x7d]".toList
      ("x", "[\x7b\"name\":1\x7d]".toList) :=
    @IsMember.mk [] ['x'] [] [] _ [] "x" _ .nil (.plain (by decide) .nil) .nil .nil hlist .nil
  have hescape : IsEscape "u006e".toList 'n' :=
    @IsEscape.number "006e".toList 110 ⟨rfl, by decide⟩ rfl rfl
  have hspells : Spells "\\u006eame".toList "name".toList :=
    .escaped hescape (.plain (by decide) (.plain (by decide) (.plain (by decide) .nil)))
  have hvalue : Spaced .value "\"a\"".toList "\"a\"".toList :=
    .scalar (.string (.plain (by decide) .nil))
  have hname : IsMember " \"\\u006eame\": \"a\"".toList ("name", "\"a\"".toList) :=
    @IsMember.mk [' '] "\\u006eame".toList [] [' '] _ [] "name" _ (by decide) hspells .nil
      (by decide) hvalue .nil
  have hall : IsObject escapedKey.toList escapedKeyMembers :=
    @IsObject.full [] _ [] _ .nil (.more hstrange (.single hname)) .nil
  exact ⟨hall, file_means hall rfl⟩

end Overlay.Settings
