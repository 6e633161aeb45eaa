import Overlay.Proofs.Encodings

namespace Overlay.Text

/-!
# What lossy decoding gives

Decoding without its algorithm: at the front of the bytes stands either a character's encoding,
which becomes that character, or none, and then the longest beginning of an encoding there (one
byte, if no encoding begins so) becomes one replacement character. The bytes leave no choice, and
the decoder gives that one text.

* `Flaw`, `Lossy` — a part that becomes a replacement character, and bytes with their text;
* `takeChar_cases` — what the decoder takes from the front;
* `decodeChars_eq_iff` — the decoder's text is the lossy decoding;
* `decode_toUTF8`, `toUTF8_decode_iff` — text survives, and so do exactly the bytes that are text;
* `ascii_infix_iff`, `decode_eq_ascii_iff` — ASCII text is neither made nor lost.
-/

/-- The bytes `part` in front of `rest` become one replacement character. -/
structure Flaw (part rest : List UInt8) : Prop where
  /-- There are such bytes. -/
  nonempty : part ≠ []
  /-- No character stands there. -/
  unreadable : ∀ c, ¬ String.utf8EncodeChar c <+: part ++ rest
  /-- They could have become one, unless it is a single byte. -/
  begins : Begins part ∨ part.length = 1
  /-- No longer part could have. -/
  longest : ∀ more, more <+: part ++ rest → Begins more → more.length ≤ part.length

/-- Bytes and the text that they stand for. -/
inductive Lossy : List UInt8 → List Char → Prop
  /-- No bytes, no text. -/
  | nil : Lossy [] []
  /-- A character's encoding stands for it. -/
  | char (c : Char) {rest : List UInt8} {text : List Char} (behind : Lossy rest text) :
    Lossy (String.utf8EncodeChar c ++ rest) (c :: text)
  /-- A flaw becomes one replacement character. -/
  | flaw {part rest : List UInt8} {text : List Char} (bad : Flaw part rest)
    (behind : Lossy rest text) : Lossy (part ++ rest) (replacement :: text)

/-! ### The decoder's steps -/

/-- What is taken behind a first byte and a second: all continuation bytes asked for, or too few of
them and a byte that is none. -/
theorem takeMore_cases (bits more : Nat) (bytes : List UInt8) :
    (∃ tails, bytes = tails ++ (takeMore bits more bytes).2 ∧ tails.length = more ∧
      (∀ y ∈ tails, IsTail y) ∧
        (takeMore bits more bytes).1 = Char.ofNat (tails.foldl addBits bits)) ∨
    (takeMore bits more bytes).1 = replacement ∧
      ∃ tails, bytes = tails ++ (takeMore bits more bytes).2 ∧ tails.length < more ∧
        (∀ y ∈ tails, IsTail y) ∧ ∀ x ∈ (takeMore bits more bytes).2.head?, ¬ IsTail x := by
  fun_induction takeMore bits more bytes with
  | case1 bits rest => exact .inl ⟨[], rfl, rfl, by simp, rfl⟩
  | case2 bits more => exact .inr ⟨rfl, [], rfl, by simp, by simp, by simp⟩
  | case3 bits more b rest hb ih =>
    have htail : IsTail b := ⟨hb.1, hb.2⟩
    rcases ih with ⟨tails, hbytes, hlen, htails, hchar⟩ |
      ⟨hchar, tails, hbytes, hlen, htails, hstop⟩
    · exact .inl ⟨b :: tails, congrArg (b :: ·) hbytes, congrArg (· + 1) hlen,
        List.forall_mem_cons.2 ⟨htail, htails⟩, hchar⟩
    · exact .inr ⟨hchar, b :: tails, congrArg (b :: ·) hbytes, Nat.succ_lt_succ hlen,
        List.forall_mem_cons.2 ⟨htail, htails⟩, hstop⟩
  | case4 bits more b rest hb =>
    refine .inr ⟨rfl, [], rfl, Nat.succ_pos more, by simp, fun x hx => ?_⟩
    obtain rfl : b = x := by simpa using hx
    exact hb

/-- What is taken from the front when the first byte asks for more: all it asks for, or as many
bytes as can follow it. -/
theorem takeChar_opens {b : UInt8} {bits more : Nat} {low high : UInt8}
    (h : Lead.of b = .opens bits low high more) (rest : List UInt8) :
    (∃ part, rest = part ++ (takeChar b rest).2 ∧ part.length = more + 1 ∧ Follows low high part ∧
      (takeChar b rest).1 = Char.ofNat (part.foldl addBits bits)) ∨
    (takeChar b rest).1 = replacement ∧
      ∃ part, rest = part ++ (takeChar b rest).2 ∧ part.length ≤ more ∧ Follows low high part ∧
        ∀ x ∈ (takeChar b rest).2.head?, ¬ Follows low high (part ++ [x]) := by
  cases rest with
  | nil =>
    have htake : takeChar b [] = (replacement, []) := by simp only [takeChar, h]
    rw [htake]
    exact .inr ⟨rfl, [], rfl, Nat.zero_le more, trivial, by simp⟩
  | cons c rest =>
    by_cases hc : low ≤ c ∧ c ≤ high
    · have htake : takeChar b (c :: rest) = takeMore (addBits bits c) more rest := by
        simp only [takeChar, h, if_pos hc]
      rw [htake]
      rcases takeMore_cases (addBits bits c) more rest with
        ⟨tails, hbytes, hlen, htails, hchar⟩ | ⟨hchar, tails, hbytes, hlen, htails, hstop⟩
      · exact .inl ⟨c :: tails, congrArg (c :: ·) hbytes, congrArg (· + 1) hlen,
          ⟨hc.1, hc.2, htails⟩, hchar⟩
      · refine .inr ⟨hchar, c :: tails, congrArg (c :: ·) hbytes, hlen, ⟨hc.1, hc.2, htails⟩,
          fun x hx hfollows => hstop x hx ?_⟩
        exact hfollows.2.2 x (by simp)
    · have htake : takeChar b (c :: rest) = (replacement, c :: rest) := by
        simp only [takeChar, h, if_neg hc]
      rw [htake]
      refine .inr ⟨rfl, [], rfl, Nat.zero_le more, trivial, fun x hx hfollows => hc ?_⟩
      obtain rfl : c = x := by simpa using hx
      exact ⟨hfollows.1, hfollows.2.1⟩

/-- An encoding has a first byte. -/
theorem encode_ne_nil (c : Char) : String.utf8EncodeChar c ≠ [] := by
  intro h
  have hlen := congrArg List.length h
  rw [String.length_utf8EncodeChar] at hlen
  exact absurd hlen (Nat.ne_of_gt c.utf8Size_pos)

/-- A byte that no encoding begins with is a flaw. -/
theorem flaw_of_invalid {b : UInt8} (h : Lead.of b = .invalid) (rest : List UInt8) :
    Flaw [b] rest := by
  have hnone (part : List UInt8) : ¬ Begins (b :: part) := by
    intro hbegins
    rcases begins_cons_iff.1 hbegins with ⟨hl, -⟩ | ⟨_, _, _, _, hl, -⟩ <;> simp [h] at hl
  refine ⟨by simp, fun c hc => ?_, .inr rfl, fun more hmore hbegins => ?_⟩
  · rcases List.prefix_cons_iff.1 hc with hnil | ⟨part, hpart, -⟩
    · exact encode_ne_nil c hnil
    · exact hnone part ⟨c, [], by rw [List.append_nil, hpart]⟩
  · rcases List.prefix_cons_iff.1 hmore with rfl | ⟨part, rfl, -⟩
    · simp
    · exact absurd hbegins (hnone part)

/-- A first byte with some of what it asks for, and then a byte that cannot follow, is a flaw. -/
theorem flaw_of_opens {b : UInt8} {bits more : Nat} {low high : UInt8} {part rest : List UInt8}
    (h : Lead.of b = .opens bits low high more) (hlen : part.length ≤ more)
    (hpart : Follows low high part) (hstop : ∀ x ∈ rest.head?, ¬ Follows low high (part ++ [x])) :
    Flaw (b :: part) rest := by
  have hbegins : Begins (b :: part) :=
    begins_cons_iff.2 (.inr ⟨bits, low, high, more, h, by omega, hpart⟩)
  have hlongest (longer : List UInt8) (hpre : longer <+: b :: part ++ rest)
      (hlonger : Begins longer) : longer.length ≤ part.length + 1 := by
    -- a longer one would go on with the byte that cannot follow
    by_contra hlt
    have hsplit : b :: part <+: longer :=
      List.prefix_of_prefix_length_le (List.prefix_append _ _) hpre (by simp; omega)
    obtain ⟨behind, rfl⟩ := hsplit
    have hne : behind ≠ [] := by
      rintro rfl
      simp at hlt
    obtain ⟨x, behind, rfl⟩ := List.exists_cons_of_ne_nil hne
    have hx : x ∈ rest.head? := by
      obtain ⟨left, rfl⟩ := (List.prefix_append_right_inj _).1 hpre
      simp
    rw [List.cons_append, begins_cons_iff] at hlonger
    rcases hlonger with ⟨hl, -⟩ | ⟨_, _, _, _, hl, -, hfollows⟩
    · simp [h] at hl
    · simp only [h, Lead.opens.injEq] at hl
      obtain ⟨-, rfl, rfl, -⟩ := hl
      have hmore : Follows low high ((part ++ [x]) ++ behind) := by simpa using hfollows
      exact hstop x hx hmore.of_append
  refine ⟨by simp, fun c hc => ?_, .inl hbegins, fun longer hpre hlonger =>
    hlongest longer hpre hlonger⟩
  have hshort := hlongest _ hc ⟨c, List.prefix_refl _⟩
  obtain ⟨d, tails, hd⟩ := List.exists_cons_of_ne_nil (encode_ne_nil c)
  obtain ⟨rfl, -⟩ := List.cons_prefix_cons.1 (hd ▸ hc)
  rw [hd, List.length_cons] at hshort
  rcases shape_of_encode hd with ⟨hl, -⟩ | ⟨_, _, _, _, hl, hfull, -⟩
  · simp [h] at hl
  · simp only [h, Lead.opens.injEq] at hl
    omega

/-- **What the decoder takes from the front**: a character whose encoding stands there, or a
replacement character for a flaw. -/
theorem takeChar_cases (b : UInt8) (rest : List UInt8) :
    (b :: rest = String.utf8EncodeChar (takeChar b rest).1 ++ (takeChar b rest).2) ∨
    (takeChar b rest).1 = replacement ∧
      ∃ part, b :: rest = part ++ (takeChar b rest).2 ∧ Flaw part (takeChar b rest).2 := by
  cases h : Lead.of b with
  | single =>
    have htake : takeChar b rest = (Char.ofNat b.toNat, rest) := by simp only [takeChar, h]
    rw [htake, encode_one (lead_single_iff.1 h)]
    exact .inl rfl
  | invalid =>
    have htake : takeChar b rest = (replacement, rest) := by simp only [takeChar, h]
    rw [htake]
    exact .inr ⟨rfl, [b], rfl, flaw_of_invalid h rest⟩
  | opens bits low high more =>
    rcases takeChar_opens h rest with
      ⟨part, hbytes, hlen, hpart, hchar⟩ | ⟨hchar, part, hbytes, hlen, hpart, hstop⟩
    · left
      rw [hchar, encode_of_follows h hlen hpart, List.cons_append, ← hbytes]
    · exact .inr ⟨hchar, b :: part, congrArg (b :: ·) hbytes, flaw_of_opens h hlen hpart hstop⟩

/-- The decoder gives a lossy decoding. -/
theorem lossy_decodeChars (bytes : List UInt8) : Lossy bytes (decodeChars bytes) := by
  induction hn : bytes.length using Nat.strongRecOn generalizing bytes with
  | ind n ih =>
    cases bytes with
    | nil =>
      rw [decodeChars_nil]
      exact .nil
    | cons b rest =>
      have hlt := length_takeChar_le b rest
      rw [List.length_cons] at hn
      have hbehind := ih _ (by omega) (takeChar b rest).2 rfl
      rw [decodeChars_cons]
      rcases takeChar_cases b rest with hbytes | ⟨hchar, part, hbytes, hflaw⟩
      · rw [hbytes]
        exact .char _ hbehind
      · rw [hbytes, hchar]
        exact .flaw hflaw hbehind

/-! ### There is one lossy decoding -/

/-- Only one character's encoding can stand at the front. -/
theorem encode_append_inj {c d : Char} {rest rest' : List UInt8}
    (h : String.utf8EncodeChar c ++ rest = String.utf8EncodeChar d ++ rest') :
    c = d ∧ rest = rest' := by
  have hread (c : Char) (rest : List UInt8) :
      ByteArray.utf8DecodeChar? (String.utf8EncodeChar c ++ rest).toByteArray 0 = some c := by
    rw [List.toByteArray_append]
    exact ByteArray.utf8DecodeChar?_utf8EncodeChar_append
  have hc := hread c rest
  rw [h, hread d rest'] at hc
  obtain rfl := Option.some.inj hc
  exact ⟨rfl, List.append_cancel_left h⟩

/-- Of two flaws at the front, neither is longer. -/
theorem Flaw.length_le {part rest other rest' : List UInt8} (h : Flaw part rest)
    (hother : Flaw other rest') (hbytes : part ++ rest = other ++ rest') :
    other.length ≤ part.length := by
  rcases hother.begins with hbegins | hone
  · exact h.longest other (hbytes ▸ List.prefix_append other rest') hbegins
  · rw [hone]
    exact List.length_pos_iff.2 h.nonempty

theorem Lossy.unique {bytes : List UInt8} {text text' : List Char} (h : Lossy bytes text)
    (h' : Lossy bytes text') : text = text' := by
  induction h generalizing text' with
  | nil =>
    generalize hb : ([] : List UInt8) = b at h'
    cases h' with
    | nil => rfl
    | char c => exact absurd (List.append_eq_nil_iff.1 hb.symm).1 (encode_ne_nil c)
    | flaw bad => exact absurd (List.append_eq_nil_iff.1 hb.symm).1 bad.nonempty
  | @char c rest text behind ih =>
    generalize hb : String.utf8EncodeChar c ++ rest = b at h'
    cases h' with
    | nil => exact absurd (List.append_eq_nil_iff.1 hb).1 (encode_ne_nil c)
    | char d behind' =>
      obtain ⟨rfl, rfl⟩ := encode_append_inj hb
      rw [ih behind']
    | flaw bad => exact absurd (hb ▸ List.prefix_append _ rest) (bad.unreadable c)
  | @flaw part rest text bad behind ih =>
    generalize hb : part ++ rest = b at h'
    cases h' with
    | nil => exact absurd (List.append_eq_nil_iff.1 hb).1 bad.nonempty
    | char d => exact absurd (hb ▸ List.prefix_append _ _) (bad.unreadable d)
    | flaw bad' behind' =>
      have hlen := Nat.le_antisymm (bad'.length_le bad hb.symm) (bad.length_le bad' hb)
      obtain ⟨-, rfl⟩ := List.append_inj hb hlen
      rw [ih behind']

/-- **The decoder gives the lossy decoding and nothing else.** -/
theorem decodeChars_eq_iff {bytes : List UInt8} {text : List Char} :
    decodeChars bytes = text ↔ Lossy bytes text := by
  constructor
  · rintro rfl
    exact lossy_decodeChars bytes
  · exact (lossy_decodeChars bytes).unique

/-! ### Text survives -/

/-- The bytes of a text. -/
def encodeChars (text : List Char) : List UInt8 := text.flatMap String.utf8EncodeChar

theorem bytes_toUTF8 (s : String) : s.toUTF8.data.toList = encodeChars s.toList := by
  rw [String.toUTF8_eq_toByteArray, ← String.utf8Encode_toList]
  exact List.toList_data_toByteArray

theorem lossy_encodeChars (text : List Char) : Lossy (encodeChars text) text := by
  induction text with
  | nil => exact .nil
  | cons c text ih => exact .char c ih

/-- A text without replacement characters was decoded from its own bytes. -/
theorem Lossy.bytes_eq {bytes : List UInt8} {text : List Char} (h : Lossy bytes text)
    (hclean : replacement ∉ text) : bytes = encodeChars text := by
  induction h with
  | nil => rfl
  | char c behind ih => rw [ih (fun hmem => hclean (List.mem_cons_of_mem c hmem))]; rfl
  | flaw => simp at hclean

/-- **The bytes of a text stand for it.** -/
@[simp] theorem decode_toUTF8 (s : String) : decode s.toUTF8 = s := by
  rw [decode, bytes_toUTF8, decodeChars_eq_iff.2 (lossy_encodeChars s.toList), String.ofList_toList]

/-- What was decoded gives the bytes back exactly when they were those of a text. -/
theorem toUTF8_decode_iff {bytes : ByteArray} :
    (decode bytes).toUTF8 = bytes ↔ bytes.IsValidUTF8 := by
  constructor
  · intro h
    rw [← h]
    exact (decode bytes).isValidUTF8
  · intro h
    obtain ⟨s, rfl⟩ : ∃ s : String, bytes = s.toUTF8 := ⟨String.fromUTF8 bytes h, rfl⟩
    rw [decode_toUTF8]

/-- A text without replacement characters stands for its own bytes only. -/
theorem decode_eq_iff {bytes : ByteArray} {word : String} (hclean : replacement ∉ word.toList) :
    decode bytes = word ↔ bytes = word.toUTF8 := by
  constructor
  · rintro rfl
    have hbytes := (lossy_decodeChars bytes.data.toList).bytes_eq (by simpa [decode] using hclean)
    apply ByteArray.ext
    apply Array.toList_inj.1
    rw [bytes_toUTF8, hbytes, decode, String.toList_ofList]
  · rintro rfl
    exact decode_toUTF8 word

/-! ### ASCII text is neither made nor lost -/

/-- A character below `0x80`, which is its own encoding. -/
def IsAscii (c : Char) : Prop := c.val.toNat < 0x80

instance : DecidablePred IsAscii := fun c => inferInstanceAs (Decidable (c.val.toNat < 0x80))

/-- A word is ASCII if a look at each of its characters says so. -/
theorem isAscii_of_all {word : String} (h : word.toList.all (fun c => decide (IsAscii c)) = true) :
    ∀ c ∈ word.toList, IsAscii c := fun c hc =>
  of_decide_eq_true (List.all_eq_true.1 h c hc)

theorem encode_ascii {c : Char} (h : IsAscii c) :
    ∃ b : UInt8, b.toNat < 0x80 ∧ String.utf8EncodeChar c = [b] := by
  unfold IsAscii at h
  have hbyte := toNat_byte (n := c.val.toNat) (by omega)
  refine ⟨UInt8.ofNat c.val.toNat, by omega, ?_⟩
  unfold String.utf8EncodeChar
  rw [if_pos (by omega)]

theorem not_isAscii_replacement : ¬ IsAscii replacement := by decide

/-- An ASCII word stands at the front of the text exactly where its bytes stand at the front. -/
theorem Lossy.prefix_iff {bytes : List UInt8} {text word : List Char} (h : Lossy bytes text)
    (hword : ∀ c ∈ word, IsAscii c) : word <+: text ↔ encodeChars word <+: bytes := by
  induction word generalizing bytes text with
  | nil => simp [encodeChars]
  | cons a word ih =>
    obtain ⟨ha, hword⟩ := List.forall_mem_cons.1 hword
    obtain ⟨x, hx, hencode⟩ := encode_ascii ha
    have hbytes : encodeChars (a :: word) = String.utf8EncodeChar a ++ encodeChars word := rfl
    cases h with
    | nil => simp [hbytes, hencode]
    | @char c rest text behind =>
      by_cases hc : a = c
      · subst hc
        rw [hbytes, List.prefix_append_right_inj, List.cons_prefix_cons, ih behind hword]
        simp
      · -- both encodings would stand at the front
        refine iff_of_false (fun hpre => hc (List.cons_prefix_cons.1 hpre).1) ?_
        rintro ⟨left, hleft⟩
        rw [hbytes, List.append_assoc] at hleft
        exact hc (encode_append_inj hleft).1
    | @flaw part rest text bad =>
      refine iff_of_false (fun hpre => ?_) (fun hpre => ?_)
      · exact not_isAscii_replacement ((List.cons_prefix_cons.1 hpre).1 ▸ ha)
      · exact bad.unreadable a ((List.prefix_append _ _).trans hpre)

/-- Among continuation bytes no ASCII word begins. -/
theorem infix_append_of_tails {x : UInt8} {word part rest : List UInt8} (hx : x.toNat < 0x80)
    (hpart : ∀ y ∈ part, IsTail y) : x :: word <:+: part ++ rest ↔ x :: word <:+: rest := by
  induction part with
  | nil => rfl
  | cons y part ih =>
    obtain ⟨hy, hpart⟩ := List.forall_mem_cons.1 hpart
    rw [List.cons_append, List.infix_cons_iff, ih hpart]
    refine or_iff_right (fun hpre => ?_)
    obtain ⟨rfl, -⟩ := List.cons_prefix_cons.1 hpre
    exact absurd hy.1 (by omega)

/-- **An ASCII word occurs in the text exactly where its bytes occur.** -/
theorem Lossy.infix_iff {bytes : List UInt8} {text word : List Char} (h : Lossy bytes text)
    (hword : ∀ c ∈ word, IsAscii c) : word <:+: text ↔ encodeChars word <:+: bytes := by
  cases word with
  | nil => simp [encodeChars]
  | cons a word =>
    obtain ⟨x, hx, hencode⟩ := encode_ascii (hword a List.mem_cons_self)
    have hbytes : encodeChars (a :: word) = x :: encodeChars word := by
      simp [encodeChars, hencode]
    -- Behind the first byte of an encoding or a flaw, the word cannot begin before its end.
    have hstep {b : UInt8} {part rest : List UInt8} {c : Char} {text : List Char}
        (hall : Lossy (b :: part ++ rest) (c :: text)) (htails : ∀ y ∈ part, IsTail y)
        (ih : a :: word <:+: text ↔ encodeChars (a :: word) <:+: rest) :
        a :: word <:+: c :: text ↔ encodeChars (a :: word) <:+: b :: part ++ rest := by
      rw [List.infix_cons_iff, hall.prefix_iff hword, ih, hbytes, List.cons_append,
        List.infix_cons_iff, infix_append_of_tails hx htails]
    induction h with
    | nil => simp [hbytes]
    | @char c rest text behind ih =>
      obtain ⟨b, part, hpart⟩ := List.exists_cons_of_ne_nil (encode_ne_nil c)
      have hall := Lossy.char c behind
      rw [hpart] at hall ⊢
      have hbegins : Begins (b :: part) := ⟨c, hpart ▸ List.prefix_refl _⟩
      exact hstep hall hbegins.isTail ih
    | @flaw part rest text bad behind ih =>
      obtain ⟨b, part, rfl⟩ := List.exists_cons_of_ne_nil bad.nonempty
      refine hstep (.flaw bad behind) ?_ ih
      rcases bad.begins with hbegins | hone
      · exact hbegins.isTail
      · obtain rfl : part = [] := by simpa using hone
        simp

/-- An ASCII word occurs in decoded bytes exactly where its bytes occur in them. -/
theorem ascii_infix_iff {bytes : ByteArray} {word : String} (hword : ∀ c ∈ word.toList, IsAscii c) :
    word.toList <:+: (decode bytes).toList ↔
      word.toUTF8.data.toList <:+: bytes.data.toList := by
  rw [decode, String.toList_ofList, bytes_toUTF8]
  exact (lossy_decodeChars bytes.data.toList).infix_iff hword

end Overlay.Text
