import Overlay.Json.Skip
import Overlay.Settings

namespace Overlay.Settings

/-!
# Settings in a file

A settings file is a JSON object in which every member may be missing and members of other
names are skipped, or a list of the values in their fixed order, perhaps shorter.

* `Fields` — what a file mentions; `Fields.fill` completes it;
* `document` — reading a file's text;
* `Json.Fault.message` says what is wrong with a text that cannot be read.
-/

open Json

/-! ### Fields -/

/-- A member that means something. -/
inductive Field where
  | name
  | host
  | port
deriving DecidableEq, Inhabited, Repr

/-- The key of a field. -/
def Field.key : Field → String
  | name => "name"
  | host => "tree_ip"
  | port => "tree_port"

/-- The field of a key, if it means something. -/
def Field.ofKey? (key : String) : Option Field :=
  [Field.name, .host, .port].find? (·.key = key)

/-- What a file mentions. -/
structure Fields where
  name : Option String := none
  host : Option String := none
  port : Option UInt16 := none
deriving DecidableEq, Inhabited, Repr

/-- Whether a field has been mentioned. -/
def Fields.has (fields : Fields) : Field → Bool
  | .name => fields.name.isSome
  | .host => fields.host.isSome
  | .port => fields.port.isSome

/-- Complete what a file mentions by what is built in. -/
def Fields.fill (fields : Fields) (builtIn : Settings) : Settings :=
  ⟨fields.name.getD builtIn.name, fields.host.getD builtIn.host, fields.port.getD builtIn.port⟩

/-! ### Values -/

/-- What stands where something else was wanted, and the text behind it. Lists and objects are
not read. -/
def foundAt : List Char → Scan Found
  | [] => .error (.here .endInValue [])
  | c :: s =>
    if c = 'n' then (word ['u', 'l', 'l'] s).map (.null, ·)
    else if c = 't' then (word ['r', 'u', 'e'] s).map (.boolean true, ·)
    else if c = 'f' then (word ['a', 'l', 's', 'e'] s).map (.boolean false, ·)
    else if c = '"' then (string s).map fun r => (.text r.1, r.2)
    else if startsNumeral c then (numeral (c :: s)).map fun r => (r.1.found, r.2)
    else if c = '[' then .ok (.sequence, c :: s)
    else if c = '\x7b' then .ok (.map, c :: s)
    else .error (.next .noValue (c :: s))

/-- The fault of a text that goes on with something else than was wanted. -/
def mismatch (wanted : String) (s : List Char) : Fault :=
  match foundAt s with
  | .ok (found, rest) => .here (.wrongType found wanted) rest
  | .error fault => fault

/-- Read a text value. -/
def textValue (s : List Char) : Scan String :=
  match skipBlanks s with
  | '"' :: s => string s
  | s => .error (mismatch "a string" s)

/-- How a port is called in a complaint. -/
def portWords : String := "u16"

/-- Read a port. -/
def portValue (s : List Char) : Scan UInt16 :=
  match skipBlanks s with
  | [] => .error (.here .endInValue [])
  | c :: s =>
    if startsNumeral c then
      match numeral (c :: s) with
      | .error fault => .error fault
      | .ok (.natural n, rest) =>
        if n ≤ Text.portLimit then .ok (n.toUInt16, rest)
        else .error (.here (.wrongValue (.natural n) portWords) rest)
      | .ok (.negative n, rest) => .error (.here (.wrongValue (.negative n) portWords) rest)
      | .ok (.floating f, rest) => .error (.here (.wrongType (.floating f) portWords) rest)
    else
      .error (mismatch portWords (c :: s))

/-- Read the value of a field. -/
def fieldValue (fields : Fields) : Field → List Char → Scan Fields
  | .name, s => (textValue s).map fun r => ({ fields with name := some r.1 }, r.2)
  | .host, s => (textValue s).map fun r => ({ fields with host := some r.1 }, r.2)
  | .port, s => (portValue s).map fun r => ({ fields with port := some r.1 }, r.2)

/-- Read the value of a key: a field's is kept, any other is skipped. -/
def keyValue (fields : Fields) (key : String) (s : List Char) : Scan Fields :=
  match Field.ofKey? key with
  | some field => fieldValue fields field s
  | none => (skipValue s).map (fields, ·)

/-! ### Objects -/

/-- The fault of a field that occurs again. It shows where the object would have to end. -/
def duplicate (field : Field) (s : List Char) : Fault :=
  match skipBlanks s with
  | '\x7d' :: rest => .here (.duplicateField field.key) rest
  | rest => .here (.duplicateField field.key) rest

/-- Read a key behind its opening quote, unless it is that of a field already mentioned. -/
def freshKey (fields : Fields) (s : List Char) : Scan String :=
  match string s with
  | .error fault => .error fault
  | .ok (key, rest) =>
    match Field.ofKey? key with
    | some field =>
      if fields.has field then .error (duplicate field rest) else .ok (key, rest)
    | none => .ok (key, rest)

/-- Read the colon behind a key. -/
def colon (s : List Char) : Except Fault (List Char) :=
  match skipBlanks s with
  | [] => .error (.here .endInObject [])
  | ':' :: s => .ok s
  | s => .error (.next .noColon s)

/-- Read a member of an object behind the opening quote of its key. -/
def member (fields : Fields) (s : List Char) : Scan Fields :=
  match freshKey fields s with
  | .error fault => .error fault
  | .ok (key, s) =>
    match colon s with
    | .error fault => .error fault
    | .ok s => keyValue fields key s

/-- How an object or a list goes on. -/
inductive Continuation where
  /-- With a member, behind the opening quote of its key, or with an element. -/
  | more (rest : List Char)
  /-- It is at its end. -/
  | finished (rest : List Char)
deriving DecidableEq, Inhabited

/-- Go to the next member of an object, or behind its end. `comma` says that a member was just
read. -/
def nextMember (comma : Bool) (s : List Char) : Except Fault Continuation :=
  match skipBlanks s with
  | [] => .error (.here .endInObject [])
  | c :: s =>
    if c = '\x7d' then .ok (.finished s)
    else if comma = false then
      if c = '"' then .ok (.more s) else .error (.next .keyNotString (c :: s))
    else if c = ',' then
      match skipBlanks s with
      | [] => .error (.here .endInValue [])
      | k :: s =>
        if k = '"' then .ok (.more s)
        else if k = '\x7d' then .error (.next .trailingComma (k :: s))
        else .error (.next .keyNotString (k :: s))
    else .error (.next .noObjectComma (c :: s))

/-! ### A member has at least one character -/

theorem length_textValue_le {s r : List Char} {t : String} (h : textValue s = .ok (t, r)) :
    r.length ≤ s.length := by
  have hb := length_skipBlanks_le s
  unfold textValue at h
  split at h
  · rename_i s' hs
    have := length_string_lt h
    rw [hs, List.length_cons] at hb
    omega
  · cases h

theorem length_portValue_le {s r : List Char} {p : UInt16} (h : portValue s = .ok (p, r)) :
    r.length ≤ s.length := by
  have hb := length_skipBlanks_le s
  unfold portValue at h
  split at h
  · cases h
  · rename_i c s' hs
    rw [hs] at hb
    split at h
    · split at h
      · cases h
      · rename_i n rest hn
        split at h
        · obtain ⟨-, rfl⟩ := Prod.mk.inj (Except.ok.inj h)
          exact Nat.le_trans (Nat.le_of_lt (length_numeral_lt hn)) hb
        · cases h
      · cases h
      · cases h
    · cases h

theorem length_fieldValue_le {fields fields' : Fields} {field : Field} {s r : List Char}
    (h : fieldValue fields field s = .ok (fields', r)) : r.length ≤ s.length := by
  cases field with
  | name =>
    cases ht : textValue s with
    | error fault => simp [fieldValue, ht, Except.map] at h
    | ok p =>
      simp only [fieldValue, ht, Except.map, Except.ok.injEq, Prod.mk.injEq] at h
      exact h.2 ▸ length_textValue_le ht
  | host =>
    cases ht : textValue s with
    | error fault => simp [fieldValue, ht, Except.map] at h
    | ok p =>
      simp only [fieldValue, ht, Except.map, Except.ok.injEq, Prod.mk.injEq] at h
      exact h.2 ▸ length_textValue_le ht
  | port =>
    cases ht : portValue s with
    | error fault => simp [fieldValue, ht, Except.map] at h
    | ok p =>
      simp only [fieldValue, ht, Except.map, Except.ok.injEq, Prod.mk.injEq] at h
      exact h.2 ▸ length_portValue_le ht

theorem length_keyValue_le {fields fields' : Fields} {key : String} {s r : List Char}
    (h : keyValue fields key s = .ok (fields', r)) : r.length ≤ s.length := by
  unfold keyValue at h
  split at h
  · exact length_fieldValue_le h
  · cases hs : skipValue s with
    | error fault => simp [hs, Except.map] at h
    | ok r' =>
      simp only [hs, Except.map, Except.ok.injEq, Prod.mk.injEq] at h
      exact h.2 ▸ Nat.le_of_lt (length_skipValue_lt hs)

theorem length_freshKey_lt {fields : Fields} {key : String} {s r : List Char}
    (h : freshKey fields s = .ok (key, r)) : r.length < s.length := by
  unfold freshKey at h
  split at h
  · cases h
  · rename_i key' rest hk
    have hlt := length_string_lt hk
    split at h
    · split at h
      · cases h
      · obtain ⟨-, rfl⟩ := Prod.mk.inj (Except.ok.inj h)
        exact hlt
    · obtain ⟨-, rfl⟩ := Prod.mk.inj (Except.ok.inj h)
      exact hlt

theorem length_colon_le {s r : List Char} (h : colon s = .ok r) : r.length ≤ s.length := by
  have hb := length_skipBlanks_le s
  unfold colon at h
  split at h
  · cases h
  · rename_i s' hs
    rw [hs, List.length_cons] at hb
    obtain rfl := Except.ok.inj h
    omega
  · cases h

theorem length_member_lt {fields fields' : Fields} {s r : List Char}
    (h : member fields s = .ok (fields', r)) : r.length < s.length := by
  unfold member at h
  split at h
  · cases h
  · rename_i key s' hk
    split at h
    · cases h
    · rename_i s'' hc
      have h1 := length_freshKey_lt hk
      have h2 := length_colon_le hc
      have h3 := length_keyValue_le h
      omega

theorem length_nextMember_lt {comma : Bool} {s r : List Char}
    (h : nextMember comma s = .ok (.more r)) : r.length < s.length := by
  have hb := length_skipBlanks_le s
  unfold nextMember at h
  split at h
  · cases h
  · rename_i c s' hs
    rw [hs, List.length_cons] at hb
    split at h
    · cases h
    · split at h
      · split at h
        · cases h
          omega
        · cases h
      · split at h
        · have hb' := length_skipBlanks_le s'
          split at h
          · cases h
          · rename_i k s'' hs'
            rw [hs', List.length_cons] at hb'
            split at h
            · cases h
              omega
            · split at h <;> cases h
        · cases h

/-! ### Documents -/

/-- Read the members of an object up to its end. -/
def members (fields : Fields) (comma : Bool) (s : List Char) : Scan Fields :=
  match _hn : nextMember comma s with
  | .error fault => .error fault
  | .ok (.finished rest) => .ok (fields, rest)
  | .ok (.more rest) =>
    match _hm : member fields rest with
    | .error fault => .error fault
    | .ok (fields, rest) => members fields true rest
termination_by s.length
decreasing_by exact Nat.lt_trans (length_member_lt _hm) (length_nextMember_lt _hn)

/-- Go to the next element of a list, or stop in front of its end. `comma` says that an element
was just read. -/
def nextElement (comma : Bool) (s : List Char) : Except Fault Continuation :=
  match skipBlanks s with
  | [] => .error (.here .endInList [])
  | c :: s =>
    if c = ']' then .ok (.finished (c :: s))
    else if comma = false then .ok (.more (c :: s))
    else if c = ',' then
      match skipBlanks s with
      | [] => .error (.here .endInValue [])
      | v :: s => if v = ']' then .error (.next .trailingComma (v :: s)) else .ok (.more (v :: s))
    else .error (.next .noListComma (c :: s))

/-- Read the elements of a list as the values of the given fields, up to its end or behind the
last field. -/
def elements (fields : Fields) (comma : Bool) : List Field → List Char → Scan Fields
  | [], s => .ok (fields, s)
  | field :: others, s =>
    match nextElement comma s with
    | .error fault => .error fault
    | .ok (.finished rest) => .ok (fields, rest)
    | .ok (.more rest) =>
      match fieldValue fields field rest with
      | .error fault => .error fault
      | .ok (fields, rest) => elements fields true others rest

/-- Read the end of a list. -/
def listEnd (s : List Char) : Except Fault (List Char) :=
  match skipBlanks s with
  | [] => .error (.here .endInList [])
  | c :: s =>
    if c = ']' then .ok s
    else if c = ',' then
      let rest := skipBlanks s
      .error (.next (if rest.head? = some ']' then .trailingComma else .trailingCharacters) rest)
    else .error (.next .trailingCharacters (c :: s))

/-- Read a list of values. -/
def list (s : List Char) : Scan Fields :=
  match elements {} false [.name, .host, .port] s with
  | .error fault => .error fault
  | .ok (fields, s) => (listEnd s).map (fields, ·)

/-- How settings are called in a complaint. -/
def settingsWords : String := "struct NodeConfig"

/-- Read the object or the list that a text consists of. -/
def body (s : List Char) : Scan Fields :=
  match skipBlanks s with
  | [] => .error (.here .endInValue [])
  | c :: s =>
    if c = '\x7b' then members {} false s
    else if c = '[' then list s
    else .error (mismatch settingsWords (c :: s))

/-- Read a whole text: what it mentions. -/
def document (s : List Char) : Except Fault Fields :=
  match body s with
  | .error fault => .error fault
  | .ok (fields, rest) =>
    match skipBlanks rest with
    | [] => .ok fields
    | rest => .error (.next .trailingCharacters rest)

/-- Read the text of a settings file: the settings, completed by what is built in, or the text
of what is wrong. -/
def read (builtIn : Settings) (text : String) : Except String Settings :=
  match document text.toList with
  | .ok fields => .ok (fields.fill builtIn)
  | .error fault => .error (fault.message text.toList)

end Overlay.Settings
