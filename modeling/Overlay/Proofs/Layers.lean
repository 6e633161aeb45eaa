import Mathlib.Data.List.Induction
import Overlay.Program
import Overlay.Proofs.WrittenForm

namespace Overlay

/-!
# Settings in layers

Each layer of settings replaces what it mentions, and nothing else. So the value of a field is what
the last layer says that says anything about this field; a port that cannot be read says nothing.

* `Text.port_eq_ok_iff` — the texts that are read as a port;
* `LastDecides` — the last of several layers that mentions anything decides;
* `Settings.name_overrideAll` and its neighbours — one field after any number of environments;
* `Settings.resolve_eq_ok_iff` — file, environment and command line on top of each other;
* `Settings.layers_decide` — what each field comes to, after both.
-/

/-! ### The text of a port -/

namespace Text

/-- A text that is a port number: at least one digit, behind an optional plus sign. The number has
to fit, and zeros in front are of no matter. -/
def IsPort (s : String) (port : UInt16) : Prop :=
  ∃ sign digits, s.toList = sign ++ digits ∧ (sign = [] ∨ sign = ['+']) ∧ digits ≠ [] ∧
    (∀ c ∈ digits, c.isDigit = true) ∧ Nat.ofDigitChars 10 digits 0 = port.toNat

/-- Digits are read as long as they are digits and the number fits. -/
theorem digitsOnto_eq_ok_iff {limit read n : Nat} {beyond : NumberFault} {cs : List Char}
    (hread : read ≤ limit) :
    digitsOnto limit beyond read cs = .ok n ↔
      (∀ c ∈ cs, c.isDigit = true) ∧ Nat.ofDigitChars 10 cs read = n ∧ n ≤ limit := by
  induction cs generalizing read with
  | nil =>
    rw [digitsOnto, Nat.ofDigitChars_nil, Except.ok.injEq]
    constructor
    · rintro rfl
      exact ⟨by simp, rfl, hread⟩
    · exact fun h => h.2.1
  | cons c cs ih =>
    rw [digitsOnto, List.forall_mem_cons, Nat.ofDigitChars_cons, Nat.mul_comm 10 read]
    by_cases hc : c.isDigit = true
    case neg => simp [hc]
    change (if c.isDigit = true then
      if limit < read * 10 + digitValue c then .error beyond
      else digitsOnto limit beyond (read * 10 + digitValue c) cs else _) = _ ↔ _
    rw [if_pos hc]
    by_cases hlarge : limit < read * 10 + digitValue c
    · rw [if_pos hlarge]
      -- More digits make the number no smaller.
      have hgrows := Json.le_ofDigitChars (read * 10 + digitValue c) cs
      constructor
      · exact fun h => nomatch h
      · rintro ⟨-, rfl, hfits⟩
        exact absurd (Nat.lt_of_lt_of_le hlarge (Nat.le_trans hgrows hfits)) (Nat.lt_irrefl _)
    · rw [if_neg hlarge, ih (Nat.not_lt.1 hlarge)]
      simp [hc, digitValue]

theorem digits_eq_ok_iff {limit n : Nat} {beyond : NumberFault} {cs : List Char} :
    digits limit beyond cs = .ok n ↔
      cs ≠ [] ∧ (∀ c ∈ cs, c.isDigit = true) ∧ Nat.ofDigitChars 10 cs 0 = n ∧ n ≤ limit := by
  cases cs with
  | nil => simp [digits]
  | cons c cs => simp [digits, digitsOnto_eq_ok_iff]

/-- **A number without a minus sign** is an optional plus sign and digits. -/
theorem unsigned_eq_ok_iff {limit n : Nat} {s : String} :
    unsigned limit s = .ok n ↔
      ∃ sign digits, s.toList = sign ++ digits ∧ (sign = [] ∨ sign = ['+']) ∧ digits ≠ [] ∧
        (∀ c ∈ digits, c.isDigit = true) ∧ Nat.ofDigitChars 10 digits 0 = n ∧ n ≤ limit := by
  -- A plus sign is no digit, so it cannot be taken for one.
  have hplus : ∀ digits : List Char, (∀ c ∈ digits, c.isDigit = true) → ∀ rest,
      digits ≠ '+' :: rest := by
    rintro _ hdigits rest rfl
    exact absurd (hdigits '+' List.mem_cons_self) (by decide)
  unfold unsigned
  split
  case h_1 hs =>
    simp [hs]
  case h_2 rest hs =>
    rw [digits_eq_ok_iff, hs]
    constructor
    · intro h
      exact ⟨['+'], rest, rfl, .inr rfl, h⟩
    · rintro ⟨sign, digits, heq, rfl | rfl, hne, hdigits, hvalue⟩
      · exact absurd heq.symm (hplus digits hdigits rest)
      · obtain ⟨-, rfl⟩ := List.cons.inj heq
        exact ⟨hne, hdigits, hvalue⟩
  case h_3 hne hnotPlus =>
    rw [digits_eq_ok_iff]
    constructor
    · intro h
      exact ⟨[], s.toList, rfl, .inl rfl, h⟩
    · rintro ⟨sign, digits, heq, rfl | rfl, h⟩
      · rw [heq]
        exact h
      · exact absurd heq (hnotPlus digits)

/-- **The texts that are read as a port.** -/
theorem port_eq_ok_iff {s : String} {p : UInt16} : port s = .ok p ↔ IsPort s p := by
  have hlimit : p.toNat ≤ portLimit := Nat.le_of_lt_succ p.toNat_lt
  constructor
  · intro h
    obtain ⟨n, hn, rfl⟩ : ∃ n, unsigned portLimit s = .ok n ∧ n.toUInt16 = p := by
      unfold port at h
      cases hn : unsigned portLimit s with
      | error fault => rw [hn] at h; cases h
      | ok n => rw [hn] at h; exact ⟨n, rfl, Except.ok.inj h⟩
    obtain ⟨sign, digits, hs, hsign, hne, hdigits, hvalue, hfits⟩ := unsigned_eq_ok_iff.1 hn
    refine ⟨sign, digits, hs, hsign, hne, hdigits, hvalue.trans ?_⟩
    exact (Nat.mod_eq_of_lt (Nat.lt_succ_of_le hfits)).symm
  · rintro ⟨sign, digits, hs, hsign, hne, hdigits, hvalue⟩
    have hn := unsigned_eq_ok_iff.2 ⟨sign, digits, hs, hsign, hne, hdigits, hvalue, hlimit⟩
    rw [port, hn, Except.map, Nat.toUInt16_eq, UInt16.ofNat_toNat]

end Text

/-! ### The last layer decides -/

/-- Of several layers, of which each may mention a value, the last that mentions any mentions `x`;
if none does, `x` is what was there before all layers. -/
inductive LastDecides {α : Type} (before : α) : List (α → Prop) → α → Prop
  /-- No layer mentions anything. -/
  | silent {layers : List (α → Prop)} :
    (∀ layer ∈ layers, ∀ y, ¬ layer y) → LastDecides before layers before
  /-- A layer mentions something, and those behind it do not. -/
  | last {earlier : List (α → Prop)} {layer : α → Prop} {later : List (α → Prop)} {x : α} :
    layer x → (∀ layer ∈ later, ∀ y, ¬ layer y) → LastDecides before (earlier ++ layer :: later) x

/-- A further layer that mentions nothing is of no matter. -/
theorem LastDecides.append_silent {α : Type} {before x : α} {layers : List (α → Prop)}
    (h : LastDecides before layers x) {layer : α → Prop} (hnone : ∀ y, ¬ layer y) :
    LastDecides before (layers ++ [layer]) x := by
  have hsilent {later : List (α → Prop)} (hlater : ∀ layer ∈ later, ∀ y, ¬ layer y) :
      ∀ l ∈ later ++ [layer], ∀ y, ¬ l y :=
    List.forall_mem_append.2 ⟨hlater, by simpa using hnone⟩
  cases h with
  | silent hlayers => exact .silent (hsilent hlayers)
  | last hx hlater =>
    rw [List.append_assoc, List.cons_append]
    exact .last hx (hsilent hlater)

/-- Replace a value by each of several that are given. -/
def replaceAll {α : Type} (given : List (Option α)) (before : α) : α :=
  given.foldl (fun x g => g.getD x) before

section ReplaceAll

variable {α : Type} (given : List (Option α)) (before : α)

theorem replaceAll_append (g : Option α) :
    replaceAll (given ++ [g]) before = g.getD (replaceAll given before) := by
  simp [replaceAll]

/-- **The last value that is given decides.** -/
theorem lastDecides_replaceAll :
    LastDecides before (given.map fun g x => g = some x) (replaceAll given before) := by
  induction given using List.reverseRecOn with
  | nil => exact .silent fun _ h => absurd h List.not_mem_nil
  | append_singleton given g ih =>
    rw [replaceAll_append, List.map_append, List.map_singleton]
    cases g with
    | none => exact ih.append_silent fun _ h => nomatch h
    | some x => exact @LastDecides.last _ _ _ _ [] x rfl fun _ h => absurd h List.not_mem_nil

/-- A second time, nothing is replaced. -/
theorem replaceAll_again :
    replaceAll given (replaceAll given before) = replaceAll given before := by
  induction given using List.reverseRecOn with
  | nil => rfl
  | append_singleton given g ih =>
    rw [replaceAll_append, replaceAll_append]
    cases g with
    | none => exact ih
    | some x => rfl

end ReplaceAll

namespace Settings

/-! ### Environments one after another -/

/-- What an environment says about the port, if it can be read. -/
def givenPort (env : Environment) : Option UInt16 :=
  (env "TREE_PORT").bind fun p => (Text.port p).toOption

theorem givenPort_eq_some_iff {env : Environment} {p : UInt16} :
    givenPort env = some p ↔ ∃ text, env "TREE_PORT" = some text ∧ Text.IsPort text p := by
  simp only [givenPort, Option.bind_eq_some_iff, ← Text.port_eq_ok_iff]
  refine exists_congr fun text => and_congr_right fun _ => ?_
  cases Text.port text <;> simp [Except.toOption]

variable (s : Settings) (envs : List Environment)

theorem name_overrideAll : (s.overrideAll envs).name =
    replaceAll (envs.map fun env => env "TREE_NODE_NAME") s.name := by
  induction envs generalizing s with
  | nil => rfl
  | cons env envs ih => exact ih (s.override env)

theorem host_overrideAll : (s.overrideAll envs).host =
    replaceAll (envs.map fun env => env "TREE_IP") s.host := by
  induction envs generalizing s with
  | nil => rfl
  | cons env envs ih => exact ih (s.override env)

theorem port_overrideAll : (s.overrideAll envs).port =
    replaceAll (envs.map givenPort) s.port := by
  induction envs generalizing s with
  | nil => rfl
  | cons env envs ih => exact ih (s.override env)

/-- What each field comes to after several environments. -/
structure Overridden (s : Settings) (envs : List Environment) (t : Settings) : Prop where
  /-- The name is the one that was mentioned last. -/
  name : LastDecides s.name (envs.map fun env x => env "TREE_NODE_NAME" = some x) t.name
  /-- So is the host. -/
  host : LastDecides s.host (envs.map fun env x => env "TREE_IP" = some x) t.host
  /-- The port is the last that was mentioned by a text that is a port. -/
  port : LastDecides s.port
    (envs.map fun env p => ∃ text, env "TREE_PORT" = some text ∧ Text.IsPort text p) t.port

theorem overridden : Overridden s envs (s.overrideAll envs) := by
  constructor
  case name =>
    rw [name_overrideAll]
    have hlast := lastDecides_replaceAll (envs.map fun env => env "TREE_NODE_NAME") s.name
    rw [List.map_map] at hlast
    exact hlast
  case host =>
    rw [host_overrideAll]
    have hlast := lastDecides_replaceAll (envs.map fun env => env "TREE_IP") s.host
    rw [List.map_map] at hlast
    exact hlast
  case port =>
    rw [port_overrideAll]
    have hlast := lastDecides_replaceAll (envs.map givenPort) s.port
    simp only [List.map_map, Function.comp_def, givenPort_eq_some_iff] at hlast
    exact hlast

/-- **A second time, environments change nothing.** -/
theorem overrideAll_again : (s.overrideAll envs).overrideAll envs = s.overrideAll envs := by
  rw [Settings.mk.injEq]
  simp only [name_overrideAll, host_overrideAll, port_overrideAll, replaceAll_again, and_self]

/-! ### File, environment and command line -/

/-- What the settings file mentions: nothing if none is named. -/
inductive FileMentions (files : Files) : Option String → Fields → Prop
  /-- No file is named. -/
  | unnamed : FileMentions files none {}
  /-- The file is there, and its text can be read. -/
  | document {path : String} {bytes : ByteArray} {text : String} {fields : Fields} :
    files path = .ok bytes → String.fromUTF8? bytes = some text →
      document text.toList = .ok fields → FileMentions files (some path) fields

variable {builtIn t : Settings} {files : Files} {path : Option String} {env : Environment}

theorem FileMentions.unique {fields fields' : Fields} (h : FileMentions files path fields)
    (h' : FileMentions files path fields') : fields = fields' := by
  cases h with
  | unnamed => cases h'; rfl
  | document hbytes htext hread =>
    cases h' with
    | document hbytes' htext' hread' =>
      obtain rfl := Except.ok.inj (hbytes.symm.trans hbytes')
      obtain rfl := Option.some.inj (htext.symm.trans htext')
      exact Except.ok.inj (hread.symm.trans hread')

/-- **A file** is loaded if its text can be read. -/
theorem loadFile_eq_ok_iff {path : String} :
    loadFile builtIn files path = .ok t ↔
      ∃ fields, FileMentions files (some path) fields ∧ t = fields.fill builtIn := by
  constructor
  · intro h
    unfold loadFile readText at h
    cases hbytes : files path with
    | error fault => rw [hbytes] at h; cases h
    | ok bytes =>
      cases htext : String.fromUTF8? bytes with
      | none => simp only [hbytes, htext] at h; cases h
      | some text =>
        cases hread : document text.toList with
        | error fault => simp only [hbytes, htext, read, hread] at h; cases h
        | ok fields =>
          simp only [hbytes, htext, read, hread, Except.ok.injEq] at h
          exact ⟨fields, .document hbytes htext hread, h.symm⟩
  · rintro ⟨fields, ⟨⟩ | ⟨hbytes, htext, hread⟩, rfl⟩
    simp only [loadFile, readText, hbytes, htext, read, hread]

/-- **What loading comes to.** -/
theorem load_eq_ok_iff :
    load builtIn files path env = .ok t ↔
      ∃ fields, FileMentions files path fields ∧ t = (fields.fill builtIn).override env := by
  cases path with
  | none =>
    rw [load, Except.ok.injEq]
    constructor
    · rintro rfl
      exact ⟨{}, .unnamed, rfl⟩
    · rintro ⟨_, ⟨⟩, rfl⟩
      rfl
  | some path =>
    constructor
    · intro h
      cases hfile : loadFile builtIn files path with
      | error fault => rw [load, hfile] at h; cases h
      | ok loaded =>
        rw [load, hfile] at h
        obtain ⟨fields, hfields, rfl⟩ := loadFile_eq_ok_iff.1 hfile
        exact ⟨fields, hfields, (Except.ok.inj h).symm⟩
    · rintro ⟨fields, hfields, rfl⟩
      rw [load, loadFile_eq_ok_iff.2 ⟨fields, hfields, rfl⟩]
      rfl

/-- **What settings come to**, with the command line on top. -/
theorem resolve_eq_ok_iff {flags : Flags} :
    resolve builtIn files env flags = .ok t ↔
      ∃ fields, FileMentions files flags.file fields ∧
        t = flags.apply ((fields.fill builtIn).override env) := by
  constructor
  · intro h
    cases hload : load builtIn files flags.file env with
    | error fault => rw [resolve, hload] at h; cases h
    | ok loaded =>
      rw [resolve, hload] at h
      obtain ⟨fields, hfields, rfl⟩ := load_eq_ok_iff.1 hload
      exact ⟨fields, hfields, (Except.ok.inj h).symm⟩
  · rintro ⟨fields, hfields, rfl⟩
    rw [resolve, load_eq_ok_iff.2 ⟨fields, hfields, rfl⟩]
    rfl

/-- What each field comes to: what is built in, then a file that mentions `fields`, then the
environment, then the command line. -/
structure Layered (builtIn : Settings) (fields : Fields) (env : Environment) (flags : Flags)
    (t : Settings) : Prop where
  /-- The name. -/
  name : LastDecides builtIn.name
    [(fields.name = some ·), (env "TREE_NODE_NAME" = some ·), (flags.name = some ·)] t.name
  /-- The host. -/
  host : LastDecides builtIn.host
    [(fields.host = some ·), (env "TREE_IP" = some ·), (flags.host = some ·)] t.host
  /-- The port, for which only a text that is a port is mentioned by the environment. -/
  port : LastDecides builtIn.port
    [(fields.port = some ·), fun p => ∃ text, env "TREE_PORT" = some text ∧ Text.IsPort text p,
      (flags.port = some ·)] t.port

theorem layered (builtIn : Settings) (fields : Fields) (env : Environment) (flags : Flags) :
    Layered builtIn fields env flags (flags.apply ((fields.fill builtIn).override env)) := by
  constructor
  case name =>
    exact lastDecides_replaceAll [fields.name, env "TREE_NODE_NAME", flags.name] builtIn.name
  case host => exact lastDecides_replaceAll [fields.host, env "TREE_IP", flags.host] builtIn.host
  case port =>
    have hlast := lastDecides_replaceAll [fields.port, givenPort env, flags.port] builtIn.port
    simp only [List.map_cons, List.map_nil, givenPort_eq_some_iff] at hlast
    exact hlast

/-! ### The layers decide -/

/-- What settings come to in layers. -/
structure LayersDecide (s : Settings) (envs : List Environment) (around : Program.Surroundings)
    (disk : Disk) (flags : Flags) : Prop where
  /-- Of environments one after another, the last decides that mentions a field. -/
  overridden : Overridden s envs (s.overrideAll envs)
  /-- The name depends on what was said about names alone. -/
  nameAlone : ∀ (t : Settings) (fs : List Environment), t.name = s.name →
    fs.map (fun env => env "TREE_NODE_NAME") = envs.map (fun env => env "TREE_NODE_NAME") →
      (t.overrideAll fs).name = (s.overrideAll envs).name
  /-- So does the host. -/
  hostAlone : ∀ (t : Settings) (fs : List Environment), t.host = s.host →
    fs.map (fun env => env "TREE_IP") = envs.map (fun env => env "TREE_IP") →
      (t.overrideAll fs).host = (s.overrideAll envs).host
  /-- So does the port. -/
  portAlone : ∀ (t : Settings) (fs : List Environment), t.port = s.port →
    fs.map (fun env => env "TREE_PORT") = envs.map (fun env => env "TREE_PORT") →
      (t.overrideAll fs).port = (s.overrideAll envs).port
  /-- The same environments change nothing when they come again. -/
  again : (s.overrideAll envs).overrideAll envs = s.overrideAll envs
  /-- The program has settings if no file is named, or if the file can be read. -/
  settles : (∃ t, Program.settings around disk flags = .ok t) ↔
    ∃ fields, FileMentions disk.read flags.file fields
  /-- Each field is what the command line mentions, or else the environment, or else the file, or
  else what is built in. -/
  layered : ∀ (t : Settings) (fields : Fields), Program.settings around disk flags = .ok t →
    FileMentions disk.read flags.file fields →
      Layered (.initial around.machine) fields around.env flags t

/-- **The layers decide**, the last first. -/
theorem layers_decide (s : Settings) (envs : List Environment) (around : Program.Surroundings)
    (disk : Disk) (flags : Flags) : LayersDecide s envs around disk flags := by
  constructor
  case overridden => exact overridden s envs
  case nameAlone =>
    intro t fs hname henvs
    rw [name_overrideAll, name_overrideAll, hname, henvs]
  case hostAlone =>
    intro t fs hhost henvs
    rw [host_overrideAll, host_overrideAll, hhost, henvs]
  case portAlone =>
    intro t fs hport henvs
    have hgiven : ∀ es : List Environment, es.map givenPort =
        (es.map fun env => env "TREE_PORT").map fun text =>
          text.bind fun p => (Text.port p).toOption := fun es => by
      rw [List.map_map]
      rfl
    rw [port_overrideAll, port_overrideAll, hport, hgiven, hgiven, henvs]
  case again => exact overrideAll_again s envs
  case settles =>
    constructor
    · rintro ⟨t, ht⟩
      obtain ⟨fields, hfields, -⟩ := resolve_eq_ok_iff.1 ht
      exact ⟨fields, hfields⟩
    · rintro ⟨fields, hfields⟩
      exact ⟨_, resolve_eq_ok_iff.2 ⟨fields, hfields, rfl⟩⟩
  case layered =>
    intro t fields ht hfields
    obtain ⟨fields', hfields', rfl⟩ := resolve_eq_ok_iff.1 ht
    obtain rfl := hfields.unique hfields'
    exact layered _ fields around.env flags

end Settings

end Overlay
