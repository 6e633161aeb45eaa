import Overlay.Proofs.Storage
import Overlay.Proofs.WrittenForm
import Overlay.Settings.Loading
import Overlay.Settings.Saving

namespace Overlay

/-!
# Saved settings load back

Saving makes the folders on the way and puts the written form into the file. The same path then
reads as that text, and the text reads as the settings, so loading finds what was saved, below the
environment if there is one.

* `Disk.IsWritable` — a file can be written at a path; `Settings.isWritable_iff_saved` — whether
  settings can be saved does not depend on the settings;
* `Settings.LoadsBack` — what a path holds with the settings saved there;
* `Settings.saved_settings_load_back` — every saving leaves that.
-/

/-- Something can be written at a path, once the folders on the way are made. -/
def Disk.IsWritable (d : Disk) (path : String) : Prop :=
  ∃ made content filled, d.createParent path = (.ok (), made) ∧
    made.write path content = .ok filled

namespace Settings

variable {s : Settings} {d d' : Disk} {path : String}

/-! ### Saving -/

/-- **What a saving comes to**, if it succeeds. -/
theorem save_eq_ok_iff :
    s.save d path = (.ok (), d') ↔
      ∃ made, d.createParent path = (.ok (), made) ∧
        made.write path s.written.toUTF8 = .ok d' := by
  constructor
  · intro h
    unfold save at h
    split at h
    case h_1 => cases h
    case h_2 made hmade =>
      split at h
      case h_1 => cases h
      case h_2 filled hwritten =>
        cases h
        exact ⟨made, hmade, hwritten⟩
  · rintro ⟨made, hmade, hwritten⟩
    simp only [save, hmade, hwritten]

/-- **Settings can be saved where something can be written**, whatever they are. -/
theorem isWritable_iff_saved (s : Settings) :
    d.IsWritable path ↔ ∃ d', s.save d path = (.ok (), d') := by
  constructor
  · rintro ⟨made, content, filled, hmade, hwrite⟩
    obtain ⟨d', hwritten⟩ := Disk.write_other hwrite s.written.toUTF8
    exact ⟨d', save_eq_ok_iff.2 ⟨made, hmade, hwritten⟩⟩
  · rintro ⟨d', hsaved⟩
    obtain ⟨made, hmade, hwritten⟩ := save_eq_ok_iff.1 hsaved
    exact ⟨made, _, d', hmade, hwritten⟩

/-- The file has the written form. -/
theorem read_save (h : s.save d path = (.ok (), d')) : d'.read path = .ok s.written.toUTF8 := by
  obtain ⟨made, -, hwritten⟩ := save_eq_ok_iff.1 h
  exact Disk.read_write hwritten

/-- Where settings were saved, settings can be saved again. -/
theorem isWritable_save (h : s.save d path = (.ok (), d')) : d'.IsWritable path := by
  obtain ⟨made, hmade, hwritten⟩ := save_eq_ok_iff.1 h
  obtain ⟨filled, hagain⟩ := Disk.write_write hwritten .empty
  exact ⟨d', .empty, filled, Disk.createParent_write hmade hwritten, hagain⟩

/-! ### Loading -/

/-- Without an environment, nothing is replaced. -/
theorem override_none (s : Settings) : s.override (fun _ => none) = s := rfl

/-- **A file with the written form is loaded**, below any environment. -/
theorem load_written {files : Files} (h : files path = .ok s.written.toUTF8) (builtIn : Settings)
    (env : Environment) : load builtIn files (some path) env = .ok (s.override env) := by
  have htext : String.fromUTF8? s.written.toUTF8 = some s.written := dif_pos s.written.isValidUTF8
  have hfile : readText files path = .ok s.written := by simp only [readText, h, htext]
  simp only [load, loadFile, hfile, read_written, Except.map]

/-- What a path holds with settings saved there. -/
structure LoadsBack (s : Settings) (d : Disk) (path : String) : Prop where
  /-- The file has their written form. -/
  stored : d.read path = .ok s.written.toUTF8
  /-- Without an environment they are loaded as they are, whatever is built in. -/
  alone : ∀ builtIn, load builtIn d.read (some path) (fun _ => none) = .ok s
  /-- With an environment they are loaded as it overrides them. -/
  overridden : ∀ builtIn env, load builtIn d.read (some path) env = .ok (s.override env)
  /-- The path can be written again. -/
  writable : d.IsWritable path
  /-- Saving what is loaded, at this path or another, gives the same text again. -/
  again : ∀ builtIn t, load builtIn d.read (some path) (fun _ => none) = .ok t →
    ∀ e other, Disk.IsWritable e other →
      ∃ e', t.save e other = (.ok (), e') ∧ e'.read other = d.read path

/-- **Saved settings load back.** At a path that can be written, every name, host and port can be
saved, and is found again. -/
theorem saved_settings_load_back (s : Settings) (writable : d.IsWritable path) :
    ∃ d', s.save d path = (.ok (), d') ∧ s.LoadsBack d' path := by
  obtain ⟨d', hsaved⟩ := (isWritable_iff_saved s).1 writable
  have hstored := read_save hsaved
  have halone : ∀ builtIn, load builtIn d'.read (some path) (fun _ => none) = .ok s :=
    fun builtIn => by rw [load_written hstored, override_none]
  refine ⟨d', hsaved, hstored, halone, load_written hstored, isWritable_save hsaved, ?_⟩
  intro builtIn t hloaded e other hother
  obtain rfl : s = t := Except.ok.inj ((halone builtIn).symm.trans hloaded)
  obtain ⟨e', hagain⟩ := (isWritable_iff_saved s).1 hother
  exact ⟨e', hagain, (read_save hagain).trans hstored.symm⟩

/-- A name with a quote, a backslash, a line break, a control character and a letter of more than
one byte, with no host, in a folder that has to be made. -/
theorem awkward_settings_load_back :
    Disk.IsWritable {} "conf/node.json" ∧
      ∃ d', save ⟨"\"\\\n\x01é", "", 65535⟩ {} "conf/node.json" = (.ok (), d') ∧
        LoadsBack ⟨"\"\\\n\x01é", "", 65535⟩ d' "conf/node.json" := by
  have writable : Disk.IsWritable {} "conf/node.json" := ⟨_, .empty, _, rfl, rfl⟩
  exact ⟨writable, saved_settings_load_back _ writable⟩

end Settings

end Overlay
