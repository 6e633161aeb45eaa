import Overlay.Disk
import Overlay.Settings.Loading

namespace Overlay.Settings

/-!
# Saving settings

Settings are saved as a file in their written form, from which loading gets them back.

* `save` — the written form, in folders that are made for it where they are missing.
-/

/-- Why settings cannot be saved. -/
inductive SaveFault where
  /-- The folder for the file cannot be made. -/
  | noFolder (fault : IoFault)
  /-- The file cannot be written. -/
  | unwritable (path : String) (fault : IoFault)
deriving DecidableEq, Inhabited, Repr

/-- The text of a saving fault. -/
def SaveFault.message : SaveFault → String
  | noFolder fault => fault.message
  | unwritable path fault => s!"Failed to write config file: {path}: {fault.message}"

/-- Save settings. Folders that were made stay, even if the file cannot be written. -/
def save (s : Settings) (d : Disk) (path : String) : Except SaveFault Unit × Disk :=
  match d.createParent path with
  | (.error fault, d) => (.error (.noFolder fault), d)
  | (.ok (), d) =>
    match d.write path s.written.toUTF8 with
    | .error fault => (.error (.unwritable path fault), d)
    | .ok d => (.ok (), d)

end Overlay.Settings
