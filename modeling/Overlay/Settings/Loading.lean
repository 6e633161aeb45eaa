import Overlay.IoFault
import Overlay.Settings.Document

namespace Overlay.Settings

/-!
# Loading settings

Settings are loaded from a file, if one is named, and from the environment on top of it. A file
that is named has to be there and to be readable; without one, what is built in stands.

* `load` — file and environment;
* `resolve` — the same, and the command line on top of it.
-/

/-- Why settings cannot be loaded. -/
inductive LoadFault where
  /-- The file cannot be read as text. -/
  | unreadable (path : String) (fault : IoFault)
  /-- The file's text is not what it should be. -/
  | malformed (path : String) (complaint : String)
deriving DecidableEq, Inhabited, Repr

namespace LoadFault

/-- What could not be done. -/
def headline : LoadFault → String
  | unreadable path _ => s!"Failed to read config file: {path}"
  | malformed path _ => s!"Invalid config file: {path}"

/-- Why it could not be done. -/
def cause : LoadFault → String
  | unreadable _ fault => fault.message
  | malformed _ complaint => complaint

/-- Both in one line. -/
def message (fault : LoadFault) : String := fault.headline ++ ": " ++ fault.cause

end LoadFault

/-- How files are read: the bytes of a file, or why there are none. -/
abbrev Files := String → Except IoFault ByteArray

/-- Read the text of a file. -/
def readText (files : Files) (path : String) : Except IoFault String :=
  match files path with
  | .error fault => .error fault
  | .ok bytes =>
    match String.fromUTF8? bytes with
    | some text => .ok text
    | none => .error .notText

/-- Load a file. -/
def loadFile (builtIn : Settings) (files : Files) (path : String) :
    Except LoadFault Settings :=
  match readText files path with
  | .error fault => .error (.unreadable path fault)
  | .ok text =>
    match read builtIn text with
    | .ok settings => .ok settings
    | .error complaint => .error (.malformed path complaint)

/-- Load a file, if one is named, and the environment on top of it. -/
def load (builtIn : Settings) (files : Files) (path : Option String) (env : Environment) :
    Except LoadFault Settings :=
  match path with
  | none => .ok (builtIn.override env)
  | some path => (loadFile builtIn files path).map (·.override env)

/-- What a command line says about settings. -/
structure Flags where
  /-- The settings file. -/
  file : Option String := none
  /-- The node's own name. -/
  name : Option String := none
  /-- The host or IP address to listen at. -/
  host : Option String := none
  /-- The port to listen at. -/
  port : Option UInt16 := none
deriving DecidableEq, Inhabited, Repr

/-- Replace what a command line mentions. -/
def Flags.apply (flags : Flags) (s : Settings) : Settings :=
  ⟨flags.name.getD s.name, flags.host.getD s.host, flags.port.getD s.port⟩

/-- Load file and environment, with the command line on top. -/
def resolve (builtIn : Settings) (files : Files) (env : Environment) (flags : Flags) :
    Except LoadFault Settings :=
  (load builtIn files flags.file env).map flags.apply

end Overlay.Settings
