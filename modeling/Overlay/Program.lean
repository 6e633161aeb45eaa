import Overlay.CommandLine.Usage
import Overlay.Disk
import Overlay.Host
import Overlay.Log.Filter

namespace Overlay

/-!
# The program

From a command line to what the program does. It ends at once with an `Ending`, or it listens.

* `Program.start` — the beginning of every run, up to the point where the node listens.
-/

/-- How a run of the program ends. -/
structure Ending where
  /-- What the caller is told: zero if all went well. -/
  code : UInt32 := 0
  /-- What is printed as the result. -/
  output : String := ""
  /-- What is printed beside the result. -/
  remarks : String := ""
deriving DecidableEq, Inhabited, Repr

namespace Ending

/-- The result was printed. -/
def printed (text : String) : Ending := { output := text }

/-- A command line that makes no sense. -/
def misused (e : CommandLine.UsageError) : Ending :=
  { code := 2, remarks := s!"error: {e.message}\n\nFor more information, try '--help'.\n" }

/-- Causes, innermost last; several are numbered. -/
def causeLines : List String → String
  | [] => ""
  | [only] => s!"\n\nCaused by:\n    {only}"
  | causes =>
    "\n\nCaused by:" ++ String.join (causes.mapIdx fun i cause => s!"\n    {i}: {cause}")

/-- Something went wrong, with what lies behind it. -/
def failed (headline : String) (causes : List String) : Ending :=
  { code := 1, remarks := s!"Error: {headline}{causeLines causes}\n" }

/-- Put remarks in front of what is printed beside the result. -/
def after (remarks : String) (e : Ending) : Ending :=
  { e with remarks := remarks ++ e.remarks }

end Ending

namespace Program

open CommandLine

/-! ### Endings -/

/-- How the program ends for requests that need nothing but the command line. -/
def answer? : Request → Option Ending
  | .nothing => some { code := 2, remarks := Topic.program.text }
  | .help topic => some (.printed topic.text)
  | .version => some (.printed s!"{programName} {CommandLine.version}\n")
  | .command .. => none

/-- The program ends because settings cannot be loaded. -/
def unsettled (fault : Settings.LoadFault) : Ending := .failed fault.headline [fault.cause]

/-- The program ends because the log file cannot be made. -/
def unlogged (path : String) (fault : IoFault) : Ending :=
  .failed s!"Failed to create log file at {path}" [fault.message]

/-- The program ends because it cannot listen. -/
def deaf (failure : Failure) : Ending := .failed failure.message failure.causes

/-- The program ends because the listener stopped. -/
def stopped (failure : Failure) : Ending :=
  .failed "Listener stopped" (failure.message :: failure.causes)

/-- The settings are printed. -/
def shown (s : Settings) : Ending := .printed (s.written ++ "\n")

/-- The log filter that an environment asks for, and what is said about it. -/
def filter (env : Environment) : Log.Filter × String :=
  let (f, complaints) := Log.Filter.parse ((env "RUST_LOG").getD Log.Filter.usual)
  (f, String.join (complaints.map fun c => s!"warning: {c}, ignoring it\n"))

/-! ### Runs -/

/-- What the program finds around it. -/
structure Surroundings where
  /-- The name of the machine, if it has one. -/
  machine : Option String
  /-- The environment. -/
  env : Environment
  /-- The network. -/
  host : Host
  /-- The files. -/
  disk : Disk

/-- What the program has come to. -/
inductive Progress where
  /-- It has ended. -/
  | ended (e : Ending)
  /-- It listens at an address. -/
  | listening (s : Settings) (address : Address)

/-- The settings that a command line, the environment and a settings file come to. -/
def settings (around : Surroundings) (disk : Disk) (flags : Settings.Flags) :
    Except Settings.LoadFault Settings :=
  Settings.resolve (.initial around.machine) disk.read around.env flags

/-- Make the log file, if there is to be one. -/
def makeLogFile (disk : Disk) : Option String → Except Ending Disk
  | none => .ok disk
  | some path =>
    match disk.write path .empty with
    | .ok disk => .ok disk
    | .error fault => .error (unlogged path fault)

/-- Begin to listen. -/
def listen (around : Surroundings) (a : Arguments) : Progress :=
  match makeLogFile around.disk a.logFile with
  | .error e => .ended e
  | .ok disk =>
    match settings around disk a.settings with
    | .error fault => .ended (unsettled fault)
    | .ok s =>
      match (around.host.listen s.name s.bindTarget).1 with
      | .error failure => .ended (deaf failure)
      | .ok address => .listening s address

/-- Do what a request asks for. -/
def obey (around : Surroundings) (r : Request) : Progress :=
  match r with
  | .command .showConfig a =>
    match settings around around.disk a.settings with
    | .error fault => .ended (unsettled fault)
    | .ok s => .ended (shown s)
  | .command .listen a =>
    match listen around a with
    | .ended e => .ended (e.after (filter around.env).2)
    | progress => progress
  | r => .ended ((answer? r).getD {})

/-- Begin a run of the program. -/
def start (around : Surroundings) (words : List String) : Progress :=
  match parse words with
  | .error e => .ended (.misused e)
  | .ok r => obey around r

end Program

end Overlay
