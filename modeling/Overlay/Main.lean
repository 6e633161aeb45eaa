import Overlay.Network
import Overlay.Program
import Overlay.Text.Moment
import Std.Async.Signal
import Std.Time.DateTime.Timestamp

namespace Overlay.Main

/-!
# The program on a real machine

Reads the command line, the environment and the settings file, and serves until it is
interrupted. What any of these come to is decided elsewhere.
-/

/-! ### Surroundings -/

/-- The variables that the program looks at. -/
def watched : List String := ["TREE_NODE_NAME", "TREE_IP", "TREE_PORT", "RUST_LOG"]

/-- The environment. -/
def environment : IO Environment := do
  let known ← watched.mapM fun name => return (name, ← IO.getEnv name)
  return fun name => (known.lookup name).bind id

/-- The name of the machine. -/
def machineName : IO (Option String) := do
  match ← Network.attempt (IO.FS.readFile "/proc/sys/kernel/hostname") with
  | .ok text => return some (String.ofList (Text.trim text.toList))
  | .error _ => return none

/-- The one file that a command line names. -/
def namedFile : Option String → IO Settings.Files
  | none => return fun _ => .error .noSuchFile
  | some path => do
    let content ← Network.attempt (IO.FS.readBinFile path)
    return fun _ => content

/-- The settings that a command line, the environment and a settings file come to. -/
def settings (env : Environment) (flags : Settings.Flags) :
    IO (Except Settings.LoadFault Settings) := do
  let files ← namedFile flags.file
  return Settings.resolve (.initial (← machineName)) files env flags

/-! ### The log -/

/-- Where the log goes: a file that is made now, or beside the result. -/
def openLog : Option String → IO (Except Ending IO.FS.Stream)
  | none => return .ok (← IO.getStderr)
  | some path => do
    match ← Network.attempt (IO.FS.Handle.mk path .write) with
    | .ok handle => return .ok (.ofHandle handle)
    | .error fault => return .error (Program.unlogged path fault)

/-- Write an entry to the log, unless the filter keeps it out. -/
def note (filter : Log.Filter) (log : IO.FS.Stream) (e : Log.Entry) : IO Unit := do
  if filter.allows e then
    let now := (← Std.Time.Timestamp.now).toSecondsSinceUnixEpoch.val.toNat
    log.putStr s!"[{Text.moment now} {e.record}"
    log.flush

/-! ### Runs -/

/-- Wait until the listener fails or the program is interrupted. -/
def serve (s : Settings) (note : Log.Entry → IO Unit) : IO Ending := do
  match ← Network.listen s.bindTarget with
  | .error failure =>
    note (.listenerFailed failure)
    return Program.deaf failure
  | .ok (listener, address) =>
    (Service.opening s address.text).forM note
    let stop ← IO.Promise.new
    let interrupted ← (← Std.Async.Signal.Waiter.mk .sigint false).wait
    discard (IO.mapTask (fun _ => stop.resolve ()) interrupted)
    let hub ← Std.Mutex.new { node := Service.node s : Network.Hub }
    let service : Network.Service := { hub, stop := stop.result?.map fun _ => (), note }
    match ← service.acceptEach s.name listener with
    | some failure =>
      stop.resolve ()
      return Program.stopped failure
    | none =>
      note .stopping
      return {}

/-- Listen, as a command line says. -/
def listen (env : Environment) (a : CommandLine.Arguments) : IO Ending := do
  let (filter, complaints) := Program.filter env
  IO.eprint complaints
  match ← openLog a.logFile with
  | .error e => return e
  | .ok log =>
    match ← settings env a.settings with
    | .error fault => return Program.unsettled fault
    | .ok s => serve s (note filter log)

/-- Do what a request asks for. -/
def obey : CommandLine.Request → IO Ending
  | .command .showConfig a => do
    match ← settings (← environment) a.settings with
    | .error fault => return Program.unsettled fault
    | .ok s => return Program.shown s
  | .command .listen a => do listen (← environment) a
  | r => return (Program.answer? r).getD {}

end Overlay.Main

/-- Run the program. -/
def main (words : List String) : IO UInt32 := do
  let ending ←
    match Overlay.CommandLine.parse words with
    | .error e => pure (Overlay.Ending.misused e)
    | .ok request => Overlay.Main.obey request
  IO.print ending.output
  IO.eprint ending.remarks
  return ending.code
