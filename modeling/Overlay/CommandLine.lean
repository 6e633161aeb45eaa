import Overlay.Settings.Loading

namespace Overlay

/-!
# The command line

What can be said on the command line: one of a few commands, and the flags of that command. Each
flag takes a value.

* `Command` and `Flag` — the words and what they are for;
* `Arguments` — what was said with flags.
-/

namespace CommandLine

/-- The name by which the program is called. -/
def programName : String := "tree-net"

/-- The version of the program. -/
def version : String := "0.3.1"

/-- What the program is for. -/
def programPurpose : String := "Parent-side connection manager for a tree overlay node"

/-- What the program can be told to do. -/
inductive Command where
  /-- Accept connections. -/
  | listen
  /-- Print the settings. -/
  | showConfig
deriving DecidableEq, Inhabited, Repr

/-- What a command is told. -/
inductive Flag where
  /-- The settings file. -/
  | file
  /-- The node's own name. -/
  | name
  /-- The host to listen at. -/
  | host
  /-- The port to listen at. -/
  | port
  /-- Where the log goes. -/
  | logFile
deriving DecidableEq, Inhabited, Repr

namespace Command

/-- All commands. -/
def all : List Command := [listen, showConfig]

/-- The word for a command. -/
def word : Command → String
  | listen => "listen"
  | showConfig => "show-config"

/-- What a command is for. -/
def purpose : Command → String
  | listen => "Accept parent and API connections until interrupted"
  | showConfig => "Print the effective configuration as JSON"

/-- The flags of a command. -/
def flags : Command → List Flag
  | listen => [.file, .name, .host, .port, .logFile]
  | showConfig => [.file, .name, .host, .port]

/-- The command that a word means. -/
def ofWord? (w : String) : Option Command := all.find? (·.word = w)

end Command

namespace Flag

/-- The word for a flag. -/
def word : Flag → String
  | file => "config"
  | name => "name"
  | host => "ip"
  | port => "port"
  | logFile => "log-file"

/-- What stands for a flag's value in help texts. -/
def placeholder : Flag → String
  | file => "CONFIG"
  | name => "NAME"
  | host => "IP"
  | port => "PORT"
  | logFile => "LOG_FILE"

/-- What a flag is for. -/
def purpose : Flag → String
  | file => "JSON configuration file"
  | name => "Node name sent during the handshake"
  | host => "Host or IP to bind"
  | port => "Port to bind (0 = default 8888)"
  | logFile => "Write logs to this file instead of stderr"

/-- A flag as help texts show it. -/
def shown (f : Flag) : String := s!"--{f.word} <{f.placeholder}>"

end Flag

/-- The flag of a command that a word means. -/
def Command.flag? (c : Command) (w : String) : Option Flag := c.flags.find? (·.word = w)

/-- What was said with flags. -/
structure Arguments where
  /-- What was said about settings. -/
  settings : Settings.Flags := {}
  /-- Where the log goes. -/
  logFile : Option String := none
deriving DecidableEq, Inhabited, Repr

/-- Whether something was said with a flag. -/
def Arguments.has (a : Arguments) : Flag → Bool
  | .file => a.settings.file.isSome
  | .name => a.settings.name.isSome
  | .host => a.settings.host.isSome
  | .port => a.settings.port.isSome
  | .logFile => a.logFile.isSome

/-! ### Laws -/

/-- Every command is meant by its own word. -/
theorem Command.ofWord?_word (c : Command) : Command.ofWord? c.word = some c := by
  cases c <;> decide

/-- Every flag of a command is meant by its own word. -/
theorem Command.flag?_word (c : Command) (f : Flag) (h : f ∈ c.flags) :
    c.flag? f.word = some f := by
  cases c <;> cases f <;> first | decide | simp [Command.flags] at h

end CommandLine

end Overlay
