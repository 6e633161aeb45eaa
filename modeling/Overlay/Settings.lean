import Overlay.Json.Written
import Overlay.Text.Decimal

namespace Overlay

/-!
# Settings of a node

A node has a name and an address to listen at. Settings come in layers: what is built in, then a
file, then the environment, then the command line, each replacing only what it mentions.

* `Settings.initial` — what is built in;
* `Settings.override` — one layer of the environment (`Environment`);
* `Settings.bindTarget` — the `host:port` text to listen at;
* `Settings.written` — the settings as a file.
-/

/-- The name and the address of a node. -/
structure Settings where
  /-- The node's own name. -/
  name : String
  /-- The host or IP address to listen at. -/
  host : String
  /-- The port to listen at; `0` stands for the usual port. -/
  port : UInt16
deriving DecidableEq, Inhabited, Repr

/-- Named texts from outside; a name may be missing. -/
abbrev Environment := String → Option String

namespace Settings

/-! ### What is built in -/

/-- The usual port. -/
def usualPort : UInt16 := 8888

/-- The host of a node that is told nothing else: every address of the machine. -/
def usualHost : String := "0.0.0.0"

/-- The name of a node that is told nothing else, on a machine without a name. -/
def fallbackName : String := "tree-node"

/-- The settings of a node that is told nothing, given the name of its machine. -/
def initial (machine : Option String) : Settings :=
  ⟨(machine.filter (· ≠ "")).getD fallbackName, usualHost, 0⟩

/-! ### The environment -/

/-- Replace what an environment mentions. A port that is no number from 0 to 65535 is not
mentioned. -/
def override (s : Settings) (env : Environment) : Settings where
  name := (env "TREE_NODE_NAME").getD s.name
  host := (env "TREE_IP").getD s.host
  port := ((env "TREE_PORT").bind fun p => (Text.port p).toOption).getD s.port

/-- Replace what several environments mention, one after another. -/
def overrideAll (s : Settings) (envs : List Environment) : Settings := envs.foldl override s

/-! ### The address to listen at -/

/-- The port to listen at, never `0`. -/
def effectivePort (s : Settings) : UInt16 := if s.port = 0 then usualPort else s.port

/-- Whether a host needs brackets in front of a port: it contains a colon and has none yet. -/
def needsBrackets (host : String) : Bool :=
  host.toList.contains ':' && host.toList.head? != some '['

/-- A host as it is written in front of a port. -/
def hostPart (host : String) : String :=
  if needsBrackets host then "[" ++ host ++ "]" else host

/-- The address to listen at, as `host:port`. -/
def bindTarget (s : Settings) : String :=
  hostPart s.host ++ ":" ++ toString s.effectivePort.toNat

/-! ### The written form -/

/-- One member of the written form. -/
def writtenMember (key value : String) : String :=
  "  " ++ Json.writeString key ++ ": " ++ value

/-- The settings as a file: an object with one member on each line. -/
def written (s : Settings) : String :=
  "\x7b\n" ++
    writtenMember "name" (Json.writeString s.name) ++ ",\n" ++
    writtenMember "tree_ip" (Json.writeString s.host) ++ ",\n" ++
    writtenMember "tree_port" (toString s.port.toNat) ++ "\n\x7d"

/-! ### Laws -/

/-- A port to listen at is never zero. -/
theorem effectivePort_ne_zero (s : Settings) : s.effectivePort ≠ 0 := by
  unfold effectivePort
  split
  · decide
  · assumption

@[simp] theorem name_override (s : Settings) (env : Environment) :
    (s.override env).name = (env "TREE_NODE_NAME").getD s.name := rfl

@[simp] theorem host_override (s : Settings) (env : Environment) :
    (s.override env).host = (env "TREE_IP").getD s.host := rfl

@[simp] theorem port_override (s : Settings) (env : Environment) :
    (s.override env).port =
      ((env "TREE_PORT").bind fun p => (Text.port p).toOption).getD s.port := rfl

end Settings

end Overlay
