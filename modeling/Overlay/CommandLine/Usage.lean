import Overlay.CommandLine.Help
import Overlay.Text.Plain

namespace Overlay.CommandLine

/-!
# Reading a command line

A command line is read word by word. Before the command come only requests for help or for the
version. After it come flags; a flag's value stands behind an equals sign in the same word, or is
the next word, unless that begins with a dash.

A value in a word of its own is looked at when the next flag begins or the line is at its end, so
a word that makes no sense is reported before a bad value in front of it.

* `UsageError` — what can be wrong;
* `Request` — what a command line asks for;
* `parse` — reads a command line.
-/

/-- What is wrong with a command line. -/
inductive UsageError where
  /-- A word has no place where it stands. -/
  | unexpected (word : String)
  /-- A value was given to a flag that takes none. -/
  | valueRefused (value flag : String)
  /-- There is no such command. -/
  | noSuchCommand (word : String)
  /-- A flag has no value. -/
  | valueMissing (f : Flag)
  /-- A flag occurs twice. -/
  | repeated (f : Flag)
  /-- A port is no number. -/
  | portUnreadable (value : String) (fault : Text.NumberFault)
  /-- A port is a number out of range. -/
  | portOutOfRange (value : String) (number : Int)
deriving DecidableEq, Inhabited, Repr

/-- A word of the command line between quotes, as messages repeat it. -/
def quoted (word : String) : String := s!"'{Text.plain word}'"

/-- The text of a usage error. -/
def UsageError.message : UsageError → String
  | unexpected word => s!"unexpected argument {quoted word} found"
  | valueRefused value flag =>
    s!"unexpected value {quoted value} for '{flag}' found; no more were expected"
  | noSuchCommand word => s!"unrecognized subcommand {quoted word}"
  | valueMissing f => s!"a value is required for '{f.shown}' but none was supplied"
  | repeated f => s!"the argument '{f.shown}' cannot be used multiple times"
  | portUnreadable value fault =>
    s!"invalid value {quoted value} for '{Flag.port.shown}': {fault.message}"
  | portOutOfRange value number =>
    s!"invalid value {quoted value} for '{Flag.port.shown}': " ++
      s!"{number} is not in 0..={Text.portLimit}"

/-- What a command line asks for. -/
inductive Request where
  /-- Nothing, so that help is due. -/
  | nothing
  /-- Help. -/
  | help (topic : Topic)
  /-- The version. -/
  | version
  /-- A command. -/
  | command (c : Command) (a : Arguments)
deriving DecidableEq, Inhabited, Repr

/-! ### Words -/

/-- A word, by its first characters. -/
inductive Word where
  /-- Two dashes, behind which nothing is a flag. -/
  | divider
  /-- A flag with a long name, and the value behind an equals sign. -/
  | long (name : String) (value : Option String)
  /-- A flag with a name of one character. -/
  | short (name : Char)
  /-- Any other word. -/
  | plain (text : String)
deriving DecidableEq, Inhabited, Repr

/-- A word, by its first characters. -/
def Word.ofText (s : String) : Word :=
  match s.toList with
  | ['-', '-'] => divider
  | '-' :: '-' :: rest =>
    match rest.span (· ≠ '=') with
    | (name, _ :: value) => long (String.ofList name) (some (String.ofList value))
    | (name, []) => long (String.ofList name) none
  | '-' :: name :: _ => short name
  | _ => plain s

/-! ### Values -/

/-- Read a port: a signed number, in range. -/
def readPort (value : String) : Except UsageError UInt16 :=
  match Text.signed value with
  | .error fault => .error (.portUnreadable value fault)
  | .ok number =>
    if 0 ≤ number ∧ number ≤ Text.portLimit then .ok number.toNat.toUInt16
    else .error (.portOutOfRange value number)

/-- The path of a file, which cannot be empty. -/
def readPath (f : Flag) (value : String) : Except UsageError String :=
  if value = "" then .error (.valueMissing f) else .ok value

namespace Arguments

/-- Take in the value of a flag. -/
def take (a : Arguments) (f : Flag) (value : String) : Except UsageError Arguments :=
  if a.has f then .error (.repeated f)
  else
    match f with
    | .file => (readPath f value).map fun p => { a with settings.file := some p }
    | .name => .ok { a with settings.name := some value }
    | .host => .ok { a with settings.host := some value }
    | .port => (readPort value).map fun p => { a with settings.port := some p }
    | .logFile => (readPath f value).map fun p => { a with logFile := some p }

/-- Take in a flag whose value, if there is one, was a word of its own. -/
def settle (a : Arguments) : Option (Flag × Option String) → Except UsageError Arguments
  | none => .ok a
  | some (f, none) => .error (.valueMissing f)
  | some (f, some value) => a.take f value

end Arguments

/-! ### Lines -/

/-- Read the flags of a command. `a` has been taken in, and `last` has not yet: it is the flag
read last, if its value does not stand in the same word. -/
def readFlags (c : Command) (a : Arguments) (last : Option (Flag × Option String)) :
    List String → Except UsageError Request
  | [] => (a.settle last).map (.command c)
  | w :: rest =>
    match Word.ofText w with
    | .divider =>
      match rest with
      | [] => (a.settle last).map (.command c)
      | next :: _ => .error (.unexpected next)
    | .long name value =>
      match c.flag? name, value with
      | some f, none => do
        let a ← a.settle last
        readFlags c a (some (f, none)) rest
      | some f, some value => do
        let a ← a.settle last
        let a ← a.take f value
        readFlags c a none rest
      | none, value =>
        if name = helpWord then
          match value with
          | none => (a.settle last).map fun _ => .help (.command c)
          | some value => .error (.valueRefused value "--help")
        else
          .error (.unexpected ("--" ++ name))
    | .short name =>
      if name = 'h' then (a.settle last).map fun _ => .help (.command c)
      else .error (.unexpected ("-" ++ name.toString))
    | .plain text =>
      match last with
      | some (f, none) => readFlags c a (some (f, some text)) rest
      | _ => .error (.unexpected text)

/-- Read what help is wanted about. -/
def readTopic : List String → Except UsageError Request
  | [] => .ok (.help .program)
  | w :: rest =>
    match Topic.ofWord? w, rest with
    | some topic, [] => .ok (.help topic)
    | some _, next :: _ => .error (.noSuchCommand next)
    | none, _ => .error (.noSuchCommand w)

/-- Read a command line. -/
def parse : List String → Except UsageError Request
  | [] => .ok .nothing
  | w :: rest =>
    match Word.ofText w with
    | .divider =>
      match rest with
      | [] => .ok .nothing
      | next :: _ =>
        if (Topic.ofWord? next).isSome then .error (.unexpected next)
        else .error (.noSuchCommand next)
    | .long name value =>
      match name, value with
      | "help", none => .ok (.help .program)
      | "version", none => .ok .version
      | "help", some value => .error (.valueRefused value "--help")
      | "version", some value => .error (.valueRefused value "--version")
      | name, _ => .error (.unexpected ("--" ++ name))
    | .short name =>
      match name with
      | 'h' => .ok (.help .program)
      | 'V' => .ok .version
      | name => .error (.unexpected ("-" ++ name.toString))
    | .plain text =>
      if text = helpWord then readTopic rest
      else
        match Command.ofWord? text with
        | some c => readFlags c {} none rest
        | none => .error (.noSuchCommand text)

end Overlay.CommandLine
