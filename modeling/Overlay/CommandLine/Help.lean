import Overlay.CommandLine

namespace Overlay.CommandLine

/-!
# Help texts

A help text says what something is for, how it is used, and which words go with it, in two
columns.

* `Topic` — what help is about;
* `Topic.text` — the text.
-/

/-- What help is about. -/
inductive Topic where
  /-- The whole program. -/
  | program
  /-- One command. -/
  | command (c : Command)
  /-- Help itself. -/
  | help
deriving DecidableEq, Inhabited, Repr

/-- The word that asks for help. -/
def helpWord : String := "help"

/-- What asking for help is for. -/
def helpPurpose : String := "Print this message or the help of the given subcommand(s)"

/-- A line of two columns, the left one with a given width. -/
def row (width : Nat) (entry : String × String) : String :=
  "  " ++ entry.1 ++ "".pushn ' ' (width - entry.1.length) ++ "  " ++ entry.2 ++ "\n"

/-- A headline and lines of two columns. -/
def table (headline : String) (entries : List (String × String)) : String :=
  let width := entries.foldl (fun width entry => max width entry.1.length) 0
  headline ++ ":\n" ++ String.join (entries.map (row width))

/-- The first two parts of a help text. -/
def opening (purpose usage : String) : String :=
  s!"{purpose}\n\nUsage: {programName} {usage}\n\n"

/-- The line about the flag that asks for help. -/
def helpEntry : String × String := ("-h, --help", "Print help")

namespace Topic

/-- The help text about a topic. -/
def text : Topic → String
  | program =>
    opening programPurpose "<COMMAND>" ++
      table "Commands"
        (Command.all.map (fun c => (c.word, c.purpose)) ++ [(helpWord, helpPurpose)]) ++
      "\n" ++ table "Options" [helpEntry, ("-V, --version", "Print version")]
  | command c =>
    opening c.purpose s!"{c.word} [OPTIONS]" ++
      table "Options" (c.flags.map (fun f => ("    " ++ f.shown, f.purpose)) ++ [helpEntry])
  | help =>
    opening helpPurpose s!"{helpWord} [COMMAND]..." ++
      table "Arguments" [("[COMMAND]...", "Print help for the subcommand(s)")]

/-- The topic that a word means. -/
def ofWord? (w : String) : Option Topic :=
  if w = helpWord then some .help else (Command.ofWord? w).map .command

end Topic

end Overlay.CommandLine
