import Overlay.Log
import Overlay.Pattern
import Overlay.Text.Cut

namespace Overlay.Log

/-!
# Log filters

An operator chooses what is logged by a list of rules such as `warn,tree_net::net::peer=debug`.
A rule sets the least serious level that is logged, for everything or for the parts of the node
whose path begins in a certain way. Of several rules for a part the one with the longest path
counts. Behind a slash stands a pattern of what an entry has to contain.

* `Filter.parse` — reads the rules, and complains about those that make no sense;
* `Filter.allows` — whether an entry is logged.
-/

/-- One rule of a filter. -/
structure Rule where
  /-- How the paths begin that the rule is for; without it the rule is for everything. -/
  path : Option String
  /-- The greatest rank of a level that is logged. -/
  limit : Nat
deriving DecidableEq, Inhabited, Repr

/-- Which entries are logged. -/
structure Filter where
  /-- The rules, in the order in which their paths came up. -/
  rules : List Rule
  /-- What an entry has to contain. -/
  needle : Option Pattern.Shape := none
deriving DecidableEq, Inhabited, Repr

namespace Rule

/-- The limit that lets everything through. -/
def everything : Nat := 5

/-- The words for limits; the place of a word is its limit. -/
def limitWords : List String := ["OFF", "ERROR", "WARN", "INFO", "DEBUG", "TRACE"]

/-- The limit that a word stands for, in capital or small letters. -/
def limit? (word : String) : Option Nat :=
  let capital := word.map Char.toUpper
  if limitWords.contains capital then some (limitWords.idxOf capital) else none

/-- Read a rule: a limit, a path, or both with an equals sign between them. The complaint is the
part that makes no sense. -/
def parse (part : String) : Except String Rule :=
  match (Text.cutAt '=' part.toList).map String.ofList with
  | [only] =>
    match limit? only with
    | some limit => .ok ⟨none, limit⟩
    | none => .ok ⟨some only, everything⟩
  | [path, word] =>
    let word := String.ofList (Text.trim word.toList)
    if word = "" then .ok ⟨some path, everything⟩
    else
      match limit? word with
      | some limit => .ok ⟨some path, limit⟩
      | none => .error word
  | _ => .error part

/-- Whether a rule is for a path. -/
def covers (r : Rule) (path : String) : Bool :=
  match r.path with
  | none => true
  | some start => start.toList.isPrefixOf path.toList

/-- How closely a rule describes the paths that it is for. -/
def weight (r : Rule) : Nat := (r.path.map String.utf8ByteSize).getD 0

end Rule

namespace Filter

/-- Add a rule. It takes the place of an earlier one for the same path. -/
def addRule (r : Rule) : List Rule → List Rule
  | [] => [r]
  | earlier :: rest => if earlier.path = r.path then r :: rest else earlier :: addRule r rest

/-- The parts of a list of rules, without blanks around them and without empty ones. -/
def parts (s : List Char) : List String :=
  ((Text.cutAt ',' s).map fun part => String.ofList (Text.trim part)).filter (· ≠ "")

/-- Read several rules, with complaints about those that make no sense. -/
def readRules (known : List Rule) : List String → List Rule × List String
  | [] => (known, [])
  | part :: rest =>
    match Rule.parse part with
    | .ok r => readRules (addRule r known) rest
    | .error complaint =>
      let (rules, complaints) := readRules known rest
      (rules, s!"invalid logging spec '{complaint}'" :: complaints)

/-- What is logged where no rule is left: errors. -/
def fallback : List Rule := [⟨none, Level.error.rank⟩]

/-- Fill in the fallback. -/
def orFallback (rules : List Rule) : List Rule := if rules.isEmpty then fallback else rules

/-- Read the pattern of a filter, if there is one, with complaints if it makes no sense. -/
def readNeedle : Option (List Char) → Option Pattern.Shape × List String
  | none => (none, [])
  | some pattern =>
    match Pattern.compile (String.ofList pattern) with
    | .ok shape => (some shape, [])
    | .error rejection => (none, [s!"invalid regex filter - {rejection.message}"])

/-- Read a filter, with complaints about what makes no sense in it. -/
def parse (s : String) : Filter × List String :=
  match Text.cutAt '/' s.toList with
  | rules :: needle =>
    if needle.length > 1 then
      (⟨fallback, none⟩, [s!"invalid logging spec '{s}' (too many '/'s)"])
    else
      let (rules, complaints) := readRules [] (parts rules)
      let (needle, further) := readNeedle needle.head?
      (⟨orFallback rules, needle⟩, complaints ++ further)
  | [] => (⟨fallback, none⟩, [])

/-- The rule that counts for a path: of those that cover it the heaviest, and of equal ones the
last. -/
def decisive? (rules : List Rule) (path : String) : Option Rule :=
  (rules.filter (·.covers path)).foldl (fun best r =>
    match best with
    | none => some r
    | some b => if b.weight ≤ r.weight then some r else some b) none

/-- Whether an entry is logged. -/
def allows (f : Filter) (e : Entry) : Bool :=
  match decisive? f.rules e.origin.path with
  | none => false
  | some r =>
    decide (e.level.rank ≤ r.limit) &&
      match f.needle with
      | none => true
      | some shape => shape.occursIn e.text

/-- The filter of an operator who chooses nothing. -/
def usual : String := "info"

/-! ### Laws -/

/-- A single rule without a path is a bound on the levels. -/
theorem allows_bound (limit : Nat) (e : Entry) :
    allows ⟨[⟨none, limit⟩], none⟩ e = decide (e.level.rank ≤ limit) := by
  simp [allows, decisive?, Rule.covers]

end Filter

end Overlay.Log
