import Overlay.Bytes
import Overlay.IoFault
import Overlay.Text.Cut

namespace Overlay

/-!
# A disk

A small tree of folders and files, enough to say what reading, writing and creating folders come
to. Paths are taken from the root of the tree. A path that ends in a slash can only mean a folder.
Paths and the names in them can be only so long, counted in bytes.

* `Path.ofText` — a path as it is written;
* `Disk.read`, `Disk.write`, `Disk.createParent` — the accesses.
-/

/-- What stands at a place. -/
inductive Entry where
  /-- A file with its content. -/
  | file (content : ByteArray)
  /-- A folder. -/
  | folder
deriving DecidableEq, Inhabited

/-- A path as it is written: the texts between its slashes. -/
structure Path where
  /-- The texts between the slashes; some can be empty. -/
  parts : List String
deriving DecidableEq, Inhabited, Repr

namespace Path

/-- The path that a text is. -/
def ofText (s : String) : Path := ⟨(Text.cutAt '/' s.toList).map String.ofList⟩

/-- The text of a path. -/
def text (p : Path) : String := String.intercalate "/" p.parts

/-- The steps from the root; `.` stays and `..` leads back. -/
def steps (p : Path) : List String := p.parts.filter (· ≠ "")

/-- Whether only a folder can be meant. -/
def meansFolder (p : Path) : Bool := p.parts.getLast? == some ""

/-- The longest path. -/
def sizeLimit : Nat := 4095

/-- The longest name of a file or a folder. -/
def nameLimit : Nat := 255

/-- Parts without those at the end that lead nowhere. -/
def trimParts (parts : List String) : List String :=
  (parts.reverse.dropWhile fun part => part == "" || part == ".").reverse

/-- The path of the folder that a path lies in. -/
def parent (p : Path) : Path := ⟨trimParts (trimParts p.parts).dropLast⟩

/-- Why a path cannot even be looked up, if it cannot. -/
def flaw? (p : Path) : Option IoFault :=
  if p.text.toList.contains '\x00' then some .zeroInName
  else if p.text.utf8ByteSize > sizeLimit then some .nameTooLong
  else none

/-- Whether some steps end at a folder that has to be walked into: with `.` or `..`, or at the
root. -/
def endInside (steps : List String) : Bool :=
  match steps.getLast? with
  | none => true
  | some last => last == "." || last == ".."

end Path

/-- A tree of folders and files. The root is always there. -/
structure Disk where
  /-- Everything but the root, by the steps that lead to it. -/
  entries : List (List String × Entry) := []
deriving Inhabited

namespace Disk

/-- What stands at the end of some steps. -/
def get? (d : Disk) (steps : List String) : Option Entry :=
  if steps.isEmpty then some .folder else (d.entries.find? (·.1 = steps)).map (·.2)

/-- Put something at the end of some steps. -/
def put (d : Disk) (steps : List String) (e : Entry) : Disk :=
  ⟨(steps, e) :: d.entries.filter (·.1 ≠ steps)⟩

/-- What stands in a folder under a name. -/
def lookUp (d : Disk) (here : List String) (name : String) : Except IoFault (Option Entry) :=
  if name.utf8ByteSize > Path.nameLimit then .error .nameTooLong else .ok (d.get? (here ++ [name]))

/-- Walk through folders. The answer is the place where the walk ends. -/
def walk (d : Disk) (here : List String) : List String → Except IoFault (List String)
  | [] => .ok here
  | "." :: rest => walk d here rest
  | ".." :: rest => walk d here.dropLast rest
  | step :: rest =>
    match d.lookUp here step with
    | .error fault => .error fault
    | .ok none => .error .noSuchFile
    | .ok (some (.file _)) => .error .notADirectory
    | .ok (some .folder) => walk d (here ++ [step]) rest

/-- The place that some steps lead to, and what stands there. All folders on the way have to be
there. -/
def locate (d : Disk) (steps : List String) : Except IoFault (List String × Option Entry) :=
  if Path.endInside steps then (d.walk [] steps).map fun place => (place, some .folder)
  else
    match d.walk [] steps.dropLast with
    | .error fault => .error fault
    | .ok here =>
      let name := steps.getLast?.getD ""
      (d.lookUp here name).map fun found => (here ++ [name], found)

/-- The content of a file. -/
def read (d : Disk) (path : String) : Except IoFault ByteArray :=
  let p := Path.ofText path
  match p.flaw? with
  | some fault => .error fault
  | none =>
    match d.locate p.steps with
    | .error fault => .error fault
    | .ok (_, none) => .error .noSuchFile
    | .ok (_, some .folder) => .error .isADirectory
    | .ok (_, some (.file content)) =>
      if p.meansFolder then .error .notADirectory else .ok content

/-- Create a file, or replace its content. -/
def write (d : Disk) (path : String) (content : ByteArray) : Except IoFault Disk :=
  let p := Path.ofText path
  match p.flaw? with
  | some fault => .error fault
  | none =>
    if p.meansFolder then (d.walk [] p.steps.dropLast).bind fun _ => .error .isADirectory
    else
      match d.locate p.steps with
      | .error fault => .error fault
      | .ok (_, some .folder) => .error .isADirectory
      | .ok (place, _) => .ok (d.put place (.file content))

/-- Create one folder, in a folder that has to be there. -/
def createFolder (d : Disk) (steps : List String) : Except IoFault Disk :=
  if Path.endInside steps then (d.walk [] steps.dropLast).bind fun _ => .error .fileExists
  else
    match d.locate steps with
    | .error fault => .error fault
    | .ok (_, some _) => .error .fileExists
    | .ok (place, none) => .ok (d.put place .folder)

/-- Whether some steps lead to a folder. -/
def isFolder (d : Disk) (steps : List String) : Bool := (d.walk [] steps).toBool

/-- Create a folder and those on the way to it, where they are not there. The steps are given from
the last to the first. What was made stays, also if something is in the way. -/
def createFoldersTo (d : Disk) : List String → Except IoFault Unit × Disk
  | [] => (.ok (), d)
  | last :: before =>
    let steps := (last :: before).reverse
    /- Nothing has to be made where a folder is. -/
    let settle (d : Disk) (fault : IoFault) : Except IoFault Unit × Disk :=
      (if d.isFolder steps then .ok () else .error fault, d)
    match d.createFolder steps with
    | .ok d => (.ok (), d)
    | .error fault =>
      if fault = .noSuchFile then
        match createFoldersTo d before with
        | (.error fault, d) => (.error fault, d)
        | (.ok (), d) =>
          match d.createFolder steps with
          | .ok d => (.ok (), d)
          | .error fault => settle d fault
      else
        settle d fault

/-- Create a folder and those on the way to it, where they are not there. -/
def createFolders (d : Disk) (p : Path) : Except IoFault Unit × Disk :=
  match p.flaw? with
  | some fault => (.error fault, d)
  | none => d.createFoldersTo (p.steps.filter (· ≠ ".")).reverse

/-- Create the folder that a path lies in, and all folders on the way to it. -/
def createParent (d : Disk) (path : String) : Except IoFault Unit × Disk :=
  d.createFolders (Path.ofText path).parent

/-! ### Laws -/

/-- What was put somewhere stands there. -/
theorem get?_put (d : Disk) (steps : List String) (e : Entry) (h : steps ≠ []) :
    (d.put steps e).get? steps = some e := by
  simp [get?, put, h]

/-- What is put somewhere changes nothing elsewhere. -/
theorem get?_put_ne (d : Disk) {steps others : List String} (e : Entry) (h : others ≠ steps) :
    (d.put steps e).get? others = d.get? others := by
  have kept : ∀ l : List (List String × Entry),
      (l.filter (·.1 ≠ steps)).find? (·.1 = others) = l.find? (·.1 = others) := by
    intro l
    rw [List.find?_filter]
    congr 1
    funext entry
    by_cases hf : entry.1 = others
    · simp [hf, h]
    · simp [hf]
  unfold get? put
  split
  · rfl
  · rw [List.find?_cons_of_neg (by simpa using h.symm), kept]

end Disk

end Overlay
