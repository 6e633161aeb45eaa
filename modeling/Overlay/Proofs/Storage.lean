import Mathlib.Data.List.Basic
import Mathlib.Tactic.Common
import Overlay.Disk

namespace Overlay

/-!
# What is written can be read

Where steps lead is decided by the folders on the way alone, so putting something where no folder
is leaves every way open. What a file was given is then found again by the same path, its folder
need not be made again, and the same path can be written again.

* `Disk.Leads`, `Disk.Stands` — where steps lead, and what stands there, apart from how they are
  followed; `Disk.walk_eq_ok_iff`, `Disk.locate_eq_ok_iff`;
* `Disk.isFolder_createFoldersTo`, `Disk.createFoldersTo_of_isFolder` — folders made on the way;
* `Disk.read_write`, `Disk.write_write`, `Disk.createParent_write` — what holds behind a write.
-/

namespace Disk

/-! ### Ways -/

/-- Steps lead from a place to a place. -/
inductive Leads (d : Disk) : List String → List String → List String → Prop
  /-- No steps lead nowhere else. -/
  | done (here : List String) : Leads d here [] here
  /-- A dot stays. -/
  | stay {here rest place : List String} (way : Leads d here rest place) :
    Leads d here ("." :: rest) place
  /-- Two dots lead back. -/
  | back {here rest place : List String} (way : Leads d here.dropLast rest place) :
    Leads d here (".." :: rest) place
  /-- A name leads into the folder of that name. -/
  | enter {here rest place : List String} {name : String} (plain : name ≠ "." ∧ name ≠ "..")
    (fits : name.utf8ByteSize ≤ Path.nameLimit)
    (folder : d.get? (here ++ [name]) = some .folder) (way : Leads d (here ++ [name]) rest place) :
    Leads d here (name :: rest) place

variable {d d' : Disk} {here steps place : List String}

theorem lookUp_of_fits {name : String} (fits : name.utf8ByteSize ≤ Path.nameLimit) :
    d.lookUp here name = .ok (d.get? (here ++ [name])) :=
  if_neg (Nat.not_lt.2 fits)

/-- What is looked up has a name that fits. -/
theorem lookUp_eq_ok {name : String} {found : Option Entry} (h : d.lookUp here name = .ok found) :
    name.utf8ByteSize ≤ Path.nameLimit ∧ found = d.get? (here ++ [name]) := by
  unfold lookUp at h
  split at h
  case isTrue => cases h
  case isFalse hfits => exact ⟨Nat.not_lt.1 hfits, (Except.ok.inj h).symm⟩

/-- **A walk succeeds if there is a way.** -/
theorem walk_eq_ok_iff : d.walk here steps = .ok place ↔ d.Leads here steps place := by
  constructor
  · intro h
    fun_induction walk d here steps with
    | case1 here => exact Except.ok.inj h ▸ .done here
    | case2 here rest ih => exact .stay (ih h)
    | case3 here rest ih => exact .back (ih h)
    | case4 => cases h
    | case5 => cases h
    | case6 => cases h
    | case7 here step rest hdot hdots hlook ih =>
      obtain ⟨fits, found⟩ := lookUp_eq_ok hlook
      exact .enter ⟨hdot, hdots⟩ fits found.symm (ih h)
  · intro h
    induction h with
    | done here => rfl
    | stay way ih => rwa [walk]
    | back way ih => rwa [walk]
    | enter plain fits folder way ih =>
      rw [walk, lookUp_of_fits fits, folder]
      · exact ih
      · exact plain.1
      · exact plain.2

/-- **What is put where no folder is leaves every way open.** -/
theorem Leads.put (h : d.Leads here steps place) {spot : List String}
    (hspot : d.get? spot ≠ some .folder) (e : Entry) : (d.put spot e).Leads here steps place := by
  induction h with
  | done here => exact .done here
  | stay way ih => exact .stay ih
  | back way ih => exact .back ih
  | enter plain fits folder way ih =>
    have helse : _ ≠ spot := fun heq => hspot (heq ▸ folder)
    exact .enter plain fits ((get?_put_ne d e helse).trans folder) ih

/-- A way in two parts. -/
theorem leads_append_iff {before after : List String} :
    d.Leads here (before ++ after) place ↔
      ∃ middle, d.Leads here before middle ∧ d.Leads middle after place := by
  constructor
  · intro h
    induction before generalizing here with
    | nil => exact ⟨here, .done here, h⟩
    | cons step before ih =>
      cases h with
      | stay way =>
        obtain ⟨middle, hbefore, hafter⟩ := ih way
        exact ⟨middle, .stay hbefore, hafter⟩
      | back way =>
        obtain ⟨middle, hbefore, hafter⟩ := ih way
        exact ⟨middle, .back hbefore, hafter⟩
      | enter plain fits folder way =>
        obtain ⟨middle, hbefore, hafter⟩ := ih way
        exact ⟨middle, .enter plain fits folder hbefore, hafter⟩
  · rintro ⟨middle, hbefore, hafter⟩
    induction hbefore with
    | done here => exact hafter
    | stay way ih => exact .stay (ih hafter)
    | back way ih => exact .back (ih hafter)
    | enter plain fits folder way ih => exact .enter plain fits folder (ih hafter)

theorem isFolder_iff : d.isFolder steps = true ↔ ∃ place, d.Leads [] steps place := by
  unfold isFolder
  cases h : d.walk [] steps with
  | ok place => exact ⟨fun _ => ⟨place, walk_eq_ok_iff.1 h⟩, fun _ => rfl⟩
  | error fault =>
    refine ⟨nofun, fun ⟨place, way⟩ => ?_⟩
    rw [walk_eq_ok_iff.2 way] at h
    cases h

/-! ### Places -/

/-- Steps lead to a place where something, or nothing, stands. -/
inductive Stands (d : Disk) : List String → List String → Option Entry → Prop
  /-- The steps end inside a folder. -/
  | inside {steps place : List String} (hend : Path.endInside steps = true)
    (way : d.Leads [] steps place) : Stands d steps place (some .folder)
  /-- The last step is a name in a folder. -/
  | named {before here : List String} {name : String} (plain : name ≠ "." ∧ name ≠ "..")
    (fits : name.utf8ByteSize ≤ Path.nameLimit) (way : d.Leads [] before here) :
    Stands d (before ++ [name]) (here ++ [name]) (d.get? (here ++ [name]))

theorem endInside_append {before : List String} {name : String} (plain : name ≠ "." ∧ name ≠ "..") :
    Path.endInside (before ++ [name]) = false := by
  simp only [Path.endInside, List.getLast?_concat, Bool.or_eq_false_iff, beq_eq_false_iff_ne]
  exact plain

/-- Steps that do not end inside a folder end with a name. -/
theorem exists_name_of_not_inside (h : Path.endInside steps = false) :
    ∃ before name, steps = before ++ [name] ∧ name ≠ "." ∧ name ≠ ".." := by
  rcases List.eq_nil_or_concat steps with rfl | ⟨before, name, rfl⟩
  · cases h
  · refine ⟨before, name, List.concat_eq_append .., ?_⟩
    simpa only [Path.endInside, List.concat_eq_append, List.getLast?_concat, Bool.or_eq_false_iff,
      beq_eq_false_iff_ne] using h

/-- **What stands somewhere is located.** -/
theorem locate_eq_ok_iff {found : Option Entry} :
    d.locate steps = .ok (place, found) ↔ d.Stands steps place found := by
  constructor
  · intro h
    cases hend : Path.endInside steps with
    | true =>
      rw [locate, if_pos hend] at h
      cases hwalk : d.walk [] steps with
      | error fault =>
        rw [hwalk] at h
        cases h
      | ok there =>
        rw [hwalk] at h
        cases h
        exact .inside hend (walk_eq_ok_iff.1 hwalk)
    | false =>
      obtain ⟨before, name, rfl, plain⟩ := exists_name_of_not_inside hend
      rw [locate, hend, if_neg (by decide), List.dropLast_concat, List.getLast?_concat] at h
      cases hwalk : d.walk [] before with
      | error fault =>
        rw [hwalk] at h
        cases h
      | ok there =>
        rw [hwalk] at h
        simp only [Option.getD_some] at h
        cases hlook : d.lookUp there name with
        | error fault =>
          rw [hlook] at h
          cases h
        | ok found' =>
          rw [hlook] at h
          obtain ⟨fits, rfl⟩ := lookUp_eq_ok hlook
          cases h
          exact .named plain fits (walk_eq_ok_iff.1 hwalk)
  · intro h
    cases h with
    | inside hend way => rw [locate, if_pos hend, walk_eq_ok_iff.2 way]; rfl
    | named plain fits way =>
      rw [locate, endInside_append plain, if_neg (by decide), List.dropLast_concat,
        List.getLast?_concat, walk_eq_ok_iff.2 way]
      simp only [Option.getD_some, lookUp_of_fits fits, Except.map]

/-- What is put at the end of a way is found there. -/
theorem Stands.put {found : Option Entry} (h : d.Stands steps place found)
    (hfound : found ≠ some .folder) (e : Entry) :
    (d.put place e).Stands steps place (some e) := by
  cases h with
  | inside hend way => exact absurd rfl hfound
  | @named before here name plain fits way =>
    have hnew := Stands.named plain fits (way.put hfound e)
    rwa [get?_put d _ e (by simp)] at hnew

/-- What stands at the end of steps is what stands at the place. -/
theorem Stands.found_eq {found : Option Entry} (h : d.Stands steps place found)
    (hfound : found ≠ some .folder) : d.get? place = found := by
  cases h with
  | inside hend way => exact absurd rfl hfound
  | named plain fits way => rfl

/-- Steps to a folder lead into it. -/
theorem Stands.leads (h : d.Stands steps place (some .folder)) : d.Leads [] steps place := by
  generalize hfound : some Entry.folder = found at h
  cases h with
  | inside hend way => exact way
  | named plain fits way =>
    exact leads_append_iff.2 ⟨_, way, .enter plain fits hfound.symm (.done _)⟩

/-- Steps into a folder lead to it. -/
theorem Leads.stands (h : d.Leads [] steps place) : d.Stands steps place (some .folder) := by
  cases hend : Path.endInside steps with
  | true => exact .inside hend h
  | false =>
    obtain ⟨before, name, rfl, plain⟩ := exists_name_of_not_inside hend
    obtain ⟨middle, hbefore, hlast⟩ := leads_append_iff.1 h
    cases hlast with
    | stay => exact absurd rfl plain.1
    | back => exact absurd rfl plain.2
    | enter _ fits folder way =>
      cases way
      exact folder ▸ .named plain fits hbefore

/-! ### Folders on the way -/

/-- A folder that was made is there. -/
theorem isFolder_createFolder (h : d.createFolder steps = .ok d') : d'.isFolder steps = true := by
  unfold createFolder at h
  split at h
  case isTrue =>
    cases hwalk : d.walk [] steps.dropLast <;> rw [hwalk] at h <;> cases h
  case isFalse =>
    split at h
    · cases h
    · cases h
    · rename_i spot hlocate
      cases h
      have hspot := (locate_eq_ok_iff.1 hlocate).put nofun .folder
      exact isFolder_iff.2 ⟨spot, hspot.leads⟩

/-- A folder that is there is not made. -/
theorem createFolder_of_isFolder (h : d.isFolder steps = true) :
    d.createFolder steps = .error .fileExists := by
  obtain ⟨place, way⟩ := isFolder_iff.1 h
  unfold createFolder
  split
  case isTrue hend =>
    have hbefore : ∃ middle, d.Leads [] steps.dropLast middle := by
      rcases List.eq_nil_or_concat steps with rfl | ⟨before, name, rfl⟩
      · exact ⟨[], .done []⟩
      · rw [List.concat_eq_append] at way ⊢
        rw [List.dropLast_concat]
        obtain ⟨middle, hbefore, -⟩ := leads_append_iff.1 way
        exact ⟨middle, hbefore⟩
    obtain ⟨middle, hbefore⟩ := hbefore
    rw [walk_eq_ok_iff.2 hbefore]
    rfl
  case isFalse => rw [locate_eq_ok_iff.2 way.stands]

/-- What settles for a folder that is there finds it there. -/
theorem isFolder_of_settled {fault : IoFault}
    (h : ((if d.isFolder steps then .ok () else .error fault : Except IoFault Unit), d) =
      (.ok (), d')) : d'.isFolder steps = true := by
  obtain ⟨hok, rfl⟩ := Prod.mk.inj h
  split at hok
  case isTrue hfolder => exact hfolder
  case isFalse => cases hok

/-- **Folders made on the way are there.** -/
theorem isFolder_createFoldersTo {lastFirst : List String}
    (h : d.createFoldersTo lastFirst = (.ok (), d')) : d'.isFolder lastFirst.reverse = true := by
  fun_induction createFoldersTo d lastFirst with
  | case1 => rfl
  | case2 last before steps made hmade =>
    cases h
    exact isFolder_createFolder hmade
  | case3 => cases h
  | case4 last before steps below hbelow made hmade =>
    cases h
    exact isFolder_createFolder hmade
  | case5 => exact isFolder_of_settled h
  | case6 => exact isFolder_of_settled h

/-- Where a folder is, none is made. -/
theorem createFoldersTo_of_isFolder {lastFirst : List String}
    (h : d.isFolder lastFirst.reverse = true) : d.createFoldersTo lastFirst = (.ok (), d) := by
  cases lastFirst with
  | nil => rfl
  | cons last before =>
    have hthere : IoFault.fileExists ≠ IoFault.noSuchFile := by decide
    simp only [createFoldersTo, createFolder_of_isFolder h, if_neg hthere, h, if_true]

/-! ### Files -/

/-- **When and how a file is written.** -/
theorem write_eq_ok_iff {path : String} {content : ByteArray} :
    d.write path content = .ok d' ↔
      (Path.ofText path).flaw? = none ∧ (Path.ofText path).meansFolder = false ∧
        ∃ place found, d.Stands (Path.ofText path).steps place found ∧ found ≠ some .folder ∧
          d' = d.put place (.file content) := by
  constructor
  · intro h
    dsimp only [write] at h
    split at h
    · cases h
    · rename_i hflaw
      split at h
      case isTrue =>
        cases hwalk : d.walk [] (Path.ofText path).steps.dropLast <;> rw [hwalk] at h <;> cases h
      case isFalse hfile =>
        refine ⟨hflaw, eq_false_of_ne_true hfile, ?_⟩
        split at h
        · cases h
        · cases h
        · rename_i place found hnot hlocate
          exact ⟨place, found, locate_eq_ok_iff.1 hlocate, hnot, (Except.ok.inj h).symm⟩
  · rintro ⟨hflaw, hfile, place, found, hplace, hfound, rfl⟩
    simp only [write, hflaw, hfile, Bool.false_eq_true, if_false, locate_eq_ok_iff.2 hplace]

/-- **What was written is read.** -/
theorem read_write {path : String} {content : ByteArray} (h : d.write path content = .ok d') :
    d'.read path = .ok content := by
  obtain ⟨hflaw, hfile, place, found, hplace, hfound, rfl⟩ := write_eq_ok_iff.1 h
  have hnow := locate_eq_ok_iff.2 (hplace.put hfound (.file content))
  simp only [read, hflaw, hnow, hfile, Bool.false_eq_true, if_false]

/-- What can be written can be written with another content. -/
theorem write_other {path : String} {content : ByteArray} (h : d.write path content = .ok d')
    (other : ByteArray) : ∃ d'', d.write path other = .ok d'' := by
  obtain ⟨hflaw, hfile, place, found, hplace, hfound, -⟩ := write_eq_ok_iff.1 h
  exact ⟨_, write_eq_ok_iff.2 ⟨hflaw, hfile, place, found, hplace, hfound, rfl⟩⟩

/-- **What was written can be written again.** -/
theorem write_write {path : String} {content : ByteArray} (h : d.write path content = .ok d')
    (other : ByteArray) : ∃ d'', d'.write path other = .ok d'' := by
  obtain ⟨hflaw, hfile, place, found, hplace, hfound, rfl⟩ := write_eq_ok_iff.1 h
  exact ⟨_, write_eq_ok_iff.2
    ⟨hflaw, hfile, place, _, hplace.put hfound (.file content), nofun, rfl⟩⟩

/-- **The folder of a file that was written need not be made again.** -/
theorem createParent_write {made : Disk} {path : String} {content : ByteArray}
    (hmade : d.createParent path = (.ok (), made)) (h : made.write path content = .ok d') :
    d'.createParent path = (.ok (), d') := by
  obtain ⟨-, -, place, found, hplace, hfound, rfl⟩ := write_eq_ok_iff.1 h
  have hspot : made.get? place ≠ some .folder := hplace.found_eq hfound ▸ hfound
  unfold createParent createFolders at hmade ⊢
  split at hmade
  · cases hmade
  · obtain ⟨folder, way⟩ := isFolder_iff.1 (isFolder_createFoldersTo hmade)
    exact createFoldersTo_of_isFolder (isFolder_iff.2 ⟨folder, way.put hspot _⟩)

end Disk

end Overlay
