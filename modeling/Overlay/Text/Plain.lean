namespace Overlay.Text

/-!
# Text without commands to a terminal

Names that a log or a message repeats can hold commands to a terminal, such as the switch to bold
letters. Where nobody reads the text from a terminal these are left out, and so are controls; tabs
and line breaks stay. A command begins with the escape character and ends by rules of its own.

* `Command` — how far a command has been read;
* `plain` — a text without commands and controls.
-/

/-- How far a command to a terminal has been read. -/
inductive Command where
  /-- There is none. -/
  | none
  /-- Its kind is open. -/
  | opened
  /-- A short command goes on. -/
  | openedFurther
  /-- A control sequence has begun. -/
  | control
  /-- A control sequence has arguments. -/
  | controlGiven
  /-- A control sequence is past its arguments. -/
  | controlFurther
  /-- A control sequence makes no sense. -/
  | controlBroken
  /-- A text for the device begins. -/
  | device
  /-- A text for the device has arguments. -/
  | deviceGiven
  /-- A text for the device is past its arguments. -/
  | deviceFurther
  /-- A text for the device is under way, or ignored. -/
  | deviceText
  /-- A text for the system that shows the terminal. -/
  | systemText
  /-- A text that terminals ignore. -/
  | ignoredText
deriving DecidableEq, Inhabited, Repr

namespace Command

/-- How far a command has been read behind one more byte. -/
def next (s : Command) (b : UInt8) : Command :=
  if b = 0x18 ∨ b = 0x1a then none
  else if b = 0x1b then opened
  else
    let inner : Bool := 0x20 ≤ b ∧ b ≤ 0x2f
    let digit : Bool := 0x30 ≤ b ∧ b ≤ 0x3b
    let mark : Bool := 0x3c ≤ b ∧ b ≤ 0x3f
    let final : Bool := 0x40 ≤ b ∧ b ≤ 0x7e
    match s with
    | none => none
    | opened =>
      if inner then openedFurther
      else if b = 0x5b then control
      else if b = 0x50 then device
      else if b = 0x5d then systemText
      else if b = 0x58 ∨ b = 0x5e ∨ b = 0x5f then ignoredText
      else if digit ∨ mark ∨ final then none
      else opened
    | openedFurther => if digit ∨ mark ∨ final then none else openedFurther
    | control =>
      if inner then controlFurther
      else if digit ∨ mark then controlGiven
      else if final then none
      else control
    | controlGiven =>
      if inner then controlFurther
      else if mark then controlBroken
      else if final then none
      else controlGiven
    | controlFurther =>
      if digit ∨ mark then controlBroken else if final then none else controlFurther
    | controlBroken => if final then none else controlBroken
    | device =>
      if inner then deviceFurther
      else if digit ∨ mark then deviceGiven
      else if final then deviceText
      else device
    | deviceGiven =>
      if inner then deviceFurther else if mark ∨ final then deviceText else deviceGiven
    | deviceFurther => if digit ∨ mark ∨ final then deviceText else deviceFurther
    | deviceText => if b = 0x9c then none else deviceText
    | systemText => if b = 0x07 then none else systemText
    | ignoredText => if b = 0x9c then none else ignoredText

/-- Only the escape character begins a command. -/
theorem next_none {b : UInt8} (h : b ≠ 0x1b) : next none b = none := by
  simp [next, h]

/-- Whether blank controls inside a command are shown all the same. -/
def showsBlanks : Command → Bool
  | none | opened | openedFurther | control | controlGiven | controlFurther | controlBroken => true
  | device | deviceGiven | deviceFurther | deviceText | systemText | ignoredText => false

end Command

/-- Whether a character is a tab or a break. -/
def isBreak (c : Char) : Bool := c = '\t' || c = '\n' || c = '\x0c' || c = '\r'

/-- Whether a character outside of commands is shown. -/
def isShown (c : Char) : Bool := isBreak c || (0x20 ≤ c.toNat && c.toNat ≠ 0x7f)

/-- What has come before the next character of a text. -/
structure Shown where
  /-- The command that has been begun. -/
  command : Command := .none
  /-- Whether the last character was shown. What can be shown behind it is shown too. -/
  going : Bool := false
deriving DecidableEq, Inhabited, Repr

namespace Shown

/-- Take in one more character. The answer says whether it is shown. -/
def take (s : Shown) (c : Char) : Shown × Bool :=
  if c.toNat < 0x80 then
    if s.going ∧ isShown c then (s, true)
    else
      let shown := match s.command with
        | .none => isShown c
        | command => isBreak c && command.showsBlanks
      (⟨s.command.next c.toNat.toUInt8, shown⟩, shown)
  else if s.going ∨ s.command = .none then (⟨.none, true⟩, true)
  else (⟨(String.utf8EncodeChar c).foldl Command.next s.command, false⟩, false)

/-- The characters that are shown of a text. -/
def chars (s : Shown) : List Char → List Char
  | [] => []
  | c :: rest =>
    let (s, shown) := s.take c
    if shown then c :: chars s rest else chars s rest

end Shown

/-- A text without commands to a terminal and without controls. -/
def plain (s : String) : String := String.ofList (Shown.chars {} s.toList)

/-! ### Laws -/

namespace Shown

/-- Outside of commands a character that can be shown is shown, and no command begins. -/
theorem take_of_isShown {s : Shown} {c : Char} (hs : s.command = .none) (hc : isShown c) :
    (s.take c).2 = true ∧ (s.take c).1.command = .none := by
  by_cases ascii : c.toNat < 0x80
  · by_cases going : s.going = true
    · simp [take, ascii, going, hc, hs]
    · simp only [take, ascii, going, hc, hs, if_true, Bool.false_eq_true, false_and, if_false,
        true_and]
      have small : c.toNat.toUInt8.toNat = c.toNat := by
        simp only [UInt8.toNat_ofNat']
        omega
      apply Command.next_none
      intro h
      rw [h] at small
      have : c.toNat = 0x1b := small.symm
      have : c = '\x1b' := Char.toNat_inj.1 this
      subst this
      exact absurd hc (by decide)
  · simp [take, ascii, hs]

/-- A text that can be shown is shown as it is. -/
theorem chars_of_isShown {s : Shown} {cs : List Char} (hs : s.command = .none)
    (h : ∀ c ∈ cs, isShown c) : s.chars cs = cs := by
  induction cs generalizing s with
  | nil => rfl
  | cons c rest ih =>
    have first := take_of_isShown hs (h c (by simp))
    have later := ih (s := (s.take c).1) first.2 fun d hd => h d (by simp [hd])
    simp [chars, first.1, later]

/-- Whatever is shown of a text can be shown. -/
theorem isShown_of_mem_chars {s : Shown} {cs : List Char} {c : Char} (h : c ∈ s.chars cs) :
    isShown c := by
  induction cs generalizing s with
  | nil => simp [chars] at h
  | cons d rest ih =>
    have tail : ∀ {t : Shown}, c ∈ t.chars rest → isShown c := ih
    simp only [chars] at h
    by_cases shown : (s.take d).2 = true
    · rw [if_pos shown] at h
      rcases List.mem_cons.1 h with rfl | h
      · by_cases ascii : c.toNat < 0x80
        · by_cases going : s.going = true ∧ isShown c = true
          · exact going.2
          · simp only [take, ascii, going, if_true, if_false] at shown
            split at shown
            · exact shown
            · simp only [Bool.and_eq_true] at shown
              simp [isShown, shown.1]
        · have big : 0x20 ≤ c.toNat ∧ c.toNat ≠ 0x7f := by omega
          simp [isShown, big]
      · exact tail h
    · rw [if_neg shown] at h
      exact tail h

end Shown

/-- A text that can be shown is left as it is. -/
theorem plain_of_isShown {s : String} (h : ∀ c ∈ s.toList, isShown c) : plain s = s := by
  rw [plain, Shown.chars_of_isShown (s := {}) rfl h, String.ofList_toList]

/-- Once is enough. -/
@[simp]
theorem plain_plain (s : String) : plain (plain s) = plain s := by
  apply plain_of_isShown
  intro c hc
  simp only [plain, String.toList_ofList] at hc
  exact Shown.isShown_of_mem_chars hc

end Overlay.Text
