import Overlay.Proofs.WrittenForm
import Std.Data.String.ToNat

namespace Overlay

/-!
# The address to listen at

An address is a host, a colon and a port. A host is any text, and may have colons and brackets in
it. Still the address tells what is meant: the port has no colon in it, so it is what stands behind
the last one. Two hosts lead to the same address only if they differ by a pair of brackets around a
host that needs one.

* `CutAtLastColon` — a text in two parts, `CutAtLastColon.unique`;
* `Settings.cutAtLastColon_bindTarget_iff` — the parts of an address;
* `Settings.hostPart_eq_iff` — the hosts that are written in the same way;
* `Settings.bindTarget_unambiguous` — both, for whole settings.
-/

/-! ### The last colon -/

/-- A text is cut at its last colon. -/
def CutAtLastColon (s before after : String) : Prop :=
  s = before ++ ":" ++ after ∧ ':' ∉ after.toList

/-- If `x` comes first and is not found again, nothing stands in front of any `x`. -/
theorem eq_nil_of_last {α : Type} {x : α} {more after after' : List α}
    (h : x :: after = more ++ x :: after') (hlast : x ∉ after) : more = [] ∧ after = after' := by
  cases more with
  | nil => exact ⟨rfl, (List.cons.inj h).2⟩
  | cons y more =>
    obtain ⟨-, rfl⟩ := List.cons.inj h
    exact absurd (List.mem_append_right more List.mem_cons_self) hlast

/-- A list can be cut in one way only at the last place where an element is found. -/
theorem append_cons_inj_of_last {α : Type} {x : α} {before after before' after' : List α}
    (h : before ++ x :: after = before' ++ x :: after') (hlast : x ∉ after) (hlast' : x ∉ after') :
    before = before' ∧ after = after' := by
  -- One of the two cuts is not before the other.
  rcases List.append_eq_append_iff.1 h with ⟨more, rfl, heq⟩ | ⟨more, rfl, heq⟩
  · obtain ⟨rfl, rfl⟩ := eq_nil_of_last heq hlast
    exact ⟨(List.append_nil before).symm, rfl⟩
  · obtain ⟨rfl, rfl⟩ := eq_nil_of_last heq hlast'
    exact ⟨List.append_nil before', rfl⟩

/-- There is one way to cut a text at its last colon. -/
theorem CutAtLastColon.unique {s before after before' after' : String}
    (h : CutAtLastColon s before after) (h' : CutAtLastColon s before' after') :
    before = before' ∧ after = after' := by
  obtain ⟨rfl, hlast⟩ := h
  obtain ⟨heq, hlast'⟩ := h'
  have hchars : before.toList ++ ':' :: after.toList = before'.toList ++ ':' :: after'.toList := by
    simpa using congrArg String.toList heq
  obtain ⟨hbefore, hafter⟩ := append_cons_inj_of_last hchars hlast hlast'
  exact ⟨String.toList_inj.1 hbefore, String.toList_inj.1 hafter⟩

namespace Settings

/-! ### Hosts -/

/-- A host with a colon in it and no bracket in front. -/
def IsBare (host : String) : Prop := ':' ∈ host.toList ∧ host.toList.head? ≠ some '['

/-- A host in a pair of brackets. -/
def bracketed (host : String) : String := "[" ++ host ++ "]"

section Hosts

variable {host host' : String}

theorem needsBrackets_iff : needsBrackets host = true ↔ IsBare host := by
  simp [needsBrackets, IsBare]

theorem hostPart_of_bare (h : IsBare host) : hostPart host = bracketed host :=
  if_pos (needsBrackets_iff.2 h)

theorem hostPart_of_not_bare (h : ¬ IsBare host) : hostPart host = host :=
  if_neg fun hneeds => h (needsBrackets_iff.1 hneeds)

theorem not_isBare_bracketed (host : String) : ¬ IsBare (bracketed host) := by
  simp [IsBare, bracketed]

theorem bracketed_inj : bracketed host = bracketed host' ↔ host = host' := by
  simp [bracketed]

theorem bracketed_ne (host : String) : bracketed host ≠ host := by
  intro h
  have hlength := congrArg (·.toList.length) h
  simp [bracketed] at hlength
  omega

/-- **Hosts that are written in the same way** are the same, or one is the other in brackets. -/
theorem hostPart_eq_iff : hostPart host = hostPart host' ↔
    host = host' ∨ IsBare host ∧ host' = bracketed host ∨ IsBare host' ∧ host = bracketed host' := by
  constructor
  · intro heq
    by_cases h : IsBare host <;> by_cases h' : IsBare host'
    · rw [hostPart_of_bare h, hostPart_of_bare h', bracketed_inj] at heq
      exact .inl heq
    · rw [hostPart_of_bare h, hostPart_of_not_bare h'] at heq
      exact .inr (.inl ⟨h, heq.symm⟩)
    · rw [hostPart_of_not_bare h, hostPart_of_bare h'] at heq
      exact .inr (.inr ⟨h', heq⟩)
    · rw [hostPart_of_not_bare h, hostPart_of_not_bare h'] at heq
      exact .inl heq
  · have hsame {h : String} (hbare : IsBare h) : hostPart h = hostPart (bracketed h) := by
      rw [hostPart_of_bare hbare, hostPart_of_not_bare (not_isBare_bracketed h)]
    rintro (rfl | ⟨hbare, rfl⟩ | ⟨hbare, rfl⟩)
    · rfl
    · exact hsame hbare
    · exact (hsame hbare).symm

end Hosts

/-! ### Addresses -/

variable (s : Settings)

theorem effectivePort_bounds : 1 ≤ s.effectivePort.toNat ∧ s.effectivePort.toNat ≤ 65535 := by
  have hzero : s.effectivePort.toNat ≠ 0 := fun h => s.effectivePort_ne_zero (UInt16.toNat_inj.1 h)
  have hfits := s.effectivePort.toNat_lt
  omega

/-- A written number has no colon in it. -/
theorem colon_not_mem_toString (n : Nat) : ':' ∉ (toString n).toList := by
  obtain ⟨c, digits, hs, hdigits⟩ := Json.toString_eq_cons n
  intro hmem
  exact absurd (hdigits ':' (hs ▸ hmem)) (by decide)

theorem cutAtLastColon_bindTarget :
    CutAtLastColon s.bindTarget (hostPart s.host) (toString s.effectivePort.toNat) :=
  ⟨rfl, colon_not_mem_toString _⟩

/-- **The parts of an address** are the host as it is written and the port in decimal. -/
theorem cutAtLastColon_bindTarget_iff {before after : String} :
    CutAtLastColon s.bindTarget before after ↔
      before = hostPart s.host ∧ after = toString s.effectivePort.toNat := by
  constructor
  · exact fun h => h.unique s.cutAtLastColon_bindTarget
  · rintro ⟨rfl, rfl⟩
    exact s.cutAtLastColon_bindTarget

/-- **Settings with one address** have one port, and their hosts are written in the same way. -/
theorem bindTarget_eq_iff {t : Settings} : s.bindTarget = t.bindTarget ↔
    s.effectivePort = t.effectivePort ∧ hostPart s.host = hostPart t.host := by
  constructor
  · intro h
    have hcut := s.cutAtLastColon_bindTarget
    rw [h, cutAtLastColon_bindTarget_iff] at hcut
    exact ⟨UInt16.toNat_inj.1 (Nat.repr_inj.1 hcut.2), hcut.1⟩
  · rintro ⟨hport, hhost⟩
    rw [bindTarget, bindTarget, hport, hhost]

/-- What an address tells of the settings that it comes from. -/
structure TargetUnambiguous (s : Settings) : Prop where
  /-- The port is one that can be listened at. -/
  port : 1 ≤ s.effectivePort.toNat ∧ s.effectivePort.toNat ≤ 65535
  /-- In decimal, it stands behind the last colon, and the host as it is written stands before. -/
  parts : ∀ before after, CutAtLastColon s.bindTarget before after ↔
    before = hostPart s.host ∧ after = toString s.effectivePort.toNat
  /-- The host is written in a pair of brackets exactly if it has a colon in it and no bracket in
  front. -/
  inBrackets : hostPart s.host = bracketed s.host ↔ IsBare s.host
  /-- Otherwise, and only then, it is written as it is. -/
  asItIs : hostPart s.host = s.host ↔ ¬ IsBare s.host
  /-- Other settings have the same address exactly if they have the same port, and the same host or
  one that is different by the brackets that one of the two needs. -/
  same : ∀ t : Settings, s.bindTarget = t.bindTarget ↔ s.effectivePort = t.effectivePort ∧
    (s.host = t.host ∨ IsBare s.host ∧ t.host = bracketed s.host ∨
      IsBare t.host ∧ s.host = bracketed t.host)

/-- **An address is unambiguous**, whatever text the host is. -/
theorem bindTarget_unambiguous : TargetUnambiguous s where
  port := s.effectivePort_bounds
  parts _ _ := s.cutAtLastColon_bindTarget_iff
  inBrackets := by
    constructor
    · intro h
      by_contra hbare
      rw [hostPart_of_not_bare hbare] at h
      exact bracketed_ne s.host h.symm
    · exact hostPart_of_bare
  asItIs := by
    constructor
    · intro h hbare
      rw [hostPart_of_bare hbare] at h
      exact bracketed_ne s.host h
    · exact hostPart_of_not_bare
  same t := by rw [bindTarget_eq_iff, hostPart_eq_iff]

/-- Brackets that are there already are not put there again. -/
example : (⟨"node", "::1", 7000⟩ : Settings).bindTarget = "[::1]:7000" ∧
    (⟨"node", "[::1]", 7000⟩ : Settings).bindTarget = "[::1]:7000" := by decide

end Settings

end Overlay
