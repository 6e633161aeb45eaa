namespace Overlay

/-!
# Byte strings

Two byte strings are equal if they hold the same bytes.
-/

/-- Equality of byte strings is decided byte by byte. -/
instance decidableEqBytes : DecidableEq ByteArray := fun a b =>
  if h : a.data = b.data then
    isTrue (by
      cases a
      cases b
      exact congrArg ByteArray.mk h)
  else
    isFalse fun hab => h (congrArg ByteArray.data hab)

end Overlay
