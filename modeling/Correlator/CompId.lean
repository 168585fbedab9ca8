/-
  Correlator.CompId — NAMES OF THE PARTIES TO A CONNECTION.

  A party's name takes at most 32 bytes in UTF-8; nothing else is asked of it.
-/
namespace Correlator

/-- The most bytes a party's name may take. -/
def CompId.maxBytes : Nat := 32

/-- A party's name. -/
structure CompId where
  text : String
  fits : text.utf8ByteSize ≤ CompId.maxBytes
  deriving DecidableEq

namespace CompId

/-- The name, if it fits. -/
def ofString? (s : String) : Option CompId :=
  if h : s.utf8ByteSize ≤ maxBytes then some ⟨s, h⟩ else none

/-- The number of bytes in a name. -/
def byteLength (c : CompId) : Nat := c.text.utf8ByteSize

/-- What is said of a name that does not fit. -/
def overflowMessage : String := "insufficient capacity"

end CompId

end Correlator
