/-
  Correlator.SeqNum — SEQUENCE NUMBERS.

  Messages on a connection are numbered from one in a 64-bit word.  Zero can
  be written and read, but no message carries it.
-/
import Correlator.Text.Numeral
namespace Correlator

/-- The number of a message on its connection. -/
structure SeqNum where
  value : UInt64
  deriving DecidableEq, Repr

namespace SeqNum

/-- A number that a message may carry. -/
def isValid (n : SeqNum) : Bool := 1 ≤ n.value

/-- The decimal digits. -/
def shown (n : SeqNum) : String := toString n.value.toNat

/-- Reads a number. -/
def parse (s : String) : Except Text.NumeralFault SeqNum := (Text.Numeral.word s).map SeqNum.mk

end SeqNum

end Correlator
