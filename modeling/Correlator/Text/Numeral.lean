/-
  Correlator.Text.Numeral — INTEGERS AS THEY ARE WRITTEN IN FIELDS.

  A numeral is a non-empty run of decimal digits after an optional sign.  A
  plus sign is always allowed, a minus sign only where the value may be
  negative; leading zeros are allowed, blanks and separators are not.  Digits
  are read from the left and the first fault met decides: a character that is
  no digit, or the digit that takes the value past its bound.

  Main content:
    * `unsigned` — a value from zero to a bound,
    * `signed`   — a value between a negative and a positive bound,
    * `padded`   — a value written with a least number of digits.
-/
namespace Correlator.Text

/-- Why a text is no numeral of the wanted range. -/
inductive NumeralFault where
  | empty
  | invalidDigit
  | tooLarge
  | tooSmall
  deriving DecidableEq, Repr

/-- The wording of a fault. -/
def NumeralFault.message : NumeralFault → String
  | .empty => "cannot parse integer from empty string"
  | .invalidDigit => "invalid digit found in string"
  | .tooLarge => "number too large to fit in target type"
  | .tooSmall => "number too small to fit in target type"

namespace Numeral

/-- The value of a decimal digit. -/
def digitValue (c : Char) : Nat := c.toNat - '0'.toNat

/-- Reads digits after the value `n`; a value past `limit` is the fault `beyond`. -/
def magnitude (limit : Nat) (beyond : NumeralFault) : Nat → List Char → Except NumeralFault Nat
  | n, [] => .ok n
  | n, c :: cs =>
    if c.isDigit then
      if 10 * n + digitValue c ≤ limit then magnitude limit beyond (10 * n + digitValue c) cs
      else .error beyond
    else .error .invalidDigit

/-- Reads a value from zero to `limit`. -/
def unsigned (limit : Nat) (s : String) : Except NumeralFault Nat :=
  match s.toList with
  | [] => .error .empty
  | ['+'] => .error .invalidDigit
  | '+' :: cs => magnitude limit .tooLarge 0 cs
  | cs => magnitude limit .tooLarge 0 cs

/-- Reads a value from minus `below` to `above`. -/
def signed (below above : Nat) (s : String) : Except NumeralFault Int :=
  match s.toList with
  | [] => .error .empty
  | ['+'] => .error .invalidDigit
  | ['-'] => .error .invalidDigit
  | '-' :: cs => (magnitude below .tooSmall 0 cs).map fun n => -(n : Int)
  | '+' :: cs => (magnitude above .tooLarge 0 cs).map fun n => (n : Int)
  | cs => (magnitude above .tooLarge 0 cs).map fun n => (n : Int)

/-- A number in decimal, with zeros in front up to `width` digits. -/
def padded (width n : Nat) : List Char :=
  let digits := Nat.toDigits 10 n
  List.replicate (width - digits.length) '0' ++ digits

/-- The largest value of a 64-bit word. -/
def wordLimit : Nat := UInt64.size - 1

/-- Reads a 64-bit word. -/
def word (s : String) : Except NumeralFault UInt64 :=
  (unsigned wordLimit s).map UInt64.ofNat

/-- The word a text denotes, if it denotes one. -/
def word? (s : String) : Option UInt64 := (word s).toOption

end Numeral

end Correlator.Text
