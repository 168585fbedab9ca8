/-
  Correlator.Time.Duration — LENGTHS OF TIME.

  A duration is a number of nanoseconds.  The longest one that can be written
  has a full 64-bit count of seconds.  A diagnostic shows a duration in the
  largest unit that leaves a whole part, with a fraction that has no trailing
  zeros.

  A limit becomes a deadline by a clock.  A clock can tell its readings up to a
  bound, and a limit that leads beyond it is no deadline at all.

  Main content:
    * `Duration.ofParts?` — seconds and nanoseconds, the latter carried over,
    * `Duration.shown`    — the text of a duration,
    * `Clock.deadline?`   — the reading at which a limit is over.
-/
import Correlator.Text.Numeral
namespace Correlator

/-- A length of time. -/
structure Duration where
  nanoseconds : Nat
  deriving DecidableEq, Repr

namespace Duration

/-- Nanoseconds in a second. -/
def perSecond : Nat := 1000000000

/-- The longest duration: a full count of seconds and all but one nanosecond. -/
def longest : Duration := ⟨(UInt64.size - 1) * perSecond + (perSecond - 1)⟩

/-- Whole seconds. -/
def seconds (d : Duration) : Nat := d.nanoseconds / perSecond

/-- Nanoseconds beyond the whole seconds. -/
def subsecond (d : Duration) : Nat := d.nanoseconds % perSecond

/-- A duration from seconds and nanoseconds; a second's worth of nanoseconds is carried.
Nothing if the carry takes the seconds past their bound. -/
def ofParts? (seconds nanoseconds : Nat) : Option Duration :=
  let d : Duration := ⟨seconds * perSecond + nanoseconds⟩
  if d.nanoseconds ≤ longest.nanoseconds then some d else none

/-! ## Text -/

/-- The digits of a fraction with `places` places, trailing zeros left out. -/
def fractionDigits (places n : Nat) : List Char :=
  ((Text.Numeral.padded places n).reverse.dropWhile (· = '0')).reverse

/-- A whole number, and its fraction of `places` places if there is one. -/
def decimalText (whole fraction places : Nat) : String :=
  match fractionDigits places fraction with
  | [] => toString whole
  | ds => toString whole ++ "." ++ String.ofList ds

/-- The text of a duration: seconds, or the largest smaller unit that leaves a whole part. -/
def shown (d : Duration) : String :=
  let n := d.nanoseconds
  if n ≥ 1000000000 then decimalText (n / 1000000000) (n % 1000000000) 9 ++ "s"
  else if n ≥ 1000000 then decimalText (n / 1000000) (n % 1000000) 6 ++ "ms"
  else if n ≥ 1000 then decimalText (n / 1000) (n % 1000) 3 ++ "µs"
  else decimalText n 0 0 ++ "ns"

end Duration

/-! ## Clocks -/

/-- A clock that counts nanoseconds and never goes back: what it reads, and the latest reading that
it can tell.  By default the seconds of a reading are a signed 64-bit number. -/
structure Clock where
  reading : Nat := 0
  latest : Nat := (UInt64.size / 2 - 1) * Duration.perSecond + (Duration.perSecond - 1)
  deriving DecidableEq, Repr

/-- The reading at which a limit is over that begins now, if the clock can tell it. -/
def Clock.deadline? (k : Clock) (limit : Duration) : Option Nat :=
  let t := k.reading + limit.nanoseconds
  if t ≤ k.latest then some t else none

end Correlator
