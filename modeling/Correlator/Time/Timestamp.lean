/-
  Correlator.Time.Timestamp — POINTS IN TIME.

  A timestamp counts nanoseconds since the epoch in a 64-bit word, and every
  conversion into it saturates: a point before the epoch is the epoch, a point
  past the signed range is the end of that range, a count of milliseconds past
  the word is the largest word.  An `Instant` is the calendar's view, seconds
  before or after the epoch and nanoseconds within the second.  Between the two
  stands a signed word of nanoseconds, which not every instant fits in.

  Main content:
    * `Timestamp.ofMillis`, `Timestamp.millis`,
    * `Timestamp.ofInstant`, `Timestamp.toInstant`,
    * `Timestamp.format` — the text YYYYMMDD-HH:MM:SS.sss in UTC.
-/
import Correlator.Text.Buffer
import Correlator.Text.Numeral
import Correlator.Time.Calendar
namespace Correlator

/-! ## Instants -/

/-- A point on the calendar: seconds from the epoch and nanoseconds within the second.  A leap
second keeps its nanoseconds past a full second. -/
structure Instant where
  seconds : Int
  nanoseconds : Nat
  deriving DecidableEq, Repr

namespace Instant

open Text.Numeral (padded)

/-- The first second of the year -262143, the first that the calendar holds. -/
def firstSecond : Int := -8334601228800

/-- The last second of the year 262142, the last that the calendar holds. -/
def lastSecond : Int := 8210266876799

/-- An instant on the calendar.  Nanoseconds past a full second belong to the last second of a
minute only. -/
def ofParts? (seconds : Int) (nanoseconds : Nat) : Option Instant :=
  if firstSecond ≤ seconds ∧ seconds ≤ lastSecond ∧ nanoseconds < 2000000000 ∧
      (nanoseconds < 1000000000 ∨ seconds % 60 = 59) then
    some ⟨seconds, nanoseconds⟩
  else none

/-- Nanoseconds from the epoch. -/
def total (i : Instant) : Int := i.seconds * 1000000000 + i.nanoseconds

/-- Nanoseconds from the epoch as a signed word, if they fit in one. -/
def word? (i : Instant) : Option Int64 :=
  if Int64.minValue.toInt ≤ i.total ∧ i.total ≤ Int64.maxValue.toInt then
    some (.ofInt i.total)
  else none

/-- The instant that many nanoseconds from the epoch. -/
def ofWord (n : Int64) : Instant := ⟨n.toInt / 1000000000, (n.toInt % 1000000000).toNat⟩

/-- The characters of the text of an instant from the epoch on; digits past the millisecond are cut
off.  A leap second is the sixtieth of its minute. -/
def text (i : Instant) : List Char :=
  let s := i.seconds.toNat
  let d := Date.ofDayNumber (s / 86400)
  padded 4 d.year ++ padded 2 d.month ++ padded 2 d.day ++ ['-'] ++
    padded 2 (s / 3600 % 24) ++ [':'] ++ padded 2 (s / 60 % 60) ++ [':'] ++
    padded 2 (s % 60 + i.nanoseconds / 1000000000) ++
    ['.'] ++ padded 3 (i.nanoseconds % 1000000000 / 1000000)

end Instant

/-! ## Timestamps -/

/-- A point in time, as nanoseconds since the epoch. -/
structure Timestamp where
  nanoseconds : UInt64
  deriving DecidableEq, Repr

namespace Timestamp

/-- The last nanosecond of the unsigned 64-bit range. -/
def wordEnd : UInt64 := .ofNat (UInt64.size - 1)

/-- The last nanosecond of the signed 64-bit range. -/
def signedEnd : UInt64 := Int64.maxValue.toUInt64

/-- The point that many milliseconds after the epoch, or the last one there is. -/
def ofMillis (millis : UInt64) : Timestamp :=
  if millis.toNat * 1000000 < UInt64.size then ⟨millis * 1000000⟩ else ⟨wordEnd⟩

/-- Whole milliseconds since the epoch. -/
def millis (t : Timestamp) : UInt64 := t.nanoseconds / 1000000

/-- The point of an instant.  Before the epoch it is the epoch, also if the nanoseconds fit in no
word; and past the signed range it is the end of that range. -/
def ofInstant (i : Instant) : Timestamp :=
  match i.word? with
  | some n => if n < 0 then ⟨0⟩ else ⟨n.toUInt64⟩
  | none => if i.seconds < 0 then ⟨0⟩ else ⟨signedEnd⟩

/-- Nanoseconds since the epoch in a signed word, but at most the end of the signed range. -/
def signed (t : Timestamp) : Int64 :=
  if t.nanoseconds ≤ signedEnd then t.nanoseconds.toInt64 else .maxValue

/-- The point on the calendar. -/
def toInstant (t : Timestamp) : Instant := .ofWord t.signed

/-- Earlier points come first. -/
def order (a b : Timestamp) : Ordering := compare a.nanoseconds.toNat b.nanoseconds.toNat

/-! ## Text -/

/-- The bytes that the text of a point may take. -/
def textLimit : Nat := 21

/-- The text is written to a buffer.  Says whether there was room for it. -/
def written (t : Timestamp) : Bool × Text.Buffer textLimit :=
  Text.Buffer.empty.write [String.ofList t.toInstant.text]

/-- The text YYYYMMDD-HH:MM:SS.sss in UTC, or as much of it as was written. -/
def format (t : Timestamp) : String := t.written.2.text

end Timestamp

end Correlator
