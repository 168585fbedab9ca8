/-
  Correlator.Time.Calendar — CIVIL DATES.

  Days are counted from the first of January 1970.  A date is found by taking
  off whole years, then whole months; `Date.dayNumber` counts the other way,
  by adding the lengths of the years and months before it.

  Main content:
    * `Date.ofDayNumber` — the date of a day,
    * `Date.dayNumber`   — the day of a date,
    * `Date.IsValid`     — the dates that exist.
-/
namespace Correlator

/-- A year of 366 days: every fourth one, of the centuries only every fourth. -/
def isLeapYear (year : Nat) : Bool :=
  year % 4 = 0 && (year % 100 ≠ 0 || year % 400 = 0)

/-- Days in a year. -/
def yearLength (year : Nat) : Nat := if isLeapYear year then 366 else 365

/-- Days in each month of a year, from January on. -/
def monthLengths (year : Nat) : List Nat :=
  [31, if isLeapYear year then 29 else 28, 31, 30, 31, 30, 31, 31, 30, 31, 30, 31]

theorem yearLength_pos (year : Nat) : 0 < yearLength year := by
  unfold yearLength; split <;> omega

/-- The days in several months or years, given the days in each. -/
def daysIn (lengths : List Nat) : Nat := lengths.foldr (fun length n => length + n) 0

/-- The lengths of the months add up to the length of the year. -/
theorem daysIn_monthLengths (year : Nat) : daysIn (monthLengths year) = yearLength year := by
  unfold monthLengths yearLength; split <;> rfl

/-- A day of the calendar, months and days counted from one. -/
structure Date where
  year : Nat
  month : Nat
  day : Nat
  deriving DecidableEq, Repr

namespace Date

/-- The year that the day `n` days after the start of `year` lies in, and the days of that year
before it. -/
def splitYear (year n : Nat) : Nat × Nat :=
  if n < yearLength year then (year, n)
  else splitYear (year + 1) (n - yearLength year)
termination_by n
decreasing_by have := yearLength_pos year; omega

/-- The month, counted from `month` on, that holds the day `n` days after its start, and the
days of that month before it. -/
def splitMonth : List Nat → Nat → Nat → Nat × Nat
  | [], month, n => (month, n)
  | length :: rest, month, n =>
    if n < length then (month, n) else splitMonth rest (month + 1) (n - length)

/-- The date of the day `n` days after the first of January 1970. -/
def ofDayNumber (n : Nat) : Date :=
  let y := splitYear 1970 n
  let m := splitMonth (monthLengths y.1) 1 y.2
  ⟨y.1, m.1, m.2 + 1⟩

/-- The days of the years from `year` on, `count` of them. -/
def yearsLength (year count : Nat) : Nat :=
  daysIn ((List.range count).map fun i => yearLength (year + i))

/-- The days from the first of January 1970 to a date from then on. -/
def dayNumber (d : Date) : Nat :=
  yearsLength 1970 (d.year - 1970) + daysIn ((monthLengths d.year).take (d.month - 1)) + (d.day - 1)

/-- The month exists, and the day in it. -/
def IsValid (d : Date) : Prop :=
  1 ≤ d.month ∧ d.month ≤ 12 ∧ 1 ≤ d.day ∧ d.day ≤ ((monthLengths d.year)[d.month - 1]?).getD 0

end Date

end Correlator
