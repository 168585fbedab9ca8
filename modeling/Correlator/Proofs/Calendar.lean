/-
  Correlator.Proofs.Calendar — DAYS AND DATES.

  The date of a day is found by taking off whole years and then whole months.
  What is taken off is the number of days before the date, so the date that is
  found exists and is that of the day.  Dates are in the order of their days,
  because a part of a date counts for less than one step of the part before it.

  Main results:
    * `compare_steps` — an order that is decided part by part,
    * `Date.dayNumber_ofDayNumber`, `Date.isValid_ofDayNumber` — the date of a day,
    * `Date.compare_dayNumber` — the order of dates.
-/
import Correlator.Time.Calendar
import Mathlib.Algebra.Order.Ring.Int
import Mathlib.Order.Monotone.Basic
namespace Correlator

/-! ## §1. Parts that count for less -/

/-- If what is added stays below the next step, the steps are compared first. -/
theorem compare_steps {F : Nat → Nat} (mono : Monotone F) {a b r s : Nat}
    (ha : F a + r < F (a + 1)) (hb : F b + s < F (b + 1)) :
    compare (F a + r) (F b + s) = (compare a b).then (compare r s) := by
  rcases Nat.lt_trichotomy a b with h | rfl | h
  · have below : F a + r < F b + s := by
      have next : F (a + 1) ≤ F b := mono h
      omega
    rw [Nat.compare_eq_lt.mpr below, Nat.compare_eq_lt.mpr h]
    rfl
  · rw [Nat.compare_eq_eq.mpr rfl]
    rcases Nat.lt_trichotomy r s with h | rfl | h
    · rw [Nat.compare_eq_lt.mpr h, Nat.compare_eq_lt.mpr (Nat.add_lt_add_left h _)]
      rfl
    · rw [Nat.compare_eq_eq.mpr rfl, Nat.compare_eq_eq.mpr rfl]
      rfl
    · rw [Nat.compare_eq_gt.mpr h, Nat.compare_eq_gt.mpr (Nat.add_lt_add_left h _)]
      rfl
  · have above : F b + s < F a + r := by
      have next : F (b + 1) ≤ F a := mono h
      omega
    rw [Nat.compare_eq_gt.mpr above, Nat.compare_eq_gt.mpr h]
    rfl

/-- Steps of one size. -/
theorem compare_mul_add {k a b r s : Nat} (hr : r < k) (hs : s < k) :
    compare (a * k + r) (b * k + s) = (compare a b).then (compare r s) := by
  refine compare_steps (fun a b h => Nat.mul_le_mul_right k h) ?_ ?_
  · rw [Nat.succ_mul]
    omega
  · rw [Nat.succ_mul]
    omega

/-- The first parts are compared, and the others only if these are the same. -/
theorem compare_then_congr {a b : Nat} {o o' : Ordering} (h : a = b → o = o') :
    (compare a b).then o = (compare a b).then o' := by
  rcases Nat.lt_trichotomy a b with lt | rfl | gt
  · rw [Nat.compare_eq_lt.mpr lt]
    rfl
  · rw [h rfl]
  · rw [Nat.compare_eq_gt.mpr gt]
    rfl

/-- It does not matter whether one counts from zero or from one. -/
theorem compare_add_one (a b : Nat) : compare (a + 1) (b + 1) = compare a b := by
  simp only [Nat.compare_eq_ite_lt, Nat.add_lt_add_iff_right]

/-! ## §2. The days in years and months -/

theorem daysIn_eq_sum (lengths : List Nat) : daysIn lengths = lengths.sum := rfl

/-- The days before the month at a place. -/
theorem daysIn_take_succ {lengths : List Nat} {i length : Nat} (h : lengths[i]? = some length) :
    daysIn (lengths.take (i + 1)) = daysIn (lengths.take i) + length := by
  simp [daysIn_eq_sum, List.take_add_one, h]

theorem daysIn_take_mono (lengths : List Nat) : Monotone fun i => daysIn (lengths.take i) := by
  refine monotone_nat_of_le_succ fun i => ?_
  cases h : lengths[i]? with
  | none => simp [daysIn_eq_sum, List.take_add_one, h]
  | some length => simp [daysIn_take_succ h]

theorem daysIn_take_le (lengths : List Nat) (i : Nat) :
    daysIn (lengths.take i) ≤ daysIn lengths := by
  have whole := congrArg List.sum (List.take_append_drop i lengths)
  rw [List.sum_append] at whole
  exact Nat.le.intro whole

namespace Date

theorem yearsLength_succ (year count : Nat) :
    yearsLength year (count + 1) = yearsLength year count + yearLength (year + count) := by
  simp [yearsLength, daysIn_eq_sum, List.range_succ]

/-- The first year may be counted by itself. -/
theorem yearsLength_succ' (year count : Nat) :
    yearsLength year (count + 1) = yearLength year + yearsLength (year + 1) count := by
  induction count with
  | zero => simp [yearsLength, daysIn_eq_sum, List.range_succ]
  | succ count ih =>
    rw [yearsLength_succ, ih, yearsLength_succ, Nat.add_assoc, Nat.add_right_comm year 1 count]
    rfl

theorem yearsLength_mono (year : Nat) : Monotone (yearsLength year) :=
  monotone_nat_of_le_succ fun count => by
    rw [yearsLength_succ]
    exact Nat.le_add_right _ _

/-- No year has fewer days than a common one. -/
theorem le_yearsLength (year count : Nat) : 365 * count ≤ yearsLength year count := by
  induction count with
  | zero => exact Nat.zero_le _
  | succ count ih =>
    have least : 365 ≤ yearLength (year + count) := by
      unfold yearLength
      split <;> decide
    rw [yearsLength_succ]
    omega

/-! ## §3. The date of a day -/

/-- Whole years are taken off until less than a year remains. -/
theorem splitYear_spec (year n : Nat) : year ≤ (splitYear year n).1 ∧
    (splitYear year n).2 < yearLength (splitYear year n).1 ∧
    yearsLength year ((splitYear year n).1 - year) + (splitYear year n).2 = n := by
  fun_induction splitYear year n with
  | case1 year n h => simpa [yearsLength, daysIn_eq_sum] using h
  | case2 year n h ih =>
    obtain ⟨later, within, sum⟩ := ih
    refine ⟨Nat.le_of_succ_le later, within, ?_⟩
    obtain ⟨count, hcount⟩ := Nat.exists_eq_add_of_le later
    rw [hcount] at sum ⊢
    have first := yearsLength_succ' year count
    rw [show year + 1 + count - (year + 1) = count by omega] at sum
    rw [show year + 1 + count - year = count + 1 by omega]
    omega

/-- Whole months are taken off until less than a month remains. -/
theorem splitMonth_spec {lengths : List Nat} (month : Nat) {n : Nat} (h : n < daysIn lengths) :
    ∃ i length, splitMonth lengths month n = (month + i, n - daysIn (lengths.take i)) ∧
      lengths[i]? = some length ∧ daysIn (lengths.take i) ≤ n ∧
        n - daysIn (lengths.take i) < length := by
  induction lengths generalizing month n with
  | nil => exact absurd h (Nat.not_lt_zero n)
  | cons length rest ih =>
    rw [splitMonth]
    split
    case isTrue first => exact ⟨0, length, rfl, rfl, Nat.zero_le n, first⟩
    case isFalse later =>
      have sum : daysIn (length :: rest) = length + daysIn rest := rfl
      obtain ⟨i, days, split, at', before, within⟩ := ih (month + 1) (n := n - length) (by omega)
      have taken : daysIn ((length :: rest).take (i + 1)) = length + daysIn (rest.take i) := rfl
      refine ⟨i + 1, days, ?_, at', by omega, by omega⟩
      rw [split, taken, Nat.sub_sub, Nat.add_assoc, Nat.add_comm 1 i]

/-- The date of a day, with the year that it lies in and the months and days before it there. -/
theorem ofDayNumber_spec (n : Nat) : ∃ i length,
    (ofDayNumber n).month = i + 1 ∧ (monthLengths (ofDayNumber n).year)[i]? = some length ∧
      (ofDayNumber n).day - 1 < length ∧ 1 ≤ (ofDayNumber n).day ∧ 1970 ≤ (ofDayNumber n).year ∧
        (ofDayNumber n).dayNumber = n := by
  obtain ⟨from', within, years⟩ := splitYear_spec 1970 n
  rw [← daysIn_monthLengths] at within
  obtain ⟨i, length, split, at', before, day⟩ := splitMonth_spec 1 within
  have date : ofDayNumber n = ⟨(splitYear 1970 n).1, 1 + i, (splitYear 1970 n).2 -
      daysIn ((monthLengths (splitYear 1970 n).1).take i) + 1⟩ := by
    rw [ofDayNumber, split]
  rw [date]
  refine ⟨i, length, Nat.add_comm 1 i, at', day, Nat.succ_pos _, from', ?_⟩
  show yearsLength 1970 _ + daysIn ((monthLengths _).take (1 + i - 1)) + _ = n
  rw [Nat.add_sub_cancel_left, Nat.add_sub_cancel, Nat.add_assoc, Nat.add_sub_cancel' before]
  exact years

/-- **The day of the date of a day is the day.** -/
theorem dayNumber_ofDayNumber (n : Nat) : (ofDayNumber n).dayNumber = n := by
  obtain ⟨i, length, -, -, -, -, -, h⟩ := ofDayNumber_spec n
  exact h

/-- **The date of a day exists.** -/
theorem isValid_ofDayNumber (n : Nat) : (ofDayNumber n).IsValid := by
  obtain ⟨i, length, month, at', day, pos, -, -⟩ := ofDayNumber_spec n
  have place : i < 12 := (List.getElem?_eq_some_iff.mp at').1
  refine ⟨by omega, by omega, pos, ?_⟩
  rw [month, Nat.add_sub_cancel, at']
  show _ ≤ length
  omega

theorem year_ofDayNumber (n : Nat) : 1970 ≤ (ofDayNumber n).year := by
  obtain ⟨i, length, -, -, -, -, h, -⟩ := ofDayNumber_spec n
  exact h

/-! ## §4. The order of dates -/

namespace IsValid

variable {d : Date}

/-- The month and the day of a date, counted from zero, and the length of the month. -/
theorem parts (h : d.IsValid) : ∃ i k length, d.month = i + 1 ∧ d.day = k + 1 ∧
    (monthLengths d.year)[i]? = some length ∧ k < length := by
  obtain ⟨first, last, pos, day⟩ := h
  obtain ⟨i, hi⟩ := Nat.exists_eq_add_of_le' first
  obtain ⟨k, hk⟩ := Nat.exists_eq_add_of_le' pos
  rw [hi, hk, Nat.add_sub_cancel] at day
  have place : i < (monthLengths d.year).length := by
    show i < 12
    omega
  rw [List.getElem?_eq_getElem place, Option.getD_some] at day
  exact ⟨i, k, _, hi, hk, List.getElem?_eq_getElem place, day⟩

/-- The days of its year before a date are less than the year. -/
theorem day_lt (h : d.IsValid) :
    daysIn ((monthLengths d.year).take (d.month - 1)) + (d.day - 1) < yearLength d.year := by
  obtain ⟨i, k, length, month, day, at', within⟩ := h.parts
  have next := daysIn_take_succ at'
  have year := daysIn_take_le (monthLengths d.year) (i + 1)
  rw [daysIn_monthLengths] at year
  rw [month, day, Nat.add_sub_cancel, Nat.add_sub_cancel]
  omega

/-- No month has more than 31 days. -/
theorem day_le (h : d.IsValid) : d.day ≤ 31 := by
  obtain ⟨i, k, length, -, day, at', within⟩ := h.parts
  have longest : ∀ length ∈ monthLengths d.year, length ≤ 31 := by
    unfold monthLengths
    split <;> decide
  have month := longest length (List.mem_of_getElem? at')
  omega

end IsValid

/-- **Dates are in the order of their days**: by year, then by month, then by day. -/
theorem compare_dayNumber {d e : Date} (hd : d.IsValid) (he : e.IsValid) (hdy : 1970 ≤ d.year)
    (hey : 1970 ≤ e.year) : compare d.dayNumber e.dayNumber =
      (compare d.year e.year).then ((compare d.month e.month).then (compare d.day e.day)) := by
  have years : Monotone fun year => yearsLength 1970 (year - 1970) :=
    fun a b h => yearsLength_mono 1970 (Nat.sub_le_sub_right h 1970)
  have next : ∀ {year}, 1970 ≤ year → yearsLength 1970 (year + 1 - 1970) =
      yearsLength 1970 (year - 1970) + yearLength year := by
    intro year h
    rw [Nat.sub_add_comm h, yearsLength_succ, Nat.add_sub_cancel' h]
  unfold dayNumber
  rw [Nat.add_assoc, Nat.add_assoc]
  rw [compare_steps (F := fun year => yearsLength 1970 (year - 1970)) years
    (by rw [next hdy]; exact Nat.add_lt_add_left hd.day_lt _)
    (by rw [next hey]; exact Nat.add_lt_add_left he.day_lt _)]
  -- Within one year, the months have the same lengths.
  refine compare_then_congr fun year => ?_
  obtain ⟨i, k, length, hi, hk, dmonth, dday⟩ := hd.parts
  obtain ⟨j, l, length', hj, hl, emonth, eday⟩ := he.parts
  have step : ∀ {i length}, (monthLengths e.year)[i]? = some length → ∀ {k}, k < length →
      daysIn ((monthLengths e.year).take i) + k < daysIn ((monthLengths e.year).take (i + 1)) := by
    intro i length at' k within
    rw [daysIn_take_succ at']
    exact Nat.add_lt_add_left within _
  rw [year] at dmonth ⊢
  rw [hi, hj, hk, hl, compare_add_one, compare_add_one]
  exact compare_steps (daysIn_take_mono (monthLengths e.year)) (step dmonth dday) (step emonth eday)

end Date

end Correlator
