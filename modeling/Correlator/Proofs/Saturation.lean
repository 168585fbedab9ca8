/-
  Correlator.Proofs.Saturation — CONVERSIONS OF POINTS IN TIME.

  Milliseconds, points and instants are counted in three ranges: an unsigned
  word, a signed word and the seconds of the calendar.  A count that lies
  outside of the range that it is taken to becomes the nearest end of that range,
  and one that lies in it stays what it is, so that no conversion wraps around
  and none is without a result.

  Main results:
    * `Timestamp.nanoseconds_ofInstant` — from the calendar,
    * `Timestamp.total_toInstant`, `Timestamp.ofParts?_toInstant` — to the calendar,
    * `Timestamp.toInstant_ofInstant` — and back,
    * `Timestamp.conversions_saturate` — all conversions together.
-/
import Correlator.Time.Timestamp
import Mathlib.Algebra.Order.Ring.Int
namespace Correlator

namespace Instant

/-! ## §1. Instants and signed words -/

/-- A word is the exact count of nanoseconds. -/
theorem toInt_of_word? {i : Instant} {n : Int64} (h : i.word? = some n) : n.toInt = i.total := by
  unfold word? at h
  split at h
  case isTrue fits =>
    cases h
    exact Int64.toInt_ofInt_of_le fits.1 (Int.lt_add_one_of_le fits.2)
  case isFalse => cases h

/-- Only an instant outside of the range has no word. -/
theorem outside_of_word? {i : Instant} (h : i.word? = none) :
    i.total < -2 ^ 63 ∨ 2 ^ 63 - 1 < i.total := by
  unfold word? at h
  split at h
  case isTrue => cases h
  case isFalse outside =>
    rw [Int64.toInt_minValue, Int64.toInt_maxValue] at outside
    omega

theorem total_ofWord (n : Int64) : (ofWord n).total = n.toInt := by
  unfold ofWord total
  dsimp only
  omega

theorem nanoseconds_ofWord_lt (n : Int64) : (ofWord n).nanoseconds < 1000000000 := by
  unfold ofWord
  dsimp only
  omega

/-- Without leap seconds, an instant is known by its nanoseconds from the epoch. -/
theorem eq_of_total {i j : Instant} (hi : i.nanoseconds < 1000000000)
    (hj : j.nanoseconds < 1000000000) (h : i.total = j.total) : i = j := by
  unfold total at h
  have seconds : i.seconds = j.seconds := by omega
  have nanoseconds : i.nanoseconds = j.nanoseconds := by omega
  cases i
  cases j
  congr

end Instant

namespace Timestamp

/-! ## §2. From the calendar and to it -/

/-- **The point of an instant is the nearest one in the signed range.** -/
theorem nanoseconds_ofInstant {i : Instant} (h : i.nanoseconds < 2000000000) :
    ((ofInstant i).nanoseconds.toNat : Int) = max 0 (min i.total (2 ^ 63 - 1)) := by
  unfold ofInstant
  split
  case h_1 n word =>
    have exact := Instant.toInt_of_word? word
    have upper : n.toInt < 2 ^ 63 := Int64.toInt_lt n
    split
    case isTrue negative =>
      have below : n.toInt < 0 := Int64.lt_iff_toInt_lt.mp negative
      rw [UInt64.toNat_zero]
      omega
    case isFalse nonneg =>
      have above : 0 ≤ n.toInt := Int64.le_iff_toInt_le.mp (Int64.not_lt.mp nonneg)
      rw [Int64.toNat_toUInt64_of_le (Int64.not_lt.mp nonneg)]
      show (n.toInt.toNat : Int) = _
      omega
  case h_2 outside =>
    have outside := Instant.outside_of_word? outside
    -- The seconds tell the two ends apart, as the nanoseconds are too few to change the side.
    unfold Instant.total at outside ⊢
    split
    case isTrue =>
      rw [UInt64.toNat_zero]
      omega
    case isFalse =>
      show (9223372036854775807 : Int) = _
      omega

/-- The signed word of a point. -/
theorem toInt_signed (t : Timestamp) :
    t.signed.toInt = (min t.nanoseconds.toNat (2 ^ 63 - 1) : Nat) := by
  unfold signed
  split
  case isTrue within =>
    have small : t.nanoseconds.toNat ≤ 2 ^ 63 - 1 := UInt64.le_iff_toNat_le.mp within
    have word : t.nanoseconds.toInt64 = Int64.ofNat t.nanoseconds.toNat := by
      rw [← UInt64.toInt64_ofNat', UInt64.ofNat_toNat]
    rw [word, Int64.toInt_ofNat_of_lt (by omega), Nat.min_eq_left small]
  case isFalse past =>
    have large : 2 ^ 63 - 1 < t.nanoseconds.toNat :=
      UInt64.lt_iff_toNat_lt.mp (UInt64.not_le.mp past)
    rw [Int64.toInt_maxValue, Nat.min_eq_right (Nat.le_of_lt large)]
    rfl

/-- The instant of a point is as late as the point, or at the end of the signed range. -/
theorem total_toInstant (t : Timestamp) :
    t.toInstant.total = (min t.nanoseconds.toNat (2 ^ 63 - 1) : Nat) :=
  (Instant.total_ofWord t.signed).trans t.toInt_signed

theorem nanoseconds_toInstant_lt (t : Timestamp) : t.toInstant.nanoseconds < 1000000000 :=
  Instant.nanoseconds_ofWord_lt t.signed

/-- **The instant of a point is on the calendar.** -/
theorem ofParts?_toInstant (t : Timestamp) :
    Instant.ofParts? t.toInstant.seconds t.toInstant.nanoseconds = some t.toInstant := by
  have total := t.total_toInstant
  have small := t.nanoseconds_toInstant_lt
  unfold Instant.total at total
  refine if_pos ⟨?_, ?_, by omega, .inl small⟩
  · show (-8334601228800 : Int) ≤ _
    omega
  · show _ ≤ (8210266876799 : Int)
    omega

/-- **The point of the instant of a point** is the point, or the end of the signed range. -/
theorem ofInstant_toInstant (t : Timestamp) :
    (ofInstant t.toInstant).nanoseconds.toNat = min t.nanoseconds.toNat (2 ^ 63 - 1) := by
  have small := t.nanoseconds_toInstant_lt
  have point := nanoseconds_ofInstant (i := t.toInstant) (by omega)
  rw [t.total_toInstant] at point
  omega

/-- **The instant of the point of an instant in the range is the instant**, unless that is in a
leap second. -/
theorem toInstant_ofInstant {i : Instant} (h : i.nanoseconds < 1000000000) (epoch : 0 ≤ i.total)
    (limit : i.total ≤ 2 ^ 63 - 1) : (ofInstant i).toInstant = i := by
  refine Instant.eq_of_total (nanoseconds_toInstant_lt _) h ?_
  have point := nanoseconds_ofInstant (i := i) (by omega)
  rw [total_toInstant]
  omega

/-! ## §3. Milliseconds -/

/-- **The point of a count of milliseconds**, or the end of the word. -/
theorem nanoseconds_ofMillis (m : UInt64) :
    (ofMillis m).nanoseconds.toNat = min (m.toNat * 1000000) (2 ^ 64 - 1) := by
  unfold ofMillis
  split
  case isTrue fits =>
    have room : m.toNat * 1000000 < 2 ^ 64 := fits
    have product : (m * 1000000).toNat = m.toNat * 1000000 := by
      rw [UInt64.toNat_mul]
      exact Nat.mod_eq_of_lt room
    rw [product]
    omega
  case isFalse past =>
    have large : 2 ^ 64 ≤ m.toNat * 1000000 := Nat.not_lt.mp past
    rw [Nat.min_eq_right (by omega)]
    rfl

theorem toNat_millis (t : Timestamp) : t.millis.toNat = t.nanoseconds.toNat / 1000000 :=
  UInt64.toNat_div _ _

/-- **The milliseconds of the point of a count of milliseconds.** -/
theorem millis_ofMillis (m : UInt64) :
    (ofMillis m).millis.toNat = min m.toNat ((2 ^ 64 - 1) / 1000000) := by
  rw [toNat_millis, nanoseconds_ofMillis]
  omega

theorem ofMillis_mono {m n : UInt64} (h : m ≤ n) :
    (ofMillis m).nanoseconds ≤ (ofMillis n).nanoseconds := by
  rw [UInt64.le_iff_toNat_le] at h ⊢
  rw [nanoseconds_ofMillis, nanoseconds_ofMillis]
  omega

theorem millis_mono {t u : Timestamp} (h : t.nanoseconds ≤ u.nanoseconds) :
    t.millis ≤ u.millis := by
  rw [UInt64.le_iff_toNat_le] at h ⊢
  rw [toNat_millis, toNat_millis]
  exact Nat.div_le_div_right h

/-! ## §4. All conversions -/

/-- **Conversions saturate.**  From the calendar, the result is the nearest point in the signed
range.  To the calendar, there always is a result, and the way back leads to the point or to the
end of the signed range; so an instant in the range that is in no leap second comes back.
Milliseconds are taken as they are up to the end of the word, and stay in order. -/
theorem conversions_saturate :
    (∀ (seconds : Int) (nanoseconds : Nat), nanoseconds < 2000000000 →
      ((ofInstant ⟨seconds, nanoseconds⟩).nanoseconds.toNat : Int) =
        max 0 (min (seconds * 1000000000 + nanoseconds) (2 ^ 63 - 1))) ∧
    (∀ t : Timestamp,
      Instant.ofParts? t.toInstant.seconds t.toInstant.nanoseconds = some t.toInstant ∧
      t.toInstant.total = (min t.nanoseconds.toNat (2 ^ 63 - 1) : Nat) ∧
      (ofInstant t.toInstant).nanoseconds.toNat = min t.nanoseconds.toNat (2 ^ 63 - 1)) ∧
    (∀ i : Instant, i.nanoseconds < 1000000000 → 0 ≤ i.total → i.total ≤ 2 ^ 63 - 1 →
      (ofInstant i).toInstant = i) ∧
    (∀ m : UInt64, (ofMillis m).nanoseconds.toNat = min (m.toNat * 1000000) (2 ^ 64 - 1) ∧
      (ofMillis m).millis.toNat = min m.toNat ((2 ^ 64 - 1) / 1000000)) ∧
    (∀ m n : UInt64, m ≤ n → (ofMillis m).nanoseconds ≤ (ofMillis n).nanoseconds) ∧
    (∀ t u : Timestamp, t.nanoseconds ≤ u.nanoseconds → t.millis ≤ u.millis) := by
  refine ⟨?calendar, ?point, ?instant, ?millis, ?ofMillis, ?order⟩
  case calendar =>
    intro seconds nanoseconds h
    exact nanoseconds_ofInstant (i := ⟨seconds, nanoseconds⟩) h
  case point => exact fun t => ⟨t.ofParts?_toInstant, t.total_toInstant, t.ofInstant_toInstant⟩
  case instant => exact fun i h => toInstant_ofInstant h
  case millis => exact fun m => ⟨nanoseconds_ofMillis m, millis_ofMillis m⟩
  case ofMillis => exact fun m n h => ofMillis_mono h
  case order => exact fun t u h => millis_mono h

/-- The leap second before the epoch reaches past it. -/
theorem conversions_saturate_leap_second : (1500000000 : Nat) < 2000000000 ∧
    ((ofInstant ⟨-1, 1500000000⟩).nanoseconds.toNat : Int) = 500000000 :=
  ⟨by decide, conversions_saturate.1 (-1) 1500000000 (by decide)⟩

end Timestamp

end Correlator
