/-
  Correlator.Proofs.Clock — DATES AND TIMES OF DAY AS TEXT.

  A date and a time of day count the milliseconds from the epoch: each part is
  less than one step of the part before it.  The text is a row of the same parts.
  So texts are in the order of the milliseconds that they tell.

  Main results:
    * `Civil.compare_millis` — dates and times are in the order of their parts,
    * `Instant.shows_text`, `Instant.millis_civil` — the text of an instant,
    * `Timestamp.format_eq` — nothing of the text is lost,
    * `Timestamp.compare_format` — the order of texts,
    * `Timestamp.format_complete_in_order` — the texts of points.
-/
import Correlator.Proofs.Digits
import Correlator.Proofs.Saturation
namespace Correlator

open Text.Numeral (Fills Writes padded writes_padded)

/-! ## §1. Dates and times of day -/

/-- A date and a time of day, to the millisecond. -/
structure Civil where
  date : Date
  hour : Nat
  minute : Nat
  second : Nat
  millisecond : Nat

namespace Civil

/-- The date exists, from the epoch on, and so does the time of day. -/
structure IsValid (c : Civil) : Prop where
  date : c.date.IsValid
  epoch : 1970 ≤ c.date.year
  hour : c.hour < 24
  minute : c.minute < 60
  second : c.second < 60
  millisecond : c.millisecond < 1000

/-- The milliseconds from the epoch. -/
def millis (c : Civil) : Nat :=
  (((c.date.dayNumber * 24 + c.hour) * 60 + c.minute) * 60 + c.second) * 1000 + c.millisecond

/-- The numbers from the year to the millisecond. -/
def parts (c : Civil) : List Nat :=
  [c.date.year, c.date.month, c.date.day, c.hour, c.minute, c.second, c.millisecond]

/-- **Dates and times are in the order of their parts.** -/
theorem compare_millis {c d : Civil} (hc : c.IsValid) (hd : d.IsValid) :
    compare c.millis d.millis = compare c.parts d.parts := by
  unfold millis parts
  rw [compare_mul_add hc.millisecond hd.millisecond, compare_mul_add hc.second hd.second,
    compare_mul_add hc.minute hd.minute, compare_mul_add hc.hour hd.hour,
    Date.compare_dayNumber hc.date hd.date hc.epoch hd.epoch]
  simp only [List.compare_cons_cons, List.compare_nil_nil, Ordering.then_assoc, Ordering.then_eq]

/-- The shape YYYYMMDD-HH:MM:SS.sss. -/
def shape : List (List Char × Nat) :=
  [([], 4), ([], 2), ([], 2), (['-'], 2), ([':'], 2), ([':'], 2), (['.'], 3)]

/-- The characters tell the date and the time in that shape. -/
def Shows (c : Civil) (text : List Char) : Prop := Fills shape c.parts text

namespace Shows

variable {c d : Civil} {x y : List Char}

theorem length_eq (h : c.Shows x) : x.length = 21 := Fills.length_eq h

theorem ascii (h : c.Shows x) : ∀ ch ∈ x, ch.toNat < 128 := Fills.ascii h (by simp [shape])

theorem length_bytes (h : c.Shows x) : (Text.bytes (String.ofList x)).length = 21 := by
  rw [Text.bytes_ofList h.ascii, List.length_map, h.length_eq]

/-- **Texts are in the order of the milliseconds that they tell.** -/
theorem compare_bytes (hx : c.Shows x) (hy : d.Shows y) (hc : c.IsValid) (hd : d.IsValid) :
    compare (Text.bytes (String.ofList x)) (Text.bytes (String.ofList y)) =
      compare c.millis d.millis := by
  rw [Text.bytes_ofList hx.ascii, Text.bytes_ofList hy.ascii, Fills.compare_eq hx hy,
    compare_millis hc hd]

end Shows

end Civil

/-! ## §2. The text of an instant -/

namespace Instant

variable {i : Instant}

/-- The date and the time of day of an instant from the epoch on. -/
def civil (i : Instant) : Civil where
  date := .ofDayNumber (i.seconds.toNat / 86400)
  hour := i.seconds.toNat / 3600 % 24
  minute := i.seconds.toNat / 60 % 60
  second := i.seconds.toNat % 60
  millisecond := i.nanoseconds / 1000000

theorem isValid_civil (h : i.nanoseconds < 1000000000) : i.civil.IsValid where
  date := Date.isValid_ofDayNumber _
  epoch := Date.year_ofDayNumber _
  hour := Nat.mod_lt _ (by decide)
  minute := Nat.mod_lt _ (by decide)
  second := Nat.mod_lt _ (by decide)
  millisecond := Nat.div_lt_of_lt_mul h

/-- **The date and the time of day are those of the millisecond of the instant.** -/
theorem millis_civil (h : i.nanoseconds < 1000000000) {n : Nat} (count : i.total = n) :
    i.civil.millis = n / 1000000 := by
  unfold Civil.millis civil
  dsimp only
  rw [Date.dayNumber_ofDayNumber]
  unfold total at count
  omega

/-- The years of the signed range have four digits. -/
theorem year_civil_lt {n : Nat} (count : i.total = n) (limit : n ≤ 2 ^ 63 - 1) :
    i.civil.date.year < 10 ^ 4 := by
  have days : i.civil.date.dayNumber = i.seconds.toNat / 86400 := Date.dayNumber_ofDayNumber _
  have years := Date.le_yearsLength 1970 (i.civil.date.year - 1970)
  unfold Date.dayNumber at days
  unfold total at count
  -- There are at most 106751 days in the range, which make 292 years at 365 days each.
  omega

/-- Outside of leap seconds, the text is made of the parts. -/
theorem text_eq (h : i.nanoseconds < 1000000000) : i.text =
    padded 4 i.civil.date.year ++ padded 2 i.civil.date.month ++ padded 2 i.civil.date.day ++
      ['-'] ++ padded 2 i.civil.hour ++ [':'] ++ padded 2 i.civil.minute ++ [':'] ++
      padded 2 i.civil.second ++ ['.'] ++ padded 3 i.civil.millisecond := by
  simp only [text, civil, Nat.div_eq_of_lt h, Nat.mod_eq_of_lt h, Nat.add_zero]

/-- **The text of an instant tells its date and time of day.** -/
theorem shows_text (h : i.nanoseconds < 1000000000) (year : i.civil.date.year < 10 ^ 4) :
    i.civil.Shows i.text := by
  have valid := isValid_civil h
  have row : Fills Civil.shape i.civil.parts _ :=
    .cons (writes_padded (by decide) year) <|
    .cons (writes_padded (by decide) (Nat.lt_of_le_of_lt valid.date.2.1 (by decide))) <|
    .cons (writes_padded (by decide) (Nat.lt_of_le_of_lt valid.date.day_le (by decide))) <|
    .cons (writes_padded (by decide) (Nat.lt_trans valid.hour (by decide))) <|
    .cons (writes_padded (by decide) (Nat.lt_trans valid.minute (by decide))) <|
    .cons (writes_padded (by decide) (Nat.lt_trans valid.second (by decide))) <|
    .cons (writes_padded (by decide) valid.millisecond) .nil
  rw [Civil.Shows, text_eq h]
  simpa only [List.append_assoc, List.nil_append, List.append_nil] using row

end Instant

/-! ## §3. The text of a point -/

namespace Timestamp

/-- The milliseconds from the epoch to a point, but at most to the end of the signed range. -/
def shownMillis (t : Timestamp) : Nat := min t.nanoseconds.toNat (2 ^ 63 - 1) / 1000000

theorem isValid_civil (t : Timestamp) : t.toInstant.civil.IsValid :=
  Instant.isValid_civil t.nanoseconds_toInstant_lt

theorem millis_civil (t : Timestamp) : t.toInstant.civil.millis = t.shownMillis :=
  Instant.millis_civil t.nanoseconds_toInstant_lt t.total_toInstant

theorem shows_text (t : Timestamp) : t.toInstant.civil.Shows t.toInstant.text :=
  Instant.shows_text t.nanoseconds_toInstant_lt
    (Instant.year_civil_lt t.total_toInstant (Nat.min_le_right _ _))

/-- However the text is cut into pieces, there is room for all of it. -/
theorem write_pieces (t : Timestamp) {pieces : List String}
    (h : String.join pieces = String.ofList t.toInstant.text) :
    ((Text.Buffer.empty : Text.Buffer textLimit).write pieces).1 = true ∧
      ((Text.Buffer.empty : Text.Buffer textLimit).write pieces).2.text =
        String.ofList t.toInstant.text := by
  have room : ("" ++ String.join pieces).utf8ByteSize ≤ textLimit := by
    rw [String.empty_append, h, ← Text.length_bytes, t.shows_text.length_bytes]
    decide
  have whole := Text.Buffer.write_of_fits Text.Buffer.empty room
  rw [h, Text.Buffer.empty, String.empty_append] at whole
  exact whole

theorem written_eq (t : Timestamp) :
    t.written.1 = true ∧ t.written.2.text = String.ofList t.toInstant.text := by
  unfold written
  refine t.write_pieces ?_
  rw [String.join_cons, String.join_nil, String.append_empty]

/-- **Nothing of the text is lost.** -/
theorem format_eq (t : Timestamp) : t.format = String.ofList t.toInstant.text := t.written_eq.2

/-- The bytes of the texts of points are in the order of the milliseconds. -/
theorem compare_format (t u : Timestamp) :
    compare (Text.bytes t.format) (Text.bytes u.format) =
      compare t.shownMillis u.shownMillis := by
  rw [t.format_eq, u.format_eq, t.shows_text.compare_bytes u.shows_text t.isValid_civil
    u.isValid_civil, t.millis_civil, u.millis_civil]

/-- Points have the same text if they have the same milliseconds, and only then. -/
theorem format_eq_iff (t u : Timestamp) :
    t.format = u.format ↔ t.shownMillis = u.shownMillis := by
  rw [← Text.bytes_inj, ← Std.compare_eq_iff_eq, compare_format, Nat.compare_eq_eq]

/-- **The texts of points are complete and in order.**  A text always fits in its buffer, in
whatever pieces it is written.  It has 21 bytes, all of them ASCII, and tells a date and time that
exist, which count the milliseconds of the point.  The texts of two points are in the order of
these milliseconds, and equal if and only if these are. -/
theorem format_complete_in_order :
    (∀ t : Timestamp, t.written.1 = true ∧
      (∀ pieces, String.join pieces = String.ofList t.toInstant.text →
        ((Text.Buffer.empty : Text.Buffer textLimit).write pieces).1 = true ∧
        ((Text.Buffer.empty : Text.Buffer textLimit).write pieces).2.text = t.format) ∧
      (Text.bytes t.format).length = 21 ∧ (∀ c ∈ t.format.toList, c.toNat < 128) ∧
      ∃ c : Civil, c.IsValid ∧ c.millis = t.shownMillis ∧ c.Shows t.format.toList) ∧
    ∀ t u : Timestamp,
      compare (Text.bytes t.format) (Text.bytes u.format) =
        compare t.shownMillis u.shownMillis ∧
      (t.format = u.format ↔ t.shownMillis = u.shownMillis) := by
  refine ⟨fun t => ⟨?room, ?pieces, ?length, ?ascii, ?date⟩,
    fun t u => ⟨compare_format t u, format_eq_iff t u⟩⟩
  case room => exact t.written_eq.1
  case pieces =>
    intro pieces h
    rw [t.format_eq]
    exact t.write_pieces h
  case length =>
    rw [t.format_eq]
    exact t.shows_text.length_bytes
  case ascii =>
    rw [t.format_eq, String.toList_ofList]
    exact t.shows_text.ascii
  case date =>
    refine ⟨t.toInstant.civil, t.isValid_civil, t.millis_civil, ?_⟩
    rw [t.format_eq, String.toList_ofList]
    exact t.shows_text

/-- All points from the end of the signed range on have one text. -/
theorem format_complete_in_order_past_the_end :
    (⟨signedEnd⟩ : Timestamp).format = (⟨wordEnd⟩ : Timestamp).format :=
  (format_complete_in_order.2 _ _).2.mpr rfl

/-- The leap day of a century that has one, and the last text of all. -/
example : (⟨951827696789123456⟩ : Timestamp).format = "20000229-12:34:56.789" ∧
    (⟨wordEnd⟩ : Timestamp).format = "22620411-23:47:16.854" := by decide +kernel

end Timestamp

end Correlator
