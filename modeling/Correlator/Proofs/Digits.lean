/-
  Correlator.Proofs.Digits — NUMBERS OF A FIXED WIDTH, AND THE ORDER OF TEXTS.

  A number that is written with zeros in front, up to a fixed number of digits,
  can be read back, and such numbers are in the order of their bytes.  Texts are
  compared byte by byte, so texts that begin with parts of one length are
  compared part by part.

  Main results:
    * `Text.bytes` — a text in UTF-8,
    * `Text.compare_append` — an order that is decided part by part,
    * `Text.Numeral.writes_padded` — what is written is the number,
    * `Text.Numeral.Writes.compare_eq` — the order of numbers,
    * `Text.Numeral.Fills.compare_eq` — the order of rows of numbers.
-/
import Correlator.Proofs.Calendar
import Correlator.Text.Numeral
namespace Correlator.Text

/-! ## §1. Bytes -/

/-- The bytes of a text in UTF-8. -/
def bytes (s : String) : List UInt8 := s.toUTF8.data.toList

/-- A text is known by its bytes. -/
theorem bytes_inj {s t : String} : bytes s = bytes t ↔ s = t := by
  constructor
  · intro h
    exact String.toByteArray_inj.mp (ByteArray.ext (Array.toList_inj.mp h))
  · exact congrArg bytes

theorem length_bytes (s : String) : (bytes s).length = s.utf8ByteSize := rfl

/-- The bytes of a text are those of its characters. -/
theorem bytes_ofList_eq (cs : List Char) :
    bytes (String.ofList cs) = cs.flatMap String.utf8EncodeChar := by
  simp [bytes, List.utf8Encode]

/-- A character of a single byte is that byte. -/
theorem bytes_ofList {cs : List Char} (h : ∀ c ∈ cs, c.toNat < 128) :
    bytes (String.ofList cs) = cs.map Char.toUInt8 := by
  rw [bytes_ofList_eq]
  induction cs with
  | nil => rfl
  | cons c cs ih =>
    have single : c.utf8Size = 1 := Char.utf8Size_eq_one_iff.mpr
      (UInt32.le_iff_toNat_le.mpr (Nat.le_of_lt_succ (h c List.mem_cons_self)))
    rw [List.flatMap_cons, String.utf8EncodeChar_eq_singleton single, List.map_cons,
      ih fun c hc => h c (List.mem_cons_of_mem _ hc)]
    rfl

theorem compare_byte (a b : UInt8) : compare a b = compare a.toNat b.toNat := by
  simp only [compare, compareOfLessAndEq, UInt8.lt_iff_toNat_lt, UInt8.toNat_inj]

/-- Texts are compared by their first parts, if these have the same length, and then by the rest. -/
theorem compare_append {xs ys : List UInt8} (h : xs.length = ys.length) (r s : List UInt8) :
    compare (xs ++ r) (ys ++ s) = (compare xs ys).then (compare r s) := by
  induction xs generalizing ys with
  | nil =>
    obtain rfl := List.length_eq_zero_iff.mp h.symm
    rw [List.compare_nil_nil]
    rfl
  | cons x xs ih =>
    cases ys with
    | nil => cases h
    | cons y ys =>
      rw [List.cons_append, List.cons_append, List.compare_cons_cons, List.compare_cons_cons,
        ih (Nat.succ.inj h), Ordering.then_assoc]

/-- A first part that both have makes no difference. -/
theorem compare_append_self (xs r s : List UInt8) : compare (xs ++ r) (xs ++ s) = compare r s := by
  rw [compare_append rfl, Std.compare_self]
  rfl

namespace Numeral

/-! ## §2. Numbers of a fixed width -/

/-- The characters are digits, of that number, and make the value. -/
structure Writes (width n : Nat) (digits : List Char) : Prop where
  length : digits.length = width
  digit : ∀ c ∈ digits, c.isDigit = true
  value : Nat.ofDigitChars 10 digits 0 = n

/-- A number with zeros in front up to the width is written. -/
theorem writes_padded {width n : Nat} (hw : 0 < width) (hn : n < 10 ^ width) :
    Writes width n (padded width n) := by
  have short : (Nat.toDigits 10 n).length ≤ width :=
    (Nat.length_toDigits_le_iff (by decide) hw).mpr hn
  constructor
  case length =>
    rw [padded, List.length_append, List.length_replicate]
    omega
  case digit =>
    intro c hc
    rcases List.mem_append.mp hc with hc | hc
    · rw [List.eq_of_mem_replicate hc]
      rfl
    · exact Nat.isDigit_of_mem_toDigits (by decide) (by decide) hc
  case value =>
    rw [padded, Nat.ofDigitChars_append, Nat.ofDigitChars_replicate_zero, Nat.mul_zero,
      Nat.ofDigitChars_ten_toDigits]

theorem toNat_of_isDigit {c : Char} (h : c.isDigit = true) : 48 ≤ c.toNat ∧ c.toNat ≤ 57 := by
  simp only [Char.isDigit, Bool.and_eq_true, decide_eq_true_eq, ge_iff_le,
    UInt32.le_iff_toNat_le] at h
  exact h

/-- Digits are in the order of their bytes. -/
theorem compare_digit {c d : Char} (hc : 48 ≤ c.toNat ∧ c.toNat ≤ 57)
    (hd : 48 ≤ d.toNat ∧ d.toNat ≤ 57) :
    compare c.toUInt8.toNat d.toUInt8.toNat = compare (c.toNat - 48) (d.toNat - 48) := by
  have byte : ∀ {e : Char}, e.toNat ≤ 57 → e.toUInt8.toNat = e.toNat := fun h =>
    Nat.mod_eq_of_lt (Nat.lt_of_le_of_lt h (by decide))
  rw [byte hc.2, byte hd.2, Nat.compare_eq_ite_lt, Nat.compare_eq_ite_lt]
  grind

/-- The first of several digits counts for a power of ten. -/
theorem ofDigitChars_cons (c : Char) (cs : List Char) : Nat.ofDigitChars 10 (c :: cs) 0 =
    (c.toNat - 48) * 10 ^ cs.length + Nat.ofDigitChars 10 cs 0 := by
  rw [Nat.ofDigitChars_cons, Nat.ofDigitChars_eq_ofDigitChars_zero, Nat.mul_comm,
    Nat.mul_zero, Nat.zero_add]
  rfl

namespace Writes

variable {width n m : Nat} {xs ys : List Char}

theorem lt (h : Writes width n xs) : n < 10 ^ width := by
  induction xs generalizing width n with
  | nil =>
    rw [← h.value, ← h.length]
    decide
  | cons c cs ih =>
    have small := toNat_of_isDigit (h.digit c List.mem_cons_self)
    have rest : Nat.ofDigitChars 10 cs 0 < 10 ^ cs.length :=
      ih ⟨rfl, fun c hc => h.digit c (List.mem_cons_of_mem _ hc), rfl⟩
    have first : (c.toNat - 48) * 10 ^ cs.length ≤ 9 * 10 ^ cs.length :=
      Nat.mul_le_mul_right _ (by omega)
    rw [← h.value, ← h.length, ofDigitChars_cons, List.length_cons, Nat.pow_succ]
    omega

/-- Digits are ASCII. -/
theorem ascii (h : Writes width n xs) {c : Char} (hc : c ∈ xs) : c.toNat < 128 := by
  have small := toNat_of_isDigit (h.digit c hc)
  omega

/-- **Numbers of one width are in the order of their bytes.** -/
theorem compare_eq (hx : Writes width n xs) (hy : Writes width m ys) :
    compare (xs.map Char.toUInt8) (ys.map Char.toUInt8) = compare n m := by
  induction xs generalizing width n m ys with
  | nil =>
    obtain rfl := List.length_eq_zero_iff.mp (hy.length.trans hx.length.symm)
    rw [← hx.value, ← hy.value, Nat.compare_eq_eq.mpr rfl]
    exact List.compare_nil_nil
  | cons c cs ih =>
    cases ys with
    | nil => cases hy.length.trans hx.length.symm
    | cons d ds =>
      have clast : Writes cs.length _ cs :=
        ⟨rfl, fun c hc => hx.digit c (List.mem_cons_of_mem _ hc), rfl⟩
      have same : ds.length = cs.length := Nat.succ.inj (hy.length.trans hx.length.symm)
      have dlast : Writes cs.length _ ds :=
        ⟨same, fun c hc => hy.digit c (List.mem_cons_of_mem _ hc), rfl⟩
      have csmall := toNat_of_isDigit (hx.digit c List.mem_cons_self)
      have dsmall := toNat_of_isDigit (hy.digit d List.mem_cons_self)
      rw [← hx.value, ← hy.value, ofDigitChars_cons, ofDigitChars_cons, same,
        compare_mul_add clast.lt dlast.lt]
      rw [List.map_cons, List.map_cons, List.compare_cons_cons, ih clast dlast, compare_byte,
        compare_digit csmall dsmall]

end Writes

/-! ## §3. Rows of numbers -/

/-- The text is a row of numbers.  The shape gives the mark before each number and the number of its
digits. -/
inductive Fills : List (List Char × Nat) → List Nat → List Char → Prop where
  | nil : Fills [] [] []
  | cons {mark digits text : List Char} {width n : Nat} {shape : List (List Char × Nat)}
      {ns : List Nat} (first : Writes width n digits) (rest : Fills shape ns text) :
      Fills ((mark, width) :: shape) (n :: ns) (mark ++ digits ++ text)

namespace Fills

variable {shape : List (List Char × Nat)} {ns ms : List Nat} {xs ys : List Char}

/-- The shape alone gives the length. -/
theorem length_eq (h : Fills shape ns xs) :
    xs.length = (shape.map fun field => field.1.length + field.2).sum := by
  induction h with
  | nil => rfl
  | cons first rest ih =>
    rw [List.length_append, List.length_append, first.length, ih, List.map_cons, List.sum_cons]

theorem ascii (h : Fills shape ns xs) (marks : ∀ field ∈ shape, ∀ c ∈ field.1, c.toNat < 128) :
    ∀ c ∈ xs, c.toNat < 128 := by
  induction h with
  | nil => exact fun c hc => absurd hc List.not_mem_nil
  | cons first rest ih =>
    intro c hc
    rcases List.mem_append.mp hc with hc | hc
    · rcases List.mem_append.mp hc with hc | hc
      · exact marks _ List.mem_cons_self c hc
      · exact first.ascii hc
    · exact ih (fun field h => marks field (List.mem_cons_of_mem _ h)) c hc

/-- **Rows of one shape are in the order of their bytes.** -/
theorem compare_eq (hx : Fills shape ns xs) (hy : Fills shape ms ys) :
    compare (xs.map Char.toUInt8) (ys.map Char.toUInt8) = compare ns ms := by
  induction hx generalizing ms ys with
  | nil =>
    cases hy
    rw [List.compare_nil_nil]
    exact List.compare_nil_nil
  | cons first rest ih =>
    cases hy with
    | cons first' rest' =>
      simp only [List.map_append, List.append_assoc]
      rw [compare_append_self,
        compare_append (by rw [List.length_map, List.length_map, first.length, first'.length]),
        first.compare_eq first', ih rest', List.compare_cons_cons]

end Fills

end Numeral

end Correlator.Text
