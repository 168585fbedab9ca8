/-
  Correlator.Datum.Basic — DATA AS CONFIGURATION FILES HOLD IT.

  A datum is a tree of plain values, whatever notation a file is written in.
  A record is read from an object, by the names of its fields, or from a list,
  by their places.  In an object a name that the record does not know is
  passed over; a list may leave out fields at its end but may not be longer
  than the record.

  Main content:
    * `Datum.fields?` — the fields of a record,
    * `Datum.required`, `Datum.defaulted`, `Datum.nullable` — how a field that
      is missing or null is read,
    * `Datum.variant?` — one of several named alternatives.
-/
namespace Correlator

/-- A tree of plain values. -/
inductive Datum where
  | null
  | flag (value : Bool)
  | integer (value : Int)
  /-- A number written with a fraction or an exponent, or too long for a word. -/
  | fractional
  | text (value : String)
  | list (items : List Datum)
  | object (entries : List (String × Datum))
  deriving Inhabited

namespace Datum

/-! ## Plain values -/

/-- A text. -/
def text? : Datum → Option String
  | text s => some s
  | _ => none

/-- A whole number from zero to `limit`. -/
def natural? (limit : Nat) : Datum → Option Nat
  | integer n => if 0 ≤ n ∧ n ≤ limit then some n.toNat else none
  | _ => none

/-- A 64-bit word. -/
def word? (d : Datum) : Option UInt64 := (d.natural? (UInt64.size - 1)).map UInt64.ofNat

/-! ## Records -/

/-- The entry of that name. -/
def entry? (name : String) : List (String × Datum) → Option Datum
  | [] => none
  | (k, v) :: rest => if k = name then some v else entry? name rest

/-- The fields of a record in order, each one there or not. -/
def fields? (names : List String) : Datum → Option (List (Option Datum))
  | object es => some (names.map fun n => entry? n es)
  | list ds =>
    if ds.length ≤ names.length then
      some (ds.map some ++ List.replicate (names.length - ds.length) none)
    else none
  | _ => none

/-- A field that must be there. -/
def required {α : Type} (read : Datum → Option α) (field : Option Datum) : Option α :=
  field.bind read

/-- A field with a value to take if it is not there. -/
def defaulted {α : Type} (value : α) (read : Datum → Option α) : Option Datum → Option α
  | none => some value
  | some d => read d

/-- A value or null. -/
def nullable {α : Type} (read : Datum → Option α) : Datum → Option (Option α)
  | null => some none
  | d => (read d).map some

/-- The object has no entries but those named. -/
def onlyNamed (names : List String) (entries : List (String × Datum)) : Bool :=
  entries.all fun e => names.contains e.1

/-! ## Alternatives -/

/-- A named alternative: its name alone, or an object that gives what goes with the name. -/
def variant? : Datum → Option (String × Option Datum)
  | text s => some (s, none)
  | object [(k, v)] => some (k, some v)
  | _ => none

/-- An alternative that nothing goes with. -/
def isBare : Option Datum → Bool
  | none => true
  | some null => true
  | _ => false

/-- A text, or null. -/
def ofOption : Option String → Datum
  | none => null
  | some s => text s

end Datum

end Correlator
