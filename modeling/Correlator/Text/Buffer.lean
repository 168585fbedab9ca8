/-
  Correlator.Text.Buffer — TEXTS OF LIMITED SIZE.

  A buffer holds a text of a limited number of bytes in UTF-8.  A piece of text
  is added as a whole or not at all.  Writing several pieces stops at the first
  one that there is no room for, and the buffer keeps what it has.

  Main content:
    * `Buffer`, `Buffer.push?`, `Buffer.write`,
    * `Buffer.write_of_fits` — nothing is lost of pieces that fit together.
-/
namespace Correlator.Text

/-- A text that takes no more than `limit` bytes. -/
structure Buffer (limit : Nat) where
  text : String
  fits : text.utf8ByteSize ≤ limit

namespace Buffer

variable {limit : Nat}

/-- A buffer without text. -/
def empty : Buffer limit := ⟨"", Nat.zero_le limit⟩

/-- Adds a piece at the end, if there is room for all of it. -/
def push? (b : Buffer limit) (piece : String) : Option (Buffer limit) :=
  if h : (b.text ++ piece).utf8ByteSize ≤ limit then some ⟨b.text ++ piece, h⟩ else none

/-- Adds pieces one after the other, until there is no room for one.  Says whether there was room
for all of them. -/
def write (b : Buffer limit) : List String → Bool × Buffer limit
  | [] => (true, b)
  | piece :: rest =>
    match b.push? piece with
    | none => (false, b)
    | some b => b.write rest

/-- However a text that fits is cut into pieces, it is written to its end. -/
theorem write_of_fits (b : Buffer limit) {pieces : List String}
    (h : (b.text ++ String.join pieces).utf8ByteSize ≤ limit) :
    (b.write pieces).1 = true ∧ (b.write pieces).2.text = b.text ++ String.join pieces := by
  induction pieces generalizing b with
  | nil => exact ⟨rfl, String.append_empty.symm⟩
  | cons piece rest ih =>
    rw [String.join_cons, ← String.append_assoc] at h ⊢
    have room : (b.text ++ piece).utf8ByteSize ≤ limit := by
      rw [String.utf8ByteSize_append] at h
      omega
    rw [write, push?, dif_pos room]
    exact ih ⟨b.text ++ piece, room⟩ h

end Buffer

end Correlator.Text
