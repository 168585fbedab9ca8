/-
  Correlator.Message.Basic — MESSAGES.

  A message has a type and fields in the order in which their tags were first
  set.  Setting a tag that is present replaces its value in place, so no tag
  occurs twice in a message built by setting fields.

  Main content:
    * `Message.set`, `Message.remove`, `Message.get?` — the field operations,
    * `Message.seqNum?` — the message's own sequence number,
    * `Message.kind` — how a connection treats it.
-/
import Correlator.Message.MsgType
import Correlator.Message.Tag
import Correlator.SeqNum
import Correlator.CompId
namespace Correlator

/-- A message: its type and its fields in order. -/
structure Message where
  type : MsgType
  fields : List (Tag × String)
  deriving DecidableEq, Repr

namespace Message

/-- A message without fields. -/
def empty (type : MsgType) : Message := ⟨type, []⟩

/-! ## Fields -/

/-- The value of the first field with the tag. -/
def lookup (tag : Tag) : List (Tag × String) → Option String
  | [] => none
  | (t, v) :: rest => if t = tag then some v else lookup tag rest

/-- The fields with the first one of the tag replaced, or with a new one at the end. -/
def store (tag : Tag) (value : String) : List (Tag × String) → List (Tag × String)
  | [] => [(tag, value)]
  | (t, v) :: rest => if t = tag then (t, value) :: rest else (t, v) :: store tag value rest

/-- The value of a field. -/
def get? (m : Message) (tag : Tag) : Option String := lookup tag m.fields

/-- The field is present. -/
def has (m : Message) (tag : Tag) : Bool := (m.get? tag).isSome

/-- Sets a field, in its place if it is present and at the end if not. -/
def set (m : Message) (tag : Tag) (value : String) : Message :=
  { m with fields := store tag value m.fields }

/-- Takes a field out and returns the value it had. -/
def remove (m : Message) (tag : Tag) : Option String × Message :=
  (m.get? tag, { m with fields := m.fields.filter fun f => f.1 ≠ tag })

/-- The number of fields. -/
def size (m : Message) : Nat := m.fields.length

/-- A message with the fields set one after the other. -/
def ofFields (type : MsgType) (fields : List (Tag × String)) : Message :=
  fields.foldl (fun m f => m.set f.1 f.2) (empty type)

/-- How a connection treats the message. -/
def kind (m : Message) : MessageKind := m.type.kind

/-! ## Values read from fields -/

/-- A field's value as a 64-bit word. -/
def word? (m : Message) (tag : Tag) : Option UInt64 :=
  (m.get? tag).bind Text.Numeral.word?

/-- The message's own sequence number. -/
def seqNum? (m : Message) : Option SeqNum := (m.word? Tag.msgSeqNum).map SeqNum.mk

/-- A field's value as a number from zero to `limit`. -/
def natural? (m : Message) (tag : Tag) (limit : Nat) : Option Nat :=
  (m.get? tag).bind fun s => (Text.Numeral.unsigned limit s).toOption

/-- A field's value as a number from minus `below` to `above`. -/
def integer? (m : Message) (tag : Tag) (below above : Nat) : Option Int :=
  (m.get? tag).bind fun s => (Text.Numeral.signed below above s).toOption

/-- A field's value as a truth value, spelled out in lower case. -/
def truth? (m : Message) (tag : Tag) : Option Bool :=
  (m.get? tag).bind fun s => if s = "true" then some true else if s = "false" then some false else none

/-- A field's value as a single character. -/
def char? (m : Message) (tag : Tag) : Option Char :=
  (m.get? tag).bind fun s =>
    match s.toList with
    | [c] => some c
    | _ => none

/-- A field's value as the name of a party. -/
def compId? (m : Message) (tag : Tag) : Option CompId := (m.get? tag).bind CompId.ofString?

/-- A field's value as the code of a message type. -/
def msgType? (m : Message) (tag : Tag) : Option MsgType := (m.get? tag).map MsgType.ofCode

/-! ## Reading back -/

@[simp] theorem lookup_store_self (tag : Tag) (v : String) (fs : List (Tag × String)) :
    lookup tag (store tag v fs) = some v := by
  induction fs with
  | nil => simp [store, lookup]
  | cons f fs ih =>
    obtain ⟨t, w⟩ := f
    by_cases h : t = tag <;> simp [store, lookup, h, ih]

theorem lookup_store_of_ne {tag other : Tag} (v : String) (fs : List (Tag × String))
    (h : other ≠ tag) : lookup other (store tag v fs) = lookup other fs := by
  induction fs with
  | nil => simp [store, lookup, Ne.symm h]
  | cons f fs ih =>
    obtain ⟨t, w⟩ := f
    by_cases ht : t = tag
    · subst ht; simp [store, lookup, Ne.symm h]
    · simp [store, lookup, ht, ih]

/-- A field that was set is read back. -/
@[simp] theorem get?_set_self (m : Message) (tag : Tag) (v : String) :
    (m.set tag v).get? tag = some v := lookup_store_self tag v m.fields

/-- Setting a field leaves the others as they are. -/
theorem get?_set_of_ne {m : Message} {tag other : Tag} (v : String) (h : other ≠ tag) :
    (m.set tag v).get? other = m.get? other := lookup_store_of_ne v m.fields h

/-- Setting a field does not change the kind. -/
@[simp] theorem kind_set (m : Message) (tag : Tag) (v : String) : (m.set tag v).kind = m.kind := rfl

end Message

end Correlator
