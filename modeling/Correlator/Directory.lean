/-
  Correlator.Directory — THE NAMES OF SINKS AND SUBSCRIPTIONS.

  Callers enter what they register under names.  An entry leads to a sink and,
  for a subscription, tells whether its reader is there and whether it is
  waiting for a message.  An entry whose subscription was given up still leads
  to the sink.
-/
import Correlator.Operation
namespace Correlator

/-- The reading end of an entry. -/
inductive Reader where
  /-- There is none: a scripted waiter, or a subscription that was given up. -/
  | absent
  | idle
  /-- The reader has begun to wait for a message. -/
  | waiting
  deriving DecidableEq, Repr

/-- What a name leads to. -/
structure Entry where
  sink : SinkRef
  reader : Reader
  deriving DecidableEq, Repr

/-- The names in use. -/
abbrev Directory := List (String × Entry)

namespace Directory

/-- The entry of a name. -/
def find? (name : String) : Directory → Option Entry
  | [] => none
  | (n, e) :: rest => if n = name then some e else find? name rest

/-- Enters a name, in place of an earlier entry. -/
def enter (name : String) (e : Entry) : Directory → Directory
  | [] => [(name, e)]
  | (n, f) :: rest => if n = name then (n, e) :: rest else (n, f) :: enter name e rest

@[simp] theorem find?_enter_self (name : String) (e : Entry) (d : Directory) :
    find? name (enter name e d) = some e := by
  induction d with
  | nil => simp [enter, find?]
  | cons x d ih =>
    obtain ⟨n, f⟩ := x
    by_cases h : n = name <;> simp [enter, find?, h, ih]

/-- Entering a name leaves the others as they are. -/
theorem find?_enter_of_ne {name other : String} (e : Entry) (d : Directory) (h : other ≠ name) :
    find? other (enter name e d) = find? other d := by
  induction d with
  | nil => simp [enter, find?, Ne.symm h]
  | cons x d ih =>
    obtain ⟨n, f⟩ := x
    by_cases hn : n = name
    · subst hn; simp [enter, find?, Ne.symm h]
    · simp [enter, find?, hn, ih]

end Directory

end Correlator
