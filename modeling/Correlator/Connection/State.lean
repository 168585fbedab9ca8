/-
  Correlator.Connection.State — THE LIFE OF A CONNECTION.

  A connection is created, authenticates, is established and drops, and from
  there starts again.  `ConnectionState.canBecome` is the table of the steps
  that are allowed; an established connection can only drop.
-/
namespace Correlator

/-- Where a connection stands. -/
inductive ConnectionState where
  | created
  | authenticating
  | established
  | dropped
  deriving DecidableEq, Repr

namespace ConnectionState

/-- Every state. -/
def all : List ConnectionState := [created, authenticating, established, dropped]

/-- The name of a state. -/
def shown : ConnectionState → String
  | created => "created"
  | authenticating => "authenticating"
  | established => "established"
  | dropped => "dropped"

/-- The state of that name. -/
def ofShown? (s : String) : Option ConnectionState := all.find? fun t => t.shown == s

/-- The steps that are allowed. -/
def canBecome : ConnectionState → ConnectionState → Bool
  | created, created => true
  | created, authenticating => true
  | created, dropped => true
  | authenticating, authenticating => true
  | authenticating, established => true
  | authenticating, dropped => true
  | established, dropped => true
  | dropped, created => true
  | dropped, authenticating => true
  | dropped, dropped => true
  | _, _ => false

/-- Application messages flow in this state. -/
def isEstablished (s : ConnectionState) : Bool := s = established

/-- The state from which a connection is established. -/
theorem of_canBecome_established {s : ConnectionState}
    (h : s.canBecome .established = true) : s = .authenticating := by
  cases s with
  | authenticating => rfl
  | _ => cases h

end ConnectionState

end Correlator
