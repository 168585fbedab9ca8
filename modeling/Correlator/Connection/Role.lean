/-
  Correlator.Connection.Role — WHICH SIDE OF A CONNECTION ONE IS.

  One side dials, the other listens; either may share a thread between its
  connections or not.  The side that dials presents credentials and is ready
  once established, the side that listens checks them and is ready as soon as
  it is created.
-/
namespace Correlator

/-- What makes a connection count as ready at startup. -/
inductive Readiness where
  | created
  | established
  deriving DecidableEq, Repr

namespace Readiness

/-- Every event. -/
def all : List Readiness := [created, established]

/-- The name of an event. -/
def shown : Readiness → String
  | created => "created"
  | established => "established"

/-- The event of that name. -/
def ofShown? (s : String) : Option Readiness := all.find? fun e => e.shown == s

/-- The name of an event in diagnostics. -/
def name : Readiness → String
  | created => "Created"
  | established => "Established"

end Readiness

/-- The role of a connection's local side. -/
inductive Role where
  | dialingSingleThreaded
  | dialingMultiThreaded
  | listeningSingleThreaded
  | listeningMultiThreaded
  deriving DecidableEq, Repr

namespace Role

/-- Every role. -/
def all : List Role :=
  [dialingSingleThreaded, dialingMultiThreaded, listeningSingleThreaded, listeningMultiThreaded]

/-- The name of a role in configuration files. -/
def shown : Role → String
  | dialingSingleThreaded => "dialing-single-threaded"
  | dialingMultiThreaded => "dialing-multi-threaded"
  | listeningSingleThreaded => "listening-single-threaded"
  | listeningMultiThreaded => "listening-multi-threaded"

/-- The role of that name. -/
def ofShown? (s : String) : Option Role := all.find? fun r => r.shown == s

/-- The name of a role in diagnostics. -/
def name : Role → String
  | dialingSingleThreaded => "DialingSingleThreaded"
  | dialingMultiThreaded => "DialingMultiThreaded"
  | listeningSingleThreaded => "ListeningSingleThreaded"
  | listeningMultiThreaded => "ListeningMultiThreaded"

/-- The side that opens the connection. -/
def isDialing : Role → Bool
  | dialingSingleThreaded => true
  | dialingMultiThreaded => true
  | _ => false

/-- The side that waits for the connection. -/
def isListening (r : Role) : Bool := !r.isDialing

/-- Each connection has threads of its own. -/
def isMultiThreaded : Role → Bool
  | dialingMultiThreaded => true
  | listeningMultiThreaded => true
  | _ => false

/-- The side that puts credentials into its handshake. -/
def presentsCredentials (r : Role) : Bool := r.isDialing

/-- The side that checks the credentials in a handshake. -/
def validatesCredentials (r : Role) : Bool := r.isListening

/-- What makes the connection ready at startup. -/
def readiness (r : Role) : Readiness := if r.isDialing then .established else .created

end Role

end Correlator
