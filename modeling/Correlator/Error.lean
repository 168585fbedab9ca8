/-
  Correlator.Error — WHAT GOES WRONG, AND HOW IT IS SAID.

  Errors fall into two families.  A `ConnectionDropped` ends every exchange on
  its connection: it goes to the waiters and stays on record until the
  connection is established again.  All others answer the call that caused
  them.

  Main content:
    * `ConnectionDropped` with its cause and reason,
    * `ConfigError`, `SessionError`, `TransportError`, `LinkError`,
    * `RecvError` — why a subscription yields no message,
    * `RejectReason` — what a connection's peer is told.
-/
import Correlator.Connection.Id
import Correlator.Connection.State
import Correlator.Text.Quoted
import Correlator.Time.Duration
namespace Correlator

/-! ## Drops -/

/-- Why a connection dropped. -/
inductive DropCause where
  | disconnect
  | logout
  | authenticationRejected
  deriving DecidableEq, Repr

namespace DropCause

/-- Every cause. -/
def all : List DropCause := [disconnect, logout, authenticationRejected]

/-- The name of a cause. -/
def shown : DropCause → String
  | disconnect => "disconnect"
  | logout => "logout"
  | authenticationRejected => "authentication rejected"

/-- The cause of that name. -/
def ofShown? (s : String) : Option DropCause := all.find? fun c => c.shown == s

end DropCause

/-- The loss of a connection, as its waiters are told of it. -/
structure ConnectionDropped where
  connection : ConnectionId
  cause : DropCause
  reason : Option String
  deriving DecidableEq, Repr

/-- The wording of a drop; the reason follows if there is one, even an empty one. -/
def ConnectionDropped.message (d : ConnectionDropped) : String :=
  "connection " ++ d.connection.shown ++ " dropped (" ++ d.cause.shown ++ ")" ++
    match d.reason with
    | none => ""
    | some r => ": " ++ r

/-! ## Errors of a call -/

/-- A fault in a configuration. -/
inductive ConfigError where
  | duplicateName (name : String)
  | duplicateConnection (connection : String)
  | missingField (field : String)
  | invalidCompId (text : String)
  | missingTransport
  | zeroSinkCapacity
  deriving DecidableEq, Repr

/-- The wording of a fault in a configuration. -/
def ConfigError.message : ConfigError → String
  | duplicateName s => "duplicate connection name: " ++ s
  | duplicateConnection s => "duplicate connection id: " ++ s
  | missingField s => "missing required field: " ++ s
  | invalidCompId s => "invalid comp id: " ++ s
  | missingTransport => "no transport configured"
  | zeroSinkCapacity => "sink capacity must be greater than zero"

/-- The name of the kind of a fault in a configuration. -/
def ConfigError.kind : ConfigError → String
  | duplicateName _ => "DuplicateName"
  | duplicateConnection _ => "DuplicateConnection"
  | missingField _ => "MissingField"
  | invalidCompId _ => "InvalidCompId"
  | missingTransport => "MissingTransport"
  | zeroSinkCapacity => "ZeroSinkCapacity"

/-- A step that the life of a connection does not allow. -/
inductive SessionError where
  | invalidTransition (connection : String) (was next : String)
  deriving DecidableEq, Repr

/-- The wording of a step that is not allowed. -/
def SessionError.message : SessionError → String
  | invalidTransition c was next => "invalid transition for " ++ c ++ ": " ++ was ++ " -> " ++ next

/-- Why a transport did not take a message. -/
inductive TransportError where
  | notConnected
  | closed
  | other (text : String)
  deriving DecidableEq, Repr

/-- The wording of a transport's refusal. -/
def TransportError.message : TransportError → String
  | notConnected => "not connected"
  | closed => "transport closed"
  | other s => s

/-- An error of a call. -/
inductive LinkError where
  | authenticationRejected (connection : ConnectionId) (reason : String)
  | connectionDropped (drop : ConnectionDropped)
  | routeNotFound (connection : String)
  | startupTimeout (timeout : Duration) (pending : List String)
  | transportUnavailable (connection : ConnectionId) (reason : String)
  | notEstablished (connection : ConnectionId) (state : String)
  | configuration (fault : ConfigError)
  | session (fault : SessionError)
  deriving DecidableEq, Repr

namespace LinkError

/-- The wording of an error. -/
def message : LinkError → String
  | authenticationRejected c reason =>
    "authentication rejected for " ++ c.shown ++ ": " ++ reason
  | connectionDropped d => d.message
  | routeNotFound c => "no route to connection " ++ c
  | startupTimeout t pending =>
    "startup timed out after " ++ t.shown ++ "; still pending: " ++
      Text.listed (pending.map Text.quoted)
  | transportUnavailable c reason => "transport unavailable for " ++ c.shown ++ ": " ++ reason
  | notEstablished c state =>
    "connection " ++ c.shown ++ " is not established (state " ++ state ++ ")"
  | configuration e => "configuration error: " ++ e.message
  | session e => "session error: " ++ e.message

/-- The name of the kind of an error; a fault in a configuration has its own. -/
def kind : LinkError → String
  | authenticationRejected _ _ => "AuthenticationRejected"
  | connectionDropped _ => "ConnectionDropped"
  | routeNotFound _ => "RouteNotFound"
  | startupTimeout _ _ => "StartupTimeout"
  | transportUnavailable _ _ => "TransportUnavailable"
  | notEstablished _ _ => "NotEstablished"
  | configuration e => e.kind
  | session _ => "InvalidTransition"

/-- The error ends every exchange on its connection. -/
def isTerminal : LinkError → Bool
  | connectionDropped _ => true
  | _ => false

end LinkError

/-! ## What a waiter and a peer are told -/

/-- Why a subscription yields no message. -/
inductive RecvError where
  | dropped (drop : ConnectionDropped)
  | closed
  | timeout (limit : Duration)
  deriving DecidableEq, Repr

/-- The wording of a missing message. -/
def RecvError.message : RecvError → String
  | dropped d => d.message
  | closed => "subscription closed"
  | timeout d => "no correlated message within " ++ d.shown

/-- The answer to a message that is not accepted. -/
structure RejectReason where
  code : Nat
  text : String
  refTag : Option Nat
  deriving DecidableEq, Repr

/-- A rejection on account of an error.  Rejected credentials point at the user name. -/
def RejectReason.ofError (e : LinkError) : RejectReason :=
  { code := 99
    text := e.message
    refTag := match e with
      | .authenticationRejected _ _ => some 553
      | _ => none }

/-! ## Steps in a connection's life -/

/-- The next state, if the step is allowed on the connection. -/
def ConnectionState.transition (connection : ConnectionId) (was next : ConnectionState) :
    Except SessionError ConnectionState :=
  if was.canBecome next then .ok next
  else .error (.invalidTransition connection.shown was.shown next.shown)

end Correlator
