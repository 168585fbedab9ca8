/-
  Correlator.Engine.Application — THE TRANSPORT REPORTS TO THE ENGINE.

  A transport reports what happens on a connection: that it was created,
  logged on or logged out, and the messages that come in and go out.  A step
  that the connection's life does not allow is noted and otherwise ignored; a
  message that is not accepted is answered with a reject.  A report about a
  connection that is not known changes nothing, and only a message that came
  in on it is rejected.
-/
import Correlator.Engine.Basic
namespace Correlator

/-- What a transport reports. -/
inductive Report where
  | created
  | loggedOn
  | loggedOut
  | fromAdmin (m : Message)
  | fromApp (m : Message)
  | toAdmin (m : Message)
  | toApp (m : Message)

/-- What the transport is told. -/
inductive Reply where
  | done
  | verdict (r : Except RejectReason Unit)
  /-- The verdict with the message as it is to go out. -/
  | outgoing (r : Except RejectReason Unit) (m : Message)

namespace Report

/-- The operation that a report is on its connection. -/
def operation : Report → Operation
  | created => .create
  | loggedOn => .establish
  | loggedOut => .drop .disconnect none
  | fromAdmin m => .inbound m
  | fromApp m => .inbound m
  | toAdmin m => .outboundAdmin m
  | toApp m => .outboundApplication m

/-- The reply about a connection that is not known. -/
def unregistered (c : ConnectionId) : Report → Reply
  | fromAdmin _ => .verdict (.error (.ofError (.routeNotFound c.shown)))
  | fromApp _ => .verdict (.error (.ofError (.routeNotFound c.shown)))
  | toAdmin m => .outgoing (.ok ()) m
  | toApp m => .outgoing (.ok ()) m
  | _ => .done

/-- A verdict without what it is about. -/
def verdictOf {α : Type} : Except LinkError α → Except RejectReason Unit
  | .error x => .error (.ofError x)
  | .ok _ => .ok ()

/-- The reply that the answer of the operation gives. -/
def reply : Report → Answer → Reply
  | fromAdmin _, .tally r => .verdict (verdictOf r)
  | fromApp _, .tally r => .verdict (verdictOf r)
  | toAdmin _, .outgoing r m => .outgoing (verdictOf r) m
  | toApp m, _ => .outgoing (.ok ()) m
  | _, _ => .done

/-- What is noted of a step that was refused. -/
def ignored : Report → Answer → Option Notice
  | created, .outcome (.error _) => some .createIgnored
  | loggedOn, .outcome (.error _) => some .logonIgnored
  | _, _ => none

end Report

namespace Engine

/-- Takes a report about a connection. -/
def report (c : ConnectionId) (r : Report) (e : Engine) : Reply × Engine :=
  match e.exec r.operation c with
  | none => (r.unregistered c, e.note .unregisteredCallback)
  | some (answer, e) =>
    (r.reply answer, match r.ignored answer with
      | none => e
      | some n => e.note n)

/-- Takes reports about one connection, one after the other. -/
def reportAll (c : ConnectionId) : List Report → Engine → Engine
  | [], e => e
  | r :: rest, e => reportAll c rest (e.report c r).2

end Engine

end Correlator
