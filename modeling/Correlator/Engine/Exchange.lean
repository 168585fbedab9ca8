/-
  Correlator.Engine.Exchange — AN ENGINE WITH A TRANSPORT TO TRY IT ON.

  The transport here is a rehearsed one.  It stamps each message with the next
  number of its counter, or as it is told; while a message is on its way it
  makes the reports that were prepared; and then it answers with the message,
  which it keeps, or with an error.  The counter moves on even if the
  transport fails, and starts over after the last 64-bit number.

  Main content:
    * `Transport`, `Exchange.transmit`,
    * `Exchange.send`, `Exchange.sendCorrelated`.
-/
import Correlator.Engine.Application
import Correlator.Engine.Send
namespace Correlator

/-! ## The transport -/

/-- What a transport does with the sequence number of a message. -/
inductive Stamp where
  /-- Sets it to the counter and moves the counter on. -/
  | counter
  /-- Leaves it alone. -/
  | none
  /-- Sets it to a text. -/
  | text (s : String)
  deriving DecidableEq, Repr

/-- A rehearsed transport. -/
structure Transport where
  /-- The error that it answers with, if any. -/
  failure : Option TransportError := none
  stamp : Stamp := .counter
  /-- What it reports while a message is on its way. -/
  during : List Report := []
  next : UInt64 := 1
  /-- What it has taken, the latest first. -/
  taken : List (ConnectionId × Message) := []

namespace Transport

/-- The message with its sequence number, and the transport with its counter moved on. -/
def stamped (m : Message) (t : Transport) : Message × Transport :=
  match t.stamp with
  | .counter =>
    (m.set Tag.msgSeqNum (toString t.next.toNat), { t with next := t.next + 1 })
  | .none => (m, t)
  | .text s => (m.set Tag.msgSeqNum s, t)

@[simp] theorem failure_stamped (m : Message) (t : Transport) :
    (t.stamped m).2.failure = t.failure := by
  unfold stamped
  cases t.stamp <;> rfl

@[simp] theorem during_stamped (m : Message) (t : Transport) :
    (t.stamped m).2.during = t.during := by
  unfold stamped
  cases t.stamp <;> rfl

/-- The answer to a message on a connection. -/
def answer (c : ConnectionId) (m : Message) (t : Transport) :
    Except TransportError Message × Transport :=
  match t.failure with
  | some x => (.error x, t)
  | none => (.ok m, { t with taken := (c, m) :: t.taken })

/-- What it has taken, in order. -/
def sent (t : Transport) : List (ConnectionId × Message) := t.taken.reverse

end Transport

/-! ## The engine with its transport -/

/-- An engine and its transport. -/
structure Exchange where
  engine : Engine
  transport : Transport := {}

namespace Exchange

/-- The transport takes a message: it stamps it, makes its reports, and answers. -/
def transmit (c : ConnectionId) (m : Message) (x : Exchange) :
    Except TransportError Message × Exchange :=
  -- What is reported on the way finds the counter moved on already.
  let (m, transport) := x.transport.stamped m
  let engine := x.engine.reportAll c transport.during
  let (answer, transport) := transport.answer c m
  (answer, { engine, transport })

/-- Sends a message and answers with it as it was sent. -/
def send (c : ConnectionId) (m : Message) (x : Exchange) : Except LinkError Message × Exchange :=
  match x.engine.beginSend c with
  | (.error e, engine) => (.error e, { x with engine })
  | (.ok _, engine) =>
    let (answer, x) := { x with engine }.transmit c m
    let (r, engine) := x.engine.finishSend c answer
    (r, { x with engine })

/-- Sends a request and subscribes to its replies. -/
def sendCorrelated (c : ConnectionId) (factory : RuleFactory) (request : Message) (x : Exchange) :
    Except LinkError SinkRef × Exchange :=
  match x.engine.beginCorrelated c factory request with
  | (.error e, engine) => (.error e, { x with engine })
  | (.ok s, engine) =>
    let (answer, x) := { x with engine }.transmit c request
    let (r, engine) := x.engine.finishCorrelated s answer
    (r, { x with engine })

/-- Sends a request and enters the subscription to its replies under a name. -/
def sendCorrelatedAs (name : String) (c : ConnectionId) (factory : RuleFactory)
    (request : Message) (x : Exchange) : Except LinkError Enrolment × Exchange :=
  match x.sendCorrelated c factory request with
  | (.error e, x) => (.error e, x)
  | (.ok s, x) =>
    match x.engine.enterSubscription name s with
    | none => (.error (.routeNotFound c.shown), x)
    | some (r, engine) => (.ok r, { x with engine })

end Exchange

end Correlator
