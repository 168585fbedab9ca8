/-
  Correlator.Engine.Send — MESSAGES ARE SENT AND THEIR REPLIES AWAITED.

  Sending has two halves: the engine hands the message over, and later the
  transport answers with the message as it was sent or with an error.
  Anything may happen to the engine in between.  A request that awaits replies
  is subscribed before it is handed over, so a reply that overtakes the answer
  of the transport is kept; the rule learns the sequence number from the
  answer.  If the transport fails, the subscription is ended again.

  Main content:
    * `Engine.beginSend`, `Engine.finishSend`,
    * `Engine.beginCorrelated`, `Engine.finishCorrelated`.
-/
import Correlator.Engine.Basic
namespace Correlator

namespace Engine

/-! ## Plain messages -/

/-- Works on a connection that is known to be there. -/
def onLine (c : ConnectionId) (f : Desk → Desk) (e : Engine) : Engine :=
  match e.at? c fun w => ((), f w) with
  | none => e
  | some (_, e) => e

/-- The error of a transport that did not take a message. -/
def unavailable (c : ConnectionId) (x : TransportError) : LinkError :=
  .transportUnavailable c x.message

/-- Hands a message over to the transport. -/
def beginSend (c : ConnectionId) (e : Engine) : Except LinkError Unit × Engine :=
  match e.established c with
  | .error x => (.error x, e)
  | .ok _ => (.ok (), e.onLine c (Desk.note .transmitting))

/-- Takes the answer of the transport. -/
def finishSend (c : ConnectionId) (answer : Except TransportError Message) (e : Engine) :
    Except LinkError Message × Engine :=
  match answer with
  | .error x => (.error (unavailable c x), e.onLine c (Desk.note .transportRejected))
  | .ok sent => (.ok sent, e)

/-! ## Requests -/

/-- Subscribes to the replies of a request and hands it over to the transport. -/
def beginCorrelated (c : ConnectionId) (factory : RuleFactory) (request : Message) (e : Engine) :
    Except LinkError SinkRef × Engine :=
  match e.established c with
  | .error x => (.error x, e)
  | .ok _ =>
    -- The subscription is there before the transport has seen the request.
    match e.at? c fun w =>
        let (s, w) := w.subscribeWith (w.caller 0) (factory request)
        (s, w.note .transmitting) with
    | none => (.error (.routeNotFound c.shown), e)
    | some (s, e) => (.ok s, e)

/-- Takes the answer of the transport to a request.  The rule learns the message as it was sent;
after a failure the subscription is ended. -/
def finishCorrelated (s : SinkRef) (answer : Except TransportError Message) (e : Engine) :
    Except LinkError SinkRef × Engine :=
  match answer with
  | .error x =>
    (.error (unavailable s.connection x),
      e.onLine s.connection fun w => ((w.note .transportRejected).endSubscription s).2)
  | .ok sent =>
    (.ok s, e.onLine s.connection fun w =>
      (w.mapSink s.place fun k => { k with rule := k.rule.onSent sent }).note .awaitingReplies)

/-- Enters a subscription under a name. -/
def enterSubscription (name : String) (s : SinkRef) (e : Engine) : Option (Enrolment × Engine) :=
  e.at? s.connection fun w =>
    let w := w.enter name ⟨s, .idle⟩
    (w.enrolment s, w)

end Engine

end Correlator
