/-
  Correlator.Desk.Perform — OPERATIONS, AND WHAT THEY SET OFF.

  An operation makes callbacks, and a waiter's reaction to a callback performs
  further operations on the same line.  The reaction is taken off the waiter's
  script before it runs, so operations nest no deeper than the number of
  operations that lie in scripts; that number is the budget of a run.

  Main content:
    * `Desk.hear`, `Desk.callWith` — one callback,
    * `Operation.run` — one operation, given who makes the callbacks,
    * `Desk.perform` — operations nested up to a depth,
    * `Operation.exec` — one operation with all that it sets off.
-/
import Correlator.Desk.Lifecycle
namespace Correlator

/-- Performs an operation on the line in hand. -/
abbrev Performer := Operation → Desk → Answer × Desk

namespace Desk

/-! ## One callback -/

/-- Performs the operations of a reaction in order and records each answer. -/
def react (perform : Performer) (i : Nat) (label : String) : List Operation → Desk → Desk
  | [], w => w
  | op :: rest, w =>
    let (answer, w) := perform op w
    react perform i label rest (w.record (.answered i label op answer))

/-- A callback reaches the listener of a sink.  The moment shows the line before the listener has
taken it. -/
def hear (i : Nat) (s : Sink) (c : Call) (w : Desk) : Desk :=
  let w := w.record (.called i (s.listener.hearer c) c)
  let w := w.mapSink i fun k => { k with listener := (k.listener.next c).2 }
  if s.listener.lags c then w.note .subscriptionLagging else w

/-- Makes a callback.  A scripted waiter takes its next reaction off the script and then runs it;
without one it does nothing. -/
def callWith (perform : Performer) : Caller := fun i c w =>
  match w.sink? i with
  | none => (false, w)
  | some s =>
    -- The script is shortened first, so a callback in the callback takes the next reaction.
    let w := w.hear i s c
    match (s.listener.next c).1 with
    | none => (false, w)
    | some (label, r) => (r.panics, w.react perform i label r.calls)

end Desk

/-! ## One operation -/

namespace Operation

/-- An operation of the multiplexer, which answers nothing else once it has been given up. -/
def onMultiplexer (w : Desk) (f : Desk → Answer × Desk) : Answer × Desk :=
  if w.line.mux.released then (.noMultiplexer, w) else f w

/-- Performs an operation, given who makes the callbacks. -/
def run (call : Caller) (op : Operation) (w : Desk) : Answer × Desk :=
  match op with
  | .register name rule script => onMultiplexer w fun w =>
    let (e, w) := w.registerWith call name rule script
    (.enrolled e, w)
  | .subscribe name rule => onMultiplexer w fun w =>
    let (e, w) := w.subscribeAsWith call name rule
    (.enrolled e, w)
  | .dispatch m => onMultiplexer w fun w =>
    let (n, w) := w.dispatchWith call m
    (.count n, w)
  | .broadcast d => onMultiplexer w fun w =>
    let (n, w) := w.broadcastWith call d
    (.count n, w)
  | .resume => onMultiplexer w fun w => (.done, w.resume)
  | .close => onMultiplexer w fun w =>
    let (n, w) := w.closeWith call
    (.count n, w)
  | .activeCount => onMultiplexer w fun w => (.count w.line.mux.active.length, w)
  | .dispose handle =>
    match w.resolve? handle with
    | none => (.unknownName, w)
    | some s =>
      let (changed, w) := w.dispose s
      (.flag changed, w)
  | .isActive handle =>
    match w.resolve? handle with
    | none => (.unknownName, w)
    | some s => (.flag (w.isActive s), w)
  | .create =>
    let (r, w) := w.create
    (.outcome r, w)
  | .establish =>
    let (r, w) := w.establish
    (.outcome r, w)
  | .drop cause m =>
    let (b, w) := w.dropWith call cause m
    (.flag b, w)
  | .authenticateOutbound m =>
    let ((r, m), w) := w.authenticateOutbound m
    (.outgoing r m, w)
  | .authenticateInbound m =>
    let (r, w) := w.authenticateInboundWith call m
    (.outcome r, w)
  | .outboundAdmin m =>
    let ((r, m), w) := w.outboundAdmin m
    (.outgoing r m, w)
  | .outboundApplication m => (.done, w.outboundApplication m)
  | .inbound m =>
    let (r, w) := w.inboundWith call m
    (.tally r, w)

theorem run_drop_of_dropped {w : Desk} (hs : w.line.state = .dropped) (call : Caller)
    (cause : DropCause) (m : Option Message) :
    (drop cause m).run call w = (.flag false, w.note .alreadyDropped) := by
  show (Answer.flag (w.dropWith call cause m).1, (w.dropWith call cause m).2) = _
  rw [Desk.dropWith_of_dropped hs]

theorem run_drop_of_not_dropped {w : Desk} (hs : w.line.state ≠ .dropped) (call : Caller)
    (cause : DropCause) (m : Option Message) : (drop cause m).run call w =
      (.flag true, ((w.goDown cause m).broadcastWith call (w.lossOf cause m)).2) := by
  show (Answer.flag (w.dropWith call cause m).1, (w.dropWith call cause m).2) = _
  rw [Desk.dropWith_of_not_dropped hs]

end Operation

/-! ## What operations set off -/

namespace Desk

/-- Performs an operation whose callbacks perform operations, up to a depth. -/
def perform : Nat → Performer
  | 0 => fun _ w => (.done, w)
  | depth + 1 => fun op w => op.run (callWith (perform depth)) w

/-- The operations that lie in the scripts of the line in hand. -/
def budget (w : Desk) : Nat := w.line.weight

/-- Makes the callbacks of an operation on the line in hand, given the weight of the scripts that
the operation brings. -/
def caller (w : Desk) (brought : Nat) : Caller := callWith (perform (w.budget + brought))

end Desk

/-- Performs an operation with all that it sets off. -/
def Operation.exec (op : Operation) (w : Desk) : Answer × Desk :=
  op.run (w.caller op.weight) w

/-- Disposes a sink through the multiplexer of the line in hand. -/
def Desk.disposeByMultiplexer (handle : Handle) (w : Desk) : Answer × Desk :=
  Operation.onMultiplexer w (Operation.dispose handle).exec

/-- Gives up the multiplexer of the line in hand, once; handles and subscriptions remain. -/
def Desk.releaseMultiplexer (w : Desk) : Answer × Desk :=
  Operation.onMultiplexer w fun w => (.done, w.mapMux fun x => { x with released := true })

/-- Performs operations one after the other and gathers their answers. -/
def Operation.execAll : List Operation → Desk → List Answer × Desk
  | [], w => ([], w)
  | op :: rest, w =>
    let (answer, w) := op.exec w
    let (answers, w) := execAll rest w
    (answer :: answers, w)

end Correlator
