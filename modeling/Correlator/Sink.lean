/-
  Correlator.Sink — THE PLACE WHERE A WAITER LISTENS.

  A sink joins a rule to a listener.  It is active from the start and leaves
  that phase at most once: terminated by a drop, or disposed by its owner or by
  a close.  A listener is a scripted waiter or the stream of a subscription.
-/
import Correlator.Operation
import Correlator.Stream
namespace Correlator

/-- Where a sink stands. -/
inductive Phase where
  | active
  | terminated
  | disposed
  deriving DecidableEq, Repr

/-- The name of a phase. -/
def Phase.shown : Phase → String
  | active => "Active"
  | terminated => "Terminated"
  | disposed => "Disposed"

/-- A stream takes a callback. -/
def Stream.take (c : Call) (s : Stream) : Stream :=
  match c with
  | .message m => s.push m
  | .error d => s.finish (.dropped d)
  | .closed => s.finish .closed

/-- Who listens at a sink. -/
inductive Listener where
  /-- A scripted waiter and the label it is reported under. -/
  | scripted (label : String) (script : Script Operation)
  | stream (buffer : Stream)

namespace Listener

/-- The label of the waiter that hears a callback. -/
def hearer : Listener → Call → Option String
  | scripted label script, call => if script.hears call then some label else none
  | stream _, _ => none

/-- What a listener does in a callback, with the label it does it under, and the listener after
it.  A scripted waiter takes the next reaction off its script; a stream only takes the callback. -/
def next : Listener → Call → Option (String × Reaction Operation) × Listener
  | scripted label script, call =>
    ((script.next call).1.map fun r => (label, r), scripted label (script.next call).2)
  | stream buffer, call => (none, stream (buffer.take call))

/-- The callback costs the listener its oldest message. -/
def lags : Listener → Call → Bool
  | stream buffer, .message _ => buffer.isFull
  | _, _ => false

/-- The operations in the listener's script. -/
def weight : Listener → Nat
  | scripted _ script => Operation.scriptWeight script
  | stream _ => 0

end Listener

/-- A sink: its number among all sinks, its rule, its phase and its listener. -/
structure Sink where
  number : Nat
  rule : Rule
  phase : Phase
  listener : Listener

namespace Sink

/-- The sink still takes messages. -/
def isActive (s : Sink) : Bool := s.phase = .active

@[simp] theorem isActive_iff {s : Sink} : s.isActive = true ↔ s.phase = .active := by
  simp [isActive]

/-- The operations in the scripts at several sinks. -/
def weights (sinks : List Sink) : Nat := sinks.foldr (fun s n => s.listener.weight + n) 0

/-- The buffer of the sink, if a subscription listens. -/
def buffer? (s : Sink) : Option Stream :=
  match s.listener with
  | .stream q => some q
  | .scripted _ _ => none

/-- Changes the buffer of a subscription. -/
def mapBuffer (f : Stream → Stream) (s : Sink) : Sink :=
  match s.listener with
  | .stream q => { s with listener := .stream (f q) }
  | .scripted _ _ => s

end Sink

end Correlator
