/-
  Correlator.Stream — THE BUFFER OF A SUBSCRIPTION.

  A stream holds the newest messages up to its capacity; when it is full the
  oldest one makes room and is counted as overwritten.  It ends once, with a
  drop or a close, and whichever comes first stays.  A reader gets the
  buffered messages first, then the end: a drop is told once, and after that
  the stream is closed for good.

  Main content:
    * `Stream.push`, `Stream.finish` — the writing side,
    * `Stream.poll` — the reading side,
    * `Stream.length_push_le` — a stream never holds more than its capacity.
-/
import Correlator.Error
import Correlator.Message.Basic
namespace Correlator

/-- How a stream ended. -/
inductive Ending where
  | dropped (drop : ConnectionDropped)
  | closed
  deriving DecidableEq, Repr

/-- The buffer of a subscription, oldest message first. -/
structure Stream where
  capacity : Nat
  queue : List Message := []
  ending : Option Ending := none
  overwritten : Nat := 0
  deriving DecidableEq, Repr

namespace Stream

/-- An empty stream; it holds at least one message. -/
def withCapacity (capacity : Nat) : Stream := { capacity := max capacity 1 }

/-- The next message would take the place of the oldest one. -/
def isFull (s : Stream) : Bool := s.capacity ≤ s.queue.length

/-- Adds a message, in place of the oldest one if the stream is full. -/
def push (m : Message) (s : Stream) : Stream :=
  if s.isFull then
    { s with queue := s.queue.drop 1 ++ [m], overwritten := s.overwritten + 1 }
  else { s with queue := s.queue ++ [m] }

/-- Ends the stream, unless it has ended already. -/
def finish (e : Ending) (s : Stream) : Stream :=
  { s with ending := s.ending.orElse fun _ => some e }

/-- What the end of a stream tells its reader. -/
def endingError : Ending → RecvError
  | .dropped d => .dropped d
  | .closed => .closed

/-- The oldest message, else the end, else nothing yet.  Once told, the end is a close. -/
def poll (s : Stream) : Option (Except RecvError Message) × Stream :=
  match s.queue with
  | m :: rest => (some (.ok m), { s with queue := rest })
  | [] =>
    match s.ending with
    | none => (none, s)
    | some e => (some (.error (endingError e)), { s with ending := some .closed })

/-- Reads until nothing is there or the end is told.  The bound is the number of messages. -/
def drainFor : Nat → Stream → List (Option (Except RecvError Message)) × Stream
  | 0, s => ([s.poll.1], s.poll.2)
  | n + 1, s =>
    match s.poll with
    | (some (.ok m), s) =>
      let (rest, s) := drainFor n s
      (some (.ok m) :: rest, s)
    | (last, s) => ([last], s)

/-- Every buffered message, then nothing or the end. -/
def drain (s : Stream) : List (Option (Except RecvError Message)) × Stream :=
  drainFor s.queue.length s

/-! ## Bounds -/

/-- A stream that holds no more than its capacity still does after one more message. -/
theorem length_push_le {s : Stream} (m : Message) (h : s.queue.length ≤ s.capacity)
    (hc : 1 ≤ s.capacity) : (s.push m).queue.length ≤ (s.push m).capacity := by
  unfold push isFull
  split
  · simp only [List.length_append, List.length_drop, List.length_singleton]; omega
  · simp_all only [decide_eq_true_eq, List.length_append, List.length_singleton]; omega

/-- The first end stays. -/
theorem finish_of_ended {s : Stream} {e : Ending} (e' : Ending) (h : s.ending = some e) :
    s.finish e' = s := by
  cases s; simp_all [finish]

end Stream

end Correlator
