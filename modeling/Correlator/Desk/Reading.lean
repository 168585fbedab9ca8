/-
  Correlator.Desk.Reading — SUBSCRIPTIONS ARE READ AND GIVEN UP.

  A subscription is read through its name.  While its reader is waiting for a
  message, nothing else can be asked of the subscription except to look at the
  wait again or to give the subscription up.

  Main content:
    * `Desk.receive` and its kin — reading,
    * `Desk.disposeSubscription` — the end of a subscription by its owner,
    * `Desk.giveUpSubscription` — its reader goes away.
-/
import Correlator.Desk.Dispatch
namespace Correlator

/-- Why a subscription could not be asked. -/
inductive ReadingFault where
  /-- No subscription has the name. -/
  | unknownName
  /-- The reader is waiting. -/
  | busy
  /-- The reader is not waiting. -/
  | notBusy
  deriving DecidableEq, Repr

/-- What reading yields: a message, nothing yet, or an error. -/
abbrev Reading := Option (Except RecvError Message)

namespace Desk

/-- The buffer of a sink on any line. -/
def bufferAt? (w : Desk) (s : SinkRef) : Option Stream := (w.sinkAt? s).bind Sink.buffer?

/-- Changes a sink on the first line of its identity. -/
def mapSinkAmong (s : SinkRef) (f : Sink → Sink) : List Line → List Line
  | [] => []
  | l :: rest =>
    if l.id = s.connection then (l.mapMux fun x => x.mapSink s.place f) :: rest
    else l :: mapSinkAmong s f rest

/-- Changes a sink on any line. -/
def mapSinkAt (s : SinkRef) (f : Sink → Sink) (w : Desk) : Desk :=
  if w.line.id = s.connection then w.mapSink s.place f
  else { w with before := mapSinkAmong s f w.before, after := mapSinkAmong s f w.after }

/-- Reads from a sink's buffer. -/
def poll (s : SinkRef) (w : Desk) : Reading × Desk :=
  match w.bufferAt? s with
  | none => (none, w)
  | some q => (q.poll.1, w.mapSinkAt s fun k => k.mapBuffer fun q => q.poll.2)

/-! ## Subscriptions by name -/

/-- The subscription of a name, unless its reader is waiting. -/
def idle (name : String) (w : Desk) : Except ReadingFault SinkRef :=
  match Directory.find? name w.shared.names with
  | none => .error .unknownName
  | some e =>
    match e.reader with
    | .absent => .error .unknownName
    | .waiting => .error .busy
    | .idle => .ok e.sink

/-- The subscription of a name whose reader is waiting. -/
def waiting (name : String) (w : Desk) : Except ReadingFault SinkRef :=
  match Directory.find? name w.shared.names with
  | none => .error .unknownName
  | some e =>
    match e.reader with
    | .absent => .error .unknownName
    | .waiting => .ok e.sink
    | .idle => .error .notBusy

/-- Sets the reader of a name's entry. -/
def setReader (name : String) (s : SinkRef) (r : Reader) (w : Desk) : Desk :=
  w.mapShared fun x => { x with names := Directory.enter name ⟨s, r⟩ x.names }

/-- Reads once without waiting. -/
def receive (name : String) (w : Desk) : Except ReadingFault Reading × Desk :=
  match w.idle name with
  | .error e => (.error e, w)
  | .ok s =>
    let (r, w) := w.poll s
    (.ok r, w)

/-- Reads once and waits at most for the limit while nothing arrives. -/
def receiveWithin (name : String) (limit : Duration) (w : Desk) :
    Except ReadingFault (Except RecvError Message) × Desk :=
  match w.receive name with
  | (.error e, w) => (.error e, w)
  | (.ok r, w) => (.ok (r.getD (.error (.timeout limit))), w)

/-- Reads, and goes on waiting if nothing is there. -/
def beginReceive (name : String) (w : Desk) : Except ReadingFault Reading × Desk :=
  match w.idle name with
  | .error e => (.error e, w)
  | .ok s =>
    match w.poll s with
    | (none, w) => (.ok none, w.setReader name s .waiting)
    | (some r, w) => (.ok (some r), w)

/-- Looks at a wait again; it is over once something is read. -/
def pollReceive (name : String) (w : Desk) : Except ReadingFault Reading × Desk :=
  match w.waiting name with
  | .error e => (.error e, w)
  | .ok s =>
    match w.poll s with
    | (none, w) => (.ok none, w)
    | (some r, w) => (.ok (some r), w.setReader name s .idle)

/-- Reads everything that is there, and then nothing or the end. -/
def drain (name : String) (w : Desk) : Except ReadingFault (List Reading) × Desk :=
  match w.idle name with
  | .error e => (.error e, w)
  | .ok s =>
    match w.bufferAt? s with
    | none => (.ok [none], w)
    | some q => (.ok q.drain.1, w.mapSinkAt s fun k => k.mapBuffer fun q => q.drain.2)

/-- The number of messages that were lost because the reader was behind. -/
def overwritten (name : String) (w : Desk) : Except ReadingFault Nat :=
  (w.idle name).map fun s => ((w.bufferAt? s).map Stream.overwritten).getD 0

/-- Disposes a subscription's sink and closes its stream. -/
def endSubscription (s : SinkRef) (w : Desk) : Bool × Desk :=
  let (changed, w) := w.dispose s
  (changed, w.mapSinkAt s fun k => k.mapBuffer (Stream.finish .closed))

/-- Ends a subscription by its name. -/
def disposeSubscription (name : String) (w : Desk) : Except ReadingFault Bool × Desk :=
  match w.idle name with
  | .error e => (.error e, w)
  | .ok s =>
    let (changed, w) := w.endSubscription s
    (.ok changed, w)

/-- The reader of a subscription goes away, waiting or not, and its sink is disposed. -/
def giveUpSubscription (name : String) (w : Desk) : Except ReadingFault Unit × Desk :=
  match Directory.find? name w.shared.names with
  | none => (.error .unknownName, w)
  | some e =>
    match e.reader with
    | .absent => (.error .unknownName, w)
    | _ => (.ok (), (w.setReader name e.sink .absent).giveUp e)

/-- The phase of the sink that a name leads to. -/
def phaseOf? (name : String) (w : Desk) : Option Phase :=
  (w.resolve? (.named name)).bind fun s => (w.sinkAt? s).map Sink.phase

end Desk

end Correlator
