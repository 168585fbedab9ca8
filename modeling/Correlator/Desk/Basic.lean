/-
  Correlator.Desk.Basic — ONE LINE IN HAND.

  A desk has one line of the switchboard in hand, with the lines before and
  after it at reach and with what all lines share: the startup barrier, the
  names in use, the count of sinks made, and the trail of what has happened.
  Every operation works on the line in hand; only a disposal may reach another
  line, because its handle may belong there.

  The trail keeps, with each moment, the line as it stood.  A statement about
  what a callback may observe is a statement about a moment of the trail.

  Main content:
    * `Event`, `Moment`, `Shared`, `Desk`,
    * `Shared.arrive`, `Shared.awaitStartupFrom` — the barrier and its notices,
    * `Desk.note`, `Desk.record` — writing the trail,
    * `Desk.strike`, `Desk.dispose` — the disposal of a sink through its handle,
    * `Desk.enter` — entering a name.
-/
import Correlator.Barrier
import Correlator.Directory
import Correlator.Line
import Correlator.Notice
namespace Correlator

/-! ## The trail -/

/-- A thing that happens. -/
inductive Event where
  /-- A notice is logged. -/
  | noted (n : Notice)
  /-- A callback to the sink at a place starts.  The label is that of the waiter who hears it. -/
  | called (place : Nat) (hearer : Option String) (call : Call)
  /-- An operation that a waiter performed in a callback has been answered. -/
  | answered (place : Nat) (label : String) (op : Operation) (answer : Answer)
  /-- A disposal of a sink returns, and says whether it changed anything. -/
  | disposed (sink : SinkRef) (changed : Bool)
  /-- A handshake that goes out is let through. -/
  | offered (m : Message)
  /-- A handshake that came in is accepted. -/
  | accepted (m : Message)
  /-- A handshake that came in is refused, with the drop that goes on record for it. -/
  | refused (m : Message) (drop : ConnectionDropped)
  /-- A logout goes out. -/
  | loggedOut (m : Message)
  /-- The connection is lost, with the drop that goes on record for it. -/
  | lost (cause : DropCause) (m : Option Message) (drop : ConnectionDropped)

/-- A thing that happened, and the line in hand as it stood at that moment. -/
structure Moment where
  event : Event
  line : Option Line

/-- What all lines share. -/
structure Shared where
  barrier : Barrier
  names : Directory := []
  /-- The number of sinks made so far. -/
  issued : Nat := 0
  /-- What has happened, the latest first. -/
  trail : List Moment := []

namespace Shared

/-- Adds a moment to the trail. -/
def add (m : Moment) (s : Shared) : Shared := { s with trail := m :: s.trail }

/-- Forgets what has happened. -/
def forget (s : Shared) : Shared := { s with trail := [] }

/-- What has happened, in order. -/
def history (s : Shared) : List Moment := s.trail.reverse

/-- Logs notices that concern a line, or none. -/
def notes (standing : Option Line) (ns : List Notice) (s : Shared) : Shared :=
  ns.foldl (fun s n => s.add ⟨.noted n, standing⟩) s

/-! ## Startup -/

/-- An event of a connection reaches the barrier.  Says whether it counted. -/
def arrive (standing : Option Line) (c : ConnectionId) (e : Readiness) (s : Shared) :
    Bool × Shared :=
  let (counted, barrier) := s.barrier.arrive c e
  (counted, { s with barrier }.notes standing (Barrier.arrivalNotices counted barrier))

/-- Several events one after the other. -/
def arriveAll : List (ConnectionId × Readiness) → Shared → List Bool × Shared
  | [], s => ([], s)
  | e :: rest, s =>
    let (counted, s) := s.arrive none e.1 e.2
    let (others, s) := arriveAll rest s
    (counted :: others, s)

/-- A wait for the connections at startup is at its end, and nothing has arrived. -/
def awaitStartup (limit : Option Duration) (s : Shared) : Except LinkError Unit × Shared :=
  let r := s.barrier.verdict limit
  (r, s.notes none (Barrier.waitNotices r))

/-- Waits for the connections at startup while nothing arrives.  There is no answer if the wait has
no end. -/
def awaitStartupFrom (k : Clock) (limit : Option Duration) (s : Shared) :
    Option (Except LinkError Unit) × Shared :=
  if s.barrier.isEndless k limit then (none, s)
  else
    let (r, s) := s.awaitStartup limit
    (some r, s)

/-- The same wait by the announced count.  It always ends. -/
def awaitAnnounced (limit : Option Duration) (s : Shared) : Except LinkError Unit × Shared :=
  let r := s.barrier.waitAnnounced limit
  (r, s.notes none (Barrier.waitNotices r))

end Shared

/-! ## The desk -/

/-- A line in hand, the lines on either side, and what they share. -/
structure Desk where
  before : List Line := []
  line : Line
  after : List Line := []
  shared : Shared

namespace Desk

/-- A desk with a single line. -/
def ofLine (line : Line) (barrier : Barrier) : Desk := { line, shared := { barrier } }

/-- Every line, in order. -/
def lines (w : Desk) : List Line := w.before ++ w.line :: w.after

/-- Changes the line in hand. -/
def mapLine (f : Line → Line) (w : Desk) : Desk := { w with line := f w.line }

/-- Changes the multiplexer of the line in hand. -/
def mapMux (f : Multiplexer → Multiplexer) (w : Desk) : Desk := w.mapLine fun l => l.mapMux f

/-- Changes a sink of the line in hand. -/
def mapSink (i : Nat) (f : Sink → Sink) (w : Desk) : Desk := w.mapMux fun x => x.mapSink i f

/-- Moves the connection in hand. -/
def setState (s : ConnectionState) (w : Desk) : Desk := w.mapLine fun l => { l with state := s }

/-- Changes what all lines share. -/
def mapShared (f : Shared → Shared) (w : Desk) : Desk := { w with shared := f w.shared }

/-- Adds an event of the line in hand to the trail. -/
def record (e : Event) (w : Desk) : Desk := w.mapShared fun s => s.add ⟨e, some w.line⟩

/-- Logs a notice. -/
def note (n : Notice) (w : Desk) : Desk := w.record (.noted n)

@[simp] theorem line_mapLine (f : Line → Line) (w : Desk) : (w.mapLine f).line = f w.line := rfl

@[simp] theorem shared_mapLine (f : Line → Line) (w : Desk) : (w.mapLine f).shared = w.shared := rfl

@[simp] theorem line_mapMux (f : Multiplexer → Multiplexer) (w : Desk) :
    (w.mapMux f).line = w.line.mapMux f := rfl

@[simp] theorem shared_mapMux (f : Multiplexer → Multiplexer) (w : Desk) :
    (w.mapMux f).shared = w.shared := rfl

@[simp] theorem line_mapSink (i : Nat) (f : Sink → Sink) (w : Desk) :
    (w.mapSink i f).line = w.line.mapMux fun x => x.mapSink i f := rfl

@[simp] theorem shared_mapSink (i : Nat) (f : Sink → Sink) (w : Desk) :
    (w.mapSink i f).shared = w.shared := rfl

@[simp] theorem line_setState (s : ConnectionState) (w : Desk) :
    (w.setState s).line = { w.line with state := s } := rfl

@[simp] theorem shared_setState (s : ConnectionState) (w : Desk) :
    (w.setState s).shared = w.shared := rfl

@[simp] theorem line_record (e : Event) (w : Desk) : (w.record e).line = w.line := rfl

@[simp] theorem line_note (n : Notice) (w : Desk) : (w.note n).line = w.line := rfl

@[simp] theorem line_mapShared (f : Shared → Shared) (w : Desk) :
    (w.mapShared f).line = w.line := rfl

@[simp] theorem issued_record (e : Event) (w : Desk) :
    (w.record e).shared.issued = w.shared.issued := rfl

@[simp] theorem issued_note (n : Notice) (w : Desk) :
    (w.note n).shared.issued = w.shared.issued := rfl

/-- A sink of the line in hand. -/
def sink? (w : Desk) (i : Nat) : Option Sink := w.line.sink? i

/-- A sink that is changed is found changed. -/
theorem sink?_mapSink_self {w : Desk} {i : Nat} {s : Sink} (f : Sink → Sink)
    (hs : w.sink? i = some s) : (w.mapSink i f).sink? i = some (f s) := by
  show (w.line.mapMux fun x => x.mapSink i f).sink? i = some (f s)
  rw [Line.sink?_mapSink, show w.line.sink? i = some s from hs]
  simp

/-- The sink on any line. -/
def sinkAt? (w : Desk) (s : SinkRef) : Option Sink :=
  (w.lines.find? fun l => l.id = s.connection).bind fun l => l.sink? s.place

/-! ## Handles -/

/-- The sink that a handle leads to. -/
def resolve? (w : Desk) : Handle → Option SinkRef
  | .named name => (Directory.find? name w.shared.names).map Entry.sink
  | .sink ref => some ref

/-- Disposes the sink at a place of the first line of that identity.  Also says how that line
stands afterwards if anything changed there. -/
def disposeAmong (s : SinkRef) : List Line → Option Line × List Line
  | [] => (none, [])
  | l :: rest =>
    if l.id = s.connection then
      let (changed, l) := l.disposeAt s.place
      (if changed then some l else none, l :: rest)
    else
      let (found, rest) := disposeAmong s rest
      (found, l :: rest)

/-- Notes the disposal of a sink of a line, unless the multiplexer there has been given up. -/
def noteDisposal (l : Line) (w : Desk) : Desk :=
  if l.mux.released then w
  else w.mapShared fun s => s.add ⟨.noted .sinkDisposed, some l⟩

/-- Takes a sink out of its active set and its active phase, wherever it is.  Says whether that
changed anything. -/
def strike (s : SinkRef) (w : Desk) : Bool × Desk :=
  if w.line.id = s.connection then
    let (changed, l) := w.line.disposeAt s.place
    let w := { w with line := l }
    (changed, if changed then w.noteDisposal l else w)
  else
    let (foundBefore, before) := disposeAmong s w.before
    match foundBefore with
    | some l => (true, { w with before }.noteDisposal l)
    | none =>
      let (foundAfter, after) := disposeAmong s w.after
      match foundAfter with
      | some l => (true, { w with after }.noteDisposal l)
      | none => (false, w)

/-- Disposes a sink through its handle.  Says whether that changed anything. -/
def dispose (s : SinkRef) (w : Desk) : Bool × Desk :=
  let (changed, w) := w.strike s
  (changed, w.record (.disposed s changed))

/-- The sink is active. -/
def isActive (s : SinkRef) (w : Desk) : Bool :=
  match w.sinkAt? s with
  | none => false
  | some k => k.isActive

/-! ## Names -/

/-- Gives up the subscription of an earlier entry, if it still has a reader. -/
def giveUp (e : Entry) (w : Desk) : Desk :=
  match e.reader with
  | .absent => w
  | _ => (w.dispose e.sink).2

/-- Enters a name.  A subscription that the name led to before is given up. -/
def enter (name : String) (e : Entry) (w : Desk) : Desk :=
  let old := Directory.find? name w.shared.names
  let w := w.mapShared fun s => { s with names := Directory.enter name e s.names }
  match old with
  | none => w
  | some o => w.giveUp o

end Desk

end Correlator
