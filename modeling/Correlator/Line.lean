/-
  Correlator.Line — ONE CONNECTION AND ITS MULTIPLEXER.

  A line is a configured connection as it stands: its state, the text of a
  logout it has sent, and its multiplexer.  The multiplexer keeps every sink
  made on the line; those that messages are offered to form the active set, in
  the order in which they were registered.  While a drop is on record, or once
  the multiplexer is closed, nothing is admitted to the set.

  Main content:
    * `Multiplexer`, `Line`,
    * `Line.ofConfig` — a connection that has just been configured,
    * `Line.disposeAt` — the disposal of one sink.
-/
import Correlator.Config.Connection
import Correlator.Sink
namespace Correlator

/-! ## Multiplexers -/

/-- The waiters of a connection. -/
structure Multiplexer where
  /-- The messages that a subscription holds. -/
  capacity : Nat
  /-- Every sink made here, in order; a sink is known by its place. -/
  sinks : List Sink := []
  /-- The places of the sinks that messages are offered to, in ascending order. -/
  active : List Nat := []
  dropRecord : Option ConnectionDropped := none
  closed : Bool := false
  /-- The multiplexer itself has been given up; its sinks remain. -/
  released : Bool := false

namespace Multiplexer

/-- A multiplexer whose subscriptions hold `capacity` messages. -/
def withCapacity (capacity : Nat) : Multiplexer := { capacity := max capacity 1 }

/-- Changes one sink. -/
def mapSink (i : Nat) (f : Sink → Sink) (x : Multiplexer) : Multiplexer :=
  { x with sinks := x.sinks.modify i f }

end Multiplexer

/-! ## Lines -/

/-- A connection as it stands. -/
structure Line where
  config : ConnectionConfig
  mux : Multiplexer
  state : ConnectionState := .created
  /-- The text of the last logout sent, until it has explained a drop. -/
  logoutText : Option String := none

namespace Line

/-- The identity of the line's connection. -/
def id (l : Line) : ConnectionId := l.config.id

/-- A connection that has just been configured. -/
def ofConfig (config : ConnectionConfig) (capacity : Nat) : Line :=
  { config, mux := .withCapacity capacity }

/-- A line that is used for its multiplexer only. -/
def plain (id : ConnectionId) (capacity : Nat) : Line :=
  ofConfig { name := id.shown, id, role := .dialingSingleThreaded, credentials := none } capacity

/-- The sink at a place. -/
def sink? (l : Line) (i : Nat) : Option Sink := l.mux.sinks[i]?

/-- Changes the multiplexer. -/
def mapMux (f : Multiplexer → Multiplexer) (l : Line) : Line := { l with mux := f l.mux }

@[simp] theorem mux_mapMux (f : Multiplexer → Multiplexer) (l : Line) :
    (l.mapMux f).mux = f l.mux := rfl

@[simp] theorem config_mapMux (f : Multiplexer → Multiplexer) (l : Line) :
    (l.mapMux f).config = l.config := rfl

@[simp] theorem state_mapMux (f : Multiplexer → Multiplexer) (l : Line) :
    (l.mapMux f).state = l.state := rfl

/-- The sink at a place is active. -/
def isActiveAt (l : Line) (i : Nat) : Bool :=
  match l.sink? i with
  | none => false
  | some s => s.isActive

/-- Takes a sink out of the active set and disposes it if it is active.  Says whether either
changed anything. -/
def disposeAt (i : Nat) (l : Line) : Bool × Line :=
  let phase (s : Sink) : Sink := if s.isActive then { s with phase := .disposed } else s
  if l.mux.released then
    -- Without its multiplexer a sink is on its own.
    (l.isActiveAt i, l.mapMux fun x => x.mapSink i phase)
  else
    (l.mux.active.contains i || l.isActiveAt i,
      l.mapMux fun x => { x.mapSink i phase with active := x.active.filter (· ≠ i) })

/-- The operations that remain in the scripts of the line's waiters. -/
def weight (l : Line) : Nat := Sink.weights l.mux.sinks

/-- Changing one sink leaves the others as they are. -/
theorem sink?_mapSink (l : Line) (i j : Nat) (f : Sink → Sink) :
    (l.mapMux fun x => x.mapSink i f).sink? j =
      (l.sink? j).map fun s => if i = j then f s else s := by
  simp [sink?, mapMux, Multiplexer.mapSink, List.getElem?_modify]

end Line

end Correlator
