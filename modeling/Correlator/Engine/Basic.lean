/-
  Correlator.Engine.Basic — THE ENGINE AND ITS CONNECTIONS.

  An engine holds the registered connections, what they share, its settings,
  and the factory of the rules for replies.  Whatever is done to a connection
  is done with its line in hand, and the line goes back to its place.

  Main content:
    * `Engine.at?`, `Engine.atName` — a line in hand,
    * `Engine.handler`, `Engine.handlerByName`, `Engine.stateOf`,
    * `Engine.registerConnection`, `Engine.close`,
    * `Engine.awaitStartupFrom`.
-/
import Correlator.Config.Engine
import Correlator.Desk.Perform
import Correlator.Desk.Reading
import Correlator.Registry
import Correlator.Rule.Reference
namespace Correlator

/-- A running engine. -/
structure Engine where
  registry : Registry
  shared : Shared
  config : EngineConfig
  factory : RuleFactory

namespace Engine

/-! ## A line in hand -/

/-- The engine with the lines and the shared state of a desk. -/
def ofDesk (e : Engine) (w : Desk) : Engine :=
  { e with registry := { e.registry with lines := w.lines }, shared := w.shared }

/-- Works on a connection with its line in hand, if the connection is known. -/
def at? {α : Type} (e : Engine) (c : ConnectionId) (f : Desk → α × Desk) : Option (α × Engine) :=
  (e.registry.desk? c e.shared).map fun w =>
    let (a, w) := f w
    (a, e.ofDesk w)

/-- Works on the line that a name's sink belongs to. -/
def atName {α : Type} (e : Engine) (name : String)
    (f : Desk → Except ReadingFault α × Desk) : Except ReadingFault α × Engine :=
  match (Directory.find? name e.shared.names).bind fun x => e.at? x.sink.connection f with
  | none => (.error .unknownName, e)
  | some r => r

/-- Logs a notice that concerns no line. -/
def note (n : Notice) (e : Engine) : Engine :=
  { e with shared := e.shared.add ⟨.noted n, none⟩ }

/-- Performs an operation on a connection, if the connection is known. -/
def exec (op : Operation) (c : ConnectionId) (e : Engine) : Option (Answer × Engine) :=
  e.at? c op.exec

/-! ## Looking up -/

/-- The connection of an identity. -/
def handler (e : Engine) (c : ConnectionId) : Except LinkError Line :=
  match e.registry.get? c with
  | none => .error (.routeNotFound c.shown)
  | some l => .ok l

/-- The connection of a name. -/
def handlerByName (e : Engine) (name : String) : Except LinkError Line :=
  match e.registry.getByName? name with
  | none => .error (.routeNotFound name)
  | some l => .ok l

/-- The state of a connection. -/
def stateOf (e : Engine) (c : ConnectionId) : Except LinkError ConnectionState :=
  (e.handler c).map Line.state

/-- The identities of the connections in ascending order. -/
def connections (e : Engine) : List ConnectionId := e.registry.connections

/-- The connection if messages may be sent on it. -/
def established (e : Engine) (c : ConnectionId) : Except LinkError Line :=
  match e.handler c with
  | .error x => .error x
  | .ok l =>
    if l.state.isEstablished then .ok l else .error (.notEstablished c l.state.shown)

/-! ## Connections come and go -/

/-- Registers a connection while the engine runs.  The barrier does not wait for it. -/
def registerConnection (config : ConnectionConfig) (e : Engine) :
    Except LinkError Line × Engine :=
  let l := Line.ofConfig config e.config.sinkCapacity
  match e.registry.insert l with
  | .error x => (.error (.configuration x), e)
  | .ok registry => (.ok l, { e with registry }.note .connectionRegistered)

/-- The identities in the order of their texts. -/
def byText (ids : List ConnectionId) : List ConnectionId :=
  ids.mergeSort fun a b => a.shown ≤ b.shown

/-- Closes the multiplexers of connections one after the other. -/
def closeLines : List ConnectionId → Engine → Engine
  | [], e => e
  | c :: rest, e =>
    match e.exec .close c with
    | none => closeLines rest e
    | some (_, e) => closeLines rest e

/-- Closes the multiplexer of every connection; no connection changes its state. -/
def close (e : Engine) : Engine :=
  (closeLines (byText (e.registry.lines.map Line.id)) e).note .engineClosed

/-! ## Startup -/

/-- A wait for the connections at startup is at its end, and nothing has arrived. -/
def awaitStartup (limit : Option Duration) (e : Engine) : Except LinkError Unit × Engine :=
  let (r, shared) := e.shared.awaitStartup limit
  (r, { e with shared })

/-- Waits for the connections at startup while nothing arrives.  There is no answer if the wait has
no end. -/
def awaitStartupFrom (k : Clock) (limit : Option Duration) (e : Engine) :
    Option (Except LinkError Unit) × Engine :=
  if e.shared.barrier.isEndless k limit then (none, e)
  else
    let (r, e) := e.awaitStartup limit
    (some r, e)

/-- The same wait by the announced count.  It always ends. -/
def awaitAnnounced (limit : Option Duration) (e : Engine) : Except LinkError Unit × Engine :=
  let (r, shared) := e.shared.awaitAnnounced limit
  (r, { e with shared })

/-- The diagnostic text of an engine. -/
def shown (e : Engine) : String :=
  Text.recordText "Engine"
    [("connections", toString e.registry.size),
     ("pending_startup", toString e.shared.barrier.remaining),
     ("config", e.config.record)]

end Engine

end Correlator
