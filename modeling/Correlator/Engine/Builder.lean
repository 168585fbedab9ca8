/-
  Correlator.Engine.Builder — AN ENGINE IS PUT TOGETHER.

  A builder gathers the connections and the settings of an engine and whether
  it has a transport.  Building it checks the settings first, then the
  transport, then the connections in order, the name of each before its
  identity.  The barrier of the engine expects every connection that was
  given, each with the event that makes its role ready.
-/
import Correlator.Engine.Basic
namespace Correlator

/-- An engine in the making. -/
structure EngineBuilder where
  hasTransport : Bool := false
  connections : List ConnectionConfig := []
  config : EngineConfig := {}
  factory : RuleFactory := .reference .standard

namespace EngineBuilder

/-- The first configuration whose name or identity was seen before is a fault. -/
def checkDistinct (names : List String) (ids : List ConnectionId) :
    List ConnectionConfig → Except ConfigError Unit
  | [] => .ok ()
  | c :: rest =>
    if c.name ∈ names then .error (.duplicateName c.name)
    else if c.id ∈ ids then .error (.duplicateConnection c.id.shown)
    else checkDistinct (c.name :: names) (c.id :: ids) rest

/-- The settings, the transport and the connections are in order. -/
def check (b : EngineBuilder) : Except ConfigError Unit := do
  b.config.validate
  if !b.hasTransport then .error .missingTransport
  checkDistinct [] [] b.connections

/-- Registers configurations one after the other. -/
def populate (capacity : Nat) : List ConnectionConfig → Registry → Except ConfigError Registry
  | [], r => .ok r
  | c :: rest, r =>
    match r.insert (.ofConfig c capacity) with
    | .error x => .error x
    | .ok r => populate capacity rest r

/-- The barrier that expects every connection. -/
def barrier (b : EngineBuilder) : Barrier :=
  .expecting (b.connections.map fun c => (c.id, c.role.readiness))

/-- The engine, or the first fault. -/
def build (b : EngineBuilder) : Except LinkError Engine :=
  match b.check with
  | .error x => .error (.configuration x)
  | .ok _ =>
    match populate b.config.sinkCapacity b.connections {} with
    | .error x => .error (.configuration x)
    | .ok registry =>
      .ok { registry, shared := { barrier := b.barrier }, config := b.config, factory := b.factory }

/-- The diagnostic text of a builder. -/
def shown (b : EngineBuilder) : String :=
  Text.recordText "EngineBuilder"
    [("transport", Text.truth b.hasTransport),
     ("connections", Text.listed (b.connections.map ConnectionConfig.record)),
     ("config", b.config.record)]

end EngineBuilder

end Correlator
