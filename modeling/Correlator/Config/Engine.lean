/-
  Correlator.Config.Engine — THE SETTINGS OF AN ENGINE.

  An engine may limit the time to wait for its connections at startup, and
  bounds the messages that each subscription holds.
-/
import Correlator.Error
namespace Correlator

/-- The settings of an engine. -/
structure EngineConfig where
  startupTimeout : Option Duration := none
  sinkCapacity : Nat := 64
  deriving DecidableEq

namespace EngineConfig

/-- A subscription that could hold nothing would be of no use. -/
def validate (c : EngineConfig) : Except ConfigError Unit :=
  if c.sinkCapacity = 0 then .error .zeroSinkCapacity else .ok ()

/-- The diagnostic text of the settings. -/
def record (c : EngineConfig) : String :=
  Text.recordText "EngineConfig"
    [("startup_timeout", Text.optional (c.startupTimeout.map Duration.shown)),
     ("sink_capacity", toString c.sinkCapacity)]

end EngineConfig

end Correlator
