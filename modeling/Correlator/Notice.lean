/-
  Correlator.Notice — WHAT IS LOGGED.

  Everything that is logged has a level and a fixed text.  What varies between
  two notices of a kind, the connection or the sink for instance, is no part
  of the text.
-/
namespace Correlator

/-- How much a notice matters. -/
inductive Level where
  | trace
  | debug
  | info
  | warn
  | error
  deriving DecidableEq, Repr

/-- The name of a level. -/
def Level.shown : Level → String
  | trace => "TRACE"
  | debug => "DEBUG"
  | info => "INFO"
  | warn => "WARN"
  | error => "ERROR"

/-- A thing that is logged. -/
inductive Notice where
  | sinkRegistered
  | sinkRefused
  | sinkDisposed
  | callbackPanicked
  | orphanedResponse
  | dropBroadcast
  | dropRecordCleared
  | multiplexerClosed
  | subscriptionLagging
  | stateTransition
  | transitionRejected
  | connectionCreated
  | connectionEstablished
  | connectionDropped
  | alreadyDropped
  | credentialsAttached
  | credentialsAccepted
  | handshakeRejected
  | outboundApplication
  | keepalive
  | messageDiscarded
  | barrierArrival
  | allReady
  | startupTimedOut
  | connectionRegistered
  | unregisteredCallback
  | createIgnored
  | logonIgnored
  | transmitting
  | transportRejected
  | awaitingReplies
  | engineClosed
  deriving DecidableEq, Repr

namespace Notice

/-- The level of a notice. -/
def level : Notice → Level
  | sinkRegistered => .trace
  | sinkRefused => .debug
  | sinkDisposed => .trace
  | callbackPanicked => .error
  | orphanedResponse => .debug
  | dropBroadcast => .info
  | dropRecordCleared => .info
  | multiplexerClosed => .debug
  | subscriptionLagging => .trace
  | stateTransition => .debug
  | transitionRejected => .error
  | connectionCreated => .info
  | connectionEstablished => .info
  | connectionDropped => .info
  | alreadyDropped => .debug
  | credentialsAttached => .debug
  | credentialsAccepted => .debug
  | handshakeRejected => .warn
  | outboundApplication => .trace
  | keepalive => .trace
  | messageDiscarded => .warn
  | barrierArrival => .debug
  | allReady => .info
  | startupTimedOut => .warn
  | connectionRegistered => .info
  | unregisteredCallback => .warn
  | createIgnored => .debug
  | logonIgnored => .debug
  | transmitting => .trace
  | transportRejected => .warn
  | awaitingReplies => .debug
  | engineClosed => .info

/-- The text of a notice. -/
def text : Notice → String
  | sinkRegistered => "sink registered"
  | sinkRefused => "connection is dropped, failing new sink immediately"
  | sinkDisposed => "sink disposed"
  | callbackPanicked => "sink callback panicked"
  | orphanedResponse => "orphaned response, no sink matched"
  | dropBroadcast => "connection drop broadcast"
  | dropRecordCleared => "drop record cleared"
  | multiplexerClosed => "multiplexer closed"
  | subscriptionLagging => "subscription lagging, dropped oldest message"
  | stateTransition => "state transition"
  | transitionRejected => "rejected state transition"
  | connectionCreated => "connection created"
  | connectionEstablished => "connection established"
  | connectionDropped => "connection dropped"
  | alreadyDropped => "already dropped"
  | credentialsAttached => "credentials attached to handshake"
  | credentialsAccepted => "handshake credentials accepted"
  | handshakeRejected => "handshake rejected"
  | outboundApplication => "outbound application message"
  | keepalive => "keepalive"
  | messageDiscarded => "discarding message received before establishment"
  | barrierArrival => "startup barrier arrival"
  | allReady => "all configured connections ready"
  | startupTimedOut => "startup timed out"
  | connectionRegistered => "connection registered"
  | unregisteredCallback => "callback for unregistered connection"
  | createIgnored => "on_create ignored"
  | logonIgnored => "on_logon ignored"
  | transmitting => "transmitting"
  | transportRejected => "transport rejected message"
  | awaitingReplies => "awaiting correlated replies"
  | engineClosed => "engine closed"

end Notice

end Correlator
