/-
  Correlator.Operation — WHAT IS DONE TO A CONNECTION, AND WHAT WAITERS DO.

  An operation is a call on one connection: on its multiplexer, on the sinks
  registered there, or on its lifecycle.  A waiter that was registered with a
  script answers each of its callbacks with the next reaction of the script,
  which performs further operations on the same connection and may end in a
  panic.  A script is finite, so what one callback sets off ends.

  Main content:
    * `Operation`, `Reaction`, `Script`, `Call`,
    * `Answer` — what an operation answers,
    * `Operation.weight` — the operations that lie in the scripts of an
      operation, the bound for everything it can set off.
-/
import Correlator.Error
import Correlator.Rule.Basic
namespace Correlator

/-! ## Sinks and handles -/

/-- A sink: its connection and its place among the sinks made there. -/
structure SinkRef where
  connection : ConnectionId
  place : Nat
  deriving DecidableEq, Repr

/-- How a caller gets hold of a sink: by a name it was entered under, or directly. -/
inductive Handle where
  | named (name : String)
  | sink (ref : SinkRef)
  deriving DecidableEq, Repr

/-! ## Callbacks and scripts -/

/-- A callback to a waiter. -/
inductive Call where
  | message (m : Message)
  | error (drop : ConnectionDropped)
  | closed
  deriving DecidableEq, Repr

/-- What a waiter does in one callback: operations in order, and then it may panic. -/
structure Reaction (α : Type) where
  calls : List α
  panics : Bool

/-- The reactions of a waiter, in order, for each of its callbacks.  A waiter without a list for
the close does not hear of it. -/
structure Script (α : Type) where
  onMessage : List (Reaction α)
  onError : List (Reaction α)
  onClosed : Option (List (Reaction α))

namespace Script

/-- The waiter hears the callback. -/
def hears {α : Type} (s : Script α) : Call → Bool
  | .closed => s.onClosed.isSome
  | _ => true

/-- The next reaction to a callback, and the script without it. -/
def next {α : Type} (s : Script α) : Call → Option (Reaction α) × Script α
  | .message _ => (s.onMessage.head?, { s with onMessage := s.onMessage.tail })
  | .error _ => (s.onError.head?, { s with onError := s.onError.tail })
  | .closed =>
    (s.onClosed.bind List.head?, { s with onClosed := s.onClosed.map List.tail })

end Script

/-! ## Operations -/

/-- An operation on a connection. -/
inductive Operation where
  /-- Registers a scripted waiter under a name. -/
  | register (name : String) (rule : Rule) (script : Script Operation)
  /-- Registers a subscription under a name. -/
  | subscribe (name : String) (rule : Rule)
  | dispatch (m : Message)
  | broadcast (drop : ConnectionDropped)
  | resume
  | close
  | activeCount
  | dispose (handle : Handle)
  | isActive (handle : Handle)
  | create
  | establish
  | drop (cause : DropCause) (m : Option Message)
  | authenticateOutbound (m : Message)
  | authenticateInbound (m : Message)
  | outboundAdmin (m : Message)
  | outboundApplication (m : Message)
  | inbound (m : Message)

/-- The name of an operation in reports. -/
def Operation.name : Operation → String
  | register _ _ _ => "register"
  | subscribe _ _ => "subscribe"
  | dispatch _ => "dispatch"
  | broadcast _ => "drop"
  | resume => "resume"
  | close => "close"
  | activeCount => "active"
  | dispose _ => "dispose"
  | isActive _ => "is_active"
  | create => "on_create"
  | establish => "on_established"
  | drop _ _ => "on_dropped"
  | authenticateOutbound _ => "authenticate_outbound"
  | authenticateInbound _ => "authenticate_inbound"
  | outboundAdmin _ => "on_outbound_admin"
  | outboundApplication _ => "on_outbound_app"
  | inbound _ => "on_inbound"

/-- A sink that was made: its number among all sinks, and whether it is active. -/
structure Enrolment where
  sink : SinkRef
  number : Nat
  active : Bool
  deriving DecidableEq, Repr

/-- What an operation answers. -/
inductive Answer where
  | done
  | flag (value : Bool)
  | count (n : Nat)
  | enrolled (e : Enrolment)
  /-- No sink has the name. -/
  | unknownName
  /-- The multiplexer has been given up. -/
  | noMultiplexer
  | outcome (r : Except LinkError Unit)
  | tally (r : Except LinkError Nat)
  /-- The outcome with the message as it is afterwards. -/
  | outgoing (r : Except LinkError Unit) (m : Message)

/-! ## Weights -/

mutual

/-- The number of operations in the scripts of an operation. -/
def Operation.weight : Operation → Nat
  | .register _ _ script => Operation.scriptWeight script
  | _ => 0

/-- The number of operations in a script. -/
def Operation.scriptWeight : Script Operation → Nat
  | ⟨onMessage, onError, onClosed⟩ =>
    Operation.reactionsWeight onMessage + Operation.reactionsWeight onError +
      Operation.closedWeight onClosed

/-- The number of operations in the reactions to a close. -/
def Operation.closedWeight : Option (List (Reaction Operation)) → Nat
  | none => 0
  | some rs => Operation.reactionsWeight rs

/-- The number of operations in a list of reactions. -/
def Operation.reactionsWeight : List (Reaction Operation) → Nat
  | [] => 0
  | r :: rs => Operation.reactionWeight r + Operation.reactionsWeight rs

/-- The number of operations in a reaction. -/
def Operation.reactionWeight : Reaction Operation → Nat
  | ⟨calls, _⟩ => Operation.callsWeight calls

/-- The number of operations in a list, those in their scripts included. -/
def Operation.callsWeight : List Operation → Nat
  | [] => 0
  | op :: ops => 1 + Operation.weight op + Operation.callsWeight ops

end

end Correlator
