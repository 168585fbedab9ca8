/-
  Correlator.Barrier — WAITING FOR THE CONNECTIONS AT STARTUP.

  A barrier expects one event of each of its connections and counts them down
  as the events arrive, each connection once.  The number of connections that
  remain is kept twice, as the list of those pending and as a count that is
  announced to waiters.  A wait that looks at the list goes by a deadline, and
  has no end if its limit is too long to be one; a wait that looks at the count
  ends with its limit.

  Main content:
    * `Barrier.expecting` — the barrier over a list of expectations,
    * `Barrier.arrive` — one event of one connection,
    * `Barrier.isEndless`, `Barrier.verdict` — a wait by the list with nothing
      arriving: whether it ends, and with what answer,
    * `Barrier.waitAnnounced` — the same by the count,
    * `Vigil` — a wait that is begun and looked at again.
-/
import Correlator.Connection.Role
import Correlator.Error
import Correlator.Notice
import Correlator.Text.Order
namespace Correlator

/-- The countdown over the connections expected at startup. -/
structure Barrier where
  pending : List (ConnectionId × Readiness)
  announced : Nat
  deriving DecidableEq

namespace Barrier

/-- Expects an event of a connection, in place of an earlier one. -/
def expect (c : ConnectionId) (e : Readiness) :
    List (ConnectionId × Readiness) → List (ConnectionId × Readiness)
  | [] => [(c, e)]
  | (d, f) :: rest => if d = c then (d, e) :: rest else (d, f) :: expect c e rest

/-- The event expected of a connection. -/
def expected? (c : ConnectionId) : List (ConnectionId × Readiness) → Option Readiness
  | [] => none
  | (d, f) :: rest => if d = c then some f else expected? c rest

/-- The barrier over a list of expectations; the last one of a connection counts. -/
def expecting (es : List (ConnectionId × Readiness)) : Barrier :=
  let pending := es.foldl (fun ps e => expect e.1 e.2 ps) []
  ⟨pending, pending.length⟩

/-- An event of a connection.  It counts if it is the one expected and the connection has not
been counted before. -/
def arrive (b : Barrier) (c : ConnectionId) (e : Readiness) : Bool × Barrier :=
  if expected? c b.pending = some e then
    let pending := b.pending.filter fun p => p.1 ≠ c
    (true, ⟨pending, pending.length⟩)
  else (false, b)

/-- The number of connections that have not arrived. -/
def remaining (b : Barrier) : Nat := b.pending.length

/-- Every connection has arrived. -/
def isReleased (b : Barrier) : Bool := b.remaining = 0

/-- The texts of the connections that have not arrived, in ascending order. -/
def pendingNames (b : Barrier) : List String := Text.sorted (b.pending.map fun p => p.1.shown)

/-- Waiting for `limit` failed. -/
def timedOut (b : Barrier) (limit : Duration) : LinkError := .startupTimeout limit b.pendingNames

/-- The wait has no end as long as nothing arrives: a connection is pending, and the clock can make
no deadline of the limit. -/
def isEndless (k : Clock) (limit : Option Duration) (b : Barrier) : Bool :=
  !b.pending.isEmpty && limit.any fun d => (k.deadline? d).isNone

/-- What a wait answers at its end if nothing has arrived.  Without a limit the wait is off. -/
def verdict (limit : Option Duration) (b : Barrier) : Except LinkError Unit :=
  match limit with
  | none => .ok ()
  | some d => if b.pending.isEmpty then .ok () else .error (b.timedOut d)

/-- Waits by the announced count, at most for the limit, while nothing arrives. -/
def waitAnnounced (limit : Option Duration) (b : Barrier) : Except LinkError Unit :=
  match limit with
  | none => .ok ()
  | some d => if b.announced = 0 then .ok () else .error (b.timedOut d)

/-- Looks at a wait once: over, or nothing yet. -/
def poll (limit : Option Duration) (b : Barrier) : Option (Except LinkError Unit) :=
  match limit with
  | none => some (.ok ())
  | some _ => if b.announced = 0 then some (.ok ()) else none

/-- What is logged when an event was counted or not, given the barrier afterwards. -/
def arrivalNotices (counted : Bool) (b : Barrier) : List Notice :=
  if counted then
    if b.isReleased then [.barrierArrival, .allReady] else [.barrierArrival]
  else []

/-- What is logged at the end of a wait. -/
def waitNotices : Except LinkError Unit → List Notice
  | .error _ => [.startupTimedOut]
  | .ok _ => []

end Barrier

/-! ## Waits that are kept -/

/-- A wait that has been begun and is not over, if there is one. -/
structure Vigil where
  kept : Option (Option Duration) := none
  deriving DecidableEq

namespace Vigil

/-- Begins a wait in place of the one that is kept. -/
def begin (limit : Option Duration) (b : Barrier) : Option (Except LinkError Unit) × Vigil :=
  match b.poll limit with
  | none => (none, ⟨some limit⟩)
  | some r => (some r, {})

/-- Looks at the wait that is kept, if there is one. -/
def look? (v : Vigil) (b : Barrier) : Option (Option (Except LinkError Unit) × Vigil) :=
  v.kept.map fun limit =>
    match b.poll limit with
    | none => (none, v)
    | some r => (some r, {})

end Vigil

end Correlator
