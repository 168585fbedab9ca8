/-
  Correlator.Connection.Id — IDENTITIES OF CONNECTIONS.

  A connection is known by the version that its messages begin with, the names
  of its two parties with their optional sub-names, and an optional qualifier.
  Identities are ordered part by part, a part that is not set before any that
  is, and texts by their characters.

  Main content:
    * `ConnectionId.shown` — BEGIN:SENDER/SUB->TARGET/SUB:QUALIFIER, parts that
      are not set left out,
    * `ConnectionId.order` — the order of identities.
-/
namespace Correlator

/-- The identity of a connection. -/
structure ConnectionId where
  beginString : String
  senderCompId : String
  targetCompId : String
  senderSubId : Option String
  targetSubId : Option String
  qualifier : Option String
  deriving DecidableEq, Repr

namespace ConnectionId

/-- An identity without sub-names and qualifier. -/
def plain (beginString sender target : String) : ConnectionId :=
  ⟨beginString, sender, target, none, none, none⟩

/-- A mark and a text, or nothing. -/
def after (mark : String) : Option String → String
  | none => ""
  | some s => mark ++ s

/-- The identity as one text. -/
def shown (c : ConnectionId) : String :=
  c.beginString ++ ":" ++ c.senderCompId ++ after "/" c.senderSubId ++ "->" ++
    c.targetCompId ++ after "/" c.targetSubId ++ after ":" c.qualifier

/-- The parts of an identity in the order in which they are compared. -/
def parts (c : ConnectionId) : List (Option String) :=
  [some c.beginString, some c.senderCompId, some c.targetCompId, c.senderSubId, c.targetSubId,
   c.qualifier]

/-- Compares two parts: one that is not set comes first. -/
def orderPart : Option String → Option String → Ordering
  | none, none => .eq
  | none, some _ => .lt
  | some _, none => .gt
  | some a, some b => compare a b

/-- Compares two lists of parts from the left. -/
def orderParts : List (Option String) → List (Option String) → Ordering
  | [], [] => .eq
  | [], _ :: _ => .lt
  | _ :: _, [] => .gt
  | a :: as, b :: bs => (orderPart a b).then (orderParts as bs)

/-- The order of identities. -/
def order (a b : ConnectionId) : Ordering := orderParts a.parts b.parts

/-- Identities in ascending order. -/
def sorted (ids : List ConnectionId) : List ConnectionId :=
  ids.mergeSort fun a b => (order a b).isLE

/-- The parts determine the identity. -/
theorem parts_injective {a b : ConnectionId} (h : a.parts = b.parts) : a = b := by
  cases a; cases b; simp_all [parts]

end ConnectionId

end Correlator
