/-
  Correlator.Registry — THE CONNECTIONS THAT ARE KNOWN.

  A registry finds a connection by its identity and by its name.  The lines
  are kept in the order in which they were registered; the index of names
  leads to identities.  An insertion is refused if the name or the identity is
  taken, and a refused one leaves the registry as it is.

  Main content:
    * `Registry.insert`, `Registry.get?`, `Registry.getByName?`,
    * `Registry.connections` — the identities in ascending order,
    * `Registry.desk?` — one line taken in hand.
-/
import Correlator.Desk.Basic
namespace Correlator

/-- The connections that are known, under two indexes. -/
structure Registry where
  lines : List Line := []
  names : List (String × ConnectionId) := []

namespace Registry

/-- The line of an identity among lines. -/
def findLine (c : ConnectionId) (ls : List Line) : Option Line := ls.find? fun l => l.id = c

/-- The identity that a name leads to. -/
def findName (name : String) : List (String × ConnectionId) → Option ConnectionId
  | [] => none
  | (n, c) :: rest => if n = name then some c else findName name rest

/-- The connection of an identity. -/
def get? (r : Registry) (c : ConnectionId) : Option Line := findLine c r.lines

/-- The connection of a name. -/
def getByName? (r : Registry) (name : String) : Option Line :=
  (findName name r.names).bind r.get?

/-- Adds a connection.  Its name is looked at first, then its identity. -/
def insert (l : Line) (r : Registry) : Except ConfigError Registry :=
  if (findName l.config.name r.names).isSome then .error (.duplicateName l.config.name)
  else if (r.get? l.id).isSome then .error (.duplicateConnection l.id.shown)
  else .ok { lines := r.lines ++ [l], names := r.names ++ [(l.config.name, l.id)] }

/-- The number of connections. -/
def size (r : Registry) : Nat := r.lines.length

/-- The names in ascending order. -/
def sortedNames (r : Registry) : List String :=
  Text.sorted (r.lines.map fun l => l.config.name)

/-- The identities in ascending order. -/
def connections (r : Registry) : List ConnectionId := ConnectionId.sorted (r.lines.map Line.id)

/-- The lines in the order of their identities. -/
def sortedLines (r : Registry) : List Line := r.connections.filterMap r.get?

/-- The lines before and after the first one of an identity, and that line. -/
def split (c : ConnectionId) : List Line → Option (List Line × Line × List Line)
  | [] => none
  | l :: rest =>
    if l.id = c then some ([], l, rest)
    else (split c rest).map fun s => (l :: s.1, s.2)

/-- Takes the line of an identity in hand. -/
def desk? (r : Registry) (c : ConnectionId) (shared : Shared) : Option Desk :=
  (split c r.lines).map fun s => { before := s.1, line := s.2.1, after := s.2.2, shared }

/-! ## Taking a line in hand -/

/-- Splitting finds the line that a search finds, and loses none. -/
theorem split_eq_some {c : ConnectionId} {ls before after : List Line} {l : Line}
    (h : split c ls = some (before, l, after)) :
    ls = before ++ l :: after ∧ findLine c ls = some l := by
  induction ls generalizing before with
  | nil => simp [split] at h
  | cons k ks ih =>
    unfold split at h
    split at h
    · rename_i hk
      obtain ⟨rfl, rfl, rfl⟩ : [] = before ∧ k = l ∧ ks = after := by simpa using h
      simp [findLine, hk]
    · rename_i hk
      obtain ⟨s, hs, he⟩ := Option.map_eq_some_iff.1 h
      obtain ⟨b, m, a⟩ := s
      obtain ⟨rfl, rfl, rfl⟩ : k :: b = before ∧ m = l ∧ a = after := by simpa using he
      obtain ⟨rfl, hf⟩ := ih hs
      refine ⟨rfl, ?_⟩
      simpa [findLine, hk] using hf

/-- A line that is known can be taken in hand. -/
theorem split_isSome (c : ConnectionId) (ls : List Line) :
    (split c ls).isSome = (findLine c ls).isSome := by
  induction ls with
  | nil => rfl
  | cons k ks ih =>
    unfold split findLine
    by_cases hk : k.id = c
    · simp [hk]
    · simpa [hk, findLine] using ih

end Registry

end Correlator
