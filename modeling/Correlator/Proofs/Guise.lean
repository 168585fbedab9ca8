/-
  Correlator.Proofs.Guise — WAITERS IN DISGUISE.

  A run may be compared with one in which the waiters differ in a way that
  should not matter: their rules accept the same messages but panic on others,
  or not, and their callbacks do the same and then panic, or not.  A guise says
  how, and an operation under a guise is the same operation with the waiters
  that it brings, and those that these register, dressed up.

  Main content:
    * `Guise`, `Operation.under`, `Sink.under` — guises and what wears them,
    * `Operation.under_plain` — waiters as they are,
    * `Operation.weight_under` — a guise leaves the operations in scripts,
    * `Listener.next_under` — one callback.
-/
import Correlator.Proofs.Weight
namespace Correlator

/-! ## §1. What wears a guise -/

/-- How a waiter is dressed up for the second run: its rule is replaced by one that accepts the
same messages, and it ends its callbacks in another way.  What it does in them stays the same. -/
structure Guise where
  rule : Rule → Rule
  panics : Bool → Bool
  accepts : ∀ r m, (rule r).judge m = .accepts ↔ r.judge m = .accepts

/-- Waiters as they are. -/
def Guise.plain : Guise := ⟨id, id, fun _ _ => Iff.rfl⟩

mutual

/-- An operation in which the waiters wear a guise. -/
def Operation.under (g : Guise) : Operation → Operation
  | .register name rule script => .register name (g.rule rule) (Operation.scriptUnder g script)
  | .subscribe name rule => .subscribe name (g.rule rule)
  | op => op

/-- A script under a guise. -/
def Operation.scriptUnder (g : Guise) : Script Operation → Script Operation
  | ⟨onMessage, onError, onClosed⟩ =>
    ⟨Operation.reactionsUnder g onMessage, Operation.reactionsUnder g onError,
      Operation.closedUnder g onClosed⟩

/-- The reactions to a close under a guise. -/
def Operation.closedUnder (g : Guise) :
    Option (List (Reaction Operation)) → Option (List (Reaction Operation))
  | none => none
  | some rs => some (Operation.reactionsUnder g rs)

/-- Several reactions under a guise. -/
def Operation.reactionsUnder (g : Guise) : List (Reaction Operation) → List (Reaction Operation)
  | [] => []
  | r :: rs => Operation.reactionUnder g r :: Operation.reactionsUnder g rs

/-- A reaction under a guise. -/
def Operation.reactionUnder (g : Guise) : Reaction Operation → Reaction Operation
  | ⟨calls, panics⟩ => ⟨Operation.callsUnder g calls, g.panics panics⟩

/-- Several operations under a guise. -/
def Operation.callsUnder (g : Guise) : List Operation → List Operation
  | [] => []
  | op :: ops => Operation.under g op :: Operation.callsUnder g ops

end

/-- A listener under a guise; a stream is the same under all. -/
def Listener.under (g : Guise) : Listener → Listener
  | scripted label script => scripted label (Operation.scriptUnder g script)
  | stream q => stream q

/-- A sink under a guise. -/
def Sink.under (g : Guise) (s : Sink) : Sink :=
  { s with rule := g.rule s.rule, listener := s.listener.under g }

/-! ## §2. Waiters as they are -/

namespace Operation

mutual

/-- As they are, waiters do what they do. -/
theorem under_plain : ∀ op : Operation, op.under .plain = op
  | .register name rule script => by
    rw [under, scriptUnder_plain script]
    rfl
  | .subscribe name rule => by
    rw [under]
    rfl
  | .dispatch _ | .broadcast _ | .resume | .close | .activeCount | .dispose _ | .isActive _
  | .create | .establish | .drop _ _ | .authenticateOutbound _ | .authenticateInbound _
  | .outboundAdmin _ | .outboundApplication _ | .inbound _ => by simp only [under]

theorem scriptUnder_plain : ∀ script : Script Operation, scriptUnder .plain script = script
  | ⟨onMessage, onError, onClosed⟩ => by
    rw [scriptUnder, reactionsUnder_plain onMessage, reactionsUnder_plain onError,
      closedUnder_plain onClosed]

theorem closedUnder_plain : ∀ rs : Option (List (Reaction Operation)), closedUnder .plain rs = rs
  | none => by rw [closedUnder]
  | some rs => by rw [closedUnder, reactionsUnder_plain rs]

theorem reactionsUnder_plain : ∀ rs : List (Reaction Operation), reactionsUnder .plain rs = rs
  | [] => by rw [reactionsUnder]
  | r :: rs => by rw [reactionsUnder, reactionUnder_plain r, reactionsUnder_plain rs]

theorem reactionUnder_plain : ∀ r : Reaction Operation, reactionUnder .plain r = r
  | ⟨calls, panics⟩ => by
    rw [reactionUnder, callsUnder_plain calls]
    rfl

theorem callsUnder_plain : ∀ ops : List Operation, callsUnder .plain ops = ops
  | [] => by rw [callsUnder]
  | op :: ops => by rw [callsUnder, under_plain op, callsUnder_plain ops]

end

end Operation

theorem Listener.under_plain (l : Listener) : l.under .plain = l := by
  cases l with
  | scripted label script => exact congrArg _ (Operation.scriptUnder_plain script)
  | stream q => rfl

theorem Sink.under_plain (s : Sink) : s.under .plain = s := by
  unfold under
  rw [Listener.under_plain]
  rfl

/-! ## §3. What lies in scripts -/

namespace Operation

mutual

/-- A guise leaves as many operations in scripts as there were. -/
theorem weight_under (g : Guise) : ∀ op : Operation, (op.under g).weight = op.weight
  | .register name rule script => by rw [under, weight, weight, scriptWeight_under g script]
  | .subscribe name rule => by rw [under, weight, weight] <;> simp
  | .dispatch _ | .broadcast _ | .resume | .close | .activeCount | .dispose _ | .isActive _
  | .create | .establish | .drop _ _ | .authenticateOutbound _ | .authenticateInbound _
  | .outboundAdmin _ | .outboundApplication _ | .inbound _ => by simp only [under]

theorem scriptWeight_under (g : Guise) :
    ∀ script : Script Operation, scriptWeight (scriptUnder g script) = scriptWeight script
  | ⟨onMessage, onError, onClosed⟩ => by
    rw [scriptUnder, scriptWeight, scriptWeight, reactionsWeight_under g onMessage,
      reactionsWeight_under g onError, closedWeight_under g onClosed]

theorem closedWeight_under (g : Guise) : ∀ rs : Option (List (Reaction Operation)),
    closedWeight (closedUnder g rs) = closedWeight rs
  | none => by rw [closedUnder]
  | some rs => by rw [closedUnder, closedWeight, closedWeight, reactionsWeight_under g rs]

theorem reactionsWeight_under (g : Guise) : ∀ rs : List (Reaction Operation),
    reactionsWeight (reactionsUnder g rs) = reactionsWeight rs
  | [] => by rw [reactionsUnder]
  | r :: rs => by
    rw [reactionsUnder, reactionsWeight, reactionsWeight, reactionWeight_under g r,
      reactionsWeight_under g rs]

theorem reactionWeight_under (g : Guise) :
    ∀ r : Reaction Operation, reactionWeight (reactionUnder g r) = reactionWeight r
  | ⟨calls, panics⟩ => by
    rw [reactionUnder, reactionWeight, reactionWeight, callsWeight_under g calls]

theorem callsWeight_under (g : Guise) :
    ∀ ops : List Operation, callsWeight (callsUnder g ops) = callsWeight ops
  | [] => by rw [callsUnder]
  | op :: ops => by
    rw [callsUnder, callsWeight, callsWeight, weight_under g op, callsWeight_under g ops]

end

variable (g : Guise)

theorem reactionsUnder_eq_map (rs : List (Reaction Operation)) :
    reactionsUnder g rs = rs.map (reactionUnder g) := by
  induction rs with
  | nil => rw [reactionsUnder, List.map_nil]
  | cons r rs ih => rw [reactionsUnder, ih, List.map_cons]

theorem closedUnder_eq_map (rs : Option (List (Reaction Operation))) :
    closedUnder g rs = rs.map (reactionsUnder g) := by
  cases rs with
  | none => rw [closedUnder, Option.map_none]
  | some rs => rw [closedUnder, Option.map_some]

theorem calls_reactionUnder (r : Reaction Operation) :
    (reactionUnder g r).calls = callsUnder g r.calls := by
  cases r
  rw [reactionUnder]

theorem panics_reactionUnder (r : Reaction Operation) :
    (reactionUnder g r).panics = g.panics r.panics := by
  cases r
  rw [reactionUnder]

/-! ## §4. One callback -/

/-- A callback takes the same reaction off a script, under the guise. -/
theorem next_scriptUnder (script : Script Operation) (c : Call) :
    (scriptUnder g script).next c =
      ((script.next c).1.map (reactionUnder g), scriptUnder g (script.next c).2) := by
  obtain ⟨onMessage, onError, onClosed⟩ := script
  cases c with
  | message m => simp only [scriptUnder, Script.next, reactionsUnder_eq_map, List.head?_map,
      List.map_tail]
  | error d => simp only [scriptUnder, Script.next, reactionsUnder_eq_map, List.head?_map,
      List.map_tail]
  | closed =>
    cases onClosed with
    | none => simp only [scriptUnder, Script.next, closedUnder_eq_map, Option.map_none,
        Option.bind_none]
    | some rs => simp only [scriptUnder, Script.next, closedUnder_eq_map, Option.map_some,
        Option.bind_some, reactionsUnder_eq_map, List.head?_map, List.map_tail]

end Operation

namespace Listener

variable (g : Guise) (l : Listener)

theorem weight_under : (l.under g).weight = l.weight := by
  cases l with
  | scripted label script => exact Operation.scriptWeight_under g script
  | stream q => rfl

/-- A listener under a guise takes a callback as it does without. -/
theorem next_under (c : Call) : (l.under g).next c =
    ((l.next c).1.map fun r => (r.1, Operation.reactionUnder g r.2), (l.next c).2.under g) := by
  cases l with
  | scripted label script =>
    simp only [under, next, Operation.next_scriptUnder, Option.map_map]
    rfl
  | stream q => rfl

end Listener

end Correlator
