/-
  Correlator.Proofs.Scripts — WHICH OPERATIONS A RUN CAN PERFORM.

  A waiter performs the operations of its script, and an operation that
  registers a further waiter brings that waiter's script along.  So all that a
  run can ever perform lies in the operations that it is made of, however deep.
  A law is a condition on single operations; a run of operations that keep a
  law, in their scripts too, performs nothing against it.

  Main content:
    * `Operation.within` — an operation and what lies in its scripts,
    * `Desk.Obeys` — the scripts of the waiters keep a law,
    * `Listener.within_next`, `Listener.within_of_next` — one callback.
-/
import Correlator.Proofs.Phase
namespace Correlator

/-! ## §1. What lies in scripts -/

mutual

/-- An operation and those in its scripts. -/
def Operation.within : Operation → List Operation
  | .register name rule script => .register name rule script :: Operation.scriptWithin script
  | op => [op]

/-- The operations in a script. -/
def Operation.scriptWithin : Script Operation → List Operation
  | ⟨onMessage, onError, onClosed⟩ =>
    Operation.reactionsWithin onMessage ++ (Operation.reactionsWithin onError ++
      Operation.closedWithin onClosed)

/-- The operations in the reactions to a close. -/
def Operation.closedWithin : Option (List (Reaction Operation)) → List Operation
  | none => []
  | some rs => Operation.reactionsWithin rs

/-- The operations in a list of reactions. -/
def Operation.reactionsWithin : List (Reaction Operation) → List Operation
  | [] => []
  | r :: rs => Operation.reactionWithin r ++ Operation.reactionsWithin rs

/-- The operations in a reaction. -/
def Operation.reactionWithin : Reaction Operation → List Operation
  | ⟨calls, _⟩ => Operation.callsWithin calls

/-- The operations in a list, those in their scripts included. -/
def Operation.callsWithin : List Operation → List Operation
  | [] => []
  | op :: ops => Operation.within op ++ Operation.callsWithin ops

end

namespace Operation

theorem mem_within_self (op : Operation) : op ∈ op.within := by
  cases op <;> simp [within]

theorem within_subset_callsWithin {op : Operation} {ops : List Operation} (h : op ∈ ops) :
    op.within ⊆ callsWithin ops := by
  induction ops with
  | nil => cases h
  | cons o ops ih =>
    rw [callsWithin]
    rcases List.mem_cons.mp h with rfl | h
    · exact List.subset_append_left _ _
    · exact List.Subset.trans (ih h) (List.subset_append_right _ _)

/-- The reactions that are left lie in the list. -/
theorem reactionsWithin_tail (rs : List (Reaction Operation)) :
    reactionsWithin rs.tail ⊆ reactionsWithin rs := by
  cases rs with
  | nil => exact List.Subset.refl _
  | cons r rs =>
    rw [reactionsWithin]
    exact List.subset_append_right _ _

/-- The reaction that is taken lies in the list. -/
theorem callsWithin_head {rs : List (Reaction Operation)} {r : Reaction Operation}
    (h : rs.head? = some r) : callsWithin r.calls ⊆ reactionsWithin rs := by
  cases rs with
  | nil => cases h
  | cons r' rs =>
    cases h
    obtain ⟨calls, panics⟩ := r
    rw [reactionsWithin, reactionWithin]
    exact List.subset_append_left _ _

end Operation

/-! ## §2. One callback -/

namespace Script

variable {script : Script Operation}

/-- What is left of a script after a callback lies in the script. -/
theorem within_next (c : Call) :
    Operation.scriptWithin (script.next c).2 ⊆ Operation.scriptWithin script := by
  obtain ⟨onMessage, onError, onClosed⟩ := script
  intro op hop
  cases c with
  | message m =>
    simp only [next, Operation.scriptWithin, List.mem_append] at hop ⊢
    exact hop.imp (fun h => Operation.reactionsWithin_tail _ h) id
  | error d =>
    simp only [next, Operation.scriptWithin, List.mem_append] at hop ⊢
    exact hop.imp id fun h => h.imp (fun h => Operation.reactionsWithin_tail _ h) id
  | closed =>
    cases onClosed with
    | none => exact hop
    | some rs =>
      simp only [next, Operation.scriptWithin, Operation.closedWithin, Option.map_some,
        List.mem_append] at hop ⊢
      exact hop.imp id fun h => h.imp id fun h => Operation.reactionsWithin_tail _ h

/-- What a waiter performs in a callback lies in its script. -/
theorem callsWithin_next {c : Call} {r : Reaction Operation} (h : (script.next c).1 = some r) :
    Operation.callsWithin r.calls ⊆ Operation.scriptWithin script := by
  obtain ⟨onMessage, onError, onClosed⟩ := script
  intro op hop
  simp only [Operation.scriptWithin, List.mem_append]
  cases c with
  | message m => exact .inl (Operation.callsWithin_head h hop)
  | error d => exact .inr (.inl (Operation.callsWithin_head h hop))
  | closed =>
    cases onClosed with
    | none => cases h
    | some rs => exact .inr (.inr (Operation.callsWithin_head h hop))

end Script

namespace Listener

/-- The operations in the listener's script. -/
def within : Listener → List Operation
  | scripted _ script => Operation.scriptWithin script
  | stream _ => []

/-- A listener keeps the operations that a callback leaves it. -/
theorem within_next (l : Listener) (c : Call) : (l.next c).2.within ⊆ l.within := by
  cases l with
  | scripted label script => exact Script.within_next c
  | stream buffer => exact List.Subset.refl _

/-- A listener performs operations of its own. -/
theorem within_of_next {l : Listener} {c : Call} {label : String} {r : Reaction Operation}
    (h : (l.next c).1 = some (label, r)) {op : Operation} (hop : op ∈ r.calls) :
    op.within ⊆ l.within := by
  cases l with
  | scripted name script =>
    obtain ⟨r', hr', heq⟩ := Option.map_eq_some_iff.mp h
    cases heq
    exact List.Subset.trans (Operation.within_subset_callsWithin hop) (Script.callsWithin_next hr')
  | stream buffer => cases h

end Listener

/-! ## §3. Laws -/

/-- Every operation in the scripts of the line's waiters keeps the law. -/
def Desk.Obeys (law : Operation → Prop) (w : Desk) : Prop :=
  ∀ s ∈ w.line.mux.sinks, ∀ op ∈ s.listener.within, law op

namespace Desk.Obeys

variable {law : Operation → Prop} {w v : Desk}

theorem opening (w : Desk) (config : ConnectionConfig) (capacity : Nat) :
    (w.opening config capacity).Obeys law := by
  intro s hs
  cases hs

/-- Without a law there is nothing to keep. -/
theorem trivial (w : Desk) : w.Obeys fun _ => True := fun _ _ _ _ => True.intro

theorem of_sinks (h : w.Obeys law) (hs : v.line.mux.sinks = w.line.mux.sinks) : v.Obeys law := by
  unfold Obeys
  rw [hs]
  exact h

/-- A sink whose listener has no operations but those that it had. -/
theorem modify (h : w.Obeys law) {i : Nat} {f : Sink → Sink}
    (hf : ∀ s, (f s).listener.within ⊆ s.listener.within)
    (hs : v.line.mux.sinks = w.line.mux.sinks.modify i f) : v.Obeys law := by
  intro s hmem op hop
  rw [hs] at hmem
  obtain ⟨j, hj⟩ := List.mem_iff_getElem?.mp hmem
  rw [List.getElem?_modify] at hj
  obtain ⟨k, hk, rfl⟩ := Option.map_eq_some_iff.mp hj
  refine h k (List.mem_of_getElem? hk) op ?_
  split at hop
  · exact hf k hop
  · exact hop

/-- A new sink brings the operations of its listener. -/
theorem concat (h : w.Obeys law) {s : Sink} (hl : ∀ op ∈ s.listener.within, law op)
    (hs : v.line.mux.sinks = w.line.mux.sinks ++ [s]) : v.Obeys law := by
  intro k hk
  rw [hs] at hk
  rcases List.mem_append.mp hk with hk | hk
  · exact h k hk
  · rw [List.mem_singleton.mp hk]
    exact hl

theorem mapSink (h : w.Obeys law) (i : Nat) {f : Sink → Sink}
    (hf : ∀ s, (f s).listener.within ⊆ s.listener.within) : (w.mapSink i f).Obeys law :=
  h.modify hf rfl

theorem hear (h : w.Obeys law) (i : Nat) (s : Sink) (c : Call) : (w.hear i s c).Obeys law :=
  h.modify (fun k => k.listener.within_next c) (w.sinks_hear i s c)

theorem seat (h : w.Obeys law) (rule : Rule) {listener : Listener}
    (hl : ∀ op ∈ listener.within, law op) : (w.seat rule listener).Obeys law :=
  h.concat (s := ⟨w.shared.issued + 1, rule, .active, listener⟩) hl rfl

theorem dispose (h : w.Obeys law) (s : SinkRef) : (w.dispose s).2.Obeys law := by
  obtain ⟨f, hsinks, hf⟩ := Desk.sinks_dispose s w
  refine h.modify ?_ hsinks
  intro k
  rcases hf k with h | ⟨-, -, h⟩ <;> rw [h] <;> exact List.Subset.refl _

end Desk.Obeys

end Correlator
