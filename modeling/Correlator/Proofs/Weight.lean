/-
  Correlator.Proofs.Weight — HOW MANY OPERATIONS LIE IN SCRIPTS.

  The weight of a script is the number of operations in it, those in the
  scripts that these bring included.  A callback takes its reaction off the
  script before anything of it is performed, so the weight of a line falls by
  what the callback is about to do.

  Main results:
    * `Listener.weight_next` — what a callback takes off a script,
    * `Sink.weights_modify`, `Sink.weights_concat` — several sinks,
    * `Desk.weight_hear`, `Desk.weight_dispose`, `Desk.weight_seat` — a line,
    * `Operation.within_of_weight` — nothing lies in scripts without weight.
-/
import Correlator.Proofs.Scripts
namespace Correlator

/-! ## §1. Scripts -/

namespace Operation

theorem reactionWeight_eq (r : Reaction Operation) : reactionWeight r = callsWeight r.calls := by
  cases r
  simp only [reactionWeight]

theorem reactionsWeight_cons (r : Reaction Operation) (rs : List (Reaction Operation)) :
    reactionsWeight (r :: rs) = callsWeight r.calls + reactionsWeight rs := by
  rw [← reactionWeight_eq]
  simp only [reactionsWeight]

theorem callsWeight_eq_zero {ops : List Operation} (h : callsWeight ops = 0) : ops = [] := by
  cases ops with
  | nil => rfl
  | cons op ops =>
    simp only [callsWeight] at h
    omega

/-- The first reaction of a list and the others weigh what the list weighs. -/
theorem weight_head_tail (rs : List (Reaction Operation)) :
    (rs.head?.elim 0 fun r => callsWeight r.calls) + reactionsWeight rs.tail =
      reactionsWeight rs := by
  cases rs with
  | nil => simp only [List.head?_nil, Option.elim_none, List.tail_nil, Nat.zero_add]
  | cons r rs =>
    rw [reactionsWeight_cons]
    rfl

end Operation

namespace Listener

open Operation in
/-- A callback takes the operations of its reaction off the script. -/
theorem weight_next (l : Listener) (c : Call) :
    ((l.next c).1.elim 0 fun r => callsWeight r.2.calls) + (l.next c).2.weight = l.weight := by
  cases l with
  | stream buffer => rfl
  | scripted label script =>
    obtain ⟨onMessage, onError, onClosed⟩ := script
    have strip : ∀ o : Option (Reaction Operation),
        ((o.map fun r => (label, r)).elim 0 fun r => callsWeight r.2.calls) =
          o.elim 0 fun r => callsWeight r.calls := by
      intro o
      cases o <;> rfl
    simp only [next, weight, strip]
    cases c with
    | message m =>
      have h := weight_head_tail onMessage
      simp only [Script.next, scriptWeight]
      omega
    | error d =>
      have h := weight_head_tail onError
      simp only [Script.next, scriptWeight]
      omega
    | closed =>
      cases onClosed with
      | none => simp [Script.next, scriptWeight, closedWeight]
      | some rs =>
        have h := weight_head_tail rs
        simp only [Script.next, scriptWeight, Option.bind_some, Option.map_some, closedWeight]
        omega

end Listener

/-! ## §2. Sinks -/

namespace Sink

theorem weights_cons (s : Sink) (ss : List Sink) :
    weights (s :: ss) = s.listener.weight + weights ss := rfl

theorem weights_concat (ss : List Sink) (s : Sink) :
    weights (ss ++ [s]) = weights ss + s.listener.weight := by
  induction ss with
  | nil =>
    rw [List.nil_append, weights_cons]
    show s.listener.weight + 0 = 0 + s.listener.weight
    omega
  | cons k ss ih =>
    rw [List.cons_append, weights_cons, weights_cons, ih]
    omega

/-- A change of one sink changes the weight by what it changes of that sink's. -/
theorem weights_modify {ss : List Sink} {i : Nat} {s : Sink} (hs : ss[i]? = some s)
    (f : Sink → Sink) :
    weights (ss.modify i f) + s.listener.weight = weights ss + (f s).listener.weight := by
  induction ss generalizing i with
  | nil => cases hs
  | cons k ss ih =>
    cases i with
    | zero =>
      cases hs
      show (f s).listener.weight + weights ss + s.listener.weight =
        s.listener.weight + weights ss + (f s).listener.weight
      omega
    | succ i =>
      have h := ih hs
      show k.listener.weight + weights (ss.modify i f) + s.listener.weight =
        k.listener.weight + weights ss + (f s).listener.weight
      omega

theorem weights_modify_of_keeps (ss : List Sink) (i : Nat) {f : Sink → Sink}
    (hf : ∀ s, (f s).listener = s.listener) : weights (ss.modify i f) = weights ss := by
  cases hs : ss[i]? with
  | none =>
    rw [List.modify_eq_self]
    exact List.getElem?_eq_none_iff.mp hs
  | some s =>
    have h := weights_modify hs f
    rw [hf s] at h
    omega

end Sink

/-! ## §3. Lines -/

theorem Line.weight_disposeAt (i : Nat) (l : Line) : (l.disposeAt i).2.weight = l.weight := by
  unfold weight
  rw [sinks_disposeAt]
  refine Sink.weights_modify_of_keeps _ _ ?_
  intro s
  split <;> rfl

namespace Desk

theorem weight_dispose (s : SinkRef) (w : Desk) : (w.dispose s).2.line.weight = w.line.weight :=
  kept_dispose Line.weight_disposeAt s w

theorem weight_seat (rule : Rule) (listener : Listener) (w : Desk) :
    (w.seat rule listener).line.weight = w.line.weight + listener.weight := by
  show Sink.weights (w.seat rule listener).line.mux.sinks = _
  rw [sinks_seat, Sink.weights_concat]
  rfl

/-- What a callback takes off a script it takes off the weight of the line. -/
theorem weight_hear {w : Desk} {i : Nat} {s : Sink} (hs : w.sink? i = some s) (c : Call) :
    ((s.listener.next c).1.elim 0 fun r => Operation.callsWeight r.2.calls) +
      (w.hear i s c).line.weight = w.line.weight := by
  rw [line_hear]
  have h := Sink.weights_modify hs
    fun k => { k with listener := (k.listener.next c).2 }
  have hnext := s.listener.weight_next c
  show _ + Sink.weights (w.line.mux.sinks.modify i _) = Sink.weights w.line.mux.sinks
  simp only at h
  omega

end Desk

/-- A sink weighs no more than its line. -/
theorem Line.weight_sink_le {l : Line} {i : Nat} {s : Sink} (hs : l.sink? i = some s) :
    s.listener.weight ≤ l.weight := by
  have mem : s ∈ l.mux.sinks := List.mem_of_getElem? hs
  show s.listener.weight ≤ Sink.weights l.mux.sinks
  generalize l.mux.sinks = sinks at mem
  induction sinks with
  | nil => cases mem
  | cons k ks ih =>
    rw [Sink.weights_cons]
    rcases List.mem_cons.mp mem with rfl | mem
    · exact Nat.le_add_right _ _
    · exact Nat.le_trans (ih mem) (Nat.le_add_left _ _)

/-! ## §4. Scripts without weight -/

namespace Operation

theorem reactionsWithin_of_weight {rs : List (Reaction Operation)} (h : reactionsWeight rs = 0) :
    reactionsWithin rs = [] := by
  induction rs with
  | nil => rw [reactionsWithin]
  | cons r rs ih =>
    rw [reactionsWeight_cons] at h
    obtain ⟨calls, panics⟩ := r
    have none : calls = [] := callsWeight_eq_zero (Nat.eq_zero_of_add_eq_zero_right h)
    rw [reactionsWithin, reactionWithin, none, callsWithin,
      ih (Nat.eq_zero_of_add_eq_zero_left h), List.append_nil]

theorem scriptWithin_of_weight {script : Script Operation} (h : scriptWeight script = 0) :
    scriptWithin script = [] := by
  obtain ⟨onMessage, onError, onClosed⟩ := script
  simp only [scriptWeight] at h
  have closed : closedWithin onClosed = [] := by
    cases onClosed with
    | none => rw [closedWithin]
    | some rs =>
      simp only [closedWeight] at h
      rw [closedWithin, reactionsWithin_of_weight (by omega)]
  rw [scriptWithin, reactionsWithin_of_weight (by omega), reactionsWithin_of_weight (by omega),
    closed]
  rfl

/-- An operation that brings no operations is all that lies in it. -/
theorem within_of_weight {op : Operation} (h : op.weight = 0) : op.within = [op] := by
  cases op with
  | register name rule script =>
    simp only [weight] at h
    rw [within, scriptWithin_of_weight h]
  | _ => simp only [within]

end Operation

/-- A listener without weight has no operations. -/
theorem Listener.within_of_weight {l : Listener} (h : l.weight = 0) : l.within = [] := by
  cases l with
  | scripted label script => exact Operation.scriptWithin_of_weight h
  | stream buffer => rfl

end Correlator
