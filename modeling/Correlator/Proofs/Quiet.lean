/-
  Correlator.Proofs.Quiet — CALLBACKS THAT ONLY LISTEN.

  A waiter whose script holds no operations takes a callback, perhaps panics,
  and does nothing else.  Among such waiters the end of many sinks has an exact
  account: which callbacks are made, in which order, and how many of them
  return.

  Main results:
    * `Desk.callWith_quiet` — a quiet callback,
    * `Desk.Still` — what quiet callbacks leave alone,
    * `Desk.finish_quiet`, `Desk.toldAll_visit` — the end of one sink, and of many.
-/
import Correlator.Proofs.ActiveSet
import Correlator.Proofs.Weight
namespace Correlator

/-! ## §1. Reactions without operations -/

namespace Listener

/-- The next reaction to a callback ends in a panic. -/
def panicsOn (l : Listener) (c : Call) : Bool :=
  match (l.next c).1 with
  | none => false
  | some (_, r) => r.panics

/-- Without operations in its script, a listener stays without them. -/
theorem weight_next_of_quiet {l : Listener} (h : l.weight = 0) (c : Call) :
    (l.next c).2.weight = 0 := by
  have := l.weight_next c
  omega

theorem calls_next_of_quiet {l : Listener} (h : l.weight = 0) {c : Call} {label : String}
    {r : Reaction Operation} (hr : (l.next c).1 = some (label, r)) : r.calls = [] := by
  have hw := l.weight_next c
  simp only [hr, Option.elim_some] at hw
  exact Operation.callsWeight_eq_zero (by omega)

end Listener

namespace Desk

/-- No listener of the line in hand has operations in its script. -/
def Quiet (w : Desk) : Prop := ∀ i s, w.sink? i = some s → s.listener.weight = 0

theorem quiet_of_weight {w : Desk} (h : w.line.weight = 0) : w.Quiet := by
  intro i s hs
  exact Nat.le_zero.mp (h ▸ Line.weight_sink_le hs)

/-- The listener at a place panics in its next callback of this kind. -/
def panicsAt (w : Desk) (c : Call) (i : Nat) : Bool :=
  match w.sink? i with
  | none => false
  | some s => s.listener.panicsOn c

/-- A callback panics as its listener does. -/
theorem callWith_fst (perform : Performer) (i : Nat) (c : Call) (w : Desk) :
    (callWith perform i c w).1 = w.panicsAt c i := by
  unfold callWith panicsAt Listener.panicsOn
  cases w.sink? i with
  | none => rfl
  | some s =>
    dsimp only
    cases (s.listener.next c).1 <;> rfl

theorem tell_fst (perform : Performer) (i : Nat) (c : Call) (w : Desk) :
    (w.tell (callWith perform) i c).1 = !w.panicsAt c i := by
  rw [← callWith_fst perform]
  unfold tell
  split
  case h_1 h => rw [h]; rfl
  case h_2 h => rw [h]; rfl

/-- A callback to a quiet listener: it takes the callback, and nothing more. -/
theorem callWith_quiet (perform : Performer) {w : Desk} {i : Nat} {s : Sink}
    (hs : w.sink? i = some s) (hq : s.listener.weight = 0) (c : Call) :
    callWith perform i c w = (s.listener.panicsOn c, w.hear i s c) := by
  unfold callWith Listener.panicsOn
  rw [hs]
  dsimp only
  cases hr : (s.listener.next c).1 with
  | none => rfl
  | some reaction =>
    obtain ⟨label, r⟩ := reaction
    dsimp only
    rw [Listener.calls_next_of_quiet hq hr]
    rfl

/-! ## §2. What quiet callbacks leave alone -/

/-- Between two desks the listeners of the line in hand, their phases and the active set may have
changed; the sinks are the same ones, quiet if they were. -/
structure Still (w v : Desk) : Prop where
  id : v.line.id = w.line.id
  live : v.line.mux.released = w.line.mux.released
  record : v.line.mux.dropRecord = w.line.mux.dropRecord
  closed : v.line.mux.closed = w.line.mux.closed
  length : v.line.mux.sinks.length = w.line.mux.sinks.length
  names : v.shared.names = w.shared.names
  quiet : w.Quiet → v.Quiet

namespace Still

variable {w u v : Desk}

theorem refl (w : Desk) : Still w w := ⟨rfl, rfl, rfl, rfl, rfl, rfl, fun hq => hq⟩

theorem trans (h : Still w u) (h' : Still u v) : Still w v where
  id := h'.id.trans h.id
  live := h'.live.trans h.live
  record := h'.record.trans h.record
  closed := h'.closed.trans h.closed
  length := h'.length.trans h.length
  names := h'.names.trans h.names
  quiet hq := h'.quiet (h.quiet hq)

theorem record_event (h : Still w v) (e : Event) : Still w (v.record e) :=
  ⟨h.id, h.live, h.record, h.closed, h.length, h.names, h.quiet⟩

theorem note (h : Still w v) (n : Notice) : Still w (v.note n) := h.record_event _

/-- A sink is changed, but not given a listener with operations. -/
theorem mapSink (w : Desk) (i : Nat) {f : Sink → Sink}
    (hf : ∀ s, s.listener.weight = 0 → (f s).listener.weight = 0) : Still w (w.mapSink i f) where
  id := rfl
  live := rfl
  record := rfl
  closed := rfl
  length := List.length_modify ..
  names := rfl
  quiet hq j s hs := by
    have hs' : (w.line.mapMux fun x => x.mapSink i f).sink? j = some s := hs
    rw [Line.sink?_mapSink] at hs'
    obtain ⟨k, hk, rfl⟩ := Option.map_eq_some_iff.mp hs'
    have := hq j k hk
    split
    · exact hf k this
    · exact this

theorem hear (w : Desk) (i : Nat) (s : Sink) (c : Call) : Still w (w.hear i s c) := by
  have h : Still w ((w.record (.called i (s.listener.hearer c) c)).mapSink i
      fun k => { k with listener := (k.listener.next c).2 }) :=
    ((refl w).record_event _).trans
      (mapSink _ i fun k hk => Listener.weight_next_of_quiet hk c)
  unfold Desk.hear
  dsimp only
  split
  · exact h.note _
  · exact h

theorem dispose (w : Desk) (s : SinkRef) : Still w (w.dispose s).2 := by
  obtain ⟨f, hsinks, hf⟩ := Desk.sinks_dispose s w
  -- As a change of one sink, a disposal keeps its listener.
  have hmap : Still w (w.mapSink s.place f) := by
    refine mapSink w s.place ?_
    intro k hk
    rcases hf k with h | ⟨-, -, h⟩ <;> rw [h] <;> exact hk
  refine ⟨congrArg ConnectionConfig.id (kept_dispose Line.config_disposeAt s w),
    kept_dispose (f := fun l => l.mux.released) Line.released_disposeAt s w,
    kept_dispose (f := fun l => l.mux.dropRecord) Line.dropRecord_disposeAt s w,
    kept_dispose (f := fun l => l.mux.closed) Line.closed_disposeAt s w,
    by rw [hsinks, List.length_modify], names_dispose s w, ?_⟩
  intro hq i k hk
  refine hmap.quiet hq i k ?_
  have hk : (w.dispose s).2.line.mux.sinks[i]? = some k := hk
  rwa [hsinks] at hk

end Still

/-! ## §3. Exact accounts of callbacks -/

theorem calls_hear (w : Desk) (i : Nat) (s : Sink) (c : Call) :
    (w.hear i s c).shared.calls = w.shared.calls ++ [(i, c)] := by
  unfold hear
  dsimp only
  split
  · rw [calls_note]
    exact calls_called ..
  · exact calls_called ..

/-- A quiet callback is caught if it panics; apart from the notice of that it leaves the desk as
its listener leaves it. -/
theorem tell_quiet (perform : Performer) {w : Desk} {i : Nat} {s : Sink}
    (hs : w.sink? i = some s) (hq : s.listener.weight = 0) (c : Call) :
    (w.tell (callWith perform) i c).1 = !s.listener.panicsOn c ∧
      ((w.tell (callWith perform) i c).2 = w.hear i s c ∨
        (w.tell (callWith perform) i c).2 = (w.hear i s c).note .callbackPanicked) := by
  unfold tell
  rw [callWith_quiet perform hs hq c]
  cases s.listener.panicsOn c with
  | true => exact ⟨rfl, .inr rfl⟩
  | false => exact ⟨rfl, .inl rfl⟩

theorem still_tell (perform : Performer) {w : Desk} {i : Nat} {s : Sink}
    (hs : w.sink? i = some s) (hq : s.listener.weight = 0) (c : Call) :
    Still w (w.tell (callWith perform) i c).2 := by
  obtain ⟨-, h | h⟩ := tell_quiet perform hs hq c
  · rw [h]
    exact .hear w i s c
  · rw [h]
    exact (Still.hear w i s c).note _

/-- What a quiet callback does that ends a sink. -/
structure Told (i : Nat) (phase : Phase) (c : Call) (w v : Desk) : Prop where
  still : Still w v
  calls : v.shared.calls = w.shared.calls ++ [(i, c)]
  others : ∀ j, j ≠ i → v.sink? j = w.sink? j
  phase : v.line.mux.phase? i = some phase

theorem Told.note {i : Nat} {phase : Phase} {c : Call} {w v : Desk} (h : Told i phase c w v)
    (n : Notice) : Told i phase c w (v.note n) where
  still := h.still.note n
  calls := (calls_note n v).trans h.calls
  others := h.others
  phase := h.phase

/-- The listener of a sink that has been ended takes the callback. -/
theorem told_hear {w : Desk} {i : Nat} {s : Sink} (hs : w.sink? i = some s) (phase : Phase)
    (c : Call) : Told i phase c w
      ((w.mapSink i fun k => { k with phase }).hear i { s with phase } c) := by
  have hline := line_hear (w.mapSink i fun k => { k with phase }) i { s with phase } c
  constructor
  case still =>
    have hphase : Still w (w.mapSink i fun k => { k with phase }) := .mapSink w i fun k hk => hk
    exact hphase.trans (.hear _ i _ c)
  case calls => exact calls_hear _ _ _ _
  case others =>
    -- Both changes are at the place of the sink.
    intro j hj
    show (hear _ _ _ _).line.sink? j = w.line.sink? j
    rw [hline, Line.sink?_mapSink]
    simp only [if_neg (Ne.symm hj)]
    rw [Option.map_id']
    show (w.line.mapMux fun x => x.mapSink i _).sink? j = w.line.sink? j
    rw [Line.sink?_mapSink]
    simp only [if_neg (Ne.symm hj)]
    exact Option.map_id' ..
  case phase =>
    -- What the listener does leaves the phase as it was set.
    rw [hline]
    show (Multiplexer.mapSink i _ _).phase? i = some phase
    rw [Multiplexer.phase?_listen]
    show (w.line.mux.mapSink i fun k => { k with phase }).phase? i = some phase
    rw [Multiplexer.phase?_setPhase, if_pos rfl, Multiplexer.phase?_of_sink hs]
    rfl

/-- An active sink leaves its phase, and then its listener is told. -/
theorem finish_of_active (phase : Phase) (c : Call) (call : Caller) {i : Nat} {w : Desk}
    {s : Sink} (hs : w.sink? i = some s) (ha : s.phase = .active) :
    w.finish call phase c i = (w.mapSink i fun k => { k with phase }).tell call i c := by
  unfold finish
  rw [hs]
  exact if_pos (Sink.isActive_iff.mpr ha)

/-- The end of an active sink with a quiet listener. -/
theorem finish_quiet (perform : Performer) {w : Desk} {i : Nat} {s : Sink}
    (hs : w.sink? i = some s) (ha : s.phase = .active) (hq : s.listener.weight = 0)
    (phase : Phase) (c : Call) :
    (w.finish (callWith perform) phase c i).1 = !s.listener.panicsOn c ∧
      Told i phase c w (w.finish (callWith perform) phase c i).2 := by
  have hs' := sink?_mapSink_self (fun k => { k with phase }) hs
  have told := told_hear hs phase c
  rw [finish_of_active phase c _ hs ha]
  obtain ⟨hr, h | h⟩ := tell_quiet perform hs' hq c
  · rw [h]
    exact ⟨hr, told⟩
  · rw [h]
    exact ⟨hr, told.note _⟩

theorem panicsAt_of_sink {w : Desk} {i : Nat} {s : Sink} (hs : w.sink? i = some s) (c : Call) :
    w.panicsAt c i = s.listener.panicsOn c := by
  unfold panicsAt
  rw [hs]

theorem visit_cons_fst (step : Nat → Desk → Bool × Desk) (i : Nat) (rest : List Nat) (w : Desk) :
    (visit step (i :: rest) w).1 =
      (if (step i w).1 then 1 else 0) + (visit step rest (step i w).2).1 := rfl

theorem visit_cons_snd (step : Nat → Desk → Bool × Desk) (i : Nat) (rest : List Nat) (w : Desk) :
    (visit step (i :: rest) w).2 = (visit step rest (step i w).2).2 := rfl

/-- What the visit of many sinks does that ends them with quiet callbacks, and what it counts. -/
structure ToldAll (places : List Nat) (phase : Phase) (c : Call) (w : Desk) (r : Nat × Desk) :
    Prop where
  count : r.1 = places.countP fun i => !w.panicsAt c i
  calls : r.2.shared.calls = w.shared.calls ++ places.map (·, c)
  told : ∀ i ∈ places, r.2.line.mux.phase? i = some phase
  others : ∀ i, i ∉ places → r.2.sink? i = w.sink? i

/-- **The end of many sinks with quiet listeners**: one callback to each, in order, and those are
counted that return. -/
theorem toldAll_visit (perform : Performer) (phase : Phase) (c : Call) (places : List Nat)
    (hnd : places.Nodup) (w : Desk) (hq : w.Quiet)
    (hp : ∀ i ∈ places, w.line.mux.phase? i = some .active) :
    ToldAll places phase c w (visit (finish (callWith perform) phase c) places w) := by
  induction places generalizing w with
  | nil => exact ⟨rfl, (List.append_nil _).symm, by simp, fun _ _ => rfl⟩
  | cons i rest ih =>
    obtain ⟨hi, hrest⟩ := List.nodup_cons.mp hnd
    obtain ⟨s, hs, ha⟩ := Option.map_eq_some_iff.mp (hp i List.mem_cons_self)
    obtain ⟨hr, told⟩ := finish_quiet perform (w := w) hs ha (hq i s hs) phase c
    -- The sinks that come later are as they were.
    have hother : ∀ j ∈ rest, (w.finish (callWith perform) phase c i).2.sink? j = w.sink? j :=
      fun j hj => told.others j fun h => hi (h ▸ hj)
    have hp' : ∀ j ∈ rest,
        (w.finish (callWith perform) phase c i).2.line.mux.phase? j = some .active := by
      intro j hj
      have hsame := congrArg (Option.map Sink.phase) (hother j hj)
      exact hsame.trans (hp j (List.mem_cons_of_mem _ hj))
    have later := ih hrest _ (told.still.quiet hq) hp'
    constructor
    case count =>
      rw [visit_cons_fst, later.count, hr, List.countP_cons, panicsAt_of_sink hs, Nat.add_comm]
      refine congrArg (· + _) (List.countP_congr ?_)
      intro j hj
      unfold panicsAt
      rw [hother j hj]
    case calls =>
      rw [visit_cons_snd, later.calls, told.calls, List.append_assoc]
      rfl
    case told =>
      rw [visit_cons_snd]
      intro j hj
      rcases List.mem_cons.mp hj with rfl | hj
      · -- Those that come later do not touch the first.
        have hsame := congrArg (Option.map Sink.phase) (later.others j hi)
        exact hsame.trans told.phase
      · exact later.told j hj
    case others =>
      rw [visit_cons_snd]
      intro j hj
      have hne : j ≠ i := fun h => hj (h ▸ List.mem_cons_self)
      have hnot : j ∉ rest := fun h => hj (List.mem_cons_of_mem _ h)
      exact (later.others j hnot).trans (told.others j hne)

end Desk

end Correlator
