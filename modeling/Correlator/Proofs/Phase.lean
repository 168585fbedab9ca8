/-
  Correlator.Proofs.Phase — PHASES OF SINKS, AND WHAT A DISPOSAL DOES TO THEM.

  A sink is known by its place, and of everything it holds the invariants of
  the multiplexer look at its phase only.  The lemmas here say how each change
  of a multiplexer is seen through `Multiplexer.phase?`.  A disposal may go to
  another line; to the line in hand it is `Line.disposeAt` or nothing.

  Main results:
    * `phase?_mapSink`, `phase?_append` — changed sinks, and new ones,
    * `Line.phase?_disposeAt` — the phases after a disposal,
    * `Desk.strikes_strike`, `Desk.history_dispose` — a disposal as the line in
      hand sees it.
-/
import Correlator.Proofs.History
namespace Correlator

/-! ## §1. Phases by place -/

namespace Multiplexer

/-- The phase of the sink at a place. -/
def phase? (x : Multiplexer) (i : Nat) : Option Phase := x.sinks[i]?.map Sink.phase

theorem lt_of_phase? {x : Multiplexer} {i : Nat} {p : Phase} (h : x.phase? i = some p) :
    i < x.sinks.length := by
  obtain ⟨s, hs, -⟩ := Option.map_eq_some_iff.mp h
  exact (List.getElem?_eq_some_iff.mp hs).1

theorem phase?_of_sink {x : Multiplexer} {i : Nat} {s : Sink} (h : x.sinks[i]? = some s) :
    x.phase? i = some s.phase := by
  rw [phase?, h]
  rfl

theorem phase?_of_length_le {x : Multiplexer} {i : Nat} (h : x.sinks.length ≤ i) :
    x.phase? i = none := by
  rw [phase?, List.getElem?_eq_none h]
  rfl

/-- A changed sink, seen by its phase. -/
theorem phase?_mapSink (x : Multiplexer) (i j : Nat) (f : Sink → Sink) :
    (x.mapSink i f).phase? j =
      if i = j then x.sinks[j]?.map fun s => (f s).phase else x.phase? j := by
  unfold phase? mapSink
  rw [List.getElem?_modify]
  by_cases h : i = j
  · cases x.sinks[j]? <;> simp [h]
  · cases x.sinks[j]? <;> simp [h]

/-- A change that keeps the phase is not seen. -/
theorem phase?_mapSink_of_keeps (x : Multiplexer) (i : Nat) {f : Sink → Sink}
    (hf : ∀ s, (f s).phase = s.phase) : (x.mapSink i f).phase? = x.phase? := by
  funext j
  rw [phase?_mapSink]
  by_cases h : i = j
  · simp only [h, if_true, hf]
    rfl
  · rw [if_neg h]

/-- What a listener does with a callback is not seen. -/
theorem phase?_listen (x : Multiplexer) (i : Nat) (c : Call) :
    (x.mapSink i fun k => { k with listener := (k.listener.next c).2 }).phase? = x.phase? :=
  phase?_mapSink_of_keeps x i (f := fun k => { k with listener := (k.listener.next c).2 })
    fun _ => rfl

/-- A change of phase is seen at its place. -/
theorem phase?_setPhase (x : Multiplexer) (i j : Nat) (p : Phase) :
    (x.mapSink i fun s => { s with phase := p }).phase? j =
      if i = j then (x.phase? j).map fun _ => p else x.phase? j := by
  rw [phase?_mapSink]
  by_cases h : i = j
  · rw [if_pos h, if_pos h, phase?, Option.map_map]
    rfl
  · rw [if_neg h, if_neg h]

/-- A new sink is the last one; the others stay. -/
theorem phase?_append {x y : Multiplexer} {s : Sink} (h : y.sinks = x.sinks ++ [s]) (j : Nat) :
    y.phase? j = if j = x.sinks.length then some s.phase else x.phase? j := by
  unfold phase?
  rw [h]
  by_cases hj : j = x.sinks.length
  · simp [hj]
  · rw [if_neg hj]
    by_cases hlt : j < x.sinks.length
    · rw [List.getElem?_append_left hlt]
    · rw [List.getElem?_append_right (by omega), List.getElem?_eq_none (by simp; omega),
        List.getElem?_eq_none (by omega)]

@[simp] theorem map_number_mapSink (x : Multiplexer) (i : Nat) {f : Sink → Sink}
    (hf : ∀ s, (f s).number = s.number) :
    (x.mapSink i f).sinks.map Sink.number = x.sinks.map Sink.number := by
  -- Place by place: the number at the changed place is kept, the others are not touched.
  apply List.ext_getElem?
  intro j
  simp only [mapSink, List.getElem?_map, List.getElem?_modify]
  by_cases h : i = j <;> cases x.sinks[j]? <;> simp [h, hf]

end Multiplexer

/-! ## §2. A disposal of a sink of the line -/

namespace Line

/-- The phase of a sink after its disposal. -/
def struck (p : Phase) : Phase := if p = .active then .disposed else p

variable {l : Line}

theorem struck_ne_active (p : Phase) : struck p ≠ .active := by
  unfold struck
  split
  · decide
  · assumption

/-- The line after a disposal.  Whether its multiplexer is there or not, the sink changes its
phase only; the active set is in reach while the multiplexer is. -/
theorem snd_disposeAt (i : Nat) (l : Line) : (l.disposeAt i).2 = l.mapMux fun x =>
    { x.mapSink i (fun s => if s.isActive then { s with phase := .disposed } else s) with
      active := if x.released then x.active else x.active.filter (· ≠ i) } := by
  unfold disposeAt mapMux Multiplexer.mapSink
  cases h : l.mux.released with
  | true => simp [h]
  | false => simp [h]

theorem config_disposeAt (i : Nat) (l : Line) : (l.disposeAt i).2.config = l.config := by
  rw [snd_disposeAt]
  rfl

theorem state_disposeAt (i : Nat) (l : Line) : (l.disposeAt i).2.state = l.state := by
  rw [snd_disposeAt]
  rfl

theorem sinks_disposeAt (i : Nat) (l : Line) : (l.disposeAt i).2.mux.sinks =
    l.mux.sinks.modify i fun s => if s.isActive then { s with phase := .disposed } else s := by
  rw [snd_disposeAt]
  rfl

theorem dropRecord_disposeAt (i : Nat) (l : Line) :
    (l.disposeAt i).2.mux.dropRecord = l.mux.dropRecord := by
  rw [snd_disposeAt]
  rfl

theorem released_disposeAt (i : Nat) (l : Line) :
    (l.disposeAt i).2.mux.released = l.mux.released := by
  rw [snd_disposeAt]
  rfl

theorem closed_disposeAt (i : Nat) (l : Line) :
    (l.disposeAt i).2.mux.closed = l.mux.closed := by
  rw [snd_disposeAt]
  rfl

theorem isActiveAt_iff {i : Nat} : l.isActiveAt i = true ↔ l.mux.phase? i = some .active := by
  unfold isActiveAt sink? Multiplexer.phase?
  cases l.mux.sinks[i]? <;> simp

/-- While the multiplexer is there, a disposal takes the place out of the active set. -/
theorem mux_disposeAt (i : Nat) (h : l.mux.released = false) :
    (l.disposeAt i).2.mux =
      { l.mux.mapSink i (fun s => if s.isActive then { s with phase := .disposed } else s) with
        active := l.mux.active.filter (· ≠ i) } := by
  rw [snd_disposeAt]
  simp [h]

theorem changed_disposeAt (i : Nat) (h : l.mux.released = false) :
    (l.disposeAt i).1 = (l.mux.active.contains i || l.isActiveAt i) := by
  unfold disposeAt
  simp [h]

theorem phase?_disposeAt (i j : Nat) (h : l.mux.released = false) :
    (l.disposeAt i).2.mux.phase? j =
      if i = j then (l.mux.phase? j).map struck else l.mux.phase? j := by
  rw [mux_disposeAt i h]
  show (l.mux.mapSink i _).phase? j = _
  rw [Multiplexer.phase?_mapSink]
  by_cases hij : i = j
  · rw [if_pos hij, if_pos hij, Multiplexer.phase?, Option.map_map]
    congr 1
    funext s
    by_cases hs : s.phase = .active <;> simp [struck, Sink.isActive, hs]
  · rw [if_neg hij, if_neg hij]

end Line

/-! ## §3. New sinks, and disposals as the line in hand sees them -/

namespace Desk

theorem sinks_seat (rule : Rule) (listener : Listener) (w : Desk) :
    (w.seat rule listener).line.mux.sinks =
      w.line.mux.sinks ++ [⟨w.shared.issued + 1, rule, .active, listener⟩] := rfl

theorem phase?_seat (rule : Rule) (listener : Listener) (w : Desk) (i : Nat) :
    (w.seat rule listener).line.mux.phase? i =
      if i = w.line.mux.sinks.length then some .active else w.line.mux.phase? i :=
  Multiplexer.phase?_append (sinks_seat rule listener w) i

/-- Only lines of the sink's connection are disposed at. -/
theorem id_of_disposeAmong {s : SinkRef} {ls : List Line} {l : Line}
    (h : (disposeAmong s ls).1 = some l) : l.id = s.connection := by
  induction ls with
  | nil => simp [disposeAmong] at h
  | cons k ks ih =>
    unfold disposeAmong at h
    split at h
    case isTrue hk =>
      dsimp only at h
      split at h
      case isTrue =>
        cases h
        show (k.disposeAt s.place).2.config.id = s.connection
        rw [Line.config_disposeAt]
        exact hk
      case isFalse => cases h
    case isFalse => exact ih h

/-- The notice of a disposal, if there is one, shows the line that the disposal went to. -/
theorem noteDisposal_cases (l : Line) (w : Desk) :
    w.noteDisposal l = w ∨
      w.noteDisposal l = w.mapShared fun s => s.add ⟨.noted .sinkDisposed, some l⟩ := by
  unfold noteDisposal
  split
  · exact .inl rfl
  · exact .inr rfl

/-- What a disposal does to the desk before it returns: the line in hand is disposed at if the
sink is there, and at most one notice is left, which shows the line that the sink is on. -/
structure Strikes (s : SinkRef) (w w' : Desk) : Prop where
  line : w'.line = if w.line.id = s.connection then (w.line.disposeAt s.place).2 else w.line
  issued : w'.shared.issued = w.shared.issued
  names : w'.shared.names = w.shared.names
  history : ∃ news, w'.shared.history = w.shared.history ++ news ∧
    ∀ x ∈ news, ∃ l, x = ⟨.noted .sinkDisposed, some l⟩ ∧ (l.id = w.line.id → l = w'.line)

/-- A notice adds to what was done to the lines. -/
theorem Strikes.noteDisposal {s : SinkRef} {w v : Desk} {l : Line}
    (hl : v.line = if w.line.id = s.connection then (w.line.disposeAt s.place).2 else w.line)
    (hs : v.shared = w.shared) (hn : l.id = w.line.id → l = v.line) :
    Strikes s w (v.noteDisposal l) := by
  rcases noteDisposal_cases l v with h | h
  · rw [h]
    exact ⟨hl, by rw [hs], by rw [hs], [], by rw [hs, List.append_nil], by simp⟩
  · rw [h]
    have hi : v.shared.issued = w.shared.issued := by rw [hs]
    have hn' : v.shared.names = w.shared.names := by rw [hs]
    refine ⟨hl, hi, hn', [⟨.noted .sinkDisposed, some l⟩], ?_, ?_⟩
    · show (v.shared.add _).history = _
      rw [Shared.history_add, hs]
    · intro x hx
      rw [List.mem_singleton.mp hx]
      exact ⟨l, rfl, hn⟩

theorem strikes_strike (s : SinkRef) (w : Desk) : Strikes s w (w.strike s).2 := by
  unfold strike
  by_cases h : w.line.id = s.connection
  · rw [if_pos h]
    dsimp only
    split
    · exact Strikes.noteDisposal (by rw [if_pos h]) rfl (fun _ => rfl)
    · exact ⟨by rw [if_pos h], rfl, rfl, [], by rw [List.append_nil], by simp⟩
  · rw [if_neg h]
    dsimp only
    split
    case h_1 l hl =>
      refine Strikes.noteDisposal (by rw [if_neg h]) rfl ?_
      intro hid
      exact absurd (hid.symm.trans (id_of_disposeAmong hl)) h
    case h_2 =>
      -- Not among the lines before; the ones after are searched next.
      split
      case h_1 l hl =>
        refine Strikes.noteDisposal (by rw [if_neg h]) rfl ?_
        intro hid
        exact absurd (hid.symm.trans (id_of_disposeAmong hl)) h
      case h_2 => exact ⟨by rw [if_neg h], rfl, rfl, [], by rw [List.append_nil], by simp⟩

/-- A disposal of a sink of the line in hand answers for that line. -/
theorem dispose_fst_of_own {s : SinkRef} {w : Desk} (h : w.line.id = s.connection) :
    (w.dispose s).1 = (w.line.disposeAt s.place).1 := by
  show (w.strike s).1 = _
  unfold strike
  rw [if_pos h]

theorem line_dispose (s : SinkRef) (w : Desk) : (w.dispose s).2.line =
    if w.line.id = s.connection then (w.line.disposeAt s.place).2 else w.line :=
  (strikes_strike s w).line

/-- What no disposal at a place changes of a line, no disposal changes. -/
theorem kept_dispose {α : Type} {f : Line → α} (hf : ∀ i l, f (l.disposeAt i).2 = f l)
    (s : SinkRef) (w : Desk) : f (w.dispose s).2.line = f w.line := by
  rw [line_dispose]
  split
  · exact hf s.place w.line
  · rfl

/-- A disposal changes no sink but its own, and that one only if it was active. -/
theorem sinks_dispose (s : SinkRef) (w : Desk) : ∃ f : Sink → Sink,
    (w.dispose s).2.line.mux.sinks = w.line.mux.sinks.modify s.place f ∧
    ∀ k, f k = k ∨ w.line.id = s.connection ∧ k.phase = .active ∧
      f k = { k with phase := .disposed } := by
  rw [line_dispose]
  by_cases hown : w.line.id = s.connection
  · rw [if_pos hown]
    refine ⟨_, Line.sinks_disposeAt s.place w.line, ?_⟩
    intro k
    by_cases ha : k.isActive = true
    · exact .inr ⟨hown, Sink.isActive_iff.mp ha, if_pos ha⟩
    · exact .inl (if_neg ha)
  · rw [if_neg hown]
    exact ⟨fun k => k, (List.modify_id s.place _).symm, fun k => .inl rfl⟩

theorem issued_dispose (s : SinkRef) (w : Desk) :
    (w.dispose s).2.shared.issued = w.shared.issued :=
  (strikes_strike s w).issued

theorem names_dispose (s : SinkRef) (w : Desk) :
    (w.dispose s).2.shared.names = w.shared.names :=
  (strikes_strike s w).names

/-- A disposal writes down that it returns, after at most a notice. -/
theorem history_dispose (s : SinkRef) (w : Desk) : ∃ news,
    (w.dispose s).2.shared.history = w.shared.history ++ news ++
      [⟨.disposed s (w.dispose s).1, some (w.dispose s).2.line⟩] ∧
    ∀ x ∈ news, ∃ l, x = ⟨.noted .sinkDisposed, some l⟩ ∧
      (l.id = w.line.id → l = (w.dispose s).2.line) := by
  obtain ⟨news, hh, hn⟩ := (strikes_strike s w).history
  refine ⟨news, ?_, hn⟩
  show ((w.strike s).2.record _).shared.history = _
  unfold record mapShared
  rw [Shared.history_add, hh]
  rfl

/-! ## §4. A callback, as the line in hand sees it -/

/-- The listener takes the callback, and nothing else of the line changes. -/
theorem line_hear (w : Desk) (i : Nat) (s : Sink) (c : Call) : (w.hear i s c).line =
    w.line.mapMux fun x => x.mapSink i fun k => { k with listener := (k.listener.next c).2 } := by
  unfold hear
  dsimp only
  split <;> rfl

theorem sinks_hear (w : Desk) (i : Nat) (s : Sink) (c : Call) : (w.hear i s c).line.mux.sinks =
    w.line.mux.sinks.modify i fun k => { k with listener := (k.listener.next c).2 } :=
  congrArg (fun l => l.mux.sinks) (w.line_hear i s c)

end Desk

end Correlator
