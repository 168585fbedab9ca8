/-
  Correlator.Proofs.Callbacks — WHAT ONE WAITER HEARS.

  A waiter hears messages, and then at most one callback more: that of a drop
  or that of a close.  Once a disposal of its sink has returned it hears
  nothing at all.  This has to hold of a dispatch whose snapshot was taken
  earlier, of a drop or a close that has drained the sink already, and of a
  waiter that disposes its own sink from inside its callback.

  Every step of a run makes at most one move with a sink: it makes it, or it
  gives a signal that the phase admits.  So the signals of a sink lead to its
  phase, and what the statement says is read off their word.

  Main results:
    * `Shift.moves`, `Step.moves`, `Step.tracked` — one step,
    * `CallbackProtocol`, `Operation.callbackProtocol_execAll` — every run.
-/
import Correlator.Proofs.ActiveSet
import Correlator.Proofs.Signals
namespace Correlator

/-! ## §1. One step -/

/-- What a step does to a sink: nothing, its making, or a signal that its phase admits. -/
inductive Moves : Option Phase → List Signal → Option Phase → Prop
  | stay (p : Option Phase) : Moves p [] p
  | born : Moves none [] (some .active)
  | signal {p q : Phase} {s : Signal} (h : p.after s = some q) : Moves (some p) [s] (some q)

/-- What a step does to the sink at a place of the line in hand, and what it leaves in the
history of that. -/
def Stage.MovesAt (i : Nat) (a b : Stage) : Prop :=
  ∃ news, Moves (a.desk.line.mux.phase? i) news (b.desk.line.mux.phase? i) ∧
    History.signalsAt a.desk.line.id i b.desk.shared.history =
      History.signalsAt a.desk.line.id i a.desk.shared.history ++ news

namespace Stage.MovesAt

variable {i : Nat} {a b : Stage}

/-- A step that writes down nothing of sinks and changes no phase. -/
theorem of_phase?_eq (hp : b.desk.line.mux.phase? i = a.desk.line.mux.phase? i)
    (hh : b.desk.shared.history = a.desk.shared.history) : a.MovesAt i b := by
  refine ⟨[], ?_, by rw [hh, List.append_nil]⟩
  rw [hp]
  exact .stay _

/-- A step beside the multiplexer. -/
theorem of_beside {w w' : Desk} {owed owed' : List Nat} (h : Beside w w') :
    MovesAt i ⟨w, owed⟩ ⟨w', owed'⟩ := by
  obtain ⟨news, hh, hn⟩ := h.history
  refine ⟨[], ?_, ?_⟩
  · show Moves (w.line.mux.phase? i) [] (w'.line.mux.phase? i)
    rw [h.mux]
    exact .stay _
  · show History.signalsAt _ i w'.shared.history = _
    rw [hh, History.signalsAt_append, History.signalsAt_eq_nil fun x hx => (hn x hx).2]

/-- A sink that is made with a listener. -/
theorem of_seat {w v : Desk} {owed owed' : List Nat} {rule : Rule} {listener : Listener}
    (hs : v.line.mux.sinks = (w.seat rule listener).line.mux.sinks)
    (hh : v.shared.history = w.shared.history) : MovesAt i ⟨w, owed⟩ ⟨v, owed'⟩ := by
  have hp := Multiplexer.phase?_append (hs.trans (Desk.sinks_seat rule listener w)) i
  by_cases hi : i = w.line.mux.sinks.length
  · refine ⟨[], ?_, by rw [hh, List.append_nil]⟩
    rw [if_pos hi] at hp
    show Moves (w.line.mux.phase? i) [] (v.line.mux.phase? i)
    rw [hp, Multiplexer.phase?_of_length_le (Nat.le_of_eq hi.symm)]
    exact .born
  · rw [if_neg hi] at hp
    exact of_phase?_eq hp hh

/-- The start of a callback to a sink. -/
theorem of_call {w v : Desk} {owed owed' : List Nat} {j : Nat} {label : Option String} {c : Call}
    {p q : Phase} (hp : w.line.mux.phase? j = some p) (hq : v.line.mux.phase? j = some q)
    (hpq : p.after (.call c) = some q) (hi : i ≠ j → v.line.mux.phase? i = w.line.mux.phase? i)
    (hh : v.shared.history = w.shared.history ++ [⟨.called j label c, some v.line⟩]) :
    MovesAt i ⟨w, owed⟩ ⟨v, owed'⟩ := by
  by_cases hij : i = j
  · subst hij
    refine ⟨[.call c], ?_, ?_⟩
    · show Moves (w.line.mux.phase? i) _ (v.line.mux.phase? i)
      rw [hp, hq]
      exact .signal hpq
    · rw [hh, History.signalsAt_append]
      simp [History.signalsAt, Moment.signalAt?, Moment.callAt?]
  · refine ⟨[], ?_, ?_⟩
    · show Moves (w.line.mux.phase? i) _ (v.line.mux.phase? i)
      rw [hi hij]
      exact .stay _
    · rw [hh, History.signalsAt_append]
      simp [History.signalsAt, Moment.signalAt?, Moment.callAt?, Moment.disposalAt?, Ne.symm hij]

/-- What a disposal of a sink answers: whether the sink was active. -/
theorem disposeAt_fst {l : Line} (hlive : l.mux.released = false) (ho : l.mux.Orderly) {p : Phase}
    (hp : l.mux.phase? i = some p) : (l.disposeAt i).1 = decide (p = .active) := by
  rw [Line.changed_disposeAt i hlive, Bool.eq_iff_iff, Bool.or_eq_true, decide_eq_true_iff,
    Line.isActiveAt_iff, List.contains_iff_mem, hp, Option.some_inj]
  constructor
  · rintro (h | h)
    · -- A place in the active set holds an active sink.
      have := ho.seated i h
      rw [hp] at this
      exact Option.some.inj this
    · exact h
  · exact .inr

theorem after_disposal (p : Phase) :
    p.after (.disposal (decide (p = .active))) = some (Line.struck p) := by
  cases p <;> rfl

/-- A disposal. -/
theorem of_dispose {w : Desk} {owed : List Nat} (ha : Stage.Sound ⟨w, owed⟩) (s : SinkRef) :
    MovesAt i ⟨w, owed⟩ ⟨(w.dispose s).2, owed⟩ := by
  have hlive : w.line.mux.released = false := ha.live
  have hline := Desk.line_dispose s w
  obtain ⟨news, hh, hn⟩ := Desk.history_dispose s w
  have hnews : History.signalsAt w.line.id i news = [] := by
    refine History.signalsAt_eq_nil fun x hx => ?_
    obtain ⟨l, rfl, -⟩ := hn x hx
    rfl
  -- The notice is no signal; what the last moment adds depends on whether it is this sink that is disposed.
  have hlast : History.signalsAt w.line.id i (w.dispose s).2.shared.history =
      History.signalsAt w.line.id i w.shared.history ++ History.signalsAt w.line.id i
        [⟨.disposed s (w.dispose s).1, some (w.dispose s).2.line⟩] := by
    rw [hh, History.signalsAt_append, History.signalsAt_append, hnews, List.append_nil]
  refine ⟨_, ?_, hlast⟩
  show Moves (w.line.mux.phase? i) _ ((w.dispose s).2.line.mux.phase? i)
  by_cases hs : s = ⟨w.line.id, i⟩
  case pos =>
    subst hs
    rw [if_pos rfl] at hline
    have hphase := Line.phase?_disposeAt (l := w.line) i i hlive
    rw [if_pos rfl] at hphase
    rw [Desk.dispose_fst_of_own rfl, hline]
    cases hp : w.line.mux.phase? i with
    | none =>
      -- The handle runs ahead of the sink, and the disposal is not one of it.
      rw [hphase, hp]
      have hsink : (w.line.disposeAt i).2.sink? i = none := by
        rw [hp] at hphase
        exact Option.map_eq_none_iff.mp hphase
      have hnil : History.signalsAt w.line.id i
          [⟨.disposed ⟨w.line.id, i⟩ (w.line.disposeAt i).1, some (w.line.disposeAt i).2⟩] = [] := by
        simp [History.signalsAt, Moment.signalAt?, Moment.callAt?, Moment.disposalAt?, hsink]
      rw [hnil]
      exact .stay _
    | some p =>
      -- It changes something exactly if the sink was active, as the automaton has it.
      rw [hphase, hp, disposeAt_fst hlive ha.orderly hp]
      have hsink : ((w.line.disposeAt i).2.sink? i).isSome = true := by
        rw [hp] at hphase
        obtain ⟨k, hk, -⟩ := Option.map_eq_some_iff.mp hphase
        exact Option.isSome_of_eq_some hk
      have hone : History.signalsAt w.line.id i [⟨.disposed ⟨w.line.id, i⟩ (decide (p = .active)),
          some (w.line.disposeAt i).2⟩] = [.disposal (decide (p = .active))] := by
        simp [History.signalsAt, Moment.signalAt?, Moment.callAt?, Moment.disposalAt?, hsink]
      rw [hone]
      exact .signal (after_disposal p)
  case neg =>
    have hnil : History.signalsAt w.line.id i
        [⟨.disposed s (w.dispose s).1, some (w.dispose s).2.line⟩] = [] := by
      simp [History.signalsAt, Moment.signalAt?, Moment.callAt?, Moment.disposalAt?, hs]
    have hphase : (w.dispose s).2.line.mux.phase? i = w.line.mux.phase? i := by
      rw [hline]
      split
      case isTrue hown =>
        have hne : s.place ≠ i := by
          rintro rfl
          exact hs (by rw [hown])
        rw [Line.phase?_disposeAt s.place i hlive, if_neg hne]
      case isFalse => rfl
    rw [hnil, hphase]
    exact .stay _

end Stage.MovesAt

open Stage Multiplexer in
theorem Shift.moves {a b : Stage} (h : Shift a b) (ha : a.Sound) (i : Nat) : a.MovesAt i b := by
  cases h with
  | enlist => exact MovesAt.of_seat rfl rfl
  | refuse => exact MovesAt.of_seat rfl rfl
  | @deliver w owed j s m hs hactive hm =>
    have hp : w.line.mux.phase? j = some .active := by
      rw [← hactive]
      exact phase?_of_sink hs
    exact MovesAt.of_call hp hp rfl (fun _ => rfl) (Desk.history_record _ w)
  | @finish w owed j s phase c hs hactive hf =>
    have hphase : ∀ k, (w.mapSink j fun k => { k with phase }).line.mux.phase? k =
        if j = k then (w.line.mux.phase? k).map fun _ => phase else w.line.mux.phase? k :=
      fun k => phase?_setPhase _ j k phase
    have hp : w.line.mux.phase? j = some .active := by
      rw [← hactive]
      exact phase?_of_sink hs
    refine MovesAt.of_call hp (q := phase) ?_ ?_ ?_ (Desk.history_record _ _)
    · show (w.mapSink j _).line.mux.phase? j = some phase
      rw [hphase, if_pos rfl, hp]
      rfl
    · cases hf <;> rfl
    · intro hne
      show (w.mapSink j _).line.mux.phase? i = w.line.mux.phase? i
      rw [hphase, if_neg (Ne.symm hne)]
  | pass => exact MovesAt.of_phase?_eq rfl rfl
  | listen j c => exact MovesAt.of_phase?_eq (congrFun (phase?_listen _ j c) i) rfl
  | drain => exact MovesAt.of_phase?_eq rfl rfl
  | shut => exact MovesAt.of_phase?_eq rfl rfl
  | resume => exact MovesAt.of_phase?_eq rfl rfl
  | dispose s => exact MovesAt.of_dispose ha s

theorem Step.moves {a b : Stage} (h : Step a b) (ha : a.Sound) (i : Nat) : a.MovesAt i b := by
  cases h with
  | aside h => exact Stage.MovesAt.of_beside h.beside
  | turn h => exact Stage.MovesAt.of_beside h.beside
  | shift h => exact h.moves ha i

/-! ## §2. The invariant -/

/-- From one standing of a multiplexer to a later one: a sink stays, and once it has left its
active phase it keeps its phase. -/
def Multiplexer.Ages (i : Nat) (x y : Multiplexer) : Prop :=
  ∀ p, x.phase? i = some p → ∃ q, y.phase? i = some q ∧ (p ≠ .active → q = p)

namespace Multiplexer.Ages

variable {i : Nat} {x y z : Multiplexer}

theorem refl (x : Multiplexer) : Ages i x x := fun p hp => ⟨p, hp, fun _ => rfl⟩

theorem trans (h : Ages i x y) (h' : Ages i y z) : Ages i x z := by
  intro p hp
  obtain ⟨q, hq, hpq⟩ := h p hp
  obtain ⟨r, hr, hqr⟩ := h' q hq
  refine ⟨r, hr, ?_⟩
  intro hne
  have hq' := hpq hne
  subst hq'
  exact hqr hne

theorem of_moves {news : List Signal} (h : Moves (x.phase? i) news (y.phase? i)) : Ages i x y := by
  intro p hp
  rw [hp] at h
  generalize y.phase? i = o at h ⊢
  cases h with
  | stay => exact ⟨p, rfl, fun _ => rfl⟩
  | signal h => exact ⟨_, rfl, fun hne => (Phase.after_of_ended hne h).1⟩

end Multiplexer.Ages

/-- Over a run every sink ages. -/
theorem Path.ages {a b : Stage} (h : Path a b) (ha : a.Sound) (i : Nat) :
    b.Sound ∧ a.desk.line.mux.Ages i b.desk.line.mux := by
  induction h with
  | refl => exact ⟨ha, .refl _⟩
  | tail _ step ih =>
    obtain ⟨hb, hages⟩ := ih
    obtain ⟨news, hm, -⟩ := step.moves hb i
    exact ⟨step.sound hb, hages.trans (.of_moves hm)⟩

/-- The history of a sink up to a stage: its signals lead to its phase, and the phases that it has
shown lead there too. -/
structure Stage.Tracked (c : ConnectionId) (i : Nat) (a : Stage) : Prop where
  own : a.desk.line.id = c
  sound : a.Sound
  absent : a.desk.line.mux.phase? i = none → History.signalsAt c i a.desk.shared.history = []
  signals : ∀ p, a.desk.line.mux.phase? i = some p →
    Phase.active.through (History.signalsAt c i a.desk.shared.history) = some p
  aged : ∀ l ∈ History.standings c a.desk.shared.history, l.mux.Ages i a.desk.line.mux
  gate : (History.standings c a.desk.shared.history).Pairwise fun l k => l.mux.Ages i k.mux

theorem Stage.Tracked.opening (w : Desk) (config : ConnectionConfig) (capacity i : Nat) :
    Tracked config.id i ⟨w.opening config capacity, []⟩ where
  own := rfl
  sound := .opening w config capacity
  absent _ := rfl
  signals p hp := absurd (Multiplexer.lt_of_phase? hp) (Nat.not_lt_zero i)
  aged l hl := by cases hl
  gate := .nil

/-- The signals after a move lead to the phase after it. -/
theorem Moves.signals {p q : Option Phase} {before news : List Signal} (h : Moves p news q)
    (habsent : p = none → before = [])
    (hthrough : ∀ r, p = some r → Phase.active.through before = some r) :
    (q = none → before ++ news = []) ∧
    ∀ r, q = some r → Phase.active.through (before ++ news) = some r := by
  cases h with
  | stay =>
    rw [List.append_nil]
    exact ⟨habsent, hthrough⟩
  | born =>
    refine ⟨fun h => (by cases h), ?_⟩
    intro r hr
    cases hr
    rw [habsent rfl]
    rfl
  | signal h =>
    refine ⟨fun h => (by cases h), ?_⟩
    intro r hr
    cases hr
    refine Phase.through_append.mpr ⟨_, hthrough _ rfl, ?_⟩
    exact Phase.through_cons.mpr ⟨_, h, rfl⟩

theorem Step.tracked {c : ConnectionId} {i : Nat} {a b : Stage} (h : Step a b)
    (ha : a.Tracked c i) : b.Tracked c i := by
  obtain ⟨news, hm, hsig⟩ := h.moves ha.sound i
  obtain ⟨shown, hst, hmux⟩ := h.standings
  rw [ha.own] at hsig hst
  have hages : Multiplexer.Ages i a.desk.line.mux b.desk.line.mux := .of_moves hm
  obtain ⟨habsent, hthrough⟩ := hm.signals ha.absent ha.signals
  constructor
  · exact (congrArg ConnectionConfig.id h.config).trans ha.own
  · exact h.sound ha.sound
  · rw [hsig]
    exact habsent
  · rw [hsig]
    exact hthrough
  · intro l hl
    rw [hst] at hl
    rcases List.mem_append.mp hl with hl | hl
    · exact (ha.aged l hl).trans hages
    · -- A new standing shows the multiplexer as the step leaves it.
      rw [hmux l hl]
      exact .refl _
  · rw [hst, List.pairwise_append]
    refine ⟨ha.gate, ?_, ?_⟩
    · -- The new standings all show the same multiplexer.
      refine List.pairwise_of_forall_mem_list ?_
      intro l hl k hk
      rw [hmux l hl, hmux k hk]
      exact .refl _
    · intro l hl k hk
      rw [hmux k hk]
      exact (ha.aged l hl).trans hages

/-! ## §3. Every run -/

/-- What holds of the callbacks to a sink and of the disposals of it over a history, after which
its line stands as given. -/
structure CallbackProtocol (c : ConnectionId) (i : Nat) (h : List Moment) (l : Line) : Prop where
  /-- Messages, and then at most one callback more. -/
  grammar : ∃ (ms : List Message) (last : List Call),
    History.callsAt i h = ms.map .message ++ last ∧
    (last = [] ∨ (∃ d, last = [.error d]) ∨ last = [.closed])
  /-- After a disposal has returned, nothing starts. -/
  silent : ∀ h₁ x h₂ b, h = h₁ ++ x :: h₂ → x.disposalAt? c i = some b →
    History.callsAt i h₂ = []
  /-- A sink stays, and its phase changes at most once, away from active. -/
  gate : (History.standings c h ++ [l]).Pairwise fun l k => l.mux.Ages i k.mux
  /-- A disposal that answers yes ends the sink: it hears messages only, before and after, and no
  other disposal answers yes. -/
  ended : ∀ h₁ x h₂, h = h₁ ++ x :: h₂ → x.disposalAt? c i = some true →
    l.mux.phase? i = some .disposed ∧ (∀ k ∈ History.callsAt i h, ∃ m, k = .message m) ∧
    true ∉ History.disposalsAt c i h₁ ∧ true ∉ History.disposalsAt c i h₂
  /-- A disposal that answers no comes after what ended the sink. -/
  vain : ∀ h₁ x h₂, h = h₁ ++ x :: h₂ → x.disposalAt? c i = some false →
    (∃ d, .error d ∈ History.callsAt i h₁) ∨ .closed ∈ History.callsAt i h₁ ∨
      true ∈ History.disposalsAt c i h₁
  /-- A sink that is no longer active was told of a drop or a close, or was disposed. -/
  cause : ∀ p, l.mux.phase? i = some p →
    (p = .terminated → ∃ d, .error d ∈ History.callsAt i h) ∧
    (p = .disposed → .closed ∈ History.callsAt i h ∨ true ∈ History.disposalsAt c i h)

section

open History

theorem Stage.Tracked.protocol {c : ConnectionId} {i : Nat} {a : Stage} (ha : a.Tracked c i) :
    CallbackProtocol c i a.desk.shared.history a.desk.line := by
  -- A disposal is of a sink that is there, so around it the signals are a word of the automaton.
  have around : ∀ h₁ x h₂ b, a.desk.shared.history = h₁ ++ x :: h₂ →
      x.disposalAt? c i = some b → ∃ p, a.desk.line.mux.phase? i = some p ∧
        Phase.active.through (signalsAt c i h₁ ++ .disposal b :: signalsAt c i h₂) = some p := by
    intro h₁ x h₂ b hh hx
    have hsig : signalsAt c i a.desk.shared.history =
        signalsAt c i h₁ ++ .disposal b :: signalsAt c i h₂ := by
      rw [hh, signalsAt_append, signalsAt_cons (Moment.signalAt?_of_disposalAt? hx)]
    cases hp : a.desk.line.mux.phase? i with
    | none =>
      have hnil := ha.absent hp
      rw [hsig] at hnil
      simp at hnil
    | some p =>
      refine ⟨p, rfl, ?_⟩
      rw [← hsig]
      exact ha.signals p hp
  constructor
  case grammar =>
    -- Callbacks are signals, and the word of the signals is accepted.
    rw [callsAt_eq c]
    cases hp : a.desk.line.mux.phase? i with
    | none =>
      rw [ha.absent hp]
      exact ⟨[], [], rfl, .inl rfl⟩
    | some p => exact Phase.calls_of_through (ha.signals p hp)
  case silent =>
    intro h₁ x h₂ b hh hx
    obtain ⟨p, -, hp⟩ := around h₁ x h₂ b hh hx
    rw [callsAt_eq c]
    exact Signal.filterMap_call?_of_vain (Phase.through_disposal hp).1
  case gate =>
    rw [List.pairwise_append]
    refine ⟨ha.gate, List.pairwise_singleton _ _, ?_⟩
    intro l hl k hk
    rw [List.mem_singleton.mp hk]
    exact ha.aged l hl
  case ended =>
    intro h₁ x h₂ hh hx
    obtain ⟨p, hphase, hp⟩ := around h₁ x h₂ true hh hx
    obtain ⟨hafter, hbefore, -⟩ := Phase.through_disposal hp
    obtain ⟨rfl, hmessages⟩ := hbefore rfl
    -- Before it there are messages, after it vain disposals.
    have hafter' : true ∉ disposalsAt c i h₂ := by
      rw [mem_disposalsAt]
      intro hmem
      cases hafter _ hmem
    have hbefore' : true ∉ disposalsAt c i h₁ := by
      rw [mem_disposalsAt]
      intro hmem
      obtain ⟨m, hm⟩ := hmessages _ hmem
      cases hm
    refine ⟨hphase, ?_, hbefore', hafter'⟩
    intro k hk
    rw [mem_callsAt (c := c), hh, signalsAt_append,
      signalsAt_cons (Moment.signalAt?_of_disposalAt? hx)] at hk
    rcases List.mem_append.mp hk with hk | hk
    · obtain ⟨m, hm⟩ := hmessages _ hk
      cases hm
      exact ⟨m, rfl⟩
    · rcases List.mem_cons.mp hk with hk | hk
      · cases hk
      · cases hafter _ hk
  case vain =>
    intro h₁ x h₂ hh hx
    obtain ⟨p, -, hp⟩ := around h₁ x h₂ false hh hx
    obtain ⟨-, -, hbefore⟩ := Phase.through_disposal hp
    obtain ⟨s, hs, q, he⟩ := hbefore rfl
    cases he with
    | error d => exact .inl ⟨d, mem_callsAt.mpr hs⟩
    | closed => exact .inr (.inl (mem_callsAt.mpr hs))
    | disposal => exact .inr (.inr (mem_disposalsAt.mpr hs))
  case cause =>
    intro p hp
    have hthrough := ha.signals p hp
    rw [mem_disposalsAt, mem_callsAt (c := c)]
    simp only [mem_callsAt (c := c)]
    rcases Phase.through_active hthrough with ⟨rfl, -⟩ | ⟨z, e, z', hz, -, he, -⟩
    · exact ⟨fun h => (by cases h), fun h => (by cases h)⟩
    · have hmem : e ∈ signalsAt c i a.desk.shared.history := by
        rw [hz]
        simp
      cases he with
      | error d => exact ⟨fun _ => ⟨d, hmem⟩, fun h => (by cases h)⟩
      | closed => exact ⟨fun h => (by cases h), fun _ => .inl hmem⟩
      | disposal => exact ⟨fun h => (by cases h), fun _ => .inr hmem⟩

end

/-- **Every sink keeps the callback protocol**, however operations, their callbacks and what those
set off follow each other from the first configuration of its connection on. -/
theorem Operation.callbackProtocol_execAll (w : Desk) (config : ConnectionConfig)
    (capacity : Nat) (ops : List Operation) (i : Nat) :
    let v := (execAll ops (w.opening config capacity)).2
    CallbackProtocol config.id i v.shared.history v.line := by
  intro v
  have path := execAll_path ops (w.opening config capacity) []
  exact (path.keeps Step.tracked (Stage.Tracked.opening w config capacity i)).protocol

end Correlator
