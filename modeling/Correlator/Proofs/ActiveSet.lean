/-
  Correlator.Proofs.ActiveSet — NO WAITER IS STRANDED.

  A waiter that is active but not in the active set would never hear of a
  message or a drop again.  Each operation changes the set and the phases in
  separate steps, and a callback may run any operations in between: the sinks
  that a drop has drained are out of the set and still active while the
  callbacks of earlier ones run.  The invariant therefore names the places that
  are owed a last callback; an operation that ends owes none.

  Main results:
    * `Multiplexer.Orderly` — what every callback finds,
    * `Shift.sound`, `Step.sound` — one step,
    * `Operation.orderly_execAll` — every run.
-/
import Correlator.Proofs.Frame
import Correlator.Proofs.Path
namespace Correlator

/-! ## §1. What every moment shows -/

/-- The active set of a multiplexer is in order.  A sink is stored at its own place: the numbers
of the sinks ascend with their places, so a place stands for a number. -/
structure Multiplexer.Orderly (x : Multiplexer) : Prop where
  idle : x.dropRecord.isSome = true ∨ x.closed = true → x.active = []
  seated : ∀ i ∈ x.active, x.phase? i = some .active
  ascending : x.active.Pairwise (· < ·)
  numbered : (x.sinks.map Sink.number).Pairwise (· < ·)

namespace Multiplexer.Orderly

variable {x y : Multiplexer}

theorem withCapacity (capacity : Nat) : (Multiplexer.withCapacity capacity).Orderly :=
  ⟨fun _ => rfl, by simp [Multiplexer.withCapacity], .nil, .nil⟩

/-- A multiplexer with the same sinks stays in order when places leave the set and those that
remain stay active. -/
theorem narrow (h : x.Orderly)
    (hi : y.dropRecord.isSome = true ∨ y.closed = true → y.active = [])
    (ha : y.active.Sublist x.active) (hp : ∀ i ∈ y.active, y.phase? i = x.phase? i)
    (hn : y.sinks.map Sink.number = x.sinks.map Sink.number) : y.Orderly where
  idle := hi
  seated i h' := by
    rw [hp i h']
    exact h.seated i (ha.subset h')
  ascending := h.ascending.sublist ha
  numbered := by
    rw [hn]
    exact h.numbered

/-- A new sink takes the next number. -/
theorem numbered_append {s : Sink} (h : x.Orderly)
    (hs : ∀ n ∈ x.sinks.map Sink.number, n < s.number) :
    ((x.sinks ++ [s]).map Sink.number).Pairwise (· < ·) := by
  rw [List.map_append, List.pairwise_append]
  refine ⟨h.numbered, List.pairwise_singleton _ _, ?_⟩
  intro n hn m hm
  rw [List.mem_singleton.mp hm]
  exact hs n hn

theorem lt_length (h : x.Orderly) {i : Nat} (hi : i ∈ x.active) : i < x.sinks.length :=
  lt_of_phase? (h.seated i hi)

/-- A place in the set is one of an earlier sink, so a new sink leaves its phase as it is. -/
theorem phase?_append_of_mem (h : x.Orderly) {s : Sink} (hs : y.sinks = x.sinks ++ [s]) {i : Nat}
    (hi : i ∈ x.active) : y.phase? i = some .active := by
  have hlt := h.lt_length hi
  rw [phase?_append hs, if_neg (by omega)]
  exact h.seated i hi

/-- The places in an orderly active set ascend with the numbers of their sinks. -/
theorem numbers (h : x.Orderly) :
    x.active.Pairwise fun i j =>
      ∃ s t, x.sinks[i]? = some s ∧ x.sinks[j]? = some t ∧ s.number < t.number := by
  refine List.Pairwise.imp_of_mem ?_ h.ascending
  intro i j hi hj hij
  obtain ⟨s, hs, -⟩ := Option.map_eq_some_iff.mp (h.seated i hi)
  obtain ⟨t, ht, -⟩ := Option.map_eq_some_iff.mp (h.seated j hj)
  refine ⟨s, t, hs, ht, ?_⟩
  -- An earlier place has a smaller number.
  obtain ⟨hlti, hsi⟩ := List.getElem?_eq_some_iff.mp hs
  obtain ⟨hltj, htj⟩ := List.getElem?_eq_some_iff.mp ht
  have hnum := List.pairwise_iff_getElem.mp h.numbered i j (by simpa using hlti)
    (by simpa using hltj) hij
  rw [List.getElem_map, List.getElem_map, hsi, htj] at hnum
  exact hnum

end Multiplexer.Orderly

/-! ## §2. The invariant -/

/-- Nobody is lost: an active sink is in the set or is owed its last callback. -/
structure Stage.Sound (a : Stage) : Prop where
  live : a.desk.line.mux.released = false
  orderly : a.desk.line.mux.Orderly
  issued : ∀ n ∈ a.desk.line.mux.sinks.map Sink.number, n ≤ a.desk.shared.issued
  owed : ∀ i ∈ a.owed, i < a.desk.line.mux.sinks.length ∧ i ∉ a.desk.line.mux.active
  accounted : ∀ i, a.desk.line.mux.phase? i = some .active →
    i ∈ a.desk.line.mux.active ∨ i ∈ a.owed

namespace Stage.Sound

theorem opening (w : Desk) (config : ConnectionConfig) (capacity : Nat) :
    Sound ⟨w.opening config capacity, []⟩ where
  live := rfl
  orderly := Multiplexer.Orderly.withCapacity capacity
  issued n hn := by cases hn
  owed i hi := by cases hi
  accounted i hi := absurd (Multiplexer.lt_of_phase? hi) (Nat.not_lt_zero i)

/-- What does not touch the multiplexer keeps the invariant. -/
theorem of_mux_eq {w v : Desk} {owed : List Nat} (ha : Sound ⟨w, owed⟩)
    (hm : v.line.mux = w.line.mux) (hs : v.shared.issued = w.shared.issued) :
    Sound ⟨v, owed⟩ := by
  constructor
  · show v.line.mux.released = false
    rw [hm]
    exact ha.live
  · show v.line.mux.Orderly
    rw [hm]
    exact ha.orderly
  · show ∀ n ∈ v.line.mux.sinks.map Sink.number, n ≤ v.shared.issued
    rw [hm, hs]
    exact ha.issued
  · show ∀ i ∈ owed, i < v.line.mux.sinks.length ∧ i ∉ v.line.mux.active
    rw [hm]
    exact ha.owed
  · show ∀ i, v.line.mux.phase? i = some .active → i ∈ v.line.mux.active ∨ i ∈ owed
    rw [hm]
    exact ha.accounted

/-- **Places leave the set, or are told and owed nothing any more; no sink becomes active.**
Every step that makes no new sink is of this kind. -/
theorem narrow {w v : Desk} {owed owed' : List Nat} (ha : Sound ⟨w, owed⟩)
    (hl : v.line.mux.released = w.line.mux.released) (hs : v.shared.issued = w.shared.issued)
    (hn : v.line.mux.sinks.map Sink.number = w.line.mux.sinks.map Sink.number)
    (hi : v.line.mux.dropRecord.isSome = true ∨ v.line.mux.closed = true → v.line.mux.active = [])
    (hsub : v.line.mux.active.Sublist w.line.mux.active)
    (hp : ∀ i ∈ v.line.mux.active, v.line.mux.phase? i = w.line.mux.phase? i)
    (howed : ∀ i ∈ owed', i ∉ v.line.mux.active ∧ (i ∈ owed ∨ i ∈ w.line.mux.active))
    (hacc : ∀ i, v.line.mux.phase? i = some .active → w.line.mux.phase? i = some .active ∧
      (i ∈ w.line.mux.active ∨ i ∈ owed → i ∈ v.line.mux.active ∨ i ∈ owed')) :
    Sound ⟨v, owed'⟩ := by
  have hlen : v.line.mux.sinks.length = w.line.mux.sinks.length := by
    simpa using congrArg List.length hn
  constructor
  · exact hl.trans ha.live
  · exact ha.orderly.narrow hi hsub hp hn
  · show ∀ n ∈ v.line.mux.sinks.map Sink.number, n ≤ v.shared.issued
    rw [hn, hs]
    exact ha.issued
  · intro i hi'
    obtain ⟨hout, hwas⟩ := howed i hi'
    refine ⟨?_, hout⟩
    show i < v.line.mux.sinks.length
    rw [hlen]
    -- A place that was owed before, or has just been drained.
    rcases hwas with hwas | hwas
    · exact (ha.owed i hwas).1
    · exact ha.orderly.lt_length hwas
  · intro i hactive
    obtain ⟨hbefore, hkept⟩ := hacc i hactive
    exact hkept (ha.accounted i hbefore)

/-! ## §3. New sinks -/

/-- Every number issued so far is below the next one. -/
theorem lt_next {w : Desk} {owed : List Nat} (ha : Sound ⟨w, owed⟩) :
    ∀ n ∈ w.line.mux.sinks.map Sink.number, n < w.shared.issued + 1 :=
  fun n hn => Nat.lt_succ_of_le (ha.issued n hn)

variable {w : Desk} {owed : List Nat} {rule : Rule} {listener : Listener}

/-- After a new sink is made, no number is above the count. -/
theorem issued_seat (ha : Sound ⟨w, owed⟩) :
    ∀ n ∈ (w.seat rule listener).line.mux.sinks.map Sink.number,
      n ≤ (w.seat rule listener).shared.issued := by
  intro n hn
  show n ≤ w.shared.issued + 1
  rw [Desk.sinks_seat, List.map_append, List.mem_append] at hn
  rcases hn with hn | hn
  · exact Nat.le_of_lt (ha.lt_next n hn)
  · exact Nat.le_of_eq (List.mem_singleton.mp hn)

/-- A new sink that is admitted is at the end of the set. -/
theorem enlist (ha : Sound ⟨w, owed⟩) (hc : w.line.mux.closed = false)
    (hd : w.line.mux.dropRecord = none) :
    Sound ⟨(w.seat rule listener).mapMux fun x =>
      { x with active := x.active ++ [w.line.mux.sinks.length] }, owed⟩ := by
  have ho := ha.orderly
  constructor
  · exact ha.live
  · -- The new place is the greatest, and nothing keeps the set empty.
    constructor
    · show w.line.mux.dropRecord.isSome = true ∨ w.line.mux.closed = true → _
      simp [hc, hd]
    · intro i hi
      show (w.seat rule listener).line.mux.phase? i = some .active
      rcases List.mem_append.mp hi with hi | hi
      · exact ho.phase?_append_of_mem (Desk.sinks_seat ..) hi
      · rw [Desk.phase?_seat, if_pos (List.mem_singleton.mp hi)]
    · show (w.line.mux.active ++ [w.line.mux.sinks.length]).Pairwise (· < ·)
      rw [List.pairwise_append]
      refine ⟨ho.ascending, List.pairwise_singleton _ _, ?_⟩
      intro i hi j hj
      rw [List.mem_singleton.mp hj]
      exact ho.lt_length hi
    · exact ho.numbered_append ha.lt_next
  · exact ha.issued_seat
  · intro i hi
    obtain ⟨hlt, hmem⟩ : i < w.line.mux.sinks.length ∧ i ∉ w.line.mux.active := ha.owed i hi
    show i < (w.seat rule listener).line.mux.sinks.length ∧
      i ∉ w.line.mux.active ++ [w.line.mux.sinks.length]
    rw [Desk.sinks_seat, List.length_append, List.mem_append, List.mem_singleton]
    refine ⟨by omega, ?_⟩
    rintro (h | h)
    · exact hmem h
    · omega
  · intro i hi
    have hphase : (w.seat rule listener).line.mux.phase? i = some .active := hi
    show i ∈ w.line.mux.active ++ [w.line.mux.sinks.length] ∨ i ∈ owed
    rw [Desk.phase?_seat] at hphase
    split at hphase
    case isTrue h => exact .inl (by simp [h])
    case isFalse => exact (ha.accounted i hphase).imp (List.mem_append_left _) id

/-- A new sink that is refused is owed the callback that says so. -/
theorem refuse (ha : Sound ⟨w, owed⟩)
    (h : w.line.mux.closed = true ∨ w.line.mux.dropRecord.isSome = true) :
    Sound ⟨w.seat rule listener, w.line.mux.sinks.length :: owed⟩ := by
  -- What refuses the sink has emptied the set.
  have hnil : w.line.mux.active = [] := ha.orderly.idle h.symm
  have hnil' : (w.seat rule listener).line.mux.active = [] := hnil
  constructor
  · exact ha.live
  · constructor
    · exact fun _ => hnil'
    · simp [hnil']
    · simp [hnil']
    · exact ha.orderly.numbered_append ha.lt_next
  · exact ha.issued_seat
  · intro i hi
    refine ⟨?_, by simp [hnil']⟩
    show i < (w.seat rule listener).line.mux.sinks.length
    rw [Desk.sinks_seat, List.length_append, List.length_singleton]
    rcases List.mem_cons.mp hi with rfl | hi
    · exact Nat.lt_succ_self _
    · exact Nat.lt_succ_of_lt (ha.owed i hi).1
  · intro i hi
    right
    have hphase : (w.seat rule listener).line.mux.phase? i = some .active := hi
    rw [Desk.phase?_seat] at hphase
    split at hphase
    case isTrue h => simp [h]
    case isFalse =>
      -- The set is empty, so what was accounted for is owed.
      rcases ha.accounted i hphase with hmem | hmem
      · rw [show (Stage.desk ⟨w, owed⟩).line.mux.active = [] from hnil] at hmem
        cases hmem
      · exact List.mem_cons_of_mem _ hmem

/-! ## §4. Sinks that are ended, and sinks that are disposed -/

/-- A sink that is ended was owed that, and is not in the set. -/
theorem finish {i : Nat} (ha : Sound ⟨w, i :: owed⟩) {phase : Phase} (hp : phase ≠ .active) :
    Sound ⟨w.mapSink i fun k => { k with phase }, owed⟩ := by
  -- The phase of a place in the set is not touched, since what is owed is not in the set.
  have hout : i ∉ w.line.mux.active := (ha.owed i List.mem_cons_self).2
  have hphase : ∀ j, (w.mapSink i fun k => { k with phase }).line.mux.phase? j =
      if i = j then (w.line.mux.phase? j).map fun _ => phase else w.line.mux.phase? j :=
    fun j => Multiplexer.phase?_setPhase _ i j phase
  refine ha.narrow rfl rfl (Multiplexer.map_number_mapSink _ i fun _ => rfl) ha.orderly.idle
    (List.Sublist.refl _) ?_ ?_ ?_
  · intro j hj
    have hne : i ≠ j := fun h => hout (h ▸ hj)
    rw [hphase, if_neg hne]
  · exact fun j hj => ⟨(ha.owed j (List.mem_cons_of_mem _ hj)).2, .inl (List.mem_cons_of_mem _ hj)⟩
  · intro j hj
    rw [hphase] at hj
    split at hj
    case isTrue =>
      obtain ⟨-, -, h⟩ := Option.map_eq_some_iff.mp hj
      exact absurd h hp
    case isFalse hne =>
      refine ⟨hj, ?_⟩
      rintro (h | h)
      · exact .inl h
      · exact .inr ((List.mem_cons.mp h).resolve_left (Ne.symm hne))

/-- A sink that is owed a callback and is not active is owed nothing. -/
theorem pass {i : Nat} (ha : Sound ⟨w, i :: owed⟩)
    (h : ∀ s, w.sink? i = some s → s.phase ≠ .active) : Sound ⟨w, owed⟩ := by
  refine ha.narrow rfl rfl rfl ha.orderly.idle (List.Sublist.refl _) (fun _ _ => rfl) ?_ ?_
  · exact fun j hj => ⟨(ha.owed j (List.mem_cons_of_mem _ hj)).2, .inl (List.mem_cons_of_mem _ hj)⟩
  · intro j hj
    refine ⟨hj, ?_⟩
    rintro (hmem | hmem)
    · exact .inl hmem
    · rcases List.mem_cons.mp hmem with rfl | hmem
      · obtain ⟨s, hs, hphase⟩ := Option.map_eq_some_iff.mp hj
        exact absurd hphase (h s hs)
      · exact .inr hmem

/-- A listener that has heard a callback changes no phase. -/
theorem listen (ha : Sound ⟨w, owed⟩) (i : Nat) (c : Call) :
    Sound ⟨w.mapSink i fun k => { k with listener := (k.listener.next c).2 }, owed⟩ := by
  have hphase := Multiplexer.phase?_listen w.line.mux i c
  refine ha.narrow rfl rfl (Multiplexer.map_number_mapSink _ i fun _ => rfl) ha.orderly.idle
    (.refl _) ?_ ?_ ?_
  · exact fun j _ => congrFun hphase j
  · exact fun j hj => ⟨(ha.owed j hj).2, .inl hj⟩
  · intro j hj
    refine ⟨?_, id⟩
    rw [← hphase]
    exact hj

/-- Without the record, a close still keeps the set empty. -/
theorem resume (ha : Sound ⟨w, owed⟩) :
    Sound ⟨w.mapMux fun x => { x with dropRecord := none }, owed⟩ := by
  refine ha.narrow rfl rfl rfl ?_ (.refl _) (fun _ _ => rfl) ?_ ?_
  · rintro (h | h)
    · cases h
    · exact ha.orderly.idle (.inr h)
  · exact fun i hi => ⟨(ha.owed i hi).2, .inl hi⟩
  · exact fun i hi => ⟨hi, id⟩

/-- The set is emptied, and its places are owed a last callback. -/
theorem drain (ha : Sound ⟨w, owed⟩) {v : Desk} (hv : v.shared.issued = w.shared.issued)
    (hl : v.line.mux.released = w.line.mux.released)
    (hs : v.line.mux.sinks = w.line.mux.sinks) (hnil : v.line.mux.active = []) :
    Sound ⟨v, w.line.mux.active ++ owed⟩ := by
  have hphase : v.line.mux.phase? = w.line.mux.phase? := by
    funext i
    unfold Multiplexer.phase?
    rw [hs]
  refine ha.narrow hl hv (congrArg _ hs) (fun _ => hnil) ?_ ?_ ?_ ?_
  · rw [hnil]
    exact List.nil_sublist _
  · exact fun i _ => congrFun hphase i
  · intro i hi
    exact ⟨by simp [hnil], (List.mem_append.mp hi).symm⟩
  · intro i hi
    rw [hphase] at hi
    exact ⟨hi, fun h => .inr (List.mem_append.mpr h)⟩

/-- A disposal takes its sink out of the set and out of its active phase at once. -/
theorem dispose (ha : Sound ⟨w, owed⟩) (s : SinkRef) : Sound ⟨(w.dispose s).2, owed⟩ := by
  have hlive : w.line.mux.released = false := ha.live
  have hissued := Desk.issued_dispose s w
  have hline := Desk.line_dispose s w
  by_cases hown : w.line.id = s.connection
  case neg =>
    -- The sink is on another line, if anywhere.
    rw [if_neg hown] at hline
    exact ha.of_mux_eq (by rw [hline]) hissued
  case pos =>
    rw [if_pos hown] at hline
    have hmux := Line.mux_disposeAt (l := w.line) s.place hlive
    have hphase := fun j => Line.phase?_disposeAt (l := w.line) s.place j hlive
    have hactive : (w.line.disposeAt s.place).2.mux.active =
        w.line.mux.active.filter (· ≠ s.place) := by rw [hmux]
    refine ha.narrow ?_ hissued ?_ ?_ ?_ ?_ ?_ ?_
    · rw [hline, hmux]
      rfl
    · rw [hline, hmux]
      refine Multiplexer.map_number_mapSink _ _ ?_
      intro k
      split <;> rfl
    · rw [hline, hactive, hmux]
      intro h
      have hnil : w.line.mux.active = [] := ha.orderly.idle h
      rw [hnil]
      rfl
    · rw [hline, hactive]
      exact List.filter_sublist
    · rw [hline, hactive]
      intro i hi
      have hne : i ≠ s.place := by simpa using (List.mem_filter.mp hi).2
      rw [hphase, if_neg (Ne.symm hne)]
    · rw [hline, hactive]
      exact fun i hi => ⟨fun h => (ha.owed i hi).2 (List.mem_filter.mp h).1, .inl hi⟩
    · rw [hline, hactive]
      intro i hi
      rw [hphase] at hi
      split at hi
      case isTrue =>
        -- Struck, no sink is active.
        obtain ⟨p, -, hp⟩ := Option.map_eq_some_iff.mp hi
        exact absurd hp (Line.struck_ne_active p)
      case isFalse hne =>
        refine ⟨hi, fun h => h.imp (fun hmem => ?_) id⟩
        exact List.mem_filter.mpr ⟨hmem, by simpa using Ne.symm hne⟩

end Stage.Sound

/-! ## §5. One step -/

theorem Finale.ne_active {phase : Phase} {c : Call} (h : Finale phase c) : phase ≠ .active := by
  cases h <;> simp

theorem Shift.sound {a b : Stage} (h : Shift a b) (ha : a.Sound) : b.Sound := by
  cases h with
  | enlist hc hd => exact ha.enlist hc hd
  | refuse h => exact ha.refuse h
  | deliver => exact ha.of_mux_eq rfl rfl
  | finish _ _ hf => exact (ha.finish hf.ne_active).of_mux_eq rfl rfl
  | pass h => exact ha.pass h
  | listen i c => exact ha.listen i c
  | drain d => exact ha.drain rfl rfl rfl rfl
  | shut => exact ha.drain rfl rfl rfl rfl
  | resume => exact ha.resume
  | dispose s => exact ha.dispose s

theorem Step.sound {a b : Stage} (h : Step a b) (ha : a.Sound) : b.Sound := by
  cases h with
  | aside h => exact ha.of_mux_eq h.beside.mux h.beside.issued
  | turn h => exact ha.of_mux_eq h.beside.mux h.beside.issued
  | shift h => exact h.sound ha

/-! ## §6. Every run -/

/-- **No waiter is stranded.**  However operations, their callbacks and what those set off follow
each other from the first configuration on: at every moment a drop on record or a close leaves the
active set empty, and a place in the set holds an active sink, stored under its own number; and
whenever no operation is in progress, the active sinks are those in the set. -/
theorem Operation.orderly_execAll (w : Desk) (config : ConnectionConfig) (capacity : Nat)
    (ops : List Operation) :
    let v := (execAll ops (w.opening config capacity)).2
    (∀ l ∈ History.standings config.id v.shared.history, l.mux.Orderly) ∧
    v.line.mux.Orderly ∧
    ∀ i, v.line.mux.phase? i = some .active ↔ i ∈ v.line.mux.active := by
  intro v
  have path := execAll_path ops (w.opening config capacity) []
  obtain ⟨sound, shown⟩ := path.standings (P := Stage.Sound) (Q := Multiplexer.Orderly)
    Step.sound (fun h => h.orderly) (Stage.Sound.opening w config capacity) (by intro l hl; cases hl)
  refine ⟨shown, sound.orderly, ?_⟩
  intro i
  constructor
  · intro hi
    -- Nothing is owed at the end of a run.
    exact (sound.accounted i hi).resolve_right List.not_mem_nil
  · exact sound.orderly.seated i

end Correlator
