/-
  Correlator.Proofs.Twins — TWO RUNS SIDE BY SIDE.

  Two runs are set side by side.  In the second the waiters of the line in hand
  wear a guise, and some sinks that only subscriptions listen at are out of
  play: they are there, but they are not active.  Here it is said how the lines,
  what they share, and the desks of the two runs agree, and that small changes
  made in both keep them in agreement.  What is written down may differ, but for
  the callbacks to the sinks in play.

  Main content:
    * `Pairing`, `Line.Twins`, `Desk.Twins` — how the two runs agree,
    * `Line.Twins.disposeAt`, `Line.Twins.disposeAt_out` — disposals,
    * `Desk.Twins.strike`, `Desk.Twins.enter` — handles and names.
-/
import Correlator.Proofs.Guise
import Correlator.Proofs.Calm
import Mathlib.Data.List.Forall2
namespace Correlator

/-- An operation that makes no sink brings no waiter to dress up. -/
theorem Operation.under_of_not_registers {g : Guise} {op : Operation}
    (h : op.registers = false) : op.under g = op := by
  cases op with
  | register => cases h
  | subscribe => cases h
  | _ => simp only [under]

/-! ## §1. Twins -/

/-- Two runs that are set side by side: the guise of the waiters of the line in hand in the second
one, the sinks that are in play there, and what happened before. -/
structure Pairing where
  guise : Guise
  keeps : SinkRef → Bool
  /-- The connection in hand. -/
  connection : ConnectionId
  /-- The callbacks made before in the first run. -/
  first : List (Nat × Call)
  /-- The callbacks made before in the second run. -/
  second : List (Nat × Call)

/-- The sink at a place of the line in hand is in play. -/
def Pairing.keepsAt (p : Pairing) (i : Nat) : Bool := p.keeps ⟨p.connection, i⟩

/-- A sink in the first run and in the second. -/
structure Sink.Twins (g : Guise) (inPlay : Bool) (s t : Sink) : Prop where
  kept : inPlay = true → t = s.under g
  left : inPlay = false →
    (∃ q, s.listener = .stream q) ∧ (∃ q, t.listener = .stream q) ∧ t.phase ≠ .active

/-- A line without its sinks. -/
def Line.bare (l : Line) : Line := l.mapMux fun x => { x with sinks := [], active := [] }

/-- A line in the first run and in the second. -/
structure Line.Twins (g : Guise) (keeps : SinkRef → Bool) (l k : Line) : Prop where
  bare : k.bare = l.bare
  active : k.mux.active = l.mux.active.filter fun i => keeps ⟨l.id, i⟩
  sinks : ∀ i, Option.Rel (Sink.Twins g (keeps ⟨l.id, i⟩)) (l.sink? i) (k.sink? i)
  /-- Sinks that are made from now on are in play. -/
  fresh : ∀ i, l.mux.sinks.length ≤ i → keeps ⟨l.id, i⟩ = true

/-- The lines at reach, in the first run and in the second. -/
abbrev Lines.Twins (keeps : SinkRef → Bool) (ls ks : List Line) : Prop :=
  List.Forall₂ (Line.Twins .plain keeps) ls ks

/-- What the lines share, in the first run and in the second. -/
structure Shared.Twins (p : Pairing) (s t : Shared) : Prop where
  barrier : t.barrier = s.barrier
  names : t.names = s.names
  issued : t.issued = s.issued
  calls : ∃ news, s.calls = p.first ++ news ∧
    t.calls = p.second ++ news.filter fun x => p.keepsAt x.1

/-- A desk in the first run and in the second. -/
structure Desk.Twins (p : Pairing) (w v : Desk) : Prop where
  id : w.line.id = p.connection
  line : Line.Twins p.guise p.keeps w.line v.line
  before : Lines.Twins p.keeps w.before v.before
  after : Lines.Twins p.keeps w.after v.after
  shared : Shared.Twins p w.shared v.shared

/-! ## §2. Lines -/

theorem Sink.Twins.weight {g : Guise} {inPlay : Bool} {s t : Sink} (h : Sink.Twins g inPlay s t) :
    t.listener.weight = s.listener.weight := by
  cases inPlay with
  | true =>
    rw [h.kept rfl]
    exact s.listener.weight_under g
  | false =>
    obtain ⟨⟨q, hq⟩, ⟨q', hq'⟩, -⟩ := h.left rfl
    rw [hq, hq']
    rfl

namespace Line.Twins

variable {g : Guise} {keeps : SinkRef → Bool} {l k : Line}

/-- What does not depend on the sinks is the same in both runs. -/
theorem of_bare {α : Type} (h : Line.Twins g keeps l k) (f : Line → α)
    (hf : ∀ l, f l.bare = f l) : f k = f l := by
  rw [← hf k, h.bare, hf l]

theorem config (h : Line.Twins g keeps l k) : k.config = l.config :=
  h.of_bare Line.config fun _ => rfl

theorem id (h : Line.Twins g keeps l k) : k.id = l.id := h.of_bare Line.id fun _ => rfl

theorem state (h : Line.Twins g keeps l k) : k.state = l.state :=
  h.of_bare Line.state fun _ => rfl

theorem logoutText (h : Line.Twins g keeps l k) : k.logoutText = l.logoutText :=
  h.of_bare Line.logoutText fun _ => rfl

theorem capacity (h : Line.Twins g keeps l k) : k.mux.capacity = l.mux.capacity :=
  h.of_bare (fun l => l.mux.capacity) fun _ => rfl

theorem dropRecord (h : Line.Twins g keeps l k) : k.mux.dropRecord = l.mux.dropRecord :=
  h.of_bare (fun l => l.mux.dropRecord) fun _ => rfl

theorem closed (h : Line.Twins g keeps l k) : k.mux.closed = l.mux.closed :=
  h.of_bare (fun l => l.mux.closed) fun _ => rfl

theorem released (h : Line.Twins g keeps l k) : k.mux.released = l.mux.released :=
  h.of_bare (fun l => l.mux.released) fun _ => rfl

/-- A sink is there in both runs, or in none. -/
theorem sink_cases (h : Line.Twins g keeps l k) (i : Nat) :
    (l.sink? i = none ∧ k.sink? i = none) ∨
      ∃ s t, l.sink? i = some s ∧ k.sink? i = some t ∧ Sink.Twins g (keeps ⟨l.id, i⟩) s t := by
  have rel := h.sinks i
  generalize l.sink? i = a at rel
  generalize k.sink? i = b at rel
  cases rel with
  | none => exact .inl ⟨rfl, rfl⟩
  | some twins => exact .inr ⟨_, _, rfl, rfl, twins⟩

/-- A sink in play wears the guise. -/
theorem sink_kept (h : Line.Twins g keeps l k) {i : Nat} {s : Sink}
    (hi : keeps ⟨l.id, i⟩ = true) (hs : l.sink? i = some s) : k.sink? i = some (s.under g) := by
  rcases h.sink_cases i with ⟨hl, -⟩ | ⟨s', t, hl, hk, twins⟩
  · rw [hl] at hs
    cases hs
  · rw [hl] at hs
    cases hs
    rw [hk, twins.kept hi]

theorem length (h : Line.Twins g keeps l k) : k.mux.sinks.length = l.mux.sinks.length := by
  have there : ∀ i : Nat, k.sink? i = none ↔ l.sink? i = none := by
    intro i
    rcases h.sink_cases i with ⟨hl, hk⟩ | ⟨s, t, hl, hk, -⟩ <;> simp [hl, hk]
  have le := (there l.mux.sinks.length).mpr (List.getElem?_eq_none (Nat.le_refl _))
  have ge := (there k.mux.sinks.length).mp (List.getElem?_eq_none (Nat.le_refl _))
  exact Nat.le_antisymm (List.getElem?_eq_none_iff.mp le) (List.getElem?_eq_none_iff.mp ge)

/-- A line is as it is: nothing is dressed up, and what is out of play is not active. -/
theorem refl (keeps : SinkRef → Bool) (l : Line) (hall : ∀ i, keeps ⟨l.id, i⟩ = true) :
    Line.Twins .plain keeps l l where
  bare := rfl
  active := by simp [hall]
  sinks i := by
    cases l.sink? i with
    | none => exact .none
    | some s => exact .some ⟨fun _ => (Sink.under_plain s).symm, fun h => by simp [hall] at h⟩
  fresh i _ := hall i

/-- One sink is changed in both runs. -/
theorem mapSink (h : Line.Twins g keeps l k) (i : Nat) {f f' : Sink → Sink}
    (hf : ∀ s t, Sink.Twins g (keeps ⟨l.id, i⟩) s t →
      Sink.Twins g (keeps ⟨l.id, i⟩) (f s) (f' t)) :
    Line.Twins g keeps (l.mapMux fun x => x.mapSink i f) (k.mapMux fun x => x.mapSink i f') where
  bare := h.bare
  active := h.active
  sinks j := by
    show Option.Rel (Sink.Twins g (keeps ⟨l.id, j⟩)) _ _
    rw [sink?_mapSink, sink?_mapSink]
    rcases h.sink_cases j with ⟨hl, hk⟩ | ⟨s, t, hl, hk, twins⟩ <;> rw [hl, hk]
    · exact .none
    · refine .some ?_
      dsimp only
      split
      case isTrue hij =>
        subst hij
        exact hf s t twins
      case isFalse => exact twins
  fresh j hj := h.fresh j (by simpa [Multiplexer.mapSink] using hj)

theorem mapSink_id (l : Line) (i : Nat) : (l.mapMux fun x => x.mapSink i fun s => s) = l := by
  have same : l.mux.sinks.modify i (fun s => s) = l.mux.sinks := List.modify_id i _
  show { l with mux := { l.mux with sinks := l.mux.sinks.modify i fun s => s } } = l
  rw [same]

/-- A sink that is out of play is changed in the first run. -/
theorem mapSink_left (h : Line.Twins g keeps l k) {i : Nat} {f : Sink → Sink}
    (hf : ∀ s t, Sink.Twins g (keeps ⟨l.id, i⟩) s t → Sink.Twins g (keeps ⟨l.id, i⟩) (f s) t) :
    Line.Twins g keeps (l.mapMux fun x => x.mapSink i f) k := by
  have h' : Line.Twins g keeps (l.mapMux fun x => x.mapSink i f)
    (k.mapMux fun x => x.mapSink i fun t => t) := h.mapSink i hf
  rwa [mapSink_id] at h'

/-- A sink that is out of play is changed in the second run. -/
theorem mapSink_right (h : Line.Twins g keeps l k) {i : Nat} {f : Sink → Sink}
    (hf : ∀ s t, Sink.Twins g (keeps ⟨l.id, i⟩) s t → Sink.Twins g (keeps ⟨l.id, i⟩) s (f t)) :
    Line.Twins g keeps l (k.mapMux fun x => x.mapSink i f) := by
  have h' := h.mapSink i (f := fun s => s) hf
  rwa [mapSink_id] at h'

/-- The operations in scripts weigh the same. -/
theorem weight (h : Line.Twins g keeps l k) : k.weight = l.weight := by
  have all : k.mux.sinks.map (fun s => s.listener.weight) =
      l.mux.sinks.map fun s => s.listener.weight := by
    apply List.ext_getElem?
    intro i
    rw [List.getElem?_map, List.getElem?_map]
    show (k.sink? i).map _ = (l.sink? i).map _
    rcases h.sink_cases i with ⟨hl, hk⟩ | ⟨s, t, hl, hk, twins⟩ <;> rw [hl, hk]
    exact congrArg some twins.weight
  have sum : ∀ ss : List Sink,
      Sink.weights ss = (ss.map fun s => s.listener.weight).foldr (· + ·) 0 := by
    intro ss
    induction ss with
    | nil => rfl
    | cons s ss ih =>
      rw [Sink.weights_cons, ih]
      rfl
  unfold Line.weight
  rw [sum, sum, all]

/-! ## §3. Disposals -/

/-- A disposal changes the phase of its sink in the same way under every guise. -/
theorem strikes {inPlay : Bool} {s t : Sink} (h : Sink.Twins g inPlay s t) : Sink.Twins g inPlay
    (if s.isActive then { s with phase := .disposed } else s)
    (if t.isActive then { t with phase := .disposed } else t) where
  kept hp := by
    rw [h.kept hp]
    unfold Sink.under Sink.isActive
    split <;> simp_all
  left hp := by
    obtain ⟨hq, hq', ht⟩ := h.left hp
    have idle : t.isActive = false := by simpa [Sink.isActive] using ht
    rw [idle]
    refine ⟨?_, hq', ht⟩
    split <;> exact hq

/-- A disposal is made in both runs. -/
theorem disposeAt (h : Line.Twins g keeps l k) (i : Nat) :
    Line.Twins g keeps (l.disposeAt i).2 (k.disposeAt i).2 := by
  have struck := h.mapSink i fun s t => strikes (s := s) (t := t)
  rw [snd_disposeAt, snd_disposeAt]
  refine ⟨h.bare, ?_, struck.sinks, struck.fresh⟩
  show (if k.mux.released then k.mux.active else k.mux.active.filter _) =
    (if l.mux.released then l.mux.active else l.mux.active.filter _).filter _
  rw [h.released, h.active]
  split
  · rfl
  · rw [List.filter_filter, List.filter_filter]
    simp only [Bool.and_comm]
    rfl

/-- In both runs it changes something, or in none, if the sink is in play. -/
theorem disposeAt_fst (h : Line.Twins g keeps l k) {i : Nat} (hi : keeps ⟨l.id, i⟩ = true) :
    (k.disposeAt i).1 = (l.disposeAt i).1 := by
  have active : k.isActiveAt i = l.isActiveAt i := by
    unfold isActiveAt
    rcases h.sink_cases i with ⟨hl, hk⟩ | ⟨s, t, hl, hk, twins⟩ <;> rw [hl, hk]
    rw [twins.kept hi]
    rfl
  have member : k.mux.active.contains i = l.mux.active.contains i := by
    rw [h.active]
    simp [List.contains_eq_mem, hi]
  unfold Line.disposeAt
  rw [h.released, active, member]
  split <;> rfl

/-- In the second run a disposal of a sink that is out of play changes nothing. -/
theorem disposeAt_out (h : Line.Twins g keeps l k) {i : Nat} (hi : keeps ⟨l.id, i⟩ = false) :
    k.disposeAt i = (false, k) := by
  have idle : k.isActiveAt i = false := by
    unfold isActiveAt
    rcases h.sink_cases i with ⟨-, hk⟩ | ⟨s, t, -, hk, twins⟩ <;> rw [hk]
    obtain ⟨-, -, ht⟩ := twins.left hi
    simpa [Sink.isActive] using ht
  have absent : i ∉ k.mux.active := by
    rw [h.active]
    simp [hi]
  have sinks : k.mux.sinks.modify i
      (fun s => if s.isActive then { s with phase := .disposed } else s) = k.mux.sinks := by
    apply List.ext_getElem?
    intro j
    rw [List.getElem?_modify]
    unfold isActiveAt sink? at idle
    by_cases hj : i = j
    · subst hj
      cases hk : k.mux.sinks[i]? with
      | none => rfl
      | some t =>
        rw [hk] at idle
        have off : ¬ t.isActive = true := ne_true_of_eq_false idle
        rw [Option.map_eq_map, Option.map_some, if_pos rfl, if_neg off]
    · simp [hj]
  have active : k.mux.active.filter (· ≠ i) = k.mux.active := by
    rw [List.filter_eq_self]
    intro j hj
    simp only [decide_eq_true_eq]
    rintro rfl
    exact absent hj
  have same : (k.disposeAt i).2 = k := by
    rw [snd_disposeAt]
    show { k with mux := { k.mux with
      sinks := k.mux.sinks.modify i _
      active := if k.mux.released then k.mux.active else k.mux.active.filter _ } } = k
    rw [sinks, active, ite_self]
  refine Prod.ext ?_ same
  unfold Line.disposeAt
  dsimp only
  split
  · exact idle
  · simp [idle, absent]

end Line.Twins

namespace Lines.Twins

variable {keeps : SinkRef → Bool} {ls ks : List Line}

theorem disposeAmong (h : Lines.Twins keeps ls ks) (s : SinkRef) :
    Lines.Twins keeps (Desk.disposeAmong s ls).2 (Desk.disposeAmong s ks).2 := by
  induction h with
  | nil => exact .nil
  | cons first rest ih =>
    unfold Desk.disposeAmong
    rw [first.id]
    split
    · exact .cons (first.disposeAt s.place) rest
    · exact .cons first ih

theorem disposeAmong_fst (h : Lines.Twins keeps ls ks) {s : SinkRef} (hs : keeps s = true) :
    (Desk.disposeAmong s ks).1.isSome = (Desk.disposeAmong s ls).1.isSome := by
  induction h with
  | nil => rfl
  | @cons l k _ _ first rest ih =>
    unfold Desk.disposeAmong
    rw [first.id]
    split
    case isTrue hid =>
      have hi : keeps ⟨l.id, s.place⟩ = true := by rw [hid]; exact hs
      dsimp only
      rw [first.disposeAt_fst hi]
      split <;> rfl
    case isFalse => exact ih

theorem disposeAmong_out (h : Lines.Twins keeps ls ks) {s : SinkRef} (hs : keeps s = false) :
    Desk.disposeAmong s ks = (none, ks) := by
  induction h with
  | nil => rfl
  | @cons l k _ _ first rest ih =>
    unfold Desk.disposeAmong
    rw [first.id]
    split
    case isTrue hid =>
      have hi : keeps ⟨l.id, s.place⟩ = false := by rw [hid]; exact hs
      rw [first.disposeAt_out hi]
      rfl
    case isFalse => rw [ih]

end Lines.Twins

/-! ## §4. What the lines share -/

namespace Shared.Twins

variable {p : Pairing} {s t : Shared}

/-- A moment that is no callback is written down in the first run. -/
theorem add_left (h : Shared.Twins p s t) {x : Moment} (hx : x.call? = none) :
    Shared.Twins p (s.add x) t := by
  obtain ⟨news, hs, ht⟩ := h.calls
  refine ⟨h.barrier, h.names, h.issued, news, ?_, ht⟩
  rw [calls_add, hx, hs]
  exact List.append_nil _

/-- A moment that is no callback is written down in the second run. -/
theorem add_right (h : Shared.Twins p s t) {x : Moment} (hx : x.call? = none) :
    Shared.Twins p s (t.add x) := by
  obtain ⟨news, hs, ht⟩ := h.calls
  refine ⟨h.barrier, h.names, h.issued, news, hs, ?_⟩
  rw [calls_add, hx, ht]
  exact List.append_nil _

/-- A callback to a sink in play is made in both runs. -/
theorem called (h : Shared.Twins p s t) {i : Nat} (hi : p.keepsAt i = true) {x y : Moment}
    {c : Call} (hx : x.call? = some (i, c)) (hy : y.call? = some (i, c)) :
    Shared.Twins p (s.add x) (t.add y) := by
  obtain ⟨news, hs, ht⟩ := h.calls
  refine ⟨h.barrier, h.names, h.issued, news ++ [(i, c)], ?_, ?_⟩
  · rw [calls_add, hx, hs, List.append_assoc]
    rfl
  · rw [calls_add, hy, ht, List.filter_append, List.append_assoc]
    simp [hi]

/-- A callback to a sink that is out of play is made in the first run only. -/
theorem called_left (h : Shared.Twins p s t) {i : Nat} (hi : p.keepsAt i = false) {x : Moment}
    {c : Call} (hx : x.call? = some (i, c)) : Shared.Twins p (s.add x) t := by
  obtain ⟨news, hs, ht⟩ := h.calls
  refine ⟨h.barrier, h.names, h.issued, news ++ [(i, c)], ?_, ?_⟩
  · rw [calls_add, hx, hs, List.append_assoc]
    rfl
  · rw [ht, List.filter_append]
    simp [hi]

theorem notes (h : Shared.Twins p s t) (l k : Option Line) (ns : List Notice) :
    Shared.Twins p (s.notes l ns) (t.notes k ns) := by
  induction ns generalizing s t with
  | nil => exact h
  | cons n ns ih => exact ih ((h.add_left (x := ⟨.noted n, l⟩) rfl).add_right rfl)

theorem arrive (h : Shared.Twins p s t) (l k : Option Line) (c : ConnectionId) (e : Readiness) :
    Shared.Twins p (s.arrive l c e).2 (t.arrive k c e).2 := by
  have counted : Shared.Twins p { s with barrier := (s.barrier.arrive c e).2 }
      { t with barrier := (s.barrier.arrive c e).2 } := ⟨rfl, h.names, h.issued, h.calls⟩
  unfold Shared.arrive
  rw [h.barrier]
  exact counted.notes l k _

end Shared.Twins

/-! ## §5. One line in hand -/

namespace Desk.Twins

variable {p : Pairing} {w v : Desk}

theorem sink_kept (h : Desk.Twins p w v) {i : Nat} {s : Sink} (hi : p.keepsAt i = true)
    (hs : w.sink? i = some s) : v.sink? i = some (s.under p.guise) :=
  h.line.sink_kept (by rw [h.id]; exact hi) hs

theorem sink_cases (h : Desk.Twins p w v) (i : Nat) :
    (w.sink? i = none ∧ v.sink? i = none) ∨
      ∃ s t, w.sink? i = some s ∧ v.sink? i = some t ∧
        Sink.Twins p.guise (p.keepsAt i) s t := by
  have cases := h.line.sink_cases i
  rw [h.id] at cases
  exact cases

theorem active (h : Desk.Twins p w v) :
    v.line.mux.active = w.line.mux.active.filter p.keepsAt := by
  rw [h.line.active, h.id]
  rfl

/-- What is written down in the first run, other than a callback. -/
theorem record_left (h : Desk.Twins p w v) (e : Event)
    (he : (⟨e, some w.line⟩ : Moment).call? = none) : Desk.Twins p (w.record e) v :=
  ⟨h.id, h.line, h.before, h.after, h.shared.add_left he⟩

theorem record_right (h : Desk.Twins p w v) (e : Event)
    (he : (⟨e, some v.line⟩ : Moment).call? = none) : Desk.Twins p w (v.record e) :=
  ⟨h.id, h.line, h.before, h.after, h.shared.add_right he⟩

/-- What is written down in both runs. -/
theorem record (h : Desk.Twins p w v) (e : Event)
    (he : ∀ l, (⟨e, l⟩ : Moment).call? = none) : Desk.Twins p (w.record e) (v.record e) :=
  (h.record_left e (he _)).record_right e (he _)

theorem note_left (h : Desk.Twins p w v) (n : Notice) : Desk.Twins p (w.note n) v :=
  h.record_left (.noted n) rfl

theorem note_right (h : Desk.Twins p w v) (n : Notice) : Desk.Twins p w (v.note n) :=
  h.record_right (.noted n) rfl

theorem note (h : Desk.Twins p w v) (n : Notice) : Desk.Twins p (w.note n) (v.note n) :=
  (h.note_left n).note_right n

/-- The line is changed in both runs, but for its sinks. -/
theorem mapLine (h : Desk.Twins p w v) {f : Line → Line} (hf : ∀ l, (f l).bare = f l.bare)
    (hm : ∀ l, (f l).mux = l.mux) (hid : ∀ l, (f l).id = l.id) :
    Desk.Twins p (w.mapLine f) (v.mapLine f) where
  id := (hid _).trans h.id
  line := by
    constructor
    · show (f v.line).bare = (f w.line).bare
      rw [hf, hf, h.line.bare]
    · show (f v.line).mux.active = (f w.line).mux.active.filter fun i => p.keeps ⟨(f w.line).id, i⟩
      rw [hm, hm, hid]
      exact h.line.active
    · intro i
      show Option.Rel (Sink.Twins _ (p.keeps ⟨(f w.line).id, i⟩)) (f w.line).mux.sinks[i]?
        (f v.line).mux.sinks[i]?
      rw [hm, hm, hid]
      exact h.line.sinks i
    · intro i hi
      have hi : (f w.line).mux.sinks.length ≤ i := hi
      show p.keeps ⟨(f w.line).id, i⟩ = true
      rw [hm] at hi
      rw [hid]
      exact h.line.fresh i hi
  before := h.before
  after := h.after
  shared := h.shared

theorem setState (h : Desk.Twins p w v) (s : ConnectionState) :
    Desk.Twins p (w.setState s) (v.setState s) :=
  h.mapLine (f := fun l => { l with state := s }) (fun _ => rfl) (fun _ => rfl) (fun _ => rfl)

/-- One sink is changed in both runs. -/
theorem mapSink (h : Desk.Twins p w v) (i : Nat) {f f' : Sink → Sink}
    (hf : ∀ s t, Sink.Twins p.guise (p.keepsAt i) s t →
      Sink.Twins p.guise (p.keepsAt i) (f s) (f' t)) :
    Desk.Twins p (w.mapSink i f) (v.mapSink i f') :=
  ⟨h.id, h.line.mapSink i (by rw [h.id]; exact hf), h.before, h.after, h.shared⟩

/-- A sink that is out of play is changed in the first run. -/
theorem mapSink_left (h : Desk.Twins p w v) {i : Nat} {f : Sink → Sink}
    (hf : ∀ s t, Sink.Twins p.guise (p.keepsAt i) s t →
      Sink.Twins p.guise (p.keepsAt i) (f s) t) : Desk.Twins p (w.mapSink i f) v :=
  ⟨h.id, h.line.mapSink_left (by rw [h.id]; exact hf), h.before, h.after, h.shared⟩

/-- A sink goes to the same phase in both runs. -/
theorem setPhase (h : Desk.Twins p w v) {i : Nat} (hi : p.keepsAt i = true) (phase : Phase) :
    Desk.Twins p (w.mapSink i fun s => { s with phase })
      (v.mapSink i fun s => { s with phase }) := by
  refine h.mapSink i fun s t twins => ⟨fun hk => ?_, fun hk => ?_⟩
  · rw [twins.kept hk]
    rfl
  · rw [hi] at hk
    cases hk

theorem mapShared (h : Desk.Twins p w v) {f f' : Shared → Shared}
    (hf : Shared.Twins p (f w.shared) (f' v.shared)) :
    Desk.Twins p (w.mapShared f) (v.mapShared f') :=
  ⟨h.id, h.line, h.before, h.after, hf⟩

theorem arrive (h : Desk.Twins p w v) (e : Readiness) :
    Desk.Twins p (w.arrive e) (v.arrive e) := by
  refine h.mapShared ?_
  rw [h.line.id]
  exact h.shared.arrive _ _ _ e

/-! ### Handles and names -/

theorem noteDisposal_left (h : Desk.Twins p w v) (l : Line) :
    Desk.Twins p (w.noteDisposal l) v := by
  rcases noteDisposal_cases l w with hn | hn <;> rw [hn]
  · exact h
  · exact ⟨h.id, h.line, h.before, h.after, h.shared.add_left rfl⟩

theorem noteDisposal_right (h : Desk.Twins p w v) (l : Line) :
    Desk.Twins p w (v.noteDisposal l) := by
  rcases noteDisposal_cases l v with hn | hn <;> rw [hn]
  · exact h
  · exact ⟨h.id, h.line, h.before, h.after, h.shared.add_right rfl⟩

/-- A sink on another line is disposed in both runs. -/
theorem strike_of_other (h : Desk.Twins p w v) {s : SinkRef} (hother : ¬ w.line.id = s.connection) :
    Desk.Twins p (w.strike s).2 (v.strike s).2 ∧
      (p.keeps s = true → (v.strike s).1 = (w.strike s).1) := by
  have before := h.before.disposeAmong s
  have after := h.after.disposeAmong s
  unfold Desk.strike
  rw [h.line.id, if_neg hother, if_neg hother]
  by_cases hs : p.keeps s = true
  case pos =>
    have foundBefore := h.before.disposeAmong_fst hs
    have foundAfter := h.after.disposeAmong_fst hs
    generalize disposeAmong s w.before = b at before foundBefore
    generalize disposeAmong s v.before = b' at before foundBefore
    generalize disposeAmong s w.after = a at after foundAfter
    generalize disposeAmong s v.after = a' at after foundAfter
    obtain ⟨_ | l, b⟩ := b <;> obtain ⟨_ | l', b'⟩ := b' <;> try cases foundBefore
    · obtain ⟨_ | l, a⟩ := a <;> obtain ⟨_ | l', a'⟩ := a' <;> try cases foundAfter
      · exact ⟨h, fun _ => rfl⟩
      · have struck : Desk.Twins p { w with after := a } { v with after := a' } :=
          ⟨h.id, h.line, h.before, after, h.shared⟩
        exact ⟨(struck.noteDisposal_left l).noteDisposal_right l', fun _ => rfl⟩
    · have struck : Desk.Twins p { w with before := b } { v with before := b' } :=
        ⟨h.id, h.line, before, h.after, h.shared⟩
      exact ⟨(struck.noteDisposal_left l).noteDisposal_right l', fun _ => rfl⟩
  case neg =>
    -- The second run finds nothing to do on any line.
    have out : p.keeps s = false := by simpa using hs
    rw [h.before.disposeAmong_out out] at before ⊢
    rw [h.after.disposeAmong_out out] at after ⊢
    refine ⟨?_, fun hkept => absurd hkept hs⟩
    generalize disposeAmong s w.before = b at before
    generalize disposeAmong s w.after = a at after
    obtain ⟨_ | l, b⟩ := b
    · obtain ⟨_ | l, a⟩ := a
      · exact h
      · have struck : Desk.Twins p { w with after := a } v :=
          ⟨h.id, h.line, h.before, after, h.shared⟩
        exact struck.noteDisposal_left l
    · have struck : Desk.Twins p { w with before := b } v :=
        ⟨h.id, h.line, before, h.after, h.shared⟩
      exact struck.noteDisposal_left l

/-- A sink is disposed in both runs.  It changes something in both or in none, if the sink is in
play. -/
theorem strike (h : Desk.Twins p w v) (s : SinkRef) :
    Desk.Twins p (w.strike s).2 (v.strike s).2 ∧
      (p.keeps s = true → (v.strike s).1 = (w.strike s).1) := by
  by_cases hown : w.line.id = s.connection
  case neg => exact h.strike_of_other hown
  case pos =>
    have struck : Desk.Twins p { w with line := (w.line.disposeAt s.place).2 }
        { v with line := (v.line.disposeAt s.place).2 } := by
      refine ⟨?_, h.line.disposeAt s.place, h.before, h.after, h.shared⟩
      exact (congrArg ConnectionConfig.id (Line.config_disposeAt _ _)).trans h.id
    unfold Desk.strike
    rw [h.line.id, if_pos hown, if_pos hown]
    refine ⟨?_, fun hs => h.line.disposeAt_fst (by rw [hown]; exact hs)⟩
    dsimp only
    split <;> split
    · exact (struck.noteDisposal_left _).noteDisposal_right _
    · exact struck.noteDisposal_left _
    · exact struck.noteDisposal_right _
    · exact struck

theorem dispose (h : Desk.Twins p w v) (s : SinkRef) :
    Desk.Twins p (w.dispose s).2 (v.dispose s).2 :=
  ((h.strike s).1.record_left _ rfl).record_right _ rfl

theorem enter (h : Desk.Twins p w v) (name : String) (e : Entry) :
    Desk.Twins p (w.enter name e) (v.enter name e) := by
  have named : Desk.Twins p
      (w.mapShared fun s => { s with names := Directory.enter name e s.names })
      (v.mapShared fun s => { s with names := Directory.enter name e s.names }) :=
    h.mapShared ⟨h.shared.barrier, congrArg (Directory.enter name e) h.shared.names,
      h.shared.issued, h.shared.calls⟩
  unfold Desk.enter
  rw [h.shared.names]
  dsimp only
  split
  · exact named
  · unfold Desk.giveUp
    split
    · exact named
    · exact named.dispose _

end Desk.Twins

end Correlator
