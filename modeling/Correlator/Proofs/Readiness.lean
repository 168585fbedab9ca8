/-
  Correlator.Proofs.Readiness — WHO IS STILL AWAITED AT STARTUP.

  The barrier of an engine expects one step of each connection that it was
  built with: that it is created, on the side that listens, or that it is
  established, on the side that dials.  Each such step that a connection's life
  allows is written down, and nothing else touches the barrier.  So what is
  pending is what was expected at the start and has not been written down since,
  whatever else is asked of the engine: connections that are registered later
  do not count, and what has arrived once does not become pending again.

  Main results:
    * `Shared.accepted` — the steps that were allowed, in order,
    * `Barrier.pending_arrive`, `Barrier.pending_expecting` — the barrier as a list,
    * `Engine.Attends`, `Engine.Attends.invariant` — what barrier and steps keep,
    * `EngineBuilder.pending_connections` — who is pending, and what a wait says.
-/
import Correlator.Proofs.Builds
import Correlator.Proofs.Outcomes
namespace Correlator

/-! ## §1. Steps that were allowed -/

/-- The step that the moment tells of: the connection that it shows was created, or came up. -/
def Moment.step? (x : Moment) : Option (ConnectionId × Readiness) :=
  match x.event, x.line with
  | .noted .connectionCreated, some l => some (l.id, .created)
  | .noted .connectionEstablished, some l => some (l.id, .established)
  | _, _ => none

namespace Shared

/-- The steps that connections were allowed to take so far, in order. -/
def accepted (s : Shared) : List (ConnectionId × Readiness) := s.history.filterMap Moment.step?

theorem accepted_add (x : Moment) (s : Shared) :
    (s.add x).accepted = s.accepted ++ x.step?.toList := by
  unfold accepted
  rw [history_add, List.filterMap_append]
  cases h : x.step? <;> simp [h]

theorem accepted_of_history {s t : Shared} {news : List Moment}
    (hh : t.history = s.history ++ news) (hn : ∀ x ∈ news, x.step? = none) :
    t.accepted = s.accepted := by
  unfold accepted
  rw [hh, List.filterMap_append, List.filterMap_eq_nil_iff.mpr hn, List.append_nil]

end Shared

theorem Moment.step?_of_plain {e : Event} (he : e.isPlain = true) (l : Option Line) :
    Moment.step? ⟨e, l⟩ = none := by
  unfold step?
  split
  case h_1 h _ =>
    rw [show e = .noted .connectionCreated from h] at he
    cases he
  case h_2 h _ =>
    rw [show e = .noted .connectionEstablished from h] at he
    cases he
  case h_3 => rfl

/-- A moment that shows no connection tells of no step. -/
theorem Moment.step?_of_no_line (e : Event) : Moment.step? ⟨e, none⟩ = none := by
  unfold step?
  split
  case h_1 hl => cases hl
  case h_2 hl => cases hl
  case h_3 => rfl

/-- What is added without a step in it leaves the barrier and the steps as they are. -/
theorem Shared.notes_of_plain {standing : Option Line} {ns : List Notice}
    (hn : ∀ n ∈ ns, (Event.noted n).isPlain = true) (s : Shared) :
    (s.notes standing ns).barrier = s.barrier ∧ (s.notes standing ns).accepted = s.accepted := by
  induction ns generalizing s with
  | nil => exact ⟨rfl, rfl⟩
  | cons n ns ih =>
    obtain ⟨barrier, accepted⟩ :=
      ih (fun m hm => hn m (List.mem_cons_of_mem _ hm)) (s.add ⟨.noted n, standing⟩)
    refine ⟨barrier, accepted.trans ?_⟩
    rw [accepted_add, Moment.step?_of_plain (hn n List.mem_cons_self)]
    exact List.append_nil _

/-! ## §2. The barrier as a list -/

namespace Barrier

theorem expected?_eq_some {c : ConnectionId} {e : Readiness}
    {ps : List (ConnectionId × Readiness)} (h : (ps.map Prod.fst).Nodup) :
    expected? c ps = some e ↔ (c, e) ∈ ps := by
  induction ps with
  | nil => simp [expected?]
  | cons p ps ih =>
    obtain ⟨d, f⟩ := p
    rw [List.map_cons, List.nodup_cons] at h
    unfold expected?
    by_cases hd : d = c
    · subst hd
      have absent : (d, e) ∉ ps := fun hm => h.1 (List.mem_map.mpr ⟨_, hm, rfl⟩)
      simp [absent, eq_comm]
    · rw [if_neg hd, ih h.2]
      simp [Ne.symm hd]

/-- **An event takes its own expectation off the list**, if it is there. -/
theorem pending_arrive {b : Barrier} (h : (b.pending.map Prod.fst).Nodup) (c : ConnectionId)
    (e : Readiness) : (b.arrive c e).2.pending = b.pending.filter fun p => p ≠ (c, e) := by
  unfold arrive
  by_cases he : expected? c b.pending = some e
  · rw [if_pos he]
    -- Nothing else is expected of the connection.
    refine List.filter_congr fun p hp => ?_
    obtain ⟨d, f⟩ := p
    rw [decide_eq_decide]
    constructor
    · intro hd heq
      exact hd (congrArg Prod.fst heq)
    · intro hne hd
      have hd : d = c := hd
      subst hd
      have hf := (expected?_eq_some h).mpr hp
      rw [he] at hf
      exact hne (by rw [Option.some.inj hf])
  · rw [if_neg he]
    refine (List.filter_eq_self.mpr fun p hp => ?_).symm
    simp only [ne_eq, decide_eq_true_eq]
    rintro rfl
    exact he ((expected?_eq_some h).mpr hp)

theorem announced_arrive {b : Barrier} (h : b.announced = b.pending.length) (c : ConnectionId)
    (e : Readiness) : (b.arrive c e).2.announced = (b.arrive c e).2.pending.length := by
  unfold arrive
  split
  · rfl
  · exact h

theorem expect_of_new {c : ConnectionId} (e : Readiness) {ps : List (ConnectionId × Readiness)}
    (h : c ∉ ps.map Prod.fst) : expect c e ps = ps ++ [(c, e)] := by
  induction ps with
  | nil => rfl
  | cons p ps ih =>
    obtain ⟨d, f⟩ := p
    rw [List.map_cons, List.mem_cons, not_or] at h
    unfold expect
    rw [if_neg (Ne.symm h.1), ih h.2]
    rfl

/-- Of distinct connections everything is expected as it is listed. -/
theorem pending_expecting {es : List (ConnectionId × Readiness)} (h : (es.map Prod.fst).Nodup) :
    (expecting es).pending = es := by
  have fold : ∀ ps : List (ConnectionId × Readiness), ((ps ++ es).map Prod.fst).Nodup →
      es.foldl (fun ps e => expect e.1 e.2 ps) ps = ps ++ es := by
    clear h
    induction es with
    | nil =>
      intro ps _
      exact (List.append_nil ps).symm
    | cons e es ih =>
      intro ps h
      rw [List.map_append] at h
      have new : e.1 ∉ ps.map Prod.fst := fun hm =>
        List.disjoint_of_nodup_append h hm List.mem_cons_self
      rw [List.foldl_cons, expect_of_new e.2 new, ih _ (by simpa using h), List.append_assoc]
      rfl
  exact (fold [] h).trans (List.nil_append es)

end Barrier

/-! ## §3. What touches the barrier -/

/-- Every operation in the scripts of the line's waiters keeps the law. -/
def Line.Obeys (law : Operation → Prop) (l : Line) : Prop :=
  ∀ s ∈ l.mux.sinks, ∀ op ∈ s.listener.within, law op

theorem Line.Obeys.disposeAt {law : Operation → Prop} (i : Nat) {l : Line} (h : l.Obeys law) :
    (l.disposeAt i).2.Obeys law := by
  let w : Desk := { line := l, shared := { barrier := ⟨[], 0⟩ } }
  have obeys : w.Obeys law := h
  refine obeys.modify (v := { w with line := (l.disposeAt i).2 }) ?_ (Line.sinks_disposeAt i l)
  intro k
  split <;> exact List.Subset.refl _

/-- What is kept of the barrier and of the steps that were allowed, if the operations keep a law:
a step that the law allows may be taken by any connection. -/
structure Attendance (law : Operation → Prop)
    (P : Barrier → List (ConnectionId × Readiness) → Prop) : Prop where
  create : law .create → ∀ {b steps}, P b steps → ∀ c : ConnectionId,
    P (b.arrive c .created).2 (steps ++ [(c, .created)])
  establish : law .establish → ∀ {b steps}, P b steps → ∀ c : ConnectionId,
    P (b.arrive c .established).2 (steps ++ [(c, .established)])

/-- The desk has a line of that identity in hand, all its lines keep the law, and what is to be kept
of the barrier and of the steps holds. -/
structure Desk.Attends (c : ConnectionId) (law : Operation → Prop)
    (P : Barrier → List (ConnectionId × Readiness) → Prop) (w : Desk) : Prop where
  holds : w.Holds c
  obeys : ∀ l ∈ w.lines, l.Obeys law
  kept : P w.shared.barrier w.shared.accepted

theorem Desk.barrier_dispose (s : SinkRef) (w : Desk) :
    (w.dispose s).2.shared.barrier = w.shared.barrier := by
  have noted : ∀ (l : Line) (v : Desk), (v.noteDisposal l).shared.barrier = v.shared.barrier := by
    intro l v
    rcases noteDisposal_cases l v with h | h <;> rw [h]
    rfl
  show (w.strike s).2.shared.barrier = _
  unfold strike
  split
  · dsimp only
    split
    · exact noted _ _
    · rfl
  · dsimp only
    split
    · exact noted _ _
    · split
      · exact noted _ _
      · rfl

theorem Desk.accepted_dispose (s : SinkRef) (w : Desk) :
    (w.dispose s).2.shared.accepted = w.shared.accepted := by
  obtain ⟨news, hh, hn⟩ := history_dispose s w
  rw [List.append_assoc] at hh
  refine Shared.accepted_of_history hh fun x hx => ?_
  rcases List.mem_append.mp hx with hx | hx
  · obtain ⟨l, rfl, -⟩ := hn x hx
    exact Moment.step?_of_plain rfl _
  · rw [List.mem_singleton.mp hx]
    exact Moment.step?_of_plain rfl _

theorem Barrier.plain_arrivalNotices (counted : Bool) (b : Barrier) :
    ∀ n ∈ arrivalNotices counted b, (Event.noted n).isPlain = true := by
  intro n hn
  unfold arrivalNotices at hn
  split at hn
  · split at hn
    · simp only [List.mem_cons, List.not_mem_nil, or_false] at hn
      rcases hn with rfl | rfl <;> rfl
    · rw [List.mem_singleton.mp hn]
      rfl
  · cases hn

/-- A step that is written down reaches the barrier. -/
theorem Desk.barrier_step (n : Notice) (e : Readiness) (w : Desk) :
    ((w.note n).arrive e).shared.barrier = (w.shared.barrier.arrive w.line.id e).2 :=
  (Shared.notes_of_plain (Barrier.plain_arrivalNotices _ _) _).1

theorem Desk.accepted_step {n : Notice} {e : Readiness}
    (hn : ∀ l : Line, Moment.step? ⟨.noted n, some l⟩ = some (l.id, e)) (w : Desk) :
    ((w.note n).arrive e).shared.accepted = w.shared.accepted ++ [(w.line.id, e)] := by
  refine (Shared.notes_of_plain (Barrier.plain_arrivalNotices _ _) _).2.trans ?_
  show (w.shared.add ⟨.noted n, some w.line⟩).accepted = _
  rw [Shared.accepted_add, hn]
  rfl

namespace Desk.Attends

variable {c : ConnectionId} {law : Operation → Prop}
  {P : Barrier → List (ConnectionId × Readiness) → Prop} {w : Desk}

/-- Only the line in hand changes, and keeps its connection and the law. -/
theorem of_line (h : w.Attends c law P) {v : Desk} (hb : v.before = w.before)
    (ha : v.after = w.after) (hc : v.line.config = w.line.config) (hl : v.line.Obeys law)
    (hs : v.shared.barrier = w.shared.barrier) (hacc : v.shared.accepted = w.shared.accepted) :
    v.Attends c law P where
  holds := h.holds.of_ids (by rw [hb]) (congrArg ConnectionConfig.id hc)
  obeys := by
    intro l hmem
    unfold Desk.lines at hmem
    rw [hb, ha] at hmem
    rcases List.mem_append.mp hmem with hmem | hmem
    · exact h.obeys l (List.mem_append_left _ hmem)
    · rcases List.mem_cons.mp hmem with rfl | hmem
      · exact hl
      · exact h.obeys l (List.mem_append_right _ (List.mem_cons_of_mem _ hmem))
  kept := by
    rw [hs, hacc]
    exact h.kept

theorem own (h : w.Attends c law P) : w.line.Obeys law :=
  h.obeys w.line (List.mem_append_right _ List.mem_cons_self)

/-- What happens is no step of a connection. -/
theorem mapShared (h : w.Attends c law P) {g : Shared → Shared}
    (hb : (g w.shared).barrier = w.shared.barrier)
    (hacc : (g w.shared).accepted = w.shared.accepted) : (w.mapShared g).Attends c law P :=
  h.of_line rfl rfl rfl h.own hb hacc

theorem add (h : w.Attends c law P) {x : Moment} (hx : x.step? = none) :
    (w.mapShared fun s => s.add x).Attends c law P := by
  refine h.mapShared rfl ?_
  rw [Shared.accepted_add, hx]
  exact List.append_nil _

theorem record (h : w.Attends c law P) {e : Event} (he : e.isPlain = true) :
    (w.record e).Attends c law P := h.add (Moment.step?_of_plain he _)

theorem dispose (h : w.Attends c law P) (s : SinkRef) : (w.dispose s).2.Attends c law P where
  holds := h.holds.continues (.dispose s w)
  obeys := by
    intro k hk
    obtain ⟨before, line, after⟩ := Desk.dispose_lines
      (R := fun l k => l.Obeys law → k.Obeys law) (fun _ h => h)
      (fun i _ => Line.Obeys.disposeAt i) s w
    obtain ⟨l, hl, kept⟩ :=
      Lines.mem_of_forall₂ (List.rel_append before (.cons line after)) hk
    exact kept (h.obeys l hl)
  kept := by
    rw [Desk.barrier_dispose, Desk.accepted_dispose]
    exact h.kept

theorem enter (h : w.Attends c law P) (name : String) (e : Entry) :
    (w.enter name e).Attends c law P := by
  have entered : (w.mapShared fun s => { s with names := Directory.enter name e s.names }).Attends
      c law P := h.mapShared rfl rfl
  unfold Desk.enter
  dsimp only
  split
  · exact entered
  · unfold Desk.giveUp
    split
    · exact entered
    · exact entered.dispose _

/-- A step is written down, and reaches the barrier. -/
theorem step (h : w.Attends c law P) {n : Notice} {e : Readiness}
    (hn : ∀ l : Line, Moment.step? ⟨.noted n, some l⟩ = some (l.id, e))
    (hkept : ∀ {b steps}, P b steps → ∀ c : ConnectionId, P (b.arrive c e).2 (steps ++ [(c, e)])) :
    ((w.note n).arrive e).Attends c law P where
  holds := ⟨h.holds.before, h.holds.line⟩
  obeys := h.obeys
  kept := by
    rw [Desk.barrier_step n e w, Desk.accepted_step hn w]
    exact hkept h.kept w.line.id

theorem check (h : w.Attends c law P) (next : ConnectionState) :
    (w.check next).2.Attends c law P := by
  rcases Desk.check_cases next w with ⟨e, he⟩ | ⟨-, he | he⟩ <;> rw [he]
  · exact h.record rfl
  · exact h
  · exact h.record rfl

/-- **What is kept of the barrier survives every operation within the law.** -/
theorem unison (kept : Attendance law P) (c : ConnectionId) :
    Desk.Unison c (fun n => n) law fun w v => v = w ∧ w.Attends c law P where
  holds := by
    rintro w v ⟨rfl, h⟩
    exact ⟨h.holds, h.holds⟩
  line := by
    rintro w v ⟨rfl, -⟩
    exact .refl _ _
  obeys := by
    rintro w v ⟨rfl, h⟩
    exact h.own
  record := by
    rintro w v ⟨rfl, h⟩ e he
    exact ⟨rfl, h.record he⟩
  answered := by
    rintro w v ⟨rfl, h⟩ i label op a b hab - -
    rw [Answer.renumber_id, Answer.renumber_id] at hab
    subst hab
    exact ⟨rfl, h.add rfl⟩
  mapLine := by
    rintro w v ⟨rfl, h⟩ g hg
    refine ⟨rfl, h.of_line rfl rfl (hg.config _) ?_ rfl rfl⟩
    intro s hs op hop
    obtain ⟨k, hk, within⟩ := hg.within _ s hs
    exact h.own k hk op (within hop)
  seat := by
    rintro w v ⟨rfl, h⟩ rule listener hl
    refine ⟨rfl, h.of_line rfl rfl rfl ?_ rfl rfl⟩
    have obeys : v.Obeys law := h.own
    exact obeys.seat rule hl
  enter := by
    rintro w v ⟨rfl, h⟩ op name - - i r
    exact ⟨rfl, h.enter name _⟩
  setReader := by
    rintro w v ⟨rfl, h⟩ op name - - i r
    exact ⟨rfl, h.mapShared rfl rfl⟩
  remark := by
    rintro w v ⟨rfl, h⟩ n
    exact ⟨rfl, h.add (Moment.step?_of_no_line _)⟩
  outward := by
    rintro w v ⟨rfl, h⟩ op hop ho call call'
    have step : ∀ next : ConnectionState, (v.check next).2.Attends c law P := h.check
    cases op with
    | dispose handle =>
      unfold Operation.run
      dsimp only
      split
      · exact ⟨rfl, rfl, h⟩
      · exact ⟨rfl, rfl, h.dispose _⟩
    | isActive handle =>
      unfold Operation.run
      dsimp only
      split <;> exact ⟨rfl, rfl, h⟩
    | create =>
      refine ⟨rfl, rfl, ?_⟩
      show v.create.2.Attends c law P
      unfold Desk.create
      have checked := h.check .created
      split
      case h_1 hv =>
        rw [hv] at checked
        exact checked
      case h_2 hv =>
        rw [hv] at checked
        refine Attends.step ?_ (fun _ => rfl) (kept.create hop)
        exact checked.of_line rfl rfl rfl checked.own rfl rfl
    | establish =>
      refine ⟨rfl, rfl, ?_⟩
      show v.establish.2.Attends c law P
      unfold Desk.establish
      have checked := h.check .established
      split
      case h_1 hv =>
        rw [hv] at checked
        exact checked
      case h_2 u hv =>
        rw [hv] at checked
        have resumed : u.resume.Attends c law P := by
          unfold Desk.resume
          split
          · exact checked
          · exact (checked.of_line (v := u.mapMux fun x => { x with dropRecord := none }) rfl rfl
              rfl checked.own rfl rfl).record rfl
        refine Attends.step ?_ (fun _ => rfl) (kept.establish hop)
        exact resumed.of_line rfl rfl rfl resumed.own rfl rfl
    | _ => cases ho

end Desk.Attends

/-! ## §4. Engines -/

/-- All lines of the engine keep the law, and what is to be kept of the barrier and of the steps
holds. -/
structure Engine.Attends (law : Operation → Prop)
    (P : Barrier → List (ConnectionId × Readiness) → Prop) (e : Engine) : Prop where
  obeys : ∀ l ∈ e.registry.lines, l.Obeys law
  kept : P e.shared.barrier e.shared.accepted

namespace Engine.Attends

variable {law : Operation → Prop} {P : Barrier → List (ConnectionId × Readiness) → Prop}
  {e : Engine}

theorem note (h : e.Attends law P) (n : Notice) : (e.note n).Attends law P where
  obeys := h.obeys
  kept := by
    show P e.shared.barrier (e.shared.add ⟨.noted n, none⟩).accepted
    rw [Shared.accepted_add, Moment.step?_of_no_line, Option.toList_none, List.append_nil]
    exact h.kept

/-- **What is to be kept survives errands within the law.** -/
theorem invariant (kept : Attendance law P) :
    Engine.Invariant (Errand.Keeps law) (Engine.Attends law P) where
  note n h := h.note n
  register {e config} names _ h := by
    refine ⟨fun l hl => ?_, h.kept⟩
    rcases List.mem_append.mp hl with hl | hl
    · exact h.obeys l hl
    · rw [List.mem_singleton.mp hl]
      intro s hs
      cases hs
  close hclose c := Operation.keeps_of_weight rfl hclose
  work {e c w a} hw hc ha h := by
    have attends : w.Attends c law P := by
      refine ⟨hw.holds, ?_, ?_⟩
      · rw [hw.lines]
        exact h.obeys
      · rw [hw.shared]
        exact h.kept
    obtain ⟨-, -, worked⟩ := (Desk.Attends.unison kept c).work ⟨rfl, attends⟩ hc ha
    exact ⟨worked.obeys, worked.kept⟩

end Engine.Attends

/-! ## §5. Who is pending -/

/-- The operation is one of the steps that the barrier may expect. -/
def Operation.steps : Operation → Bool
  | create => true
  | establish => true
  | _ => false

/-- No step is taken outside of a step. -/
abbrev Operation.Steady (op : Operation) : Prop := op.steps = false

/-- What was expected and has not been written down is pending, and the announced count is right. -/
theorem Attendance.pending {start : List (ConnectionId × Readiness)}
    (hs : (start.map Prod.fst).Nodup) : Attendance (fun _ => True) fun b steps =>
      b.pending = start.filter (fun p => p ∉ steps) ∧ b.announced = b.pending.length := by
  have arrives : ∀ (e : Readiness) {b : Barrier} {steps : List (ConnectionId × Readiness)},
      b.pending = start.filter (fun p => p ∉ steps) ∧ b.announced = b.pending.length →
      ∀ c : ConnectionId, (b.arrive c e).2.pending =
        start.filter (fun p => p ∉ steps ++ [(c, e)]) ∧
          (b.arrive c e).2.announced = (b.arrive c e).2.pending.length := by
    intro e b steps hb c
    obtain ⟨pending, announced⟩ := hb
    refine ⟨?_, Barrier.announced_arrive announced c e⟩
    have distinct : (b.pending.map Prod.fst).Nodup := by
      rw [pending]
      exact hs.sublist (List.filter_sublist.map Prod.fst)
    rw [Barrier.pending_arrive distinct, pending, List.filter_filter]
    refine List.filter_congr fun p _ => ?_
    simp [Bool.and_comm]
  exact ⟨fun _ => arrives .created, fun _ => arrives .established⟩

/-- Nobody becomes pending. -/
theorem Attendance.released : Attendance (fun _ => True) fun b _ => b.pending = [] := by
  have arrives : ∀ (e : Readiness) {b : Barrier}, b.pending = [] →
      ∀ c : ConnectionId, (b.arrive c e).2.pending = [] := by
    intro e b hb c
    rw [Barrier.pending_arrive (by simp [hb]), hb]
    rfl
  exact ⟨fun _ _ _ h => arrives .created h, fun _ _ _ h => arrives .established h⟩

/-- Without a step there is none to write down. -/
theorem Attendance.steady (steps : List (ConnectionId × Readiness)) :
    Attendance Operation.Steady fun _ s => s = steps where
  create h := by cases h
  establish h := by cases h

namespace Desk

/-- A step is checked first; one that is refused is not written down. -/
theorem accepted_of_check {next : ConnectionState} {e : Readiness} {g : Desk → Desk}
    (hg : ∀ v : Desk, (g v).shared.accepted = v.shared.accepted ++ [(v.line.id, e)]) (w : Desk) :
    (match w.check next with
      | (.error x, v) => ((.error x : Except LinkError Unit), v)
      | (.ok _, v) => (.ok (), g v)).2.shared.accepted =
      w.shared.accepted ++ if w.line.state.canBecome next then [(w.line.id, e)] else [] := by
  have noted : ∀ n : Notice, (Event.noted n).isPlain = true →
      (w.note n).shared.accepted = w.shared.accepted := by
    intro n hn
    refine (Shared.accepted_add _ _).trans ?_
    rw [Moment.step?_of_plain hn]
    exact List.append_nil _
  by_cases hb : w.line.state.canBecome next = true
  · rw [if_pos hb]
    rcases check_cases next w with ⟨x, hx⟩ | ⟨-, hx | hx⟩
    · unfold check ConnectionState.transition at hx
      rw [if_pos hb] at hx
      cases hx
    · rw [hx]
      exact hg w
    · rw [hx, ← noted .stateTransition rfl]
      exact hg (w.note .stateTransition)
  · rw [if_neg hb, List.append_nil]
    rcases check_cases next w with ⟨x, hx⟩ | ⟨allowed, -⟩
    · rw [hx]
      exact noted .transitionRejected rfl
    · exact absurd allowed hb

/-- A connection is created if its life allows it, and then the step is written down. -/
theorem accepted_create (w : Desk) : w.create.2.shared.accepted = w.shared.accepted ++
    if w.line.state.canBecome .created then [(w.line.id, .created)] else [] :=
  accepted_of_check (fun v => accepted_step (fun _ => rfl) (v.setState .created)) w

/-- A connection comes up if its life allows it, and then the step is written down. -/
theorem accepted_establish (w : Desk) : w.establish.2.shared.accepted = w.shared.accepted ++
    if w.line.state.canBecome .established then [(w.line.id, .established)] else [] := by
  have resumed : ∀ v : Desk, v.resume.shared.accepted = v.shared.accepted ∧
      v.resume.line.id = v.line.id := by
    intro v
    unfold resume
    split
    · exact ⟨rfl, rfl⟩
    · exact ⟨(Shared.accepted_add _ _).trans (List.append_nil _), rfl⟩
  refine accepted_of_check (g := fun v => v.resume.comeUp.arrive .established) (fun v => ?_) w
  rw [← (resumed v).1, ← (resumed v).2]
  exact accepted_step (fun _ => rfl)
    ((v.resume.setState .established).mapLine fun l => { l with logoutText := none })

end Desk

/-- A report is the operation that it stands for, as far as steps go. -/
theorem Engine.Hands.accepted_report {e : Engine} {c : ConnectionId} {w : Desk}
    (h : e.Hands c w) (r : Report) : (e.act (.report c r)).shared.accepted =
      (r.operation.exec w).2.shared.accepted := by
  rw [(h.work (a := .report c r) rfl).2]
  rcases Errand.work_report c r w with hr | ⟨n, hr⟩ <;> rw [hr]
  · rfl
  · refine (Shared.accepted_add _ _).trans ?_
    rw [Moment.step?_of_no_line]
    exact List.append_nil _

namespace Barrier

/-- A wait has no end if somebody is pending and its limit is no deadline. -/
theorem isEndless_iff {b : Barrier} {k : Clock} {limit : Option Duration} :
    b.isEndless k limit = true ↔ b.pending ≠ [] ∧ ∃ t, limit = some t ∧ k.deadline? t = none := by
  unfold isEndless
  rw [Bool.and_eq_true, Option.any_eq_true]
  simp

/-- At its end a wait fails exactly if someone is pending. -/
theorem verdict_eq (b : Barrier) (t : Duration) : b.verdict (some t) =
    if b.pending = [] then .ok () else .error (.startupTimeout t b.pendingNames) := by
  unfold verdict timedOut
  simp [List.isEmpty_iff]

theorem waitAnnounced_eq {b : Barrier} (h : b.announced = b.pending.length)
    (limit : Option Duration) : b.waitAnnounced limit = b.verdict limit := by
  unfold waitAnnounced verdict
  cases limit with
  | none => rfl
  | some t =>
    rw [h]
    simp [List.isEmpty_iff]

end Barrier

/-- **What a wait answers.**  It goes by the deadline that the clock makes of its limit; where there
is none, it ends only if nobody is pending. -/
theorem Engine.answer_awaitStartupFrom (e : Engine) (k : Clock) (t : Duration) :
    (e.awaitStartupFrom k (some t)).1 =
      if e.shared.barrier.pending = [] then some (.ok ())
      else (k.deadline? t).map fun _ =>
        .error (.startupTimeout t e.shared.barrier.pendingNames) := by
  unfold awaitStartupFrom
  by_cases released : e.shared.barrier.pending = []
  · have ends : ¬ e.shared.barrier.isEndless k (some t) = true :=
      fun h => (Barrier.isEndless_iff.mp h).1 released
    rw [if_neg ends, if_pos released]
    show some (e.shared.barrier.verdict (some t)) = _
    rw [Barrier.verdict_eq, if_pos released]
  · rw [if_neg released]
    cases hd : k.deadline? t with
    | none => exact congrArg Prod.fst (if_pos (Barrier.isEndless_iff.mpr ⟨released, t, rfl, hd⟩))
    | some deadline =>
      have ends : ¬ e.shared.barrier.isEndless k (some t) = true := by
        intro h
        obtain ⟨-, t', ht, hnone⟩ := Barrier.isEndless_iff.mp h
        cases ht
        rw [hd] at hnone
        cases hnone
      rw [if_neg ends]
      show some (e.shared.barrier.verdict (some t)) = _
      rw [Barrier.verdict_eq, if_neg released]
      rfl

namespace EngineBuilder

end EngineBuilder

end Correlator
