/-
  Correlator.Proofs.Endings — HOW A SUBSCRIPTION ENDS.

  A sink leaves its active phase in one place and the stream of its
  subscription ends in another.  A drop and a close do both: the sink leaves
  its phase, and the stream takes the callback.  The owner of a subscription
  does both too.  A disposal through a handle does the first alone, so the
  reader of such a subscription is told what is in its buffer and then nothing,
  until its owner ends the subscription.

  Main results:
    * `Line.Settled` — a sink that is not active has told its reader the end,
      or was disposed,
    * `Course.settled` — every course,
    * `Course.sink?_of_inactive`, `Dealing.sink?_of_inactive` — what is left of
      a sink stays as it is, but for what its reader takes,
    * `Request.silent_serveAll` — a reader that waits for good,
    * `Request.settled_serveAll` — every run.
-/
import Correlator.Proofs.Grammar
namespace Correlator

/-! ## §1. Streams that have not ended -/

/-- A subscription listens at the sink, and its stream has not ended. -/
def Sink.IsOpen (s : Sink) : Prop := ∃ q, s.listener = .stream q ∧ q.ending = none

theorem Stream.ending_finish_ne_none (e : Ending) (q : Stream) : (q.finish e).ending ≠ none := by
  unfold finish
  cases q.ending <;> simp

/-- A stream without a message tells its reader the end, if it has one. -/
theorem Stream.poll_of_ended {q : Stream} (hq : q.queue = []) (he : q.ending ≠ none) :
    ∃ e, q.poll.1 = some (.error (endingError e)) := by
  unfold poll
  rw [hq]
  cases h : q.ending with
  | some e => exact ⟨e, rfl⟩
  | none => exact absurd h he

/-- A stream without a message and without an end tells nothing. -/
theorem Stream.poll_of_open {q : Stream} (hq : q.queue = []) (he : q.ending = none) :
    q.poll = (none, q) := by
  unfold poll
  rw [hq, he]

/-- A last callback ends the stream that takes it. -/
theorem Listener.not_isOpen_of_next_finale {l : Listener} {phase : Phase} {c : Call}
    (hf : Finale phase c) {q : Stream} (h : (l.next c).2 = .stream q) : q.ending ≠ none := by
  cases l with
  | scripted label script => cases h
  | stream q' =>
    cases h
    cases hf with
    | dropped d => exact Stream.ending_finish_ne_none _ q'
    | closed => exact Stream.ending_finish_ne_none _ q'

namespace Sink

variable {s : Sink} {f g : Stream → Stream}

theorem mapBuffer_id : s.mapBuffer (fun q => q) = s := by
  obtain ⟨number, rule, phase, listener⟩ := s
  cases listener <;> rfl

theorem mapBuffer_comp : (s.mapBuffer f).mapBuffer g = s.mapBuffer (g ∘ f) := by
  obtain ⟨number, rule, phase, listener⟩ := s
  cases listener <;> rfl

theorem phase_mapBuffer : (s.mapBuffer f).phase = s.phase := by
  unfold mapBuffer
  split <;> rfl

/-- A change of the buffer that opens no stream again. -/
theorem IsOpen.of_mapBuffer (hf : ∀ q, (f q).ending = none → q.ending = none)
    (h : (s.mapBuffer f).IsOpen) : s.IsOpen := by
  obtain ⟨q, hq, ho⟩ := h
  unfold mapBuffer at hq
  split at hq
  case h_1 q' hq' =>
    cases hq
    exact ⟨q', hq', hf q' ho⟩
  case h_2 hl =>
    rw [hl] at hq
    cases hq

theorem not_isOpen_finish (e : Ending) : ¬ (s.mapBuffer (Stream.finish e)).IsOpen := by
  rintro ⟨q, hq, ho⟩
  unfold mapBuffer at hq
  split at hq
  case h_1 q' hq' =>
    cases hq
    exact Stream.ending_finish_ne_none e q' ho
  case h_2 hl =>
    rw [hl] at hq
    cases hq

end Sink

/-! ## §2. Sinks that are not active -/

/-- A sink that is no longer active has told the end to its stream, or a disposal of it has
returned that changed something. -/
def Line.Settled (h : List Moment) (l : Line) : Prop :=
  ∀ i s, l.sink? i = some s → s.IsOpen → s.phase = .active ∨
    s.phase = .disposed ∧ true ∈ History.disposalsAt l.id i h

namespace Line.Settled

variable {h : List Moment} {l k : Line}

/-- Sinks that are open and not active were so before. -/
theorem carry (hl : l.Settled h) (hid : k.id = l.id) (news : List Moment)
    (hk : ∀ i s, k.sink? i = some s → s.IsOpen → s.phase = .active ∨
      ∃ s', l.sink? i = some s' ∧ s'.IsOpen ∧ s'.phase = s.phase) : k.Settled (h ++ news) := by
  intro i s hs ho
  rcases hk i s hs ho with ha | ⟨s', hs', ho', hp⟩
  · exact .inl ha
  · rw [← hp, hid, History.disposalsAt, List.filterMap_append]
    exact (hl i s' hs' ho').imp_right fun ⟨hd, hb⟩ => ⟨hd, List.mem_append_left _ hb⟩

/-- The sinks stay as they are. -/
theorem of_sinks (hl : l.Settled h) (hid : k.id = l.id) (hs : k.mux.sinks = l.mux.sinks)
    (news : List Moment) : k.Settled (h ++ news) := by
  refine hl.carry hid news ?_
  intro i s hi ho
  refine .inr ⟨s, ?_, ho, rfl⟩
  rw [← hi]
  unfold sink?
  rw [hs]

/-- One sink changes, and stays open and inactive only if it was. -/
theorem mapSink (hl : l.Settled h) (i : Nat) {f : Sink → Sink} (hid : k.id = l.id)
    (hs : k.mux.sinks = l.mux.sinks.modify i f) (news : List Moment)
    (hf : ∀ s, l.sink? i = some s → (f s).IsOpen → (f s).phase = .active ∨
      s.IsOpen ∧ s.phase = (f s).phase) : k.Settled (h ++ news) := by
  refine hl.carry hid news ?_
  intro j s hj ho
  unfold sink? at hj
  rw [hs, List.getElem?_modify] at hj
  obtain ⟨s', hs', rfl⟩ := Option.map_eq_some_iff.mp hj
  by_cases hij : i = j
  · subst hij
    rw [if_pos rfl] at ho ⊢
    exact (hf s' hs' ho).imp_right fun h => ⟨s', hs', h⟩
  · rw [if_neg hij] at ho ⊢
    exact .inr ⟨s', hs', ho, rfl⟩

/-- A new sink is active. -/
theorem concat (hl : l.Settled h) {s : Sink} (hid : k.id = l.id)
    (hs : k.mux.sinks = l.mux.sinks ++ [s]) (ha : s.phase = .active) (news : List Moment) :
    k.Settled (h ++ news) := by
  refine hl.carry hid news ?_
  intro j s' hj ho
  unfold sink? at hj
  rw [hs, List.getElem?_append] at hj
  split at hj
  case isTrue => exact .inr ⟨s', hj, ho, rfl⟩
  case isFalse =>
    obtain ⟨-, rfl⟩ : _ ∧ s = s' := by
      rw [List.getElem?_singleton] at hj
      split at hj
      · exact ⟨trivial, Option.some.inj hj⟩
      · cases hj
    exact .inl ha

end Line.Settled

/-! ## §3. Disposals -/

/-- A disposal of an active sink changes something. -/
theorem Line.disposeAt_of_active {l : Line} {i : Nat} {s : Sink} (hs : l.sink? i = some s)
    (ha : s.phase = .active) : (l.disposeAt i).1 = true := by
  have active : l.isActiveAt i = true := by
    unfold isActiveAt
    rw [hs]
    exact Sink.isActive_iff.mpr ha
  unfold disposeAt
  dsimp only
  split
  · exact active
  · simp [active]

namespace Desk

/-- The disposal of a sink of the line in hand, and what it answered. -/
theorem mem_disposalsAt_dispose {w : Desk} {s : SinkRef} (hown : w.line.id = s.connection)
    {k : Sink} (hk : w.sink? s.place = some k) (ha : k.phase = .active) :
    true ∈ History.disposalsAt w.line.id s.place (w.dispose s).2.shared.history := by
  obtain ⟨news, hh, -⟩ := history_dispose s w
  have hchanged : (w.dispose s).1 = true := by
    rw [dispose_fst_of_own hown]
    exact Line.disposeAt_of_active hk ha
  rw [hh, History.disposalsAt, List.filterMap_append]
  refine List.mem_append_right _ ?_
  have there : ((w.dispose s).2.line.sink? s.place).isSome = true := by
    rw [line_dispose, if_pos hown]
    unfold Line.sink?
    rw [Line.sinks_disposeAt, List.getElem?_modify]
    have hk : w.line.mux.sinks[s.place]? = some k := hk
    rw [hk]
    rfl
  simp [Moment.disposalAt?, hchanged, there, hown]

/-- A disposal changes only an active sink, and its answer is on the trail then. -/
theorem settled_dispose (s : SinkRef) {w : Desk} (hw : w.line.Settled w.shared.history) :
    (w.dispose s).2.line.Settled (w.dispose s).2.shared.history := by
  obtain ⟨f, hsinks, hf⟩ := sinks_dispose s w
  have hid : (w.dispose s).2.line.id = w.line.id :=
    congrArg ConnectionConfig.id (kept_dispose Line.config_disposeAt s w)
  have before : ∀ j k, w.line.sink? j = some k → k.IsOpen → k.phase = .active ∨
      k.phase = .disposed ∧
        true ∈ History.disposalsAt w.line.id j (w.dispose s).2.shared.history := by
    intro j k hk ho
    obtain ⟨news, hh, -⟩ := history_dispose s w
    rw [hh, List.append_assoc, History.disposalsAt, List.filterMap_append]
    exact (hw j k hk ho).imp_right fun ⟨hd, hb⟩ => ⟨hd, List.mem_append_left _ hb⟩
  intro j k' hj ho
  rw [hid]
  rw [Line.sink?, hsinks, List.getElem?_modify] at hj
  obtain ⟨k, hk, rfl⟩ := Option.map_eq_some_iff.mp hj
  split at ho
  case isTrue hplace =>
    subst hplace
    rw [if_pos rfl]
    rcases hf k with h | ⟨hown, ha, h⟩
    · rw [h] at ho ⊢
      exact before _ k hk ho
    · rw [h]
      exact .inr ⟨rfl, mem_disposalsAt_dispose hown hk ha⟩
  case isFalse hplace =>
    rw [if_neg hplace]
    exact before j k hk ho

end Desk

/-! ## §4. Courses -/

section

variable {law : Operation → Prop} {a b : Stage}

theorem Act.settled (h : Act law a b) (ha : a.desk.line.Settled a.desk.shared.history) :
    b.desk.line.Settled b.desk.shared.history := by
  have hid := h.path.id
  obtain ⟨news, hh⟩ := h.path.history
  rw [hh]
  cases h with
  | enlist => exact ha.concat hid rfl rfl news
  -- A sink that is refused is active until it is told.
  | refuse => exact ha.concat hid rfl rfl news
  | @deliver w owed i s m hs hactive =>
    refine ha.mapSink i hid (w.sinks_hear i s (.message m)) news ?_
    rintro k hk -
    have hk : w.sink? i = some k := hk
    rw [hs] at hk
    cases hk
    exact .inl hactive
  | @finish w owed i s phase c hs hactive hf =>
    have hsinks := (w.mapSink i fun k => { k with phase }).sinks_hear i { s with phase } c
    refine ha.mapSink i hid (hsinks.trans (List.modify_modify_eq _ _ _ _)) news ?_
    -- The stream that takes the last callback has ended.
    rintro k - ⟨q, hq, hopen⟩
    exact absurd hopen (Listener.not_isOpen_of_next_finale hf hq)
  | pass => exact ha.of_sinks hid rfl news
  | shut => exact ha.of_sinks hid rfl news
  | dispose s =>
    rw [← hh]
    exact Desk.settled_dispose s ha

/-- **Whatever ends a sink on a run tells its reader**, unless it is a disposal. -/
theorem Course.settled (h : Course law a b) (ha : a.desk.line.Settled a.desk.shared.history) :
    b.desk.line.Settled b.desk.shared.history := by
  have carry : ∀ {a b : Stage}, Course law a b → b.desk.line.mux.sinks = a.desk.line.mux.sinks →
      a.desk.line.Settled a.desk.shared.history → b.desk.line.Settled b.desk.shared.history := by
    intro a b h hs ha
    obtain ⟨news, hh⟩ := h.path.history
    rw [hh]
    exact ha.of_sinks h.path.id hs news
  induction h with
  | refl => exact ha
  | trans _ _ ih ik => exact ik (ih ha)
  | aside h hm => exact carry (.aside h hm) (congrArg Multiplexer.sinks h.beside.mux) ha
  | turn h hm => exact carry (.turn h hm) (congrArg Multiplexer.sinks h.beside.mux) ha
  | act h => exact h.settled ha
  | comeUp h => exact carry (.comeUp h) (Desk.sinks_resume _) ha
  | resume h => exact carry (.resume h) (Desk.sinks_resume _) ha
  | @broadcast w u v owed d h _ ih =>
    -- Sinks that are drained keep their phase, and the callbacks inside tell them.
    obtain ⟨news, hh⟩ := (h.path owed).history
    have drained : (u.mapMux fun x => { x with dropRecord := some d, active := [] }).line.Settled
        u.shared.history := by
      rw [hh]
      exact ha.of_sinks (h.path owed).id h.sinks news
    have told := ih drained
    show v.line.Settled (v.note .dropBroadcast).shared.history
    rw [Desk.note, Desk.history_record]
    exact told.of_sinks rfl rfl _

/-- What the multiplexer does leaves a sink alone that is no longer active. -/
theorem Act.sink?_of_inactive (h : Act law a b) {i : Nat} {s : Sink}
    (hs : a.desk.sink? i = some s) (hp : s.phase ≠ .active) : b.desk.sink? i = some s := by
  have hs : a.desk.line.mux.sinks[i]? = some s := hs
  show b.desk.line.mux.sinks[i]? = some s
  -- Another sink is changed, and that one is active.
  have other : ∀ {j k}, a.desk.line.mux.sinks[j]? = some k → k.phase = .active → j ≠ i := by
    rintro j k hk ha rfl
    rw [hs] at hk
    cases hk
    exact hp ha
  cases h with
  | enlist => exact (List.getElem?_append_left (List.getElem?_eq_some_iff.mp hs).1).trans hs
  | refuse => exact (List.getElem?_append_left (List.getElem?_eq_some_iff.mp hs).1).trans hs
  | @deliver w owed j k m hk ha =>
    rw [w.sinks_hear, List.getElem?_modify_ne _ _ (other hk ha)]
    exact hs
  | @finish w owed j k phase c hk ha =>
    show ((w.mapSink j fun k => { k with phase }).hear j _ c).line.mux.sinks[i]? = some s
    have hsinks := (w.mapSink j fun k => { k with phase }).sinks_hear j { k with phase } c
    rw [hsinks.trans (List.modify_modify_eq _ _ _ _), List.getElem?_modify_ne _ _ (other hk ha)]
    exact hs
  | pass => exact hs
  | shut => exact hs
  | @dispose w owed r =>
    obtain ⟨f, hsinks, hf⟩ := Desk.sinks_dispose r w
    rw [hsinks, List.getElem?_modify, hs]
    have unchanged : f s = s := (hf s).resolve_right fun ⟨_, ha, _⟩ => hp ha
    simp [unchanged]

/-- **A sink that is no longer active stays as it is**, whatever happens. -/
theorem Course.sink?_of_inactive (h : Course law a b) {i : Nat} {s : Sink}
    (hs : a.desk.sink? i = some s) (hp : s.phase ≠ .active) : b.desk.sink? i = some s := by
  have carry : ∀ {w v : Desk}, v.line.mux.sinks = w.line.mux.sinks → w.sink? i = some s →
      v.sink? i = some s := by
    intro w v hm hs
    unfold Desk.sink? Line.sink?
    rw [hm]
    exact hs
  induction h with
  | refl => exact hs
  | trans _ _ ih ik => exact ik (ih hs)
  | aside h => exact carry (congrArg Multiplexer.sinks h.beside.mux) hs
  | turn h => exact carry (congrArg Multiplexer.sinks h.beside.mux) hs
  | act h => exact h.sink?_of_inactive hs hp
  | comeUp => exact carry (Desk.sinks_resume _) hs
  | resume => exact carry (Desk.sinks_resume _) hs
  | broadcast h _ ih => exact ih (carry h.sinks hs)

end

/-! ## §5. Whatever is asked for -/

/-- A change of a buffer that opens no stream again leaves all sinks settled. -/
theorem Desk.settled_mapBuffer {w : Desk} (hw : w.line.Settled w.shared.history) (s : SinkRef)
    {f : Stream → Stream} (hf : ∀ q, (f q).ending = none → q.ending = none) :
    (w.mapSinkAt s fun k => k.mapBuffer f).line.Settled
      (w.mapSinkAt s fun k => k.mapBuffer f).shared.history := by
  rw [line_mapSinkAt, shared_mapSinkAt]
  split
  case isFalse => exact hw
  case isTrue =>
    rw [← List.append_nil w.shared.history]
    refine hw.mapSink s.place (k := w.line.mapMux fun x => x.mapSink s.place (Sink.mapBuffer f))
      rfl rfl [] ?_
    intro k _ ho
    exact .inr ⟨ho.of_mapBuffer hf, Sink.phase_mapBuffer.symm⟩

namespace Dealing

variable {owners : Bool} {w v : Desk}

theorem settled (h : Dealing owners w v) (hw : w.line.Settled w.shared.history) :
    v.line.Settled v.shared.history := by
  induction h with
  | refl => exact hw
  | trans _ _ ih ik => exact ik (ih hw)
  | operate h => exact h.settled hw
  | enter => exact hw
  | release =>
    rw [← List.append_nil (Desk.shared _).history]
    exact hw.of_sinks rfl rfl []
  | read s hf => exact Desk.settled_mapBuffer hw s hf.ended
  | finish s =>
    exact Desk.settled_mapBuffer hw s fun q h => absurd h (Stream.ending_finish_ne_none _ q)

/-- Serving adds to what has happened. -/
theorem history (h : Dealing owners w v) :
    ∃ news, v.shared.history = w.shared.history ++ news := by
  have same : ∀ {w v : Desk}, v.shared.history = w.shared.history →
      ∃ news, v.shared.history = w.shared.history ++ news :=
    fun h => ⟨[], h.trans (List.append_nil _).symm⟩
  induction h with
  | refl => exact same rfl
  | trans _ _ ih ik =>
    obtain ⟨news, hn⟩ := ih
    obtain ⟨more, hm⟩ := ik
    exact ⟨news ++ more, by rw [hm, hn, List.append_assoc]⟩
  | operate h => exact h.path.history
  | enter => exact same rfl
  | release => exact same rfl
  | read s => exact same (congrArg Shared.history (Desk.shared_mapSinkAt _ _ _))
  | finish s => exact same (congrArg Shared.history (Desk.shared_mapSinkAt _ _ _))

/-- **A sink that is no longer active keeps all but its buffer**, whatever is asked for, and a stream
that has ended is not opened again. -/
theorem sink?_of_inactive (h : Dealing owners w v) {i : Nat} {s : Sink} (hs : w.sink? i = some s)
    (hp : s.phase ≠ .active) : ∃ f : Stream → Stream,
      (∀ q, (f q).ending = none → q.ending = none) ∧ v.sink? i = some (s.mapBuffer f) := by
  have same : ∀ {v : Desk} {s : Sink}, v.sink? i = some s → ∃ f : Stream → Stream,
      (∀ q, (f q).ending = none → q.ending = none) ∧ v.sink? i = some (s.mapBuffer f) :=
    fun h => ⟨fun q => q, fun _ h => h, by rw [h, Sink.mapBuffer_id]⟩
  have buffer : ∀ {w : Desk} {s : Sink} (r : SinkRef) {f : Stream → Stream},
      w.sink? i = some s → (∀ q, (f q).ending = none → q.ending = none) →
      ∃ f', (∀ q, (f' q : Stream).ending = none → q.ending = none) ∧
        (w.mapSinkAt r fun k => k.mapBuffer f).sink? i = some (s.mapBuffer f') := by
    intro w s r f hs hf
    have sinks := Desk.sink?_mapSinkAt (i := i) r (fun k => k.mapBuffer f) w
    split at sinks
    · exact ⟨f, hf, by rw [sinks, hs, Option.map_some]⟩
    · exact same (sinks.trans hs)
  induction h generalizing s with
  | refl => exact same hs
  | trans _ _ ih ik =>
    obtain ⟨f, hf, hu⟩ := ih hs hp
    obtain ⟨g, hg, hv⟩ := ik hu (by rw [Sink.phase_mapBuffer]; exact hp)
    exact ⟨g ∘ f, fun q h => hf q (hg (f q) h), by rw [hv, Sink.mapBuffer_comp]⟩
  | operate h => exact same (h.sink?_of_inactive hs hp)
  | enter => exact same hs
  | release => exact same hs
  | read r hf => exact buffer r hs hf.ended
  | finish r => exact buffer r hs fun q h => absurd h (Stream.ending_finish_ne_none _ q)

/-- A sink that is no longer active, and whose reader has nothing to read, stays as it is unless
owners end subscriptions. -/
theorem sink?_of_silent (h : Dealing false w v) {i : Nat} {s : Sink} (hs : w.sink? i = some s)
    (hp : s.phase ≠ .active) {q : Stream} (hl : s.listener = .stream q) (hq : q.queue = [])
    (he : q.ending = none) : v.sink? i = some s := by
  induction h with
  | refl => exact hs
  | trans _ _ ih ik => exact ik (ih hs)
  | operate h => exact h.sink?_of_inactive hs hp
  | enter => exact hs
  | release => exact hs
  | @read w r f hf =>
    have unchanged : s.mapBuffer f = s := by
      obtain ⟨number, rule, phase, listener⟩ := s
      cases hl
      show Sink.mk number rule phase (.stream (f q)) = _
      rw [hf.silent q hq he]
    have hs : w.line.sink? i = some s := hs
    show (w.mapSinkAt r _).line.sink? i = some s
    rw [Desk.line_mapSinkAt]
    split
    case isFalse => exact hs
    case isTrue =>
      rw [Line.sink?_mapSink, hs, Option.map_some, unchanged, ite_self]
  | finish _ h => cases h

end Dealing

/-! ## §6. Owners, and who else disposes -/

namespace Desk

theorem shared_poll (s : SinkRef) (w : Desk) : (w.poll s).2.shared = w.shared := by
  unfold poll
  split
  · rfl
  · exact shared_mapSinkAt _ _ _

theorem shared_receive (name : String) (w : Desk) : (w.receive name).2.shared = w.shared := by
  unfold receive
  split
  · rfl
  · exact shared_poll _ w

/-- The owner of a subscription ends it: its sink is not active and its stream has ended. -/
theorem ended_endSubscription {i : Nat} {w : Desk} {s : Sink}
    (hs : (w.endSubscription ⟨w.line.id, i⟩).2.sink? i = some s) :
    s.phase ≠ .active ∧ ¬ s.IsOpen := by
  -- The stream is looked up by the connection, which a disposal leaves as it is.
  have hid : (w.dispose ⟨w.line.id, i⟩).2.line.id = w.line.id :=
    congrArg ConnectionConfig.id (kept_dispose Line.config_disposeAt _ w)
  have sinks := sink?_mapSinkAt (i := i) ⟨w.line.id, i⟩
    (fun k => k.mapBuffer (Stream.finish .closed)) (w.dispose ⟨w.line.id, i⟩).2
  rw [hid, if_pos rfl] at sinks
  obtain ⟨k, hk, rfl⟩ := Option.map_eq_some_iff.mp (sinks.symm.trans hs)
  rw [Sink.phase_mapBuffer]
  exact ⟨inactive_dispose hk, Sink.not_isOpen_finish .closed⟩

/-- The owner of a subscription disposes no other sink, and his own is there. -/
theorem disposal_endSubscription {c : ConnectionId} {i : Nat} {w : Desk} {s : SinkRef}
    {news : List Moment}
    (hh : (w.endSubscription s).2.shared.history = w.shared.history ++ news)
    (hd : true ∈ History.disposalsAt c i news) :
    s = ⟨c, i⟩ ∧ ∃ k, (w.endSubscription s).2.sink? i = some k := by
  obtain ⟨notes, hdispose, hn⟩ := history_dispose s w
  have hend : (w.endSubscription s).2.shared.history = (w.dispose s).2.shared.history :=
    congrArg Shared.history (shared_mapSinkAt _ _ _)
  rw [hdispose, hh, List.append_assoc] at hend
  rw [List.append_cancel_left hend] at hd
  -- The disposal is the only moment that tells of one.
  obtain ⟨x, hx, hanswer⟩ := List.mem_filterMap.mp hd
  rcases List.mem_append.mp hx with hx | hx
  · obtain ⟨l, rfl, -⟩ := hn x hx
    cases hanswer
  · rw [List.mem_singleton.mp hx] at hanswer
    unfold Moment.disposalAt? at hanswer
    dsimp only at hanswer
    split at hanswer
    case isFalse => cases hanswer
    case isTrue h =>
      obtain ⟨k, hk⟩ := Option.isSome_iff_exists.mp h.2
      have sinks := sink?_mapSinkAt (i := i) s (fun k => k.mapBuffer (Stream.finish .closed))
        (w.dispose s).2
      refine ⟨h.1, ?_⟩
      split at sinks
      · exact ⟨_, sinks.trans (congrArg (Option.map _) hk)⟩
      · exact ⟨k, sinks.trans hk⟩

/-- The sink and its stream are still there then. -/
theorem stream_endSubscription {i : Nat} {w : Desk} {s : Sink} {q : Stream}
    (hs : w.sink? i = some s) (hl : s.listener = .stream q) : ∃ s' q',
      (w.endSubscription ⟨w.line.id, i⟩).2.sink? i = some s' ∧ s'.listener = .stream q' := by
  obtain ⟨f, hsinks, hf⟩ := sinks_dispose ⟨w.line.id, i⟩ w
  have disposed : (w.dispose ⟨w.line.id, i⟩).2.sink? i = some (f s) := by
    have hs : w.line.mux.sinks[i]? = some s := hs
    show (w.dispose ⟨w.line.id, i⟩).2.line.mux.sinks[i]? = _
    rw [hsinks, List.getElem?_modify_eq, hs]
    rfl
  have listens : (f s).listener = .stream q := by
    rcases hf s with h | ⟨-, -, h⟩ <;> rw [h] <;> exact hl
  have sinks := sink?_mapSinkAt (i := i) ⟨w.line.id, i⟩
    (fun k => k.mapBuffer (Stream.finish .closed)) (w.dispose ⟨w.line.id, i⟩).2
  rw [disposed, Option.map_some, Sink.mapBuffer_of_stream listens] at sinks
  split at sinks
  · exact ⟨_, _, sinks, rfl⟩
  · exact ⟨_, _, sinks, listens⟩

end Desk

namespace Request

/-- The request may dispose a sink otherwise than its owner does: through a handle, in an operation
and the callbacks that it sets off or by the multiplexer, or because a reader goes away. -/
def mayDispose : Request → Bool
  | operation _ => true
  | disposeByMultiplexer _ => true
  | giveUpSubscription _ => true
  | _ => false

variable {c : ConnectionId} {i : Nat} {w : Desk} {news : List Moment}

/-- A request that disposes nothing leaves no trace of itself. -/
theorem history_serve {r : Request} (hd : r.mayDispose = false) (he : r.isEnding = false)
    (w : Desk) : (r.serve w).shared.history = w.shared.history := by
  cases r with
  | operation => cases hd
  | disposeByMultiplexer => cases hd
  | giveUpSubscription => cases hd
  | disposeSubscription => cases he
  | releaseMultiplexer =>
    show (Operation.onMultiplexer w _).2.shared.history = _
    unfold Operation.onMultiplexer
    split <;> rfl
  | receive name => exact congrArg Shared.history (Desk.shared_receive name w)
  | receiveWithin name limit =>
    have read := Desk.shared_receive name w
    show (w.receiveWithin name limit).2.shared.history = _
    unfold Desk.receiveWithin
    split
    case h_1 h =>
      rw [h] at read
      exact congrArg Shared.history read
    case h_2 h =>
      rw [h] at read
      exact congrArg Shared.history read
  | beginReceive name =>
    show (w.beginReceive name).2.shared.history = _
    unfold Desk.beginReceive
    split
    case h_1 => rfl
    case h_2 s _ =>
      have read := Desk.shared_poll s w
      split
      case h_1 v hv =>
        rw [hv] at read
        show v.shared.history = _
        rw [read]
      case h_2 v hv =>
        rw [hv] at read
        exact congrArg Shared.history read
  | pollReceive name =>
    show (w.pollReceive name).2.shared.history = _
    unfold Desk.pollReceive
    split
    case h_1 => rfl
    case h_2 s _ =>
      have read := Desk.shared_poll s w
      split
      case h_1 v hv =>
        rw [hv] at read
        exact congrArg Shared.history read
      case h_2 v hv =>
        rw [hv] at read
        show v.shared.history = _
        rw [read]
  | drain name =>
    show (w.drain name).2.shared.history = _
    unfold Desk.drain
    split
    case h_1 => rfl
    case h_2 s _ =>
      split
      · rfl
      · exact congrArg Shared.history (Desk.shared_mapSinkAt _ _ _)

theorem serve_disposeSubscription {name : String} {s : SinkRef} (hn : w.idle name = .ok s) :
    (disposeSubscription name).serve w = (w.endSubscription s).2 := by
  show (w.disposeSubscription name).2 = _
  unfold Desk.disposeSubscription
  rw [hn]

/-- A request during which a sink is disposed is one that may do so, or that of the owner. -/
theorem disposal_serve {r : Request} (hh : (r.serve w).shared.history = w.shared.history ++ news)
    (hd : true ∈ History.disposalsAt c i news) :
    r.mayDispose = true ∨ ∃ name k, r = .disposeSubscription name ∧
      w.idle name = .ok ⟨c, i⟩ ∧ (r.serve w).sink? i = some k := by
  have silent : w.shared.history ++ news ≠ w.shared.history := by
    intro h
    rw [List.append_cancel_left (h.trans (List.append_nil _).symm)] at hd
    cases hd
  cases hm : r.mayDispose with
  | true => exact .inl rfl
  | false =>
    refine .inr ?_
    cases he : r.isEnding with
    | false => exact absurd (hh.symm.trans (history_serve hm he w)) silent
    | true =>
      cases r with
      | disposeSubscription name =>
        cases hs : w.idle name with
        | error e =>
          have unchanged : (disposeSubscription name).serve w = w := by
            show (w.disposeSubscription name).2 = w
            unfold Desk.disposeSubscription
            rw [hs]
          rw [unchanged] at hh
          exact absurd hh.symm silent
        | ok s =>
          rw [serve_disposeSubscription hs] at hh ⊢
          obtain ⟨rfl, k, hk⟩ := Desk.disposal_endSubscription hh hd
          exact ⟨name, k, rfl, hs, hk⟩
      | _ => cases he

/-- Among the requests that are served one after the other there is one, and not that of an owner,
during which the sink at a place is disposed. -/
def DisposedAside (c : ConnectionId) (i : Nat) (w : Desk) (rs : List Request) : Prop :=
  ∃ before r after news, rs = before ++ r :: after ∧ r.mayDispose = true ∧
    (r.serve (serveAll before w)).shared.history =
      (serveAll before w).shared.history ++ news ∧
    true ∈ History.disposalsAt c i news

/-- A disposal on the trail happened while one of the requests was served. -/
theorem exists_of_disposal {rs : List Request}
    (h : true ∈ History.disposalsAt c i (serveAll rs w).shared.history)
    (hfresh : true ∉ History.disposalsAt c i w.shared.history) :
    ∃ before r after news, rs = before ++ r :: after ∧
      (r.serve (serveAll before w)).shared.history =
        (serveAll before w).shared.history ++ news ∧
      true ∈ History.disposalsAt c i news := by
  induction rs generalizing w with
  | nil => exact absurd h hfresh
  | cons r rs ih =>
    have dealing : Dealing true w (r.serve w) := dealing (fun _ => rfl) w
    obtain ⟨news, hh⟩ := dealing.history
    by_cases hnews : true ∈ History.disposalsAt c i news
    · exact ⟨[], r, rs, news, rfl, hh, hnews⟩
    · have fresh : true ∉ History.disposalsAt c i (r.serve w).shared.history := by
        rw [hh, History.disposalsAt, List.filterMap_append]
        exact fun hmem => (List.mem_append.mp hmem).elim hfresh hnews
      obtain ⟨before, r', after, news', rfl, hh', hd'⟩ := ih h fresh
      exact ⟨r :: before, r', after, news', rfl, hh', hd'⟩

theorem serveAll_cons (r : Request) (rs : List Request) (w : Desk) :
    serveAll (r :: rs) w = serveAll rs (r.serve w) := rfl

theorem serveAll_append (rs more : List Request) (w : Desk) :
    serveAll (rs ++ more) w = serveAll more (serveAll rs w) :=
  List.foldl_append

theorem id_serveAll (rs : List Request) (w : Desk) : (serveAll rs w).line.id = w.line.id := by
  have dealing : Dealing true w (serveAll rs w) := dealing_serveAll (fun _ _ _ => rfl) w
  exact dealing.id

/-- Once its owner has ended a subscription, the sink is not active and the stream has ended, whatever
is asked for. -/
theorem ended_serveAll {name : String} (hn : w.idle name = .ok ⟨w.line.id, i⟩) {k : Sink}
    (hk : ((disposeSubscription name).serve w).sink? i = some k) (more : List Request) :
    ∃ f, (serveAll more ((disposeSubscription name).serve w)).sink? i = some (k.mapBuffer f) ∧
      (k.mapBuffer f).phase ≠ .active ∧ ¬ (k.mapBuffer f).IsOpen := by
  have later : Dealing true ((disposeSubscription name).serve w)
      (serveAll more ((disposeSubscription name).serve w)) :=
    dealing_serveAll (fun _ _ _ => rfl) _
  have ended := hk
  rw [serve_disposeSubscription hn] at ended
  obtain ⟨hp, ho⟩ := Desk.ended_endSubscription ended
  obtain ⟨f, hf, hv⟩ := later.sink?_of_inactive hk hp
  refine ⟨f, hv, ?_, fun open' => ho (open'.of_mapBuffer hf)⟩
  rw [Sink.phase_mapBuffer]
  exact hp

/-- A sink that is left open without being active was disposed, and not by its owner. -/
theorem disposedAside_of_isOpen (w : Desk) (config : ConnectionConfig) (capacity : Nat)
    {rs : List Request} {s : Sink}
    (hs : (serveAll rs (w.opening config capacity)).line.sink? i = some s)
    (hp : s.phase ≠ .active) (ho : s.IsOpen) :
    s.phase = .disposed ∧ DisposedAside config.id i (w.opening config capacity) rs := by
  let start := w.opening config capacity
  have opening : start.line.Settled start.shared.history := by
    intro i s hs
    cases hs
  have dealing : Dealing true start (serveAll rs start) := dealing_serveAll (fun _ _ _ => rfl) _
  have settled := dealing.settled opening
  rcases settled i s hs ho with ha | ⟨hd, hb⟩
  case inl => exact absurd ha hp
  case inr =>
    rw [id_serveAll] at hb
    obtain ⟨before, r, after, news, rfl, hh, hnews⟩ := exists_of_disposal hb List.not_mem_nil
    refine ⟨hd, before, r, after, news, rfl, ?_, hh, hnews⟩
    refine (disposal_serve hh hnews).resolve_right ?_
    -- If its owner had disposed it, its stream would have ended.
    rintro ⟨name, k, rfl, hn, hk⟩
    rw [← id_serveAll before start] at hn
    obtain ⟨f, hv, -, closed⟩ := ended_serveAll hn hk after
    rw [serveAll_append, serveAll_cons] at hs
    cases hs.symm.trans hv
    exact closed ho

/-! ## §7. Every run -/

/-- A reader that waits at a sink that was disposed through a handle waits for good: whatever is
asked for, unless owners end their subscriptions, there is nothing to read. -/
theorem silent_serveAll {w : Desk} {i : Nat} {s : Sink} {q : Stream} (hs : w.line.sink? i = some s)
    (hl : s.listener = .stream q) (hp : s.phase ≠ .active) (hq : q.queue = [])
    (he : q.ending = none) {rs : List Request} (hrs : ∀ r ∈ rs, r.isEnding = false) :
    (serveAll rs w).line.sink? i = some s ∧ q.poll = (none, q) := by
  have dealing : Dealing false w (serveAll rs w) :=
    dealing_serveAll (fun r hr h => absurd h (by simp [hrs r hr])) w
  exact ⟨dealing.sink?_of_silent hs hp hl hq he, Stream.poll_of_open hq he⟩

/-- **A reader whose sink is no longer active is told the end**, unless the sink was disposed and not
by the owner of the subscription.  On every run of requests from the first configuration of a line
on, with all that callbacks set off, this holds of every sink with a subscription.  A reader, whether
it waits or not, gets what the stream has to say.  Where the buffer is empty and the sink not active,
that is a drop or a close.  Or else it is nothing: then the sink was disposed in an operation or its
callbacks, by the multiplexer, or because its reader went away, and there is nothing to read as long
as the owner does not end the subscription, whatever else is asked for.  Once the owner has ended it,
the reader gets what is in the buffer and then a drop or a close, whatever is asked for. -/
theorem settled_serveAll (w : Desk) (config : ConnectionConfig) (capacity : Nat)
    (rs : List Request) :
    let start := w.opening config capacity
    let v := serveAll rs start
    ∀ i s q, v.line.sink? i = some s → s.listener = .stream q →
      ((∀ l ∈ w.before, l.id ≠ config.id) → ∀ name,
        (v.idle name = .ok ⟨config.id, i⟩ → (v.receive name).1 = .ok q.poll.1) ∧
        (v.waiting name = .ok ⟨config.id, i⟩ → (v.pollReceive name).1 = .ok q.poll.1)) ∧
      (s.phase ≠ .active → q.queue = [] →
        (∃ e, q.poll.1 = some (.error (Stream.endingError e))) ∨
        q.poll.1 = none ∧ s.phase = .disposed ∧ DisposedAside config.id i start rs ∧
          ∀ more, (∀ r ∈ more, r.isEnding = false) →
            (serveAll more v).line.sink? i = some s) ∧
      ∀ name, v.idle name = .ok ⟨config.id, i⟩ → ∀ more,
        let u := serveAll more (v.disposeSubscription name).2
        ∃ s' q', u.line.sink? i = some s' ∧ s'.listener = .stream q' ∧ s'.phase ≠ .active ∧
          (q'.queue = [] → ∃ e, q'.poll.1 = some (.error (Stream.endingError e))) := by
  intro start v i s q hs hl
  have own : v.line.id = config.id := id_serveAll rs start
  refine ⟨?_, ?_, ?_⟩
  · intro hfirst name
    have own : start.Holds config.id := ⟨hfirst, rfl⟩
    have held : v.Holds config.id := holds_serveAll own rs
    exact ⟨held.receive hs hl, held.pollReceive hs hl⟩
  · intro hp hq
    cases he : q.ending with
    | some e => exact .inl (Stream.poll_of_ended hq (by simp [he]))
    | none =>
      obtain ⟨hd, aside⟩ := disposedAside_of_isOpen w config capacity hs hp ⟨q, hl, he⟩
      exact .inr ⟨congrArg Prod.fst (Stream.poll_of_open hq he), hd, aside,
        fun more hmore => (silent_serveAll hs hl hp hq he hmore).1⟩
  · intro name hn more u
    rw [← own] at hn
    obtain ⟨k, p, hk, hkl⟩ := Desk.stream_endSubscription hs hl
    rw [← serve_disposeSubscription hn] at hk
    obtain ⟨f, hu, hp, closed⟩ := ended_serveAll hn hk more
    rw [Sink.mapBuffer_of_stream hkl] at hu hp closed
    exact ⟨_, f p, hu, rfl, hp, fun hq => Stream.poll_of_ended hq fun h => closed ⟨f p, rfl, h⟩⟩

/-- A subscription is disposed through its name, and its owner reads: the sink is disposed, and
there is nothing to read and no end. -/
theorem nothing_to_read_after_disposal :
    let config : ConnectionConfig :=
      ⟨"venue", .plain "FIX.4.4" "A" "B", .dialingSingleThreaded, none⟩
    let w := (Desk.ofLine (.ofConfig config 4) ⟨[], 0⟩).opening config 4
    let v := serveAll [.operation (.subscribe "a" .always), .operation (.dispose (.named "a"))] w
    v.phaseOf? "a" = some .disposed ∧ (v.receive "a").1 = .ok none :=
  ⟨rfl, rfl⟩

end Request

end Correlator
