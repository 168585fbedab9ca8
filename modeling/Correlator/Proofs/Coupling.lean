/-
  Correlator.Proofs.Coupling — THE LIFE OF A CONNECTION AND ITS DROP RECORD.

  The state of a connection and the drop record of its multiplexer are two
  cells that no operation writes at once.  A connection that comes up takes the
  record off before its state is set, one that goes down sets its state before
  the drop is on record; no callback lies in between.  So whoever is in control,
  a caller between two operations or a waiter in a callback, finds the record
  to be the drop of the last time the connection went down, unless it has come
  up since.  A waiter that is told of a drop may bring the connection up and
  lose it again, and the broadcast goes on around that.

  The multiplexer can be told of a drop, or to resume, without the connection;
  the results are about runs in which nobody does that.

  Main results:
    * `Line.Coupled` — what record and state have to do with the history,
    * `Desk.Steady.coupled`, `Course.coupled` — one whole, and a course,
    * `Course.paired` — every drop has its own broadcast,
    * `Operation.coupled_execAll` — every run.
-/
import Correlator.Proofs.Path
namespace Correlator

/-! ## §1. What a history says of the record -/

/-- The drop with which the connection goes down at an event. -/
def Event.drop? : Event → Option ConnectionDropped
  | .lost _ _ d | .refused _ d => some d
  | _ => none

/-- The connection comes up or goes down. -/
def Event.isDecisive : Event → Bool
  | .noted .connectionEstablished => true
  | .lost _ _ _ | .refused _ _ => true
  | _ => false

/-- An operation is between the two cells: one of them is written and the other is not yet. -/
def Event.isInterim : Event → Bool
  | .noted .connectionDropped | .noted .dropRecordCleared => true
  | .lost _ _ _ | .refused _ _ => true
  | _ => false

theorem Event.drop?_of_not_decisive {e : Event} (h : e.isDecisive = false) : e.drop? = none := by
  cases e with
  | lost => cases h
  | refused => cases h
  | _ => rfl

theorem Event.isDecisive_of_isAside {e : Event} (h : e.isAside = true) : e.isDecisive = false := by
  cases e with
  | noted n =>
    cases n with
    | connectionEstablished => cases h
    | _ => rfl
  | answered => rfl
  | _ => cases h

/-- The connection went down with the drop, and has neither come up nor gone down since. -/
def History.LastDrop (h : List Moment) (d : ConnectionDropped) : Prop :=
  Last (fun x => x.event.drop?) (fun x => x.event.isDecisive) h d

namespace History

variable {h : List Moment} {x : Moment} {d : ConnectionDropped}

theorem lastDrop_concat : LastDrop (h ++ [x]) d ↔
    x.event.drop? = some d ∨ x.event.isDecisive = false ∧ LastDrop h d := last_concat

/-- A moment that decides nothing leaves the last drop as it was. -/
theorem lastDrop_concat_of_not_decisive (hx : x.event.isDecisive = false) :
    LastDrop (h ++ [x]) d ↔ LastDrop h d :=
  last_concat_of_not_ends (fun _ => Event.drop?_of_not_decisive) hx

end History

open History

/-! ## §2. Lines and moments -/

/-- How a line has to stand after a history: the drop on record is that of the last time the
connection went down, if it has not come up since; a dropped connection has one, and an
established one has none. -/
structure Line.Coupled (h : List Moment) (l : Line) : Prop where
  record : ∀ d, l.mux.dropRecord = some d ↔ LastDrop h d
  dropped : l.state = .dropped → l.mux.dropRecord.isSome = true
  established : l.state = .established → l.mux.dropRecord = none

/-- What a moment shows: the line is coupled unless an operation is halfway, and the connection
goes down at the moment exactly if it is shown dropped and was not before. -/
structure Moment.Agrees (c : ConnectionId) (h : List Moment) (x : Moment) : Prop where
  coupled : x.event.isInterim = false → ∀ l, x.standing? c = some l → l.Coupled (h ++ [x])
  entry : ∀ l, x.standing? c = some l →
    (x.event.drop?.isSome = true ↔ l.state = .dropped ∧ stateAfter c h ≠ .dropped)

namespace Line.Coupled

variable {h : List Moment} {l k : Line}

/-- Nothing but the record and the state matters. -/
theorem congr (hl : l.Coupled h) (hr : k.mux.dropRecord = l.mux.dropRecord)
    (hs : k.state = l.state) : k.Coupled h where
  record d := by
    rw [hr]
    exact hl.record d
  dropped hd := by
    rw [hr]
    exact hl.dropped (hs ▸ hd)
  established he := by
    rw [hr]
    exact hl.established (hs ▸ he)

theorem concat (hl : l.Coupled h) {x : Moment} (hx : x.event.isDecisive = false) :
    l.Coupled (h ++ [x]) where
  record d := (hl.record d).trans (lastDrop_concat_of_not_decisive hx).symm
  dropped := hl.dropped
  established := hl.established

/-- A connection that is between its ends may stand in any state there. -/
theorem between (hl : l.Coupled h) (hr : k.mux.dropRecord = l.mux.dropRecord)
    (hd : k.state ≠ .dropped) (he : k.state ≠ .established) : k.Coupled h where
  record d := by
    rw [hr]
    exact hl.record d
  dropped h := absurd h hd
  established h := absurd h he

end Line.Coupled

/-- Moments that decide nothing, and show the line coupled and without an entry. -/
theorem History.Throughout.append_steady {c : ConnectionId} {h news : List Moment} {k : Line}
    (hk : k.Coupled h) (hafter : k.state = .dropped → stateAfter c h = .dropped)
    (ht : Throughout (Moment.Agrees c) h)
    (hn : ∀ x ∈ news, x.event.isDecisive = false ∧ ∀ l, x.standing? c = some l →
      l.state = k.state ∧ l.mux.dropRecord = k.mux.dropRecord) :
    k.Coupled (h ++ news) ∧ Throughout (Moment.Agrees c) (h ++ news) := by
  -- One moment after the other; a moment that shows the line dropped is not the first to do so.
  induction news generalizing h with
  | nil =>
    rw [List.append_nil]
    exact ⟨hk, ht⟩
  | cons x news ih =>
    obtain ⟨hx, hshown⟩ := hn x List.mem_cons_self
    rw [List.append_cons]
    refine ih (hk.concat hx) ?_ (ht.concat ⟨?_, ?_⟩) fun y hy => hn y (List.mem_cons_of_mem _ hy)
    · intro hd
      exact stateAfter_concat_of_shows (fun l hl => (hshown l hl).1.trans hd) (hafter hd)
    · intro _ l hl
      exact (hk.concat hx).congr (hshown l hl).2 (hshown l hl).1
    · intro l hl
      rw [Event.drop?_of_not_decisive hx, (hshown l hl).1]
      constructor
      · intro h
        cases h
      · rintro ⟨hd, hne⟩
        exact absurd (hafter hd) hne

/-! ## §3. Wholes that leave the record alone -/

/-- The record stays, the connection neither comes up nor goes down, and what is new shows the
line as it is afterwards. -/
structure Desk.Steady (w v : Desk) : Prop where
  id : v.line.id = w.line.id
  record : v.line.mux.dropRecord = w.line.mux.dropRecord
  state : v.line.state = w.line.state ∨ v.line.state ≠ .dropped ∧ v.line.state ≠ .established
  after : stateAfter w.line.id w.shared.history = w.line.state →
    stateAfter w.line.id v.shared.history = v.line.state
  history : ∃ news, v.shared.history = w.shared.history ++ news ∧
    ∀ x ∈ news, x.event.isDecisive = false ∧ ∀ l, x.standing? w.line.id = some l →
      l.state = v.line.state ∧ l.mux.dropRecord = v.line.mux.dropRecord

namespace Desk.Steady

variable {w v : Desk}

/-- Nothing is written down, and the connection stays in its state. -/
theorem of_history (hi : v.line.id = w.line.id)
    (hr : v.line.mux.dropRecord = w.line.mux.dropRecord) (hs : v.line.state = w.line.state)
    (hh : v.shared.history = w.shared.history) : w.Steady v where
  id := hi
  record := hr
  state := .inl hs
  after h := by rw [hh, hs, h]
  history := ⟨[], by rw [hh, List.append_nil], by simp⟩

theorem refl (w : Desk) : w.Steady w := of_history rfl rfl rfl rfl

/-- A moment of the line in hand shows it in its state. -/
theorem stateAfter_record {c : ConnectionId} (hc : v.line.id = c) (e : Event) :
    stateAfter c (v.record e).shared.history = v.line.state := by
  rw [history_record, stateAfter_concat]
  have shown : Moment.standing? c ⟨e, some v.line⟩ = some v.line :=
    Moment.standing?_eq_some.mpr ⟨rfl, hc⟩
  rw [shown]

/-- An event that decides nothing is written down. -/
theorem write (h : w.Steady v) {e : Event} (he : e.isDecisive = false) : w.Steady (v.record e) where
  id := h.id
  record := h.record
  state := h.state
  after _ := stateAfter_record h.id e
  history := by
    obtain ⟨news, hh, hn⟩ := h.history
    refine ⟨news ++ [⟨e, some v.line⟩], by rw [history_record, hh, List.append_assoc], ?_⟩
    intro x hx
    rcases List.mem_append.mp hx with hx | hx
    · exact hn x hx
    · rw [List.mem_singleton.mp hx]
      refine ⟨he, ?_⟩
      intro l hl
      obtain rfl := Moment.eq_of_standing? hl
      exact ⟨rfl, rfl⟩

/-- A change of the line beside its state and its record. -/
theorem mapLine (h : w.Steady v) {f : Line → Line} (hi : ∀ l, (f l).id = l.id)
    (hr : ∀ l, (f l).mux.dropRecord = l.mux.dropRecord) (hs : ∀ l, (f l).state = l.state) :
    w.Steady (v.mapLine f) where
  id := (hi _).trans h.id
  record := (hr _).trans h.record
  state := by
    rw [line_mapLine, hs]
    exact h.state
  after := by
    rw [line_mapLine, hs]
    exact h.after
  history := by
    rw [line_mapLine, hs, hr]
    exact h.history

/-- The connection moves between its ends, and an event shows it there. -/
theorem move (w : Desk) {s : ConnectionState} (hd : s ≠ .dropped) (hu : s ≠ .established)
    {e : Event} (he : e.isDecisive = false) : w.Steady ((w.setState s).record e) where
  id := rfl
  record := rfl
  state := .inr ⟨hd, hu⟩
  after _ := stateAfter_record (v := w.setState s) rfl e
  history := by
    refine ⟨[⟨e, some (w.setState s).line⟩], history_record e (w.setState s), ?_⟩
    intro x hx
    rw [List.mem_singleton.mp hx]
    refine ⟨he, ?_⟩
    intro l hl
    obtain rfl := Moment.eq_of_standing? hl
    exact ⟨rfl, rfl⟩

theorem mapSink (h : w.Steady v) (i : Nat) (f : Sink → Sink) : w.Steady (v.mapSink i f) :=
  h.mapLine (f := fun l => l.mapMux fun x => x.mapSink i f) (fun _ => rfl) (fun _ => rfl)
    (fun _ => rfl)

theorem hear (h : w.Steady v) (i : Nat) (s : Sink) (c : Call) : w.Steady (v.hear i s c) := by
  have heard := (h.write (e := .called i (s.listener.hearer c) c) rfl).mapSink i fun k =>
    { k with listener := (k.listener.next c).2 }
  unfold Desk.hear
  dsimp only
  split
  · exact heard.write (e := .noted .subscriptionLagging) rfl
  · exact heard

theorem dispose (s : SinkRef) (w : Desk) : w.Steady (w.dispose s).2 := by
  obtain ⟨news, hh, hn⟩ := history_dispose s w
  have hid : (w.dispose s).2.line.id = w.line.id :=
    congrArg ConnectionConfig.id (kept_dispose Line.config_disposeAt s w)
  have hrecord : (w.dispose s).2.line.mux.dropRecord = w.line.mux.dropRecord :=
    kept_dispose (f := fun l => l.mux.dropRecord) Line.dropRecord_disposeAt s w
  have hstate : (w.dispose s).2.line.state = w.line.state :=
    kept_dispose Line.state_disposeAt s w
  refine ⟨hid, hrecord, .inl hstate, ?_, ?_⟩
  · intro _
    exact stateAfter_record (v := (w.strike s).2) hid _
  · -- A notice shows the line that the sink is on; the last moment shows the one in hand.
    rw [List.append_assoc] at hh
    refine ⟨_, hh, ?_⟩
    intro x hx
    rcases List.mem_append.mp hx with hx | hx
    · obtain ⟨k, rfl, hk⟩ := hn x hx
      refine ⟨rfl, ?_⟩
      intro l hl
      obtain ⟨hl, hlid⟩ := Moment.standing?_eq_some.mp hl
      cases hl
      rw [hk hlid]
      exact ⟨rfl, rfl⟩
    · rw [List.mem_singleton.mp hx]
      refine ⟨rfl, ?_⟩
      intro l hl
      obtain rfl := Moment.eq_of_standing? hl
      exact ⟨rfl, rfl⟩

end Desk.Steady

theorem Aside.steady {w v : Desk} (h : Aside w v) : w.Steady v := by
  cases h with
  | event he => exact (Desk.Steady.refl w).write (Event.isDecisive_of_isAside he)
  | names => exact .of_history rfl rfl rfl rfl
  | barrier => exact .of_history rfl rfl rfl rfl

/-- A turn that is no milestone. -/
theorem Turn.steady {w v : Desk} (h : Turn w v)
    (hm : v.shared.milestones = w.shared.milestones) : w.Steady v := by
  -- Coming up, going down and turning a handshake away reach a milestone each.
  have none : ∀ x, v.shared.milestones ≠ w.shared.milestones ++ [x] := by
    intro x hx
    rw [hm] at hx
    simp at hx
  cases h with
  | create => exact .move w (by decide) (by decide) rfl
  | offer => exact .move w (by decide) (by decide) rfl
  | accept => exact .move w (by decide) (by decide) rfl
  | @refuse m drop =>
    obtain ⟨x, hx, -⟩ := Desk.milestones_turnAway m drop (w.setState .authenticating)
    exact absurd hx (none x)
  | establish =>
    obtain ⟨x, hx, -⟩ := w.milestones_comeUp
    exact absurd hx (none x)
  | drop cause m =>
    obtain ⟨x, hx, -⟩ := w.milestones_goDown cause m
    exact absurd hx (none x)
  | @logout m =>
    have kept := (Desk.Steady.refl w).mapLine
      (f := fun l => { l with logoutText := some ((m.get? Tag.text).getD "") })
      (fun _ => rfl) (fun _ => rfl) (fun _ => rfl)
    exact kept.write (e := .loggedOut m) rfl

theorem Act.steady {law : Operation → Prop} {a b : Stage} (h : Act law a b) :
    a.desk.Steady b.desk := by
  cases h with
  | enlist => exact .of_history rfl rfl rfl rfl
  | refuse => exact .of_history rfl rfl rfl rfl
  | deliver => exact (Desk.Steady.refl _).hear _ _ _
  | finish => exact ((Desk.Steady.refl _).mapSink _ _).hear _ _ _
  | pass => exact .refl _
  | shut => exact .of_history rfl rfl rfl rfl
  | dispose s => exact .dispose s _

/-! ## §4. Ups and downs -/

/-- The line is coupled, is in the state that the history shows last, and every moment agrees. -/
structure Desk.Coupled (c : ConnectionId) (w : Desk) : Prop where
  own : w.line.id = c
  line : w.line.Coupled w.shared.history
  after : stateAfter c w.shared.history = w.line.state
  throughout : Throughout (Moment.Agrees c) w.shared.history

namespace Desk

variable {c : ConnectionId} {w v : Desk}

theorem Coupled.opening (w : Desk) (config : ConnectionConfig) (capacity : Nat) :
    (w.opening config capacity).Coupled config.id where
  own := rfl
  line := {
    record := fun d => ⟨fun h => (by cases h), fun h => absurd h not_last_nil⟩
    dropped := fun h => by cases h
    established := fun h => by cases h }
  after := rfl
  throughout := .nil

theorem Steady.coupled (h : w.Steady v) (hw : w.Coupled c) : v.Coupled c := by
  obtain ⟨news, hh, hn⟩ := h.history
  have hid := hw.own
  subst hid
  -- As far as state and record go, the line is already as it will be.
  have hline : v.line.Coupled w.shared.history := by
    rcases h.state with hs | ⟨hd, hu⟩
    · exact hw.line.congr h.record hs
    · exact hw.line.between h.record hd hu
  have hdropped : v.line.state = .dropped → stateAfter w.line.id w.shared.history = .dropped := by
    intro hd
    rcases h.state with hs | ⟨hne, -⟩
    · rw [hw.after, ← hs, hd]
    · exact absurd hd hne
  obtain ⟨hnew, ht⟩ := Throughout.append_steady hline hdropped hw.throughout hn
  rw [← hh] at hnew ht
  exact ⟨h.id, hnew, h.after hw.after, ht⟩

/-- A moment of the line in hand agrees with what was before. -/
theorem throughout_record {e : Event} (ht : Throughout (Moment.Agrees c) v.shared.history)
    (hline : e.isInterim = false → v.line.Coupled (v.record e).shared.history)
    (hentry : e.drop?.isSome = true ↔
      v.line.state = .dropped ∧ stateAfter c v.shared.history ≠ .dropped) :
    Throughout (Moment.Agrees c) (v.record e).shared.history := by
  rw [history_record] at hline ⊢
  refine ht.concat ⟨?_, ?_⟩
  · intro he l hl
    obtain rfl := Moment.eq_of_standing? hl
    exact hline he
  · intro l hl
    obtain rfl := Moment.eq_of_standing? hl
    exact hentry

/-- Taking the record off does not enter the state in which it is needed. -/
theorem throughout_resume (hw : w.Coupled c) (hd : w.line.state ≠ .dropped) :
    w.resume.line.id = c ∧ Throughout (Moment.Agrees c) w.resume.shared.history := by
  unfold resume
  split
  case h_1 => exact ⟨hw.own, hw.throughout⟩
  case h_2 =>
    refine ⟨hw.own, ?_⟩
    refine throughout_record (v := w.mapMux fun x => { x with dropRecord := none })
      hw.throughout (fun h => by cases h) ?_
    exact iff_of_false (by simp [Event.drop?]) fun h => hd h.1

/-- The record comes off while the connection authenticates, and then the connection is up. -/
theorem Coupled.comeUp (hw : w.Coupled c) (h : w.line.state.canBecome .established = true) :
    w.resume.comeUp.Coupled c := by
  have hauth := ConnectionState.of_canBecome_established h
  obtain ⟨hc, ht⟩ := throughout_resume hw (by rw [hauth]; decide)
  let v := (w.resume.setState .established).mapLine fun l => { l with logoutText := none }
  -- Nothing is on record, and coming up leaves no drop to be on record.
  have hline : v.line.Coupled (v.note .connectionEstablished).shared.history := by
    refine ⟨fun d => ?_, fun h => (by cases h), fun _ => dropRecord_resume w⟩
    show w.resume.line.mux.dropRecord = some d ↔ _
    unfold note
    rw [dropRecord_resume, history_record, lastDrop_concat]
    simp [Event.drop?, Event.isDecisive]
  refine ⟨hc, hline, Steady.stateAfter_record (v := v) hc _, ?_⟩
  refine throughout_record (v := v) ht (fun _ => hline) ?_
  exact iff_of_false (by simp [Event.drop?]) fun h => nomatch h.1

/-- The connection has gone down with a drop, and the drop is not on record yet. -/
structure Down (c : ConnectionId) (d : ConnectionDropped) (w : Desk) : Prop where
  own : w.line.id = c
  state : w.line.state = .dropped
  after : stateAfter c w.shared.history = .dropped
  last : ∀ d', LastDrop w.shared.history d' ↔ d = d'
  throughout : Throughout (Moment.Agrees c) w.shared.history

namespace Down

variable {d : ConnectionDropped}

/-- The event with which the connection goes down is written down once its state is set. -/
theorem of_record {e : Event} (he : e.drop? = some d) (hi : e.isInterim = true)
    (hc : v.line.id = c) (hd : v.line.state = .dropped)
    (hne : stateAfter c v.shared.history ≠ .dropped)
    (ht : Throughout (Moment.Agrees c) v.shared.history) : (v.record e).Down c d where
  own := hc
  state := hd
  after := (Steady.stateAfter_record hc e).trans hd
  last d' := by
    have hdecisive : e.isDecisive = true := by
      cases hb : e.isDecisive with
      | true => rfl
      | false =>
        rw [Event.drop?_of_not_decisive hb] at he
        cases he
    rw [history_record, lastDrop_concat]
    simp [he, hdecisive]
  throughout := by
    refine throughout_record ht (fun h => by rw [hi] at h; cases h) ?_
    exact iff_of_true (by simp [he]) ⟨hd, hne⟩

theorem note (h : w.Down c d) : (w.note .connectionDropped).Down c d where
  own := h.own
  state := h.state
  after := (Steady.stateAfter_record h.own _).trans h.state
  last d' := by
    unfold Desk.note
    rw [history_record, lastDrop_concat_of_not_decisive rfl]
    exact h.last d'
  throughout := by
    refine throughout_record h.throughout (fun h => by cases h) ?_
    exact iff_of_false (by simp [Event.drop?]) fun hn => hn.2 h.after

/-- Once the drop is on record the line is coupled again. -/
theorem drain (h : w.Down c d) :
    (w.mapMux fun x => { x with dropRecord := some d, active := [] }).Coupled c where
  own := h.own
  line := {
    record := fun d' => Option.some_inj.trans (h.last d').symm
    dropped := fun _ => rfl
    established := fun hu => by
      have hu : w.line.state = .established := hu
      rw [h.state] at hu
      cases hu }
  after := h.after.trans h.state.symm
  throughout := h.throughout

end Down

end Desk

/-- The connection goes down when it is lost or a handshake is refused. -/
theorem Onset.down {law : Operation → Prop} (hlaw : ∀ d, ¬ law (.broadcast d)) {c : ConnectionId}
    {w u : Desk} {d : ConnectionDropped} (h : Onset law w d u) (hw : w.Coupled c) : u.Down c d := by
  cases h with
  | lost cause m h =>
    refine Desk.Down.note (.of_record rfl rfl hw.own rfl ?_ hw.throughout)
    show stateAfter c w.shared.history ≠ .dropped
    rw [hw.after]
    exact h
  | refused hm h hg hf =>
    -- The refusal is noted while the connection still authenticates.
    have noted := (Desk.Steady.move w (s := .authenticating) (e := .noted .handshakeRejected)
      (by decide) (by decide) rfl).coupled hw
    refine .of_record rfl rfl noted.own rfl ?_ noted.throughout
    -- What was shown last is the authenticating line.
    intro h
    cases noted.after.symm.trans h
  | asked h => exact absurd h (hlaw d)

/-! ## §5. Courses -/

/-- The operation changes the drop record without the connection. -/
def Operation.isDirect : Operation → Bool
  | .broadcast _ | .resume => true
  | _ => false

/-- Nobody but the connection changes the drop record. -/
abbrev Operation.Indirect (op : Operation) : Prop := op.isDirect = false

/-- **A course on which nobody else changes the record keeps the line coupled.** -/
theorem Course.coupled {c : ConnectionId} {a b : Stage} (h : Course Operation.Indirect a b)
    (ha : a.desk.Coupled c) : b.desk.Coupled c := by
  induction h with
  | refl => exact ha
  | trans _ _ ih ik => exact ik (ih ha)
  | aside h => exact h.steady.coupled ha
  | turn h hm => exact (h.steady hm).coupled ha
  | act h => exact h.steady.coupled ha
  | comeUp h => exact Desk.Coupled.comeUp ha h
  | resume h => cases h
  | @broadcast w u v owed d h _ ih =>
    -- The callbacks of the broadcast run with the drop on record.
    have inside := ih (h.down (fun _ h => by cases h) ha).drain
    exact ((Desk.Steady.refl v).write (e := .noted .dropBroadcast) rfl).coupled inside

/-! ## §6. Broadcasts -/

/-- Milestones in which every time that the connection goes down has its own broadcast.  What its
waiters do when they are told comes before the broadcast has told everyone. -/
inductive History.Paired : List Moment → Prop
  | nil : Paired []
  | up {x : Moment} {rest : List Moment} (hx : x.event = .noted .connectionEstablished)
      (h : Paired rest) : Paired (x :: rest)
  | down {x y : Moment} {inside rest : List Moment} (hx : x.event.drop?.isSome = true)
      (hi : Paired inside) (hy : y.event = .noted .dropBroadcast) (h : Paired rest) :
      Paired (x :: inside ++ y :: rest)

theorem History.Paired.append {a b : List Moment} (ha : Paired a) (hb : Paired b) :
    Paired (a ++ b) := by
  induction ha with
  | nil => exact hb
  | up hx _ ih => exact .up hx ih
  | down hx hi hy _ _ ih =>
    rw [List.append_assoc]
    exact .down hx hi hy ih

/-- What the multiplexer does with sinks is no milestone. -/
theorem Act.milestones {law : Operation → Prop} {a b : Stage} (h : Act law a b) :
    b.desk.shared.milestones = a.desk.shared.milestones := by
  cases h with
  | deliver => exact Desk.milestones_hear _ _ _ _
  | finish => exact Desk.milestones_hear _ _ _ _
  | dispose s => exact Desk.milestones_dispose s _
  | _ => rfl

/-- A connection that is lost or refuses a handshake reaches one milestone. -/
theorem Onset.milestones {law : Operation → Prop} (hlaw : ∀ d, ¬ law (.broadcast d))
    {w u : Desk} {d : ConnectionDropped} (h : Onset law w d u) : ∃ x : Moment,
    u.shared.milestones = w.shared.milestones ++ [x] ∧ x.event.drop? = some d := by
  cases h with
  | lost cause m =>
    obtain ⟨x, hx, he⟩ := w.milestones_goDown cause m
    exact ⟨x, hx, by rw [he]; rfl⟩
  | @refused m _ reason =>
    obtain ⟨x, hx, he⟩ := Desk.milestones_turnAway m
      ⟨w.line.id, .authenticationRejected, some reason⟩ (w.setState .authenticating)
    exact ⟨x, hx, by rw [he]; rfl⟩
  | asked h => exact absurd h (hlaw d)

/-- **Every drop has its own broadcast**, on every course on which nobody else asks for one. -/
theorem Course.paired {a b : Stage} (h : Course Operation.Indirect a b) : ∃ news,
    b.desk.shared.milestones = a.desk.shared.milestones ++ news ∧ History.Paired news := by
  have same : ∀ {w v : Desk}, v.shared.milestones = w.shared.milestones → ∃ news,
      v.shared.milestones = w.shared.milestones ++ news ∧ History.Paired news :=
    fun h => ⟨[], by rw [h, List.append_nil], .nil⟩
  induction h with
  | refl => exact same rfl
  | trans _ _ ih ik =>
    obtain ⟨first, hb, hp⟩ := ih
    obtain ⟨second, hc, hq⟩ := ik
    exact ⟨first ++ second, by rw [hc, hb, List.append_assoc], hp.append hq⟩
  | aside _ hm => exact same hm
  | turn _ hm => exact same hm
  | act h => exact same h.milestones
  | @comeUp w =>
    obtain ⟨x, hm, hx⟩ := w.resume.milestones_comeUp
    rw [w.milestones_resume] at hm
    exact ⟨[x], hm, .up hx .nil⟩
  | resume h => cases h
  | @broadcast w u v owed d h _ ih =>
    -- What waiters do when they are told lies between the drop and the end of its broadcast.
    obtain ⟨x, hu, hx⟩ := h.milestones fun _ h => by cases h
    obtain ⟨inside, hv, hp⟩ := ih
    have told := Desk.milestones_record_of_milestone (e := .noted .dropBroadcast) rfl v
    have down : x.event.drop?.isSome = true := by rw [hx]; rfl
    refine ⟨x :: inside ++ [⟨.noted .dropBroadcast, some v.line⟩], ?_, .down down hp rfl .nil⟩
    refine told.trans ?_
    rw [hv]
    show u.shared.milestones ++ inside ++ _ = _
    rw [hu]
    simp

/-! ## §7. Every run -/

/-- **State and record are coupled.**  On every run of operations that leave the record to the
connection, in callbacks or outside them, from the first configuration of the line on: the line is
coupled at the end, and at every moment that it is shown except in the middle of an operation; the
connection enters its dropped state exactly when it goes down, and each time has one broadcast.  A
connection that is dropped cannot be lost, and nothing changes. -/
theorem Operation.coupled_execAll (w : Desk) (config : ConnectionConfig) (capacity : Nat)
    (ops : List Operation) (hops : ∀ op ∈ ops, op.Keeps Indirect) :
    let v := (execAll ops (w.opening config capacity)).2
    v.line.Coupled v.shared.history ∧
    Throughout (Moment.Agrees config.id) v.shared.history ∧
    History.Paired v.shared.milestones ∧
    ∀ (call : Caller) (u : Desk) (cause : DropCause) (m : Option Message),
      u.line.state = .dropped →
      (Operation.drop cause m).run call u = (.flag false, u.note .alreadyDropped) := by
  intro v
  have course := execAll_course hops (.opening w config capacity) []
  have coupled := course.coupled (.opening w config capacity)
  obtain ⟨news, hm, paired⟩ := course.paired
  refine ⟨coupled.line, coupled.throughout, ?_, ?_⟩
  · show History.Paired v.shared.milestones
    rw [hm]
    exact paired
  · intro call u cause m hu
    exact run_drop_of_dropped hu call cause m

/-- A waiter that is told of a drop brings the connection up, loses it again and panics: the later
drop stays on record, and its broadcast lies within the earlier one. -/
theorem Operation.coupled_execAll_reconnecting :
    let config : ConnectionConfig :=
      ⟨"venue", .plain "FIX.4.4" "A" "B", .dialingSingleThreaded, none⟩
    let again : Reaction Operation :=
      ⟨[.authenticateOutbound (.empty .logon), .establish, .drop .disconnect none], true⟩
    let ops : List Operation :=
      [.register "desk" .always ⟨[], [again], none⟩, .authenticateOutbound (.empty .logon),
        .establish, .drop .logout none]
    let w := Desk.ofLine (.ofConfig config 4) ⟨[], 0⟩
    let v := (execAll ops (w.opening config 4)).2
    (∀ op ∈ ops, op.Keeps Indirect) ∧
    v.line.mux.dropRecord = some ⟨config.id, .disconnect, none⟩ ∧
    v.line.Coupled v.shared.history ∧ Throughout (Moment.Agrees config.id) v.shared.history ∧
    History.Paired v.shared.milestones ∧
    ∀ call, (Operation.drop .logout none).run call v = (.flag false, v.note .alreadyDropped) := by
  intro config again ops w v
  have hops : ∀ op ∈ ops, op.Keeps Indirect := by decide
  obtain ⟨coupled, throughout, paired, unchanged⟩ := coupled_execAll w config 4 ops hops
  have dropped : v.line.state = .dropped := by decide
  exact ⟨hops, by decide, coupled, throughout, paired,
    fun call => unchanged call v .logout none dropped⟩

end Correlator
