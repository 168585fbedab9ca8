/-
  Correlator.Proofs.InboundGate — MESSAGES PASS ONLY WHILE THE CONNECTION IS UP.

  A message that comes in is dispatched if the connection is established.  The
  state is looked at once, and then the message is offered to one sink after
  the other, while callbacks may lose the connection, bring it up again and
  take in further messages.  What keeps the gate shut is the active set: a
  connection that goes down empties it before any callback is made, no sink
  comes back into it, and the phase of a sink that is not in it is no longer
  active.  So a sink that is active when its turn comes has been in the set all
  along, and the connection has been up all along.

  Main results:
    * `Path.succeeds` — a sink that has left the active set stays out,
    * `Course.established` — the connection is up while a sink stays in the set,
    * `Desk.Gated` — what every waiter in control finds,
    * `Operation.gated_execAll` — every run.
-/
import Correlator.Proofs.ActiveSet
import Correlator.Proofs.Attribution
import Correlator.Proofs.Coupling
namespace Correlator

/-! ## §1. The active set -/

/-- From one standing of a multiplexer to a later one: sinks are only added, and a sink that has
left the active set does not come back. -/
structure Multiplexer.Succeeds (x y : Multiplexer) : Prop where
  length : x.sinks.length ≤ y.sinks.length
  set : ∀ i ∈ y.active, i ∈ x.active ∨ x.sinks.length ≤ i

namespace Multiplexer.Succeeds

variable {x y z : Multiplexer}

theorem refl (x : Multiplexer) : x.Succeeds x := ⟨Nat.le_refl _, fun _ => .inl⟩

theorem trans (h : x.Succeeds y) (k : y.Succeeds z) : x.Succeeds z where
  length := Nat.le_trans h.length k.length
  set i hi := by
    rcases k.set i hi with hi | hi
    · exact h.set i hi
    · exact .inr (Nat.le_trans h.length hi)

theorem of_subset (hs : y.sinks.length = x.sinks.length) (ha : y.active ⊆ x.active) :
    x.Succeeds y :=
  ⟨Nat.le_of_eq hs.symm, fun _ hi => .inl (ha hi)⟩

/-- An earlier sink that is in the set was there before. -/
theorem mem (h : x.Succeeds y) {i : Nat} (hi : i ∈ y.active) (hlt : i < x.sinks.length) :
    i ∈ x.active :=
  (h.set i hi).resolve_right (Nat.not_le_of_lt hlt)

end Multiplexer.Succeeds

theorem Shift.succeeds {a b : Stage} (h : Shift a b) :
    a.desk.line.mux.Succeeds b.desk.line.mux := by
  cases h with
  | @enlist w _ rule listener =>
    refine ⟨?_, ?_⟩
    · show w.line.mux.sinks.length ≤ (w.seat rule listener).line.mux.sinks.length
      rw [Desk.sinks_seat, List.length_append]
      exact Nat.le_add_right _ _
    · intro i hi
      rcases List.mem_append.mp hi with hi | hi
      · exact .inl hi
      · exact .inr (Nat.le_of_eq (List.mem_singleton.mp hi).symm)
  | @refuse w _ rule listener =>
    refine ⟨?_, fun i => .inl⟩
    show w.line.mux.sinks.length ≤ (w.seat rule listener).line.mux.sinks.length
    rw [Desk.sinks_seat, List.length_append]
    exact Nat.le_add_right _ _
  | deliver => exact .refl _
  | finish => exact .of_subset (List.length_modify _ _ _) (List.Subset.refl _)
  | pass => exact .refl _
  | listen => exact .of_subset (List.length_modify _ _ _) (List.Subset.refl _)
  | drain => exact .of_subset rfl (List.nil_subset _)
  | shut => exact .of_subset rfl (List.nil_subset _)
  | resume => exact .of_subset rfl (List.Subset.refl _)
  | @dispose w _ s =>
    show w.line.mux.Succeeds (w.dispose s).2.line.mux
    -- Only a disposal of one of its own sinks changes the multiplexer, and it takes none in.
    rw [Desk.line_dispose]
    split
    case isTrue =>
      rw [Line.snd_disposeAt]
      refine .of_subset (List.length_modify _ _ _) ?_
      show (if w.line.mux.released then w.line.mux.active
        else w.line.mux.active.filter (· ≠ s.place)) ⊆ w.line.mux.active
      split
      · exact List.Subset.refl _
      · exact List.filter_sublist.subset
    case isFalse => exact .refl _

/-- **A sink that has left the active set stays out.** -/
theorem Path.succeeds {a b : Stage} (h : Path a b) : a.desk.line.mux.Succeeds b.desk.line.mux := by
  have beside : ∀ {w v : Desk}, Beside w v → w.line.mux.Succeeds v.line.mux := by
    intro w v hb
    rw [hb.mux]
    exact .refl _
  induction h with
  | refl => exact .refl _
  | tail _ step ih =>
    refine ih.trans ?_
    cases step with
    | aside h => exact beside h.beside
    | turn h => exact beside h.beside
    | shift h => exact h.succeeds

/-! ## §2. The connection -/

section

variable {law : Operation → Prop} {a b : Stage}

/-- What the multiplexer does leaves the connection as it is. -/
theorem Act.state (h : Act law a b) : b.desk.line.state = a.desk.line.state := by
  cases h with
  | deliver =>
    rw [Desk.line_hear]
    rfl
  | finish =>
    rw [Desk.line_hear]
    rfl
  | dispose s => exact Desk.kept_dispose Line.state_disposeAt s _
  | _ => rfl

/-- **The connection is up while a sink stays in the set.**  A connection that goes down empties
the set in the same whole. -/
theorem Course.established (h : Course law a b) {i : Nat} (hi : i < a.desk.line.mux.sinks.length)
    (hmem : i ∈ b.desk.line.mux.active) (hs : a.desk.line.state = .established) :
    b.desk.line.state = .established := by
  induction h with
  | refl => exact hs
  | trans h k ih ik =>
    have between := k.path.succeeds.mem hmem (Nat.lt_of_lt_of_le hi h.path.succeeds.length)
    exact ik (Nat.lt_of_lt_of_le hi h.path.succeeds.length) hmem (ih hi between hs)
  | aside h => cases h <;> exact hs
  | @turn w v _ h hm =>
    cases h with
    | create hb => exact absurd hs (ConnectionState.ne_established_of_canBecome hb (by decide))
    | offer _ hb => exact absurd hs (ConnectionState.ne_established_of_canBecome hb (by decide))
    | accept _ hb => exact absurd hs (ConnectionState.ne_established_of_canBecome hb (by decide))
    | refuse _ _ hb => exact absurd hs (ConnectionState.ne_established_of_canBecome hb (by decide))
    | establish => rfl
    | drop cause m =>
      -- A connection that is lost reaches a milestone, and its drop is broadcast.
      obtain ⟨x, hx, -⟩ := w.milestones_goDown cause m
      rw [hm] at hx
      simp at hx
    | logout => exact hs
  | act h => exact h.state.trans hs
  | comeUp => rfl
  | resume => exact (Desk.state_resume _).trans hs
  | @broadcast w u v owed d h inside =>
    -- The set has been emptied, and the sink is none of those that came later.
    refine absurd (inside.path.succeeds.mem hmem ?_) List.not_mem_nil
    show i < u.line.mux.sinks.length
    rw [h.sinks]
    exact hi

end

/-! ## §3. The gate -/

/-- How the line stood if the connection goes down at the moment. -/
def Moment.fall? (x : Moment) : Option Line := x.event.drop?.bind fun _ => x.line

/-- How the line stood each time that the connection went down. -/
def History.falls (h : List Moment) : List Line := h.filterMap Moment.fall?

/-- What a moment has to show if a waiter is given a message: the connection is established, the
message is of a kind that goes to waiters, and the sink was made after the connection last went
down. -/
def Moment.Gated (c : ConnectionId) (h : List Moment) (x : Moment) : Prop :=
  ∀ i label m, x.event = .called i label (.message m) →
    (∃ l, x.standing? c = some l ∧ l.state = .established) ∧ m.kind.isRoutable = true ∧
      ∀ k ∈ History.falls h, k.mux.sinks.length ≤ i

/-- Only milestones count. -/
theorem History.falls_milestones (s : Shared) : falls s.milestones = falls s.history := by
  unfold falls Shared.milestones
  rw [List.filterMap_filter]
  refine congrArg (List.filterMap · _) (funext fun x => ?_)
  unfold Moment.fall?
  cases x.event with
  | noted n => exact ite_self _
  | lost => rfl
  | refused => rfl
  | _ => rfl

theorem History.falls_of_milestones {s t : Shared} (h : t.milestones = s.milestones) :
    falls t.history = falls s.history := by
  rw [← falls_milestones, h, falls_milestones]

/-- The connection goes down in no whole but a broadcast. -/
theorem Whole.falls {law : Operation → Prop} {a b : Stage} (h : Whole law a b) :
    History.falls b.desk.shared.history = History.falls a.desk.shared.history := by
  cases h with
  | aside _ hm => exact History.falls_of_milestones hm
  | turn _ hm => exact History.falls_of_milestones hm
  | act h => exact History.falls_of_milestones h.milestones
  | @comeUp w =>
    obtain ⟨x, hm, hx⟩ := w.resume.milestones_comeUp
    have none : x.fall? = none := by
      unfold Moment.fall?
      rw [hx]
      rfl
    rw [← History.falls_milestones, hm, w.milestones_resume]
    unfold History.falls
    rw [List.filterMap_append, List.filterMap_cons, none, List.filterMap_nil, List.append_nil]
    exact History.falls_milestones _
  | resume => exact History.falls_of_milestones (Desk.milestones_resume _)

/-- Every message has passed the gate, and the sinks in the set are younger than any time that the
connection went down. -/
structure Desk.Gated (c : ConnectionId) (w : Desk) : Prop where
  own : w.line.id = c
  messages : History.Throughout (Moment.Gated c) w.shared.history
  aged : ∀ k ∈ History.falls w.shared.history, k.mux.sinks.length ≤ w.line.mux.sinks.length
  floor : ∀ k ∈ History.falls w.shared.history, ∀ i ∈ w.line.mux.active, k.mux.sinks.length ≤ i

namespace Desk.Gated

variable {c : ConnectionId} {w u : Desk}

theorem opening (w : Desk) (config : ConnectionConfig) (capacity : Nat) :
    (w.opening config capacity).Gated config.id where
  own := rfl
  messages := .nil
  aged k hk := by cases hk
  floor k hk := by cases hk

/-- What delivers nothing and does not lose the connection keeps the gate. -/
theorem of_path {a b : Stage} (ha : a.desk.Gated c) (h : Path a b)
    (hd : b.desk.shared.deliveries = a.desk.shared.deliveries)
    (hf : History.falls b.desk.shared.history = History.falls a.desk.shared.history) :
    b.desk.Gated c where
  own := h.id.trans ha.own
  messages := by
    obtain ⟨news, hh⟩ := h.history
    rw [hh]
    refine ha.messages.append ?_
    intro x hx h₁ i label m he
    have none := Shared.not_isDelivery_of_news hh hd x hx
    rw [he] at none
    cases none
  aged k hk := by
    rw [hf] at hk
    exact Nat.le_trans (ha.aged k hk) h.succeeds.length
  floor k hk i hi := by
    rw [hf] at hk
    -- A sink in the set was there before, or is new.
    rcases h.succeeds.set i hi with hi | hi
    · exact ha.floor k hk i hi
    · exact Nat.le_trans (ha.aged k hk) hi

/-- A message passes. -/
theorem hear (hw : w.Gated c) (hup : w.line.state = .established) {m : Message}
    (hm : m.kind.isRoutable = true) {i : Nat} (hi : i ∈ w.line.mux.active) (s : Sink) :
    (w.hear i s (.message m)).Gated c := by
  have falls : History.falls (w.hear i s (.message m)).shared.history =
      History.falls w.shared.history :=
    History.falls_of_milestones (milestones_hear i s _ w)
  have called : History.falls
      (w.record (.called i (s.listener.hearer (.message m)) (.message m))).shared.history =
      History.falls w.shared.history :=
    History.falls_of_milestones (milestones_record rfl w)
  have started : (w.record (.called i (s.listener.hearer (.message m)) (.message m))).Gated c := by
    refine ⟨hw.own, ?_, ?_, ?_⟩
    · rw [history_record]
      refine hw.messages.concat ?_
      intro j label m' he
      cases he
      have shown : Moment.standing? c
          ⟨.called i (s.listener.hearer (.message m)) (.message m), some w.line⟩ = some w.line :=
        Moment.standing?_eq_some.mpr ⟨rfl, hw.own⟩
      exact ⟨⟨w.line, shown, hup⟩, hm, fun k hk => hw.floor k hk i hi⟩
    · rw [called]
      exact hw.aged
    · rw [called]
      exact hw.floor
  exact started.of_path (path_hear i s _ w []) (deliveries_hear i s _ w) (falls.trans called.symm)

/-- A connection that goes down leaves no sink in the set. -/
theorem drain {law : Operation → Prop} {d : ConnectionDropped} (hw : w.Gated c)
    (h : Onset law w d u) :
    (u.mapMux fun x => { x with dropRecord := some d, active := [] }).Gated c := by
  obtain ⟨news, hh, shown⟩ := h.beside.history
  have hn : ∀ x ∈ news, ∀ l, x.line = some l → l.mux = w.line.mux := by
    intro x hx l hl
    obtain ⟨⟨k, hk, hm, -⟩, -⟩ := shown x hx
    rw [hl] at hk
    cases hk
    exact hm
  -- The onset delivers nothing, and the set is empty after it.
  refine ⟨(h.path []).id.trans hw.own, ?_, ?_, fun k _ i hi => absurd hi List.not_mem_nil⟩
  · show History.Throughout (Moment.Gated c) u.shared.history
    have passed := hw.messages
    rw [hh]
    refine passed.append ?_
    intro x hx h₁ i label m he
    have none := Shared.not_isDelivery_of_news hh h.beside.deliveries x hx
    rw [he] at none
    cases none
  · intro k hk
    show k.mux.sinks.length ≤ u.line.mux.sinks.length
    rw [h.sinks]
    have hk : k ∈ History.falls u.shared.history := hk
    rw [hh] at hk
    unfold History.falls at hk
    rw [List.filterMap_append] at hk
    rcases List.mem_append.mp hk with hk | hk
    · exact hw.aged k hk
    · -- The connection goes down with the sinks that are there.
      obtain ⟨x, hx, hfall⟩ := List.mem_filterMap.mp hk
      obtain ⟨d, -, hl⟩ := Option.bind_eq_some_iff.mp hfall
      exact Nat.le_of_eq (by rw [hn x hx k hl])

end Desk.Gated

/-! ## §4. Dispatches -/

/-- The operation hands the multiplexer a message without the connection. -/
def Operation.isDispatch : Operation → Bool
  | .dispatch _ => true
  | _ => false

/-- Nobody but the connection hands the multiplexer a message. -/
abbrev Operation.Routed (op : Operation) : Prop := op.isDispatch = false

/-- A course on which the gate, if it has held so far, goes on to hold. -/
structure Gating (a b : Stage) : Prop where
  course : Course Operation.Routed a b
  gated : ∀ {c : ConnectionId}, a.Sound → a.desk.Gated c → b.desk.Gated c

namespace Gating

variable {a b c : Stage}

theorem refl (a : Stage) : Gating a a := ⟨.refl a, fun _ gated => gated⟩

theorem trans (h : Gating a b) (k : Gating b c) : Gating a c where
  course := h.course.trans k.course
  gated sound gated := k.gated (h.course.path.keeps Step.sound sound) (h.gated sound gated)

theorem whole (h : Whole Operation.Routed a b) : Gating a b where
  course := h.course
  gated _ gated := gated.of_path h.course.path h.deliveries h.falls

theorem broadcast {w u v : Desk} {owed : List Nat} {d : ConnectionDropped}
    (h : Onset Operation.Routed w d u)
    (inside : Gating ⟨u.mapMux fun x => { x with dropRecord := some d, active := [] },
      u.line.mux.active ++ owed⟩ ⟨v, owed⟩) : Gating ⟨w, owed⟩ ⟨v.note .dropBroadcast, owed⟩ where
  course := .broadcast h inside.course
  gated {c} sound gated := by
    have down : Stage.Sound ⟨u, owed⟩ := (h.path owed).keeps Step.sound sound
    have told : v.Gated c := inside.gated (down.drain rfl rfl rfl rfl) (gated.drain h)
    have falls : History.falls (v.note .dropBroadcast).shared.history =
        History.falls v.shared.history := by
      unfold Desk.note
      rw [Desk.history_record]
      unfold History.falls
      rw [List.filterMap_append]
      exact List.append_nil _
    exact told.of_path (Desk.path_note v owed rfl) (Desk.deliveries_record rfl v) falls

variable {call : Caller} {m : Message} {w₀ w : Desk} {owed : List Nat}

/-- A sink of the snapshot takes its turn, after the earlier ones have done what they did. -/
theorem deliver (hc : Desk.Follows Gating Operation.Routed call) (hm : m.kind.isRoutable = true)
    (hup : w₀.line.state = .established) (hobeys : w₀.Obeys Operation.Routed)
    (h : Gating ⟨w₀, owed⟩ ⟨w, owed⟩) {i : Nat} (hi : i ∈ w₀.line.mux.active) :
    Gating ⟨w₀, owed⟩ ⟨(w.deliver call m i).2, owed⟩ := by
  cases htakes : w.takes m i with
  | true =>
    obtain ⟨s, hs, hphase, hj⟩ := Desk.takes_iff.mp htakes
    rw [Desk.deliver_of_takes htakes]
    have heard : Gating ⟨w₀, owed⟩ ⟨w.hear i s (.message m), owed⟩ := by
      refine ⟨h.course.trans (.act (.deliver hs hphase hj)), ?_⟩
      intro c sound gated
      have now : Stage.Sound ⟨w, owed⟩ := h.course.path.keeps Step.sound sound
      -- It was in the set and so was owed nothing; still active, it is in the set.
      have hmem : i ∈ w.line.mux.active := by
        have active : w.line.mux.phase? i = some .active := by
          rw [Multiplexer.phase?_of_sink hs, hphase]
        exact (now.accounted i active).resolve_right fun howed => (sound.owed i howed).2 hi
      have up : w.line.state = .established :=
        h.course.established (sound.orderly.lt_length hi) hmem hup
      exact (h.gated sound gated).hear up hm hmem s
    exact heard.trans (hc.tell hs (h.course.obeys hobeys) (.message m) owed)
  | false =>
    rcases Desk.deliver_of_not_takes call htakes with ho | ho
    · rw [ho]
      exact h
    · rw [ho]
      have noted : Aside w (w.note .callbackPanicked) := .event rfl
      exact h.trans (.whole (.aside noted (Desk.milestones_record rfl w)))

theorem visit_deliver (hc : Desk.Follows Gating Operation.Routed call)
    (hm : m.kind.isRoutable = true) (hup : w₀.line.state = .established)
    (hobeys : w₀.Obeys Operation.Routed) {places : List Nat} (hp : places ⊆ w₀.line.mux.active)
    (h : Gating ⟨w₀, owed⟩ ⟨w, owed⟩) :
    Gating ⟨w₀, owed⟩ ⟨(Desk.visit (Desk.deliver call m) places w).2, owed⟩ := by
  -- By induction on the places that are left of the snapshot.
  induction places generalizing w with
  | nil => exact h
  | cons i rest ih =>
    obtain ⟨hi, hrest⟩ := List.cons_subset.mp hp
    exact ih hrest (h.deliver hc hm hup hobeys hi)

end Gating

/-- Where nobody else hands the multiplexer a message, every dispatch has an established connection
to begin with. -/
instance : Telling Operation.Routed Gating where
  course := Gating.course
  refl := .refl
  trans := .trans
  whole := .whole
  broadcast := .broadcast
  dispatch hc h hw := by
    cases h with
    | asked h => cases h
    | inbound _ hm hup => exact .visit_deliver hc hm hup hw (List.Subset.refl _) (.refl _)

/-! ## §5. Every run -/

/-- **Messages pass only while the connection is up.**  On every run of operations that leave
dispatching to the connection, in callbacks or outside them, from the first configuration of the
line on: a waiter is given a message only at a moment when the connection is established; the
message is no keepalive, no handshake and no logout; and no sink that was there when the connection
went down is given a message after that, so that the rest of a snapshot gets nothing once a
callback has lost the connection, even if it has brought it up again. -/
theorem Operation.gated_execAll (w : Desk) (config : ConnectionConfig) (capacity : Nat)
    (ops : List Operation) (hops : ∀ op ∈ ops, op.Keeps Routed) :
    History.Throughout (Moment.Gated config.id)
      (execAll ops (w.opening config capacity)).2.shared.history := by
  have told : Gating ⟨w.opening config capacity, []⟩
      ⟨(execAll ops (w.opening config capacity)).2, []⟩ :=
    execAll_tells hops _ [] (.opening w config capacity)
  have gated := told.gated (.opening w config capacity) (.opening w config capacity)
  exact gated.messages

/-- The first of two waiters that a message reaches loses the connection, brings it up again,
registers a third, takes in another message and panics: the second waiter is told of the drop and
gets no message, and the third gets the later one. -/
theorem Operation.gated_execAll_reconnecting :
    let config : ConnectionConfig :=
      ⟨"venue", .plain "FIX.4.4" "A" "B", .dialingSingleThreaded, none⟩
    let report : Message := .empty .executionReport
    let refusal : Message := .empty .businessMessageReject
    let again : Reaction Operation :=
      ⟨[.drop .disconnect none, .authenticateOutbound (.empty .logon), .establish,
        .register "late" .always ⟨[], [], none⟩, .inbound refusal], true⟩
    let ops : List Operation :=
      [.register "first" .always ⟨[again], [], none⟩, .register "second" .always ⟨[], [], none⟩,
        .authenticateOutbound (.empty .logon), .establish, .inbound (.empty .heartbeat),
        .inbound report]
    let w := Desk.ofLine (.ofConfig config 4) ⟨[], 0⟩
    let v := (execAll ops (w.opening config 4)).2
    let drop : ConnectionDropped := ⟨config.id, .disconnect, none⟩
    (∀ op ∈ ops, op.Keeps Routed) ∧
    v.shared.calls =
      [(0, .message report), (0, .error drop), (1, .error drop), (2, .message refusal)] ∧
    History.Throughout (Moment.Gated config.id) v.shared.history := by
  intro config report refusal again ops w v drop
  have hops : ∀ op ∈ ops, op.Keeps Routed := by decide
  exact ⟨hops, by decide, gated_execAll w config 4 ops hops⟩

end Correlator
