/-
  Correlator.Proofs.Panics — A PANIC GOES NO FURTHER.

  A rule may panic when it is asked about a message, and a waiter at the end of
  a callback.  Every run is compared with the calm one, in which such a rule
  rejects the message instead and such a callback does the same and returns.
  The two stay in step: the sets, the phases, the record and the callbacks are
  the same, callback by callback, and every operation gives the same answer.
  Only a dispatch or a broadcast that counts the callbacks that returned counts
  fewer: those of its own that panicked are missing.

  Main results:
    * `Guise.calm`, `Operation.calmed` — the calm run,
    * `Operation.casualties` — the callbacks that a count misses,
    * `Desk.Twins.run_fst` — the answer of one operation,
    * `Operation.panics_execAll` — every run.
-/
import Correlator.Proofs.Lockstep
namespace Correlator

/-! ## §1. Calm waiters -/

/-- In place of a panic, a rejection. -/
def Verdict.calmed : Verdict → Verdict
  | .panics => .rejects
  | v => v

theorem Verdict.calmed_eq_accepts {v : Verdict} : v.calmed = .accepts ↔ v = .accepts := by
  cases v <;> simp [calmed]

theorem Verdict.calmed_ne_panics (v : Verdict) : v.calmed ≠ .panics := by
  cases v <;> simp [calmed]

namespace Rule

/-- A rule that rejects where it would have panicked.  Only a comparison of its own can make a
reference rule panic. -/
def calmed : Rule → Rule
  | predicate f => predicate fun m => (f m).calmed
  | reference r => reference
      { r with secondary := r.secondary.map fun compare request m => (compare request m).calmed }

theorem judge_calmed (r : Rule) (m : Message) : r.calmed.judge m = (r.judge m).calmed := by
  cases r with
  | predicate f => rfl
  | reference r =>
    show ReferenceRule.judge { r with secondary := _ } m = (r.judge m).calmed
    unfold ReferenceRule.judge
    have hid : ReferenceRule.repeatsId { r with
        secondary := r.secondary.map fun compare request m => (compare request m).calmed } m =
      r.repeatsId m := rfl
    have hseq : ReferenceRule.repeatsSeq { r with
        secondary := r.secondary.map fun compare request m => (compare request m).calmed } m =
      r.repeatsSeq m := rfl
    rw [hid, hseq]
    split
    · rfl
    · split
      · rfl
      · cases r.secondary <;> rfl

end Rule

/-- Waiters that do not panic. -/
def Guise.calm : Guise where
  rule := Rule.calmed
  panics _ := false
  accepts r m := by rw [Rule.judge_calmed, Verdict.calmed_eq_accepts]

/-- An operation whose waiters do not panic. -/
def Operation.calmed (op : Operation) : Operation := op.under .calm

/-- A run and the calm one, with nothing out of play. -/
def Pairing.calm (c : ConnectionId) : Pairing where
  guise := .calm
  keeps _ := true
  connection := c
  first := []
  second := []

namespace Desk.Twins

variable {c : ConnectionId} {w v : Desk}

theorem opening (w : Desk) (config : ConnectionConfig) (capacity : Nat) :
    Desk.Twins (.calm config.id) (w.opening config capacity) (w.opening config capacity) where
  id := rfl
  line := by
    constructor
    case bare => rfl
    case active => rfl
    case sinks => exact fun i => .none
    case fresh => exact fun i _ => rfl
  before := List.forall₂_same.mpr fun l _ => .refl _ l fun _ => rfl
  after := List.forall₂_same.mpr fun l _ => .refl _ l fun _ => rfl
  shared := ⟨rfl, rfl, rfl, [], rfl, rfl⟩

/-- The active set is the same one. -/
theorem active_calm (h : Desk.Twins (.calm c) w v) : v.line.mux.active = w.line.mux.active := by
  rw [h.active, List.filter_eq_self]
  exact fun _ _ => rfl

/-- The callbacks are the same ones. -/
theorem calls_calm (h : Desk.Twins (.calm c) w v) : v.shared.calls = w.shared.calls := by
  obtain ⟨news, hw, hv⟩ := h.shared.calls
  have all : news.filter (fun x => (Pairing.calm c).keepsAt x.1) = news :=
    List.filter_eq_self.mpr fun _ _ => rfl
  rw [hw, hv, all]
  rfl

theorem phase?_calm (h : Desk.Twins (.calm c) w v) :
    v.line.mux.phase? = w.line.mux.phase? := by
  funext i
  show (v.sink? i).map Sink.phase = (w.sink? i).map Sink.phase
  rcases h.sink_cases i with ⟨hw, hv⟩ | ⟨s, t, hw, hv, twins⟩ <;> rw [hw, hv]
  rw [twins.kept rfl]
  rfl

/-- In the calm run no callback panics. -/
theorem panicsAt_calm (h : Desk.Twins (.calm c) w v) (call : Call) (i : Nat) :
    v.panicsAt call i = false := by
  unfold Desk.panicsAt
  rcases h.sink_cases i with ⟨-, hv⟩ | ⟨s, t, -, hv, twins⟩ <;> rw [hv]
  rw [twins.kept rfl]
  show ((s.listener.under .calm).panicsOn call) = false
  unfold Listener.panicsOn
  rw [Listener.next_under]
  cases (s.listener.next call).1 with
  | none => rfl
  | some r => exact Operation.panics_reactionUnder .calm r.2

/-- In the calm run no rule panics. -/
theorem judge_calm (h : Desk.Twins (.calm c) w v) {i : Nat} {t : Sink} (ht : v.sink? i = some t)
    (m : Message) : t.rule.judge m ≠ .panics := by
  rcases h.sink_cases i with ⟨-, hv⟩ | ⟨s, t', -, hv, twins⟩ <;> rw [hv] at ht <;> cases ht
  rw [twins.kept rfl]
  show (Rule.calmed s.rule).judge m ≠ .panics
  rw [Rule.judge_calmed]
  exact Verdict.calmed_ne_panics _

end Desk.Twins

/-! ## §2. What a count misses -/

/-- The callbacks with which a dispatch gives its message to waiters, and that panic. -/
def Desk.lostInDispatch (call : Caller) (m : Message) (w : Desk) : Nat :=
  (w.visits (Desk.deliver call m) w.line.mux.active).countP fun v =>
    v.desk.takes m v.place && v.desk.panicsAt (.message m) v.place

/-- The callbacks with which a broadcast tells waiters of its drop, and that panic. -/
def Desk.lostInBroadcast (call : Caller) (d : ConnectionDropped) (w : Desk) : Nat :=
  ((w.mapMux fun x => { x with dropRecord := some d, active := [] }).visits
    (Desk.terminate call d) w.line.mux.active).countP fun v =>
      v.desk.line.isActiveAt v.place && v.desk.panicsAt (.error d) v.place

/-- The callbacks of an operation's own dispatch or broadcast that panic, if it counts them. -/
def Operation.casualties (call : Caller) (w : Desk) : Operation → Nat
  | .dispatch m => w.lostInDispatch call m
  | .broadcast d => w.lostInBroadcast call d
  | .inbound m =>
    if m.kind.isRoutable ∧ w.line.state = .established then w.lostInDispatch call m else 0
  | _ => 0

/-- The answer with a count that is greater. -/
def Answer.plus (a : Answer) (k : Nat) : Answer :=
  match a with
  | .count n => .count (n + k)
  | .tally (.ok n) => .tally (.ok (n + k))
  | a => a

theorem Answer.plus_zero (a : Answer) : a.plus 0 = a := by
  unfold plus
  split <;> rfl

section

variable {c : ConnectionId} {w v : Desk} {depth : Nat}

/-- A count of visits in the calm run exceeds that in the other by the visits that are lost. -/
theorem Steps.Twins.visit_fst {step step' : Nat → Desk → Bool × Desk}
    (hs : Steps.Twins (.calm c) step step') {lost : Visit → Bool}
    (hl : ∀ {w v : Desk}, Desk.Twins (.calm c) w v → ∀ i, (if (step' i v).1 then 1 else 0) =
      (if (step i w).1 then 1 else 0) + if lost ⟨i, w⟩ then 1 else 0)
    (places : List Nat) (h : Desk.Twins (.calm c) w v) :
    (Desk.visit step' places v).1 =
      (Desk.visit step places w).1 + (w.visits step places).countP lost := by
  induction places generalizing w v with
  | nil => rfl
  | cons i rest ih =>
    rw [Desk.visit_cons_fst, Desk.visit_cons_fst, ih (hs.kept h rfl), Desk.visits,
      List.countP_cons, hl h i]
    omega

/-- A callback in the calm run returns; in the other run it returns or panics. -/
theorem Desk.Twins.tell_fst (h : Desk.Twins (.calm c) w v) (i : Nat) (call : Call) :
    (if (v.tell (Desk.callWith (Desk.perform depth)) i call).1 then 1 else 0) =
      (if (w.tell (Desk.callWith (Desk.perform depth)) i call).1 then 1 else 0) +
        if w.panicsAt call i then 1 else 0 := by
  rw [Desk.tell_fst, Desk.tell_fst, h.panicsAt_calm]
  cases w.panicsAt call i <;> rfl

/-- A dispatch in the calm run counts those too whose callback panicked. -/
theorem Desk.Twins.dispatch_fst (h : Desk.Twins (.calm c) w v) (m : Message) :
    (v.dispatchWith (Desk.callWith (Desk.perform depth)) m).1 =
      (w.dispatchWith (Desk.callWith (Desk.perform depth)) m).1 +
        w.lostInDispatch (Desk.callWith (Desk.perform depth)) m := by
  have hc : Callers.Twins (.calm c) (Desk.callWith (Desk.perform depth))
    (Desk.callWith (Desk.perform depth)) := Desk.Twins.callers depth
  show (Desk.visit _ v.line.mux.active v).1 = (Desk.visit _ w.line.mux.active w).1 + _
  rw [h.active_calm]
  refine (hc.deliver m).visit_fst ?_ w.line.mux.active h
  intro w v h i
  have same := h.takes (i := i) rfl m
  show _ = _ + if w.takes m i && w.panicsAt (.message m) i then 1 else 0
  cases htakes : w.takes m i with
  | true =>
    rw [htakes] at same
    rw [Desk.deliver_of_takes same, Desk.deliver_of_takes htakes, h.tell_fst]
    rfl
  | false =>
    -- No callback is made in either run.
    rw [htakes] at same
    have passed : ∀ {u : Desk}, u.takes m i = false →
        (u.deliver (Desk.callWith (Desk.perform depth)) m i).1 = false := by
      intro u hu
      rcases Desk.deliver_of_not_takes (Desk.callWith (Desk.perform depth)) hu with hu | hu <;>
        rw [hu]
    rw [passed same, passed htakes]
    rfl

/-- A broadcast in the calm run counts those too whose callback panicked. -/
theorem Desk.Twins.broadcast_fst (h : Desk.Twins (.calm c) w v) (d : ConnectionDropped) :
    (v.broadcastWith (Desk.callWith (Desk.perform depth)) d).1 =
      (w.broadcastWith (Desk.callWith (Desk.perform depth)) d).1 +
        w.lostInBroadcast (Desk.callWith (Desk.perform depth)) d := by
  have hc : Callers.Twins (.calm c) (Desk.callWith (Desk.perform depth))
    (Desk.callWith (Desk.perform depth)) := Desk.Twins.callers depth
  have drained := h.empty (f := fun x => { x with dropRecord := some d, active := [] })
    (fun _ => rfl) (fun _ => rfl) (fun _ => rfl)
  show (Desk.visit _ v.line.mux.active _).1 = (Desk.visit _ w.line.mux.active _).1 + _
  rw [h.active_calm]
  refine (hc.finish .terminated (.error d)).visit_fst ?_ w.line.mux.active drained
  intro w v h i
  show _ = _ + if w.line.isActiveAt i && w.panicsAt (.error d) i then 1 else 0
  by_cases ha : w.line.mux.phase? i = some .active
  case pos =>
    obtain ⟨s, hs, hactive⟩ := Option.map_eq_some_iff.mp ha
    have hs : w.sink? i = some s := hs
    have panics : (w.mapSink i fun s => { s with phase := .terminated }).panicsAt (.error d) i =
        w.panicsAt (.error d) i := by
      rw [Desk.panicsAt_of_sink hs, Desk.panicsAt_of_sink
        (Desk.sink?_mapSink_self (fun s => { s with phase := .terminated }) hs)]
    -- The sink leaves its phase first, in both runs.
    have told : (if ((v.mapSink i fun s => { s with phase := .terminated }).tell
        (Desk.callWith (Desk.perform depth)) i (.error d)).1 then 1 else 0) = _ :=
      (h.setPhase (i := i) rfl .terminated).tell_fst i (.error d)
    rw [panics] at told
    rw [Desk.finish_of_active _ _ _ hs hactive,
      Desk.finish_of_active _ _ _ (h.sink_kept rfl hs) hactive, Line.isActiveAt_iff.mpr ha]
    exact told
  case neg =>
    have ha' : v.line.mux.phase? i ≠ some .active := by rw [h.phase?_calm]; exact ha
    have off : w.line.isActiveAt i = false := Bool.eq_false_iff.mpr (mt Line.isActiveAt_iff.mp ha)
    rw [Desk.finish_of_inactive _ _ _ ha, Desk.finish_of_inactive _ _ _ ha', off]
    rfl

end

/-! ## §3. Answers -/

/-- What a caller can learn of a sink: its number and whether it is active. -/
def Sink.shownAs (s : Sink) : Nat × Bool := (s.number, s.isActive)

/-- A registration answers with what is learned of the sink at the next place. -/
theorem Desk.registerWith_fst (call : Caller) (name : String) (rule : Rule)
    (script : Script Operation) (w : Desk) : (w.registerWith call name rule script).1 =
      (w.registerWith call name rule script).2.enrolment ⟨w.line.id, w.line.mux.sinks.length⟩ :=
  congrArg (Desk.enrolment · _) (Desk.enrol_fst rule call (.scripted name script) w)

theorem Desk.subscribeAsWith_fst (call : Caller) (name : String) (rule : Rule) (w : Desk) :
    (w.subscribeAsWith call name rule).1 =
      (w.subscribeAsWith call name rule).2.enrolment ⟨w.line.id, w.line.mux.sinks.length⟩ :=
  congrArg (Desk.enrolment · _)
    (Desk.enrol_fst rule call (.stream (.withCapacity w.line.mux.capacity)) w)

namespace Desk.Twins

variable {c : ConnectionId} {w v : Desk}

/-- The lines show the same of their sinks. -/
theorem lines_calm (h : Desk.Twins (.calm c) w v) : List.Forall₂
    (fun l k => k.id = l.id ∧ ∀ i, (k.sink? i).map Sink.shownAs = (l.sink? i).map Sink.shownAs)
    w.lines v.lines := by
  have shown : ∀ {g : Guise} {l k : Line}, Line.Twins g (fun _ => true) l k → k.id = l.id ∧
      ∀ i, (k.sink? i).map Sink.shownAs = (l.sink? i).map Sink.shownAs := by
    intro g l k twins
    refine ⟨twins.id, fun i => ?_⟩
    rcases twins.sink_cases i with ⟨hl, hk⟩ | ⟨s, t, hl, hk, same⟩ <;> rw [hl, hk]
    rw [same.kept rfl]
    rfl
  exact List.rel_append (h.before.imp fun _ _ => shown)
    (.cons (shown h.line) (h.after.imp fun _ _ => shown))

theorem sinkAt?_calm (h : Desk.Twins (.calm c) w v) (s : SinkRef) :
    (v.sinkAt? s).map Sink.shownAs = (w.sinkAt? s).map Sink.shownAs := by
  unfold Desk.sinkAt?
  have lines := h.lines_calm
  generalize w.lines = ls at lines
  generalize v.lines = ks at lines
  induction lines with
  | nil => rfl
  | @cons l k ls ks first _ ih =>
    rw [List.find?_cons, List.find?_cons, first.1]
    split
    · exact first.2 s.place
    · exact ih

theorem isActive_calm (h : Desk.Twins (.calm c) w v) (s : SinkRef) :
    v.isActive s = w.isActive s := by
  have eq : ∀ u : Desk, u.isActive s = ((u.sinkAt? s).map Sink.shownAs).elim false Prod.snd := by
    intro u
    unfold Desk.isActive
    cases u.sinkAt? s <;> rfl
  rw [eq, eq, h.sinkAt?_calm]

theorem enrolment_calm (h : Desk.Twins (.calm c) w v) (s : SinkRef) :
    v.enrolment s = w.enrolment s := by
  have eq : ∀ u : Desk, u.enrolment s =
      ((u.sinkAt? s).map Sink.shownAs).elim ⟨s, 0, false⟩ fun x => ⟨s, x.1, x.2⟩ := by
    intro u
    unfold Desk.enrolment
    cases u.sinkAt? s <;> rfl
  rw [eq, eq, h.sinkAt?_calm]

variable {depth : Nat}

theorem onMultiplexer_fst (h : Desk.Twins (.calm c) w v) {f f' : Desk → Answer × Desk} {k : Nat}
    (hf : (f' v).1 = (f w).1.plus k) :
    (Operation.onMultiplexer v f').1 = (Operation.onMultiplexer w f).1.plus k := by
  unfold Operation.onMultiplexer
  rw [h.line.released]
  split
  · rfl
  · exact hf

/-- A new sink has the same number in both runs, and is active in both or in none. -/
theorem register_fst (h : Desk.Twins (.calm c) w v) (name : String) (rule : Rule)
    (script : Script Operation) :
    (v.registerWith (Desk.callWith (Desk.perform depth)) name (Guise.calm.rule rule)
        (Operation.scriptUnder .calm script)).1 =
      (w.registerWith (Desk.callWith (Desk.perform depth)) name rule script).1 := by
  have registered := (callers (p := .calm c) depth).register name rule script h
  rw [Desk.registerWith_fst, Desk.registerWith_fst, h.line.id, h.line.length]
  exact registered.enrolment_calm _

theorem subscribeAs_fst (h : Desk.Twins (.calm c) w v) (name : String) (rule : Rule) :
    (v.subscribeAsWith (Desk.callWith (Desk.perform depth)) name (Guise.calm.rule rule)).1 =
      (w.subscribeAsWith (Desk.callWith (Desk.perform depth)) name rule).1 := by
  have subscribed := (callers (p := .calm c) depth).subscribeAs name rule h
  rw [Desk.subscribeAsWith_fst, Desk.subscribeAsWith_fst, h.line.id, h.line.length]
  exact subscribed.enrolment_calm _

/-- A message that comes in is answered in the calm run with the count of its dispatch. -/
theorem inbound_fst (h : Desk.Twins (.calm c) w v) (m : Message) :
    ((Operation.inbound m).run (Desk.callWith (Desk.perform depth)) v).1 =
      ((Operation.inbound m).run (Desk.callWith (Desk.perform depth)) w).1.plus
        ((Operation.inbound m).casualties (Desk.callWith (Desk.perform depth)) w) := by
  have hc : Callers.Twins (.calm c) (Desk.callWith (Desk.perform depth))
    (Desk.callWith (Desk.perform depth)) := Desk.Twins.callers depth
  unfold Operation.run Operation.casualties
  dsimp only
  by_cases hr : m.kind.isRoutable = true
  case pos =>
    by_cases hs : w.line.state = .established
    · rw [Desk.inboundWith_of_established hr hs,
        Desk.inboundWith_of_established hr (h.line.state.trans hs), if_pos ⟨hr, hs⟩,
        h.dispatch_fst]
      rfl
    · rw [Desk.inboundWith_of_not_established hr hs,
        Desk.inboundWith_of_not_established hr fun hv => hs (h.line.state.symm.trans hv),
        if_neg fun both => hs both.2]
      rfl
  case neg =>
    rw [if_neg fun both => hr both.1, Answer.plus_zero]
    unfold Desk.inboundWith
    cases hk : m.kind with
    | keepalive => rfl
    | handshake =>
      have answer := (hc.authenticateInbound m h).answer
      dsimp only
      split <;> split <;> simp_all
    | logout => rfl
    | reject => exact absurd (by rw [hk]; rfl) hr
    | application => exact absurd (by rw [hk]; rfl) hr

/-- **An operation gives the same answer in the calm run**, but that a count is greater by the
callbacks of its own that panicked. -/
theorem run_fst (h : Desk.Twins (.calm c) w v) (op : Operation) :
    (op.calmed.run (Desk.callWith (Desk.perform depth)) v).1 =
      (op.run (Desk.callWith (Desk.perform depth)) w).1.plus
        (op.casualties (Desk.callWith (Desk.perform depth)) w) := by
  have hc : Callers.Twins (.calm c) (Desk.callWith (Desk.perform depth))
    (Desk.callWith (Desk.perform depth)) := Desk.Twins.callers depth
  unfold Operation.calmed
  cases op with
  | register name rule script =>
    rw [Operation.under]
    exact h.onMultiplexer_fst (k := 0) (congrArg Answer.enrolled (h.register_fst name rule script))
  | subscribe name rule =>
    rw [Operation.under]
    exact h.onMultiplexer_fst (k := 0) (congrArg Answer.enrolled (h.subscribeAs_fst name rule))
  | dispatch m =>
    rw [Operation.under_of_not_registers rfl]
    refine h.onMultiplexer_fst ?_
    show Answer.count _ = (Answer.count _).plus _
    rw [h.dispatch_fst]
    rfl
  | broadcast d =>
    rw [Operation.under_of_not_registers rfl]
    refine h.onMultiplexer_fst ?_
    show Answer.count _ = (Answer.count _).plus _
    rw [h.broadcast_fst]
    rfl
  | resume =>
    rw [Operation.under_of_not_registers rfl]
    exact h.onMultiplexer_fst (k := 0) rfl
  | close =>
    rw [Operation.under_of_not_registers rfl]
    refine h.onMultiplexer_fst (k := 0) ?_
    show Answer.count v.line.mux.active.length = Answer.count w.line.mux.active.length
    rw [h.active_calm]
  | activeCount =>
    rw [Operation.under_of_not_registers rfl]
    refine h.onMultiplexer_fst (k := 0) ?_
    show Answer.count v.line.mux.active.length = Answer.count w.line.mux.active.length
    rw [h.active_calm]
  | dispose handle =>
    rw [Operation.under_of_not_registers rfl]
    unfold Operation.run
    dsimp only
    rw [h.resolve?]
    split
    · rfl
    · exact congrArg Answer.flag ((h.strike _).2 rfl)
  | isActive handle =>
    rw [Operation.under_of_not_registers rfl]
    unfold Operation.run
    dsimp only
    rw [h.resolve?]
    split
    · rfl
    · exact congrArg Answer.flag (h.isActive_calm _)
  | create =>
    rw [Operation.under_of_not_registers rfl]
    exact (congrArg Answer.outcome h.create.answer).trans (Answer.plus_zero _).symm
  | establish =>
    rw [Operation.under_of_not_registers rfl]
    exact (congrArg Answer.outcome h.establish.answer).trans (Answer.plus_zero _).symm
  | drop cause m =>
    rw [Operation.under_of_not_registers rfl]
    exact (congrArg Answer.flag (hc.drop cause m h).answer).trans (Answer.plus_zero _).symm
  | authenticateOutbound m =>
    rw [Operation.under_of_not_registers rfl]
    exact congrArg (fun r : Except LinkError Unit × Message => Answer.outgoing r.1 r.2)
      (h.authenticateOutbound m).answer
  | authenticateInbound m =>
    rw [Operation.under_of_not_registers rfl]
    exact (congrArg Answer.outcome (hc.authenticateInbound m h).answer).trans
      (Answer.plus_zero _).symm
  | outboundAdmin m =>
    rw [Operation.under_of_not_registers rfl]
    exact congrArg (fun r : Except LinkError Unit × Message => Answer.outgoing r.1 r.2)
      (h.outboundAdmin m).answer
  | outboundApplication m =>
    rw [Operation.under_of_not_registers rfl]
    rfl
  | inbound m =>
    rw [Operation.under_of_not_registers rfl]
    exact h.inbound_fst m

end Desk.Twins

/-! ## §4. Every run -/

namespace Operation

/-- What each count of a run misses. -/
def casualtiesAll : List Operation → Desk → List Nat
  | [], _ => []
  | op :: rest, w => op.casualties (w.caller op.weight) w :: casualtiesAll rest (op.exec w).2

theorem answers_execAll {c : ConnectionId} {w v : Desk} (h : Desk.Twins (.calm c) w v)
    (ops : List Operation) : (execAll (ops.map calmed) v).1 =
      List.zipWith Answer.plus (execAll ops w).1 (casualtiesAll ops w) := by
  induction ops generalizing w v with
  | nil => rfl
  | cons op rest ih =>
    have first : (op.calmed.exec v).1 =
        (op.exec w).1.plus (op.casualties (w.caller op.weight) w) := by
      have same : v.caller op.calmed.weight = w.caller op.weight := h.caller op
      unfold exec
      rw [same]
      exact h.run_fst op
    have next : Desk.Twins (.calm c) (op.exec w).2 (op.calmed.exec v).2 := h.exec op
    show (op.calmed.exec v).1 :: (execAll (rest.map calmed) (op.calmed.exec v).2).1 =
      (op.exec w).1.plus _ :: List.zipWith Answer.plus (execAll rest (op.exec w).2).1 _
    rw [first, ih next]

/-- **A panic goes no further.**  Every run, from the first configuration on and with all that its
callbacks set off, is set beside the run in which no rule and no callback panics.  After the same
operations the active set, the phase of every sink, the record and the callbacks, with the messages
and drops that they bring, are the same; each operation has answered, and its answer is the same
but for the callbacks of its own dispatch or broadcast that panicked, which its count misses.  And
in the middle of operations, at every depth, the two runs stand and answer alike. -/
theorem panics_execAll (w : Desk) (config : ConnectionConfig) (capacity : Nat)
    (ops : List Operation) :
    let w := w.opening config capacity
    let v := execAll ops w
    let u := execAll (ops.map calmed) w
    (u.2.line.mux.active = v.2.line.mux.active ∧ u.2.line.mux.phase? = v.2.line.mux.phase? ∧
      u.2.line.mux.dropRecord = v.2.line.mux.dropRecord ∧
      u.2.line.mux.closed = v.2.line.mux.closed ∧ u.2.line.state = v.2.line.state ∧
      u.2.shared.calls = v.2.shared.calls) ∧
    u.1 = List.zipWith Answer.plus v.1 (casualtiesAll ops w) ∧
    Desk.Twins (.calm config.id) w w ∧
    ∀ (x y : Desk), Desk.Twins (.calm config.id) x y →
      (∀ i c, y.panicsAt c i = false) ∧
      (∀ i t, y.sink? i = some t → ∀ m, t.rule.judge m ≠ .panics) ∧
      ∀ (depth : Nat) (op : Operation),
        Desk.Twins (.calm config.id) (Desk.perform (depth + 1) op x).2
          (Desk.perform (depth + 1) op.calmed y).2 ∧
        (Desk.perform (depth + 1) op.calmed y).1 = (Desk.perform (depth + 1) op x).1.plus
          (op.casualties (Desk.callWith (Desk.perform depth)) x) := by
  intro w v u
  have start : Desk.Twins (.calm config.id) w w := .opening _ config capacity
  have twins : Desk.Twins (.calm config.id) v.2 u.2 := start.execAll ops
  refine ⟨⟨twins.active_calm, twins.phase?_calm, twins.line.dropRecord, twins.line.closed,
    twins.line.state, twins.calls_calm⟩, answers_execAll start ops, start, ?_⟩
  intro x y h
  refine ⟨fun i c => h.panicsAt_calm c i, fun i t ht m => h.judge_calm ht m, ?_⟩
  exact fun depth op => ⟨h.perform (depth + 1) op, h.run_fst op⟩

/-- Of three waiters the first panics in its callbacks, after it has registered a subscription, and
the rule of the second panics.  The third is told of everything, and the counts miss the first. -/
theorem panics_execAll_three_waiters :
    let config : ConnectionConfig :=
      ⟨"venue", .plain "FIX.4.4" "A" "B", .dialingSingleThreaded, none⟩
    let report : Message := .empty .executionReport
    let drop : ConnectionDropped := ⟨config.id, .disconnect, none⟩
    let shaky : Reaction Operation := ⟨[.subscribe "late" .always], true⟩
    let ops : List Operation :=
      [.register "first" .always ⟨[shaky], [⟨[], true⟩], none⟩,
        .register "second" .failing ⟨[], [], none⟩, .register "third" .always ⟨[], [], none⟩,
        .dispatch report, .broadcast drop]
    let w := (Desk.ofLine (.ofConfig config 4) ⟨[], 0⟩).opening config 4
    casualtiesAll ops w = [0, 0, 0, 1, 1] ∧
    (execAll (ops.map calmed) w).1 = List.zipWith Answer.plus (execAll ops w).1 [0, 0, 0, 1, 1] ∧
    (execAll (ops.map calmed) w).2.shared.calls =
      [(0, .message report), (2, .message report), (0, .error drop), (1, .error drop),
        (2, .error drop), (3, .error drop)] := by
  intro config report drop shaky ops w
  obtain ⟨⟨-, -, -, -, -, calls⟩, answers, -⟩ :=
    panics_execAll (Desk.ofLine (.ofConfig config 4) ⟨[], 0⟩) config 4 ops
  have lost : casualtiesAll ops w = [0, 0, 0, 1, 1] := by decide
  refine ⟨lost, ?_, ?_⟩
  · rw [← lost]
    exact answers
  · rw [calls]
    decide

end Operation

end Correlator
