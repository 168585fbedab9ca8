/-
  Correlator.Proofs.Lockstep — TWO RUNS STAY IN STEP.

  Two runs that perform the same operations, one of them in a guise, stay in
  agreement whatever the callbacks set off.  The proof follows the operations:
  one lemma for each function of the desk, given callbacks that keep the runs
  in step, and at the end the nesting of callbacks.  A callback to a sink that
  is out of play is made in the first run only, and sets off nothing, since only
  a stream listens there.

  Main results:
    * `Callers.Twins`, `Steps.Twins` — callbacks and steps that keep two runs
      in step,
    * `Callers.Twins.run` — one operation,
    * `Desk.Twins.perform`, `Desk.Twins.exec`, `Desk.Twins.execAll` —
      operations with all that they set off.
-/
import Correlator.Proofs.Twins
import Correlator.Proofs.Visits
namespace Correlator

/-! ## §1. Many sinks -/

/-- Callbacks that keep two runs in step: one to a sink in play is made in both, one to another
sink in the first run only. -/
structure Callers.Twins (p : Pairing) (call call' : Caller) : Prop where
  kept : ∀ {w v : Desk}, Desk.Twins p w v → ∀ {i : Nat}, p.keepsAt i = true → ∀ c : Call,
    Desk.Twins p (call i c w).2 (call' i c v).2
  left : ∀ {w v : Desk}, Desk.Twins p w v → ∀ {i : Nat}, p.keepsAt i = false → ∀ c : Call,
    Desk.Twins p (call i c w).2 v

/-- Two ways of going through sinks that keep two runs in step. -/
structure Steps.Twins (p : Pairing) (step step' : Nat → Desk → Bool × Desk) : Prop where
  kept : ∀ {w v : Desk}, Desk.Twins p w v → ∀ {i : Nat}, p.keepsAt i = true →
    Desk.Twins p (step i w).2 (step' i v).2
  left : ∀ {w v : Desk}, Desk.Twins p w v → ∀ {i : Nat}, p.keepsAt i = false →
    Desk.Twins p (step i w).2 v

section

variable {p : Pairing} {call call' : Caller}

theorem Desk.tell_snd (call : Caller) (i : Nat) (c : Call) (w : Desk) :
    (w.tell call i c).2 = (call i c w).2 ∨
      (w.tell call i c).2 = (call i c w).2.note .callbackPanicked := by
  unfold tell
  split
  case h_1 h => rw [h]; exact .inr rfl
  case h_2 h => rw [h]; exact .inl rfl

namespace Callers.Twins

theorem tell (hc : Callers.Twins p call call') {w v : Desk} (h : Desk.Twins p w v) {i : Nat}
    (hi : p.keepsAt i = true) (c : Call) :
    Desk.Twins p (w.tell call i c).2 (v.tell call' i c).2 := by
  have called := hc.kept h hi c
  rcases Desk.tell_snd call i c w with hw | hw <;>
  rcases Desk.tell_snd call' i c v with hv | hv <;> rw [hw, hv]
  · exact called
  · exact called.note_right _
  · exact called.note_left _
  · exact called.note _

theorem tell_left (hc : Callers.Twins p call call') {w v : Desk} (h : Desk.Twins p w v) {i : Nat}
    (hi : p.keepsAt i = false) (c : Call) : Desk.Twins p (w.tell call i c).2 v := by
  have called := hc.left h hi c
  rcases Desk.tell_snd call i c w with hw | hw <;> rw [hw]
  · exact called
  · exact called.note_left _

end Callers.Twins

/-- A sink in play takes the same messages in both runs. -/
theorem Desk.Twins.takes {w v : Desk} (h : Desk.Twins p w v) {i : Nat} (hi : p.keepsAt i = true)
    (m : Message) : v.takes m i = w.takes m i := by
  unfold Desk.takes
  rcases h.sink_cases i with ⟨hw, hv⟩ | ⟨s, t, hw, hv, twins⟩ <;> rw [hw, hv]
  rw [twins.kept hi]
  have accepts : (decide ((p.guise.rule s.rule).judge m = .accepts)) =
      decide (s.rule.judge m = .accepts) := by
    rw [decide_eq_decide]
    exact p.guise.accepts s.rule m
  exact congrArg (s.isActive && ·) accepts

namespace Callers.Twins

theorem deliver (hc : Callers.Twins p call call') (m : Message) :
    Steps.Twins p (Desk.deliver call m) (Desk.deliver call' m) where
  kept := by
    intro w v h i hi
    cases htakes : w.takes m i with
    | true =>
      have htakes' : v.takes m i = true := by rw [h.takes hi, htakes]
      rw [Desk.deliver_of_takes htakes, Desk.deliver_of_takes htakes']
      exact hc.tell h hi _
    | false =>
      have htakes' : v.takes m i = false := by rw [h.takes hi, htakes]
      rcases Desk.deliver_of_not_takes call htakes with hw | hw <;>
      rcases Desk.deliver_of_not_takes call' htakes' with hv | hv <;> rw [hw, hv]
      · exact h
      · exact h.note_right _
      · exact h.note_left _
      · exact h.note _
  left := by
    intro w v h i hi
    cases htakes : w.takes m i with
    | true =>
      rw [Desk.deliver_of_takes htakes]
      exact hc.tell_left h hi _
    | false =>
      rcases Desk.deliver_of_not_takes call htakes with hw | hw <;> rw [hw]
      · exact h
      · exact h.note_left _

/-- A sink that is ended leaves its phase in both runs before it is told. -/
theorem finish (hc : Callers.Twins p call call') (phase : Phase) (c : Call) :
    Steps.Twins p (Desk.finish call phase c) (Desk.finish call' phase c) where
  kept := by
    intro w v h i hi
    unfold Desk.finish
    rcases h.sink_cases i with ⟨hw, hv⟩ | ⟨s, t, hw, hv, twins⟩ <;> rw [hw, hv]
    · exact h
    · have same : t.isActive = s.isActive := by rw [twins.kept hi]; rfl
      dsimp only
      rw [same]
      split
      · exact hc.tell (h.setPhase hi phase) hi c
      · exact h
  left := by
    intro w v h i hi
    unfold Desk.finish
    rcases h.sink_cases i with ⟨hw, -⟩ | ⟨s, t, hw, -, -⟩ <;> rw [hw]
    · exact h
    · have ended : Desk.Twins p (w.mapSink i fun s => { s with phase }) v := by
        refine h.mapSink_left fun s t twins => ⟨fun hk => ?_, twins.left⟩
        rw [hi] at hk
        cases hk
      dsimp only
      split
      · exact hc.tell_left ended hi c
      · exact h

end Callers.Twins

/-- Going through sinks, the second run passes over those that are out of play. -/
theorem Steps.Twins.visit {step step' : Nat → Desk → Bool × Desk} (hs : Steps.Twins p step step')
    (places : List Nat) {w v : Desk} (h : Desk.Twins p w v) :
    Desk.Twins p (Desk.visit step places w).2
      (Desk.visit step' (places.filter p.keepsAt) v).2 := by
  induction places generalizing w v with
  | nil => exact h
  | cons i rest ih =>
    cases hi : p.keepsAt i with
    | true =>
      rw [List.filter_cons_of_pos hi, Desk.visit_cons_snd, Desk.visit_cons_snd]
      exact ih (hs.kept h hi)
    | false =>
      rw [List.filter_cons_of_neg (by simp [hi]), Desk.visit_cons_snd]
      exact ih (hs.left h hi)

/-- The multiplexer is changed in both runs, and its active set is emptied. -/
theorem Desk.Twins.empty {w v : Desk} (h : Desk.Twins p w v) {f : Multiplexer → Multiplexer}
    (hb : ∀ l : Line, (l.mapMux f).bare = l.bare.mapMux f) (hs : ∀ x, (f x).sinks = x.sinks)
    (ha : ∀ x, (f x).active = []) : Desk.Twins p (w.mapMux f) (v.mapMux f) where
  id := h.id
  line := by
    constructor
    · show (v.line.mapMux f).bare = (w.line.mapMux f).bare
      rw [hb, hb, h.line.bare]
    · show (f v.line.mux).active = (f w.line.mux).active.filter _
      rw [ha, ha]
      rfl
    · intro i
      show Option.Rel _ (f w.line.mux).sinks[i]? (f v.line.mux).sinks[i]?
      rw [hs, hs]
      exact h.line.sinks i
    · intro i hi
      have hi : (f w.line.mux).sinks.length ≤ i := hi
      rw [hs] at hi
      exact h.line.fresh i hi
  before := h.before
  after := h.after
  shared := h.shared

namespace Callers.Twins

theorem dispatch (hc : Callers.Twins p call call') (m : Message) {w v : Desk}
    (h : Desk.Twins p w v) : Desk.Twins p (w.dispatchWith call m).2 (v.dispatchWith call' m).2 := by
  have visited := (hc.deliver m).visit w.line.mux.active h
  rw [← h.active] at visited
  unfold Desk.dispatchWith
  dsimp only
  split <;> split
  · exact visited.note _
  · exact visited.note_left _
  · exact visited.note_right _
  · exact visited

theorem broadcast (hc : Callers.Twins p call call') (d : ConnectionDropped) {w v : Desk}
    (h : Desk.Twins p w v) :
    Desk.Twins p (w.broadcastWith call d).2 (v.broadcastWith call' d).2 := by
  have drained := h.empty (f := fun x => { x with dropRecord := some d, active := [] })
    (fun _ => rfl) (fun _ => rfl) (fun _ => rfl)
  have told := (hc.finish .terminated (.error d)).visit w.line.mux.active drained
  rw [← h.active] at told
  exact told.note .dropBroadcast

theorem close (hc : Callers.Twins p call call') {w v : Desk} (h : Desk.Twins p w v) :
    Desk.Twins p (w.closeWith call).2 (v.closeWith call').2 := by
  have drained := h.empty (f := fun x => { x with closed := true, active := [] })
    (fun _ => rfl) (fun _ => rfl) (fun _ => rfl)
  have told := (hc.finish .disposed .closed).visit w.line.mux.active drained
  rw [← h.active] at told
  exact told.note .multiplexerClosed

end Callers.Twins

/-! ## §2. New sinks -/

namespace Desk.Twins

variable {w v : Desk}

theorem resume (h : Desk.Twins p w v) : Desk.Twins p w.resume v.resume := by
  unfold Desk.resume
  rw [h.line.dropRecord]
  split
  · exact h
  · refine Desk.Twins.note ?_ _
    exact ⟨h.id, ⟨congrArg (Line.mapMux fun x => { x with dropRecord := none }) h.line.bare,
      h.line.active, h.line.sinks, h.line.fresh⟩, h.before, h.after, h.shared⟩

/-- The next sink takes the next place in both runs, and is in play. -/
theorem fresh (h : Desk.Twins p w v) : p.keepsAt w.line.mux.sinks.length = true := by
  have fresh := h.line.fresh w.line.mux.sinks.length (Nat.le_refl _)
  rw [h.id] at fresh
  exact fresh

theorem seat (h : Desk.Twins p w v) (rule : Rule) (listener : Listener) :
    Desk.Twins p (w.seat rule listener)
      (v.seat (p.guise.rule rule) (listener.under p.guise)) where
  id := h.id
  line := by
    refine ⟨h.line.bare, h.line.active, ?_, ?_⟩
    · intro i
      show Option.Rel (Sink.Twins _ (p.keeps ⟨w.line.id, i⟩)) _ _
      unfold Line.sink?
      rw [sinks_seat, sinks_seat, h.shared.issued]
      -- An earlier place, the new one, or none.
      by_cases hlt : i < w.line.mux.sinks.length
      · rw [List.getElem?_append_left hlt,
          List.getElem?_append_left (by rw [h.line.length]; exact hlt)]
        exact h.line.sinks i
      · by_cases heq : i = w.line.mux.sinks.length
        · subst heq
          rw [List.getElem?_concat_length, ← h.line.length, List.getElem?_concat_length]
          refine .some ⟨fun _ => rfl, fun hout => ?_⟩
          rw [h.line.length, h.line.fresh _ (Nat.le_refl _)] at hout
          cases hout
        · rw [List.getElem?_eq_none (by simp; omega),
            List.getElem?_eq_none (by simp [h.line.length]; omega)]
          exact .none
    · intro i hi
      have hi : (w.line.mux.sinks ++ [_]).length ≤ i := hi
      rw [List.length_append] at hi
      exact h.line.fresh i (by omega)
  before := h.before
  after := h.after
  shared := ⟨h.shared.barrier, h.shared.names, congrArg (· + 1) h.shared.issued, h.shared.calls⟩

/-- A new sink is admitted to the active set in both runs. -/
theorem enlist (h : Desk.Twins p w v) {i : Nat} (hi : p.keepsAt i = true) :
    Desk.Twins p (w.mapMux fun x => { x with active := x.active ++ [i] })
      (v.mapMux fun x => { x with active := x.active ++ [i] }) where
  id := h.id
  line := by
    refine ⟨h.line.bare, ?_, h.line.sinks, h.line.fresh⟩
    have kept : p.keeps ⟨w.line.id, i⟩ = true := by rw [h.id]; exact hi
    show v.line.mux.active ++ [i] =
      (w.line.mux.active ++ [i]).filter fun j => p.keeps ⟨w.line.id, j⟩
    rw [List.filter_append, h.line.active]
    simp [kept]
  before := h.before
  after := h.after
  shared := h.shared

end Desk.Twins

namespace Callers.Twins

variable {w v : Desk}

theorem enrol (hc : Callers.Twins p call call') (rule : Rule) (listener : Listener)
    (h : Desk.Twins p w v) : Desk.Twins p (w.enrol call rule listener).2
      (v.enrol call' (p.guise.rule rule) (listener.under p.guise)).2 := by
  have seated := h.seat rule listener
  have hw : ∀ (r : Rule) (k : Listener) (u : Desk), (u.seat r k).line.mux.closed =
      u.line.mux.closed := fun _ _ _ => rfl
  have hd : ∀ (r : Rule) (k : Listener) (u : Desk), (u.seat r k).line.mux.dropRecord =
      u.line.mux.dropRecord := fun _ _ _ => rfl
  unfold Desk.enrol
  dsimp only
  rw [hw, hw, hd, hd, h.line.closed, h.line.dropRecord, h.line.length]
  split
  · exact (hc.finish .disposed .closed).kept seated h.fresh
  · split
    case h_1 d _ => exact (hc.finish .terminated (.error d)).kept (seated.note _) h.fresh
    case h_2 => exact (seated.enlist h.fresh).note _

/-- A new sink is known as the same one in both runs. -/
theorem enrol_fst (call call' : Caller) (h : Desk.Twins p w v) (rule rule' : Rule)
    (listener listener' : Listener) :
    (v.enrol call' rule' listener').1 = (w.enrol call rule listener).1 := by
  rw [Desk.enrol_fst, Desk.enrol_fst, h.line.id, h.line.length]

theorem register (hc : Callers.Twins p call call') (name : String) (rule : Rule)
    (script : Script Operation) (h : Desk.Twins p w v) :
    Desk.Twins p (w.registerWith call name rule script).2
      (v.registerWith call' name (p.guise.rule rule) (Operation.scriptUnder p.guise script)).2 := by
  have enrolled := hc.enrol rule (.scripted name script) h
  unfold Desk.registerWith
  dsimp only
  rw [enrol_fst call call' h rule _ (.scripted name script)]
  exact enrolled.enter name _

theorem subscribe (hc : Callers.Twins p call call') (rule : Rule) (h : Desk.Twins p w v) :
    Desk.Twins p (w.subscribeWith call rule).2
      (v.subscribeWith call' (p.guise.rule rule)).2 := by
  unfold Desk.subscribeWith
  rw [h.line.capacity]
  exact hc.enrol rule (.stream _) h

theorem subscribeAs (hc : Callers.Twins p call call') (name : String) (rule : Rule)
    (h : Desk.Twins p w v) : Desk.Twins p (w.subscribeAsWith call name rule).2
      (v.subscribeAsWith call' name (p.guise.rule rule)).2 := by
  have subscribed := hc.subscribe rule h
  have same : (v.subscribeWith call' (p.guise.rule rule)).1 = (w.subscribeWith call rule).1 :=
    enrol_fst call call' h _ _ _ _
  unfold Desk.subscribeAsWith
  dsimp only
  rw [same]
  exact subscribed.enter name _

end Callers.Twins

/-! ## §3. The life of the connection -/

/-- What comes of a call in the first run and in the second. -/
structure Results.Twins {α : Type} (p : Pairing) (r r' : α × Desk) : Prop where
  answer : r'.1 = r.1
  desk : Desk.Twins p r.2 r'.2

namespace Desk.Twins

variable {w v : Desk}

/-- A step is checked with the same outcome. -/
theorem check (h : Desk.Twins p w v) (next : ConnectionState) :
    Results.Twins p (w.check next) (v.check next) := by
  unfold Desk.check
  rw [h.line.id, h.line.state]
  split
  · exact ⟨rfl, h.note _⟩
  · refine ⟨rfl, ?_⟩
    dsimp only
    split
    · exact h
    · exact h.note _

/-- The step is refused in both runs, or in none. -/
theorem check_cases (h : Desk.Twins p w v) (next : ConnectionState) :
    (∃ e w' v', w.check next = (.error e, w') ∧ v.check next = (.error e, v') ∧
      Desk.Twins p w' v') ∨
    ∃ w' v', w.check next = (.ok (), w') ∧ v.check next = (.ok (), v') ∧ Desk.Twins p w' v' := by
  obtain ⟨answer, desk⟩ := h.check next
  generalize w.check next = r at answer desk
  generalize v.check next = r' at answer desk
  obtain ⟨e | u, w'⟩ := r <;> obtain ⟨e' | u', v'⟩ := r' <;> cases answer
  · exact .inl ⟨e, w', v', rfl, rfl, desk⟩
  · exact .inr ⟨w', v', rfl, rfl, desk⟩

theorem create (h : Desk.Twins p w v) : Results.Twins p w.create v.create := by
  unfold Desk.create
  rcases h.check_cases .created with ⟨e, w', v', hw, hv, h'⟩ | ⟨w', v', hw, hv, h'⟩ <;> rw [hw, hv]
  · exact ⟨rfl, h'⟩
  · exact ⟨rfl, ((h'.setState _).note _).arrive _⟩

theorem comeUp (h : Desk.Twins p w v) : Desk.Twins p w.comeUp v.comeUp :=
  ((h.setState .established).mapLine (f := fun l => { l with logoutText := none }) (fun _ => rfl)
    (fun _ => rfl) (fun _ => rfl)).note _

theorem establish (h : Desk.Twins p w v) : Results.Twins p w.establish v.establish := by
  unfold Desk.establish
  rcases h.check_cases .established with ⟨e, w', v', hw, hv, h'⟩ | ⟨w', v', hw, hv, h'⟩ <;>
    rw [hw, hv]
  · exact ⟨rfl, h'⟩
  · exact ⟨rfl, h'.resume.comeUp.arrive _⟩

/-- The drop goes on record with the same words. -/
theorem lossOf (h : Desk.Twins p w v) (cause : DropCause) (m : Option Message) :
    v.lossOf cause m = w.lossOf cause m := by
  unfold Desk.lossOf
  rw [h.line.logoutText, h.line.id]

theorem goDown (h : Desk.Twins p w v) (cause : DropCause) (m : Option Message) :
    Desk.Twins p (w.goDown cause m) (v.goDown cause m) := by
  have down := h.mapLine (f := fun l => { l with state := .dropped, logoutText := none })
    (fun _ => rfl) (fun _ => rfl) (fun _ => rfl)
  unfold Desk.goDown
  dsimp only
  rw [h.lossOf]
  exact (down.record _ fun _ => rfl).note _

theorem authenticateOutbound (h : Desk.Twins p w v) (m : Message) :
    Results.Twins p (w.authenticateOutbound m) (v.authenticateOutbound m) := by
  unfold Desk.authenticateOutbound
  split
  · exact ⟨rfl, h⟩
  · rcases h.check_cases .authenticating with ⟨e, w', v', hw, hv, h'⟩ | ⟨w', v', hw, hv, h'⟩ <;>
      rw [hw, hv]
    · exact ⟨rfl, h'⟩
    · have offered := (h'.setState .authenticating).record (.offered m) fun _ => rfl
      dsimp only
      rw [offered.line.config]
      split
      · split
        · exact ⟨rfl, offered⟩
        · exact ⟨rfl, offered.note _⟩
      · exact ⟨rfl, offered⟩

theorem turnAway (h : Desk.Twins p w v) (m : Message) (drop : ConnectionDropped) :
    Desk.Twins p (w.turnAway m drop) (v.turnAway m drop) :=
  ((h.note _).setState _).record _ fun _ => rfl

theorem sayGoodbye (h : Desk.Twins p w v) (m : Message) :
    Desk.Twins p (w.sayGoodbye m) (v.sayGoodbye m) :=
  (h.mapLine (f := fun l => { l with logoutText := some ((m.get? Tag.text).getD "") })
    (fun _ => rfl) (fun _ => rfl) (fun _ => rfl)).record _ fun _ => rfl

theorem outboundAdmin (h : Desk.Twins p w v) (m : Message) :
    Results.Twins p (w.outboundAdmin m) (v.outboundAdmin m) := by
  unfold Desk.outboundAdmin
  split
  · exact h.authenticateOutbound m
  · exact ⟨rfl, h.sayGoodbye m⟩
  · exact ⟨rfl, h⟩

theorem outboundApplication (h : Desk.Twins p w v) (m : Message) :
    Desk.Twins p (w.outboundApplication m) (v.outboundApplication m) := by
  unfold Desk.outboundApplication
  split
  · exact h
  · exact h.note _

theorem guard? (h : Desk.Twins p w v) : v.guard? = w.guard? := by
  unfold Desk.guard?
  rw [h.line.config]

theorem resolve? (h : Desk.Twins p w v) (handle : Handle) :
    v.resolve? handle = w.resolve? handle := by
  cases handle with
  | named name =>
    unfold Desk.resolve?
    rw [h.shared.names]
  | sink ref => rfl

end Desk.Twins

namespace Callers.Twins

variable {w v : Desk}

theorem drop (hc : Callers.Twins p call call') (cause : DropCause) (m : Option Message)
    (h : Desk.Twins p w v) :
    Results.Twins p (w.dropWith call cause m) (v.dropWith call' cause m) := by
  unfold Desk.dropWith
  rw [h.line.state, h.lossOf]
  split
  · exact ⟨rfl, h.note _⟩
  · exact ⟨rfl, hc.broadcast _ (h.goDown cause m)⟩

theorem weigh (hc : Callers.Twins p call call') (m : Message) (h : Desk.Twins p w v) :
    Results.Twins p (w.weighWith call m) (v.weighWith call' m) := by
  have came := h.setState .authenticating
  unfold Desk.weighWith
  dsimp only
  rw [came.guard?, came.line.id]
  split
  · exact ⟨rfl, came.record _ fun _ => rfl⟩
  · split
    · exact ⟨rfl, (came.record _ fun _ => rfl).note _⟩
    · exact ⟨rfl, hc.broadcast _ (came.turnAway m _)⟩

theorem authenticateInbound (hc : Callers.Twins p call call') (m : Message)
    (h : Desk.Twins p w v) :
    Results.Twins p (w.authenticateInboundWith call m) (v.authenticateInboundWith call' m) := by
  unfold Desk.authenticateInboundWith
  split
  · exact ⟨rfl, h⟩
  · rcases h.check_cases .authenticating with ⟨e, w', v', hw, hv, h'⟩ | ⟨w', v', hw, hv, h'⟩ <;>
      rw [hw, hv]
    · exact ⟨rfl, h'⟩
    · exact hc.weigh m h'

/-- A message that comes in is taken in the same way; only the count of those that it reached may
differ. -/
theorem inbound (hc : Callers.Twins p call call') (m : Message) (h : Desk.Twins p w v) :
    Desk.Twins p (w.inboundWith call m).2 (v.inboundWith call' m).2 := by
  by_cases hr : m.kind.isRoutable = true
  case pos =>
    by_cases hs : w.line.state = .established
    · rw [Desk.inboundWith_of_established hr hs,
        Desk.inboundWith_of_established hr (h.line.state.trans hs)]
      exact hc.dispatch m h
    · rw [Desk.inboundWith_of_not_established hr hs,
        Desk.inboundWith_of_not_established hr fun hv => hs (h.line.state.symm.trans hv)]
      exact h.note _
  case neg =>
    unfold Desk.inboundWith
    cases hk : m.kind with
    | keepalive => exact h.note _
    | handshake =>
      have desk := (hc.authenticateInbound m h).desk
      dsimp only
      split <;> split <;> simp_all
    | logout => exact (hc.drop .logout (some m) h).desk
    | reject => exact absurd (by rw [hk]; rfl) hr
    | application => exact absurd (by rw [hk]; rfl) hr

/-! ## §4. Operations, and what they set off -/

theorem onMultiplexer (h : Desk.Twins p w v) {f f' : Desk → Answer × Desk}
    (hf : Desk.Twins p (f w).2 (f' v).2) :
    Desk.Twins p (Operation.onMultiplexer w f).2 (Operation.onMultiplexer v f').2 := by
  unfold Operation.onMultiplexer
  rw [h.line.released]
  split
  · exact h
  · exact hf

/-- **An operation keeps two runs in step**, if its callbacks do. -/
theorem run (hc : Callers.Twins p call call') (op : Operation) (h : Desk.Twins p w v) :
    Desk.Twins p (op.run call w).2 ((op.under p.guise).run call' v).2 := by
  cases op with
  | register name rule script =>
    rw [Operation.under]
    exact onMultiplexer h (hc.register name rule script h)
  | subscribe name rule =>
    rw [Operation.under]
    exact onMultiplexer h (hc.subscribeAs name rule h)
  | dispatch m =>
    rw [Operation.under_of_not_registers rfl]
    exact onMultiplexer h (hc.dispatch m h)
  | broadcast d =>
    rw [Operation.under_of_not_registers rfl]
    exact onMultiplexer h (hc.broadcast d h)
  | resume =>
    rw [Operation.under_of_not_registers rfl]
    exact onMultiplexer h h.resume
  | close =>
    rw [Operation.under_of_not_registers rfl]
    exact onMultiplexer h (hc.close h)
  | activeCount =>
    rw [Operation.under_of_not_registers rfl]
    exact onMultiplexer h h
  | dispose handle =>
    rw [Operation.under_of_not_registers rfl]
    unfold Operation.run
    dsimp only
    rw [h.resolve?]
    split
    · exact h
    · exact h.dispose _
  | isActive handle =>
    rw [Operation.under_of_not_registers rfl]
    unfold Operation.run
    dsimp only
    rw [h.resolve?]
    split <;> exact h
  | create =>
    rw [Operation.under_of_not_registers rfl]
    exact h.create.desk
  | establish =>
    rw [Operation.under_of_not_registers rfl]
    exact h.establish.desk
  | drop cause m =>
    rw [Operation.under_of_not_registers rfl]
    exact (hc.drop cause m h).desk
  | authenticateOutbound m =>
    rw [Operation.under_of_not_registers rfl]
    exact (h.authenticateOutbound m).desk
  | authenticateInbound m =>
    rw [Operation.under_of_not_registers rfl]
    exact (hc.authenticateInbound m h).desk
  | outboundAdmin m =>
    rw [Operation.under_of_not_registers rfl]
    exact (h.outboundAdmin m).desk
  | outboundApplication m =>
    rw [Operation.under_of_not_registers rfl]
    exact h.outboundApplication m
  | inbound m =>
    rw [Operation.under_of_not_registers rfl]
    exact hc.inbound m h

end Callers.Twins

end

namespace Desk.Twins

variable {p : Pairing} {w v : Desk}

/-- The listener of a sink in play takes a callback in both runs. -/
theorem hear (h : Desk.Twins p w v) {i : Nat} {s : Sink} (hi : p.keepsAt i = true) (c : Call) :
    Desk.Twins p (w.hear i s c) (v.hear i (s.under p.guise) c) := by
  have called : Desk.Twins p (w.record (.called i (s.listener.hearer c) c))
      (v.record (.called i ((s.under p.guise).listener.hearer c) c)) :=
    ⟨h.id, h.line, h.before, h.after, h.shared.called hi rfl rfl⟩
  let turn : Sink → Sink := fun k => { k with listener := (k.listener.next c).2 }
  have turned : ∀ s t, Sink.Twins p.guise (p.keepsAt i) s t →
      Sink.Twins p.guise (p.keepsAt i) (turn s) (turn t) := by
    intro s t twins
    refine ⟨fun hk => ?_, fun hk => ?_⟩
    · rw [twins.kept hk]
      show (⟨_, _, _, ((s.listener.under p.guise).next c).2⟩ : Sink) = _
      rw [Listener.next_under]
      rfl
    · rw [hi] at hk
      cases hk
  have taken := called.mapSink i turned
  unfold Desk.hear
  dsimp only
  split <;> split
  · exact taken.note _
  · exact taken.note_left _
  · exact taken.note_right _
  · exact taken

/-- The stream of a sink that is out of play takes a callback in the first run. -/
theorem hear_left (h : Desk.Twins p w v) {i : Nat} {s : Sink} (hi : p.keepsAt i = false)
    (c : Call) : Desk.Twins p (w.hear i s c) v := by
  have called : Desk.Twins p (w.record (.called i (s.listener.hearer c) c)) v :=
    ⟨h.id, h.line, h.before, h.after, h.shared.called_left hi rfl⟩
  have taken := called.mapSink_left (i := i)
    (f := fun k => { k with listener := (k.listener.next c).2 }) (by
      intro s t twins
      refine ⟨fun hk => ?_, fun hk => ?_⟩
      · rw [hi] at hk
        cases hk
      · obtain ⟨⟨q, hq⟩, hq', ht⟩ := twins.left hk
        refine ⟨⟨q.take c, ?_⟩, hq', ht⟩
        show (s.listener.next c).2 = _
        rw [hq]
        rfl)
  unfold Desk.hear
  dsimp only
  split
  · exact taken.note_left _
  · exact taken

section

variable {perform perform' : Performer}
  (hp : ∀ {w v : Desk} (op : Operation), Desk.Twins p w v →
    Desk.Twins p (perform op w).2 (perform' (op.under p.guise) v).2)

include hp

theorem react (i : Nat) (label : String) (ops : List Operation) (h : Desk.Twins p w v) :
    Desk.Twins p (w.react perform i label ops)
      (v.react perform' i label (Operation.callsUnder p.guise ops)) := by
  induction ops generalizing w v with
  | nil =>
    rw [Operation.callsUnder]
    exact h
  | cons op rest ih =>
    rw [Operation.callsUnder]
    exact ih (((hp op h).record_left _ rfl).record_right _ rfl)

/-- Callbacks keep two runs in step if the operations that they perform do. -/
theorem callWith : Callers.Twins p (Desk.callWith perform) (Desk.callWith perform') where
  kept := by
    intro w v h i hi c
    unfold Desk.callWith
    rcases h.sink_cases i with ⟨hw, hv⟩ | ⟨s, t, hw, hv, twins⟩ <;> rw [hw, hv]
    · exact h
    · cases twins.kept hi
      have heard := h.hear (s := s) hi c
      have reaction : (((s.under p.guise).listener).next c).1 = (s.listener.next c).1.map fun r =>
          (r.1, Operation.reactionUnder p.guise r.2) :=
        congrArg Prod.fst (s.listener.next_under p.guise c)
      dsimp only
      rw [reaction]
      cases (s.listener.next c).1 with
      | none => exact heard
      | some r =>
        dsimp only [Option.map_some]
        rw [Operation.calls_reactionUnder]
        exact react hp i r.1 r.2.calls heard
  left := by
    intro w v h i hi c
    unfold Desk.callWith
    rcases h.sink_cases i with ⟨hw, -⟩ | ⟨s, t, hw, -, twins⟩ <;> rw [hw]
    · exact h
    · -- Only a stream can be out of play, and it performs nothing.
      obtain ⟨⟨q, hq⟩, -, -⟩ := twins.left hi
      have silent : (s.listener.next c).1 = none := by rw [hq]; rfl
      dsimp only
      rw [silent]
      exact h.hear_left hi c

end

/-- **Operations nested up to any depth** keep two runs in step. -/
theorem perform (depth : Nat) (op : Operation) (h : Desk.Twins p w v) :
    Desk.Twins p (Desk.perform depth op w).2 (Desk.perform depth (op.under p.guise) v).2 := by
  -- The induction is on the depth: callbacks perform what lies one level deeper.
  induction depth generalizing op w v with
  | zero => exact h
  | succ depth ih => exact (callWith fun op h => ih op h).run op h

/-- The callbacks of every caller that operations are performed with keep two runs in step. -/
theorem callers (depth : Nat) :
    Callers.Twins p (Desk.callWith (Desk.perform depth)) (Desk.callWith (Desk.perform depth)) :=
  callWith fun op h => h.perform depth op

/-- The scripts hold as many operations in both runs, so both are given the same budget. -/
theorem caller (h : Desk.Twins p w v) (op : Operation) :
    v.caller (op.under p.guise).weight = w.caller op.weight := by
  unfold Desk.caller Desk.budget
  rw [h.line.weight, Operation.weight_under]

theorem exec (op : Operation) (h : Desk.Twins p w v) :
    Desk.Twins p (op.exec w).2 ((op.under p.guise).exec v).2 := by
  unfold Operation.exec
  rw [h.caller op]
  exact (callers _).run op h

/-- **Two runs of the same operations** stay in step. -/
theorem execAll (ops : List Operation) (h : Desk.Twins p w v) :
    Desk.Twins p (Operation.execAll ops w).2
      (Operation.execAll (ops.map (Operation.under p.guise)) v).2 := by
  induction ops generalizing w v with
  | nil => exact h
  | cons op rest ih => exact ih (h.exec op)

end Desk.Twins

end Correlator
