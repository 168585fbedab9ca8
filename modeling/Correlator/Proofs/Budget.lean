/-
  Correlator.Proofs.Budget — THE DEPTH OF A RUN CUTS NOTHING OFF.

  Operations are performed up to a depth, and a run takes as its depth the
  number of operations that lie in scripts.  That is enough: every nested
  operation has been taken off a script before it runs, so what is left weighs
  less, one level down.  Any greater depth gives the same run, so nothing of
  what callbacks set off is lost.

  Main results:
    * `Bounded` — two ways to make callbacks that do not differ on desks that
      weigh little enough, and add no weight but what they bring,
    * `Operation.bounded_run` — one operation,
    * `Operation.run_eq_exec` — every depth that covers the scripts.
-/
import Correlator.Proofs.Path
import Correlator.Proofs.Weight
namespace Correlator

/-! ## §1. Functions that agree below a weight -/

/-- On desks that weigh at most `k` with `brought` added, the two functions agree, and what was
brought is all the weight they add. -/
def Bounded {α : Type} (k brought : Nat) (f f' : Desk → α × Desk) : Prop :=
  ∀ w, w.line.weight + brought ≤ k →
    f w = f' w ∧ (f w).2.line.weight ≤ w.line.weight + brought

/-- Functions that agree below a weight agree when more is counted as brought. -/
theorem Bounded.mono {α : Type} {k brought more : Nat} {f f' : Desk → α × Desk}
    (h : Bounded k brought f f') (hle : brought ≤ more) : Bounded k more f f' := by
  intro w hw
  obtain ⟨hsame, hweight⟩ := h w (by omega)
  exact ⟨hsame, by omega⟩

/-- Callers that agree on desks that weigh at most `k`, and add no weight. -/
def Agree (k : Nat) (call call' : Caller) : Prop := ∀ i c, Bounded k 0 (call i c) (call' i c)

namespace Desk

variable {k : Nat} {call call' : Caller}

theorem bounded_tell (h : Agree k call call') (i : Nat) (c : Call) :
    Bounded k 0 (tell call i c) (tell call' i c) := by
  intro w hw
  obtain ⟨hsame, hle⟩ := h i c w hw
  unfold tell
  rw [← hsame]
  refine ⟨rfl, ?_⟩
  split
  case h_1 w' hr =>
    rw [hr] at hle
    exact hle
  case h_2 w' hr =>
    rw [hr] at hle
    exact hle

theorem bounded_deliver (h : Agree k call call') (m : Message) (i : Nat) :
    Bounded k 0 (deliver call m i) (deliver call' m i) := by
  intro w hw
  obtain ⟨hsame, hle⟩ := bounded_tell h i (.message m) w hw
  unfold deliver
  rw [hsame]
  refine ⟨rfl, ?_⟩
  rw [← hsame]
  split
  · exact Nat.le_refl _
  · split
    · exact Nat.le_refl _
    · exact Nat.le_refl _
    · split
      · exact hle
      · exact Nat.le_refl _

/-- A sink that changes its phase weighs what it weighed. -/
theorem weight_setPhase (w : Desk) (i : Nat) (phase : Phase) :
    (w.mapSink i fun s => { s with phase }).line.weight = w.line.weight :=
  Sink.weights_modify_of_keeps _ _ fun _ => rfl

theorem bounded_finish (h : Agree k call call') (phase : Phase) (c : Call) (i : Nat) :
    Bounded k 0 (finish call phase c i) (finish call' phase c i) := by
  intro w hw
  -- The callback is made on a desk that differs in the phase and weighs the same.
  have hweight := weight_setPhase w i phase
  obtain ⟨hsame, hle⟩ := bounded_tell h i c (w.mapSink i fun s => { s with phase }) (by omega)
  unfold finish
  rw [hsame]
  refine ⟨rfl, ?_⟩
  rw [← hsame]
  split
  · exact Nat.le_refl _
  · split
    · rw [hweight] at hle
      exact hle
    · exact Nat.le_refl _

theorem bounded_visit {step step' : Nat → Desk → Bool × Desk}
    (h : ∀ i, Bounded k 0 (step i) (step' i)) (places : List Nat) :
    Bounded k 0 (visit step places) (visit step' places) := by
  induction places with
  | nil =>
    intro w _
    exact ⟨rfl, Nat.le_refl _⟩
  | cons i rest ih =>
    intro w hw
    obtain ⟨hsame, hle⟩ := h i w hw
    -- The rest is visited on a desk that weighs no more.
    obtain ⟨hsame', hle'⟩ := ih (step i w).2 (by omega)
    refine ⟨?_, ?_⟩
    · show ((if (step i w).1 then 1 else 0) + (visit step rest (step i w).2).1,
        (visit step rest (step i w).2).2) = ((if (step' i w).1 then 1 else 0) +
          (visit step' rest (step' i w).2).1, (visit step' rest (step' i w).2).2)
      rw [← hsame, hsame']
    · show (visit step rest (step i w).2).2.line.weight ≤ _
      omega

/-! ## §2. The multiplexer -/

theorem bounded_dispatch (h : Agree k call call') (m : Message) :
    Bounded k 0 (dispatchWith call m) (dispatchWith call' m) := by
  intro w hw
  obtain ⟨hsame, hle⟩ := bounded_visit (bounded_deliver h m) w.line.mux.active w hw
  unfold dispatchWith
  rw [← hsame]
  refine ⟨rfl, ?_⟩
  dsimp only
  split
  · exact hle
  · exact hle

theorem bounded_broadcast (h : Agree k call call') (d : ConnectionDropped) :
    Bounded k 0 (broadcastWith call d) (broadcastWith call' d) := by
  intro w hw
  obtain ⟨hsame, hle⟩ := bounded_visit (bounded_finish h .terminated (.error d))
    w.line.mux.active (w.mapMux fun x => { x with dropRecord := some d, active := [] }) hw
  unfold broadcastWith terminate
  dsimp only
  rw [← hsame]
  exact ⟨rfl, hle⟩

theorem bounded_close (h : Agree k call call') :
    Bounded k 0 (closeWith call) (closeWith call') := by
  intro w hw
  obtain ⟨hsame, hle⟩ := bounded_visit (bounded_finish h .disposed .closed)
    w.line.mux.active (w.mapMux fun x => { x with closed := true, active := [] }) hw
  unfold closeWith shut
  dsimp only
  rw [← hsame]
  exact ⟨rfl, hle⟩

/-- A new sink brings the weight of its listener. -/
theorem bounded_enrol (h : Agree k call call') (rule : Rule) (listener : Listener) :
    Bounded k listener.weight (enrol call rule listener) (enrol call' rule listener) := by
  intro w hw
  have hweight := weight_seat rule listener w
  -- On the desk with the new sink, one of two callbacks may be made.
  have hclose := bounded_finish h .disposed .closed w.line.mux.sinks.length
    (w.seat rule listener) (by omega)
  have hdrop := fun d => bounded_finish h .terminated (.error d) w.line.mux.sinks.length
    ((w.seat rule listener).note .sinkRefused) (by simp only [line_note]; omega)
  unfold enrol shut terminate
  dsimp only
  rw [← hclose.1]
  simp only [← (hdrop _).1]
  refine ⟨trivial, ?_⟩
  split
  case isTrue =>
    have := hclose.2
    dsimp only
    omega
  case isFalse =>
    split
    case h_1 d _ =>
      have := (hdrop d).2
      simp only [line_note] at this
      dsimp only
      omega
    case h_2 => exact Nat.le_of_eq hweight

theorem weight_enter (name : String) (e : Entry) (w : Desk) :
    (w.enter name e).line.weight = w.line.weight := by
  unfold enter giveUp
  dsimp only
  split
  · rfl
  · split
    · rfl
    · exact weight_dispose _ _

theorem bounded_register (h : Agree k call call') (name : String) (rule : Rule)
    (script : Script Operation) :
    Bounded k (Operation.scriptWeight script) (registerWith call name rule script)
      (registerWith call' name rule script) := by
  intro w hw
  obtain ⟨hsame, hle⟩ := bounded_enrol h rule (.scripted name script) w hw
  unfold registerWith
  rw [← hsame]
  refine ⟨rfl, ?_⟩
  dsimp only
  rw [weight_enter]
  exact hle

theorem bounded_subscribe (h : Agree k call call') (name : String) (rule : Rule) :
    Bounded k 0 (subscribeAsWith call name rule) (subscribeAsWith call' name rule) := by
  intro w hw
  obtain ⟨hsame, hle⟩ :=
    bounded_enrol h rule (.stream (.withCapacity w.line.mux.capacity)) w hw
  unfold subscribeAsWith subscribeWith
  rw [← hsame]
  refine ⟨rfl, ?_⟩
  dsimp only
  rw [weight_enter]
  exact hle

/-! ## §3. The life of the connection -/

/-- A check moves no sink. -/
theorem mux_check (next : ConnectionState) (w : Desk) :
    (w.check next).2.line.mux = w.line.mux := by
  rcases check_cases next w with ⟨e, h⟩ | ⟨-, h | h⟩ <;> rw [h] <;> rfl

theorem sinks_create (w : Desk) : w.create.2.line.mux.sinks = w.line.mux.sinks := by
  have h := congrArg Multiplexer.sinks (mux_check .created w)
  unfold create
  split
  case h_1 v hv =>
    rw [hv] at h
    exact h
  case h_2 v hv =>
    rw [hv] at h
    exact h

theorem sinks_establish (w : Desk) : w.establish.2.line.mux.sinks = w.line.mux.sinks := by
  have h := congrArg Multiplexer.sinks (mux_check .established w)
  unfold establish
  split
  case h_1 v hv =>
    rw [hv] at h
    exact h
  case h_2 v hv =>
    rw [hv] at h
    exact (sinks_resume v).trans h

theorem sinks_authenticateOutbound (m : Message) (w : Desk) :
    (w.authenticateOutbound m).2.line.mux.sinks = w.line.mux.sinks := by
  have h := congrArg Multiplexer.sinks (mux_check .authenticating w)
  unfold authenticateOutbound
  split
  · rfl
  · split
    case h_1 v hv =>
      rw [hv] at h
      exact h
    case h_2 v hv =>
      rw [hv] at h
      dsimp only
      split
      · split <;> exact h
      · exact h

theorem sinks_outboundAdmin (m : Message) (w : Desk) :
    (w.outboundAdmin m).2.line.mux.sinks = w.line.mux.sinks := by
  unfold outboundAdmin
  split
  · exact sinks_authenticateOutbound m w
  · rfl
  · rfl

theorem sinks_outboundApplication (m : Message) (w : Desk) :
    (w.outboundApplication m).line.mux.sinks = w.line.mux.sinks := by
  unfold outboundApplication
  split <;> rfl

theorem bounded_drop (h : Agree k call call') (cause : DropCause) (m : Option Message) :
    Bounded k 0 (dropWith call cause m) (dropWith call' cause m) := by
  intro w hw
  obtain ⟨hsame, hle⟩ := bounded_broadcast h (w.lossOf cause m) (w.goDown cause m) hw
  unfold dropWith
  rw [← hsame]
  refine ⟨rfl, ?_⟩
  split
  · exact Nat.le_refl _
  · exact hle

theorem bounded_weigh (h : Agree k call call') (m : Message) :
    Bounded k 0 (weighWith call m) (weighWith call' m) := by
  intro w hw
  have hbroadcast := fun d => bounded_broadcast h d
    ((w.setState .authenticating).turnAway m d) hw
  unfold weighWith
  dsimp only
  simp only [← (hbroadcast _).1]
  refine ⟨trivial, ?_⟩
  split
  · exact Nat.le_refl _
  · split
    · exact Nat.le_refl _
    · exact (hbroadcast _).2

theorem bounded_authenticateInbound (h : Agree k call call') (m : Message) :
    Bounded k 0 (authenticateInboundWith call m) (authenticateInboundWith call' m) := by
  intro w hw
  have hcheck : (w.check .authenticating).2.line.weight = w.line.weight :=
    congrArg (fun x : Multiplexer => Sink.weights x.sinks) (mux_check .authenticating w)
  obtain ⟨hsame, hle⟩ := bounded_weigh h m (w.check .authenticating).2 (by omega)
  unfold authenticateInboundWith
  split
  · exact ⟨rfl, Nat.le_refl _⟩
  · split
    case h_1 v hv =>
      rw [hv] at hcheck
      exact ⟨rfl, Nat.le_of_eq hcheck⟩
    case h_2 v hv =>
      rw [hv] at hcheck hsame hle
      refine ⟨hsame, ?_⟩
      simp only at hcheck hle
      omega

theorem bounded_inbound (h : Agree k call call') (m : Message) :
    Bounded k 0 (inboundWith call m) (inboundWith call' m) := by
  intro w hw
  obtain ⟨hauth, hauthle⟩ := bounded_authenticateInbound h m w hw
  obtain ⟨hdrop, hdrople⟩ := bounded_drop h .logout (some m) w hw
  obtain ⟨hdispatch, hdispatchle⟩ := bounded_dispatch h m w hw
  unfold inboundWith
  rw [← hauth, ← hdrop, ← hdispatch]
  refine ⟨rfl, ?_⟩
  split
  · exact Nat.le_refl _
  · split
    case h_1 v hv =>
      rw [hv] at hauthle
      exact hauthle
    case h_2 v hv =>
      rw [hv] at hauthle
      exact hauthle
  · exact hdrople
  · split
    · exact hdispatchle
    · exact Nat.le_refl _

end Desk

/-! ## §4. One operation, and what it sets off -/

namespace Operation

variable {k : Nat} {call call' : Caller}

theorem bounded_onMultiplexer {brought : Nat} {f f' : Desk → Answer × Desk}
    (h : Bounded k brought f f') :
    Bounded k brought (fun w => onMultiplexer w f) (fun w => onMultiplexer w f') := by
  intro w hw
  obtain ⟨hsame, hle⟩ := h w hw
  unfold onMultiplexer
  dsimp only
  split
  · exact ⟨rfl, Nat.le_add_right _ _⟩
  · exact ⟨hsame, hle⟩

/-- What a function answers may be wrapped. -/
theorem bounded_map {α : Type} {brought : Nat} {f f' : Desk → α × Desk} (answer : α → Answer)
    (h : Bounded k brought f f') :
    Bounded k brought (fun w => (answer (f w).1, (f w).2))
      (fun w => (answer (f' w).1, (f' w).2)) := by
  intro w hw
  obtain ⟨hsame, hle⟩ := h w hw
  dsimp only
  rw [← hsame]
  exact ⟨rfl, hle⟩

/-- A function that makes no callbacks and keeps the sinks. -/
theorem bounded_of_sinks {brought : Nat} {f : Desk → Answer × Desk}
    (h : ∀ w, (f w).2.line.weight = w.line.weight) : Bounded k brought f f := by
  intro w _
  refine ⟨rfl, ?_⟩
  rw [h w]
  exact Nat.le_add_right _ _

/-- **One operation** does not tell agreeing callers apart. -/
theorem bounded_run (h : Agree k call call') (op : Operation) :
    Bounded k op.weight (op.run call) (op.run call') := by
  have weigh : ∀ {v w : Desk}, v.line.mux.sinks = w.line.mux.sinks →
      v.line.weight = w.line.weight := fun hs => congrArg Sink.weights hs
  cases op with
  | register name rule script =>
    have hweight : scriptWeight script ≤ (register name rule script).weight := by
      simp only [weight, Nat.le_refl]
    refine Bounded.mono ?_ hweight
    exact bounded_onMultiplexer (bounded_map .enrolled (Desk.bounded_register h name rule script))
  | subscribe name rule =>
    refine Bounded.mono ?_ (Nat.zero_le _)
    exact bounded_onMultiplexer (bounded_map .enrolled (Desk.bounded_subscribe h name rule))
  | dispatch m =>
    refine Bounded.mono ?_ (Nat.zero_le _)
    exact bounded_onMultiplexer (bounded_map .count (Desk.bounded_dispatch h m))
  | broadcast d =>
    refine Bounded.mono ?_ (Nat.zero_le _)
    exact bounded_onMultiplexer (bounded_map .count (Desk.bounded_broadcast h d))
  | resume =>
    exact bounded_onMultiplexer (bounded_of_sinks fun w => weigh (Desk.sinks_resume w))
  | close =>
    refine Bounded.mono ?_ (Nat.zero_le _)
    exact bounded_onMultiplexer (bounded_map .count (Desk.bounded_close h))
  | activeCount => exact bounded_onMultiplexer (bounded_of_sinks fun w => rfl)
  | dispose handle =>
    refine bounded_of_sinks fun w => ?_
    unfold run
    dsimp only
    split
    case h_1 => rfl
    case h_2 s _ => exact Desk.weight_dispose s w
  | isActive handle =>
    refine bounded_of_sinks fun w => ?_
    unfold run
    dsimp only
    split <;> rfl
  | create => exact bounded_of_sinks fun w => weigh (Desk.sinks_create w)
  | establish => exact bounded_of_sinks fun w => weigh (Desk.sinks_establish w)
  | drop cause m =>
    refine Bounded.mono ?_ (Nat.zero_le _)
    exact bounded_map .flag (Desk.bounded_drop h cause m)
  | authenticateOutbound m =>
    exact bounded_of_sinks fun w => weigh (Desk.sinks_authenticateOutbound m w)
  | authenticateInbound m =>
    refine Bounded.mono ?_ (Nat.zero_le _)
    exact bounded_map .outcome (Desk.bounded_authenticateInbound h m)
  | outboundAdmin m => exact bounded_of_sinks fun w => weigh (Desk.sinks_outboundAdmin m w)
  | outboundApplication m =>
    exact bounded_of_sinks fun w => weigh (Desk.sinks_outboundApplication m w)
  | inbound m =>
    refine Bounded.mono ?_ (Nat.zero_le _)
    exact bounded_map .tally (Desk.bounded_inbound h m)

end Operation

namespace Desk

/-- Two performers agree on operations that weigh, with the desk and themselves counted, at
most `k`. -/
def Performs (k : Nat) (perform perform' : Performer) : Prop :=
  ∀ op w, w.line.weight + op.weight + 1 ≤ k →
    perform op w = perform' op w ∧ (perform op w).2.line.weight ≤ w.line.weight + op.weight

variable {k : Nat} {perform perform' : Performer}

/-- The operations of a reaction, which have been taken off the script before. -/
theorem bounded_react (h : Performs k perform perform') (i : Nat) (label : String)
    (ops : List Operation) (w : Desk) (hw : w.line.weight + Operation.callsWeight ops ≤ k) :
    w.react perform i label ops = w.react perform' i label ops ∧
      (w.react perform i label ops).line.weight ≤
        w.line.weight + Operation.callsWeight ops := by
  induction ops generalizing w with
  | nil => exact ⟨rfl, Nat.le_add_right _ _⟩
  | cons op rest ih =>
    have hcons : Operation.callsWeight (op :: rest) =
        1 + op.weight + Operation.callsWeight rest := by simp only [Operation.callsWeight]
    rw [hcons] at hw ⊢
    -- The operation itself counts for one, which pays for the level that it goes down.
    obtain ⟨hsame, hle⟩ := h op w (by omega)
    obtain ⟨hsame', hle'⟩ := ih
      ((perform op w).2.record (.answered i label op (perform op w).1))
      (by rw [line_record]; omega)
    rw [line_record] at hle'
    refine ⟨?_, ?_⟩
    · show react perform i label rest ((perform op w).2.record _) =
        react perform' i label rest ((perform' op w).2.record _)
      rw [← hsame, hsame']
    · show (react perform i label rest ((perform op w).2.record _)).line.weight ≤ _
      omega

theorem agree_callWith (h : Performs k perform perform') :
    Agree k (callWith perform) (callWith perform') := by
  intro i c w hw
  unfold callWith
  split
  case h_1 => exact ⟨rfl, Nat.le_add_right _ _⟩
  case h_2 s hs =>
    -- What the reaction performs is no longer part of the desk's weight.
    have hweight := weight_hear hs c
    dsimp only
    split
    case h_1 hr =>
      rw [hr, Option.elim_none] at hweight
      exact ⟨rfl, by dsimp only; omega⟩
    case h_2 label r hr =>
      simp only [hr, Option.elim_some] at hweight
      obtain ⟨hsame, hle⟩ := bounded_react h i label r.calls (w.hear i s c) (by omega)
      rw [hsame] at hle ⊢
      exact ⟨rfl, by dsimp only; omega⟩

/-- **Depths that cover the scripts agree.**  The induction is on what is left in scripts: an
operation that a callback performs has been taken off. -/
theorem agree_perform (k n m : Nat) (hn : k ≤ n) (hm : k ≤ m) :
    Agree k (callWith (Desk.perform n)) (callWith (Desk.perform m)) := by
  induction k generalizing n m with
  | zero =>
    refine agree_callWith ?_
    intro op w hw
    omega
  | succ k ih =>
    refine agree_callWith ?_
    intro op w hw
    obtain ⟨n, rfl⟩ : ∃ j, n = j + 1 := ⟨n - 1, by omega⟩
    obtain ⟨m, rfl⟩ : ∃ j, m = j + 1 := ⟨m - 1, by omega⟩
    exact Operation.bounded_run (ih n m (by omega) (by omega)) op w (by omega)

end Desk

/-- **Nothing is cut off**: at any depth that covers the operations in scripts, an operation does
what it does at the depth that a run takes. -/
theorem Operation.run_eq_exec (op : Operation) (w : Desk) {depth : Nat}
    (h : w.budget + op.weight ≤ depth) :
    op.run (Desk.callWith (Desk.perform depth)) w = op.exec w := by
  have agree := Desk.agree_perform (w.budget + op.weight) depth (w.budget + op.weight) h
    (Nat.le_refl _)
  exact (bounded_run agree op w (Nat.le_refl _)).1

/-- What lies in scripts afterwards was there, or was brought. -/
theorem Operation.weight_exec_le (op : Operation) (w : Desk) :
    (op.exec w).2.line.weight ≤ w.line.weight + op.weight := by
  have agree := Desk.agree_perform (w.budget + op.weight) (w.budget + op.weight)
    (w.budget + op.weight) (Nat.le_refl _) (Nat.le_refl _)
  exact (bounded_run agree op w (Nat.le_refl _)).2

end Correlator
