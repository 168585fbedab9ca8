/-
  Correlator.Proofs.Calm — OPERATIONS OF THE MULTIPLEXER AMONG QUIET WAITERS.

  An operation of the multiplexer that brings no script with operations, on a
  desk whose waiters are quiet, has a plain effect: the record and the close
  are what the last broadcast, resume or close left of them, the waiters stay
  quiet, and every name leads to a sink that is there.

  Main results:
    * `Desk.enrol_refused`, `Desk.enrol_admitted` — new sinks,
    * `Desk.enter_keeps` — entering a name disposes no other sink,
    * `Operation.leaves_run`, `Operation.leaves_execAll` — operations.
-/
import Correlator.Proofs.Quiet
namespace Correlator

namespace Desk

variable (perform : Performer) {w : Desk}

/-! ## §1. Many sinks -/

theorem still_deliver (hq : w.Quiet) (m : Message) (i : Nat) :
    Still w (w.deliver (callWith perform) m i).2 := by
  cases htakes : w.takes m i with
  | true =>
    obtain ⟨s, hs, -, -⟩ := takes_iff.mp htakes
    rw [deliver_of_takes htakes]
    exact still_tell perform hs (hq i s hs) _
  | false =>
    rcases deliver_of_not_takes (callWith perform) htakes with ho | ho
    · rw [ho]
      exact .refl w
    · rw [ho]
      exact (Still.refl w).note _

theorem still_finish (hq : w.Quiet) (phase : Phase) (c : Call) (i : Nat) :
    Still w (w.finish (callWith perform) phase c i).2 := by
  unfold finish
  split
  case h_1 => exact .refl w
  case h_2 s hs =>
    split
    · have hs' := sink?_mapSink_self (fun k => { k with phase }) hs
      have hphase : Still w (w.mapSink i fun k => { k with phase }) := .mapSink w i fun k hk => hk
      exact hphase.trans (still_tell perform hs' (hq i s hs) c)
    · exact .refl w

theorem still_visit {step : Nat → Desk → Bool × Desk}
    (hstep : ∀ i v, v.Quiet → Still v (step i v).2) (places : List Nat) (w : Desk)
    (hq : w.Quiet) : Still w (visit step places w).2 := by
  induction places generalizing w with
  | nil => exact .refl w
  | cons i rest ih =>
    have h := hstep i w hq
    rw [visit_cons_snd]
    exact h.trans (ih _ (h.quiet hq))

theorem still_dispatch (hq : w.Quiet) (m : Message) :
    Still w (w.dispatchWith (callWith perform) m).2 := by
  have h := still_visit (fun i v hv => still_deliver perform hv m i) w.line.mux.active w hq
  unfold dispatchWith
  dsimp only
  split
  · exact h.note _
  · exact h

theorem still_broadcast (hq : w.Quiet) (d : ConnectionDropped) :
    Still (w.mapMux fun x => { x with dropRecord := some d, active := [] })
      (w.broadcastWith (callWith perform) d).2 :=
  (still_visit (fun i _ hv => still_finish perform hv .terminated (.error d) i) w.line.mux.active
    (w.mapMux fun x => { x with dropRecord := some d, active := [] }) hq).note _

theorem still_close (hq : w.Quiet) :
    Still (w.mapMux fun x => { x with closed := true, active := [] })
      (w.closeWith (callWith perform)).2 :=
  (still_visit (fun i _ hv => still_finish perform hv .disposed .closed i) w.line.mux.active
    (w.mapMux fun x => { x with closed := true, active := [] }) hq).note _

/-! ## §2. New sinks -/

variable (rule : Rule) {listener : Listener}

theorem quiet_seat (hq : w.Quiet) (hl : listener.weight = 0) : (w.seat rule listener).Quiet := by
  intro i s hs
  have hmem : s ∈ (w.seat rule listener).line.mux.sinks := List.mem_of_getElem? hs
  rw [sinks_seat] at hmem
  rcases List.mem_append.mp hmem with hmem | hmem
  · obtain ⟨j, hj⟩ := List.mem_iff_getElem?.mp hmem
    exact hq j s hj
  · rw [List.mem_singleton.mp hmem]
    exact hl

/-- The new sink is the last one. -/
theorem sink?_seat (listener : Listener) (w : Desk) : (w.seat rule listener).sink? w.line.mux.sinks.length =
    some ⟨w.shared.issued + 1, rule, .active, listener⟩ := by
  show (w.seat rule listener).line.mux.sinks[w.line.mux.sinks.length]? = _
  rw [sinks_seat]
  exact List.getElem?_concat_length

theorem enrol_fst (call : Caller) (listener : Listener) (w : Desk) :
    (w.enrol call rule listener).1 = ⟨w.line.id, w.line.mux.sinks.length⟩ := by
  unfold enrol
  dsimp only
  split
  · rfl
  · split <;> rfl

theorem still_enrol (hq : w.Quiet) (hl : listener.weight = 0) :
    Still (w.seat rule listener) (w.enrol (callWith perform) rule listener).2 := by
  have hq' : (w.seat rule listener).Quiet := quiet_seat rule hq hl
  unfold enrol
  dsimp only
  split
  · exact still_finish perform hq' _ _ _
  · split
    · have h : Still (w.seat rule listener) ((w.seat rule listener).note .sinkRefused) :=
        (Still.refl _).note _
      exact h.trans (still_finish perform (h.quiet hq') _ _ _)
    · have h : Still (w.seat rule listener) ((w.seat rule listener).mapMux fun x =>
          { x with active := x.active ++ [w.line.mux.sinks.length] }) :=
        ⟨rfl, rfl, rfl, rfl, rfl, rfl, fun hq => hq⟩
      exact h.note _

/-- **While a drop is on record** a new sink gets one callback, which tells it of that drop, and
is terminated. -/
theorem enrol_refused (hl : listener.weight = 0) {d : ConnectionDropped}
    (hc : w.line.mux.closed = false) (hd : w.line.mux.dropRecord = some d) :
    (w.enrol (callWith perform) rule listener).2.shared.calls =
        w.shared.calls ++ [(w.line.mux.sinks.length, .error d)] ∧
      (w.enrol (callWith perform) rule listener).2.line.mux.phase? w.line.mux.sinks.length =
        some .terminated := by
  have hx : (w.seat rule listener).line.mux.closed = w.line.mux.closed := rfl
  have hr : (w.seat rule listener).line.mux.dropRecord = w.line.mux.dropRecord := rfl
  have hs : ((w.seat rule listener).note .sinkRefused).sink? w.line.mux.sinks.length = _ :=
    sink?_seat rule listener w
  obtain ⟨-, told⟩ := finish_quiet perform hs rfl hl .terminated (.error d)
  have heq : (w.enrol (callWith perform) rule listener).2 =
      (((w.seat rule listener).note .sinkRefused).terminate (callWith perform) d
        w.line.mux.sinks.length).2 := by
    unfold enrol
    dsimp only
    rw [hx, hr, hc, hd]
    rfl
  rw [heq]
  refine ⟨?_, told.phase⟩
  rw [show (Desk.terminate _ _ _ _).2.shared.calls = _ from told.calls, calls_note]
  rfl

/-- **Without a drop on record** a new sink gets no callback and is in the active set. -/
theorem enrol_admitted (call : Caller) (listener : Listener) (hc : w.line.mux.closed = false)
    (hd : w.line.mux.dropRecord = none) :
    (w.enrol call rule listener).2.shared.calls = w.shared.calls ∧
      w.line.mux.sinks.length ∈ (w.enrol call rule listener).2.line.mux.active ∧
      (w.enrol call rule listener).2.line.mux.phase? w.line.mux.sinks.length = some .active := by
  have hx : (w.seat rule listener).line.mux.closed = w.line.mux.closed := rfl
  have hr : (w.seat rule listener).line.mux.dropRecord = w.line.mux.dropRecord := rfl
  have heq : (w.enrol call rule listener).2 = ((w.seat rule listener).mapMux fun x =>
      { x with active := x.active ++ [w.line.mux.sinks.length] }).note .sinkRegistered := by
    unfold enrol
    dsimp only
    rw [hx, hr, hc, hd]
    rfl
  rw [heq]
  refine ⟨?_, ?_, ?_⟩
  · rw [calls_note]
    rfl
  · exact List.mem_append_right _ (List.mem_singleton.mpr rfl)
  · show (w.seat rule listener).line.mux.phase? _ = _
    rw [phase?_seat, if_pos rfl]

/-! ## §3. Names -/

theorem calls_dispose (s : SinkRef) (w : Desk) : (w.dispose s).2.shared.calls = w.shared.calls := by
  obtain ⟨news, hh, hn⟩ := history_dispose s w
  have hnews : news.filterMap Moment.call? = [] := by
    refine List.filterMap_eq_nil_iff.mpr ?_
    intro x hx
    obtain ⟨l, rfl, -⟩ := hn x hx
    rfl
  unfold Shared.calls
  rw [hh, List.filterMap_append, List.filterMap_append, hnews, List.append_nil]
  exact List.append_nil _

/-- Entering a name gives up the subscription that the name led to, or nothing. -/
theorem enter_cases (name : String) (e : Entry) (w : Desk) :
    w.enter name e = w.mapShared (fun s => { s with names := Directory.enter name e s.names }) ∨
    ∃ o, Directory.find? name w.shared.names = some o ∧ w.enter name e =
      ((w.mapShared fun s => { s with names := Directory.enter name e s.names }).dispose
        o.sink).2 := by
  unfold enter
  dsimp only
  split
  case h_1 => exact .inl rfl
  case h_2 o ho =>
    unfold giveUp
    split
    · exact .inl rfl
    · exact .inr ⟨o, ho, rfl⟩

theorem calls_enter (name : String) (e : Entry) (w : Desk) :
    (w.enter name e).shared.calls = w.shared.calls := by
  rcases enter_cases name e w with h | ⟨o, -, h⟩
  · rw [h]
    rfl
  · rw [h, calls_dispose]
    rfl

theorem still_enter (name : String) (e : Entry) (w : Desk) :
    Still (w.mapShared fun s => { s with names := Directory.enter name e s.names })
      (w.enter name e) := by
  rcases enter_cases name e w with h | ⟨o, -, h⟩
  · rw [h]
    exact .refl _
  · rw [h]
    exact .dispose _ _

/-- A sink that the name did not lead to stays as it is. -/
theorem enter_keeps {i : Nat} (hlive : w.line.mux.released = false) (name : String) (e : Entry)
    (hother : ∀ o, Directory.find? name w.shared.names = some o → o.sink ≠ ⟨w.line.id, i⟩) :
    (w.enter name e).line.mux.phase? i = w.line.mux.phase? i ∧
      (i ∈ (w.enter name e).line.mux.active ↔ i ∈ w.line.mux.active) := by
  rcases enter_cases name e w with h | ⟨o, ho, h⟩
  · rw [h]
    exact ⟨rfl, Iff.rfl⟩
  · rw [h, line_dispose]
    split
    case isFalse => exact ⟨rfl, Iff.rfl⟩
    case isTrue hown =>
      -- On the same line, so it is another place.
      have hne : o.sink.place ≠ i := by
        intro hi
        refine hother o ho ?_
        rw [← hi, show w.line.id = o.sink.connection from hown]
      refine ⟨?_, ?_⟩
      · show (w.line.disposeAt o.sink.place).2.mux.phase? i = _
        rw [Line.phase?_disposeAt _ _ hlive, if_neg hne]
      · show i ∈ (w.line.disposeAt o.sink.place).2.mux.active ↔ _
        rw [Line.mux_disposeAt _ hlive]
        simp [Ne.symm hne]

end Desk

/-! ## §4. Operations -/

namespace Operation

/-- The operation is one of the multiplexer. -/
def ofMultiplexer : Operation → Bool
  | register _ _ _ | subscribe _ _ | dispatch _ | broadcast _ | resume | close => true
  | activeCount | dispose _ | isActive _ => true
  | _ => false

/-- The operation makes a sink. -/
def registers : Operation → Bool
  | register _ _ _ | subscribe _ _ => true
  | _ => false

/-- An operation of the multiplexer that brings no operations for callbacks to perform. -/
structure Calm (op : Operation) : Prop where
  kind : op.ofMultiplexer = true
  quiet : op.weight = 0

/-- The drop on record after an operation. -/
def recordAfter (r : Option ConnectionDropped) : Operation → Option ConnectionDropped
  | broadcast d => some d
  | resume => none
  | _ => r

/-- Whether the multiplexer is closed after an operation. -/
def closedAfter (b : Bool) : Operation → Bool
  | close => true
  | _ => b

end Operation

/-- All waiters are quiet, and every name leads to a sink that is there. -/
structure Desk.Calm (w : Desk) : Prop where
  live : w.line.mux.released = false
  quiet : w.Quiet
  named : ∀ name e, Directory.find? name w.shared.names = some e →
    e.sink.connection = w.line.id → e.sink.place < w.line.mux.sinks.length

theorem Desk.Still.calm {w v : Desk} (h : Still w v) (hw : w.Calm) : v.Calm where
  live := h.live.trans hw.live
  quiet := h.quiet hw.quiet
  named name e he hc := by
    rw [h.names] at he
    rw [h.id] at hc
    rw [h.length]
    exact hw.named name e he hc

namespace Operation

/-- What an operation leaves of the line in hand. -/
structure Leaves (op : Operation) (w v : Desk) : Prop where
  id : v.line.id = w.line.id
  calm : v.Calm
  record : v.line.mux.dropRecord = op.recordAfter w.line.mux.dropRecord
  closed : v.line.mux.closed = op.closedAfter w.line.mux.closed

theorem Leaves.of_still {op : Operation} {w v : Desk} (h : w.Still v) (hw : w.Calm)
    (hr : ∀ r, op.recordAfter r = r) (hc : ∀ b, op.closedAfter b = b) : op.Leaves w v where
  id := h.id
  calm := h.calm hw
  record := by rw [hr, h.record]
  closed := by rw [hc, h.closed]

theorem onMultiplexer_of_live {w : Desk} (h : w.line.mux.released = false)
    (f : Desk → Answer × Desk) : onMultiplexer w f = f w := by
  unfold onMultiplexer
  rw [h]
  rfl

/-- A registration makes a sink and enters its name. -/
theorem run_of_registers {op : Operation} (h : op.registers = true) (call : Caller) {w : Desk}
    (hlive : w.line.mux.released = false) :
    ∃ name rule listener reader, listener.weight = op.weight ∧
      (op.run call w).2 = (w.enrol call rule listener).2.enter name
        ⟨⟨w.line.id, w.line.mux.sinks.length⟩, reader⟩ := by
  cases op with
  | register name rule script =>
    refine ⟨name, rule, .scripted name script, .absent, ?_, ?_⟩
    · simp only [Listener.weight, Operation.weight]
    · show (onMultiplexer w _).2 = _
      rw [onMultiplexer_of_live hlive, ← Desk.enrol_fst rule call (.scripted name script) w]
      rfl
  | subscribe name rule =>
    refine ⟨name, rule, .stream (.withCapacity w.line.mux.capacity), .idle, ?_, ?_⟩
    · simp only [Listener.weight, Operation.weight]
    · show (onMultiplexer w _).2 = _
      rw [onMultiplexer_of_live hlive, ← Desk.enrol_fst rule call (.stream (.withCapacity w.line.mux.capacity)) w]
      rfl
  | _ => cases h

variable (perform : Performer) {w : Desk}

/-- A registration keeps the desk calm: the new name leads to the new sink. -/
theorem leaves_of_registers {op : Operation} (h : op.registers = true) (hop : op.weight = 0)
    (hw : w.Calm) : op.Leaves w (op.run (Desk.callWith perform) w).2 := by
  obtain ⟨name, rule, listener, reader, hl, hv⟩ :=
    run_of_registers h (Desk.callWith perform) hw.live
  rw [hop] at hl
  -- Making the sink, then entering the name: neither touches the record or the close.
  have enrolled := Desk.still_enrol perform rule hw.quiet hl
  have entered := Desk.still_enter name ⟨⟨w.line.id, w.line.mux.sinks.length⟩, reader⟩
    (w.enrol (Desk.callWith perform) rule listener).2
  rw [← hv] at entered
  have hlen : (op.run (Desk.callWith perform) w).2.line.mux.sinks.length =
      w.line.mux.sinks.length + 1 := by
    rw [entered.length]
    show (w.enrol _ rule listener).2.line.mux.sinks.length = _
    rw [enrolled.length, Desk.sinks_seat, List.length_append, List.length_singleton]
  have hnames : (op.run (Desk.callWith perform) w).2.shared.names = Directory.enter name
      ⟨⟨w.line.id, w.line.mux.sinks.length⟩, reader⟩ w.shared.names := by
    rw [entered.names]
    show Directory.enter name _ (w.enrol _ rule listener).2.shared.names = _
    rw [enrolled.names]
    rfl
  have hid : (op.run (Desk.callWith perform) w).2.line.id = w.line.id :=
    entered.id.trans enrolled.id
  constructor
  case id => exact hid
  case calm =>
    constructor
    case live => exact (entered.live.trans enrolled.live).trans hw.live
    case quiet => exact entered.quiet (enrolled.quiet (Desk.quiet_seat rule hw.quiet hl))
    case named =>
      intro other e he hc
      rw [hnames] at he
      rw [hid] at hc
      rw [hlen]
      -- The name itself leads to the new sink, every other one to an earlier sink.
      by_cases hn : other = name
      · subst hn
        rw [Directory.find?_enter_self] at he
        cases he
        exact Nat.lt_succ_self _
      · rw [Directory.find?_enter_of_ne _ _ hn] at he
        exact Nat.lt_succ_of_lt (hw.named other e he hc)
  case record =>
    have hr : op.recordAfter w.line.mux.dropRecord = w.line.mux.dropRecord := by
      cases op with
      | register => rfl
      | subscribe => rfl
      | _ => cases h
    rw [hr]
    exact entered.record.trans enrolled.record
  case closed =>
    have hc : op.closedAfter w.line.mux.closed = w.line.mux.closed := by
      cases op with
      | register => rfl
      | subscribe => rfl
      | _ => cases h
    rw [hc]
    exact entered.closed.trans enrolled.closed

/-- Of the new sink, a registration shows what its making has left. -/
theorem enrol_of_registers {op : Operation} (h : op.registers = true) (hop : op.weight = 0)
    (hw : w.Calm) : ∃ rule listener, listener.weight = 0 ∧
      (op.run (Desk.callWith perform) w).2.shared.calls =
        (w.enrol (Desk.callWith perform) rule listener).2.shared.calls ∧
      (op.run (Desk.callWith perform) w).2.line.mux.phase? w.line.mux.sinks.length =
        (w.enrol (Desk.callWith perform) rule listener).2.line.mux.phase?
          w.line.mux.sinks.length ∧
      (w.line.mux.sinks.length ∈ (op.run (Desk.callWith perform) w).2.line.mux.active ↔
        w.line.mux.sinks.length ∈
          (w.enrol (Desk.callWith perform) rule listener).2.line.mux.active) := by
  obtain ⟨name, rule, listener, reader, hl, hv⟩ :=
    run_of_registers h (Desk.callWith perform) hw.live
  rw [hop] at hl
  have enrolled := Desk.still_enrol perform rule hw.quiet hl
  refine ⟨rule, listener, hl, ?_, ?_⟩
  · rw [hv]
    exact Desk.calls_enter _ _ _
  · rw [hv]
    refine Desk.enter_keeps (enrolled.live.trans hw.live) _ _ ?_
    -- A name in use leads to an earlier sink.
    intro o ho hsink
    rw [enrolled.names] at ho
    have hid : (w.enrol (Desk.callWith perform) rule listener).2.line.id = w.line.id := enrolled.id
    rw [hid] at hsink
    have hlt := hw.named name o ho (by rw [hsink])
    rw [hsink] at hlt
    exact Nat.lt_irrefl _ hlt

/-- **What a calm operation leaves.** -/
theorem leaves_run {op : Operation} (hop : op.Calm) (hw : w.Calm) :
    op.Leaves w (op.run (Desk.callWith perform) w).2 := by
  cases op with
  | register => exact leaves_of_registers perform rfl hop.quiet hw
  | subscribe => exact leaves_of_registers perform rfl hop.quiet hw
  | dispatch m =>
    show Leaves _ w (onMultiplexer w _).2
    rw [onMultiplexer_of_live hw.live]
    exact .of_still (Desk.still_dispatch perform hw.quiet m) hw (fun _ => rfl) (fun _ => rfl)
  | broadcast d =>
    show Leaves _ w (onMultiplexer w _).2
    rw [onMultiplexer_of_live hw.live]
    have h := Desk.still_broadcast perform hw.quiet d
    exact ⟨h.id, h.calm ⟨hw.live, hw.quiet, hw.named⟩, h.record, h.closed⟩
  | resume =>
    show Leaves _ w (onMultiplexer w _).2
    rw [onMultiplexer_of_live hw.live]
    show Leaves _ w w.resume
    refine ⟨?_, ?_, Desk.dropRecord_resume w, ?_⟩ <;> unfold Desk.resume <;> split
    · rfl
    · rfl
    · exact hw
    · exact ⟨hw.live, hw.quiet, hw.named⟩
    · rfl
    · rfl
  | close =>
    show Leaves _ w (onMultiplexer w _).2
    rw [onMultiplexer_of_live hw.live]
    have h := Desk.still_close perform hw.quiet
    exact ⟨h.id, h.calm ⟨hw.live, hw.quiet, hw.named⟩, h.record, h.closed⟩
  | activeCount =>
    show Leaves _ w (onMultiplexer w _).2
    rw [onMultiplexer_of_live hw.live]
    exact .of_still (.refl w) hw (fun _ => rfl) (fun _ => rfl)
  | dispose handle =>
    unfold Operation.run
    dsimp only
    split
    case h_1 => exact .of_still (.refl w) hw (fun _ => rfl) (fun _ => rfl)
    case h_2 s _ => exact .of_still (.dispose w s) hw (fun _ => rfl) (fun _ => rfl)
  | isActive handle =>
    unfold Operation.run
    dsimp only
    split <;> exact .of_still (.refl w) hw (fun _ => rfl) (fun _ => rfl)
  | _ => cases hop.kind

theorem leaves_exec {op : Operation} (hop : op.Calm) (hw : w.Calm) :
    op.Leaves w (op.exec w).2 :=
  leaves_run _ hop hw

/-- Several calm operations keep the desk calm. -/
theorem calm_execAll {ops : List Operation} (hops : ∀ op ∈ ops, op.Calm) (hw : w.Calm) :
    (execAll ops w).2.Calm ∧ (execAll ops w).2.line.id = w.line.id := by
  induction ops generalizing w with
  | nil => exact ⟨hw, rfl⟩
  | cons op rest ih =>
    obtain ⟨hop, hrest⟩ := List.forall_mem_cons.mp hops
    have left := leaves_exec hop hw
    obtain ⟨hcalm, hid⟩ := ih hrest left.calm
    exact ⟨hcalm, hid.trans left.id⟩

end Operation

end Correlator
