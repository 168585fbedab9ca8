/-
  Correlator.Proofs.Teardown — A CLOSE IS FINAL.

  A close tells every sink in the active set, empties the set and keeps it
  empty: nothing takes the close back.  From then on nothing is dispatched, no
  drop is told, and who registers is told of the close at once, even while a
  drop is on record.  An engine closes its lines one after the other, and no
  connection changes its state.  The waiters here are quiet: they may panic, and
  perform no operations in their callbacks.

  Main results:
    * `Operation.closes` — one close,
    * `Operation.tornDown_of_closed` — a multiplexer that is closed,
    * `Operation.farewells_execAll` — every run after a close,
    * `Engine.shut_close` — the lines of an engine that is closed,
    * `EngineBuilder.teardown` — every multiplexer and every engine.
-/
import Correlator.Proofs.Broadcast
import Correlator.Proofs.Subscribers
namespace Correlator

/-! ## §1. One close -/

/-- The account of a close from a desk: its answer and the desk after it. -/
structure Closes (w : Desk) (r : Answer × Desk) : Prop where
  /-- Every sink in the active set is told, once, and nothing else is told. -/
  distinct : w.line.mux.active.Nodup
  calls : r.2.shared.calls = w.shared.calls ++ w.line.mux.active.map (·, .closed)
  /-- They are counted, whether their callbacks panic or not. -/
  answer : r.1 = .count w.line.mux.active.length
  /-- Those that are told are disposed, and no other sink is touched. -/
  disposed : ∀ i ∈ w.line.mux.active, r.2.line.mux.phase? i = some .disposed
  others : ∀ i, i ∉ w.line.mux.active → r.2.sink? i = w.sink? i

theorem Multiplexer.Orderly.nodup {x : Multiplexer} (h : x.Orderly) : x.active.Nodup := by
  refine List.Pairwise.imp ?_ h.ascending
  intro i j hij
  exact Nat.ne_of_lt hij

namespace Operation

variable {w : Desk}

theorem calm_close : Operation.close.Calm := ⟨rfl, by simp only [weight]⟩

theorem exec_close (hlive : w.line.mux.released = false) : Operation.close.exec w =
    (.count (w.closeWith (w.caller Operation.close.weight)).1,
      (w.closeWith (w.caller Operation.close.weight)).2) :=
  onMultiplexer_of_live hlive fun v =>
    (.count (v.closeWith (w.caller Operation.close.weight)).1,
      (v.closeWith (w.caller Operation.close.weight)).2)

/-- **A close among quiet waiters.** -/
theorem closes (hs : Stage.Sound ⟨w, []⟩) (hw : w.Calm) : Closes w (Operation.close.exec w) := by
  -- The sinks are visited on a desk that differs in the close and the set only.
  have visited := Desk.toldAll_visit
    (Desk.perform (w.budget + Operation.close.weight)) .disposed .closed
    w.line.mux.active hs.orderly.nodup (w.mapMux fun x => { x with closed := true, active := [] })
    hw.quiet hs.orderly.seated
  rw [exec_close hw.live]
  constructor
  case distinct => exact hs.orderly.nodup
  case calls =>
    show (Desk.note _ _).shared.calls = _
    rw [Desk.calls_note]
    exact visited.calls
  case answer => rfl
  case disposed => exact visited.told
  case others => exact visited.others

end Operation

/-! ## §2. While the multiplexer is closed -/

/-- **Once the multiplexer is closed** a new sink gets one callback, which tells it of the close,
and is disposed, whether a drop is on record or not. -/
theorem Desk.enrol_closed (perform : Performer) {w : Desk} (rule : Rule) {listener : Listener}
    (hl : listener.weight = 0) (hc : w.line.mux.closed = true) :
    (w.enrol (callWith perform) rule listener).2.shared.calls =
        w.shared.calls ++ [(w.line.mux.sinks.length, .closed)] ∧
      (w.enrol (callWith perform) rule listener).2.line.mux.phase? w.line.mux.sinks.length =
        some .disposed := by
  have hx : (w.seat rule listener).line.mux.closed = w.line.mux.closed := rfl
  obtain ⟨-, told⟩ := finish_quiet perform (sink?_seat rule listener w) rfl hl .disposed .closed
  have heq : (w.enrol (callWith perform) rule listener).2 =
      ((w.seat rule listener).shut (callWith perform) w.line.mux.sinks.length).2 := by
    unfold enrol
    dsimp only
    rw [hx, hc]
    rfl
  rw [heq]
  exact ⟨told.calls, told.phase⟩

/-- What a multiplexer does that is closed. -/
structure TornDown (w : Desk) : Prop where
  empty : w.line.mux.active = []
  /-- Nothing is dispatched, no drop is told, and there is nothing left to close. -/
  dispatch : ∀ m, ((Operation.dispatch m).exec w).1 = .count 0
  broadcast : ∀ d, ((Operation.broadcast d).exec w).1 = .count 0
  close : (Operation.close.exec w).1 = .count 0
  silent : ∀ op : Operation, op.Calm → op.registers = false →
    (op.exec w).2.shared.calls = w.shared.calls
  /-- Who registers is told of the close, hears nothing else, and is disposed. -/
  register : ∀ op : Operation, op.registers = true → op.weight = 0 →
    (op.exec w).2.shared.calls = w.shared.calls ++ [(w.line.mux.sinks.length, .closed)] ∧
    (op.exec w).2.line.mux.phase? w.line.mux.sinks.length = some .disposed

namespace Operation

variable {w : Desk}

theorem closedAfter_true (op : Operation) : op.closedAfter true = true := by
  cases op <;> rfl

/-- **A close is final.** -/
theorem tornDown_of_closed (hs : Stage.Sound ⟨w, []⟩) (hw : w.Calm)
    (hc : w.line.mux.closed = true) : TornDown w := by
  have hnil : w.line.mux.active = [] := hs.orderly.idle (.inr hc)
  -- Over an empty set nobody is visited.
  have dispatch : ∀ m, ((Operation.dispatch m).exec w).1 = .count 0 ∧
      ((Operation.dispatch m).exec w).2.shared.calls = w.shared.calls := by
    intro m
    show (onMultiplexer w _).1 = _ ∧ (onMultiplexer w _).2.shared.calls = _
    rw [onMultiplexer_of_live hw.live]
    dsimp only
    unfold Desk.dispatchWith
    rw [hnil]
    refine ⟨rfl, ?_⟩
    dsimp only
    split
    · exact Desk.calls_note _ _
    · rfl
  have broadcast : ∀ d, ((Operation.broadcast d).exec w).1 = .count 0 ∧
      ((Operation.broadcast d).exec w).2.shared.calls = w.shared.calls := by
    intro d
    show (onMultiplexer w _).1 = _ ∧ (onMultiplexer w _).2.shared.calls = _
    rw [onMultiplexer_of_live hw.live]
    dsimp only
    unfold Desk.broadcastWith
    rw [hnil]
    exact ⟨rfl, Desk.calls_note _ _⟩
  have account := closes hs hw
  have calls := account.calls
  have answer := account.answer
  rw [hnil] at calls answer
  constructor
  case empty => exact hnil
  case dispatch => exact fun m => (dispatch m).1
  case broadcast => exact fun d => (broadcast d).1
  case close => exact answer
  case silent =>
    intro op hop hnot
    cases op with
    | register => cases hnot
    | subscribe => cases hnot
    | dispatch m => exact (dispatch m).2
    | broadcast d => exact (broadcast d).2
    | close => exact calls.trans (List.append_nil _)
    | resume =>
      show (onMultiplexer w _).2.shared.calls = _
      rw [onMultiplexer_of_live hw.live]
      show w.resume.shared.calls = _
      unfold Desk.resume
      split
      · rfl
      · exact Desk.calls_note _ _
    | activeCount =>
      show (onMultiplexer w _).2.shared.calls = _
      rw [onMultiplexer_of_live hw.live]
    | dispose handle =>
      unfold Operation.exec Operation.run
      dsimp only
      split
      · rfl
      · exact Desk.calls_dispose _ w
    | isActive handle =>
      unfold Operation.exec Operation.run
      dsimp only
      split <;> rfl
    | _ => cases hop.kind
  case register =>
    intro op hop hweight
    obtain ⟨rule, listener, hl, hcalls, hphase, -⟩ :=
      enrol_of_registers (Desk.perform (w.budget + op.weight)) hop hweight hw
    obtain ⟨hcalls', hphase'⟩ :=
      Desk.enrol_closed (Desk.perform (w.budget + op.weight)) rule hl hc
    exact ⟨hcalls.trans hcalls', hphase.trans hphase'⟩

/-! ## §3. Every run after a close -/

/-- A registration makes one sink, and no other calm operation makes any. -/
theorem length_exec {op : Operation} (hop : op.Calm) (hw : w.Calm) :
    (op.exec w).2.line.mux.sinks.length =
      w.line.mux.sinks.length + if op.registers then 1 else 0 := by
  have registered : op.registers = true →
      (op.exec w).2.line.mux.sinks.length = w.line.mux.sinks.length + 1 := by
    intro h
    obtain ⟨name, rule, listener, reader, hl, hv⟩ :=
      run_of_registers h (w.caller op.weight) hw.live
    rw [hop.quiet] at hl
    have enrolled := Desk.still_enrol (Desk.perform (w.budget + op.weight)) rule hw.quiet hl
    show (op.run (w.caller op.weight) w).2.line.mux.sinks.length = _
    rw [hv, (Desk.still_enter _ _ _).length]
    show (w.enrol _ rule listener).2.line.mux.sinks.length = _
    refine enrolled.length.trans ?_
    rw [Desk.sinks_seat, List.length_append, List.length_singleton]
  cases op with
  | register => exact registered rfl
  | subscribe => exact registered rfl
  | dispatch m =>
    show (onMultiplexer w _).2.line.mux.sinks.length = _
    rw [onMultiplexer_of_live hw.live]
    exact (Desk.still_dispatch _ hw.quiet m).length
  | broadcast d =>
    show (onMultiplexer w _).2.line.mux.sinks.length = _
    rw [onMultiplexer_of_live hw.live]
    exact (Desk.still_broadcast _ hw.quiet d).length
  | close =>
    rw [exec_close hw.live]
    exact (Desk.still_close _ hw.quiet).length
  | resume =>
    show (onMultiplexer w _).2.line.mux.sinks.length = _
    rw [onMultiplexer_of_live hw.live]
    exact congrArg List.length (Desk.sinks_resume w)
  | activeCount =>
    show (onMultiplexer w _).2.line.mux.sinks.length = _
    rw [onMultiplexer_of_live hw.live]
    rfl
  | dispose handle =>
    unfold Operation.exec Operation.run
    dsimp only
    split
    · rfl
    · exact (Desk.Still.dispose w _).length
  | isActive handle =>
    unfold Operation.exec Operation.run
    dsimp only
    split <;> rfl
  | _ => cases hop.kind

/-- What is told in a run after a close, from the place of the next sink on: each new sink is told
of the close. -/
def farewells (place : Nat) (ops : List Operation) : List (Nat × Call) :=
  (List.range' place (ops.countP registers)).map (·, .closed)

theorem farewells_cons_of_registers {op : Operation} (h : op.registers = true) (place : Nat)
    (ops : List Operation) :
    farewells place (op :: ops) = (place, .closed) :: farewells (place + 1) ops := by
  unfold farewells
  rw [List.countP_cons_of_pos h, List.range'_succ, List.map_cons]

theorem farewells_cons_of_not_registers {op : Operation} (h : ¬ op.registers = true) (place : Nat)
    (ops : List Operation) : farewells place (op :: ops) = farewells place ops := by
  unfold farewells
  rw [List.countP_cons_of_neg h]

/-- **Every run after a close**: the multiplexer stays torn down, nobody is told anything but new
sinks, of the close, and those end disposed. -/
theorem farewells_execAll {ops : List Operation} (hops : ∀ op ∈ ops, op.Calm)
    (hs : Stage.Sound ⟨w, []⟩) (hw : w.Calm) (hc : w.line.mux.closed = true) :
    TornDown (execAll ops w).2 ∧
      (execAll ops w).2.shared.calls =
        w.shared.calls ++ farewells w.line.mux.sinks.length ops ∧
      ∀ x ∈ farewells w.line.mux.sinks.length ops,
        (execAll ops w).2.line.mux.phase? x.1 = some .disposed := by
  induction ops generalizing w with
  | nil => exact ⟨tornDown_of_closed hs hw hc, (List.append_nil _).symm, by simp [farewells]⟩
  | cons op rest ih =>
    obtain ⟨hop, hrest⟩ := List.forall_mem_cons.mp hops
    have torn := tornDown_of_closed hs hw hc
    have left := leaves_exec hop hw
    have sound : Stage.Sound ⟨(op.exec w).2, []⟩ := (exec_path op w []).keeps Step.sound hs
    have hc' : (op.exec w).2.line.mux.closed = true := by
      rw [left.closed, hc, closedAfter_true]
    have length := length_exec hop hw
    obtain ⟨torn', calls, disposed⟩ := ih hrest sound left.calm hc'
    rw [length] at calls disposed
    show TornDown (execAll rest (op.exec w).2).2 ∧
      (execAll rest (op.exec w).2).2.shared.calls = _ ∧
      ∀ x ∈ farewells w.line.mux.sinks.length (op :: rest),
        (execAll rest (op.exec w).2).2.line.mux.phase? x.1 = _
    refine ⟨torn', ?_⟩
    by_cases hr : op.registers = true
    case pos =>
      obtain ⟨told, gone⟩ := torn.register op hr hop.quiet
      rw [if_pos hr] at calls disposed
      rw [farewells_cons_of_registers hr, calls, told, List.append_assoc]
      refine ⟨rfl, fun x hx => ?_⟩
      rcases List.mem_cons.mp hx with rfl | hx
      · -- A sink that has been disposed stays so.
        obtain ⟨-, hages⟩ :=
          (execAll_path rest (op.exec w).2 []).ages sound w.line.mux.sinks.length
        obtain ⟨p, hp, hkeeps⟩ := hages .disposed gone
        rw [hkeeps (by decide)] at hp
        exact hp
      · exact disposed x hx
    case neg =>
      rw [if_neg hr] at calls disposed
      rw [farewells_cons_of_not_registers hr, calls, torn.silent op hop (by simpa using hr)]
      exact ⟨rfl, disposed⟩

end Operation

/-! ## §4. The lines of an engine -/

/-- What quiet callbacks leave alone outside the multiplexer in hand. -/
structure Desk.Inward (w v : Desk) : Prop where
  before : v.before = w.before
  after : v.after = w.after
  config : v.line.config = w.line.config
  state : v.line.state = w.line.state

namespace Desk

namespace Inward

variable {w u v : Desk}

theorem trans (h : Inward w u) (k : Inward u v) : Inward w v :=
  ⟨k.before.trans h.before, k.after.trans h.after, k.config.trans h.config, k.state.trans h.state⟩

theorem hear (w : Desk) (i : Nat) (s : Sink) (c : Call) : Inward w (w.hear i s c) := by
  unfold Desk.hear
  dsimp only
  split <;> exact ⟨rfl, rfl, rfl, rfl⟩

/-- A callback to a quiet listener. -/
theorem tell (perform : Performer) {i : Nat} {s : Sink} (hs : w.sink? i = some s)
    (hq : s.listener.weight = 0) (c : Call) : Inward w (w.tell (callWith perform) i c).2 := by
  obtain ⟨-, h | h⟩ := tell_quiet perform hs hq c
  · rw [h]
    exact hear w i s c
  · rw [h]
    exact (hear w i s c).trans ⟨rfl, rfl, rfl, rfl⟩

theorem finish (perform : Performer) (hq : w.Quiet) (phase : Phase) (c : Call) (i : Nat) :
    Inward w (w.finish (callWith perform) phase c i).2 := by
  unfold Desk.finish
  split
  case h_1 => exact ⟨rfl, rfl, rfl, rfl⟩
  case h_2 s hs =>
    split
    · have hs' := sink?_mapSink_self (fun k => { k with phase }) hs
      have left : Inward w (w.mapSink i fun k => { k with phase }) := ⟨rfl, rfl, rfl, rfl⟩
      exact left.trans (tell perform hs' (hq i s hs) c)
    · exact ⟨rfl, rfl, rfl, rfl⟩

end Inward

/-- The listener of an active sink has taken the callback that ends it. -/
theorem sink?_finish (perform : Performer) {w : Desk} {i : Nat} {s : Sink}
    (hs : w.sink? i = some s) (ha : s.phase = .active) (hq : s.listener.weight = 0) (phase : Phase)
    (c : Call) : (w.finish (callWith perform) phase c i).2.sink? i =
      some { s with phase, listener := (s.listener.next c).2 } := by
  have hs' := sink?_mapSink_self (fun k => { k with phase }) hs
  have heard := sink?_hear (s := { s with phase }) (c := c) hs'
  rw [finish_of_active phase c _ hs ha]
  obtain ⟨-, h | h⟩ := tell_quiet perform hs' hq c <;> rw [h] <;> exact heard

/-- Quiet sinks are ended one after the other: each takes its callback, and nothing happens
elsewhere. -/
theorem visit_finish (perform : Performer) (phase : Phase) (c : Call) (places : List Nat)
    (hnd : places.Nodup) (w : Desk) (hq : w.Quiet)
    (hp : ∀ i ∈ places, w.line.mux.phase? i = some .active) :
    Inward w (visit (finish (callWith perform) phase c) places w).2 ∧
      ∀ i ∈ places, (visit (finish (callWith perform) phase c) places w).2.sink? i =
        (w.sink? i).map fun s => { s with phase, listener := (s.listener.next c).2 } := by
  induction places generalizing w with
  | nil => exact ⟨⟨rfl, rfl, rfl, rfl⟩, by simp⟩
  | cons i rest ih =>
    obtain ⟨hi, hrest⟩ := List.nodup_cons.mp hnd
    obtain ⟨s, hs, ha⟩ := Option.map_eq_some_iff.mp (hp i List.mem_cons_self)
    have hs : w.sink? i = some s := hs
    obtain ⟨-, told⟩ := finish_quiet perform hs ha (hq i s hs) phase c
    have hother : ∀ j ∈ rest, (w.finish (callWith perform) phase c i).2.sink? j = w.sink? j :=
      fun j hj => told.others j fun h => hi (h ▸ hj)
    have hp' : ∀ j ∈ rest,
        (w.finish (callWith perform) phase c i).2.line.mux.phase? j = some .active := by
      intro j hj
      have hsame := congrArg (Option.map Sink.phase) (hother j hj)
      exact hsame.trans (hp j (List.mem_cons_of_mem _ hj))
    obtain ⟨inward, taken⟩ := ih hrest _ (told.still.quiet hq) hp'
    have later := toldAll_visit perform phase c rest hrest _ (told.still.quiet hq) hp'
    rw [visit_cons_snd]
    refine ⟨(Inward.finish perform hq phase c i).trans inward, fun j hj => ?_⟩
    rcases List.mem_cons.mp hj with rfl | hj
    · -- Those that come later do not touch the first.
      rw [later.others j hi, sink?_finish perform hs ha (hq j s hs) phase c, hs]
      rfl
    · rw [taken j hj, hother j hj]

end Desk

/-- What a close makes of a line: its active sinks are told and disposed, and its state stays. -/
structure Line.Shut (l k : Line) : Prop where
  config : k.config = l.config
  state : k.state = l.state
  told : ∀ i s, l.sink? i = some s → s.phase = .active → k.sink? i =
    some { s with phase := .disposed, listener := (s.listener.next .closed).2 }

/-- A quiet line is closed, and nothing happens elsewhere. -/
theorem Desk.shut_close {w : Desk} (hs : Stage.Sound ⟨w, []⟩) (hq : w.Quiet) :
    w.Inward (Operation.close.exec w).2 ∧ w.line.Shut (Operation.close.exec w).2.line := by
  obtain ⟨inward, taken⟩ := visit_finish (perform (w.budget + Operation.close.weight)) .disposed
    .closed w.line.mux.active hs.orderly.nodup
    (w.mapMux fun x => { x with closed := true, active := [] }) hq hs.orderly.seated
  rw [Operation.exec_close hs.live]
  refine ⟨⟨inward.before, inward.after, inward.config, inward.state⟩, inward.config,
    inward.state, fun i s hi ha => ?_⟩
  have active : i ∈ w.line.mux.active := by
    have phase : w.line.mux.phase? i = some .active := by
      rw [← ha]
      exact Multiplexer.phase?_of_sink hi
    rcases hs.accounted i phase with h | h
    · exact h
    · cases h
  exact (taken i active).trans (congrArg (Option.map _) hi)

namespace Engine

variable {e : Engine}

/-- One connection is closed, and no other is touched. -/
theorem shut_act (he : e.Sound) {c : ConnectionId}
    (hq : ∀ l, e.registry.get? c = some l → l.weight = 0) :
    (∀ l, e.registry.get? c = some l → ∃ k,
      (e.act (.operate c .close)).registry.get? c = some k ∧ l.Shut k) ∧
    ∀ d, d ≠ c → (e.act (.operate c .close)).registry.get? d = e.registry.get? d := by
  rcases e.known_cases c with h | ⟨w, h⟩
  · rw [act_operate, onLine_of_unknown h]
    refine ⟨fun l hl => ?_, fun _ _ => rfl⟩
    rw [h] at hl
    cases hl
  · have sound : Stage.Sound ⟨w, []⟩ := Line.Sound.stage (by
      rw [h.shared]
      exact he.each _ h.mem)
    obtain ⟨inward, shut⟩ := Desk.shut_close sound (Desk.quiet_of_weight (hq _ h.get?))
    have id : (Operation.close.exec w).2.line.id = w.line.id :=
      congrArg ConnectionConfig.id inward.config
    have held : (Operation.close.exec w).2.Holds c :=
      h.holds.of_ids (congrArg (List.map Line.id) inward.before) id
    rw [act_operate, h.onLine]
    refine ⟨fun l hl => ⟨_, get?_ofDesk e held, ?_⟩, fun d hd => ?_⟩
    · rw [h.get?] at hl
      cases hl
      exact shut
    · exact h.get?_of_ne inward.before inward.after held.line hd

/-- Connections are closed one after the other. -/
theorem shut_closeLines {cs : List ConnectionId} (hnd : cs.Nodup) {e : Engine} (he : e.Sound)
    (hq : ∀ c ∈ cs, ∀ l, e.registry.get? c = some l → l.weight = 0) :
    (∀ c ∈ cs, ∀ l, e.registry.get? c = some l → ∃ k,
      (closeLines cs e).registry.get? c = some k ∧ l.Shut k) ∧
    ∀ d, d ∉ cs → (closeLines cs e).registry.get? d = e.registry.get? d := by
  induction cs generalizing e with
  | nil => exact ⟨by simp, fun _ _ => rfl⟩
  | cons c cs ih =>
    obtain ⟨hc, hrest⟩ := List.nodup_cons.mp hnd
    obtain ⟨first, others⟩ := shut_act he (hq c List.mem_cons_self)
    have apart : ∀ d ∈ cs, d ≠ c := fun d hd h => hc (h ▸ hd)
    have sound : (e.act (.operate c .close)).Sound :=
      (moves (.operate c .close) e).sound he
    obtain ⟨rest, untouched⟩ := ih hrest sound (by
      intro d hd l hl
      rw [others d (apart d hd)] at hl
      exact hq d (List.mem_cons_of_mem _ hd) l hl)
    rw [closeLines_cons]
    constructor
    · intro d hd l hl
      rcases List.mem_cons.mp hd with rfl | hd
      · rw [untouched d hc]
        exact first l hl
      · rw [← others d (apart d hd)] at hl
        exact rest d hd l hl
    · intro d hd
      obtain ⟨hdc, hdcs⟩ := List.ne_and_not_mem_of_not_mem_cons hd
      rw [untouched d hdcs, others d hdc]

/-- **Every line of an engine is shut when the engine is closed.** -/
theorem shut_close (he : e.Sound) (hq : ∀ l ∈ e.registry.lines, l.weight = 0) (c : ConnectionId) :
    (∀ l, e.registry.get? c = some l → ∃ k, e.close.registry.get? c = some k ∧ l.Shut k) ∧
      (e.registry.get? c = none → e.close.registry.get? c = none) := by
  let cs := byText (e.registry.lines.map Line.id)
  have perm : cs.Perm (e.registry.lines.map Line.id) := List.mergeSort_perm _ _
  have distinct : cs.Nodup := perm.nodup_iff.mpr he.distinct
  obtain ⟨shut, others⟩ := shut_closeLines distinct he
    fun c _ l hl => hq l (List.mem_of_find?_eq_some hl)
  constructor
  · intro l hl
    have known : c ∈ e.registry.lines.map Line.id := by
      have id : l.id = c := by simpa using List.find?_some hl
      rw [← id]
      exact List.mem_map_of_mem (List.mem_of_find?_eq_some hl)
    exact shut c (perm.mem_iff.mpr known) l hl
  · intro h
    have unknown : c ∉ e.registry.lines.map Line.id := by
      intro hc
      obtain ⟨l, hl, hid⟩ := List.mem_map.mp hc
      exact absurd hid (by simpa using List.find?_eq_none.mp h l hl)
    exact (others c fun hc => unknown (perm.mem_iff.mp hc)).trans h

end Engine

/-! ## §5. Every multiplexer and every engine -/

/-- What a close of the engine comes to. -/
structure Engine.Closed (e : Engine) : Prop where
  /-- No connection changes its state. -/
  state : ∀ c, e.close.stateOf c = e.stateOf c
  /-- The reader of a subscription whose sink was active is given the messages in its stream, and
  then told that it is closed, whatever the engine is asked to do. -/
  reader : ∀ s k q, e.sink? s = some k → k.phase = .active → k.listener = .stream q →
    ∀ later : List Errand, givenAll s later e.close =
      ((q.queue.map fun m => some (.ok m)) ++
        List.replicate (later.countP (Errand.reads s)) (some (.error .closed)) :
          List Reading).take (later.countP (Errand.reads s))

theorem EngineBuilder.closed_actAll {b : EngineBuilder} {e₀ : Engine} (h : b.build = .ok e₀)
    (as : List Errand) (hq : ∀ l ∈ (Engine.actAll as e₀).registry.lines, l.weight = 0) :
    (Engine.actAll as e₀).Closed := by
  have sound : (Engine.actAll as e₀).Sound := Engine.sound_actAll as (sound_build h)
  have shut := Engine.shut_close sound hq
  constructor
  case state =>
    intro c
    obtain ⟨known, unknown⟩ := shut c
    unfold Engine.stateOf Engine.handler
    cases hc : (Engine.actAll as e₀).registry.get? c with
    | none => rw [unknown hc]
    | some l =>
      obtain ⟨k, hk, hshut⟩ := known l hc
      rw [hk]
      exact congrArg Except.ok hshut.state
  case reader =>
    intro s k q hk ha hl later
    have unended : q.ending = none := unended h as hk ha q hl
    -- The sink as the close leaves it.
    obtain ⟨l, hline, hsink⟩ := Option.bind_eq_some_iff.mp hk
    obtain ⟨l', hline', hshut⟩ := (shut s.connection).1 l hline
    have told := hshut.told s.place k hsink ha
    rw [hl] at told
    have left : (Engine.actAll as e₀).close.sink? s = _ :=
      Option.bind_eq_some_iff.mpr ⟨l', hline', told⟩
    have fares := Engine.fares_actAll later (Engine.actAll as e₀).close s
    have length := Engine.length_givenAll left later
    rw [left] at fares
    have ended : (q.finish .closed).ending = some .closed := by
      unfold Stream.finish
      rw [unended]
      rfl
    have given := fares.of_closed (q := q.finish .closed) (by simp) rfl ended
    rw [length] at given
    rw [given, Stream.readings_of_closing ended]
    rfl

/-- **A close is final.**  From every state that calm operations lead to, there is the account of a
close; whatever calm operations follow, the multiplexer is torn down, nobody is told anything but
new sinks, of the close, and those end disposed.  And whatever an engine that was built was asked to
do, as long as its waiters are quiet a close of the engine changes no state, and is the end of every
subscription.  The names in use lead to sinks of other connections at first. -/
theorem EngineBuilder.teardown (w : Desk) (config : ConnectionConfig) (capacity : Nat)
    (hnames : ∀ name e, Directory.find? name w.shared.names = some e →
      e.sink.connection ≠ config.id)
    (before : List Operation) (hbefore : ∀ op ∈ before, op.Calm)
    (later : List Operation) (hlater : ∀ op ∈ later, op.Calm)
    (b : EngineBuilder) (e₀ : Engine) (hb : b.build = .ok e₀) (as : List Errand)
    (hquiet : ∀ l ∈ (Engine.actAll as e₀).registry.lines, l.weight = 0) :
    let reached := (Operation.execAll before (w.opening config capacity)).2
    let shut := Operation.close.exec reached
    let ended := (Operation.execAll later shut.2).2
    Closes reached shut ∧
    TornDown ended ∧
    ended.shared.calls =
      shut.2.shared.calls ++ Operation.farewells shut.2.line.mux.sinks.length later ∧
    (∀ x ∈ Operation.farewells shut.2.line.mux.sinks.length later,
      ended.line.mux.phase? x.1 = some .disposed) ∧
    (Engine.actAll as e₀).Closed := by
  intro reached shut ended
  have sound : Stage.Sound ⟨reached, []⟩ :=
    (Operation.execAll_path before _ []).keeps Step.sound (.opening w config capacity)
  obtain ⟨calm, -⟩ := Operation.calm_execAll hbefore (.opening capacity hnames)
  have left := Operation.leaves_exec Operation.calm_close calm
  have sound' : Stage.Sound ⟨shut.2, []⟩ :=
    (Operation.exec_path .close reached []).keeps Step.sound sound
  obtain ⟨torn, calls, disposed⟩ := Operation.farewells_execAll hlater sound' left.calm left.closed
  exact ⟨Operation.closes sound calm, torn, calls, disposed, closed_actAll hb as hquiet⟩

/-- Two waiters, of whom the first panics at the close; a drop that is on record when a third one
subscribes; and an engine that is closed before its only subscription has been read from. -/
theorem EngineBuilder.teardown_drop_after_close :
    let id := ConnectionId.plain "FIX.4.4" "A" "B"
    let config : ConnectionConfig := ⟨"A", id, .dialingSingleThreaded, none⟩
    let drop : ConnectionDropped := ⟨id, .disconnect, none⟩
    let waiters : List Operation :=
      [.register "first" .always ⟨[], [], some [⟨[], true⟩]⟩, .subscribe "second" .always]
    let later : List Operation := [.broadcast drop, .subscribe "third" .always]
    let w := (Desk.ofLine (.ofConfig config 4) ⟨[], 0⟩).opening config 4
    let shut := Operation.close.exec (Operation.execAll waiters w).2
    let ended := (Operation.execAll later shut.2).2
    let b : EngineBuilder := { hasTransport := true, connections := [config] }
    let report : Message := .empty .executionReport
    let e := Engine.actAll [.operate id (.subscribe "orders" .always),
      .operate id (.dispatch report)] b.engine
    shut.1 = .count 2 ∧ ended.line.mux.dropRecord = some drop ∧
      ended.shared.calls = [(0, .closed), (1, .closed), (2, .closed)] ∧
      ended.line.mux.phase? 2 = some .disposed ∧ TornDown ended ∧
      Engine.givenAll ⟨id, 0⟩ [.poll ⟨id, 0⟩, .poll ⟨id, 0⟩, .poll ⟨id, 0⟩] e.close =
        [some (.ok report), some (.error .closed), some (.error .closed)] := by
  intro id config drop waiters later w shut ended b report e
  have calm : ∀ ops ∈ [waiters, later], ∀ op ∈ ops, op.Calm := by
    intro ops hops op hop
    rcases List.mem_cons.mp hops with rfl | hops
    · rcases List.mem_cons.mp hop with rfl | hop
      · exact ⟨rfl, rfl⟩
      · rw [List.mem_singleton.mp hop]
        exact ⟨rfl, rfl⟩
    · obtain rfl := List.mem_singleton.mp hops
      rcases List.mem_cons.mp hop with rfl | hop
      · exact ⟨rfl, rfl⟩
      · rw [List.mem_singleton.mp hop]
        exact ⟨rfl, rfl⟩
  have built : b.build = .ok b.engine := rfl
  obtain ⟨-, torn, -, -, closed⟩ := teardown
    (Desk.ofLine (.ofConfig config 4) ⟨[], 0⟩) config 4 (by intro name e h; cases h)
    waiters (calm _ (by simp)) later (calm _ (by simp)) b b.engine built
    [.operate id (.subscribe "orders" .always), .operate id (.dispatch report)]
    (by decide)
  have sink : e.sink? ⟨id, 0⟩ = some ⟨1, .always, .active, .stream ⟨64, [report], none, 0⟩⟩ := rfl
  have thrice : ([.poll ⟨id, 0⟩, .poll ⟨id, 0⟩, .poll ⟨id, 0⟩] : List Errand).countP
      (Errand.reads ⟨id, 0⟩) = 3 := by simp [Errand.reads]
  have given := closed.reader ⟨id, 0⟩ _ _ sink rfl rfl [.poll ⟨id, 0⟩, .poll ⟨id, 0⟩, .poll ⟨id, 0⟩]
  rw [thrice] at given
  exact ⟨rfl, by decide +kernel, by decide +kernel, by decide +kernel, torn, given⟩

end Correlator
