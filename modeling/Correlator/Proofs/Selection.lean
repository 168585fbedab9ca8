/-
  Correlator.Proofs.Selection — EACH WAITER GETS WHAT ITS RULE SELECTS.

  Among waiters that perform no operations in their callbacks a dispatch moves
  nothing: the active set, the phases and the record stay as they are, so
  whether a sink takes a message is settled when the dispatch begins.  No other
  operation gives anybody a message.  Over any run of operations each sink
  therefore gets, in order, exactly those of the messages dispatched while it
  was active that its rule accepts.

  Main results:
    * `Desk.dispatch_quiet` — one dispatch,
    * `Operation.deliveries_of_silent` — operations that dispatch nothing,
    * `Operation.messagesAt_execAll` — runs,
    * `Operation.dispatch_reaches_matching` — a dispatch with any callbacks, and
      runs with quiet ones.
-/
import Correlator.Proofs.Budget
import Correlator.Proofs.Visits
namespace Correlator

/-! ## §1. What a dispatch moves among quiet waiters -/

namespace Desk

/-- The active set, the record and the close are as they were, and every sink stands in its phase
and has its rule. -/
structure Unmoved (w v : Desk) : Prop where
  active : v.line.mux.active = w.line.mux.active
  record : v.line.mux.dropRecord = w.line.mux.dropRecord
  closed : v.line.mux.closed = w.line.mux.closed
  phases : ∀ i, v.line.mux.phase? i = w.line.mux.phase? i
  rules : ∀ i, (v.sink? i).map Sink.rule = (w.sink? i).map Sink.rule

namespace Unmoved

variable {w u v : Desk}

theorem refl (w : Desk) : Unmoved w w := ⟨rfl, rfl, rfl, fun _ => rfl, fun _ => rfl⟩

theorem trans (h : Unmoved w u) (k : Unmoved u v) : Unmoved w v where
  active := k.active.trans h.active
  record := k.record.trans h.record
  closed := k.closed.trans h.closed
  phases i := (k.phases i).trans (h.phases i)
  rules i := (k.rules i).trans (h.rules i)

theorem note (h : Unmoved w v) (n : Notice) : Unmoved w (v.note n) :=
  ⟨h.active, h.record, h.closed, h.phases, h.rules⟩

/-- A listener that takes a callback moves nothing. -/
theorem hear (w : Desk) (i : Nat) (s : Sink) (c : Call) : Unmoved w (w.hear i s c) := by
  have hline := line_hear w i s c
  refine ⟨by rw [hline]; rfl, by rw [hline]; rfl, by rw [hline]; rfl, ?_, ?_⟩
  · intro j
    rw [hline]
    exact congrFun (Multiplexer.phase?_listen w.line.mux i c) j
  · intro j
    show ((w.hear i s c).line.sink? j).map Sink.rule = (w.line.sink? j).map Sink.rule
    rw [hline, Line.sink?_mapSink, Option.map_map]
    refine congrArg (Option.map · _) (funext fun k => ?_)
    show (if i = j then _ else k).rule = k.rule
    split <;> rfl

/-- Whether a sink takes a message depends on its phase and its rule. -/
theorem takes (h : Unmoved w v) (m : Message) (i : Nat) : v.takes m i = w.takes m i := by
  have hphase : (v.sink? i).map Sink.phase = (w.sink? i).map Sink.phase := h.phases i
  have hrule := h.rules i
  unfold Desk.takes
  cases hv : v.sink? i <;> cases hw : w.sink? i <;> simp_all [Sink.isActive]

end Unmoved

section

variable (perform : Performer) {w : Desk}

/-- A message is offered to one sink. -/
theorem deliver_quiet (hq : w.Quiet) (m : Message) (i : Nat) :
    Unmoved w (w.deliver (callWith perform) m i).2 ∧
      (w.deliver (callWith perform) m i).2.shared.calls =
        w.shared.calls ++ if w.takes m i then [(i, .message m)] else [] := by
  cases htakes : w.takes m i with
  | true =>
    obtain ⟨s, hs, -, -⟩ := takes_iff.mp htakes
    rw [deliver_of_takes htakes, if_pos rfl]
    obtain ⟨-, h | h⟩ := tell_quiet perform hs (hq i s hs) (.message m)
    · rw [h]
      exact ⟨.hear w i s _, calls_hear w i s _⟩
    · rw [h, calls_note]
      exact ⟨(Unmoved.hear w i s _).note _, calls_hear w i s _⟩
  | false =>
    rw [if_neg Bool.false_ne_true, List.append_nil]
    rcases deliver_of_not_takes (callWith perform) htakes with h | h
    · rw [h]
      exact ⟨.refl w, rfl⟩
    · rw [h]
      exact ⟨(Unmoved.refl w).note _, calls_note _ w⟩

/-- The sinks that take a message are given it, in order. -/
theorem visit_deliver_quiet (hq : w.Quiet) (m : Message) (places : List Nat) :
    Unmoved w (visit (deliver (callWith perform) m) places w).2 ∧
      (visit (deliver (callWith perform) m) places w).2.shared.calls =
        w.shared.calls ++ (places.filter (w.takes m)).map (·, .message m) := by
  induction places generalizing w with
  | nil => exact ⟨.refl w, (List.append_nil _).symm⟩
  | cons i rest ih =>
    obtain ⟨unmoved, calls⟩ := deliver_quiet perform hq m i
    obtain ⟨later, more⟩ := ih ((still_deliver perform hq m i).quiet hq)
    -- Those that come later take what they took before.
    have same : (w.deliver (callWith perform) m i).2.takes m = w.takes m :=
      funext fun j => unmoved.takes m j
    rw [same] at more
    rw [visit_cons_snd]
    refine ⟨unmoved.trans later, ?_⟩
    rw [more, calls, List.append_assoc, List.filter_cons]
    cases w.takes m i <;> rfl

/-- **A dispatch among quiet waiters** moves nothing, and gives the message to those that take
it. -/
theorem dispatch_quiet (hq : w.Quiet) (m : Message) :
    Unmoved w (w.dispatchWith (callWith perform) m).2 ∧
      (w.dispatchWith (callWith perform) m).2.shared.calls =
        w.shared.calls ++ (w.line.mux.active.filter (w.takes m)).map (·, .message m) := by
  obtain ⟨unmoved, calls⟩ := visit_deliver_quiet perform hq m w.line.mux.active
  unfold dispatchWith
  dsimp only
  split
  · rw [calls_note]
    exact ⟨unmoved.note _, calls⟩
  · exact ⟨unmoved, calls⟩

end

end Desk

/-! ## §2. Operations that dispatch nothing -/

/-- The operation may have a message dispatched. -/
def Operation.delivers : Operation → Bool
  | .dispatch _ => true
  | .inbound m => m.kind.isRoutable
  | _ => false

/-- Nobody is given a message. -/
abbrev Operation.Silent (op : Operation) : Prop := op.delivers = false

/-- A course on which nobody is given a message. -/
structure Silence (a b : Stage) : Prop where
  course : Course Operation.Silent a b
  deliveries : b.desk.shared.deliveries = a.desk.shared.deliveries

instance : Telling Operation.Silent Silence where
  course := Silence.course
  refl a := ⟨.refl a, rfl⟩
  trans h k := ⟨h.course.trans k.course, k.deliveries.trans h.deliveries⟩
  whole h := ⟨h.course, h.deliveries⟩
  broadcast {w u v owed d} h inside := by
    refine ⟨.broadcast h inside.course, ?_⟩
    have told : v.shared.deliveries = u.shared.deliveries := inside.deliveries
    exact ((Desk.deliveries_record rfl v).trans told).trans h.beside.deliveries
  dispatch _ h _ := by
    cases h with
    | asked h => cases h
    | inbound h hm => exact absurd (hm.symm.trans h) (by decide)

/-- Without weight, waiters keep every law. -/
theorem Desk.obeys_of_weight {w : Desk} (h : w.line.weight = 0) (law : Operation → Prop) :
    w.Obeys law := by
  intro s hs op hop
  obtain ⟨i, hi⟩ := List.mem_iff_getElem?.mp hs
  rw [Listener.within_of_weight (Desk.quiet_of_weight h i s hi)] at hop
  cases hop

namespace Operation

variable {op : Operation} {w : Desk}

/-- An operation that has nothing dispatched gives nobody a message, unless a callback does. -/
theorem deliveries_of_silent (hop : op.weight = 0) (hw : w.line.weight = 0) (h : op.Silent) :
    (op.exec w).2.shared.deliveries = w.shared.deliveries := by
  have told : Silence ⟨w, []⟩ ⟨(op.exec w).2, []⟩ :=
    exec_tells (keeps_of_weight hop h) w [] (Desk.obeys_of_weight hw Silent)
  exact told.deliveries

/-- The message that an operation has dispatched on a desk. -/
def dispatched? (w : Desk) : Operation → Option Message
  | dispatch m => some m
  | inbound m =>
    if m.kind.isRoutable = true ∧ w.line.state = .established then some m else none
  | _ => none

theorem exec_of_dispatched {m : Message} (hlive : w.line.mux.released = false)
    (h : op.dispatched? w = some m) :
    (op.exec w).2 = (w.dispatchWith (w.caller op.weight) m).2 := by
  cases op with
  | dispatch m' =>
    cases h
    show (onMultiplexer w _).2 = _
    rw [onMultiplexer_of_live hlive]
  | inbound m' =>
    obtain ⟨up, hm⟩ := Option.ite_none_right_eq_some.mp h
    cases hm
    show (w.inboundWith _ m).2 = _
    rw [Desk.inboundWith_of_established up.1 up.2]
  | _ => cases h

/-- What is not dispatched is given to nobody. -/
theorem deliveries_of_not_dispatched (hop : op.weight = 0) (hw : w.line.weight = 0)
    (h : op.dispatched? w = none) : (op.exec w).2.shared.deliveries = w.shared.deliveries := by
  cases hd : op.delivers with
  | false => exact deliveries_of_silent hop hw hd
  | true =>
    cases op with
    | dispatch m => cases h
    | inbound m =>
      have down : w.line.state ≠ .established := by
        intro up
        have some : (inbound m).dispatched? w = some m := if_pos ⟨hd, up⟩
        rw [some] at h
        cases h
      -- A message that comes in before the connection is up is discarded.
      show (w.inboundWith _ m).2.shared.deliveries = _
      rw [Desk.inboundWith_of_not_established hd down]
      exact Desk.deliveries_record rfl w
    | _ => cases hd

end Operation

/-! ## §3. The messages of one sink -/

namespace History

/-- Only deliveries count. -/
theorem messagesAt_deliveries (i : Nat) (s : Shared) :
    messagesAt i s.deliveries = messagesAt i s.history := by
  unfold messagesAt callsAt Shared.deliveries
  rw [List.filterMap_filter, List.filterMap_filterMap, List.filterMap_filterMap]
  refine congrArg (List.filterMap · _) (funext fun x => ?_)
  unfold Moment.callAt?
  cases x.event with
  | called j label c =>
    cases c with
    | message m => rfl
    | _ => by_cases hj : j = i <;> simp [Event.isDelivery, Call.message?, hj]
  | _ => exact congrArg (Option.bind · _) (ite_self _)

/-- The messages of a sink among all callbacks. -/
theorem messagesAt_calls (i : Nat) (s : Shared) : messagesAt i s.history =
    s.calls.filterMap fun p => if p.1 = i then p.2.message? else none := by
  unfold messagesAt callsAt Shared.calls
  rw [List.filterMap_filterMap, List.filterMap_filterMap]
  refine congrArg (List.filterMap · _) (funext fun x => ?_)
  unfold Moment.callAt? Moment.call?
  cases x.event with
  | called j label c =>
    show (if j = i then some c else none).bind Call.message? = if j = i then c.message? else none
    split <;> rfl
  | _ => rfl

end History

open History

/-- One message to several sinks is one message to each of them. -/
theorem Call.filterMap_message (i : Nat) (m : Message) {places : List Nat} (h : places.Nodup) :
    ((places.map (·, Call.message m)).filterMap fun p =>
      if p.1 = i then p.2.message? else none) = if i ∈ places then [m] else [] := by
  induction places with
  | nil => rfl
  | cons j rest ih =>
    obtain ⟨hj, hrest⟩ := List.nodup_cons.mp h
    rw [List.map_cons, List.filterMap_cons, ih hrest]
    by_cases hji : j = i
    · subst hji
      simp [hj, Call.message?]
    · have hij : i ≠ j := Ne.symm hji
      simp [hji, hij]

namespace Operation

variable {op : Operation} {w : Desk}

/-- The messages that a sink takes of those that operations have dispatched, each on the desk that
the operations before have left. -/
def selected (i : Nat) : List Operation → Desk → List Message
  | [], _ => []
  | op :: rest, w => ((op.dispatched? w).filter fun m => w.takes m i).toList ++
      selected i rest (op.exec w).2

/-- A sink gets a message of an operation if the message is dispatched and the sink takes it. -/
theorem messagesAt_exec (hop : op.weight = 0) (hw : w.line.weight = 0)
    (hs : Stage.Sound ⟨w, []⟩) (i : Nat) :
    messagesAt i (op.exec w).2.shared.history = messagesAt i w.shared.history ++
      ((op.dispatched? w).filter fun m => w.takes m i).toList := by
  cases hd : op.dispatched? w with
  | none =>
    rw [← messagesAt_deliveries, deliveries_of_not_dispatched hop hw hd, messagesAt_deliveries]
    exact (List.append_nil _).symm
  | some m =>
    obtain ⟨-, calls⟩ := Desk.dispatch_quiet (Desk.perform (w.budget + op.weight))
      (Desk.quiet_of_weight hw) m
    have nodup : w.line.mux.active.Nodup := hs.orderly.ascending.imp Nat.ne_of_lt
    -- A sink that takes the message is active, and so it is in the set.
    have mem : i ∈ w.line.mux.active.filter (w.takes m) ↔ w.takes m i = true := by
      rw [List.mem_filter, and_iff_right_iff_imp]
      intro htakes
      obtain ⟨s, hsink, hactive, -⟩ := Desk.takes_iff.mp htakes
      refine (hs.accounted i ?_).resolve_right List.not_mem_nil
      rw [Multiplexer.phase?_of_sink hsink, hactive]
    have calls : (op.exec w).2.shared.calls = _ :=
      (congrArg (fun v => v.shared.calls) (exec_of_dispatched hs.live hd)).trans calls
    rw [messagesAt_calls, calls, List.filterMap_append, ← messagesAt_calls,
      Call.filterMap_message i m (nodup.filter _), Option.filter_some]
    simp only [mem]
    split <;> rfl

/-- **Each sink gets what its rule selects**, over a run of operations whose callbacks perform
none. -/
theorem messagesAt_execAll {ops : List Operation} (hops : ∀ op ∈ ops, op.weight = 0)
    (hw : w.line.weight = 0) (hs : Stage.Sound ⟨w, []⟩) (i : Nat) :
    (execAll ops w).2.line.weight = 0 ∧
      messagesAt i (execAll ops w).2.shared.history =
        messagesAt i w.shared.history ++ selected i ops w := by
  induction ops generalizing w with
  | nil => exact ⟨hw, (List.append_nil _).symm⟩
  | cons op rest ih =>
    obtain ⟨hop, hrest⟩ := List.forall_mem_cons.mp hops
    have light : (op.exec w).2.line.weight = 0 := by
      have := op.weight_exec_le w
      omega
    have sound : Stage.Sound ⟨(op.exec w).2, []⟩ := (op.exec_path w []).keeps Step.sound hs
    obtain ⟨hweight, hmessages⟩ := ih hrest light sound
    refine ⟨hweight, ?_⟩
    show messagesAt i (execAll rest (op.exec w).2).2.shared.history = _
    rw [hmessages, messagesAt_exec hop hw hs, selected, List.append_assoc]

/-! ## §4. Every dispatch -/

/-- **A dispatch reaches exactly the waiters that want the message.**  From every stage that steps
can lead to, whatever the callbacks do, there is the account of a dispatch, and its answer is the
number of callbacks that returned.  If no callback performs operations, then over every run each
sink gets exactly those of the messages dispatched while it was active that its rule accepts, in
order, and a dispatch leaves the active set, the phases and the record as they are. -/
theorem dispatch_reaches_matching (w : Desk) (config : ConnectionConfig) (capacity : Nat) :
    (∀ a, Path ⟨w.opening config capacity, []⟩ a → ∀ (depth : Nat) (m : Message),
      let call := Desk.callWith (Desk.perform depth)
      let r := a.desk.dispatchWith call m
      Dispatches call m a.desk r ∧ (dispatch m).run call a.desk = (.count r.1, r.2)) ∧
    ∀ ops : List Operation, (∀ op ∈ ops, op.weight = 0) →
      let v := (execAll ops (w.opening config capacity)).2
      (∀ i, messagesAt i v.shared.history = selected i ops (w.opening config capacity)) ∧
      ∀ (op : Operation) (m : Message), op.dispatched? v = some m → v.Unmoved (op.exec v).2 := by
  have start : Stage.Sound ⟨w.opening config capacity, []⟩ := .opening w config capacity
  refine ⟨?_, ?_⟩
  · intro a path depth m call r
    have sound : a.Sound := path.keeps Step.sound start
    refine ⟨Desk.dispatches sound depth m, ?_⟩
    unfold run
    dsimp only
    rw [onMultiplexer_of_live sound.live]
  · intro ops hops v
    have sound : Stage.Sound ⟨v, []⟩ := (execAll_path ops _ []).keeps Step.sound start
    have account := messagesAt_execAll hops (w := w.opening config capacity) rfl start
    refine ⟨fun i => (account i).2, ?_⟩
    intro op m hd
    rw [exec_of_dispatched sound.live hd]
    exact (Desk.dispatch_quiet _ (Desk.quiet_of_weight (account 0).1) m).1

/-- The first of four waiters disposes the third and registers another in its callback, the second
panics in its callback, and the rule of the fourth panics: two are called and one is counted.
Without operations in callbacks, a waiter gets the reports that are dispatched until it is
disposed. -/
theorem dispatch_reaches_matching_four_waiters :
    let config : ConnectionConfig :=
      ⟨"venue", .plain "FIX.4.4" "A" "B", .dialingSingleThreaded, none⟩
    let w := (Desk.ofLine (.ofConfig config 4) ⟨[], 0⟩).opening config 4
    let idle : Script Operation := ⟨[], [], none⟩
    let busy : Script Operation :=
      ⟨[⟨[.dispose (.named "third"), .register "late" .always idle], false⟩], [], none⟩
    let panicking : Script Operation := ⟨[⟨[], true⟩], [], none⟩
    let report : Message := .empty .executionReport
    let v := (execAll [.register "first" .always busy, .register "second" .always panicking,
      .register "third" .always idle, .register "fourth" .failing idle] w).2
    let call := Desk.callWith (Desk.perform 2)
    let r := v.dispatchWith call report
    let ops : List Operation :=
      [.register "reports" (.msgType .executionReport) panicking, .dispatch report,
        .dispatch (.empty .reject), .dispatch report, .dispose (.named "reports"),
        .dispatch report]
    r.1 = 1 ∧ r.2.shared.calls = [(0, .message report), (1, .message report)] ∧
    Dispatches call report v r ∧
    selected 0 ops w = [report, report] ∧
    messagesAt 0 (execAll ops w).2.shared.history = selected 0 ops w := by
  intro config w idle busy panicking report v call r ops
  obtain ⟨account, select⟩ :=
    dispatch_reaches_matching (Desk.ofLine (.ofConfig config 4) ⟨[], 0⟩) config 4
  have quiet : ∀ op ∈ ops, op.weight = 0 := by decide
  exact ⟨by decide, by decide, (account ⟨v, []⟩ (execAll_path _ w []) 2 report).1, by decide,
    (select ops quiet).1 0⟩

end Operation

end Correlator
