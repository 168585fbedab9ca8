/-
  Correlator.Proofs.Broadcast — A DROP IS TOLD ONCE, AND HOLDS UNTIL RESUMED.

  A broadcast puts its drop on record, empties the active set and tells every
  sink that was in it.  From then on the multiplexer is frozen: nothing is
  dispatched, and who registers is told of the latest drop at once.  A resume
  takes the record off, and sinks are admitted again; those that were
  terminated stay so.  The waiters here are quiet: they may panic, and perform
  no operations in their callbacks.

  Main results:
    * `Operation.broadcasts` — one broadcast,
    * `Operation.frozen_of_record` — while a drop is on record,
    * `Operation.admits_of_no_record` — once it is off the record,
    * `Operation.broadcast_freeze_resume` — every run.
-/
import Correlator.Proofs.Callbacks
import Correlator.Proofs.Calm
namespace Correlator

/-! ## §1. One broadcast -/

/-- The account of a broadcast from a desk: its answer and the desk after it. -/
structure Broadcasts (d : ConnectionDropped) (w : Desk) (r : Answer × Desk) : Prop where
  /-- Every sink in the active set is told, once and in the order of the set, and no other. -/
  calls : r.2.shared.calls = w.shared.calls ++ w.line.mux.active.map (·, .error d)
  /-- The order of the set is that of the numbers. -/
  order : w.line.mux.active.Pairwise fun i j =>
    ∃ s t, w.sink? i = some s ∧ w.sink? j = some t ∧ s.number < t.number
  /-- The callbacks that did not panic are counted. -/
  answer : r.1 = .count (w.line.mux.active.countP fun i => !w.panicsAt (.error d) i)
  /-- Those that are told are terminated, and no other sink is touched. -/
  terminated : ∀ i ∈ w.line.mux.active, r.2.line.mux.phase? i = some .terminated
  others : ∀ i, i ∉ w.line.mux.active → r.2.sink? i = w.sink? i
  empty : r.2.line.mux.active = []
  record : r.2.line.mux.dropRecord = some d

namespace Operation

variable {w : Desk}

/-- **A broadcast among quiet waiters.** -/
theorem broadcasts (hs : Stage.Sound ⟨w, []⟩) (hw : w.Calm) (d : ConnectionDropped) :
    Broadcasts d w ((Operation.broadcast d).exec w) := by
  have hcalm : (Operation.broadcast d).Calm := ⟨rfl, by simp only [weight]⟩
  have left := leaves_exec hcalm hw
  have sound : Stage.Sound ⟨((Operation.broadcast d).exec w).2, []⟩ :=
    (exec_path (.broadcast d) w []).keeps Step.sound hs
  have hnd : w.line.mux.active.Nodup := by
    refine List.Pairwise.imp ?_ hs.orderly.ascending
    intro i j hij
    exact Nat.ne_of_lt hij
  -- The sinks are visited on a desk that differs in the record and the set only.
  have visited := Desk.toldAll_visit
    (Desk.perform (w.budget + (Operation.broadcast d).weight)) .terminated (.error d)
    w.line.mux.active hnd (w.mapMux fun x => { x with dropRecord := some d, active := [] })
    hw.quiet hs.orderly.seated
  have hexec : (Operation.broadcast d).exec w =
      (.count (w.broadcastWith (w.caller (Operation.broadcast d).weight) d).1,
        (w.broadcastWith (w.caller (Operation.broadcast d).weight) d).2) := by
    exact onMultiplexer_of_live hw.live fun v =>
      (.count (v.broadcastWith (w.caller (Operation.broadcast d).weight) d).1,
        (v.broadcastWith (w.caller (Operation.broadcast d).weight) d).2)
  constructor
  case calls =>
    rw [hexec]
    show (Desk.note _ _).shared.calls = _
    rw [Desk.calls_note]
    exact visited.calls
  case order => exact hs.orderly.numbers
  case answer =>
    rw [hexec]
    exact congrArg Answer.count visited.count
  case terminated =>
    rw [hexec]
    exact visited.told
  case others =>
    rw [hexec]
    exact visited.others
  case empty =>
    -- With the record in place the invariant leaves nothing in the set.
    refine sound.orderly.idle (.inl ?_)
    show ((Operation.broadcast d).exec w).2.line.mux.dropRecord.isSome = true
    rw [left.record]
    rfl
  case record => exact left.record

/-! ## §2. While a drop is on record -/

end Operation

/-- What a multiplexer does while a drop is on record. -/
structure Frozen (d : ConnectionDropped) (w : Desk) : Prop where
  /-- Nothing is dispatched. -/
  dispatch : ∀ m, ((Operation.dispatch m).exec w).1 = .count 0 ∧
    ((Operation.dispatch m).exec w).2.shared.calls = w.shared.calls
  /-- Who registers is told of the drop, hears nothing else, and is not admitted. -/
  register : w.line.mux.closed = false → ∀ op : Operation, op.registers = true → op.weight = 0 →
    (op.exec w).2.shared.calls = w.shared.calls ++ [(w.line.mux.sinks.length, .error d)] ∧
    (op.exec w).2.line.mux.phase? w.line.mux.sinks.length = some .terminated ∧
    (op.exec w).2.line.mux.active = []

namespace Operation

theorem Calm.of_registers {op : Operation} (h : op.registers = true) (hop : op.weight = 0) :
    op.Calm := by
  refine ⟨?_, hop⟩
  cases op with
  | register => rfl
  | subscribe => rfl
  | _ => cases h

theorem recordAfter_of_registers {op : Operation} (h : op.registers = true)
    (r : Option ConnectionDropped) : op.recordAfter r = r := by
  cases op with
  | register => rfl
  | subscribe => rfl
  | _ => cases h

/-- **A drop on record freezes the multiplexer.** -/
theorem frozen_of_record {w : Desk} (hs : Stage.Sound ⟨w, []⟩) (hw : w.Calm)
    {d : ConnectionDropped} (hd : w.line.mux.dropRecord = some d) : Frozen d w := by
  have hnil : w.line.mux.active = [] := by
    refine hs.orderly.idle (.inl ?_)
    show w.line.mux.dropRecord.isSome = true
    rw [hd]
    rfl
  constructor
  case dispatch =>
    intro m
    have hexec : (Operation.dispatch m).exec w =
        (.count (w.dispatchWith (w.caller (Operation.dispatch m).weight) m).1,
          (w.dispatchWith (w.caller (Operation.dispatch m).weight) m).2) :=
      onMultiplexer_of_live hw.live fun v =>
        (.count (v.dispatchWith (w.caller (Operation.dispatch m).weight) m).1,
          (v.dispatchWith (w.caller (Operation.dispatch m).weight) m).2)
    rw [hexec]
    unfold Desk.dispatchWith
    rw [hnil]
    refine ⟨rfl, ?_⟩
    dsimp only
    split
    · exact Desk.calls_note _ _
    · rfl
  case register =>
    intro hc op hop hweight
    obtain ⟨rule, listener, hl, hcalls, hphase, -⟩ :=
      enrol_of_registers (Desk.perform (w.budget + op.weight)) hop hweight hw
    obtain ⟨hcalls', hphase'⟩ := Desk.enrol_refused
      (Desk.perform (w.budget + op.weight)) rule hl hc hd
    refine ⟨hcalls.trans hcalls', hphase.trans hphase', ?_⟩
    -- The record is still there, so the set is still empty.
    have left := leaves_exec (.of_registers hop hweight) hw
    have sound : Stage.Sound ⟨(op.exec w).2, []⟩ := (exec_path op w []).keeps Step.sound hs
    refine sound.orderly.idle (.inl ?_)
    show (op.exec w).2.line.mux.dropRecord.isSome = true
    rw [left.record, recordAfter_of_registers hop, hd]
    rfl

/-! ## §3. Once it is off the record -/

/-- **Without a drop on record** an open multiplexer admits who registers, silently. -/
theorem admits_of_no_record {w : Desk} (hw : w.Calm) (hc : w.line.mux.closed = false)
    (hd : w.line.mux.dropRecord = none) {op : Operation} (hop : op.registers = true)
    (hweight : op.weight = 0) :
    (op.exec w).2.shared.calls = w.shared.calls ∧
      w.line.mux.sinks.length ∈ (op.exec w).2.line.mux.active ∧
      (op.exec w).2.line.mux.phase? w.line.mux.sinks.length = some .active := by
  obtain ⟨rule, listener, -, hcalls, hphase, hmem⟩ :=
    enrol_of_registers (Desk.perform (w.budget + op.weight)) hop hweight hw
  obtain ⟨hcalls', hmem', hphase'⟩ := Desk.enrol_admitted rule
    (Desk.callWith (Desk.perform (w.budget + op.weight))) listener hc hd
  exact ⟨hcalls.trans hcalls', hmem.mpr hmem', hphase.trans hphase'⟩

/-! ## §4. Every run -/

/-- The drop that was broadcast last, after one of `d`. -/
def lastDrop (d : ConnectionDropped) : List Operation → ConnectionDropped
  | [] => d
  | broadcast e :: ops => lastDrop e ops
  | _ :: ops => lastDrop d ops

/-- The operation does not take a drop off the record. -/
def keepsRecord : Operation → Bool
  | resume => false
  | _ => true

/-- The operation does not keep new sinks out. -/
def keepsOpen : Operation → Bool
  | broadcast _ | close => false
  | _ => true

/-- While nothing takes it off, the drop of the last broadcast is on record. -/
theorem record_execAll {ops : List Operation} (hops : ∀ op ∈ ops, op.Calm ∧ op.keepsRecord = true)
    {w : Desk} (hw : w.Calm) {d : ConnectionDropped} (hd : w.line.mux.dropRecord = some d) :
    (execAll ops w).2.line.mux.dropRecord = some (lastDrop d ops) := by
  induction ops generalizing w d with
  | nil => exact hd
  | cons op rest ih =>
    obtain ⟨⟨hop, hkeeps⟩, hrest⟩ := List.forall_mem_cons.mp hops
    have left := leaves_exec hop hw
    show (execAll rest (op.exec w).2).2.line.mux.dropRecord = _
    -- A further broadcast replaces the record; nothing else touches it.
    cases op with
    | broadcast e => exact ih hrest left.calm left.record
    | resume => cases hkeeps
    | _ => exact ih hrest left.calm (left.record.trans hd)

/-- While nothing keeps new sinks out, none are kept out. -/
theorem open_execAll {ops : List Operation} (hops : ∀ op ∈ ops, op.Calm ∧ op.keepsOpen = true)
    {w : Desk} (hw : w.Calm) (hc : w.line.mux.closed = false)
    (hd : w.line.mux.dropRecord = none) :
    (execAll ops w).2.line.mux.closed = false ∧
      (execAll ops w).2.line.mux.dropRecord = none := by
  induction ops generalizing w with
  | nil => exact ⟨hc, hd⟩
  | cons op rest ih =>
    obtain ⟨⟨hop, hkeeps⟩, hrest⟩ := List.forall_mem_cons.mp hops
    have left := leaves_exec hop hw
    have hc' : (op.exec w).2.line.mux.closed = false := by
      rw [left.closed, hc]
      cases op with
      | close => cases hkeeps
      | _ => rfl
    have hd' : (op.exec w).2.line.mux.dropRecord = none := by
      rw [left.record, hd]
      cases op with
      | broadcast => cases hkeeps
      | _ => rfl
    exact ih hrest left.calm hc' hd'

end Operation

/-- A multiplexer that has just been made, with no names that lead to its sinks. -/
theorem Desk.Calm.opening {w : Desk} {config : ConnectionConfig} (capacity : Nat)
    (h : ∀ name e, Directory.find? name w.shared.names = some e →
      e.sink.connection ≠ config.id) : (w.opening config capacity).Calm where
  live := rfl
  quiet i s hs := by cases hs
  named name e he hc := absurd hc (h name e he)

/-- What a multiplexer does that has been opened again. -/
structure Reopened (w : Desk) : Prop where
  /-- Who registers is admitted, and no callback is made. -/
  register : ∀ op : Operation, op.registers = true → op.weight = 0 →
    (op.exec w).2.shared.calls = w.shared.calls ∧
    w.line.mux.sinks.length ∈ (op.exec w).2.line.mux.active ∧
    (op.exec w).2.line.mux.phase? w.line.mux.sinks.length = some .active

/-- **A broadcast is told once, freezes the multiplexer, and holds until it is resumed.**  From
every state that calm operations lead to, there is the account of a broadcast; whatever calm
operations follow, as long as none resumes, the multiplexer is frozen by the latest drop; and once
it is resumed, it admits who registers unless it is closed.  A terminated sink stays so, whatever
operations follow.  The names in use lead to sinks of other connections at first. -/
theorem Operation.broadcast_freeze_resume (w : Desk) (config : ConnectionConfig) (capacity : Nat)
    (hnames : ∀ name e, Directory.find? name w.shared.names = some e →
      e.sink.connection ≠ config.id)
    (before : List Operation) (hbefore : ∀ op ∈ before, op.Calm) (d : ConnectionDropped)
    (during : List Operation) (hduring : ∀ op ∈ during, op.Calm ∧ op.keepsRecord = true)
    (after : List Operation) (hafter : ∀ op ∈ after, op.Calm ∧ op.keepsOpen = true) :
    let reached := (execAll before (w.opening config capacity)).2
    let told := (Operation.broadcast d).exec reached
    let frozen := (execAll during told.2).2
    let reopened := (execAll after (Operation.resume.exec frozen).2).2
    Broadcasts d reached told ∧
    Frozen (lastDrop d during) frozen ∧
    (frozen.line.mux.closed = false → Reopened reopened) ∧
    ∀ (i : Nat) (ops : List Operation), frozen.line.mux.phase? i = some .terminated →
      (execAll ops frozen).2.line.mux.phase? i = some .terminated := by
  intro reached told frozen reopened
  -- Before the broadcast.
  have sound : Stage.Sound ⟨reached, []⟩ :=
    (execAll_path before _ []).keeps Step.sound (.opening w config capacity)
  obtain ⟨calm, -⟩ := calm_execAll hbefore (.opening capacity hnames)
  have account := broadcasts sound calm d
  have left := leaves_exec (show (Operation.broadcast d).Calm from ⟨rfl, by simp only [weight]⟩) calm
  -- While it is frozen.
  have path : Path ⟨reached, []⟩ ⟨frozen, []⟩ :=
    (exec_path (.broadcast d) reached []).trans (execAll_path during told.2 [])
  have sound' : Stage.Sound ⟨frozen, []⟩ := path.keeps Step.sound sound
  obtain ⟨calm', -⟩ := calm_execAll (fun op hop => (hduring op hop).1) left.calm
  have record : frozen.line.mux.dropRecord = some (lastDrop d during) :=
    record_execAll hduring left.calm account.record
  refine ⟨account, frozen_of_record sound' calm' record, ?_, ?_⟩
  · -- After the resume.
    intro hc
    have resumed := leaves_exec (show Operation.resume.Calm from ⟨rfl, by simp only [weight]⟩) calm'
    obtain ⟨hc', hd'⟩ := open_execAll hafter resumed.calm (resumed.closed.trans hc) resumed.record
    obtain ⟨calm'', -⟩ := calm_execAll (fun op hop => (hafter op hop).1) resumed.calm
    exact ⟨fun op hop hweight => admits_of_no_record calm'' hc' hd' hop hweight⟩
  · -- A sink that has left its active phase keeps its phase, whatever happens.
    intro i ops hi
    obtain ⟨-, hages⟩ := (execAll_path ops frozen []).ages sound' i
    obtain ⟨p, hp, hkeeps⟩ := hages .terminated hi
    rw [hkeeps (by decide)] at hp
    exact hp

/-- Two waiters, of whom the second panics at a drop; a later drop while the first is on record;
and a third waiter. -/
theorem Operation.broadcast_freeze_resume_two_waiters :
    let id := ConnectionId.plain "FIX.4.4" "A" "B"
    let config : ConnectionConfig := ⟨"A", id, .dialingSingleThreaded, none⟩
    let w := (Desk.ofLine (.ofConfig config 4) ⟨[], 0⟩).opening config 4
    let waiters : List Operation :=
      [.subscribe "first" .always, .register "second" .always ⟨[], [⟨[], true⟩], none⟩]
    let reached := (execAll waiters w).2
    let told := (Operation.broadcast ⟨id, .disconnect, none⟩).exec reached
    let frozen := (execAll [.broadcast ⟨id, .logout, none⟩] told.2).2
    let reopened := (execAll [.activeCount] (Operation.resume.exec frozen).2).2
    told.1 = .count 1 ∧ frozen.line.mux.closed = false ∧
      Broadcasts ⟨id, .disconnect, none⟩ reached told ∧
      Frozen ⟨id, .logout, none⟩ frozen ∧ Reopened reopened := by
  intro id config w waiters reached told frozen reopened
  have hcalm : ∀ op ∈ waiters, op.Calm := by
    intro op hop
    rcases List.mem_cons.mp hop with rfl | hop
    · exact ⟨rfl, rfl⟩
    · rw [List.mem_singleton.mp hop]
      exact ⟨rfl, rfl⟩
  obtain ⟨account, freeze, reopen, -⟩ := broadcast_freeze_resume
    (Desk.ofLine (.ofConfig config 4) ⟨[], 0⟩) config 4 (by intro name e h; cases h)
    waiters hcalm ⟨id, .disconnect, none⟩ [.broadcast ⟨id, .logout, none⟩]
    (by intro op hop; rw [List.mem_singleton.mp hop]; exact ⟨⟨rfl, rfl⟩, rfl⟩)
    [.activeCount] (by intro op hop; rw [List.mem_singleton.mp hop]; exact ⟨⟨rfl, rfl⟩, rfl⟩)
  exact ⟨rfl, rfl, account, freeze, reopen rfl⟩

end Correlator
