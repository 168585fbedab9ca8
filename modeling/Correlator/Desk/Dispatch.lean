/-
  Correlator.Desk.Dispatch — MESSAGES AND DROPS REACH THE WAITERS.

  The multiplexer of the line in hand admits sinks, offers them messages, and
  ends them: by a drop that every active sink is told of, or by a close.  A
  message is offered to the sinks that were active when the dispatch began, in
  order; a sink that left its active phase meanwhile does not get it.  A drop
  and a close first empty the active set and then go through the sinks that
  were in it.

  Each callback is made by a `Caller`, which is handed in: what a waiter does
  in a callback may be any further operations, and the caller runs them.  A
  panic of a rule or of a callback is noted and goes no further.

  Main content:
    * `Desk.seat`, `Desk.enrol` — a new sink,
    * `Desk.takes` — whom a message that is offered reaches,
    * `Desk.dispatchWith`, `Desk.broadcastWith`, `Desk.closeWith`,
    * `Desk.resume` — the end of a drop.
-/
import Correlator.Desk.Basic
namespace Correlator

/-- Makes a callback to the sink at a place, and says whether it panicked. -/
abbrev Caller := Nat → Call → Desk → Bool × Desk

namespace Desk

/-! ## One sink -/

/-- Makes a callback, and catches a panic.  Says whether the callback returned. -/
def tell (call : Caller) (i : Nat) (c : Call) (w : Desk) : Bool × Desk :=
  match call i c w with
  | (true, w) => (false, w.note .callbackPanicked)
  | (false, w) => (true, w)

/-- Offers a message to a sink.  The rule is asked first, then the phase. -/
def deliver (call : Caller) (m : Message) (i : Nat) (w : Desk) : Bool × Desk :=
  match w.sink? i with
  | none => (false, w)
  | some s =>
    match s.rule.judge m with
    | .panics => (false, w.note .callbackPanicked)
    | .rejects => (false, w)
    | .accepts => if s.isActive then w.tell call i (.message m) else (false, w)

/-- Ends an active sink: it leaves its active phase, then its waiter is told. -/
def finish (call : Caller) (phase : Phase) (c : Call) (i : Nat) (w : Desk) : Bool × Desk :=
  match w.sink? i with
  | none => (false, w)
  | some s =>
    if s.isActive then (w.mapSink i fun s => { s with phase }).tell call i c else (false, w)

/-- Tells an active sink of a drop, which terminates it. -/
def terminate (call : Caller) (d : ConnectionDropped) : Nat → Desk → Bool × Desk :=
  finish call .terminated (.error d)

/-- Tells an active sink of a close, which disposes it. -/
def shut (call : Caller) : Nat → Desk → Bool × Desk :=
  finish call .disposed .closed

/-! ## Who takes a message -/

/-- The sink at a place is active, and its rule accepts the message. -/
def takes (m : Message) (w : Desk) (i : Nat) : Bool :=
  match w.sink? i with
  | none => false
  | some s => s.isActive && s.rule.judge m = .accepts

theorem takes_iff {m : Message} {w : Desk} {i : Nat} : w.takes m i = true ↔
    ∃ s, w.sink? i = some s ∧ s.phase = .active ∧ s.rule.judge m = .accepts := by
  unfold takes
  cases w.sink? i <;> simp

/-- A sink that takes the message when it is offered is told of it. -/
theorem deliver_of_takes {call : Caller} {m : Message} {i : Nat} {w : Desk}
    (h : w.takes m i = true) : w.deliver call m i = w.tell call i (.message m) := by
  obtain ⟨s, hs, ha, hj⟩ := takes_iff.mp h
  unfold deliver
  simp only [hs, hj, if_pos (Sink.isActive_iff.mpr ha)]

/-- Otherwise nothing happens; only a rule that panics is noted. -/
theorem deliver_of_not_takes (call : Caller) {m : Message} {i : Nat} {w : Desk}
    (h : w.takes m i = false) :
    w.deliver call m i = (false, w) ∨ w.deliver call m i = (false, w.note .callbackPanicked) := by
  unfold deliver
  split
  case h_1 => exact .inl rfl
  case h_2 s hs =>
    split
    case h_1 => exact .inr rfl
    case h_2 => exact .inl rfl
    case h_3 hj =>
      split
      case isFalse => exact .inl rfl
      case isTrue ha =>
        have taken := takes_iff.mpr ⟨s, hs, Sink.isActive_iff.mp ha, hj⟩
        rw [taken] at h
        cases h

/-! ## Many sinks -/

/-- Goes through sinks in order and counts those at which a step succeeds. -/
def visit (step : Nat → Desk → Bool × Desk) : List Nat → Desk → Nat × Desk
  | [], w => (0, w)
  | i :: rest, w =>
    let (reached, w) := step i w
    let (n, w) := visit step rest w
    ((if reached then 1 else 0) + n, w)

/-- Offers a message to every active sink and counts the callbacks that returned. -/
def dispatchWith (call : Caller) (m : Message) (w : Desk) : Nat × Desk :=
  let (n, w) := visit (deliver call m) w.line.mux.active w
  (n, if n = 0 ∧ m.kind ≠ .keepalive then w.note .orphanedResponse else w)

/-- Puts a drop on record, tells every active sink of it, and counts the callbacks that
returned. -/
def broadcastWith (call : Caller) (d : ConnectionDropped) (w : Desk) : Nat × Desk :=
  -- A sink that a callback registers from here on meets the record.
  let drained := w.line.mux.active
  let w := w.mapMux fun x => { x with dropRecord := some d, active := [] }
  let (n, w) := visit (terminate call d) drained w
  (n, w.note .dropBroadcast)

/-- Closes the multiplexer for good, tells every active sink, and counts them. -/
def closeWith (call : Caller) (w : Desk) : Nat × Desk :=
  let drained := w.line.mux.active
  let w := w.mapMux fun x => { x with closed := true, active := [] }
  let (_, w) := visit (shut call) drained w
  (drained.length, w.note .multiplexerClosed)

/-- Takes the drop off the record, so that sinks are admitted again. -/
def resume (w : Desk) : Desk :=
  match w.line.mux.dropRecord with
  | none => w
  | some _ => (w.mapMux fun x => { x with dropRecord := none }).note .dropRecordCleared

/-! ## New sinks -/

/-- Makes a sink with the next number, at the next place, outside the active set. -/
def seat (rule : Rule) (listener : Listener) (w : Desk) : Desk :=
  let number := w.shared.issued + 1
  let w := w.mapShared fun s => { s with issued := number }
  w.mapMux fun x => { x with sinks := x.sinks ++ [{ number, rule, phase := .active, listener }] }

/-- Makes a sink.  It is closed at once if the multiplexer is closed, terminated at once if a
drop is on record, and admitted to the active set otherwise. -/
def enrol (call : Caller) (rule : Rule) (listener : Listener) (w : Desk) : SinkRef × Desk :=
  let i := w.line.mux.sinks.length
  let ref : SinkRef := ⟨w.line.id, i⟩
  let w := w.seat rule listener
  -- A close outranks a drop that is on record.
  if w.line.mux.closed then (ref, (w.shut call i).2)
  else match w.line.mux.dropRecord with
    | some d => (ref, ((w.note .sinkRefused).terminate call d i).2)
    | none => (ref, (w.mapMux fun x => { x with active := x.active ++ [i] }).note .sinkRegistered)

/-- What a caller learns of a sink that was made. -/
def enrolment (s : SinkRef) (w : Desk) : Enrolment :=
  match w.sinkAt? s with
  | none => ⟨s, 0, false⟩
  | some k => ⟨s, k.number, k.isActive⟩

/-- Registers a scripted waiter under a name. -/
def registerWith (call : Caller) (name : String) (rule : Rule) (script : Script Operation)
    (w : Desk) : Enrolment × Desk :=
  let (s, w) := w.enrol call rule (.scripted name script)
  let w := w.enter name ⟨s, .absent⟩
  (w.enrolment s, w)

/-- A new sink for a subscription, not entered under any name. -/
def subscribeWith (call : Caller) (rule : Rule) (w : Desk) : SinkRef × Desk :=
  w.enrol call rule (.stream (.withCapacity w.line.mux.capacity))

/-- Registers a subscription under a name. -/
def subscribeAsWith (call : Caller) (name : String) (rule : Rule) (w : Desk) : Enrolment × Desk :=
  let (s, w) := w.subscribeWith call rule
  let w := w.enter name ⟨s, .idle⟩
  (w.enrolment s, w)

end Desk

end Correlator
