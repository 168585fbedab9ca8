/-
  Correlator.Proofs.Outcomes — WHAT COMES OF AN ERRAND.

  An errand leaves an engine behind and tells something to whoever sent it.
  Most errands concern one connection: they are work on its line, if it is
  known, and that work decides both.  Desks that a relation holds together stay
  together when the same work is done on them, and it tells the same.

  Main results:
    * `Outcome`, `Engine.outcome` — what an errand tells,
    * `Errand.work`, `Engine.Hands.work` — errands as work on a line,
    * `Engine.Invariant.actAll` — what is kept by work on a line is kept by errands,
    * `Desk.Unison.work` — the same work on two desks.
-/
import Correlator.Proofs.Errands
import Correlator.Proofs.Unison
namespace Correlator

/-! ## §1. Outcomes -/

/-- What an errand tells.  Without an answer the connection is not known. -/
inductive Outcome where
  | done
  | answered (a : Option Answer)
  | replied (r : Reply)
  | settled (r : Except LinkError Unit)
  | waited (r : Option (Except LinkError Unit))
  | sent (r : Except LinkError Message)
  | subscribed (r : Except LinkError SinkRef)
  | entered (e : Option Enrolment)
  | read (r : Option Reading)
  | ended (changed : Option Bool)
  | registered (r : Except LinkError Line)

namespace Outcome

def renumber (f : Nat → Nat) : Outcome → Outcome
  | answered a => answered (a.map (Answer.renumber f))
  | entered e => entered (e.map (Enrolment.renumber f))
  | o => o

/-- The sink that the outcome tells of, if it tells of one. -/
def enrolment? : Outcome → Option Enrolment
  | answered (some (.enrolled e)) => some e
  | entered e => e
  | _ => none

end Outcome

/-- What an errand tells whoever sent it. -/
def Engine.outcome (e : Engine) : Errand → Outcome
  | .operate c op => .answered ((e.exec op c).map Prod.fst)
  | .report c r => .replied (e.report c r).1
  | .register config => .registered (e.registerConnection config).1
  | .close => .done
  | .awaitStartup k limit => .waited (e.awaitStartupFrom k limit).1
  | .awaitAnnounced limit => .settled (e.awaitAnnounced limit).1
  | .beginSend c => .settled (e.beginSend c).1
  | .finishSend c answer => .sent (e.finishSend c answer).1
  | .beginCorrelated c factory request => .subscribed (e.beginCorrelated c factory request).1
  | .finishCorrelated s answer => .subscribed (e.finishCorrelated s answer).1
  | .enterSubscription name s => .entered ((e.enterSubscription name s).map Prod.fst)
  | .setReader _ _ _ => .done
  | .poll s => .read ((e.at? s.connection (Desk.poll s)).map Prod.fst)
  | .endSubscription s => .ended ((e.at? s.connection (Desk.endSubscription s)).map Prod.fst)

namespace Errand

/-- The connection that an errand concerns, if it concerns a single one. -/
def addressee : Errand → Option ConnectionId
  | operate c _ => some c
  | report c _ => some c
  | beginSend c => some c
  | finishSend c _ => some c
  | beginCorrelated c _ _ => some c
  | finishCorrelated s _ => some s.connection
  | enterSubscription _ s => some s.connection
  | setReader _ s _ => some s.connection
  | poll s => some s.connection
  | endSubscription s => some s.connection
  | _ => none

/-- The errand performs nothing against a law.  What it does beyond operations is judged by the
operations that do the same. -/
def Keeps (law : Operation → Prop) : Errand → Prop
  | operate _ op => op.Keeps law
  | report _ r => r.operation.Keeps law
  | finishCorrelated s _ => law (.dispose (.sink s))
  | endSubscription s => law (.dispose (.sink s))
  | enterSubscription name _ => ∃ op, law op ∧ op.enters? = some name
  | setReader name _ _ => ∃ op, law op ∧ op.enters? = some name
  | close => law .close
  | _ => True

/-! ## §2. Work on a line -/

/-- An errand that concerns a connection, with its line in hand. -/
def work : Errand → Desk → Outcome × Desk
  | operate _ op, w => (.answered (some (op.exec w).1), (op.exec w).2)
  | report _ r, w =>
    (.replied (r.reply (r.operation.exec w).1), match r.ignored (r.operation.exec w).1 with
      | none => (r.operation.exec w).2
      | some n => (r.operation.exec w).2.remark n)
  | beginSend c, w =>
    if w.line.state.isEstablished then (.settled (.ok ()), w.note .transmitting)
    else (.settled (.error (.notEstablished c w.line.state.shown)), w)
  | finishSend c (.error x), w =>
    (.sent (.error (Engine.unavailable c x)), w.note .transportRejected)
  | finishSend _ (.ok m), w => (.sent (.ok m), w)
  | beginCorrelated c factory request, w =>
    if w.line.state.isEstablished then
      (.subscribed (.ok ⟨c, w.line.mux.sinks.length⟩),
        (w.subscribeWith (w.caller 0) (factory request)).2.note .transmitting)
    else (.subscribed (.error (.notEstablished c w.line.state.shown)), w)
  | finishCorrelated s (.error x), w =>
    (.subscribed (.error (Engine.unavailable s.connection x)),
      ((w.note .transportRejected).endSubscription s).2)
  | finishCorrelated s (.ok m), w =>
    (.subscribed (.ok s),
      (w.mapSink s.place fun k => { k with rule := k.rule.onSent m }).note .awaitingReplies)
  | enterSubscription name s, w =>
    (.entered (some ((w.enter name ⟨s, .idle⟩).enrolment s)), w.enter name ⟨s, .idle⟩)
  | setReader name s r, w => (.done, w.setReader name s r)
  | poll s, w => (.read (some (w.poll s).1), (w.poll s).2)
  | endSubscription s, w => (.ended (some (w.endSubscription s).1), (w.endSubscription s).2)
  | _, w => (.done, w)

/-- A report is the operation that it stands for, and perhaps a notice that concerns no line. -/
theorem work_report (c : ConnectionId) (r : Report) (w : Desk) :
    ((report c r).work w).2 = (r.operation.exec w).2 ∨
      ∃ n, ((report c r).work w).2 = (r.operation.exec w).2.remark n := by
  simp only [work]
  split
  · exact .inl rfl
  · exact .inr ⟨_, rfl⟩

/-- What an errand tells if its connection is not known. -/
def unanswered : Errand → Outcome
  | operate _ _ => .answered none
  | report c r => .replied (r.unregistered c)
  | beginSend c => .settled (.error (.routeNotFound c.shown))
  | finishSend c (.error x) => .sent (.error (Engine.unavailable c x))
  | finishSend _ (.ok m) => .sent (.ok m)
  | beginCorrelated c _ _ => .subscribed (.error (.routeNotFound c.shown))
  | finishCorrelated s (.error x) => .subscribed (.error (Engine.unavailable s.connection x))
  | finishCorrelated s (.ok _) => .subscribed (.ok s)
  | enterSubscription _ _ => .entered none
  | poll _ => .read none
  | endSubscription _ => .ended none
  | _ => .done

end Errand

namespace Engine

variable {e : Engine} {c : ConnectionId}

/-- **An errand is work on the line of its connection.** -/
theorem Hands.work {w : Desk} (h : e.Hands c w) {a : Errand} (ha : a.addressee = some c) :
    e.outcome a = (a.work w).1 ∧ e.act a = e.ofDesk (a.work w).2 := by
  cases a with
  | operate d op =>
    obtain rfl : d = c := Option.some.inj ha
    have performed := h.at? op.exec
    constructor
    · show Outcome.answered ((e.at? _ op.exec).map Prod.fst) = _
      rw [performed]
      rfl
    · show ((e.at? _ op.exec).map Prod.snd).getD e = _
      rw [performed]
      rfl
  | report d r =>
    obtain rfl : d = c := Option.some.inj ha
    have reported := h.report r
    refine ⟨congrArg (fun x : Reply × Engine => Outcome.replied x.1) reported, ?_⟩
    show (e.report d r).2 = e.ofDesk (match r.ignored (r.operation.exec w).1 with
      | none => (r.operation.exec w).2
      | some n => (r.operation.exec w).2.remark n)
    rw [reported]
    cases r.ignored (r.operation.exec w).1 <;> rfl
  | beginSend d =>
    obtain rfl : d = c := Option.some.inj ha
    show Outcome.settled (e.beginSend _).1 = _ ∧ (e.beginSend _).2 = _
    simp only [Errand.work]
    by_cases hs : w.line.state.isEstablished = true
    · rw [if_pos hs, h.beginSend hs]
      exact ⟨rfl, rfl⟩
    · rw [if_neg hs, beginSend_of_refused (h.refused hs)]
      exact ⟨rfl, h.ofDesk.symm⟩
  | finishSend d answer =>
    obtain rfl : d = c := Option.some.inj ha
    cases answer with
    | error x => exact ⟨rfl, h.onLine _⟩
    | ok m => exact ⟨rfl, h.ofDesk.symm⟩
  | beginCorrelated d factory request =>
    obtain rfl : d = c := Option.some.inj ha
    show Outcome.subscribed (e.beginCorrelated _ factory request).1 = _ ∧
      (e.beginCorrelated _ factory request).2 = _
    simp only [Errand.work]
    by_cases hs : w.line.state.isEstablished = true
    · rw [if_pos hs, h.beginCorrelated hs factory request]
      exact ⟨rfl, rfl⟩
    · rw [if_neg hs, beginCorrelated_of_refused (h.refused hs)]
      exact ⟨rfl, h.ofDesk.symm⟩
  | finishCorrelated s answer =>
    obtain rfl := Option.some.inj ha
    cases answer with
    | error x => exact ⟨rfl, h.onLine _⟩
    | ok m => exact ⟨rfl, h.onLine _⟩
  | enterSubscription name s =>
    obtain rfl := Option.some.inj ha
    refine ⟨?_, (act_enterSubscription e name s).trans (h.onLine _)⟩
    show Outcome.entered ((e.enterSubscription name s).map Prod.fst) = _
    unfold Engine.enterSubscription
    rw [h.at?]
    rfl
  | setReader name s r =>
    obtain rfl := Option.some.inj ha
    exact ⟨rfl, h.onLine _⟩
  | poll s =>
    obtain rfl := Option.some.inj ha
    refine ⟨?_, h.onLine _⟩
    show Outcome.read ((e.at? s.connection (Desk.poll s)).map Prod.fst) = _
    rw [h.at?]
    rfl
  | endSubscription s =>
    obtain rfl := Option.some.inj ha
    refine ⟨?_, h.onLine _⟩
    show Outcome.ended ((e.at? s.connection (Desk.endSubscription s)).map Prod.fst) = _
    rw [h.at?]
    rfl
  | _ => cases ha

/-- An errand whose connection is not known does nothing, but a report is noted. -/
theorem outcome_of_unknown (h : e.registry.get? c = none) {a : Errand}
    (ha : a.addressee = some c) : e.outcome a = a.unanswered ∧
      (e.act a = e ∨ e.act a = e.note .unregisteredCallback) := by
  cases a with
  | operate d op =>
    obtain rfl : d = c := Option.some.inj ha
    have unknown := at?_of_unknown h op.exec
    constructor
    · show Outcome.answered ((e.at? _ op.exec).map Prod.fst) = _
      rw [unknown]
      rfl
    · refine .inl ?_
      show ((e.at? _ op.exec).map Prod.snd).getD e = _
      rw [unknown]
      rfl
  | report d r =>
    obtain rfl : d = c := Option.some.inj ha
    have reported : e.report d r = (r.unregistered d, e.note .unregisteredCallback) := by
      unfold Engine.report Engine.exec
      rw [at?_of_unknown h]
    exact ⟨congrArg (fun x : Reply × Engine => Outcome.replied x.1) reported, .inr (congrArg Prod.snd reported)⟩
  | beginSend d =>
    obtain rfl : d = c := Option.some.inj ha
    have refused := beginSend_of_refused (established_of_unknown h)
    exact ⟨congrArg (fun x : _ × Engine => Outcome.settled x.1) refused,
      .inl (congrArg Prod.snd refused)⟩
  | finishSend d answer =>
    obtain rfl : d = c := Option.some.inj ha
    cases answer with
    | error x => exact ⟨rfl, .inl (onLine_of_unknown h _)⟩
    | ok m => exact ⟨rfl, .inl rfl⟩
  | beginCorrelated d factory request =>
    obtain rfl : d = c := Option.some.inj ha
    have refused := beginCorrelated_of_refused (established_of_unknown h) factory request
    exact ⟨congrArg (fun x : _ × Engine => Outcome.subscribed x.1) refused,
      .inl (congrArg Prod.snd refused)⟩
  | finishCorrelated s answer =>
    obtain rfl := Option.some.inj ha
    cases answer with
    | error x => exact ⟨rfl, .inl (onLine_of_unknown h _)⟩
    | ok m => exact ⟨rfl, .inl (onLine_of_unknown h _)⟩
  | enterSubscription name s =>
    obtain rfl := Option.some.inj ha
    refine ⟨?_, .inl ((act_enterSubscription e name s).trans (onLine_of_unknown h _))⟩
    show Outcome.entered ((e.enterSubscription name s).map Prod.fst) = _
    unfold Engine.enterSubscription
    rw [at?_of_unknown h]
    rfl
  | setReader name s r =>
    obtain rfl := Option.some.inj ha
    exact ⟨rfl, .inl (onLine_of_unknown h _)⟩
  | poll s =>
    obtain rfl := Option.some.inj ha
    refine ⟨?_, .inl (onLine_of_unknown h _)⟩
    show Outcome.read ((e.at? s.connection (Desk.poll s)).map Prod.fst) = _
    rw [at?_of_unknown h]
    rfl
  | endSubscription s =>
    obtain rfl := Option.some.inj ha
    refine ⟨?_, .inl (onLine_of_unknown h _)⟩
    show Outcome.ended ((e.at? s.connection (Desk.endSubscription s)).map Prod.fst) = _
    rw [at?_of_unknown h]
    rfl
  | _ => cases ha

end Engine

/-! ## §3. What errands keep -/

/-- The property survives everything that errands which may be given are made of: notices that
concern no line, new lines, and work on a line in hand. -/
structure Engine.Invariant (may : Errand → Prop) (P : Engine → Prop) : Prop where
  note : ∀ {e : Engine} (n : Notice), P e → P (e.note n)
  register : ∀ {e : Engine} {config : ConnectionConfig} (names : List (String × ConnectionId)),
    e.registry.get? config.id = none → P e → P { e with registry :=
      { lines := e.registry.lines ++ [.ofConfig config e.config.sinkCapacity], names } }
  close : may .close → ∀ c : ConnectionId, may (.operate c .close)
  work : ∀ {e : Engine} {c : ConnectionId} {w : Desk} {a : Errand}, e.Hands c w →
    a.addressee = some c → may a → P e → P (e.ofDesk (a.work w).2)

namespace Engine.Invariant

variable {may : Errand → Prop} {P : Engine → Prop} (i : Invariant may P) {e : Engine} {a : Errand}

include i

theorem notes (ns : List Notice) (h : P e) : P { e with shared := e.shared.notes none ns } := by
  induction ns generalizing e with
  | nil => exact h
  | cons n ns ih => exact ih (i.note n h)

/-- An errand that concerns one connection. -/
theorem operate {c : ConnectionId} (hc : a.addressee = some c) (ha : may a) (h : P e) :
    P (e.act a) := by
  rcases e.known_cases c with unknown | ⟨w, hw⟩
  · rcases (outcome_of_unknown unknown hc).2 with hact | hact <;> rw [hact]
    · exact h
    · exact i.note _ h
  · rw [(hw.work hc).2]
    exact i.work hw hc ha h

theorem closeLines (hclose : may .close) (cs : List ConnectionId) (h : P e) :
    P (Engine.closeLines cs e) := by
  induction cs generalizing e with
  | nil => exact h
  | cons c cs ih =>
    rw [closeLines_cons]
    exact ih (i.operate rfl (i.close hclose c) h)

/-- **One errand** that may be given. -/
theorem act (ha : may a) (h : P e) : P (e.act a) := by
  cases a with
  | register config =>
    rw [act_register]
    split
    case isTrue => exact h
    case isFalse new =>
      have unknown := Option.not_isSome_iff_eq_none.mp (not_or.mp new).2
      exact i.note .connectionRegistered (i.register _ unknown h)
  | close => exact i.note .engineClosed (i.closeLines ha _ h)
  | awaitStartup k limit =>
    rw [act_awaitStartup]
    split
    · exact h
    · exact i.notes _ h
  | awaitAnnounced limit => exact i.notes _ h
  | _ => exact i.operate rfl ha h

/-- **Errands, one after the other**, by induction on them. -/
theorem actAll {as : List Errand} (ha : ∀ a ∈ as, may a) (h : P e) : P (Engine.actAll as e) := by
  induction as generalizing e with
  | nil => exact h
  | cons a as ih =>
    exact ih (fun b hb => ha b (List.mem_cons_of_mem _ hb)) (i.act (ha a List.mem_cons_self) h)

end Engine.Invariant

/-! ## §4. The same work on two desks -/

namespace Desk.Unison

variable {c : ConnectionId} {f : Nat → Nat} {law : Operation → Prop} {R : Desk → Desk → Prop}
  {w v : Desk} (u : Unison c f law R)

include u

/-- A sink of the line in hand is changed on both desks. -/
theorem mapBuffer (h : R w v) (i : Nat) (g : Stream → Stream) :
    R (w.mapSinkAt ⟨c, i⟩ fun k => k.mapBuffer g) (v.mapSinkAt ⟨c, i⟩ fun k => k.mapBuffer g) := by
  have within : ∀ k : Sink, (k.mapBuffer g).listener.within ⊆ k.listener.within := by
    intro k
    unfold Sink.mapBuffer
    split
    case h_1 q hq =>
      rw [hq]
      exact List.Subset.refl _
    case h_2 => exact List.Subset.refl _
  have renumber : ∀ k : Sink, (k.mapBuffer g).renumber f = (k.renumber f).mapBuffer g := by
    intro k
    obtain ⟨number, rule, phase, listener⟩ := k
    cases listener <;> rfl
  have number : ∀ k : Sink, (k.mapBuffer g).number = k.number := by
    intro k
    unfold Sink.mapBuffer
    split <;> rfl
  unfold Desk.mapSinkAt
  rw [if_pos (u.id h), if_pos (u.holds h).2.line]
  exact u.mapSink h i renumber number within

/-- A subscription is read from. -/
theorem poll (h : R w v) (i : Nat) : Agree R (w.poll ⟨c, i⟩) (v.poll ⟨c, i⟩) := by
  have buffer : v.bufferAt? ⟨c, i⟩ = w.bufferAt? ⟨c, i⟩ := by
    obtain ⟨hw, hv⟩ := u.sinkAt? h i
    unfold Desk.bufferAt?
    rw [hw, hv]
    rcases u.sink_cases h i with ⟨hs, ht⟩ | ⟨s, n, hs, ht⟩ <;> rw [hs, ht]
    rfl
  unfold Desk.poll
  rw [buffer]
  split
  · exact ⟨rfl, h⟩
  · exact ⟨rfl, u.mapBuffer h i _⟩

/-- A subscription is ended by its owner. -/
theorem endSubscription (h : R w v) {i : Nat} (hi : law (.dispose (.sink ⟨c, i⟩))) :
    Agree R (w.endSubscription ⟨c, i⟩) (v.endSubscription ⟨c, i⟩) := by
  let call : Caller := fun _ _ w => (false, w)
  have disposed := u.outward h hi rfl call call
  have changed : (v.dispose ⟨c, i⟩).1 = (w.dispose ⟨c, i⟩).1 :=
    Answer.flag.inj disposed.answer
  exact ⟨changed, u.mapBuffer disposed.desk i _⟩

/-- **The same work on two desks** tells the same but for numbers, and leaves them related. -/
theorem work (h : R w v) {a : Errand} (ha : a.addressee = some c) (hk : a.Keeps law) :
    (a.work v).1.renumber f = (a.work w).1.renumber f ∧ R (a.work w).2 (a.work v).2 := by
  have state := (u.line h).state
  cases a with
  | operate _ op =>
    obtain ⟨answer, desk⟩ := u.exec hk h
    exact ⟨congrArg (fun a => Outcome.answered (some a)) answer, desk⟩
  | report _ r =>
    -- No reply tells of a sink.
    have plain : ∀ {a b : Answer}, b.renumber f = a.renumber f →
        r.reply b = r.reply a ∧ r.ignored b = r.ignored a := by
      intro a b hab
      rcases Answer.of_renumber hab with rfl | ⟨e, e', rfl, rfl, -⟩
      · exact ⟨rfl, rfl⟩
      · cases r <;> exact ⟨rfl, rfl⟩
    obtain ⟨answer, desk⟩ := u.exec hk h
    obtain ⟨reply, ignored⟩ := plain answer
    refine ⟨congrArg Outcome.replied reply, ?_⟩
    show R (match r.ignored (r.operation.exec w).1 with
        | none => (r.operation.exec w).2
        | some n => (r.operation.exec w).2.remark n)
      (match r.ignored (r.operation.exec v).1 with
        | none => (r.operation.exec v).2
        | some n => (r.operation.exec v).2.remark n)
    rw [ignored]
    split
    · exact desk
    · exact u.remark desk _
  | beginSend _ =>
    simp only [Errand.work]
    rw [state]
    split
    · exact ⟨rfl, u.note h .transmitting rfl⟩
    · exact ⟨rfl, h⟩
  | finishSend _ answer =>
    cases answer with
    | error x => exact ⟨rfl, u.note h .transportRejected rfl⟩
    | ok m => exact ⟨rfl, h⟩
  | beginCorrelated _ factory request =>
    simp only [Errand.work]
    rw [state, (u.line h).length]
    split
    · exact ⟨rfl, u.note (u.subscribe (u.caller 0 h) _ h).desk .transmitting rfl⟩
    · exact ⟨rfl, h⟩
  | finishCorrelated s answer =>
    obtain rfl := Option.some.inj ha
    cases answer with
    | error x => exact ⟨rfl, (u.endSubscription (u.note h .transportRejected rfl) hk).desk⟩
    | ok m =>
      refine ⟨rfl, u.note ?_ .awaitingReplies rfl⟩
      exact u.mapSink h s.place (fun _ => rfl) (fun _ => rfl) fun _ => List.Subset.refl _
  | enterSubscription name s =>
    obtain rfl := Option.some.inj ha
    obtain ⟨op, hop, hn⟩ := hk
    have desk := u.enter h hop hn s.place .idle
    exact ⟨congrArg (fun e => Outcome.entered (some e)) (u.enrolment desk s.place), desk⟩
  | setReader name s r =>
    obtain rfl := Option.some.inj ha
    obtain ⟨op, hop, hn⟩ := hk
    exact ⟨rfl, u.setReader h hop hn s.place r⟩
  | poll s =>
    obtain rfl := Option.some.inj ha
    obtain ⟨reading, desk⟩ := u.poll h s.place
    exact ⟨congrArg (fun r => Outcome.read (some r)) reading, desk⟩
  | endSubscription s =>
    obtain rfl := Option.some.inj ha
    obtain ⟨changed, desk⟩ := u.endSubscription h hk
    exact ⟨congrArg (fun b => Outcome.ended (some b)) changed, desk⟩
  | _ => cases ha

end Desk.Unison

end Correlator
