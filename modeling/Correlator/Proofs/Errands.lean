/-
  Correlator.Proofs.Errands — WHAT AN ENGINE IS ASKED TO DO.

  A connection is operated, or its transport reports; a message is sent, in two
  halves with anything in between; a subscription is read, entered under a name
  or ended; connections are registered and closed.  An errand is one of these,
  and everything that can come between the halves of a send is a sequence of
  errands.

  Most errands are work on one line in hand.  The other lines of the engine
  change only where a handle leads to a sink of theirs, and then by a disposal.

  Main results:
    * `Errand`, `Engine.act`, `Engine.actAll` — errands, one after the other,
    * `Path.others`, `Path.issued_le` — the lines that are not in hand,
    * `Deed`, `Engine.Moves`, `Engine.moves` — what an errand comes to,
    * `Engine.Sound`, `EngineBuilder.sound_build`, `Engine.sound_actAll` — every
      engine that was built, whatever it was asked to do.
-/
import Correlator.Engine.Builder
import Correlator.Engine.Exchange
import Correlator.Proofs.Accounts
import Correlator.Proofs.ActiveSet
import Correlator.Proofs.Replies
namespace Correlator

/-! ## §1. Errands -/

/-- What an engine is asked to do. -/
inductive Errand where
  | operate (c : ConnectionId) (op : Operation)
  | report (c : ConnectionId) (r : Report)
  | register (config : ConnectionConfig)
  | close
  | awaitStartup (k : Clock) (limit : Option Duration)
  | awaitAnnounced (limit : Option Duration)
  | beginSend (c : ConnectionId)
  | finishSend (c : ConnectionId) (answer : Except TransportError Message)
  | beginCorrelated (c : ConnectionId) (factory : RuleFactory) (request : Message)
  | finishCorrelated (s : SinkRef) (answer : Except TransportError Message)
  | enterSubscription (name : String) (s : SinkRef)
  | setReader (name : String) (s : SinkRef) (r : Reader)
  | poll (s : SinkRef)
  | endSubscription (s : SinkRef)

namespace Errand

/-- The sink that the errand reads from, ends, or teaches the message that was sent, if any. -/
def alters : Errand → Option SinkRef
  | finishCorrelated s _ => some s
  | poll s => some s
  | endSubscription s => some s
  | _ => none

end Errand

namespace Engine

/-- The engine once an errand is done. -/
def act (e : Engine) : Errand → Engine
  | .operate c op => ((e.exec op c).map Prod.snd).getD e
  | .report c r => (e.report c r).2
  | .register config => (e.registerConnection config).2
  | .close => e.close
  | .awaitStartup k limit => (e.awaitStartupFrom k limit).2
  | .awaitAnnounced limit => (e.awaitAnnounced limit).2
  | .beginSend c => (e.beginSend c).2
  | .finishSend c answer => (e.finishSend c answer).2
  | .beginCorrelated c factory request => (e.beginCorrelated c factory request).2
  | .finishCorrelated s answer => (e.finishCorrelated s answer).2
  | .enterSubscription name s => ((e.enterSubscription name s).map Prod.snd).getD e
  | .setReader name s r => e.onLine s.connection (Desk.setReader name s r)
  | .poll s => e.onLine s.connection fun w => (w.poll s).2
  | .endSubscription s => e.onLine s.connection fun w => (w.endSubscription s).2

/-- Errands are done one after the other. -/
def actAll (as : List Errand) (e : Engine) : Engine := as.foldl act e

/-! ## §2. A line in hand -/

/-- The desk has the engine's line of a connection in hand. -/
structure Hands (e : Engine) (c : ConnectionId) (w : Desk) : Prop where
  holds : w.Holds c
  lines : w.lines = e.registry.lines
  shared : w.shared = e.shared
  at? : ∀ {α : Type} (f : Desk → α × Desk), e.at? c f = some ((f w).1, e.ofDesk (f w).2)

variable {e : Engine} {c : ConnectionId}

/-- A connection that is known can be taken in hand. -/
theorem hands {l : Line} (hl : e.registry.get? c = some l) : ∃ w, e.Hands c w ∧ w.line = l := by
  obtain ⟨w, holds, rfl, shared, hat⟩ := at?_of_get? hl
  obtain ⟨v, -, lines, -, hv, -⟩ := at?_eq_some (hat fun w => (w, w))
  obtain rfl : v = w := hv
  exact ⟨v, ⟨holds, lines, shared, hat⟩, rfl⟩

theorem Hands.get? {w : Desk} (h : e.Hands c w) : e.registry.get? c = some w.line := by
  unfold Registry.get? Registry.findLine
  rw [← h.lines]
  exact h.holds.find

/-- Work that stays on the line in hand shows at no other connection. -/
theorem Hands.get?_of_ne {w v : Desk} (h : e.Hands c w) (hb : v.before = w.before)
    (ha : v.after = w.after) (hv : v.line.id = c) {d : ConnectionId} (hd : d ≠ c) :
    (e.ofDesk v).registry.get? d = e.registry.get? d := by
  have other : ∀ l : Line, l.id = c → ¬ l.id = d := fun l hl hid => hd (hid ▸ hl)
  show Registry.findLine d v.lines = Registry.findLine d e.registry.lines
  rw [← h.lines]
  unfold Registry.findLine Desk.lines
  rw [hb, ha, List.find?_append, List.find?_append,
    List.find?_cons_of_neg (by simpa using other _ hv),
    List.find?_cons_of_neg (by simpa using other _ h.holds.line)]

theorem Hands.onLine {w : Desk} (h : e.Hands c w) (f : Desk → Desk) :
    e.onLine c f = e.ofDesk (f w) := by
  unfold Engine.onLine
  rw [h.at?]

/-- A connection that is not known cannot be worked on. -/
theorem at?_of_unknown (h : e.registry.get? c = none) {α : Type} (f : Desk → α × Desk) :
    e.at? c f = none := by
  cases hf : e.at? c f with
  | none => rfl
  | some r =>
    obtain ⟨a, e'⟩ := r
    obtain ⟨w, holds, lines, -⟩ := at?_eq_some hf
    have known : e.registry.get? c = some w.line := by
      unfold Registry.get? Registry.findLine
      rw [← lines]
      exact holds.find
    rw [h] at known
    cases known

theorem onLine_of_unknown (h : e.registry.get? c = none) (f : Desk → Desk) : e.onLine c f = e := by
  unfold onLine
  rw [at?_of_unknown h]

/-- Either the connection is not known, or its line is in hand. -/
theorem known_cases (e : Engine) (c : ConnectionId) :
    e.registry.get? c = none ∨ ∃ w, e.Hands c w := by
  cases h : e.registry.get? c with
  | none => exact .inl rfl
  | some l =>
    obtain ⟨w, hw, -⟩ := hands h
    exact .inr ⟨w, hw⟩

theorem onLine_of_at? {α : Type} (f : Desk → α × Desk) :
    ((e.at? c f).map Prod.snd).getD e = e.onLine c fun w => (f w).2 := by
  rcases e.known_cases c with h | ⟨w, h⟩
  · rw [at?_of_unknown h, onLine_of_unknown h]
    rfl
  · rw [h.at?, h.onLine]
    rfl

/-- Nothing is done to the line. -/
theorem Hands.ofDesk {w : Desk} (h : e.Hands c w) : e.ofDesk w = e := by
  unfold Engine.ofDesk
  rw [h.lines, h.shared]

/-! ## §3. Whether messages may be sent -/

theorem established_of_unknown (h : e.registry.get? c = none) :
    e.established c = .error (.routeNotFound c.shown) := by
  unfold established handler
  rw [h]

theorem Hands.established {w : Desk} (h : e.Hands c w) : e.established c =
    if w.line.state.isEstablished then .ok w.line
    else .error (.notEstablished c w.line.state.shown) := by
  unfold Engine.established handler
  rw [h.get?]

/-- A refusal leaves the engine as it is. -/
theorem beginSend_of_refused {x : LinkError} (h : e.established c = .error x) :
    e.beginSend c = (.error x, e) := by
  unfold beginSend
  rw [h]

theorem beginCorrelated_of_refused {x : LinkError} (h : e.established c = .error x)
    (factory : RuleFactory) (request : Message) :
    e.beginCorrelated c factory request = (.error x, e) := by
  unfold beginCorrelated
  rw [h]

section

variable {w : Desk} (h : e.Hands c w)

include h

theorem Hands.refused (hs : ¬ w.line.state.isEstablished = true) :
    e.established c = .error (.notEstablished c w.line.state.shown) := by
  rw [h.established, if_neg hs]

theorem Hands.beginSend (hs : w.line.state.isEstablished = true) :
    e.beginSend c = (.ok (), e.ofDesk (w.note .transmitting)) := by
  unfold Engine.beginSend
  rw [h.established, if_pos hs]
  exact congrArg _ (h.onLine _)

/-- The request is subscribed at the next place of the line. -/
theorem Hands.beginCorrelated (hs : w.line.state.isEstablished = true) (factory : RuleFactory)
    (request : Message) : e.beginCorrelated c factory request =
      (.ok ⟨c, w.line.mux.sinks.length⟩,
        e.ofDesk ((w.subscribeWith (w.caller 0) (factory request)).2.note .transmitting)) := by
  have place : (w.subscribeWith (w.caller 0) (factory request)).1 =
      ⟨c, w.line.mux.sinks.length⟩ := by
    rw [← h.holds.line]
    exact Desk.fst_enrol _ _ _ w
  unfold Engine.beginCorrelated
  rw [h.established, if_pos hs, h.at?, ← place]

end

/-! ## §4. Errands as work on a line -/

/-- Sending is work on the line in hand, if it is established. -/
theorem act_beginSend (e : Engine) (c : ConnectionId) : e.act (.beginSend c) =
    e.onLine c fun w => if w.line.state.isEstablished then w.note .transmitting else w := by
  show (e.beginSend c).2 = _
  rcases e.known_cases c with h | ⟨w, h⟩
  · rw [beginSend_of_refused (established_of_unknown h), onLine_of_unknown h]
  · rw [h.onLine]
    split
    case isTrue hs => rw [h.beginSend hs]
    case isFalse hs => rw [beginSend_of_refused (h.refused hs), h.ofDesk]

/-- A request is subscribed on the line in hand, if it is established. -/
theorem act_beginCorrelated (e : Engine) (c : ConnectionId) (factory : RuleFactory)
    (request : Message) : e.act (.beginCorrelated c factory request) = e.onLine c fun w =>
      if w.line.state.isEstablished then
        (w.subscribeWith (w.caller 0) (factory request)).2.note .transmitting
      else w := by
  show (e.beginCorrelated c factory request).2 = _
  rcases e.known_cases c with h | ⟨w, h⟩
  · rw [beginCorrelated_of_refused (established_of_unknown h), onLine_of_unknown h]
  · rw [h.onLine]
    split
    case isTrue hs => rw [h.beginCorrelated hs]
    case isFalse hs => rw [beginCorrelated_of_refused (h.refused hs), h.ofDesk]

/-- A report is the operation that it stands for, and perhaps a notice. -/
theorem act_report (e : Engine) (c : ConnectionId) (r : Report) :
    e.act (.report c r) = e.act (.operate c r.operation) ∨
      ∃ n, e.act (.report c r) = (e.act (.operate c r.operation)).note n := by
  show (e.report c r).2 = ((e.exec r.operation c).map Prod.snd).getD e ∨
    ∃ n, (e.report c r).2 = (((e.exec r.operation c).map Prod.snd).getD e).note n
  unfold report
  cases e.exec r.operation c with
  | none => exact .inr ⟨.unregisteredCallback, rfl⟩
  | some x =>
    obtain ⟨answer, e'⟩ := x
    dsimp only
    cases r.ignored answer with
    | none => exact .inl rfl
    | some n => exact .inr ⟨n, rfl⟩

/-- What is replied to a report is what comes of the operation on the line in hand. -/
theorem Hands.report {w : Desk} (h : e.Hands c w) (r : Report) : e.report c r =
    (r.reply (r.operation.exec w).1, match r.ignored (r.operation.exec w).1 with
      | none => e.ofDesk (r.operation.exec w).2
      | some n => (e.ofDesk (r.operation.exec w).2).note n) := by
  have performed := h.at? r.operation.exec
  unfold Engine.report Engine.exec
  generalize e.at? c r.operation.exec = x at performed ⊢
  subst performed
  rfl

theorem act_operate (e : Engine) (c : ConnectionId) (op : Operation) :
    e.act (.operate c op) = e.onLine c fun w => (op.exec w).2 := onLine_of_at? op.exec

theorem act_enterSubscription (e : Engine) (name : String) (s : SinkRef) :
    e.act (.enterSubscription name s) = e.onLine s.connection fun w => w.enter name ⟨s, .idle⟩ :=
  onLine_of_at? fun w => ((w.enter name ⟨s, .idle⟩).enrolment s, w.enter name ⟨s, .idle⟩)

/-- A wait that has no end leaves everything as it is. -/
theorem act_awaitStartup (k : Clock) (limit : Option Duration) (e : Engine) :
    e.act (.awaitStartup k limit) =
      if e.shared.barrier.isEndless k limit then e else (e.awaitStartup limit).2 := by
  show (e.awaitStartupFrom k limit).2 = _
  unfold awaitStartupFrom
  split <;> rfl

/-- A connection is registered if neither its name nor its identity is known. -/
theorem act_register (e : Engine) (config : ConnectionConfig) : e.act (.register config) =
    if (Registry.findName config.name e.registry.names).isSome = true ∨
      (e.registry.get? config.id).isSome = true then e
    else
      { e with registry :=
        { lines := e.registry.lines ++ [Line.ofConfig config e.config.sinkCapacity]
          names := e.registry.names ++ [(config.name, config.id)] } }.note
        .connectionRegistered := by
  let line : Line := .ofConfig config e.config.sinkCapacity
  show (e.registerConnection config).2 = _
  unfold registerConnection Registry.insert
  dsimp only
  by_cases hname : (Registry.findName line.config.name e.registry.names).isSome = true
  · rw [if_pos hname]
    exact (if_pos (.inl hname)).symm
  · by_cases hid : (e.registry.get? line.id).isSome = true
    · rw [if_neg hname, if_pos hid]
      exact (if_pos (.inr hid)).symm
    · rw [if_neg hname, if_neg hid]
      exact (if_neg (not_or.mpr ⟨hname, hid⟩)).symm

/-- Closing an engine closes the multiplexers of its lines. -/
theorem closeLines_cons (c : ConnectionId) (cs : List ConnectionId) (e : Engine) :
    closeLines (c :: cs) e = closeLines cs (e.act (.operate c .close)) := by
  show closeLines (c :: cs) e = closeLines cs (((e.exec .close c).map Prod.snd).getD e)
  rw [closeLines]
  split
  case h_1 h => rw [h]; rfl
  case h_2 h => rw [h]; rfl

end Engine

/-! ## §5. The lines that are not in hand -/

/-- The line after any number of disposals. -/
abbrev Line.Struck : Line → Line → Prop :=
  Relation.ReflTransGen fun l k => ∃ i, k = (l.disposeAt i).2

namespace Line.Struck

variable {l k : Line}

theorem kept {α : Type} {f : Line → α} (hf : ∀ i l, f (Line.disposeAt i l).2 = f l)
    (h : l.Struck k) : f k = f l := by
  induction h with
  | refl => rfl
  | tail _ step ih =>
    obtain ⟨i, rfl⟩ := step
    exact (hf i _).trans ih

theorem id (h : l.Struck k) : k.id = l.id :=
  h.kept (f := Line.id) fun i l => congrArg ConnectionConfig.id (Line.config_disposeAt i l)

end Line.Struck

/-- Lines keep their identities. -/
theorem Lines.ids_of_struck {ls ks : List Line} (h : List.Forall₂ Line.Struck ls ks) :
    ks.map Line.id = ls.map Line.id :=
  Lines.ids_of_forall₂ (fun _ _ h => h.id) h

/-- The lines on either side of the one in hand change only by disposals. -/
structure Desk.Others (w v : Desk) : Prop where
  before : List.Forall₂ Line.Struck w.before v.before
  after : List.Forall₂ Line.Struck w.after v.after

namespace Desk.Others

variable {w v u : Desk}

theorem of_eq (hb : v.before = w.before) (ha : v.after = w.after) : w.Others v := by
  constructor
  · rw [hb]
    exact List.forall₂_same.mpr fun _ _ => .refl
  · rw [ha]
    exact List.forall₂_same.mpr fun _ _ => .refl

theorem refl (w : Desk) : w.Others w := .of_eq rfl rfl

theorem trans (h : w.Others v) (k : v.Others u) : w.Others u where
  before := Lines.trans_of_forall₂ (fun _ _ _ first next => first.trans next) h.before k.before
  after := Lines.trans_of_forall₂ (fun _ _ _ first next => first.trans next) h.after k.after

theorem dispose (s : SinkRef) (w : Desk) : w.Others (w.dispose s).2 := by
  obtain ⟨before, -, after⟩ :=
    Desk.dispose_lines (R := Line.Struck) (fun _ => .refl) (fun i _ => .single ⟨i, rfl⟩) s w
  exact ⟨before, after⟩

end Desk.Others

theorem Path.others {a b : Stage} (h : Path a b) : a.desk.Others b.desk := by
  induction h with
  | refl => exact .refl _
  | tail _ step ih =>
    refine ih.trans ?_
    cases step with
    | aside h => cases h <;> exact .of_eq rfl rfl
    | turn h => cases h <;> exact .of_eq rfl rfl
    | shift h =>
      cases h with
      | dispose s => exact .dispose s _
      | _ => exact .of_eq rfl rfl

/-- Numbers of sinks are only given out. -/
theorem Path.issued_le {a b : Stage} (h : Path a b) :
    a.desk.shared.issued ≤ b.desk.shared.issued := by
  induction h with
  | refl => exact Nat.le_refl _
  | tail _ step ih =>
    refine Nat.le_trans ih ?_
    cases step with
    | aside h => exact Nat.le_of_eq h.beside.issued.symm
    | turn h => exact Nat.le_of_eq h.beside.issued.symm
    | shift h =>
      cases h with
      | enlist => exact Nat.le_succ _
      | refuse => exact Nat.le_succ _
      | dispose s => exact Nat.le_of_eq (Desk.issued_dispose s _).symm
      | _ => exact Nat.le_refl _

/-! ## §6. What an errand comes to -/

/-- A request subscribes. -/
theorem Desk.course_subscribe (w : Desk) (rule : Rule) :
    Course (fun _ => True) ⟨w, []⟩ ⟨(w.subscribeWith (w.caller 0) rule).2, []⟩ := by
  have follows : Desk.Follows (Course fun _ => True) (fun _ => True) (w.caller 0) :=
    Desk.follows_caller _
  let stream : Listener := .stream (.withCapacity w.line.mux.capacity)
  exact follows.enrol rule stream (fun _ _ => True.intro) rfl [] (.trivial w)

/-- A sink gets a name. -/
theorem Desk.course_enter (name : String) (x : Entry) (w : Desk) :
    Course (fun _ => True) ⟨w, []⟩ ⟨w.enter name x, []⟩ := by
  have entered : Runs (Course fun _ => True) (fun _ => True) ⟨w, []⟩ ⟨w.enter name x, []⟩ :=
    Desk.runs_enter name x w []
  exact entered (.trivial w)

/-- Work on a line in hand: courses, and changes of one sink that keep its number and its phase, and
leave a stream a stream. -/
inductive Deed (altered : Option SinkRef) : Desk → Desk → Prop
  | trans {w v u : Desk} (h : Deed altered w v) (k : Deed altered v u) : Deed altered w u
  | course {w v : Desk} (h : Course (fun _ => True) ⟨w, []⟩ ⟨v, []⟩) : Deed altered w v
  | alter {w : Desk} {s : SinkRef} {f : Sink → Sink} (hs : altered = some s)
      (hown : w.line.id = s.connection) (hn : ∀ k, (f k).number = k.number)
      (hp : ∀ k, (f k).phase = k.phase) (hl : ∀ k, (f k).buffer?.isSome = k.buffer?.isSome) :
      Deed altered w (w.mapSink s.place f)

namespace Deed

variable {altered : Option SinkRef} {w v : Desk}

theorem refl (w : Desk) : Deed altered w w := .course (.refl _)

theorem note (n : Notice) (hn : (Event.noted n).isMilestone = false) (w : Desk) :
    Deed altered w (w.note n) := by
  have noted : Runs (Course fun _ => True) (fun _ => True) ⟨w, []⟩ ⟨w.note n, []⟩ :=
    Desk.runs_note w [] hn
  exact .course (noted (.trivial w))

/-- The buffer of a subscription is read or ended. -/
theorem mapBuffer {s : SinkRef} (hown : w.line.id = s.connection) (f : Stream → Stream) :
    Deed (some s) w (w.mapSinkAt s fun k => k.mapBuffer f) := by
  have kept : ∀ k : Sink, (k.mapBuffer f).number = k.number ∧ (k.mapBuffer f).phase = k.phase ∧
      (k.mapBuffer f).buffer?.isSome = k.buffer?.isSome := by
    intro k
    unfold Sink.mapBuffer
    cases hl : k.listener with
    | stream buffer => exact ⟨rfl, rfl, by simp [Sink.buffer?, hl]⟩
    | scripted _ => exact ⟨rfl, rfl, rfl⟩
  unfold Desk.mapSinkAt
  rw [if_pos hown]
  exact .alter rfl hown (fun k => (kept k).1) (fun k => (kept k).2.1) fun k => (kept k).2.2

theorem dispose (s : SinkRef) (w : Desk) : Deed altered w (w.dispose s).2 :=
  .course (.act (.dispose s))

theorem endSubscription {s : SinkRef} (hown : w.line.id = s.connection) :
    Deed (some s) w (w.endSubscription s).2 := by
  have line : (w.dispose s).2.line.id = s.connection :=
    (Desk.kept_dispose (f := Line.id) (fun i l =>
      congrArg ConnectionConfig.id (Line.config_disposeAt i l)) s w).trans hown
  exact (dispose s w).trans (mapBuffer line _)

theorem id (h : Deed altered w v) : v.line.id = w.line.id := by
  induction h with
  | trans _ _ ih ik => exact ik.trans ih
  | course h => exact h.path.id
  | alter => rfl

theorem others (h : Deed altered w v) : w.Others v := by
  induction h with
  | trans _ _ ih ik => exact ih.trans ik
  | course h => exact h.path.others
  | alter => exact .of_eq rfl rfl

theorem issued_le (h : Deed altered w v) : w.shared.issued ≤ v.shared.issued := by
  induction h with
  | trans _ _ ih ik => exact Nat.le_trans ih ik
  | course h => exact h.path.issued_le
  | alter => exact Nat.le_refl _

end Deed

namespace Engine

/-- What becomes of an engine: work on one of its lines, a new line, or something that concerns no
line and is no callback. -/
inductive Moves (altered : Option SinkRef) : Engine → Engine → Prop
  | refl (e : Engine) : Moves altered e e
  | trans {e f g : Engine} (h : Moves altered e f) (k : Moves altered f g) : Moves altered e g
  | work {e : Engine} {c : ConnectionId} {w v : Desk} (h : e.Hands c w) (hd : Deed altered w v) :
      Moves altered e (e.ofDesk v)
  | register {e : Engine} {config : ConnectionConfig} {names : List (String × ConnectionId)}
      (h : e.registry.get? config.id = none) : Moves altered e
        { e with registry :=
          { lines := e.registry.lines ++ [.ofConfig config e.config.sinkCapacity], names } }
  | shared {e : Engine} {shared : Shared} {news : List Moment}
      (hi : shared.issued = e.shared.issued) (hh : shared.history = e.shared.history ++ news)
      (hn : ∀ x ∈ news, x.call? = none) : Moves altered e { e with shared }

namespace Moves

variable {altered : Option SinkRef} {e : Engine} {c : ConnectionId}

theorem onLine {f : Desk → Desk} (hf : ∀ w : Desk, w.line.id = c → Deed altered w (f w)) :
    Moves altered e (e.onLine c f) := by
  rcases e.known_cases c with h | ⟨w, h⟩
  · rw [onLine_of_unknown h]
    exact .refl e
  · rw [h.onLine]
    exact .work h (hf w h.holds.line)

theorem note (n : Notice) (e : Engine) : Moves altered e (e.note n) := by
  have added : (e.note n).shared.history = e.shared.history ++ [⟨.noted n, none⟩] :=
    Shared.history_add _ _
  exact .shared rfl added (by simp [Moment.call?])

theorem operate (c : ConnectionId) (op : Operation) (e : Engine) :
    Moves altered e (e.act (.operate c op)) := by
  rw [act_operate]
  exact onLine fun w _ => .course (op.exec_course (fun _ _ => True.intro) (.trivial w) [])

theorem closeLines (cs : List ConnectionId) (e : Engine) :
    Moves altered e (Engine.closeLines cs e) := by
  induction cs generalizing e with
  | nil => exact .refl e
  | cons c cs ih =>
    rw [closeLines_cons]
    exact (operate c .close e).trans (ih _)

/-- Notices are added to what has happened, and nothing else. -/
theorem notes (ns : List Notice) (e : Engine) :
    Moves altered e { e with shared := e.shared.notes none ns } := by
  induction ns generalizing e with
  | nil => exact .refl e
  | cons n ns ih => exact (note n e).trans (ih (e.note n))

end Moves

/-- **What an errand comes to.** -/
theorem moves (a : Errand) (e : Engine) : Moves a.alters e (e.act a) := by
  cases a with
  | operate c op => exact .operate c op e
  | report c r =>
    have operated : Moves (Errand.report c r).alters e (e.act (.operate c r.operation)) :=
      .operate c r.operation e
    rcases e.act_report c r with h | ⟨n, h⟩ <;> rw [h]
    · exact operated
    · exact operated.trans (.note n _)
  | register config =>
    rw [act_register]
    split
    case isTrue => exact .refl e
    case isFalse hnew =>
      obtain ⟨-, unknown⟩ := not_or.mp hnew
      exact (Moves.register (Option.not_isSome_iff_eq_none.mp unknown)).trans
        (.note .connectionRegistered _)
  | close => exact (Moves.closeLines _ e).trans (.note .engineClosed _)
  | awaitStartup k limit =>
    rw [act_awaitStartup]
    split
    · exact .refl e
    · exact .notes _ e
  | awaitAnnounced limit => exact .notes _ e
  | beginSend c =>
    rw [act_beginSend]
    refine .onLine fun w _ => ?_
    split
    · exact .note .transmitting rfl w
    · exact .refl w
  | finishSend c answer =>
    cases answer with
    | error x => exact .onLine fun w _ => .note .transportRejected rfl w
    | ok sent => exact .refl e
  | beginCorrelated c factory request =>
    rw [act_beginCorrelated]
    refine .onLine fun w _ => ?_
    split
    · exact (Deed.course (w.course_subscribe (factory request))).trans (.note .transmitting rfl _)
    · exact .refl w
  | finishCorrelated s answer =>
    cases answer with
    | error x =>
      refine .onLine fun w hw => ?_
      exact (Deed.note .transportRejected rfl w).trans
        (.endSubscription (w := w.note .transportRejected) hw)
    | ok sent =>
      refine .onLine fun w hw => ?_
      exact (Deed.alter (w := w) (f := fun k => { k with rule := k.rule.onSent sent }) rfl hw
        (fun _ => rfl) (fun _ => rfl) fun _ => rfl).trans (.note .awaitingReplies rfl _)
  | enterSubscription name s =>
    rw [act_enterSubscription]
    exact .onLine fun w _ => .course (w.course_enter name ⟨s, .idle⟩)
  | setReader name s r => exact .onLine fun w _ => .course (.aside (.names _) rfl)
  | poll s =>
    refine .onLine fun w hw => ?_
    unfold Desk.poll
    split
    · exact .refl w
    · exact .mapBuffer hw _
  | endSubscription s => exact .onLine fun w hw => .endSubscription hw

/-- What holds at the start and is kept by all that can become of an engine holds at the end. -/
theorem keeps_actAll {P : Engine → Prop} {as : List Errand}
    (hstep : ∀ {e f}, ∀ a ∈ as, Moves a.alters e f → P e → P f) {e : Engine} (he : P e) :
    P (actAll as e) := by
  induction as generalizing e with
  | nil => exact he
  | cons a as ih =>
    exact ih (fun b hb => hstep b (List.mem_cons_of_mem _ hb))
      (hstep a List.mem_cons_self (moves a e) he)

end Engine

/-! ## §7. Engines in order -/

/-- A line at rest is in order, with as many numbers given out. -/
def Line.Sound (issued : Nat) (l : Line) : Prop :=
  Stage.Sound ⟨{ line := l, shared := { barrier := ⟨[], 0⟩, issued } }, []⟩

namespace Line.Sound

variable {issued n : Nat} {l : Line}

theorem of_stage {w : Desk} (h : Stage.Sound ⟨w, []⟩) : w.line.Sound w.shared.issued :=
  h.of_mux_eq rfl rfl

theorem stage {w : Desk} (h : w.line.Sound w.shared.issued) : Stage.Sound ⟨w, []⟩ :=
  h.of_mux_eq rfl rfl

theorem ofConfig (config : ConnectionConfig) (capacity issued : Nat) :
    (Line.ofConfig config capacity).Sound issued where
  live := rfl
  orderly := Multiplexer.Orderly.withCapacity capacity
  issued n hn := by cases hn
  owed i hi := by cases hi
  accounted i hi := absurd (Multiplexer.lt_of_phase? hi) (Nat.not_lt_zero i)

theorem mono (h : l.Sound issued) (hn : issued ≤ n) : l.Sound n where
  live := h.live
  orderly := h.orderly
  issued k hk := Nat.le_trans (h.issued k hk) hn
  owed := h.owed
  accounted := h.accounted

theorem disposeAt (h : l.Sound issued) (i : Nat) : (l.disposeAt i).2.Sound issued := by
  let w : Desk := { line := l, shared := { barrier := ⟨[], 0⟩, issued } }
  have disposed : Stage.Sound ⟨(w.dispose ⟨l.id, i⟩).2, []⟩ := Stage.Sound.dispose h ⟨l.id, i⟩
  have line : (w.dispose ⟨l.id, i⟩).2.line = (l.disposeAt i).2 := by
    rw [Desk.line_dispose, if_pos rfl]
  rw [← line]
  exact disposed.of_mux_eq rfl (Desk.issued_dispose _ w).symm

theorem struck {k : Line} (h : l.Sound issued) (hk : l.Struck k) : k.Sound issued := by
  induction hk with
  | refl => exact h
  | tail _ step ih =>
    obtain ⟨i, rfl⟩ := step
    exact ih.disposeAt i

/-- One sink is changed, but for its number and its phase. -/
theorem mapSink (h : l.Sound issued) (i : Nat) {f : Sink → Sink}
    (hn : ∀ k, (f k).number = k.number) (hp : ∀ k, (f k).phase = k.phase) :
    (l.mapMux fun x => x.mapSink i f).Sound issued := by
  have phase : (l.mux.mapSink i f).phase? = l.mux.phase? := by
    funext j
    rw [Multiplexer.phase?_mapSink_of_keeps _ _ hp]
  refine Stage.Sound.narrow h rfl rfl (Multiplexer.map_number_mapSink _ i hn) h.orderly.idle
    (.refl _) (fun j _ => congrFun phase j) (fun j hj => by cases hj) ?_
  intro j hj
  refine ⟨?_, fun h => h⟩
  have hj : (l.mux.mapSink i f).phase? j = some .active := hj
  rw [phase] at hj
  exact hj

end Line.Sound

theorem Deed.sound {altered : Option SinkRef} {w v : Desk} (h : Deed altered w v)
    (hw : w.line.Sound w.shared.issued) : v.line.Sound v.shared.issued := by
  induction h with
  | trans _ _ ih ik => exact ik (ih hw)
  | course h => exact .of_stage (h.path.keeps Step.sound hw.stage)
  | alter _ _ hn hp _ => exact hw.mapSink _ hn hp

theorem Desk.Others.ids {w v : Desk} (h : w.Others v) (hl : v.line.id = w.line.id) :
    v.lines.map Line.id = w.lines.map Line.id := by
  unfold Desk.lines
  rw [List.map_append, List.map_append, List.map_cons, List.map_cons,
    Lines.ids_of_struck h.before, Lines.ids_of_struck h.after, hl]

/-- A line of the desk is the one in hand, or one that was there before and has been struck. -/
theorem Desk.Others.mem {w v : Desk} (h : w.Others v) {k : Line} (hk : k ∈ v.lines) :
    k = v.line ∨ ∃ l ∈ w.lines, l.Struck k := by
  unfold Desk.lines at hk ⊢
  rcases List.mem_append.mp hk with hk | hk
  · obtain ⟨l, hl, struck⟩ := Lines.mem_of_forall₂ h.before hk
    exact .inr ⟨l, List.mem_append_left _ hl, struck⟩
  · rcases List.mem_cons.mp hk with rfl | hk
    · exact .inl rfl
    · obtain ⟨l, hl, struck⟩ := Lines.mem_of_forall₂ h.after hk
      exact .inr ⟨l, List.mem_append_right _ (List.mem_cons_of_mem _ hl), struck⟩

/-- Lines at rest: one for each identity, each in order and of the capacity that is set. -/
structure Lines.Sound (capacity issued : Nat) (ls : List Line) : Prop where
  distinct : (ls.map Line.id).Nodup
  each : ∀ l ∈ ls, l.Sound issued
  capacity : ∀ l ∈ ls, l.mux.capacity = max capacity 1

/-- A new line has an identity of its own. -/
theorem Lines.Sound.concat {n issued : Nat} {ls : List Line} (h : Lines.Sound n issued ls)
    {config : ConnectionConfig} (unknown : Registry.findLine config.id ls = none) :
    Lines.Sound n issued (ls ++ [Line.ofConfig config n]) where
  distinct := by
    rw [List.map_append, List.nodup_append]
    refine ⟨h.distinct, List.pairwise_singleton _ _, ?_⟩
    intro c hc c' hc'
    obtain ⟨l, hl, rfl⟩ := List.mem_map.mp hc
    rw [List.mem_singleton.mp hc']
    show ¬ l.id = config.id
    simpa using List.find?_eq_none.mp unknown l hl
  each l hl := by
    rcases List.mem_append.mp hl with hl | hl
    · exact h.each l hl
    · rw [List.mem_singleton.mp hl]
      exact .ofConfig config n issued
  capacity l hl := by
    rcases List.mem_append.mp hl with hl | hl
    · exact h.capacity l hl
    · rw [List.mem_singleton.mp hl]
      rfl

/-- The lines of the engine are in order. -/
abbrev Engine.Sound (e : Engine) : Prop :=
  Lines.Sound e.config.sinkCapacity e.shared.issued e.registry.lines

theorem Deed.capacity {altered : Option SinkRef} {w v : Desk} (h : Deed altered w v) :
    v.line.mux.capacity = w.line.mux.capacity := by
  induction h with
  | trans _ _ ih ik => exact ik.trans ih
  | course h => exact h.path.capacity
  | alter => rfl

namespace Engine

variable {altered : Option SinkRef} {e f : Engine}

theorem Hands.mem {c : ConnectionId} {w : Desk} (h : e.Hands c w) :
    w.line ∈ e.registry.lines := by
  rw [← h.lines]
  exact List.mem_append_right _ List.mem_cons_self

/-- Lines after the one in hand have other identities. -/
theorem Hands.after (he : e.Sound) {c : ConnectionId} {w : Desk} (hw : e.Hands c w) :
    ∀ l ∈ w.after, l.id ≠ c := by
  have distinct := he.distinct
  rw [← hw.lines] at distinct
  unfold Desk.lines at distinct
  rw [List.map_append, List.map_cons] at distinct
  intro l hl hid
  refine (List.nodup_cons.mp (List.nodup_append.mp distinct).2.1).1 ?_
  rw [hw.holds.line, ← hid]
  exact List.mem_map_of_mem hl

/-- Work that stays on the line in hand leaves the other lines of the engine. -/
theorem Hands.mem_ofDesk (he : e.Sound) {c : ConnectionId} {w v : Desk} (hw : e.Hands c w)
    (hb : v.before = w.before) (ha : v.after = w.after) {l : Line}
    (hl : l ∈ (e.ofDesk v).registry.lines) : l = v.line ∨ l ∈ e.registry.lines ∧ l.id ≠ c := by
  have hl : l ∈ v.before ++ v.line :: v.after := hl
  rw [hb, ha] at hl
  rw [← hw.lines]
  unfold Desk.lines
  rcases List.mem_append.mp hl with hl | hl
  · exact .inr ⟨List.mem_append_left _ hl, hw.holds.before l hl⟩
  · rcases List.mem_cons.mp hl with rfl | hl
    · exact .inl rfl
    · exact .inr ⟨List.mem_append_right _ (List.mem_cons_of_mem _ hl), hw.after he l hl⟩

/-- Work on one line keeps that one in order, and the others but for disposals. -/
theorem Sound.work (he : e.Sound) {c : ConnectionId} {w v : Desk} (h : e.Hands c w)
    (hd : Deed altered w v) : (e.ofDesk v).Sound where
  distinct := by
    show (v.lines.map Line.id).Nodup
    rw [hd.others.ids hd.id, h.lines]
    exact he.distinct
  each := by
    intro k hk
    have issued : e.shared.issued ≤ v.shared.issued := by
      rw [← h.shared]
      exact hd.issued_le
    rcases hd.others.mem hk with rfl | ⟨l, hl, struck⟩
    · refine hd.sound ?_
      rw [h.shared]
      exact he.each _ h.mem
    · rw [h.lines] at hl
      exact ((he.each l hl).struck struck).mono issued
  capacity := by
    intro k hk
    rcases hd.others.mem hk with rfl | ⟨l, hl, struck⟩
    · exact hd.capacity.trans (he.capacity _ h.mem)
    · rw [h.lines] at hl
      refine (struck.kept (f := fun l => l.mux.capacity) fun i l => ?_).trans (he.capacity l hl)
      rw [Line.snd_disposeAt]
      rfl

theorem Moves.sound (h : Moves altered e f) (he : e.Sound) : f.Sound := by
  induction h with
  | refl => exact he
  | trans _ _ ih ik => exact ik (ih he)
  | work h hd => exact Sound.work he h hd
  | register unknown => exact he.concat unknown
  | shared hi =>
    refine ⟨he.distinct, fun l hl => ?_, he.capacity⟩
    exact (he.each l hl).mono (Nat.le_of_eq hi.symm)

theorem sound_actAll (as : List Errand) (he : e.Sound) : (actAll as e).Sound :=
  keeps_actAll (P := Engine.Sound) (fun _ _ h => h.sound) he

end Engine

namespace EngineBuilder

theorem sound_populate {n : Nat} {cs : List ConnectionConfig} {r r' : Registry}
    (h : populate n cs r = .ok r') (hr : Lines.Sound n 0 r.lines) : Lines.Sound n 0 r'.lines := by
  induction cs generalizing r with
  | nil =>
    cases h
    exact hr
  | cons c cs ih =>
    unfold populate at h
    split at h
    case h_1 => cases h
    case h_2 r₁ h₁ =>
      refine ih h ?_
      unfold Registry.insert at h₁
      split at h₁
      · cases h₁
      · split at h₁
        · cases h₁
        · rename_i unknown
          cases h₁
          have unknown : r.get? (Line.ofConfig c n).id = none := by simpa using unknown
          exact hr.concat unknown

/-- **An engine that was built is in order.** -/
theorem sound_build {b : EngineBuilder} {e : Engine} (h : b.build = .ok e) : e.Sound := by
  unfold build at h
  split at h
  · cases h
  · split at h
    · cases h
    · rename_i registry hr
      cases h
      exact sound_populate hr ⟨List.nodup_nil, by simp, by simp⟩

end EngineBuilder

end Correlator
