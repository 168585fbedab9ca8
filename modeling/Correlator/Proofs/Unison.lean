/-
  Correlator.Proofs.Unison — TWO DESKS UNDER THE SAME OPERATIONS.

  Two desks whose lines differ in the numbers of sinks only are given the same
  operations.  A relation between them that survives each of the few things an
  operation is made of survives every operation, whatever its callbacks set off,
  and the answers are the same but for the numbers.  The relation says what the
  two desks have in common beyond their lines: what the lines share, the lines
  at reach, what has happened.  With one desk in both places it is an invariant.

  Main results:
    * `Desk.Unison` — what a relation must survive,
    * `Desk.Unison.run` — one operation, given who makes the callbacks,
    * `Desk.Unison.exec` — one operation with all that it sets off.
-/
import Correlator.Proofs.Continuity
import Correlator.Proofs.Panics
import Correlator.Proofs.Renumbering
namespace Correlator

/-! ## §1. What a relation must survive -/

/-- The event stands for itself.  The notices that a connection is there or has come up go together
with what the barrier makes of them, and an answer goes together with what it tells of. -/
def Event.isPlain : Event → Bool
  | .noted .connectionCreated => false
  | .noted .connectionEstablished => false
  | .answered _ _ _ _ => false
  | _ => true

/-- The name under which an operation enters the sink that it makes. -/
def Operation.enters? : Operation → Option String
  | register name _ _ => some name
  | subscribe name _ => some name
  | _ => none

/-- The operation reaches beyond the line in hand, through a handle or to the barrier.  It makes no
callbacks. -/
def Operation.isOutward : Operation → Bool
  | dispose _ => true
  | isActive _ => true
  | create => true
  | establish => true
  | _ => false

/-- The answer tells of a sink of the line in hand as it is there, if it tells of any. -/
def Answer.TrueOn (w : Desk) (a : Answer) : Prop :=
  ∀ e, a = .enrolled e → w.enrolment e.sink = e ∧ e.sink.connection = w.line.id

namespace Desk

/-- Logs a notice that concerns no line. -/
def remark (n : Notice) (w : Desk) : Desk := w.mapShared fun s => s.add ⟨.noted n, none⟩

/-- Two results with the same answer, and desks that are related. -/
structure Agree {α : Type} (R : Desk → Desk → Prop) (r r' : α × Desk) : Prop where
  answer : r'.1 = r.1
  desk : R r.2 r'.2

/-- Two results with the same answer but for the numbers in it, and desks that are related. -/
structure Answers (f : Nat → Nat) (R : Desk → Desk → Prop) (r r' : Answer × Desk) : Prop where
  answer : r'.1.renumber f = r.1.renumber f
  desk : R r.2 r'.2

/-- The relation survives everything that operations within a law on a connection are made of. -/
structure Unison (c : ConnectionId) (f : Nat → Nat) (law : Operation → Prop)
    (R : Desk → Desk → Prop) : Prop where
  holds : ∀ {w v}, R w v → w.Holds c ∧ v.Holds c
  line : ∀ {w v}, R w v → Line.Alike f w.line v.line
  obeys : ∀ {w v}, R w v → w.Obeys law
  record : ∀ {w v}, R w v → ∀ {e : Event}, e.isPlain = true → R (w.record e) (v.record e)
  answered : ∀ {w v}, R w v → ∀ (i : Nat) (label : String) (op : Operation) {a b : Answer},
    b.renumber f = a.renumber f → a.TrueOn w → b.TrueOn v →
      R (w.record (.answered i label op a)) (v.record (.answered i label op b))
  mapLine : ∀ {w v}, R w v → ∀ {g : Line → Line}, Line.Blind f g → R (w.mapLine g) (v.mapLine g)
  seat : ∀ {w v}, R w v → ∀ (rule : Rule) {listener : Listener},
    (∀ op ∈ listener.within, law op) → R (w.seat rule listener) (v.seat rule listener)
  enter : ∀ {w v}, R w v → ∀ {op : Operation} {name : String}, law op → op.enters? = some name →
    ∀ (i : Nat) (r : Reader), R (w.enter name ⟨⟨c, i⟩, r⟩) (v.enter name ⟨⟨c, i⟩, r⟩)
  setReader : ∀ {w v}, R w v → ∀ {op : Operation} {name : String}, law op →
    op.enters? = some name →
      ∀ (i : Nat) (r : Reader), R (w.setReader name ⟨c, i⟩ r) (v.setReader name ⟨c, i⟩ r)
  remark : ∀ {w v}, R w v → ∀ n : Notice, R (w.remark n) (v.remark n)
  outward : ∀ {w v}, R w v → ∀ {op : Operation}, law op → op.isOutward = true →
    ∀ call call' : Caller, Agree R (op.run call w) (op.run call' v)

/-- Callbacks that leave related desks related. -/
def Callers (R : Desk → Desk → Prop) (call call' : Caller) : Prop :=
  ∀ ⦃w v⦄, R w v → ∀ (i : Nat) (x : Call), Agree R (call i x w) (call' i x v)

/-- Ways of going through sinks that leave related desks related. -/
def Steps (R : Desk → Desk → Prop) (step step' : Nat → Desk → Bool × Desk) : Prop :=
  ∀ ⦃w v⦄, R w v → ∀ i : Nat, Agree R (step i w) (step' i v)

section

variable {c : ConnectionId} {f : Nat → Nat} {law : Operation → Prop} {R : Desk → Desk → Prop}
  {w v : Desk} {call call' : Caller}

/-- What comes of an answer depends on the answer only. -/
theorem Agree.map {α β : Type} {r r' : α × Desk} (h : Agree R r r') (g : α → β) :
    Agree R (g r.1, r.2) (g r'.1, r'.2) := ⟨congrArg g h.answer, h.desk⟩

theorem Agree.answers {r r' : Answer × Desk} (h : Agree R r r') : Answers f R r r' :=
  ⟨congrArg (Answer.renumber f) h.answer, h.desk⟩

namespace Unison

variable (u : Unison c f law R)

include u

theorem id (h : R w v) : w.line.id = c := (u.holds h).1.line

theorem sinkAt? (h : R w v) (i : Nat) :
    w.sinkAt? ⟨c, i⟩ = w.sink? i ∧ v.sinkAt? ⟨c, i⟩ = v.sink? i :=
  ⟨(u.holds h).1.sinkAt? i, (u.holds h).2.sinkAt? i⟩

theorem note (h : R w v) (n : Notice) (hn : (Event.noted n).isPlain = true) :
    R (w.note n) (v.note n) := u.record h hn

theorem mapSink (h : R w v) (i : Nat) {g : Sink → Sink}
    (hg : ∀ s, (g s).renumber f = g (s.renumber f)) (hn : ∀ s, (g s).number = s.number)
    (hw : ∀ s, (g s).listener.within ⊆ s.listener.within) : R (w.mapSink i g) (v.mapSink i g) :=
  u.mapLine h (.mapSink i hg hn hw)

/-- A change of the line that leaves the multiplexer alone. -/
theorem mapOuter (h : R w v) {g : Line → Line} (hg : ∀ l, (g l).renumber f = g (l.renumber f))
    (hc : ∀ l, (g l).config = l.config) (hm : ∀ l, (g l).mux = l.mux) :
    R (w.mapLine g) (v.mapLine g) :=
  u.mapLine h (.of_sinks hg hc fun l => congrArg Multiplexer.sinks (hm l))

/-- A sink is there on both desks, with the same rule, phase and listener, or on none. -/
theorem sink_cases (h : R w v) (i : Nat) : (w.sink? i = none ∧ v.sink? i = none) ∨
    ∃ s n, w.sink? i = some s ∧ v.sink? i = some { s with number := n } := by
  rcases (u.line h).sink_cases i with none | ⟨s, n, hs, ht, -⟩
  · exact .inl none
  · exact .inr ⟨s, n, hs, ht⟩

theorem enrolment (h : R w v) (i : Nat) :
    (v.enrolment ⟨c, i⟩).renumber f = (w.enrolment ⟨c, i⟩).renumber f := by
  obtain ⟨hw, hv⟩ := u.sinkAt? h i
  unfold Desk.enrolment
  rw [hw, hv]
  rcases (u.line h).sink_cases i with ⟨hs, ht⟩ | ⟨s, n, hs, ht, hn⟩
  · rw [show w.sink? i = none from hs, show v.sink? i = none from ht]
  · rw [show w.sink? i = some s from hs, show v.sink? i = some { s with number := n } from ht]
    show Enrolment.mk ⟨c, i⟩ (f n) s.isActive = ⟨⟨c, i⟩, f s.number, s.isActive⟩
    rw [hn]

/-! ## §2. One sink -/

theorem tell (hc : Callers R call call') (h : R w v) (i : Nat) (x : Call) :
    Agree R (w.tell call i x) (v.tell call' i x) := by
  obtain ⟨same, desk⟩ := hc h i x
  unfold Desk.tell
  generalize call i x w = r at same desk
  generalize call' i x v = r' at same desk
  obtain ⟨panicked, w'⟩ := r
  obtain ⟨panicked', v'⟩ := r'
  obtain rfl : panicked' = panicked := same
  cases panicked' with
  | true => exact ⟨rfl, u.note desk .callbackPanicked rfl⟩
  | false => exact ⟨rfl, desk⟩

theorem deliver (hc : Callers R call call') (m : Message) :
    Steps R (Desk.deliver call m) (Desk.deliver call' m) := by
  intro w v h i
  unfold Desk.deliver
  rcases u.sink_cases h i with ⟨hw, hv⟩ | ⟨s, n, hw, hv⟩
  · rw [hw, hv]
    exact ⟨rfl, h⟩
  · rw [hw, hv]
    dsimp only
    cases s.rule.judge m with
    | panics => exact ⟨rfl, u.note h .callbackPanicked rfl⟩
    | rejects => exact ⟨rfl, h⟩
    | accepts =>
      by_cases hs : s.isActive = true
      · show Agree R (if s.isActive then _ else _) (if s.isActive then _ else _)
        rw [if_pos hs, if_pos hs]
        exact u.tell hc h i (.message m)
      · show Agree R (if s.isActive then _ else _) (if s.isActive then _ else _)
        rw [if_neg hs, if_neg hs]
        exact ⟨rfl, h⟩

theorem finish (hc : Callers R call call') (phase : Phase) (x : Call) :
    Steps R (Desk.finish call phase x) (Desk.finish call' phase x) := by
  intro w v h i
  unfold Desk.finish
  rcases u.sink_cases h i with ⟨hw, hv⟩ | ⟨s, n, hw, hv⟩
  · rw [hw, hv]
    exact ⟨rfl, h⟩
  · rw [hw, hv]
    show Agree R (if s.isActive then _ else _) (if s.isActive then _ else _)
    by_cases hs : s.isActive = true
    · rw [if_pos hs, if_pos hs]
      have left : R (w.mapSink i fun k => { k with phase }) (v.mapSink i fun k => { k with phase }) :=
        u.mapSink h i (fun _ => rfl) (fun _ => rfl) fun _ => List.Subset.refl _
      exact u.tell hc left i x
    · rw [if_neg hs, if_neg hs]
      exact ⟨rfl, h⟩

omit u in
/-- Going through sinks, by induction on them. -/
theorem visit {step step' : Nat → Desk → Bool × Desk} (hs : Steps R step step')
    (places : List Nat) (h : R w v) :
    Agree R (Desk.visit step places w) (Desk.visit step' places v) := by
  induction places generalizing w v with
  | nil => exact ⟨rfl, h⟩
  | cons i rest ih =>
    obtain ⟨same, desk⟩ := hs h i
    obtain ⟨count, visited⟩ := ih desk
    refine ⟨?_, visited⟩
    show (if (step' i v).1 then 1 else 0) + (Desk.visit step' rest (step' i v).2).1 =
      (if (step i w).1 then 1 else 0) + (Desk.visit step rest (step i w).2).1
    rw [same, count]

/-! ## §3. The multiplexer -/

theorem dispatch (hc : Callers R call call') (m : Message) (h : R w v) :
    Agree R (w.dispatchWith call m) (v.dispatchWith call' m) := by
  obtain ⟨count, visited⟩ := visit (u.deliver hc m) w.line.mux.active h
  unfold Desk.dispatchWith
  rw [(u.line h).active]
  refine ⟨count, ?_⟩
  dsimp only
  rw [count]
  split
  · exact u.note visited .orphanedResponse rfl
  · exact visited

theorem broadcast (hc : Callers R call call') (d : ConnectionDropped) (h : R w v) :
    Agree R (w.broadcastWith call d) (v.broadcastWith call' d) := by
  have drained : R (w.mapMux fun x => { x with dropRecord := some d, active := [] })
      (v.mapMux fun x => { x with dropRecord := some d, active := [] }) :=
    u.mapLine h (.mapMux fun _ _ => rfl)
  obtain ⟨count, told⟩ := visit (u.finish hc .terminated (.error d)) w.line.mux.active drained
  unfold Desk.broadcastWith
  rw [(u.line h).active]
  exact ⟨count, u.note told .dropBroadcast rfl⟩

theorem close (hc : Callers R call call') (h : R w v) :
    Agree R (w.closeWith call) (v.closeWith call') := by
  have drained : R (w.mapMux fun x => { x with closed := true, active := [] })
      (v.mapMux fun x => { x with closed := true, active := [] }) :=
    u.mapLine h (.mapMux fun _ _ => rfl)
  obtain ⟨-, told⟩ := visit (u.finish hc .disposed .closed) w.line.mux.active drained
  unfold Desk.closeWith
  rw [(u.line h).active]
  exact ⟨rfl, u.note told .multiplexerClosed rfl⟩

theorem resume (h : R w v) : R w.resume v.resume := by
  unfold Desk.resume
  rw [(u.line h).dropRecord]
  split
  · exact h
  · exact u.note (u.mapLine h (.mapMux fun _ _ => rfl)) .dropRecordCleared rfl

/-- A new sink takes the next place on both desks. -/
theorem enrol (hc : Callers R call call') (rule : Rule) {listener : Listener}
    (hl : ∀ op ∈ listener.within, law op) (h : R w v) :
    Agree R (w.enrol call rule listener) (v.enrol call' rule listener) := by
  have seated := u.seat h rule hl
  unfold Desk.enrol
  dsimp only
  rw [(u.line h).id, (u.line h).length, (u.line seated).closed, (u.line seated).dropRecord]
  split
  · exact ⟨rfl, (u.finish hc .disposed .closed seated _).desk⟩
  · split
    case h_1 d _ =>
      exact ⟨rfl, (u.finish hc .terminated (.error d) (u.note seated .sinkRefused rfl) _).desk⟩
    case h_2 => exact ⟨rfl, u.note (u.mapLine seated (.mapMux fun _ _ => rfl)) .sinkRegistered rfl⟩

theorem subscribe (hc : Callers R call call') (rule : Rule) (h : R w v) :
    Agree R (w.subscribeWith call rule) (v.subscribeWith call' rule) := by
  unfold Desk.subscribeWith
  rw [(u.line h).capacity]
  exact u.enrol hc rule (fun op hop => by cases hop) h

/-- The sink is entered under its name, and told of as it is there then. -/
theorem entered (h : R w v) {op : Operation} {name : String} (hop : law op)
    (hn : op.enters? = some name) (i : Nat) (r : Reader) :
    Answers f R (.enrolled ((w.enter name ⟨⟨c, i⟩, r⟩).enrolment ⟨c, i⟩), w.enter name ⟨⟨c, i⟩, r⟩)
      (.enrolled ((v.enter name ⟨⟨c, i⟩, r⟩).enrolment ⟨c, i⟩), v.enter name ⟨⟨c, i⟩, r⟩) := by
  have desk := u.enter h hop hn i r
  exact ⟨congrArg Answer.enrolled (u.enrolment desk i), desk⟩

theorem register (hc : Callers R call call') {name : String} {rule : Rule}
    {script : Script Operation} (hop : (Operation.register name rule script).Keeps law)
    (h : R w v) :
    Answers f R (.enrolled (w.registerWith call name rule script).1,
        (w.registerWith call name rule script).2)
      (.enrolled (v.registerWith call' name rule script).1,
        (v.registerWith call' name rule script).2) := by
  have within : ∀ op ∈ (Listener.scripted name script).within, law op := by
    intro op h
    refine hop op ?_
    simp only [Operation.within]
    exact List.mem_cons_of_mem _ h
  obtain ⟨same, enrolled⟩ := u.enrol hc rule within h
  unfold Desk.registerWith
  dsimp only
  rw [same, Desk.enrol_fst, u.id h]
  exact u.entered enrolled hop.self rfl _ .absent

theorem subscribeAs (hc : Callers R call call') {name : String} {rule : Rule}
    (hop : law (.subscribe name rule)) (h : R w v) :
    Answers f R (.enrolled (w.subscribeAsWith call name rule).1,
        (w.subscribeAsWith call name rule).2)
      (.enrolled (v.subscribeAsWith call' name rule).1,
        (v.subscribeAsWith call' name rule).2) := by
  obtain ⟨same, subscribed⟩ := u.subscribe hc rule h
  have place : (w.subscribeWith call rule).1 = ⟨c, w.line.mux.sinks.length⟩ := by
    rw [← u.id h]
    exact Desk.enrol_fst rule call _ w
  unfold Desk.subscribeAsWith
  dsimp only
  rw [same, place]
  exact u.entered subscribed hop rfl _ .idle

/-! ## §4. The life of the connection -/

/-- The step is refused on both desks, or on none. -/
theorem check_cases (h : R w v) (next : ConnectionState) :
    (∃ e w' v', w.check next = (.error e, w') ∧ v.check next = (.error e, v') ∧ R w' v') ∨
    ∃ w' v', w.check next = (.ok (), w') ∧ v.check next = (.ok (), v') ∧ R w' v' := by
  unfold Desk.check
  rw [(u.line h).id, (u.line h).state]
  cases ConnectionState.transition w.line.id w.line.state next with
  | error e => exact .inl ⟨_, _, _, rfl, rfl, u.note h .transitionRejected rfl⟩
  | ok _ =>
    refine .inr ⟨_, _, rfl, rfl, ?_⟩
    split
    · exact h
    · exact u.note h .stateTransition rfl

theorem setState (h : R w v) (s : ConnectionState) : R (w.setState s) (v.setState s) :=
  u.mapOuter h (fun _ => rfl) (fun _ => rfl) fun _ => rfl

theorem drop (hc : Callers R call call') (cause : DropCause) (m : Option Message) (h : R w v) :
    Agree R (w.dropWith call cause m) (v.dropWith call' cause m) := by
  have loss : v.lossOf cause m = w.lossOf cause m := by
    unfold Desk.lossOf
    rw [(u.line h).logoutText, (u.line h).id]
  have down : R (w.goDown cause m) (v.goDown cause m) := by
    unfold Desk.goDown
    rw [loss]
    refine u.note (u.record ?_ rfl) .connectionDropped rfl
    exact u.mapOuter h (fun _ => rfl) (fun _ => rfl) fun _ => rfl
  unfold Desk.dropWith
  rw [(u.line h).state, loss]
  split
  · exact ⟨rfl, u.note h .alreadyDropped rfl⟩
  · exact ⟨rfl, (u.broadcast hc _ down).desk⟩

theorem authenticateOutbound (m : Message) (h : R w v) :
    Agree R (w.authenticateOutbound m) (v.authenticateOutbound m) := by
  unfold Desk.authenticateOutbound
  split
  · exact ⟨rfl, h⟩
  · rcases u.check_cases h .authenticating with ⟨e, w', v', hw, hv, h'⟩ | ⟨w', v', hw, hv, h'⟩
    · rw [hw, hv]
      exact ⟨rfl, h'⟩
    · have offered : R ((w'.setState .authenticating).record (.offered m))
          ((v'.setState .authenticating).record (.offered m)) :=
        u.record (u.setState h' .authenticating) rfl
      rw [hw, hv]
      dsimp only
      rw [(u.line offered).config]
      split
      · split
        · exact ⟨rfl, offered⟩
        · exact ⟨rfl, u.note offered .credentialsAttached rfl⟩
      · exact ⟨rfl, offered⟩

theorem weigh (hc : Callers R call call') (m : Message) (h : R w v) :
    Agree R (w.weighWith call m) (v.weighWith call' m) := by
  have begun := u.setState h .authenticating
  have guard : (v.setState .authenticating).guard? = (w.setState .authenticating).guard? := by
    unfold Desk.guard?
    rw [(u.line begun).config]
  have id : (v.setState .authenticating).line.id = (w.setState .authenticating).line.id :=
    (u.line begun).id
  unfold Desk.weighWith
  dsimp only
  rw [guard, id]
  split
  · exact ⟨rfl, u.record begun rfl⟩
  · split
    · exact ⟨rfl, u.note (u.record begun rfl) .credentialsAccepted rfl⟩
    · refine ⟨rfl, (u.broadcast hc _ ?_).desk⟩
      exact u.record (u.setState (u.note begun .handshakeRejected rfl) .dropped) rfl

theorem authenticateInbound (hc : Callers R call call') (m : Message) (h : R w v) :
    Agree R (w.authenticateInboundWith call m) (v.authenticateInboundWith call' m) := by
  unfold Desk.authenticateInboundWith
  split
  · exact ⟨rfl, h⟩
  · rcases u.check_cases h .authenticating with ⟨e, w', v', hw, hv, h'⟩ | ⟨w', v', hw, hv, h'⟩
    · rw [hw, hv]
      exact ⟨rfl, h'⟩
    · rw [hw, hv]
      exact u.weigh hc m h'

theorem outboundAdmin (m : Message) (h : R w v) :
    Agree R (w.outboundAdmin m) (v.outboundAdmin m) := by
  unfold Desk.outboundAdmin
  split
  · exact u.authenticateOutbound m h
  · refine ⟨rfl, u.record ?_ rfl⟩
    exact u.mapOuter h (fun _ => rfl) (fun _ => rfl) fun _ => rfl
  · exact ⟨rfl, h⟩

theorem outboundApplication (m : Message) (h : R w v) :
    R (w.outboundApplication m) (v.outboundApplication m) := by
  unfold Desk.outboundApplication
  split
  · exact h
  · exact u.note h .outboundApplication rfl

theorem inbound (hc : Callers R call call') (m : Message) (h : R w v) :
    Agree R (w.inboundWith call m) (v.inboundWith call' m) := by
  unfold Desk.inboundWith
  cases m.kind with
  | keepalive => exact ⟨rfl, u.note h .keepalive rfl⟩
  | handshake =>
    obtain ⟨same, desk⟩ := u.authenticateInbound hc m h
    dsimp only
    generalize w.authenticateInboundWith call m = r at same desk
    generalize v.authenticateInboundWith call' m = r' at same desk
    obtain ⟨x, w'⟩ := r
    obtain ⟨x', v'⟩ := r'
    obtain rfl : x' = x := same
    cases x' <;> exact ⟨rfl, desk⟩
  | logout => exact ⟨rfl, (u.drop hc .logout (some m) h).desk⟩
  | reject | application =>
    dsimp only
    rw [(u.line h).state]
    split
    · exact (u.dispatch hc m h).map Except.ok
    · exact ⟨rfl, u.note h .messageDiscarded rfl⟩

/-! ## §5. One operation -/

omit u in
/-- Once the multiplexer has been given up, it answers so on both desks. -/
theorem onMultiplexer (hr : v.line.mux.released = w.line.mux.released) (h : R w v)
    {r r' : Answer × Desk} (hg : Answers f R r r') :
    Answers f R (if w.line.mux.released then (.noMultiplexer, w) else r)
      (if v.line.mux.released then (.noMultiplexer, v) else r') := by
  rw [hr]
  split
  · exact ⟨rfl, h⟩
  · exact hg

/-- **One operation** leaves related desks related and answers the same, if its callbacks do. -/
theorem run (hc : Callers R call call') {op : Operation} (hop : op.Keeps law) (h : R w v) :
    Answers f R (op.run call w) (op.run call' v) := by
  have released := (u.line h).released
  cases op with
  | register name rule script =>
    have registered := u.register hc hop h
    exact onMultiplexer released h registered
  | subscribe name rule =>
    have subscribed := u.subscribeAs hc hop.self h
    exact onMultiplexer released h subscribed
  | dispatch m =>
    have dispatched := ((u.dispatch hc m h).map Answer.count).answers (f := f)
    exact onMultiplexer released h dispatched
  | broadcast d =>
    have told := ((u.broadcast hc d h).map Answer.count).answers (f := f)
    exact onMultiplexer released h told
  | resume =>
    have resumed : Answers f R (.done, w.resume) (.done, v.resume) := ⟨rfl, u.resume h⟩
    exact onMultiplexer released h resumed
  | close =>
    have closed := ((u.close hc h).map Answer.count).answers (f := f)
    exact onMultiplexer released h closed
  | activeCount =>
    have counted : Answers f R (.count w.line.mux.active.length, w)
        (.count v.line.mux.active.length, v) := by
      rw [(u.line h).active]
      exact ⟨rfl, h⟩
    exact onMultiplexer released h counted
  | dispose handle => exact (u.outward h hop.self rfl call call').answers
  | isActive handle => exact (u.outward h hop.self rfl call call').answers
  | create => exact (u.outward h hop.self rfl call call').answers
  | establish => exact (u.outward h hop.self rfl call call').answers
  | drop cause m => exact ((u.drop hc cause m h).map Answer.flag).answers
  | authenticateOutbound m =>
    exact ((u.authenticateOutbound m h).map fun r => Answer.outgoing r.1 r.2).answers
  | authenticateInbound m => exact ((u.authenticateInbound hc m h).map Answer.outcome).answers
  | outboundAdmin m => exact ((u.outboundAdmin m h).map fun r => Answer.outgoing r.1 r.2).answers
  | outboundApplication m => exact ⟨rfl, u.outboundApplication m h⟩
  | inbound m => exact ((u.inbound hc m h).map Answer.tally).answers

end Unison

end

end Desk

/-- Only a multiplexer that is still there makes sinks. -/
theorem Operation.onMultiplexer_of_enrolled {w : Desk} {g : Desk → Answer × Desk} {e : Enrolment}
    (h : (onMultiplexer w g).1 = .enrolled e) : onMultiplexer w g = g w := by
  unfold onMultiplexer at h ⊢
  split at h
  case isTrue => cases h
  case isFalse live => rw [if_neg live]

theorem Desk.sink_enrolment (s : SinkRef) (w : Desk) : (w.enrolment s).sink = s := by
  unfold enrolment
  split <;> rfl

/-- A sink that was made is told of as it is on the desk afterwards. -/
theorem Operation.enrolled_run {call : Caller} {op : Operation} {w : Desk} {e : Enrolment}
    (h : (op.run call w).1 = .enrolled e) :
    (op.run call w).2.enrolment e.sink = e ∧ e.sink.connection = w.line.id := by
  cases op with
  | register name rule script =>
    have live := onMultiplexer_of_enrolled h
    rw [show (register name rule script).run call w = _ from live] at h ⊢
    obtain rfl : (w.registerWith call name rule script).1 = e := Answer.enrolled.inj h
    show (w.registerWith call name rule script).2.enrolment
      (w.registerWith call name rule script).1.sink = _ ∧ _
    rw [Desk.registerWith_fst, Desk.sink_enrolment]
    exact ⟨rfl, rfl⟩
  | subscribe name rule =>
    have live := onMultiplexer_of_enrolled h
    rw [show (subscribe name rule).run call w = _ from live] at h ⊢
    obtain rfl : (w.subscribeAsWith call name rule).1 = e := Answer.enrolled.inj h
    show (w.subscribeAsWith call name rule).2.enrolment
      (w.subscribeAsWith call name rule).1.sink = _ ∧ _
    rw [Desk.subscribeAsWith_fst, Desk.sink_enrolment]
    exact ⟨rfl, rfl⟩
  | dispose handle =>
    unfold run at h
    dsimp only at h
    split at h <;> cases h
  | isActive handle =>
    unfold run at h
    dsimp only at h
    split at h <;> cases h
  | dispatch | broadcast | resume | close | activeCount =>
    -- They answer something else.
    have live := onMultiplexer_of_enrolled h
    cases (congrArg Prod.fst live).symm.trans h
  | _ => cases h

/-! ## §6. What callbacks set off -/

/-- What is performed at some depth tells of a sink as it is there afterwards. -/
theorem Desk.perform_trueOn (depth : Nat) {op : Operation} {w : Desk}
    (hid : (Desk.perform depth op w).2.line.id = w.line.id) :
    (Desk.perform depth op w).1.TrueOn (Desk.perform depth op w).2 := by
  intro e he
  cases depth with
  | zero => cases he
  | succ depth =>
    obtain ⟨told, own⟩ := Operation.enrolled_run he
    exact ⟨told, own.trans hid.symm⟩

namespace Desk.Unison

variable {c : ConnectionId} {f : Nat → Nat} {law : Operation → Prop} {R : Desk → Desk → Prop}
  {w v : Desk} (u : Unison c f law R)

include u

theorem hear (h : R w v) (i : Nat) (s : Sink) (n : Nat) (x : Call) :
    R (w.hear i s x) (v.hear i { s with number := n } x) := by
  have called : R (w.record (.called i (s.listener.hearer x) x))
      (v.record (.called i (s.listener.hearer x) x)) := u.record h rfl
  have taken := u.mapSink called i (g := fun k => { k with listener := (k.listener.next x).2 })
    (fun _ => rfl) (fun _ => rfl) fun k => k.listener.within_next x
  unfold Desk.hear
  dsimp only
  split
  · exact u.note taken .subscriptionLagging rfl
  · exact taken

/-- The operations of a reaction, by induction on them. -/
theorem react {depth : Nat} (hp : ∀ {w v}, R w v → ∀ {op : Operation}, op.Keeps law →
      Answers f R (Desk.perform depth op w) (Desk.perform depth op v))
    (i : Nat) (label : String) {ops : List Operation} (hops : ∀ op ∈ ops, op.Keeps law)
    (h : R w v) :
    R (w.react (Desk.perform depth) i label ops) (v.react (Desk.perform depth) i label ops) := by
  induction ops generalizing w v with
  | nil => exact h
  | cons op rest ih =>
    obtain ⟨answer, desk⟩ := hp h (hops op List.mem_cons_self)
    have first : (Desk.perform depth op w).1.TrueOn (Desk.perform depth op w).2 :=
      Desk.perform_trueOn depth ((u.id desk).trans (u.id h).symm)
    have second : (Desk.perform depth op v).1.TrueOn (Desk.perform depth op v).2 := by
      refine Desk.perform_trueOn depth ?_
      rw [(u.line desk).id, (u.line h).id, u.id desk, u.id h]
    exact ih (fun o ho => hops o (List.mem_cons_of_mem _ ho))
      (u.answered desk i label op answer first second)

/-- Callbacks at one depth.  The script is shortened before the reaction runs, on both desks. -/
theorem callers {depth : Nat} (hp : ∀ {w v}, R w v → ∀ {op : Operation}, op.Keeps law →
      Answers f R (Desk.perform depth op w) (Desk.perform depth op v)) :
    Callers R (callWith (Desk.perform depth)) (callWith (Desk.perform depth)) := by
  intro w v h i x
  unfold callWith
  rcases u.sink_cases h i with ⟨hw, hv⟩ | ⟨s, n, hw, hv⟩
  · rw [hw, hv]
    exact ⟨rfl, h⟩
  · rw [hw, hv]
    have heard := u.hear h i s n x
    have within : ∀ {label : String} {r : Reaction Operation},
        (s.listener.next x).1 = some (label, r) → ∀ op ∈ r.calls, op.Keeps law := by
      intro label r hr op hop o ho
      exact u.obeys h s (List.mem_of_getElem? hw) o (Listener.within_of_next hr hop ho)
    dsimp only
    cases hr : (s.listener.next x).1 with
    | none => exact ⟨rfl, heard⟩
    | some reaction =>
      obtain ⟨label, r⟩ := reaction
      exact ⟨rfl, u.react hp i label (within hr) heard⟩

/-- Operations nested up to a depth, by induction on it. -/
theorem perform (depth : Nat) {op : Operation} (hop : op.Keeps law) (h : R w v) :
    Answers f R (Desk.perform depth op w) (Desk.perform depth op v) := by
  induction depth generalizing w v op with
  | zero => exact ⟨rfl, h⟩
  | succ depth ih => exact u.run (u.callers fun h _ hop => ih hop h) hop h

/-- The callbacks of an operation on two related desks go equally deep. -/
theorem caller (brought : Nat) (h : R w v) : Callers R (w.caller brought) (v.caller brought) := by
  have same : v.budget = w.budget := (u.line h).weight
  unfold Desk.caller
  rw [same]
  exact u.callers fun h _ hop => u.perform _ hop h

/-- **An operation with all that it sets off** leaves related desks related and answers the same
but for the numbers. -/
theorem exec {op : Operation} (hop : op.Keeps law) (h : R w v) :
    Answers f R (op.exec w) (op.exec v) := u.run (u.caller op.weight h) hop h

end Desk.Unison

end Correlator
