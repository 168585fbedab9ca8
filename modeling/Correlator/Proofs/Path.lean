/-
  Correlator.Proofs.Path — EVERY OPERATION FOLLOWS A COURSE.

  Each operation, with everything that its callbacks set off, is a course and
  owes at its end exactly what it owed at its start.  The induction follows the
  nesting: a caller whose callbacks follow courses makes operations that follow
  courses, and those make the callbacks one level up.  What the callbacks may
  perform is in the scripts of the waiters, so a law on the scripts at the
  start is a law on all that happens.

  The induction asks little of courses, and other relations between stages are
  told by it too: those that hold of the wholes, go on from one to the next,
  and take in the callbacks of a dispatch and of a broadcast.  So what a
  dispatch does as a whole is shown once, and holds at every depth.

  Main results:
    * `Telling` — the relations that are told by the induction,
    * `Desk.Follows.run` — an operation, given callbacks that follow it,
    * `Desk.perform_runs` — operations nested up to any depth,
    * `Operation.execAll_tells` — whole runs,
    * `Operation.exec_course`, `Operation.execAll_course` — as courses,
    * `Operation.exec_path`, `Operation.execAll_path` — the same, step by step.
-/
import Correlator.Proofs.Course
import Correlator.Proofs.Weight
namespace Correlator

/-! ## §1. Runs that keep a law -/

/-- An operation keeps a law, and so do those in its scripts. -/
def Operation.Keeps (law : Operation → Prop) (op : Operation) : Prop := ∀ o ∈ op.within, law o

instance (law : Operation → Prop) [DecidablePred law] (op : Operation) :
    Decidable (op.Keeps law) :=
  inferInstanceAs (Decidable (∀ o ∈ op.within, law o))

theorem Operation.Keeps.self {law : Operation → Prop} {op : Operation} (h : op.Keeps law) :
    law op := h op op.mem_within_self

/-- An operation that brings no operations keeps a law by itself. -/
theorem Operation.keeps_of_weight {law : Operation → Prop} {op : Operation} (h : op.weight = 0)
    (hop : law op) : op.Keeps law := by
  intro o ho
  rw [within_of_weight h, List.mem_singleton] at ho
  rw [ho]
  exact hop

/-- A relation tells what follows once a listener has taken a callback of the caller, if the
waiters keep the law.  The caller performs what its callbacks call for. -/
structure Desk.Follows (R : Stage → Stage → Prop) (law : Operation → Prop) (call : Caller) :
    Prop where
  caller : ∃ depth, call = Desk.callWith (Desk.perform depth)
  tell : ∀ {w : Desk} {i : Nat} {s : Sink}, w.sink? i = some s → w.Obeys law →
    ∀ (c : Call) (owed : List Nat), R ⟨w.hear i s c, owed⟩ ⟨(w.tell call i c).2, owed⟩

/-- A relation between stages that tells runs under a law, finer than that of courses.  A dispatch
and a broadcast are told as wholes, from what their callbacks do. -/
class Telling (law : Operation → Prop) (R : Stage → Stage → Prop) : Prop where
  course : ∀ {a b : Stage}, R a b → Course law a b
  refl : ∀ a : Stage, R a a
  trans : ∀ {a b c : Stage}, R a b → R b c → R a c
  whole : ∀ {a b : Stage}, Whole law a b → R a b
  broadcast : ∀ {w u v : Desk} {owed : List Nat} {d : ConnectionDropped}, Onset law w d u →
    R ⟨u.mapMux fun x => { x with dropRecord := some d, active := [] },
      u.line.mux.active ++ owed⟩ ⟨v, owed⟩ → R ⟨w, owed⟩ ⟨v.note .dropBroadcast, owed⟩
  dispatch : ∀ {call : Caller} {m : Message} {w : Desk} {owed : List Nat},
    Desk.Follows R law call → Occasion law m w → w.Obeys law →
    R ⟨w, owed⟩ ⟨(Desk.visit (Desk.deliver call m) w.line.mux.active w).2, owed⟩

/-- What a relation tells, if the waiters keep the law at its start. -/
def Runs (R : Stage → Stage → Prop) (law : Operation → Prop) (a b : Stage) : Prop :=
  a.desk.Obeys law → R a b

variable {R : Stage → Stage → Prop} {law : Operation → Prop} [Telling law R]

namespace Runs

theorem refl (a : Stage) : Runs R law a a := fun _ => Telling.refl law a

/-- The law still holds where the first run ends. -/
theorem trans {a b c : Stage} (h : Runs R law a b) (k : Runs R law b c) : Runs R law a c :=
  fun ha => Telling.trans law (h ha) (k ((Telling.course (h ha)).obeys ha))

theorem whole {a b : Stage} (h : Whole law a b) : Runs R law a b := fun _ => Telling.whole h

theorem aside {w v : Desk} (h : Aside w v) (owed : List Nat)
    (hm : v.shared.milestones = w.shared.milestones) : Runs R law ⟨w, owed⟩ ⟨v, owed⟩ :=
  .whole (.aside h hm)

theorem turn {w v : Desk} (h : Turn w v) (owed : List Nat)
    (hm : v.shared.milestones = w.shared.milestones) : Runs R law ⟨w, owed⟩ ⟨v, owed⟩ :=
  .whole (.turn h hm)

theorem act {a b : Stage} (h : Act law a b)
    (hd : b.desk.shared.deliveries = a.desk.shared.deliveries) : Runs R law a b :=
  .whole (.act h hd)

end Runs

namespace Desk

/-! ## §2. Things written down -/

theorem runs_record {e : Event} (w : Desk) (owed : List Nat) (ha : e.isAside = true)
    (hm : e.isMilestone = false) : Runs R law ⟨w, owed⟩ ⟨w.record e, owed⟩ :=
  .aside (.event ha) owed (milestones_record hm w)

theorem runs_note {n : Notice} (w : Desk) (owed : List Nat)
    (hn : (Event.noted n).isMilestone = false) : Runs R law ⟨w, owed⟩ ⟨w.note n, owed⟩ := by
  refine runs_record w owed ?_ hn
  cases n with
  | connectionEstablished => cases hn
  | _ => rfl

/-- Notices that the barrier's arrivals leave behind. -/
theorem runs_notes (ns : List Notice) (w : Desk) (owed : List Nat)
    (hn : ∀ n ∈ ns, (Event.noted n).isMilestone = false) :
    Runs R law ⟨w, owed⟩ ⟨w.mapShared (Shared.notes (some w.line) ns), owed⟩ := by
  induction ns generalizing w with
  | nil => exact .refl _
  | cons n ns ih =>
    -- Logging does not change the line, so the others show it too.
    have hns : ∀ k ∈ ns, (Event.noted k).isMilestone = false :=
      fun k hk => hn k (List.mem_cons_of_mem _ hk)
    exact (runs_note w owed (hn n List.mem_cons_self)).trans (ih (w.note n) hns)

theorem runs_arrive (e : Readiness) (w : Desk) (owed : List Nat) :
    Runs R law ⟨w, owed⟩ ⟨w.arrive e, owed⟩ := by
  have hn : ∀ n ∈ Barrier.arrivalNotices (w.shared.barrier.arrive w.line.id e).1
      (w.shared.barrier.arrive w.line.id e).2, (Event.noted n).isMilestone = false := by
    unfold Barrier.arrivalNotices
    intro n hn
    split at hn
    · split at hn <;> simp at hn <;> rcases hn with rfl | rfl <;> rfl
    · simp at hn
  have counted : Runs R law ⟨w, owed⟩
      ⟨w.mapShared fun s => { s with barrier := (s.barrier.arrive w.line.id e).2 }, owed⟩ :=
    .aside (.barrier _) owed rfl
  exact counted.trans (runs_notes _ _ _ hn)

theorem runs_dispose (s : SinkRef) (w : Desk) (owed : List Nat) :
    Runs R law ⟨w, owed⟩ ⟨(w.dispose s).2, owed⟩ :=
  .act (.dispose s) (deliveries_dispose s w)

theorem runs_enter (name : String) (e : Entry) (w : Desk) (owed : List Nat) :
    Runs R law ⟨w, owed⟩ ⟨w.enter name e, owed⟩ := by
  -- The name is entered first; only then is the earlier subscription given up.
  have named : Runs R law ⟨w, owed⟩
      ⟨w.mapShared fun s => { s with names := Directory.enter name e s.names }, owed⟩ :=
    .aside (.names _) owed rfl
  refine named.trans ?_
  unfold enter
  dsimp only
  split
  · exact .refl _
  · unfold giveUp
    split
    · exact .refl _
    · exact runs_dispose _ _ _

/-- A check leaves a notice behind and says whether the table allows the step. -/
theorem check_cases (next : ConnectionState) (w : Desk) :
    (∃ e, w.check next = (.error (.session e), w.note .transitionRejected)) ∨
    (w.line.state.canBecome next = true ∧
      (w.check next = (.ok (), w) ∨ w.check next = (.ok (), w.note .stateTransition))) := by
  unfold check ConnectionState.transition
  by_cases h : w.line.state.canBecome next = true
  · right
    by_cases hs : w.line.state = next <;> simp_all
  · left
    simp only [h, Bool.false_eq_true, if_false]
    exact ⟨_, rfl⟩

/-! ## §3. Many sinks -/

namespace Follows

variable {call : Caller}

theorem finish (hc : Follows R law call) {phase : Phase} {c : Call} (hf : Finale phase c) {i : Nat}
    {w : Desk} (hd : Dismissal w i c) (owed : List Nat) :
    Runs R law ⟨w, i :: owed⟩ ⟨(w.finish call phase c i).2, owed⟩ := by
  unfold Desk.finish
  split
  case h_1 hs => exact .act (.pass (by simp [hs])) rfl
  case h_2 s hs =>
    split
    case isTrue ha =>
      intro hw
      have left : (w.mapSink i fun k => { k with phase }).Obeys law :=
        Obeys.mapSink hw i fun _ => List.Subset.refl _
      have heard : Runs R law ⟨w, i :: owed⟩
          ⟨(w.mapSink i fun k => { k with phase }).hear i { s with phase } c, owed⟩ :=
        .act (.finish hs (Sink.isActive_iff.mp ha) hf hd) (deliveries_hear_finale hf i _ _)
      exact Telling.trans law (heard hw)
        (hc.tell (sink?_mapSink_self (fun k => { k with phase }) hs) left c owed)
    case isFalse ha =>
      -- It left its active phase while earlier sinks were told, and is passed over.
      refine .act (.pass ?_) rfl
      intro s' hs'
      rw [hs] at hs'
      cases hs'
      simpa using ha

/-- A visit tells the places at the head of those that are owed. -/
theorem visit_finish (hc : Follows R law call) {phase : Phase} {c : Call} (hf : Finale phase c)
    {places : List Nat} {w : Desk} (hd : ∀ earlier i later, places = earlier ++ i :: later →
      Dismissal (visit (Desk.finish call phase c) earlier w).2 i c) (owed : List Nat) :
    Runs R law ⟨w, places ++ owed⟩ ⟨(visit (Desk.finish call phase c) places w).2, owed⟩ := by
  induction places generalizing w with
  | nil => exact .refl _
  | cons i rest ih =>
    -- While the first is told, the rest is still owed.
    have first : Dismissal w i c := hd [] i rest rfl
    have others : ∀ earlier j later, rest = earlier ++ j :: later →
        Dismissal (visit (Desk.finish call phase c) earlier (w.finish call phase c i).2).2 j c :=
      fun earlier j later h => hd (i :: earlier) j later (congrArg (i :: ·) h)
    exact (hc.finish hf first (rest ++ owed)).trans (ih others)

theorem dispatch (hc : Follows R law call) {m : Message} {w : Desk} (h : Occasion law m w)
    (owed : List Nat) : Runs R law ⟨w, owed⟩ ⟨(w.dispatchWith call m).2, owed⟩ := by
  have visited : Runs R law ⟨w, owed⟩ ⟨(visit (deliver call m) w.line.mux.active w).2, owed⟩ :=
    Telling.dispatch hc h
  refine visited.trans ?_
  unfold dispatchWith
  dsimp only
  split
  · exact runs_note _ _ rfl
  · exact .refl _

theorem broadcast (hc : Follows R law call) {w u : Desk} {d : ConnectionDropped}
    (h : Onset law w d u) (owed : List Nat) :
    Runs R law ⟨w, owed⟩ ⟨(u.broadcastWith call d).2, owed⟩ := by
  intro ha
  refine Telling.broadcast h ?_
  refine hc.visit_finish (.dropped d) ?_ owed (ha.of_sinks h.sinks)
  obtain ⟨depth, rfl⟩ := hc.caller
  exact fun earlier i later hplaces => .broadcast depth hplaces

theorem close (hc : Follows R law call) (w : Desk) (owed : List Nat) :
    Runs R law ⟨w, owed⟩ ⟨(w.closeWith call).2, owed⟩ := by
  refine (Runs.act .shut rfl).trans ?_
  refine (hc.visit_finish .closed ?_ owed).trans (runs_note _ _ rfl)
  obtain ⟨depth, rfl⟩ := hc.caller
  exact fun earlier i later hplaces => .close depth hplaces

/-! ## §4. New sinks -/

theorem enrol (hc : Follows R law call) (rule : Rule) (listener : Listener)
    (hl : ∀ op ∈ listener.within, law op) {w : Desk} (hn : listener.IsNew w.line.mux.capacity)
    (owed : List Nat) : Runs R law ⟨w, owed⟩ ⟨(w.enrol call rule listener).2, owed⟩ := by
  unfold Desk.enrol
  dsimp only
  have hx : (w.seat rule listener).line.mux.closed = w.line.mux.closed := rfl
  have hd : (w.seat rule listener).line.mux.dropRecord = w.line.mux.dropRecord := rfl
  rw [hx, hd]
  split
  case isTrue h =>
    -- A new sink that is refused is owed its only callback.
    have late : Dismissal (w.seat rule listener) w.line.mux.sinks.length .closed :=
      .late rule listener h
    exact (Runs.act (.refuse (.inl h) hl hn) rfl).trans (hc.finish .closed late owed)
  case isFalse h =>
    split
    case h_1 d hr =>
      have refused : Act law ⟨w, owed⟩ ⟨w.seat rule listener, w.line.mux.sinks.length :: owed⟩ :=
        .refuse (.inr (by simp [hr])) hl hn
      have told : Dismissal ((w.seat rule listener).note .sinkRefused) w.line.mux.sinks.length
          (.error d) := .refused rule listener (Bool.eq_false_iff.mpr h) hr
      refine (Runs.act refused rfl).trans ?_
      exact (runs_note _ _ rfl).trans (hc.finish (.dropped d) told owed)
    case h_2 hr =>
      -- Making the sink and putting it into the set is one act: no callback lies between.
      have enlisted : Act law ⟨w, owed⟩ ⟨(w.seat rule listener).mapMux fun x =>
          { x with active := x.active ++ [w.line.mux.sinks.length] }, owed⟩ :=
        .enlist (by simpa using h) hr hl hn
      exact (Runs.act enlisted rfl).trans (runs_note _ _ rfl)

theorem register (hc : Follows R law call) (name : String) (rule : Rule)
    {script : Script Operation} (hs : ∀ op ∈ Operation.scriptWithin script, law op) (w : Desk)
    (owed : List Nat) : Runs R law ⟨w, owed⟩ ⟨(w.registerWith call name rule script).2, owed⟩ :=
  (hc.enrol rule (.scripted name script) hs True.intro owed).trans (runs_enter _ _ _ _)

theorem subscribeAs (hc : Follows R law call) (name : String) (rule : Rule) (w : Desk)
    (owed : List Nat) : Runs R law ⟨w, owed⟩ ⟨(w.subscribeAsWith call name rule).2, owed⟩ := by
  have silent : ∀ op ∈ (Listener.stream (.withCapacity w.line.mux.capacity)).within, law op := by
    intro op hop
    cases hop
  exact (hc.enrol rule _ silent rfl owed).trans (runs_enter _ _ _ _)

/-! ## §5. The life of the connection -/

theorem drop (hc : Follows R law call) (cause : DropCause) (m : Option Message) (w : Desk)
    (owed : List Nat) : Runs R law ⟨w, owed⟩ ⟨(w.dropWith call cause m).2, owed⟩ := by
  unfold dropWith
  split
  case isTrue _ => exact runs_note _ _ rfl
  case isFalse h => exact hc.broadcast (.lost cause m h) owed

theorem weigh (hc : Follows R law call) {m : Message} (hm : m.kind = .handshake) (w : Desk)
    (owed : List Nat) (hb : w.line.state.canBecome .authenticating = true) :
    Runs R law ⟨w, owed⟩ ⟨(w.weighWith call m).2, owed⟩ := by
  unfold weighWith
  dsimp only
  split
  case h_1 hg =>
    -- Without credentials to check there is nothing that could be wrong.
    have hn : w.guard? = none := hg
    exact .turn (.accept hm hb (by simp [hn])) owed (milestones_record rfl _)
  case h_2 expected hg =>
    have hs : w.guard? = some expected := hg
    split
    case h_1 hf =>
      have right : ∀ c, w.guard? = some c → credentialsFault c m = none := by
        intro c hc'
        rw [hs] at hc'
        cases hc'
        exact hf
      exact (Runs.turn (.accept hm hb right) owed (milestones_record rfl _)).trans
        (runs_note _ _ rfl)
    case h_2 reason hf => exact hc.broadcast (.refused hm hb hs hf) owed

theorem authenticateInbound (hc : Follows R law call) (m : Message) (w : Desk) (owed : List Nat) :
    Runs R law ⟨w, owed⟩ ⟨(w.authenticateInboundWith call m).2, owed⟩ := by
  unfold authenticateInboundWith
  split
  case isTrue _ => exact .refl _
  case isFalse hk =>
    have hm : m.kind = .handshake := by simpa using hk
    rcases check_cases .authenticating w with ⟨e, he⟩ | ⟨hb, he | he⟩
    · rw [he]
      exact runs_note _ _ rfl
    · rw [he]
      exact hc.weigh hm w owed hb
    · rw [he]
      exact (runs_note w owed rfl).trans (hc.weigh hm (w.note .stateTransition) owed hb)

end Follows

theorem runs_create (w : Desk) (owed : List Nat) : Runs R law ⟨w, owed⟩ ⟨w.create.2, owed⟩ := by
  have go : ∀ v : Desk, v.line.state.canBecome .created = true → Runs R law ⟨v, owed⟩
      ⟨((v.setState .created).note .connectionCreated).arrive .created, owed⟩ :=
    fun v hb => (Runs.turn (.create hb) owed (milestones_record rfl _)).trans (runs_arrive _ _ _)
  unfold create
  rcases check_cases .created w with ⟨e, he⟩ | ⟨hb, he | he⟩
  · rw [he]
    exact runs_note _ _ rfl
  · rw [he]
    exact go w hb
  · rw [he]
    exact (runs_note w owed rfl).trans (go _ hb)

theorem runs_establish (w : Desk) (owed : List Nat) :
    Runs R law ⟨w, owed⟩ ⟨w.establish.2, owed⟩ := by
  have go : ∀ v : Desk, v.line.state.canBecome .established = true → Runs R law ⟨v, owed⟩
      ⟨v.resume.comeUp.arrive .established, owed⟩ := by
    intro v hb
    have up : Runs R law ⟨v, owed⟩ ⟨v.resume.comeUp, owed⟩ := .whole (.comeUp hb)
    exact up.trans (runs_arrive _ _ _)
  unfold establish
  rcases check_cases .established w with ⟨e, he⟩ | ⟨hb, he | he⟩
  · rw [he]
    exact runs_note _ _ rfl
  · rw [he]
    exact go w hb
  · rw [he]
    exact (runs_note w owed rfl).trans (go _ hb)

theorem runs_authenticateOutbound (m : Message) (w : Desk) (owed : List Nat) :
    Runs R law ⟨w, owed⟩ ⟨(w.authenticateOutbound m).2, owed⟩ := by
  unfold authenticateOutbound
  split
  case isTrue _ => exact .refl _
  case isFalse hk =>
    have hm : m.kind = .handshake := by simpa using hk
    have go : ∀ v : Desk, v.line.state.canBecome .authenticating = true →
        Runs R law ⟨v, owed⟩ ⟨(v.setState .authenticating).record (.offered m), owed⟩ :=
      fun v hb => .turn (.offer hm hb) owed (milestones_record rfl _)
    rcases check_cases .authenticating w with ⟨e, he⟩ | ⟨hb, he | he⟩
    · rw [he]
      exact runs_note _ _ rfl
    · rw [he]
      refine (go w hb).trans ?_
      dsimp only
      split
      · split
        · exact .refl _
        · exact runs_note _ _ rfl
      · exact .refl _
    · rw [he]
      refine ((runs_note w owed rfl).trans (go (w.note .stateTransition) hb)).trans ?_
      dsimp only
      split
      · split
        · exact .refl _
        · exact runs_note _ _ rfl
      · exact .refl _

theorem runs_outboundAdmin (m : Message) (w : Desk) (owed : List Nat) :
    Runs R law ⟨w, owed⟩ ⟨(w.outboundAdmin m).2, owed⟩ := by
  unfold outboundAdmin
  split
  case h_1 => exact runs_authenticateOutbound m w owed
  case h_2 hm => exact .turn (.logout hm) owed (milestones_record rfl _)
  case h_3 => exact .refl _

theorem runs_outboundApplication (m : Message) (w : Desk) (owed : List Nat) :
    Runs R law ⟨w, owed⟩ ⟨w.outboundApplication m, owed⟩ := by
  unfold outboundApplication
  split
  · exact .refl _
  · exact runs_note _ _ rfl

/-! ## §6. One operation -/

section

variable {m : Message} {w : Desk}

/-- A message for waiters that comes in on an established connection is dispatched as it came. -/
theorem inboundWith_of_established (hm : m.kind.isRoutable = true)
    (hs : w.line.state = .established) (call : Caller) :
    w.inboundWith call m = (.ok (w.dispatchWith call m).1, (w.dispatchWith call m).2) := by
  have up : w.line.state.isEstablished = true := decide_eq_true hs
  unfold inboundWith
  cases hk : m.kind with
  | reject => exact if_pos up
  | application => exact if_pos up
  | _ =>
    rw [hk] at hm
    cases hm

/-- Otherwise it is discarded. -/
theorem inboundWith_of_not_established (hm : m.kind.isRoutable = true)
    (hs : w.line.state ≠ .established) (call : Caller) :
    w.inboundWith call m = (.ok 0, w.note .messageDiscarded) := by
  have down : ¬ w.line.state.isEstablished = true := fun h => hs (of_decide_eq_true h)
  unfold inboundWith
  cases hk : m.kind with
  | reject => exact if_neg down
  | application => exact if_neg down
  | _ =>
    rw [hk] at hm
    cases hm

end

/-- A message that comes in is dispatched only while the connection is established. -/
theorem Follows.inbound {call : Caller} (hc : Follows R law call) {m : Message}
    (hm : law (.inbound m)) (w : Desk) (owed : List Nat) :
    Runs R law ⟨w, owed⟩ ⟨(w.inboundWith call m).2, owed⟩ := by
  by_cases hr : m.kind.isRoutable = true
  case pos =>
    by_cases hs : w.line.state = .established
    · rw [inboundWith_of_established hr hs]
      exact hc.dispatch (.inbound hm hr hs) owed
    · rw [inboundWith_of_not_established hr hs]
      exact runs_note _ _ rfl
  case neg =>
    unfold inboundWith
    cases hk : m.kind with
    | keepalive => exact runs_note _ _ rfl
    | handshake =>
      have h := hc.authenticateInbound m w owed
      dsimp only
      split <;> simp_all
    | logout => exact hc.drop _ _ w owed
    | reject => exact absurd (by rw [hk]; rfl) hr
    | application => exact absurd (by rw [hk]; rfl) hr

/-- An operation of the multiplexer is told if what it does while the multiplexer is there is. -/
theorem runs_onMultiplexer (w : Desk) (owed : List Nat) (f : Desk → Answer × Desk)
    (hf : Runs R law ⟨w, owed⟩ ⟨(f w).2, owed⟩) :
    Runs R law ⟨w, owed⟩ ⟨(Operation.onMultiplexer w f).2, owed⟩ := by
  unfold Operation.onMultiplexer
  split
  · exact .refl _
  · exact hf

/-- **Every operation is told**, if the callbacks that it makes are. -/
theorem Follows.run {call : Caller} (hc : Follows R law call) {op : Operation} (hop : op.Keeps law)
    (w : Desk) (owed : List Nat) : Runs R law ⟨w, owed⟩ ⟨(op.run call w).2, owed⟩ := by
  cases op with
  | register name rule script =>
    have brought : ∀ o ∈ Operation.scriptWithin script, law o :=
      fun o ho => hop o (List.mem_cons_of_mem _ ho)
    exact runs_onMultiplexer w owed _ (hc.register name rule brought w owed)
  | subscribe name rule => exact runs_onMultiplexer w owed _ (hc.subscribeAs name rule w owed)
  | dispatch m => exact runs_onMultiplexer w owed _ (hc.dispatch (.asked hop.self) owed)
  | broadcast d => exact runs_onMultiplexer w owed _ (hc.broadcast (.asked hop.self) owed)
  | resume => exact runs_onMultiplexer w owed _ (.whole (.resume hop.self))
  | close => exact runs_onMultiplexer w owed _ (hc.close w owed)
  | activeCount => exact runs_onMultiplexer w owed _ (.refl _)
  | dispose handle =>
    unfold Operation.run
    dsimp only
    split
    case h_1 => exact .refl _
    case h_2 s _ => exact runs_dispose s w owed
  | isActive handle =>
    unfold Operation.run
    dsimp only
    split <;> exact .refl _
  | create => exact runs_create w owed
  | establish => exact runs_establish w owed
  | drop cause m => exact hc.drop cause m w owed
  | authenticateOutbound m => exact runs_authenticateOutbound m w owed
  | authenticateInbound m => exact hc.authenticateInbound m w owed
  | outboundAdmin m => exact runs_outboundAdmin m w owed
  | outboundApplication m => exact runs_outboundApplication m w owed
  | inbound m => exact hc.inbound hop.self w owed

/-! ## §7. Callbacks, level by level -/

/-- A panic leaves nothing behind but a notice. -/
theorem runs_tell (call : Caller) (i : Nat) (c : Call) (w : Desk) (owed : List Nat) :
    Runs R law ⟨(call i c w).2, owed⟩ ⟨(w.tell call i c).2, owed⟩ := by
  unfold tell
  split
  case h_1 w' h =>
    rw [h]
    exact runs_note _ _ rfl
  case h_2 w' h =>
    rw [h]
    exact .refl _

section

variable {perform : Performer}
  (hp : ∀ {op : Operation}, op.Keeps law → ∀ (w : Desk) (owed : List Nat),
    Runs R law ⟨w, owed⟩ ⟨(perform op w).2, owed⟩)

include hp

theorem runs_react (i : Nat) (label : String) {ops : List Operation}
    (hops : ∀ op ∈ ops, op.Keeps law) (w : Desk) (owed : List Nat) :
    Runs R law ⟨w, owed⟩ ⟨w.react perform i label ops, owed⟩ := by
  induction ops generalizing w with
  | nil => exact .refl _
  | cons op rest ih =>
    have hrest : ∀ o ∈ rest, o.Keeps law := fun o ho => hops o (List.mem_cons_of_mem _ ho)
    refine (hp (hops op List.mem_cons_self) w owed).trans ?_
    exact (runs_record (e := .answered i label op (perform op w).1) _ owed rfl rfl).trans
      (ih hrest _)

/-- What follows once the listener has taken the callback. -/
theorem runs_callWith {i : Nat} {c : Call} {w : Desk} {s : Sink} (hs : w.sink? i = some s)
    (hl : ∀ op ∈ s.listener.within, law op) (owed : List Nat) :
    Runs R law ⟨w.hear i s c, owed⟩ ⟨(w.tell (callWith perform) i c).2, owed⟩ := by
  have called : Runs R law ⟨w.hear i s c, owed⟩ ⟨(callWith perform i c w).2, owed⟩ := by
    unfold callWith
    rw [hs]
    dsimp only
    split
    case h_1 => exact .refl _
    case h_2 label r hr =>
      refine runs_react hp _ _ ?_ _ _
      exact fun op hop o ho => hl o (Listener.within_of_next hr hop ho)
  exact called.trans (runs_tell _ _ _ _ _)

end

/-- Callbacks that perform operations are told if the operations are. -/
theorem follows_callWith {depth : Nat}
    (hp : ∀ {op : Operation}, op.Keeps law → ∀ (w : Desk) (owed : List Nat),
      Runs R law ⟨w, owed⟩ ⟨(perform depth op w).2, owed⟩) :
    Follows R law (callWith (perform depth)) where
  caller := ⟨depth, rfl⟩
  tell hs hw c owed :=
    have heard := hw.hear _ _ c
    runs_callWith hp hs (hw _ (List.mem_of_getElem? hs)) owed heard

/-- Operations nested up to any depth are told. -/
theorem perform_runs (depth : Nat) {op : Operation} (hop : op.Keeps law) (w : Desk)
    (owed : List Nat) : Runs R law ⟨w, owed⟩ ⟨(perform depth op w).2, owed⟩ := by
  -- The induction is on the depth: what an operation's callbacks perform lies one level deeper.
  induction depth generalizing op w owed with
  | zero => exact .refl _
  | succ depth ih => exact (follows_callWith fun h => ih h).run hop w owed

/-- The callbacks of every caller that operations are performed with are told. -/
theorem follows_caller (depth : Nat) : Follows R law (callWith (perform depth)) :=
  follows_callWith fun h => perform_runs depth h

end Desk

/-! ## §8. Whole runs -/

namespace Operation

theorem exec_tells {op : Operation} (hop : op.Keeps law) (w : Desk) (owed : List Nat) :
    Runs R law ⟨w, owed⟩ ⟨(op.exec w).2, owed⟩ :=
  (Desk.follows_caller _).run hop w owed

/-- **A run of operations is told** by every relation that tells dispatches and broadcasts. -/
theorem execAll_tells {ops : List Operation} (hops : ∀ op ∈ ops, op.Keeps law) (w : Desk)
    (owed : List Nat) : Runs R law ⟨w, owed⟩ ⟨(execAll ops w).2, owed⟩ := by
  induction ops generalizing w with
  | nil => exact .refl _
  | cons op rest ih =>
    have hrest : ∀ o ∈ rest, o.Keeps law := fun o ho => hops o (List.mem_cons_of_mem _ ho)
    exact (exec_tells (hops op List.mem_cons_self) w owed).trans (ih hrest (op.exec w).2)

end Operation

/-! ## §9. Courses -/

namespace Desk.Follows

variable {call : Caller}

/-- A message is offered to one sink. -/
theorem deliver (hc : Follows (Course law) law call) (m : Message) (i : Nat) {w : Desk}
    (hw : w.Obeys law) (owed : List Nat) :
    Course law ⟨w, owed⟩ ⟨(w.deliver call m i).2, owed⟩ := by
  cases htakes : w.takes m i with
  | true =>
    obtain ⟨s, hs, ha, hm⟩ := takes_iff.mp htakes
    rw [deliver_of_takes htakes]
    -- The sink is active when its turn comes, whatever the snapshot says.
    have heard : Course law ⟨w, owed⟩ ⟨w.hear i s (.message m), owed⟩ :=
      .act (.deliver hs ha hm)
    exact heard.trans (hc.tell hs hw (.message m) owed)
  | false =>
    rcases deliver_of_not_takes call htakes with ho | ho
    · rw [ho]
      exact .refl _
    · rw [ho]
      exact .aside (.event (e := .noted .callbackPanicked) rfl) (milestones_record rfl w)

theorem visit_deliver (hc : Follows (Course law) law call) (m : Message) (places : List Nat)
    {w : Desk} (hw : w.Obeys law) (owed : List Nat) :
    Course law ⟨w, owed⟩ ⟨(visit (Desk.deliver call m) places w).2, owed⟩ := by
  induction places generalizing w with
  | nil => exact .refl _
  | cons i rest ih =>
    have first : Course law ⟨w, owed⟩ ⟨(w.deliver call m i).2, owed⟩ := hc.deliver m i hw owed
    exact first.trans (ih (first.obeys hw))

end Desk.Follows

/-- Courses tell runs. -/
instance : Telling law (Course law) where
  course h := h
  refl := .refl
  trans := .trans
  whole := Whole.course
  broadcast := .broadcast
  dispatch hc _ hw := hc.visit_deliver _ _ hw _

namespace Operation

theorem exec_course {op : Operation} (hop : op.Keeps law) {w : Desk} (hw : w.Obeys law)
    (owed : List Nat) : Course law ⟨w, owed⟩ ⟨(op.exec w).2, owed⟩ :=
  exec_tells hop w owed hw

/-- **A run of operations that keep a law is a course under it**, if the waiters that are there
keep it too. -/
theorem execAll_course {ops : List Operation} (hops : ∀ op ∈ ops, op.Keeps law) {w : Desk}
    (hw : w.Obeys law) (owed : List Nat) : Course law ⟨w, owed⟩ ⟨(execAll ops w).2, owed⟩ :=
  execAll_tells hops w owed hw

theorem exec_path (op : Operation) (w : Desk) (owed : List Nat) :
    Path ⟨w, owed⟩ ⟨(op.exec w).2, owed⟩ :=
  (exec_course (fun _ _ => True.intro) (.trivial w) owed).path

theorem execAll_path (ops : List Operation) (w : Desk) (owed : List Nat) :
    Path ⟨w, owed⟩ ⟨(execAll ops w).2, owed⟩ :=
  (execAll_course (fun _ _ _ _ => True.intro) (.trivial w) owed).path

end Operation

end Correlator
