/-
  Correlator.Proofs.Reticence — OPERATIONS THAT LEAVE THE LAST GOODBYE ALONE.

  Which goodbye was the last is decided by three kinds of moments: a logout goes
  out, the connection comes up, the connection is lost.  Few operations bring
  such a moment about.  All others are reticent: a step that the table refuses,
  a handshake that is turned away, a message that is routed, a sink that is made
  or disposed.  Their callbacks perform what lies in the scripts of the waiters,
  so where the scripts hold reticent operations only, nothing is decided at any
  depth.

  The proof follows the functions of the desk, one lemma for each, with the
  moments that have decided so far held fixed.

  Main results:
    * `Shared.goodbyes`, `History.last_filter` — the moments that decide,
    * `Operation.Reticent` — the operations that bring none about,
    * `Desk.Hushed.run` — one operation, given callbacks that decide nothing,
    * `Desk.hushes_caller` — callbacks at every depth.
-/
import Correlator.Proofs.Attribution
import Correlator.Proofs.Visits
import Mathlib.Data.List.Induction
namespace Correlator

/-! ## §1. The moments that decide -/

/-- The moments that decide which goodbye was the last, in order. -/
def Shared.goodbyes (s : Shared) : List Moment := s.history.filter fun x => x.event.endsGoodbye

/-- Of the moments of a history only those count that may end what was said before. -/
theorem History.last_filter {α : Type} {value : Moment → Option α} {ends : Moment → Bool} {a : α}
    (hv : ∀ x, ends x = false → value x = none) (h : List Moment) :
    Last value ends (h.filter ends) a ↔ Last value ends h a := by
  induction h using List.reverseRecOn with
  | nil => exact Iff.rfl
  | append_singleton h x ih =>
    rw [List.filter_append]
    cases hx : ends x with
    | true =>
      rw [List.filter_cons_of_pos hx, List.filter_nil, last_concat, last_concat, ih]
    | false =>
      rw [List.filter_cons_of_neg (by simp [hx]), List.filter_nil, List.append_nil, ih]
      exact (last_concat_of_not_ends hv hx).symm

namespace Desk

theorem goodbyes_record (e : Event) (w : Desk) : (w.record e).shared.goodbyes =
    w.shared.goodbyes ++ if e.endsGoodbye then [⟨e, some w.line⟩] else [] := by
  unfold Shared.goodbyes
  rw [history_record, List.filter_append]
  cases h : e.endsGoodbye <;> simp [h]

/-- A disposal decides nothing. -/
theorem goodbyes_dispose (s : SinkRef) (w : Desk) :
    (w.dispose s).2.shared.goodbyes = w.shared.goodbyes := by
  obtain ⟨news, hh, hn⟩ := history_dispose s w
  have none : news.filter (fun x => x.event.endsGoodbye) = [] := by
    rw [List.filter_eq_nil_iff]
    intro x hx
    obtain ⟨l, rfl, -⟩ := hn x hx
    simp [Event.endsGoodbye]
  unfold Shared.goodbyes
  rw [hh, List.filter_append, List.filter_append, none]
  simp [Event.endsGoodbye]

variable {w : Desk}

/-- A logout that comes in loses the connection. -/
theorem inboundWith_of_logout {m : Message} (hm : m.kind = .logout) (call : Caller) :
    w.inboundWith call m = (.ok 0, (w.dropWith call .logout (some m)).2) := by
  unfold inboundWith
  rw [hm]

end Desk

/-- The operation may say a goodbye, or do away with one. -/
def Operation.bearsOnGoodbye : Operation → Bool
  | .establish => true
  | .drop _ _ => true
  | .outboundAdmin m => m.kind = .logout
  | .inbound m => m.kind = .logout
  | _ => false

/-- The operation says no goodbye and does away with none. -/
abbrev Operation.Reticent (op : Operation) : Prop := op.bearsOnGoodbye = false

/-- The scripts that an operation brings keep a law. -/
def Operation.Brings (law : Operation → Prop) (op : Operation) : Prop := ∀ o ∈ op.within.tail, law o

instance (law : Operation → Prop) [DecidablePred law] (op : Operation) :
    Decidable (op.Brings law) :=
  inferInstanceAs (Decidable (∀ o ∈ op.within.tail, law o))

/-! ## §2. Desks on which nothing more is decided -/

namespace Desk

/-- The moments that have decided so far are those given, and the scripts of the waiters keep a
law. -/
structure Hushed (law : Operation → Prop) (decided : List Moment) (w : Desk) : Prop where
  goodbyes : w.shared.goodbyes = decided
  obeys : w.Obeys law

/-- Callbacks that decide nothing while the scripts keep a law. -/
def Hushes (law : Operation → Prop) (call : Caller) : Prop :=
  ∀ ⦃decided : List Moment⦄ ⦃w : Desk⦄, w.Hushed law decided →
    ∀ (i : Nat) (c : Call), (call i c w).2.Hushed law decided

/-- Waiters that do nothing decide nothing. -/
theorem hushes_idle (law : Operation → Prop) : Hushes law fun _ _ w => (false, w) :=
  fun _ _ h _ _ => h

namespace Hushed

variable {law : Operation → Prop} {decided : List Moment} {w v : Desk}

/-- A change of the line that leaves the sinks alone. -/
theorem of_sinks (h : w.Hushed law decided) (hs : v.line.mux.sinks = w.line.mux.sinks)
    (hh : v.shared.history = w.shared.history) : v.Hushed law decided where
  goodbyes := (congrArg (List.filter _) hh).trans h.goodbyes
  obeys := h.obeys.of_sinks hs

theorem record (h : w.Hushed law decided) {e : Event} (he : e.endsGoodbye = false) :
    (w.record e).Hushed law decided where
  goodbyes := by
    rw [goodbyes_record, he]
    exact (List.append_nil _).trans h.goodbyes
  obeys := h.obeys.of_sinks rfl

theorem note (h : w.Hushed law decided) {n : Notice} (hn : (Event.noted n).endsGoodbye = false) :
    (w.note n).Hushed law decided := h.record hn

/-- A moment that decides comes after the others. -/
theorem settle (h : w.Hushed law decided) {e : Event} (he : e.endsGoodbye = true) :
    (w.record e).Hushed law (decided ++ [⟨e, some w.line⟩]) where
  goodbyes := by
    rw [goodbyes_record, he, h.goodbyes]
    rfl
  obeys := h.obeys.of_sinks rfl

theorem notes (ns : List Notice) (hn : ∀ n ∈ ns, (Event.noted n).endsGoodbye = false)
    (h : w.Hushed law decided) :
    (w.mapShared (Shared.notes (some w.line) ns)).Hushed law decided := by
  induction ns generalizing w with
  | nil => exact h
  | cons n ns ih =>
    exact ih (fun k hk => hn k (List.mem_cons_of_mem _ hk)) (h.note (hn n List.mem_cons_self))

theorem arrive (h : w.Hushed law decided) (e : Readiness) : (w.arrive e).Hushed law decided := by
  have counted : (w.mapShared fun s =>
      { s with barrier := (s.barrier.arrive w.line.id e).2 }).Hushed law decided :=
    h.of_sinks rfl rfl
  refine counted.notes (Barrier.arrivalNotices (w.shared.barrier.arrive w.line.id e).1
    (w.shared.barrier.arrive w.line.id e).2) ?_
  unfold Barrier.arrivalNotices
  intro n hn
  split at hn
  · split at hn <;> simp at hn <;> rcases hn with rfl | rfl <;> rfl
  · simp at hn

theorem dispose (h : w.Hushed law decided) (s : SinkRef) : (w.dispose s).2.Hushed law decided where
  goodbyes := (goodbyes_dispose s w).trans h.goodbyes
  obeys := h.obeys.dispose s

theorem enter (h : w.Hushed law decided) (name : String) (e : Entry) :
    (w.enter name e).Hushed law decided := by
  have named : (w.mapShared fun s =>
      { s with names := Directory.enter name e s.names }).Hushed law decided := h.of_sinks rfl rfl
  rcases enter_cases name e w with hw | ⟨o, -, hw⟩
  · rw [hw]
    exact named
  · rw [hw]
    exact named.dispose o.sink

theorem seat (h : w.Hushed law decided) (rule : Rule) {listener : Listener}
    (hl : ∀ op ∈ listener.within, law op) : (w.seat rule listener).Hushed law decided where
  goodbyes := h.goodbyes
  obeys := h.obeys.seat rule hl

theorem hear (h : w.Hushed law decided) (i : Nat) (s : Sink) (c : Call) :
    (w.hear i s c).Hushed law decided := by
  have called : (w.record (.called i (s.listener.hearer c) c)).Hushed law decided := h.record rfl
  have taken : ((w.record (.called i (s.listener.hearer c) c)).mapSink i fun k =>
      { k with listener := (k.listener.next c).2 }).Hushed law decided :=
    ⟨called.goodbyes, called.obeys.mapSink i fun k => k.listener.within_next c⟩
  unfold Desk.hear
  dsimp only
  split
  · exact taken.note rfl
  · exact taken

/-! ## §3. Sinks -/

section

variable {call : Caller} (hc : Hushes law call)

include hc

theorem tell (h : w.Hushed law decided) (i : Nat) (c : Call) :
    (w.tell call i c).2.Hushed law decided := by
  have told := hc h i c
  unfold Desk.tell
  split
  case h_1 hr =>
    rw [hr] at told
    exact told.note rfl
  case h_2 hr =>
    rw [hr] at told
    exact told

theorem deliver (h : w.Hushed law decided) (m : Message) (i : Nat) :
    (w.deliver call m i).2.Hushed law decided := by
  cases htakes : w.takes m i with
  | true =>
    rw [deliver_of_takes htakes]
    exact h.tell hc i _
  | false =>
    rcases deliver_of_not_takes call htakes with hd | hd
    · rw [hd]
      exact h
    · rw [hd]
      exact h.note rfl

theorem finish (h : w.Hushed law decided) (phase : Phase) (c : Call) (i : Nat) :
    (w.finish call phase c i).2.Hushed law decided := by
  have left : (w.mapSink i fun k => { k with phase }).Hushed law decided :=
    ⟨h.goodbyes, h.obeys.mapSink i fun _ => List.Subset.refl _⟩
  unfold Desk.finish
  split
  case h_1 => exact h
  case h_2 =>
    split
    · exact left.tell hc i c
    · exact h

omit hc in
theorem visit {step : Nat → Desk → Bool × Desk}
    (hstep : ∀ {w : Desk} (i : Nat), w.Hushed law decided → (step i w).2.Hushed law decided)
    (places : List Nat) (h : w.Hushed law decided) :
    (Desk.visit step places w).2.Hushed law decided := by
  induction places generalizing w with
  | nil => exact h
  | cons i rest ih => exact ih (hstep i h)

theorem dispatch (h : w.Hushed law decided) (m : Message) :
    (w.dispatchWith call m).2.Hushed law decided := by
  have visited := h.visit (fun i hw => hw.deliver hc m i) w.line.mux.active
  unfold dispatchWith
  dsimp only
  split
  · exact visited.note rfl
  · exact visited

theorem broadcast (h : w.Hushed law decided) (d : ConnectionDropped) :
    (w.broadcastWith call d).2.Hushed law decided := by
  have vacated : (w.mapMux fun x =>
      { x with dropRecord := some d, active := [] }).Hushed law decided := h.of_sinks rfl rfl
  exact (vacated.visit (fun i hw => hw.finish hc _ _ i) w.line.mux.active).note rfl

theorem close (h : w.Hushed law decided) : (w.closeWith call).2.Hushed law decided := by
  have shut : (w.mapMux fun x => { x with closed := true, active := [] }).Hushed law decided :=
    h.of_sinks rfl rfl
  exact (shut.visit (fun i hw => hw.finish hc _ _ i) w.line.mux.active).note rfl

theorem enrol (h : w.Hushed law decided) (rule : Rule) {listener : Listener}
    (hl : ∀ op ∈ listener.within, law op) :
    (w.enrol call rule listener).2.Hushed law decided := by
  have seated := h.seat rule hl
  unfold Desk.enrol
  dsimp only
  split
  · exact seated.finish hc _ _ _
  · split
    · exact Hushed.finish hc (seated.note rfl) _ _ _
    · have enlisted : ((w.seat rule listener).mapMux fun x =>
          { x with active := x.active ++ [w.line.mux.sinks.length] }).Hushed law decided :=
        seated.of_sinks rfl rfl
      exact enlisted.note rfl

end

/-! ## §4. The life of the connection -/

/-- A step that is refused leaves a notice behind, and so may one that is made. -/
theorem check (h : w.Hushed law decided) (next : ConnectionState) :
    (w.line.state.canBecome next = false ∧
      ∃ e, w.check next = (.error (.session e), w.note .transitionRejected)) ∨
    (w.line.state.canBecome next = true ∧
      ∃ v, w.check next = (.ok (), v) ∧ v.line = w.line ∧ v.Hushed law decided) := by
  unfold Desk.check ConnectionState.transition
  cases hb : w.line.state.canBecome next with
  | false => exact .inl ⟨rfl, _, rfl⟩
  | true =>
    refine .inr ⟨rfl, _, rfl, ?_, ?_⟩
    · split <;> rfl
    · split
      · exact h
      · exact h.note rfl

theorem setState (h : w.Hushed law decided) (s : ConnectionState) :
    (w.setState s).Hushed law decided := h.of_sinks rfl rfl

theorem create (h : w.Hushed law decided) : w.create.2.Hushed law decided := by
  unfold Desk.create
  rcases h.check .created with ⟨-, e, he⟩ | ⟨-, v, he, -, hv⟩
  · rw [he]
    exact h.note rfl
  · rw [he]
    exact ((hv.setState .created).note (n := .connectionCreated) rfl).arrive .created

theorem resume (h : w.Hushed law decided) : w.resume.Hushed law decided := by
  unfold Desk.resume
  split
  · exact h
  · have off : (w.mapMux fun x => { x with dropRecord := none }).Hushed law decided :=
      h.of_sinks rfl rfl
    exact off.note rfl

/-- A connection that cannot come up stays as it is; one that can does away with what was said. -/
theorem establish (h : w.Hushed law decided) :
    (w.line.state.canBecome .established = false ∧
      w.establish.2 = w.note .transitionRejected) ∨
    (w.line.state.canBecome .established = true ∧
      ∃ l, w.establish.2.Hushed law (decided ++ [⟨.noted .connectionEstablished, some l⟩])) := by
  unfold Desk.establish
  rcases h.check .established with ⟨hb, e, he⟩ | ⟨hb, v, he, -, hv⟩
  · rw [he]
    exact .inl ⟨hb, rfl⟩
  · rw [he]
    have up : ((v.resume.setState .established).mapLine fun l =>
        { l with logoutText := none }).Hushed law decided := hv.resume.of_sinks rfl rfl
    exact .inr ⟨hb, _, Hushed.arrive (up.settle (e := .noted .connectionEstablished) rfl) _⟩

theorem goDown (h : w.Hushed law decided) (cause : DropCause) (m : Option Message) :
    ∃ l, (w.goDown cause m).Hushed law
      (decided ++ [⟨.lost cause m (w.lossOf cause m), some l⟩]) := by
  have down : (w.mapLine fun l =>
      { l with state := .dropped, logoutText := none }).Hushed law decided := h.of_sinks rfl rfl
  exact ⟨_, Hushed.note (down.settle (e := .lost cause m (w.lossOf cause m)) rfl) rfl⟩

theorem authenticateOutbound (h : w.Hushed law decided) (m : Message) :
    (w.authenticateOutbound m).2.Hushed law decided := by
  unfold Desk.authenticateOutbound
  split
  · exact h
  · rcases h.check .authenticating with ⟨-, e, he⟩ | ⟨-, v, he, -, hv⟩
    · rw [he]
      exact h.note rfl
    · rw [he]
      have offered : ((v.setState .authenticating).record (.offered m)).Hushed law decided :=
        (hv.setState .authenticating).record rfl
      dsimp only
      split
      · split
        · exact offered
        · exact offered.note rfl
      · exact offered

theorem outboundAdmin (h : w.Hushed law decided) {m : Message} (hm : m.kind ≠ .logout) :
    (w.outboundAdmin m).2.Hushed law decided := by
  unfold Desk.outboundAdmin
  split
  · exact h.authenticateOutbound m
  · exact absurd ‹_› hm
  · exact h

theorem outboundApplication (h : w.Hushed law decided) (m : Message) :
    (w.outboundApplication m).Hushed law decided := by
  unfold Desk.outboundApplication
  split
  · exact h
  · exact h.note rfl

section

variable {call : Caller} (hc : Hushes law call)

include hc

/-- A connection that is dropped already stays as it is. -/
theorem drop (h : w.Hushed law decided) (cause : DropCause) (m : Option Message) :
    (w.line.state = .dropped ∧ w.dropWith call cause m = (false, w.note .alreadyDropped)) ∨
    (w.line.state ≠ .dropped ∧ ∃ l, (w.dropWith call cause m).2.Hushed law
      (decided ++ [⟨.lost cause m (w.lossOf cause m), some l⟩])) := by
  by_cases hs : w.line.state = .dropped
  case pos => exact .inl ⟨hs, dropWith_of_dropped hs call cause m⟩
  case neg =>
    obtain ⟨l, down⟩ := h.goDown cause m
    rw [dropWith_of_not_dropped hs]
    exact .inr ⟨hs, l, down.broadcast hc _⟩

/-- A handshake that is turned away ends the connection, but that decides nothing. -/
theorem weigh (h : w.Hushed law decided) (m : Message) :
    (w.weighWith call m).2.Hushed law decided := by
  have authenticating := h.setState .authenticating
  unfold weighWith
  dsimp only
  split
  · exact authenticating.record rfl
  · split
    · exact (authenticating.record (e := .accepted m) rfl).note rfl
    · have rejected := (authenticating.note (n := .handshakeRejected) rfl).setState .dropped
      exact Hushed.broadcast hc (rejected.record rfl) _

theorem authenticateInbound (h : w.Hushed law decided) (m : Message) :
    (w.authenticateInboundWith call m).2.Hushed law decided := by
  unfold authenticateInboundWith
  split
  · exact h
  · rcases h.check .authenticating with ⟨-, e, he⟩ | ⟨-, v, he, -, hv⟩
    · rw [he]
      exact h.note rfl
    · rw [he]
      exact hv.weigh hc m

theorem inbound (h : w.Hushed law decided) {m : Message} (hm : m.kind ≠ .logout) :
    (w.inboundWith call m).2.Hushed law decided := by
  by_cases hr : m.kind.isRoutable = true
  case pos =>
    by_cases hs : w.line.state = .established
    · rw [inboundWith_of_established hr hs]
      exact h.dispatch hc m
    · rw [inboundWith_of_not_established hr hs]
      exact h.note rfl
  case neg =>
    unfold inboundWith
    cases hk : m.kind with
    | keepalive => exact h.note rfl
    | handshake =>
      have weighed := h.authenticateInbound hc m
      dsimp only
      split <;> simp_all
    | logout => exact absurd hk hm
    | reject => exact absurd (by rw [hk]; rfl) hr
    | application => exact absurd (by rw [hk]; rfl) hr

/-! ## §5. One operation -/

omit hc in
theorem onMultiplexer (h : w.Hushed law decided) {f : Desk → Answer × Desk}
    (hf : (f w).2.Hushed law decided) : (Operation.onMultiplexer w f).2.Hushed law decided := by
  unfold Operation.onMultiplexer
  split
  · exact h
  · exact hf

/-- **A reticent operation decides nothing**, and the scripts keep the law if those that it brings
do. -/
theorem run (h : w.Hushed law decided) {op : Operation} (hop : op.Reticent)
    (hb : op.Brings law) : (op.run call w).2.Hushed law decided := by
  cases op with
  | register name rule script =>
    have brought : ∀ o ∈ (Listener.scripted name script).within, law o := hb
    exact h.onMultiplexer ((h.enrol hc rule brought).enter _ _)
  | subscribe name rule =>
    have silent : ∀ o ∈ (Listener.stream (.withCapacity w.line.mux.capacity)).within, law o :=
      fun o ho => by cases ho
    exact h.onMultiplexer ((h.enrol hc rule silent).enter _ _)
  | dispatch m => exact h.onMultiplexer (h.dispatch hc m)
  | broadcast d => exact h.onMultiplexer (h.broadcast hc d)
  | resume => exact h.onMultiplexer h.resume
  | close => exact h.onMultiplexer (h.close hc)
  | activeCount => exact h.onMultiplexer h
  | dispose handle =>
    unfold Operation.run
    dsimp only
    split
    · exact h
    · exact h.dispose _
  | isActive handle =>
    unfold Operation.run
    dsimp only
    split <;> exact h
  | create => exact h.create
  | establish => cases hop
  | drop cause m => cases hop
  | authenticateOutbound m => exact h.authenticateOutbound m
  | authenticateInbound m => exact h.authenticateInbound hc m
  | outboundAdmin m => exact h.outboundAdmin (of_decide_eq_false hop)
  | outboundApplication m => exact h.outboundApplication m
  | inbound m => exact h.inbound hc (of_decide_eq_false hop)

end

end Hushed

/-! ## §6. Callbacks at every depth -/

section

variable {perform : Performer}
  (hp : ∀ {decided : List Moment} {w : Desk}, w.Hushed Operation.Reticent decided →
    ∀ {op : Operation}, op.Keeps Operation.Reticent →
      (perform op w).2.Hushed Operation.Reticent decided)

include hp

theorem hushed_react (i : Nat) (label : String) {ops : List Operation}
    (hops : ∀ op ∈ ops, op.Keeps Operation.Reticent) {decided : List Moment} {w : Desk}
    (h : w.Hushed Operation.Reticent decided) :
    (w.react perform i label ops).Hushed Operation.Reticent decided := by
  induction ops generalizing w with
  | nil => exact h
  | cons op rest ih =>
    have first := hp h (hops op List.mem_cons_self)
    exact ih (fun o ho => hops o (List.mem_cons_of_mem _ ho)) (first.record rfl)

/-- What a callback performs lies in the script of the waiter. -/
theorem hushes_callWith : Hushes Operation.Reticent (callWith perform) := by
  intro decided w h i c
  unfold callWith
  split
  case h_1 => exact h
  case h_2 s hs =>
    have heard := h.hear i s c
    dsimp only
    split
    case h_1 => exact heard
    case h_2 label r hr =>
      refine hushed_react hp i label ?_ heard
      intro op hop o ho
      exact h.obeys s (List.mem_of_getElem? hs) o (Listener.within_of_next hr hop ho)

end

/-- **Callbacks decide nothing at any depth** while the scripts hold reticent operations only. -/
theorem hushes_caller (depth : Nat) : Hushes Operation.Reticent (callWith (perform depth)) := by
  -- The induction is on the depth: what an operation's callbacks perform lies one level deeper.
  induction depth with
  | zero => exact hushes_callWith fun h _ _ => h
  | succ depth ih =>
    refine hushes_callWith fun h _ hop => h.run ih hop.self ?_
    exact fun o ho => hop o (List.mem_of_mem_tail ho)

end Desk

end Correlator
