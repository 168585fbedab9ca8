/-
  Correlator.Proofs.UnderSeal — THE SAME RUN UNDER A SEAL.

  A listening side compares the password of a handshake with its own, and does
  nothing else with either.  So a run may be put under a seal that leaves the
  verdicts as they are: each operation answers the same under it, and leaves the
  desk under the seal that it would have left in the open.

  Main results:
    * `Seal.Hides` — the seals that do,
    * `Desk.UnderSeal` — a desk, and the same desk under a seal,
    * `Desk.UnderSeal.weigh` — the one comparison,
    * `Desk.UnderSeal.run`, `Desk.UnderSeal.exec` — one operation,
    * `Desk.UnderSeal.execAll` — every run.
-/
import Correlator.Proofs.Discipline
import Correlator.Proofs.Errands
import Correlator.Proofs.Seals
import Correlator.Proofs.Unison
namespace Correlator

/-! ## §1. A desk under a seal -/

/-- The seal keeps the verdicts of a listening side. -/
structure Seal.Hides (σ : Seal) (config : ConnectionConfig) : Prop where
  listening : config.role.isListening = true
  fair : ∀ c, config.credentials = some c → σ.Fair c

/-- The second desk is the first one under a seal. -/
structure Desk.UnderSeal (σ : Seal) (config : ConnectionConfig) (w v : Desk) : Prop where
  config : w.line.config = config
  desk : v = w.sealed σ

theorem Moment.sealed_own (σ : Seal) (e : Event) (l : Line) :
    Moment.sealed σ l.id ⟨e, some l⟩ = ⟨e.sealed σ, some (l.sealed σ)⟩ := by
  simp [Moment.sealed]

theorem Moment.sealed_other {σ : Seal} {c : ConnectionId} {e : Event} {l : Line} (h : l.id ≠ c) :
    Moment.sealed σ c ⟨e, some l⟩ = ⟨e.sealed σ, some l⟩ := by
  simp [Moment.sealed, h]

namespace Desk.UnderSeal

open Desk (Agree Callers Steps)

variable {σ : Seal} {config : ConnectionConfig} {w v : Desk} {call call' : Caller}

theorem line (h : UnderSeal σ config w v) : v.line = w.line.sealed σ := by
  rw [h.desk]
  rfl

theorem id (h : UnderSeal σ config w v) : v.line.id = w.line.id := by
  rw [h.line]
  rfl

theorem state (h : UnderSeal σ config w v) : v.line.state = w.line.state := by
  rw [h.line]
  rfl

theorem logoutText (h : UnderSeal σ config w v) : v.line.logoutText = w.line.logoutText := by
  rw [h.line]
  rfl

theorem mux (h : UnderSeal σ config w v) : v.line.mux = w.line.mux.sealed σ := by
  rw [h.line]
  rfl

theorem active (h : UnderSeal σ config w v) : v.line.mux.active = w.line.mux.active := by
  rw [h.mux]
  rfl

theorem dropRecord (h : UnderSeal σ config w v) :
    v.line.mux.dropRecord = w.line.mux.dropRecord := by
  rw [h.mux]
  rfl

theorem closed (h : UnderSeal σ config w v) : v.line.mux.closed = w.line.mux.closed := by
  rw [h.mux]
  rfl

theorem released (h : UnderSeal σ config w v) : v.line.mux.released = w.line.mux.released := by
  rw [h.mux]
  rfl

theorem names (h : UnderSeal σ config w v) : v.shared.names = w.shared.names := by
  rw [h.desk]
  rfl

/-- A sink is there on both desks, on the second one under the seal, or on none. -/
theorem sink_cases (h : UnderSeal σ config w v) (i : Nat) :
    (w.sink? i = none ∧ v.sink? i = none) ∨
      ∃ s, w.sink? i = some s ∧ v.sink? i = some (s.sealed σ) := by
  have same : v.sink? i = (w.sink? i).map (Sink.sealed σ) := by
    unfold Desk.sink?
    rw [h.line]
    exact w.line.sink?_sealed σ i
  rw [same]
  cases w.sink? i with
  | none => exact .inl ⟨rfl, rfl⟩
  | some s => exact .inr ⟨s, rfl, rfl⟩

/-! ## §2. What operations are made of -/

/-- A moment goes on the trail, on the second desk under the seal. -/
theorem add (h : UnderSeal σ config w v) {x y : Moment} (hx : x.sealed σ w.line.id = y) :
    UnderSeal σ config (w.mapShared fun s => s.add x) (v.mapShared fun s => s.add y) := by
  obtain ⟨own, rfl⟩ := h
  refine ⟨own, ?_⟩
  have trail : y :: w.shared.trail.map (Moment.sealed σ w.line.id) =
      (x :: w.shared.trail).map (Moment.sealed σ w.line.id) := by
    rw [List.map_cons, hx]
  exact congrArg (fun t => Desk.mk w.before (w.line.sealed σ) w.after { w.shared with trail := t })
    trail

theorem record (h : UnderSeal σ config w v) (e : Event) :
    UnderSeal σ config (w.record e) (v.record (e.sealed σ)) := by
  have recorded := h.add (Moment.sealed_own σ e w.line)
  rwa [← h.line] at recorded

/-- An event in which nothing is hidden. -/
theorem record_plain (h : UnderSeal σ config w v) {e : Event} (he : e.sealed σ = e) :
    UnderSeal σ config (w.record e) (v.record e) := by
  have recorded := h.record e
  rwa [he] at recorded

theorem note (h : UnderSeal σ config w v) (n : Notice) :
    UnderSeal σ config (w.note n) (v.note n) := h.record_plain rfl

theorem mapLine (h : UnderSeal σ config w v) {f g : Line → Line}
    (hc : ∀ l, (f l).config = l.config) (hf : ∀ l, g (l.sealed σ) = (f l).sealed σ) :
    UnderSeal σ config (w.mapLine f) (v.mapLine g) := by
  obtain ⟨own, rfl⟩ := h
  refine ⟨(hc w.line).trans own, ?_⟩
  have id : (f w.line).id = w.line.id := congrArg ConnectionConfig.id (hc w.line)
  show Desk.mk w.before (g (w.line.sealed σ)) w.after (w.shared.sealed σ w.line.id) =
    Desk.mk w.before ((f w.line).sealed σ) w.after (w.shared.sealed σ (f w.line).id)
  rw [hf, id]

theorem mapMux (h : UnderSeal σ config w v) {f g : Multiplexer → Multiplexer}
    (hf : ∀ x, g (x.sealed σ) = (f x).sealed σ) :
    UnderSeal σ config (w.mapMux f) (v.mapMux g) := by
  refine h.mapLine (fun _ => rfl) fun l => ?_
  exact congrArg (fun x => ({ l.sealed σ with mux := x } : Line)) (hf l.mux)

theorem mapSink (h : UnderSeal σ config w v) (i : Nat) {f : Sink → Sink}
    (hf : ∀ s, f (s.sealed σ) = (f s).sealed σ) :
    UnderSeal σ config (w.mapSink i f) (v.mapSink i f) :=
  h.mapMux (Multiplexer.mapSink_sealed hf i)

theorem setState (h : UnderSeal σ config w v) (s : ConnectionState) :
    UnderSeal σ config (w.setState s) (v.setState s) :=
  h.mapLine (fun _ => rfl) fun _ => rfl

/-- A change of what the lines share, apart from the trail. -/
theorem mapShared (h : UnderSeal σ config w v) {f : Shared → Shared}
    (hf : ∀ c s, f (s.sealed σ c) = (f s).sealed σ c) :
    UnderSeal σ config (w.mapShared f) (v.mapShared f) := by
  obtain ⟨own, rfl⟩ := h
  refine ⟨own, ?_⟩
  exact congrArg (Desk.mk w.before (w.line.sealed σ) w.after) (hf w.line.id w.shared)

theorem seat (h : UnderSeal σ config w v) (rule : Rule) (listener : Listener) :
    UnderSeal σ config (w.seat rule listener) (v.seat rule (listener.sealed σ)) := by
  have issued : v.shared.issued = w.shared.issued := by
    rw [h.desk]
    rfl
  unfold Desk.seat
  dsimp only
  rw [issued]
  refine (h.mapShared fun c s => rfl).mapMux fun x => ?_
  show Multiplexer.mk _ _ _ _ _ _ = Multiplexer.mk _ (List.map _ _) _ _ _ _
  rw [List.map_append]
  rfl

/-! ## §3. Handles and names -/

/-- A sink that a handle leads to is there on both desks, or on none, with the same number and in
the same phase. -/
theorem sinkAt? (h : UnderSeal σ config w v) (s : SinkRef) :
    (w.sinkAt? s = none ∧ v.sinkAt? s = none) ∨ ∃ k m, w.sinkAt? s = some k ∧
      v.sinkAt? s = some m ∧ m.number = k.number ∧ m.phase = k.phase := by
  have same : ∀ o : Option Sink, (o = none ∧ o = none) ∨ ∃ k m, o = some k ∧ o = some m ∧
      m.number = k.number ∧ m.phase = k.phase := by
    intro o
    cases o with
    | none => exact .inl ⟨rfl, rfl⟩
    | some k => exact .inr ⟨k, k, rfl, rfl, rfl, rfl⟩
  obtain ⟨own, rfl⟩ := h
  unfold Desk.sinkAt? Desk.lines
  rw [List.find?_append, List.find?_append]
  show (_ ∧ ((w.before.find? _).or _).bind _ = none) ∨
    ∃ k m, _ ∧ ((w.before.find? _).or _).bind _ = some m ∧ _
  cases w.before.find? fun l => l.id = s.connection with
  | some l => exact same _
  | none =>
    by_cases hid : w.line.id = s.connection
    · have hid' : (w.sealed σ).line.id = s.connection := hid
      rw [List.find?_cons_of_pos (by simpa using hid), List.find?_cons_of_pos (by simpa using hid')]
      show (w.sink? s.place = none ∧ (w.sealed σ).sink? s.place = none) ∨ ∃ k m,
        w.sink? s.place = some k ∧ (w.sealed σ).sink? s.place = some m ∧ _
      rcases sink_cases (⟨own, rfl⟩ : UnderSeal σ config w (w.sealed σ)) s.place with
        none | ⟨k, hk, hm⟩
      · exact .inl none
      · exact .inr ⟨k, k.sealed σ, hk, hm, rfl, rfl⟩
    · have hid' : ¬ (w.sealed σ).line.id = s.connection := hid
      rw [List.find?_cons_of_neg (by simpa using hid), List.find?_cons_of_neg (by simpa using hid')]
      exact same _

theorem enrolment (h : UnderSeal σ config w v) (s : SinkRef) : v.enrolment s = w.enrolment s := by
  unfold Desk.enrolment
  rcases h.sinkAt? s with ⟨hw, hv⟩ | ⟨k, m, hw, hv, number, phase⟩
  · rw [hw, hv]
  · rw [hw, hv]
    simp only [Sink.isActive, number, phase]

theorem isActive (h : UnderSeal σ config w v) (s : SinkRef) : v.isActive s = w.isActive s := by
  unfold Desk.isActive
  rcases h.sinkAt? s with ⟨hw, hv⟩ | ⟨k, m, hw, hv, -, phase⟩
  · rw [hw, hv]
  · rw [hw, hv]
    simp only [Sink.isActive, phase]

theorem resolve? (h : UnderSeal σ config w v) (handle : Handle) :
    v.resolve? handle = w.resolve? handle := by
  cases handle with
  | named name => exact congrArg (fun ns => (Directory.find? name ns).map Entry.sink) h.names
  | sink ref => rfl

theorem noteDisposal_own (h : UnderSeal σ config w v) :
    UnderSeal σ config (w.noteDisposal w.line) (v.noteDisposal v.line) := by
  unfold Desk.noteDisposal
  rw [h.released]
  split
  · exact h
  · exact h.note .sinkDisposed

theorem noteDisposal_other (h : UnderSeal σ config w v) {l : Line} (hl : l.id ≠ w.line.id) :
    UnderSeal σ config (w.noteDisposal l) (v.noteDisposal l) := by
  unfold Desk.noteDisposal
  split
  · exact h
  · exact h.add (Moment.sealed_other hl)

/-- The lines on either side may be any, if they are the same. -/
theorem around (h : UnderSeal σ config w v) (before after : List Line) :
    UnderSeal σ config ⟨before, w.line, after, w.shared⟩ ⟨before, v.line, after, v.shared⟩ := by
  obtain ⟨own, rfl⟩ := h
  exact ⟨own, rfl⟩

theorem strike (h : UnderSeal σ config w v) (s : SinkRef) :
    Agree (UnderSeal σ config) (w.strike s) (v.strike s) := by
  have struck := h.mapLine (g := fun l => (l.disposeAt s.place).2)
    (Line.config_disposeAt s.place) fun l => congrArg Prod.snd (l.disposeAt_sealed σ s.place)
  have changed : (v.line.disposeAt s.place).1 = (w.line.disposeAt s.place).1 := by
    rw [h.line, w.line.disposeAt_sealed σ s.place]
  have before : v.before = w.before := by
    rw [h.desk]
    rfl
  have after : v.after = w.after := by
    rw [h.desk]
    rfl
  unfold Desk.strike
  rw [h.id, before, after]
  split
  case isTrue =>
    refine ⟨changed, ?_⟩
    dsimp only
    rw [changed]
    have moved := struck.around w.before w.after
    split
    · exact moved.noteDisposal_own
    · exact moved
  case isFalse hid =>
    -- On another line nothing is hidden.
    have other : ∀ {ls : List Line} {l : Line},
        (disposeAmong s ls).1 = some l → l.id ≠ w.line.id :=
      fun hl heq => hid (heq.symm.trans (id_of_disposeAmong hl))
    dsimp only
    split
    case h_1 l hl => exact ⟨rfl, (h.around _ _).noteDisposal_other (other hl)⟩
    case h_2 =>
      split
      case h_1 l hl => exact ⟨rfl, (h.around _ _).noteDisposal_other (other hl)⟩
      case h_2 => exact ⟨rfl, h⟩

theorem dispose (h : UnderSeal σ config w v) (s : SinkRef) :
    Agree (UnderSeal σ config) (w.dispose s) (v.dispose s) := by
  obtain ⟨changed, desk⟩ := h.strike s
  unfold Desk.dispose
  dsimp only
  rw [changed]
  exact ⟨rfl, desk.record_plain rfl⟩

theorem enter (h : UnderSeal σ config w v) (name : String) (e : Entry) :
    UnderSeal σ config (w.enter name e) (v.enter name e) := by
  have entered := h.mapShared (f := fun s => { s with names := Directory.enter name e s.names })
    fun c s => rfl
  unfold Desk.enter
  dsimp only
  rw [h.names]
  split
  case h_1 => exact entered
  case h_2 o _ =>
    unfold Desk.giveUp
    split
    · exact entered
    · exact (entered.dispose o.sink).desk

/-! ## §4. Sinks -/

theorem tell (hc : Callers (UnderSeal σ config) call call') (h : UnderSeal σ config w v) (i : Nat)
    (x : Call) : Agree (UnderSeal σ config) (w.tell call i x) (v.tell call' i x) := by
  obtain ⟨same, desk⟩ := hc h i x
  unfold Desk.tell
  generalize call i x w = r at same desk
  generalize call' i x v = r' at same desk
  obtain ⟨panicked, w'⟩ := r
  obtain ⟨panicked', v'⟩ := r'
  obtain rfl : panicked' = panicked := same
  cases panicked' with
  | true => exact ⟨rfl, desk.note .callbackPanicked⟩
  | false => exact ⟨rfl, desk⟩

theorem deliver (hc : Callers (UnderSeal σ config) call call') (m : Message) :
    Steps (UnderSeal σ config) (Desk.deliver call m) (Desk.deliver call' m) := by
  intro w v h i
  unfold Desk.deliver
  rcases h.sink_cases i with ⟨hw, hv⟩ | ⟨s, hw, hv⟩
  · rw [hw, hv]
    exact ⟨rfl, h⟩
  · rw [hw, hv]
    have judged : (s.sealed σ).rule.judge m = s.rule.judge m := rfl
    dsimp only
    rw [judged]
    cases s.rule.judge m with
    | panics => exact ⟨rfl, h.note .callbackPanicked⟩
    | rejects => exact ⟨rfl, h⟩
    | accepts =>
      show Agree _ (if s.isActive then _ else _) (if s.isActive then _ else _)
      split
      · exact h.tell hc i (.message m)
      · exact ⟨rfl, h⟩

theorem finish (hc : Callers (UnderSeal σ config) call call') (phase : Phase) (x : Call) :
    Steps (UnderSeal σ config) (Desk.finish call phase x) (Desk.finish call' phase x) := by
  intro w v h i
  unfold Desk.finish
  rcases h.sink_cases i with ⟨hw, hv⟩ | ⟨s, hw, hv⟩
  · rw [hw, hv]
    exact ⟨rfl, h⟩
  · rw [hw, hv]
    show Agree _ (if s.isActive then _ else _) (if s.isActive then _ else _)
    split
    · exact (h.mapSink i (f := fun k => { k with phase }) fun _ => rfl).tell hc i x
    · exact ⟨rfl, h⟩

/-! ## §5. The multiplexer -/

theorem dispatch (hc : Callers (UnderSeal σ config) call call') (m : Message)
    (h : UnderSeal σ config w v) :
    Agree (UnderSeal σ config) (w.dispatchWith call m) (v.dispatchWith call' m) := by
  obtain ⟨count, visited⟩ := Desk.Unison.visit (deliver hc m) w.line.mux.active h
  unfold Desk.dispatchWith
  rw [h.active]
  refine ⟨count, ?_⟩
  dsimp only
  rw [count]
  split
  · exact visited.note .orphanedResponse
  · exact visited

theorem broadcast (hc : Callers (UnderSeal σ config) call call') (d : ConnectionDropped)
    (h : UnderSeal σ config w v) :
    Agree (UnderSeal σ config) (w.broadcastWith call d) (v.broadcastWith call' d) := by
  have drained := h.mapMux (f := fun x => { x with dropRecord := some d, active := [] })
    (g := fun x => { x with dropRecord := some d, active := [] }) fun _ => rfl
  obtain ⟨count, told⟩ :=
    Desk.Unison.visit (finish hc .terminated (.error d)) w.line.mux.active drained
  unfold Desk.broadcastWith
  rw [h.active]
  exact ⟨count, told.note .dropBroadcast⟩

theorem close (hc : Callers (UnderSeal σ config) call call') (h : UnderSeal σ config w v) :
    Agree (UnderSeal σ config) (w.closeWith call) (v.closeWith call') := by
  have drained := h.mapMux (f := fun x => { x with closed := true, active := [] })
    (g := fun x => { x with closed := true, active := [] }) fun _ => rfl
  obtain ⟨-, told⟩ := Desk.Unison.visit (finish hc .disposed .closed) w.line.mux.active drained
  unfold Desk.closeWith
  rw [h.active]
  exact ⟨rfl, told.note .multiplexerClosed⟩

theorem resume (h : UnderSeal σ config w v) : UnderSeal σ config w.resume v.resume := by
  have cleared := (h.mapMux (f := fun x => { x with dropRecord := none })
    (g := fun x => { x with dropRecord := none }) fun _ => rfl).note .dropRecordCleared
  unfold Desk.resume
  rw [h.dropRecord]
  split
  · exact h
  · exact cleared

theorem enrol (hc : Callers (UnderSeal σ config) call call') (rule : Rule) (listener : Listener)
    (h : UnderSeal σ config w v) : Agree (UnderSeal σ config) (w.enrol call rule listener)
      (v.enrol call' rule (listener.sealed σ)) := by
  have seated := h.seat rule listener
  have place : v.line.mux.sinks.length = w.line.mux.sinks.length := by
    rw [h.mux]
    exact List.length_map _
  have admitted := seated.mapMux
    (f := fun x => { x with active := x.active ++ [w.line.mux.sinks.length] })
    (g := fun x => { x with active := x.active ++ [w.line.mux.sinks.length] }) fun _ => rfl
  unfold Desk.enrol
  dsimp only
  rw [h.id, place, seated.closed, seated.dropRecord]
  split
  · exact ⟨rfl, (finish hc .disposed .closed seated _).desk⟩
  · split
    case h_1 d _ =>
      exact ⟨rfl, (finish hc .terminated (.error d) (seated.note .sinkRefused) _).desk⟩
    case h_2 => exact ⟨rfl, admitted.note .sinkRegistered⟩

theorem register (hc : Callers (UnderSeal σ config) call call') (name : String) (rule : Rule)
    (script : Script Operation) (h : UnderSeal σ config w v) :
    Agree (UnderSeal σ config) (w.registerWith call name rule script)
      (v.registerWith call' name rule (Operation.scriptSealed σ script)) := by
  obtain ⟨same, enrolled⟩ := h.enrol hc rule (.scripted name script)
  have entered := enrolled.enter name ⟨(w.enrol call rule (.scripted name script)).1, .absent⟩
  unfold Desk.registerWith
  dsimp only
  rw [show Listener.scripted name (Operation.scriptSealed σ script) =
    (Listener.scripted name script).sealed σ from rfl, same]
  exact ⟨entered.enrolment _, entered⟩

theorem subscribeAs (hc : Callers (UnderSeal σ config) call call') (name : String) (rule : Rule)
    (h : UnderSeal σ config w v) : Agree (UnderSeal σ config) (w.subscribeAsWith call name rule)
      (v.subscribeAsWith call' name rule) := by
  have capacity : v.line.mux.capacity = w.line.mux.capacity := by
    rw [h.mux]
    rfl
  obtain ⟨same, enrolled⟩ := h.enrol hc rule (.stream (.withCapacity w.line.mux.capacity))
  have entered := enrolled.enter name
    ⟨(w.enrol call rule (.stream (.withCapacity w.line.mux.capacity))).1, .idle⟩
  unfold Desk.subscribeAsWith Desk.subscribeWith
  dsimp only
  rw [capacity, show Listener.stream (.withCapacity w.line.mux.capacity) =
    (Listener.stream (.withCapacity w.line.mux.capacity)).sealed σ from rfl, same]
  exact ⟨entered.enrolment _, entered⟩

/-! ## §6. The life of the connection -/

/-- Notices that concern the line in hand, by induction on them. -/
theorem notes (h : UnderSeal σ config w v) (ns : List Notice) :
    UnderSeal σ config (w.mapShared fun s => s.notes (some w.line) ns)
      (v.mapShared fun s => s.notes (some v.line) ns) := by
  induction ns generalizing w v with
  | nil => exact h
  | cons n rest ih => exact ih (h.note n)

theorem arrive (h : UnderSeal σ config w v) (e : Readiness) :
    UnderSeal σ config (w.arrive e) (v.arrive e) := by
  have barrier : v.shared.barrier = w.shared.barrier := by
    rw [h.desk]
    rfl
  let arrived := w.shared.barrier.arrive w.line.id e
  have counted := (h.mapShared (f := fun s => { s with barrier := arrived.2 })
    fun _ _ => rfl).notes (Barrier.arrivalNotices arrived.1 arrived.2)
  unfold Desk.arrive Shared.arrive
  rw [h.id]
  show UnderSeal σ config _ (Desk.mk _ _ _ (Shared.notes _ (Barrier.arrivalNotices
    (v.shared.barrier.arrive w.line.id e).1 (v.shared.barrier.arrive w.line.id e).2)
    { v.shared with barrier := (v.shared.barrier.arrive w.line.id e).2 }))
  rw [barrier]
  exact counted

/-- The step is refused on both desks, or on none. -/
theorem check_cases (h : UnderSeal σ config w v) (next : ConnectionState) :
    (∃ e w' v', w.check next = (.error e, w') ∧ v.check next = (.error e, v') ∧
      UnderSeal σ config w' v') ∨
    ∃ w' v', w.check next = (.ok (), w') ∧ v.check next = (.ok (), v') ∧
      UnderSeal σ config w' v' := by
  unfold Desk.check
  rw [h.id, h.state]
  cases ConnectionState.transition w.line.id w.line.state next with
  | error e => exact .inl ⟨_, _, _, rfl, rfl, h.note .transitionRejected⟩
  | ok _ =>
    refine .inr ⟨_, _, rfl, rfl, ?_⟩
    split
    · exact h
    · exact h.note .stateTransition

theorem create (h : UnderSeal σ config w v) : Agree (UnderSeal σ config) w.create v.create := by
  unfold Desk.create
  rcases h.check_cases .created with ⟨e, w', v', hw, hv, h'⟩ | ⟨w', v', hw, hv, h'⟩
  · rw [hw, hv]
    exact ⟨rfl, h'⟩
  · rw [hw, hv]
    exact ⟨rfl, ((h'.setState .created).note .connectionCreated).arrive .created⟩

theorem establish (h : UnderSeal σ config w v) :
    Agree (UnderSeal σ config) w.establish v.establish := by
  unfold Desk.establish
  rcases h.check_cases .established with ⟨e, w', v', hw, hv, h'⟩ | ⟨w', v', hw, hv, h'⟩
  · rw [hw, hv]
    exact ⟨rfl, h'⟩
  · have up : UnderSeal σ config w'.resume.comeUp v'.resume.comeUp := by
      refine note ?_ .connectionEstablished
      exact (h'.resume.setState .established).mapLine (fun _ => rfl) fun _ => rfl
    rw [hw, hv]
    exact ⟨rfl, up.arrive .established⟩

theorem drop (hc : Callers (UnderSeal σ config) call call') (cause : DropCause)
    (m : Option Message) (h : UnderSeal σ config w v) :
    Agree (UnderSeal σ config) (w.dropWith call cause m) (v.dropWith call' cause m) := by
  have loss : v.lossOf cause m = w.lossOf cause m := by
    unfold Desk.lossOf
    rw [h.logoutText, h.id]
  have down : UnderSeal σ config (w.goDown cause m) (v.goDown cause m) := by
    unfold Desk.goDown
    rw [loss]
    refine note (record_plain ?_ rfl) .connectionDropped
    exact h.mapLine (fun _ => rfl) fun _ => rfl
  unfold Desk.dropWith
  rw [h.state, loss]
  split
  · exact ⟨rfl, h.note .alreadyDropped⟩
  · exact ⟨rfl, (down.broadcast hc _).desk⟩

section

variable (hσ : σ.Hides config)

include hσ

/-- A listening side puts nothing of its own into a handshake that goes out. -/
theorem authenticateOutbound (m : Message) (h : UnderSeal σ config w v) :
    Agree (UnderSeal σ config) (w.authenticateOutbound m) (v.authenticateOutbound m) := by
  have silent : ¬ config.role.presentsCredentials = true := by
    have listening : (!config.role.isDialing) = true := hσ.listening
    simpa [Role.presentsCredentials] using listening
  unfold Desk.authenticateOutbound
  split
  · exact ⟨rfl, h⟩
  · rcases h.check_cases .authenticating with ⟨e, w', v', hw, hv, h'⟩ | ⟨w', v', hw, hv, h'⟩
    · rw [hw, hv]
      exact ⟨rfl, h'⟩
    · have offered := (h'.setState .authenticating).record (.offered m)
      have first : ¬ ((w'.setState .authenticating).record
          (.offered m)).line.config.role.presentsCredentials = true := by
        rw [offered.config]
        exact silent
      have second : ¬ ((v'.setState .authenticating).record
          (.offered m)).line.config.role.presentsCredentials = true := by
        show ¬ v'.line.config.role.presentsCredentials = true
        rw [h'.line]
        exact first
      rw [hw, hv]
      dsimp only
      rw [if_neg first, if_neg second]
      exact ⟨rfl, offered⟩

theorem guard? (h : UnderSeal σ config w v) : v.guard? = w.guard?.map σ.credentials ∧
    w.guard? = config.credentials := by
  have validates : w.line.config.role.validatesCredentials = true := by
    rw [h.config]
    exact hσ.listening
  unfold Desk.guard?
  rw [h.line]
  show (if w.line.config.role.validatesCredentials then w.line.config.credentials.map _ else none) =
    _ ∧ _
  rw [if_pos validates, if_pos validates, h.config]
  exact ⟨rfl, rfl⟩

/-- **A handshake weighs the same under the seal.** -/
theorem weigh (hc : Callers (UnderSeal σ config) call call') {m : Message}
    (hm : m.kind = .handshake) (h : UnderSeal σ config w v) :
    Agree (UnderSeal σ config) (w.weighWith call m) (v.weighWith call' (σ.message m)) := by
  have begun := h.setState .authenticating
  have accepted := begun.record (.accepted m)
  obtain ⟨guard, own⟩ := begun.guard? hσ
  unfold Desk.weighWith
  dsimp only
  rw [guard, own, begun.id]
  cases hcred : config.credentials with
  | none => exact ⟨rfl, accepted⟩
  | some c =>
    have verdict : Desk.credentialsFault (σ.credentials c) (σ.message m) =
        Desk.credentialsFault c m := by
      rw [σ.message_of_handshake hm]
      exact hσ.fair c hcred m
    dsimp only [Option.map_some]
    rw [verdict]
    cases Desk.credentialsFault c m with
    | none => exact ⟨rfl, accepted.note .credentialsAccepted⟩
    | some reason =>
      let drop : ConnectionDropped := ⟨w.line.id, .authenticationRejected, some reason⟩
      have away := ((begun.note .handshakeRejected).setState .dropped).record (.refused m drop)
      exact ⟨rfl, (away.broadcast hc drop).desk⟩

theorem authenticateInbound (hc : Callers (UnderSeal σ config) call call') (m : Message)
    (h : UnderSeal σ config w v) : Agree (UnderSeal σ config) (w.authenticateInboundWith call m)
      (v.authenticateInboundWith call' (σ.message m)) := by
  unfold Desk.authenticateInboundWith
  rw [σ.kind_message]
  split
  case isTrue => exact ⟨rfl, h⟩
  case isFalse hm =>
    rcases h.check_cases .authenticating with ⟨e, w', v', hw, hv, h'⟩ | ⟨w', v', hw, hv, h'⟩
    · rw [hw, hv]
      exact ⟨rfl, h'⟩
    · rw [hw, hv]
      exact h'.weigh hσ hc (not_not.mp hm)

theorem outboundAdmin (m : Message) (h : UnderSeal σ config w v) :
    Agree (UnderSeal σ config) (w.outboundAdmin m) (v.outboundAdmin m) := by
  unfold Desk.outboundAdmin
  split
  · exact h.authenticateOutbound hσ m
  · refine ⟨rfl, record_plain ?_ rfl⟩
    exact h.mapLine (fun _ => rfl) fun _ => rfl
  · exact ⟨rfl, h⟩

omit hσ in
theorem outboundApplication (m : Message) (h : UnderSeal σ config w v) :
    UnderSeal σ config (w.outboundApplication m) (v.outboundApplication m) := by
  unfold Desk.outboundApplication
  split
  · exact h
  · exact h.note .outboundApplication

theorem inbound (hc : Callers (UnderSeal σ config) call call') (m : Message)
    (h : UnderSeal σ config w v) :
    Agree (UnderSeal σ config) (w.inboundWith call m) (v.inboundWith call' (σ.message m)) := by
  by_cases hm : m.kind = .handshake
  case pos =>
    obtain ⟨same, desk⟩ := h.authenticateInbound hσ hc m
    unfold Desk.inboundWith
    rw [σ.kind_message, hm]
    dsimp only
    generalize w.authenticateInboundWith call m = r at same desk
    generalize v.authenticateInboundWith call' (σ.message m) = r' at same desk
    obtain ⟨x, w'⟩ := r
    obtain ⟨x', v'⟩ := r'
    obtain rfl : x' = x := same
    cases x' <;> exact ⟨rfl, desk⟩
  case neg =>
    rw [σ.message_of_other hm]
    unfold Desk.inboundWith
    cases hk : m.kind with
    | keepalive => exact ⟨rfl, h.note .keepalive⟩
    | handshake => exact absurd hk hm
    | logout => exact ⟨rfl, (h.drop hc .logout (some m)).desk⟩
    | reject | application =>
      dsimp only
      rw [h.state]
      split
      · exact (h.dispatch hc m).map Except.ok
      · exact ⟨rfl, h.note .messageDiscarded⟩

/-! ## §7. One operation -/

omit hσ in
/-- Once the multiplexer has been given up, it answers so on both desks. -/
theorem onMultiplexer (h : UnderSeal σ config w v) {r r' : Answer × Desk}
    (hr : Agree (UnderSeal σ config) r r') : Agree (UnderSeal σ config)
      (if w.line.mux.released then (.noMultiplexer, w) else r)
      (if v.line.mux.released then (.noMultiplexer, v) else r') := by
  rw [h.released]
  split
  · exact ⟨rfl, h⟩
  · exact hr

/-- **One operation** answers the same under the seal, if its callbacks do. -/
theorem run (hc : Callers (UnderSeal σ config) call call') (op : Operation)
    (h : UnderSeal σ config w v) :
    Agree (UnderSeal σ config) (op.run call w) ((op.sealed σ).run call' v) := by
  cases op with
  | register name rule script =>
    rw [Operation.sealed]
    exact h.onMultiplexer ((h.register hc name rule script).map Answer.enrolled)
  | subscribe name rule =>
    exact h.onMultiplexer ((h.subscribeAs hc name rule).map Answer.enrolled)
  | dispatch m => exact h.onMultiplexer ((h.dispatch hc m).map Answer.count)
  | broadcast d => exact h.onMultiplexer ((h.broadcast hc d).map Answer.count)
  | resume => exact h.onMultiplexer (r := (.done, w.resume)) ⟨rfl, h.resume⟩
  | close => exact h.onMultiplexer ((h.close hc).map Answer.count)
  | activeCount =>
    have counted : Agree (UnderSeal σ config) (Answer.count w.line.mux.active.length, w)
        (.count v.line.mux.active.length, v) := by
      rw [h.active]
      exact ⟨rfl, h⟩
    exact h.onMultiplexer counted
  | dispose handle =>
    show Agree _ ((Operation.dispose handle).run call w) ((Operation.dispose handle).run call' v)
    unfold Operation.run
    dsimp only
    rw [h.resolve? handle]
    split
    · exact ⟨rfl, h⟩
    · exact (h.dispose _).map Answer.flag
  | isActive handle =>
    show Agree _ ((Operation.isActive handle).run call w) ((Operation.isActive handle).run call' v)
    unfold Operation.run
    dsimp only
    rw [h.resolve? handle]
    split
    · exact ⟨rfl, h⟩
    · rw [h.isActive]
      exact ⟨rfl, h⟩
  | create => exact h.create.map Answer.outcome
  | establish => exact h.establish.map Answer.outcome
  | drop cause m => exact (h.drop hc cause m).map Answer.flag
  | authenticateOutbound m =>
    exact (h.authenticateOutbound hσ m).map fun r => Answer.outgoing r.1 r.2
  | authenticateInbound m =>
    rw [Operation.sealed]
    exact (h.authenticateInbound hσ hc m).map Answer.outcome
  | outboundAdmin m => exact (h.outboundAdmin hσ m).map fun r => Answer.outgoing r.1 r.2
  | outboundApplication m => exact ⟨rfl, h.outboundApplication m⟩
  | inbound m =>
    rw [Operation.sealed]
    exact (h.inbound hσ hc m).map Answer.tally

/-! ## §8. What callbacks set off -/

omit hσ in
theorem hear (h : UnderSeal σ config w v) (i : Nat) (s : Sink) (x : Call) :
    UnderSeal σ config (w.hear i s x) (v.hear i (s.sealed σ) x) := by
  have called := h.record_plain (e := .called i (s.listener.hearer x) x) rfl
  have taken := called.mapSink i (f := fun k => { k with listener := (k.listener.next x).2 })
    fun k => congrArg (fun l => { k with listener := l })
      (congrArg Prod.snd (k.listener.next_sealed σ x))
  have hearer : (s.sealed σ).listener.hearer x = s.listener.hearer x :=
    s.listener.hearer_sealed σ x
  have lags : (s.sealed σ).listener.lags x = s.listener.lags x := s.listener.lags_sealed σ x
  unfold Desk.hear
  dsimp only
  rw [hearer, lags]
  split
  · exact taken.note .subscriptionLagging
  · exact taken

omit hσ in
/-- The operations of a reaction, by induction on them. -/
theorem react {perform : Performer} (hp : ∀ {w v}, UnderSeal σ config w v → ∀ op : Operation,
      Agree (UnderSeal σ config) (perform op w) (perform (op.sealed σ) v))
    (i : Nat) (label : String) (ops : List Operation) (h : UnderSeal σ config w v) :
    UnderSeal σ config (w.react perform i label ops)
      (v.react perform i label (Operation.callsSealed σ ops)) := by
  induction ops generalizing w v with
  | nil =>
    rw [Operation.callsSealed]
    exact h
  | cons op rest ih =>
    obtain ⟨answer, desk⟩ := hp h op
    have answered := desk.record (.answered i label op (perform op w).1)
    rw [Operation.callsSealed]
    unfold Desk.react
    dsimp only
    rw [answer]
    exact ih answered

omit hσ in
/-- Callbacks of waiters, and of the same waiters under the seal. -/
theorem callers {perform : Performer} (hp : ∀ {w v}, UnderSeal σ config w v → ∀ op : Operation,
      Agree (UnderSeal σ config) (perform op w) (perform (op.sealed σ) v)) :
    Callers (UnderSeal σ config) (callWith perform) (callWith perform) := by
  intro w v h i x
  unfold callWith
  rcases h.sink_cases i with ⟨hw, hv⟩ | ⟨s, hw, hv⟩
  · rw [hw, hv]
    exact ⟨rfl, h⟩
  · have heard := h.hear i s x
    have next : ((s.sealed σ).listener.next x).1 = (s.listener.next x).1.map fun r =>
        (r.1, Operation.reactionSealed σ r.2) := congrArg Prod.fst (s.listener.next_sealed σ x)
    rw [hw, hv]
    dsimp only
    rw [next]
    cases (s.listener.next x).1 with
    | none => exact ⟨rfl, heard⟩
    | some reaction =>
      obtain ⟨label, calls, panics⟩ := reaction
      dsimp only [Option.map_some]
      rw [Operation.reactionSealed]
      exact ⟨rfl, heard.react hp i label calls⟩

/-- Operations nested up to a depth, by induction on it. -/
theorem perform (depth : Nat) (h : UnderSeal σ config w v) (op : Operation) :
    Agree (UnderSeal σ config) (Desk.perform depth op w) (Desk.perform depth (op.sealed σ) v) := by
  induction depth generalizing w v op with
  | zero => exact ⟨rfl, h⟩
  | succ depth ih => exact h.run hσ (callers fun h op => ih h op) op

/-- **An operation with all that it sets off** answers the same under the seal. -/
theorem exec (op : Operation) (h : UnderSeal σ config w v) :
    Agree (UnderSeal σ config) (op.exec w) ((op.sealed σ).exec v) := by
  have budget : v.budget = w.budget := by
    unfold Desk.budget
    rw [h.line]
    exact w.line.weight_sealed σ
  unfold Operation.exec Desk.caller
  rw [budget, op.weight_sealed]
  exact h.run hσ (callers fun h op => h.perform hσ _ op) op

/-- A run, by induction on its operations. -/
theorem execAll (ops : List Operation) (h : UnderSeal σ config w v) :
    Agree (UnderSeal σ config) (Operation.execAll ops w)
      (Operation.execAll (ops.map (Operation.sealed σ)) v) := by
  induction ops generalizing w v with
  | nil => exact ⟨rfl, h⟩
  | cons op rest ih =>
    obtain ⟨answer, desk⟩ := h.exec hσ op
    obtain ⟨answers, run⟩ := ih desk
    exact ⟨congrArg₂ List.cons answer answers, run⟩

end

end Desk.UnderSeal

end Correlator
