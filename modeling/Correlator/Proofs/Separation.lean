/-
  Correlator.Proofs.Separation — WORK THAT STAYS ON ITS CONNECTION.

  All lines share the barrier, the names in use, the count of sinks and the
  trail.  Work stays on a connection if the names and the handles that it uses
  belong there.  Such work leaves every other connection as it is, and what it
  does on its own depends on the own line and the own names alone.  What others
  have done shows in the numbers of new sinks and in how far the startup has
  come, and nowhere else.

  Main results:
    * `Operation.StaysOn` — the names and the handles belong to the connection,
    * `Shared.seen` — what has happened on a connection,
    * `Desk.Inside` — what work on a connection leaves alone,
    * `Desk.Abreast.unison` — the same work on two desks.
-/
import Correlator.Proofs.Outcomes
import Correlator.Proofs.Readiness
namespace Correlator

/-! ## §1. What stays on a connection -/

/-- The handle leads to a sink of the connection, given to which connection each name belongs. -/
def Handle.StaysOn (owner : String → ConnectionId) (c : ConnectionId) : Handle → Prop
  | named name => owner name = c
  | sink ref => ref.connection = c

/-- The operation uses no name and no handle of another connection. -/
def Operation.StaysOn (owner : String → ConnectionId) (c : ConnectionId) : Operation → Prop
  | register name _ _ => owner name = c
  | subscribe name _ => owner name = c
  | dispose handle => handle.StaysOn owner c
  | isActive handle => handle.StaysOn owner c
  | _ => True

theorem Operation.StaysOn.enters {owner : String → ConnectionId} {c : ConnectionId}
    {op : Operation} {name : String} (h : op.StaysOn owner c) (hn : op.enters? = some name) :
    owner name = c := by
  cases op with
  | register => cases hn; exact h
  | subscribe => cases hn; exact h
  | _ => cases hn

/-! ## §2. What has happened on a connection -/

/-- How far the startup has come is noted. -/
def Event.isStartup : Event → Bool
  | .noted .barrierArrival => true
  | .noted .allReady => true
  | _ => false

/-- Something happened on the connection.  How far the startup has come is no matter of one
connection. -/
def Moment.happenedOn (c : ConnectionId) (x : Moment) : Bool :=
  (x.standing? c).isSome && !x.event.isStartup

/-- What has happened on a connection, in order. -/
def Shared.seen (c : ConnectionId) (s : Shared) : List Moment :=
  s.history.filter (Moment.happenedOn c)

theorem Moment.happenedOn_some {c : ConnectionId} {e : Event} {l : Line} :
    happenedOn c ⟨e, some l⟩ = (decide (l.id = c) && !e.isStartup) := by
  unfold happenedOn standing?
  rw [Option.filter_some]
  by_cases h : l.id = c <;> simp [h]

namespace Shared

theorem seen_add (c : ConnectionId) (x : Moment) (s : Shared) :
    (s.add x).seen c = s.seen c ++ if x.happenedOn c then [x] else [] := by
  unfold seen
  rw [history_add, List.filter_append]
  cases h : x.happenedOn c <;> simp [h]

theorem seen_add_of_not {c : ConnectionId} {x : Moment} (h : x.happenedOn c = false) (s : Shared) :
    (s.add x).seen c = s.seen c := by
  rw [seen_add, h]
  exact List.append_nil _

/-- What is noted of the startup is not seen. -/
theorem seen_notes {ns : List Notice} (hn : ∀ n ∈ ns, (Event.noted n).isStartup = true)
    (standing : Option Line) (c : ConnectionId) (s : Shared) :
    (s.notes standing ns).seen c = s.seen c ∧ (s.notes standing ns).names = s.names := by
  induction ns generalizing s with
  | nil => exact ⟨rfl, rfl⟩
  | cons n ns ih =>
    obtain ⟨seen, names⟩ :=
      ih (fun m hm => hn m (List.mem_cons_of_mem _ hm)) (s.add ⟨.noted n, standing⟩)
    have startup : (Event.noted n).isStartup = true := hn n List.mem_cons_self
    refine ⟨seen.trans (seen_add_of_not ?_ s), names⟩
    simp [Moment.happenedOn, startup]

/-- Whether the barrier counts an event shows in the barrier and in nothing else that is seen. -/
theorem seen_arrive (standing : Option Line) (d : ConnectionId) (e : Readiness)
    (c : ConnectionId) (s : Shared) : (s.arrive standing d e).2.seen c = s.seen c ∧
      (s.arrive standing d e).2.names = s.names := by
  refine seen_notes ?_ standing c { s with barrier := (s.barrier.arrive d e).2 }
  intro n hn
  unfold Barrier.arrivalNotices at hn
  split at hn
  · split at hn
    · simp only [List.mem_cons, List.not_mem_nil, or_false] at hn
      rcases hn with rfl | rfl <;> rfl
    · rw [List.mem_singleton.mp hn]
      rfl
  · cases hn

end Shared

/-! ## §3. Numbers that are told -/

/-- What is told of a sink fits the numbers of the line by their places: the number is that of the
sink, or there is no such sink. -/
def Enrolment.TrueOn (ns : List Nat) (e : Enrolment) : Prop :=
  e.number = 0 ∨ ns[e.sink.place]? = some e.number

/-- The sink that is told of when an operation has been answered. -/
def Event.enrolment? : Event → Option Enrolment
  | .answered _ _ _ (.enrolled e) => some e
  | _ => none

/-- A moment fits the numbers of the line as it is now: the line that it shows had the first of
them, and so does what it tells. -/
structure Moment.TrueOn (ns : List Nat) (x : Moment) : Prop where
  line : ∀ l, x.line = some l → l.numbers <+: ns
  told : ∀ e, x.event.enrolment? = some e → e.TrueOn ns

theorem Enrolment.TrueOn.mono {ns ms : List Nat} {e : Enrolment} (h : e.TrueOn ns)
    (hns : ns <+: ms) : e.TrueOn ms := by
  obtain ⟨more, rfl⟩ := hns
  refine h.imp_right fun h => ?_
  rw [List.getElem?_append_left (List.getElem?_eq_some_iff.mp h).1]
  exact h

theorem Moment.TrueOn.mono {ns ms : List Nat} {x : Moment} (h : x.TrueOn ns) (hns : ns <+: ms) :
    x.TrueOn ms :=
  ⟨fun l hl => (h.line l hl).trans hns, fun e he => (h.told e he).mono hns⟩

/-- A sink of the line in hand is told of by its number. -/
theorem Desk.Holds.enrolment_trueOn {c : ConnectionId} {w : Desk} (h : w.Holds c) {s : SinkRef}
    (hs : s.connection = c) : (w.enrolment s).TrueOn w.line.numbers := by
  have found : w.sinkAt? s = w.sink? s.place := by
    rw [← h.sinkAt?, ← hs]
  unfold Desk.enrolment
  rw [found]
  cases hk : w.sink? s.place with
  | none => exact .inl rfl
  | some k =>
    refine .inr ?_
    show (w.line.mux.sinks.map Sink.number)[s.place]? = some k.number
    rw [List.getElem?_map, show w.line.mux.sinks[s.place]? = some k from hk]
    rfl

/-! ## §4. What work on a connection leaves alone -/

/-- What work on a connection comes to that stays there: the other lines, the names of others and
what has happened elsewhere are as they were, and what the connection has been told is right. -/
structure Desk.Inside (owner : String → ConnectionId) (c : ConnectionId) (w v : Desk) : Prop where
  holds : v.Holds c
  before : v.before = w.before
  after : v.after = w.after
  obeys : v.Obeys (Operation.StaysOn owner c)
  names : ∀ n, owner n ≠ c →
    Directory.find? n v.shared.names = Directory.find? n w.shared.names
  own : ∀ n x, owner n = c → Directory.find? n v.shared.names = some x → x.sink.connection = c
  seen : ∀ d, d ≠ c → v.shared.seen d = w.shared.seen d
  grows : w.line.numbers <+: v.line.numbers
  positive : 0 ∉ v.line.numbers
  told : ∀ x ∈ v.shared.seen c, x.TrueOn v.line.numbers

namespace Desk.Inside

variable {owner : String → ConnectionId} {c : ConnectionId} {w v : Desk}

/-- Something happens on the line in hand, or on none. -/
theorem add (h : Inside owner c w v) {x : Moment} (hl : ∀ l, x.line = some l → l = v.line)
    (ht : ∀ e, x.event.enrolment? = some e → e.TrueOn v.line.numbers) :
    Inside owner c w (v.mapShared fun s => s.add x) where
  holds := h.holds.of_ids rfl rfl
  before := h.before
  after := h.after
  obeys := h.obeys
  names := h.names
  own := h.own
  seen d hd := by
    refine (Shared.seen_add_of_not ?_ v.shared).trans (h.seen d hd)
    unfold Moment.happenedOn Moment.standing?
    cases hx : x.line with
    | none => rfl
    | some l =>
      rw [hl l hx, Option.filter_some, h.holds.line]
      simp [Ne.symm hd]
  grows := h.grows
  positive := h.positive
  told y hy := by
    have hy : y ∈ (v.shared.add x).seen c := hy
    rw [Shared.seen_add] at hy
    rcases List.mem_append.mp hy with hy | hy
    · exact h.told y hy
    · have : y = x := by
        split at hy
        · exact List.mem_singleton.mp hy
        · cases hy
      subst this
      refine ⟨fun l hx => ?_, ht⟩
      rw [hl l hx]
      exact List.prefix_rfl

theorem record (h : Inside owner c w v) {e : Event}
    (ht : ∀ e', e.enrolment? = some e' → e'.TrueOn v.line.numbers) :
    Inside owner c w (v.record e) := h.add (fun _ hl => (Option.some.inj hl).symm) ht

/-- A change of the line in hand that does not look at numbers. -/
theorem mapLine (h : Inside owner c w v) {f : Nat → Nat} {g : Line → Line} (hg : Line.Blind f g) :
    Inside owner c w (v.mapLine g) where
  holds := h.holds.of_ids rfl (congrArg ConnectionConfig.id (hg.config v.line))
  before := h.before
  after := h.after
  obeys s hs op hop := by
    obtain ⟨k, hk, within⟩ := hg.within v.line s hs
    exact h.obeys k hk op (within hop)
  names := h.names
  own := h.own
  seen := h.seen
  grows := by
    rw [line_mapLine, hg.numbers]
    exact h.grows
  positive := by
    rw [line_mapLine, hg.numbers]
    exact h.positive
  told := by
    rw [line_mapLine, hg.numbers]
    exact h.told

theorem numbers_seat (rule : Rule) (listener : Listener) (v : Desk) :
    (v.seat rule listener).line.numbers = v.line.numbers ++ [v.shared.issued + 1] := by
  unfold Line.numbers
  rw [sinks_seat, List.map_append]
  rfl

/-- A new sink gets the next number of all. -/
theorem seat (h : Inside owner c w v) (rule : Rule) {listener : Listener}
    (hl : ∀ op ∈ listener.within, op.StaysOn owner c) :
    Inside owner c w (v.seat rule listener) where
  holds := h.holds.of_ids rfl rfl
  before := h.before
  after := h.after
  obeys := h.obeys.seat rule hl
  names := h.names
  own := h.own
  seen := h.seen
  grows := by
    rw [numbers_seat]
    exact h.grows.trans (List.prefix_append _ _)
  positive := by
    rw [numbers_seat]
    have := h.positive
    simp [this]
  told x hx := by
    rw [numbers_seat]
    exact (h.told x hx).mono (List.prefix_append _ _)

/-- A name of the connection is entered for one of its sinks. -/
theorem setNames (h : Inside owner c w v) {name : String} (hn : owner name = c) (i : Nat)
    (r : Reader) : Inside owner c w
      (v.mapShared fun s => { s with names := Directory.enter name ⟨⟨c, i⟩, r⟩ s.names }) where
  holds := h.holds.of_ids rfl rfl
  before := h.before
  after := h.after
  obeys := h.obeys
  names n hother := by
    have apart : n ≠ name := fun heq => hother (by rw [heq, hn])
    exact (Directory.find?_enter_of_ne _ _ apart).trans (h.names n hother)
  own n x howner hx := by
    have hx : Directory.find? n (Directory.enter name ⟨⟨c, i⟩, r⟩ v.shared.names) = some x := hx
    by_cases heq : n = name
    · rw [heq, Directory.find?_enter_self] at hx
      cases hx
      rfl
    · rw [Directory.find?_enter_of_ne _ _ heq] at hx
      exact h.own n x howner hx
  seen := h.seen
  grows := h.grows
  positive := h.positive
  told := h.told

/-- The barrier hears of the connection. -/
theorem arrive (h : Inside owner c w v) (e : Readiness) : Inside owner c w (v.arrive e) := by
  have arrived := v.shared.seen_arrive (some v.line) v.line.id e
  constructor
  case holds => exact h.holds.of_ids rfl rfl
  case before => exact h.before
  case after => exact h.after
  case obeys => exact h.obeys
  case names =>
    intro n hn
    exact (congrArg (Directory.find? n) (arrived c).2).trans (h.names n hn)
  case own =>
    intro n x hn hx
    exact h.own n x hn ((congrArg (Directory.find? n) (arrived c).2).symm.trans hx)
  case seen => exact fun d hd => (arrived d).1.trans (h.seen d hd)
  case grows => exact h.grows
  case positive => exact h.positive
  case told =>
    intro x hx
    have hx : x ∈ (v.shared.arrive (some v.line) v.line.id e).2.seen c := hx
    rw [(arrived c).1] at hx
    exact h.told x hx

end Desk.Inside

/-! ## §5. Disposals on the line in hand -/

namespace Line

variable {f : Nat → Nat}

/-- One change after another. -/
theorem Blind.comp {g h : Line → Line} (hg : Line.Blind f g) (hh : Line.Blind f h) :
    Line.Blind f fun l => h (g l) where
  alike same := hh.alike (hg.alike same)
  config l := (hh.config (g l)).trans (hg.config l)
  numbers l := (hh.numbers (g l)).trans (hg.numbers l)
  within l s hs := by
    obtain ⟨k, hk, outer⟩ := hh.within (g l) s hs
    obtain ⟨m, hm, inner⟩ := hg.within l k hk
    exact ⟨m, hm, List.Subset.trans outer inner⟩

theorem blind_disposeAt (i : Nat) : Line.Blind f fun l => (l.disposeAt i).2 := by
  have phase : Line.Blind f fun l => l.mapMux fun x =>
      x.mapSink i fun s => if s.isActive then { s with phase := .disposed } else s := by
    refine .mapSink i (fun s => ?_) (fun s => ?_) fun s => ?_
    · show Sink.renumber f (if s.isActive then _ else _) = if s.isActive then _ else _
      split <;> rfl
    · split <;> rfl
    · split <;> exact List.Subset.refl _
  have active : Line.Blind f fun l => l.mapMux fun x =>
      { x with active := if x.released then x.active else x.active.filter (· ≠ i) } :=
    .mapMux fun _ _ => rfl
  have struck := phase.comp active
  have same : (fun l : Line => (l.disposeAt i).2) = _ := funext (snd_disposeAt i)
  rw [same]
  exact struck

/-- Whether a disposal changes anything does not depend on numbers. -/
theorem Alike.changed_disposeAt {l k : Line} (h : Line.Alike f l k) (i : Nat) :
    (k.disposeAt i).1 = (l.disposeAt i).1 := by
  refine h.of_renumber (fun m => (m.disposeAt i).1) fun m => ?_
  have active : (m.renumber f).isActiveAt i = m.isActiveAt i := by
    unfold isActiveAt
    rw [sink?_renumber]
    cases m.sink? i <;> rfl
  unfold disposeAt
  rw [active]
  show (if m.mux.released then _ else _ : Bool × Line).1 = _
  split <;> rfl

end Line

/-- A sink of the line in hand is disposed there. -/
theorem Desk.dispose_own {s : SinkRef} {w : Desk} (h : w.line.id = s.connection) :
    w.dispose s = ((w.line.disposeAt s.place).1,
      (if (w.line.disposeAt s.place).1 = true ∧ w.line.mux.released = false then
        (w.mapLine fun l => (l.disposeAt s.place).2).note .sinkDisposed
      else w.mapLine fun l => (l.disposeAt s.place).2).record
        (.disposed s (w.line.disposeAt s.place).1)) := by
  unfold dispose strike
  rw [if_pos h]
  dsimp only
  by_cases changed : (w.line.disposeAt s.place).1 = true
  · unfold noteDisposal
    rw [if_pos changed, Line.released_disposeAt]
    cases released : w.line.mux.released with
    | true => simp [changed, mapLine]
    | false => simp [changed, mapLine, note, record]
  · rw [if_neg changed, if_neg fun h => changed h.1]
    rfl

/-! ## §6. The same work on two desks -/

/-- All numbers look the same but zero, which is the number of no sink. -/
def Line.blur (n : Nat) : Nat := min n 1

/-- Two desks that began apart and have been given the same work on a connection: each has stayed
there, and on the connection they are the same but for numbers. -/
structure Desk.Abreast (owner : String → ConnectionId) (c : ConnectionId) (w₀ v₀ w v : Desk) :
    Prop where
  left : Desk.Inside owner c w₀ w
  right : Desk.Inside owner c v₀ v
  line : Line.Alike Line.blur w.line v.line
  names : ∀ n, owner n = c → Directory.find? n v.shared.names = Directory.find? n w.shared.names
  seen : (v.shared.seen c).map (Moment.renumber Line.blur) =
    (w.shared.seen c).map (Moment.renumber Line.blur)

namespace Desk.Abreast

variable {owner : String → ConnectionId} {c : ConnectionId} {w₀ v₀ w v : Desk}

/-- One desk in both places. -/
theorem refl (h : Inside owner c w₀ w) : Abreast owner c w₀ w₀ w w :=
  ⟨h, h, .refl _ _, fun _ _ => rfl, rfl⟩

/-- What is seen grows by moments that are the same but for numbers. -/
theorem seen_add (h : Abreast owner c w₀ v₀ w v) {x y : Moment}
    (hxy : y.renumber Line.blur = x.renumber Line.blur)
    (hc : y.happenedOn c = x.happenedOn c) :
    ((v.shared.add y).seen c).map (Moment.renumber Line.blur) =
      ((w.shared.add x).seen c).map (Moment.renumber Line.blur) := by
  rw [Shared.seen_add, Shared.seen_add, List.map_append, List.map_append, h.seen, hc]
  split
  · rw [List.map_singleton, List.map_singleton, hxy]
  · rfl

/-- Events of the line in hand that are the same but for numbers. -/
theorem record (h : Abreast owner c w₀ v₀ w v) {e e' : Event}
    (he : e'.renumber Line.blur = e.renumber Line.blur) (hs : e'.isStartup = e.isStartup)
    (hw : ∀ x, e.enrolment? = some x → x.TrueOn w.line.numbers)
    (hv : ∀ x, e'.enrolment? = some x → x.TrueOn v.line.numbers) :
    Abreast owner c w₀ v₀ (w.record e) (v.record e') where
  left := h.left.record hw
  right := h.right.record hv
  line := h.line
  names := h.names
  seen := by
    refine h.seen_add ?_ ?_
    · show (⟨e'.renumber _, some (v.line.renumber _)⟩ : Moment) = ⟨e.renumber _, some (w.line.renumber _)⟩
      rw [he, h.line]
    · rw [Moment.happenedOn_some, Moment.happenedOn_some, h.line.id, hs]

/-- An event that tells of no sink. -/
theorem note (h : Abreast owner c w₀ v₀ w v) {e : Event} (he : e.enrolment? = none) :
    Abreast owner c w₀ v₀ (w.record e) (v.record e) :=
  h.record rfl rfl (by simp [he]) (by simp [he])

theorem mapLine (h : Abreast owner c w₀ v₀ w v) {g : Line → Line} (hg : Line.Blind Line.blur g) :
    Abreast owner c w₀ v₀ (w.mapLine g) (v.mapLine g) :=
  ⟨h.left.mapLine hg, h.right.mapLine hg, hg.alike h.line, h.names, h.seen⟩

theorem setState (h : Abreast owner c w₀ v₀ w v) (s : ConnectionState) :
    Abreast owner c w₀ v₀ (w.setState s) (v.setState s) :=
  h.mapLine (.of_sinks (fun _ => rfl) (fun _ => rfl) fun _ => rfl)

theorem seat (h : Abreast owner c w₀ v₀ w v) (rule : Rule) {listener : Listener}
    (hl : ∀ op ∈ listener.within, op.StaysOn owner c) :
    Abreast owner c w₀ v₀ (w.seat rule listener) (v.seat rule listener) where
  left := h.left.seat rule hl
  right := h.right.seat rule hl
  line := by
    refine h.line.concat ?_
    -- Whatever the next number is, it is not zero.
    show (⟨min (v.shared.issued + 1) 1, rule, .active, listener⟩ : Sink) =
      ⟨min (w.shared.issued + 1) 1, rule, .active, listener⟩
    rw [Nat.min_eq_right (Nat.le_add_left 1 _), Nat.min_eq_right (Nat.le_add_left 1 _)]
  names := h.names
  seen := h.seen

theorem setNames (h : Abreast owner c w₀ v₀ w v) {name : String} (hn : owner name = c) (i : Nat)
    (r : Reader) : Abreast owner c w₀ v₀
      (w.mapShared fun s => { s with names := Directory.enter name ⟨⟨c, i⟩, r⟩ s.names })
      (v.mapShared fun s => { s with names := Directory.enter name ⟨⟨c, i⟩, r⟩ s.names }) where
  left := h.left.setNames hn i r
  right := h.right.setNames hn i r
  line := h.line
  names n howner := by
    show Directory.find? n (Directory.enter name _ v.shared.names) =
      Directory.find? n (Directory.enter name _ w.shared.names)
    by_cases heq : n = name
    · rw [heq, Directory.find?_enter_self, Directory.find?_enter_self]
    · rw [Directory.find?_enter_of_ne _ _ heq, Directory.find?_enter_of_ne _ _ heq]
      exact h.names n howner
  seen := h.seen

theorem arrive (h : Abreast owner c w₀ v₀ w v) (e : Readiness) :
    Abreast owner c w₀ v₀ (w.arrive e) (v.arrive e) := by
  obtain ⟨seenW, namesW⟩ := w.shared.seen_arrive (some w.line) w.line.id e c
  obtain ⟨seenV, namesV⟩ := v.shared.seen_arrive (some v.line) v.line.id e c
  refine ⟨h.left.arrive e, h.right.arrive e, h.line, fun n hn => ?_, ?_⟩
  · show Directory.find? n (v.shared.arrive _ _ e).2.names =
      Directory.find? n (w.shared.arrive _ _ e).2.names
    rw [namesW, namesV]
    exact h.names n hn
  · show ((v.shared.arrive _ _ e).2.seen c).map _ = ((w.shared.arrive _ _ e).2.seen c).map _
    rw [seenW, seenV]
    exact h.seen

/-- A sink of the connection is disposed on both desks. -/
theorem dispose (h : Abreast owner c w₀ v₀ w v) (i : Nat) :
    Desk.Agree (Abreast owner c w₀ v₀) (w.dispose ⟨c, i⟩) (v.dispose ⟨c, i⟩) := by
  have struck := h.mapLine (Line.blind_disposeAt i)
  rw [Desk.dispose_own (s := ⟨c, i⟩) h.left.holds.line,
    Desk.dispose_own (s := ⟨c, i⟩) h.right.holds.line, h.line.changed_disposeAt i, h.line.released]
  -- If a notice is left, it is left on both desks, and shows the lines after the disposal.
  refine ⟨rfl, Abreast.note ?_ rfl⟩
  split
  · exact struck.note rfl
  · exact struck

/-- A name of the connection leads to a sink there, the same on both desks, or to none. -/
theorem resolve (h : Abreast owner c w₀ v₀ w v) {handle : Handle} (hs : handle.StaysOn owner c) :
    (w.resolve? handle = none ∧ v.resolve? handle = none) ∨
      ∃ i, w.resolve? handle = some ⟨c, i⟩ ∧ v.resolve? handle = some ⟨c, i⟩ := by
  cases handle with
  | sink ref =>
    obtain ⟨d, i⟩ := ref
    obtain rfl : d = c := hs
    exact .inr ⟨i, rfl, rfl⟩
  | named name =>
    unfold Desk.resolve?
    dsimp only
    rw [h.names name hs]
    cases hx : Directory.find? name w.shared.names with
    | none => exact .inl ⟨rfl, rfl⟩
    | some x =>
      have own : x.sink.connection = c := h.left.own name x hs hx
      exact .inr ⟨x.sink.place, by rw [← own]; exact ⟨rfl, rfl⟩⟩

theorem enter (h : Abreast owner c w₀ v₀ w v) {name : String} (hn : owner name = c) (i : Nat)
    (r : Reader) :
    Abreast owner c w₀ v₀ (w.enter name ⟨⟨c, i⟩, r⟩) (v.enter name ⟨⟨c, i⟩, r⟩) := by
  have entered := h.setNames hn i r
  unfold Desk.enter
  dsimp only
  rw [h.names name hn]
  cases ho : Directory.find? name w.shared.names with
  | none => exact entered
  | some old =>
    obtain ⟨⟨d, j⟩, reader⟩ := old
    -- The earlier entry is one of the connection too.
    obtain rfl : d = c := h.left.own name _ hn ho
    unfold Desk.giveUp
    cases reader with
    | absent => exact entered
    | idle => exact (entered.dispose j).desk
    | waiting => exact (entered.dispose j).desk

theorem check (h : Abreast owner c w₀ v₀ w v) (next : ConnectionState) :
    Desk.Agree (Abreast owner c w₀ v₀) (w.check next) (v.check next) := by
  unfold Desk.check
  rw [h.line.id, h.line.state]
  split
  · exact ⟨rfl, h.note rfl⟩
  · refine ⟨rfl, ?_⟩
    split
    · exact h
    · exact h.note rfl

theorem create (h : Abreast owner c w₀ v₀ w v) :
    Desk.Agree (Abreast owner c w₀ v₀) w.create v.create := by
  obtain ⟨same, checked⟩ := h.check .created
  unfold Desk.create
  generalize w.check .created = r at same checked
  generalize v.check .created = r' at same checked
  obtain ⟨x, w'⟩ := r
  obtain ⟨x', v'⟩ := r'
  obtain rfl : x' = x := same
  cases x' with
  | error e => exact ⟨rfl, checked⟩
  | ok _ => exact ⟨rfl, ((checked.setState .created).note rfl).arrive .created⟩

theorem resume (h : Abreast owner c w₀ v₀ w v) : Abreast owner c w₀ v₀ w.resume v.resume := by
  unfold Desk.resume
  rw [h.line.dropRecord]
  split
  · exact h
  · exact (h.mapLine (.mapMux fun _ _ => rfl)).note rfl

theorem establish (h : Abreast owner c w₀ v₀ w v) :
    Desk.Agree (Abreast owner c w₀ v₀) w.establish v.establish := by
  obtain ⟨same, checked⟩ := h.check .established
  unfold Desk.establish
  generalize w.check .established = r at same checked
  generalize v.check .established = r' at same checked
  obtain ⟨x, w'⟩ := r
  obtain ⟨x', v'⟩ := r'
  obtain rfl : x' = x := same
  cases x' with
  | error e => exact ⟨rfl, checked⟩
  | ok _ =>
    have forgotten := (checked.resume.setState .established).mapLine
      (g := fun l => { l with logoutText := none })
      (.of_sinks (fun _ => rfl) (fun _ => rfl) fun _ => rfl)
    exact ⟨rfl, (forgotten.note rfl).arrive .established⟩

theorem isActive (h : Abreast owner c w₀ v₀ w v) (i : Nat) :
    v.isActive ⟨c, i⟩ = w.isActive ⟨c, i⟩ := by
  unfold Desk.isActive
  rw [h.left.holds.sinkAt?, h.right.holds.sinkAt?]
  unfold Desk.sink?
  rcases h.line.sink_cases i with ⟨hw, hv⟩ | ⟨s, n, hw, hv, -⟩ <;> rw [hw, hv]
  rfl

/-- A notice that concerns no line. -/
theorem remark (h : Abreast owner c w₀ v₀ w v) (n : Notice) :
    Abreast owner c w₀ v₀ (w.remark n) (v.remark n) where
  left := h.left.add (fun _ hl => nomatch hl) (fun _ he => nomatch he)
  right := h.right.add (fun _ hl => nomatch hl) (fun _ he => nomatch he)
  line := h.line
  names := h.names
  seen := h.seen_add rfl rfl

/-- **Work that stays on a connection comes to the same there on both desks**, and leaves the rest
of each alone. -/
theorem unison (owner : String → ConnectionId) (c : ConnectionId) (w₀ v₀ : Desk) :
    Desk.Unison c Line.blur (Operation.StaysOn owner c) (Abreast owner c w₀ v₀) where
  holds h := ⟨h.left.holds, h.right.holds⟩
  line h := h.line
  obeys h := h.left.obeys
  record {w v} h e he := by
    -- Only an answer tells of a sink, and an answer is not plain.
    refine h.note ?_
    cases e with
    | answered => cases he
    | _ => rfl
  answered {w v} h i label op a b hab ha hb := by
    have told : ∀ {u : Desk} {x : Answer}, u.Holds c → x.TrueOn u →
        ∀ e, (Event.answered i label op x).enrolment? = some e → e.TrueOn u.line.numbers := by
      intro u x hu hx e he
      cases x with
      | enrolled e' =>
        obtain rfl : e' = e := Option.some.inj he
        obtain ⟨same, own⟩ := hx e' rfl
        have shown := hu.enrolment_trueOn (own.trans hu.line)
        rw [same] at shown
        exact shown
      | _ => cases he
    exact h.record (congrArg (Event.answered i label op) hab) rfl (told h.left.holds ha)
      (told h.right.holds hb)
  mapLine h _ hg := h.mapLine hg
  seat h rule _ hl := h.seat rule hl
  enter h _ _ hop hn i r := h.enter (hop.enters hn) i r
  setReader h _ _ hop hn i r := h.setNames (hop.enters hn) i r
  remark h n := h.remark n
  outward {w v} h op hop hout call call' := by
    cases op with
    | dispose handle =>
      unfold Operation.run
      dsimp only
      rcases h.resolve hop with ⟨hw, hv⟩ | ⟨i, hw, hv⟩ <;> rw [hw, hv]
      · exact ⟨rfl, h⟩
      · exact (h.dispose i).map Answer.flag
    | isActive handle =>
      unfold Operation.run
      dsimp only
      rcases h.resolve hop with ⟨hw, hv⟩ | ⟨i, hw, hv⟩ <;> rw [hw, hv]
      · exact ⟨rfl, h⟩
      · exact ⟨congrArg Answer.flag (h.isActive i), h⟩
    | create => exact h.create.map Answer.outcome
    | establish => exact h.establish.map Answer.outcome
    | _ => cases hout

end Desk.Abreast

end Correlator
