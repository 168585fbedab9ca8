/-
  Correlator.Proofs.Signals — CALLBACKS AND DISPOSALS AS THE WORDS OF AN AUTOMATON.

  The callbacks to a sink and the disposals of it, in the order in which they
  start and return, are its signals.  An automaton over the phases reads them:
  the phase admits a signal or it does not.  The words that lead somewhere are
  messages, then at most one signal that ends the sink, then vain disposals;
  what a history says of callbacks and of disposals is read off its word.

  Main results:
    * `Phase.after`, `Phase.through` — the automaton,
    * `Phase.through_active`, `Phase.through_disposal` — its words,
    * `History.signalsAt` — the word of a sink in a history.
-/
import Correlator.Proofs.Frame
namespace Correlator

/-! ## §1. The automaton -/

/-- A callback to a sink, or a disposal of it with its answer. -/
inductive Signal where
  | call (c : Call)
  | disposal (changed : Bool)

namespace Signal

/-- The callback, if the signal is one. -/
def call? : Signal → Option Call
  | call c => some c
  | disposal _ => none

@[simp] theorem call?_call (c : Call) : (call c).call? = some c := rfl

@[simp] theorem call?_disposal (b : Bool) : (disposal b).call? = none := rfl

/-- The answer of the disposal, if the signal is one. -/
def disposal? : Signal → Option Bool
  | call _ => none
  | disposal b => some b

/-- The signal is the callback of a message. -/
def IsMessage (s : Signal) : Prop := ∃ m, s = .call (.message m)

end Signal

namespace Phase

/-- The phase after a signal, if the phase admits it. -/
def after : Phase → Signal → Option Phase
  | active, .call (.message _) => some active
  | active, .call (.error _) => some terminated
  | active, .call .closed => some disposed
  | active, .disposal true => some disposed
  | terminated, .disposal false => some terminated
  | disposed, .disposal false => some disposed
  | _, _ => none

/-- The phase after several signals, if each of them is admitted. -/
def through : Phase → List Signal → Option Phase
  | p, [] => some p
  | p, s :: rest => (p.after s).bind fun q => q.through rest

theorem through_cons {p q : Phase} {s : Signal} {rest : List Signal} :
    p.through (s :: rest) = some q ↔ ∃ r, p.after s = some r ∧ r.through rest = some q := by
  show ((p.after s).bind fun r => r.through rest) = some q ↔ _
  exact Option.bind_eq_some_iff

theorem through_append {p q : Phase} {a b : List Signal} :
    p.through (a ++ b) = some q ↔ ∃ r, p.through a = some r ∧ r.through b = some q := by
  induction a generalizing p with
  | nil => simp [through]
  | cons s a ih =>
    rw [List.cons_append, through_cons]
    constructor
    · rintro ⟨r, hr, h⟩
      obtain ⟨t, ht, hb⟩ := ih.mp h
      exact ⟨t, through_cons.mpr ⟨r, hr, ht⟩, hb⟩
    · rintro ⟨t, h, hb⟩
      obtain ⟨r, hr, ht⟩ := through_cons.mp h
      exact ⟨r, hr, ih.mpr ⟨t, ht, hb⟩⟩

/-- A sink that has left its active phase admits vain disposals only, and keeps its phase. -/
theorem after_of_ended {p q : Phase} {s : Signal} (hp : p ≠ active) (h : p.after s = some q) :
    q = p ∧ s = .disposal false := by
  cases p with
  | active => exact absurd rfl hp
  | terminated =>
    rcases s with c | b
    · cases h
    · cases b <;> cases h
      exact ⟨rfl, rfl⟩
  | disposed =>
    rcases s with c | b
    · cases h
    · cases b <;> cases h
      exact ⟨rfl, rfl⟩

theorem through_of_ended {p q : Phase} {z : List Signal} (hp : p ≠ active)
    (h : p.through z = some q) : q = p ∧ ∀ s ∈ z, s = .disposal false := by
  induction z with
  | nil => exact ⟨(Option.some.inj h).symm, by simp⟩
  | cons s z ih =>
    obtain ⟨r, hr, hz⟩ := through_cons.mp h
    obtain ⟨rfl, hs⟩ := after_of_ended hp hr
    obtain ⟨hq, hall⟩ := ih hz
    exact ⟨hq, List.forall_mem_cons.mpr ⟨hs, hall⟩⟩

/-- What ends a sink, with the phase that it ends in. -/
inductive Ends : Signal → Phase → Prop
  | error (d : ConnectionDropped) : Ends (.call (.error d)) terminated
  | closed : Ends (.call .closed) disposed
  | disposal : Ends (.disposal true) disposed

theorem Ends.ne_active {s : Signal} {p : Phase} (h : Ends s p) : p ≠ active := by
  cases h <;> decide

/-- An active sink admits messages, and what ends it. -/
theorem after_of_active {q : Phase} {s : Signal} (h : active.after s = some q) :
    (q = active ∧ s.IsMessage) ∨ Ends s q := by
  rcases s with (m | d | _) | (_ | _)
  · cases h
    exact .inl ⟨rfl, m, rfl⟩
  · cases h
    exact .inr (.error d)
  · cases h
    exact .inr .closed
  · cases h
  · cases h
    exact .inr .disposal

/-- **The words that the automaton accepts**: messages, and then perhaps a signal that ends the
sink and vain disposals. -/
theorem through_active {q : Phase} {z : List Signal} (h : active.through z = some q) :
    (q = active ∧ ∀ s ∈ z, s.IsMessage) ∨
    ∃ a e b, z = a ++ e :: b ∧ (∀ s ∈ a, s.IsMessage) ∧ Ends e q ∧ ∀ s ∈ b, s = .disposal false := by
  induction z with
  | nil => exact .inl ⟨(Option.some.inj h).symm, by simp⟩
  | cons s z ih =>
    obtain ⟨r, hr, hz⟩ := through_cons.mp h
    rcases after_of_active hr with ⟨rfl, hs⟩ | hs
    · -- The sink is still active after a message, and the rest is a word from there.
      rcases ih hz with ⟨hq, hall⟩ | ⟨a, e, b, rfl, ha, he, hb⟩
      · exact .inl ⟨hq, List.forall_mem_cons.mpr ⟨hs, hall⟩⟩
      · exact .inr ⟨s :: a, e, b, rfl, List.forall_mem_cons.mpr ⟨hs, ha⟩, he, hb⟩
    · -- It has ended, and only vain disposals are left.
      obtain ⟨rfl, hall⟩ := through_of_ended hs.ne_active hz
      exact .inr ⟨[], s, z, rfl, by simp, hs, hall⟩

/-- Around a disposal: only vain disposals follow; before one that changed something there are
messages only, and before a vain one there is a signal that ended the sink. -/
theorem through_disposal {q : Phase} {a z : List Signal} {b : Bool}
    (h : active.through (a ++ .disposal b :: z) = some q) :
    (∀ s ∈ z, s = .disposal false) ∧
    (b = true → q = disposed ∧ ∀ s ∈ a, s.IsMessage) ∧
    (b = false → ∃ s ∈ a, ∃ p, Ends s p) := by
  obtain ⟨p, hp, h⟩ := through_append.mp h
  obtain ⟨r, hr, hz⟩ := through_cons.mp h
  rcases through_active hp with ⟨rfl, ha⟩ | ⟨a₁, e, a₂, rfl, -, he, -⟩
  · rcases after_of_active hr with ⟨-, m, hm⟩ | he
    · cases hm
    · cases he
      obtain ⟨rfl, hall⟩ := through_of_ended (by decide) hz
      exact ⟨hall, fun _ => ⟨rfl, ha⟩, fun hb => absurd hb (by decide)⟩
  · -- The sink had ended before, so the disposal is vain.
    obtain ⟨rfl, hb⟩ := after_of_ended he.ne_active hr
    cases hb
    refine ⟨(through_of_ended he.ne_active hz).2, fun hb => absurd hb (by decide), fun _ => ?_⟩
    exact ⟨e, by simp, _, he⟩

end Phase

/-- A history of a sink that starts with messages. -/
theorem Signal.filterMap_call?_of_messages {z : List Signal} (h : ∀ s ∈ z, s.IsMessage) :
    ∃ ms : List Message, z.filterMap Signal.call? = ms.map .message := by
  induction z with
  | nil => exact ⟨[], rfl⟩
  | cons s z ih =>
    obtain ⟨⟨m, rfl⟩, hz⟩ := List.forall_mem_cons.mp h
    obtain ⟨ms, hms⟩ := ih hz
    refine ⟨m :: ms, ?_⟩
    rw [List.filterMap_cons_some (Signal.call?_call _), hms, List.map_cons]

theorem Signal.filterMap_call?_of_vain {z : List Signal} (h : ∀ s ∈ z, s = .disposal false) :
    z.filterMap Signal.call? = [] := by
  refine List.filterMap_eq_nil_iff.mpr ?_
  intro s hs
  rw [h s hs]
  rfl

/-- The callbacks in a word that the automaton accepts. -/
theorem Phase.calls_of_through {z : List Signal} {p : Phase}
    (h : Phase.active.through z = some p) : ∃ (ms : List Message) (last : List Call),
      z.filterMap Signal.call? = ms.map .message ++ last ∧
      (last = [] ∨ (∃ d, last = [.error d]) ∨ last = [.closed]) := by
  rcases Phase.through_active h with ⟨-, hz⟩ | ⟨a, e, b, rfl, ha, he, hb⟩
  · obtain ⟨ms, hms⟩ := Signal.filterMap_call?_of_messages hz
    exact ⟨ms, [], by rw [hms, List.append_nil], .inl rfl⟩
  · obtain ⟨ms, hms⟩ := Signal.filterMap_call?_of_messages ha
    have hnil := Signal.filterMap_call?_of_vain hb
    rw [List.filterMap_append, hms]
    cases he with
    | error d => exact ⟨ms, [.error d], by simp [hnil], .inr (.inl ⟨d, rfl⟩)⟩
    | closed => exact ⟨ms, [.closed], by simp [hnil], .inr (.inr rfl)⟩
    | disposal => exact ⟨ms, [], by simp [List.filterMap_cons, hnil], .inl rfl⟩

/-! ## §2. Signals in a history -/

/-- The signal of a sink at a moment. -/
def Moment.signalAt? (c : ConnectionId) (i : Nat) (x : Moment) : Option Signal :=
  match x.callAt? i with
  | some k => some (.call k)
  | none => (x.disposalAt? c i).map .disposal

/-- A moment is not a callback and a disposal at once. -/
theorem Moment.disposalAt?_of_callAt? {c : ConnectionId} {i : Nat} {x : Moment} {k : Call}
    (h : x.callAt? i = some k) : x.disposalAt? c i = none := by
  unfold callAt? at h
  split at h
  case h_1 j l k' he =>
    unfold disposalAt?
    rw [he]
  case h_2 => cases h

theorem Moment.call?_signalAt? (c : ConnectionId) (i : Nat) (x : Moment) :
    (x.signalAt? c i).bind Signal.call? = x.callAt? i := by
  unfold signalAt?
  cases h : x.callAt? i with
  | some k => rfl
  | none => cases x.disposalAt? c i <;> rfl

theorem Moment.disposal?_signalAt? (c : ConnectionId) (i : Nat) (x : Moment) :
    (x.signalAt? c i).bind Signal.disposal? = x.disposalAt? c i := by
  unfold signalAt?
  cases h : x.callAt? i with
  | some k =>
    rw [disposalAt?_of_callAt? h]
    rfl
  | none => cases x.disposalAt? c i <;> rfl

theorem Moment.signalAt?_of_disposalAt? {c : ConnectionId} {i : Nat} {x : Moment} {b : Bool}
    (h : x.disposalAt? c i = some b) : x.signalAt? c i = some (.disposal b) := by
  unfold signalAt?
  cases hk : x.callAt? i with
  | some k =>
    rw [disposalAt?_of_callAt? hk] at h
    cases h
  | none =>
    rw [h]
    rfl

theorem Moment.signalAt?_eq_none {x : Moment} (h : x.event.concernsSink = false)
    (c : ConnectionId) (i : Nat) : x.signalAt? c i = none := by
  unfold signalAt?
  rw [callAt?_eq_none h, disposalAt?_eq_none h]
  rfl

namespace History

/-- The signals of a sink, in order. -/
def signalsAt (c : ConnectionId) (i : Nat) (h : List Moment) : List Signal :=
  h.filterMap (Moment.signalAt? c i)

@[simp] theorem signalsAt_append (c : ConnectionId) (i : Nat) (h k : List Moment) :
    signalsAt c i (h ++ k) = signalsAt c i h ++ signalsAt c i k := List.filterMap_append

theorem signalsAt_cons {c : ConnectionId} {i : Nat} {x : Moment} {s : Signal}
    (hx : x.signalAt? c i = some s) (h : List Moment) :
    signalsAt c i (x :: h) = s :: signalsAt c i h := List.filterMap_cons_some hx

theorem signalsAt_eq_nil {c : ConnectionId} {i : Nat} {h : List Moment}
    (hx : ∀ x ∈ h, x.event.concernsSink = false) : signalsAt c i h = [] :=
  List.filterMap_eq_nil_iff.mpr fun x hm => Moment.signalAt?_eq_none (hx x hm) c i

theorem callsAt_eq (c : ConnectionId) (i : Nat) (h : List Moment) :
    callsAt i h = (signalsAt c i h).filterMap Signal.call? := by
  unfold callsAt signalsAt
  rw [List.filterMap_filterMap]
  exact congrArg (fun f => h.filterMap f) (funext fun x => (x.call?_signalAt? c i).symm)

theorem disposalsAt_eq (c : ConnectionId) (i : Nat) (h : List Moment) :
    disposalsAt c i h = (signalsAt c i h).filterMap Signal.disposal? := by
  unfold disposalsAt signalsAt
  rw [List.filterMap_filterMap]
  exact congrArg (fun f => h.filterMap f) (funext fun x => (x.disposal?_signalAt? c i).symm)

/-- The callbacks and disposals in a history, read off its signals. -/
theorem mem_callsAt {c : ConnectionId} {i : Nat} {h : List Moment} {k : Call} :
    k ∈ callsAt i h ↔ .call k ∈ signalsAt c i h := by
  rw [callsAt_eq c, List.mem_filterMap]
  constructor
  · rintro ⟨s, hs, hk⟩
    cases s <;> cases hk
    exact hs
  · exact fun hs => ⟨_, hs, rfl⟩

theorem mem_disposalsAt {c : ConnectionId} {i : Nat} {h : List Moment} {b : Bool} :
    b ∈ disposalsAt c i h ↔ .disposal b ∈ signalsAt c i h := by
  rw [disposalsAt_eq, List.mem_filterMap]
  constructor
  · rintro ⟨s, hs, hk⟩
    cases s <;> cases hk
    exact hs
  · exact fun hs => ⟨_, hs, rfl⟩

end History

end Correlator
