/-
  Correlator.Proofs.History — READING THE TRAIL.

  What callers and waiters can observe of a run is on the trail of the desk:
  the callbacks in the order in which they started, the disposals with what
  they answered, and how the line stood at each moment.  The functions here
  read these off a history; the theorems about runs are stated with them.

  Main content:
    * `Shared.calls` — the callbacks, with the places of their sinks,
    * `History.callsAt`, `History.disposalsAt` — those of one sink,
    * `History.messagesAt` — the messages that a sink was given,
    * `History.standings`, `History.stateAfter` — how a line stood,
    * `History.Throughout` — what holds of each moment and those before it,
    * `History.Last` — the last value that a moment gave,
    * `Desk.opening` — a desk on which nothing has happened yet.
-/
import Correlator.Desk.Perform
namespace Correlator

/-! ## Moments -/

/-- The message that a callback brings. -/
def Call.message? : Call → Option Message
  | .message m => some m
  | _ => none

namespace Moment

/-- The callback that starts at a moment, with the place of its sink. -/
def call? (x : Moment) : Option (Nat × Call) :=
  match x.event with
  | .called i _ c => some (i, c)
  | _ => none

/-- The callback to the sink at a place that starts at a moment. -/
def callAt? (i : Nat) (x : Moment) : Option Call :=
  match x.event with
  | .called j _ c => if j = i then some c else none
  | _ => none

/-- What a disposal of a sink answers at a moment.  A handle to a sink that is not there yet
disposes nothing. -/
def disposalAt? (c : ConnectionId) (i : Nat) (x : Moment) : Option Bool :=
  match x.event, x.line with
  | .disposed s b, some l => if s = ⟨c, i⟩ ∧ (l.sink? i).isSome then some b else none
  | _, _ => none

/-- How the line of a connection stands at a moment that shows it. -/
def standing? (c : ConnectionId) (x : Moment) : Option Line :=
  x.line.filter fun l => l.id = c

theorem standing?_eq_some {c : ConnectionId} {x : Moment} {l : Line} :
    x.standing? c = some l ↔ x.line = some l ∧ l.id = c := by
  simp [standing?, Option.filter_eq_some_iff]

/-- A moment shows no other line than that which it holds. -/
theorem eq_of_standing? {c : ConnectionId} {e : Event} {k l : Line}
    (h : standing? c ⟨e, some k⟩ = some l) : k = l :=
  Option.some.inj (standing?_eq_some.mp h).1

end Moment

/-! ## Histories -/

namespace History

/-- The callbacks to the sink at a place, in order. -/
def callsAt (i : Nat) (h : List Moment) : List Call := h.filterMap (Moment.callAt? i)

/-- The messages that the sink at a place was given, in order. -/
def messagesAt (i : Nat) (h : List Moment) : List Message := (callsAt i h).filterMap Call.message?

/-- What the disposals of a sink answered, in order. -/
def disposalsAt (c : ConnectionId) (i : Nat) (h : List Moment) : List Bool :=
  h.filterMap (Moment.disposalAt? c i)

/-- How the line of a connection stood, moment by moment. -/
def standings (c : ConnectionId) (h : List Moment) : List Line :=
  h.filterMap (Moment.standing? c)

@[simp] theorem standings_append (c : ConnectionId) (h k : List Moment) :
    standings c (h ++ k) = standings c h ++ standings c k := List.filterMap_append

theorem mem_standings {c : ConnectionId} {h : List Moment} {l : Line} :
    l ∈ standings c h ↔ ∃ x ∈ h, x.line = some l ∧ l.id = c := by
  simp [standings, List.mem_filterMap, Moment.standing?_eq_some]

/-- Every moment of a history stands in a relation to those before it. -/
def Throughout (P : List Moment → Moment → Prop) (h : List Moment) : Prop :=
  ∀ h₁ x, h₁ ++ [x] <+: h → P h₁ x

theorem Throughout.nil {P : List Moment → Moment → Prop} : Throughout P [] := by
  intro h₁ x hpre
  have := hpre.length_le
  simp at this

theorem Throughout.concat {P : List Moment → Moment → Prop} {h : List Moment} {x : Moment}
    (ht : Throughout P h) (hx : P h x) : Throughout P (h ++ [x]) := by
  intro h₁ y hpre
  -- The moment is the new one, or an earlier one.
  rcases List.prefix_concat_iff.mp hpre with heq | hpre
  · obtain ⟨rfl, hxy⟩ := List.append_inj' heq rfl
    cases hxy
    exact hx
  · exact ht h₁ y hpre

/-- Moments that stand in the relation to whatever was before them. -/
theorem Throughout.append {P : List Moment → Moment → Prop} {h news : List Moment}
    (ht : Throughout P h) (hn : ∀ x ∈ news, ∀ h₁, P h₁ x) : Throughout P (h ++ news) := by
  induction news generalizing h with
  | nil =>
    rw [List.append_nil]
    exact ht
  | cons x news ih =>
    rw [List.append_cons]
    exact ih (ht.concat (hn x List.mem_cons_self h)) fun y hy => hn y (List.mem_cons_of_mem _ hy)

/-- A value that some moment gave, with nothing after it that does away with it. -/
def Last {α : Type} (value : Moment → Option α) (ends : Moment → Bool) (h : List Moment) (a : α) :
    Prop :=
  ∃ h₁ x h₂, h = h₁ ++ x :: h₂ ∧ value x = some a ∧ ∀ y ∈ h₂, ends y = false

section Last

variable {α : Type} {value : Moment → Option α} {ends : Moment → Bool} {h : List Moment} {a : α}

theorem not_last_nil : ¬ Last value ends [] a := by
  rintro ⟨h₁, x, h₂, heq, -, -⟩
  cases h₁ <;> cases heq

/-- The last value is that of the newest moment, or an earlier one that the newest lets stand. -/
theorem last_concat {x : Moment} : Last value ends (h ++ [x]) a ↔
    value x = some a ∨ ends x = false ∧ Last value ends h a := by
  constructor
  · rintro ⟨h₁, y, h₂, heq, hy, hb⟩
    rcases List.eq_nil_or_concat h₂ with rfl | ⟨h₂', z, rfl⟩
    · obtain ⟨-, hxy⟩ := List.append_inj' heq rfl
      cases hxy
      exact .inl hy
    · -- The value lies further back, so the newest moment lets it stand.
      rw [List.concat_eq_append, ← List.cons_append, ← List.append_assoc] at heq
      obtain ⟨rfl, hxz⟩ := List.append_inj' heq rfl
      cases hxz
      rw [List.concat_eq_append] at hb
      exact .inr ⟨hb x (by simp), h₁, y, h₂', rfl, hy, fun w hw => hb w (by simp [hw])⟩
  · rintro (hx | ⟨hx, h₁, y, h₂, rfl, hy, hb⟩)
    · exact ⟨h, x, [], rfl, hx, by simp⟩
    · refine ⟨h₁, y, h₂ ++ [x], by simp, hy, ?_⟩
      intro w hw
      rcases List.mem_append.mp hw with hw | hw
      · exact hb w hw
      · rw [List.mem_singleton.mp hw]
        exact hx

/-- A moment that gives no value and lets the earlier one stand. -/
theorem last_concat_of_not_ends (hv : ∀ x, ends x = false → value x = none)
    {x : Moment} (hx : ends x = false) :
    Last value ends (h ++ [x]) a ↔ Last value ends h a := by
  rw [last_concat, hv _ hx]
  simp [hx]

theorem last_append_of_not_ends (hv : ∀ x, ends x = false → value x = none)
    {news : List Moment} (hn : ∀ x ∈ news, ends x = false) :
    Last value ends (h ++ news) a ↔ Last value ends h a := by
  induction news generalizing h with
  | nil => rw [List.append_nil]
  | cons x news ih =>
    rw [List.append_cons, ih fun y hy => hn y (List.mem_cons_of_mem _ hy)]
    exact last_concat_of_not_ends hv (hn x List.mem_cons_self)

end Last

/-- The state in which the line of a connection stood last. -/
def stateAfter (c : ConnectionId) (h : List Moment) : ConnectionState :=
  ((standings c h).getLast?.map Line.state).getD .created

theorem stateAfter_concat (c : ConnectionId) (h : List Moment) (x : Moment) :
    stateAfter c (h ++ [x]) =
      match x.standing? c with
      | some l => l.state
      | none => stateAfter c h := by
  unfold stateAfter standings
  rw [List.filterMap_append, List.filterMap_cons, List.filterMap_nil]
  cases x.standing? c <;> simp

/-- A moment that shows no line of the connection leaves its state as it was. -/
theorem stateAfter_concat_of_shows {c : ConnectionId} {h : List Moment} {x : Moment}
    {s : ConnectionState} (hx : ∀ l, x.standing? c = some l → l.state = s)
    (hs : stateAfter c h = s) : stateAfter c (h ++ [x]) = s := by
  rw [stateAfter_concat]
  split
  case h_1 l hl => exact hx l hl
  case h_2 => exact hs

end History

namespace Shared

/-- The callbacks made so far, with the places of their sinks, in the order in which they
started. -/
def calls (s : Shared) : List (Nat × Call) := s.history.filterMap Moment.call?

@[simp] theorem history_add (m : Moment) (s : Shared) : (s.add m).history = s.history ++ [m] := by
  simp [history, add]

theorem calls_add (m : Moment) (s : Shared) :
    (s.add m).calls = s.calls ++ m.call?.toList := by
  unfold calls
  rw [history_add, List.filterMap_append]
  cases h : m.call? <;> simp [h]

end Shared

@[simp] theorem Desk.calls_note (n : Notice) (w : Desk) :
    (w.note n).shared.calls = w.shared.calls := by
  show (w.shared.add _).calls = _
  rw [Shared.calls_add]
  exact List.append_nil _

@[simp] theorem Desk.calls_called (i : Nat) (label : Option String) (c : Call) (w : Desk) :
    (w.record (.called i label c)).shared.calls = w.shared.calls ++ [(i, c)] :=
  Shared.calls_add _ _

/-! ## The start of a run -/

/-- A line that has just been configured is taken in hand, and nothing has happened yet.  Other
lines may be at reach, names in use, and sinks made elsewhere. -/
def Desk.opening (w : Desk) (config : ConnectionConfig) (capacity : Nat) : Desk :=
  { w with line := .ofConfig config capacity, shared := w.shared.forget }

end Correlator
