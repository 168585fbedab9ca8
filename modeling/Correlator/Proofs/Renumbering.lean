/-
  Correlator.Proofs.Renumbering — SINKS UNDER OTHER NUMBERS.

  Every sink has a number among all sinks that were made, on whatever line.
  The number says nothing but which of two sinks was made first, and nothing
  that is done to a line depends on it.  Here the numbers in a line, in an
  answer and in what has happened are replaced by others, and it is said which
  changes of a line come to the same under every numbering.

  Main content:
    * `Line.renumber`, `Answer.renumber`, `Moment.renumber` — other numbers,
    * `Line.Alike` — two lines that differ in the numbers only,
    * `Line.Blind` — a change of a line that does not look at numbers.
-/
import Correlator.Proofs.Scripts
import Correlator.Proofs.Weight
namespace Correlator

/-! ## §1. Other numbers -/

def Sink.renumber (f : Nat → Nat) (s : Sink) : Sink := { s with number := f s.number }

def Line.renumber (f : Nat → Nat) (l : Line) : Line :=
  l.mapMux fun x => { x with sinks := x.sinks.map (Sink.renumber f) }

def Enrolment.renumber (f : Nat → Nat) (e : Enrolment) : Enrolment := { e with number := f e.number }

def Answer.renumber (f : Nat → Nat) : Answer → Answer
  | .enrolled e => .enrolled (e.renumber f)
  | a => a

def Event.renumber (f : Nat → Nat) : Event → Event
  | .answered i label op a => .answered i label op (a.renumber f)
  | e => e

def Moment.renumber (f : Nat → Nat) (x : Moment) : Moment :=
  ⟨x.event.renumber f, x.line.map (Line.renumber f)⟩

/-- The numbers of the sinks of a line, by their places. -/
def Line.numbers (l : Line) : List Nat := l.mux.sinks.map Sink.number

section

variable {f : Nat → Nat}

@[simp] theorem Line.renumber_id (l : Line) : l.renumber (fun n => n) = l := by
  have same : l.mux.sinks.map (Sink.renumber fun n => n) = l.mux.sinks := List.map_id _
  show { l with mux := { l.mux with sinks := l.mux.sinks.map (Sink.renumber fun n => n) } } = l
  rw [same]

@[simp] theorem Answer.renumber_id (a : Answer) : a.renumber (fun n => n) = a := by
  cases a <;> rfl

@[simp] theorem Event.renumber_id (e : Event) : e.renumber (fun n => n) = e := by
  cases e <;> simp [renumber]

theorem Line.numbers_renumber (l : Line) : (l.renumber f).numbers = l.numbers.map f := by
  show (l.mux.sinks.map (Sink.renumber f)).map Sink.number = (l.mux.sinks.map Sink.number).map f
  rw [List.map_map, List.map_map]
  rfl

theorem Line.sink?_renumber (l : Line) (i : Nat) :
    (l.renumber f).sink? i = (l.sink? i).map (Sink.renumber f) := List.getElem?_map

/-- Answers that are the same under other numbers are the same, or tell of sinks. -/
theorem Answer.of_renumber {a b : Answer} (h : b.renumber f = a.renumber f) :
    b = a ∨ ∃ e e' : Enrolment, a = .enrolled e ∧ b = .enrolled e' ∧
      e'.renumber f = e.renumber f := by
  cases a with
  | enrolled e =>
    cases b with
    | enrolled e' => exact .inr ⟨e, e', rfl, rfl, Answer.enrolled.inj h⟩
    | _ => cases h
  | _ =>
    cases b with
    | enrolled e' => cases h
    | _ => exact .inl h

/-! ## §2. Lines that differ in the numbers only -/

/-- Sinks that are the same under other numbers are the same but for the number. -/
theorem Sink.of_renumber {s t : Sink} (h : t.renumber f = s.renumber f) :
    t = { s with number := t.number } := by
  cases s
  cases t
  simp only [renumber, mk.injEq] at h
  simp only [mk.injEq, true_and]
  exact h.2

/-- Two lines are the same but for the numbers of their sinks, which `f` makes equal. -/
def Line.Alike (f : Nat → Nat) (l k : Line) : Prop := k.renumber f = l.renumber f

namespace Line.Alike

variable {l k : Line}

theorem refl (f : Nat → Nat) (l : Line) : Line.Alike f l l := rfl

/-- What does not depend on the numbers is the same. -/
theorem of_renumber {α : Type} (h : Line.Alike f l k) (p : Line → α)
    (hp : ∀ l : Line, p (l.renumber f) = p l) : p k = p l := by
  rw [← hp k, ← hp l]
  exact congrArg p h

theorem config (h : Line.Alike f l k) : k.config = l.config :=
  h.of_renumber Line.config fun _ => rfl

theorem id (h : Line.Alike f l k) : k.id = l.id := h.of_renumber Line.id fun _ => rfl

theorem state (h : Line.Alike f l k) : k.state = l.state := h.of_renumber Line.state fun _ => rfl

theorem logoutText (h : Line.Alike f l k) : k.logoutText = l.logoutText :=
  h.of_renumber Line.logoutText fun _ => rfl

theorem capacity (h : Line.Alike f l k) : k.mux.capacity = l.mux.capacity :=
  h.of_renumber (fun l => l.mux.capacity) fun _ => rfl

theorem active (h : Line.Alike f l k) : k.mux.active = l.mux.active :=
  h.of_renumber (fun l => l.mux.active) fun _ => rfl

theorem dropRecord (h : Line.Alike f l k) : k.mux.dropRecord = l.mux.dropRecord :=
  h.of_renumber (fun l => l.mux.dropRecord) fun _ => rfl

theorem closed (h : Line.Alike f l k) : k.mux.closed = l.mux.closed :=
  h.of_renumber (fun l => l.mux.closed) fun _ => rfl

theorem released (h : Line.Alike f l k) : k.mux.released = l.mux.released :=
  h.of_renumber (fun l => l.mux.released) fun _ => rfl

theorem length (h : Line.Alike f l k) : k.mux.sinks.length = l.mux.sinks.length :=
  h.of_renumber (fun l => l.mux.sinks.length) fun _ => List.length_map (Sink.renumber f)

theorem length_numbers (h : Line.Alike f l k) : k.numbers.length = l.numbers.length := by
  unfold numbers
  rw [List.length_map, List.length_map, h.length]

theorem weight (h : Line.Alike f l k) : k.weight = l.weight := by
  refine h.of_renumber Line.weight fun l => ?_
  have sum : ∀ ss : List Sink, Sink.weights (ss.map (Sink.renumber f)) = Sink.weights ss := by
    intro ss
    induction ss with
    | nil => rfl
    | cons s ss ih =>
      rw [List.map_cons, Sink.weights_cons, Sink.weights_cons, ih]
      rfl
  exact sum l.mux.sinks

/-- A sink is there in both lines, with the same rule, phase and listener, or in none. -/
theorem sink_cases (h : Line.Alike f l k) (i : Nat) : (l.sink? i = none ∧ k.sink? i = none) ∨
    ∃ s n, l.sink? i = some s ∧ k.sink? i = some { s with number := n } ∧ f n = f s.number := by
  have at_ : (k.sink? i).map (Sink.renumber f) = (l.sink? i).map (Sink.renumber f) := by
    rw [← sink?_renumber, ← sink?_renumber]
    exact congrArg (fun m => Line.sink? m i) h
  cases hl : l.sink? i with
  | none =>
    rw [hl] at at_
    exact .inl ⟨rfl, by simpa using at_⟩
  | some s =>
    rw [hl] at at_
    obtain ⟨t, ht, hst⟩ := Option.map_eq_some_iff.mp at_
    refine .inr ⟨s, t.number, rfl, ?_, congrArg Sink.number hst⟩
    rw [ht]
    exact congrArg some (Sink.of_renumber hst)

end Line.Alike

/-! ## §3. Changes that do not look at numbers -/

/-- A change of a line that comes to the same whatever the numbers are.  It keeps the connection and
the numbers, and adds nothing to scripts. -/
structure Line.Blind (f : Nat → Nat) (g : Line → Line) : Prop where
  alike : ∀ {l k}, Line.Alike f l k → Line.Alike f (g l) (g k)
  config : ∀ l, (g l).config = l.config
  numbers : ∀ l, (g l).numbers = l.numbers
  within : ∀ l, ∀ s ∈ (g l).mux.sinks, ∃ k ∈ l.mux.sinks, s.listener.within ⊆ k.listener.within

namespace Line.Blind

/-- A change that leaves the sinks alone. -/
theorem of_sinks {g : Line → Line} (hg : ∀ l, (g l).renumber f = g (l.renumber f))
    (hc : ∀ l, (g l).config = l.config) (hs : ∀ l, (g l).mux.sinks = l.mux.sinks) :
    Line.Blind f g where
  alike {l k} h := by
    show (g k).renumber f = (g l).renumber f
    rw [hg, hg]
    exact congrArg g h
  config := hc
  numbers l := congrArg (List.map Sink.number) (hs l)
  within l s h := by
    rw [hs] at h
    exact ⟨s, h, List.Subset.refl _⟩

/-- A change of one sink that leaves its number alone. -/
theorem mapSink (i : Nat) {h : Sink → Sink} (hh : ∀ s, (h s).renumber f = h (s.renumber f))
    (hn : ∀ s, (h s).number = s.number) (hw : ∀ s, (h s).listener.within ⊆ s.listener.within) :
    Line.Blind f fun l => l.mapMux fun x => x.mapSink i h where
  alike {l k} alike := by
    have commutes : ∀ m : Line, (m.mapMux fun x => x.mapSink i h).renumber f =
        (m.renumber f).mapMux fun x => x.mapSink i h := by
      intro m
      have sinks : (m.mux.sinks.modify i h).map (Sink.renumber f) =
          (m.mux.sinks.map (Sink.renumber f)).modify i h := by
        apply List.ext_getElem?
        intro j
        rw [List.getElem?_map, List.getElem?_modify, List.getElem?_modify, List.getElem?_map]
        cases m.mux.sinks[j]? with
        | none => rfl
        | some s =>
          by_cases hij : i = j
          · simp [hij, hh]
          · simp [hij]
      show { m with mux := { m.mux with sinks := (m.mux.sinks.modify i h).map _ } } = _
      rw [sinks]
      rfl
    show (k.mapMux fun x => x.mapSink i h).renumber f = (l.mapMux fun x => x.mapSink i h).renumber f
    rw [commutes, commutes]
    exact congrArg (Line.mapMux fun x => x.mapSink i h) alike
  config _ := rfl
  numbers l := by
    show (l.mux.sinks.modify i h).map Sink.number = l.mux.sinks.map Sink.number
    apply List.ext_getElem?
    intro j
    rw [List.getElem?_map, List.getElem?_map, List.getElem?_modify]
    cases l.mux.sinks[j]? with
    | none => rfl
    | some s =>
      by_cases hij : i = j
      · simp [hij, hn]
      · simp [hij]
  within l s hs := by
    obtain ⟨j, hj⟩ := List.mem_iff_getElem?.mp hs
    have hj : (l.mux.sinks.modify i h)[j]? = some s := hj
    rw [List.getElem?_modify] at hj
    obtain ⟨k, hk, rfl⟩ := Option.map_eq_some_iff.mp hj
    refine ⟨k, List.mem_of_getElem? hk, ?_⟩
    split
    · exact hw k
    · exact List.Subset.refl _

/-- The active set, the drop record and the close. -/
theorem mapMux {g : Multiplexer → Multiplexer}
    (hg : ∀ x ss, g { x with sinks := ss } = { g x with sinks := ss }) :
    Line.Blind f fun l => l.mapMux g := by
  have sinks : ∀ x, (g x).sinks = x.sinks := by
    intro x
    have same : g x = { g x with sinks := x.sinks } := hg x x.sinks
    rw [same]
  refine .of_sinks (fun l => ?_) (fun _ => rfl) fun l => sinks l.mux
  have commutes : { g l.mux with sinks := (g l.mux).sinks.map (Sink.renumber f) } =
      g { l.mux with sinks := l.mux.sinks.map (Sink.renumber f) } := by
    rw [sinks]
    exact (hg l.mux _).symm
  exact congrArg (fun x => { l with mux := x }) commutes

end Line.Blind

/-- The lines grow alike when they get the same sink under numbers that `f` makes equal. -/
theorem Line.Alike.concat {l k : Line} (h : Line.Alike f l k) {s t : Sink}
    (hst : t.renumber f = s.renumber f) :
    Line.Alike f (l.mapMux fun x => { x with sinks := x.sinks ++ [s] })
      (k.mapMux fun x => { x with sinks := x.sinks ++ [t] }) := by
  have commutes : ∀ (m : Line) (s : Sink),
      (m.mapMux fun x => { x with sinks := x.sinks ++ [s] }).renumber f =
        (m.renumber f).mapMux fun x => { x with sinks := x.sinks ++ [s.renumber f] } := by
    intro m s
    show { m with mux := { m.mux with sinks := (m.mux.sinks ++ [s]).map _ } } = _
    rw [List.map_append]
    rfl
  show (k.mapMux _).renumber f = (l.mapMux _).renumber f
  rw [commutes, commutes, hst]
  exact congrArg (Line.mapMux fun x => { x with sinks := x.sinks ++ [s.renumber f] }) h

end

end Correlator
