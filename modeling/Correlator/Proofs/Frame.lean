/-
  Correlator.Proofs.Frame — WHAT A STEP LEAVES ALONE.

  A thing written down beside the line and a turn in the connection's life do
  not touch the multiplexer; a shift of the multiplexer does not touch the
  connection's life.  Each step adds moments to the history that show the line
  in hand as the step leaves it, so a fact about a multiplexer that every step
  keeps is a fact about every moment of a run.

  Main results:
    * `Aside.beside`, `Turn.beside` — the steps that are not the multiplexer's,
    * `Shift.config`, `Shift.state`, `Shift.news` — the steps that are,
    * `Step.news`, `Step.standings`, `Path.standings` — what a run shows.
-/
import Correlator.Proofs.Phase
import Correlator.Proofs.Step
namespace Correlator

/-! ## §1. Events about sinks -/

/-- The event is a callback to a sink or a disposal of one. -/
def Event.concernsSink : Event → Bool
  | .called _ _ _ => true
  | .disposed _ _ => true
  | _ => false

theorem Moment.callAt?_eq_none {x : Moment} (h : x.event.concernsSink = false) (i : Nat) :
    x.callAt? i = none := by
  unfold callAt?
  split
  case h_1 he => simp [he, Event.concernsSink] at h
  case h_2 => rfl

theorem Moment.disposalAt?_eq_none {x : Moment} (h : x.event.concernsSink = false)
    (c : ConnectionId) (i : Nat) : x.disposalAt? c i = none := by
  unfold disposalAt?
  split
  case h_1 he _ => simp [he, Event.concernsSink] at h
  case h_2 => rfl

theorem Event.concernsSink_of_isAside {e : Event} (h : e.isAside = true) :
    e.concernsSink = false := by
  cases e <;> simp_all [isAside, concernsSink]

theorem Desk.history_record (e : Event) (w : Desk) :
    (w.record e).shared.history = w.shared.history ++ [⟨e, some w.line⟩] :=
  Shared.history_add _ _

/-! ## §2. Steps beside the multiplexer -/

/-- The moments show the line with its multiplexer, and concern no sink. -/
def ShownBeside (w : Desk) (news : List Moment) : Prop :=
  ∀ x ∈ news, (∃ l, x.line = some l ∧ l.mux = w.line.mux ∧ l.config = w.line.config) ∧
    x.event.concernsSink = false

/-- The multiplexer stays as it is, and no new moment concerns a sink. -/
structure Beside (w w' : Desk) : Prop where
  mux : w'.line.mux = w.line.mux
  config : w'.line.config = w.line.config
  issued : w'.shared.issued = w.shared.issued
  history : ∃ news, w'.shared.history = w.shared.history ++ news ∧ ShownBeside w news

namespace Beside

theorem rfl_of_history {w w' : Desk} (hm : w'.line.mux = w.line.mux)
    (hc : w'.line.config = w.line.config) (hi : w'.shared.issued = w.shared.issued)
    (hh : w'.shared.history = w.shared.history) : Beside w w' :=
  ⟨hm, hc, hi, [], by rw [hh, List.append_nil], by simp [ShownBeside]⟩

/-- Recording an event that concerns no sink adds to what was there. -/
theorem record {w w' : Desk} (h : Beside w w') {e : Event} (he : e.concernsSink = false) :
    Beside w (w'.record e) := by
  obtain ⟨news, hh, hn⟩ := h.history
  refine ⟨h.mux, h.config, h.issued, news ++ [⟨e, some w'.line⟩], ?_, ?_⟩
  · rw [Desk.history_record, hh, List.append_assoc]
  · intro x hx
    rcases List.mem_append.mp hx with hx | hx
    · exact hn x hx
    · rw [List.mem_singleton.mp hx]
      exact ⟨⟨_, rfl, h.mux, h.config⟩, he⟩

theorem note {w w' : Desk} (h : Beside w w') (n : Notice) : Beside w (w'.note n) :=
  h.record (e := .noted n) rfl

/-- A change of the line that keeps its multiplexer and its configuration. -/
theorem mapLine {w w' : Desk} (h : Beside w w') {f : Line → Line}
    (hm : ∀ l, (f l).mux = l.mux) (hc : ∀ l, (f l).config = l.config) :
    Beside w (w'.mapLine f) :=
  ⟨(hm _).trans h.mux, (hc _).trans h.config, h.issued, h.history⟩

theorem refl (w : Desk) : Beside w w := rfl_of_history rfl rfl rfl rfl

end Beside

theorem Aside.beside {w w' : Desk} (h : Aside w w') : Beside w w' := by
  cases h with
  | event he => exact (Beside.refl w).record (Event.concernsSink_of_isAside he)
  | names => exact .rfl_of_history rfl rfl rfl rfl
  | barrier => exact .rfl_of_history rfl rfl rfl rfl

theorem Turn.beside {w w' : Desk} (h : Turn w w') : Beside w w' := by
  -- No turn does more to the line than set its state and the text of a logout.
  have keep : ∀ s, Beside w (w.setState s) :=
    fun s => (Beside.refl w).mapLine (fun _ => rfl) (fun _ => rfl)
  cases h with
  | create => exact (keep _).note _
  | offer => exact (keep _).record rfl
  | accept => exact (keep _).record rfl
  | refuse =>
    refine Beside.record ?_ rfl
    exact ((keep .authenticating).note _).mapLine (fun _ => rfl) (fun _ => rfl)
  | establish =>
    refine Beside.note ?_ _
    exact (keep _).mapLine (fun _ => rfl) (fun _ => rfl)
  | drop =>
    refine Beside.note (Beside.record ?_ rfl) _
    exact (Beside.refl w).mapLine (fun _ => rfl) (fun _ => rfl)
  | logout =>
    refine Beside.record ?_ rfl
    exact (Beside.refl w).mapLine (fun _ => rfl) (fun _ => rfl)

/-! ## §3. Steps of the multiplexer -/

theorem Shift.config {a b : Stage} (h : Shift a b) :
    b.desk.line.config = a.desk.line.config := by
  cases h with
  | dispose s => exact Desk.kept_dispose Line.config_disposeAt s _
  | _ => rfl

theorem Shift.state {a b : Stage} (h : Shift a b) : b.desk.line.state = a.desk.line.state := by
  cases h with
  | dispose s => exact Desk.kept_dispose Line.state_disposeAt s _
  | _ => rfl

/-- A shift shows the line as it leaves it, with a callback that starts, or a disposal and its
notice. -/
theorem Shift.news {a b : Stage} (h : Shift a b) : ∃ news,
    b.desk.shared.history = a.desk.shared.history ++ news ∧
    ∀ x ∈ news, (x.event.concernsSink = true ∨ x.event = .noted .sinkDisposed) ∧
      ∃ l, x.line = some l ∧ (l.id = a.desk.line.id → l = b.desk.line) := by
  cases h with
  | @deliver w owed i s m hs ha hm =>
    refine ⟨_, Desk.history_record _ w, ?_⟩
    intro x hx
    rw [List.mem_singleton.mp hx]
    exact ⟨.inl rfl, _, rfl, fun _ => rfl⟩
  | @finish w owed i s phase c hs ha hf =>
    refine ⟨_, Desk.history_record _ (w.mapSink i fun k => { k with phase }), ?_⟩
    intro x hx
    rw [List.mem_singleton.mp hx]
    exact ⟨.inl rfl, _, rfl, fun _ => rfl⟩
  | @dispose w owed s =>
    -- The notice may show another line, if the sink is on that.
    obtain ⟨news, hh, hn⟩ := Desk.history_dispose s w
    refine ⟨_, hh.trans (List.append_assoc _ _ _), ?_⟩
    intro x hx
    rcases List.mem_append.mp hx with hx | hx
    · obtain ⟨l, rfl, hl⟩ := hn x hx
      exact ⟨.inr rfl, l, rfl, hl⟩
    · rw [List.mem_singleton.mp hx]
      exact ⟨.inl rfl, _, rfl, fun _ => rfl⟩
  | _ => exact ⟨[], (List.append_nil _).symm, by simp⟩

/-! ## §4. Any step -/

theorem Step.config {a b : Stage} (h : Step a b) :
    b.desk.line.config = a.desk.line.config := by
  cases h with
  | aside h => exact h.beside.config
  | turn h => exact h.beside.config
  | shift h => exact h.config

/-- A step shows the line in hand with the multiplexer that it leaves. -/
theorem Step.news {a b : Stage} (h : Step a b) : ∃ news,
    b.desk.shared.history = a.desk.shared.history ++ news ∧
    ∀ x ∈ news, ∃ l, x.line = some l ∧ (l.id = a.desk.line.id → l.mux = b.desk.line.mux) := by
  have beside : ∀ {w w' : Desk}, Beside w w' → ∃ news,
      w'.shared.history = w.shared.history ++ news ∧
      ∀ x ∈ news, ∃ l, x.line = some l ∧ (l.id = w.line.id → l.mux = w'.line.mux) := by
    intro w w' hb
    obtain ⟨news, hh, hn⟩ := hb.history
    refine ⟨news, hh, ?_⟩
    intro x hx
    obtain ⟨⟨l, hl, hm, -⟩, -⟩ := hn x hx
    exact ⟨l, hl, fun _ => hm.trans hb.mux.symm⟩
  cases h with
  | aside h => exact beside h.beside
  | turn h => exact beside h.beside
  | shift h =>
    obtain ⟨news, hh, hn⟩ := h.news
    refine ⟨news, hh, ?_⟩
    intro x hx
    obtain ⟨-, l, hl, hid⟩ := hn x hx
    exact ⟨l, hl, fun h => congrArg Line.mux (hid h)⟩

/-! ## §5. Runs -/

theorem Path.config {a b : Stage} (h : Path a b) : b.desk.line.config = a.desk.line.config := by
  induction h with
  | refl => rfl
  | tail _ step ih => exact step.config.trans ih

theorem Path.id {a b : Stage} (h : Path a b) : b.desk.line.id = a.desk.line.id :=
  congrArg ConnectionConfig.id h.config

/-- A run only adds to what has happened. -/
theorem Path.history {a b : Stage} (h : Path a b) : ∃ news,
    b.desk.shared.history = a.desk.shared.history ++ news := by
  induction h with
  | refl => exact ⟨[], (List.append_nil _).symm⟩
  | tail _ step ih =>
    obtain ⟨earlier, hb⟩ := ih
    obtain ⟨later, hc, -⟩ := step.news
    exact ⟨earlier ++ later, by rw [hc, hb, List.append_assoc]⟩

/-- A step adds standings of the line in hand with the multiplexer that it leaves. -/
theorem Step.standings {a b : Stage} (h : Step a b) : ∃ news,
    History.standings a.desk.line.id b.desk.shared.history =
      History.standings a.desk.line.id a.desk.shared.history ++ news ∧
    ∀ l ∈ news, l.mux = b.desk.line.mux := by
  obtain ⟨news, hh, hn⟩ := h.news
  refine ⟨History.standings a.desk.line.id news, ?_, ?_⟩
  · rw [hh, History.standings_append]
  · intro l hl
    obtain ⟨x, hx, hxl, hid⟩ := History.mem_standings.mp hl
    obtain ⟨l', hl', hm⟩ := hn x hx
    rw [hxl] at hl'
    cases hl'
    exact hm hid

/-- What every step keeps holds at the end of a run, and what follows from it for the multiplexer
held at every moment that shows the line in hand. -/
theorem Path.standings {P : Stage → Prop} {Q : Multiplexer → Prop}
    (hstep : ∀ {a b}, Step a b → P a → P b) (hq : ∀ {a : Stage}, P a → Q a.desk.line.mux)
    {a b : Stage} (h : Path a b) (ha : P a)
    (h₀ : ∀ l ∈ History.standings a.desk.line.id a.desk.shared.history, Q l.mux) :
    P b ∧ ∀ l ∈ History.standings a.desk.line.id b.desk.shared.history, Q l.mux := by
  induction h with
  | refl => exact ⟨ha, h₀⟩
  | tail path step ih =>
    obtain ⟨hP, hs⟩ := ih
    have hP' := hstep step hP
    refine ⟨hP', ?_⟩
    obtain ⟨news, hh, hn⟩ := step.standings
    rw [Path.id path] at hh
    intro l hl
    rw [hh, List.mem_append] at hl
    rcases hl with hl | hl
    · exact hs l hl
    · -- What is new shows the multiplexer at the end of the step.
      rw [hn l hl]
      exact hq hP'

end Correlator
