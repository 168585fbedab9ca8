/-
  Correlator.Proofs.Continuity — WHAT LASTS ON A LINE.

  Lines are configured once, and sinks are kept for good.  A line as it is
  later has the configuration that it had, and each of its sinks has its place
  and its rule, whatever the multiplexer and the callbacks do in between.  An
  operation on one line leaves the others in their places, so what is known of
  a sink of an engine by its reference is known of it later.

  Main results:
    * `Desk.dispose_lines` — what a disposal does to each line,
    * `Line.Continues`, `Desk.Continues` — what lasts,
    * `Step.continues`, `Path.continues` — one step, and any number,
    * `Engine.at?_of_get?`, `Engine.at?_eq_some` — an engine and its desks,
    * `Engine.execAll_continues` — every run of an engine's operations.
-/
import Correlator.Engine.Basic
import Correlator.Proofs.Path
import Mathlib.Data.List.Forall2
namespace Correlator

/-! ## §1. Lines and desks -/

/-- A line as it may be later: the connection is the same, and so are the rules of its sinks. -/
structure Line.Continues (l k : Line) : Prop where
  config : k.config = l.config
  rule : ∀ i s, l.sink? i = some s → ∃ s', k.sink? i = some s' ∧ s'.rule = s.rule

namespace Line.Continues

variable {l k : Line}

theorem refl (l : Line) : l.Continues l := ⟨rfl, fun _ s hs => ⟨s, hs, rfl⟩⟩

theorem trans {m : Line} (h : l.Continues k) (h' : k.Continues m) : l.Continues m where
  config := h'.config.trans h.config
  rule i s hs := by
    obtain ⟨s', hs', hr⟩ := h.rule i s hs
    obtain ⟨s'', hs'', hr'⟩ := h'.rule i s' hs'
    exact ⟨s'', hs'', hr'.trans hr⟩

theorem of_sinks (hc : k.config = l.config) (hs : k.mux.sinks = l.mux.sinks) : l.Continues k where
  config := hc
  rule i s hi := by
    refine ⟨s, ?_, rfl⟩
    unfold sink?
    rw [hs]
    exact hi

theorem of_modify (hc : k.config = l.config) {i : Nat} {f : Sink → Sink}
    (hs : k.mux.sinks = l.mux.sinks.modify i f) (hf : ∀ s, (f s).rule = s.rule) :
    l.Continues k where
  config := hc
  rule j s hj := by
    have hj : l.mux.sinks[j]? = some s := hj
    refine ⟨if i = j then f s else s, ?_, ?_⟩
    · rw [sink?, hs, List.getElem?_modify, hj]
      rfl
    · split
      · exact hf s
      · rfl

theorem of_concat (hc : k.config = l.config) {s : Sink} (hs : k.mux.sinks = l.mux.sinks ++ [s]) :
    l.Continues k where
  config := hc
  rule j s' hj := by
    have hj : l.mux.sinks[j]? = some s' := hj
    refine ⟨s', ?_, rfl⟩
    rw [sink?, hs, List.getElem?_append_left (List.getElem?_eq_some_iff.mp hj).1]
    exact hj

theorem disposeAt (i : Nat) (l : Line) : l.Continues (l.disposeAt i).2 := by
  refine of_modify (config_disposeAt i l) (sinks_disposeAt i l) ?_
  intro s
  split <;> rfl

end Line.Continues

/-! Lines that have become others, each in its place. -/

namespace Lines

variable {R : Line → Line → Prop} {ls ks : List Line}

theorem ids_of_forall₂ (hid : ∀ l k, R l k → k.id = l.id) (h : List.Forall₂ R ls ks) :
    ks.map Line.id = ls.map Line.id := by
  induction h with
  | nil => rfl
  | @cons l k ls ks hlk _ ih => rw [List.map_cons, List.map_cons, ih, hid l k hlk]

theorem trans_of_forall₂ (htrans : ∀ l k m, R l k → R k m → R l m) {ms : List Line}
    (h : List.Forall₂ R ls ks) (h' : List.Forall₂ R ks ms) : List.Forall₂ R ls ms := by
  induction h generalizing ms with
  | nil => exact h'
  | cons hl _ ih =>
    cases h' with
    | cons hk hks => exact .cons (htrans _ _ _ hl hk) (ih hks)

/-- Each line is what has become of one that was there. -/
theorem mem_of_forall₂ (h : List.Forall₂ R ls ks) {k : Line} (hk : k ∈ ks) : ∃ l ∈ ls, R l k := by
  induction h with
  | nil => cases hk
  | cons first _ ih =>
    rcases List.mem_cons.mp hk with rfl | hk
    · exact ⟨_, List.mem_cons_self, first⟩
    · obtain ⟨l, hl, hlk⟩ := ih hk
      exact ⟨l, List.mem_cons_of_mem _ hl, hlk⟩

/-- The first line of an identity is still the first one. -/
theorem find_of_forall₂ (hid : ∀ l k, R l k → k.id = l.id) (h : List.Forall₂ R ls ks)
    {c : ConnectionId} {l : Line} (hl : ls.find? (fun l => l.id = c) = some l) :
    ∃ k, ks.find? (fun l => l.id = c) = some k ∧ R l k := by
  induction h with
  | nil => cases hl
  | @cons l' k' ls ks hlk _ ih =>
    -- The line at the head is looked at in both, and has kept its identity.
    rw [List.find?_cons] at hl ⊢
    rw [hid l' k' hlk]
    split at hl
    case h_1 hc =>
      cases hl
      exact ⟨k', by simp, hlk⟩
    case h_2 hc =>
      obtain ⟨k, hk, hlk'⟩ := ih hl
      exact ⟨k, by simpa [hc] using hk, hlk'⟩

theorem disposeAmong (hrefl : ∀ l, R l l) (hdispose : ∀ i l, R l (Line.disposeAt i l).2)
    (s : SinkRef) (ls : List Line) : List.Forall₂ R ls (Desk.disposeAmong s ls).2 := by
  induction ls with
  | nil => exact .nil
  | cons l ls ih =>
    unfold Desk.disposeAmong
    split
    · exact .cons (hdispose s.place l) (List.forall₂_same.mpr fun l _ => hrefl l)
    · exact .cons (hrefl l) ih

end Lines

/-- **A disposal** leaves each line as it was, or takes a sink out of its active phase there. -/
theorem Desk.dispose_lines {R : Line → Line → Prop} (hrefl : ∀ l, R l l)
    (hdispose : ∀ i l, R l (Line.disposeAt i l).2) (s : SinkRef) (w : Desk) :
    List.Forall₂ R w.before (w.dispose s).2.before ∧ R w.line (w.dispose s).2.line ∧
      List.Forall₂ R w.after (w.dispose s).2.after := by
  let Left : Desk → Prop := fun v =>
    List.Forall₂ R w.before v.before ∧ R w.line v.line ∧ List.Forall₂ R w.after v.after
  have same : ∀ ls : List Line, List.Forall₂ R ls ls :=
    fun ls => List.forall₂_same.mpr fun l _ => hrefl l
  have noted : ∀ {v : Desk} (l : Line), Left v → Left (v.noteDisposal l) := by
    intro v l hv
    unfold Desk.noteDisposal
    split <;> exact hv
  have among := Lines.disposeAmong hrefl hdispose s
  show Left (w.strike s).2
  unfold strike
  split
  case isTrue =>
    have own : Left { w with line := (w.line.disposeAt s.place).2 } :=
      ⟨same _, hdispose s.place w.line, same _⟩
    dsimp only
    split
    · exact noted _ own
    · exact own
  case isFalse =>
    dsimp only
    split
    case h_1 => exact noted _ ⟨among w.before, hrefl w.line, same w.after⟩
    case h_2 =>
      split
      case h_1 => exact noted _ ⟨same w.before, hrefl w.line, among w.after⟩
      case h_2 => exact ⟨same _, hrefl _, same _⟩

/-- Lines as they may be later, each in its place. -/
abbrev Lines.Continue (ls ks : List Line) : Prop := List.Forall₂ Line.Continues ls ks

namespace Lines.Continue

theorem refl (ls : List Line) : Lines.Continue ls ls :=
  List.forall₂_same.mpr fun l _ => Line.Continues.refl l

theorem trans {ls ks ms : List Line} (h : Lines.Continue ls ks) (h' : Lines.Continue ks ms) :
    Lines.Continue ls ms :=
  Lines.trans_of_forall₂ (fun _ _ _ first next => first.trans next) h h'

theorem ids {ls ks : List Line} (h : Lines.Continue ls ks) : ks.map Line.id = ls.map Line.id :=
  Lines.ids_of_forall₂ (fun _ _ h => congrArg ConnectionConfig.id h.config) h

/-- The first line of an identity is still the first one. -/
theorem find {ls ks : List Line} (h : Lines.Continue ls ks) {c : ConnectionId} {l : Line}
    (hl : ls.find? (fun l => l.id = c) = some l) :
    ∃ k, ks.find? (fun l => l.id = c) = some k ∧ l.Continues k :=
  Lines.find_of_forall₂ (fun _ _ h => congrArg ConnectionConfig.id h.config) h hl

end Lines.Continue

/-- A desk as it may be later, with the same line in hand. -/
structure Desk.Continues (w v : Desk) : Prop where
  before : Lines.Continue w.before v.before
  line : w.line.Continues v.line
  after : Lines.Continue w.after v.after

namespace Desk.Continues

variable {w v u : Desk}

theorem refl (w : Desk) : w.Continues w := ⟨.refl _, .refl _, .refl _⟩

theorem trans (h : w.Continues v) (h' : v.Continues u) : w.Continues u :=
  ⟨h.before.trans h'.before, h.line.trans h'.line, h.after.trans h'.after⟩

theorem lines (h : w.Continues v) : Lines.Continue w.lines v.lines :=
  List.rel_append h.before (.cons h.line h.after)

/-- Only the line in hand changes. -/
theorem of_line (hb : v.before = w.before) (ha : v.after = w.after)
    (hl : w.line.Continues v.line) : w.Continues v := by
  refine ⟨?_, hl, ?_⟩
  · rw [hb]
    exact .refl _
  · rw [ha]
    exact .refl _

theorem dispose (s : SinkRef) (w : Desk) : w.Continues (w.dispose s).2 := by
  obtain ⟨before, line, after⟩ :=
    dispose_lines Line.Continues.refl Line.Continues.disposeAt s w
  exact ⟨before, line, after⟩

end Desk.Continues

theorem Step.continues {a b : Stage} (h : Step a b) : a.desk.Continues b.desk := by
  cases h with
  | aside h => cases h <;> exact .of_line rfl rfl (.of_sinks rfl rfl)
  | turn h => cases h <;> exact .of_line rfl rfl (.of_sinks rfl rfl)
  | shift h =>
    cases h with
    | enlist => exact .of_line rfl rfl (.of_concat rfl rfl)
    | refuse => exact .of_line rfl rfl (.of_concat rfl rfl)
    | finish => exact .of_line rfl rfl (.of_modify rfl rfl fun _ => rfl)
    | listen => exact .of_line rfl rfl (.of_modify rfl rfl fun _ => rfl)
    | dispose s => exact .dispose s _
    | _ => exact .of_line rfl rfl (.of_sinks rfl rfl)

theorem Path.continues {a b : Stage} (h : Path a b) : a.desk.Continues b.desk := by
  induction h with
  | refl => exact .refl _
  | tail _ step ih => exact ih.trans step.continues

/-! ## §2. Engines -/

/-- The desk has the first line of an identity in hand. -/
structure Desk.Holds (c : ConnectionId) (w : Desk) : Prop where
  before : ∀ l ∈ w.before, l.id ≠ c
  line : w.line.id = c

namespace Desk

variable {c : ConnectionId} {w v : Desk}

theorem Holds.find (h : w.Holds c) : w.lines.find? (fun l => l.id = c) = some w.line := by
  unfold lines
  rw [List.find?_append, List.find?_eq_none.mpr (by simpa using h.before)]
  simp [h.line]

/-- A sink of the connection is one of the line in hand. -/
theorem Holds.sinkAt? (h : w.Holds c) (i : Nat) : w.sinkAt? ⟨c, i⟩ = w.sink? i := by
  unfold Desk.sinkAt?
  rw [h.find]
  rfl

/-- Lines keep their identities, and so the first one of an identity stays in hand. -/
theorem Holds.of_ids (h : w.Holds c) (hb : v.before.map Line.id = w.before.map Line.id)
    (hl : v.line.id = w.line.id) : v.Holds c where
  before := by
    intro k hk
    have hid : k.id ∈ w.before.map Line.id := by
      rw [← hb]
      exact List.mem_map_of_mem hk
    obtain ⟨l, hl, heq⟩ := List.mem_map.mp hid
    rw [← heq]
    exact h.before l hl
  line := hl.trans h.line

theorem Holds.continues (h : w.Holds c) (hc : w.Continues v) : v.Holds c :=
  h.of_ids hc.before.ids (congrArg ConnectionConfig.id hc.line.config)

end Desk

/-- The lines before the one that is taken in hand have other identities. -/
theorem Registry.split_holds {c : ConnectionId} {ls before after : List Line} {l : Line}
    (h : split c ls = some (before, l, after)) : (∀ k ∈ before, k.id ≠ c) ∧ l.id = c := by
  induction ls generalizing before with
  | nil => cases h
  | cons k ks ih =>
    unfold split at h
    split at h
    case isTrue hk =>
      cases h
      exact ⟨by simp, hk⟩
    case isFalse hk =>
      obtain ⟨⟨b, l', a⟩, hs, heq⟩ := Option.map_eq_some_iff.mp h
      cases heq
      obtain ⟨hb, hl⟩ := ih hs
      refine ⟨?_, hl⟩
      intro k' hk'
      rcases List.mem_cons.mp hk' with rfl | hk'
      · exact hk
      · exact hb k' hk'

namespace Engine

/-- The sink of a reference. -/
def sink? (e : Engine) (s : SinkRef) : Option Sink :=
  (e.registry.get? s.connection).bind fun l => l.sink? s.place

/-- An engine as it may be later. -/
def Continues (e e' : Engine) : Prop := Lines.Continue e.registry.lines e'.registry.lines

variable {e e' : Engine} {c : ConnectionId}

theorem Continues.sink? (h : e.Continues e') {s : SinkRef} {k : Sink} (hk : e.sink? s = some k) :
    ∃ k', e'.sink? s = some k' ∧ k'.rule = k.rule := by
  obtain ⟨l, hl, hk⟩ := Option.bind_eq_some_iff.mp hk
  obtain ⟨l', hl', hcont⟩ := Lines.Continue.find h hl
  obtain ⟨k', hk', hr⟩ := hcont.rule s.place k hk
  exact ⟨k', Option.bind_eq_some_iff.mpr ⟨l', hl', hk'⟩, hr⟩

/-- Work on a connection is work on a desk that has its line in hand. -/
theorem at?_eq_some {α : Type} {f : Desk → α × Desk} {a : α} (h : e.at? c f = some (a, e')) :
    ∃ w : Desk, w.Holds c ∧ w.lines = e.registry.lines ∧ w.shared = e.shared ∧
      (f w).1 = a ∧ e' = e.ofDesk (f w).2 := by
  obtain ⟨w, hw, heq⟩ := Option.map_eq_some_iff.mp h
  obtain ⟨⟨before, l, after⟩, hs, rfl⟩ := Option.map_eq_some_iff.mp hw
  obtain ⟨hb, hl⟩ := Registry.split_holds hs
  cases heq
  exact ⟨{ before, line := l, after, shared := e.shared }, ⟨hb, hl⟩,
    (Registry.split_eq_some hs).1.symm, rfl, rfl, rfl⟩

/-- A connection that is known can be worked on, with its line in hand. -/
theorem at?_of_get? {l : Line} (hl : e.registry.get? c = some l) : ∃ w : Desk, w.Holds c ∧
    w.line = l ∧ w.shared = e.shared ∧
      ∀ {α : Type} (f : Desk → α × Desk), e.at? c f = some ((f w).1, e.ofDesk (f w).2) := by
  have there : (Registry.split c e.registry.lines).isSome = true := by
    rw [Registry.split_isSome, show Registry.findLine c e.registry.lines = some l from hl]
    rfl
  obtain ⟨⟨before, k, after⟩, hs⟩ := Option.isSome_iff_exists.mp there
  have hk : Registry.findLine c e.registry.lines = some k := (Registry.split_eq_some hs).2
  obtain rfl : l = k := Option.some.inj (hl.symm.trans hk)
  obtain ⟨hb, hid⟩ := Registry.split_holds hs
  refine ⟨{ before, line := l, after, shared := e.shared }, ⟨hb, hid⟩, rfl, rfl, ?_⟩
  intro α f
  rw [at?, Registry.desk?, hs]
  rfl

/-- The line in hand is the connection's. -/
theorem get?_ofDesk (e : Engine) {w : Desk} (hw : w.Holds c) :
    (e.ofDesk w).registry.get? c = some w.line := hw.find

theorem exec_continues {op : Operation} {a : Answer} (h : e.exec op c = some (a, e')) :
    e.Continues e' := by
  obtain ⟨w, -, hl, -, -, rfl⟩ := at?_eq_some h
  show Lines.Continue e.registry.lines (op.exec w).2.lines
  rw [← hl]
  exact (op.exec_path w []).continues.lines

/-- Operations on connections, one after the other; one on a connection that is not known does
nothing. -/
def execAll : List (ConnectionId × Operation) → Engine → Engine
  | [], e => e
  | (c, op) :: rest, e =>
    match e.exec op c with
    | none => execAll rest e
    | some (_, e) => execAll rest e

theorem execAll_continues (acts : List (ConnectionId × Operation)) (e : Engine) :
    e.Continues (execAll acts e) := by
  induction acts generalizing e with
  | nil => exact .refl _
  | cons act rest ih =>
    unfold execAll
    split
    case h_1 => exact ih e
    case h_2 h => exact (exec_continues h).trans (ih _)

end Engine

end Correlator
