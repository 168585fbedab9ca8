/-
  Correlator.Proofs.Tandem — TWO ENGINES SIDE BY SIDE.

  Two engines are given the same errands.  In the second one some sinks that
  only subscriptions listen at are out of play: they have left their active
  phase and the active set.  Whatever an errand does with the lines of the first
  engine it does with those of the second, and what is out of play makes no
  difference to anything else.

  An outline of an engine shows it without its sinks and without what has
  happened: its lines with their states, drops and active sets, the barrier, and
  the names.

  Main results:
    * `Engine.Twins` — how two engines agree,
    * `Engine.Twins.act`, `Engine.Twins.actAll` — they stay in agreement,
    * `Engine.Twins.outline` — and what their outlines have in common.
-/
import Correlator.Proofs.Errands
import Correlator.Proofs.Lockstep
import Correlator.Proofs.Readings
namespace Correlator

/-! ## §1. Two engines -/

/-- An engine in the first run and in the second. -/
structure Engine.Twins (keeps : SinkRef → Bool) (e g : Engine) : Prop where
  lines : Lines.Twins keeps e.registry.lines g.registry.lines
  index : g.registry.names = e.registry.names
  config : g.config = e.config
  factory : g.factory = e.factory
  barrier : g.shared.barrier = e.shared.barrier
  names : g.shared.names = e.shared.names
  issued : g.shared.issued = e.shared.issued

/-- A line is among others if its identity is. -/
theorem Registry.isSome_findLine {c : ConnectionId} {ls : List Line} :
    (findLine c ls).isSome = true ↔ c ∈ ls.map Line.id := by
  unfold findLine
  simp [List.find?_isSome]

namespace Lines.Twins

variable {keeps : SinkRef → Bool}

theorem ids {ls ks : List Line} (h : Lines.Twins keeps ls ks) :
    ks.map Line.id = ls.map Line.id := by
  induction h with
  | nil => rfl
  | cons first _ ih => rw [List.map_cons, List.map_cons, ih, first.id]

/-- The first line of an identity is at the same place in both runs. -/
theorem split {c : ConnectionId} {w v : Desk} (hw : w.Holds c) (hv : v.Holds c)
    (h : Lines.Twins keeps w.lines v.lines) : Lines.Twins keeps w.before v.before ∧
      Line.Twins .plain keeps w.line v.line ∧ Lines.Twins keeps w.after v.after := by
  obtain ⟨before, l, after, shared⟩ := w
  obtain ⟨before', l', after', shared'⟩ := v
  have other := hw.before
  have other' := hv.before
  unfold Desk.lines at h
  dsimp only at h other other' ⊢
  induction before generalizing before' with
  | nil =>
    cases before' with
    | nil =>
      cases h with
      | cons first rest => exact ⟨.nil, first, rest⟩
    | cons k ks =>
      cases h with
      | cons first rest => exact absurd (first.id.trans hw.line) (other' k List.mem_cons_self)
  | cons m ms ih =>
    cases before' with
    | nil =>
      cases h with
      | cons first rest => exact absurd (first.id.symm.trans hv.line) (other m List.mem_cons_self)
    | cons k ks =>
      cases h with
      | cons first rest =>
        have others : ∀ l ∈ ms, l.id ≠ c := fun l hl => other l (List.mem_cons_of_mem _ hl)
        have others' : ∀ l ∈ ks, l.id ≠ c := fun l hl => other' l (List.mem_cons_of_mem _ hl)
        obtain ⟨hb, hl, ha⟩ := ih ⟨others, hw.line⟩ ks ⟨others', hv.line⟩ rest others others'
        exact ⟨.cons first hb, hl, ha⟩

end Lines.Twins

namespace Engine.Twins

variable {keeps : SinkRef → Bool} {e g : Engine} {c : ConnectionId}

/-- An engine is as it is. -/
theorem refl (e : Engine) : e.Twins (fun _ => true) e where
  lines := List.forall₂_same.mpr fun l _ => .refl _ l fun _ => rfl
  index := rfl
  config := rfl
  factory := rfl
  barrier := rfl
  names := rfl
  issued := rfl

/-- A connection is known in both runs, or in none. -/
theorem known (h : e.Twins keeps g) (c : ConnectionId) :
    (g.registry.get? c).isSome = (e.registry.get? c).isSome := by
  rw [Bool.eq_iff_iff]
  show (Registry.findLine c _).isSome = true ↔ (Registry.findLine c _).isSome = true
  rw [Registry.isSome_findLine, Registry.isSome_findLine, h.lines.ids]

theorem unknown (h : e.Twins keeps g) (hc : e.registry.get? c = none) :
    g.registry.get? c = none := by
  rw [← Option.not_isSome_iff_eq_none, h.known, hc]
  exact Bool.false_ne_true

/-- A line is taken in hand in both runs. -/
theorem hands (h : e.Twins keeps g) {w : Desk} (hw : e.Hands c w) : ∃ v, g.Hands c v ∧
    Desk.Twins ⟨.plain, keeps, c, w.shared.calls, v.shared.calls⟩ w v := by
  have there : (g.registry.get? c).isSome = true := by
    rw [h.known, hw.get?]
    rfl
  obtain ⟨l, hl⟩ := Option.isSome_iff_exists.mp there
  obtain ⟨v, hv, -⟩ := Engine.hands hl
  have lines := h.lines
  rw [← hw.lines, ← hv.lines] at lines
  obtain ⟨before, line, after⟩ := Lines.Twins.split hw.holds hv.holds lines
  refine ⟨v, hv, hw.holds.line, line, before, after, ?_, ?_, ?_, [], ?_, ?_⟩
  · rw [hw.shared, hv.shared, h.barrier]
  · rw [hw.shared, hv.shared, h.names]
  · rw [hw.shared, hv.shared, h.issued]
  · exact (List.append_nil _).symm
  · exact (List.append_nil _).symm

theorem ofDesk (h : e.Twins keeps g) {p : Pairing} (hp : p.guise = .plain) (hk : p.keeps = keeps)
    {w v : Desk} (hd : Desk.Twins p w v) : (e.ofDesk w).Twins keeps (g.ofDesk v) where
  lines := by
    have line := hd.line
    have before := hd.before
    have after := hd.after
    rw [hk] at before after
    rw [hp, hk] at line
    exact List.rel_append before (.cons line after)
  index := h.index
  config := h.config
  factory := h.factory
  barrier := hd.shared.barrier
  names := hd.shared.names
  issued := hd.shared.issued

/-- Work that keeps two desks in agreement keeps two engines in agreement. -/
theorem onLine (h : e.Twins keeps g) {f f' : Desk → Desk}
    (hf : ∀ {p : Pairing} {w v : Desk}, p.guise = .plain → p.keeps = keeps → w.Holds c →
      v.Holds c → Desk.Twins p w v → Desk.Twins p (f w) (f' v)) :
    (e.onLine c f).Twins keeps (g.onLine c f') := by
  rcases e.known_cases c with unknown | ⟨w, hw⟩
  · rw [onLine_of_unknown unknown, onLine_of_unknown (h.unknown unknown)]
    exact h
  · obtain ⟨v, hv, twins⟩ := h.hands hw
    rw [hw.onLine, hv.onLine]
    exact h.ofDesk rfl rfl (hf rfl rfl hw.holds hv.holds twins)

end Engine.Twins

/-! ## §2. Work on one line -/

/-- The buffer of a subscription is changed; a subscription that is out of play stays one. -/
theorem Sink.Twins.mapBuffer {inPlay : Bool} {s t : Sink} (h : Sink.Twins .plain inPlay s t)
    (f : Stream → Stream) : Sink.Twins .plain inPlay (s.mapBuffer f) (t.mapBuffer f) where
  kept hp := by
    have same : t = s := (h.kept hp).trans s.under_plain
    rw [same, Sink.under_plain]
  left hp := by
    obtain ⟨⟨q, hq⟩, ⟨q', hq'⟩, ht⟩ := h.left hp
    rw [Sink.mapBuffer_of_stream hq, Sink.mapBuffer_of_stream hq']
    exact ⟨⟨f q, rfl⟩, ⟨f q', rfl⟩, ht⟩

namespace Desk.Twins

variable {p : Pairing} {w v : Desk} {s : SinkRef}

/-- The buffer of a subscription of the line in hand is changed. -/
theorem mapBuffer (h : Desk.Twins p w v) (hp : p.guise = .plain) (hs : w.line.id = s.connection)
    (f : Stream → Stream) : Desk.Twins p (w.mapSinkAt s fun k => k.mapBuffer f)
      (v.mapSinkAt s fun k => k.mapBuffer f) := by
  unfold Desk.mapSinkAt
  rw [if_pos hs, if_pos (h.line.id.trans hs)]
  refine h.mapSink s.place fun k k' twins => ?_
  rw [hp] at twins ⊢
  exact twins.mapBuffer f

/-- A subscription is read from. -/
theorem poll (h : Desk.Twins p w v) (hp : p.guise = .plain) (hw : w.Holds s.connection)
    (hv : v.Holds s.connection) : Desk.Twins p (w.poll s).2 (v.poll s).2 := by
  have read := h.mapBuffer hp hw.line fun q => q.poll.2
  have buffer : (v.bufferAt? s).isSome = (w.bufferAt? s).isSome := by
    rw [hw.bufferAt? s.place, hv.bufferAt? s.place]
    rcases h.sink_cases s.place with ⟨hk, hk'⟩ | ⟨k, k', hk, hk', twins⟩ <;> rw [hk, hk']
    cases hin : p.keepsAt s.place with
    | true =>
      rw [hp] at twins
      rw [twins.kept hin, Sink.under_plain]
    | false =>
      -- Out of play there are only subscriptions.
      obtain ⟨⟨q, hq⟩, ⟨q', hq'⟩, -⟩ := twins.left hin
      show k'.buffer?.isSome = k.buffer?.isSome
      rw [Sink.buffer?_eq_some.mpr hq, Sink.buffer?_eq_some.mpr hq']
      rfl
  unfold Desk.poll
  cases hb : w.bufferAt? s with
  | none =>
    rw [hb] at buffer
    have none : v.bufferAt? s = none := by
      rw [← Option.not_isSome_iff_eq_none, buffer]
      exact Bool.false_ne_true
    rw [none]
    exact h
  | some q =>
    rw [hb] at buffer
    obtain ⟨q', hq'⟩ := Option.isSome_iff_exists.mp buffer
    rw [hq']
    exact read

/-- A subscription is ended by its owner. -/
theorem endSubscription (h : Desk.Twins p w v) (hp : p.guise = .plain)
    (hs : w.line.id = s.connection) :
    Desk.Twins p (w.endSubscription s).2 (v.endSubscription s).2 := by
  have line : (w.dispose s).2.line.id = s.connection :=
    (Desk.kept_dispose (f := Line.id) (fun i l =>
      congrArg ConnectionConfig.id (Line.config_disposeAt i l)) s w).trans hs
  exact (h.dispose s).mapBuffer hp line _

/-- A rule learns the message as it was sent. -/
theorem onSent (h : Desk.Twins p w v) (hp : p.guise = .plain) (i : Nat) (sent : Message) :
    Desk.Twins p (w.mapSink i fun k => { k with rule := k.rule.onSent sent })
      (v.mapSink i fun k => { k with rule := k.rule.onSent sent }) := by
  refine h.mapSink i fun k k' twins => ⟨fun hk => ?_, fun hk => twins.left hk⟩
  rw [hp] at twins ⊢
  rw [twins.kept hk, Sink.under_plain, Sink.under_plain]

theorem subscribeWith (h : Desk.Twins p w v) (hp : p.guise = .plain) (rule : Rule) :
    Desk.Twins p (w.subscribeWith (w.caller 0) rule).2 (v.subscribeWith (v.caller 0) rule).2 := by
  have subscribed := (Desk.Twins.callers (p := p) (w.budget + 0)).subscribe rule h
  rw [hp] at subscribed
  have caller : v.caller 0 = Desk.callWith (Desk.perform (w.budget + 0)) := by
    unfold Desk.caller Desk.budget
    rw [h.line.weight]
  rw [caller]
  exact subscribed

theorem setReader (h : Desk.Twins p w v) (name : String) (r : SinkRef) (reader : Reader) :
    Desk.Twins p (w.setReader name r reader) (v.setReader name r reader) :=
  h.mapShared ⟨h.shared.barrier, congrArg (Directory.enter name ⟨r, reader⟩) h.shared.names,
    h.shared.issued, h.shared.calls⟩

end Desk.Twins

/-! ## §3. Errands -/

/-- A connection that is known stays so. -/
theorem Engine.Moves.known {altered : Option SinkRef} {e f : Engine} (h : Moves altered e f)
    {c : ConnectionId} (hc : (e.registry.get? c).isSome = true) :
    (f.registry.get? c).isSome = true := by
  induction h with
  | refl => exact hc
  | trans _ _ ih ik => exact ik (ih hc)
  | work h hd =>
    refine Registry.isSome_findLine.mpr ?_
    have hc := Registry.isSome_findLine.mp hc
    rw [← h.lines, ← hd.others.ids hd.id] at hc
    exact hc
  | register =>
    refine Registry.isSome_findLine.mpr ?_
    have hc := Registry.isSome_findLine.mp hc
    rw [List.map_append]
    exact List.mem_append_left _ hc
  | shared => exact hc

namespace Engine.Twins

variable {keeps : SinkRef → Bool} {e g : Engine}

/-- What concerns no line and is no callback is written down in the first run. -/
theorem note_left (h : e.Twins keeps g) (n : Notice) : (e.note n).Twins keeps g :=
  ⟨h.lines, h.index, h.config, h.factory, h.barrier, h.names, h.issued⟩

theorem note_right (h : e.Twins keeps g) (n : Notice) : e.Twins keeps (g.note n) :=
  ⟨h.lines, h.index, h.config, h.factory, h.barrier, h.names, h.issued⟩

theorem note (h : e.Twins keeps g) (n : Notice) : (e.note n).Twins keeps (g.note n) :=
  (h.note_left n).note_right n

theorem notes (h : e.Twins keeps g) (ns : List Notice) :
    Twins keeps { e with shared := e.shared.notes none ns }
      { g with shared := g.shared.notes none ns } := by
  induction ns generalizing e g with
  | nil => exact h
  | cons n ns ih => exact ih (h.note n)

theorem operate (h : e.Twins keeps g) (c : ConnectionId) (op : Operation) :
    (e.act (.operate c op)).Twins keeps (g.act (.operate c op)) := by
  rw [act_operate, act_operate]
  refine h.onLine fun {p w v} hp _ _ _ twins => ?_
  have performed := twins.exec op
  rwa [hp, Operation.under_plain] at performed

theorem report (h : e.Twins keeps g) (c : ConnectionId) (r : Report) :
    (e.act (.report c r)).Twins keeps (g.act (.report c r)) := by
  have operated := h.operate c r.operation
  rcases e.act_report c r with he | ⟨n, he⟩ <;>
  rcases g.act_report c r with hg | ⟨n', hg⟩ <;> rw [he, hg]
  · exact operated
  · exact operated.note_right n'
  · exact operated.note_left n
  · exact (operated.note_left n).note_right n'

theorem closeLines (h : e.Twins keeps g) (cs : List ConnectionId) :
    (Engine.closeLines cs e).Twins keeps (Engine.closeLines cs g) := by
  induction cs generalizing e g with
  | nil => exact h
  | cons c cs ih =>
    rw [closeLines_cons, closeLines_cons]
    exact ih (h.operate c .close)

/-- A new line is the same in both runs, since no sink of it is out of play. -/
theorem register (h : e.Twins keeps g)
    (hk : ∀ s, keeps s = false → (e.registry.get? s.connection).isSome = true)
    (config : ConnectionConfig) :
    (e.act (.register config)).Twins keeps (g.act (.register config)) := by
  rw [act_register, act_register, h.known, h.index, h.config]
  split
  case isTrue => exact h
  case isFalse hnew =>
    obtain ⟨-, unknown⟩ := not_or.mp hnew
    have fresh : ∀ i, keeps ⟨config.id, i⟩ = true := fun i =>
      (Bool.not_eq_false _).mp fun hout => unknown (hk _ hout)
    let line : Line := .ofConfig config e.config.sinkCapacity
    have lines : Lines.Twins keeps (e.registry.lines ++ [line]) (g.registry.lines ++ [line]) :=
      List.rel_append h.lines (.cons (.refl keeps line fresh) .nil)
    refine Twins.note ?_ _
    exact ⟨lines, rfl, rfl, h.factory, h.barrier, h.names, h.issued⟩

/-- **One errand** is done in both runs. -/
theorem act (h : e.Twins keeps g)
    (hk : ∀ s, keeps s = false → (e.registry.get? s.connection).isSome = true) (a : Errand) :
    (e.act a).Twins keeps (g.act a) := by
  cases a with
  | operate c op => exact h.operate c op
  | report c r => exact h.report c r
  | register config => exact h.register hk config
  | close =>
    show Twins keeps ((Engine.closeLines (byText (e.registry.lines.map Line.id)) e).note _)
      ((Engine.closeLines (byText (g.registry.lines.map Line.id)) g).note _)
    rw [h.lines.ids]
    exact (h.closeLines _).note _
  | awaitStartup k limit =>
    rw [act_awaitStartup, act_awaitStartup, h.barrier]
    split
    case isTrue => exact h
    case isFalse =>
      show Twins keeps { e with shared := e.shared.notes none _ } { g with
        shared := g.shared.notes none (Barrier.waitNotices (g.shared.barrier.verdict limit)) }
      rw [h.barrier]
      exact h.notes _
  | awaitAnnounced limit =>
    show Twins keeps { e with shared := e.shared.notes none _ } { g with
      shared := g.shared.notes none (Barrier.waitNotices (g.shared.barrier.waitAnnounced limit)) }
    rw [h.barrier]
    exact h.notes _
  | beginSend c =>
    rw [act_beginSend, act_beginSend]
    refine h.onLine fun {p w v} _ _ _ _ twins => ?_
    rw [twins.line.state]
    split
    · exact twins.note _
    · exact twins
  | finishSend c answer =>
    cases answer with
    | error x => exact h.onLine fun _ _ _ _ twins => twins.note _
    | ok sent => exact h
  | beginCorrelated c factory request =>
    rw [act_beginCorrelated, act_beginCorrelated]
    refine h.onLine fun {p w v} hp _ _ _ twins => ?_
    rw [twins.line.state]
    split
    · exact (twins.subscribeWith hp _).note _
    · exact twins
  | finishCorrelated s answer =>
    cases answer with
    | error x =>
      refine h.onLine fun hp _ hw _ twins => ?_
      exact (twins.note _).endSubscription hp hw.line
    | ok sent => exact h.onLine fun hp _ _ _ twins => (twins.onSent hp _ sent).note _
  | enterSubscription name s =>
    rw [act_enterSubscription, act_enterSubscription]
    exact h.onLine fun _ _ _ _ twins => twins.enter name _
  | setReader name s r => exact h.onLine fun _ _ _ _ twins => twins.setReader name s r
  | poll s => exact h.onLine fun hp _ hw hv twins => twins.poll hp hw hv
  | endSubscription s => exact h.onLine fun hp _ hw _ twins => twins.endSubscription hp hw.line

/-- **Errands, one after the other**, are done in both runs. -/
theorem actAll (h : e.Twins keeps g)
    (hk : ∀ s, keeps s = false → (e.registry.get? s.connection).isSome = true)
    (as : List Errand) : (Engine.actAll as e).Twins keeps (Engine.actAll as g) := by
  induction as generalizing e g with
  | nil => exact h
  | cons a as ih => exact ih (h.act hk a) fun s hs => (moves a e).known (hk s hs)

end Engine.Twins

/-! ## §4. Outlines -/

/-- A line without its sinks; it shows its active set. -/
def Line.outline (l : Line) : Line := l.mapMux fun x => { x with sinks := [] }

/-- The same, with those places of the active set only that are in play. -/
def Line.outlineOf (keeps : SinkRef → Bool) (l : Line) : Line :=
  l.mapMux fun x => { x with sinks := [], active := x.active.filter fun i => keeps ⟨l.id, i⟩ }

/-- An engine without its sinks and without what has happened: the lines with their states, their
drops and their active sets, the barrier, and the names. -/
def Engine.outline (e : Engine) : Engine where
  registry := { lines := e.registry.lines.map Line.outline, names := e.registry.names }
  shared := { barrier := e.shared.barrier, names := e.shared.names }
  config := e.config
  factory := e.factory

/-- The same, with what is in play only. -/
def Engine.outlineOf (keeps : SinkRef → Bool) (e : Engine) : Engine where
  registry := { lines := e.registry.lines.map (Line.outlineOf keeps), names := e.registry.names }
  shared := { barrier := e.shared.barrier, names := e.shared.names }
  config := e.config
  factory := e.factory

theorem Line.Twins.outline {g : Guise} {keeps : SinkRef → Bool} {l k : Line}
    (h : Line.Twins g keeps l k) : k.outline = l.outlineOf keeps := by
  show k.bare.mapMux (fun x => { x with active := k.mux.active }) = _
  rw [h.bare, h.active]
  rfl

theorem Lines.Twins.outline {keeps : SinkRef → Bool} {ls ks : List Line}
    (h : Lines.Twins keeps ls ks) : ks.map Line.outline = ls.map (Line.outlineOf keeps) := by
  induction h with
  | nil => rfl
  | cons first _ ih => rw [List.map_cons, List.map_cons, first.outline, ih]

namespace Engine

variable {keeps : SinkRef → Bool} {e g : Engine}

/-- **The second engine shows what is in play in the first.** -/
theorem Twins.outline (h : e.Twins keeps g) : g.outline = e.outlineOf keeps := by
  unfold Engine.outline Engine.outlineOf
  rw [h.lines.outline, h.index, h.config, h.factory, h.barrier, h.names]

theorem outlineOf_all (e : Engine) : e.outlineOf (fun _ => true) = e.outline :=
  (Twins.refl e).outline.symm

end Engine

end Correlator
