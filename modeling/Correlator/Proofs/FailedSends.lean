/-
  Correlator.Proofs.FailedSends — A FAILED SEND LEAVES NOTHING BEHIND.

  A send that is refused changes nothing and never reaches the transport.  One
  that the transport answers with an error has been split in two by then, and
  anything may have happened in between: the sink of the request may have been
  delivered to, terminated, closed or disposed, and other sinks may have been
  made.  What the failure leaves is compared with what it would have left if the
  transport had failed at once and the rest had happened afterwards.

  Main results:
    * `Engine.sendBy`, `Engine.sendCorrelatedBy` — sends by any transport,
    * `Engine.Sound.withdraw` — the subscription of a failed request is out of
      play, and nothing else is changed,
    * `Engine.Hands.outline_beginCorrelated` — a subscription alone makes no
      difference,
    * `Engine.Silent` — a sink that hears nothing any more,
    * `Exchange.send_of_failure`, `Exchange.sendCorrelated_of_failure` — the
      rehearsed transport,
    * `EngineBuilder.failed_sends` — every send on every engine.
-/
import Correlator.Proofs.Ledgers
import Correlator.Proofs.Tandem
namespace Correlator

/-! ## §1. A subscription is withdrawn -/

/-- Every sink but one. -/
def SinkRef.allBut (s r : SinkRef) : Bool := r ≠ s

@[simp] theorem SinkRef.allBut_iff {s r : SinkRef} : s.allBut r = true ↔ r ≠ s := by
  simp [allBut]

theorem SinkRef.allBut_eq_false {s r : SinkRef} : s.allBut r = false ↔ r = s := by
  simp [allBut]

/-- Once a subscription is disposed it is out of play. -/
theorem Line.Twins.strikeOut {l : Line} {i : Nat} {k : Sink} {q : Stream}
    (hlive : l.mux.released = false) (hk : l.sink? i = some k) (hq : k.listener = .stream q) :
    Line.Twins .plain (SinkRef.allBut ⟨l.id, i⟩) l (l.disposeAt i).2 where
  bare := by
    rw [snd_disposeAt]
    rfl
  active := by
    rw [mux_disposeAt i hlive]
    show l.mux.active.filter _ = _
    refine List.filter_congr fun j _ => ?_
    simp [SinkRef.allBut]
  sinks j := by
    show Option.Rel _ (l.mux.sinks[j]?) ((l.disposeAt i).2.mux.sinks[j]?)
    rw [sinks_disposeAt, List.getElem?_modify]
    cases hj : l.mux.sinks[j]? with
    | none => exact .none
    | some k' =>
      rw [Option.map_eq_map, Option.map_some]
      by_cases hij : i = j
      · subst hij
        obtain rfl : k' = k := Option.some.inj (hj.symm.trans hk)
        rw [if_pos rfl]
        refine .some ⟨fun hin => absurd rfl (SinkRef.allBut_iff.mp hin), fun _ => ⟨⟨q, hq⟩, ?_⟩⟩
        split
        case isTrue =>
          refine ⟨⟨q, hq⟩, ?_⟩
          show Phase.disposed ≠ .active
          decide
        case isFalse idle => exact ⟨⟨q, hq⟩, fun ha => idle (Sink.isActive_iff.mpr ha)⟩
      · rw [if_neg hij]
        refine .some ⟨fun _ => k'.under_plain.symm, fun hout => ?_⟩
        exact absurd (congrArg SinkRef.place (SinkRef.allBut_eq_false.mp hout)).symm hij
  fresh j hj := by
    have lt : i < l.mux.sinks.length := (List.getElem?_eq_some_iff.mp hk).1
    rw [SinkRef.allBut_iff]
    intro h
    have h : j = i := congrArg SinkRef.place h
    omega

/-- Lines of other connections are all in play. -/
theorem Lines.Twins.other {s : SinkRef} {ls : List Line} (h : ∀ l ∈ ls, l.id ≠ s.connection) :
    Lines.Twins s.allBut ls ls := by
  induction ls with
  | nil => exact .nil
  | cons l ls ih =>
    refine .cons (.refl _ l fun i => ?_) (ih fun k hk => h k (List.mem_cons_of_mem _ hk))
    rw [SinkRef.allBut_iff]
    rintro rfl
    exact h l List.mem_cons_self rfl

/-- The owner of a subscription ends it, and nothing else is changed. -/
theorem Desk.Twins.withdraw {w : Desk} {s : SinkRef} {k : Sink} {q : Stream}
    (hw : w.Holds s.connection) (ha : ∀ l ∈ w.after, l.id ≠ s.connection)
    (hlive : w.line.mux.released = false) (hk : w.sink? s.place = some k)
    (hq : k.listener = .stream q) :
    Desk.Twins ⟨.plain, s.allBut, s.connection, w.shared.calls, w.shared.calls⟩ w
      (w.endSubscription s).2 := by
  let p : Pairing := ⟨.plain, s.allBut, s.connection, w.shared.calls, w.shared.calls⟩
  have line : Line.Twins .plain s.allBut w.line (w.line.disposeAt s.place).2 := by
    have out := Line.Twins.strikeOut hlive hk hq
    rwa [hw.line] at out
  have struck : Desk.Twins p w { w with line := (w.line.disposeAt s.place).2 } := by
    refine ⟨hw.line, line, .other hw.before, .other ha, rfl, rfl, rfl, [], ?_, ?_⟩
    · exact (List.append_nil _).symm
    · exact (List.append_nil _).symm
  have disposed : Desk.Twins p w (w.dispose s).2 := by
    have striking : Desk.Twins p w (w.strike s).2 := by
      unfold Desk.strike
      rw [if_pos hw.line]
      dsimp only
      split
      · exact struck.noteDisposal_right _
      · exact struck
    exact striking.record_right _ rfl
  have own : (w.dispose s).2.line.id = s.connection := disposed.line.id.trans hw.line
  unfold Desk.endSubscription Desk.mapSinkAt
  dsimp only
  rw [if_pos own]
  refine ⟨hw.line, disposed.line.mapSink_right fun k k' twins => ⟨fun hin => ?_, fun hout => ?_⟩,
    disposed.before, disposed.after, disposed.shared⟩
  · rw [hw.line] at hin
    exact absurd rfl (SinkRef.allBut_iff.mp hin)
  · obtain ⟨hs, ⟨q', hq'⟩, hp⟩ := twins.left hout
    rw [Sink.mapBuffer_of_stream hq']
    exact ⟨hs, ⟨_, rfl⟩, hp⟩

namespace Engine

variable {e g : Engine} {s : SinkRef} {k : Sink}

/-- The line of a sink is taken in hand. -/
theorem hands_of_sink (hk : e.sink? s = some k) :
    ∃ w, e.Hands s.connection w ∧ w.sink? s.place = some k := by
  obtain ⟨l, hl, hk⟩ := Option.bind_eq_some_iff.mp hk
  obtain ⟨w, hw, rfl⟩ := hands hl
  exact ⟨w, hw, hk⟩

/-- **The subscription of a failed request is withdrawn**: it is out of play, and nothing else is
changed. -/
theorem Sound.withdraw (he : e.Sound) (hk : e.sink? s = some k)
    (hb : k.buffer?.isSome = true) (x : TransportError) :
    e.Twins s.allBut (e.finishCorrelated s (.error x)).2 := by
  obtain ⟨w, hw, hk⟩ := hands_of_sink hk
  obtain ⟨q, hq⟩ := Option.isSome_iff_exists.mp hb
  have hq : k.listener = .stream q := Sink.buffer?_eq_some.mp hq
  let v : Desk := w.note .transportRejected
  have live : w.line.mux.released = false := (he.each _ hw.mem).live
  have holds : v.Holds s.connection := ⟨hw.holds.before, hw.holds.line⟩
  have ended : Desk.Twins _ v (v.endSubscription s).2 :=
    .withdraw holds (hw.after he) live hk hq
  show e.Twins s.allBut (e.onLine s.connection _)
  rw [hw.onLine]
  have lines : Lines.Twins s.allBut v.lines (v.endSubscription s).2.lines :=
    List.rel_append ended.before (.cons ended.line ended.after)
  have barrier : w.shared.barrier = e.shared.barrier := congrArg Shared.barrier hw.shared
  have names : w.shared.names = e.shared.names := congrArg Shared.names hw.shared
  have issued : w.shared.issued = e.shared.issued := congrArg Shared.issued hw.shared
  refine ⟨?_, rfl, rfl, rfl, ended.shared.barrier.trans barrier, ended.shared.names.trans names,
    ended.shared.issued.trans issued⟩
  rw [← hw.lines]
  exact lines

/-- A sink that is out of play is there and has left its active phase. -/
theorem Twins.sink_left {keeps : SinkRef → Bool} (h : e.Twins keeps g) (hs : keeps s = false)
    (hk : e.sink? s = some k) : ∃ k', g.sink? s = some k' ∧ k'.phase ≠ .active := by
  obtain ⟨w, hw, hk⟩ := hands_of_sink hk
  obtain ⟨v, hv, twins⟩ := h.hands hw
  rcases twins.sink_cases s.place with ⟨hnone, -⟩ | ⟨k₁, k₂, -, hk₂, out⟩
  · rw [hnone] at hk
    cases hk
  · obtain ⟨-, -, hp⟩ := out.left hs
    exact ⟨k₂, Option.bind_eq_some_iff.mpr ⟨v.line, hv.get?, hk₂⟩, hp⟩

end Engine

/-! ## §2. A subscription alone makes no difference -/

/-- A subscription is there at the place. -/
def Desk.Subscribed (i : Nat) (w : Desk) : Prop :=
  ∃ k q, w.sink? i = some k ∧ k.listener = .stream q

/-- Whatever is done is done to the sink at a place, but for the count of sinks and what has
happened. -/
structure Desk.Spares (i : Nat) (w v : Desk) : Prop where
  before : v.before = w.before
  after : v.after = w.after
  bare : v.line.bare = w.line.bare
  active : v.line.mux.active.filter (· ≠ i) = w.line.mux.active.filter (· ≠ i)
  barrier : v.shared.barrier = w.shared.barrier
  names : v.shared.names = w.shared.names
  subscribed : w.Subscribed i → v.Subscribed i

namespace Desk.Spares

variable {i : Nat} {w v u : Desk}

theorem refl (w : Desk) : Spares i w w := ⟨rfl, rfl, rfl, rfl, rfl, rfl, id⟩

theorem trans (h : Spares i w v) (k : Spares i v u) : Spares i w u where
  before := k.before.trans h.before
  after := k.after.trans h.after
  bare := k.bare.trans h.bare
  active := k.active.trans h.active
  barrier := k.barrier.trans h.barrier
  names := k.names.trans h.names
  subscribed hw := k.subscribed (h.subscribed hw)

theorem record (h : Spares i w v) (e : Event) : Spares i w (v.record e) :=
  h.trans ⟨rfl, rfl, rfl, rfl, rfl, rfl, id⟩

theorem note (h : Spares i w v) (n : Notice) : Spares i w (v.note n) := h.record _

/-- The sink itself is changed, and remains a subscription. -/
theorem mapSink (h : Spares i w v) {f : Sink → Sink}
    (hf : ∀ k q, k.listener = .stream q → ∃ q', (f k).listener = .stream q') :
    Spares i w (v.mapSink i f) := by
  refine h.trans ⟨rfl, rfl, rfl, rfl, rfl, rfl, ?_⟩
  rintro ⟨k, q, hk, hq⟩
  obtain ⟨q', hq'⟩ := hf k q hq
  exact ⟨f k, q', sink?_mapSink_self f hk, hq'⟩

/-- A callback to a subscription sets off nothing. -/
theorem tell (h : Spares i w v) (hv : v.Subscribed i) (depth : Nat) (c : Call) :
    Spares i w (v.tell (callWith (perform depth)) i c).2 := by
  obtain ⟨k, q, hk, hq⟩ := hv
  have taken : Spares i w ((v.record (.called i (k.listener.hearer c) c)).mapSink i fun k =>
      { k with listener := (k.listener.next c).2 }) := by
    refine (h.record _).mapSink fun k q hq => ⟨q.take c, ?_⟩
    show (k.listener.next c).2 = _
    rw [hq]
    rfl
  have called : (callWith (perform depth) i c v).2 = v.hear i k c := by
    have silent : (k.listener.next c).1 = none := by rw [hq]; rfl
    unfold callWith
    rw [hk]
    dsimp only
    rw [silent]
  have heard : Spares i w (v.hear i k c) := by
    unfold hear
    dsimp only
    split
    · exact taken.note _
    · exact taken
  rcases tell_snd (callWith (perform depth)) i c v with ht | ht <;> rw [ht, called]
  · exact heard
  · exact heard.note _

theorem finish (h : Spares i w v) (hv : v.Subscribed i) (depth : Nat) (phase : Phase) (c : Call) :
    Spares i w (v.finish (callWith (perform depth)) phase c i).2 := by
  have ended : Spares i v (v.mapSink i fun k => { k with phase }) :=
    (Spares.refl v).mapSink fun _ q hq => ⟨q, hq⟩
  unfold Desk.finish
  split
  case h_1 => exact h
  case h_2 =>
    split
    · exact (h.trans ended).tell (ended.subscribed hv) depth c
    · exact h

/-- A new subscription is made at the next place. -/
theorem seat (rule : Rule) (q : Stream) (w : Desk) :
    Spares w.line.mux.sinks.length w (w.seat rule (.stream q)) ∧
      (w.seat rule (.stream q)).Subscribed w.line.mux.sinks.length := by
  have there : (w.seat rule (.stream q)).Subscribed w.line.mux.sinks.length := by
    refine ⟨⟨w.shared.issued + 1, rule, .active, .stream q⟩, q, ?_, rfl⟩
    show (w.seat rule (.stream q)).line.mux.sinks[_]? = _
    rw [sinks_seat]
    simp
  exact ⟨⟨rfl, rfl, rfl, rfl, rfl, rfl, fun _ => there⟩, there⟩

/-- **A subscription is made**, whether it is closed or terminated at once or not. -/
theorem enrol (depth : Nat) (rule : Rule) (q : Stream) (w : Desk) :
    Spares w.line.mux.sinks.length w (w.enrol (callWith (perform depth)) rule (.stream q)).2 ∧
      (w.enrol (callWith (perform depth)) rule (.stream q)).2.Subscribed
        w.line.mux.sinks.length := by
  obtain ⟨seated, there⟩ := seat rule q w
  have noted : Spares w.line.mux.sinks.length (w.seat rule (.stream q))
      ((w.seat rule (.stream q)).note .sinkRefused) := (Spares.refl _).note _
  have made : Spares w.line.mux.sinks.length (w.seat rule (.stream q))
      (w.enrol (callWith (perform depth)) rule (.stream q)).2 := by
    unfold Desk.enrol
    dsimp only
    split
    · exact (Spares.refl _).finish there depth _ _
    · split
      · exact noted.finish (noted.subscribed there) depth _ _
      · have admitted : Spares w.line.mux.sinks.length (w.seat rule (.stream q))
            ((w.seat rule (.stream q)).mapMux fun x =>
              { x with active := x.active ++ [w.line.mux.sinks.length] }) := by
          refine ⟨rfl, rfl, rfl, ?_, rfl, rfl, id⟩
          show (w.line.mux.active ++ [_]).filter _ = w.line.mux.active.filter _
          simp
        exact admitted.note _
  exact ⟨seated.trans made, made.subscribed there⟩

/-- Without the sink that is spared nothing, the lines show the same. -/
theorem outlineOf {c : ConnectionId} (h : Spares i w v) (hc : w.line.id = c) :
    v.line.outlineOf (SinkRef.allBut ⟨c, i⟩) = w.line.bare.mapMux fun x =>
      { x with active := w.line.mux.active.filter (· ≠ i) } := by
  have id : v.line.id = c := (congrArg Line.id h.bare).trans hc
  have keeps : ∀ j, SinkRef.allBut ⟨c, i⟩ ⟨v.line.id, j⟩ = decide (j ≠ i) := by
    intro j
    simp [SinkRef.allBut, id]
  unfold Line.outlineOf
  simp only [keeps]
  show v.line.bare.mapMux (fun x => { x with active := v.line.mux.active.filter (· ≠ i) }) = _
  rw [h.bare, h.active]

end Desk.Spares

namespace Engine

variable {e : Engine} {c : ConnectionId} {w : Desk}

/-- **A request that is handed over** has a subscription at the next place of its line, and leaves
everything else as it was. -/
theorem Hands.outline_beginCorrelated (he : e.Sound) (hw : e.Hands c w)
    (hs : w.line.state.isEstablished = true) (factory : RuleFactory) (request : Message) :
    let s : SinkRef := ⟨c, w.line.mux.sinks.length⟩
    ∃ e₁, e.beginCorrelated c factory request = (.ok s, e₁) ∧ e.sink? s = none ∧
      e₁.outlineOf s.allBut = e.outline ∧
      ∃ k, e₁.sink? s = some k ∧ k.buffer?.isSome = true := by
  intro s
  obtain ⟨spares, there⟩ := Desk.Spares.enrol (w.budget + 0) (factory request)
    (.withCapacity w.line.mux.capacity) w
  let v : Desk := (w.subscribeWith (w.caller 0) (factory request)).2.note .transmitting
  have spares : Desk.Spares w.line.mux.sinks.length w v := spares.note .transmitting
  have there : v.Subscribed w.line.mux.sinks.length := there
  refine ⟨_, hw.beginCorrelated hs factory request, ?_, ?_, ?_⟩
  · refine Option.bind_eq_none_iff.mpr fun l hl => ?_
    obtain rfl : l = w.line := Option.some.inj (hl.symm.trans hw.get?)
    exact List.getElem?_eq_none (Nat.le_refl _)
  · have before : Lines.Twins s.allBut w.before w.before := .other hw.holds.before
    have after : Lines.Twins s.allBut w.after w.after := .other (hw.after he)
    have line : v.line.outlineOf s.allBut = w.line.outline := by
      rw [spares.outlineOf hw.holds.line, List.filter_eq_self.mpr]
      · rfl
      · intro i hi
        have lt := (he.each _ hw.mem).orderly.lt_length hi
        simpa using Nat.ne_of_lt lt
    have lines : v.lines.map (Line.outlineOf s.allBut) = e.registry.lines.map Line.outline := by
      rw [← hw.lines]
      unfold Desk.lines
      rw [List.map_append, List.map_append, List.map_cons, List.map_cons, before.outline,
        after.outline, line, spares.before, spares.after]
    show Engine.outlineOf s.allBut (e.ofDesk v) = e.outline
    unfold Engine.outlineOf Engine.outline
    show (⟨⟨v.lines.map _, _⟩, _, _, _⟩ : Engine) = _
    rw [lines, show (e.ofDesk v).shared = v.shared from rfl, spares.barrier, spares.names,
      hw.shared]
    rfl
  · obtain ⟨k, q, hk, hq⟩ := there
    refine ⟨k, ?_, by rw [Sink.buffer?_eq_some.mpr hq]; rfl⟩
    have held : v.Holds c := by
      refine ⟨?_, ?_⟩
      · rw [spares.before]
        exact hw.holds.before
      · exact (congrArg Line.id spares.bare).trans hw.holds.line
    exact Option.bind_eq_some_iff.mpr ⟨v.line, get?_ofDesk e held, hk⟩

end Engine

/-! ## §3. Sends by any transport -/

/-- A transport of any kind: what it answers to a message on a connection, the errands that are done
while the message is on its way, and the transport after it. -/
abbrev Carrier (σ : Type) :=
  ConnectionId → Message → σ → Engine → Except TransportError Message × List Errand × σ

/-- The same transport, which keeps a list of what it is handed. -/
def Carrier.listed {σ : Type} (carry : Carrier σ) :
    Carrier (σ × List (ConnectionId × Message)) := fun c m t e =>
  let (answer, during, t') := carry c m t.1 e
  (answer, during, t', t.2 ++ [(c, m)])

/-- The rehearsed transport: it stamps the message, makes its reports, and answers. -/
def Transport.carry : Carrier Transport := fun c m t _ =>
  let (m, t) := t.stamped m
  let (answer, t') := t.answer c m
  (answer, t.during.map (.report c), t')

/-- A rehearsed transport that fails is left with its counter moved on. -/
theorem Transport.carry_of_failure {t : Transport} {x : TransportError} (h : t.failure = some x)
    (c : ConnectionId) (m : Message) (e : Engine) :
    Transport.carry c m t e = (.error x, t.during.map (.report c), (t.stamped m).2) := by
  have answered : (t.stamped m).2.answer c (t.stamped m).1 = (.error x, (t.stamped m).2) := by
    unfold answer
    rw [failure_stamped, h]
  calc
    Transport.carry c m t e =
      let r := (t.stamped m).2.answer c (t.stamped m).1
      (r.1, (t.stamped m).2.during.map (.report c), r.2) := rfl
    _ = _ := by rw [answered, during_stamped]

namespace Engine

variable {σ : Type}

/-- Sends a message by a transport. -/
def sendBy (carry : Carrier σ) (c : ConnectionId) (m : Message) (t : σ) (e : Engine) :
    Except LinkError Message × σ × Engine :=
  match e.beginSend c with
  | (.error x, e) => (.error x, t, e)
  | (.ok _, e) =>
    let (answer, during, t) := carry c m t e
    let (r, e) := (actAll during e).finishSend c answer
    (r, t, e)

/-- Sends a request by a transport and subscribes to its replies. -/
def sendCorrelatedBy (carry : Carrier σ) (c : ConnectionId) (factory : RuleFactory)
    (request : Message) (t : σ) (e : Engine) : Except LinkError SinkRef × σ × Engine :=
  match e.beginCorrelated c factory request with
  | (.error x, e) => (.error x, t, e)
  | (.ok s, e) =>
    let (answer, during, t) := carry c request t e
    let (r, e) := (actAll during e).finishCorrelated s answer
    (r, t, e)

section

variable {e e₁ : Engine} {c : ConnectionId} (carry : Carrier σ) (m : Message) (t : σ)
  (handed : List (ConnectionId × Message))

/-- A message that is handed over is handed over once. -/
theorem sendBy_listed (h : e.beginSend c = (.ok (), e₁)) :
    e.sendBy carry.listed c m (t, handed) =
      let r := carry c m t e₁
      let done := (actAll r.2.1 e₁).finishSend c r.1
      (done.1, (r.2.2, handed ++ [(c, m)]), done.2) := by
  unfold sendBy
  rw [h]
  rfl

theorem sendCorrelatedBy_listed {factory : RuleFactory} {s : SinkRef}
    (h : e.beginCorrelated c factory m = (.ok s, e₁)) :
    e.sendCorrelatedBy carry.listed c factory m (t, handed) =
      let r := carry c m t e₁
      let done := (actAll r.2.1 e₁).finishCorrelated s r.1
      (done.1, (r.2.2, handed ++ [(c, m)]), done.2) := by
  unfold sendCorrelatedBy
  rw [h]
  rfl

end

theorem reportAll_eq (c : ConnectionId) (rs : List Report) (e : Engine) :
    e.reportAll c rs = actAll (rs.map (.report c)) e := by
  induction rs generalizing e with
  | nil => rfl
  | cons r rs ih => exact ih _

end Engine

namespace Exchange

/-- The rehearsed transport is one of them. -/
theorem send_eq (c : ConnectionId) (m : Message) (x : Exchange) : x.send c m =
    let (r, t, e) := x.engine.sendBy Transport.carry c m x.transport
    (r, ⟨e, t⟩) := by
  unfold send Engine.sendBy transmit Transport.carry
  rcases x.engine.beginSend c with ⟨_ | _, e⟩
  · rfl
  · dsimp only
    rw [Engine.reportAll_eq]

theorem sendCorrelated_eq (c : ConnectionId) (factory : RuleFactory) (request : Message)
    (x : Exchange) : x.sendCorrelated c factory request =
    let (r, t, e) := x.engine.sendCorrelatedBy Transport.carry c factory request x.transport
    (r, ⟨e, t⟩) := by
  unfold sendCorrelated Engine.sendCorrelatedBy transmit Transport.carry
  rcases x.engine.beginCorrelated c factory request with ⟨_ | s, e⟩
  · rfl
  · dsimp only
    rw [Engine.reportAll_eq]

end Exchange

/-! ## §4. What a failure leaves -/

namespace Engine

variable {e : Engine} {s : SinkRef} {k : Sink}

/-- Whatever happens, the sink is in no active set and hears nothing more. -/
def Silent (e : Engine) (s : SinkRef) : Prop := ∀ later,
  (∀ l, (actAll later e).registry.get? s.connection = some l → s.place ∉ l.mux.active) ∧
    (actAll later e).callsTo s = e.callsTo s

/-- A sink that has left its active phase is silent. -/
theorem Sound.silent (he : e.Sound) (hk : e.sink? s = some k) (hp : k.phase ≠ .active) :
    e.Silent s := by
  intro later
  obtain ⟨k', cs, hk', hcs, hears⟩ := hears_actAll later hk
  obtain ⟨rfl, hp'⟩ := hears.of_inactive hp
  refine ⟨fun l hl hi => ?_, hcs.trans (List.append_nil _)⟩
  obtain ⟨w, hw, hsink⟩ := hands_of_sink hk'
  obtain rfl : l = w.line := Option.some.inj (hl.symm.trans hw.get?)
  have seated := ((sound_actAll later he).each _ hw.mem).orderly.seated _ hi
  have phase : w.line.mux.phase? s.place = some k'.phase :=
    Option.map_eq_some_iff.mpr ⟨k', hsink, rfl⟩
  rw [phase] at seated
  exact hp' (Option.some.inj seated)

/-- A notice on a line makes no difference. -/
theorem Twins.noteLine {keeps : SinkRef → Bool} {g : Engine} (h : e.Twins keeps g)
    (c : ConnectionId) (n : Notice) : e.Twins keeps (g.onLine c (Desk.note n)) := by
  rcases e.known_cases c with unknown | ⟨w, hw⟩
  · rw [onLine_of_unknown (h.unknown unknown)]
    exact h
  · obtain ⟨v, hv, twins⟩ := h.hands hw
    rw [hv.onLine]
    have noted := h.ofDesk rfl rfl (twins.note_right n)
    rwa [hw.ofDesk] at noted

/-- **A message that could not be sent** leaves the engine as if it had not been handed over. -/
theorem outline_of_failed_send (e : Engine) (c : ConnectionId) (during : List Errand)
    (x : TransportError) :
    (((actAll during (e.onLine c (Desk.note .transmitting))).finishSend c (.error x)).2).outline =
      (actAll during e).outline := by
  have begun : e.Twins (fun _ => true) (e.onLine c (Desk.note .transmitting)) :=
    (Twins.refl e).noteLine c .transmitting
  have pending := begun.actAll (fun _ h => by cases h) during
  rw [← outlineOf_all (actAll during e)]
  exact (pending.noteLine c .transportRejected).outline

/-- What a failure leaves of a request that was handed over from an engine: the sink that was made
for it, the engine as soon as it had been handed over, the errands that were done since then, and
the engine in the end. -/
structure Undone (e : Engine) (s : SinkRef) (x : TransportError) (handedOver : Engine)
    (during : List Errand) (f : Engine) : Prop where
  new : e.sink? s = none
  made : (f.sink? s).isSome = true
  silent : f.Silent s
  /-- The errands might have been done after the failure. -/
  rest : f.outline = (actAll during (handedOver.finishCorrelated s (.error x)).2).outline
  /-- The failure at once would have left the engine as it was. -/
  nothing : (handedOver.finishCorrelated s (.error x)).2.outline = e.outline

/-- **A request that could not be sent** is undone, whatever happened while it was on its way. -/
theorem Hands.undone (he : e.Sound) {c : ConnectionId} {w : Desk} (hw : e.Hands c w)
    (hs : w.line.state.isEstablished = true) (factory : RuleFactory) (request : Message)
    (during : List Errand) (x : TransportError) :
    let s : SinkRef := ⟨c, w.line.mux.sinks.length⟩
    ∃ e₁, e.beginCorrelated c factory request = (.ok s, e₁) ∧
      e.Undone s x e₁ during ((actAll during e₁).finishCorrelated s (.error x)).2 := by
  intro s
  obtain ⟨e₁, hbegin, hnew, houtline, k, hk, hb⟩ :=
    hw.outline_beginCorrelated he hs factory request
  have sound₁ : e₁.Sound := by
    have begun := (moves (.beginCorrelated c factory request) e).sound he
    rwa [show e.act (.beginCorrelated c factory request) = e₁ from
      congrArg Prod.snd hbegin] at begun
  have sound₂ := sound_actAll during sound₁
  obtain ⟨k₂, cs, hk₂, -, hears⟩ := hears_actAll during hk
  let f := ((actAll during e₁).finishCorrelated s (.error x)).2
  -- The failure puts the subscription out of play, at once or in the end.
  have atOnce := sound₁.withdraw hk hb x
  have inTheEnd : (actAll during e₁).Twins s.allBut f :=
    sound₂.withdraw hk₂ (hears.isSome_buffer? hb) x
  have known : ∀ r, s.allBut r = false → (e₁.registry.get? r.connection).isSome = true := by
    intro r hr
    rw [SinkRef.allBut_eq_false.mp hr]
    obtain ⟨v, hv, -⟩ := hands_of_sink hk
    rw [hv.get?]
    rfl
  obtain ⟨k₃, hk₃, hp⟩ := inTheEnd.sink_left (SinkRef.allBut_eq_false.mpr rfl) hk₂
  have sound₃ : f.Sound := (moves (.finishCorrelated s (.error x)) (actAll during e₁)).sound sound₂
  refine ⟨e₁, hbegin, hnew, by rw [hk₃]; rfl, sound₃.silent hk₃ hp, ?_, ?_⟩
  · rw [inTheEnd.outline, (atOnce.actAll known during).outline]
  · rw [atOnce.outline, houtline]

end Engine

namespace Exchange

variable {x : Exchange} {c : ConnectionId} {w : Desk} {f : TransportError}

/-- **A message that the rehearsed transport fails to send** has had no effect but its reports. -/
theorem send_of_failure (hw : x.engine.Hands c w) (hs : w.line.state.isEstablished = true)
    (hf : x.transport.failure = some f) (m : Message) :
    (x.send c m).1 = .error (.transportUnavailable c f.message) ∧
      (x.send c m).2.engine.outline = (x.engine.reportAll c x.transport.during).outline := by
  have left := x.engine.outline_of_failed_send c (x.transport.during.map (.report c)) f
  rw [hw.onLine, ← Engine.reportAll_eq c x.transport.during x.engine] at left
  rw [send_eq]
  unfold Engine.sendBy
  rw [hw.beginSend hs]
  dsimp only
  rw [Transport.carry_of_failure hf]
  exact ⟨rfl, left⟩

/-- **A request that the rehearsed transport fails to send** is undone. -/
theorem sendCorrelated_of_failure (he : x.engine.Sound) (hw : x.engine.Hands c w)
    (hs : w.line.state.isEstablished = true) (hf : x.transport.failure = some f)
    (factory : RuleFactory) (m : Message) :
    (x.sendCorrelated c factory m).1 = .error (.transportUnavailable c f.message) ∧
      x.engine.Undone ⟨c, w.line.mux.sinks.length⟩ f (x.engine.beginCorrelated c factory m).2
        (x.transport.during.map (.report c)) (x.sendCorrelated c factory m).2.engine := by
  obtain ⟨e₁, hbegun, undone⟩ :=
    hw.undone he hs factory m (x.transport.during.map (.report c)) f
  rw [sendCorrelated_eq]
  unfold Engine.sendCorrelatedBy
  rw [hbegun]
  dsimp only
  rw [Transport.carry_of_failure hf]
  exact ⟨rfl, undone⟩

end Exchange

/-- **A failed send leaves nothing behind.**  On an engine that was built, whatever it was asked to
do before, and with any transport: a message or a request on a connection that is not known or not
established is refused, the transport is not asked, and the engine is as it was.  On an established
connection the transport is asked once.  If it answers with an error, that is what the send answers;
the engine differs from one that only did the errands in between by the sink of the request, which
is in no active set and hears nothing any more. -/
theorem EngineBuilder.failed_sends {b : EngineBuilder} {e₀ : Engine} (hb : b.build = .ok e₀)
    (past : List Errand) {σ : Type} (carry : Carrier σ) (t : σ)
    (handed : List (ConnectionId × Message)) (c : ConnectionId) (m : Message)
    (factory : RuleFactory) :
    let e := Engine.actAll past e₀
    let plain := e.sendBy carry.listed c m (t, handed)
    let correlated := e.sendCorrelatedBy carry.listed c factory m (t, handed)
    (e.registry.get? c = none →
      plain = (.error (.routeNotFound c.shown), (t, handed), e) ∧
      correlated = (.error (.routeNotFound c.shown), (t, handed), e)) ∧
    ∀ l, e.registry.get? c = some l →
      (l.state ≠ .established →
        plain = (.error (.notEstablished c l.state.shown), (t, handed), e) ∧
        correlated = (.error (.notEstablished c l.state.shown), (t, handed), e)) ∧
      (l.state = .established →
        plain.2.1.2 = handed ++ [(c, m)] ∧ correlated.2.1.2 = handed ++ [(c, m)] ∧
        (∀ x during t', carry c m t (e.beginSend c).2 = (.error x, during, t') →
          plain.1 = .error (.transportUnavailable c x.message) ∧
          plain.2.2.outline = (Engine.actAll during e).outline) ∧
        ∀ x during t', carry c m t (e.beginCorrelated c factory m).2 = (.error x, during, t') →
          correlated.1 = .error (.transportUnavailable c x.message) ∧
          e.Undone ⟨c, l.mux.sinks.length⟩ x (e.beginCorrelated c factory m).2 during
            correlated.2.2) := by
  intro e plain correlated
  have he : e.Sound := Engine.sound_actAll past (sound_build hb)
  have refused : ∀ x, e.established c = .error x →
      plain = (.error x, (t, handed), e) ∧ correlated = (.error x, (t, handed), e) := by
    intro x hx
    constructor
    · show e.sendBy carry.listed c m (t, handed) = _
      unfold Engine.sendBy
      rw [Engine.beginSend_of_refused hx]
    · show e.sendCorrelatedBy carry.listed c factory m (t, handed) = _
      unfold Engine.sendCorrelatedBy
      rw [Engine.beginCorrelated_of_refused hx]
  refine ⟨fun hc => refused _ (Engine.established_of_unknown hc), fun l hl => ?_⟩
  obtain ⟨w, hw, rfl⟩ := Engine.hands hl
  refine ⟨fun hs => refused _ (hw.refused fun h => hs (of_decide_eq_true h)), fun hs => ?_⟩
  have hs : w.line.state.isEstablished = true := decide_eq_true hs
  have hbegin := hw.beginSend hs
  have hplain := Engine.sendBy_listed carry m t handed hbegin
  have hcorrelated :=
    Engine.sendCorrelatedBy_listed carry m t handed (hw.beginCorrelated hs factory m)
  refine ⟨congrArg (fun r => r.2.1.2) hplain, congrArg (fun r => r.2.1.2) hcorrelated, ?_, ?_⟩
  · intro x during t' hcarry
    rw [hbegin] at hcarry
    dsimp only at hplain hcarry
    rw [hcarry] at hplain
    show (e.sendBy carry.listed c m (t, handed)).1 = _ ∧
      (e.sendBy carry.listed c m (t, handed)).2.2.outline = _
    rw [hplain]
    refine ⟨rfl, ?_⟩
    have left := e.outline_of_failed_send c during x
    rw [hw.onLine] at left
    exact left
  · intro x during t' hcarry
    obtain ⟨e₁, hbegun, undone⟩ := hw.undone he hs factory m during x
    have hdone := Engine.sendCorrelatedBy_listed carry m t handed hbegun
    rw [hbegun] at hcarry ⊢
    dsimp only at hdone hcarry
    rw [hcarry] at hdone
    show (e.sendCorrelatedBy carry.listed c factory m (t, handed)).1 = _ ∧
      e.Undone _ x _ during (e.sendCorrelatedBy carry.listed c factory m (t, handed)).2.2
    rw [hdone]
    exact ⟨rfl, undone⟩

/-- The connection drops while an order is on its way, and then the transport fails. -/
theorem EngineBuilder.failed_sends_dropped_meanwhile :
    let config : ConnectionConfig :=
      ⟨"venue", .plain "FIX.4.4" "A" "B", .dialingSingleThreaded, none⟩
    let b : EngineBuilder := { hasTransport := true, connections := [config] }
    let e₀ : Engine :=
      ⟨⟨[.ofConfig config b.config.sinkCapacity], [("venue", config.id)]⟩,
        { barrier := b.barrier }, b.config, b.factory⟩
    let e := Engine.actAll [.operate config.id (.authenticateOutbound (.empty .logon)),
      .operate config.id .establish] e₀
    let t : Transport := { failure := some .closed, during := [.loggedOut] }
    let order : Message := ⟨.newOrderSingle, [(Tag.clOrdId, "R1")]⟩
    let r := e.sendCorrelatedBy Transport.carry.listed config.id b.factory order (t, [])
    b.build = .ok e₀ ∧ r.2.1.2 = [(config.id, order)] ∧
      r.1 = .error (.transportUnavailable config.id "transport closed") ∧
      e.Undone ⟨config.id, 0⟩ .closed (e.beginCorrelated config.id b.factory order).2
        [.report config.id .loggedOut] r.2.2 := by
  intro config b e₀ e t order r
  have built : b.build = .ok e₀ := rfl
  obtain ⟨-, known⟩ := failed_sends built
    [.operate config.id (.authenticateOutbound (.empty .logon)), .operate config.id .establish]
    Transport.carry t [] config.id order b.factory
  obtain ⟨-, once, -, failed⟩ := (known _ rfl).2 rfl
  exact ⟨built, once, failed _ _ _ rfl⟩

end Correlator
