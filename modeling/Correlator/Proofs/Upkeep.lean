/-
  Correlator.Proofs.Upkeep — WHAT LASTS IN AN ENGINE.

  Errands do many things to an engine, but a connection keeps its configuration
  and its subscriptions keep their room.  An errand that registers no connection
  leaves the engine the lines that it has, under the names that they have; one
  that registers a connection adds a line at the end, or nothing.

  Main results:
    * `Line.Roomy` — the room of the subscriptions on a line,
    * `Line.Lasts`, `Errand.lasts` — what work leaves of the line in hand,
    * `Engine.Lasts`, `Engine.lasts_act` — what an errand leaves of an engine,
    * `Engine.roomy_actAll` — every run.
-/
import Correlator.Proofs.Subscribers
namespace Correlator

/-! ## §1. A line -/

/-- The subscriptions on the line hold up to `n` messages, and no more. -/
structure Line.Roomy (n : Nat) (l : Line) : Prop where
  capacity : l.mux.capacity = n
  each : ∀ i k q, l.sink? i = some k → k.listener = .stream q →
    q.capacity = n ∧ q.queue.length ≤ n

/-- A line as it may be later: the connection is the same, and so is the room. -/
structure Line.Lasts (l k : Line) : Prop where
  config : k.config = l.config
  roomy : ∀ {n}, 0 < n → l.Roomy n → k.Roomy n

/-- A stream that has been called holds as much as before. -/
theorem Stream.roomy_take {n : Nat} (hn : 0 < n) {q : Stream}
    (h : q.capacity = n ∧ q.queue.length ≤ n) (c : Call) :
    (q.take c).capacity = n ∧ (q.take c).queue.length ≤ n := by
  obtain ⟨rfl, bounded⟩ := h
  cases c with
  | message m =>
    have kept : (q.push m).capacity = q.capacity := by
      unfold push
      split <;> rfl
    refine ⟨kept, ?_⟩
    rw [← kept]
    exact length_push_le m bounded hn
  | error d => exact ⟨rfl, bounded⟩
  | closed => exact ⟨rfl, bounded⟩

/-- A stream that has been read holds as much as before. -/
theorem Stream.roomy_poll {n : Nat} {q : Stream} (h : q.capacity = n ∧ q.queue.length ≤ n) :
    q.poll.2.capacity = n ∧ q.poll.2.queue.length ≤ n := by
  rcases q.poll_cases with ⟨m, rest, hq, hpoll⟩ | ⟨-, -, hpoll⟩ | ⟨e, -, -, hpoll⟩ <;> rw [hpoll]
  · rw [hq] at h
    exact ⟨h.1, Nat.le_of_succ_le h.2⟩
  · exact h
  · exact h

/-- The sink of an account has the room that it should have. -/
theorem Account.Grows.roomy {n i : Nat} (hn : 0 < n) {a b : Account} (h : Grows n i a b)
    (ha : ∀ k q, a.sink = some k → k.listener = .stream q →
      q.capacity = n ∧ q.queue.length ≤ n) :
    ∀ k q, b.sink = some k → k.listener = .stream q → q.capacity = n ∧ q.queue.length ≤ n := by
  refine h.keeps (P := fun a => ∀ k q, a.sink = some k → k.listener = .stream q →
    q.capacity = n ∧ q.queue.length ≤ n) ?_ ha
  -- A callback is the only thing that fills a stream.
  have called : ∀ {s : Sink} {c : Call} {q : Stream},
      (∀ k q, some s = some k → k.listener = .stream q → q.capacity = n ∧ q.queue.length ≤ n) →
      (s.listener.next c).2 = .stream q → q.capacity = n ∧ q.queue.length ≤ n := by
    intro s c q hs hq
    obtain ⟨p, hp, rfl⟩ := Listener.stream_of_next hq
    exact Stream.roomy_take hn (hs s p rfl hp) c
  intro a b step ih
  cases step with
  | aside => exact ih
  | born _ hnew =>
    rintro k q ⟨⟩ hq
    rw [hq] at hnew
    obtain rfl : q = .withCapacity n := hnew
    exact ⟨Nat.max_eq_left hn, Nat.zero_le n⟩
  | message => rintro k q ⟨⟩ hq; exact called ih hq
  | last => rintro k q ⟨⟩ hq; exact called ih hq
  | dispose => rintro k q ⟨⟩ hq; exact ih _ q rfl hq
  | poll hl =>
    rintro k q ⟨⟩ ⟨⟩
    exact Stream.roomy_poll (ih _ _ rfl hl)
  | idle => exact ih
  | @finish _ _ _ p _ hl =>
    rintro k q ⟨⟩ ⟨⟩
    exact ih _ p rfl hl

namespace Line.Lasts

variable {l k m : Line}

theorem refl (l : Line) : l.Lasts l := ⟨rfl, fun _ h => h⟩

theorem trans (h : l.Lasts k) (g : k.Lasts m) : l.Lasts m :=
  ⟨g.config.trans h.config, fun hn hl => g.roomy hn (h.roomy hn hl)⟩

/-- Operations, with everything that their callbacks set off. -/
theorem of_course {law : Operation → Prop} {w v : Desk} {owed owed' : List Nat}
    (h : Course law ⟨w, owed⟩ ⟨v, owed'⟩) : w.line.Lasts v.line where
  config := h.path.config
  roomy := by
    intro n hn hw
    refine ⟨(show v.line.mux.capacity = w.line.mux.capacity from h.path.capacity).trans
      hw.capacity, fun i => ?_⟩
    have grows : Account.Grows w.line.mux.capacity i (w.account i []) (v.account i []) := h.account
    rw [hw.capacity] at grows
    exact grows.roomy hn (hw.each i)

/-- One sink is changed, and the room of its stream is kept. -/
theorem mapSink (l : Line) (i : Nat) {f : Sink → Sink}
    (hf : ∀ n k q, (∀ p, k.listener = .stream p → p.capacity = n ∧ p.queue.length ≤ n) →
      (f k).listener = .stream q → q.capacity = n ∧ q.queue.length ≤ n) :
    l.Lasts (l.mapMux fun x => x.mapSink i f) where
  config := rfl
  roomy := by
    intro n _ hl
    refine ⟨hl.capacity, fun j k q hk hq => ?_⟩
    rw [Line.sink?_mapSink] at hk
    obtain ⟨s, hs, rfl⟩ := Option.map_eq_some_iff.mp hk
    split at hq
    · exact hf n s q (fun p hp => hl.each j s p hs hp) hq
    · exact hl.each j s q hs hq

/-- The buffer of a subscription is read or ended. -/
theorem mapSinkAt {f : Stream → Stream}
    (hf : ∀ n q, q.capacity = n ∧ q.queue.length ≤ n →
      (f q).capacity = n ∧ (f q).queue.length ≤ n) (s : SinkRef) (w : Desk) :
    w.line.Lasts (w.mapSinkAt s fun k => k.mapBuffer f).line := by
  unfold Desk.mapSinkAt
  split
  case isFalse => exact .refl _
  case isTrue =>
    refine .mapSink w.line s.place fun n k q hk hq => ?_
    unfold Sink.mapBuffer at hq
    split at hq
    case h_1 p hp =>
      cases hq
      exact hf n p (hk p hp)
    case h_2 => exact hk q hq

/-- A disposal changes the phase of a sink and nothing else of it. -/
theorem disposeAt (i : Nat) (l : Line) : l.Lasts (l.disposeAt i).2 where
  config := Line.config_disposeAt i l
  roomy := by
    intro n _ hl
    refine ⟨?_, fun j k q hk hq => ?_⟩
    · rw [Line.snd_disposeAt]
      exact hl.capacity
    · unfold Line.sink? at hk
      rw [sinks_disposeAt, List.getElem?_modify] at hk
      obtain ⟨s, hs, rfl⟩ := Option.map_eq_some_iff.mp hk
      refine hl.each j s q hs ?_
      split at hq
      · split at hq <;> exact hq
      · exact hq

theorem of_struck (h : l.Struck k) : l.Lasts k := by
  induction h with
  | refl => exact .refl l
  | tail _ step ih =>
    obtain ⟨i, rfl⟩ := step
    exact ih.trans (disposeAt i _)

/-- The owner of a subscription disposes its sink and ends the stream. -/
theorem endSubscription (s : SinkRef) (w : Desk) : w.line.Lasts (w.endSubscription s).2.line := by
  have disposed : Course (fun _ => True) ⟨w, []⟩ ⟨(w.dispose s).2, []⟩ := .act (.dispose s)
  exact (of_course disposed).trans
    (mapSinkAt (f := Stream.finish .closed) (fun _ _ h => h) s (w.dispose s).2)

end Line.Lasts

/-- **What work leaves of the line in hand.** -/
theorem Errand.lasts (a : Errand) (w : Desk) : w.line.Lasts (a.work w).2.line := by
  have performed : ∀ op : Operation, w.line.Lasts (op.exec w).2.line := fun op =>
    .of_course (op.exec_course (fun _ _ => True.intro) (.trivial w) [])
  cases a with
  | operate _ op => exact performed op
  | report c r =>
    rcases Errand.work_report c r w with h | ⟨n, h⟩ <;> rw [h] <;> exact performed _
  | beginSend _ =>
    simp only [Errand.work]
    split <;> exact .refl _
  | finishSend _ answer => cases answer <;> exact .refl _
  | beginCorrelated _ factory request =>
    simp only [Errand.work]
    split
    · have lasts := Line.Lasts.of_course (w.course_subscribe (factory request))
      exact lasts
    · exact .refl _
  | finishCorrelated s answer =>
    cases answer with
    | error x => exact .endSubscription s (w.note .transportRejected)
    | ok m => exact .mapSink w.line s.place fun _ _ q hk hq => hk q hq
  | enterSubscription name s => exact .of_course (w.course_enter name ⟨s, .idle⟩)
  | poll s =>
    show w.line.Lasts (w.poll s).2.line
    unfold Desk.poll
    split
    · exact .refl _
    · exact .mapSinkAt (fun _ _ h => Stream.roomy_poll h) s w
  | endSubscription s => exact .endSubscription s w
  | _ => exact .refl _

/-! ## §2. An engine -/

/-- An engine as it may be later if no connection has been registered meanwhile. -/
structure Engine.Lasts (e f : Engine) : Prop where
  lines : List.Forall₂ Line.Lasts e.registry.lines f.registry.lines
  names : f.registry.names = e.registry.names
  config : f.config = e.config

namespace Engine

variable {e f g : Engine}

namespace Lasts

theorem of_lines (hl : f.registry.lines = e.registry.lines)
    (hn : f.registry.names = e.registry.names) (hc : f.config = e.config) : e.Lasts f where
  lines := by
    rw [hl]
    exact List.forall₂_same.mpr fun l _ => .refl l
  names := hn
  config := hc

theorem refl (e : Engine) : e.Lasts e := of_lines rfl rfl rfl

theorem trans (h : e.Lasts f) (k : f.Lasts g) : e.Lasts g where
  lines := Lines.trans_of_forall₂ (fun _ _ _ first next => first.trans next) h.lines k.lines
  names := k.names.trans h.names
  config := k.config.trans h.config

/-- Work on one line leaves the others but for disposals. -/
theorem work {c : ConnectionId} {w v : Desk} (hw : e.Hands c w) (hl : w.line.Lasts v.line)
    (ho : w.Others v) : e.Lasts (e.ofDesk v) where
  lines := by
    show List.Forall₂ _ _ v.lines
    rw [← hw.lines]
    unfold Desk.lines
    exact List.rel_append (ho.before.imp fun _ _ h => .of_struck h)
      (.cons hl (ho.after.imp fun _ _ h => .of_struck h))
  names := rfl
  config := rfl

/-- The configurations are the same, in the same order. -/
theorem configs (h : e.Lasts f) :
    f.registry.lines.map Line.config = e.registry.lines.map Line.config := by
  have lines := h.lines
  generalize e.registry.lines = ls, f.registry.lines = ks at lines ⊢
  induction lines with
  | nil => rfl
  | cons first _ ih => rw [List.map_cons, List.map_cons, first.config, ih]

end Lasts

/-- An errand that concerns one connection. -/
theorem lasts_work (e : Engine) {a : Errand} {c : ConnectionId} (ha : a.addressee = some c) :
    e.Lasts (e.act a) := by
  rcases e.known_cases c with unknown | ⟨w, hw⟩
  · rcases (outcome_of_unknown unknown ha).2 with h | h <;> rw [h]
    · exact .refl e
    · exact .of_lines rfl rfl rfl
  · rw [(hw.work ha).2]
    exact .work hw (a.lasts w) (Errand.tends hw.holds ha).others

theorem lasts_closeLines (cs : List ConnectionId) (e : Engine) : e.Lasts (closeLines cs e) := by
  induction cs generalizing e with
  | nil => exact .refl e
  | cons c cs ih =>
    rw [closeLines_cons]
    exact (e.lasts_work (a := .operate c .close) rfl).trans (ih _)

/-- **What an errand leaves of an engine**, unless it registers a connection. -/
theorem lasts_act (e : Engine) {a : Errand} (ha : ∀ config, a ≠ .register config) :
    e.Lasts (e.act a) := by
  cases a with
  | register config => exact absurd rfl (ha config)
  | close => exact (e.lasts_closeLines _).trans (.of_lines rfl rfl rfl)
  | awaitStartup k limit =>
    rw [act_awaitStartup]
    split
    · exact .refl e
    · exact .of_lines rfl rfl rfl
  | awaitAnnounced limit => exact .of_lines rfl rfl rfl
  | _ => exact e.lasts_work rfl

/-- An errand registers no connection, or it adds one at the end under a new name and a new
identity. -/
theorem act_cases (e : Engine) (a : Errand) : e.Lasts (e.act a) ∨
    ∃ config, e.act a = { e with registry :=
        { lines := e.registry.lines ++ [Line.ofConfig config e.config.sinkCapacity]
          names := e.registry.names ++ [(config.name, config.id)] } }.note .connectionRegistered ∧
      e.registry.insert (.ofConfig config e.config.sinkCapacity) =
        .ok { lines := e.registry.lines ++ [Line.ofConfig config e.config.sinkCapacity]
              names := e.registry.names ++ [(config.name, config.id)] } := by
  by_cases ha : ∃ config, a = .register config
  case neg => exact .inl (e.lasts_act fun config h => ha ⟨config, h⟩)
  case pos =>
    obtain ⟨config, rfl⟩ := ha
    rw [act_register]
    split
    case isTrue => exact .inl (.refl e)
    case isFalse new =>
      obtain ⟨newName, newId⟩ := not_or.mp new
      refine .inr ⟨config, rfl, ?_⟩
      exact Registry.insert_of_new (l := .ofConfig config e.config.sinkCapacity)
        (fun h => newName (Registry.findName_isSome.mpr h))
        (fun h => newId (Registry.get?_isSome.mpr h))

/-- **The settings last, and so does the room of the subscriptions**, whatever an engine is asked
to do. -/
theorem roomy_actAll {n : Nat} (hn : 0 < n) (as : List Errand)
    (h : e.config.sinkCapacity = n ∧ ∀ l ∈ e.registry.lines, l.Roomy n) :
    (actAll as e).config.sinkCapacity = n ∧ ∀ l ∈ (actAll as e).registry.lines, l.Roomy n := by
  induction as generalizing e with
  | nil => exact h
  | cons a as ih =>
    obtain ⟨hc, hl⟩ := h
    refine ih ?_
    rcases e.act_cases a with lasts | ⟨config, hact, -⟩
    · refine ⟨by rw [lasts.config, hc], fun k hk => ?_⟩
      obtain ⟨l, mem, line⟩ := Lines.mem_of_forall₂ lasts.lines hk
      exact line.roomy hn (hl l mem)
    · rw [hact]
      refine ⟨hc, fun l mem => ?_⟩
      rcases List.mem_append.mp mem with mem | mem
      · exact hl l mem
      · rw [List.mem_singleton.mp mem, hc]
        exact ⟨Nat.max_eq_left hn, fun i k q hk _ => by cases hk⟩

end Engine

end Correlator
