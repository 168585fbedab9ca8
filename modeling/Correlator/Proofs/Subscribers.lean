/-
  Correlator.Proofs.Subscribers — A SUBSCRIPTION AND WHAT ITS READER IS GIVEN.

  Of all that an engine is asked to do, a subscription notices little: its sink
  is made, hears callbacks, is ended; its rule may learn; and its reader looks
  for something to read.  These entries, with what the reader is given, tell
  the whole life of the subscription, however many errands there were and on
  whichever connections.

  Main results:
    * `Sink.Fares` — what becomes of a sink, with what its reader is given,
    * `Errand.given`, `Engine.givenAll` — what errands give to a reader,
    * `Engine.fares_act`, `Engine.fares_actAll` — every run of errands,
    * `EngineBuilder.unended` — the stream of an active sink has not ended,
    * `Sink.Fares.of_closed` — a reader is given what is left, and then told that
      the stream is closed.
-/
import Correlator.Proofs.Builds
import Correlator.Proofs.Fates
import Correlator.Proofs.Outcomes
import Correlator.Proofs.Readings
namespace Correlator

/-! ## §1. What becomes of one sink -/

/-- What becomes of the sink at a place, with what its reader is given. -/
inductive Sink.Fares (x : Option Sink) : List Reading → Option Sink → Prop
  | refl : Fares x [] x
  /-- The sink is made. -/
  | born {rs : List Reading} {k : Sink} {capacity : Nat} (h : Fares x rs none)
      (hn : k.listener.IsNew capacity) : Fares x rs (some k)
  /-- It hears a message while it is active. -/
  | message {rs : List Reading} {k : Sink} (h : Fares x rs (some k))
      (ha : k.phase = .active) (m : Message) :
      Fares x rs (some { k with listener := (k.listener.next (.message m)).2 })
  /-- It hears its last callback, as it leaves its active phase. -/
  | last {rs : List Reading} {k : Sink} {phase : Phase} {c : Call}
      (h : Fares x rs (some k)) (ha : k.phase = .active) (hf : Finale phase c) :
      Fares x rs (some { k with phase, listener := (k.listener.next c).2 })
  /-- It is disposed without a callback. -/
  | dispose {rs : List Reading} {k : Sink} (h : Fares x rs (some k))
      (ha : k.phase = .active) : Fares x rs (some { k with phase := .disposed })
  /-- Its owner, who has disposed it, ends the stream. -/
  | finish {rs : List Reading} {k : Sink} {q : Stream} (h : Fares x rs (some k))
      (hp : k.phase ≠ .active) (hl : k.listener = .stream q) :
      Fares x rs (some { k with listener := .stream (q.finish .closed) })
  /-- Its rule learns the message that was sent. -/
  | learn {rs : List Reading} {k : Sink} (h : Fares x rs (some k)) (rule : Rule) :
      Fares x rs (some { k with rule })
  /-- Its reader looks for something to read. -/
  | poll {rs : List Reading} {k : Sink} {q : Stream} (h : Fares x rs (some k))
      (hl : k.listener = .stream q) :
      Fares x (rs ++ [q.poll.1]) (some { k with listener := .stream q.poll.2 })
  /-- There is no stream to read from. -/
  | idle {y : Option Sink} {rs : List Reading} (h : Fares x rs y)
      (hy : y.bind Sink.buffer? = none) : Fares x (rs ++ [none]) y

/-- While the sink is active, its stream has not ended. -/
def Sink.Unended (k : Sink) : Prop :=
  k.phase = .active → ∀ q, k.listener = .stream q → q.ending = none

namespace Sink.Fares

variable {x y z : Option Sink} {rs ts : List Reading}

theorem trans (h : Fares x rs y) (g : Fares y ts z) : Fares x (rs ++ ts) z := by
  induction g with
  | refl =>
    rw [List.append_nil]
    exact h
  | born _ hn ih => exact ih.born hn
  | message _ ha m ih => exact ih.message ha m
  | last _ ha hf ih => exact ih.last ha hf
  | dispose _ ha ih => exact ih.dispose ha
  | finish _ hp hl ih => exact ih.finish hp hl
  | learn _ rule ih => exact ih.learn rule
  | poll _ hl ih =>
    rw [← List.append_assoc]
    exact ih.poll hl
  | idle _ hy ih =>
    rw [← List.append_assoc]
    exact ih.idle hy

/-- The stream of an active sink ends with a callback, and the sink leaves its phase then. -/
theorem unended (h : Fares x rs y) (hx : ∀ k, x = some k → k.Unended) :
    ∀ k, y = some k → k.Unended := by
  induction h with
  | refl => exact hx
  | born _ hn =>
    rintro k ⟨⟩ - q hq
    rw [hq] at hn
    rw [show q = .withCapacity _ from hn]
    rfl
  | message _ ha m ih =>
    rintro k ⟨⟩ - q hq
    obtain ⟨p, hp, rfl⟩ := Listener.stream_of_next hq
    have open_ : p.ending = none := ih _ rfl ha p hp
    show (p.push m).ending = none
    unfold Stream.push
    split <;> exact open_
  | last _ _ hf =>
    rintro k ⟨⟩ hp
    cases hf <;> cases hp
  | dispose =>
    rintro k ⟨⟩ hp
    cases hp
  | finish _ hp =>
    rintro k ⟨⟩ ha
    exact absurd ha hp
  | learn _ _ ih =>
    rintro k ⟨⟩ ha q hq
    exact ih _ rfl ha q hq
  | @poll _ _ q _ hl ih =>
    rintro k ⟨⟩ ha p hp
    cases hp
    have open_ : q.ending = none := ih _ rfl ha q hl
    rcases q.poll_cases with ⟨m, rest, -, h⟩ | ⟨-, -, h⟩ | ⟨e, -, he, -⟩
    · rw [h]
      exact open_
    · rw [h]
      exact open_
    · rw [open_] at he
      cases he
  | idle _ _ ih => exact ih

/-- **The reader of a sink that was closed** is given what is left in the stream, then told that it
is closed, and nothing that happens changes that. -/
theorem of_closed {k : Sink} {q : Stream} (h : Fares (some k) rs y) (hp : k.phase ≠ .active)
    (hl : k.listener = .stream q) (he : q.ending = some .closed) : rs = q.readings rs.length := by
  -- What the reader is given is followed by what the stream that is left would give.
  have left : ∃ k' q', y = some k' ∧ k'.phase ≠ .active ∧ k'.listener = .stream q' ∧
      q'.ending = some .closed ∧ ∀ n, q.readings (rs.length + n) = rs ++ q'.readings n := by
    induction h with
    | refl =>
      refine ⟨k, q, rfl, hp, hl, he, fun n => ?_⟩
      rw [List.length_nil, Nat.zero_add]
      rfl
    | born _ _ ih =>
      obtain ⟨k', -, h, -⟩ := ih
      cases h
    | message _ ha _ ih =>
      obtain ⟨k', -, ⟨⟩, hp', -⟩ := ih
      exact absurd ha hp'
    | last _ ha _ ih =>
      obtain ⟨k', -, ⟨⟩, hp', -⟩ := ih
      exact absurd ha hp'
    | dispose _ ha ih =>
      obtain ⟨k', -, ⟨⟩, hp', -⟩ := ih
      exact absurd ha hp'
    | finish _ _ hl'' ih =>
      obtain ⟨k', q', ⟨⟩, hp', hl', he', hr⟩ := ih
      obtain rfl : q' = _ := Listener.stream.inj (hl'.symm.trans hl'')
      refine ⟨_, _, rfl, hp', rfl, ?_, ?_⟩ <;> rw [Stream.finish_of_ended _ he']
      · exact he'
      · exact hr
    | learn _ _ ih =>
      obtain ⟨k', q', ⟨⟩, hp', hl', he', hr⟩ := ih
      exact ⟨_, q', rfl, hp', hl', he', hr⟩
    | poll _ hl'' ih =>
      obtain ⟨k', q', ⟨⟩, hp', hl', he', hr⟩ := ih
      obtain rfl : q' = _ := Listener.stream.inj (hl'.symm.trans hl'')
      refine ⟨_, _, rfl, hp', rfl, ?_, fun n => ?_⟩
      · rcases q'.poll_cases with ⟨m, rest, -, h⟩ | ⟨-, -, h⟩ | ⟨e, -, -, h⟩
        · rw [h]
          exact he'
        · rw [h]
          exact he'
        · rw [h]
      · rw [List.length_append, List.length_singleton, Nat.add_assoc, Nat.add_comm 1 n, hr,
          List.append_assoc]
        rfl
    | idle _ hy ih =>
      obtain ⟨k', q', rfl, -, hl', -⟩ := ih
      rw [Option.bind_some, Sink.buffer?_eq_some.mpr hl'] at hy
      cases hy
  obtain ⟨k', q', -, -, -, -, hr⟩ := left
  have all := hr 0
  rw [Nat.add_zero] at all
  rw [all]
  exact (List.append_nil rs).symm

end Sink.Fares

namespace Stream

/-- Whoever reads less gets the first of it. -/
theorem readings_take (n m : Nat) (q : Stream) : (q.readings (n + m)).take n = q.readings n := by
  induction n generalizing q with
  | zero => rfl
  | succ n ih =>
    rw [Nat.succ_add]
    exact congrArg (q.poll.1 :: ·) (ih q.poll.2)

/-- The reader of a closed stream is given the messages in it, and then told that it is closed. -/
theorem readings_of_closing {q : Stream} (he : q.ending = some .closed) (n : Nat) :
    q.readings n = ((q.queue.map fun m => some (.ok m)) ++
      List.replicate n (some (.error .closed)) : List Reading).take n := by
  have enough := q.readings_append n
  rw [readings_of_closed (q := { q with queue := [] }) rfl he] at enough
  rw [← enough, Nat.add_comm, readings_take]

end Stream

/-! ## §2. Work on a line -/

/-- What operations add to an account, seen by the sink. -/
theorem Account.Grows.fares {capacity i : Nat} {a b : Account} (h : Grows capacity i a b) :
    ∃ rs, b.read = a.read ++ rs ∧ Sink.Fares a.sink rs b.sink := by
  induction h with
  | refl => exact ⟨[], (List.append_nil _).symm, .refl⟩
  | tail _ step ih =>
    obtain ⟨rs, hr, fares⟩ := ih
    cases step with
    | aside => exact ⟨rs, hr, fares⟩
    | born _ hn => exact ⟨rs, hr, fares.born hn⟩
    | message ha => exact ⟨rs, hr, fares.message ha _⟩
    | last ha hf => exact ⟨rs, hr, fares.last ha hf⟩
    | dispose ha => exact ⟨rs, hr, fares.dispose ha⟩
    | finish hp hl => exact ⟨rs, hr, fares.finish hp hl⟩
    | poll hl => exact ⟨_, (congrArg (· ++ _) hr).trans (List.append_assoc ..), fares.poll hl⟩
    | idle hs => exact ⟨_, (congrArg (· ++ _) hr).trans (List.append_assoc ..), fares.idle hs⟩

theorem Course.fares {law : Operation → Prop} {a b : Stage} (h : Course law a b) (i : Nat) :
    Sink.Fares (a.desk.sink? i) [] (b.desk.sink? i) := by
  have grows : Account.Grows a.desk.line.mux.capacity i (a.desk.account i [])
      (b.desk.account i []) := h.account
  obtain ⟨rs, hr, fares⟩ := grows.fares
  obtain rfl : [] = rs := hr
  exact fares

theorem Line.Struck.fares {l m : Line} (h : l.Struck m) (i : Nat) :
    Sink.Fares (l.sink? i) [] (m.sink? i) := by
  induction h with
  | refl => exact .refl
  | @tail k _ _ step ih =>
    obtain ⟨j, rfl⟩ := step
    have sinks : (k.disposeAt j).2.sink? i = (k.sink? i).map fun s =>
        if j = i then if s.isActive then { s with phase := .disposed } else s else s := by
      unfold Line.sink?
      rw [sinks_disposeAt, List.getElem?_modify]
      rfl
    rw [sinks]
    cases hk : k.sink? i with
    | none =>
      rw [hk] at ih
      exact ih
    | some s =>
      rw [hk] at ih
      rw [Option.map_some]
      split
      · split
        case isTrue ha => exact ih.dispose (Sink.isActive_iff.mp ha)
        case isFalse => exact ih
      · exact ih

/-- Work on the line in hand: what becomes of its sinks, and of the other lines. -/
structure Desk.Tends (w : Desk) (given : SinkRef → List Reading) (v : Desk) : Prop where
  id : v.line.id = w.line.id
  others : w.Others v
  fares : ∀ i, Sink.Fares (w.sink? i) (given ⟨w.line.id, i⟩) (v.sink? i)
  elsewhere : ∀ s : SinkRef, s.connection ≠ w.line.id → given s = []

namespace Desk.Tends

variable {w u v : Desk} {given : SinkRef → List Reading}

theorem of_course {law : Operation → Prop} (h : Course law ⟨w, []⟩ ⟨v, []⟩) :
    w.Tends (fun _ => []) v :=
  ⟨h.path.id, h.path.others, h.fares, fun _ _ => rfl⟩

/-- The sinks and the other lines stay as they are. -/
theorem of_line (hl : v.line = w.line) (hb : v.before = w.before) (ha : v.after = w.after) :
    w.Tends (fun _ => []) v where
  id := congrArg Line.id hl
  others := .of_eq hb ha
  fares i := by
    have same : v.sink? i = w.sink? i := congrArg (fun l => l.sink? i) hl
    rw [same]
    exact .refl
  elsewhere _ _ := rfl

theorem refl (w : Desk) : w.Tends (fun _ => []) w := .of_line rfl rfl rfl

theorem note (n : Notice) (w : Desk) : w.Tends (fun _ => []) (w.note n) := .of_line rfl rfl rfl

theorem trans (h : w.Tends (fun _ => []) u) (g : u.Tends given v) : w.Tends given v where
  id := g.id.trans h.id
  others := h.others.trans g.others
  fares i := by
    have second := g.fares i
    rw [h.id] at second
    exact (h.fares i).trans second
  elsewhere s hs := by
    rw [← h.id] at hs
    exact g.elsewhere s hs

/-- One sink of the line in hand is changed. -/
theorem mapSink {s : SinkRef} (hown : w.line.id = s.connection) {f : Sink → Sink}
    (hf : ∀ k, w.sink? s.place = some k → Sink.Fares (some k) (given s) (some (f k)))
    (hnone : w.sink? s.place = none → Sink.Fares none (given s) none)
    (hg : ∀ r, r ≠ s → given r = []) : w.Tends given (w.mapSink s.place f) where
  id := rfl
  others := .of_eq rfl rfl
  fares i := by
    show Sink.Fares _ _ ((w.line.mapMux fun x => x.mapSink s.place f).sink? i)
    rw [Line.sink?_mapSink]
    show Sink.Fares _ _ ((w.sink? i).map _)
    by_cases hi : s.place = i
    case pos =>
      subst hi
      have own : (⟨w.line.id, s.place⟩ : SinkRef) = s := by rw [hown]
      rw [own]
      cases hk : w.sink? s.place with
      | none => exact hnone hk
      | some k =>
        rw [Option.map_some, if_pos rfl]
        exact hf k hk
    case neg =>
      have other : given ⟨w.line.id, i⟩ = [] := hg _ fun h => hi (by rw [← h])
      rw [other]
      cases w.sink? i with
      | none => exact .refl
      | some k =>
        rw [Option.map_some, if_neg hi]
        exact .refl
  elsewhere r hr := hg r fun h => hr (by rw [h, hown])

/-- A disposal that the owner of a subscription makes, and the end of its stream. -/
theorem endSubscription {s : SinkRef} (hown : w.line.id = s.connection) :
    w.Tends (fun _ => []) (w.endSubscription s).2 := by
  have struck : w.Tends (fun _ => []) (w.dispose s).2 :=
    .of_course (show Course (fun _ => True) _ _ from .act (.dispose s))
  refine struck.trans ?_
  have line : (w.dispose s).2.line.id = s.connection := struck.id.trans hown
  show (w.dispose s).2.Tends _ ((w.dispose s).2.mapSinkAt s _)
  unfold Desk.mapSinkAt
  rw [if_pos line]
  refine .mapSink line (fun k hk => ?_) (fun _ => .refl) fun _ _ => rfl
  cases hl : k.listener with
  | scripted label script =>
    rw [Sink.mapBuffer_of_none (by rw [Sink.buffer?, hl])]
    exact .refl
  | stream q =>
    rw [Sink.mapBuffer_of_stream hl]
    refine .finish .refl (Desk.inactive_dispose (i := s.place) (w := w) ?_) hl
    rw [hown]
    exact hk

end Desk.Tends

/-! ## §3. Errands -/

/-- What an errand gives to the reader of a sink, by what it tells. -/
def Errand.given (s : SinkRef) : Errand → Outcome → List Reading
  | .poll r, .read (some x) => if r = s then [x] else []
  | _, _ => []

/-- The reader of the sink looks for something to read. -/
def Errand.reads (s : SinkRef) : Errand → Bool
  | .poll r => r = s
  | _ => false

/-- What becomes of the sinks of a line when an errand is work on it. -/
theorem Errand.tends {c : ConnectionId} {w : Desk} (hw : w.Holds c) {a : Errand}
    (ha : a.addressee = some c) :
    w.Tends (fun s => a.given s (a.work w).1) (a.work w).2 := by
  have performed : ∀ op : Operation, w.Tends (fun _ => []) (op.exec w).2 := fun op =>
    .of_course (op.exec_course (fun _ _ => True.intro) (.trivial w) [])
  cases a with
  | operate _ op => exact performed op
  | report d r =>
    rcases Errand.work_report d r w with h | ⟨n, h⟩ <;> rw [h]
    · exact performed _
    · exact (performed _).trans (.of_line rfl rfl rfl)
  | beginSend _ =>
    simp only [Errand.work]
    split
    · exact .note _ w
    · exact .refl w
  | finishSend _ answer =>
    cases answer with
    | error x => exact .note _ w
    | ok m => exact .refl w
  | beginCorrelated _ factory request =>
    simp only [Errand.work]
    split
    · exact (Desk.Tends.of_course (w.course_subscribe (factory request))).trans (.note _ _)
    · exact .refl w
  | finishCorrelated s answer =>
    obtain rfl := Option.some.inj ha
    cases answer with
    | error x =>
      exact (Desk.Tends.note .transportRejected w).trans
        (.endSubscription (w := w.note .transportRejected) hw.line)
    | ok m =>
      refine Desk.Tends.trans (u := w.mapSink s.place fun k => { k with rule := k.rule.onSent m })
        (.mapSink hw.line (fun k _ => .learn .refl _) (fun _ => .refl) fun _ _ => rfl)
        (.note _ _)
  | enterSubscription name s => exact .of_course (w.course_enter name ⟨s, .idle⟩)
  | setReader name s r => exact .of_line rfl rfl rfl
  | poll s =>
    obtain rfl := Option.some.inj ha
    show w.Tends (fun r => if s = r then [(w.poll s).1] else []) (w.poll s).2
    have buffer := hw.bufferAt? s.place
    unfold Desk.poll
    cases hb : w.bufferAt? s with
    | none =>
      -- There is nothing to read from, and so nothing changes.
      refine ⟨rfl, .refl w, fun i => ?_, fun r hr => if_neg fun h => hr (by rw [← h, hw.line])⟩
      show Sink.Fares _ (if s = _ then [none] else []) _
      split
      case isTrue hs =>
        refine .idle .refl ?_
        have place : s.place = i := congrArg SinkRef.place hs
        rw [← place, ← buffer]
        exact hb
      case isFalse => exact .refl
    | some q =>
      dsimp only
      unfold Desk.mapSinkAt
      rw [if_pos hw.line]
      have found : (w.sink? s.place).bind Sink.buffer? = some q := buffer.symm.trans hb
      refine .mapSink hw.line ?_ ?_ fun r hr => if_neg (Ne.symm hr)
      · intro k hk
        rw [hk] at found
        have hl : k.listener = .stream q := Sink.buffer?_eq_some.mp found
        rw [if_pos rfl, Sink.mapBuffer_of_stream hl]
        exact .poll .refl hl
      · intro hk
        rw [hk] at found
        cases found
  | endSubscription s =>
    obtain rfl := Option.some.inj ha
    exact .endSubscription hw.line
  | _ => cases ha

/-! ## §4. Runs of errands -/

namespace Engine

variable {e : Engine} {s : SinkRef}

/-- Work on one line, seen by a sink anywhere. -/
theorem Hands.fares {c : ConnectionId} {w v : Desk} {given : SinkRef → List Reading}
    (h : e.Hands c w) (t : w.Tends given v) (s : SinkRef) :
    Sink.Fares (e.sink? s) (given s) ((e.ofDesk v).sink? s) := by
  have held : v.Holds c := h.holds.of_ids (Lines.ids_of_struck t.others.before) t.id
  by_cases hc : s.connection = c
  case pos =>
    have own : s = ⟨w.line.id, s.place⟩ := by rw [h.holds.line, ← hc]
    have before : e.sink? s = w.sink? s.place := by
      unfold Engine.sink?
      rw [hc, h.get?]
      rfl
    have after : (e.ofDesk v).sink? s = v.sink? s.place := by
      unfold Engine.sink?
      rw [hc, get?_ofDesk e held]
      rfl
    rw [before, after, own]
    exact t.fares s.place
  case neg =>
    have other : s.connection ≠ w.line.id := fun h' => hc (h'.trans h.holds.line)
    rw [t.elsewhere s other]
    have lines : e.registry.get? s.connection = Registry.findLine s.connection w.lines := by
      rw [h.lines]
      rfl
    unfold Engine.sink?
    rw [lines]
    show Sink.Fares _ [] ((Registry.findLine s.connection v.lines).bind _)
    cases hf : Registry.findLine s.connection w.lines with
    | some l =>
      obtain ⟨k, hk, struck⟩ := t.others.find t.id other hf
      rw [hk]
      exact struck.fares s.place
    | none =>
      have unknown : Registry.findLine s.connection v.lines = none := by
        have ids := t.others.ids t.id
        unfold Registry.findLine at hf ⊢
        rw [List.find?_eq_none] at hf ⊢
        intro k hk heq
        have among : k.id ∈ w.lines.map Line.id := ids ▸ List.mem_map_of_mem hk
        obtain ⟨l, hl, hid⟩ := List.mem_map.mp among
        exact hf l hl (by rw [hid]; exact heq)
      rw [unknown]
      exact .refl

/-- An errand that concerns one connection. -/
theorem fares_work (e : Engine) (s : SinkRef) {a : Errand} {c : ConnectionId}
    (ha : a.addressee = some c) :
    Sink.Fares (e.sink? s) (a.given s (e.outcome a)) ((e.act a).sink? s) := by
  rcases e.known_cases c with h | ⟨w, h⟩
  · obtain ⟨outcome, act⟩ := outcome_of_unknown h ha
    have nothing : a.given s a.unanswered = [] := by cases a <;> rfl
    rw [outcome, nothing]
    rcases act with act | act <;> rw [act] <;> exact .refl
  · obtain ⟨outcome, act⟩ := h.work ha
    rw [outcome, act]
    exact h.fares (Errand.tends h.holds ha) s

theorem fares_closeLines (cs : List ConnectionId) (e : Engine) (s : SinkRef) :
    Sink.Fares (e.sink? s) [] ((closeLines cs e).sink? s) := by
  induction cs generalizing e with
  | nil => exact .refl
  | cons c cs ih =>
    rw [closeLines_cons]
    exact (e.fares_work (a := .operate c .close) s rfl).trans (ih _)

/-- A new line has no sinks. -/
theorem sink?_register (e : Engine) (config : ConnectionConfig) (s : SinkRef) :
    (e.act (.register config)).sink? s = e.sink? s := by
  rw [act_register]
  split
  case isTrue => rfl
  case isFalse =>
    show (Registry.findLine s.connection (e.registry.lines ++ [_])).bind _ =
      (Registry.findLine s.connection e.registry.lines).bind _
    unfold Registry.findLine
    rw [List.find?_append]
    cases e.registry.lines.find? fun l => l.id = s.connection with
    | some l => rfl
    | none =>
      rw [Option.none_or, List.find?_singleton]
      split <;> rfl

/-- **What becomes of a sink in an errand**, with what its reader is given. -/
theorem fares_act (e : Engine) (s : SinkRef) (a : Errand) :
    Sink.Fares (e.sink? s) (a.given s (e.outcome a)) ((e.act a).sink? s) := by
  cases a with
  | register config =>
    rw [sink?_register]
    exact .refl
  | close => exact e.fares_closeLines _ s
  | awaitStartup k limit =>
    rw [act_awaitStartup]
    split <;> exact .refl
  | awaitAnnounced limit => exact .refl
  | _ => exact e.fares_work s rfl

/-- What errands give to the reader of a sink, one after the other. -/
def givenAll (s : SinkRef) : List Errand → Engine → List Reading
  | [], _ => []
  | a :: as, e => a.given s (e.outcome a) ++ givenAll s as (e.act a)

theorem fares_actAll (as : List Errand) (e : Engine) (s : SinkRef) :
    Sink.Fares (e.sink? s) (givenAll s as e) ((actAll as e).sink? s) := by
  induction as generalizing e with
  | nil => exact .refl
  | cons a as ih => exact (e.fares_act s a).trans (ih (e.act a))

/-- Whoever looks for something to read in a sink that is there is told what there is. -/
theorem length_givenAll {k : Sink} (hk : e.sink? s = some k) (as : List Errand) :
    (givenAll s as e).length = as.countP (Errand.reads s) := by
  induction as generalizing e k with
  | nil => rfl
  | cons a as ih =>
    obtain ⟨k', -, hk', -⟩ := hears_actAll [a] hk
    have one : (a.given s (e.outcome a)).length = if a.reads s then 1 else 0 := by
      cases a with
      | poll r =>
        by_cases hr : r = s
        case pos =>
          subst hr
          obtain ⟨l, hl, -⟩ := Option.bind_eq_some_iff.mp hk
          obtain ⟨w, hw, -⟩ := hands hl
          rw [(hw.work rfl).1]
          simp [Errand.given, Errand.work, Errand.reads]
        case neg =>
          have nothing : ∀ o, Errand.given s (.poll r) o = [] := by
            intro o
            unfold Errand.given
            split
            · simp_all
            · rfl
          rw [nothing]
          simp [Errand.reads, hr]
      | _ => rfl
    rw [List.countP_cons, ← ih hk', ← one]
    show (_ ++ givenAll s as (e.act a)).length = _
    rw [List.length_append, Nat.add_comm]
    rfl

end Engine

/-- **The stream of an active sink has not ended**, whatever an engine that was built was asked to
do. -/
theorem EngineBuilder.unended {b : EngineBuilder} {e₀ : Engine} (h : b.build = .ok e₀)
    (as : List Errand) {s : SinkRef} {k : Sink} (hk : (Engine.actAll as e₀).sink? s = some k) :
    k.Unended := by
  have nothing : e₀.sink? s = none := by
    obtain ⟨-, -, -, -, rfl⟩ := build_eq_ok.mp h
    refine Option.bind_eq_none_iff.mpr fun l hl => ?_
    obtain ⟨config, -, rfl⟩ := List.mem_map.mp (List.mem_of_find?_eq_some hl)
    rfl
  refine (Engine.fares_actAll as e₀ s).unended ?_ k hk
  rw [nothing]
  rintro k' ⟨⟩

end Correlator
