/-
  Correlator.Proofs.Passages — A RUN PASSES A STAGE.

  What happens to an engine is a sequence of errands, an errand is work on a
  line, and in the middle of that work callbacks do further work.  So a message
  that is dispatched, or a drop that is told, may lie anywhere: between two
  errands, or deep inside one.  A run passes it if steps on the line lead from
  the beginning of an errand to it, and other steps from there to the end.

  Of what one sink has heard, a stage that is passed shows the beginning.  A
  sink that is no longer active there hears nothing more, and one that is not in
  the active set any more will not be active in the end.

  Main results:
    * `Path.callsTo`, `Path.unfinished` — one sink on the way,
    * `Desk.dispatch_turn`, `Desk.broadcast_turn` — a sink takes its turn,
    * `Engine.Elapses`, `Engine.Through` — what a run passes,
    * `Engine.through_errand` — operations and reports,
    * `Engine.Fresh.before`, `Engine.Through.later` — what a stage shows.
-/
import Correlator.Proofs.Callbacks
import Correlator.Proofs.FailedSends
import Correlator.Proofs.Fates
import Correlator.Proofs.InboundGate
import Correlator.Proofs.Selection
namespace Correlator

/-! ## §1. One sink on the way -/

/-- The callbacks to a sink so far, in order. -/
def Desk.callsTo (s : SinkRef) (w : Desk) : List Call :=
  w.shared.history.filterMap (Moment.callTo? s)

theorem Desk.callsTo_of_history {s : SinkRef} {w v : Desk} {news : List Moment}
    (hown : w.line.id = s.connection) (hh : v.shared.history = w.shared.history ++ news)
    (here : History.Here w.line.id news) :
    v.callsTo s = w.callsTo s ++ History.callsAt s.place news := by
  unfold callsTo
  rw [hh, List.filterMap_append, History.callsTo_of_here here, if_pos hown.symm]

/-- A callback to the sink starts. -/
theorem Desk.callsTo_of_called {s : SinkRef} {w v : Desk} {label : Option String} {c : Call}
    {l : Line} {news : List Moment} (hl : l.id = s.connection)
    (hh : v.shared.history = w.shared.history ++ ⟨.called s.place label c, some l⟩ :: news) :
    v.callsTo s = w.callsTo s ++ c :: news.filterMap (Moment.callTo? s) := by
  have standing : Moment.standing? s.connection ⟨.called s.place label c, some l⟩ = some l :=
    Moment.standing?_eq_some.mpr ⟨rfl, hl⟩
  have shown : Moment.callTo? s ⟨.called s.place label c, some l⟩ = some c := by
    simp [Moment.callTo?, standing, Moment.callAt?]
  unfold callsTo
  rw [hh, List.filterMap_append, List.filterMap_cons_some shown]

/-- The signals of a sink lead from its phase to its phase. -/
theorem Path.signals {a b : Stage} (h : Path a b) (ha : a.Sound) {i : Nat} {p : Phase}
    (hp : a.desk.line.mux.phase? i = some p) : ∃ q z, b.desk.line.mux.phase? i = some q ∧
      History.signalsAt a.desk.line.id i b.desk.shared.history =
        History.signalsAt a.desk.line.id i a.desk.shared.history ++ z ∧
      p.through z = some q := by
  induction h with
  | refl => exact ⟨p, [], hp, (List.append_nil _).symm, rfl⟩
  | @tail b c path step ih =>
    obtain ⟨q, z, hq, hz, through⟩ := ih
    obtain ⟨news, moves, hnews⟩ := step.moves (Path.keeps Step.sound path ha) i
    rw [Path.id path, hz, List.append_assoc] at hnews
    rw [hq] at moves
    generalize c.desk.line.mux.phase? i = o at moves
    cases moves with
    | stay => exact ⟨q, z ++ [], rfl, hnews, by rw [List.append_nil]; exact through⟩
    | signal after =>
      refine ⟨_, _, rfl, hnews, Phase.through_append.mpr ⟨q, through, ?_⟩⟩
      exact Phase.through_cons.mpr ⟨_, after, rfl⟩

/-- **What a sink hears on a path.**  A sink that is active in the end has heard messages only, and
one that was not active to begin with has heard nothing. -/
theorem Path.callsTo {a b : Stage} (h : Path a b) (ha : a.Sound) {s : SinkRef}
    (hown : a.desk.line.id = s.connection) {p : Phase}
    (hp : a.desk.line.mux.phase? s.place = some p) : ∃ q cs,
      b.desk.line.mux.phase? s.place = some q ∧ b.desk.callsTo s = a.desk.callsTo s ++ cs ∧
      (q = .active → ∃ given : List Message, cs = given.map .message) ∧
      (p ≠ .active → q = p ∧ cs = []) := by
  obtain ⟨news, hh, here⟩ := h.here
  obtain ⟨q, z, hq, hz, through⟩ := h.signals ha hp
  have word : History.callsAt s.place news = z.filterMap Signal.call? := by
    rw [hh, History.signalsAt_append] at hz
    rw [History.callsAt_eq a.desk.line.id, List.append_cancel_left hz]
  refine ⟨q, History.callsAt s.place news, hq, Desk.callsTo_of_history hown hh here, ?_, ?_⟩
  · rintro rfl
    rw [word]
    by_cases hactive : p = .active
    · subst hactive
      rcases Phase.through_active through with ⟨-, messages⟩ | ⟨_, e, _, -, -, ends, -⟩
      · exact Signal.filterMap_call?_of_messages messages
      · exact absurd rfl ends.ne_active
    · exact absurd (Phase.through_of_ended hactive through).1.symm hactive
  · intro hp
    obtain ⟨hqp, vain⟩ := Phase.through_of_ended hp through
    exact ⟨hqp, word.trans (Signal.filterMap_call?_of_vain vain)⟩

/-- No step adds to what is owed to an earlier sink that has left the set. -/
theorem Step.owed_le {a b : Stage} (h : Step a b) {i : Nat}
    (hlt : i < a.desk.line.mux.sinks.length) (hout : i ∉ a.desk.line.mux.active) :
    b.owed.count i ≤ a.owed.count i := by
  have drained : ∀ {w : Desk} {owed : List Nat}, i ∉ w.line.mux.active →
      (w.line.mux.active ++ owed).count i = owed.count i := by
    intro w owed h
    rw [List.count_append, List.count_eq_zero.mpr h, Nat.zero_add]
  cases h with
  | aside => exact Nat.le_refl _
  | turn => exact Nat.le_refl _
  | shift h =>
    cases h with
    | @refuse w owed =>
      have other : (w.line.mux.sinks.length :: owed).count i = owed.count i :=
        List.count_cons_of_ne (Nat.ne_of_gt hlt)
      exact Nat.le_of_eq other
    | finish => exact List.count_le_count_cons
    | pass => exact List.count_le_count_cons
    | drain => exact Nat.le_of_eq (drained hout)
    | shut => exact Nat.le_of_eq (drained hout)
    | _ => exact Nat.le_refl _

/-- **A sink that is still owed its end** has heard messages only. -/
theorem Path.unfinished {a b : Stage} (h : Path a b) {i : Nat}
    (hlt : i < a.desk.line.mux.sinks.length) (hout : i ∉ a.desk.line.mux.active) :
    b.owed.count i ≤ a.owed.count i ∧ ∃ news,
      b.desk.shared.history = a.desk.shared.history ++ news ∧
      (b.owed.count i = a.owed.count i →
        ∀ c ∈ History.callsAt i news, c.message?.isSome = true) := by
  induction h with
  | refl => exact ⟨Nat.le_refl _, [], (List.append_nil _).symm, fun _ c hc => by cases hc⟩
  | @tail b c path step ih =>
    obtain ⟨le, news, hh, messages⟩ := ih
    have later := Path.succeeds path
    have le' : c.owed.count i ≤ b.owed.count i :=
      step.owed_le (Nat.lt_of_lt_of_le hlt later.length) fun hi => hout (later.mem hi hlt)
    obtain ⟨more, hh', told⟩ := step.tells i
    refine ⟨Nat.le_trans le' le, news ++ more, by rw [hh', hh, List.append_assoc], ?_⟩
    intro same k hk
    rw [History.callsAt_append] at hk
    rcases List.mem_append.mp hk with hk | hk
    · exact messages (by omega) k hk
    · generalize History.callsAt i more = cs at told hk
      cases told with
      | nothing => cases hk
      | message =>
        rw [List.mem_singleton.mp hk]
        rfl
      | last _ howed =>
        -- Its turn would have been taken off what it is owed.
        have one : b.owed.count i = c.owed.count i + 1 := by rw [howed, List.count_cons_self]
        omega

/-! ## §2. Sinks that are gone through -/

namespace Desk

/-- What is owed to a sink when its turn comes is what was owed when the set was emptied. -/
theorem count_owed {active earlier later owed : List Nat} {i : Nat}
    (ascending : active.Pairwise (· < ·)) (h : active = earlier ++ i :: later) :
    (i :: (later ++ owed)).count i = (active ++ owed).count i := by
  have notBefore : i ∉ earlier := by
    rw [h] at ascending
    intro hi
    exact Nat.lt_irrefl _ ((List.pairwise_append.mp ascending).2.2 _ hi _ List.mem_cons_self)
  rw [h, List.append_assoc, List.count_append, List.count_eq_zero.mpr notBefore, Nat.zero_add]
  rfl

variable (step : Nat → Desk → Bool × Desk)

theorem visit_append_snd (earlier later : List Nat) (w : Desk) :
    (visit step (earlier ++ later) w).2 = (visit step later (visit step earlier w).2).2 := by
  induction earlier generalizing w with
  | nil => rfl
  | cons i rest ih => exact ih _

/-- **A sink that is gone through** is visited once those before it have been. -/
theorem visit_split {places : List Nat} {i : Nat} (hi : i ∈ places) (w : Desk) :
    ∃ v ∈ w.visits step places, v.place = i ∧ ∃ earlier later, places = earlier ++ i :: later ∧
      v.desk = (visit step earlier w).2 ∧
      (visit step (earlier ++ [i]) w).2 = (v.outcome step).2 := by
  induction places generalizing w with
  | nil => cases hi
  | cons j rest ih =>
    by_cases hj : i = j
    case pos =>
      subst hj
      exact ⟨⟨i, w⟩, List.mem_cons_self, rfl, [], rest, rfl, rfl, rfl⟩
    case neg =>
      obtain ⟨v, hv, hplace, earlier, later, rfl, hdesk, hafter⟩ :=
        ih ((List.mem_cons.mp hi).resolve_left hj) (step j w).2
      exact ⟨v, List.mem_cons_of_mem _ hv, hplace, j :: earlier, later, rfl, hdesk, hafter⟩

/-- The beginning of a broadcast: the drop goes on record, and the active set is emptied. -/
def vacate (d : ConnectionDropped) (w : Desk) : Desk :=
  w.mapMux fun x => { x with dropRecord := some d, active := [] }

section

variable {i : Nat} {w : Desk} (depth : Nat) (owed : List Nat)

/-- What a broadcast does once the set is emptied. -/
theorem path_broadcast (w : Desk) (d : ConnectionDropped) :
    Path ⟨w.vacate d, w.line.mux.active ++ owed⟩
      ⟨(w.broadcastWith (callWith (perform depth)) d).2, owed⟩ := by
  have hc : Follows (Course fun _ => True) (fun _ => True) (callWith (perform depth)) :=
    follows_caller depth
  have dismissed : ∀ sooner j rest, w.line.mux.active = sooner ++ j :: rest →
      Dismissal (visit (terminate (callWith (perform depth)) d) sooner (w.vacate d)).2 j
        (.error d) :=
    fun _ _ _ h => .broadcast depth h
  have told := hc.visit_finish (.dropped d) dismissed owed (.trivial (w.vacate d))
  exact told.path.trans (path_note _ _ rfl)

/-- **A dispatch comes to each sink in its turn.**  Steps lead to the turn, through it, and from
there to the end. -/
theorem dispatch_turn (m : Message) (hi : i ∈ w.line.mux.active) :
    ∃ v ∈ w.visits (deliver (callWith (perform depth)) m) w.line.mux.active, v.place = i ∧
      Path ⟨w, owed⟩ ⟨v.desk, owed⟩ ∧
      Path ⟨v.desk, owed⟩ ⟨(v.outcome (deliver (callWith (perform depth)) m)).2, owed⟩ ∧
      Path ⟨(v.outcome (deliver (callWith (perform depth)) m)).2, owed⟩
        ⟨(w.dispatchWith (callWith (perform depth)) m).2, owed⟩ := by
  have hc : Follows (Course fun _ => True) (fun _ => True) (callWith (perform depth)) :=
    follows_caller depth
  obtain ⟨v, hv, hplace, earlier, later, hactive, hdesk, houtcome⟩ :=
    visit_split (deliver (callWith (perform depth)) m) hi w
  have before := hc.visit_deliver m earlier (.trivial w) owed
  have after := hc.visit_deliver m later
    (.trivial (v.outcome (deliver (callWith (perform depth)) m)).2) owed
  have all : (visit (deliver (callWith (perform depth)) m) w.line.mux.active w).2 =
      (visit (deliver (callWith (perform depth)) m) later
        (v.outcome (deliver (callWith (perform depth)) m)).2).2 := by
    rw [hactive, ← List.singleton_append, ← List.append_assoc, visit_append_snd, houtcome]
  rw [← hdesk] at before
  rw [← all] at after
  refine ⟨v, hv, hplace, before.path, (hc.deliver m v.place (.trivial v.desk) owed).path,
    after.path.trans ?_⟩
  unfold dispatchWith
  dsimp only
  split
  · exact path_note _ _ rfl
  · exact .refl

/-- **A broadcast comes to each sink in its turn.**  Until then the sink is owed its end, and so are
those that come later. -/
theorem broadcast_turn (d : ConnectionDropped) (hi : i ∈ w.line.mux.active) :
    ∃ v ∈ (w.vacate d).visits (terminate (callWith (perform depth)) d) w.line.mux.active,
      v.place = i ∧ ∃ earlier later, w.line.mux.active = earlier ++ i :: later ∧
        Path ⟨w.vacate d, w.line.mux.active ++ owed⟩ ⟨v.desk, i :: (later ++ owed)⟩ ∧
        Path ⟨v.desk, i :: (later ++ owed)⟩
          ⟨(v.outcome (terminate (callWith (perform depth)) d)).2, later ++ owed⟩ ∧
        Path ⟨(v.outcome (terminate (callWith (perform depth)) d)).2, later ++ owed⟩
          ⟨(w.broadcastWith (callWith (perform depth)) d).2, owed⟩ := by
  have hc : Follows (Course fun _ => True) (fun _ => True) (callWith (perform depth)) :=
    follows_caller depth
  let vacated : Desk := w.vacate d
  obtain ⟨v, hv, hplace, earlier, later, hactive, hdesk, houtcome⟩ :=
    visit_split (terminate (callWith (perform depth)) d) hi vacated
  let after : Desk := (v.outcome (terminate (callWith (perform depth)) d)).2
  -- Each of them takes its turn in the one broadcast.
  have dismissed : ∀ sooner j rest, earlier = sooner ++ j :: rest →
      Dismissal (visit (terminate (callWith (perform depth)) d) sooner vacated).2 j (.error d) := by
    intro sooner j rest h
    have split : w.line.mux.active = sooner ++ j :: (rest ++ i :: later) := by
      rw [hactive, h, List.append_assoc]
      rfl
    exact .broadcast depth split
  have dismissed' : ∀ sooner j rest, later = sooner ++ j :: rest →
      Dismissal (visit (terminate (callWith (perform depth)) d) sooner after).2 j (.error d) := by
    intro sooner j rest h
    have split : w.line.mux.active = earlier ++ [i] ++ sooner ++ j :: rest := by
      rw [hactive, h, List.append_assoc, List.append_assoc]
      rfl
    show Dismissal (visit _ sooner (v.outcome _).2).2 j _
    rw [← houtcome, ← visit_append_snd]
    exact .broadcast depth split
  have turn : Dismissal v.desk v.place (.error d) := by
    rw [hdesk, hplace]
    exact .broadcast depth hactive
  have first := hc.visit_finish (.dropped d) dismissed (i :: (later ++ owed)) (.trivial vacated)
  have last := hc.visit_finish (.dropped d) dismissed' owed (.trivial after)
  have told := hc.finish (.dropped d) turn (later ++ owed) (.trivial v.desk)
  have all : (visit (terminate (callWith (perform depth)) d) w.line.mux.active vacated).2 =
      (visit (terminate (callWith (perform depth)) d) later after).2 := by
    rw [hactive, ← List.singleton_append, ← List.append_assoc, visit_append_snd, houtcome]
  have noted : (w.broadcastWith (callWith (perform depth)) d).2 =
      (visit (terminate (callWith (perform depth)) d) w.line.mux.active vacated).2.note
        .dropBroadcast := rfl
  have outcome : after = (v.desk.finish (callWith (perform depth)) .terminated (.error d) i).2 := by
    rw [← hplace]
    rfl
  refine ⟨v, hv, hplace, earlier, later, hactive, ?_, ?_, ?_⟩
  · rw [hdesk, hactive, List.append_assoc]
    exact first.path
  · show Path _ ⟨after, _⟩
    rw [outcome, ← hplace]
    exact told.path
  · rw [noted, all]
    exact last.path.trans (path_note _ _ rfl)

end

end Desk

/-! ## §3. What a run passes -/

namespace Engine

/-- Anything happens to an engine, but nobody reads from the sink or ends it. -/
abbrev Elapses (s : SinkRef) : Engine → Engine → Prop :=
  Relation.ReflTransGen fun e f => ∃ altered, altered ≠ some s ∧ Moves altered e f

/-- A run from one engine to another that passes from a stage to a stage of the sink's line. -/
def Through (s : SinkRef) (e : Engine) (a b : Stage) (g : Engine) : Prop :=
  ∃ f w v, Elapses s e f ∧ f.Hands s.connection w ∧ Path ⟨w, []⟩ a ∧ Path b ⟨v, []⟩ ∧
    Elapses s (f.ofDesk v) g

variable {s : SinkRef} {e f g : Engine} {a b x y : Stage}

theorem elapses_actAll {as : List Errand} (h : ∀ x ∈ as, x.alters ≠ some s) (e : Engine) :
    Elapses s e (actAll as e) :=
  keeps_actAll (P := fun f => Elapses s e f)
    (fun a ha moves path => path.tail ⟨a.alters, h a ha, moves⟩) .refl

namespace Elapses

theorem sound (h : Elapses s e f) (he : e.Sound) : f.Sound := by
  induction h with
  | refl => exact he
  | tail _ step ih =>
    obtain ⟨altered, -, moves⟩ := step
    exact moves.sound ih

theorem hears (h : Elapses s e f) {k : Sink} (hk : e.sink? s = some k) :
    ∃ k' cs, f.sink? s = some k' ∧ f.callsTo s = e.callsTo s ++ cs ∧ k.Hears False cs k' := by
  induction h with
  | refl => exact ⟨k, [], hk, (List.append_nil _).symm, .refl k⟩
  | tail _ step ih =>
    obtain ⟨altered, other, moves⟩ := step
    obtain ⟨k₁, cs, hk₁, hcs, hears⟩ := ih
    obtain ⟨k₂, ds, hk₂, hds, hears'⟩ := moves.hears hk₁
    exact ⟨k₂, cs ++ ds, hk₂, by rw [hds, hcs, List.append_assoc], hears.trans (hears'.mono other)⟩

/-- The sink keeps its rule, and hears the messages only that its rule accepts. -/
theorem accepts (h : Elapses s e f) {k : Sink} (hk : e.sink? s = some k) :
    ∃ k' cs, f.sink? s = some k' ∧ f.callsTo s = e.callsTo s ++ cs ∧ k'.rule = k.rule ∧
      ∀ m, .message m ∈ cs → k.rule.judge m = .accepts := by
  induction h with
  | refl => exact ⟨k, [], hk, (List.append_nil _).symm, rfl, fun m hm => by cases hm⟩
  | tail _ step ih =>
    obtain ⟨altered, other, moves⟩ := step
    obtain ⟨k₁, cs, hk₁, hcs, hr, first⟩ := ih
    obtain ⟨k₂, ds, hk₂, hds, hr', last⟩ := moves.accepts other hk₁
    refine ⟨k₂, cs ++ ds, hk₂, by rw [hds, hcs, List.append_assoc], hr'.trans hr, fun m hm => ?_⟩
    rcases List.mem_append.mp hm with hm | hm
    · exact first m hm
    · rw [← hr]
      exact last m hm

end Elapses

/-- **An operation that is performed, or reported, is passed.** -/
theorem through_errand {op : Operation} {x : Errand}
    (hx : x = .operate s.connection op ∨ ∃ r, x = .report s.connection r ∧ r.operation = op)
    {before after : List Errand} (hbefore : ∀ x ∈ before, x.alters ≠ some s)
    (hafter : ∀ x ∈ after, x.alters ≠ some s) {w : Desk}
    (hw : (actAll before e).Hands s.connection w) :
    Through s e ⟨w, []⟩ ⟨(op.exec w).2, []⟩ (actAll (before ++ x :: after) e) := by
  have performed : (actAll before e).act (.operate s.connection op) =
      (actAll before e).ofDesk (op.exec w).2 := by
    rw [act_operate, hw.onLine]
  have errand : Elapses s ((actAll before e).ofDesk (op.exec w).2) ((actAll before e).act x) := by
    rcases hx with rfl | ⟨r, rfl, rfl⟩
    · rw [performed]
    · -- A report may leave a notice behind.
      rcases (actAll before e).act_report s.connection r with h | ⟨n, h⟩
      · rw [h, performed]
      · rw [h, performed]
        exact .single ⟨none, by simp, .note n _⟩
  have rest : actAll (before ++ x :: after) e = actAll after ((actAll before e).act x) := by
    unfold actAll
    rw [List.foldl_append, List.foldl_cons]
  rw [rest]
  exact ⟨_, w, _, elapses_actAll hbefore e, hw, .refl, .refl,
    errand.trans (elapses_actAll hafter _)⟩

/-- A stage on the way is passed too. -/
theorem Through.narrow (h : Through s e a b g) (hx : Path a x) (hy : Path y b) :
    Through s e x y g := by
  obtain ⟨f, w, v, hf, hw, ha, hb, hg⟩ := h
  exact ⟨f, w, v, hf, hw, ha.trans hx, hy.trans hb, hg⟩

/-! ## §4. What a stage shows of a new subscription -/

/-- A subscription has just been made. -/
structure Fresh (e : Engine) (s : SinkRef) (capacity : Nat) (rule : Rule) : Prop where
  sound : e.Sound
  room : 0 < capacity
  sink : ∃ k, e.sink? s = some k ∧ k.Stands capacity rule [] .waiting

variable {capacity : Nat} {rule : Rule}

/-- **What a stage that is passed shows.**  The sink is there with its rule, and if it is active it
has heard messages only. -/
theorem Fresh.before (he : e.Fresh s capacity rule) (h : Through s e a b g) :
    a.Sound ∧ a.desk.line.id = s.connection ∧ ∃ k cs, a.desk.sink? s.place = some k ∧
      k.rule = rule ∧ a.desk.callsTo s = e.callsTo s ++ cs ∧
      (k.phase = .active → ∃ given : List Message, cs = given.map .message) := by
  obtain ⟨f, w, v, hf, hw, path, -, -⟩ := h
  obtain ⟨k₀, hk₀, stands⟩ := he.sink
  obtain ⟨k₁, cs, hk₁, hcs, hears⟩ := hf.hears hk₀
  obtain ⟨given, fate, rfl, stands₁⟩ := hears.stands he.room stands
  have sound : Stage.Sound ⟨w, []⟩ := by
    refine Line.Sound.stage ?_
    rw [hw.shared]
    exact (hf.sound he.sound).each _ hw.mem
  obtain ⟨l, hl, hsink⟩ := Option.bind_eq_some_iff.mp hk₁
  obtain rfl : l = w.line := Option.some.inj (hl.symm.trans hw.get?)
  have own : w.line.id = s.connection := hw.holds.line
  have phase : w.line.mux.phase? s.place = some k₁.phase := Multiplexer.phase?_of_sink hsink
  obtain ⟨q, ds, hq, hds, messages, ended⟩ := path.callsTo sound own phase
  obtain ⟨k, hk, hrule⟩ := path.continues.line.rule s.place k₁ hsink
  have calls : w.callsTo s = f.callsTo s := by
    unfold Desk.callsTo Engine.callsTo
    rw [hw.shared]
  have hqk : k.phase = q := by
    rw [Multiplexer.phase?_of_sink hk] at hq
    exact Option.some.inj hq
  refine ⟨path.keeps Step.sound sound, (Path.id path).trans own, k,
    given.map .message ++ fate.calls ++ ds, hk, hrule.trans stands₁.rule, ?_, ?_⟩
  · rw [hds]
    show w.callsTo s ++ ds = _
    rw [calls, hcs]
    simp only [List.append_assoc]
  · intro hactive
    obtain ⟨more, rfl⟩ := messages (hqk.symm.trans hactive)
    -- Active in the end, it was active all along.
    have hfate : fate = .waiting := by
      by_contra hne
      have inactive : k₁.phase ≠ .active := by
        rw [stands₁.phase]
        exact fun h => hne (Fate.phase_eq_active.mp h)
      have same := (ended inactive).1
      exact inactive (same.symm.trans (hqk.symm.trans hactive))
    subst hfate
    exact ⟨given ++ more, by simp [Fate.calls]⟩

/-- **What is left to hear after a stage.**  A sink that is not active hears nothing more, and one
that is not in the active set is not active in the end. -/
theorem Through.later (h : Through s e a b g) (path : Path a b) (hb : b.Sound)
    {k : Sink} (hk : b.desk.sink? s.place = some k) : ∃ k' cs, g.sink? s = some k' ∧
      g.callsTo s = b.desk.callsTo s ++ cs ∧ (k.phase ≠ .active → cs = [] ∧ k'.phase ≠ .active) ∧
      (s.place ∉ b.desk.line.mux.active → k'.phase ≠ .active) := by
  obtain ⟨f, w, v, -, hw, hwa, hbv, hg⟩ := h
  have whole : Path ⟨w, []⟩ ⟨v, []⟩ := (hwa.trans path).trans hbv
  have own : b.desk.line.id = s.connection :=
    (Path.id (hwa.trans path)).trans hw.holds.line
  have held : v.Holds s.connection := hw.holds.continues whole.continues
  have phase : b.desk.line.mux.phase? s.place = some k.phase := Multiplexer.phase?_of_sink hk
  obtain ⟨q, cs, hq, hcs, -, ended⟩ := hbv.callsTo hb own phase
  obtain ⟨k₁, hk₁, -⟩ := hbv.continues.line.rule s.place k hk
  have hqk : k₁.phase = q := by
    have hq : v.line.mux.phase? s.place = some q := hq
    rw [Multiplexer.phase?_of_sink hk₁] at hq
    exact Option.some.inj hq
  have there : (f.ofDesk v).sink? s = some k₁ :=
    Option.bind_eq_some_iff.mpr ⟨v.line, get?_ofDesk f held, hk₁⟩
  obtain ⟨k', ds, hk', hds, hears⟩ := hg.hears there
  refine ⟨k', cs ++ ds, hk', ?_, ?_, ?_⟩
  · rw [hds, ← List.append_assoc]
    exact congrArg (· ++ ds) hcs
  · intro hp
    obtain ⟨same, rfl⟩ := ended hp
    obtain ⟨rfl, inactive⟩ := hears.of_inactive (by rw [hqk, same]; exact hp)
    exact ⟨rfl, inactive⟩
  · intro hout
    have sound : Stage.Sound ⟨v, []⟩ := hbv.keeps Step.sound hb
    -- It does not come back into the set, and outside of it nobody is active at rest.
    refine (hears.of_inactive fun hactive => hout ?_).2
    refine hbv.succeeds.mem ?_ (Multiplexer.lt_of_phase? phase)
    refine (sound.accounted s.place ?_).resolve_right List.not_mem_nil
    show v.line.mux.phase? s.place = some .active
    rw [Multiplexer.phase?_of_sink hk₁, hactive]

end Engine

end Correlator
