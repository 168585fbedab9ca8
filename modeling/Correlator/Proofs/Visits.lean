/-
  Correlator.Proofs.Visits — ONE SINK AFTER THE OTHER.

  A dispatch goes through the sinks that were active when it began, and so does
  a broadcast.  Callbacks may do anything in between: dispose later sinks, lose
  the connection, make new sinks, dispatch other messages.  So each sink is
  looked at when its turn comes, on the desk that the earlier ones have left.
  A visit is a sink with that desk; what happens in it is what the trail gains.

  Main results:
    * `Desk.visits`, `Desk.history_visit` — what going through sinks comes to,
    * `Visit.calls_deliver_iff`, `Visit.calls_finish_iff` — when a callback is
      made,
    * `Dispatches`, `Desk.dispatches` — the account of a dispatch,
    * `Tells`, `Desk.tells` — the account of a broadcast.
-/
import Correlator.Proofs.Calm
import Correlator.Proofs.Continuity
namespace Correlator

/-! ## §1. Visits -/

/-- A sink that is gone through, with the desk as it stands then. -/
structure Visit where
  place : Nat
  desk : Desk

/-- The visits of several sinks.  Each finds the desk that the one before has left. -/
def Desk.visits (step : Nat → Desk → Bool × Desk) : List Nat → Desk → List Visit
  | [], _ => []
  | i :: rest, w => ⟨i, w⟩ :: Desk.visits step rest (step i w).2

namespace Visit

/-- What comes of a visit: whether a callback has returned, and the desk after it. -/
def outcome (step : Nat → Desk → Bool × Desk) (v : Visit) : Bool × Desk := step v.place v.desk

/-- What the trail gains. -/
def news (step : Nat → Desk → Bool × Desk) (v : Visit) : List Moment :=
  (v.outcome step).2.shared.history.drop v.desk.shared.history.length

/-- The first thing that happens is the callback to the sink. -/
def Calls (step : Nat → Desk → Bool × Desk) (c : Call) (v : Visit) : Prop :=
  ∃ x rest, v.news step = x :: rest ∧ x.callAt? v.place = some c

variable {step : Nat → Desk → Bool × Desk} {v : Visit}

theorem news_of_history {added : List Moment} (h : (v.outcome step).2.shared.history =
    v.desk.shared.history ++ added) : v.news step = added := by
  unfold news
  rw [h]
  exact List.drop_left

theorem news_of_unchanged (h : (v.outcome step).2 = v.desk) : v.news step = [] :=
  news_of_history (by rw [h, List.append_nil])

end Visit

namespace Desk

variable {step : Nat → Desk → Bool × Desk}

theorem places_visits (places : List Nat) (w : Desk) :
    (w.visits step places).map Visit.place = places := by
  induction places generalizing w with
  | nil => rfl
  | cons i rest ih => exact congrArg (i :: ·) (ih _)

/-- The visits whose callback returns are counted. -/
theorem visit_fst (places : List Nat) (w : Desk) :
    (visit step places w).1 = (w.visits step places).countP fun v => (v.outcome step).1 := by
  induction places generalizing w with
  | nil => rfl
  | cons i rest ih =>
    rw [visit_cons_fst, ih, visits, List.countP_cons, Nat.add_comm]
    rfl

/-- The trail gains what it gains in the visits. -/
theorem history_visit (hstep : ∀ i w, ∃ news,
    (step i w).2.shared.history = w.shared.history ++ news) (places : List Nat) (w : Desk) :
    (visit step places w).2.shared.history =
      w.shared.history ++ (w.visits step places).flatMap (Visit.news step) := by
  induction places generalizing w with
  | nil => exact (List.append_nil _).symm
  | cons i rest ih =>
    obtain ⟨added, hh⟩ := hstep i w
    have first : Visit.news step ⟨i, w⟩ = added := Visit.news_of_history hh
    rw [visit_cons_snd, ih, hh, visits, List.flatMap_cons, first, List.append_assoc]

end Desk

/-! ## §2. A message is offered -/

theorem Visit.news_deliver_of_not_takes (call : Caller) {m : Message} {v : Visit}
    (h : v.desk.takes m v.place = false) :
    ∀ x ∈ v.news (Desk.deliver call m), x.event = .noted .callbackPanicked := by
  rcases Desk.deliver_of_not_takes call h with ho | ho
  · have none : v.news (Desk.deliver call m) = [] := news_of_unchanged (congrArg Prod.snd ho)
    simp [none]
  · have noted : v.news (Desk.deliver call m) =
        [⟨.noted .callbackPanicked, some v.desk.line⟩] := by
      refine news_of_history ?_
      show (v.desk.deliver call m v.place).2.shared.history = _
      rw [ho]
      exact Desk.history_record _ _
    simp [noted]

section

variable {call : Caller} (hc : Desk.Follows (Course fun _ => True) (fun _ => True) call)

include hc

/-- A callback is written down first, then what the waiter does in it. -/
theorem Desk.history_tell {w : Desk} {i : Nat} {s : Sink} (hs : w.sink? i = some s) (c : Call) :
    ∃ rest, (w.tell call i c).2.shared.history = w.shared.history ++
      ⟨.called i (s.listener.hearer c) c, some w.line⟩ :: rest := by
  obtain ⟨heard, hheard, -⟩ := history_hear i s c w
  obtain ⟨told, htold⟩ := (hc.tell hs (.trivial w) c []).path.history
  refine ⟨heard ++ told, htold.trans ?_⟩
  show (w.hear i s c).shared.history ++ told = _
  rw [hheard, List.append_assoc, List.cons_append]

namespace Visit

variable {v : Visit}

/-- **A message that is offered is given to the sink** exactly if the sink takes it when it comes
to that. -/
theorem calls_deliver_iff {m : Message} :
    v.Calls (Desk.deliver call m) (.message m) ↔ v.desk.takes m v.place = true := by
  constructor
  · rintro ⟨x, rest, hn, hx⟩
    by_contra hnot
    have noted := news_deliver_of_not_takes call (Bool.eq_false_iff.mpr hnot) x
      (by rw [hn]; exact List.mem_cons_self)
    unfold Moment.callAt? at hx
    rw [noted] at hx
    cases hx
  · intro h
    obtain ⟨s, hs, -, -⟩ := Desk.takes_iff.mp h
    obtain ⟨rest, hrest⟩ := Desk.history_tell hc hs (.message m)
    rw [← Desk.deliver_of_takes h] at hrest
    exact ⟨_, rest, news_of_history hrest, by simp [Moment.callAt?]⟩

end Visit

theorem Desk.history_deliver (m : Message) (i : Nat) (w : Desk) : ∃ news,
    (w.deliver call m i).2.shared.history = w.shared.history ++ news :=
  (hc.deliver m i (.trivial w) []).path.history

/-- A message is offered to a sink after what happened with those before. -/
theorem Desk.course_of_mem_visits {m : Message} {places : List Nat} {w : Desk} {v : Visit}
    (hv : v ∈ w.visits (deliver call m) places) :
    Course (fun _ => True) ⟨w, []⟩ ⟨v.desk, []⟩ := by
  induction places generalizing w with
  | nil => cases hv
  | cons i rest ih =>
    rcases List.mem_cons.mp hv with rfl | hv
    · exact .refl _
    · exact (hc.deliver m i (.trivial w) []).trans (ih hv)

end

/-! ## §3. A dispatch -/

/-- The account of a dispatch from a desk: how many callbacks returned, and the desk after it. -/
structure Dispatches (call : Caller) (m : Message) (w : Desk) (r : Nat × Desk) : Prop where
  /-- The message is offered once to each sink that is in the active set when it begins. -/
  places : (w.visits (Desk.deliver call m) w.line.mux.active).map Visit.place = w.line.mux.active
  /-- The order is that of the numbers. -/
  order : w.line.mux.active.Pairwise fun i j =>
    ∃ s t, w.sink? i = some s ∧ w.sink? j = some t ∧ s.number < t.number
  /-- A sink is given the message exactly if its rule accepts it and it is still active. -/
  called : ∀ v ∈ w.visits (Desk.deliver call m) w.line.mux.active,
    v.Calls (Desk.deliver call m) (.message m) ↔
      ∃ s, w.sink? v.place = some s ∧ s.rule.judge m = .accepts ∧
        v.desk.line.mux.phase? v.place = some .active
  /-- That is the one callback that is made to it. -/
  once : ∀ v ∈ w.visits (Desk.deliver call m) w.line.mux.active,
    v.Calls (Desk.deliver call m) (.message m) →
      v.outcome (Desk.deliver call m) = v.desk.tell call v.place (.message m)
  /-- Where no callback is made, nothing happens but that the rule may panic. -/
  passed : ∀ v ∈ w.visits (Desk.deliver call m) w.line.mux.active,
    ¬ v.Calls (Desk.deliver call m) (.message m) →
      ∀ x ∈ v.news (Desk.deliver call m), x.event = .noted .callbackPanicked
  /-- The callbacks that did not panic are counted. -/
  answer : r.1 = (w.visits (Desk.deliver call m) w.line.mux.active).countP fun v =>
    (v.outcome (Desk.deliver call m)).1
  returned : ∀ v ∈ w.visits (Desk.deliver call m) w.line.mux.active,
    (v.outcome (Desk.deliver call m)).1 = true ↔
      v.Calls (Desk.deliver call m) (.message m) ∧
        v.desk.panicsAt (.message m) v.place = false
  /-- Apart from a notice that the message was for nobody, that is all that happens. -/
  history : ∃ closing, r.2.shared.history = w.shared.history ++
      (w.visits (Desk.deliver call m) w.line.mux.active).flatMap
        (Visit.news (Desk.deliver call m)) ++ closing ∧
    ∀ x ∈ closing, x.event = .noted .orphanedResponse

/-- **The account of a dispatch**, from every stage that operations can reach and with callbacks
nested up to any depth. -/
theorem Desk.dispatches {a : Stage} (ha : a.Sound) (depth : Nat) (m : Message) :
    Dispatches (callWith (perform depth)) m a.desk
      (a.desk.dispatchWith (callWith (perform depth)) m) := by
  have hc : Follows (Course fun _ => True) (fun _ => True) (callWith (perform depth)) :=
    follows_caller depth
  constructor
  case places => exact places_visits _ _
  case order => exact ha.orderly.numbers
  case called =>
    intro v hv
    rw [Visit.calls_deliver_iff hc, takes_iff]
    have course := course_of_mem_visits hc hv
    have hplace : v.place ∈ a.desk.line.mux.active := by
      have mem := List.mem_map_of_mem (f := Visit.place) hv
      rw [places_visits] at mem
      exact mem
    -- A sink keeps its rule, whatever happens before its turn.
    obtain ⟨s, hs, -⟩ := Option.map_eq_some_iff.mp (ha.orderly.seated v.place hplace)
    obtain ⟨k, hk, hrule⟩ := course.path.continues.line.rule v.place s hs
    constructor
    · rintro ⟨k', hk', hactive, hj⟩
      obtain rfl : k' = k := Option.some.inj (hk'.symm.trans hk)
      refine ⟨s, hs, by rw [← hrule, hj], ?_⟩
      rw [Multiplexer.phase?_of_sink hk', hactive]
    · rintro ⟨s', hs', hj, hactive⟩
      obtain rfl : s' = s := Option.some.inj (hs'.symm.trans hs)
      rw [Multiplexer.phase?_of_sink hk] at hactive
      exact ⟨k, hk, Option.some.inj hactive, by rw [hrule, hj]⟩
  case once =>
    intro v _ hcalls
    exact deliver_of_takes ((Visit.calls_deliver_iff hc).mp hcalls)
  case passed =>
    intro v _ hnot
    refine Visit.news_deliver_of_not_takes _ (Bool.eq_false_iff.mpr ?_)
    exact fun h => hnot ((Visit.calls_deliver_iff hc).mpr h)
  case answer => exact visit_fst _ _
  case returned =>
    intro v _
    rw [Visit.calls_deliver_iff hc]
    unfold Visit.outcome
    cases htakes : v.desk.takes m v.place with
    | true =>
      rw [deliver_of_takes htakes, tell_fst]
      simp
    | false =>
      rcases deliver_of_not_takes (callWith (perform depth)) htakes with h | h <;>
        simp [h]
  case history =>
    let v := (visit (deliver (callWith (perform depth)) m) a.desk.line.mux.active a.desk).2
    have visited : v.shared.history = _ :=
      history_visit (fun i u => history_deliver hc m i u) a.desk.line.mux.active a.desk
    have noted : (v.note .orphanedResponse).shared.history =
        v.shared.history ++ [⟨.noted .orphanedResponse, some v.line⟩] := history_record _ v
    unfold dispatchWith
    dsimp only
    split
    case isTrue => exact ⟨_, by rw [← visited]; exact noted, by simp⟩
    case isFalse => exact ⟨[], by rw [← visited, List.append_nil], by simp⟩

/-! ## §4. Sinks are told of a drop -/

section

variable {call : Caller} (hc : Desk.Follows (Course fun _ => True) (fun _ => True) call)
  (phase : Phase) (c : Call)

theorem Desk.finish_of_inactive (call : Caller) {i : Nat} {w : Desk}
    (h : w.line.mux.phase? i ≠ some .active) : w.finish call phase c i = (false, w) := by
  unfold finish
  split
  case h_1 => rfl
  case h_2 s hs =>
    refine if_neg fun ha => h ?_
    rw [Multiplexer.phase?_of_sink hs, Sink.isActive_iff.mp ha]

include hc

/-- An active sink leaves its phase, and then its callback starts. -/
theorem Desk.history_finish {i : Nat} {w : Desk} {s : Sink} (hs : w.sink? i = some s)
    (ha : s.phase = .active) : ∃ rest,
    (w.finish call phase c i).2.shared.history = w.shared.history ++
      ⟨.called i (s.listener.hearer c) c, some (w.mapSink i fun k => { k with phase }).line⟩ ::
        rest := by
  rw [finish_of_active phase c call hs ha]
  exact history_tell hc (sink?_mapSink_self (fun k => { k with phase }) hs) c

/-- **A sink is told the end** exactly if it is still active when it comes to that. -/
theorem Visit.calls_finish_iff {v : Visit} :
    v.Calls (Desk.finish call phase c) c ↔ v.desk.line.mux.phase? v.place = some .active := by
  constructor
  · rintro ⟨x, rest, hn, -⟩
    by_contra hnot
    have passed := Desk.finish_of_inactive phase c call hnot
    have none : v.news (Desk.finish call phase c) = [] :=
      Visit.news_of_unchanged (congrArg Prod.snd passed)
    rw [none] at hn
    cases hn
  · intro h
    obtain ⟨s, hs, ha⟩ := Option.map_eq_some_iff.mp h
    obtain ⟨rest, hrest⟩ := Desk.history_finish hc phase c hs ha
    exact ⟨_, rest, Visit.news_of_history hrest, by simp [Moment.callAt?]⟩

end

/-- The account of a broadcast of a drop from a desk: the drop goes on record, the active set is
emptied, and the sinks that were in it are told. -/
structure Tells (call : Caller) (d : ConnectionDropped) (w : Desk) (r : Nat × Desk) : Prop where
  /-- Each sink that is in the active set when it begins is gone through once. -/
  places : ((w.mapMux fun x => { x with dropRecord := some d, active := [] }).visits
    (Desk.terminate call d) w.line.mux.active).map Visit.place = w.line.mux.active
  /-- A sink that is still active is told of this drop and of no other. -/
  told : ∀ v ∈ (w.mapMux fun x => { x with dropRecord := some d, active := [] }).visits
      (Desk.terminate call d) w.line.mux.active,
    v.Calls (Desk.terminate call d) (.error d) ↔ v.desk.line.mux.phase? v.place = some .active
  /-- Nothing happens at a sink that has left its active phase meanwhile. -/
  passed : ∀ v ∈ (w.mapMux fun x => { x with dropRecord := some d, active := [] }).visits
      (Desk.terminate call d) w.line.mux.active,
    v.desk.line.mux.phase? v.place ≠ some .active → v.news (Desk.terminate call d) = []
  /-- Apart from the notice that everyone was told, that is all that happens. -/
  history : r.2.shared.history = w.shared.history ++
    ((w.mapMux fun x => { x with dropRecord := some d, active := [] }).visits
      (Desk.terminate call d) w.line.mux.active).flatMap (Visit.news (Desk.terminate call d)) ++
    [⟨.noted .dropBroadcast, some r.2.line⟩]

namespace Desk

/-- **The account of a broadcast**, with callbacks nested up to any depth. -/
theorem tells (w : Desk) (depth : Nat) (d : ConnectionDropped) :
    Tells (callWith (perform depth)) d w (w.broadcastWith (callWith (perform depth)) d) := by
  have hc : Follows (Course fun _ => True) (fun _ => True) (callWith (perform depth)) :=
    follows_caller depth
  -- A visit adds to the trail, whether the sink is told or passed over.
  have grows : ∀ i u, ∃ news,
      (terminate (callWith (perform depth)) d i u).2.shared.history = u.shared.history ++ news := by
    intro i u
    by_cases h : u.line.mux.phase? i = some .active
    case pos =>
      obtain ⟨s, hs, ha⟩ := Option.map_eq_some_iff.mp h
      obtain ⟨rest, hrest⟩ := history_finish hc .terminated (.error d) hs ha
      exact ⟨_, hrest⟩
    case neg =>
      have passed := finish_of_inactive .terminated (.error d) (callWith (perform depth)) h
      exact ⟨[], (congrArg (fun r => r.2.shared.history) passed).trans (List.append_nil _).symm⟩
  constructor
  case places => exact places_visits _ _
  case told =>
    intro v _
    exact Visit.calls_finish_iff hc .terminated (.error d)
  case passed =>
    intro v _ h
    exact Visit.news_of_unchanged (congrArg Prod.snd (finish_of_inactive _ _ _ h))
  case history =>
    have visited := history_visit grows w.line.mux.active
      (w.mapMux fun x => { x with dropRecord := some d, active := [] })
    unfold broadcastWith
    dsimp only
    unfold note
    rw [history_record, visited]
    rfl

end Desk

end Correlator
