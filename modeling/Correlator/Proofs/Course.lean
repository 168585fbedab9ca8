/-
  Correlator.Proofs.Course — WHAT HAPPENS AS A WHOLE.

  Single steps say what can happen at all.  But some steps never come alone:
  a connection that goes down puts its drop on record before any callback is
  made, one that comes up has taken the record off, and a listener takes a
  callback as soon as it starts.  A course is a run told in such wholes, with
  what happens in the callbacks of a broadcast inside the broadcast.  What has
  to hold whenever a waiter is in control is shown along courses.

  A course is told under a law: the operations that its waiters perform keep
  the law, and the drop record is changed directly only if the law allows that.

  Main content:
    * `Event.isMilestone`, `Shared.milestones` — a connection goes up and down,
    * `Event.isDelivery`, `Shared.deliveries` — a waiter is given a message,
    * `Dismissal` — what brings a sink its last callback,
    * `Act`, `Onset`, `Course` — the wholes,
    * `Whole`, `Occasion` — those in which nothing is delivered, and what calls
      for a dispatch,
    * `Course.path` — a course goes through single steps,
    * `Course.obeys` — the law is kept.
-/
import Correlator.Proofs.Scripts
import Correlator.Proofs.Frame
namespace Correlator

/-! ## §1. Milestones -/

/-- The connection comes up or goes down, or a broadcast has told everyone. -/
def Event.isMilestone : Event → Bool
  | .noted .connectionEstablished | .noted .dropBroadcast => true
  | .lost _ _ _ | .refused _ _ => true
  | _ => false

/-- The milestones of a history, in order. -/
def Shared.milestones (s : Shared) : List Moment := s.history.filter fun x => x.event.isMilestone

namespace Desk

theorem milestones_record {e : Event} (he : e.isMilestone = false) (w : Desk) :
    (w.record e).shared.milestones = w.shared.milestones := by
  unfold Shared.milestones
  rw [history_record, List.filter_append]
  simp [he]

theorem milestones_record_of_milestone {e : Event} (he : e.isMilestone = true) (w : Desk) :
    (w.record e).shared.milestones = w.shared.milestones ++ [⟨e, some w.line⟩] := by
  unfold Shared.milestones
  rw [history_record, List.filter_append]
  simp [he]

/-- The connection comes up, goes down or turns a handshake away: one milestone each. -/
theorem milestones_comeUp (w : Desk) : ∃ x : Moment,
    w.comeUp.shared.milestones = w.shared.milestones ++ [x] ∧
      x.event = .noted .connectionEstablished :=
  ⟨_, milestones_record_of_milestone (e := .noted .connectionEstablished) rfl
    ((w.setState .established).mapLine fun l => { l with logoutText := none }), rfl⟩

theorem milestones_goDown (cause : DropCause) (m : Option Message) (w : Desk) : ∃ x : Moment,
    (w.goDown cause m).shared.milestones = w.shared.milestones ++ [x] ∧
      x.event = .lost cause m (w.lossOf cause m) := by
  have lost := milestones_record_of_milestone (e := .lost cause m (w.lossOf cause m)) rfl
    (w.mapLine fun l => { l with state := .dropped, logoutText := none })
  exact ⟨_, (milestones_record (e := .noted .connectionDropped) rfl _).trans lost, rfl⟩

theorem milestones_turnAway (m : Message) (drop : ConnectionDropped) (w : Desk) :
    ∃ x : Moment, (w.turnAway m drop).shared.milestones = w.shared.milestones ++ [x] ∧
      x.event = .refused m drop := by
  have noted := milestones_record (e := .noted .handshakeRejected) rfl w
  have refused := milestones_record_of_milestone (e := .refused m drop) rfl
    ((w.note .handshakeRejected).setState .dropped)
  exact ⟨_, refused.trans (congrArg (· ++ _) noted), rfl⟩

theorem milestones_resume (w : Desk) : w.resume.shared.milestones = w.shared.milestones := by
  unfold resume
  split
  · rfl
  · exact milestones_record (e := .noted .dropRecordCleared) rfl _

/-- A callback is no milestone. -/
theorem milestones_hear (i : Nat) (s : Sink) (c : Call) (w : Desk) :
    (w.hear i s c).shared.milestones = w.shared.milestones := by
  have called := milestones_record (e := .called i (s.listener.hearer c) c) rfl w
  unfold hear
  dsimp only
  split
  · exact (milestones_record (e := .noted .subscriptionLagging) rfl _).trans called
  · exact called

/-- A disposal is no milestone. -/
theorem milestones_dispose (s : SinkRef) (w : Desk) :
    (w.dispose s).2.shared.milestones = w.shared.milestones := by
  obtain ⟨news, hh, hn⟩ := history_dispose s w
  have none : news.filter (fun x => x.event.isMilestone) = [] := by
    rw [List.filter_eq_nil_iff]
    intro x hx
    obtain ⟨l, rfl, -⟩ := hn x hx
    simp [Event.isMilestone]
  unfold Shared.milestones
  rw [hh, List.filter_append, List.filter_append, none]
  simp [Event.isMilestone]

end Desk

/-! ## §2. Deliveries -/

/-- A waiter is given a message. -/
def Event.isDelivery : Event → Bool
  | .called _ _ (.message _) => true
  | _ => false

/-- The deliveries of a history, in order. -/
def Shared.deliveries (s : Shared) : List Moment := s.history.filter fun x => x.event.isDelivery

theorem Event.isDelivery_of_concernsSink {e : Event} (h : e.concernsSink = false) :
    e.isDelivery = false := by
  cases e with
  | called => cases h
  | _ => rfl

/-- Moments that are no deliveries add none. -/
theorem Shared.deliveries_of_news {s t : Shared} {news : List Moment}
    (hh : t.history = s.history ++ news) (hn : ∀ x ∈ news, x.event.isDelivery = false) :
    t.deliveries = s.deliveries := by
  have none : news.filter (fun x => x.event.isDelivery) = [] :=
    List.filter_eq_nil_iff.mpr fun x hx => by simp [hn x hx]
  unfold deliveries
  rw [hh, List.filter_append, none, List.append_nil]

/-- If no delivery is added, no moment that is added is one. -/
theorem Shared.not_isDelivery_of_news {s t : Shared} {news : List Moment}
    (hh : t.history = s.history ++ news) (hd : t.deliveries = s.deliveries) :
    ∀ x ∈ news, x.event.isDelivery = false := by
  unfold deliveries at hd
  rw [hh, List.filter_append] at hd
  have none := List.append_right_eq_self.mp hd
  intro x hx
  simpa using List.filter_eq_nil_iff.mp none x hx

theorem Beside.deliveries {w v : Desk} (h : Beside w v) :
    v.shared.deliveries = w.shared.deliveries := by
  obtain ⟨news, hh, hn⟩ := h.history
  exact Shared.deliveries_of_news hh fun x hx => Event.isDelivery_of_concernsSink (hn x hx).2

namespace Desk

theorem deliveries_record {e : Event} (he : e.isDelivery = false) (w : Desk) :
    (w.record e).shared.deliveries = w.shared.deliveries := by
  refine Shared.deliveries_of_news (history_record e w) ?_
  intro x hx
  rw [List.mem_singleton.mp hx]
  exact he

theorem deliveries_resume (w : Desk) : w.resume.shared.deliveries = w.shared.deliveries := by
  unfold resume
  split
  · rfl
  · exact deliveries_record (e := .noted .dropRecordCleared) rfl _

/-- What a listener makes of a callback is no delivery; the callback itself may be one. -/
theorem deliveries_hear (i : Nat) (s : Sink) (c : Call) (w : Desk) :
    (w.hear i s c).shared.deliveries =
      (w.record (.called i (s.listener.hearer c) c)).shared.deliveries := by
  unfold hear
  dsimp only
  split
  · exact deliveries_record (e := .noted .subscriptionLagging) rfl _
  · rfl

/-- A last callback is no delivery. -/
theorem deliveries_hear_finale {phase : Phase} {c : Call} (hf : Finale phase c) (i : Nat) (s : Sink)
    (w : Desk) : (w.hear i s c).shared.deliveries = w.shared.deliveries := by
  refine (deliveries_hear i s c w).trans (deliveries_record ?_ w)
  cases hf <;> rfl

theorem deliveries_dispose (s : SinkRef) (w : Desk) :
    (w.dispose s).2.shared.deliveries = w.shared.deliveries := by
  obtain ⟨news, hh, hn⟩ := history_dispose s w
  refine Shared.deliveries_of_news (hh.trans (List.append_assoc _ _ _)) ?_
  intro x hx
  rcases List.mem_append.mp hx with hx | hx
  · obtain ⟨l, rfl, -⟩ := hn x hx
    rfl
  · rw [List.mem_singleton.mp hx]
    rfl

end Desk

/-! ## §3. Wholes -/

/-- A listener that has not been called yet, for a multiplexer of the capacity: the stream of a
subscription is empty. -/
def Listener.IsNew (capacity : Nat) : Listener → Prop
  | scripted _ _ => True
  | stream q => q = .withCapacity capacity

/-- What brings a sink its last callback.  The desk is where a broadcast or a close comes to the
place, after the sinks that were active before it, or where a new sink has been refused. -/
inductive Dismissal : Desk → Nat → Call → Prop
  | broadcast {u : Desk} {d : ConnectionDropped} {earlier later : List Nat} {i : Nat} (depth : Nat)
      (h : u.line.mux.active = earlier ++ i :: later) :
      Dismissal (Desk.visit (Desk.terminate (Desk.callWith (Desk.perform depth)) d) earlier
        (u.mapMux fun x => { x with dropRecord := some d, active := [] })).2 i (.error d)
  | close {u : Desk} {earlier later : List Nat} {i : Nat} (depth : Nat)
      (h : u.line.mux.active = earlier ++ i :: later) :
      Dismissal (Desk.visit (Desk.shut (Desk.callWith (Desk.perform depth))) earlier
        (u.mapMux fun x => { x with closed := true, active := [] })).2 i .closed
  | refused {u : Desk} {d : ConnectionDropped} (rule : Rule) (listener : Listener)
      (hc : u.line.mux.closed = false) (hd : u.line.mux.dropRecord = some d) :
      Dismissal ((u.seat rule listener).note .sinkRefused) u.line.mux.sinks.length (.error d)
  | late {u : Desk} (rule : Rule) (listener : Listener) (hc : u.line.mux.closed = true) :
      Dismissal (u.seat rule listener) u.line.mux.sinks.length .closed

/-- What the multiplexer in hand does with sinks under a law, each as a whole. -/
inductive Act (law : Operation → Prop) : Stage → Stage → Prop
  | enlist {w : Desk} {owed : List Nat} {rule : Rule} {listener : Listener}
      (hc : w.line.mux.closed = false) (hd : w.line.mux.dropRecord = none)
      (hl : ∀ op ∈ listener.within, law op) (hn : listener.IsNew w.line.mux.capacity) :
      Act law ⟨w, owed⟩ ⟨(w.seat rule listener).mapMux fun x =>
        { x with active := x.active ++ [w.line.mux.sinks.length] }, owed⟩
  | refuse {w : Desk} {owed : List Nat} {rule : Rule} {listener : Listener}
      (h : w.line.mux.closed = true ∨ w.line.mux.dropRecord.isSome = true)
      (hl : ∀ op ∈ listener.within, law op) (hn : listener.IsNew w.line.mux.capacity) :
      Act law ⟨w, owed⟩ ⟨w.seat rule listener, w.line.mux.sinks.length :: owed⟩
  | deliver {w : Desk} {owed : List Nat} {i : Nat} {s : Sink} {m : Message}
      (hs : w.sink? i = some s) (ha : s.phase = .active) (hm : s.rule.judge m = .accepts) :
      Act law ⟨w, owed⟩ ⟨w.hear i s (.message m), owed⟩
  | finish {w : Desk} {owed : List Nat} {i : Nat} {s : Sink} {phase : Phase} {c : Call}
      (hs : w.sink? i = some s) (ha : s.phase = .active) (hf : Finale phase c)
      (hw : Dismissal w i c) :
      Act law ⟨w, i :: owed⟩
        ⟨(w.mapSink i fun k => { k with phase }).hear i { s with phase } c, owed⟩
  | pass {w : Desk} {owed : List Nat} {i : Nat}
      (h : ∀ s, w.sink? i = some s → s.phase ≠ .active) : Act law ⟨w, i :: owed⟩ ⟨w, owed⟩
  | shut {w : Desk} {owed : List Nat} :
      Act law ⟨w, owed⟩ ⟨w.mapMux fun x => { x with closed := true, active := [] },
        w.line.mux.active ++ owed⟩
  | dispose {w : Desk} {owed : List Nat} (s : SinkRef) :
      Act law ⟨w, owed⟩ ⟨(w.dispose s).2, owed⟩

/-- What calls for a broadcast of a drop: the connection is lost, a handshake is refused, or the
caller asks for it. -/
inductive Onset (law : Operation → Prop) : Desk → ConnectionDropped → Desk → Prop
  | lost {w : Desk} (cause : DropCause) (m : Option Message) (h : w.line.state ≠ .dropped) :
      Onset law w (w.lossOf cause m) (w.goDown cause m)
  | refused {w : Desk} {m : Message} {c : Credentials} {reason : String}
      (hm : m.kind = .handshake) (h : w.line.state.canBecome .authenticating = true)
      (hg : w.guard? = some c) (hf : Desk.credentialsFault c m = some reason) :
      Onset law w ⟨w.line.id, .authenticationRejected, some reason⟩
        ((w.setState .authenticating).turnAway m ⟨w.line.id, .authenticationRejected, some reason⟩)
  | asked {w : Desk} {d : ConnectionDropped} (h : law (.broadcast d)) : Onset law w d w

/-- A run under a law. -/
inductive Course (law : Operation → Prop) : Stage → Stage → Prop
  | refl (a : Stage) : Course law a a
  | trans {a b c : Stage} (h : Course law a b) (k : Course law b c) : Course law a c
  | aside {w v : Desk} {owed : List Nat} (h : Aside w v)
      (hm : v.shared.milestones = w.shared.milestones) : Course law ⟨w, owed⟩ ⟨v, owed⟩
  | turn {w v : Desk} {owed : List Nat} (h : Turn w v)
      (hm : v.shared.milestones = w.shared.milestones) : Course law ⟨w, owed⟩ ⟨v, owed⟩
  | act {a b : Stage} (h : Act law a b) : Course law a b
  | comeUp {w : Desk} {owed : List Nat} (h : w.line.state.canBecome .established = true) :
      Course law ⟨w, owed⟩ ⟨w.resume.comeUp, owed⟩
  | resume {w : Desk} {owed : List Nat} (h : law .resume) : Course law ⟨w, owed⟩ ⟨w.resume, owed⟩
  | broadcast {w u v : Desk} {owed : List Nat} {d : ConnectionDropped} (h : Onset law w d u)
      (inside : Course law ⟨u.mapMux fun x => { x with dropRecord := some d, active := [] },
        u.line.mux.active ++ owed⟩ ⟨v, owed⟩) :
      Course law ⟨w, owed⟩ ⟨v.note .dropBroadcast, owed⟩

/-- A whole in which no waiter is given a message and no drop is told. -/
inductive Whole (law : Operation → Prop) : Stage → Stage → Prop
  | aside {w v : Desk} {owed : List Nat} (h : Aside w v)
      (hm : v.shared.milestones = w.shared.milestones) : Whole law ⟨w, owed⟩ ⟨v, owed⟩
  | turn {w v : Desk} {owed : List Nat} (h : Turn w v)
      (hm : v.shared.milestones = w.shared.milestones) : Whole law ⟨w, owed⟩ ⟨v, owed⟩
  | act {a b : Stage} (h : Act law a b)
      (hd : b.desk.shared.deliveries = a.desk.shared.deliveries) : Whole law a b
  | comeUp {w : Desk} {owed : List Nat} (h : w.line.state.canBecome .established = true) :
      Whole law ⟨w, owed⟩ ⟨w.resume.comeUp, owed⟩
  | resume {w : Desk} {owed : List Nat} (h : law .resume) : Whole law ⟨w, owed⟩ ⟨w.resume, owed⟩

/-- What calls for a dispatch: the caller asks for it, or the message comes in while the
connection is established. -/
inductive Occasion (law : Operation → Prop) (m : Message) (w : Desk) : Prop
  | asked (h : law (.dispatch m))
  | inbound (h : law (.inbound m)) (hm : m.kind.isRoutable = true)
      (hs : w.line.state = .established)

/-! ## §4. Courses go through single steps -/

namespace Desk

theorem path_note {n : Notice} (w : Desk) (owed : List Nat)
    (hn : (Event.noted n).isAside = true) : Path ⟨w, owed⟩ ⟨w.note n, owed⟩ :=
  .single (.aside (.event hn))

theorem path_resume (w : Desk) (owed : List Nat) : Path ⟨w, owed⟩ ⟨w.resume, owed⟩ := by
  unfold resume
  split
  · exact .refl
  · exact .head (.shift .resume) (path_note _ _ rfl)

/-- Nothing is on record afterwards. -/
theorem dropRecord_resume (w : Desk) : w.resume.line.mux.dropRecord = none := by
  unfold resume
  split
  case h_1 h => exact h
  case h_2 => rfl

/-- The record is all that changes of the line. -/
theorem state_resume (w : Desk) : w.resume.line.state = w.line.state := by
  unfold resume
  split <;> rfl

theorem sinks_resume (w : Desk) : w.resume.line.mux.sinks = w.line.mux.sinks := by
  unfold resume
  split <;> rfl

/-- A listener takes a callback that has started. -/
theorem path_hear (i : Nat) (s : Sink) (c : Call) (w : Desk) (owed : List Nat) :
    Path ⟨w.record (.called i (s.listener.hearer c) c), owed⟩ ⟨w.hear i s c, owed⟩ := by
  refine .head (.shift (.listen i c)) ?_
  unfold Desk.hear
  dsimp only
  split
  · exact path_note _ _ rfl
  · exact .refl

/-- A callback is on the trail from its start, and only a notice comes after it. -/
theorem history_hear (i : Nat) (s : Sink) (c : Call) (w : Desk) : ∃ news,
    (w.hear i s c).shared.history = w.shared.history ++
      ⟨.called i (s.listener.hearer c) c, some w.line⟩ :: news ∧
    ∀ x ∈ news, x.event = .noted .subscriptionLagging := by
  have called := history_record (.called i (s.listener.hearer c) c) w
  let v := (w.record (.called i (s.listener.hearer c) c)).mapSink i fun k =>
    { k with listener := (k.listener.next c).2 }
  unfold hear
  dsimp only
  split
  · refine ⟨[⟨.noted .subscriptionLagging, some v.line⟩], ?_, by simp⟩
    have noted : (v.note .subscriptionLagging).shared.history =
        (w.record (.called i (s.listener.hearer c) c)).shared.history ++ _ := history_record _ v
    exact noted.trans (by rw [called, List.append_assoc, List.singleton_append])
  · exact ⟨[], called, by simp⟩

end Desk

variable {law : Operation → Prop}

theorem Act.path {a b : Stage} (h : Act law a b) : Path a b := by
  cases h with
  | enlist hc hd => exact .single (.shift (.enlist hc hd))
  | refuse h => exact .single (.shift (.refuse h))
  | deliver hs ha hm => exact .head (.shift (.deliver hs ha hm)) (Desk.path_hear _ _ _ _ _)
  | @finish w owed i s phase c hs ha hf _ =>
    exact .head (.shift (.finish hs ha hf)) (Desk.path_hear i { s with phase } c _ owed)
  | pass h => exact .single (.shift (.pass h))
  | shut => exact .single (.shift .shut)
  | dispose s => exact .single (.shift (.dispose s))

theorem Whole.course {a b : Stage} (h : Whole law a b) : Course law a b := by
  cases h with
  | aside h hm => exact .aside h hm
  | turn h hm => exact .turn h hm
  | act h => exact .act h
  | comeUp h => exact .comeUp h
  | resume h => exact .resume h

theorem Whole.deliveries {a b : Stage} (h : Whole law a b) :
    b.desk.shared.deliveries = a.desk.shared.deliveries := by
  cases h with
  | aside h => exact h.beside.deliveries
  | turn h => exact h.beside.deliveries
  | act _ hd => exact hd
  | @comeUp w =>
    have up := Desk.deliveries_record (e := .noted .connectionEstablished) rfl
      ((w.resume.setState .established).mapLine fun l => { l with logoutText := none })
    exact up.trans w.deliveries_resume
  | resume => exact Desk.deliveries_resume _

theorem Onset.path {w u : Desk} {d : ConnectionDropped} (h : Onset law w d u) (owed : List Nat) :
    Path ⟨w, owed⟩ ⟨u, owed⟩ := by
  cases h with
  | lost cause m h => exact .single (.turn (.drop cause m h))
  | refused hm h => exact .single (.turn (.refuse _ hm h))
  | asked => exact .refl

/-- The multiplexer is not touched before the drop is told. -/
theorem Onset.beside {w u : Desk} {d : ConnectionDropped} (h : Onset law w d u) : Beside w u := by
  cases h with
  | lost cause m h => exact (Turn.drop cause m h).beside
  | refused hm h => exact (Turn.refuse _ hm h).beside
  | asked => exact .refl w

theorem Course.path {a b : Stage} (h : Course law a b) : Path a b := by
  induction h with
  | refl => exact .refl
  | trans _ _ ih ik => exact ih.trans ik
  | aside h => exact .single (.aside h)
  | turn h => exact .single (.turn h)
  | act h => exact h.path
  | @comeUp w owed h =>
    -- The record is off before the state is set.
    refine (Desk.path_resume w owed).tail (.turn (.establish ?_ (Desk.dropRecord_resume w)))
    rw [Desk.state_resume]
    exact h
  | @resume w owed => exact Desk.path_resume w owed
  | @broadcast w u v owed d h _ ih =>
    refine (h.path owed).trans (.head (.shift (.drain d)) ?_)
    exact ih.trans (Desk.path_note v owed rfl)

/-! ## §5. Courses keep the law -/

theorem Act.obeys {a b : Stage} (h : Act law a b) (ha : a.desk.Obeys law) : b.desk.Obeys law := by
  cases h with
  | enlist _ _ hl => exact (Desk.Obeys.seat ha _ hl).of_sinks rfl
  | refuse _ hl => exact Desk.Obeys.seat ha _ hl
  | deliver => exact Desk.Obeys.hear ha _ _ _
  | @finish w owed i s phase c hs =>
    have hphase : (w.mapSink i fun k => { k with phase }).Obeys law :=
      Desk.Obeys.mapSink ha i fun _ => List.Subset.refl _
    exact hphase.hear i _ c
  | pass => exact ha
  | shut => exact Desk.Obeys.of_sinks ha rfl
  | dispose s => exact Desk.Obeys.dispose ha s

theorem Onset.sinks {w u : Desk} {d : ConnectionDropped} (h : Onset law w d u) :
    u.line.mux.sinks = w.line.mux.sinks := congrArg Multiplexer.sinks h.beside.mux

theorem Course.obeys {a b : Stage} (h : Course law a b) (ha : a.desk.Obeys law) :
    b.desk.Obeys law := by
  induction h with
  | refl => exact ha
  | trans _ _ ih ik => exact ik (ih ha)
  | aside h => exact Desk.Obeys.of_sinks ha (congrArg Multiplexer.sinks h.beside.mux)
  | turn h => exact Desk.Obeys.of_sinks ha (congrArg Multiplexer.sinks h.beside.mux)
  | act h => exact h.obeys ha
  | comeUp => exact Desk.Obeys.of_sinks ha (Desk.sinks_resume _)
  | resume => exact Desk.Obeys.of_sinks ha (Desk.sinks_resume _)
  | broadcast h _ ih => exact (ih (Desk.Obeys.of_sinks ha h.sinks)).of_sinks rfl

end Correlator
