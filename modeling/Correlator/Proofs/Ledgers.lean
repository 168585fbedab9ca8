/-
  Correlator.Proofs.Ledgers — WHAT ONE SINK HEARS.

  From outside, the life of a sink is short: it hears callbacks while it is
  active, and one of them may be its last; or it is disposed and hears nothing
  more.  Errands on other connections can dispose it and do nothing else to it.
  So what a sink has heard since some moment, and what has become of it, are
  told by few entries, however many errands there were.

  Main results:
    * `Moment.callTo?`, `Engine.callsTo` — the callbacks to one sink,
    * `Sink.Hears` — what becomes of a sink, with the callbacks to it,
    * `Sink.Hears.of_inactive` — a sink that is no longer active,
    * `Step.tells` — what one step says to a sink,
    * `Deed.hears`, `Engine.Moves.hears`, `Engine.hears_actAll` — every run of
      errands,
    * `Engine.Moves.accepts` — a sink hears what its rule accepts.
-/
import Correlator.Proofs.Errands
namespace Correlator

/-! ## §1. Callbacks to one sink -/

/-- The callback to a sink that starts at a moment.  The moment shows the line in hand, which is
that of the sink. -/
def Moment.callTo? (s : SinkRef) (x : Moment) : Option Call :=
  (x.standing? s.connection).bind fun _ => x.callAt? s.place

/-- The callbacks to a sink, in order. -/
def Engine.callsTo (e : Engine) (s : SinkRef) : List Call :=
  e.shared.history.filterMap (Moment.callTo? s)

namespace Moment

/-- A moment that is no callback is none to any sink. -/
theorem callAt?_of_silent {x : Moment} (h : x.call? = none) (i : Nat) : x.callAt? i = none := by
  unfold call? at h
  unfold callAt?
  split at h
  · cases h
  · rfl

theorem callTo?_of_silent {x : Moment} (h : x.call? = none) (s : SinkRef) :
    x.callTo? s = none := by
  unfold callTo?
  rw [callAt?_of_silent h]
  cases x.standing? s.connection <;> rfl

end Moment

/-- Moments that show a line of an identity, if they are callbacks. -/
def History.Here (c : ConnectionId) (news : List Moment) : Prop :=
  ∀ x ∈ news, x.call? ≠ none → ∃ l, x.line = some l ∧ l.id = c

namespace History.Here

variable {c : ConnectionId} {news more : List Moment}

theorem nil (c : ConnectionId) : History.Here c [] := by simp [History.Here]

theorem append (h : History.Here c news) (k : History.Here c more) :
    History.Here c (news ++ more) := by
  intro x hx
  rcases List.mem_append.mp hx with hx | hx
  · exact h x hx
  · exact k x hx

end History.Here

theorem Beside.here {w v : Desk} (h : Beside w v) : ∃ news,
    v.shared.history = w.shared.history ++ news ∧ History.Here w.line.id news := by
  obtain ⟨news, hh, hn⟩ := h.history
  refine ⟨news, hh, fun x hx _ => ?_⟩
  obtain ⟨⟨l, hl, -, hc⟩, -⟩ := hn x hx
  exact ⟨l, hl, congrArg ConnectionConfig.id hc⟩

theorem Shift.here {a b : Stage} (h : Shift a b) : ∃ news,
    b.desk.shared.history = a.desk.shared.history ++ news ∧
      History.Here a.desk.line.id news := by
  -- What is written down in hand shows the line in hand.
  have shown : ∀ {c : ConnectionId} (e : Event) (l : Line), l.id = c →
      History.Here c [⟨e, some l⟩] := by
    intro c e l hl x hx _
    rw [List.mem_singleton.mp hx]
    exact ⟨l, rfl, hl⟩
  cases h with
  | @deliver w owed i s m => exact ⟨_, Desk.history_record _ w, shown _ _ rfl⟩
  | @finish w owed i s phase c =>
    exact ⟨_, Desk.history_record _ (w.mapSink i fun k => { k with phase }), shown _ _ rfl⟩
  | @dispose w owed s =>
    obtain ⟨news, hh, hn⟩ := Desk.history_dispose s w
    refine ⟨_, hh.trans (List.append_assoc _ _ _), fun x hx hcall => ?_⟩
    rcases List.mem_append.mp hx with hx | hx
    · obtain ⟨l, rfl, -⟩ := hn x hx
      exact absurd rfl hcall
    · rw [List.mem_singleton.mp hx] at hcall
      exact absurd rfl hcall
  | _ => exact ⟨[], (List.append_nil _).symm, .nil _⟩

/-- A run makes callbacks to sinks of the line in hand only. -/
theorem Path.here {a b : Stage} (h : Path a b) : ∃ news,
    b.desk.shared.history = a.desk.shared.history ++ news ∧
      History.Here a.desk.line.id news := by
  induction h with
  | refl => exact ⟨[], (List.append_nil _).symm, .nil _⟩
  | @tail b c path step ih =>
    obtain ⟨news, hb, hnews⟩ := ih
    have last : ∃ more, c.desk.shared.history = b.desk.shared.history ++ more ∧
        History.Here b.desk.line.id more := by
      cases step with
      | aside h => exact h.beside.here
      | turn h => exact h.beside.here
      | shift h => exact h.here
    obtain ⟨more, hc, hmore⟩ := last
    rw [Path.id path] at hmore
    exact ⟨news ++ more, by rw [hc, hb, List.append_assoc], hnews.append hmore⟩

theorem History.callsAt_append (i : Nat) (news more : List Moment) :
    callsAt i (news ++ more) = callsAt i news ++ callsAt i more :=
  List.filterMap_append

/-- Moments that are callbacks on one connection are callbacks to a sink only if it is there. -/
theorem History.callsTo_of_here {s : SinkRef} {c : ConnectionId} {news : List Moment}
    (h : History.Here c news) : news.filterMap (Moment.callTo? s) =
      if s.connection = c then History.callsAt s.place news else [] := by
  have each : ∀ x ∈ news, x.callTo? s = if s.connection = c then x.callAt? s.place else none := by
    intro x hx
    by_cases hcall : x.call? = none
    case pos => rw [Moment.callTo?_of_silent hcall, Moment.callAt?_of_silent hcall, ite_self]
    case neg =>
      obtain ⟨l, hl, hid⟩ := h x hx hcall
      unfold Moment.callTo? Moment.standing?
      rw [hl, Option.filter_some, hid]
      by_cases hc : s.connection = c
      · simp [hc]
      · simp [hc, Ne.symm hc]
  split
  case isTrue hc =>
    exact List.filterMap_congr fun x hx => (each x hx).trans (if_pos hc)
  case isFalse hc =>
    exact List.filterMap_eq_nil_iff.mpr fun x hx => (each x hx).trans (if_neg hc)

/-! ## §2. What becomes of a sink -/

/-- What becomes of a sink, with the callbacks that it hears.  If it may be altered, its owner may
read from it or end it, and its rule may learn. -/
inductive Sink.Hears (altered : Prop) : Sink → List Call → Sink → Prop
  | refl (k : Sink) : Hears altered k [] k
  /-- It hears a message while it is active. -/
  | message {k k' : Sink} {cs : List Call} (h : Hears altered k cs k') (ha : k'.phase = .active)
      (m : Message) : Hears altered k (cs ++ [.message m])
        { k' with listener := (k'.listener.next (.message m)).2 }
  /-- It hears its last callback, as it leaves its active phase. -/
  | last {k k' : Sink} {cs : List Call} {phase : Phase} {c : Call} (h : Hears altered k cs k')
      (ha : k'.phase = .active) (hf : Finale phase c) : Hears altered k (cs ++ [c])
        { k' with phase, listener := (k'.listener.next c).2 }
  /-- It is disposed without a callback. -/
  | dispose {k k' : Sink} {cs : List Call} (h : Hears altered k cs k') (ha : k'.phase = .active) :
      Hears altered k cs { k' with phase := .disposed }
  /-- Once it is no longer active, its stream may be ended. -/
  | close {k k' : Sink} {cs : List Call} {q : Stream} (h : Hears altered k cs k')
      (hp : k'.phase ≠ .active) (hl : k'.listener = .stream q) :
      Hears altered k cs { k' with listener := .stream (q.finish .closed) }
  | alter {k k' : Sink} {cs : List Call} {f : Sink → Sink} (h : Hears altered k cs k')
      (ht : altered) (hp : (f k').phase = k'.phase)
      (hl : (f k').buffer?.isSome = k'.buffer?.isSome) : Hears altered k cs (f k')

namespace Sink.Hears

variable {altered : Prop} {k k' k'' : Sink} {cs ds : List Call}

theorem trans (h : Hears altered k cs k') (g : Hears altered k' ds k'') :
    Hears altered k (cs ++ ds) k'' := by
  induction g with
  | refl =>
    rw [List.append_nil]
    exact h
  | message _ ha m ih =>
    rw [← List.append_assoc]
    exact ih.message ha m
  | last _ ha hf ih =>
    rw [← List.append_assoc]
    exact ih.last ha hf
  | dispose _ ha ih => exact ih.dispose ha
  | close _ hp hl ih => exact ih.close hp hl
  | alter _ ht hp hl ih => exact ih.alter ht hp hl

theorem mono {altered' : Prop} (ht : altered → altered') (h : Hears altered k cs k') :
    Hears altered' k cs k' := by
  induction h with
  | refl => exact .refl _
  | message _ ha m ih => exact ih.message ha m
  | last _ ha hf ih => exact ih.last ha hf
  | dispose _ ha ih => exact ih.dispose ha
  | close _ hp hl ih => exact ih.close hp hl
  | alter _ h hp hl ih => exact ih.alter (ht h) hp hl

/-- **A sink that is no longer active hears nothing more**, and it does not become active again. -/
theorem of_inactive (h : Hears altered k cs k') (hp : k.phase ≠ .active) :
    cs = [] ∧ k'.phase ≠ .active := by
  induction h with
  | refl => exact ⟨rfl, hp⟩
  | message _ ha _ ih => exact absurd ha ih.2
  | last _ ha _ ih => exact absurd ha ih.2
  | dispose _ ha ih => exact absurd ha ih.2
  | close _ _ _ ih => exact ih
  | alter _ _ hf _ ih => exact ⟨ih.1, by rw [hf]; exact ih.2⟩

/-- A stream stays one. -/
theorem isSome_buffer? (h : Hears altered k cs k') (hk : k.buffer?.isSome = true) :
    k'.buffer?.isSome = true := by
  have next : ∀ (k : Sink) (phase : Phase) (c : Call), k.buffer?.isSome = true →
      (Sink.buffer? { k with phase, listener := (k.listener.next c).2 }).isSome = true := by
    intro k phase c hk
    unfold buffer? at hk ⊢
    cases hl : k.listener with
    | scripted label script =>
      rw [hl] at hk
      cases hk
    | stream q => rfl
  induction h with
  | refl => exact hk
  | message _ _ m ih => exact next _ _ _ ih
  | last _ _ _ ih => exact next _ _ _ ih
  | dispose _ _ ih => exact ih
  | close => rfl
  | alter _ _ _ hl ih => exact hl.trans ih

end Sink.Hears

/-! ## §3. Runs of one line -/

/-- What is read is only added to. -/
theorem Account.Adds.read_le {capacity i : Nat} {a b : Account} (h : Adds capacity i a b) :
    a.read.length ≤ b.read.length := by
  cases h <;> simp

theorem Account.Grows.read_le {capacity i : Nat} {a b : Account} (h : Grows capacity i a b) :
    a.read.length ≤ b.read.length := by
  induction h with
  | refl => exact Nat.le_refl _
  | tail _ step ih => exact Nat.le_trans ih step.read_le

/-- An account of a sink, as long as nothing is read. -/
theorem Account.Grows.hears {capacity i : Nat} {a b : Account} (h : Grows capacity i a b)
    (hr : b.read.length ≤ a.read.length) {k : Sink} (hk : a.sink = some k) :
    ∃ k' cs, b.sink = some k' ∧
      History.callsAt i b.history = History.callsAt i a.history ++ cs ∧ k.Hears False cs k' := by
  induction h with
  | refl => exact ⟨k, [], hk, (List.append_nil _).symm, .refl k⟩
  | @tail b c path step ih =>
    obtain ⟨k', cs, hb, hcs, hears⟩ := ih (Nat.le_trans step.read_le hr)
    have le : c.read.length ≤ b.read.length := Nat.le_trans hr (read_le path)
    unfold History.callsAt at hcs ⊢
    cases step with
    | aside hn =>
      refine ⟨k', cs, hb, ?_, hears⟩
      rw [List.filterMap_append, List.filterMap_eq_nil_iff.mpr hn, List.append_nil]
      exact hcs
    | born => cases hb
    | @message _ _ s x m ha hx =>
      cases hb
      refine ⟨_, cs ++ [.message m], rfl, ?_, hears.message ha m⟩
      rw [List.filterMap_append, hcs, List.append_assoc]
      simp [hx]
    | @last _ s x phase c' w ha hf _ hx =>
      cases hb
      refine ⟨_, cs ++ [c'], rfl, ?_, hears.last ha hf⟩
      rw [List.filterMap_append, hcs, List.append_assoc]
      simp [hx]
    | dispose ha =>
      cases hb
      exact ⟨_, cs, rfl, hcs, hears.dispose ha⟩
    | poll =>
      rw [List.length_append] at le
      exact absurd le (Nat.not_succ_le_self _)
    | idle =>
      rw [List.length_append] at le
      exact absurd le (Nat.not_succ_le_self _)
    | finish hp hl =>
      cases hb
      exact ⟨_, cs, rfl, hcs, hears.close hp hl⟩

theorem Course.hears {law : Operation → Prop} {a b : Stage} (h : Course law a b) {i : Nat}
    {k : Sink} (hk : a.desk.sink? i = some k) : ∃ k' news, b.desk.sink? i = some k' ∧
      b.desk.shared.history = a.desk.shared.history ++ news ∧
      History.Here a.desk.line.id news ∧ k.Hears False (History.callsAt i news) k' := by
  have grows : Account.Grows a.desk.line.mux.capacity i (a.desk.account i [])
      (b.desk.account i []) := h.account
  obtain ⟨k', cs, hk', hcs, hears⟩ := grows.hears (Nat.le_refl _) hk
  obtain ⟨news, hh, here⟩ := h.path.here
  have heard : History.callsAt i news = cs := by
    have hcs : History.callsAt i b.desk.shared.history =
      History.callsAt i a.desk.shared.history ++ cs := hcs
    unfold History.callsAt at hcs ⊢
    rw [hh, List.filterMap_append] at hcs
    exact List.append_cancel_left hcs
  rw [← heard] at hears
  exact ⟨k', news, hk', hh, here, hears⟩

/-- Work on the line in hand makes callbacks to its sinks only. -/
theorem Deed.here {altered : Option SinkRef} {w v : Desk} (h : Deed altered w v) : ∃ news,
    v.shared.history = w.shared.history ++ news ∧ History.Here w.line.id news := by
  induction h with
  | trans hwv _ ih ik =>
    obtain ⟨news, hh, here⟩ := ih
    obtain ⟨more, hh', here'⟩ := ik
    rw [hwv.id] at here'
    exact ⟨news ++ more, by rw [hh', hh, List.append_assoc], here.append here'⟩
  | course h => exact h.path.here
  | alter => exact ⟨[], (List.append_nil _).symm, .nil _⟩

/-- Work on the line in hand. -/
theorem Deed.hears {altered : Option SinkRef} {w v : Desk} (h : Deed altered w v) {i : Nat}
    {k : Sink} (hk : w.sink? i = some k) : ∃ k' news, v.sink? i = some k' ∧
      v.shared.history = w.shared.history ++ news ∧ History.Here w.line.id news ∧
      k.Hears (altered = some ⟨w.line.id, i⟩) (History.callsAt i news) k' := by
  induction h generalizing k with
  | @trans w v u hwv _ ih ik =>
    obtain ⟨k₁, news, hk₁, hh, here, hears⟩ := ih hk
    obtain ⟨k₂, more, hk₂, hh', here', hears'⟩ := ik hk₁
    rw [hwv.id] at here' hears'
    refine ⟨k₂, news ++ more, hk₂, by rw [hh', hh, List.append_assoc], here.append here', ?_⟩
    have both := hears.trans hears'
    rwa [← History.callsAt_append] at both
  | course h =>
    obtain ⟨k', news, hk', hh, here, hears⟩ := h.hears hk
    exact ⟨k', news, hk', hh, here, hears.mono False.elim⟩
  | @alter w s f hs hown _ hp hl =>
    refine ⟨if s.place = i then f k else k, [], ?_, (List.append_nil _).symm,
      .nil _, ?_⟩
    · show (w.line.mapMux fun x => x.mapSink s.place f).sink? i = _
      rw [Line.sink?_mapSink, show w.line.sink? i = some k from hk]
      rfl
    · split
      case isTrue hi =>
        have own : altered = some ⟨w.line.id, i⟩ := by rw [hs, hown, ← hi]
        exact .alter (.refl k) own (hp k) (hl k)
      case isFalse => exact .refl k

/-- Work on another line disposes the sink, or does nothing to it. -/
theorem Line.Struck.hears {l m : Line} (h : l.Struck m) {i : Nat} {k : Sink}
    (hk : l.sink? i = some k) : ∃ k', m.sink? i = some k' ∧ k.Hears False [] k' := by
  induction h with
  | refl => exact ⟨k, hk, .refl k⟩
  | @tail m₁ _ _ step ih =>
    obtain ⟨j, rfl⟩ := step
    obtain ⟨k', hk', hears⟩ := ih
    have hk' : m₁.mux.sinks[i]? = some k' := hk'
    refine ⟨if j = i then if k'.isActive then { k' with phase := .disposed } else k' else k',
      ?_, ?_⟩
    · unfold Line.sink?
      rw [sinks_disposeAt, List.getElem?_modify, hk']
      rfl
    · split
      · split
        case isTrue ha => exact hears.dispose (Sink.isActive_iff.mp ha)
        case isFalse => exact hears
      · exact hears

/-- What a step says to a sink: nothing, a message that its rule accepts, or its last callback,
which it was owed. -/
inductive Stage.Tells (i : Nat) (a b : Stage) : List Call → Prop
  | nothing : Tells i a b []
  | message {k : Sink} {m : Message} (hk : a.desk.sink? i = some k)
      (hm : k.rule.judge m = .accepts) : Tells i a b [.message m]
  | last {phase : Phase} {c : Call} (hf : Finale phase c) (howed : a.owed = i :: b.owed) :
      Tells i a b [c]

theorem Step.tells {a b : Stage} (h : Step a b) (i : Nat) : ∃ news,
    b.desk.shared.history = a.desk.shared.history ++ news ∧
      a.Tells i b (History.callsAt i news) := by
  have silent : ∀ {news : List Moment}, b.desk.shared.history = a.desk.shared.history ++ news →
      (∀ x ∈ news, x.callAt? i = none) → ∃ news,
        b.desk.shared.history = a.desk.shared.history ++ news ∧
          a.Tells i b (History.callsAt i news) := by
    intro news hh hn
    refine ⟨news, hh, ?_⟩
    rw [History.callsAt, List.filterMap_eq_nil_iff.mpr hn]
    exact .nothing
  -- A callback is to this sink or to another one.
  have called : ∀ {j : Nat} {label : Option String} {c : Call} {standing : Option Line},
      b.desk.shared.history = a.desk.shared.history ++ [⟨.called j label c, standing⟩] →
      (j = i → a.Tells i b [c]) → ∃ news,
        b.desk.shared.history = a.desk.shared.history ++ news ∧
          a.Tells i b (History.callsAt i news) := by
    intro j label c standing hh told
    by_cases hj : j = i
    case pos =>
      refine ⟨_, hh, ?_⟩
      have one : History.callsAt i [⟨.called j label c, standing⟩] = [c] := by
        simp [History.callsAt, Moment.callAt?, hj]
      rw [one]
      exact told hj
    case neg =>
      refine silent hh fun x hx => ?_
      rw [List.mem_singleton.mp hx]
      exact if_neg hj
  cases h with
  | aside h =>
    obtain ⟨news, hh, hn⟩ := h.beside.history
    exact silent hh fun x hx => Moment.callAt?_eq_none (hn x hx).2 i
  | turn h =>
    obtain ⟨news, hh, hn⟩ := h.beside.history
    exact silent hh fun x hx => Moment.callAt?_eq_none (hn x hx).2 i
  | shift h =>
    cases h with
    | @deliver w owed j s m hs ha hm =>
      refine called (Desk.history_record _ w) ?_
      rintro rfl
      exact .message hs hm
    | @finish w owed j s phase c hs ha hf =>
      refine called (Desk.history_record _ (w.mapSink j fun k => { k with phase })) ?_
      rintro rfl
      exact .last hf rfl
    | @dispose w owed s =>
      obtain ⟨news, hh, hn⟩ := Desk.history_dispose s w
      refine silent (hh.trans (List.append_assoc _ _ _)) fun x hx => ?_
      rcases List.mem_append.mp hx with hx | hx
      · obtain ⟨l, rfl, -⟩ := hn x hx
        rfl
      · rw [List.mem_singleton.mp hx]
        rfl
    | _ => exact silent (List.append_nil _).symm (by simp)

/-- On a path a sink hears the messages only that its rule accepts. -/
theorem Path.accepts {a b : Stage} (h : Path a b) {i : Nat} {k : Sink}
    (hk : a.desk.sink? i = some k) : ∃ news,
      b.desk.shared.history = a.desk.shared.history ++ news ∧
      ∀ m, .message m ∈ History.callsAt i news → k.rule.judge m = .accepts := by
  induction h with
  | refl => exact ⟨[], (List.append_nil _).symm, fun m hm => by cases hm⟩
  | @tail b c path step ih =>
    obtain ⟨news, hb, first⟩ := ih
    obtain ⟨k', hk', hr⟩ := (Path.continues path).line.rule i k hk
    obtain ⟨more, hc, told⟩ := step.tells i
    refine ⟨news ++ more, by rw [hc, hb, List.append_assoc], fun m hm => ?_⟩
    rw [History.callsAt_append] at hm
    rcases List.mem_append.mp hm with hm | hm
    · exact first m hm
    · generalize History.callsAt i more = cs at told hm
      cases told with
      | nothing => cases hm
      | @message s m' hs hj =>
        obtain rfl : s = k' := Option.some.inj (hs.symm.trans hk')
        cases List.mem_singleton.mp hm
        rw [← hr]
        exact hj
      | last hf => cases hf <;> cases List.mem_singleton.mp hm

/-- Work on the line in hand keeps the rules of the sinks that it does not alter. -/
theorem Deed.accepts {altered : Option SinkRef} {w v : Desk} (h : Deed altered w v) {i : Nat}
    {k : Sink} (hs : altered ≠ some ⟨w.line.id, i⟩) (hk : w.sink? i = some k) : ∃ k' news,
      v.sink? i = some k' ∧ v.shared.history = w.shared.history ++ news ∧
      History.Here w.line.id news ∧ k'.rule = k.rule ∧
      ∀ m, .message m ∈ History.callsAt i news → k.rule.judge m = .accepts := by
  induction h generalizing k with
  | @trans w v u hwv _ ih ik =>
    obtain ⟨k₁, news, hk₁, hh, here, hr, first⟩ := ih hs hk
    obtain ⟨k₂, more, hk₂, hh', here', hr', second⟩ := ik (by rwa [hwv.id]) hk₁
    rw [hwv.id] at here'
    refine ⟨k₂, news ++ more, hk₂, by rw [hh', hh, List.append_assoc], here.append here',
      hr'.trans hr, fun m hm => ?_⟩
    rw [History.callsAt_append] at hm
    rcases List.mem_append.mp hm with hm | hm
    · exact first m hm
    · rw [← hr]
      exact second m hm
  | course h =>
    obtain ⟨news, hh, accepted⟩ := h.path.accepts hk
    obtain ⟨_, hh', here⟩ := h.path.here
    obtain rfl : news = _ := List.append_cancel_left (hh.symm.trans hh')
    obtain ⟨k', hk', hr⟩ := h.path.continues.line.rule i k hk
    exact ⟨k', news, hk', hh, here, hr, accepted⟩
  | @alter w s f hs' hown =>
    refine ⟨k, [], ?_, (List.append_nil _).symm, .nil _, rfl, fun m hm => by cases hm⟩
    have other : s.place ≠ i := by
      rintro rfl
      exact hs (by rw [hs', hown])
    show (w.line.mapMux fun x => x.mapSink s.place f).sink? i = _
    rw [Line.sink?_mapSink, show w.line.sink? i = some k from hk]
    simp [other]

theorem Line.Struck.rule {l m : Line} (h : l.Struck m) {i : Nat} {k : Sink}
    (hk : l.sink? i = some k) : ∃ k', m.sink? i = some k' ∧ k'.rule = k.rule := by
  have continues : l.Continues m := by
    induction h with
    | refl => exact .refl l
    | tail _ step ih =>
      obtain ⟨j, rfl⟩ := step
      exact ih.trans (.disposeAt j _)
  exact continues.rule i k hk

/-! ## §4. Runs of errands -/

/-- A line that is not in hand is found as the work on the other has left it. -/
theorem Desk.Others.find {w v : Desk} (h : w.Others v) (hl : v.line.id = w.line.id)
    {c : ConnectionId} (hc : c ≠ w.line.id) {l : Line}
    (hfind : Registry.findLine c w.lines = some l) :
    ∃ k, Registry.findLine c v.lines = some k ∧ l.Struck k := by
  -- Of the line in hand it is enough that it has another identity.
  let R : Line → Line → Prop := fun l k => k.id = l.id ∧ (l.id = c → l.Struck k)
  have struck : ∀ {ls ks : List Line}, List.Forall₂ Line.Struck ls ks → List.Forall₂ R ls ks :=
    fun h => h.imp fun _ _ h => ⟨h.id, fun _ => h⟩
  have rel : List.Forall₂ R w.lines v.lines := by
    refine List.rel_append (struck h.before) (.cons ⟨hl, ?_⟩ (struck h.after))
    exact fun hid => absurd hid.symm hc
  obtain ⟨k, hk, -, hstruck⟩ := Lines.find_of_forall₂ (fun _ _ h => h.1) rel hfind
  have own : l.id = c := by simpa using List.find?_some hfind
  exact ⟨k, hk, hstruck own⟩

namespace Engine

variable {altered : Option SinkRef} {e f : Engine} {s : SinkRef} {k : Sink}

theorem callsTo_of_history {news : List Moment}
    (hh : f.shared.history = e.shared.history ++ news) :
    f.callsTo s = e.callsTo s ++ news.filterMap (Moment.callTo? s) := by
  unfold callsTo
  rw [hh, List.filterMap_append]

/-- **What becomes of a sink when something becomes of its engine** is what becomes of it when its
own line is worked on, and when it is struck while another one is. -/
theorem Moves.ledger {L : Sink → List Call → Sink → Prop} (hrefl : ∀ k, L k [] k)
    (htrans : ∀ {k k' k'' : Sink} {cs ds : List Call}, L k cs k' → L k' ds k'' → L k (cs ++ ds) k'')
    (hdeed : ∀ {w v : Desk} {k : Sink}, Deed altered w v → w.line.id = s.connection →
      w.sink? s.place = some k → ∃ k' news, v.sink? s.place = some k' ∧
        v.shared.history = w.shared.history ++ news ∧ History.Here w.line.id news ∧
        L k (History.callsAt s.place news) k')
    (hstruck : ∀ {l m : Line} {k : Sink}, l.Struck m → l.sink? s.place = some k →
      ∃ k', m.sink? s.place = some k' ∧ L k [] k')
    (h : Moves altered e f) (hk : e.sink? s = some k) :
    ∃ k' cs, f.sink? s = some k' ∧ f.callsTo s = e.callsTo s ++ cs ∧ L k cs k' := by
  induction h generalizing k with
  | refl => exact ⟨k, [], hk, (List.append_nil _).symm, hrefl k⟩
  | trans _ _ ih ik =>
    obtain ⟨k₁, cs, hk₁, hcs, first⟩ := ih hk
    obtain ⟨k₂, ds, hk₂, hds, second⟩ := ik hk₁
    exact ⟨k₂, cs ++ ds, hk₂, by rw [hds, hcs, List.append_assoc], htrans first second⟩
  | @work e c w v hw hd =>
    obtain ⟨l, hl, hsink⟩ := Option.bind_eq_some_iff.mp hk
    by_cases hc : s.connection = c
    case pos =>
      obtain rfl : l = w.line := by
        rw [hc, hw.get?] at hl
        exact (Option.some.inj hl).symm
      have own : s.connection = w.line.id := hc.trans hw.holds.line.symm
      obtain ⟨k', news, hk', hh, here, done⟩ := hdeed hd own.symm hsink
      have held : v.Holds c := hw.holds.of_ids (Lines.ids_of_struck hd.others.before) hd.id
      refine ⟨k', History.callsAt s.place news, ?_, ?_, done⟩
      · refine Option.bind_eq_some_iff.mpr ⟨v.line, ?_, hk'⟩
        rw [hc]
        exact get?_ofDesk e held
      · rw [hw.shared] at hh
        rw [callsTo_of_history (f := e.ofDesk v) hh, History.callsTo_of_here here, if_pos own]
    case neg =>
      have other : s.connection ≠ w.line.id := fun h => hc (h.trans hw.holds.line)
      have hl : Registry.findLine s.connection w.lines = some l := by
        rw [hw.lines]
        exact hl
      obtain ⟨l', hl', struck⟩ := hd.others.find hd.id other hl
      obtain ⟨k', hk', done⟩ := hstruck struck hsink
      obtain ⟨news, hh, here⟩ := hd.here
      refine ⟨k', [], Option.bind_eq_some_iff.mpr ⟨l', hl', hk'⟩, ?_, done⟩
      rw [hw.shared] at hh
      rw [callsTo_of_history (f := e.ofDesk v) hh, History.callsTo_of_here here, if_neg other]
  | @register e config names unknown =>
    obtain ⟨l, hl, hsink⟩ := Option.bind_eq_some_iff.mp hk
    refine ⟨k, [], Option.bind_eq_some_iff.mpr ⟨l, ?_, hsink⟩, (List.append_nil _).symm, hrefl k⟩
    have hl : e.registry.lines.find? (fun l => l.id = s.connection) = some l := hl
    show (e.registry.lines ++ [_]).find? _ = some l
    rw [List.find?_append, hl]
    rfl
  | @shared e shared news hi hh hn =>
    have silent : news.filterMap (Moment.callTo? s) = [] :=
      List.filterMap_eq_nil_iff.mpr fun x hx => Moment.callTo?_of_silent (hn x hx) s
    refine ⟨k, [], hk, ?_, hrefl k⟩
    rw [callsTo_of_history (f := { e with shared }) hh, silent]

/-- What a sink hears when something becomes of its engine. -/
theorem Moves.hears (h : Moves altered e f) (hk : e.sink? s = some k) :
    ∃ k' cs, f.sink? s = some k' ∧ f.callsTo s = e.callsTo s ++ cs ∧
      k.Hears (altered = some s) cs k' := by
  refine h.ledger .refl (fun first second => first.trans second) ?_ ?_ hk
  · intro w v k hd own hs
    obtain ⟨k', news, hk', hh, here, hears⟩ := hd.hears hs
    rw [own] at hears
    exact ⟨k', news, hk', hh, here, hears⟩
  · intro l m k struck hs
    obtain ⟨k', hk', hears⟩ := struck.hears hs
    exact ⟨k', hk', hears.mono False.elim⟩

/-- **A sink that nobody alters** keeps its rule, and hears the messages only that its rule
accepts. -/
theorem Moves.accepts (h : Moves altered e f) (hs : altered ≠ some s) (hk : e.sink? s = some k) :
    ∃ k' cs, f.sink? s = some k' ∧ f.callsTo s = e.callsTo s ++ cs ∧ k'.rule = k.rule ∧
      ∀ m, .message m ∈ cs → k.rule.judge m = .accepts := by
  refine h.ledger (L := fun k cs k' => k'.rule = k.rule ∧
    ∀ m, .message m ∈ cs → k.rule.judge m = .accepts) ?_ ?_ ?_ ?_ hk
  · exact fun k => ⟨rfl, fun m hm => by cases hm⟩
  · rintro k k' k'' cs ds ⟨hr, first⟩ ⟨hr', second⟩
    refine ⟨hr'.trans hr, fun m hm => ?_⟩
    rcases List.mem_append.mp hm with hm | hm
    · exact first m hm
    · rw [← hr]
      exact second m hm
  · intro w v k hd own hsink
    exact hd.accepts (by rw [own]; exact hs) hsink
  · intro l m k struck hsink
    obtain ⟨k', hk', hr⟩ := struck.rule hsink
    exact ⟨k', hk', hr, fun m hm => by cases hm⟩

/-- What becomes of a sink in a run of errands. -/
theorem hears_actAll (as : List Errand) (hk : e.sink? s = some k) :
    ∃ k' cs, (actAll as e).sink? s = some k' ∧ (actAll as e).callsTo s = e.callsTo s ++ cs ∧
      k.Hears (∃ a ∈ as, a.alters = some s) cs k' := by
  refine keeps_actAll (P := fun f => ∃ k' cs, f.sink? s = some k' ∧
    f.callsTo s = e.callsTo s ++ cs ∧ k.Hears (∃ a ∈ as, a.alters = some s) cs k') ?_
    ⟨k, [], hk, (List.append_nil _).symm, .refl k⟩
  rintro f g a ha moves ⟨k', cs, hk', hcs, hears⟩
  obtain ⟨k'', ds, hk'', hds, hears'⟩ := moves.hears hk'
  refine ⟨k'', cs ++ ds, hk'', by rw [hds, hcs, List.append_assoc], ?_⟩
  exact hears.trans (hears'.mono fun h => ⟨a, ha, h⟩)

end Engine

end Correlator
