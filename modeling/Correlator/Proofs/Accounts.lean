/-
  Correlator.Proofs.Accounts — THE ACCOUNT OF A SUBSCRIPTION.

  Of all that happens on a run, little concerns one subscription: its sink is
  made, hears callbacks, is ended, and its stream is read.  An account keeps the
  sink, what has happened, and what the reader was given, and every operation
  adds to it by a few entries.  What holds of each subscription, however
  deliveries, drops, disposals and readings follow one another, is shown entry
  by entry.

  Main results:
    * `Account`, `Account.Adds` — the entries,
    * `Account.Grows.keeps` — from one entry to any number,
    * `Act.account`, `Course.account` — what operations add, with everything
      that their callbacks set off.
-/
import Correlator.Desk.Reading
import Correlator.Proofs.Course
namespace Correlator

/-! ## §1. Accounts -/

/-- A sink, what has happened, and what the reader of the sink was given. -/
structure Account where
  sink : Option Sink
  history : List Moment
  read : List Reading

/-- The account of the sink at a place, given what its reader was given. -/
def Desk.account (i : Nat) (read : List Reading) (w : Desk) : Account :=
  ⟨w.sink? i, w.shared.history, read⟩

/-- The sink at a place as a moment shows it. -/
def Moment.sink? (i : Nat) (x : Moment) : Option Sink := x.line.bind fun l => l.sink? i

/-- What is added to the account of the sink at a place of a multiplexer. -/
inductive Account.Adds (capacity i : Nat) : Account → Account → Prop
  /-- Something happens that is no callback to the sink. -/
  | aside {s : Option Sink} {h : List Moment} {r : List Reading} {news : List Moment}
      (hn : ∀ x ∈ news, x.callAt? i = none) : Adds capacity i ⟨s, h, r⟩ ⟨s, h ++ news, r⟩
  /-- The sink is made. -/
  | born {h : List Moment} {r : List Reading} {s : Sink} (ha : s.phase = .active)
      (hn : s.listener.IsNew capacity) : Adds capacity i ⟨none, h, r⟩ ⟨some s, h, r⟩
  /-- It is given a message while it is active. -/
  | message {h : List Moment} {r : List Reading} {s : Sink} {x : Moment} {m : Message}
      (ha : s.phase = .active) (hx : x.callAt? i = some (.message m)) (hs : x.sink? i = some s) :
      Adds capacity i ⟨some s, h, r⟩
        ⟨some { s with listener := (s.listener.next (.message m)).2 }, h ++ [x], r⟩
  /-- It is told its last callback, as it leaves its active phase. -/
  | last {r : List Reading} {s : Sink} {x : Moment} {phase : Phase} {c : Call} {w : Desk}
      (ha : s.phase = .active) (hf : Finale phase c) (hw : Dismissal w i c)
      (hx : x.callAt? i = some c) (hl : x.line = some (w.mapSink i fun k => { k with phase }).line) :
      Adds capacity i ⟨some s, w.shared.history, r⟩
        ⟨some { s with phase, listener := (s.listener.next c).2 }, w.shared.history ++ [x], r⟩
  /-- It is disposed without a callback. -/
  | dispose {h : List Moment} {r : List Reading} {s : Sink} (ha : s.phase = .active) :
      Adds capacity i ⟨some s, h, r⟩ ⟨some { s with phase := .disposed }, h, r⟩
  /-- Its reader looks for something to read. -/
  | poll {h : List Moment} {r : List Reading} {s : Sink} {q : Stream}
      (hl : s.listener = .stream q) : Adds capacity i ⟨some s, h, r⟩
        ⟨some { s with listener := .stream q.poll.2 }, h, r ++ [q.poll.1]⟩
  /-- There is no stream to read from. -/
  | idle {s : Option Sink} {h : List Moment} {r : List Reading}
      (hs : s.bind Sink.buffer? = none) : Adds capacity i ⟨s, h, r⟩ ⟨s, h, r ++ [none]⟩
  /-- Its owner, who has disposed it, ends the stream. -/
  | finish {h : List Moment} {r : List Reading} {s : Sink} {q : Stream} (hp : s.phase ≠ .active)
      (hl : s.listener = .stream q) : Adds capacity i ⟨some s, h, r⟩
        ⟨some { s with listener := .stream (q.finish .closed) }, h, r⟩

/-- A listener that is a stream after a callback was one before it. -/
theorem Listener.stream_of_next {l : Listener} {c : Call} {q : Stream}
    (h : (l.next c).2 = .stream q) : ∃ p, l = .stream p ∧ q = p.take c := by
  cases l with
  | scripted label script => cases h
  | stream p =>
    cases h
    exact ⟨p, rfl, rfl⟩

/-- Any number of entries. -/
abbrev Account.Grows (capacity i : Nat) : Account → Account → Prop :=
  Relation.ReflTransGen (Account.Adds capacity i)

/-- What every entry keeps, a run keeps. -/
theorem Account.Grows.keeps {capacity i : Nat} {P : Account → Prop}
    (hstep : ∀ {a b}, Adds capacity i a b → P a → P b) {a b : Account} (h : Grows capacity i a b)
    (ha : P a) : P b := by
  induction h with
  | refl => exact ha
  | tail _ step ih => exact hstep step ih

/-! ## §2. What operations add -/

section

variable {capacity i : Nat} {read : List Reading} {w v : Desk}

/-- The sink stays as it is, and no callback to it is among the news. -/
theorem Account.grows_of_news {news : List Moment} (hs : v.sink? i = w.sink? i)
    (hh : v.shared.history = w.shared.history ++ news) (hn : ∀ x ∈ news, x.callAt? i = none) :
    Grows capacity i (w.account i read) (v.account i read) := by
  unfold Desk.account
  rw [hs, hh]
  exact .single (.aside hn)

theorem Account.grows_of_eq (hs : v.sink? i = w.sink? i)
    (hh : v.shared.history = w.shared.history) :
    Grows capacity i (w.account i read) (v.account i read) := by
  unfold Desk.account
  rw [hs, hh]

/-- Sinks are no concern of what happens beside the multiplexer. -/
theorem Beside.account (h : Beside w v) :
    Account.Grows capacity i (w.account i read) (v.account i read) := by
  obtain ⟨news, hh, hn⟩ := h.history
  have sinks : v.sink? i = w.sink? i := congrArg (fun x => x.sinks[i]?) h.mux
  exact Account.grows_of_news sinks hh fun x hx => Moment.callAt?_eq_none (hn x hx).2 i

namespace Desk

/-- A new sink begins its account; the others keep theirs. -/
theorem account_concat {s : Sink} (ha : s.phase = .active) (hn : s.listener.IsNew capacity)
    (hs : v.line.mux.sinks = w.line.mux.sinks ++ [s])
    (hh : v.shared.history = w.shared.history) :
    Account.Grows capacity i (w.account i read) (v.account i read) := by
  by_cases hi : i = w.line.mux.sinks.length
  case pos =>
    have before : w.sink? i = none := List.getElem?_eq_none (Nat.le_of_eq hi.symm)
    have after : v.sink? i = some s := by
      show v.line.mux.sinks[i]? = some s
      rw [hs, hi, List.getElem?_concat_length]
    unfold account
    rw [before, after, hh]
    exact .single (.born ha hn)
  case neg =>
    refine Account.grows_of_eq ?_ hh
    show v.line.mux.sinks[i]? = w.line.mux.sinks[i]?
    rw [hs, List.getElem?_append]
    split
    case isTrue => rfl
    case isFalse hlt =>
      rw [List.getElem?_singleton, if_neg (by omega), List.getElem?_eq_none (by omega)]

/-- What follows a callback on the trail is no callback. -/
theorem news_hear (j : Nat) (s : Sink) (c : Call) (w : Desk) : ∃ news,
    (w.hear j s c).shared.history = w.shared.history ++
      [⟨.called j (s.listener.hearer c) c, some w.line⟩] ++ news ∧
    ∀ x ∈ news, x.callAt? i = none := by
  obtain ⟨news, hh, hn⟩ := history_hear j s c w
  refine ⟨news, by rw [hh, List.append_assoc, List.singleton_append], ?_⟩
  intro x hx
  unfold Moment.callAt?
  rw [hn x hx]

/-- A callback to another sink. -/
theorem account_hear_of_ne {j : Nat} (hj : j ≠ i) (s : Sink) (c : Call) (w : Desk) :
    Account.Grows capacity i (w.account i read) ((w.hear j s c).account i read) := by
  have sinks : (w.hear j s c).sink? i = w.sink? i := by
    show (w.hear j s c).line.mux.sinks[i]? = w.line.mux.sinks[i]?
    rw [sinks_hear, List.getElem?_modify_ne _ _ hj]
  obtain ⟨news, hh, hn⟩ := news_hear (i := i) j s c w
  refine Account.grows_of_news sinks (hh.trans (List.append_assoc _ _ _)) ?_
  intro x hx
  rcases List.mem_append.mp hx with hx | hx
  · rw [List.mem_singleton.mp hx]
    exact if_neg hj
  · exact hn x hx

/-- The listener takes a callback, and is found so. -/
theorem sink?_hear {s k : Sink} {c : Call} (hs : w.sink? i = some k) :
    (w.hear i s c).sink? i = some { k with listener := (k.listener.next c).2 } := by
  have hs : w.line.mux.sinks[i]? = some k := hs
  show (w.hear i s c).line.mux.sinks[i]? = _
  rw [sinks_hear, List.getElem?_modify, hs]
  simp

/-- A message that the sink is given. -/
theorem account_hear_message {s : Sink} (hs : w.sink? i = some s) (ha : s.phase = .active)
    (m : Message) :
    Account.Grows capacity i (w.account i read) ((w.hear i s (.message m)).account i read) := by
  obtain ⟨news, hh, hn⟩ := news_hear (i := i) i s (.message m) w
  unfold account
  rw [sink?_hear hs, hh, hs]
  refine .tail (.single (.message ha ?_ ?_)) (.aside hn)
  · exact if_pos rfl
  · exact hs

/-- The last callback to the sink. -/
theorem account_finish {s : Sink} {phase : Phase} {c : Call} (hs : w.sink? i = some s)
    (ha : s.phase = .active) (hf : Finale phase c) (hw : Dismissal w i c) :
    Account.Grows capacity i (w.account i read)
      (((w.mapSink i fun k => { k with phase }).hear i { s with phase } c).account i read) := by
  have left := sink?_mapSink_self (fun k => { k with phase }) hs
  obtain ⟨news, hh, hn⟩ :=
    news_hear (i := i) i { s with phase } c (w.mapSink i fun k => { k with phase })
  have sinks : ((w.mapSink i fun k => { k with phase }).hear i { s with phase } c).sink? i =
      some { s with phase, listener := (s.listener.next c).2 } := sink?_hear left
  have called : Moment.callAt? i ⟨.called i ({ s with phase }.listener.hearer c) c,
      some (w.mapSink i fun k => { k with phase }).line⟩ = some c := if_pos rfl
  unfold account
  rw [sinks, hh, hs]
  exact .tail (.single (.last ha hf hw called rfl)) (.aside hn)

/-- A disposal, of the sink or of another. -/
theorem account_dispose (r : SinkRef) (w : Desk) :
    Account.Grows capacity i (w.account i read) ((w.dispose r).2.account i read) := by
  obtain ⟨news, hh, hn⟩ := history_dispose r w
  have quiet : ∀ x ∈ news ++ [⟨.disposed r (w.dispose r).1, some (w.dispose r).2.line⟩],
      x.callAt? i = none := by
    intro x hx
    rcases List.mem_append.mp hx with hx | hx
    · obtain ⟨l, rfl, -⟩ := hn x hx
      rfl
    · rw [List.mem_singleton.mp hx]
      rfl
  have hh := hh.trans (List.append_assoc _ _ _)
  -- No sink but the one at the place is changed, and that one only if it is active.
  obtain ⟨f, hsinks, hf⟩ := sinks_dispose r w
  have sinks : (w.dispose r).2.sink? i = (w.sink? i).map fun k => if r.place = i then f k else k := by
    show (w.dispose r).2.line.mux.sinks[i]? = _
    rw [hsinks, List.getElem?_modify]
    rfl
  cases hs : w.sink? i with
  | none =>
    rw [hs] at sinks
    exact Account.grows_of_news (sinks.trans hs.symm) hh quiet
  | some s =>
    rw [hs, Option.map_some] at sinks
    by_cases hplace : r.place = i
    case neg =>
      rw [if_neg hplace] at sinks
      exact Account.grows_of_news (sinks.trans hs.symm) hh quiet
    case pos =>
      rw [if_pos hplace] at sinks
      rcases hf s with h | ⟨-, ha, h⟩
      · rw [h] at sinks
        exact Account.grows_of_news (sinks.trans hs.symm) hh quiet
      · unfold account
        rw [sinks, h, hh, hs]
        exact .tail (.single (.dispose ha)) (.aside quiet)

theorem account_resume (w : Desk) :
    Account.Grows capacity i (w.account i read) (w.resume.account i read) := by
  unfold resume
  split
  · exact .refl
  · have noted := history_record (.noted .dropRecordCleared)
      (w.mapMux fun x => { x with dropRecord := none })
    exact Account.grows_of_news rfl noted (by simp [Moment.callAt?])

end Desk

end

section

variable {law : Operation → Prop} {a b : Stage}

/-- The capacity is that of the configuration. -/
theorem Path.capacity (h : Path a b) : b.desk.line.mux.capacity = a.desk.line.mux.capacity := by
  have disposed : ∀ i l, (Line.disposeAt i l).2.mux.capacity = l.mux.capacity := by
    intro i l
    rw [Line.snd_disposeAt]
    rfl
  induction h with
  | refl => rfl
  | tail _ step ih =>
    refine Eq.trans ?_ ih
    cases step with
    | aside h => exact congrArg Multiplexer.capacity h.beside.mux
    | turn h => exact congrArg Multiplexer.capacity h.beside.mux
    | shift h =>
      cases h with
      | dispose s => exact Desk.kept_dispose (f := fun l => l.mux.capacity) disposed s _
      | _ => rfl

variable {i : Nat} {read : List Reading}

theorem Act.account (h : Act law a b) : Account.Grows a.desk.line.mux.capacity i
    (a.desk.account i read) (b.desk.account i read) := by
  cases h with
  | enlist _ _ _ hn => exact Desk.account_concat rfl hn rfl rfl
  | refuse _ _ hn => exact Desk.account_concat rfl hn rfl rfl
  | @deliver w owed j s m hs ha =>
    by_cases hj : j = i
    · subst hj
      exact Desk.account_hear_message hs ha m
    · exact Desk.account_hear_of_ne hj s (.message m) w
  | @finish w owed j s phase c hs ha hf hw =>
    by_cases hj : j = i
    · subst hj
      exact Desk.account_finish hs ha hf hw
    · have left : (w.mapSink j fun k => { k with phase }).sink? i = w.sink? i :=
        List.getElem?_modify_ne _ _ hj
      refine (Account.grows_of_eq left rfl).trans ?_
      exact Desk.account_hear_of_ne hj { s with phase } c _
  | pass => exact .refl
  | shut => exact .refl
  | dispose s => exact Desk.account_dispose s _

/-- **What operations add to an account**, with everything that their callbacks set off. -/
theorem Course.account (h : Course law a b) : Account.Grows a.desk.line.mux.capacity i
    (a.desk.account i read) (b.desk.account i read) := by
  induction h with
  | refl => exact .refl
  | @trans a b c hab hbc ih ik =>
    rw [hab.path.capacity] at ik
    exact ih.trans ik
  | aside h => exact h.beside.account
  | turn h => exact h.beside.account
  | act h => exact h.account
  | @comeUp w owed h =>
    -- A turn of its own, once the record is off.
    have up : Beside w.resume w.resume.comeUp :=
      (Turn.establish (by rw [Desk.state_resume]; exact h) w.dropRecord_resume).beside
    exact w.account_resume.trans up.account
  | @resume w owed h => exact w.account_resume
  | @broadcast w u v owed d h _ ih =>
    have same : u.line.mux.capacity = w.line.mux.capacity :=
      congrArg Multiplexer.capacity h.beside.mux
    have drained : Account.Grows w.line.mux.capacity i (u.account i read) (v.account i read) := by
      rw [← same]
      exact ih
    have noted := Desk.history_record (.noted .dropBroadcast) v
    exact h.beside.account.trans (drained.trans
      (Account.grows_of_news (v := v.note .dropBroadcast) rfl noted (by simp [Moment.callAt?])))

end

end Correlator
