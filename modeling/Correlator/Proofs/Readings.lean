/-
  Correlator.Proofs.Readings — WHAT READERS ARE GIVEN.

  A reader learns of its subscription by the answers to its requests alone.
  The readings in those answers, in order, go into the account of the sink, so
  that a run of requests as a whole adds to the account by entries.  A desk
  reads from the line in hand, unless a line before it has the same identity.

  Main results:
    * `Request.readings`, `Request.readingsAll` — what requests give to a reader,
    * `Request.account` — what one request adds to an account,
    * `Request.account_serveAll` — every run of requests.
-/
import Correlator.Proofs.Accounts
import Correlator.Proofs.Continuity
import Correlator.Proofs.Requests
namespace Correlator

/-! ## §1. What readers are given -/

/-- A reader gets the oldest message, or nothing yet, or the end, which is a close from then on. -/
theorem Stream.poll_cases (q : Stream) :
    (∃ m rest, q.queue = m :: rest ∧ q.poll = (some (.ok m), { q with queue := rest })) ∨
    q.queue = [] ∧ q.ending = none ∧ q.poll = (none, q) ∨
    ∃ e, q.queue = [] ∧ q.ending = some e ∧
      q.poll = (some (.error (endingError e)), { q with ending := some .closed }) := by
  obtain ⟨capacity, queue, ending, overwritten⟩ := q
  cases queue with
  | cons m rest => exact .inl ⟨m, rest, rfl, rfl⟩
  | nil =>
    cases ending with
    | none => exact .inr (.inl ⟨rfl, rfl, rfl⟩)
    | some e => exact .inr (.inr ⟨e, rfl, rfl, rfl⟩)

namespace Reading

/-- The message that was read. -/
def message? : Reading → Option Message
  | some (.ok m) => some m
  | _ => none

/-- The error that was read. -/
def error? : Reading → Option RecvError
  | some (.error e) => some e
  | _ => none

theorem filterMap_message?_concat {read : List Reading} {r : Reading} (hr : message? r = none) :
    (read ++ [r]).filterMap message? = read.filterMap message? := by
  rw [List.filterMap_append, List.filterMap_cons, hr]
  exact List.append_nil _

theorem filterMap_error?_concat {read : List Reading} {r : Reading} (hr : error? r = none) :
    (read ++ [r]).filterMap error? = read.filterMap error? := by
  rw [List.filterMap_append, List.filterMap_cons, hr]
  exact List.append_nil _

/-- The reading behind an answer that was waited for: whoever ran out of time has read nothing. -/
def ofTimed : Except RecvError Message → Reading
  | .error (.timeout _) => none
  | r => some r

/-- Nothing is left of the limit in the reading. -/
theorem ofTimed_getD_poll (q : Stream) (limit : Duration) :
    ofTimed (q.poll.1.getD (.error (.timeout limit))) = q.poll.1 := by
  rcases q.poll_cases with ⟨m, rest, -, h⟩ | ⟨-, -, h⟩ | ⟨e, -, -, h⟩
  · rw [h]
    rfl
  · rw [h]
    rfl
  · rw [h]
    cases e <;> rfl

theorem ofTimed_getD (w : Desk) (s : SinkRef) (limit : Duration) :
    ofTimed ((w.poll s).1.getD (.error (.timeout limit))) = (w.poll s).1 := by
  unfold Desk.poll
  split
  · rfl
  · exact ofTimed_getD_poll _ limit

end Reading

namespace Request

/-- What is for the reader of a sink in an answer to whoever was asked. -/
def given {α : Type} (s : SinkRef) (asked : Except ReadingFault SinkRef)
    (answer : Except ReadingFault α) (f : α → List Reading) : List Reading :=
  match asked, answer with
  | .ok r, .ok a => if r = s then f a else []
  | _, _ => []

theorem given_error {α : Type} (s : SinkRef) (e : ReadingFault) (answer : Except ReadingFault α)
    (f : α → List Reading) : given s (.error e) answer f = [] := rfl

/-- What a request gives to the reader of a sink.  It gives nothing to the readers of others. -/
def readings (s : SinkRef) : Request → Desk → List Reading
  | receive name, w => given s (w.idle name) (w.receive name).1 fun r => [r]
  | receiveWithin name limit, w =>
    given s (w.idle name) (w.receiveWithin name limit).1 fun r => [Reading.ofTimed r]
  | beginReceive name, w => given s (w.idle name) (w.beginReceive name).1 fun r => [r]
  | pollReceive name, w => given s (w.waiting name) (w.pollReceive name).1 fun r => [r]
  | drain name, w => given s (w.idle name) (w.drain name).1 fun rs => rs
  | _, _ => []

/-- What requests give to the reader of a sink, one after the other. -/
def readingsAll (s : SinkRef) : List Request → Desk → List Reading
  | [], _ => []
  | r :: rs, w => r.readings s w ++ readingsAll s rs (r.serve w)

end Request

/-! ## §2. Reading from a desk -/

namespace Sink

theorem buffer?_eq_some {s : Sink} {q : Stream} :
    s.buffer? = some q ↔ s.listener = .stream q := by
  unfold buffer?
  cases s.listener <;> simp

theorem mapBuffer_of_stream {s : Sink} {q : Stream} (h : s.listener = .stream q)
    (f : Stream → Stream) : s.mapBuffer f = { s with listener := .stream (f q) } := by
  unfold mapBuffer
  rw [h]

theorem mapBuffer_of_none {s : Sink} (h : s.buffer? = none) (f : Stream → Stream) :
    s.mapBuffer f = s := by
  unfold mapBuffer
  split
  case h_1 q hl =>
    rw [buffer?_eq_some.mpr hl] at h
    cases h
  case h_2 => rfl

end Sink

namespace Desk

variable {c : ConnectionId} {capacity i : Nat} {read : List Reading} {w : Desk}

theorem ids_mapSinkAmong (s : SinkRef) (f : Sink → Sink) (ls : List Line) :
    (mapSinkAmong s f ls).map Line.id = ls.map Line.id := by
  induction ls with
  | nil => rfl
  | cons l ls ih =>
    unfold mapSinkAmong
    split
    · rfl
    · rw [List.map_cons, List.map_cons, ih]

theorem Holds.mapSinkAt (h : w.Holds c) (s : SinkRef) (f : Sink → Sink) :
    (w.mapSinkAt s f).Holds c := by
  unfold Desk.mapSinkAt
  split
  · exact h.of_ids rfl rfl
  · exact h.of_ids (ids_mapSinkAmong s f w.before) rfl

/-- What is read is the buffer of the line in hand. -/
theorem Holds.bufferAt? (h : w.Holds c) (i : Nat) :
    w.bufferAt? ⟨c, i⟩ = (w.sink? i).bind Sink.buffer? := by
  unfold Desk.bufferAt?
  rw [h.sinkAt?]

theorem Holds.bufferAt?_of_stream (h : w.Holds c) {s : Sink} {q : Stream} (hs : w.sink? i = some s)
    (hl : s.listener = .stream q) : w.bufferAt? ⟨c, i⟩ = some q := by
  rw [h.bufferAt?, hs]
  exact Sink.buffer?_eq_some.mpr hl

theorem sink?_mapSinkAt (r : SinkRef) (f : Sink → Sink) (w : Desk) : (w.mapSinkAt r f).sink? i =
    if r = ⟨w.line.id, i⟩ then (w.sink? i).map f else w.sink? i := by
  obtain ⟨d, j⟩ := r
  show (w.mapSinkAt _ f).line.sink? i = _
  rw [line_mapSinkAt]
  split
  case isTrue h =>
    have h : w.line.id = d := h
    subst h
    rw [Line.sink?_mapSink]
    by_cases hj : j = i
    · subst hj
      simp [sink?]
    · have hne : (⟨w.line.id, j⟩ : SinkRef) ≠ ⟨w.line.id, i⟩ := fun h => hj (by cases h; rfl)
      rw [if_neg hne]
      simp [hj, sink?]
  case isFalse h =>
    have hne : (⟨d, j⟩ : SinkRef) ≠ ⟨w.line.id, i⟩ := fun heq => h (by cases heq; rfl)
    rw [if_neg hne]
    rfl

/-- Readings of a sink add to its account, and to no other. -/
theorem account_mapBuffer (h : w.Holds c) {r : SinkRef} {q : Stream} (hq : w.bufferAt? r = some q)
    {f : Stream → Stream} {given : List Reading}
    (hf : ∀ s, s.listener = .stream q →
      Account.Grows capacity i ⟨some s, w.shared.history, read⟩
        ⟨some { s with listener := .stream (f q) }, w.shared.history, read ++ given⟩) :
    Account.Grows capacity i (w.account i read) ((w.mapSinkAt r fun k => k.mapBuffer f).account i
      (read ++ if r = ⟨c, i⟩ then given else [])) := by
  have sinks := sink?_mapSinkAt (i := i) r (fun k => k.mapBuffer f) w
  rw [h.line] at sinks
  by_cases hr : r = ⟨c, i⟩
  case pos =>
    subst hr
    rw [h.bufferAt?] at hq
    obtain ⟨s, hs, hbuffer⟩ := Option.bind_eq_some_iff.mp hq
    have hl : s.listener = .stream q := Sink.buffer?_eq_some.mp hbuffer
    rw [if_pos rfl, hs, Option.map_some, Sink.mapBuffer_of_stream hl] at sinks
    unfold account
    rw [sinks, shared_mapSinkAt, hs, if_pos rfl]
    exact hf s hl
  case neg =>
    rw [if_neg hr] at sinks
    rw [if_neg hr, List.append_nil]
    exact Account.grows_of_eq sinks (congrArg Shared.history (shared_mapSinkAt _ _ _))

/-- Where there is no stream, there is nothing to read. -/
theorem account_idle (h : w.Holds c) {r : SinkRef} (hq : w.bufferAt? r = none) :
    Account.Grows capacity i (w.account i read)
      (w.account i (read ++ if r = ⟨c, i⟩ then [none] else [])) := by
  by_cases hr : r = ⟨c, i⟩
  case pos =>
    subst hr
    rw [h.bufferAt?] at hq
    rw [if_pos rfl]
    exact .single (.idle hq)
  case neg => rw [if_neg hr, List.append_nil]

theorem account_poll (h : w.Holds c) (r : SinkRef) : Account.Grows capacity i (w.account i read)
    ((w.poll r).2.account i (read ++ if r = ⟨c, i⟩ then [(w.poll r).1] else [])) := by
  unfold poll
  cases hq : w.bufferAt? r with
  | none => exact account_idle h hq
  | some q => exact account_mapBuffer h hq fun s hl => .single (.poll hl)

end Desk

/-- Draining a stream is reading from it again and again. -/
theorem Account.grows_drainFor {capacity i : Nat} {history : List Moment} (n : Nat)
    {read : List Reading} {s : Sink} {q : Stream} (hl : s.listener = .stream q) :
    Grows capacity i ⟨some s, history, read⟩
      ⟨some { s with listener := .stream (q.drainFor n).2 }, history, read ++ (q.drainFor n).1⟩ := by
  induction n generalizing read s q with
  | zero => exact .single (.poll hl)
  | succ n ih =>
    have polled : Adds capacity i ⟨some s, history, read⟩
        ⟨some { s with listener := .stream q.poll.2 }, history, read ++ [q.poll.1]⟩ := .poll hl
    unfold Stream.drainFor
    split
    case h_1 m p hp =>
      rw [hp] at polled
      have rest : Grows capacity i
          ⟨some { s with listener := .stream p }, history, read ++ [some (.ok m)]⟩
          ⟨some { s with listener := .stream (p.drainFor n).2 }, history,
            (read ++ [some (.ok m)]) ++ (p.drainFor n).1⟩ := ih rfl
      rw [List.append_assoc] at rest
      exact .head polled rest
    case h_2 last p _ hp =>
      rw [hp] at polled
      exact .single polled

/-! ## §3. The end of a subscription -/

namespace Desk

/-- A sink of the line in hand that was disposed is not active. -/
theorem inactive_dispose {i : Nat} {s : Sink} {w : Desk}
    (hs : (w.dispose ⟨w.line.id, i⟩).2.sink? i = some s) : s.phase ≠ .active := by
  have hs : (w.dispose ⟨w.line.id, i⟩).2.line.mux.sinks[i]? = some s := hs
  rw [line_dispose, if_pos rfl, Line.sinks_disposeAt, List.getElem?_modify] at hs
  obtain ⟨k, -, rfl⟩ := Option.map_eq_some_iff.mp hs
  rw [if_pos rfl]
  split
  case isTrue => exact fun h => by cases h
  case isFalse ha => exact fun h => ha (Sink.isActive_iff.mpr h)

variable {capacity i : Nat} {read : List Reading}

/-- The owner of a subscription disposes the sink and ends the stream. -/
theorem account_endSubscription (r : SinkRef) (w : Desk) :
    Account.Grows capacity i (w.account i read) ((w.endSubscription r).2.account i read) := by
  refine (account_dispose r w).trans ?_
  show Account.Grows capacity i ((w.dispose r).2.account i read)
    (((w.dispose r).2.mapSinkAt r fun k => k.mapBuffer (Stream.finish .closed)).account i read)
  have sinks := sink?_mapSinkAt (i := i) r (fun k => k.mapBuffer (Stream.finish .closed))
    (w.dispose r).2
  have shared := shared_mapSinkAt r (fun k => k.mapBuffer (Stream.finish .closed)) (w.dispose r).2
  -- The stream is looked up by the connection, which a disposal leaves as it is.
  have hid : (w.dispose r).2.line.id = w.line.id :=
    congrArg ConnectionConfig.id (kept_dispose Line.config_disposeAt r w)
  rw [hid] at sinks
  by_cases hr : r = ⟨w.line.id, i⟩
  case neg =>
    rw [if_neg hr] at sinks
    exact Account.grows_of_eq sinks (congrArg Shared.history shared)
  case pos =>
    subst hr
    rw [if_pos rfl] at sinks
    cases hs : (w.dispose ⟨w.line.id, i⟩).2.sink? i with
    | none =>
      rw [hs] at sinks
      exact Account.grows_of_eq (sinks.trans hs.symm) (congrArg Shared.history shared)
    | some s =>
      rw [hs, Option.map_some] at sinks
      cases hq : s.buffer? with
      | none =>
        rw [Sink.mapBuffer_of_none hq] at sinks
        exact Account.grows_of_eq (sinks.trans hs.symm) (congrArg Shared.history shared)
      | some q =>
        have hl : s.listener = .stream q := Sink.buffer?_eq_some.mp hq
        rw [Sink.mapBuffer_of_stream hl] at sinks
        unfold account
        rw [sinks, shared, hs]
        exact .single (.finish (inactive_dispose hs) hl)

end Desk

/-- The desk still has the line in hand. -/
theorem Dealing.holds {owners : Bool} {c : ConnectionId} {w v : Desk} (h : Dealing owners w v)
    (hw : w.Holds c) : v.Holds c := by
  induction h with
  | refl => exact hw
  | trans _ _ ih ik => exact ik (ih hw)
  | operate h => exact hw.continues h.path.continues
  | enter => exact hw.of_ids rfl rfl
  | release => exact hw.of_ids rfl rfl
  | read s => exact hw.mapSinkAt s _
  | finish s => exact hw.mapSinkAt s _

theorem Dealing.capacity {owners : Bool} {w v : Desk} (h : Dealing owners w v) :
    v.line.mux.capacity = w.line.mux.capacity := by
  have buffer : ∀ (w : Desk) (s : SinkRef) (f : Sink → Sink),
      (w.mapSinkAt s f).line.mux.capacity = w.line.mux.capacity := by
    intro w s f
    rw [Desk.line_mapSinkAt]
    split <;> rfl
  induction h with
  | refl => rfl
  | trans _ _ ih ik => exact ik.trans ih
  | operate h => exact h.path.capacity
  | enter => rfl
  | release => rfl
  | read s => exact buffer _ s _
  | finish s => exact buffer _ s _

/-! ## §4. Requests -/

namespace Request

variable {c : ConnectionId} {capacity i : Nat} {read : List Reading} {w : Desk}

theorem account_receive (h : w.Holds c) (name : String) :
    Account.Grows capacity i (w.account i read)
      ((w.receive name).2.account i (read ++ (receive name).readings ⟨c, i⟩ w)) := by
  show Account.Grows capacity i _ (Desk.account i (read ++ given _ _ _ _) _)
  cases hn : w.idle name with
  | error e =>
    have answered : w.receive name = (.error e, w) := by simp [Desk.receive, hn]
    rw [answered, given_error, List.append_nil]
  | ok s =>
    have answered : w.receive name = (.ok (w.poll s).1, (w.poll s).2) := by
      simp [Desk.receive, hn]
    rw [answered]
    exact Desk.account_poll h s

theorem account_receiveWithin (h : w.Holds c) (name : String) (limit : Duration) :
    Account.Grows capacity i (w.account i read) ((w.receiveWithin name limit).2.account i
      (read ++ (receiveWithin name limit).readings ⟨c, i⟩ w)) := by
  show Account.Grows capacity i _ (Desk.account i (read ++ given _ _ _ _) _)
  cases hn : w.idle name with
  | error e =>
    have answered : w.receiveWithin name limit = (.error e, w) := by
      simp [Desk.receiveWithin, Desk.receive, hn]
    rw [answered, given_error, List.append_nil]
  | ok s =>
    have answered : w.receiveWithin name limit =
        (.ok ((w.poll s).1.getD (.error (.timeout limit))), (w.poll s).2) := by
      simp [Desk.receiveWithin, Desk.receive, hn]
    rw [answered, given]
    dsimp only
    rw [Reading.ofTimed_getD]
    exact Desk.account_poll h s

/-- Whether the reader goes on waiting makes no difference to the account. -/
theorem account_beginReceive (h : w.Holds c) (name : String) :
    Account.Grows capacity i (w.account i read)
      ((w.beginReceive name).2.account i (read ++ (beginReceive name).readings ⟨c, i⟩ w)) := by
  show Account.Grows capacity i _ (Desk.account i (read ++ given _ _ _ _) _)
  unfold Desk.beginReceive
  cases hn : w.idle name with
  | error e => rw [given_error, List.append_nil]
  | ok s =>
    have polled : Account.Grows capacity i (w.account i read) _ := Desk.account_poll h s
    dsimp only
    split
    case h_1 v hv =>
      rw [hv] at polled
      exact polled
    case h_2 hv =>
      rw [hv] at polled
      exact polled

theorem account_pollReceive (h : w.Holds c) (name : String) :
    Account.Grows capacity i (w.account i read)
      ((w.pollReceive name).2.account i (read ++ (pollReceive name).readings ⟨c, i⟩ w)) := by
  show Account.Grows capacity i _ (Desk.account i (read ++ given _ _ _ _) _)
  unfold Desk.pollReceive
  cases hn : w.waiting name with
  | error e => rw [given_error, List.append_nil]
  | ok s =>
    have polled : Account.Grows capacity i (w.account i read) _ := Desk.account_poll h s
    dsimp only
    split
    case h_1 v hv =>
      rw [hv] at polled
      exact polled
    case h_2 hv =>
      rw [hv] at polled
      exact polled

theorem account_drain (h : w.Holds c) (name : String) :
    Account.Grows capacity i (w.account i read)
      ((w.drain name).2.account i (read ++ (drain name).readings ⟨c, i⟩ w)) := by
  show Account.Grows capacity i _ (Desk.account i (read ++ given _ _ _ _) _)
  unfold Desk.drain
  cases hn : w.idle name with
  | error e => rw [given_error, List.append_nil]
  | ok s =>
    dsimp only
    cases hq : w.bufferAt? s with
    | none => exact Desk.account_idle h hq
    | some q => exact Desk.account_mapBuffer h hq fun s hl => Account.grows_drainFor _ hl

theorem account_disposeSubscription (name : String) (w : Desk) :
    Account.Grows capacity i (w.account i read)
      ((w.disposeSubscription name).2.account i read) := by
  unfold Desk.disposeSubscription
  split
  case h_1 => exact .refl
  case h_2 s _ => exact Desk.account_endSubscription s w

theorem account_giveUpSubscription (name : String) (w : Desk) :
    Account.Grows capacity i (w.account i read)
      ((w.giveUpSubscription name).2.account i read) := by
  unfold Desk.giveUpSubscription Desk.giveUp
  split
  case h_1 => exact .refl
  case h_2 e _ =>
    split
    case h_1 => exact .refl
    case h_2 =>
      dsimp only
      split
      · exact .refl
      · exact Desk.account_dispose _ (w.setReader name e.sink .absent)

/-- **What a request adds to an account**, with what it gives to the reader. -/
theorem account (h : w.Holds c) (r : Request) :
    Account.Grows w.line.mux.capacity i (w.account i read)
      ((r.serve w).account i (read ++ r.readings ⟨c, i⟩ w)) := by
  have silent : ∀ {v : Desk},
      Account.Grows w.line.mux.capacity i (w.account i read) (v.account i read) →
      Account.Grows w.line.mux.capacity i (w.account i read) (v.account i (read ++ [])) := by
    intro v grown
    rw [List.append_nil]
    exact grown
  cases r with
  | operation op => exact silent (op.exec_course (fun _ _ => True.intro) (.trivial w) []).account
  | disposeByMultiplexer handle => exact silent (w.course_disposeByMultiplexer handle).account
  | releaseMultiplexer =>
    refine silent (v := (Operation.onMultiplexer w _).2) ?_
    unfold Operation.onMultiplexer
    split <;> exact .refl
  | receive name => exact account_receive h name
  | receiveWithin name limit => exact account_receiveWithin h name limit
  | beginReceive name => exact account_beginReceive h name
  | pollReceive name => exact account_pollReceive h name
  | drain name => exact account_drain h name
  | disposeSubscription name => exact silent (account_disposeSubscription name w)
  | giveUpSubscription name => exact silent (account_giveUpSubscription name w)

/-- **Every run of requests adds to the account of a subscription** by such entries. -/
theorem account_serveAll (h : w.Holds c) (rs : List Request) :
    Account.Grows w.line.mux.capacity i (w.account i read)
      ((serveAll rs w).account i (read ++ readingsAll ⟨c, i⟩ rs w)) := by
  induction rs generalizing w read with
  | nil =>
    show Account.Grows _ i _ (w.account i (read ++ []))
    rw [List.append_nil]
  | cons r rs ih =>
    have dealing : Dealing true w (r.serve w) := dealing (fun _ => rfl) w
    have first : Account.Grows w.line.mux.capacity i (w.account i read)
        ((r.serve w).account i (read ++ r.readings ⟨c, i⟩ w)) := account h r
    have rest : Account.Grows (r.serve w).line.mux.capacity i
        ((r.serve w).account i (read ++ r.readings ⟨c, i⟩ w))
        ((serveAll rs (r.serve w)).account i
          ((read ++ r.readings ⟨c, i⟩ w) ++ readingsAll ⟨c, i⟩ rs (r.serve w))) :=
      ih (dealing.holds h)
    rw [dealing.capacity, List.append_assoc] at rest
    exact first.trans rest

/-- A run of requests leaves the line in hand. -/
theorem holds_serveAll (h : w.Holds c) (rs : List Request) : (serveAll rs w).Holds c :=
  have dealing : Dealing true w (serveAll rs w) := dealing_serveAll (fun _ _ _ => rfl) w
  dealing.holds h

/-- From the first configuration of a line on, the account of a sink begins with nothing. -/
theorem account_opening {w : Desk} {config : ConnectionConfig}
    (hfirst : ∀ l ∈ w.before, l.id ≠ config.id) (capacity : Nat) (rs : List Request) (i : Nat) :
    Account.Grows (max capacity 1) i ⟨none, [], []⟩
      ((serveAll rs (w.opening config capacity)).account i
        (readingsAll ⟨config.id, i⟩ rs (w.opening config capacity))) := by
  have own : (w.opening config capacity).Holds config.id := ⟨hfirst, rfl⟩
  have grown : Account.Grows (w.opening config capacity).line.mux.capacity i
      ((w.opening config capacity).account i [])
      ((serveAll rs (w.opening config capacity)).account i
        ([] ++ readingsAll ⟨config.id, i⟩ rs (w.opening config capacity))) :=
    account_serveAll own rs
  rw [List.nil_append] at grown
  exact grown

end Request

end Correlator
