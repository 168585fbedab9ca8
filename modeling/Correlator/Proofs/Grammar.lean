/-
  Correlator.Proofs.Grammar — HOW A SUBSCRIPTION IS TOLD ITS END.

  A reader gets messages first, and once it gets an error it gets nothing but
  errors.  The first error is the drop that terminated the sink, if it was a
  drop, and every other error says that the stream is closed.  A drop that has
  come stays to be told, whatever is disposed or closed before the reader comes
  to it, and a sink that was disposed or closed first is told of no drop.

  The phase of the sink, the end of the stream, the drops that the sink was told
  of and the errors that were read stand together in one of four ways, and each
  entry of an account leads from one of them to another.

  Main results:
    * `Standing` — the four ways,
    * `Stream.Speaks`, `Account.Adds.spoken` — what was read, entry by entry,
    * `Account.Adds.dismissed` — where the last callback of a sink comes from,
    * `Account.Adds.past` — a sink that has left its active phase,
    * `Request.grammar_serveAll` — every run of requests.
-/
import Correlator.Proofs.Readings
namespace Correlator

/-! ## §1. Drops -/

/-- The drop that a callback tells of. -/
def Call.drop? : Call → Option ConnectionDropped
  | .error d => some d
  | _ => none

namespace History

/-- The drops that the sink at a place was told of, in order. -/
def dropsAt (i : Nat) (h : List Moment) : List ConnectionDropped :=
  (callsAt i h).filterMap Call.drop?

variable {i : Nat} {h news : List Moment}

theorem callsAt_append_of_none (hn : ∀ x ∈ news, x.callAt? i = none) :
    callsAt i (h ++ news) = callsAt i h := by
  unfold callsAt
  rw [List.filterMap_append, List.filterMap_eq_nil_iff.mpr hn, List.append_nil]

theorem callsAt_concat {x : Moment} {c : Call} (hx : x.callAt? i = some c) :
    callsAt i (h ++ [x]) = callsAt i h ++ [c] := by
  unfold callsAt
  simp [hx]

theorem dropsAt_append_of_none (hn : ∀ x ∈ news, x.callAt? i = none) :
    dropsAt i (h ++ news) = dropsAt i h :=
  congrArg (List.filterMap Call.drop?) (callsAt_append_of_none hn)

theorem dropsAt_concat {x : Moment} {c : Call} (hx : x.callAt? i = some c) :
    dropsAt i (h ++ [x]) = dropsAt i h ++ c.drop?.toList := by
  unfold dropsAt
  rw [callsAt_concat hx, List.filterMap_append]
  cases hc : c.drop? <;> simp [hc]

/-- A drop that the sink was told of was told at some moment. -/
theorem mem_dropsAt {d : ConnectionDropped} (hd : d ∈ dropsAt i h) :
    ∃ h₁ x h₂, h = h₁ ++ x :: h₂ ∧ x.callAt? i = some (.error d) := by
  obtain ⟨c, hc, hdrop⟩ := List.mem_filterMap.mp hd
  obtain ⟨x, hx, hcall⟩ := List.mem_filterMap.mp hc
  obtain ⟨h₁, h₂, rfl⟩ := List.append_of_mem hx
  refine ⟨h₁, x, h₂, rfl, ?_⟩
  cases c with
  | error d' =>
    cases hdrop
    exact hcall
  | _ => cases hdrop

end History

open History

/-! ## §2. What is read -/

/-- How a subscription stands: the phase of its sink, the end of its stream, the drops that the
sink was told of, and the errors that its reader was given. -/
inductive Standing : Phase → Option Ending → List ConnectionDropped → List RecvError → Prop
  /-- The stream has not ended. -/
  | listening {phase : Phase} (h : phase ≠ .terminated) : Standing phase none [] []
  /-- A drop has terminated the sink, and the reader has not come to it. -/
  | dropped (d : ConnectionDropped) : Standing .terminated (some (.dropped d)) [d] []
  /-- The reader was given the drop, and after that it is closed for good. -/
  | told (d : ConnectionDropped) (n : Nat) :
      Standing .terminated (some .closed) [d] (.dropped d :: List.replicate n .closed)
  /-- The stream was closed before any drop came. -/
  | closed (n : Nat) : Standing .disposed (some .closed) [] (List.replicate n .closed)

namespace Standing

variable {phase : Phase} {ending : Option Ending} {drops : List ConnectionDropped}
  {errors : List RecvError}

/-- While the sink is active nobody was told of an end. -/
theorem of_active (h : Standing .active ending drops errors) :
    ending = none ∧ drops = [] ∧ errors = [] := by
  cases h
  exact ⟨rfl, rfl, rfl⟩

/-- Before the stream has ended there is no error to read. -/
theorem of_open (h : Standing phase none drops errors) : errors = [] := by
  cases h
  rfl

/-- A reader is given no drop but the one that terminated the sink. -/
theorem of_mem {d : ConnectionDropped} (h : Standing phase ending drops errors)
    (hd : .dropped d ∈ errors) : phase = .terminated ∧ drops = [d] := by
  cases h with
  | listening => cases hd
  | dropped => cases hd
  | told d' n =>
    rcases List.mem_cons.mp hd with heq | hd
    · cases heq
      exact ⟨rfl, rfl⟩
    · cases List.eq_of_mem_replicate hd
  | closed n => cases List.eq_of_mem_replicate hd

/-- A drop that the sink was told of is the first error to be read. -/
theorem errors_of_mem {d : ConnectionDropped} (h : Standing phase ending drops errors)
    (hd : d ∈ drops) : errors = [] ∨ ∃ n, errors = .dropped d :: List.replicate n .closed := by
  cases h with
  | listening => cases hd
  | dropped => exact .inl rfl
  | told d' n =>
    rw [List.mem_singleton.mp hd]
    exact .inr ⟨n, rfl⟩
  | closed => cases hd

/-- Of a sink that was disposed or closed no drop is read. -/
theorem errors_of_disposed (h : Standing .disposed ending drops errors) :
    ∃ n, errors = List.replicate n .closed := by
  cases h with
  | listening => exact ⟨0, rfl⟩
  | closed n => exact ⟨n, rfl⟩

/-- A stream that has ended tells its end, and is closed then. -/
theorem poll {e : Ending} (h : Standing phase (some e) drops errors) :
    Standing phase (some .closed) drops (errors ++ [Stream.endingError e]) := by
  cases h with
  | dropped d => exact .told d 0
  | told d n =>
    show Standing _ _ _ (.dropped d :: (List.replicate n .closed ++ [.closed]))
    rw [← List.replicate_succ']
    exact .told d (n + 1)
  | closed n =>
    show Standing _ _ _ (List.replicate n .closed ++ [.closed])
    rw [← List.replicate_succ']
    exact .closed (n + 1)

/-- An owner who has disposed the sink closes the stream, unless it has ended. -/
theorem finish {q : Stream} (h : Standing phase q.ending drops errors) (hp : phase ≠ .active) :
    Standing phase (q.finish .closed).ending drops errors := by
  unfold Stream.finish
  cases he : q.ending with
  | none =>
    rw [he] at h
    cases h with
    | listening ht =>
      cases phase with
      | active => exact absurd rfl hp
      | terminated => exact absurd rfl ht
      | disposed => exact .closed 0
  | some e =>
    rw [he] at h
    exact h

end Standing

namespace Stream

/-- What the reader of a sink was given, against the sink and its stream. -/
structure Speaks (i : Nat) (h : List Moment) (read : List Reading) (phase : Phase) (q : Stream) :
    Prop where
  standing : Standing phase q.ending (dropsAt i h) (read.filterMap Reading.error?)
  /-- Once it was given an error, it was given nothing else. -/
  last : ∃ before, read = before ++ (read.filterMap Reading.error?).map fun e => some (.error e)
  /-- No message is held then. -/
  empty : read.filterMap Reading.error? ≠ [] → q.queue = []

namespace Speaks

variable {i : Nat} {h news : List Moment} {read : List Reading} {phase : Phase} {q p : Stream}

/-- No error was read, so whatever was read came before the first. -/
theorem of_silent (hr : read.filterMap Reading.error? = [])
    (hs : Standing phase q.ending (dropsAt i h) []) : q.Speaks i h read phase where
  standing := by
    rw [hr]
    exact hs
  last := ⟨read, by simp [hr]⟩
  empty hne := absurd hr hne

/-- The reader has read no error while the sink is active. -/
theorem silent_of_active (k : q.Speaks i h read .active) :
    q.ending = none ∧ dropsAt i h = [] ∧ read.filterMap Reading.error? = [] :=
  k.standing.of_active

theorem aside (k : q.Speaks i h read phase) (hn : ∀ x ∈ news, x.callAt? i = none) :
    q.Speaks i (h ++ news) read phase where
  standing := by
    rw [dropsAt_append_of_none hn]
    exact k.standing
  last := k.last
  empty := k.empty

/-- A message is given to an active sink only, and so before any error is read. -/
theorem push (k : q.Speaks i h read .active) {x : Moment} {m : Message}
    (hx : x.callAt? i = some (.message m)) : (q.push m).Speaks i (h ++ [x]) read .active := by
  obtain ⟨hopen, hdrops, hread⟩ := k.silent_of_active
  have same : (q.push m).ending = q.ending := by
    unfold Stream.push
    split <;> rfl
  refine .of_silent hread ?_
  rw [same, hopen, dropsAt_concat hx, hdrops]
  exact .listening (by decide)

/-- **The last callback** of an active sink is a drop, which is to be told, or a close. -/
theorem take (k : q.Speaks i h read .active) {x : Moment} {c : Call} (hf : Finale phase c)
    (hx : x.callAt? i = some c) : (q.take c).Speaks i (h ++ [x]) read phase := by
  obtain ⟨hopen, hdrops, hread⟩ := k.silent_of_active
  refine .of_silent hread ?_
  rw [dropsAt_concat hx, hdrops]
  cases hf with
  | dropped d =>
    show Standing _ (q.finish (.dropped d)).ending _ _
    unfold Stream.finish
    rw [hopen]
    exact .dropped d
  | closed =>
    show Standing _ (q.finish .closed).ending _ _
    unfold Stream.finish
    rw [hopen]
    exact .closed 0

theorem dispose (k : q.Speaks i h read .active) : q.Speaks i h read .disposed := by
  obtain ⟨hopen, hdrops, hread⟩ := k.silent_of_active
  refine .of_silent hread ?_
  rw [hopen, hdrops]
  exact .listening (by decide)

/-- **A reading** is a message, or nothing, or the end that the stream has come to. -/
theorem poll (k : q.Speaks i h read phase) :
    q.poll.2.Speaks i h (read ++ [q.poll.1]) phase := by
  rcases q.poll_cases with ⟨m, rest, hq, hpoll⟩ | ⟨hq, he, hpoll⟩ | ⟨e, hq, he, hpoll⟩
  · -- Where a message is held, no error was read.
    have none : read.filterMap Reading.error? = [] := by
      by_contra hne
      rw [k.empty hne] at hq
      cases hq
    have standing := k.standing
    rw [none] at standing
    rw [hpoll]
    exact .of_silent ((Reading.filterMap_error?_concat rfl).trans none) standing
  · have standing := k.standing
    rw [he] at standing
    have none : read.filterMap Reading.error? = [] := standing.of_open
    rw [none] at standing
    rw [hpoll]
    refine .of_silent ((Reading.filterMap_error?_concat rfl).trans none) ?_
    rw [he]
    exact standing
  · have errors : (read ++ [q.poll.1]).filterMap Reading.error? =
        read.filterMap Reading.error? ++ [endingError e] := by
      rw [hpoll, List.filterMap_append]
      rfl
    have standing := k.standing
    rw [he] at standing
    obtain ⟨before, hbefore⟩ := k.last
    constructor
    case standing =>
      rw [errors, hpoll]
      exact standing.poll
    case last =>
      refine ⟨before, ?_⟩
      rw [errors, List.map_append, ← List.append_assoc, ← hbefore, hpoll]
      rfl
    case empty =>
      intro _
      rw [hpoll]
      exact hq

theorem finish (k : q.Speaks i h read phase) (hp : phase ≠ .active) :
    (q.finish .closed).Speaks i h read phase where
  standing := k.standing.finish hp
  last := k.last
  empty := k.empty

end Speaks

end Stream

/-! ## §3. Accounts -/

/-- A last callback comes from a broadcast, a close or a refusal, and shows the sink in the phase
that it has gone to. -/
def Moment.Dismissed (i : Nat) (h : List Moment) (x : Moment) : Prop :=
  ∀ c, x.callAt? i = some c → (∀ m, c ≠ .message m) → ∃ w phase, Dismissal w i c ∧
    Finale phase c ∧ w.shared.history = h ∧
    x.line = some (w.mapSink i fun k => { k with phase }).line

namespace Account

/-- The reader of a subscription was told its end as it should be, and before there is a sink
nobody is told anything. -/
structure Spoken (i : Nat) (a : Account) : Prop where
  unborn : a.sink = none → dropsAt i a.history = [] ∧ a.read.filterMap Reading.error? = []
  stream : ∀ s q, a.sink = some s → s.listener = .stream q →
    q.Speaks i a.history a.read s.phase
  dismissed : Throughout (Moment.Dismissed i) a.history

variable {n i : Nat} {a b : Account}

theorem Spoken.empty (i : Nat) : Spoken i ⟨none, [], []⟩ where
  unborn _ := ⟨rfl, rfl⟩
  stream s q hs := by cases hs
  dismissed := .nil

/-- The last callbacks of a sink are those that something has brought it. -/
theorem Adds.dismissed (h : Adds n i a b) (ha : Throughout (Moment.Dismissed i) a.history) :
    Throughout (Moment.Dismissed i) b.history := by
  cases h with
  | aside hnews =>
    refine ha.append ?_
    intro x hx h₁ c hc
    rw [hnews x hx] at hc
    cases hc
  | message _ hx =>
    refine ha.concat ?_
    intro c hc hlast
    rw [hx] at hc
    cases hc
    exact absurd rfl (hlast _)
  | @last r s x phase c w _ hf hw hx hl =>
    refine ha.concat ?_
    intro c' hc _
    rw [hx] at hc
    cases hc
    exact ⟨w, phase, hw, hf, rfl, hl⟩
  | _ => exact ha

/-- Once there is a sink, its stream is what its reader knows of it. -/
theorem Spoken.of_sink {s : Sink} {h : List Moment} {r : List Reading}
    (hd : Throughout (Moment.Dismissed i) h)
    (hk : ∀ q, s.listener = .stream q → q.Speaks i h r s.phase) : Spoken i ⟨some s, h, r⟩ where
  unborn hs := by cases hs
  stream k q hs hl := by
    cases hs
    exact hk q hl
  dismissed := hd

/-- **Each entry of an account** keeps it so. -/
theorem Adds.spoken (h : Adds n i a b) (ha : a.Spoken i) : b.Spoken i := by
  have dismissed := h.dismissed ha.dismissed
  cases h with
  | aside hnews =>
    refine ⟨?_, fun s q hs hl => (ha.stream s q hs hl).aside hnews, dismissed⟩
    intro hs
    obtain ⟨untold, unread⟩ := ha.unborn hs
    exact ⟨(dropsAt_append_of_none hnews).trans untold, unread⟩
  | @born h r s hactive hnew =>
    refine .of_sink dismissed ?_
    intro q hl
    obtain ⟨untold, unread⟩ := ha.unborn rfl
    rw [hl] at hnew
    rw [show q = .withCapacity n from hnew, hactive]
    refine .of_silent unread ?_
    rw [untold]
    exact .listening (by decide)
  | @message h r s x m hactive hx _ =>
    refine .of_sink dismissed ?_
    intro q hl
    obtain ⟨p, hp, rfl⟩ := Listener.stream_of_next hl
    have spoken := ha.stream s p rfl hp
    show Stream.Speaks i (h ++ [x]) r s.phase _
    rw [hactive] at spoken ⊢
    exact spoken.push hx
  | @last r s x phase c w hactive hf _ hx _ =>
    refine .of_sink dismissed ?_
    intro q hl
    obtain ⟨p, hp, rfl⟩ := Listener.stream_of_next hl
    have spoken := ha.stream s p rfl hp
    rw [hactive] at spoken
    exact spoken.take hf hx
  | @dispose h r s hactive =>
    refine .of_sink dismissed ?_
    intro q hl
    have spoken := ha.stream s q rfl hl
    rw [hactive] at spoken
    exact spoken.dispose
  | @poll h r s p hp =>
    refine .of_sink dismissed ?_
    intro q hl
    cases hl
    exact (ha.stream s p rfl hp).poll
  | @idle s h r hs =>
    refine ⟨?_, ?_, dismissed⟩
    · intro hs
      obtain ⟨untold, unread⟩ := ha.unborn hs
      exact ⟨untold, (Reading.filterMap_error?_concat rfl).trans unread⟩
    · -- A sink with a stream is not one of which nothing can be read.
      intro k q hk hl
      have hk : s = some k := hk
      rw [hk] at hs
      have hq : k.buffer? = none := hs
      rw [Sink.buffer?_eq_some.mpr hl] at hq
      cases hq
  | @finish h r s p hphase hp =>
    refine .of_sink dismissed ?_
    intro q hl
    cases hl
    exact (ha.stream s p rfl hp).finish hphase

/-- A subscription as it is once its sink has left the active phase: the sink keeps its phase and is
told nothing more, and the buffer is only read. -/
def Past (i : Nat) (phase : Phase) (calls : List Call) (queue : List Message) (a : Account) : Prop :=
  callsAt i a.history = calls ∧
    ∃ s q, a.sink = some s ∧ s.listener = .stream q ∧ s.phase = phase ∧ q.queue <:+ queue

theorem Adds.past {phase : Phase} {calls : List Call} {queue : List Message} (h : Adds n i a b)
    (hp : phase ≠ .active) (ha : a.Past i phase calls queue) : b.Past i phase calls queue := by
  obtain ⟨hcalls, s, q, hs, hl, rfl, hq⟩ := ha
  cases h with
  | aside hnews => exact ⟨(callsAt_append_of_none hnews).trans hcalls, s, q, hs, hl, rfl, hq⟩
  | born => cases hs
  | message hactive =>
    cases hs
    exact absurd hactive hp
  | last hactive =>
    cases hs
    exact absurd hactive hp
  | dispose hactive =>
    cases hs
    exact absurd hactive hp
  | @poll h r k p hk =>
    cases hs
    rw [hk] at hl
    cases hl
    refine ⟨hcalls, _, _, rfl, rfl, rfl, ?_⟩
    rcases q.poll_cases with ⟨m, rest, hm, hpoll⟩ | ⟨-, -, hpoll⟩ | ⟨e, -, -, hpoll⟩
    · rw [hpoll]
      rw [hm] at hq
      exact (List.suffix_cons m rest).trans hq
    · rw [hpoll]
      exact hq
    · rw [hpoll]
      exact hq
  | idle => exact ⟨hcalls, s, q, hs, hl, rfl, hq⟩
  | finish _ hk =>
    cases hs
    rw [hk] at hl
    cases hl
    exact ⟨hcalls, _, _, rfl, rfl, rfl, hq⟩

theorem Spoken.speaks {read : List Reading} {w : Desk} (h : (w.account i read).Spoken i) {s : Sink}
    {q : Stream} (hs : w.line.sink? i = some s) (hl : s.listener = .stream q) :
    q.Speaks i w.shared.history read s.phase :=
  h.stream s q hs hl

/-- A drop that was read is the one that terminated the sink, and something has brought it. -/
theorem Spoken.origin {read : List Reading} {w : Desk} (h : (w.account i read).Spoken i) {s : Sink}
    {q : Stream} (hs : w.line.sink? i = some s) (hl : s.listener = .stream q)
    {d : ConnectionDropped} (hd : some (.error (.dropped d)) ∈ read) :
    s.phase = .terminated ∧ dropsAt i w.shared.history = [d] ∧
      ∃ h₁ x h₂ u, w.shared.history = h₁ ++ x :: h₂ ∧ x.callAt? i = some (.error d) ∧
        Dismissal u i (.error d) ∧ u.shared.history = h₁ ∧
        x.line = some (u.mapSink i fun k => { k with phase := .terminated }).line := by
  have read : RecvError.dropped d ∈ read.filterMap Reading.error? :=
    List.mem_filterMap.mpr ⟨_, hd, rfl⟩
  obtain ⟨hphase, hdrops⟩ := (h.speaks hs hl).standing.of_mem read
  refine ⟨hphase, hdrops, ?_⟩
  obtain ⟨h₁, x, h₂, hh, hx⟩ := mem_dropsAt (i := i) (h := w.shared.history) (d := d)
    (by rw [hdrops]; exact List.mem_singleton_self d)
  have told : h₁ ++ [x] <+: w.shared.history := ⟨h₂, by rw [hh, List.append_assoc]; rfl⟩
  obtain ⟨u, phase, hu, hf, hhistory, hline⟩ :=
    h.dismissed h₁ x told (.error d) hx fun m hm => by cases hm
  cases hf
  exact ⟨h₁, x, h₂, u, hh, hx, hu, hhistory, hline⟩

end Account

/-! ## §4. Every run -/

/-- A reader that does not wait is given what its stream has to say. -/
theorem Desk.Holds.receive {c : ConnectionId} {w : Desk} (h : w.Holds c) {i : Nat} {s : Sink}
    {q : Stream} (hs : w.sink? i = some s) (hl : s.listener = .stream q) {name : String}
    (hn : w.idle name = .ok ⟨c, i⟩) : (w.receive name).1 = .ok q.poll.1 := by
  unfold Desk.receive
  rw [hn]
  show Except.ok (w.poll ⟨c, i⟩).1 = _
  unfold poll
  rw [h.bufferAt?_of_stream hs hl]

/-- A reader that waits is given the same when it looks again. -/
theorem Desk.Holds.pollReceive {c : ConnectionId} {w : Desk} (h : w.Holds c) {i : Nat} {s : Sink}
    {q : Stream} (hs : w.sink? i = some s) (hl : s.listener = .stream q) {name : String}
    (hn : w.waiting name = .ok ⟨c, i⟩) : (w.pollReceive name).1 = .ok q.poll.1 := by
  have read : (w.poll ⟨c, i⟩).1 = q.poll.1 := by
    unfold poll
    rw [h.bufferAt?_of_stream hs hl]
  unfold Desk.pollReceive
  rw [hn]
  dsimp only
  split
  case h_1 hv =>
    rw [hv] at read
    exact congrArg Except.ok read
  case h_2 hv =>
    rw [hv] at read
    exact congrArg Except.ok read

namespace Request

/-- **The grammar of a stream.**  On every run of requests from the first configuration of a line
on, with all that callbacks set off: a reader is given an error only when the buffer is empty, and
nothing but errors from then on; the first error may be a drop, and every other says that the stream
is closed.  A drop that was read is the one that terminated the sink, and it is that of the
broadcast which came to the sink then, or was on record when the sink was refused.  A sink that has
left its active phase keeps its phase and is given nothing more, whatever is asked for later.  So a
drop that the sink was told of stays the first error, though the subscription is disposed or the
multiplexer closed before it is read, and no drop is read of a sink that was disposed or closed
before. -/
theorem grammar_serveAll (w : Desk) (config : ConnectionConfig) (capacity : Nat)
    (hfirst : ∀ l ∈ w.before, l.id ≠ config.id) (rs : List Request) (i : Nat) :
    let v := serveAll rs (w.opening config capacity)
    let read := readingsAll ⟨config.id, i⟩ rs (w.opening config capacity)
    ∀ s q, v.line.sink? i = some s → s.listener = .stream q →
      q.Speaks i v.shared.history read s.phase ∧
      (∀ name, v.idle name = .ok ⟨config.id, i⟩ → (v.receive name).1 = .ok q.poll.1) ∧
      (∀ d, some (.error (.dropped d)) ∈ read →
        s.phase = .terminated ∧ dropsAt i v.shared.history = [d] ∧
          ∃ h₁ x h₂ u, v.shared.history = h₁ ++ x :: h₂ ∧ x.callAt? i = some (.error d) ∧
            Dismissal u i (.error d) ∧ u.shared.history = h₁ ∧
            x.line = some (u.mapSink i fun k => { k with phase := .terminated }).line) ∧
      (s.phase ≠ .active → ∀ later,
        let u := serveAll later v
        let errors := (read ++ readingsAll ⟨config.id, i⟩ later v).filterMap Reading.error?
        callsAt i u.shared.history = callsAt i v.shared.history ∧
        (∃ s' q', u.line.sink? i = some s' ∧ s'.listener = .stream q' ∧ s'.phase = s.phase ∧
          q'.queue <:+ q.queue ∧
          q'.Speaks i u.shared.history (read ++ readingsAll ⟨config.id, i⟩ later v) s.phase) ∧
        (∀ d ∈ dropsAt i v.shared.history,
          errors = [] ∨ ∃ n, errors = .dropped d :: List.replicate n .closed) ∧
        (s.phase = .disposed → ∃ n, errors = List.replicate n .closed)) := by
  intro v read s q hs hl
  have own : (w.opening config capacity).Holds config.id := ⟨hfirst, rfl⟩
  have held : v.Holds config.id := holds_serveAll own rs
  have spoken : (v.account i read).Spoken i :=
    (account_opening hfirst capacity rs i).keeps Account.Adds.spoken (.empty i)
  refine ⟨spoken.speaks hs hl, fun name hn => held.receive hs hl hn,
    fun d hd => spoken.origin hs hl hd, ?_⟩
  intro hp later u errors
  have grown : Account.Grows v.line.mux.capacity i (v.account i read)
      (u.account i (read ++ readingsAll ⟨config.id, i⟩ later v)) := account_serveAll held later
  have now : (v.account i read).Past i s.phase (callsAt i v.shared.history) q.queue :=
    ⟨rfl, s, q, hs, hl, rfl, List.suffix_rfl⟩
  obtain ⟨hcalls, s', q', hs', hl', hp', hq'⟩ :=
    grown.keeps (fun step => Account.Adds.past step hp) now
  have hcalls : callsAt i u.shared.history = callsAt i v.shared.history := hcalls
  have speaks : q'.Speaks i u.shared.history (read ++ readingsAll ⟨config.id, i⟩ later v)
      s.phase := by
    rw [← hp']
    exact (grown.keeps Account.Adds.spoken spoken).speaks hs' hl'
  refine ⟨hcalls, ⟨s', q', hs', hl', hp', hq', speaks⟩, ?_, ?_⟩
  · intro d hd
    refine speaks.standing.errors_of_mem ?_
    unfold dropsAt at hd ⊢
    rw [hcalls]
    exact hd
  · intro hd
    have standing := speaks.standing
    rw [hd] at standing
    exact standing.errors_of_disposed

/-- A drop comes while a report is buffered, and a second subscription is refused with it.  The first
is disposed and the multiplexer closed before anything is read; then its reader gets the report, the
drop and a close, and the reader of the second gets the drop. -/
theorem grammar_serveAll_drop_before_close :
    let config : ConnectionConfig :=
      ⟨"venue", .plain "FIX.4.4" "A" "B", .dialingSingleThreaded, none⟩
    let w : Desk := { Desk.ofLine (.ofConfig config 4) ⟨[], 0⟩ with
      before := [.plain (.plain "FIX.4.4" "A" "C") 1] }
    let report : Message := .empty .executionReport
    let drop : ConnectionDropped := ⟨config.id, .disconnect, none⟩
    let rs : List Request :=
      [.operation (.subscribe "first" .always), .operation (.dispatch report),
        .operation (.broadcast drop), .operation (.subscribe "second" .always),
        .disposeSubscription "first", .operation .close, .drain "first", .receive "first",
        .receive "second"]
    let v := serveAll rs (w.opening config 4)
    let read := readingsAll ⟨config.id, 0⟩ rs (w.opening config 4)
    (∀ l ∈ w.before, l.id ≠ config.id) ∧
    read = [some (.ok report), some (.error (.dropped drop)), some (.error .closed)] ∧
    readingsAll ⟨config.id, 1⟩ rs (w.opening config 4) = [some (.error (.dropped drop))] ∧
    ∃ s q, v.line.sink? 0 = some s ∧ s.listener = .stream q ∧ s.phase = .terminated ∧
      q.Speaks 0 v.shared.history read s.phase := by
  intro config w report drop rs v read
  have hfirst : ∀ l ∈ w.before, l.id ≠ config.id := by decide
  have given : read = [some (.ok report), some (.error (.dropped drop)), some (.error .closed)] := by
    decide
  have buffer : (v.line.sink? 0).bind Sink.buffer? = some ⟨4, [], some .closed, 0⟩ := by decide
  obtain ⟨s, hs, hb⟩ := Option.bind_eq_some_iff.mp buffer
  have hl : s.listener = .stream ⟨4, [], some .closed, 0⟩ := Sink.buffer?_eq_some.mp hb
  obtain ⟨speaks, -, origin, -⟩ := grammar_serveAll w config 4 hfirst rs 0 s _ hs hl
  have dropped : some (.error (.dropped drop)) ∈ read := by
    rw [given]
    exact List.mem_cons_of_mem _ List.mem_cons_self
  exact ⟨hfirst, given, by decide, s, _, hs, hl, (origin drop dropped).1, speaks⟩

end Request

end Correlator
