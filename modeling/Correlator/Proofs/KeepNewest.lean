/-
  Correlator.Proofs.KeepNewest — NOTHING IS LOST UNNOTICED.

  A stream holds as many messages as its capacity allows.  When it is full, the
  next message costs it the oldest one, and the loss is counted.  So a reader
  that falls behind gets what it gets in order, finds the newest messages when
  it comes back, and learns how many it has missed: each message that the sink
  was given has been read, or lies in the buffer, or was discarded by a delivery
  that found the buffer full.

  Main results:
    * `Moment.discarded?` — what a delivery costs a full stream,
    * `Stream.KeepsNewest` — a buffer, against what was given and what was read,
    * `Account.Adds.kept` — each entry of an account,
    * `Request.keepsNewest_serveAll` — every run of requests.
-/
import Correlator.Proofs.Readings
namespace Correlator

/-! ## §1. Deliveries -/

namespace Moment

/-- The buffer of the subscription at a place, as a moment shows it. -/
def buffer? (i : Nat) (x : Moment) : Option Stream := (x.sink? i).bind Sink.buffer?

/-- The message that a delivery costs a stream of the capacity: the oldest one that it holds, if it
is full. -/
def discarded? (capacity i : Nat) (x : Moment) : Option Message :=
  match x.callAt? i, x.buffer? i with
  | some (.message _), some q => if q.queue.length = capacity then q.queue.head? else none
  | _, _ => none

end Moment

namespace History

/-- The messages that deliveries have cost the stream at a place, in order. -/
def discardedAt (capacity i : Nat) (h : List Moment) : List Message :=
  h.filterMap (Moment.discarded? capacity i)

variable {capacity i : Nat} {h news : List Moment}

/-- Moments that deliver nothing add no message. -/
theorem messagesAt_append_of_silent
    (hn : ∀ x ∈ news, ∀ m, x.callAt? i ≠ some (.message m)) :
    messagesAt i (h ++ news) = messagesAt i h := by
  have none : messagesAt i news = [] := by
    unfold messagesAt callsAt
    rw [List.filterMap_filterMap, List.filterMap_eq_nil_iff]
    intro x hx
    cases hc : x.callAt? i with
    | none => rfl
    | some c =>
      cases c with
      | message m => exact absurd hc (hn x hx m)
      | _ => rfl
  unfold messagesAt callsAt at none ⊢
  rw [List.filterMap_append, List.filterMap_append, none, List.append_nil]

/-- Nor do they cost one. -/
theorem discardedAt_append_of_silent
    (hn : ∀ x ∈ news, ∀ m, x.callAt? i ≠ some (.message m)) :
    discardedAt capacity i (h ++ news) = discardedAt capacity i h := by
  have none : news.filterMap (Moment.discarded? capacity i) = [] := by
    rw [List.filterMap_eq_nil_iff]
    intro x hx
    unfold Moment.discarded?
    split
    case h_1 m _ hc _ => exact absurd hc (hn x hx m)
    case h_2 => rfl
  unfold discardedAt
  rw [List.filterMap_append, none, List.append_nil]

theorem messagesAt_concat {x : Moment} {m : Message} (hx : x.callAt? i = some (.message m)) :
    messagesAt i (h ++ [x]) = messagesAt i h ++ [m] := by
  unfold messagesAt callsAt
  simp [hx, Call.message?]

theorem discardedAt_concat (x : Moment) : discardedAt capacity i (h ++ [x]) =
    discardedAt capacity i h ++ (x.discarded? capacity i).toList := by
  unfold discardedAt
  rw [List.filterMap_append]
  cases hd : x.discarded? capacity i <;> simp [hd]

end History

open History

/-! ## §2. Buffers -/

/-- A delivery finds the newest of the messages that were given before it, and the count of those
that were lost. -/
def Moment.FindsNewest (capacity i : Nat) (h : List Moment) (x : Moment) : Prop :=
  ∀ m, x.callAt? i = some (.message m) → ∃ p, x.buffer? i = some p ∧
    p.queue.length ≤ capacity ∧ p.queue <:+ messagesAt i h ∧
    p.overwritten = (discardedAt capacity i h).length

namespace Stream

/-- The buffer of a sink, against the messages that the sink was given and those that were read. -/
structure KeepsNewest (capacity i : Nat) (h : List Moment) (read : List Reading) (q : Stream) :
    Prop where
  sized : q.capacity = capacity
  /-- It holds no more than its capacity. -/
  bounded : q.queue.length ≤ capacity
  /-- It holds the newest messages. -/
  newest : q.queue <:+ messagesAt i h
  /-- What was read and what is held come in the order in which they were given, each once. -/
  ordered : (read.filterMap Reading.message? ++ q.queue).Sublist (messagesAt i h)
  /-- Each message was read, was discarded by a delivery that found the buffer full, or is held. -/
  complete : (read.filterMap Reading.message? ++ discardedAt capacity i h ++ q.queue).Perm
    (messagesAt i h)
  /-- The messages that were discarded are counted, and no others. -/
  counted : q.overwritten = (discardedAt capacity i h).length
  /-- So it was at every delivery. -/
  throughout : Throughout (Moment.FindsNewest capacity i) h

/-- A message is added to what is left, which is everything but the oldest message of a full
stream. -/
theorem push_eq {q : Stream} (m : Message) (hb : q.queue.length ≤ q.capacity)
    (hc : 0 < q.capacity) : ∃ gone rest, q.queue = gone ++ rest ∧ rest.length < q.capacity ∧
      gone = (if q.queue.length = q.capacity then q.queue.head? else none).toList ∧
      q.push m = { q with queue := rest ++ [m], overwritten := q.overwritten + gone.length } := by
  by_cases hfull : q.queue.length = q.capacity
  case pos =>
    have full : q.isFull = true := decide_eq_true (Nat.le_of_eq hfull.symm)
    cases hq : q.queue with
    | nil =>
      rw [hq] at hfull
      exact absurd hfull (Nat.ne_of_lt hc)
    | cons oldest rest =>
      refine ⟨[oldest], rest, rfl, ?_, ?_, ?_⟩
      · rw [← hfull, hq]
        exact Nat.lt_succ_self _
      · rw [← hq, if_pos hfull, hq]
        rfl
      · unfold push
        rw [if_pos full, hq]
        rfl
  case neg =>
    have room : q.queue.length < q.capacity := Nat.lt_of_le_of_ne hb hfull
    have notFull : q.isFull = false := decide_eq_false (Nat.not_le_of_lt room)
    refine ⟨[], q.queue, rfl, room, by rw [if_neg hfull]; rfl, ?_⟩
    unfold push
    rw [notFull]
    rfl

namespace KeepsNewest

variable {n i : Nat} {h news : List Moment} {read : List Reading} {q p : Stream}

/-- A stream with the same messages, whose reader has got no other. -/
theorem of_queue (k : q.KeepsNewest n i h read) {read' : List Reading}
    (hq : p.queue = q.queue) (hc : p.capacity = q.capacity) (ho : p.overwritten = q.overwritten)
    (hr : read'.filterMap Reading.message? = read.filterMap Reading.message?) :
    p.KeepsNewest n i h read' where
  sized := hc.trans k.sized
  bounded := by
    rw [hq]
    exact k.bounded
  newest := by
    rw [hq]
    exact k.newest
  ordered := by
    rw [hq, hr]
    exact k.ordered
  complete := by
    rw [hq, hr]
    exact k.complete
  counted := ho.trans k.counted
  throughout := k.throughout

/-- A new stream, at which nothing has been delivered. -/
theorem new (hn : 0 < n) (hh : ∀ x ∈ h, ∀ m, x.callAt? i ≠ some (.message m))
    (hr : read.filterMap Reading.message? = []) :
    (Stream.withCapacity n).KeepsNewest n i h read := by
  have given : messagesAt i h = [] := messagesAt_append_of_silent (h := []) hh
  have lost : discardedAt n i h = [] := discardedAt_append_of_silent (h := []) hh
  constructor
  case sized => exact Nat.max_eq_left hn
  case bounded => exact Nat.zero_le n
  case newest => exact List.nil_suffix
  case ordered =>
    rw [hr]
    exact List.nil_sublist _
  case complete =>
    rw [hr, lost, given]
    exact .nil
  case counted =>
    rw [lost]
    rfl
  case throughout => exact Throughout.nil.append fun x hx _ m hc => absurd hc (hh x hx m)

/-- Something happens that delivers nothing. -/
theorem aside (k : q.KeepsNewest n i h read)
    (hn : ∀ x ∈ news, ∀ m, x.callAt? i ≠ some (.message m)) :
    q.KeepsNewest n i (h ++ news) read where
  sized := k.sized
  bounded := k.bounded
  newest := by
    rw [messagesAt_append_of_silent hn]
    exact k.newest
  ordered := by
    rw [messagesAt_append_of_silent hn]
    exact k.ordered
  complete := by
    rw [messagesAt_append_of_silent hn, discardedAt_append_of_silent hn]
    exact k.complete
  counted := by
    rw [discardedAt_append_of_silent hn]
    exact k.counted
  throughout := k.throughout.append fun x hx _ m hc => absurd hc (hn x hx m)

/-- **A delivery** costs a full stream its oldest message, and another one none. -/
theorem push (k : q.KeepsNewest n i h read) (hn : 0 < n) {x : Moment} {m : Message}
    (hx : x.callAt? i = some (.message m)) (hb : x.buffer? i = some q) :
    (q.push m).KeepsNewest n i (h ++ [x]) read := by
  have found : Throughout (Moment.FindsNewest n i) (h ++ [x]) :=
    k.throughout.concat fun m _ => ⟨q, hb, k.bounded, k.newest, k.counted⟩
  have bound : q.queue.length ≤ q.capacity := by
    rw [k.sized]
    exact k.bounded
  have positive : 0 < q.capacity := by
    rw [k.sized]
    exact hn
  obtain ⟨gone, rest, hq, hroom, hgone, hpush⟩ := push_eq m bound positive
  have lost : discardedAt n i (h ++ [x]) = discardedAt n i h ++ gone := by
    rw [discardedAt_concat, Moment.discarded?, hx, hb, hgone, k.sized]
  have newest := k.newest
  have ordered := k.ordered
  have complete := k.complete
  rw [hq] at newest ordered complete
  rw [hpush]
  constructor
  case sized => exact k.sized
  case bounded =>
    show (rest ++ [m]).length ≤ n
    rw [List.length_append, List.length_singleton, ← k.sized]
    exact hroom
  case newest =>
    rw [messagesAt_concat hx]
    exact List.suffix_append_self_iff.mpr ((List.suffix_append gone rest).trans newest)
  case ordered =>
    rw [messagesAt_concat hx, ← List.append_assoc]
    have shorter := (List.sublist_append_right gone rest).append_left
      (read.filterMap Reading.message?)
    exact (shorter.trans ordered).append_right [m]
  case complete =>
    -- What is gone from the buffer is with those that were discarded.
    rw [messagesAt_concat hx, lost]
    have moved : read.filterMap Reading.message? ++ (discardedAt n i h ++ gone) ++ (rest ++ [m]) =
        (read.filterMap Reading.message? ++ discardedAt n i h ++ (gone ++ rest)) ++ [m] := by
      simp only [List.append_assoc]
    show List.Perm (_ ++ _ ++ (rest ++ [m])) _
    rw [moved]
    exact complete.append_right [m]
  case counted =>
    rw [lost, List.length_append, ← k.counted]
  case throughout => exact found

/-- **A reading** takes the oldest message from the buffer, if there is one. -/
theorem poll (k : q.KeepsNewest n i h read) :
    q.poll.2.KeepsNewest n i h (read ++ [q.poll.1]) := by
  rcases q.poll_cases with ⟨m, rest, hq, hpoll⟩ | ⟨hq, he, hpoll⟩ | ⟨e, hq, he, hpoll⟩
  · have received : (read ++ [(some (.ok m) : Reading)]).filterMap Reading.message? =
        read.filterMap Reading.message? ++ [m] := by
      rw [List.filterMap_append]
      rfl
    have bounded := k.bounded
    have newest := k.newest
    have ordered := k.ordered
    have complete := k.complete
    rw [hq] at bounded newest ordered complete
    rw [hpoll]
    constructor
    case sized => exact k.sized
    case bounded => exact Nat.le_of_succ_le bounded
    case newest => exact (List.suffix_cons m rest).trans newest
    case ordered =>
      rw [received, List.append_assoc]
      exact ordered
    case complete =>
      -- The message goes from the buffer to those that were read.
      have moved : (read.filterMap Reading.message? ++ (m :: (discardedAt n i h ++ rest))).Perm
          (read.filterMap Reading.message? ++ (discardedAt n i h ++ m :: rest)) :=
        List.perm_middle.symm.append_left _
      rw [List.append_assoc] at complete
      rw [received, List.append_assoc, List.append_assoc]
      exact moved.trans complete
    case counted => exact k.counted
    case throughout => exact k.throughout
  · rw [hpoll]
    exact k.of_queue rfl rfl rfl (Reading.filterMap_message?_concat rfl)
  · rw [hpoll]
    exact k.of_queue rfl rfl rfl (Reading.filterMap_message?_concat rfl)

/-- Each message that was given was read, is held, or is counted as lost. -/
theorem conserved (k : q.KeepsNewest n i h read) :
    (read.filterMap Reading.message?).length + q.queue.length + q.overwritten =
      (messagesAt i h).length := by
  have total := k.complete.length_eq
  rw [List.length_append, List.length_append, ← k.counted] at total
  omega

end KeepsNewest

end Stream

/-! ## §3. Accounts -/

namespace Account

/-- The stream of a subscription keeps the newest messages, and before there is a sink nothing is
delivered or read. -/
structure Kept (capacity i : Nat) (a : Account) : Prop where
  unborn : a.sink = none → (∀ x ∈ a.history, ∀ m, x.callAt? i ≠ some (.message m)) ∧
    a.read.filterMap Reading.message? = []
  stream : ∀ s q, a.sink = some s → s.listener = .stream q →
    q.KeepsNewest capacity i a.history a.read

theorem Kept.empty (capacity i : Nat) : Kept capacity i ⟨none, [], []⟩ where
  unborn _ := ⟨fun x hx => absurd hx List.not_mem_nil, rfl⟩
  stream s q hs := by cases hs

theorem Kept.buffer {capacity i : Nat} {read : List Reading} {w : Desk}
    (h : (w.account i read).Kept capacity i) {s : Sink} {q : Stream} (hs : w.line.sink? i = some s)
    (hl : s.listener = .stream q) : q.KeepsNewest capacity i w.shared.history read :=
  h.stream s q hs hl

/-- Once there is a sink, its stream is all that matters. -/
theorem Kept.of_sink {n i : Nat} {s : Sink} {h : List Moment} {r : List Reading}
    (hk : ∀ q, s.listener = .stream q → q.KeepsNewest n i h r) : Kept n i ⟨some s, h, r⟩ where
  unborn hs := by cases hs
  stream k q hs hl := by
    cases hs
    exact hk q hl

/-- **Each entry of an account** keeps it so. -/
theorem Adds.kept {n i : Nat} {a b : Account} (hn : 0 < n) (h : Adds n i a b)
    (ha : a.Kept n i) : b.Kept n i := by
  cases h with
  | @aside s h r news hnews =>
    have silent : ∀ x ∈ news, ∀ m, x.callAt? i ≠ some (.message m) := by
      intro x hx m hc
      rw [hnews x hx] at hc
      cases hc
    constructor
    case unborn =>
      intro hs
      obtain ⟨quiet, unread⟩ := ha.unborn hs
      refine ⟨?_, unread⟩
      intro x hx
      exact (List.mem_append.mp hx).elim (quiet x) (silent x)
    case stream => exact fun s q hs hl => (ha.stream s q hs hl).aside silent
  | born _ hnew =>
    refine .of_sink ?_
    intro q hl
    obtain ⟨quiet, unread⟩ := ha.unborn rfl
    rw [hl] at hnew
    rw [show q = .withCapacity n from hnew]
    exact .new hn quiet unread
  | @message h r s x m _ hx hs =>
    refine .of_sink ?_
    intro q hl
    obtain ⟨p, hp, rfl⟩ := Listener.stream_of_next hl
    -- The moment of a callback shows the buffer as the delivery finds it.
    have shown : x.buffer? i = some p := by
      unfold Moment.buffer?
      rw [hs]
      exact Sink.buffer?_eq_some.mpr hp
    exact (ha.stream s p rfl hp).push hn hx shown
  | @last r s x phase c w _ hf _ hx _ =>
    have silent : ∀ y ∈ [x], ∀ m, y.callAt? i ≠ some (.message m) := by
      intro y hy m hc
      rw [List.mem_singleton.mp hy, hx] at hc
      cases hf <;> cases hc
    refine .of_sink ?_
    intro q hl
    obtain ⟨p, hp, rfl⟩ := Listener.stream_of_next hl
    have kept : p.KeepsNewest n i (w.shared.history ++ [x]) r := (ha.stream s p rfl hp).aside silent
    cases hf <;> exact kept.of_queue rfl rfl rfl rfl
  | @dispose h r s _ => exact .of_sink fun q hl => ha.stream s q rfl hl
  | @poll h r s p hp =>
    refine .of_sink ?_
    intro q hl
    cases hl
    exact (ha.stream s p rfl hp).poll
  | @idle s h r hs =>
    have same : (r ++ [none]).filterMap Reading.message? = r.filterMap Reading.message? :=
      Reading.filterMap_message?_concat rfl
    constructor
    case unborn =>
      intro hs
      obtain ⟨quiet, unread⟩ := ha.unborn hs
      exact ⟨quiet, same.trans unread⟩
    case stream => exact fun s q hs hl => (ha.stream s q hs hl).of_queue rfl rfl rfl same
  | @finish h r s p _ hp =>
    refine .of_sink ?_
    intro q hl
    cases hl
    exact (ha.stream s p rfl hp).of_queue rfl rfl rfl rfl

end Account

/-! ## §4. Every run -/

/-- A reader that is asked how many messages were lost says what its stream has counted. -/
theorem Desk.Holds.overwritten {c : ConnectionId} {w : Desk} (h : w.Holds c) {i : Nat} {s : Sink}
    {q : Stream} (hs : w.sink? i = some s) (hl : s.listener = .stream q) {name : String}
    (hn : w.idle name = .ok ⟨c, i⟩) : w.overwritten name = .ok q.overwritten := by
  unfold Desk.overwritten
  rw [hn]
  show Except.ok (((w.bufferAt? ⟨c, i⟩).map Stream.overwritten).getD 0) = _
  rw [h.bufferAt?_of_stream hs hl]
  rfl

namespace Request

/-- **Keep-newest delivery loses nothing unnoticed.**  For every capacity, on every run of requests
from the first configuration of a line on, with all that callbacks set off, a subscription's buffer
holds the newest of the messages that its sink was given, and no more than the capacity allows, or
one.  What its reader has got and what the buffer holds come in the order in which they were given,
each once.  Every message was read, is held, or was the oldest one in the buffer when a delivery
found it full, and those of the last kind are what the subscription counts. -/
theorem keepsNewest_serveAll (w : Desk) (config : ConnectionConfig) (capacity : Nat)
    (hfirst : ∀ l ∈ w.before, l.id ≠ config.id) (rs : List Request) (i : Nat) :
    let v := serveAll rs (w.opening config capacity)
    let read := readingsAll ⟨config.id, i⟩ rs (w.opening config capacity)
    ∀ s q, v.line.sink? i = some s → s.listener = .stream q →
      q.KeepsNewest (max capacity 1) i v.shared.history read ∧
      (read.filterMap Reading.message?).length + q.queue.length + q.overwritten =
        (messagesAt i v.shared.history).length ∧
      ∀ name, v.idle name = .ok ⟨config.id, i⟩ → v.overwritten name = .ok q.overwritten := by
  intro v read s q hs hl
  have positive : 0 < max capacity 1 := Nat.lt_of_lt_of_le Nat.zero_lt_one (Nat.le_max_right _ _)
  have kept : (v.account i read).Kept (max capacity 1) i :=
    (account_opening hfirst capacity rs i).keeps (Account.Adds.kept positive) (.empty _ i)
  have buffer : q.KeepsNewest (max capacity 1) i v.shared.history read := kept.buffer hs hl
  have own : (w.opening config capacity).Holds config.id := ⟨hfirst, rfl⟩
  have held : v.Holds config.id := holds_serveAll own rs
  exact ⟨buffer, buffer.conserved, fun name hn => held.overwritten hs hl hn⟩

/-- A multiplexer of no capacity holds one message.  Its reader gets the first of four, misses the
second, which the third finds there, and drains the third before the fourth comes in. -/
theorem keepsNewest_serveAll_slow_reader :
    let config : ConnectionConfig :=
      ⟨"venue", .plain "FIX.4.4" "A" "B", .dialingSingleThreaded, none⟩
    let w : Desk := { Desk.ofLine (.ofConfig config 0) ⟨[], 0⟩ with
      before := [.plain (.plain "FIX.4.4" "A" "C") 1] }
    let first : Message := .empty .executionReport
    let second : Message := .empty .reject
    let third : Message := .empty .businessMessageReject
    let rs : List Request :=
      [.operation (.subscribe "reports" .always), .operation (.dispatch first), .receive "reports",
        .operation (.dispatch second), .operation (.dispatch third), .drain "reports",
        .operation (.dispatch first)]
    let v := serveAll rs (w.opening config 0)
    let read := readingsAll ⟨config.id, 0⟩ rs (w.opening config 0)
    (∀ l ∈ w.before, l.id ≠ config.id) ∧
    read = [some (.ok first), some (.ok third), none] ∧
    messagesAt 0 v.shared.history = [first, second, third, first] ∧
    ∃ s q, v.line.sink? 0 = some s ∧ s.listener = .stream q ∧ q.queue = [first] ∧
      q.overwritten = 1 ∧ q.KeepsNewest 1 0 v.shared.history read := by
  intro config w first second third rs v read
  have hfirst : ∀ l ∈ w.before, l.id ≠ config.id := by decide
  have buffer : (v.line.sink? 0).bind Sink.buffer? = some ⟨1, [first], none, 1⟩ := by decide
  obtain ⟨s, hs, hb⟩ := Option.bind_eq_some_iff.mp buffer
  have hl : s.listener = .stream ⟨1, [first], none, 1⟩ := Sink.buffer?_eq_some.mp hb
  refine ⟨hfirst, by decide, by decide, s, _, hs, hl, rfl, rfl, ?_⟩
  exact (keepsNewest_serveAll w config 0 hfirst rs 0 s _ hs hl).1

end Request

end Correlator
