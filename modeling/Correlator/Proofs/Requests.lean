/-
  Correlator.Proofs.Requests — WHAT CALLERS ASK FOR.

  Operations change a line; subscriptions are read, ended and given up by
  their names.  A caller asks for either, and each request comes to one of a
  few dealings with the desk: a course, or something beside it that touches a
  name, a stream or the life of the multiplexer.  What has to hold of every
  run of requests is shown for the dealings.

  A stream ends by a callback or by its owner.  Results about readers that
  wait depend on which of them happens, so dealings are told for owners that
  end their subscriptions and for owners that do not.

  Main content:
    * `Request`, `Request.serveAll` — requests, one after the other,
    * `Stream.Reads` — what reading does to a stream,
    * `Dealing` — what a request comes to,
    * `Request.dealing_serveAll` — every run.
-/
import Correlator.Desk.Reading
import Correlator.Proofs.Path
namespace Correlator

/-! ## §1. What callers ask for -/

/-- A request of a caller: an operation, or the use of a subscription by its name. -/
inductive Request where
  | operation (op : Operation)
  | disposeByMultiplexer (handle : Handle)
  | releaseMultiplexer
  | receive (name : String)
  | receiveWithin (name : String) (limit : Duration)
  | beginReceive (name : String)
  | pollReceive (name : String)
  | drain (name : String)
  | disposeSubscription (name : String)
  | giveUpSubscription (name : String)

namespace Request

/-- The owner of a subscription ends it. -/
def isEnding : Request → Bool
  | disposeSubscription _ => true
  | _ => false

/-- The desk once a request has been served. -/
def serve : Request → Desk → Desk
  | operation op, w => (op.exec w).2
  | disposeByMultiplexer handle, w => (w.disposeByMultiplexer handle).2
  | releaseMultiplexer, w => w.releaseMultiplexer.2
  | receive name, w => (w.receive name).2
  | receiveWithin name limit, w => (w.receiveWithin name limit).2
  | beginReceive name, w => (w.beginReceive name).2
  | pollReceive name, w => (w.pollReceive name).2
  | drain name, w => (w.drain name).2
  | disposeSubscription name, w => (w.disposeSubscription name).2
  | giveUpSubscription name, w => (w.giveUpSubscription name).2

/-- Requests are served one after the other. -/
def serveAll (rs : List Request) (w : Desk) : Desk := rs.foldl (fun w r => r.serve w) w

end Request

/-! ## §2. Reading -/

/-- What reading does to a stream: an end that is told stays one, and where nothing is to be read
nothing changes. -/
structure Stream.Reads (f : Stream → Stream) : Prop where
  ended : ∀ q, (f q).ending = none → q.ending = none
  silent : ∀ q, q.queue = [] → q.ending = none → f q = q

theorem Stream.reads_poll : Stream.Reads fun q => q.poll.2 where
  ended q h := by
    unfold poll at h
    split at h
    · exact h
    · split at h
      · assumption
      · cases h
  silent q hq he := by
    unfold poll
    rw [hq, he]

theorem Stream.reads_drain : Stream.Reads fun q => q.drain.2 where
  ended q h := by
    -- Draining polls as often as there are messages, and once more for the end.
    unfold drain at h
    generalize q.queue.length = n at h
    induction n generalizing q with
    | zero => exact reads_poll.ended q h
    | succ n ih =>
      unfold drainFor at h
      split at h
      case h_1 m s hs =>
        have hpoll := congrArg Prod.snd hs
        exact reads_poll.ended q (hpoll ▸ ih s h)
      case h_2 last s _ hs =>
        have hpoll := congrArg Prod.snd hs
        exact reads_poll.ended q (hpoll ▸ h)
  silent q hq he := by
    unfold drain
    rw [hq]
    exact reads_poll.silent q hq he

theorem Desk.line_mapSinkAt (s : SinkRef) (f : Sink → Sink) (w : Desk) :
    (w.mapSinkAt s f).line =
      if w.line.id = s.connection then w.line.mapMux fun x => x.mapSink s.place f else w.line := by
  unfold mapSinkAt
  split <;> rfl

theorem Desk.shared_mapSinkAt (s : SinkRef) (f : Sink → Sink) (w : Desk) :
    (w.mapSinkAt s f).shared = w.shared := by
  unfold mapSinkAt
  split <;> rfl

/-! ## §3. Dealings -/

/-- What serving a request comes to: a course, a change of the names, the end of the multiplexer,
reading from a stream, or, if owners end subscriptions, the end of a stream. -/
inductive Dealing (owners : Bool) : Desk → Desk → Prop
  | refl (w : Desk) : Dealing owners w w
  | trans {u w v : Desk} (h : Dealing owners u w) (k : Dealing owners w v) : Dealing owners u v
  | operate {w v : Desk} (h : Course (fun _ => True) ⟨w, []⟩ ⟨v, []⟩) : Dealing owners w v
  | enter {w : Desk} (names : Directory) : Dealing owners w (w.mapShared fun s => { s with names })
  | release {w : Desk} : Dealing owners w (w.mapMux fun x => { x with released := true })
  | read {w : Desk} (s : SinkRef) {f : Stream → Stream} (hf : Stream.Reads f) :
      Dealing owners w (w.mapSinkAt s fun k => k.mapBuffer f)
  | finish {w : Desk} (s : SinkRef) (h : owners = true) :
      Dealing owners w (w.mapSinkAt s fun k => k.mapBuffer (Stream.finish .closed))

namespace Dealing

variable {owners : Bool} {w v : Desk}

theorem poll (s : SinkRef) (w : Desk) : Dealing owners w (w.poll s).2 := by
  unfold Desk.poll
  split
  · exact .refl w
  · exact .read s Stream.reads_poll

theorem dispose (s : SinkRef) (w : Desk) : Dealing owners w (w.dispose s).2 :=
  .operate (.act (.dispose s))

theorem setReader (name : String) (s : SinkRef) (r : Reader) (w : Desk) :
    Dealing owners w (w.setReader name s r) :=
  .enter _

theorem id (h : Dealing owners w v) : v.line.id = w.line.id := by
  have buffer : ∀ (w : Desk) (s : SinkRef) (f : Sink → Sink),
      (w.mapSinkAt s f).line.id = w.line.id := by
    intro w s f
    rw [Desk.line_mapSinkAt]
    split <;> rfl
  induction h with
  | refl => rfl
  | trans _ _ ih ik => exact ik.trans ih
  | operate h => exact h.path.id
  | enter => rfl
  | release => rfl
  | read s => exact buffer _ s _
  | finish s => exact buffer _ s _

end Dealing

theorem Desk.course_disposeByMultiplexer (handle : Handle) (w : Desk) :
    Course (fun _ => True) ⟨w, []⟩ ⟨(w.disposeByMultiplexer handle).2, []⟩ := by
  have disposed : Runs (Course fun _ => True) (fun _ => True) ⟨w, []⟩
      ⟨((Operation.dispose handle).exec w).2, []⟩ :=
    Operation.exec_tells (fun _ _ => True.intro) w []
  exact runs_onMultiplexer w [] _ disposed (.trivial w)

/-- Every request is such a dealing. -/
theorem Request.dealing {owners : Bool} {r : Request} (hr : r.isEnding = true → owners = true)
    (w : Desk) : Dealing owners w (r.serve w) := by
  have receiving : ∀ name w, Dealing owners w (Desk.receive name w).2 := by
    intro name w
    unfold Desk.receive
    split
    · exact .refl w
    · exact .poll _ w
  cases r with
  | operation op =>
    exact .operate (op.exec_course (fun _ _ => True.intro) (.trivial w) [])
  | disposeByMultiplexer handle => exact .operate (w.course_disposeByMultiplexer handle)
  | releaseMultiplexer =>
    show Dealing _ w (Operation.onMultiplexer w _).2
    unfold Operation.onMultiplexer
    split
    · exact .refl w
    · exact .release
  | receive name => exact receiving name w
  | receiveWithin name limit =>
    -- The limit only matters for the answer.
    have received : Dealing owners w (w.receive name).2 := receiving name w
    show Dealing _ w (w.receiveWithin name limit).2
    unfold Desk.receiveWithin
    split
    case h_1 h =>
      rw [h] at received
      exact received
    case h_2 h =>
      rw [h] at received
      exact received
  | beginReceive name =>
    show Dealing _ w (w.beginReceive name).2
    unfold Desk.beginReceive
    split
    case h_1 => exact .refl w
    case h_2 s _ =>
      have read : Dealing owners w (w.poll s).2 := .poll s w
      split
      case h_1 v hv =>
        rw [hv] at read
        exact read.trans (.setReader name s .waiting v)
      case h_2 hv =>
        rw [hv] at read
        exact read
  | pollReceive name =>
    show Dealing _ w (w.pollReceive name).2
    unfold Desk.pollReceive
    split
    case h_1 => exact .refl w
    case h_2 s _ =>
      have read : Dealing owners w (w.poll s).2 := .poll s w
      split
      case h_1 v hv =>
        rw [hv] at read
        exact read
      case h_2 v hv =>
        rw [hv] at read
        exact read.trans (.setReader name s .idle v)
  | drain name =>
    show Dealing _ w (w.drain name).2
    unfold Desk.drain
    split
    case h_1 => exact .refl w
    case h_2 s _ =>
      split
      · exact .refl w
      · exact .read s Stream.reads_drain
  | disposeSubscription name =>
    show Dealing _ w (w.disposeSubscription name).2
    unfold Desk.disposeSubscription
    split
    case h_1 => exact .refl w
    case h_2 s _ => exact (Dealing.dispose s w).trans (.finish s (hr rfl))
  | giveUpSubscription name =>
    show Dealing _ w (w.giveUpSubscription name).2
    unfold Desk.giveUpSubscription Desk.giveUp
    split
    case h_1 => exact .refl w
    case h_2 e _ =>
      split
      case h_1 => exact .refl w
      case h_2 =>
        refine (Dealing.setReader name e.sink .absent w).trans ?_
        dsimp only
        split
        · exact .refl _
        · exact .dispose _ _

/-- A run of requests is a dealing, too. -/
theorem Request.dealing_serveAll {owners : Bool} {rs : List Request}
    (hrs : ∀ r ∈ rs, r.isEnding = true → owners = true) (w : Desk) :
    Dealing owners w (serveAll rs w) := by
  induction rs generalizing w with
  | nil => exact .refl w
  | cons r rs ih =>
    have hrest : ∀ r' ∈ rs, r'.isEnding = true → owners = true :=
      fun r' h => hrs r' (List.mem_cons_of_mem _ h)
    exact (dealing (hrs r List.mem_cons_self) w).trans (ih hrest (r.serve w))

end Correlator
