/-
  Correlator.Proofs.Fates — A SUBSCRIPTION THAT NOBODY HAS READ FROM.

  Whoever sends a request gets its subscription only after the transport has
  answered.  Until then nobody reads from it, and nobody ends it.  So all that
  can have come to it is some messages and then, at most once, an end: a drop, a
  close, or a disposal.  Its stream holds the newest of the messages, as many
  as there is room for, and after them its reader is told the end.

  Main results:
    * `Stream.newest`, `Stream.push_newest` — the newest messages,
    * `Stream.readings_of_ended` — what a reader is told in the end,
    * `Fate`, `Sink.Stands`, `Stream.Unread` — how a subscription stands,
    * `Sink.Hears.stands` — whatever it hears.
-/
import Correlator.Proofs.Ledgers
namespace Correlator

/-! ## §1. The newest messages -/

namespace Stream

/-- A stream that has been given messages and has not been read from. -/
def newest (capacity : Nat) (given : List Message) : Stream where
  capacity := capacity
  queue := given.drop (given.length - capacity)
  overwritten := given.length - capacity

theorem newest_nil (capacity : Nat) : newest (max capacity 1) [] = .withCapacity capacity := by
  simp [newest, withCapacity]

/-- One more message takes the place of the oldest one if there is no room. -/
theorem push_newest {capacity : Nat} (hc : 0 < capacity) (given : List Message) (m : Message) :
    (newest capacity given).push m = newest capacity (given ++ [m]) := by
  have length : (given ++ [m]).length = given.length + 1 := List.length_append
  by_cases hfull : capacity ≤ given.length
  case pos =>
    have full : (newest capacity given).isFull = true := by
      refine decide_eq_true ?_
      show capacity ≤ (given.drop (given.length - capacity)).length
      rw [List.length_drop]
      omega
    have more : given.length + 1 - capacity = given.length - capacity + 1 := by omega
    unfold push
    rw [if_pos full]
    unfold newest
    dsimp only
    rw [length, more, List.drop_drop, List.drop_append_of_le_length (by omega)]
  case neg =>
    have none : given.length - capacity = 0 := by omega
    have more : given.length + 1 - capacity = 0 := by omega
    have room : (newest capacity given).isFull = false := by
      refine decide_eq_false ?_
      show ¬ capacity ≤ (given.drop (given.length - capacity)).length
      rw [none]
      exact hfull
    unfold push
    rw [room]
    unfold newest
    dsimp only
    rw [length, none, more]
    rfl

/-! ## §2. Reading to the end -/

/-- What a reader is told that looks for something to read several times. -/
def readings : Nat → Stream → List Reading
  | 0, _ => []
  | n + 1, q => q.poll.1 :: readings n q.poll.2

/-- The messages come first, in order. -/
theorem readings_append (n : Nat) (q : Stream) : q.readings (q.queue.length + n) =
    q.queue.map (fun m => some (.ok m)) ++ readings n { q with queue := [] } := by
  obtain ⟨capacity, queue, ending, overwritten⟩ := q
  induction queue with
  | nil => rw [List.length_nil, Nat.zero_add]; rfl
  | cons m rest ih =>
    have next : (m :: rest).length + n = rest.length + n + 1 := by
      rw [List.length_cons]
      omega
    show readings _ _ = _ :: (_ ++ _)
    rw [next]
    exact congrArg (some (.ok m) :: ·) ih

theorem readings_of_closed {q : Stream} (hq : q.queue = []) (he : q.ending = some .closed)
    (n : Nat) : q.readings n = List.replicate n (some (.error .closed)) := by
  have poll : q.poll = (some (.error .closed), q) := by
    obtain ⟨capacity, queue, ending, overwritten⟩ := q
    cases hq
    cases he
    rfl
  induction n with
  | zero => rfl
  | succ n ih =>
    show q.poll.1 :: readings n q.poll.2 = _
    rw [poll, ih]
    rfl

/-- **A reader is told the end once**, after the messages, and from then on that the stream is
closed. -/
theorem readings_of_ended {q : Stream} {e : Ending} (h : q.ending = some e) (n : Nat) :
    q.readings (q.queue.length + 1 + n) = q.queue.map (fun m => some (.ok m)) ++
      some (.error (endingError e)) :: List.replicate n (some (.error .closed)) := by
  have told : poll { q with queue := [] } =
      (some (.error (endingError e)), { q with queue := [], ending := some .closed }) := by
    unfold poll
    rw [h]
  have after : readings (n + 1) { q with queue := [] } =
      some (.error (endingError e)) :: List.replicate n (some (.error .closed)) := by
    show _ :: readings n _ = _
    rw [told, readings_of_closed rfl rfl]
  rw [Nat.add_assoc, Nat.add_comm 1 n, readings_append, after]

end Stream

/-! ## §3. How a subscription stands -/

/-- What has come to a subscription, apart from messages. -/
inductive Fate where
  | waiting
  | dropped (d : ConnectionDropped)
  | closed
  | disposed
  deriving DecidableEq, Repr

namespace Fate

/-- The phase of the sink. -/
def phase : Fate → Phase
  | waiting => .active
  | dropped _ => .terminated
  | closed => .disposed
  | disposed => .disposed

/-- The callback that has told the end to the sink. -/
def calls : Fate → List Call
  | waiting => []
  | dropped d => [.error d]
  | closed => [.closed]
  | disposed => []

/-- How the stream may have ended.  A disposal is no drop. -/
def Allows : Fate → Option Ending → Prop
  | waiting, x => x = none
  | dropped d, x => x = some (.dropped d)
  | closed, x => x = some .closed
  | disposed, x => x = none ∨ x = some .closed

variable {fate : Fate} {given : List Message} {m : Message} {d : ConnectionDropped}

theorem phase_eq_active : fate.phase = .active ↔ fate = .waiting := by
  cases fate <;> simp [phase]

/-- A stream that has ended stays so, and one that was disposed may be closed. -/
theorem allows_finish {q : Stream} (h : fate.Allows q.ending) (hp : fate ≠ .waiting) :
    fate.Allows (q.finish .closed).ending := by
  cases fate with
  | waiting => exact absurd rfl hp
  | dropped d =>
    have ended : q.ending = some (.dropped d) := h
    rw [Stream.finish_of_ended _ ended]
    exact ended
  | closed =>
    have ended : q.ending = some .closed := h
    rw [Stream.finish_of_ended _ ended]
    exact ended
  | disposed =>
    rcases h with h | h
    · exact .inr (by simp [Stream.finish, h])
    · rw [Stream.finish_of_ended _ h]
      exact .inr h

/-- A message comes before the end. -/
theorem message_of_calls {before after : List Call}
    (h : before ++ .message m :: after = given.map .message ++ fate.calls) :
    ∃ earlier later, given = earlier ++ m :: later ∧ before = earlier.map .message := by
  induction before generalizing given with
  | nil =>
    cases given with
    | nil => cases fate <;> cases h
    | cons m' later =>
      cases h
      exact ⟨[], later, rfl, rfl⟩
  | cons c before ih =>
    cases given with
    | nil => cases fate <;> simp [calls] at h
    | cons m' given =>
      obtain ⟨hc, hrest⟩ := List.cons.inj h
      obtain ⟨earlier, later, rfl, rfl⟩ := ih hrest
      exact ⟨m' :: earlier, later, rfl, by rw [hc]; rfl⟩

/-- A drop that the sink was told of is its fate. -/
theorem dropped_of_calls (h : .error d ∈ given.map .message ++ fate.calls) :
    fate = .dropped d := by
  rcases List.mem_append.mp h with h | h
  · obtain ⟨_, -, h⟩ := List.mem_map.mp h
    cases h
  · cases fate with
    | dropped d' =>
      cases List.mem_singleton.mp h
      rfl
    | closed => cases List.mem_singleton.mp h
    | _ => cases h

/-- A sink that has heard nothing but messages is active, or it was disposed. -/
theorem waiting_or_disposed_of_calls
    (h : ∀ c ∈ given.map Call.message ++ fate.calls, c.message?.isSome = true) :
    fate = .waiting ∨ fate = .disposed := by
  have last : ∀ c ∈ fate.calls, c.message?.isSome = true :=
    fun c hc => h c (List.mem_append_right _ hc)
  cases fate with
  | waiting => exact .inl rfl
  | disposed => exact .inr rfl
  | dropped d => cases last _ List.mem_cons_self
  | closed => cases last _ List.mem_cons_self

end Fate

/-- A subscription that has been given messages, stands as it does, and has not been read from. -/
structure Sink.Stands (capacity : Nat) (rule : Rule) (given : List Message) (fate : Fate)
    (k : Sink) : Prop where
  phase : k.phase = fate.phase
  rule : k.rule = rule
  stream : ∃ x, fate.Allows x ∧
    k.listener = .stream { Stream.newest capacity given with ending := x }

/-- What a reader finds in a stream that was given messages, stands as it does, and has not been
read from. -/
structure Stream.Unread (capacity : Nat) (given : List Message) (fate : Fate) (q : Stream) :
    Prop where
  /-- The newest messages are there, as many as there is room for, and the others are counted. -/
  queue : q.queue = given.drop (given.length - capacity)
  overwritten : q.overwritten = given.length - capacity
  /-- The reader gets them in order. -/
  messages : q.readings q.queue.length = q.queue.map fun m => some (.ok m)
  /-- After them it is told of the drop that ended the subscription, once. -/
  drop : ∀ d, fate = .dropped d → ∀ n, q.readings (q.queue.length + 1 + n) =
    q.queue.map (fun m => some (.ok m)) ++
      some (.error (.dropped d)) :: List.replicate n (some (.error .closed))

theorem Sink.Stands.unread {capacity : Nat} {rule : Rule} {given : List Message} {fate : Fate}
    {k : Sink} (h : k.Stands capacity rule given fate) :
    ∃ q, k.buffer? = some q ∧ q.Unread capacity given fate := by
  obtain ⟨x, hx, hl⟩ := h.stream
  refine ⟨_, by rw [Sink.buffer?, hl], rfl, rfl, ?_, ?_⟩
  · exact (Stream.readings_append 0 _).trans (List.append_nil _)
  · rintro d rfl n
    have ended : x = some (.dropped d) := hx
    exact Stream.readings_of_ended (e := .dropped d) ended n

/-- **Whatever a subscription hears before it is handed out**, it has been given some messages, and
then it may have come to an end. -/
theorem Sink.Hears.stands {capacity : Nat} (hc : 0 < capacity) {rule : Rule} {k k' : Sink}
    {cs : List Call} (h : k.Hears False cs k') (hk : k.Stands capacity rule [] .waiting) :
    ∃ given fate, cs = given.map .message ++ fate.calls ∧ k'.Stands capacity rule given fate := by
  induction h with
  | refl => exact ⟨[], .waiting, rfl, hk⟩
  | message _ ha m ih =>
    obtain ⟨given, fate, rfl, stands⟩ := ih
    obtain rfl : fate = .waiting := Fate.phase_eq_active.mp (stands.phase.symm.trans ha)
    obtain ⟨x, rfl, hl⟩ := stands.stream
    refine ⟨given ++ [m], .waiting, by simp [Fate.calls], ha, stands.rule, none, rfl, ?_⟩
    dsimp only
    rw [hl]
    exact congrArg Listener.stream (Stream.push_newest hc given m)
  | @last k' cs phase c _ ha hf ih =>
    obtain ⟨given, fate, rfl, stands⟩ := ih
    obtain rfl : fate = .waiting := Fate.phase_eq_active.mp (stands.phase.symm.trans ha)
    obtain ⟨x, rfl, hl⟩ := stands.stream
    have ended : ∀ fate' : Fate, ∀ x, fate'.Allows x → phase = fate'.phase → [c] = fate'.calls →
        (k'.listener.next c).2 = .stream { Stream.newest capacity given with ending := x } →
        ∃ given' fate', given.map .message ++ Fate.waiting.calls ++ [c] =
            given'.map .message ++ fate'.calls ∧
          Sink.Stands capacity rule given' fate'
            { k' with phase, listener := (k'.listener.next c).2 } := by
      intro fate' x hx hp hcalls hnext
      refine ⟨given, fate', ?_, hp, stands.rule, x, hx, hnext⟩
      rw [hcalls]
      simp [Fate.calls]
    cases hf with
    | dropped d => exact ended (.dropped d) _ rfl rfl rfl (by rw [hl]; rfl)
    | closed => exact ended .closed _ rfl rfl rfl (by rw [hl]; rfl)
  | dispose _ ha ih =>
    obtain ⟨given, fate, rfl, stands⟩ := ih
    obtain rfl : fate = .waiting := Fate.phase_eq_active.mp (stands.phase.symm.trans ha)
    obtain ⟨x, rfl, hl⟩ := stands.stream
    exact ⟨given, .disposed, rfl, rfl, stands.rule, none, .inl rfl, hl⟩
  | @close k' cs q _ hp hl ih =>
    obtain ⟨given, fate, rfl, stands⟩ := ih
    obtain ⟨x, hx, hl'⟩ := stands.stream
    have ended : fate ≠ .waiting := by
      rintro rfl
      exact hp stands.phase
    obtain rfl : q = { Stream.newest capacity given with ending := x } :=
      Listener.stream.inj (hl.symm.trans hl')
    exact ⟨given, fate, rfl, stands.phase, stands.rule, _, Fate.allows_finish hx ended, rfl⟩
  | alter _ ht => exact ht.elim

end Correlator
