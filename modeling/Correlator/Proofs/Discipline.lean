/-
  Correlator.Proofs.Discipline — A CONNECTION LIVES BY THE TABLE.

  The table says which states a connection may go to.  Some steps are checked
  against it and some set the state directly, and callbacks may move the
  connection in the middle of an operation.  Still, the states that a run
  shows follow the table from one to the next; a turn writes down a moment as
  soon as it has set the state, so none goes unseen.

  An operation that needs a step first is refused exactly if the table does not
  have that step, and then nothing has been done: the connection, its waiters,
  the barrier and the message are as they were, and no callback was made.

  Main results:
    * `ConnectionState.successors`, `ConnectionState.Next` — the table,
    * `Step.lawful` — one thing that happens,
    * `Operation.refused_iff`, `Operation.run_of_refused` — refusals,
    * `Operation.disciplined_execAll` — every run.
-/
import Correlator.Proofs.Path
import Mathlib.Data.List.Chain
namespace Correlator

/-! ## §1. The table -/

namespace ConnectionState

/-- The states that a connection may go to. -/
def successors : ConnectionState → List ConnectionState
  | created => [created, authenticating, dropped]
  | authenticating => [authenticating, established, dropped]
  | established => [dropped]
  | dropped => [created, authenticating, dropped]

/-- What is checked is the table. -/
theorem canBecome_iff {s t : ConnectionState} : s.canBecome t = true ↔ t ∈ s.successors := by
  cases s <;> cases t <;> decide

/-- A connection stays in its state, or goes to another as the table says. -/
def Next (s t : ConnectionState) : Prop := t = s ∨ t ∈ s.successors

theorem Next.of_canBecome {s t : ConnectionState} (h : s.canBecome t = true) : s.Next t :=
  .inr (canBecome_iff.mp h)

/-- A connection may be lost in every state. -/
theorem next_dropped (s : ConnectionState) : s.Next .dropped := by
  refine .of_canBecome ?_
  cases s <;> rfl

end ConnectionState

/-! ## §2. The states that a run shows -/

namespace Desk

/-- The states in which the line in hand has been shown, after the one in which it was
configured. -/
def states (w : Desk) : List ConnectionState :=
  .created :: (History.standings w.line.id w.shared.history).map Line.state

/-- The states follow the table, and the last one is that of the line. -/
structure Lawful (w : Desk) : Prop where
  chain : w.states.IsChain ConnectionState.Next
  current : w.states.getLast? = some w.line.state

namespace Lawful

variable {w v : Desk}

theorem opening (w : Desk) (config : ConnectionConfig) (capacity : Nat) :
    (w.opening config capacity).Lawful :=
  ⟨List.isChain_singleton _, rfl⟩

/-- The next state that is shown follows the last one. -/
theorem concat (h : w.Lawful) {t : ConnectionState} (hs : v.states = w.states ++ [t])
    (hn : w.line.state.Next t) (ht : v.line.state = t) : v.Lawful := by
  constructor
  case chain =>
    rw [hs]
    refine h.chain.append (List.isChain_singleton t) ?_
    intro s hlast u hu
    rw [h.current] at hlast
    cases hlast
    cases hu
    exact hn
  case current =>
    rw [hs, List.getLast?_concat, ht]

/-- The line may be changed before a moment is written down that shows it. -/
theorem record (h : w.Lawful) (u : Desk) (hid : u.line.id = w.line.id)
    (hh : u.shared.history = w.shared.history) (hn : w.line.state.Next u.line.state) (e : Event) :
    (u.record e).Lawful := by
  refine h.concat ?_ hn rfl
  have shown : (⟨e, some u.line⟩ : Moment).standing? w.line.id = some u.line :=
    Moment.standing?_eq_some.mpr ⟨rfl, hid⟩
  unfold states
  rw [line_record, hid, history_record, hh, History.standings_append, List.map_append,
    List.cons_append, History.standings, History.standings, List.filterMap_cons, shown]
  rfl

/-- A notice that follows shows nothing new. -/
theorem note (h : w.Lawful) (n : Notice) : (w.note n).Lawful :=
  h.record w rfl rfl (.inl rfl) (.noted n)

/-- Moments that show the line in the state that it has. -/
theorem of_news (h : w.Lawful) {news : List Moment} (hid : v.line.id = w.line.id)
    (hs : v.line.state = w.line.state) (hh : v.shared.history = w.shared.history ++ news)
    (hn : ∀ x ∈ news, ∀ l, x.standing? w.line.id = some l → l.state = w.line.state) :
    v.Lawful := by
  -- What they show is the last state over and over.
  have same : v.states =
      w.states ++ List.replicate (History.standings w.line.id news).length w.line.state := by
    unfold states
    rw [hid, hh, History.standings_append, List.map_append, List.cons_append]
    congr 2
    refine List.eq_replicate_iff.mpr ⟨List.length_map _, ?_⟩
    intro s hmem
    obtain ⟨l, hl, rfl⟩ := List.mem_map.mp hmem
    obtain ⟨x, hx, hxl⟩ := List.mem_filterMap.mp hl
    exact hn x hx l hxl
  constructor
  case chain =>
    rw [same]
    refine h.chain.append (List.isChain_replicate_of_rel _ (.inl rfl)) ?_
    intro s hlast t ht
    rw [h.current] at hlast
    cases hlast
    exact .inl (List.eq_of_mem_replicate (List.mem_of_mem_head? ht))
  case current =>
    rw [same, hs, List.getLast?_append, h.current]
    rw [List.getLast?_replicate]
    split <;> rfl

end Lawful

end Desk

/-- The connection takes no turn but those of the table. -/
theorem Turn.lawful {w v : Desk} (h : Turn w v) (hw : w.Lawful) : v.Lawful := by
  cases h with
  | create h => exact hw.record (w.setState .created) rfl rfl (.of_canBecome h) _
  | offer _ h => exact hw.record (w.setState .authenticating) rfl rfl (.of_canBecome h) _
  | accept _ h => exact hw.record (w.setState .authenticating) rfl rfl (.of_canBecome h) _
  | refuse drop _ h =>
    -- The handshake comes in first, and then it is turned away.
    have came : ((w.setState .authenticating).note .handshakeRejected).Lawful :=
      hw.record (w.setState .authenticating) rfl rfl (.of_canBecome h) _
    exact came.record (((w.setState .authenticating).note .handshakeRejected).setState .dropped)
      rfl rfl (ConnectionState.next_dropped _) _
  | establish h =>
    exact hw.record ((w.setState .established).mapLine fun l => { l with logoutText := none })
      rfl rfl (.of_canBecome h) _
  | drop cause m =>
    have lost := hw.record (w.mapLine fun l => { l with state := .dropped, logoutText := none })
      rfl rfl (ConnectionState.next_dropped _) (.lost cause m (w.lossOf cause m))
    exact lost.note _
  | @logout m =>
    exact hw.record (w.mapLine fun l => { l with logoutText := some ((m.get? Tag.text).getD "") })
      rfl rfl (.inl rfl) _

/-- **Whatever happens, the states follow the table.** -/
theorem Step.lawful {a b : Stage} (h : Step a b) (ha : a.desk.Lawful) : b.desk.Lawful := by
  cases h with
  | aside h =>
    cases h with
    | event => exact ha.record _ rfl rfl (.inl rfl) _
    | names => exact ⟨ha.chain, ha.current⟩
    | barrier => exact ⟨ha.chain, ha.current⟩
  | turn h => exact h.lawful ha
  | shift h =>
    obtain ⟨news, hh, hn⟩ := h.news
    refine ha.of_news (congrArg ConnectionConfig.id h.config) h.state hh ?_
    intro x hx l hl
    obtain ⟨-, k, hk, hkl⟩ := hn x hx
    obtain ⟨hline, hid⟩ := Moment.standing?_eq_some.mp hl
    rw [hk] at hline
    cases hline
    rw [hkl hid, h.state]

theorem Path.lawful {a b : Stage} (h : Path a b) (ha : a.desk.Lawful) : b.desk.Lawful :=
  h.keeps (P := fun s => s.desk.Lawful) Step.lawful ha

/-! ## §3. Refusals -/

/-- The error of an answer. -/
def Answer.error? : Answer → Option LinkError
  | .outcome (.error e) => some e
  | .tally (.error e) => some e
  | .outgoing (.error e) _ => some e
  | _ => none

/-- The message that an answer hands back. -/
def Answer.message? : Answer → Option Message
  | .outgoing _ m => some m
  | _ => none

namespace Operation

/-- The message that an operation sends out. -/
def outgoing? : Operation → Option Message
  | authenticateOutbound m => some m
  | outboundAdmin m => some m
  | _ => none

/-- The state that the connection has to go to before anything else is done. -/
def needs? : Operation → Option ConnectionState
  | create => some .created
  | establish => some .established
  | authenticateOutbound m => if m.kind = .handshake then some .authenticating else none
  | authenticateInbound m => if m.kind = .handshake then some .authenticating else none
  | outboundAdmin m => if m.kind = .handshake then some .authenticating else none
  | inbound m => if m.kind = .handshake then some .authenticating else none
  | _ => none

end Operation

namespace Desk

/-- Nothing has been done between two desks but that a refusal was logged. -/
structure Untouched (w v : Desk) : Prop where
  line : v.line = w.line
  others : v.before = w.before ∧ v.after = w.after
  barrier : v.shared.barrier = w.shared.barrier
  names : v.shared.names = w.shared.names
  issued : v.shared.issued = w.shared.issued
  calls : v.shared.calls = w.shared.calls
  history : v.shared.history =
    w.shared.history ++ [⟨.noted .transitionRejected, some w.line⟩]

theorem Untouched.note (w : Desk) : w.Untouched (w.note .transitionRejected) :=
  ⟨rfl, ⟨rfl, rfl⟩, rfl, rfl, rfl, calls_note _ w, history_record _ w⟩

variable {w : Desk} {next : ConnectionState}

/-- The error of a step that the table does not have. -/
def refusal (w : Desk) (next : ConnectionState) : LinkError :=
  .session (.invalidTransition w.line.id.shown w.line.state.shown next.shown)

theorem check_of_refused (h : next ∉ w.line.state.successors) :
    w.check next = (.error (w.refusal next), w.note .transitionRejected) := by
  have hb : ¬ w.line.state.canBecome next = true :=
    fun hb => h (ConnectionState.canBecome_iff.mp hb)
  unfold check ConnectionState.transition
  rw [if_neg hb]
  rfl

theorem check_of_allowed (h : next ∈ w.line.state.successors) :
    ∃ v, w.check next = (.ok (), v) := by
  have hb : w.line.state.canBecome next = true := ConnectionState.canBecome_iff.mpr h
  unfold check ConnectionState.transition
  rw [if_pos hb]
  exact ⟨_, rfl⟩

/-- A handshake that goes out while the table has no step for it. -/
theorem authenticateOutbound_of_refused {m : Message} (hm : m.kind = .handshake)
    (h : .authenticating ∉ w.line.state.successors) : w.authenticateOutbound m =
      ((.error (w.refusal .authenticating), m), w.note .transitionRejected) := by
  unfold authenticateOutbound
  rw [if_neg (not_not_intro hm), check_of_refused h]

/-- A handshake that comes in while the table has no step for it. -/
theorem authenticateInbound_of_refused {m : Message} (hm : m.kind = .handshake)
    (h : .authenticating ∉ w.line.state.successors) (call : Caller) :
    w.authenticateInboundWith call m =
      (.error (w.refusal .authenticating), w.note .transitionRejected) := by
  unfold authenticateInboundWith
  rw [if_neg (not_not_intro hm), check_of_refused h]

/-- Otherwise a handshake that comes in is accepted, or its credentials are rejected. -/
theorem authenticateInbound_of_allowed (call : Caller) {m : Message}
    (h : m.kind = .handshake → .authenticating ∈ w.line.state.successors) :
    (∃ v, w.authenticateInboundWith call m = (.ok (), v)) ∨
      ∃ c reason v, w.authenticateInboundWith call m =
        (.error (.authenticationRejected c reason), v) := by
  unfold authenticateInboundWith
  split
  case isTrue => exact .inl ⟨_, rfl⟩
  case isFalse hm =>
    obtain ⟨v, hv⟩ := check_of_allowed (h (not_not.mp hm))
    rw [hv]
    dsimp only
    unfold weighWith
    dsimp only
    split
    case h_1 => exact .inl ⟨_, rfl⟩
    case h_2 =>
      split
      case h_1 => exact .inl ⟨_, rfl⟩
      case h_2 reason _ => exact .inr ⟨_, reason, _, rfl⟩

/-- Otherwise a message that comes in is taken, or is a handshake whose credentials are
rejected. -/
theorem inbound_of_allowed (call : Caller) {m : Message}
    (h : m.kind = .handshake → .authenticating ∈ w.line.state.successors) :
    (∃ n, (w.inboundWith call m).1 = .ok n) ∨
      ∃ c reason, (w.inboundWith call m).1 = .error (.authenticationRejected c reason) := by
  by_cases hr : m.kind.isRoutable = true
  case pos =>
    left
    by_cases hs : w.line.state = .established
    · rw [inboundWith_of_established hr hs]
      exact ⟨_, rfl⟩
    · rw [inboundWith_of_not_established hr hs]
      exact ⟨_, rfl⟩
  case neg =>
    unfold inboundWith
    cases hk : m.kind with
    | keepalive => exact .inl ⟨_, rfl⟩
    | handshake =>
      rcases authenticateInbound_of_allowed call h with ⟨v, hv⟩ | ⟨c, reason, v, hv⟩
      · rw [hv]
        exact .inl ⟨_, rfl⟩
      · rw [hv]
        exact .inr ⟨c, reason, rfl⟩
    | logout => exact .inl ⟨_, rfl⟩
    | reject => exact absurd (by rw [hk]; rfl) hr
    | application => exact absurd (by rw [hk]; rfl) hr

/-- Otherwise a handshake goes out. -/
theorem authenticateOutbound_of_allowed {m : Message}
    (h : m.kind = .handshake → .authenticating ∈ w.line.state.successors) :
    (w.authenticateOutbound m).1.1 = .ok () := by
  unfold authenticateOutbound
  split
  case isTrue => rfl
  case isFalse hm =>
    obtain ⟨v, hv⟩ := check_of_allowed (h (not_not.mp hm))
    rw [hv]
    dsimp only
    split
    · split <;> rfl
    · rfl

end Desk

namespace Operation

variable {op : Operation} {w : Desk} {next : ConnectionState}

/-- **A step that the table does not have** is refused before anything else is done. -/
theorem run_of_refused (hn : op.needs? = some next) (h : next ∉ w.line.state.successors)
    (call : Caller) :
    (op.run call w).1.error? = some (w.refusal next) ∧
      (op.run call w).1.message? = op.outgoing? ∧
      (op.run call w).2 = w.note .transitionRejected := by
  -- The operations that need a step for a handshake only.
  have handshake : ∀ {m : Message}, (if m.kind = .handshake then some ConnectionState.authenticating
      else none) = some next → m.kind = .handshake ∧ next = .authenticating := by
    intro m hm
    split at hm
    case isTrue hk => exact ⟨hk, (Option.some.inj hm).symm⟩
    case isFalse => cases hm
  cases op with
  | create =>
    cases hn
    simp only [run, Desk.create, Desk.check_of_refused h]
    exact ⟨rfl, rfl, trivial⟩
  | establish =>
    cases hn
    simp only [run, Desk.establish, Desk.check_of_refused h]
    exact ⟨rfl, rfl, trivial⟩
  | authenticateOutbound m =>
    obtain ⟨hm, rfl⟩ := handshake hn
    simp only [run, Desk.authenticateOutbound_of_refused hm h]
    exact ⟨rfl, rfl, trivial⟩
  | authenticateInbound m =>
    obtain ⟨hm, rfl⟩ := handshake hn
    simp only [run, Desk.authenticateInbound_of_refused hm h]
    exact ⟨rfl, rfl, trivial⟩
  | outboundAdmin m =>
    obtain ⟨hm, rfl⟩ := handshake hn
    simp only [run, Desk.outboundAdmin, hm, Desk.authenticateOutbound_of_refused hm h]
    exact ⟨rfl, rfl, trivial⟩
  | inbound m =>
    obtain ⟨hm, rfl⟩ := handshake hn
    simp only [run, Desk.inboundWith, hm, Desk.authenticateInbound_of_refused hm h]
    exact ⟨rfl, rfl, trivial⟩
  | _ => cases hn

/-- A step that the table has, or that is not needed, is no reason to refuse. -/
theorem run_of_allowed (h : ∀ next, op.needs? = some next → next ∈ w.line.state.successors)
    (call : Caller) (fault : SessionError) :
    (op.run call w).1.error? ≠ some (.session fault) := by
  cases op with
  | create =>
    obtain ⟨v, hv⟩ := Desk.check_of_allowed (h _ rfl)
    simp [run, Desk.create, hv, Answer.error?]
  | establish =>
    obtain ⟨v, hv⟩ := Desk.check_of_allowed (h _ rfl)
    simp [run, Desk.establish, hv, Answer.error?]
  | authenticateOutbound m =>
    have sent := Desk.authenticateOutbound_of_allowed (m := m) fun hm => h _ (if_pos hm)
    simp [run, sent, Answer.error?]
  | authenticateInbound m =>
    rcases Desk.authenticateInbound_of_allowed call (m := m) fun hm => h _ (if_pos hm) with
      ⟨v, hv⟩ | ⟨c, reason, v, hv⟩ <;> simp [run, hv, Answer.error?]
  | outboundAdmin m =>
    have sent := Desk.authenticateOutbound_of_allowed (m := m) fun hm => h _ (if_pos hm)
    cases hk : m.kind <;> simp [run, Desk.outboundAdmin, hk, sent, Answer.error?]
  | inbound m =>
    rcases Desk.inbound_of_allowed call (m := m) fun hm => h _ (if_pos hm) with
      ⟨n, hr⟩ | ⟨c, reason, hr⟩ <;> simp [run, hr, Answer.error?]
  | drop => simp [run, Answer.error?]
  | outboundApplication => simp [run, Answer.error?]
  | _ =>
    -- What is left does not look at the state.
    simp only [run, onMultiplexer]
    split <;> simp [Answer.error?]

/-- **An operation reports a step that is not allowed** exactly if it needs one that the table does
not have. -/
theorem refused_iff (op : Operation) (call : Caller) (w : Desk) :
    (∃ fault, (op.run call w).1.error? = some (.session fault)) ↔
      ∃ next, op.needs? = some next ∧ next ∉ w.line.state.successors := by
  constructor
  · rintro ⟨fault, hf⟩
    by_contra hall
    refine run_of_allowed (fun next hn => ?_) call fault hf
    by_contra hnot
    exact hall ⟨next, hn, hnot⟩
  · rintro ⟨next, hn, hnot⟩
    exact ⟨_, (run_of_refused hn hnot call).1⟩

/-! ## §4. Every run -/

/-- **A connection lives by the table.**  On every run, its callbacks and what those set off
included, each state that is shown is the one before or follows it in the table.  On any desk,
whoever makes the callbacks, an operation reports a step that is not allowed exactly if it needs
one that the table does not have; then it names that step, hands its message back as it was, and
has done nothing. -/
theorem disciplined_execAll (w : Desk) (config : ConnectionConfig) (capacity : Nat)
    (ops : List Operation) :
    let v := (execAll ops (w.opening config capacity)).2
    (v.states.IsChain ConnectionState.Next ∧ v.states.getLast? = some v.line.state) ∧
    ∀ (u : Desk) (call : Caller) (op : Operation),
      ((∃ fault, (op.run call u).1.error? = some (.session fault)) ↔
        ∃ next, op.needs? = some next ∧ next ∉ u.line.state.successors) ∧
      ∀ next, op.needs? = some next → next ∉ u.line.state.successors →
        (op.run call u).1.error? = some (u.refusal next) ∧
        (op.run call u).1.message? = op.outgoing? ∧
        u.Untouched (op.run call u).2 := by
  intro v
  have lawful : v.Lawful :=
    (execAll_path ops (w.opening config capacity) []).lawful (.opening w config capacity)
  refine ⟨⟨lawful.chain, lawful.current⟩, ?_⟩
  intro u call op
  refine ⟨refused_iff op call u, ?_⟩
  intro next hn hnot
  obtain ⟨herror, hmessage, hdesk⟩ := run_of_refused hn hnot call
  refine ⟨herror, hmessage, ?_⟩
  rw [hdesk]
  exact .note u

/-- The life of a dialing connection that is established, to which another handshake comes in:
the handshake is refused and nothing is done. -/
theorem disciplined_execAll_established :
    let config : ConnectionConfig :=
      ⟨"venue", .plain "FIX.4.4" "A" "B", .dialingSingleThreaded, none⟩
    let w := Desk.ofLine (.ofConfig config 4) ⟨[], 0⟩
    let v := (execAll [.authenticateOutbound (.empty .logon), .establish] (w.opening config 4)).2
    v.states = [.created, .created, .authenticating, .authenticating, .established] ∧
    ((inbound (.empty .logon)).exec v).1.error? = some (v.refusal .authenticating) ∧
    v.Untouched ((inbound (.empty .logon)).exec v).2 := by
  intro config w v
  obtain ⟨-, refused⟩ :=
    disciplined_execAll w config 4 [.authenticateOutbound (.empty .logon), .establish]
  obtain ⟨-, report⟩ := refused v (v.caller 0) (inbound (.empty .logon))
  obtain ⟨herror, -, untouched⟩ := report .authenticating rfl (by decide)
  exact ⟨by decide, herror, untouched⟩

end Operation

end Correlator
