/-
  Correlator.Proofs.Overtaking — A REPLY THAT OVERTAKES THE SEND.

  A request is subscribed before it is handed over, and the transport may take
  its time.  Meanwhile replies come in, the connection is lost and comes up
  again, other requests are sent.  What is for the subscription is kept for its
  caller: each message that the rule of the request accepts, in the order in
  which the sink takes its turns, until a drop, a close or a disposal ends it.

  A drop is told to the sinks that it finds in the active set.  A subscription
  that is there is told of this drop and of no later one, even if the connection
  is up again when the transport answers.  One that was closed or disposed
  before has had its end, and is not told of the drop.

  Main results:
    * `Engine.Meanwhile`, `Engine.Fresh.meanwhile` — what was kept,
    * `Engine.Meanwhile.reported` — replies that the transport reports,
    * `EngineBuilder.overtaking_replies` — requests by any transport,
    * `Engine.drop_after_close` — a close that comes before the drop.
-/
import Correlator.Proofs.Passages
namespace Correlator

namespace Engine

/-! ## §1. What was kept -/

/-- What was given to a subscription while its request was on its way, and how it stands then. -/
structure Meanwhile (s : SinkRef) (rule : Rule) (e g : Engine) (given : List Message)
    (fate : Fate) : Prop where
  /-- The sink has heard the messages, and after them its end, if it was told of one. -/
  heard : g.callsTo s = e.callsTo s ++ given.map .message ++ fate.calls
  phase : (g.sink? s).map Sink.phase = some fate.phase
  /-- It was given nothing that the rule does not accept. -/
  selected : ∀ m ∈ given, rule.judge m = .accepts
  /-- A message that was dispatched and that the rule accepts was given to the sink when it came to
  its turn, after those before, unless the sink had come to its end: it was out of the active set
  when the dispatch began, or out of its active phase when it came to its turn. -/
  dispatched : ∀ (a : Stage) (depth : Nat) (m : Message),
    let call := Desk.callWith (Desk.perform depth)
    Through s e a ⟨(a.desk.dispatchWith call m).2, a.owed⟩ g → rule.judge m = .accepts →
    s.place ∉ a.desk.line.mux.active ∧ fate ≠ .waiting ∨
    ∃ v ∈ a.desk.visits (Desk.deliver call m) a.desk.line.mux.active, v.place = s.place ∧
      (v.desk.line.mux.phase? s.place ≠ some .active ∧ fate ≠ .waiting ∨
        ∃ earlier later, given = earlier ++ m :: later ∧
          v.desk.callsTo s = e.callsTo s ++ earlier.map .message)
  /-- A drop ends the subscription, or finds it at its end.  If the sink was in the active set it
  was told of this drop, unless it was disposed before it came to its turn. -/
  dropped : ∀ (a : Stage) (depth : Nat) (d : ConnectionDropped) (u : Desk),
    let call := Desk.callWith (Desk.perform depth)
    Onset (fun _ => True) a.desk d u →
    Through s e a ⟨(u.broadcastWith call d).2, a.owed⟩ g →
    fate ≠ .waiting ∧ (s.place ∈ a.desk.line.mux.active → fate = .dropped d ∨
      fate = .disposed ∧ ∃ v ∈ (u.vacate d).visits (Desk.terminate call d) u.line.mux.active,
        v.place = s.place ∧ v.desk.line.mux.phase? s.place ≠ some .active)

variable {s : SinkRef} {capacity : Nat} {rule : Rule} {e g : Engine} {a : Stage} {fate : Fate}
  {given : List Message}

/-- The end of a subscription, known by its sink. -/
theorem ne_waiting {k : Sink} (hk : g.sink? s = some k)
    (hphase : (g.sink? s).map Sink.phase = some fate.phase) (hp : k.phase ≠ .active) :
    fate ≠ .waiting := by
  rintro rfl
  rw [hk] at hphase
  exact hp (Option.some.inj hphase)

namespace Fresh

variable (he : e.Fresh s capacity rule)
  (heard : g.callsTo s = e.callsTo s ++ given.map .message ++ fate.calls)
  (hphase : (g.sink? s).map Sink.phase = some fate.phase)

include he

/-- What the sink has heard up to a stage is the beginning of what it was given, and a callback that
starts there comes next. -/
theorem heard_next (heard : g.callsTo s = e.callsTo s ++ given.map .message ++ fate.calls)
    {x y : Stage} (h : Through s e x y g) (path : Path x y) {c : Call} {news : List Call}
    (hc : y.desk.callsTo s = x.desk.callsTo s ++ c :: news) : ∃ before after,
      x.desk.callsTo s = e.callsTo s ++ before ∧
      before ++ c :: after = given.map .message ++ fate.calls := by
  obtain ⟨sound, -, k, before, hk, -, hbefore, -⟩ := he.before (h.narrow .refl path)
  obtain ⟨k', hk', -⟩ := path.continues.line.rule s.place k hk
  obtain ⟨-, after, -, hafter, -⟩ :=
    (h.narrow path .refl).later .refl (path.keeps Step.sound sound) hk'
  have total : e.callsTo s ++ (before ++ c :: (news ++ after)) =
      e.callsTo s ++ (given.map .message ++ fate.calls) := by
    calc e.callsTo s ++ (before ++ c :: (news ++ after))
        = x.desk.callsTo s ++ c :: news ++ after := by rw [hbefore]; simp
      _ = g.callsTo s := by rw [hafter, hc]
      _ = e.callsTo s ++ (given.map .message ++ fate.calls) := by rw [heard, List.append_assoc]
  exact ⟨before, news ++ after, hbefore, List.append_cancel_left total⟩

include heard hphase

/-- **A message that is dispatched** is given to the subscription, or comes after its end. -/
theorem dispatched (depth : Nat) {m : Message} (hj : rule.judge m = .accepts)
    (h : Through s e a
      ⟨(a.desk.dispatchWith (Desk.callWith (Desk.perform depth)) m).2, a.owed⟩ g) :
    s.place ∉ a.desk.line.mux.active ∧ fate ≠ .waiting ∨
    ∃ v ∈ a.desk.visits (Desk.deliver (Desk.callWith (Desk.perform depth)) m)
        a.desk.line.mux.active, v.place = s.place ∧
      (v.desk.line.mux.phase? s.place ≠ some .active ∧ fate ≠ .waiting ∨
        ∃ earlier later, given = earlier ++ m :: later ∧
          v.desk.callsTo s = e.callsTo s ++ earlier.map .message) := by
  obtain ⟨sound, -, k, -, hk, -⟩ := he.before h
  by_cases hmem : s.place ∈ a.desk.line.mux.active
  case neg =>
    have hc : Desk.Follows (Course fun _ => True) (fun _ => True)
        (Desk.callWith (Desk.perform depth)) := Desk.follows_caller depth
    have whole := (hc.dispatch (.asked (m := m) True.intro) a.owed (.trivial a.desk)).path
    obtain ⟨k', -, hk', -, -, ended⟩ := (h.narrow .refl whole).later .refl sound hk
    exact .inl ⟨hmem, ne_waiting hk' hphase (ended hmem)⟩
  case pos =>
    obtain ⟨v, hv, hplace, toTurn, turn, rest⟩ := Desk.dispatch_turn depth a.owed m hmem
    refine .inr ⟨v, hv, hplace, ?_⟩
    have here := h.narrow toTurn rest
    obtain ⟨soundTurn, own, k₁, -, hk₁, hrule, -⟩ := he.before (h.narrow toTurn (turn.trans rest))
    have phaseTurn : v.desk.line.mux.phase? s.place = some k₁.phase :=
      Multiplexer.phase?_of_sink hk₁
    by_cases hp : k₁.phase = .active
    case neg =>
      obtain ⟨k', _, hk', -, ended, -⟩ := (here.narrow .refl turn).later .refl soundTurn hk₁
      refine .inl ⟨?_, ne_waiting hk' hphase (ended hp).2⟩
      rw [phaseTurn]
      exact fun h => hp (Option.some.inj h)
    case pos =>
      -- The rule is that of the request, and so the sink takes the message.
      have takes : v.desk.takes m v.place = true := by
        rw [hplace]
        exact Desk.takes_iff.mpr ⟨k₁, hk₁, hp, by rw [hrule]; exact hj⟩
      have told : v.outcome (Desk.deliver (Desk.callWith (Desk.perform depth)) m) =
          v.desk.tell (Desk.callWith (Desk.perform depth)) s.place (.message m) := by
        rw [← hplace]
        exact Desk.deliver_of_takes takes
      obtain ⟨news, hh⟩ := Desk.history_tell (Desk.follows_caller depth) hk₁ (.message m)
      rw [← told] at hh
      obtain ⟨before, after, hbefore, total⟩ :=
        he.heard_next heard here turn (Desk.callsTo_of_called own hh)
      obtain ⟨earlier, later, hgiven, rfl⟩ := Fate.message_of_calls total
      exact .inr ⟨earlier, later, hgiven, hbefore⟩

/-- **A drop that is told** ends the subscription, or comes after its end. -/
theorem dropped (depth : Nat) {d : ConnectionDropped} {u : Desk}
    (onset : Onset (fun _ => True) a.desk d u)
    (h : Through s e a
      ⟨(u.broadcastWith (Desk.callWith (Desk.perform depth)) d).2, a.owed⟩ g) :
    fate ≠ .waiting ∧ (s.place ∈ a.desk.line.mux.active → fate = .dropped d ∨
      fate = .disposed ∧ ∃ v ∈ (u.vacate d).visits
        (Desk.terminate (Desk.callWith (Desk.perform depth)) d) u.line.mux.active,
        v.place = s.place ∧ v.desk.line.mux.phase? s.place ≠ some .active) := by
  obtain ⟨sound, -⟩ := he.before h
  have mux : u.line.mux = a.desk.line.mux := onset.beside.mux
  let vacated : Stage := ⟨u.vacate d, u.line.mux.active ++ a.owed⟩
  have toVacated : Path a vacated := (onset.path a.owed).trans (.single (.shift (.drain d)))
  have whole := Desk.path_broadcast depth a.owed u d
  obtain ⟨soundVacated, own, k, cs, hk, -, hcs, messages⟩ := he.before (h.narrow toVacated whole)
  obtain ⟨k', -, hk', -, -, out⟩ :=
    (h.narrow toVacated whole).later .refl soundVacated hk
  have ended : fate ≠ .waiting := ne_waiting hk' hphase (out List.not_mem_nil)
  refine ⟨ended, fun hmem => ?_⟩
  have hmem : s.place ∈ u.line.mux.active := by rwa [mux]
  obtain ⟨v, hv, hplace, earlier, later, hactive, toTurn, turn, rest⟩ :=
    Desk.broadcast_turn depth a.owed d hmem
  have here := h.narrow (toVacated.trans toTurn) rest
  obtain ⟨soundTurn, ownTurn, k₁, -, hk₁, -⟩ := he.before (here.narrow .refl turn)
  by_cases hp : k₁.phase = .active
  case pos =>
    left
    have told : v.outcome (Desk.terminate (Desk.callWith (Desk.perform depth)) d) =
        v.desk.finish (Desk.callWith (Desk.perform depth)) .terminated (.error d) s.place := by
      rw [← hplace]
      rfl
    obtain ⟨news, hh⟩ :=
      Desk.history_finish (Desk.follows_caller depth) .terminated (.error d) hk₁ hp
    rw [← told] at hh
    have shown : (v.desk.mapSink s.place fun k => { k with phase := .terminated }).line.id =
        s.connection := ownTurn
    obtain ⟨before, after, -, total⟩ :=
      he.heard_next heard here turn (Desk.callsTo_of_called shown hh)
    have last : .error d ∈ given.map Call.message ++ fate.calls := by
      rw [← total]
      simp
    exact Fate.dropped_of_calls last
  case neg =>
    right
    have phaseTurn : v.desk.line.mux.phase? s.place = some k₁.phase :=
      Multiplexer.phase?_of_sink hk₁
    refine ⟨?_, v, hv, hplace, by rw [phaseTurn]; exact fun h => hp (Option.some.inj h)⟩
    -- It was active when the set was emptied, and is owed its end until its turn.
    have active : k.phase = .active := by
      have seated := sound.orderly.seated s.place (by rwa [← mux])
      have same : u.line.mux.phase? s.place = some k.phase := Multiplexer.phase?_of_sink hk
      rw [mux, seated] at same
      exact (Option.some.inj same).symm
    obtain ⟨first, rfl⟩ := messages active
    have ascending : u.line.mux.active.Pairwise (· < ·) := by
      rw [mux]
      exact sound.orderly.ascending
    have owed : (s.place :: (later ++ a.owed)).count s.place =
        (u.line.mux.active ++ a.owed).count s.place := Desk.count_owed ascending hactive
    have there : s.place < vacated.desk.line.mux.sinks.length :=
      (List.getElem?_eq_some_iff.mp hk).1
    obtain ⟨-, news, hh, only⟩ := toTurn.unfinished there List.not_mem_nil
    obtain ⟨_, hh', hereNews⟩ := toTurn.here
    obtain rfl : news = _ := List.append_cancel_left (hh.symm.trans hh')
    have turnCalls := Desk.callsTo_of_history own hh hereNews
    obtain ⟨_, rest', -, hrest, silent, -⟩ := (here.narrow .refl turn).later .refl soundTurn hk₁
    obtain ⟨rfl, -⟩ := silent hp
    have total : e.callsTo s ++ (given.map .message ++ fate.calls) =
        e.callsTo s ++ (first.map .message ++ History.callsAt s.place news) := by
      rw [← List.append_assoc, ← heard, hrest, List.append_nil, turnCalls, hcs, List.append_assoc]
    have unfinished : ∀ c ∈ given.map Call.message ++ fate.calls, c.message?.isSome = true := by
      intro c hc
      rw [List.append_cancel_left total] at hc
      rcases List.mem_append.mp hc with hc | hc
      · obtain ⟨m, -, rfl⟩ := List.mem_map.mp hc
        rfl
      · exact only owed c hc
    exact (Fate.waiting_or_disposed_of_calls unfinished).resolve_left ended

end Fresh

/-- **What was kept for the caller of a request**, whatever errands were done meanwhile. -/
theorem Fresh.meanwhile (he : e.Fresh s capacity rule) {during : List Errand}
    (hquiet : ∀ x ∈ during, x.alters ≠ some s) : ∃ given fate k,
    (actAll during e).sink? s = some k ∧ k.Stands capacity rule given fate ∧
      e.Meanwhile s rule (actAll during e) given fate := by
  obtain ⟨k₀, hk₀, new⟩ := he.sink
  obtain ⟨k, cs, hk, hcs, hears⟩ := (elapses_actAll hquiet e).hears hk₀
  obtain ⟨given, fate, rfl, stands⟩ := hears.stands he.room new
  have heard : (actAll during e).callsTo s =
      e.callsTo s ++ given.map .message ++ fate.calls := by
    rw [hcs, List.append_assoc]
  have phase : ((actAll during e).sink? s).map Sink.phase = some fate.phase := by
    rw [hk, ← stands.phase]
    rfl
  have selected : ∀ m ∈ given, rule.judge m = .accepts := by
    obtain ⟨_, ds, -, hds, -, accepted⟩ := (elapses_actAll hquiet e).accepts hk₀
    obtain rfl : given.map .message ++ fate.calls = ds :=
      List.append_cancel_left (hcs.symm.trans hds)
    intro m hm
    rw [← new.rule]
    exact accepted m (List.mem_append_left _ (List.mem_map_of_mem hm))
  refine ⟨given, fate, k, hk, stands, heard, phase, selected, ?_, ?_⟩
  · exact fun a depth m through hj => he.dispatched heard phase depth hj through
  · exact fun a depth d u onset through => he.dropped heard phase depth onset through

/-- **Replies that the transport reports.**  If a subscription has not come to its end, each message
that came in for it and was dispatched is among those that were kept. -/
theorem Meanwhile.reported {op : Operation} {x : Errand} {before after : List Errand}
    (h : e.Meanwhile s rule (actAll (before ++ x :: after) e) given .waiting)
    (he : e.Fresh s capacity rule)
    (hx : x = .operate s.connection op ∨ ∃ r, x = .report s.connection r ∧ r.operation = op)
    (hbefore : ∀ x ∈ before, x.alters ≠ some s) (hafter : ∀ x ∈ after, x.alters ≠ some s)
    {w : Desk} (hw : (actAll before e).Hands s.connection w) {m : Message}
    (hd : op.dispatched? w = some m) (hj : rule.judge m = .accepts) : m ∈ given := by
  have through := through_errand hx hbefore hafter hw
  obtain ⟨sound, -⟩ := he.before through
  rw [Operation.exec_of_dispatched sound.live hd] at through
  rcases h.dispatched _ _ m through hj with ⟨-, ended⟩ | ⟨v, -, -, ⟨-, ended⟩ | ⟨_, _, rfl, -⟩⟩
  · exact absurd rfl ended
  · exact absurd rfl ended
  · simp

/-! ## §2. Requests -/

/-- A request on an established connection that admits sinks is subscribed. -/
theorem Hands.fresh (he : e.Sound) {c : ConnectionId} {w : Desk} (hw : e.Hands c w)
    (hs : w.line.state.isEstablished = true) (hopen : w.line.mux.closed = false)
    (hnone : w.line.mux.dropRecord = none) (factory : RuleFactory) (request : Message) :
    ∃ e₁, e.beginCorrelated c factory request = (.ok ⟨c, w.line.mux.sinks.length⟩, e₁) ∧
      e₁.Fresh ⟨c, w.line.mux.sinks.length⟩ (max e.config.sinkCapacity 1) (factory request) := by
  let stream : Listener := .stream (.withCapacity w.line.mux.capacity)
  let v : Desk := (w.subscribeWith (w.caller 0) (factory request)).2.note .transmitting
  have begun := hw.beginCorrelated hs factory request
  refine ⟨e.ofDesk v, begun, ?_, Nat.lt_of_lt_of_le Nat.zero_lt_one (Nat.le_max_right _ _), ?_⟩
  · have sound := (moves (.beginCorrelated c factory request) e).sound he
    rwa [show e.act (.beginCorrelated c factory request) = e.ofDesk v from
      congrArg Prod.snd begun] at sound
  · -- The new sink is admitted to the active set, and no callback is made.
    have admitted : v.line = (w.seat (factory request) stream).line.mapMux fun x =>
        { x with active := x.active ++ [w.line.mux.sinks.length] } := by
      have hx : (w.seat (factory request) stream).line.mux.closed = false := hopen
      have hd : (w.seat (factory request) stream).line.mux.dropRecord = none := hnone
      show (w.enrol (w.caller 0) (factory request) stream).2.line = _
      unfold Desk.enrol
      dsimp only
      rw [hx, hd]
      rfl
    have held : v.Holds c := by
      have follows : Desk.Follows (Course fun _ => True) (fun _ => True) (w.caller 0) :=
        Desk.follows_caller _
      have course := follows.enrol (factory request) stream (fun _ _ => True.intro) rfl []
        (.trivial w)
      exact (hw.holds.continues course.path.continues).of_ids rfl rfl
    let k : Sink := ⟨w.shared.issued + 1, factory request, .active, stream⟩
    refine ⟨k, Option.bind_eq_some_iff.mpr ⟨v.line, get?_ofDesk e held, ?_⟩, rfl, rfl,
      none, rfl, ?_⟩
    · rw [admitted]
      exact Desk.sink?_seat (factory request) stream w
    · show stream = .stream (Stream.newest (max e.config.sinkCapacity 1) [])
      rw [Stream.newest_nil]
      show Listener.stream (.withCapacity w.line.mux.capacity) = _
      rw [he.capacity _ hw.mem]
      unfold Stream.withCapacity
      rw [Nat.max_assoc, Nat.max_self]

end Engine

/-- **A reply that overtakes the send is kept.**  On an engine that was built, whatever it was asked
to do before, a request is sent on an established connection whose multiplexer is not closed and has
no drop on record, and the transport answers that it was sent.  Whatever errands are done in
between, the caller gets a subscription that nobody has read from.  It was given each message that
was dispatched on the connection and that the rule of the request accepts, in order, until it came
to its end, and it holds the newest of them.  If a drop found it in the active set, and nobody
disposed it before it was told, its reader gets the messages and then that drop, once, even if the
connection is up again. -/
theorem EngineBuilder.overtaking_replies {b : EngineBuilder} {e₀ : Engine}
    (hb : b.build = .ok e₀) (past : List Errand) {σ : Type} (carry : Carrier σ) (t : σ)
    {c : ConnectionId} {l : Line} (hl : (Engine.actAll past e₀).registry.get? c = some l)
    (hs : l.state = .established) (hopen : l.mux.closed = false)
    (hnone : l.mux.dropRecord = none) (factory : RuleFactory) (request : Message) :
    let e := Engine.actAll past e₀
    let s : SinkRef := ⟨c, l.mux.sinks.length⟩
    let r := e.sendCorrelatedBy carry c factory request t
    ∃ e₁, e.beginCorrelated c factory request = (.ok s, e₁) ∧
      ∀ sent during t', carry c request t e₁ = (.ok sent, during, t') →
        (∀ x ∈ during, x.alters ≠ some s) →
        r.1 = .ok s ∧ ∃ given fate,
          e₁.Meanwhile s (factory request) (Engine.actAll during e₁) given fate ∧
          ∃ q, (r.2.2.sink? s).bind Sink.buffer? = some q ∧
            q.Unread (max e.config.sinkCapacity 1) given fate := by
  intro e s r
  have he : e.Sound := Engine.sound_actAll past (sound_build hb)
  obtain ⟨w, hw, rfl⟩ := Engine.hands hl
  obtain ⟨e₁, begun, fresh⟩ := hw.fresh he (decide_eq_true hs) hopen hnone factory request
  refine ⟨e₁, begun, ?_⟩
  intro sent during t' hcarry hquiet
  obtain ⟨given, fate, k, hk, stands, meanwhile⟩ := fresh.meanwhile hquiet
  have sentBy : r = (.ok s, t', ((Engine.actAll during e₁).finishCorrelated s (.ok sent)).2) := by
    show e.sendCorrelatedBy carry c factory request t = _
    unfold Engine.sendCorrelatedBy
    rw [begun]
    dsimp only
    rw [hcarry]
    rfl
  have learnt := Engine.finishCorrelated_ok hk sent
  obtain ⟨q, hq, unread⟩ := stands.unread
  refine ⟨by rw [sentBy], given, fate, meanwhile, q, ?_, unread⟩
  rw [sentBy]
  show ((((Engine.actAll during e₁).finishCorrelated s (.ok sent)).2).sink? s).bind _ = _
  rw [learnt]
  exact hq

/-- A report overtakes its order, and the connection is lost and comes up again before the transport
has answered. -/
theorem EngineBuilder.overtaking_replies_reconnected :
    let config : ConnectionConfig :=
      ⟨"venue", .plain "FIX.4.4" "A" "B", .dialingSingleThreaded, none⟩
    let b : EngineBuilder := { hasTransport := true, connections := [config] }
    let e₀ : Engine :=
      ⟨⟨[.ofConfig config b.config.sinkCapacity], [("venue", config.id)]⟩,
        { barrier := b.barrier }, b.config, b.factory⟩
    let past : List Errand :=
      [.operate config.id (.authenticateOutbound (.empty .logon)), .operate config.id .establish]
    let order : Message := ⟨.newOrderSingle, [(Tag.clOrdId, "R1")]⟩
    let report : Message := ⟨.executionReport, [(Tag.clOrdId, "R1")]⟩
    let drop : ConnectionDropped := ⟨config.id, .disconnect, none⟩
    let t : Transport := { during := [.fromApp report, .loggedOut, .created,
      .toAdmin (.empty .logon), .loggedOn, .fromApp report] }
    let e := Engine.actAll past e₀
    let s : SinkRef := ⟨config.id, 0⟩
    let e₁ := (e.beginCorrelated config.id b.factory order).2
    let during := (Transport.carry config.id order t e₁).2.1
    let r := e.sendCorrelatedBy Transport.carry config.id b.factory order t
    b.build = .ok e₀ ∧ r.1 = .ok s ∧ r.2.2.stateOf config.id = .ok .established ∧
      e₁.Meanwhile s (b.factory order) (Engine.actAll during e₁) [report] (.dropped drop) ∧
      ∃ q, (r.2.2.sink? s).bind Sink.buffer? = some q ∧
        q.Unread e.config.sinkCapacity [report] (.dropped drop) := by
  intro config b e₀ past order report drop t e s e₁ during r
  have built : b.build = .ok e₀ := rfl
  obtain ⟨e', begun, answered⟩ := overtaking_replies built past Transport.carry t
    (c := config.id) rfl rfl rfl rfl b.factory order
  obtain rfl : e₁ = e' := congrArg Prod.snd begun
  obtain ⟨ok, given, fate, meanwhile, q, hq, unread⟩ := answered _ during _ rfl (by decide)
  have heard : [.message report] ++ [.error drop] = given.map .message ++ fate.calls :=
    calc _ = (Engine.actAll during e₁).callsTo s := by decide
      _ = e₁.callsTo s ++ (given.map .message ++ fate.calls) := by
        rw [← List.append_assoc]
        exact meanwhile.heard
      _ = given.map .message ++ fate.calls := rfl
  obtain rfl : fate = .dropped drop := Fate.dropped_of_calls (by rw [← heard]; decide)
  obtain rfl : given = [report] := by
    have same : given.map Call.message = [report].map .message :=
      List.append_cancel_right heard.symm
    exact List.map_injective_iff.mpr (fun _ _ h => Call.message.inj h) same
  exact ⟨built, ok, by decide, meanwhile, q, hq, unread⟩

/-- A close that comes before the drop.  A waiter closes the multiplexer when the report is
dispatched, and then the connection drops.  The subscription of the order has had its end by then:
its reader is told that it is closed, and never of the drop. -/
theorem Engine.drop_after_close :
    let config : ConnectionConfig :=
      ⟨"venue", .plain "FIX.4.4" "A" "B", .dialingSingleThreaded, none⟩
    let b : EngineBuilder := { hasTransport := true, connections := [config] }
    let e₀ : Engine :=
      ⟨⟨[.ofConfig config b.config.sinkCapacity], [("venue", config.id)]⟩,
        { barrier := b.barrier }, b.config, b.factory⟩
    let closer : Script Operation := ⟨[⟨[.close], false⟩], [], none⟩
    let e := Engine.actAll [.operate config.id (.authenticateOutbound (.empty .logon)),
      .operate config.id .establish, .operate config.id (.register "closer" .always closer)] e₀
    let order : Message := ⟨.newOrderSingle, [(Tag.clOrdId, "R1")]⟩
    let report : Message := ⟨.executionReport, [(Tag.clOrdId, "R1")]⟩
    let drop : ConnectionDropped := ⟨config.id, .disconnect, none⟩
    let t : Transport := { during := [.fromApp report, .loggedOut] }
    let r := e.sendCorrelatedBy Transport.carry config.id b.factory order t
    let shown : Line → ConnectionState × Bool × Option ConnectionDropped :=
      fun l => (l.state, l.mux.closed, l.mux.dropRecord)
    b.build = .ok e₀ ∧
      (e.registry.get? config.id).map shown = some (.established, false, none) ∧
      r.1 = .ok ⟨config.id, 1⟩ ∧
      (r.2.2.registry.get? config.id).map shown = some (.dropped, true, some drop) ∧
      ∃ q, (r.2.2.sink? ⟨config.id, 1⟩).bind Sink.buffer? = some q ∧
        ∀ n, q.readings n = List.replicate n (some (.error .closed)) := by
  intro config b e₀ closer e order report drop t r shown
  have closed : ((r.2.2.sink? ⟨config.id, 1⟩).bind Sink.buffer?).map
      (fun q => (q.queue, q.ending)) = some ([], some .closed) := by decide
  obtain ⟨q, hq, hend⟩ := Option.map_eq_some_iff.mp closed
  obtain ⟨hqueue, hend⟩ := Prod.mk.inj hend
  exact ⟨rfl, by decide, by decide, by decide, q, hq, Stream.readings_of_closed hqueue hend⟩

end Correlator
