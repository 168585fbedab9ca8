/-
  Correlator.Proofs.Replies — A REPLY FINDS WHO WAITS FOR IT.

  The rule of a request learns the sequence number under which the request was
  sent.  It learns a number once: one that the request carried from the start
  stays, and the number that the transport put in its place is never looked
  for.

  A message that comes in on an established connection is offered to every
  sink of the active set.  Callbacks of earlier sinks may do anything, so when
  its turn comes a sink may have left its active phase; otherwise it gets the
  message if its rule accepts it.

  Main results:
    * `Desk.visit_reaches`, `Operation.inbound_reaches` — one message,
    * `Engine.rule_of_correlated` — the rule of a request,
    * `Engine.reply_reaches` — replies by sequence number,
    * `Exchange.stamped_number_not_looked_for` — a request with a number of its own.
-/
import Correlator.Engine.Exchange
import Correlator.Proofs.Continuity
import Correlator.Proofs.Endings
namespace Correlator

/-! ## §1. One message -/

/-- The message is offered to the sink between two desks, or the sink is no longer active. -/
def Desk.Reached (m : Message) (i : Nat) (w v : Desk) : Prop :=
  (∃ news, v.shared.history = w.shared.history ++ news ∧
    ∃ x ∈ news, x.callAt? i = some (.message m)) ∨
  ∃ s, v.sink? i = some s ∧ s.phase ≠ .active

namespace Desk

/-- What happens later does not undo it. -/
theorem Reached.later {m : Message} {i : Nat} {w v u : Desk} (h : w.Reached m i v)
    (hc : Course (fun _ => True) ⟨v, []⟩ ⟨u, []⟩) : w.Reached m i u := by
  rcases h with ⟨news, hh, x, hx, hcall⟩ | ⟨s, hs, hp⟩
  · obtain ⟨more, hm⟩ := hc.path.history
    refine .inl ⟨news ++ more, ?_, x, List.mem_append_left _ hx, hcall⟩
    rw [show u.shared.history = _ from hm, hh, List.append_assoc]
  · exact .inr ⟨s, hc.sink?_of_inactive hs hp, hp⟩

/-- What happened before is only earlier. -/
theorem Reached.earlier {m : Message} {i : Nat} {w v u : Desk} (h : v.Reached m i u)
    (hc : Course (fun _ => True) ⟨w, []⟩ ⟨v, []⟩) : w.Reached m i u := by
  rcases h with ⟨news, hh, x, hx, hcall⟩ | h
  · obtain ⟨more, hm⟩ := hc.path.history
    refine .inl ⟨more ++ news, ?_, x, List.mem_append_right _ hx, hcall⟩
    rw [hh, show v.shared.history = _ from hm, List.append_assoc]
  · exact .inr h

section

variable (depth : Nat)

/-- A sink whose turn comes while it is active gets a message that its rule accepts. -/
theorem deliver_reaches {m : Message} {i : Nat} {w : Desk} {s : Sink} (hs : w.sink? i = some s)
    (hj : s.rule.judge m = .accepts) : w.Reached m i (w.deliver (callWith (perform depth)) m i).2 := by
  by_cases ha : s.phase = .active
  case neg =>
    have inactive : ¬ s.isActive = true := fun h => ha (Sink.isActive_iff.mp h)
    refine .inr ⟨s, ?_, ha⟩
    unfold deliver
    simp only [hs, hj, if_neg inactive]
  case pos =>
    have told : Course (fun _ => True) ⟨w.hear i s (.message m), []⟩
        ⟨(w.tell (callWith (perform depth)) i (.message m)).2, []⟩ :=
      (follows_caller depth).tell hs (.trivial w) (.message m) []
    have heard : w.Reached m i (w.hear i s (.message m)) := by
      obtain ⟨news, hh, -⟩ := history_hear i s (.message m) w
      exact .inl ⟨_, hh, _, List.mem_cons_self, by simp [Moment.callAt?]⟩
    rw [deliver_of_takes (takes_iff.mpr ⟨s, hs, ha, hj⟩)]
    exact heard.later told

/-- **A message reaches the sinks that want it**: whatever the callbacks of earlier sinks do, each
sink that is gone through gets it, unless the sink is no longer active. -/
theorem visit_reaches {m : Message} {i : Nat} {places : List Nat} (hi : i ∈ places) {w : Desk}
    {s : Sink} (hs : w.sink? i = some s) (hj : s.rule.judge m = .accepts) :
    w.Reached m i (visit (deliver (callWith (perform depth)) m) places w).2 := by
  have follows : Follows (Course fun _ => True) (fun _ => True) (callWith (perform depth)) :=
    follows_caller depth
  -- By induction on the places that are left, with the desk as the sinks before have left it.
  induction places generalizing w s with
  | nil => cases hi
  | cons j rest ih =>
    have first : Course (fun _ => True) ⟨w, []⟩ ⟨(w.deliver (callWith (perform depth)) m j).2, []⟩ :=
      follows.deliver m j (.trivial w) []
    rcases List.mem_cons.mp hi with rfl | hrest
    · exact (deliver_reaches depth hs hj).later
        (follows.visit_deliver m rest (.trivial _) [])
    · -- The rule is still there when the turn comes.
      obtain ⟨s', hs', hr⟩ := first.path.continues.line.rule i s hs
      rw [← hr] at hj
      exact (ih hrest hs' hj).earlier first

end

end Desk

/-- A message that comes in on an established connection reaches every sink of the active set whose
rule accepts it. -/
theorem Operation.inbound_reaches {w : Desk} {m : Message} (hm : m.kind.isRoutable = true)
    (hup : w.line.state = .established) {i : Nat} (hi : i ∈ w.line.mux.active) {s : Sink}
    (hs : w.sink? i = some s) (hj : s.rule.judge m = .accepts) :
    (∃ n, ((inbound m).exec w).1 = .tally (.ok n)) ∧ w.Reached m i ((inbound m).exec w).2 := by
  have hexec : (inbound m).exec w =
      (.tally (.ok (w.dispatchWith (w.caller 0) m).1), (w.dispatchWith (w.caller 0) m).2) := by
    show (Answer.tally (w.inboundWith _ m).1, (w.inboundWith _ m).2) = _
    rw [Desk.inboundWith_of_established hm hup]
    rfl
  rw [hexec]
  refine ⟨⟨_, rfl⟩, ?_⟩
  have visited := Desk.visit_reaches (w.budget + 0) hi hs hj
  show w.Reached m i (w.dispatchWith (Desk.callWith (Desk.perform (w.budget + 0))) m).2
  unfold Desk.dispatchWith
  dsimp only
  split
  · exact visited.later (Desk.runs_note _ [] rfl (.trivial _))
  · exact visited

/-! ## §2. Requests -/

/-- A new sink is found at its place with its rule. -/
theorem Desk.sink?_enrol {call : Caller}
    (hc : Follows (Course fun _ => True) (fun _ => True) call) (rule : Rule) (listener : Listener)
    (w : Desk) : ∃ k,
    (w.enrol call rule listener).2.sink? w.line.mux.sinks.length = some k ∧ k.rule = rule := by
  have seated : (w.seat rule listener).sink? w.line.mux.sinks.length =
      some ⟨w.shared.issued + 1, rule, .active, listener⟩ := by
    show (w.seat rule listener).line.mux.sinks[_]? = _
    rw [sinks_seat]
    simp
  have told : (w.seat rule listener).Continues (w.enrol call rule listener).2 := by
    unfold enrol
    dsimp only
    split
    case isTrue h =>
      have told : Dismissal (w.seat rule listener) w.line.mux.sinks.length .closed :=
        .late rule listener h
      exact (hc.finish .closed told [] (.trivial _)).path.continues
    case isFalse h =>
      split
      case h_1 d hd =>
        have noted : (w.seat rule listener).Continues ((w.seat rule listener).note .sinkRefused) :=
          .of_line rfl rfl (.refl _)
        have told : Dismissal ((w.seat rule listener).note .sinkRefused) w.line.mux.sinks.length
            (.error d) := .refused rule listener (Bool.eq_false_iff.mpr h) hd
        exact noted.trans (hc.finish (.dropped d) told [] (.trivial _)).path.continues
      case h_2 => exact .of_line rfl rfl (.of_sinks rfl rfl)
  exact told.line.rule _ _ seated

theorem Desk.fst_enrol (call : Caller) (rule : Rule) (listener : Listener) (w : Desk) :
    (w.enrol call rule listener).1 = ⟨w.line.id, w.line.mux.sinks.length⟩ := by
  unfold enrol
  dsimp only
  split
  · rfl
  · split <;> rfl

namespace Engine

variable {e e' : Engine} {c : ConnectionId} {s : SinkRef}

/-- A request is subscribed with the rule that its factory makes. -/
theorem beginCorrelated_eq_ok {factory : RuleFactory} {request : Message}
    (h : e.beginCorrelated c factory request = (.ok s, e')) :
    s.connection = c ∧ ∃ k, e'.sink? s = some k ∧ k.rule = factory request := by
  unfold beginCorrelated at h
  split at h
  case h_1 => cases h
  case h_2 =>
    split at h
    case h_1 => cases h
    case h_2 s' e'' hat =>
      cases h
      obtain ⟨w, hw, -, -, hs, rfl⟩ := at?_eq_some hat
      have follows : Desk.Follows (Course fun _ => True) (fun _ => True) (w.caller 0) :=
        Desk.follows_caller _
      let stream : Listener := .stream (.withCapacity w.line.mux.capacity)
      let v := (w.enrol (w.caller 0) (factory request) stream).2
      have hs : s = ⟨w.line.id, w.line.mux.sinks.length⟩ :=
        hs.symm.trans (w.fst_enrol (w.caller 0) (factory request) stream)
      have course : Course (fun _ => True) ⟨w, []⟩ ⟨v, []⟩ :=
        follows.enrol (factory request) stream (fun _ _ => True.intro) rfl [] (.trivial w)
      obtain ⟨k, hk, hr⟩ := w.sink?_enrol follows (factory request) stream
      subst hs
      refine ⟨hw.line, k, ?_, hr⟩
      have hline : (e.ofDesk (v.note .transmitting)).registry.get? w.line.id = some v.line := by
        rw [hw.line]
        have held : v.Holds c := hw.continues course.path.continues
        exact get?_ofDesk e (held.continues (.of_line rfl rfl (.refl _)))
      exact Option.bind_eq_some_iff.mpr ⟨v.line, hline, hk⟩

/-- The rule learns how the request was sent. -/
theorem finishCorrelated_ok {k : Sink} (hk : e.sink? s = some k) (sent : Message) :
    (e.finishCorrelated s (.ok sent)).2.sink? s =
      some { k with rule := k.rule.onSent sent } := by
  obtain ⟨l, hl, hk⟩ := Option.bind_eq_some_iff.mp hk
  obtain ⟨w, hw, rfl, -, hat⟩ := at?_of_get? hl
  let v := (w.mapSink s.place fun k => { k with rule := k.rule.onSent sent }).note .awaitingReplies
  have hv : (e.ofDesk v).registry.get? s.connection = some v.line :=
    get?_ofDesk e ⟨hw.before, hw.line⟩
  have done : (e.finishCorrelated s (.ok sent)).2 = e.ofDesk v := by
    show e.onLine s.connection _ = _
    unfold onLine
    rw [hat]
  rw [done]
  exact Option.bind_eq_some_iff.mpr ⟨v.line, hv, Desk.sink?_mapSink_self (w := w) _ hk⟩

end Engine

namespace ReferenceRule

/-- What a reference rule looks for once its request was sent: the number that the request carried,
or else the one under which it was sent. -/
theorem onSent_rule (f : ReferenceFactory) (request sent : Message) :
    ((f.rule request).onSent sent).requestSeq = request.seqNum?.orElse fun _ => sent.seqNum? := rfl

/-- A reply that refers to the number that the rule looks for is accepted. -/
theorem judge_of_requestSeq {r : ReferenceRule} {n : SeqNum} (hn : r.requestSeq = some n)
    {m : Message} (hm : m.word? Tag.refSeqNum = some n.value) : r.judge m = .accepts := by
  have repeated : r.repeatsSeq m = true := by simp [repeatsSeq, hn, hm]
  unfold judge
  rw [if_pos repeated, ite_self]

end ReferenceRule

namespace Engine

variable {e e' : Engine} {c : ConnectionId} {f : ReferenceFactory} {request : Message}
  {s : SinkRef}

/-- **The rule of a request.**  A request is subscribed, anything happens while it is on its way,
the transport answers with the message as it was sent, and anything happens after that: the sink
has the rule of its factory, which has learnt the message that was sent. -/
theorem rule_of_correlated {factory : RuleFactory}
    (h : e.beginCorrelated c factory request = (.ok s, e'))
    (during : List (ConnectionId × Operation)) (sent : Message)
    (later : List (ConnectionId × Operation)) : s.connection = c ∧
    ∃ k, (execAll later ((execAll during e').finishCorrelated s (.ok sent)).2).sink? s = some k ∧
      k.rule = (factory request).onSent sent := by
  obtain ⟨hc, k, hk, hr⟩ := beginCorrelated_eq_ok h
  obtain ⟨k₁, hk₁, hr₁⟩ := (execAll_continues during e').sink? hk
  have learnt := finishCorrelated_ok hk₁ sent
  obtain ⟨k₂, hk₂, hr₂⟩ := (execAll_continues later _).sink? learnt
  refine ⟨hc, k₂, hk₂, ?_⟩
  rw [hr₂, hr₁, hr]

/-- **Replies by sequence number.**  A request goes out under a number, and it carried that number
before or none that can be read.  Then whatever happens on whatever connections, a reject or an
application message that refers to the number and comes in while the connection is established
reaches the subscription, if its sink is in the active set: the sink gets the message, or it is no
longer active when its turn comes. -/
theorem reply_reaches (h : e.beginCorrelated c (.reference f) request = (.ok s, e'))
    (during later : List (ConnectionId × Operation)) {sent : Message} {n : SeqNum}
    (hsent : sent.seqNum? = some n) (hown : ∀ n', request.seqNum? = some n' → n' = n) :
    let v := execAll later ((execAll during e').finishCorrelated s (.ok sent)).2
    ∀ l m, v.registry.get? c = some l → l.state = .established → s.place ∈ l.mux.active →
      m.kind.isRoutable = true → m.word? Tag.refSeqNum = some n.value →
      ∃ tally v', v.exec (.inbound m) c = some (.tally (.ok tally), v') ∧
        ((∃ news, v'.shared.history = v.shared.history ++ news ∧
          ∃ y ∈ news, y.callAt? s.place = some (.message m)) ∨
        ∃ k, v'.sink? s = some k ∧ k.phase ≠ .active) := by
  intro v l m hl hup hi hm href
  obtain ⟨rfl, k, hk, hr⟩ := rule_of_correlated h during sent later
  -- The rule looks for the number that went out, even if the request had it before.
  have accepts : k.rule.judge m = .accepts := by
    have seq : ((f.rule request).onSent sent).requestSeq = some n := by
      rw [ReferenceRule.onSent_rule, hsent]
      cases hq : request.seqNum? with
      | none => rfl
      | some n' => rw [hown n' hq]; rfl
    rw [hr]
    exact ReferenceRule.judge_of_requestSeq seq href
  obtain ⟨w, hw, rfl, hshared, hat⟩ := at?_of_get? hl
  obtain ⟨l', hl', hsink⟩ := Option.bind_eq_some_iff.mp hk
  obtain rfl : l' = w.line := Option.some.inj (hl'.symm.trans hl)
  obtain ⟨⟨tally, htally⟩, reached⟩ := Operation.inbound_reaches hm hup hi hsink accepts
  have hexec : v.exec (.inbound m) s.connection = _ := hat (Operation.inbound m).exec
  rw [htally] at hexec
  refine ⟨tally, _, hexec, ?_⟩
  rcases reached with ⟨news, hh, y, hy, hcall⟩ | ⟨k', hk', hp⟩
  · refine .inl ⟨news, ?_, y, hy, hcall⟩
    show ((Operation.inbound m).exec w).2.shared.history = _
    rw [hh, hshared]
  · refine .inr ⟨k', ?_, hp⟩
    have after := hw.continues ((Operation.inbound m).exec_path w []).continues
    exact Option.bind_eq_some_iff.mpr ⟨_, get?_ofDesk v after, hk'⟩

/-- An order without a number of its own goes out under the number 1, and the reject of the message
with that number reaches its subscription. -/
theorem reply_reaches_order :
    let config : ConnectionConfig :=
      ⟨"venue", .plain "FIX.4.4" "A" "B", .dialingSingleThreaded, none⟩
    let engine : Engine :=
      ⟨⟨[.ofConfig config 4], [("venue", config.id)]⟩, { barrier := ⟨[], 0⟩ }, {},
        .reference .standard⟩
    let up := execAll
      [(config.id, .authenticateOutbound (.empty .logon)), (config.id, .establish)] engine
    let request : Message := ⟨.newOrderSingle, [(Tag.clOrdId, "R1")]⟩
    let sent := request.set Tag.msgSeqNum "1"
    let reject : Message := ⟨.reject, [(Tag.refSeqNum, "1")]⟩
    let v := ((up.beginCorrelated config.id (.reference .standard) request).2.finishCorrelated
      ⟨config.id, 0⟩ (.ok sent)).2
    ∃ tally v', v.exec (.inbound reject) config.id = some (.tally (.ok tally), v') ∧
      ((∃ news, v'.shared.history = v.shared.history ++ news ∧
        ∃ y ∈ news, y.callAt? 0 = some (.message reject)) ∨
      ∃ k, v'.sink? ⟨config.id, 0⟩ = some k ∧ k.phase ≠ .active) := by
  intro config engine up request sent reject v
  have begun : up.beginCorrelated config.id (.reference .standard) request =
      (.ok ⟨config.id, 0⟩, (up.beginCorrelated config.id (.reference .standard) request).2) := rfl
  have unnumbered : ∀ n, request.seqNum? = some n → n = ⟨1⟩ := by
    intro n h
    cases h
  have numbered : sent.seqNum? = some ⟨1⟩ := by decide
  exact reply_reaches begun [] [] numbered unnumbered _ reject rfl rfl (by decide) (by decide)
    (by decide)

end Engine

namespace Exchange

/-- A request carries the number 5 and goes out under the number 1.  A reject of the message with
the number 1 comes in, and the subscription is active and gets nothing. -/
theorem stamped_number_not_looked_for :
    let config : ConnectionConfig :=
      ⟨"venue", .plain "FIX.4.4" "A" "B", .dialingSingleThreaded, none⟩
    let engine : Engine :=
      ⟨⟨[.ofConfig config 4], [("venue", config.id)]⟩, { barrier := ⟨[], 0⟩ }, {},
        .reference .standard⟩
    let up := Engine.execAll
      [(config.id, .authenticateOutbound (.empty .logon)), (config.id, .establish)] engine
    let request : Message := ⟨.newOrderSingle, [(Tag.clOrdId, "R1"), (Tag.msgSeqNum, "5")]⟩
    let sent := sendCorrelated config.id (.reference .standard) request { engine := up }
    let rejected := Engine.execAll
      [(config.id, .inbound ⟨.reject, [(Tag.refSeqNum, "1")]⟩)] sent.2.engine
    sent.1.toOption = some ⟨config.id, 0⟩ ∧
    sent.2.transport.taken.head?.bind (fun t => t.2.seqNum?) = some ⟨1⟩ ∧
    (rejected.stateOf config.id).toOption = some .established ∧
    (rejected.sink? ⟨config.id, 0⟩).map (fun s => (s.phase, s.buffer?.map Stream.queue)) =
      some (.active, some []) := by
  intro config engine up request sent rejected
  exact ⟨by decide, by decide, by decide, by decide⟩

end Exchange

end Correlator
