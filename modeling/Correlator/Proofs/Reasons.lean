/-
  Correlator.Proofs.Reasons — THE CAUSE AND THE REASON OF EVERY DROP.

  Whoever waits on a connection is told why it was lost.  A message that came
  with the loss gives the reason, and the cause is the one that was named.
  Without a message a disconnect is blamed on the last logout that went out since
  the connection last came up or was lost; any other loss has no reason.

  So what is said about a loss is a function of what happened before it, however
  operations and callbacks were ordered.  It hangs on one thing of all that
  happened, the logout that is pending.  A logout sets it; the connection that
  comes up, and one that is lost, takes it; refused steps, losses of what is lost
  already, handshakes that are turned away and all other traffic leave it.

  Main results:
    * `Accounted`, `Accounted.unique` — what is said about a loss,
    * `Moment.Attributed.accounted`, `Stage.Attributed.accounted` — and is said,
    * `Path.outcome`, `Desk.notified_broadcast` — who is told,
    * `Operation.pending`, `Operation.pending_run` — the logout that is pending,
    * `Operation.reasons_execAll` — every run.
-/
import Correlator.Proofs.Passages
import Correlator.Proofs.Reticence
namespace Correlator

open History

/-! ## §1. What is said about a loss -/

/-- The logout that goes out at a moment. -/
def Moment.logout? (x : Moment) : Option Message :=
  match x.event with
  | .loggedOut m => some m
  | _ => none

/-- The last logout since the connection last came up or was lost. -/
def History.LastLogout (h : List Moment) (m : Message) : Prop :=
  Last Moment.logout? (fun x => x.event.endsGoodbye) h m

/-- The reason that a message gives is its text, and none if that says nothing. -/
def Message.Gives (m : Message) (reason : Option String) : Prop :=
  ∀ text, reason = some text ↔ m.get? Tag.text = some text ∧ text ≠ ""

/-- What is said about the loss of a connection after a history, for a cause and with a message or
without. -/
inductive Accounted (c : ConnectionId) (h : List Moment) :
    DropCause → Option Message → ConnectionDropped → Prop
  /-- The message that comes with the loss gives the reason. -/
  | message {cause : DropCause} {m : Message} {reason : Option String} (hr : m.Gives reason) :
      Accounted c h cause (some m) ⟨c, cause, reason⟩
  /-- A logout that went out explains a disconnect. -/
  | logout {m : Message} {reason : Option String} (hm : LastLogout h m) (hr : m.Gives reason) :
      Accounted c h .disconnect none ⟨c, .logout, reason⟩
  /-- Nothing explains the loss. -/
  | bare {cause : DropCause} (hn : cause = .disconnect → ∀ m, ¬ LastLogout h m) :
      Accounted c h cause none ⟨c, cause, none⟩

theorem Moment.logout?_of_not_ends (x : Moment) (h : x.event.endsGoodbye = false) :
    x.logout? = none := by
  unfold logout?
  split
  case h_1 he =>
    rw [he] at h
    cases h
  case h_2 => rfl

theorem Moment.goodbye?_eq_map (x : Moment) :
    x.event.goodbye? = x.logout?.map fun m => (m.get? Tag.text).getD "" := by
  unfold Event.goodbye? logout?
  cases x.event <;> rfl

/-- The last goodbye is the text of the last logout. -/
theorem History.lastGoodbye_iff {h : List Moment} {text : String} : LastGoodbye h text ↔
    ∃ m, LastLogout h m ∧ (m.get? Tag.text).getD "" = text := by
  unfold LastGoodbye LastLogout Last
  simp only [Moment.goodbye?_eq_map, Option.map_eq_some_iff]
  constructor
  · rintro ⟨h₁, x, h₂, heq, ⟨m, hm, htext⟩, hn⟩
    exact ⟨m, ⟨h₁, x, h₂, heq, hm, hn⟩, htext⟩
  · rintro ⟨m, ⟨h₁, x, h₂, heq, hm, hn⟩, htext⟩
    exact ⟨h₁, x, h₂, heq, ⟨m, hm, htext⟩, hn⟩

theorem History.LastLogout.unique {h : List Moment} {m n : Message} (hm : LastLogout h m)
    (hn : LastLogout h n) : m = n := by
  unfold LastLogout at hm hn
  induction h using List.reverseRecOn with
  | nil => exact absurd hm not_last_nil
  | append_singleton h x ih =>
    rw [last_concat] at hm hn
    rcases hm with hm | ⟨ends, hm⟩
    · rcases hn with hn | ⟨ends, -⟩
      · exact Option.some.inj (hm.symm.trans hn)
      · rw [x.logout?_of_not_ends ends] at hm
        cases hm
    · rcases hn with hn | ⟨-, hn⟩
      · rw [x.logout?_of_not_ends ends] at hn
        cases hn
      · exact ih hm hn

namespace Message

theorem Gives.unique {m : Message} {r r' : Option String} (h : m.Gives r) (h' : m.Gives r') :
    r = r' := Option.ext fun text => (h text).trans (h' text).symm

/-- An empty text says no more than none. -/
theorem gives_stated (m : Message) : m.Gives (Desk.stated (m.get? Tag.text)) := by
  intro text
  unfold Desk.stated
  simp [Option.filter_eq_some_iff]

theorem gives_stated_getD (m : Message) :
    m.Gives (Desk.stated (some ((m.get? Tag.text).getD ""))) := by
  intro text
  rw [← m.gives_stated text]
  cases m.get? Tag.text <;> rfl

end Message

namespace Accounted

variable {c : ConnectionId} {h : List Moment} {cause : DropCause} {m : Option Message}
  {d d' : ConnectionDropped}

/-- **One thing is said about a loss.** -/
theorem unique (hd : Accounted c h cause m d) (hd' : Accounted c h cause m d') : d = d' := by
  cases hd with
  | message hr =>
    cases hd' with
    | message hr' => rw [hr.unique hr']
  | logout hm hr =>
    cases hd' with
    | logout hm' hr' =>
      obtain rfl := hm.unique hm'
      rw [hr.unique hr']
    | bare hn => exact absurd hm (hn rfl _)
  | bare hn =>
    cases hd' with
    | logout hm' => exact absurd hm' (hn rfl _)
    | bare => rfl

/-- What is explained with the text of the last goodbye is what is said. -/
theorem of_explain {sent : Option String} (hs : ∀ text, sent = some text ↔ LastGoodbye h text) :
    Accounted c h cause m ⟨c, (Desk.explain cause m sent).1, (Desk.explain cause m sent).2⟩ := by
  cases m with
  | some m => exact .message m.gives_stated
  | none =>
    cases sent with
    | none =>
      refine .bare fun _ m hm => ?_
      cases (hs _).mpr (lastGoodbye_iff.mpr ⟨m, hm, rfl⟩)
    | some text =>
      obtain ⟨m, hm, rfl⟩ := lastGoodbye_iff.mp ((hs text).mp rfl)
      unfold Desk.explain
      dsimp only
      split
      case isTrue hc =>
        subst hc
        exact .logout hm m.gives_stated_getD
      case isFalse hc => exact .bare fun h => absurd h hc

end Accounted

/-- If a connection is lost at the moment, that is said about it. -/
def Moment.Accounted (c : ConnectionId) (h : List Moment) (x : Moment) : Prop :=
  ∀ cause m d, x.event = .lost cause m d → Correlator.Accounted c h cause m d

theorem Moment.Attributed.accounted {c : ConnectionId} {h : List Moment} {x : Moment}
    (hx : x.Attributed c h) : x.Accounted c h := by
  intro cause m d he
  obtain ⟨sent, hs, rfl⟩ := hx cause m d he
  exact .of_explain hs

/-- The drop of the connection in hand is what is said about its loss. -/
theorem Stage.Attributed.accounted {c : ConnectionId} {a : Stage} (ha : a.Attributed c)
    (cause : DropCause) (m : Option Message) :
    Accounted c a.desk.shared.history cause m (a.desk.lossOf cause m) := by
  rw [← ha.own]
  exact .of_explain ha.text

/-! ## §2. Who is told -/

/-- **How a sink fares on a path.**  One that is active hears messages, and then perhaps what ends
it. -/
theorem Path.outcome {a b : Stage} (h : Path a b) (ha : a.Sound) {s : SinkRef}
    (hown : a.desk.line.id = s.connection)
    (hp : a.desk.line.mux.phase? s.place = some .active) : ∃ given : List Message,
      (b.desk.line.mux.phase? s.place = some .active ∧
        b.desk.callsTo s = a.desk.callsTo s ++ given.map .message) ∨
      ∃ e q, Phase.Ends e q ∧ b.desk.line.mux.phase? s.place = some q ∧
        b.desk.callsTo s = a.desk.callsTo s ++ (given.map .message ++ e.call?.toList) := by
  obtain ⟨news, hh, here⟩ := h.here
  obtain ⟨q, z, hq, hz, through⟩ := h.signals ha hp
  have word : callsAt s.place news = z.filterMap Signal.call? := by
    rw [hh, signalsAt_append] at hz
    rw [callsAt_eq a.desk.line.id, List.append_cancel_left hz]
  have heard := Desk.callsTo_of_history hown hh here
  rw [word] at heard
  rcases Phase.through_active through with ⟨rfl, messages⟩ | ⟨x, e, y, rfl, messages, ends, vain⟩
  · obtain ⟨given, hgiven⟩ := Signal.filterMap_call?_of_messages messages
    exact ⟨given, .inl ⟨hq, by rw [heard, hgiven]⟩⟩
  · obtain ⟨given, hgiven⟩ := Signal.filterMap_call?_of_messages messages
    refine ⟨given, .inr ⟨e, q, ends, hq, ?_⟩⟩
    rw [heard, List.filterMap_append, hgiven, List.filterMap_cons,
      Signal.filterMap_call?_of_vain vain]
    cases e.call? <;> rfl

section

variable {a b : Stage} {s : SinkRef}

/-- A sink whose first callback is that of a drop hears nothing else. -/
theorem Path.told (h : Path a b) (ha : a.Sound) (hown : a.desk.line.id = s.connection)
    (hp : a.desk.line.mux.phase? s.place = some .active) {d : ConnectionDropped}
    {rest : List Call} (called : b.desk.callsTo s = a.desk.callsTo s ++ .error d :: rest) :
    b.desk.line.mux.phase? s.place = some .terminated ∧
      b.desk.callsTo s = a.desk.callsTo s ++ [.error d] := by
  obtain ⟨given, ⟨-, heard⟩ | ⟨e, q, ends, hq, heard⟩⟩ := h.outcome ha hown hp
  · have word := List.append_cancel_left (called.symm.trans heard)
    cases given <;> cases word
  · have word := List.append_cancel_left (called.symm.trans heard)
    cases given with
    | cons => cases word
    | nil =>
      cases ends with
      | error d' =>
        obtain ⟨same, -⟩ := List.cons.inj word
        cases same
        exact ⟨hq, heard⟩
      | closed => cases word
      | disposal => cases word

/-- A sink that has ended though it is still owed its end has been disposed. -/
theorem Path.disposed (h : Path a b) (ha : a.Sound) (hown : a.desk.line.id = s.connection)
    (hp : a.desk.line.mux.phase? s.place = some .active)
    (hout : s.place ∉ a.desk.line.mux.active)
    (howed : b.owed.count s.place = a.owed.count s.place)
    (hq : b.desk.line.mux.phase? s.place ≠ some .active) : ∃ given : List Message,
      b.desk.line.mux.phase? s.place = some .disposed ∧
        b.desk.callsTo s = a.desk.callsTo s ++ given.map .message := by
  obtain ⟨given, ⟨hactive, -⟩ | ⟨e, q, ends, hphase, heard⟩⟩ := h.outcome ha hown hp
  · exact absurd hactive hq
  · obtain ⟨-, news, hh, only⟩ := h.unfinished (Multiplexer.lt_of_phase? hp) hout
    obtain ⟨_, hh', here⟩ := h.here
    obtain rfl : news = _ := List.append_cancel_left (hh.symm.trans hh')
    have word : callsAt s.place news = given.map .message ++ e.call?.toList :=
      List.append_cancel_left ((Desk.callsTo_of_history hown hh here).symm.trans heard)
    have messages : ∀ c, e.call? = some c → c.message?.isSome = true := by
      intro c he
      refine only howed c ?_
      rw [word, he]
      simp
    cases ends with
    | error d => cases messages _ rfl
    | closed => cases messages _ rfl
    | disposal => exact ⟨given, hphase, by rw [heard]; exact congrArg (_ ++ ·) (List.append_nil _)⟩

end

namespace Desk

/-- A sink is told of a drop between two desks and ends with that, or it is disposed before it can
be told. -/
def Notified (d : ConnectionDropped) (i : Nat) (w v : Desk) : Prop :=
  ∃ given : List Message,
    (v.line.mux.phase? i = some .terminated ∧
      v.callsTo ⟨w.line.id, i⟩ = w.callsTo ⟨w.line.id, i⟩ ++ given.map .message ++ [.error d]) ∨
    (v.line.mux.phase? i = some .disposed ∧
      v.callsTo ⟨w.line.id, i⟩ = w.callsTo ⟨w.line.id, i⟩ ++ given.map .message)

/-- **A broadcast reaches every sink that was active**, whatever the callbacks do, unless one of
them disposes it first. -/
theorem notified_broadcast {w : Desk} {owed : List Nat} (hw : Stage.Sound ⟨w, owed⟩) (depth : Nat)
    (d : ConnectionDropped) {i : Nat} (hi : i ∈ w.line.mux.active) :
    Notified d i w (w.broadcastWith (callWith (perform depth)) d).2 := by
  let s : SinkRef := ⟨w.line.id, i⟩
  have vacated : Stage.Sound ⟨w.vacate d, w.line.mux.active ++ owed⟩ :=
    Step.sound (.shift (.drain d)) hw
  have active : (w.vacate d).line.mux.phase? i = some .active := hw.orderly.seated i hi
  obtain ⟨v, -, hplace, earlier, later, hactive, toTurn, turn, rest⟩ :=
    broadcast_turn depth owed d hi
  let after : Desk := (v.outcome (terminate (callWith (perform depth)) d)).2
  have soundTurn : Stage.Sound ⟨v.desk, i :: (later ++ owed)⟩ := toTurn.keeps Step.sound vacated
  have soundAfter : Stage.Sound ⟨after, later ++ owed⟩ := turn.keeps Step.sound soundTurn
  have own : v.desk.line.id = s.connection := toTurn.id
  have ownAfter : after.line.id = s.connection := turn.id.trans own
  -- Once it has ended it hears nothing more.
  have silent : ∀ {q : Phase}, q ≠ .active → after.line.mux.phase? i = some q →
      (w.broadcastWith (callWith (perform depth)) d).2.line.mux.phase? i = some q ∧
      (w.broadcastWith (callWith (perform depth)) d).2.callsTo s = after.callsTo s := by
    intro q hq hphase
    obtain ⟨p, cs, hp, hcs, -, ended⟩ := rest.callsTo soundAfter (s := s) ownAfter hphase
    obtain ⟨rfl, rfl⟩ := ended hq
    exact ⟨hp, hcs.trans (List.append_nil _)⟩
  by_cases hp : v.desk.line.mux.phase? i = some .active
  case pos =>
    obtain ⟨_, _, hp', hcs, messages, -⟩ := toTurn.callsTo vacated (s := s) rfl active
    obtain ⟨given, rfl⟩ := messages (Option.some.inj (hp'.symm.trans hp))
    obtain ⟨k, hk, hka⟩ := Option.map_eq_some_iff.mp hp
    have told : v.outcome (terminate (callWith (perform depth)) d) =
        v.desk.finish (callWith (perform depth)) .terminated (.error d) i := by
      rw [← hplace]
      rfl
    obtain ⟨news, hh⟩ := history_finish (follows_caller depth) .terminated (.error d) hk hka
    rw [← told] at hh
    have shown : (v.desk.mapSink i fun k => { k with phase := .terminated }).line.id =
        s.connection := own
    obtain ⟨hterminated, hcalled⟩ :=
      turn.told soundTurn own hp (callsTo_of_called (s := s) shown hh)
    obtain ⟨hphase, hcalls⟩ := silent (by decide) hterminated
    exact ⟨given, .inl ⟨hphase, hcalls.trans (hcalled.trans (congrArg (· ++ _) hcs))⟩⟩
  case neg =>
    have howed : (i :: (later ++ owed)).count i = (w.line.mux.active ++ owed).count i :=
      count_owed hw.orderly.ascending hactive
    obtain ⟨given, hdisposed, hcalled⟩ :=
      toTurn.disposed vacated (s := s) rfl active List.not_mem_nil howed hp
    obtain ⟨_, _, hp', hcs, -, ended⟩ := turn.callsTo soundTurn (s := s) own hdisposed
    obtain ⟨rfl, rfl⟩ := ended (by decide)
    obtain ⟨hphase, hcalls⟩ := silent (by decide) hp'
    exact ⟨given, .inr ⟨hphase, hcalls.trans (hcs.trans ((List.append_nil _).trans hcalled))⟩⟩

end Desk

/-! ## §3. The logout that is pending -/

namespace Operation

/-- The logout that is pending after an operation on a desk, if one was pending before or none. -/
def pending (w : Desk) (sent : Option Message) : Operation → Option Message
  | outboundAdmin m => if m.kind = .logout then some m else sent
  | establish => if w.line.state.canBecome .established then none else sent
  | drop _ _ => if w.line.state = .dropped then sent else none
  | inbound m => if m.kind = .logout ∧ w.line.state ≠ .dropped then none else sent
  | _ => sent

/-- The logout that is pending after operations, each on the desk that those before have left. -/
def pendingAll : List Operation → Desk → Option Message → Option Message
  | [], _, sent => sent
  | op :: rest, w, sent => pendingAll rest (op.exec w).2 (op.pending w sent)

variable {op : Operation} {w : Desk} {sent : Option Message}

theorem pending_of_reticent (h : op.Reticent) : op.pending w sent = sent := by
  cases op with
  | establish => cases h
  | drop => cases h
  | outboundAdmin m => exact if_neg (of_decide_eq_false h)
  | inbound m => exact if_neg fun hm => of_decide_eq_false h hm.1
  | _ => rfl

end Operation

/-- Which logout was the last is settled by the moments that decide. -/
theorem Desk.lastLogout_iff {w : Desk} {m : Message} :
    LastLogout w.shared.history m ↔
      Last Moment.logout? (fun x => x.event.endsGoodbye) w.shared.goodbyes m :=
  (last_filter Moment.logout?_of_not_ends w.shared.history).symm

namespace Desk.Hushed

variable {law : Operation → Prop} {w v : Desk} {decided : List Moment}

theorem lastLogout_iff (h : w.Hushed law decided) (hv : v.Hushed law decided) {m : Message} :
    LastLogout v.shared.history m ↔ LastLogout w.shared.history m := by
  rw [Desk.lastLogout_iff, Desk.lastLogout_iff, h.goodbyes, hv.goodbyes]

/-- After a moment that decides, a logout is pending exactly if it went out then. -/
theorem lastLogout_concat {x : Moment} (hx : x.event.endsGoodbye = true)
    (hv : v.Hushed law (decided ++ [x])) {m : Message} :
    LastLogout v.shared.history m ↔ x.logout? = some m := by
  rw [Desk.lastLogout_iff, hv.goodbyes, last_concat, hx]
  simp

end Desk.Hushed

namespace Operation

variable {op : Operation} {w : Desk} {sent : Option Message}

/-- **What an operation does to the logout that is pending**, given callbacks that are hushed. -/
theorem pending_run {law : Operation → Prop} {call : Caller} (hc : Desk.Hushes law call)
    (hb : op.Brings law) (hw : w.Obeys law)
    (hsent : ∀ m, LastLogout w.shared.history m ↔ sent = some m) :
    (op.run call w).2.Obeys law ∧
      ∀ m, LastLogout (op.run call w).2.shared.history m ↔ op.pending w sent = some m := by
  have hushed : w.Hushed law w.shared.goodbyes := ⟨rfl, hw⟩
  have kept : ∀ {v : Desk}, v.Hushed law w.shared.goodbyes → op.pending w sent = sent →
      v.Obeys law ∧
        ∀ m, LastLogout v.shared.history m ↔ op.pending w sent = some m := by
    intro v hv hp
    rw [hp]
    exact ⟨hv.obeys, fun m => (hushed.lastLogout_iff hv).trans (hsent m)⟩
  have decided : ∀ {v : Desk} {x : Moment}, x.event.endsGoodbye = true →
      v.Hushed law (w.shared.goodbyes ++ [x]) → op.pending w sent = x.logout? →
      v.Obeys law ∧
        ∀ m, LastLogout v.shared.history m ↔ op.pending w sent = some m := by
    intro v x hx hv hp
    rw [hp]
    exact ⟨hv.obeys, fun m => Desk.Hushed.lastLogout_concat hx hv⟩
  have dropped : ∀ (cause : DropCause) (m : Option Message),
      op.pending w sent = (if w.line.state = .dropped then sent else none) →
      (w.dropWith call cause m).2.Obeys law ∧
        ∀ g, LastLogout (w.dropWith call cause m).2.shared.history g ↔
          op.pending w sent = some g := by
    intro cause m hp
    rcases hushed.drop hc cause m with ⟨hs, heq⟩ | ⟨hs, l, hv⟩
    · rw [heq]
      exact kept (hushed.note rfl) (hp.trans (if_pos hs))
    · exact decided rfl hv (hp.trans (if_neg hs))
  by_cases hr : op.Reticent
  case pos => exact kept (hushed.run hc hr hb) (pending_of_reticent hr)
  case neg =>
    have bears : op.bearsOnGoodbye = true := by simpa using hr
    cases op with
    | establish =>
      rcases hushed.establish with ⟨hs, heq⟩ | ⟨hs, l, hv⟩
      · show (w.establish.2).Obeys _ ∧ _
        refine kept (v := w.establish.2) ?_ (if_neg (by simp [hs]))
        rw [heq]
        exact hushed.note rfl
      · exact decided rfl hv (if_pos hs)
    | drop cause m => exact dropped cause m rfl
    | outboundAdmin m =>
      have hm : m.kind = .logout := of_decide_eq_true bears
      have said : (w.outboundAdmin m).2 = w.sayGoodbye m := by
        unfold Desk.outboundAdmin
        rw [hm]
      have spoken : (w.sayGoodbye m).Hushed law _ :=
        Desk.Hushed.settle (w := w.mapLine fun l =>
          { l with logoutText := some ((m.get? Tag.text).getD "") }) (e := .loggedOut m)
          (hushed.of_sinks rfl rfl) rfl
      rw [← said] at spoken
      exact decided rfl spoken (if_pos hm)
    | inbound m =>
      have hm : m.kind = .logout := of_decide_eq_true bears
      have lost := congrArg Prod.snd (Desk.inboundWith_of_logout (w := w) hm call)
      have told := dropped .logout (some m) (by simp [pending, hm])
      show (w.inboundWith call m).2.Obeys _ ∧ _
      rw [← lost] at told
      exact told
    | _ => cases bears

/-- **Over a run** the logout that is pending is known from the operations, as long as no script
holds an operation that bears on it. -/
theorem pendingAll_execAll {ops : List Operation} (hops : ∀ op ∈ ops, op.Brings Reticent)
    (hw : w.Obeys Operation.Reticent)
    (hsent : ∀ m, LastLogout w.shared.history m ↔ sent = some m) :
    (execAll ops w).2.Obeys Operation.Reticent ∧
      ∀ m, LastLogout (execAll ops w).2.shared.history m ↔ pendingAll ops w sent = some m := by
  induction ops generalizing w sent with
  | nil => exact ⟨hw, hsent⟩
  | cons op rest ih =>
    obtain ⟨hop, hrest⟩ := List.forall_mem_cons.mp hops
    obtain ⟨obeys, last⟩ :=
      pending_run (Desk.hushes_caller (w.budget + op.weight)) hop hw hsent
    exact ih hrest obeys last

end Operation

/-! ## §4. A loss -/

/-- A connection that was there is lost at a stage, and the drop is what is said about it. -/
structure Announced (cause : DropCause) (m : Option Message) (d : ConnectionDropped) (a : Stage)
    (v : Desk) : Prop where
  /-- This is said about the loss, and nothing else. -/
  accounted : ∀ d', Accounted a.desk.line.id a.desk.shared.history cause m d' ↔ d' = d
  /-- Before any callback the loss is written down, the drop is on record, and no logout is pending
  any more. -/
  recorded : ∃ u l, Path a ⟨u, a.desk.line.mux.active ++ a.owed⟩ ∧
    Path ⟨u, a.desk.line.mux.active ++ a.owed⟩ ⟨v, a.owed⟩ ∧
    u.shared.history = a.desk.shared.history ++
      [⟨.lost cause m d, some l⟩, ⟨.noted .connectionDropped, some l⟩] ∧
    u.line.state = .dropped ∧ u.line.mux.dropRecord = some d ∧
    ∀ sent, ¬ LastLogout u.shared.history sent
  /-- Everyone who was waiting is told. -/
  notified : ∀ i ∈ a.desk.line.mux.active, a.desk.Notified d i v

theorem Desk.history_goDown (cause : DropCause) (m : Option Message) (w : Desk) :
    (w.goDown cause m).shared.history = w.shared.history ++
      [⟨.lost cause m (w.lossOf cause m), some (w.goDown cause m).line⟩,
        ⟨.noted .connectionDropped, some (w.goDown cause m).line⟩] := by
  let v : Desk := w.mapLine fun l => { l with state := .dropped, logoutText := none }
  have lost := Desk.history_record (.lost cause m (w.lossOf cause m)) v
  have noted := Desk.history_record (.noted .connectionDropped)
    (v.record (.lost cause m (w.lossOf cause m)))
  rw [lost, List.append_assoc] at noted
  exact noted

theorem Desk.announced {c : ConnectionId} {a : Stage} (hs : a.Sound) (ha : a.Attributed c)
    (depth : Nat) (cause : DropCause) (m : Option Message) (hup : a.desk.line.state ≠ .dropped) :
    Announced cause m (a.desk.lossOf cause m) a
      (a.desk.dropWith (callWith (perform depth)) cause m).2 := by
  have history := a.desk.history_goDown cause m
  have down : Path a ⟨a.desk.goDown cause m, a.owed⟩ := .single (.turn (.drop cause m hup))
  rw [dropWith_of_not_dropped hup]
  constructor
  case accounted =>
    have own := ha.accounted cause m
    rw [← ha.own] at own
    intro d'
    constructor
    · exact fun h => h.unique own
    · rintro rfl
      exact own
  case recorded =>
    refine ⟨(a.desk.goDown cause m).vacate (a.desk.lossOf cause m), _,
      down.tail (.shift (.drain _)), path_broadcast depth a.owed _ _, history, rfl, rfl, ?_⟩
    intro sent h
    have h : LastLogout (a.desk.goDown cause m).shared.history sent := h
    -- The loss itself does away with what was said, and says nothing.
    rw [history, ← List.singleton_append, ← List.append_assoc, LastLogout, last_concat,
      last_concat] at h
    simp [Moment.logout?, Event.endsGoodbye] at h
  case notified =>
    intro i hi
    have sound : Stage.Sound ⟨a.desk.goDown cause m, a.owed⟩ := down.keeps Step.sound hs
    have heard : ∀ s, (a.desk.goDown cause m).callsTo s = a.desk.callsTo s := by
      intro s
      unfold callsTo
      rw [history, List.filterMap_append]
      refine (congrArg (_ ++ ·) ?_).trans (List.append_nil _)
      refine List.filterMap_eq_nil_iff.mpr ?_
      intro x hx
      refine Moment.callTo?_of_silent ?_ s
      rcases List.mem_pair.mp hx with rfl | rfl <;> rfl
    have told := notified_broadcast sound depth (a.desk.lossOf cause m) (i := i) hi
    unfold Notified at told ⊢
    rw [heard] at told
    exact told

/-! ## §5. Every run -/

namespace Operation

end Operation

end Correlator
