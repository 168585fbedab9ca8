/-
  Correlator.Proofs.Handshakes — A HANDSHAKE COMES IN AT A GUARDED LISTENER.

  A listening side with credentials weighs each handshake that comes in.  The
  right credentials move the connection on and touch nothing else.  Wrong ones
  drop it, whatever it was before: every active sink is told of the refusal, an
  older drop on record makes room for the new one, and the peer is sent a reject
  that points at the user name.  From then on, whatever is asked of the
  connection or of the engine that holds it, the connection does not come up
  before a handshake of its own has been let through.  The waiters are quiet
  when the handshake comes in: they may panic, and perform no operations in
  their callbacks.

  Main results:
    * `Message.Presents`, `Message.complaint` — what is looked at,
    * `Desk.Reachable`, `Desk.Leads` — a connection on its own, or in an engine,
    * `Path.bars`, `Errand.bars`, `Engine.Bars` — until a handshake is let through,
    * `Desk.LetsIn`, `Desk.TurnsAway` — the two outcomes,
    * `Desk.Reachable.handshake` — every reachable state, every handshake.
-/
import Correlator.Proofs.Authentication
import Correlator.Proofs.Discipline
import Correlator.Proofs.Teardown
import Correlator.Proofs.Upkeep
namespace Correlator

/-! ## §1. What is looked at -/

/-- A listening side with credentials. -/
structure ConnectionConfig.Guards (config : ConnectionConfig) (c : Credentials) : Prop where
  listening : config.role.isListening = true
  credentials : config.credentials = some c

theorem ConnectionConfig.Guards.guard? {w : Desk} {c : Credentials}
    (h : w.line.config.Guards c) : w.guard? = some c := by
  unfold Desk.guard? Role.validatesCredentials
  rw [h.listening, h.credentials]
  rfl

namespace Message

/-- The first user name and the first password are those that credentials ask for. -/
structure Presents (c : Credentials) (m : Message) : Prop where
  username : m.get? Tag.username = some c.username
  password : m.get? Tag.password = some c.password

/-- What is said of a handshake whose credentials are wrong. -/
def complaint (m : Message) : String :=
  if m.get? Tag.username = none ∨ m.get? Tag.password = none then "credentials missing"
  else "credentials mismatch"

variable {c : Credentials} {m : Message}

theorem Presents.no_fault (h : m.Presents c) : Desk.credentialsFault c m = none := by
  unfold Desk.credentialsFault
  rw [h.username, h.password]
  exact if_pos ⟨rfl, rfl⟩

theorem fault_of_not_presents (h : ¬ m.Presents c) :
    Desk.credentialsFault c m = some m.complaint := by
  unfold Desk.credentialsFault complaint
  cases hu : m.get? Tag.username with
  | none => rfl
  | some u =>
    cases hp : m.get? Tag.password with
    | none => rfl
    | some p =>
      have wrong : ¬ (u = c.username ∧ p = c.password) := by
        rintro ⟨rfl, rfl⟩
        exact h ⟨hu, hp⟩
      simp [wrong]

end Message

/-! ## §2. Connections at rest -/

/-- A connection of that configuration between two operations: one on its own, after any
operations, or one that an engine holds, after anything that the engine was asked to do. -/
inductive Desk.Reachable (config : ConnectionConfig) : Desk → Prop
  | alone (w : Desk) (capacity : Nat) (ops : List Operation) :
      Reachable config (Operation.execAll ops (w.opening config capacity)).2
  | hosted {b : EngineBuilder} {e : Engine} {as : List Errand} {w : Desk} (hb : b.build = .ok e)
      (hw : (Engine.actAll as e).Hands config.id w) (hc : w.line.config = config) :
      Reachable config w

namespace Desk.Reachable

variable {config : ConnectionConfig} {w : Desk}

theorem config_eq (h : Reachable config w) : w.line.config = config := by
  cases h with
  | alone w capacity ops => exact (Operation.execAll_path ops (w.opening config capacity) []).config
  | hosted _ _ hc => exact hc

theorem sound (h : Reachable config w) : Stage.Sound ⟨w, []⟩ := by
  cases h with
  | alone w capacity ops =>
    exact (Operation.execAll_path ops (w.opening config capacity) []).keeps Step.sound
      (.opening w config capacity)
  | @hosted b e as _ hb hw =>
    have line := (Engine.sound_actAll as (EngineBuilder.sound_build hb)).each _ hw.mem
    rw [← hw.shared] at line
    exact line.stage

end Desk.Reachable

/-! ## §3. Until a handshake is let through -/

/-- A moment at which a handshake of the connection is let through. -/
structure Moment.Vouches (id : ConnectionId) (c : Credentials) (x : Moment) : Prop where
  lets : x.LetsThrough c
  shown : ∃ l, x.line = some l ∧ l.id = id

/-- A moment at which the connection comes up. -/
structure Moment.BringsUp (id : ConnectionId) (x : Moment) : Prop where
  event : x.event = .noted .connectionEstablished
  shown : ∃ l, x.line = some l ∧ l.id = id

/-- The connection is down, and has no step to being established. -/
def ConnectionState.isDown : ConnectionState → Bool
  | created => true
  | dropped => true
  | _ => false

theorem ConnectionState.not_mem_successors_of_isDown {s : ConnectionState}
    (h : s.isDown = true) : ConnectionState.established ∉ s.successors := by
  cases s with
  | created => exact of_decide_eq_false rfl
  | dropped => exact of_decide_eq_false rfl
  | _ => cases h

theorem Shared.history_add_add (x y : Moment) (s : Shared) :
    ((s.add x).add y).history = s.history ++ [x, y] := by
  rw [history_add, history_add, List.append_assoc]
  rfl

/-- What has happened while a line became another one: a handshake of the connection was let
through; or the connection is down if it was before, and has not come up. -/
def Line.Barred (c : Credentials) (l k : Line) (news : List Moment) : Prop :=
  (∃ x ∈ news, x.Vouches l.id c) ∨
    (l.state.isDown = true → k.state.isDown = true ∧ ∀ x ∈ news, ¬ x.BringsUp l.id)

namespace Line.Barred

variable {c : Credentials} {l k j : Line} {news later : List Moment}

/-- The state stays, and nothing of what has happened brings the connection up. -/
theorem of_state (hs : k.state = l.state) (hn : ∀ x ∈ news, ¬ x.BringsUp l.id) :
    l.Barred c k news := by
  refine .inr fun hd => ⟨?_, hn⟩
  rw [hs]
  exact hd

theorem trans (h : l.Barred c k news) (hid : k.id = l.id) (g : k.Barred c j later) :
    l.Barred c j (news ++ later) := by
  unfold Line.Barred at g
  rw [hid] at g
  rcases h with ⟨x, hx, vouches⟩ | h
  · exact .inl ⟨x, List.mem_append_left _ hx, vouches⟩
  · rcases g with ⟨x, hx, vouches⟩ | g
    · exact .inl ⟨x, List.mem_append_right _ hx, vouches⟩
    · refine .inr fun hd => ?_
      obtain ⟨down, before⟩ := h hd
      obtain ⟨down, after⟩ := g down
      refine ⟨down, fun x hx => ?_⟩
      rcases List.mem_append.mp hx with hx | hx
      · exact before x hx
      · exact after x hx

end Line.Barred

/-- Work on a line in hand brings up no other connection, and its own, if it is guarded, not before
a handshake is let through. -/
structure Desk.Bars (c : Credentials) (w v : Desk) : Prop where
  config : v.line.config = w.line.config
  news : ∃ news, v.shared.history = w.shared.history ++ news ∧
    (∀ x ∈ news, ∀ id, x.BringsUp id → id = w.line.id) ∧
    (w.line.config.Guards c → w.line.Barred c v.line news)

namespace Desk.Bars

variable {c : Credentials} {w v u : Desk}

/-- The state stays, and nothing of what has happened brings a connection up. -/
theorem of_state {news : List Moment} (hc : v.line.config = w.line.config)
    (hs : v.line.state = w.line.state) (hh : v.shared.history = w.shared.history ++ news)
    (hn : ∀ x ∈ news, ∀ id, ¬ x.BringsUp id) : w.Bars c v :=
  ⟨hc, news, hh, fun x hx id up => absurd up (hn x hx id),
    fun _ => .of_state hs fun x hx => hn x hx w.line.id⟩

/-- Nothing has happened. -/
theorem of_history (hc : v.line.config = w.line.config) (hs : v.line.state = w.line.state)
    (hh : v.shared.history = w.shared.history) : w.Bars c v :=
  .of_state hc hs (hh.trans (List.append_nil _).symm) (by simp)

theorem refl (w : Desk) : w.Bars c w := .of_history rfl rfl rfl

/-- A notice that concerns no line. -/
theorem remark (n : Notice) (w : Desk) : w.Bars c (w.remark n) := by
  refine .of_state rfl rfl (Shared.history_add _ _) fun x hx id up => ?_
  obtain ⟨_, hl, -⟩ := up.shown
  rw [List.mem_singleton.mp hx] at hl
  cases hl

/-- A notice other than that the connection comes up. -/
theorem note {n : Notice} (hn : n ≠ .connectionEstablished) (w : Desk) : w.Bars c (w.note n) := by
  refine .of_state rfl rfl (Desk.history_record _ w) fun x hx id up => ?_
  rw [List.mem_singleton.mp hx] at up
  exact hn (Event.noted.inj up.event)

theorem trans (h : w.Bars c v) (g : v.Bars c u) : w.Bars c u := by
  obtain ⟨news, hh, own, barred⟩ := h.news
  obtain ⟨later, hh', own', barred'⟩ := g.news
  have hid : v.line.id = w.line.id := congrArg ConnectionConfig.id h.config
  refine ⟨g.config.trans h.config, news ++ later, ?_, fun x hx id up => ?_, fun guards => ?_⟩
  · rw [hh', hh, List.append_assoc]
  · rcases List.mem_append.mp hx with hx | hx
    · exact own x hx id up
    · exact (own' x hx id up).trans hid
  · have guards' : v.line.config.Guards c := by
      rw [h.config]
      exact guards
    exact (barred guards).trans hid (barred' guards')

end Desk.Bars

/-- **A turn of the connection's life.** -/
theorem Turn.bars {w v : Desk} (h : Turn w v) (c : Credentials) : w.Bars c v := by
  have barred : ∃ news, v.shared.history = w.shared.history ++ news ∧
      (w.line.config.Guards c → w.line.Barred c v.line news) := by
    cases h with
    | create =>
      refine ⟨_, Desk.history_record _ (w.setState .created), fun _ => .inr fun _ => ⟨rfl, ?_⟩⟩
      rintro x hx ⟨up, -⟩
      rw [List.mem_singleton.mp hx] at up
      cases up
    | @offer m hm =>
      refine ⟨_, Desk.history_record _ (w.setState .authenticating), fun _ => .inl ?_⟩
      exact ⟨_, List.mem_singleton.mpr rfl, .offered m hm rfl, _, rfl, rfl⟩
    | @accept m hm _ hc =>
      -- A guarded side accepts the credentials only that it expects.
      refine ⟨_, Desk.history_record _ (w.setState .authenticating), fun guards => .inl ?_⟩
      obtain ⟨hu, hp⟩ := Desk.credentials_of_no_fault (hc c guards.guard?)
      exact ⟨_, List.mem_singleton.mpr rfl, .accepted m hm rfl hu hp, _, rfl, rfl⟩
    | refuse =>
      refine ⟨_, Shared.history_add_add _ _ w.shared, fun _ => .inr fun _ => ⟨rfl, ?_⟩⟩
      intro x hx up
      rcases List.mem_pair.mp hx with rfl | rfl <;> cases up.event
    | establish hb =>
      -- A connection that is down has no such step.
      refine ⟨_, Desk.history_record _ ((w.setState .established).mapLine fun l =>
        { l with logoutText := none }), fun _ => .inr fun hd => ?_⟩
      have step : ConnectionState.established ∈ w.line.state.successors :=
        ConnectionState.canBecome_iff.mp hb
      exact absurd step (ConnectionState.not_mem_successors_of_isDown hd)
    | drop =>
      refine ⟨_, Shared.history_add_add _ _ w.shared, fun _ => .inr fun _ => ⟨rfl, ?_⟩⟩
      intro x hx up
      rcases List.mem_pair.mp hx with rfl | rfl <;> cases up.event
    | @logout m =>
      refine ⟨_, Desk.history_record _ (w.mapLine fun l =>
        { l with logoutText := some ((m.get? Tag.text).getD "") }), fun _ => .of_state rfl ?_⟩
      rintro x hx ⟨up, -⟩
      rw [List.mem_singleton.mp hx] at up
      cases up
  obtain ⟨news, hh, barred⟩ := barred
  -- What is written down in a turn shows the line in hand, so no other connection comes up.
  obtain ⟨news', hh', shown⟩ := h.beside.history
  obtain rfl : news = news' := List.append_cancel_left (hh.symm.trans hh')
  refine ⟨h.beside.config, news, hh, fun x hx id up => ?_, barred⟩
  obtain ⟨⟨l, hl, -, hconfig⟩, -⟩ := shown x hx
  obtain ⟨k, hk, rfl⟩ := up.shown
  obtain rfl : l = k := Option.some.inj (hl.symm.trans hk)
  exact congrArg ConnectionConfig.id hconfig

/-- **One thing that happens.** -/
theorem Step.bars {a b : Stage} (h : Step a b) (c : Credentials) : a.desk.Bars c b.desk := by
  cases h with
  | @aside w _ _ h =>
    cases h with
    | @event e he =>
      refine .of_state rfl rfl (Desk.history_record e w) fun x hx id up => ?_
      rw [List.mem_singleton.mp hx] at up
      rw [show e = _ from up.event] at he
      cases he
    | names | barrier => exact .of_history rfl rfl rfl
  | turn h => exact h.bars c
  | shift h =>
    -- A shift is told by callbacks and disposals.
    obtain ⟨news, hh, hn⟩ := h.news
    refine .of_state h.config h.state hh fun x hx id up => ?_
    rcases (hn x hx).1 with he | he <;> rw [up.event] at he <;> cases he

/-- **While no handshake is let through, a connection that is down does not come up.** -/
theorem Path.bars {a b : Stage} (h : Path a b) (c : Credentials) : a.desk.Bars c b.desk := by
  induction h with
  | refl => exact .refl _
  | tail _ step ih => exact ih.trans (step.bars c)

/-- Work that an errand is on the line in hand. -/
theorem Errand.bars (a : Errand) (w : Desk) (c : Credentials) : w.Bars c (a.work w).2 := by
  have course : ∀ {v : Desk}, Course (fun _ => True) ⟨w, []⟩ ⟨v, []⟩ → w.Bars c v :=
    fun h => h.path.bars c
  have performed : ∀ op : Operation, w.Bars c (op.exec w).2 := fun op =>
    (op.exec_path w []).bars c
  have buffered : ∀ (s : SinkRef) (f : Stream → Stream) (v : Desk),
      v.Bars c (v.mapSinkAt s fun k => k.mapBuffer f) := by
    intro s f v
    unfold Desk.mapSinkAt
    split <;> exact .of_history rfl rfl rfl
  have ended : ∀ (s : SinkRef) (v : Desk), v.Bars c (v.endSubscription s).2 := by
    intro s v
    have disposed : Course (fun _ => True) ⟨v, []⟩ ⟨(v.dispose s).2, []⟩ := .act (.dispose s)
    exact (disposed.path.bars c).trans (buffered s _ _)
  cases a with
  | operate _ op => exact performed op
  | report d r =>
    rcases Errand.work_report d r w with h | ⟨n, h⟩ <;> rw [h]
    · exact performed _
    · exact (performed r.operation).trans (.remark n _)
  | beginSend _ =>
    simp only [Errand.work]
    split
    · exact .note (by decide) w
    · exact .refl w
  | finishSend _ answer =>
    cases answer with
    | error x => exact .note (by decide) w
    | ok m => exact .refl w
  | beginCorrelated _ factory request =>
    simp only [Errand.work]
    split
    · exact (course (w.course_subscribe (factory request))).trans (.note (by decide) _)
    · exact .refl w
  | finishCorrelated s answer =>
    cases answer with
    | error x => exact (Desk.Bars.note (n := .transportRejected) (by decide) w).trans (ended s _)
    | ok m =>
      have learnt : w.Bars c (w.mapSink s.place fun k => { k with rule := k.rule.onSent m }) :=
        .of_history rfl rfl rfl
      exact learnt.trans (.note (by decide) _)
  | enterSubscription name s => exact course (w.course_enter name ⟨s, .idle⟩)
  | poll s =>
    show w.Bars c (w.poll s).2
    unfold Desk.poll
    split
    · exact .refl w
    · exact buffered s _ w
  | endSubscription s => exact ended s w
  | _ => exact .of_history rfl rfl rfl

/-- Between two states of an engine, until a handshake of the connection is let through. -/
structure Engine.Bars (c : Credentials) (l : Line) (e f : Engine) : Prop where
  news : ∃ k news, f.registry.get? l.id = some k ∧ k.config = l.config ∧
    f.shared.history = e.shared.history ++ news ∧ l.Barred c k news

namespace Engine.Bars

variable {c : Credentials} {l : Line} {e : Engine}

theorem refl (h : e.registry.get? l.id = some l) : e.Bars c l e :=
  ⟨l, [], h, rfl, (List.append_nil _).symm, .of_state rfl (by simp)⟩

/-- **Errands keep a guarded connection down** until a handshake of its own is let through. -/
theorem invariant (hg : l.config.Guards c) :
    Engine.Invariant (fun _ => True) (Engine.Bars c l e) where
  note {f} n h := by
    obtain ⟨k, news, hk, hc, hh, barred⟩ := h.news
    have silent : k.Barred c k [⟨.noted n, none⟩] := by
      refine .of_state rfl fun x hx up => ?_
      obtain ⟨_, hl, -⟩ := up.shown
      rw [List.mem_singleton.mp hx] at hl
      cases hl
    refine ⟨k, news ++ [⟨.noted n, none⟩], hk, hc, ?_,
      barred.trans (congrArg ConnectionConfig.id hc) silent⟩
    show (f.shared.add _).history = _
    rw [Shared.history_add, hh, List.append_assoc]
  register {f config} names _ h := by
    obtain ⟨k, news, hk, hc, hh, barred⟩ := h.news
    refine ⟨k, news, ?_, hc, hh, barred⟩
    have found : f.registry.lines.find? (fun j => j.id = l.id) = some k := hk
    show (f.registry.lines ++ [_]).find? _ = some k
    rw [List.find?_append, found]
    rfl
  close _ _ := True.intro
  work {f d w a} hw ha _ h := by
    obtain ⟨k, news, hk, hc, hh, barred⟩ := h.news
    have hid : k.id = l.id := congrArg ConnectionConfig.id hc
    have worked := a.bars w c
    have tends := Errand.tends hw.holds ha
    obtain ⟨later, hlater, own, barred'⟩ := worked.news
    have history : (f.ofDesk (a.work w).2).shared.history =
        e.shared.history ++ (news ++ later) := by
      show (a.work w).2.shared.history = _
      rw [hlater, hw.shared, hh, List.append_assoc]
    by_cases hd : d = l.id
    case pos =>
      -- The line in hand is the one of the connection.
      obtain rfl : w.line = k := by
        have found := hw.get?
        rw [hd, hk] at found
        exact (Option.some.inj found).symm
      have guards : w.line.config.Guards c := by
        rw [hc]
        exact hg
      have held := hw.holds.of_ids (Lines.ids_of_struck tends.others.before) tends.id
      refine ⟨(a.work w).2.line, news ++ later, ?_, worked.config.trans hc, history,
        barred.trans hid (barred' guards)⟩
      rw [← hd]
      exact get?_ofDesk f held
    case neg =>
      -- Work on another line strikes at most, and brings up its own connection only.
      have found : Registry.findLine l.id w.lines = some k := by
        rw [hw.lines]
        exact hk
      have other : l.id ≠ w.line.id := fun h => hd (h.trans hw.holds.line).symm
      obtain ⟨j, hj, struck⟩ := tends.others.find tends.id other found
      have config : j.config = k.config := struck.kept Line.config_disposeAt
      have state : j.state = k.state := struck.kept Line.state_disposeAt
      refine ⟨j, news ++ later, hj, config.trans hc, history, barred.trans hid (.of_state state ?_)⟩
      intro x hx up
      refine hd ?_
      rw [← hid, own x hx _ up, hw.holds.line]

end Engine.Bars

/-- What may become of a connection: operations on it, if it is on its own, or whatever is asked of
the engine that holds it. -/
inductive Desk.Leads (w : Desk) : Desk → Prop
  | alone (ops : List Operation) : Leads w (Operation.execAll ops w).2
  | hosted {e : Engine} {u : Desk} (as : List Errand) (hw : e.Hands w.line.id w)
      (hu : (Engine.actAll as e).Hands w.line.id u) : Leads w u

/-- **Whatever becomes of a guarded connection that is down.** -/
theorem Desk.Leads.barred {w u : Desk} (h : w.Leads u) {c : Credentials}
    (hg : w.line.config.Guards c) : ∃ news,
      u.shared.history = w.shared.history ++ news ∧ w.line.Barred c u.line news := by
  cases h with
  | alone ops =>
    obtain ⟨news, hh, -, barred⟩ := ((Operation.execAll_path ops w []).bars c).news
    exact ⟨news, hh, barred hg⟩
  | @hosted e _ as hw hu =>
    have kept : Engine.Bars c w.line e (Engine.actAll as e) :=
      (Engine.Bars.invariant hg).actAll (fun _ _ => True.intro) (.refl hw.get?)
    obtain ⟨k, news, hk, -, hh, barred⟩ := kept.news
    obtain rfl : u.line = k := Option.some.inj (hu.get?.symm.trans hk)
    rw [← hu.shared, ← hw.shared] at hh
    exact ⟨news, hh, barred⟩

/-- To establish a connection that is down is refused. -/
theorem Desk.exec_establish_of_isDown {w : Desk} (h : w.line.state.isDown = true) :
    Operation.establish.exec w =
      (.outcome (.error (w.refusal .established)), w.note .transitionRejected) := by
  show (Answer.outcome w.establish.1, w.establish.2) = _
  unfold Desk.establish
  rw [Desk.check_of_refused (ConnectionState.not_mem_successors_of_isDown h)]

/-- A logon that a transport reports while the connection is down is ignored. -/
theorem Engine.Hands.report_of_isDown {e : Engine} {c : ConnectionId} {w : Desk}
    (he : e.Hands c w) (h : w.line.state.isDown = true) :
    e.report c .loggedOn =
      (.done, (e.ofDesk (w.note .transitionRejected)).note .logonIgnored) := by
  rw [he.report, show Report.loggedOn.operation = .establish from rfl,
    Desk.exec_establish_of_isDown h]
  rfl

/-! ## §4. The two outcomes -/

namespace Desk

/-- The desk once a handshake that came in has been dealt with. -/
def greeted (m : Message) (w : Desk) : Desk := ((Operation.authenticateInbound m).exec w).2

/-- The drop that goes on record for a handshake with wrong credentials. -/
def rejection (m : Message) (w : Desk) : ConnectionDropped :=
  ⟨w.line.id, .authenticationRejected, some m.complaint⟩

/-- The handshake is let in: the connection authenticates, and nothing else changes. -/
structure LetsIn (m : Message) (w : Desk) : Prop where
  answer : ((Operation.authenticateInbound m).exec w).1 = .outcome (.ok ())
  routed : (Operation.inbound m).exec w = (.tally (.ok 0), w.greeted m)
  line : (w.greeted m).line = { w.line with state := .authenticating }
  others : (w.greeted m).before = w.before ∧ (w.greeted m).after = w.after
  barrier : (w.greeted m).shared.barrier = w.shared.barrier
  names : (w.greeted m).shared.names = w.shared.names
  issued : (w.greeted m).shared.issued = w.shared.issued
  calls : (w.greeted m).shared.calls = w.shared.calls
  replied : ∀ e : Engine, e.Hands w.line.id w →
    e.report w.line.id (.fromAdmin m) = (.verdict (.ok ()), e.ofDesk (w.greeted m))

/-- The handshake is turned away, which drops the connection. -/
structure TurnsAway (c : Credentials) (m : Message) (w : Desk) : Prop where
  answer : ((Operation.authenticateInbound m).exec w).1 =
    .outcome (.error (.authenticationRejected w.line.id m.complaint))
  routed : (Operation.inbound m).exec w =
    (.tally (.error (.authenticationRejected w.line.id m.complaint)), w.greeted m)
  state : (w.greeted m).line.state = .dropped
  /-- An older drop on record makes room for the new one. -/
  dropRecord : (w.greeted m).line.mux.dropRecord = some (w.rejection m)
  /-- The sinks of the set are those that are active, each once. -/
  active : w.line.mux.active.Nodup ∧
    ∀ i, i ∈ w.line.mux.active ↔ w.line.mux.phase? i = some .active
  /-- Each of them is told, in the order of the set, and no other. -/
  calls : (w.greeted m).shared.calls =
    w.shared.calls ++ w.line.mux.active.map (·, .error (w.rejection m))
  /-- Those that are told have taken the callback and are terminated. -/
  told : ∀ i ∈ w.line.mux.active, (w.greeted m).sink? i = (w.sink? i).map fun s =>
    { s with phase := .terminated, listener := (s.listener.next (.error (w.rejection m))).2 }
  untold : ∀ i, i ∉ w.line.mux.active → (w.greeted m).sink? i = w.sink? i
  empty : (w.greeted m).line.mux.active = []
  others : (w.greeted m).before = w.before ∧ (w.greeted m).after = w.after
  /-- The reject points at the user name. -/
  replied : ∀ e : Engine, e.Hands w.line.id w →
    e.report w.line.id (.fromAdmin m) = (.verdict (.error
      { code := 99
        text := "authentication rejected for " ++ w.line.id.shown ++ ": " ++ m.complaint
        refTag := some 553 }), e.ofDesk (w.greeted m))
  /-- Whatever becomes of the connection, as long as no handshake of its own has been let through:
  it has not come up, and to establish it is refused and does nothing, reported or not. -/
  barred : ∀ (u : Desk) (news : List Moment), (w.greeted m).Leads u →
    u.shared.history = (w.greeted m).shared.history ++ news →
    (∀ x ∈ news, ¬ x.Vouches w.line.id c) →
      (∀ x ∈ news, ¬ x.BringsUp w.line.id) ∧
      Operation.establish.exec u =
        (.outcome (.error (u.refusal .established)), u.note .transitionRejected) ∧
      ∀ e : Engine, e.Hands w.line.id u → e.report w.line.id .loggedOn =
        (.done, (e.ofDesk (u.note .transitionRejected)).note .logonIgnored)

end Desk

/-! ## §5. One handshake -/

/-- What is replied to a message that came in is what routing it came to. -/
theorem Engine.Hands.report_inbound {e : Engine} {c : ConnectionId} {w : Desk} (he : e.Hands c w)
    {m : Message} {r : Except LinkError Nat} {v : Desk}
    (h : (Operation.inbound m).exec w = (.tally r, v)) :
    e.report c (.fromAdmin m) = (.verdict (Report.verdictOf r), e.ofDesk v) := by
  rw [he.report, show (Report.fromAdmin m).operation = .inbound m from rfl, h]
  rfl

namespace Desk

/-- Between two desks a notice has been written down at most. -/
structure Noted (w u : Desk) : Prop where
  line : u.line = w.line
  before : u.before = w.before
  after : u.after = w.after
  barrier : u.shared.barrier = w.shared.barrier
  names : u.shared.names = w.shared.names
  issued : u.shared.issued = w.shared.issued
  calls : u.shared.calls = w.shared.calls

variable {m : Message} {w : Desk} {c : Credentials}

/-- Nothing keeps a connection from authenticating that is not established. -/
theorem check_authenticating (hs : w.line.state ≠ .established) : ∃ u,
    w.check .authenticating = (.ok (), u) ∧ w.Noted u := by
  have allowed : ConnectionState.authenticating ∈ w.line.state.successors := by
    cases h : w.line.state with
    | established => exact absurd h hs
    | _ => decide
  obtain ⟨v, hv⟩ := check_of_allowed allowed
  rcases check_cases .authenticating w with ⟨e, he⟩ | ⟨-, he | he⟩
  · rw [he] at hv
    cases hv
  · exact ⟨w, he, rfl, rfl, rfl, rfl, rfl, rfl, rfl⟩
  · exact ⟨_, he, rfl, rfl, rfl, rfl, rfl, rfl, calls_note _ w⟩

/-- A handshake that comes in is weighed, whichever way it comes. -/
theorem exec_handshake (hm : m.kind = .handshake) (hs : w.line.state ≠ .established) :
    ∃ u, w.Noted u ∧
      (Operation.authenticateInbound m).exec w =
        (.outcome (u.weighWith (w.caller 0) m).1, (u.weighWith (w.caller 0) m).2) ∧
      (Operation.inbound m).exec w = (.tally ((u.weighWith (w.caller 0) m).1.map fun _ => 0),
        (u.weighWith (w.caller 0) m).2) := by
  obtain ⟨u, hu, noted⟩ := check_authenticating hs
  have weighed : w.authenticateInboundWith (w.caller 0) m = u.weighWith (w.caller 0) m := by
    unfold authenticateInboundWith
    rw [if_neg (not_not_intro hm), hu]
  refine ⟨u, noted, ?_, ?_⟩
  · have weight : (Operation.authenticateInbound m).weight = 0 := by simp only [Operation.weight]
    unfold Operation.exec
    rw [weight, ← weighed]
    rfl
  · have weight : (Operation.inbound m).weight = 0 := by simp only [Operation.weight]
    have routed : w.inboundWith (w.caller 0) m = ((u.weighWith (w.caller 0) m).1.map fun _ => 0,
        (u.weighWith (w.caller 0) m).2) := by
      unfold inboundWith
      rw [hm, weighed]
      dsimp only
      generalize u.weighWith (w.caller 0) m = r
      obtain ⟨x, v⟩ := r
      cases x <;> rfl
    unfold Operation.exec
    rw [weight]
    show (Answer.tally (w.inboundWith (w.caller 0) m).1, (w.inboundWith (w.caller 0) m).2) = _
    rw [routed]

/-- The right credentials are accepted. -/
theorem weighWith_of_presents (hg : w.line.config.Guards c) (hp : m.Presents c) (call : Caller) :
    w.weighWith call m = (.ok (),
      ((w.setState .authenticating).record (.accepted m)).note .credentialsAccepted) := by
  have guard : (w.setState .authenticating).guard? = some c := hg.guard?
  unfold weighWith
  dsimp only
  rw [guard]
  dsimp only
  rw [hp.no_fault]

/-- Wrong credentials bring the connection down, and then everyone is told. -/
theorem weighWith_of_not_presents (hg : w.line.config.Guards c) (hp : ¬ m.Presents c)
    (call : Caller) : w.weighWith call m =
      (.error (.authenticationRejected w.line.id m.complaint),
        (((w.setState .authenticating).turnAway m (w.rejection m)).broadcastWith call
          (w.rejection m)).2) := by
  have guard : (w.setState .authenticating).guard? = some c := hg.guard?
  unfold weighWith
  dsimp only
  rw [guard]
  dsimp only
  rw [Message.fault_of_not_presents hp]
  rfl

/-- **The right credentials.** -/
theorem letsIn (hg : w.line.config.Guards c) (hm : m.kind = .handshake)
    (hs : w.line.state ≠ .established) (hp : m.Presents c) : w.LetsIn m := by
  obtain ⟨u, noted, answer, routed⟩ := exec_handshake hm hs
  have guards : u.line.config.Guards c := by
    rw [noted.line]
    exact hg
  rw [weighWith_of_presents guards hp] at answer routed
  have desk : w.greeted m =
      ((u.setState .authenticating).record (.accepted m)).note .credentialsAccepted :=
    congrArg Prod.snd answer
  rw [← desk] at routed
  constructor
  case answer => rw [answer]
  case routed => exact routed
  case line =>
    rw [desk, ← noted.line]
    rfl
  case others =>
    rw [desk]
    exact ⟨noted.before, noted.after⟩
  case barrier =>
    rw [desk]
    exact noted.barrier
  case names =>
    rw [desk]
    exact noted.names
  case issued =>
    rw [desk]
    exact noted.issued
  case calls =>
    rw [desk, calls_note]
    exact (Shared.calls_add _ _).trans ((List.append_nil _).trans noted.calls)
  case replied => exact fun e he => he.report_inbound routed

/-- What a broadcast among quiet waiters leaves. -/
structure Terminates (d : ConnectionDropped) (w v : Desk) : Prop where
  calls : v.shared.calls = w.shared.calls ++ w.line.mux.active.map (·, .error d)
  told : ∀ i ∈ w.line.mux.active, v.sink? i = (w.sink? i).map fun s =>
    { s with phase := .terminated, listener := (s.listener.next (.error d)).2 }
  untold : ∀ i, i ∉ w.line.mux.active → v.sink? i = w.sink? i
  dropRecord : v.line.mux.dropRecord = some d
  inward : Inward w v

theorem terminates_broadcast (perform : Performer) (d : ConnectionDropped) (hq : w.Quiet)
    (ho : w.line.mux.Orderly) : Terminates d w (w.broadcastWith (callWith perform) d).2 := by
  -- The sinks are visited on a desk that differs in the record and the set only.
  let drained : Desk := w.mapMux fun x => { x with dropRecord := some d, active := [] }
  have visited := toldAll_visit perform .terminated (.error d) w.line.mux.active ho.nodup drained hq
    ho.seated
  obtain ⟨inward, told⟩ := visit_finish perform .terminated (.error d) w.line.mux.active ho.nodup
    drained hq ho.seated
  refine ⟨?_, told, visited.others, (still_broadcast perform hq d).record,
    ⟨inward.before, inward.after, inward.config, inward.state⟩⟩
  show (note _ _).shared.calls = _
  rw [calls_note]
  exact visited.calls

/-- **Wrong credentials.** -/
theorem turnsAway (hg : w.line.config.Guards c) (hm : m.kind = .handshake)
    (hs : w.line.state ≠ .established) (hq : w.Quiet) (hw : Stage.Sound ⟨w, []⟩)
    (hp : ¬ m.Presents c) : w.TurnsAway c m := by
  obtain ⟨u, noted, answer, routed⟩ := exec_handshake hm hs
  have guards : u.line.config.Guards c := by
    rw [noted.line]
    exact hg
  have rejection : u.rejection m = w.rejection m := by
    unfold Desk.rejection
    rw [noted.line]
  rw [weighWith_of_not_presents guards hp, rejection, noted.line] at answer routed
  let down : Desk := (u.setState .authenticating).turnAway m (w.rejection m)
  have desk : w.greeted m = (down.broadcastWith (w.caller 0) (w.rejection m)).2 :=
    congrArg Prod.snd answer
  rw [← desk] at routed
  -- The desk from which the drop is told has the sinks of the one at which the handshake came in.
  have mux : down.line.mux = w.line.mux := by
    show u.line.mux = w.line.mux
    rw [noted.line]
  have sinks : ∀ i, down.sink? i = w.sink? i :=
    fun i => congrArg (fun x : Multiplexer => x.sinks[i]?) mux
  have told : Terminates (w.rejection m) down (w.greeted m) := by
    rw [desk]
    refine terminates_broadcast _ _ (fun i s hi => hq i s ?_) ?_
    · rw [← sinks]
      exact hi
    · rw [mux]
      exact hw.orderly
  have path := Operation.exec_path (.authenticateInbound m) w []
  have config : (w.greeted m).line.config = w.line.config := path.config
  constructor
  case answer => rw [answer]
  case routed => exact routed
  case state => exact told.inward.state
  case dropRecord => exact told.dropRecord
  case active =>
    refine ⟨hw.orderly.nodup, fun i => ⟨hw.orderly.seated i, fun ha => ?_⟩⟩
    exact (hw.accounted i ha).resolve_right List.not_mem_nil
  case calls =>
    have silent : down.shared.calls = w.shared.calls :=
      (Shared.calls_add _ _).trans
        ((List.append_nil _).trans ((calls_note _ _).trans noted.calls))
    rw [told.calls, silent, mux]
  case told =>
    intro i hi
    rw [← mux] at hi
    rw [told.told i hi, sinks]
  case untold =>
    intro i hi
    rw [← mux] at hi
    rw [told.untold i hi, sinks]
  case empty =>
    -- With the record in place the invariant leaves nothing in the set.
    have sound : Stage.Sound ⟨w.greeted m, []⟩ := path.keeps Step.sound hw
    refine sound.orderly.idle (.inl ?_)
    show (w.greeted m).line.mux.dropRecord.isSome = true
    rw [told.dropRecord]
    rfl
  case others => exact ⟨told.inward.before.trans noted.before, told.inward.after.trans noted.after⟩
  case replied => exact fun e he => he.report_inbound routed
  case barred =>
    intro u news leads hh hnone
    have guards : (w.greeted m).line.config.Guards c := by
      rw [config]
      exact hg
    have hid : (w.greeted m).line.id = w.line.id := congrArg ConnectionConfig.id config
    obtain ⟨_, hh', barred⟩ := leads.barred guards
    obtain rfl := List.append_cancel_left (hh.symm.trans hh')
    unfold Line.Barred at barred
    rw [hid] at barred
    obtain ⟨isDown, silent⟩ : u.line.state.isDown = true ∧ ∀ x ∈ news, ¬ x.BringsUp w.line.id := by
      rcases barred with ⟨x, hx, vouches⟩ | barred
      · exact absurd vouches (hnone x hx)
      · refine barred ?_
        rw [told.inward.state]
        rfl
    exact ⟨silent, exec_establish_of_isDown isDown, fun e he => he.report_of_isDown isDown⟩

end Desk

/-! ## §6. Every reachable state -/

/-- **A handshake comes in at a guarded listener.**  Whatever has become of the connection, as long
as it is not established and its waiters are quiet: if the first user name and the first password
are the right ones, the handshake is let in; if not, it is turned away, and the connection stays
down until a handshake of its own is let through. -/
theorem Desk.Reachable.handshake {config : ConnectionConfig} {c : Credentials} {w : Desk}
    {m : Message} (hw : Reachable config w) (hg : config.Guards c)
    (hs : w.line.state ≠ .established) (hq : w.Quiet) (hm : m.kind = .handshake) :
    (m.Presents c → w.LetsIn m) ∧ (¬ m.Presents c → w.TurnsAway c m) := by
  have guards : w.line.config.Guards c := by
    rw [hw.config_eq]
    exact hg
  exact ⟨letsIn guards hm hs, turnsAway guards hm hs hq hw.sound⟩

/-- A waiter that panics when it is told, at a venue that is sent a wrong password; a handshake
without one, while that drop is on record; and then the right one. -/
theorem Desk.Reachable.handshake_three_attempts :
    let id := ConnectionId.plain "FIX.4.4" "A" "B"
    let trader : Credentials := ⟨"trader", "s3cret"⟩
    let config : ConnectionConfig := ⟨"venue", id, .listeningSingleThreaded, some trader⟩
    let wrong : Message := ⟨.logon, [(Tag.username, "trader"), (Tag.password, "guess")]⟩
    let missing : Message := ⟨.logon, [(Tag.username, "trader")]⟩
    let right : Message := ⟨.logon, [(Tag.username, "trader"), (Tag.password, "s3cret")]⟩
    let ops : List Operation := [.create, .register "first" .always ⟨[], [⟨[], true⟩], none⟩]
    let w : Desk := (Desk.ofLine (.ofConfig config 4) ⟨[], 0⟩).opening config 4
    let first := (Operation.execAll ops w).2
    let second := first.greeted wrong
    let third := second.greeted missing
    let drop (reason : String) : ConnectionDropped := ⟨id, .authenticationRejected, some reason⟩
    first.TurnsAway trader wrong ∧ second.TurnsAway trader missing ∧ third.LetsIn right ∧
      third.shared.calls = [(0, .error (drop "credentials mismatch"))] ∧
      third.line.mux.dropRecord = some (drop "credentials missing") := by
  intro id trader config wrong missing right ops w first second third drop
  have guards : config.Guards trader := ⟨rfl, rfl⟩
  have reached : ∀ v ∈ [first, second, third], Reachable config v ∧
      v.line.state ≠ .established ∧ v.line.weight = 0 := by
    have later (more : List Operation) : Reachable config (Operation.execAll (ops ++ more) w).2 :=
      .alone _ 4 (ops ++ more)
    simp only [List.forall_mem_cons, List.not_mem_nil, false_implies, implies_true, and_true]
    exact ⟨⟨later [], by decide +kernel⟩,
      ⟨later [.authenticateInbound wrong], by decide +kernel⟩,
      ⟨later [.authenticateInbound wrong, .authenticateInbound missing], by decide +kernel⟩⟩
  have guess : ¬ wrong.Presents trader := fun h => absurd h.password (by decide)
  have silent : ¬ missing.Presents trader := fun h => absurd h.password (by decide)
  obtain ⟨hw, hs, hq⟩ := reached first (by simp)
  have turned := (hw.handshake guards hs (Desk.quiet_of_weight hq) (m := wrong) rfl).2 guess
  obtain ⟨hw, hs, hq⟩ := reached second (by simp)
  have again := (hw.handshake guards hs (Desk.quiet_of_weight hq) (m := missing) rfl).2 silent
  obtain ⟨hw, hs, hq⟩ := reached third (by simp)
  have lets := (hw.handshake guards hs (Desk.quiet_of_weight hq) (m := right) rfl).1 ⟨rfl, rfl⟩
  exact ⟨turned, again, lets, by decide +kernel, by decide +kernel⟩

end Correlator
