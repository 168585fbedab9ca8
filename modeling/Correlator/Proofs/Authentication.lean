/-
  Correlator.Proofs.Authentication — WHO VOUCHES FOR AN ESTABLISHED CONNECTION.

  A connection is established from the state in which it authenticates, and
  nothing else is checked then.  That state is reached by a handshake, in
  either direction: one that comes in is weighed against the credentials of a
  listening side, one that goes out is let through as it is.  So behind every
  established connection of a listening side there is a handshake that was let
  through since it last dropped: an accepted one with the right credentials, or
  one that it sent itself.  The second kind alone is enough.

  Main results:
    * `Stage.Vetted`, `Step.vetted` — one step,
    * `Operation.vouched_execAll` — every run,
    * `Operation.established_by_own_handshake` — the second kind alone.
-/
import Correlator.Proofs.Frame
import Correlator.Proofs.Path
namespace Correlator

/-! ## §1. Handshakes in a history -/

/-- A handshake is let through at a moment: one that goes out, or one that comes in with the
expected credentials. -/
inductive Moment.LetsThrough (c : Credentials) (x : Moment) : Prop
  | offered (m : Message) (hk : m.kind = .handshake) (h : x.event = .offered m)
  | accepted (m : Message) (hk : m.kind = .handshake) (h : x.event = .accepted m)
      (hu : m.get? Tag.username = some c.username) (hp : m.get? Tag.password = some c.password)

namespace History

/-- A handshake has been let through, and the connection has not been dropped since. -/
def Vouched (id : ConnectionId) (c : Credentials) (h : List Moment) : Prop :=
  ∃ a y b, h = a ++ y :: b ∧ y.LetsThrough c ∧ ∀ l ∈ standings id b, l.state ≠ .dropped

/-- Whenever the connection was established, there was a handshake that vouched for it. -/
def Vetted (id : ConnectionId) (c : Credentials) (h : List Moment) : Prop :=
  ∀ h₁ x, h₁ ++ [x] <+: h → x.event = .noted .connectionEstablished → Vouched id c h₁

variable {id : ConnectionId} {c : Credentials} {h news : List Moment} {x : Moment}

theorem Vouched.now (hx : x.LetsThrough c) : Vouched id c (h ++ [x]) := by
  refine ⟨h, x, [], rfl, hx, ?_⟩
  intro l hl
  cases hl

theorem Vouched.append (hv : Vouched id c h) (hn : ∀ l ∈ standings id news, l.state ≠ .dropped) :
    Vouched id c (h ++ news) := by
  obtain ⟨a, y, b, rfl, hy, hb⟩ := hv
  refine ⟨a, y, b ++ news, by rw [List.append_assoc, List.cons_append], hy, ?_⟩
  intro l hl
  rw [standings_append] at hl
  rcases List.mem_append.mp hl with hl | hl
  · exact hb l hl
  · exact hn l hl

theorem Vetted.nil : Vetted id c [] := by
  intro h₁ x hpre
  have := hpre.length_le
  simp at this

/-- A new moment at which the connection is established needs a handshake before it. -/
theorem Vetted.concat (hv : Vetted id c h)
    (hx : x.event = .noted .connectionEstablished → Vouched id c h) : Vetted id c (h ++ [x]) := by
  intro h₁ y hpre hy
  -- The establishment is the new moment itself, or an earlier one.
  rcases List.prefix_concat_iff.mp hpre with heq | hpre
  · obtain ⟨rfl, hxy⟩ := List.append_inj' heq rfl
    cases hxy
    exact hx hy
  · exact hv h₁ y hpre hy

theorem Vetted.append (hv : Vetted id c h)
    (hn : ∀ x ∈ news, x.event ≠ .noted .connectionEstablished) : Vetted id c (h ++ news) := by
  induction news generalizing h with
  | nil =>
    rw [List.append_nil]
    exact hv
  | cons x news ih =>
    rw [List.append_cons]
    refine ih (hv.concat ?_) ?_
    · exact fun hx => absurd hx (hn x List.mem_cons_self)
    · exact fun y hy => hn y (List.mem_cons_of_mem _ hy)

/-- Another event than an establishment needs nothing before it. -/
theorem Vetted.record {w : Desk} (hv : Vetted id c w.shared.history) {e : Event}
    (he : e ≠ .noted .connectionEstablished) : Vetted id c (w.record e).shared.history := by
  rw [Desk.history_record]
  exact hv.concat fun hx => absurd hx he

/-- A handshake that is let through vouches from the moment at which it is recorded. -/
theorem Vouched.record (w : Desk) {e : Event}
    (he : Moment.LetsThrough c ⟨e, some w.line⟩) : Vouched id c (w.record e).shared.history := by
  rw [Desk.history_record]
  exact .now he

end History

/-! ## §2. One step -/

open History

/-- Behind a connection that authenticates or is established there is a handshake, and there was
one whenever it was established before. -/
structure Stage.Vetted (config : ConnectionConfig) (c : Credentials) (a : Stage) : Prop where
  own : a.desk.line.config = config
  vouched : a.desk.line.state = .authenticating ∨ a.desk.line.state = .established →
    Vouched config.id c a.desk.shared.history
  vetted : History.Vetted config.id c a.desk.shared.history

namespace Stage.Vetted

variable {config : ConnectionConfig} {c : Credentials} {a b : Stage}

theorem opening (w : Desk) (config : ConnectionConfig) (c : Credentials) (capacity : Nat) :
    Vetted config c ⟨w.opening config capacity, []⟩ where
  own := rfl
  vouched h := by rcases h with h | h <;> cases h
  vetted := .nil

/-- A step that leaves the connection in its state and shows it there. -/
theorem of_news (ha : a.Vetted config c) (hc : b.desk.line.config = a.desk.line.config)
    (hs : b.desk.line.state = a.desk.line.state) {news : List Moment}
    (hh : b.desk.shared.history = a.desk.shared.history ++ news)
    (hshown : ∀ l ∈ standings config.id news, l.state = a.desk.line.state)
    (hn : ∀ x ∈ news, x.event ≠ .noted .connectionEstablished) : b.Vetted config c where
  own := hc.trans ha.own
  vouched h := by
    rw [hs] at h
    rw [hh]
    -- In such a state the line does not stand dropped, so the handshake still vouches.
    refine (ha.vouched h).append ?_
    intro l hl
    rw [hshown l hl]
    rcases h with h | h <;> rw [h] <;> decide
  vetted := by
    rw [hh]
    exact ha.vetted.append hn

/-- A step that writes nothing down and leaves the connection in its state. -/
theorem of_same (ha : a.Vetted config c) (hc : b.desk.line.config = a.desk.line.config)
    (hs : b.desk.line.state = a.desk.line.state)
    (hh : b.desk.shared.history = a.desk.shared.history) : b.Vetted config c :=
  ha.of_news hc hs (hh.trans (List.append_nil _).symm) (fun l hl => by cases hl)
    (fun x hx => by cases hx)

/-- Something is written down that is not the connection's establishment. -/
theorem of_record {w v : Desk} {owed : List Nat} (ha : Vetted config c ⟨w, owed⟩)
    (hc : v.line.config = w.line.config) (hs : v.line.state = w.line.state)
    (hh : v.shared.history = w.shared.history) {e : Event}
    (he : e ≠ .noted .connectionEstablished) : Vetted config c ⟨v.record e, owed⟩ := by
  refine (ha.of_same (b := ⟨v, owed⟩) hc hs hh).of_news rfl rfl (Desk.history_record e v) ?_ ?_
  · intro l hl
    obtain ⟨x, hx, hxl, -⟩ := mem_standings.mp hl
    rw [List.mem_singleton.mp hx] at hxl
    cases hxl
    rfl
  · intro x hx hest
    rw [List.mem_singleton.mp hx] at hest
    exact he hest

end Stage.Vetted

theorem Aside.vetted {config : ConnectionConfig} {c : Credentials} {w w' : Desk} {owed : List Nat}
    (h : Aside w w') (ha : Stage.Vetted config c ⟨w, owed⟩) : Stage.Vetted config c ⟨w', owed⟩ := by
  cases h with
  | @event e he =>
    refine ha.of_record rfl rfl rfl ?_
    rintro rfl
    cases he
  | names => exact ha.of_same rfl rfl rfl
  | barrier => exact ha.of_same rfl rfl rfl

theorem Shift.vetted {config : ConnectionConfig} {c : Credentials} {a b : Stage}
    (h : Shift a b) (ha : a.Vetted config c) : b.Vetted config c := by
  obtain ⟨news, hh, hn⟩ := h.news
  refine ha.of_news h.config h.state hh ?_ ?_
  · intro l hl
    obtain ⟨x, hx, hxl, hid⟩ := mem_standings.mp hl
    obtain ⟨-, l', hl', hown⟩ := hn x hx
    rw [hxl] at hl'
    cases hl'
    rw [hown (hid.trans (congrArg ConnectionConfig.id ha.own).symm)]
    exact h.state
  · intro x hx hest
    rcases (hn x hx).1 with hsink | hnote
    · rw [hest] at hsink
      cases hsink
    · rw [hest] at hnote
      cases hnote

/-- What is wrong with a handshake is that its credentials are not the expected ones. -/
theorem Desk.credentials_of_no_fault {c : Credentials} {m : Message}
    (h : credentialsFault c m = none) :
    m.get? Tag.username = some c.username ∧ m.get? Tag.password = some c.password := by
  unfold credentialsFault at h
  split at h
  case h_1 u p hu hp =>
    split at h
    case isTrue heq =>
      obtain ⟨rfl, rfl⟩ := heq
      exact ⟨hu, hp⟩
    case isFalse => cases h
  case h_2 => cases h

section

variable {config : ConnectionConfig} {c : Credentials} {w w' : Desk} {owed : List Nat}

/-- A turn of the connection's life, given that a handshake that comes in is weighed. -/
theorem Turn.vetted (h : Turn w w') (hguard : w.guard? = some c)
    (ha : Stage.Vetted config c ⟨w, owed⟩) : Stage.Vetted config c ⟨w', owed⟩ := by
  have hconfig : w.line.config = config := ha.own
  have hvetted : History.Vetted config.id c w.shared.history := ha.vetted
  cases h with
  | create =>
    refine ⟨hconfig, ?_, Vetted.record (w := w.setState .created) hvetted (by simp)⟩
    intro h
    rcases h with h | h <;> cases h
  | @offer m hm hb =>
    refine ⟨hconfig, fun _ => ?_, ?_⟩
    · exact Vouched.record (w.setState .authenticating) (.offered m hm rfl)
    · exact Vetted.record (w := w.setState .authenticating) hvetted (by simp)
  | @accept m hm hb hc =>
    obtain ⟨hu, hp⟩ := Desk.credentials_of_no_fault (hc c hguard)
    refine ⟨hconfig, fun _ => ?_, ?_⟩
    · exact Vouched.record (w.setState .authenticating) (.accepted m hm rfl hu hp)
    · exact Vetted.record (w := w.setState .authenticating) hvetted (by simp)
  | @refuse m hm hb =>
    -- The refusal leaves the connection dropped, so nothing has to vouch for it.
    refine ⟨hconfig, fun h => ?_, ?_⟩
    · rcases h with h | h <;> cases h
    · have noted : History.Vetted config.id c
          ((w.setState .authenticating).note .handshakeRejected).shared.history :=
        Vetted.record (w := w.setState .authenticating) hvetted (by simp)
      exact Vetted.record (w := ((w.setState .authenticating).note .handshakeRejected).setState
        .dropped) noted (by simp)
  | establish hb =>
    have hh := Desk.history_record (.noted .connectionEstablished)
      ((w.setState .established).mapLine fun l => { l with logoutText := none })
    -- The connection was authenticating, so a handshake vouches for it.
    have hv : Vouched config.id c w.shared.history :=
      ha.vouched (.inl (ConnectionState.of_canBecome_established hb))
    refine ⟨hconfig, fun _ => ?_, ?_⟩
    · show Vouched config.id c (Desk.record _ _).shared.history
      rw [hh]
      refine hv.append ?_
      intro l hl
      obtain ⟨x, hx, hxl, -⟩ := mem_standings.mp hl
      rw [List.mem_singleton.mp hx] at hxl
      cases hxl
      intro hdropped
      cases hdropped
    · show History.Vetted config.id c (Desk.record _ _).shared.history
      rw [hh]
      exact hvetted.concat fun _ => hv
  | drop =>
    refine ⟨hconfig, fun h => ?_, ?_⟩
    · rcases h with h | h <;> cases h
    · refine Vetted.record ?_ (by simp)
      exact Vetted.record (w := w.mapLine fun l =>
        { l with state := .dropped, logoutText := none }) hvetted (by simp)
  | @logout m =>
    exact ha.of_record (v := w.mapLine fun l =>
      { l with logoutText := some ((m.get? Tag.text).getD "") }) rfl rfl rfl (by simp)

end

/-- Every step keeps a listening side with credentials vetted. -/
theorem Step.vetted {config : ConnectionConfig} {c : Credentials}
    (hrole : config.role.isListening = true) (hcred : config.credentials = some c) {a b : Stage}
    (h : Step a b) (ha : a.Vetted config c) : b.Vetted config c := by
  cases h with
  | aside h => exact h.vetted ha
  | @turn w w' owed h =>
    refine h.vetted ?_ ha
    have hconfig : w.line.config = config := ha.own
    unfold Desk.guard? Role.validatesCredentials
    rw [hconfig, hrole, hcred]
    rfl
  | shift h => exact h.vetted ha

/-! ## §3. Every run -/

/-- A connection that is established was authenticating. -/
theorem Desk.authenticating_of_establish {w : Desk} (h : w.establish.1 = .ok ()) :
    w.line.state = .authenticating := by
  rcases check_cases .established w with ⟨e, he⟩ | ⟨hb, -⟩
  · unfold establish at h
    rw [he] at h
    cases h
  · exact ConnectionState.of_canBecome_established hb

/-- **Nobody establishes a listening connection without a handshake.**  On every run of a listening
side with credentials from its first configuration on, in callbacks or outside them: whenever the
connection is established, a handshake was let through before and the connection was not dropped
in between, and that handshake had come in with both credentials or had been sent by this side. -/
theorem Operation.vouched_execAll (w : Desk) (config : ConnectionConfig) (c : Credentials)
    (hrole : config.role.isListening = true) (hcred : config.credentials = some c)
    (capacity : Nat) (ops : List Operation) :
    let v := (execAll ops (w.opening config capacity)).2
    History.Vetted config.id c v.shared.history ∧
    ((Operation.establish.exec v).1 = .outcome (.ok ()) →
      Vouched config.id c v.shared.history) := by
  intro v
  have path := execAll_path ops (w.opening config capacity) []
  have vetted := path.keeps (Step.vetted hrole hcred) (.opening w config c capacity)
  refine ⟨vetted.vetted, ?_⟩
  intro h
  have hok : v.establish.1 = .ok () := Answer.outcome.inj h
  exact vetted.vouched (.inl (Desk.authenticating_of_establish hok))

/-- A venue that lets a trader in. -/
theorem Operation.vouched_execAll_trader :
    let config : ConnectionConfig :=
      ⟨"venue", .plain "FIX.4.4" "A" "B", .listeningSingleThreaded, some ⟨"trader", "s3cret"⟩⟩
    let logon : Message := ⟨.logon, [(Tag.username, "trader"), (Tag.password, "s3cret")]⟩
    let w := (Desk.ofLine (.ofConfig config 4) ⟨[], 0⟩).opening config 4
    let v := (execAll [.create, .inbound logon] w).2
    (Operation.establish.exec v).1 = .outcome (.ok ()) ∧
      Vouched config.id ⟨"trader", "s3cret"⟩ v.shared.history := by
  intro config logon w v
  have hok : (Operation.establish.exec v).1 = .outcome (.ok ()) := rfl
  obtain ⟨-, vouched⟩ := vouched_execAll (Desk.ofLine (.ofConfig config 4) ⟨[], 0⟩) config
    ⟨"trader", "s3cret"⟩ rfl rfl 4 [.create, .inbound logon]
  exact ⟨hok, vouched hok⟩

/-- A handshake that goes out is enough: a venue that sends one is established, and nothing that
came in was ever accepted. -/
theorem Operation.established_by_own_handshake :
    let config : ConnectionConfig :=
      ⟨"venue", .plain "FIX.4.4" "A" "B", .listeningSingleThreaded, some ⟨"trader", "s3cret"⟩⟩
    let w := (Desk.ofLine (.ofConfig config 4) ⟨[], 0⟩).opening config 4
    let v := (execAll [.authenticateOutbound (.empty .logon)] w).2
    (Operation.establish.exec v).1 = .outcome (.ok ()) ∧
      ∀ x ∈ (Operation.establish.exec v).2.shared.history, ∀ m, x.event ≠ .accepted m := by
  intro config w v
  refine ⟨rfl, ?_⟩
  intro x hx m hm
  have hevents : (Operation.establish.exec v).2.shared.history.map Moment.event =
      [.noted .stateTransition, .offered (.empty .logon), .noted .stateTransition,
        .noted .connectionEstablished] := rfl
  have hmem := List.mem_map_of_mem (f := Moment.event) hx
  rw [hevents, hm] at hmem
  simp at hmem

end Correlator
