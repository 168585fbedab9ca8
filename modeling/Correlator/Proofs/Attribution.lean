/-
  Correlator.Proofs.Attribution — WHY A CONNECTION IS SAID TO HAVE DROPPED.

  A drop has a cause and a reason.  A message that comes with it gives the
  reason; without one, a logout that was sent explains a disconnect, and its
  text is the reason.  The text of the last logout lies beside the state of the
  connection until it has explained a drop or the connection comes up.

  Main results:
    * `ConnectionDropped.Explained` — why a connection was lost without a message,
    * `Moment.Attributed` — what a drop says and why,
    * `Stage.Attributed`, `Step.attributed` — one step.
-/
import Correlator.Proofs.Path
namespace Correlator

/-! ## §1. Goodbyes in a history -/

/-- The text of a logout that goes out. -/
def Event.goodbye? : Event → Option String
  | .loggedOut m => some ((m.get? Tag.text).getD "")
  | _ => none

/-- What was said before explains no later drop: another goodbye takes its place, the connection
comes up, or it is lost. -/
def Event.endsGoodbye : Event → Bool
  | .noted .connectionEstablished => true
  | .loggedOut _ | .lost _ _ _ => true
  | _ => false

/-- The text of a logout that goes out while the connection is up. -/
def Moment.farewell? (x : Moment) : Option String :=
  if x.line.any (fun l => l.state = .established) then x.event.goodbye? else none

theorem Event.goodbye?_of_not_ends {e : Event} (h : e.endsGoodbye = false) : e.goodbye? = none := by
  cases e with
  | loggedOut => cases h
  | _ => rfl

/-- Neither callbacks nor disposals have to do with goodbyes. -/
theorem Event.endsGoodbye_of_concernsSink {e : Event} (h : e.concernsSink = true) :
    e.endsGoodbye = false := by
  cases e with
  | called => rfl
  | disposed => rfl
  | _ => cases h

theorem Moment.farewell?_of_not_ends {x : Moment} (h : x.event.endsGoodbye = false) :
    x.farewell? = none := by
  unfold farewell?
  rw [Event.goodbye?_of_not_ends h]
  exact ite_self _

namespace History

/-- The last goodbye since the connection last came up or was lost. -/
def LastGoodbye (h : List Moment) (text : String) : Prop :=
  Last (fun x => x.event.goodbye?) (fun x => x.event.endsGoodbye) h text

/-- The last goodbye, if it was said while the connection was up. -/
def LastFarewell (h : List Moment) (text : String) : Prop :=
  Last Moment.farewell? (fun x => x.event.endsGoodbye) h text

end History

open History

/-- A drop that goes on record is that of the connection, and its cause and its reason are those
that the message with it gives, or the last goodbye before it. -/
def Moment.Attributed (c : ConnectionId) (h : List Moment) (x : Moment) : Prop :=
  ∀ cause m d, x.event = .lost cause m d → ∃ sent, (∀ text, sent = some text ↔ LastGoodbye h text) ∧
    d = ⟨c, (Desk.explain cause m sent).1, (Desk.explain cause m sent).2⟩

theorem Moment.attributed_of_not_ends {c : ConnectionId} {x : Moment}
    (hx : x.event.endsGoodbye = false) (h : List Moment) : x.Attributed c h := by
  intro cause m d heq
  rw [heq] at hx
  cases hx

/-- A connection was lost without a message: either a goodbye explains it, or nothing does. -/
def ConnectionDropped.Explained (h : List Moment) (d : ConnectionDropped) : Prop :=
  (d.cause = .logout ∧ ∃ text, LastGoodbye h text ∧ d.reason = Desk.stated (some text)) ∨
  (d.cause = .disconnect ∧ d.reason = none ∧ ∀ text, ¬ LastGoodbye h text)

/-- What the last goodbye makes of a disconnect. -/
theorem ConnectionDropped.explained {c : ConnectionId} {h : List Moment} {sent : Option String}
    (hs : ∀ text, sent = some text ↔ LastGoodbye h text) :
    Explained h ⟨c, (Desk.explain .disconnect none sent).1,
      (Desk.explain .disconnect none sent).2⟩ := by
  cases sent with
  | some text => exact .inl ⟨rfl, text, (hs text).mp rfl, rfl⟩
  | none =>
    refine .inr ⟨rfl, rfl, ?_⟩
    intro text htext
    cases (hs text).mpr htext

/-! ## §2. One step -/

/-- The text that lies beside the state is that of the last goodbye, a farewell is remembered only
while the connection is up, and every drop is explained. -/
structure Stage.Attributed (c : ConnectionId) (a : Stage) : Prop where
  own : a.desk.line.id = c
  text : ∀ text, a.desk.line.logoutText = some text ↔ LastGoodbye a.desk.shared.history text
  session : ∀ text, LastFarewell a.desk.shared.history text →
    a.desk.line.state = .established
  throughout : Throughout (Moment.Attributed c) a.desk.shared.history

namespace Stage.Attributed

variable {c : ConnectionId} {a b : Stage}

theorem opening (w : Desk) (config : ConnectionConfig) (capacity : Nat) :
    Attributed config.id ⟨w.opening config capacity, []⟩ where
  own := rfl
  text _ := ⟨fun h => (by cases h), fun h => absurd h not_last_nil⟩
  session _ h := absurd h not_last_nil
  throughout := .nil

/-- A step that says no goodbye and lets the last one stand. -/
theorem of_news (ha : a.Attributed c) (hid : b.desk.line.id = a.desk.line.id)
    (ht : b.desk.line.logoutText = a.desk.line.logoutText)
    (hs : a.desk.line.state = .established → b.desk.line.state = .established)
    {news : List Moment} (hh : b.desk.shared.history = a.desk.shared.history ++ news)
    (hn : ∀ x ∈ news, x.event.endsGoodbye = false) : b.Attributed c where
  own := hid.trans ha.own
  text text := by
    rw [ht, hh]
    exact (ha.text text).trans
      (last_append_of_not_ends (fun _ => Event.goodbye?_of_not_ends) hn).symm
  session text h := by
    rw [hh] at h
    exact hs (ha.session text
      ((last_append_of_not_ends (fun _ => Moment.farewell?_of_not_ends) hn).mp h))
  throughout := by
    rw [hh]
    exact ha.throughout.append fun x hx => Moment.attributed_of_not_ends (hn x hx)

theorem record {w v : Desk} {owed : List Nat} (ha : Attributed c ⟨w, owed⟩)
    (hid : v.line.id = w.line.id) (ht : v.line.logoutText = w.line.logoutText)
    (hs : w.line.state = .established → v.line.state = .established)
    (hh : v.shared.history = w.shared.history) {e : Event} (he : e.endsGoodbye = false) :
    Attributed c ⟨v.record e, owed⟩ := by
  have written : (v.record e).shared.history = w.shared.history ++ [⟨e, some v.line⟩] := by
    rw [Desk.history_record, hh]
  refine ha.of_news hid ht hs written ?_
  intro x hx
  rw [List.mem_singleton.mp hx]
  exact he

/-- An event that does away with the last goodbye, and may be one itself. -/
theorem record_ending {v : Desk} (owed : List Nat) {e : Event} (he : e.endsGoodbye = true)
    (hid : v.line.id = c) (htext : v.line.logoutText = e.goodbye?)
    (ht : Throughout (Moment.Attributed c) v.shared.history)
    (hx : Moment.Attributed c v.shared.history ⟨e, some v.line⟩) :
    Attributed c ⟨v.record e, owed⟩ where
  own := hid
  text text := by
    show v.line.logoutText = some text ↔ LastGoodbye (v.record e).shared.history text
    rw [Desk.history_record, LastGoodbye, last_concat, htext]
    simp [he]
  session text h := by
    have h : LastFarewell (v.record e).shared.history text := h
    rw [Desk.history_record, LastFarewell, last_concat] at h
    rcases h with h | ⟨h, -⟩
    · -- The event is the farewell itself, and shows the connection up.
      unfold Moment.farewell? at h
      split at h
      case isTrue hs => simpa using hs
      case isFalse => cases h
    · rw [he] at h
      cases h
  throughout := by
    show Throughout _ (v.record e).shared.history
    rw [Desk.history_record]
    exact ht.concat hx

end Stage.Attributed

section

variable {c : ConnectionId} {w v : Desk} {owed : List Nat}

theorem Aside.attributed (h : Aside w v) (ha : Stage.Attributed c ⟨w, owed⟩) :
    Stage.Attributed c ⟨v, owed⟩ := by
  cases h with
  | @event e he =>
    refine ha.record rfl rfl id rfl ?_
    cases e with
    | noted n =>
      cases n with
      | connectionEstablished => cases he
      | _ => rfl
    | answered => rfl
    | _ => cases he
  | names => exact ha.of_news rfl rfl id (List.append_nil _).symm (by simp)
  | barrier => exact ha.of_news rfl rfl id (List.append_nil _).symm (by simp)

/-- A connection that is up moves nowhere but down. -/
theorem ConnectionState.ne_established_of_canBecome {s t : ConnectionState}
    (h : s.canBecome t = true) (ht : t ≠ .dropped) : s ≠ .established := by
  rintro rfl
  cases t with
  | dropped => exact ht rfl
  | _ => cases h

theorem Turn.attributed (h : Turn w v) (ha : Stage.Attributed c ⟨w, owed⟩) :
    Stage.Attributed c ⟨v, owed⟩ := by
  -- A turn that is checked against the table does not start from a connection that is up.
  have low : ∀ {s t}, w.line.state.canBecome s = true → s ≠ .dropped →
      w.line.state = .established → t = ConnectionState.established :=
    fun hb hs hup => absurd hup (ConnectionState.ne_established_of_canBecome hb hs)
  cases h with
  | create hb => exact ha.record (v := w.setState .created) rfl rfl (low hb (by decide)) rfl rfl
  | offer hm hb =>
    exact ha.record (v := w.setState .authenticating) rfl rfl (low hb (by decide)) rfl rfl
  | accept hm hb =>
    exact ha.record (v := w.setState .authenticating) rfl rfl (low hb (by decide)) rfl rfl
  | @refuse m drop hm hb =>
    have noted : Stage.Attributed c ⟨(w.setState .authenticating).note .handshakeRejected, owed⟩ :=
      ha.record (v := w.setState .authenticating) rfl rfl (low hb (by decide)) rfl rfl
    exact noted.record (e := .refused m drop)
      (v := ((w.setState .authenticating).note .handshakeRejected).setState .dropped)
      rfl rfl (fun h => by cases h) rfl rfl
  | establish =>
    refine .record_ending owed rfl ha.own rfl ha.throughout ?_
    intro cause m d h
    cases h
  | drop cause m =>
    -- The text that lies beside the state is spent on this drop, whether it explains it or not.
    have lost : Stage.Attributed c ⟨(w.mapLine fun l =>
        { l with state := .dropped, logoutText := none }).record (.lost cause m (w.lossOf cause m)),
        owed⟩ := by
      refine .record_ending owed rfl ha.own rfl ha.throughout ?_
      intro cause' m' d h
      cases h
      refine ⟨w.line.logoutText, ha.text, ?_⟩
      have hid : w.line.id = c := ha.own
      unfold Desk.lossOf
      rw [hid]
    exact lost.record rfl rfl id rfl rfl
  | @logout m =>
    refine .record_ending owed (e := .loggedOut m) rfl ha.own rfl ha.throughout ?_
    intro cause m d h
    cases h

end

theorem Shift.logoutText {a b : Stage} (h : Shift a b) :
    b.desk.line.logoutText = a.desk.line.logoutText := by
  cases h with
  | dispose s =>
    refine Desk.kept_dispose (f := Line.logoutText) ?_ s _
    intro i l
    rw [Line.snd_disposeAt]
    rfl
  | _ => rfl

theorem Shift.attributed {c : ConnectionId} {a b : Stage} (h : Shift a b)
    (ha : a.Attributed c) : b.Attributed c := by
  obtain ⟨news, hh, hn⟩ := h.news
  refine ha.of_news (congrArg ConnectionConfig.id h.config) h.logoutText ?_ hh ?_
  · intro hup
    exact h.state.trans hup
  · intro x hx
    rcases (hn x hx).1 with he | he
    · exact Event.endsGoodbye_of_concernsSink he
    · rw [he]
      rfl

/-- Every step keeps drops explained. -/
theorem Step.attributed {c : ConnectionId} {a b : Stage} (h : Step a b)
    (ha : a.Attributed c) : b.Attributed c := by
  cases h with
  | aside h => exact h.attributed ha
  | turn h => exact h.attributed ha
  | shift h => exact h.attributed ha

end Correlator
