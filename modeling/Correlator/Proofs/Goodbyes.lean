/-
  Correlator.Proofs.Goodbyes — WHAT A GOODBYE EXPLAINS.

  A connection that is lost without a message is said to have logged out if a
  goodbye was said since it last came up or was lost, and to have been
  disconnected if none was.  That is what goes on record, and what every waiter
  is told.

  So a goodbye that was said while the connection was up explains the end of
  that session and nothing else.  One that is said while the connection is
  dropped already, in answer to the other side for instance, lies there until
  the connection comes up again: if the next attempt fails before that, the
  earlier goodbye explains it.

  Main results:
    * `Stage.Attributed.explained` — the drop that a loss would come with,
    * `Operation.attributed_execAll` — every run,
    * `Operation.drop_blamed_on_earlier_goodbye` — an attempt that fails later.
-/
import Correlator.Proofs.Coupling
import Correlator.Proofs.Reasons
namespace Correlator

open History

/-- If the connection in hand were lost now without a message, the drop would be explained. -/
theorem Stage.Attributed.explained {c : ConnectionId} {a : Stage} (ha : a.Attributed c) :
    (a.desk.lossOf .disconnect none).Explained a.desk.shared.history :=
  ConnectionDropped.explained ha.text

/-- A drop that was written down for a loss without a message is explained by what was before. -/
theorem Moment.Attributed.explained {c : ConnectionId} {h : List Moment} {x : Moment}
    (hx : x.Attributed c h) {d : ConnectionDropped} (he : x.event = .lost .disconnect none d) :
    d.Explained h := by
  obtain ⟨sent, hsent, rfl⟩ := hx _ _ _ he
  exact ConnectionDropped.explained hsent

namespace Operation

/-- **Every drop is explained by what came with it or by the last goodbye.**  At every stage that
steps lead to from the first configuration of a line on, in callbacks or outside them: a connection
that is lost without a message goes down, and is broadcast to have logged out exactly if a logout
was sent since it last came up or was lost, with the text of the last such logout as the reason.
That drop is written down, goes on record and is what the waiters are told.  A goodbye that was said
while the connection was up is forgotten once it is not, so it explains no later loss.

On every run the drops that were written down are explained like this, and what is on record is the
last of them, as long as nobody broadcasts or resumes without the connection. -/
theorem attributed_execAll (w : Desk) (config : ConnectionConfig) (capacity : Nat) :
    (∀ a, Path ⟨w.opening config capacity, []⟩ a → ∀ depth : Nat,
      let call := Desk.callWith (Desk.perform depth)
      let r := (drop .disconnect none).run call a.desk
      (a.desk.line.state = .dropped → r = (.flag false, a.desk.note .alreadyDropped)) ∧
      (a.desk.line.state ≠ .dropped → ∃ d, d.connection = config.id ∧
        d.Explained a.desk.shared.history ∧ Announced .disconnect none d a r.2 ∧
        r = (.flag true, ((a.desk.goDown .disconnect none).broadcastWith call d).2)) ∧
      ∀ text, LastFarewell a.desk.shared.history text → a.desk.line.state = .established) ∧
    ∀ ops : List Operation,
      let v := (execAll ops (w.opening config capacity)).2
      Throughout (Moment.Attributed config.id) v.shared.history ∧
      (∀ h x d, h ++ [x] <+: v.shared.history → x.event = .lost .disconnect none d →
        d.Explained h) ∧
      (∀ text, LastFarewell v.shared.history text → v.line.state = .established) ∧
      ((∀ op ∈ ops, op.Keeps Indirect) → ∀ d, v.line.mux.dropRecord = some d →
        ∃ h x later, v.shared.history = h ++ x :: later ∧ x.event.drop? = some d ∧
          (∀ y ∈ later, y.event.isDecisive = false) ∧
          (x.event = .lost .disconnect none d → d.Explained h)) := by
  have start : Stage.Attributed config.id ⟨w.opening config capacity, []⟩ :=
    .opening w config capacity
  constructor
  · intro a path depth call r
    have attributed := path.keeps Step.attributed start
    have sound := path.keeps Step.sound (.opening w config capacity)
    refine ⟨?_, ?_, attributed.session⟩
    · intro hdown
      exact run_drop_of_dropped hdown call .disconnect none
    · intro hup
      exact ⟨_, attributed.own, attributed.explained,
        Desk.announced sound attributed depth .disconnect none hup,
        run_drop_of_not_dropped hup call .disconnect none⟩
  · intro ops v
    have path := execAll_path ops (w.opening config capacity) []
    have attributed := path.keeps Step.attributed start
    have explained : ∀ h x d, h ++ [x] <+: v.shared.history →
        x.event = .lost .disconnect none d → d.Explained h :=
      fun h x d hpre he => (attributed.throughout h x hpre).explained he
    refine ⟨attributed.throughout, explained, attributed.session, ?_⟩
    intro hops d hd
    have coupled := (execAll_course hops (.opening w config capacity) []).coupled
      (.opening w config capacity)
    obtain ⟨h, x, later, hh, hx, undecided⟩ := (coupled.line.record d).mp hd
    refine ⟨h, x, later, hh, hx, undecided, explained h x d ⟨later, ?_⟩⟩
    rw [List.append_assoc]
    exact hh.symm

/-- The other side logs out, and the goodbye said in answer goes out once the connection is
dropped.  It comes back later and is lost while it authenticates: that drop is blamed on the
earlier goodbye, though no logout was sent since the connection came back. -/
theorem drop_blamed_on_earlier_goodbye :
    let config : ConnectionConfig :=
      ⟨"venue", .plain "FIX.4.4" "A" "B", .dialingSingleThreaded, none⟩
    let w := (Desk.ofLine (.ofConfig config 4) ⟨[], 0⟩).opening config 4
    let goodbye (text : String) : Message := ⟨.logout, [(Tag.text, text)]⟩
    let ended := (execAll [.authenticateOutbound (.empty .logon), .establish,
      .inbound (goodbye "end of day"), .outboundAdmin (goodbye "bye"), .drop .disconnect none] w).2
    let back := (execAll [.create] ended).2
    let lost := (execAll [.authenticateOutbound (.empty .logon), .drop .disconnect none] back).2
    ended.line.state = .dropped ∧ back.line.state = .created ∧
      lost.line.mux.dropRecord = some ⟨config.id, .logout, some "bye"⟩ := by
  intro config w goodbye ended back lost
  exact ⟨rfl, rfl, by decide⟩

end Operation

end Correlator
