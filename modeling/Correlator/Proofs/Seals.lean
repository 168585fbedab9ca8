/-
  Correlator.Proofs.Seals — PASSWORDS UNDER SEAL.

  The password of a connection lies in its configuration, and what is held
  against it lies in the handshakes that come in.  A seal hides the one and the
  other behind something else.  Here it is said what a run looks like under a
  seal: the operations that it is made of, those in scripts included, the line
  with its waiters, and what has happened.

  One seal matters most: it leaves in the place of a password only whether the
  handshake is what the credentials ask for.  Two runs that are the same under
  it differ in nothing but passwords, and in no verdict on them.

  Main content:
    * `Seal`, `Seal.verdicts` — how passwords are hidden,
    * `Operation.sealed`, `Line.sealed`, `Desk.sealed` — what is under a seal,
    * `Seal.fair_verdicts` — a seal that keeps every verdict,
    * `Operation.weight_sealed`, `Listener.next_sealed` — one callback.
-/
import Correlator.Proofs.Weight
namespace Correlator

/-! ## §1. Seals -/

/-- The message with another text for each password in it. -/
def Message.withPassword (text : String) (m : Message) : Message :=
  { m with fields := m.fields.map fun f => if f.1 = Tag.password then (f.1, text) else f }

/-- How the password is hidden, in the credentials of a configuration and in a handshake that comes
in. -/
structure Seal where
  credentials : Credentials → Credentials
  handshake : Message → Message
  kind : ∀ m, (handshake m).kind = m.kind

namespace Seal

/-- The seal leaves what is wrong with a handshake as it is. -/
def Fair (σ : Seal) (c : Credentials) : Prop :=
  ∀ m, Desk.credentialsFault (σ.credentials c) (σ.handshake m) = Desk.credentialsFault c m

/-- Nothing is wrong with a handshake, as far as credentials are asked for. -/
def admits (asked : Option Credentials) (m : Message) : Bool :=
  asked.all fun c => (Desk.credentialsFault c m).isNone

/-- Hides each password behind the verdict on it. -/
def verdicts (asked : Option Credentials) : Seal where
  credentials c := { c with password := "right" }
  handshake m := m.withPassword (if admits asked m then "right" else "wrong")
  kind _ := rfl

theorem get?_withPassword (text : String) (m : Message) (t : Tag) :
    (m.withPassword text).get? t =
      (m.get? t).map fun v => if t = Tag.password then text else v := by
  show Message.lookup t (m.fields.map _) = (Message.lookup t m.fields).map _
  induction m.fields with
  | nil => rfl
  | cons f fs ih =>
    obtain ⟨u, v⟩ := f
    by_cases hu : u = t
    · subst hu
      by_cases hp : u = Tag.password <;> simp [Message.lookup, hp]
    · by_cases hp : u = Tag.password
      · subst hp
        simp [Message.lookup, hu, ih]
      · simp [Message.lookup, hu, hp, ih]

/-- **What a handshake comes to is the same under the seal.** -/
theorem fair_verdicts (c : Credentials) : (verdicts (some c)).Fair c := by
  intro m
  have username : (m.withPassword (if admits (some c) m then "right" else "wrong")).get?
      Tag.username = m.get? Tag.username := by
    rw [get?_withPassword]
    exact Option.map_id' ..
  have password : (m.withPassword (if admits (some c) m then "right" else "wrong")).get?
      Tag.password = (m.get? Tag.password).map fun _ =>
        if admits (some c) m then "right" else "wrong" := get?_withPassword ..
  have admitted : admits (some c) m = (Desk.credentialsFault c m).isNone := rfl
  show Desk.credentialsFault { c with password := "right" } (m.withPassword _) = _
  unfold Desk.credentialsFault at admitted ⊢
  rw [username, password, admitted]
  cases m.get? Tag.username with
  | none => rfl
  | some u =>
    cases m.get? Tag.password with
    | none => rfl
    | some p => by_cases hu : u = c.username <;> by_cases hp : p = c.password <;> simp [hu, hp]

/-- A handshake that comes in under the seal; other messages are as they are. -/
def message (σ : Seal) (m : Message) : Message :=
  if m.kind = .handshake then σ.handshake m else m

@[simp] theorem kind_message (σ : Seal) (m : Message) : (σ.message m).kind = m.kind := by
  unfold message
  split
  · exact σ.kind m
  · rfl

theorem message_of_handshake (σ : Seal) {m : Message} (h : m.kind = .handshake) :
    σ.message m = σ.handshake m := if_pos h

theorem message_of_other (σ : Seal) {m : Message} (h : m.kind ≠ .handshake) :
    σ.message m = m := if_neg h

end Seal

/-! ## §2. Operations under a seal -/

mutual

/-- An operation with the handshakes that come in under a seal, those in scripts included. -/
def Operation.sealed (σ : Seal) : Operation → Operation
  | .register name rule script => .register name rule (Operation.scriptSealed σ script)
  | .authenticateInbound m => .authenticateInbound (σ.message m)
  | .inbound m => .inbound (σ.message m)
  | op => op

/-- A script under a seal. -/
def Operation.scriptSealed (σ : Seal) : Script Operation → Script Operation
  | ⟨onMessage, onError, onClosed⟩ =>
    ⟨Operation.reactionsSealed σ onMessage, Operation.reactionsSealed σ onError,
      Operation.closedSealed σ onClosed⟩

/-- The reactions to a close under a seal. -/
def Operation.closedSealed (σ : Seal) :
    Option (List (Reaction Operation)) → Option (List (Reaction Operation))
  | none => none
  | some rs => some (Operation.reactionsSealed σ rs)

/-- Several reactions under a seal. -/
def Operation.reactionsSealed (σ : Seal) : List (Reaction Operation) → List (Reaction Operation)
  | [] => []
  | r :: rs => Operation.reactionSealed σ r :: Operation.reactionsSealed σ rs

/-- A reaction under a seal. -/
def Operation.reactionSealed (σ : Seal) : Reaction Operation → Reaction Operation
  | ⟨calls, panics⟩ => ⟨Operation.callsSealed σ calls, panics⟩

/-- Several operations under a seal. -/
def Operation.callsSealed (σ : Seal) : List Operation → List Operation
  | [] => []
  | op :: ops => Operation.sealed σ op :: Operation.callsSealed σ ops

end

namespace Operation

mutual

/-- As many operations lie in scripts under a seal. -/
theorem weight_sealed (σ : Seal) : ∀ op : Operation, (op.sealed σ).weight = op.weight
  | .register name rule script => by rw [sealed, weight, weight, scriptWeight_sealed σ script]
  | .authenticateInbound m => by rw [sealed, weight, weight] <;> simp
  | .inbound m => by rw [sealed, weight, weight] <;> simp
  | .subscribe _ _ | .dispatch _ | .broadcast _ | .resume | .close | .activeCount | .dispose _
  | .isActive _ | .create | .establish | .drop _ _ | .authenticateOutbound _
  | .outboundAdmin _ | .outboundApplication _ => by simp only [sealed]

theorem scriptWeight_sealed (σ : Seal) :
    ∀ script : Script Operation, scriptWeight (scriptSealed σ script) = scriptWeight script
  | ⟨onMessage, onError, onClosed⟩ => by
    rw [scriptSealed, scriptWeight, scriptWeight, reactionsWeight_sealed σ onMessage,
      reactionsWeight_sealed σ onError, closedWeight_sealed σ onClosed]

theorem closedWeight_sealed (σ : Seal) : ∀ rs : Option (List (Reaction Operation)),
    closedWeight (closedSealed σ rs) = closedWeight rs
  | none => by rw [closedSealed]
  | some rs => by rw [closedSealed, closedWeight, closedWeight, reactionsWeight_sealed σ rs]

theorem reactionsWeight_sealed (σ : Seal) : ∀ rs : List (Reaction Operation),
    reactionsWeight (reactionsSealed σ rs) = reactionsWeight rs
  | [] => by rw [reactionsSealed]
  | r :: rs => by
    rw [reactionsSealed, reactionsWeight, reactionsWeight, reactionWeight_sealed σ r,
      reactionsWeight_sealed σ rs]

theorem reactionWeight_sealed (σ : Seal) :
    ∀ r : Reaction Operation, reactionWeight (reactionSealed σ r) = reactionWeight r
  | ⟨calls, panics⟩ => by
    rw [reactionSealed, reactionWeight, reactionWeight, callsWeight_sealed σ calls]

theorem callsWeight_sealed (σ : Seal) :
    ∀ ops : List Operation, callsWeight (callsSealed σ ops) = callsWeight ops
  | [] => by rw [callsSealed]
  | op :: ops => by
    rw [callsSealed, callsWeight, callsWeight, weight_sealed σ op, callsWeight_sealed σ ops]

end

variable (σ : Seal)

theorem reactionsSealed_eq_map (rs : List (Reaction Operation)) :
    reactionsSealed σ rs = rs.map (reactionSealed σ) := by
  induction rs with
  | nil => rw [reactionsSealed, List.map_nil]
  | cons r rs ih => rw [reactionsSealed, ih, List.map_cons]

theorem closedSealed_eq_map (rs : Option (List (Reaction Operation))) :
    closedSealed σ rs = rs.map (reactionsSealed σ) := by
  cases rs with
  | none => rw [closedSealed, Option.map_none]
  | some rs => rw [closedSealed, Option.map_some]

/-- A callback takes the same reaction off a script, under the seal. -/
theorem next_scriptSealed (script : Script Operation) (c : Call) :
    (scriptSealed σ script).next c =
      ((script.next c).1.map (reactionSealed σ), scriptSealed σ (script.next c).2) := by
  obtain ⟨onMessage, onError, onClosed⟩ := script
  cases c with
  | message m => simp only [scriptSealed, Script.next, reactionsSealed_eq_map, List.head?_map,
      List.map_tail]
  | error d => simp only [scriptSealed, Script.next, reactionsSealed_eq_map, List.head?_map,
      List.map_tail]
  | closed =>
    cases onClosed with
    | none => simp only [scriptSealed, Script.next, closedSealed_eq_map, Option.map_none,
        Option.bind_none]
    | some rs => simp only [scriptSealed, Script.next, closedSealed_eq_map, Option.map_some,
        Option.bind_some, reactionsSealed_eq_map, List.head?_map, List.map_tail]

end Operation

/-! ## §3. Waiters under a seal -/

/-- A listener under a seal; the stream of a subscription holds no handshake to hide. -/
def Listener.sealed (σ : Seal) : Listener → Listener
  | scripted label script => scripted label (Operation.scriptSealed σ script)
  | stream q => stream q

def Sink.sealed (σ : Seal) (s : Sink) : Sink := { s with listener := s.listener.sealed σ }

namespace Listener

variable (σ : Seal) (l : Listener)

theorem weight_sealed : (l.sealed σ).weight = l.weight := by
  cases l with
  | scripted label script => exact Operation.scriptWeight_sealed σ script
  | stream q => rfl

theorem hearer_sealed (c : Call) : (l.sealed σ).hearer c = l.hearer c := by
  cases l with
  | scripted label script =>
    obtain ⟨onMessage, onError, onClosed⟩ := script
    cases c <;> cases onClosed <;>
      simp [sealed, hearer, Script.hears, Operation.scriptSealed, Operation.closedSealed]
  | stream q => rfl

theorem lags_sealed (c : Call) : (l.sealed σ).lags c = l.lags c := by
  cases l <;> rfl

/-- A listener under a seal takes a callback as it does without. -/
theorem next_sealed (c : Call) : (l.sealed σ).next c =
    ((l.next c).1.map fun r => (r.1, Operation.reactionSealed σ r.2), (l.next c).2.sealed σ) := by
  cases l with
  | scripted label script =>
    simp only [sealed, next, Operation.next_scriptSealed, Option.map_map]
    rfl
  | stream q => rfl

end Listener

/-! ## §4. A line under a seal, and what has happened -/

def Multiplexer.sealed (σ : Seal) (x : Multiplexer) : Multiplexer :=
  { x with sinks := x.sinks.map (Sink.sealed σ) }

def ConnectionConfig.sealed (σ : Seal) (c : ConnectionConfig) : ConnectionConfig :=
  { c with credentials := c.credentials.map σ.credentials }

def Line.sealed (σ : Seal) (l : Line) : Line :=
  { l with config := l.config.sealed σ, mux := l.mux.sealed σ }

def Event.sealed (σ : Seal) : Event → Event
  | .answered i label op a => .answered i label (op.sealed σ) a
  | .accepted m => .accepted (σ.message m)
  | .refused m d => .refused (σ.message m) d
  | e => e

/-- A moment with the line of a connection under a seal. -/
def Moment.sealed (σ : Seal) (c : ConnectionId) (x : Moment) : Moment :=
  ⟨x.event.sealed σ, x.line.map fun l => if l.id = c then l.sealed σ else l⟩

def Shared.sealed (σ : Seal) (c : ConnectionId) (s : Shared) : Shared :=
  { s with trail := s.trail.map (Moment.sealed σ c) }

/-- A desk with the line in hand under a seal.  The other lines have secrets of their own. -/
def Desk.sealed (σ : Seal) (w : Desk) : Desk :=
  { w with line := w.line.sealed σ, shared := w.shared.sealed σ w.line.id }

namespace Line

variable (σ : Seal) (l : Line)

theorem sink?_sealed (i : Nat) : (l.sealed σ).sink? i = (l.sink? i).map (Sink.sealed σ) :=
  List.getElem?_map

theorem weight_sealed : (l.sealed σ).weight = l.weight := by
  show Sink.weights (l.mux.sinks.map (Sink.sealed σ)) = Sink.weights l.mux.sinks
  induction l.mux.sinks with
  | nil => rfl
  | cons s ss ih =>
    rw [List.map_cons, Sink.weights_cons, Sink.weights_cons, ih]
    exact congrArg (· + _) (s.listener.weight_sealed σ)

end Line

theorem Multiplexer.mapSink_sealed {σ : Seal} {f : Sink → Sink}
    (hf : ∀ s, f (s.sealed σ) = (f s).sealed σ) (i : Nat) (x : Multiplexer) :
    (x.sealed σ).mapSink i f = (x.mapSink i f).sealed σ := by
  have sinks : (x.sinks.map (Sink.sealed σ)).modify i f =
      (x.sinks.modify i f).map (Sink.sealed σ) := by
    refine List.ext_getElem? fun j => ?_
    rw [List.getElem?_modify, List.getElem?_map, List.getElem?_map, List.getElem?_modify]
    cases x.sinks[j]? with
    | none => rfl
    | some s =>
      show some (if i = j then f (s.sealed σ) else s.sealed σ) =
        some ((if i = j then f s else s).sealed σ)
      split
      · rw [hf]
      · rfl
  exact congrArg (fun ss => { x with sinks := ss }) sinks

/-- The disposal of a sink is the same under a seal. -/
theorem Line.disposeAt_sealed (σ : Seal) (i : Nat) (l : Line) :
    (l.sealed σ).disposeAt i = ((l.disposeAt i).1, (l.disposeAt i).2.sealed σ) := by
  let phase (s : Sink) : Sink := if s.isActive then { s with phase := .disposed } else s
  have blind : ∀ s : Sink, phase (s.sealed σ) = (phase s).sealed σ := by
    intro s
    show (if s.isActive then _ else _) = Sink.sealed σ (if s.isActive then _ else _)
    split <;> rfl
  have active : (l.sealed σ).isActiveAt i = l.isActiveAt i := by
    unfold isActiveAt
    rw [sink?_sealed]
    cases l.sink? i <;> rfl
  have struck := Multiplexer.mapSink_sealed blind i l.mux
  have released : (l.sealed σ).mux.released = l.mux.released := rfl
  unfold disposeAt
  dsimp only
  rw [active, released]
  split
  · exact congrArg (fun x => (l.isActiveAt i, ({ l.sealed σ with mux := x } : Line))) struck
  · exact congrArg (fun x : Multiplexer => (l.mux.active.contains i || l.isActiveAt i,
      ({ l.sealed σ with mux := { x with active := x.active.filter (· ≠ i) } } : Line))) struck

end Correlator
