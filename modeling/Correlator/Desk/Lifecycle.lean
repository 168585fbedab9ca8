/-
  Correlator.Desk.Lifecycle — THE LIFE OF THE CONNECTION IN HAND.

  A connection is created, authenticates, is established and drops.  Each step
  is checked against the table of allowed steps, and a refused step changes
  nothing.  A drop is told to every waiter; the connection's state is set
  first, so a waiter finds it dropped.  Establishing the connection takes the
  drop off the record.

  Main content:
    * `Desk.create`, `Desk.establish`, `Desk.goDown`, `Desk.dropWith`,
    * `Desk.authenticateOutbound`, `Desk.weighWith`, `Desk.authenticateInboundWith`,
    * `Desk.outboundAdmin`, `Desk.outboundApplication`, `Desk.inboundWith`.
-/
import Correlator.Desk.Dispatch
namespace Correlator

namespace Desk

/-! ## Steps -/

/-- Checks a step against the table; a step to another state is noted, and so is a refusal. -/
def check (next : ConnectionState) (w : Desk) : Except LinkError Unit × Desk :=
  match ConnectionState.transition w.line.id w.line.state next with
  | .error e => (.error (.session e), w.note .transitionRejected)
  | .ok _ => (.ok (), if w.line.state = next then w else w.note .stateTransition)

/-- Counts the connection as ready if the barrier expects the event. -/
def arrive (e : Readiness) (w : Desk) : Desk :=
  w.mapShared fun s => (s.arrive (some w.line) w.line.id e).2

/-- The physical connection is there. -/
def create (w : Desk) : Except LinkError Unit × Desk :=
  match w.check .created with
  | (.error e, w) => (.error e, w)
  | (.ok _, w) => (.ok (), ((w.setState .created).note .connectionCreated).arrive .created)

/-- The connection comes up, and the text of an earlier logout is forgotten. -/
def comeUp (w : Desk) : Desk :=
  ((w.setState .established).mapLine fun l => { l with logoutText := none }).note
    .connectionEstablished

/-- The handshake is complete.  The drop is taken off the record before the state is set. -/
def establish (w : Desk) : Except LinkError Unit × Desk :=
  match w.check .established with
  | (.error e, w) => (.error e, w)
  | (.ok _, w) =>
    -- Nothing may find the connection established while a drop is on record.
    (.ok (), w.resume.comeUp.arrive .established)

/-! ## Drops -/

/-- A reason that says something: an empty one is none. -/
def stated (reason : Option String) : Option String := reason.filter fun r => r ≠ ""

/-- The cause and the reason of a drop.  A message gives the reason with its text.  Without one,
a logout that was sent explains a disconnect. -/
def explain (cause : DropCause) (m : Option Message) (sent : Option String) :
    DropCause × Option String :=
  match m, sent with
  | some m, _ => (cause, stated (m.get? Tag.text))
  | none, some text => if cause = .disconnect then (.logout, stated (some text)) else (cause, none)
  | none, none => (cause, none)

/-- The drop of the connection in hand when it is lost. -/
def lossOf (cause : DropCause) (m : Option Message) (w : Desk) : ConnectionDropped :=
  let (cause, reason) := explain cause m w.line.logoutText
  ⟨w.line.id, cause, reason⟩

/-- The connection goes down with a drop.  The text of a logout is spent on it even if a message
gives the reason. -/
def goDown (cause : DropCause) (m : Option Message) (w : Desk) : Desk :=
  let drop := w.lossOf cause m
  let w := w.mapLine fun l => { l with state := .dropped, logoutText := none }
  (w.record (.lost cause m drop)).note .connectionDropped

/-- The connection is lost.  Says whether it was there before; if not, nothing changes. -/
def dropWith (call : Caller) (cause : DropCause) (m : Option Message) (w : Desk) : Bool × Desk :=
  if w.line.state = .dropped then (false, w.note .alreadyDropped)
  else (true, ((w.goDown cause m).broadcastWith call (w.lossOf cause m)).2)

/-- What is lost already is not lost again. -/
theorem dropWith_of_dropped {w : Desk} (hs : w.line.state = .dropped) (call : Caller)
    (cause : DropCause) (m : Option Message) :
    w.dropWith call cause m = (false, w.note .alreadyDropped) := if_pos hs

theorem dropWith_of_not_dropped {w : Desk} (hs : w.line.state ≠ .dropped) (call : Caller)
    (cause : DropCause) (m : Option Message) : w.dropWith call cause m =
      (true, ((w.goDown cause m).broadcastWith call (w.lossOf cause m)).2) := if_neg hs

/-! ## Handshakes -/

/-- A handshake goes out.  The side that dials puts its credentials in. -/
def authenticateOutbound (m : Message) (w : Desk) : (Except LinkError Unit × Message) × Desk :=
  if m.kind ≠ .handshake then ((.ok (), m), w)
  else match w.check .authenticating with
    | (.error e, w) => ((.error e, m), w)
    | (.ok _, w) =>
      let w := (w.setState .authenticating).record (.offered m)
      if w.line.config.role.presentsCredentials then
        match w.line.config.credentials with
        | none => ((.ok (), m), w)
        | some c =>
          ((.ok (), (m.set Tag.username c.username).set Tag.password c.password),
            w.note .credentialsAttached)
      else ((.ok (), m), w)

/-- What is wrong with the credentials in a handshake, if anything. -/
def credentialsFault (expected : Credentials) (m : Message) : Option String :=
  match m.get? Tag.username, m.get? Tag.password with
  | some u, some p =>
    if u = expected.username ∧ p = expected.password then none else some "credentials mismatch"
  | _, _ => some "credentials missing"

/-- The credentials that the connection in hand checks, if it does. -/
def guard? (w : Desk) : Option Credentials :=
  if w.line.config.role.validatesCredentials then w.line.config.credentials else none

/-- The connection goes down with a drop because a handshake is refused.  This is a drop of its
own: the text of a logout that was sent stays. -/
def turnAway (m : Message) (drop : ConnectionDropped) (w : Desk) : Desk :=
  ((w.note .handshakeRejected).setState .dropped).record (.refused m drop)

/-- A handshake that may come in is weighed: one with wrong credentials drops the connection. -/
def weighWith (call : Caller) (m : Message) (w : Desk) : Except LinkError Unit × Desk :=
  let w := w.setState .authenticating
  match w.guard? with
  | none => (.ok (), w.record (.accepted m))
  | some expected =>
    match credentialsFault expected m with
    | none => (.ok (), (w.record (.accepted m)).note .credentialsAccepted)
    | some reason =>
      let drop : ConnectionDropped := ⟨w.line.id, .authenticationRejected, some reason⟩
      (.error (.authenticationRejected w.line.id reason),
        ((w.turnAway m drop).broadcastWith call drop).2)

/-- A handshake comes in.  The side that listens checks the credentials; wrong ones drop the
connection. -/
def authenticateInboundWith (call : Caller) (m : Message) (w : Desk) :
    Except LinkError Unit × Desk :=
  if m.kind ≠ .handshake then (.ok (), w)
  else match w.check .authenticating with
    | (.error e, w) => (.error e, w)
    | (.ok _, w) => w.weighWith call m

/-! ## Traffic -/

/-- A logout goes out.  Its text is kept until it explains a drop, in place of an earlier one. -/
def sayGoodbye (m : Message) (w : Desk) : Desk :=
  (w.mapLine fun l => { l with logoutText := some ((m.get? Tag.text).getD "") }).record
    (.loggedOut m)

/-- A session message goes out. -/
def outboundAdmin (m : Message) (w : Desk) : (Except LinkError Unit × Message) × Desk :=
  match m.kind with
  | .handshake => w.authenticateOutbound m
  | .logout => ((.ok (), m), w.sayGoodbye m)
  | _ => ((.ok (), m), w)

/-- An application message goes out. -/
def outboundApplication (m : Message) (w : Desk) : Desk :=
  if m.kind = .keepalive then w else w.note .outboundApplication

/-- A message comes in.  The answer is the number of waiters that it reached. -/
def inboundWith (call : Caller) (m : Message) (w : Desk) : Except LinkError Nat × Desk :=
  match m.kind with
  | .keepalive => (.ok 0, w.note .keepalive)
  | .handshake =>
    match w.authenticateInboundWith call m with
    | (.error e, w) => (.error e, w)
    | (.ok _, w) => (.ok 0, w)
  | .logout => (.ok 0, (w.dropWith call .logout (some m)).2)
  | _ =>
    if w.line.state.isEstablished then
      let (n, w) := w.dispatchWith call m
      (.ok n, w)
    else (.ok 0, w.note .messageDiscarded)

end Desk

end Correlator
