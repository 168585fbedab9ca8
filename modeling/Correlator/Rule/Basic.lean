/-
  Correlator.Rule.Basic — WHICH MESSAGES A WAITER WANTS.

  A rule judges a message: it accepts it, rejects it, or panics.  Most rules
  are plain predicates.  A reference rule belongs to a request and knows how
  its replies refer to it: by repeating its identifier, by its sequence
  number, or in a way of its own that is asked last.

  Main content:
    * `Verdict`, `Rule`, `Rule.judge`,
    * `ReferenceRule.judge` and `ReferenceRule.onSent`, which learns the
      sequence number of the request once and for all.
-/
import Correlator.Message.Basic
namespace Correlator

/-! ## Verdicts -/

/-- What comes of judging a message. -/
inductive Verdict where
  | accepts
  | rejects
  | panics
  deriving DecidableEq, Repr

/-- The verdict of a condition. -/
def Verdict.ofBool (b : Bool) : Verdict := if b then .accepts else .rejects

/-! ## Reference rules -/

/-- A comparison of a request with a possible reply. -/
abbrev Comparison := Message → Message → Verdict

/-- The rule for the replies to one request. -/
structure ReferenceRule where
  /-- The identifier that replies repeat. -/
  requestId : Option String
  /-- The fields in which replies repeat it. -/
  referenceTags : List Tag
  /-- The sequence number of the request, once it is known. -/
  requestSeq : Option SeqNum
  request : Message
  secondary : Option Comparison

namespace ReferenceRule

/-- The message repeats the request's identifier. -/
def repeatsId (r : ReferenceRule) (m : Message) : Bool :=
  match r.requestId with
  | none => false
  | some v => r.referenceTags.any fun tag => m.get? tag = some v

/-- The message refers to the request's sequence number. -/
def repeatsSeq (r : ReferenceRule) (m : Message) : Bool :=
  match r.requestSeq with
  | none => false
  | some n => m.word? Tag.refSeqNum = some n.value

/-- The identifier is asked first, then the sequence number, and the comparison last. -/
def judge (r : ReferenceRule) (m : Message) : Verdict :=
  if r.repeatsId m then .accepts
  else if r.repeatsSeq m then .accepts
  else match r.secondary with
    | none => .rejects
    | some compare => compare r.request m

/-- Takes the sequence number of the request as it was sent, unless one is known already. -/
def onSent (r : ReferenceRule) (sent : Message) : ReferenceRule :=
  { r with requestSeq := r.requestSeq.orElse fun _ => sent.seqNum? }

end ReferenceRule

/-! ## Rules -/

/-- A rule for the messages of a waiter. -/
inductive Rule where
  | predicate (judge : Message → Verdict)
  | reference (rule : ReferenceRule)

namespace Rule

/-- What the rule says of a message. -/
def judge : Rule → Message → Verdict
  | predicate f, m => f m
  | reference r, m => r.judge m

/-- The rule after its request was sent. -/
def onSent : Rule → Message → Rule
  | predicate f, _ => predicate f
  | reference r, m => reference (r.onSent m)

/-- A rule that never panics. -/
def ofTest (test : Message → Bool) : Rule := predicate fun m => Verdict.ofBool (test m)

/-! ## Rules in stock -/

/-- Every message. -/
def always : Rule := ofTest fun _ => true

/-- No message. -/
def never : Rule := ofTest fun _ => false

/-- Messages whose field has the value. -/
def field (tag : Tag) (value : String) : Rule := ofTest fun m => m.get? tag = some value

/-- Messages with the client order identifier. -/
def clOrdId (value : String) : Rule := field Tag.clOrdId value

/-- Messages of the type. -/
def msgType (type : MsgType) : Rule := ofTest fun m => m.type = type

/-- Messages whose field is an even number of 32 bits. -/
def even (tag : Tag) : Rule :=
  ofTest fun m => match m.natural? tag (UInt32.size - 1) with
    | none => false
    | some n => n % 2 = 0

/-- Panics on every message. -/
def failing : Rule := predicate fun _ => .panics

/-- Panics on a message that has the field and accepts all others. -/
def failingOn (tag : Tag) : Rule := predicate fun m => if m.has tag then .panics else .accepts

end Rule

end Correlator
