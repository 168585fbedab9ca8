/-
  Correlator.Proofs.Codes — A CODE HAS ONE TYPE, AND THE TYPE ONE KIND.

  A type is written by one table, read by another, and a third says how its
  messages are treated.  The tables agree: what is read from a text is written
  as that text, and what is written is read again as the same type, unless it is
  a custom type in disguise, with the code of a named one.  No text is read as
  such a type.  So the text of a code settles the kind of a message, and a type
  that was read from a text cannot have the code of a keep-alive, a handshake or
  a logout and still pass for one that waiters are given.

  Main results:
    * `MsgType.ofCode_code_iff` — which types are read as they were written,
    * `MsgType.kind_ofCode` — the kind of what is read from a text,
    * `Operation.conveyed_execAll` — waiters are given what comes in,
    * `MsgType.codes_settle_kinds` — every text and every run.
-/
import Correlator.Proofs.InboundGate
import Correlator.Proofs.Visits
import Mathlib.Logic.Function.Basic
namespace Correlator

namespace MsgType

variable {s : String} {t : MsgType}

/-! ## §1. Reading and writing -/

/-- A custom type that carries the code of a named one. -/
def Disguised (t : MsgType) : Prop := ∃ c, t = custom c ∧ ∃ u ∈ named, u.code = c

/-- The types that are not named are the custom ones. -/
theorem mem_named_iff : t ∈ named ↔ t ≠ custom t.code := by
  cases t <;> simp [named, code]

theorem eq_custom_of_not_named (h : t ∉ named) : t = custom t.code := by
  by_contra hne
  exact h (mem_named_iff.mpr hne)

/-- What is read from a text is written as that text, row by row. -/
@[simp] theorem code_ofCode (s : String) : (ofCode s).code = s := by
  fun_cases ofCode s <;> rfl

/-- The reading table has a row for each named type, and not one that comes too late. -/
theorem ofCode_code_of_named : ∀ t ∈ named, ofCode t.code = t := by
  decide

/-- A text that is not read as a named type is read as a custom one. -/
theorem ofCode_of_not_named (h : ofCode s ∉ named) : ofCode s = custom s := by
  have read : ofCode s = custom (ofCode s).code := eq_custom_of_not_named h
  rw [code_ofCode] at read
  exact read

/-- No text is read as a type in disguise: the named type has the row. -/
theorem not_disguised_ofCode (s : String) : ¬ (ofCode s).Disguised := by
  rintro ⟨c, hc, u, hu, rfl⟩
  have spelled : s = u.code :=
    calc s = (ofCode s).code := (code_ofCode s).symm
      _ = (custom u.code).code := by rw [hc]
  have read : u = custom u.code :=
    calc u = ofCode u.code := (ofCode_code_of_named u hu).symm
      _ = ofCode s := by rw [← spelled]
      _ = custom u.code := hc
  exact mem_named_iff.mp hu read

/-- **A type is read as it was written exactly if it is not in disguise.** -/
theorem ofCode_code_iff : ofCode t.code = t ↔ ¬ t.Disguised := by
  constructor
  · intro h
    rw [← h]
    exact not_disguised_ofCode t.code
  · intro h
    by_cases ht : t ∈ named
    · exact ofCode_code_of_named t ht
    · have own : t = custom t.code := eq_custom_of_not_named ht
      -- If its code were read as a named type, the custom type would pass for that one.
      have unnamed : ofCode t.code ∉ named := by
        intro hu
        exact h ⟨t.code, own, ofCode t.code, hu, code_ofCode t.code⟩
      rw [ofCode_of_not_named unnamed]
      exact own.symm

/-! ## §2. Kinds -/

/-- The codes of the named types of a kind. -/
def codesOf (k : MessageKind) : List String := (named.filter fun t => t.kind = k).map code

/-- A type that is not for applications is a named one. -/
theorem mem_named_of_kind (h : t.kind ≠ .application) : t ∈ named := by
  rw [mem_named_iff]
  intro ht
  rw [ht] at h
  exact h rfl

/-- A text is read as a type of a kind that is not for applications if it is the code of one. -/
theorem kind_ofCode_eq_iff {k : MessageKind} (hk : k ≠ .application) :
    (ofCode s).kind = k ↔ s ∈ codesOf k := by
  simp only [codesOf, List.mem_map, List.mem_filter, decide_eq_true_eq]
  constructor
  · intro h
    -- Only application types are custom ones.
    have hnamed : ofCode s ∈ named := by
      refine mem_named_of_kind ?_
      rw [h]
      exact hk
    exact ⟨ofCode s, ⟨hnamed, h⟩, code_ofCode s⟩
  · rintro ⟨t, ⟨ht, hkind⟩, rfl⟩
    rw [ofCode_code_of_named t ht]
    exact hkind

/-- The kind that a text is read as. -/
theorem kind_ofCode (s : String) :
    ((ofCode s).kind = .handshake ↔ s = "A") ∧
    ((ofCode s).kind = .logout ↔ s = "5") ∧
    ((ofCode s).kind = .keepalive ↔ s ∈ ["0", "1", "2", "4"]) ∧
    ((ofCode s).kind = .reject ↔ s ∈ ["3", "j"]) ∧
    ((ofCode s).kind = .application ↔ s ∉ ["A", "5", "0", "1", "2", "4", "3", "j"]) := by
  have handshake : (ofCode s).kind = .handshake ↔ s ∈ ["A"] := kind_ofCode_eq_iff (by decide)
  have logout : (ofCode s).kind = .logout ↔ s ∈ ["5"] := kind_ofCode_eq_iff (by decide)
  have keepalive : (ofCode s).kind = .keepalive ↔ s ∈ ["0", "1", "2", "4"] :=
    kind_ofCode_eq_iff (by decide)
  have reject : (ofCode s).kind = .reject ↔ s ∈ ["3", "j"] := kind_ofCode_eq_iff (by decide)
  refine ⟨handshake.trans List.mem_singleton, logout.trans List.mem_singleton, keepalive, reject,
    ?_⟩
  -- An application type is what is left when the text has none of the other kinds.
  have listed : s ∈ ["A", "5", "0", "1", "2", "4", "3", "j"] ↔
      s ∈ ["A"] ∨ s ∈ ["5"] ∨ s ∈ ["0", "1", "2", "4"] ∨ s ∈ ["3", "j"] := by
    simp only [← List.mem_append]
    rfl
  rw [listed, ← handshake, ← logout, ← keepalive, ← reject]
  cases (ofCode s).kind <;> simp

end MsgType

/-- What goes to waiters. -/
theorem MessageKind.isRoutable_iff {k : MessageKind} :
    k.isRoutable = true ↔ k = .application ∨ k = .reject := by
  cases k <;> decide

/-! ## §3. What waiters are given -/

/-- The message that an operation takes in. -/
def Operation.arrival? : Operation → Option Message
  | .inbound m => some m
  | _ => none

/-- A message that comes in has the property, and nobody but the connection hands the multiplexer
a message. -/
def Operation.Conveys (P : Message → Prop) (op : Operation) : Prop :=
  op.Routed ∧ ∀ m ∈ op.arrival?, P m

instance (P : Message → Prop) [DecidablePred P] : DecidablePred (Operation.Conveys P) := fun op =>
  inferInstanceAs (Decidable (op.Routed ∧ ∀ m ∈ op.arrival?, P m))

/-- A message that a waiter is given has the property and is of a kind that goes to waiters. -/
def Moment.Conveyed (P : Message → Prop) (x : Moment) : Prop :=
  ∀ i label m, x.event = .called i label (.message m) → P m ∧ m.kind.isRoutable = true

/-- A course on which all that waiters are given has the property, if it had so far. -/
structure Conveyance (P : Message → Prop) (a b : Stage) : Prop where
  course : Course (Operation.Conveys P) a b
  given : (∀ x ∈ a.desk.shared.deliveries, x.Conveyed P) →
    ∀ x ∈ b.desk.shared.deliveries, x.Conveyed P

namespace Conveyance

variable {P : Message → Prop} {a b c : Stage}

/-- A course on which nobody is given a message. -/
theorem of_deliveries (h : Course (Operation.Conveys P) a b)
    (hd : b.desk.shared.deliveries = a.desk.shared.deliveries) : Conveyance P a b where
  course := h
  given := by
    rw [hd]
    exact id

theorem refl (a : Stage) : Conveyance P a a := of_deliveries (.refl a) rfl

theorem trans (h : Conveyance P a b) (k : Conveyance P b c) : Conveyance P a c where
  course := h.course.trans k.course
  given far := k.given (h.given far)

variable {call : Caller} {m : Message} {w : Desk} {owed : List Nat}

/-- A sink is given a message that came in. -/
theorem hear (hm : P m ∧ m.kind.isRoutable = true) {i : Nat} {s : Sink} (hs : w.sink? i = some s)
    (ha : s.phase = .active) (hj : s.rule.judge m = .accepts) :
    Conveyance P ⟨w, owed⟩ ⟨w.hear i s (.message m), owed⟩ where
  course := .act (.deliver hs ha hj)
  given := by
    intro far x hx
    have hx : x ∈ (w.hear i s (.message m)).shared.deliveries := hx
    rw [Desk.deliveries_hear] at hx
    unfold Shared.deliveries at hx
    rw [Desk.history_record, List.filter_append, List.mem_append] at hx
    rcases hx with hx | hx
    · exact far x hx
    · -- What is new is this delivery.
      rw [List.mem_singleton.mp (List.mem_filter.mp hx).1]
      intro j label m' he
      cases he
      exact hm

/-- A message that came in is offered to one sink. -/
theorem deliver (hc : Desk.Follows (Conveyance P) (Operation.Conveys P) call)
    (hm : P m ∧ m.kind.isRoutable = true) (hw : w.Obeys (Operation.Conveys P)) (i : Nat) :
    Conveyance P ⟨w, owed⟩ ⟨(w.deliver call m i).2, owed⟩ := by
  cases htakes : w.takes m i with
  | true =>
    obtain ⟨s, hs, ha, hj⟩ := Desk.takes_iff.mp htakes
    rw [Desk.deliver_of_takes htakes]
    -- What the waiter does in the callback is told by the caller.
    have heard : Conveyance P ⟨w, owed⟩ ⟨w.hear i s (.message m), owed⟩ := .hear hm hs ha hj
    exact heard.trans (hc.tell hs hw (.message m) owed)
  | false =>
    rcases Desk.deliver_of_not_takes call htakes with h | h
    · rw [h]
      exact .refl _
    · rw [h]
      have noted : Aside w (w.note .callbackPanicked) := .event rfl
      exact .of_deliveries (.aside noted (Desk.milestones_record rfl w)) noted.beside.deliveries

/-- A message that came in is offered to several sinks, one after the other. -/
theorem visit_deliver (hc : Desk.Follows (Conveyance P) (Operation.Conveys P) call)
    (hm : P m ∧ m.kind.isRoutable = true) (hw : w.Obeys (Operation.Conveys P))
    (places : List Nat) :
    Conveyance P ⟨w, owed⟩ ⟨(Desk.visit (Desk.deliver call m) places w).2, owed⟩ := by
  -- By induction on the snapshot; each sink finds the desk that the earlier ones have left.
  induction places generalizing w with
  | nil => exact .refl _
  | cons i rest ih =>
    have first : Conveyance P ⟨w, owed⟩ ⟨(w.deliver call m i).2, owed⟩ := .deliver hc hm hw i
    exact first.trans (ih (first.course.obeys hw))

end Conveyance

/-- What is dispatched has come in while the connection was established, and so it is of a kind that
goes to waiters. -/
instance (P : Message → Prop) : Telling (Operation.Conveys P) (Conveyance P) where
  course := Conveyance.course
  refl := .refl
  trans := .trans
  whole h := .of_deliveries h.course h.deliveries
  broadcast {w u v owed d} h inside := by
    refine ⟨.broadcast h inside.course, ?_⟩
    intro far x hx
    -- Neither the onset of a broadcast nor the notice at its end gives anybody a message.
    have told : (v.note .dropBroadcast).shared.deliveries = v.shared.deliveries :=
      Desk.deliveries_record rfl v
    have hx : x ∈ (v.note .dropBroadcast).shared.deliveries := hx
    rw [told] at hx
    refine inside.given ?_ x hx
    show ∀ y ∈ u.shared.deliveries, y.Conveyed P
    rw [h.beside.deliveries]
    exact far
  dispatch {call m w owed} hc h hw := by
    cases h with
    | asked h => cases h.1
    | inbound h hr => exact .visit_deliver hc ⟨h.2 m rfl, hr⟩ hw _

/-- **Waiters are given what comes in.**  On every run of operations that leave dispatching to the
connection, in callbacks or outside them: if all messages that come in have a property, then so does
each message that a waiter is given, and it is of a kind that goes to waiters. -/
theorem Operation.conveyed_execAll {P : Message → Prop} (w : Desk) (config : ConnectionConfig)
    (capacity : Nat) {ops : List Operation} (hops : ∀ op ∈ ops, op.Keeps (Conveys P)) {i : Nat}
    {m : Message}
    (h : (i, .message m) ∈ (execAll ops (w.opening config capacity)).2.shared.calls) :
    P m ∧ m.kind.isRoutable = true := by
  have told : Conveyance P ⟨w.opening config capacity, []⟩
      ⟨(execAll ops (w.opening config capacity)).2, []⟩ :=
    execAll_tells hops _ [] (.opening w config capacity)
  obtain ⟨⟨e, line⟩, hx, hcall⟩ := List.mem_filterMap.mp h
  cases e with
  | called j label c =>
    cases hcall
    have delivered : ⟨.called i label (.message m), line⟩ ∈
        (execAll ops (w.opening config capacity)).2.shared.deliveries :=
      List.mem_filter.mpr ⟨hx, rfl⟩
    exact told.given (fun x hx => absurd hx List.not_mem_nil) _ delivered i label m rfl
  | _ => cases hcall

/-! ## §4. Every text and every run -/

/-- The type of the message was read from a text. -/
def Message.Spelled (m : Message) : Prop := ∃ s, m.type = .ofCode s

theorem Message.spelled_iff {m : Message} : m.Spelled ↔ MsgType.ofCode m.type.code = m.type := by
  constructor
  · rintro ⟨s, hs⟩
    rw [hs, MsgType.code_ofCode]
  · intro h
    exact ⟨m.type.code, h.symm⟩

instance : DecidablePred Message.Spelled := fun _ => decidable_of_iff _ Message.spelled_iff.symm

/-- **The code settles the kind.**  Every text is the code of the type that it is read as, and every
type but those in disguise is read as it was written.  A text is read as a handshake, a logout, a
keep-alive or a reject if it is one of the codes for that, and as an application type if it is none
of them.  On every run of operations that leave dispatching to the connection, in callbacks or
outside them, in which the types of all messages that come in were read from texts: what a waiter is
given is a reject with a code for that, or an application message whose code is none of those. -/
theorem MsgType.codes_settle_kinds :
    (∀ s, (ofCode s).code = s) ∧
    (∀ t, ofCode t.code = t ↔ ¬ Disguised t) ∧
    Function.Injective ofCode ∧ (∀ s, ¬ (ofCode s).Disguised) ∧
    (∀ s, ((ofCode s).kind = .handshake ↔ s = "A") ∧
      ((ofCode s).kind = .logout ↔ s = "5") ∧
      ((ofCode s).kind = .keepalive ↔ s ∈ ["0", "1", "2", "4"]) ∧
      ((ofCode s).kind = .reject ↔ s ∈ ["3", "j"]) ∧
      ((ofCode s).kind = .application ↔ s ∉ ["A", "5", "0", "1", "2", "4", "3", "j"])) ∧
    ∀ (w : Desk) (config : ConnectionConfig) (capacity : Nat) (ops : List Operation),
      (∀ op ∈ ops, op.Keeps (Operation.Conveys Message.Spelled)) →
      ∀ i m, (i, Call.message m) ∈
          (Operation.execAll ops (w.opening config capacity)).2.shared.calls →
        m.kind = .application ∧ m.type.code ∉ ["A", "5", "0", "1", "2", "4", "3", "j"] ∨
        m.kind = .reject ∧ m.type.code ∈ ["3", "j"] := by
  have injective : Function.Injective ofCode := Function.LeftInverse.injective code_ofCode
  refine ⟨code_ofCode, fun _ => ofCode_code_iff, injective, not_disguised_ofCode, kind_ofCode, ?_⟩
  intro w config capacity ops hops i m hcall
  -- The message came in with a type that was read from its code, and only two kinds go to waiters.
  obtain ⟨⟨s, hs⟩, routable⟩ := Operation.conveyed_execAll w config capacity hops hcall
  have kind : m.kind = (ofCode s).kind := congrArg MsgType.kind hs
  have spelled : m.type.code = s := by rw [hs, code_ofCode]
  obtain ⟨-, -, -, reject, application⟩ := kind_ofCode s
  rw [spelled, kind]
  rw [kind, MessageKind.isRoutable_iff] at routable
  rcases routable with h | h
  · exact .inl ⟨h, application.mp h⟩
  · exact .inr ⟨h, reject.mp h⟩

/-- A keep-alive comes in, then an order, and while the waiter has it, another keep-alive and a
reject; then two unknown codes, one of which begins like a handshake, another reject, and a logout,
after which an order is discarded. -/
theorem MsgType.codes_settle_kinds_many_texts :
    let config : ConnectionConfig :=
      ⟨"venue", .plain "FIX.4.4" "A" "B", .dialingSingleThreaded, none⟩
    let spelled : String → Message := fun s => .empty (.ofCode s)
    let nested : Reaction Operation :=
      ⟨[.inbound (spelled "1"), .inbound (spelled "j")], false⟩
    let ops : List Operation :=
      [.register "all" .always ⟨[nested], [], none⟩, .authenticateOutbound (spelled "A"),
        .establish, .inbound (spelled "0"), .inbound (spelled "D"), .inbound (spelled "A0"),
        .inbound (spelled ""), .inbound (spelled "3"), .inbound (spelled "5"),
        .inbound (spelled "D")]
    let w := Desk.ofLine (.ofConfig config 4) ⟨[], 0⟩
    let v := (Operation.execAll ops (w.opening config 4)).2
    (∀ op ∈ ops, op.Keeps (Operation.Conveys Message.Spelled)) ∧
    v.shared.calls =
      [(0, .message (.empty .newOrderSingle)), (0, .message (.empty .businessMessageReject)),
        (0, .message (.empty (.custom "A0"))), (0, .message (.empty (.custom ""))),
        (0, .message (.empty .reject)), (0, .error ⟨config.id, .logout, none⟩)] ∧
    ∀ i m, (i, Call.message m) ∈ v.shared.calls →
      m.kind = .application ∧ m.type.code ∉ ["A", "5", "0", "1", "2", "4", "3", "j"] ∨
      m.kind = .reject ∧ m.type.code ∈ ["3", "j"] := by
  intro config spelled nested ops w v
  have hops : ∀ op ∈ ops, op.Keeps (Operation.Conveys Message.Spelled) := by decide
  obtain ⟨-, -, -, -, -, runs⟩ := codes_settle_kinds
  exact ⟨hops, by decide, runs w config 4 ops hops⟩

/-- A type in disguise passes, so what is read matters. -/
example :
    let config : ConnectionConfig :=
      ⟨"venue", .plain "FIX.4.4" "A" "B", .dialingSingleThreaded, none⟩
    let ops : List Operation :=
      [.register "all" .always ⟨[], [], none⟩, .authenticateOutbound (.empty .logon), .establish,
        .inbound (.empty (.custom "0"))]
    let w := Desk.ofLine (.ofConfig config 4) ⟨[], 0⟩
    (Operation.execAll ops (w.opening config 4)).2.shared.calls =
      [(0, .message (.empty (.custom "0")))] := by
  decide

end Correlator
