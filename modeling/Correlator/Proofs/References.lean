/-
  Correlator.Proofs.References — WHAT A REFERENCE RULE ACCEPTS.

  A reference factory begins with the standard mappings and may be adjusted: a
  mapping is set for a type of request, or a comparison is installed.  The rule
  for the replies to a request accepts a message for one of three reasons.  The
  message repeats the identifier of the request in one of the fields that the
  mapping names; or it refers to the number of the request, as a number and not
  as a text; or the comparison says so, which is asked only if the message does
  neither.

  The number is the one that the request carries, or else the first one that the
  rule learns from a message that was sent.  Once there is one, nothing changes
  it.

  Main results:
    * `Text.Numeral.word?_eq_some` — which texts are numbers,
    * `ReferenceFactory.adjustAll`, `ReferenceFactory.governing` — adjustments,
    * `ReferenceFactory.repeats_iff`, `ReferenceFactory.refers_iff` — the first
      two reasons,
    * `ReferenceFactory.rule_exact` — every rule of every factory.
-/
import Correlator.Rule.Reference
import Mathlib.Data.List.Induction
namespace Correlator

/-! ## §1. Numbers in texts -/

namespace Text.Numeral

/-- The value of digits that follow the value `n`. -/
def valueFrom (n : Nat) (digits : List Char) : Nat :=
  digits.foldl (fun n c => 10 * n + digitValue c) n

/-- The text denotes the number: decimal digits, at least one, after a plus sign or nothing, and
the value fits in 64 bits. -/
def Denotes (s : String) (n : Nat) : Prop :=
  ∃ digits : List Char, (s.toList = digits ∨ s.toList = '+' :: digits) ∧ digits ≠ [] ∧
    (∀ c ∈ digits, c.isDigit = true) ∧ valueFrom 0 digits = n ∧ n < UInt64.size

/-- More digits make no smaller number. -/
theorem le_valueFrom (n : Nat) (digits : List Char) : n ≤ valueFrom n digits := by
  induction digits generalizing n with
  | nil => exact Nat.le_refl n
  | cons c digits ih =>
    have more : n ≤ 10 * n + digitValue c := by omega
    exact Nat.le_trans more (ih _)

/-- **Digits are read exactly if they are digits and their value is within the bound.** -/
theorem magnitude_eq_ok {limit : Nat} {beyond : NumeralFault} {n k : Nat} {cs : List Char}
    (hn : n ≤ limit) : magnitude limit beyond n cs = .ok k ↔
      (∀ c ∈ cs, c.isDigit = true) ∧ valueFrom n cs = k ∧ k ≤ limit := by
  induction cs generalizing n with
  | nil =>
    have within : n = k → k ≤ limit := fun h => h ▸ hn
    simpa [magnitude, valueFrom] using within
  | cons c cs ih =>
    rw [magnitude]
    by_cases hc : c.isDigit = true
    case neg => simp [hc]
    case pos =>
      rw [if_pos hc]
      by_cases hle : 10 * n + digitValue c ≤ limit
      case pos =>
        rw [if_pos hle, ih hle]
        simp [valueFrom, hc]
      case neg =>
        -- The value is past the bound already, and the digits to come do not bring it back.
        rw [if_neg hle]
        have past : 10 * n + digitValue c ≤ valueFrom n (c :: cs) := le_valueFrom _ cs
        simp only [reduceCtorEq, false_iff, not_and]
        rintro - rfl
        omega

theorem unsigned_eq_ok {s : String} {n : Nat} :
    unsigned wordLimit s = .ok n ↔ Denotes s n := by
  have limit : ∀ k : Nat, k ≤ wordLimit ↔ k < UInt64.size :=
    fun k => Nat.le_sub_one_iff_lt (by decide)
  have read : ∀ cs, magnitude wordLimit .tooLarge 0 cs = .ok n ↔
      (∀ c ∈ cs, c.isDigit = true) ∧ valueFrom 0 cs = n ∧ n < UInt64.size := by
    intro cs
    rw [magnitude_eq_ok (Nat.zero_le _), limit]
  have sign : ('+' : Char).isDigit = false := rfl
  unfold unsigned Denotes
  split
  case h_1 hs => simp [hs]
  case h_2 hs =>
    rw [hs]
    simp only [reduceCtorEq, false_iff]
    rintro ⟨digits, rfl | h, hne, hd, -⟩
    · have plus := hd '+' List.mem_cons_self
      rw [sign] at plus
      cases plus
    · exact hne (List.cons.inj h).2.symm
  case h_3 cs hne hs =>
    rw [hs, read]
    constructor
    · exact fun h => ⟨cs, .inr rfl, hne, h⟩
    · rintro ⟨digits, rfl | h, -, hd, hv⟩
      · have plus := hd '+' List.mem_cons_self
        rw [sign] at plus
        cases plus
      · cases h
        exact ⟨hd, hv⟩
  case h_4 hne hplus hsign =>
    rw [read]
    constructor
    · exact fun h => ⟨_, .inl rfl, hne, h⟩
    · rintro ⟨digits, rfl | h, -, hd, hv⟩
      · exact ⟨hd, hv⟩
      · exact absurd h (hsign digits)

/-- **A text is read as a word exactly if it denotes it.** -/
theorem word?_eq_some {s : String} {w : UInt64} : word? s = some w ↔ Denotes s w.toNat := by
  have within : ∀ {n}, Denotes s n → n < UInt64.size := fun h => h.choose_spec.2.2.2.2
  unfold word? word
  cases hu : unsigned wordLimit s with
  | error x =>
    have none : ¬ Denotes s w.toNat := by
      rw [← unsigned_eq_ok, hu]
      rintro ⟨⟩
    simpa [Except.map, Except.toOption] using none
  | ok n =>
    have own : ∀ k, Denotes s k ↔ n = k := by
      intro k
      rw [← unsigned_eq_ok, hu, Except.ok.injEq]
    have small : n < UInt64.size := within ((own n).mpr rfl)
    rw [own]
    show some (UInt64.ofNat n) = some w ↔ n = w.toNat
    rw [Option.some.injEq]
    constructor
    · rintro rfl
      exact (UInt64.toNat_ofNat_of_lt small).symm
    · rintro rfl
      exact UInt64.ofNat_toNat

end Text.Numeral

namespace Message

/-- The first field with the tag has the value. -/
def Carries (m : Message) (tag : Tag) (value : String) : Prop :=
  ∃ before after, m.fields = before ++ (tag, value) :: after ∧ ∀ f ∈ before, f.1 ≠ tag

/-- The first field with the tag denotes the number. -/
def Numbered (m : Message) (tag : Tag) (n : Nat) : Prop :=
  ∃ s, m.Carries tag s ∧ Text.Numeral.Denotes s n

variable {m : Message} {tag : Tag}

theorem get?_eq_some {v : String} : m.get? tag = some v ↔ m.Carries tag v := by
  unfold get? Carries
  induction m.fields with
  | nil => simp [lookup]
  | cons f fs ih =>
    obtain ⟨t, u⟩ := f
    unfold lookup
    by_cases ht : t = tag
    case pos =>
      subst ht
      rw [if_pos rfl, Option.some.injEq]
      constructor
      · rintro rfl
        exact ⟨[], fs, rfl, by simp⟩
      · rintro ⟨before, after, heq, hfirst⟩
        cases before with
        | nil => cases heq; rfl
        | cons g before =>
          cases heq
          exact absurd rfl (hfirst _ List.mem_cons_self)
    case neg =>
      rw [if_neg ht, ih]
      constructor
      · rintro ⟨before, after, rfl, hfirst⟩
        exact ⟨(t, u) :: before, after, rfl, List.forall_mem_cons.mpr ⟨ht, hfirst⟩⟩
      · rintro ⟨before, after, heq, hfirst⟩
        cases before with
        | nil => cases heq; exact absurd rfl ht
        | cons g before =>
          cases heq
          exact ⟨before, after, rfl, (List.forall_mem_cons.mp hfirst).2⟩

theorem word?_eq_some {w : UInt64} : m.word? tag = some w ↔ m.Numbered tag w.toNat := by
  unfold word? Numbered
  simp only [Option.bind_eq_some_iff, get?_eq_some, Text.Numeral.word?_eq_some]

/-- A number in a field is that of a word. -/
theorem Numbered.word {n : Nat} (h : m.Numbered tag n) :
    ∃ w : UInt64, m.word? tag = some w ∧ w.toNat = n := by
  obtain ⟨s, hs, denotes⟩ := h
  have small : n < UInt64.size := denotes.choose_spec.2.2.2.2
  have same : (UInt64.ofNat n).toNat = n := UInt64.toNat_ofNat_of_lt small
  exact ⟨.ofNat n, word?_eq_some.mpr ⟨s, hs, same.symm ▸ denotes⟩, same⟩

end Message

/-! ## §2. Factories that are adjusted -/

/-- What is done with a factory before it is used. -/
inductive Adjustment where
  | mapping (type : MsgType) (mapping : ReferenceMapping)
  | secondary (compare : Comparison)

namespace Adjustment

/-- The mapping that is set for a type, if one is. -/
def mapping? (type : MsgType) : Adjustment → Option ReferenceMapping
  | mapping t m => if t = type then some m else none
  | secondary _ => none

/-- The comparison that is installed, if one is. -/
def comparison? : Adjustment → Option Comparison
  | mapping _ _ => none
  | secondary compare => some compare

end Adjustment

namespace ReferenceFactory

/-- The factory once it is adjusted. -/
def adjust (f : ReferenceFactory) : Adjustment → ReferenceFactory
  | .mapping type m => f.withMapping type m
  | .secondary compare => f.withSecondary compare

/-- The standard factory with adjustments, one after the other. -/
def adjustAll (as : List Adjustment) : ReferenceFactory := as.foldl adjust standard

/-- The mapping that counts for a type: the last one that was set, or else the standard one. -/
def governing (as : List Adjustment) (type : MsgType) : Option ReferenceMapping :=
  (as.reverse.findSome? (Adjustment.mapping? type)).or (lookup type standardMappings)

/-- The comparison that counts: the last one that was installed. -/
def installed (as : List Adjustment) : Option Comparison :=
  as.reverse.findSome? Adjustment.comparison?

theorem adjustAll_concat (as : List Adjustment) (a : Adjustment) :
    adjustAll (as ++ [a]) = (adjustAll as).adjust a := by
  unfold adjustAll
  rw [List.foldl_append]
  rfl

theorem governing_concat (as : List Adjustment) (a : Adjustment) (type : MsgType) :
    governing (as ++ [a]) type = (a.mapping? type).or (governing as type) := by
  unfold governing
  rw [List.reverse_append]
  show ((a :: as.reverse).findSome? _).or _ = _
  rw [List.findSome?_cons]
  cases a.mapping? type <;> rfl

theorem installed_concat (as : List Adjustment) (a : Adjustment) :
    installed (as ++ [a]) = a.comparison?.or (installed as) := by
  unfold installed
  rw [List.reverse_append]
  show (a :: as.reverse).findSome? _ = _
  rw [List.findSome?_cons]
  cases a.comparison? <;> rfl

/-- **The last mapping of a type counts**, by induction on the adjustments from the last one
back. -/
theorem mapping?_adjustAll (as : List Adjustment) (type : MsgType) :
    (adjustAll as).mapping? type = governing as type := by
  induction as using List.reverseRecOn with
  | nil => rfl
  | append_singleton as a ih =>
    rw [adjustAll_concat, governing_concat, ← ih]
    cases a with
    | secondary compare => rfl
    | mapping t m =>
      show ((adjustAll as).withMapping t m).mapping? type = _
      by_cases ht : t = type
      · subst ht
        simp [Adjustment.mapping?]
      · rw [mapping?_withMapping_of_ne _ _ (Ne.symm ht)]
        simp [Adjustment.mapping?, ht]

theorem secondary_adjustAll (as : List Adjustment) : (adjustAll as).secondary = installed as := by
  induction as using List.reverseRecOn with
  | nil => rfl
  | append_singleton as a ih =>
    rw [adjustAll_concat, installed_concat, ← ih]
    cases a <;> rfl

/-! ## §3. Rules that learn -/

/-- The number of a request: the one that it carries, or else the first one among the messages
that were sent. -/
def EffectiveNumber (request : Message) (sents : List Message) (n : Nat) : Prop :=
  ∃ earlier x later, request :: sents = earlier ++ x :: later ∧ x.Numbered Tag.msgSeqNum n ∧
    ∀ y ∈ earlier, ∀ k, ¬ y.Numbered Tag.msgSeqNum k

/-- The message repeats the identifier of the request in one of the fields of its mapping. -/
def Repeats (as : List Adjustment) (request m : Message) : Prop :=
  ∃ mapping v, governing as request.type = some mapping ∧ request.Carries mapping.idTag v ∧
    ∃ tag ∈ mapping.referenceTags, m.Carries tag v

/-- The message refers to the number of the request. -/
def Refers (request : Message) (sents : List Message) (m : Message) : Prop :=
  ∃ n, EffectiveNumber request sents n ∧ m.Numbered Tag.refSeqNum n

/-- A rule learns a number unless it has one, and nothing else. -/
theorem foldl_onSent (sents : List Message) (r : ReferenceRule) :
    sents.foldl ReferenceRule.onSent r =
      { r with requestSeq := r.requestSeq.or (sents.findSome? Message.seqNum?) } := by
  induction sents generalizing r with
  | nil => simp
  | cons sent sents ih =>
    rw [List.foldl_cons, ih, List.findSome?_cons]
    unfold ReferenceRule.onSent
    cases r.requestSeq <;> cases sent.seqNum? <;> rfl

/-- **A number that is known settles a rule.** -/
theorem foldl_onSent_of_known {r : ReferenceRule} {n : SeqNum} (h : r.requestSeq = some n)
    (sents : List Message) : sents.foldl ReferenceRule.onSent r = r := by
  obtain ⟨requestId, referenceTags, requestSeq, request, secondary⟩ := r
  obtain rfl : requestSeq = some n := h
  exact foldl_onSent sents _

theorem foldl_reference (sents : List Message) (r : ReferenceRule) :
    sents.foldl Rule.onSent (.reference r) = .reference (sents.foldl ReferenceRule.onSent r) := by
  induction sents generalizing r with
  | nil => rfl
  | cons sent sents ih => exact ih _

theorem seqNum?_eq_none {m : Message} :
    m.seqNum? = none ↔ ∀ k, ¬ m.Numbered Tag.msgSeqNum k := by
  unfold Message.seqNum?
  rw [Option.map_eq_none_iff]
  constructor
  · intro h k numbered
    obtain ⟨w, hw, -⟩ := numbered.word
    rw [h] at hw
    cases hw
  · intro h
    cases hw : m.word? Tag.msgSeqNum with
    | none => rfl
    | some w => exact absurd (Message.word?_eq_some.mp hw) (h _)

/-- **The number that a rule has learnt** is the number of the request. -/
theorem effectiveNumber_iff {request : Message} {sents : List Message} {w : UInt64} :
    EffectiveNumber request sents w.toNat ↔
      (request :: sents).findSome? Message.seqNum? = some ⟨w⟩ := by
  rw [List.findSome?_eq_some_iff]
  unfold EffectiveNumber
  have one : ∀ x : Message, x.Numbered Tag.msgSeqNum w.toNat ↔ x.seqNum? = some ⟨w⟩ := by
    intro x
    rw [← Message.word?_eq_some]
    simp [Message.seqNum?]
  simp only [one, ← seqNum?_eq_none]

/-- A number of a request is that of a word. -/
theorem EffectiveNumber.word {request : Message} {sents : List Message} {n : Nat}
    (h : EffectiveNumber request sents n) :
    ∃ w : UInt64, (request :: sents).findSome? Message.seqNum? = some ⟨w⟩ ∧ w.toNat = n := by
  obtain ⟨earlier, x, later, heq, numbered, first⟩ := h
  obtain ⟨w, -, rfl⟩ := numbered.word
  exact ⟨w, effectiveNumber_iff.mp ⟨earlier, x, later, heq, numbered, first⟩, rfl⟩

/-- The rule of a request once messages were sent. -/
def learnt (as : List Adjustment) (request : Message) (sents : List Message) : ReferenceRule :=
  sents.foldl ReferenceRule.onSent ((adjustAll as).rule request)

theorem requestSeq_learnt (as : List Adjustment) (request : Message) (sents : List Message) :
    (learnt as request sents).requestSeq = (request :: sents).findSome? Message.seqNum? := by
  unfold learnt
  rw [foldl_onSent, List.findSome?_cons]
  show request.seqNum?.or _ = _
  cases request.seqNum? <;> rfl

theorem secondary_learnt (as : List Adjustment) (request : Message) (sents : List Message) :
    (learnt as request sents).secondary = installed as := by
  unfold learnt
  rw [foldl_onSent]
  exact secondary_adjustAll as

theorem request_learnt (as : List Adjustment) (request : Message) (sents : List Message) :
    (learnt as request sents).request = request := by
  unfold learnt
  rw [foldl_onSent]
  rfl

section

variable {as : List Adjustment} {request m : Message} {sents : List Message}

/-- **The first reason.** -/
theorem repeats_iff : (learnt as request sents).repeatsId m = true ↔ Repeats as request m := by
  have asked : (learnt as request sents).repeatsId m =
      ((adjustAll as).rule request).repeatsId m := by
    unfold learnt
    rw [foldl_onSent]
    rfl
  rw [asked]
  unfold ReferenceRule.repeatsId rule Repeats
  rw [mapping?_adjustAll]
  cases governing as request.type with
  | none => simp
  | some mapping =>
    dsimp only [Option.bind_some]
    simp only [Option.some.injEq, ← Message.get?_eq_some]
    cases hv : request.get? mapping.idTag with
    | none => simp [hv]
    | some v => simp [hv]

/-- **The second reason.** -/
theorem refers_iff : (learnt as request sents).repeatsSeq m = true ↔ Refers request sents m := by
  unfold ReferenceRule.repeatsSeq
  rw [requestSeq_learnt]
  constructor
  · intro h
    split at h
    case h_1 => cases h
    case h_2 n hn =>
      obtain ⟨w⟩ := n
      exact ⟨w.toNat, effectiveNumber_iff.mpr hn,
        Message.word?_eq_some.mp (of_decide_eq_true h)⟩
  · rintro ⟨n, effective, numbered⟩
    obtain ⟨w, hw, rfl⟩ := effective.word
    rw [hw]
    exact decide_eq_true (Message.word?_eq_some.mpr numbered)

/-- The verdict by the three reasons. -/
theorem judge_learnt_of_reason (h : Repeats as request m ∨ Refers request sents m) :
    (learnt as request sents).judge m = .accepts := by
  unfold ReferenceRule.judge
  rcases h with h | h
  · rw [if_pos (repeats_iff.mpr h)]
  · rw [if_pos (refers_iff.mpr h), ite_self]

theorem judge_learnt_of_no_reason (ha : ¬ Repeats as request m) (hb : ¬ Refers request sents m) :
    (learnt as request sents).judge m = match installed as with
      | none => .rejects
      | some compare => compare request m := by
  have compared : (learnt as request sents).judge m =
      match (learnt as request sents).secondary with
      | none => .rejects
      | some compare => compare (learnt as request sents).request m :=
    (if_neg (mt repeats_iff.mp ha)).trans (if_neg (mt refers_iff.mp hb))
  rw [compared, secondary_learnt, request_learnt]

/-- What refers to the number of a request still does so when more is sent. -/
theorem Refers.more (h : Refers request sents m) (more : List Message) :
    Refers request (sents ++ more) m := by
  obtain ⟨n, ⟨earlier, x, later, heq, numbered, first⟩, hm⟩ := h
  refine ⟨n, ⟨earlier, x, later ++ more, ?_, numbered, first⟩, hm⟩
  rw [← List.cons_append, heq, List.append_assoc, List.cons_append]

/-- **Accepted once and for all.** -/
theorem judge_learnt_more (h : (learnt as request sents).judge m = .accepts)
    (more : List Message) : (learnt as request (sents ++ more)).judge m = .accepts := by
  by_cases ha : Repeats as request m
  · exact judge_learnt_of_reason (.inl ha)
  by_cases hb : Refers request sents m
  · exact judge_learnt_of_reason (.inr (hb.more more))
  -- The comparison has said so, and it says the same again if it is asked again.
  rw [judge_learnt_of_no_reason ha hb] at h
  by_cases hb' : Refers request (sents ++ more) m
  · exact judge_learnt_of_reason (.inr hb')
  · rw [judge_learnt_of_no_reason ha hb']
    exact h

end

/-! ## §4. Every rule of every factory -/

/-- **What a reference rule accepts.**  A factory was adjusted in any way, the rule of a request has
learnt from any messages that were sent, and a message is judged.  It is accepted exactly if it
repeats the identifier of the request, or refers to the number of the request, or the comparison
that is installed accepts it.  In the first two cases it is accepted whatever is installed, even a
comparison that panics, and in no other case the verdict is that of the comparison.  What is
accepted is accepted still when more is sent, and the first number that is learnt settles the
rule. -/
theorem rule_exact (as : List Adjustment) (request : Message) (sents : List Message)
    (m : Message) :
    let rule (as : List Adjustment) (sents : List Message) : Rule :=
      sents.foldl Rule.onSent (RuleFactory.reference (adjustAll as) request)
    ((rule as sents).judge m = .accepts ↔ Repeats as request m ∨ Refers request sents m ∨
      ∃ compare, installed as = some compare ∧ compare request m = .accepts) ∧
    (Repeats as request m ∨ Refers request sents m → ∀ compare,
      (rule (as ++ [.secondary compare]) sents).judge m = .accepts) ∧
    (¬ Repeats as request m → ¬ Refers request sents m →
      (rule as sents).judge m = match installed as with
        | none => .rejects
        | some compare => compare request m) ∧
    ((rule as sents).judge m = .accepts → ∀ more,
      (rule as (sents ++ more)).judge m = .accepts) ∧
    ∀ n, EffectiveNumber request sents n → ∀ more, rule as (sents ++ more) = rule as sents ∧
      ∀ k, EffectiveNumber request (sents ++ more) k ↔ k = n := by
  intro rule
  have learns : ∀ as sents, rule as sents = .reference (learnt as request sents) :=
    fun _ _ => foldl_reference _ _
  simp only [learns, Rule.judge]
  refine ⟨?_, ?_, judge_learnt_of_no_reason, judge_learnt_more, ?_⟩
  · by_cases ha : Repeats as request m
    · simp [judge_learnt_of_reason (.inl ha), ha]
    by_cases hb : Refers request sents m
    · simp [judge_learnt_of_reason (.inr hb), hb]
    rw [judge_learnt_of_no_reason ha hb]
    cases installed as <;> simp [ha, hb]
  · intro reason compare
    refine judge_learnt_of_reason (reason.imp_left ?_)
    rintro ⟨mapping, v, governs, carried, repeated⟩
    exact ⟨mapping, v, (governing_concat as _ _).trans governs, carried, repeated⟩
  · intro n effective more
    obtain ⟨w, hw, rfl⟩ := effective.word
    have settled : (request :: (sents ++ more)).findSome? Message.seqNum? = some ⟨w⟩ := by
      rw [← List.cons_append, List.findSome?_append, hw]
      rfl
    refine ⟨?_, fun k => ?_⟩
    · have known : (learnt as request sents).requestSeq = some ⟨w⟩ :=
        (requestSeq_learnt as request sents).trans hw
      refine congrArg Rule.reference ?_
      show (sents ++ more).foldl ReferenceRule.onSent _ = _
      rw [List.foldl_append]
      exact foldl_onSent_of_known known more
    · constructor
      · intro h
        obtain ⟨v, hv, rfl⟩ := h.word
        rw [settled] at hv
        cases hv
        rfl
      · rintro rfl
        exact effectiveNumber_iff.mpr settled

/-- An order carries no number that can be read, and goes out under the number 7, written with a
sign and with zeros; what is sent after it teaches the rule nothing.  A reject of the message 7 is
accepted, and so is a report with the identifier of the order, though the comparison panics on
every message.  A reject of the message 8 is left to the comparison. -/
theorem rule_exact_number_learnt :
    let request : Message := ⟨.newOrderSingle, [(Tag.clOrdId, "R1"), (Tag.msgSeqNum, "new")]⟩
    let as : List Adjustment := [.mapping .newOrderSingle ⟨Tag.clOrdId, []⟩,
      .secondary .failing, .mapping .newOrderSingle (.echoed Tag.clOrdId)]
    let sent (number : String) : Message := request.set Tag.msgSeqNum number
    let rule : Rule := [sent "+007", sent "8"].foldl Rule.onSent
      (RuleFactory.reference (adjustAll as) request)
    rule.judge ⟨.reject, [(Tag.refSeqNum, "7")]⟩ = .accepts ∧
      rule.judge ⟨.executionReport, [(Tag.clOrdId, "R1")]⟩ = .accepts ∧
      rule.judge ⟨.reject, [(Tag.refSeqNum, "8")]⟩ = .panics ∧
      EffectiveNumber request [sent "+007", sent "8"] 7 := by
  intro request as sent rule
  have effective : EffectiveNumber request [sent "+007"] 7 :=
    effectiveNumber_iff (w := 7).mpr (by decide)
  obtain ⟨-, -, -, kept, settled⟩ :=
    rule_exact as request [sent "+007"] ⟨.reject, [(Tag.refSeqNum, "7")]⟩
  obtain ⟨exact, -⟩ := rule_exact as request [sent "+007", sent "8"]
    ⟨.executionReport, [(Tag.clOrdId, "R1")]⟩
  obtain ⟨-, -, otherwise, -⟩ := rule_exact as request [sent "+007", sent "8"]
    ⟨.reject, [(Tag.refSeqNum, "8")]⟩
  refine ⟨kept (by decide) [sent "8"], ?_, ?_, (settled 7 effective [sent "8"]).2 7 |>.mpr rfl⟩
  · have echoed : (learnt as request []).repeatsId
        ⟨.executionReport, [(Tag.clOrdId, "R1")]⟩ = true := by decide
    exact exact.mpr (.inl (repeats_iff.mp echoed))
  · have silent : ¬ (learnt as request []).repeatsId ⟨.reject, [(Tag.refSeqNum, "8")]⟩ = true := by
      decide
    have other : ¬ (learnt as request [sent "+007", sent "8"]).repeatsSeq
        ⟨.reject, [(Tag.refSeqNum, "8")]⟩ = true := by decide
    exact otherwise (mt repeats_iff.mpr silent) (mt refers_iff.mpr other)

end ReferenceFactory

end Correlator
