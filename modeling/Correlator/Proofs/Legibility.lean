/-
  Correlator.Proofs.Legibility — READING AN IDENTITY BACK FROM ITS TEXT.

  The text of an identity puts separators between the parts and does not escape
  them.  A reader that cuts the text at the first colon, at the first arrow after
  that, and at the first slash or colon of what remains, finds the parts again
  if none of them holds a separator that the reader would take for its own.  The
  arrow is two characters long, and so a sender that ends in a dash or a target
  that begins with the tip of an arrow is no obstacle.  The qualifier comes last
  and may be anything.

  Main results:
    * `ConnectionId.Legible` — no separator is in the way,
    * `ConnectionId.Legible.ofShown?_shown` — the reader finds the parts,
    * `ConnectionId.legible_of_ofShown?` — what the reader finds,
    * `ConnectionId.legible_exact` — every identity.
-/
import Correlator.Connection.Id
import Mathlib.Data.List.Infix
namespace Correlator

namespace ConnectionId

/-! ## §1. The reader -/

/-- A text up to the first mark, and what follows the mark if there is one. -/
def cut (m : Char) : List Char → List Char × Option (List Char)
  | [] => ([], none)
  | a :: as => if a = m then ([], some as) else (a :: (cut m as).1, (cut m as).2)

/-- A text up to the first arrow, and what follows the arrow.  Nothing if there is none. -/
def cutArrow : List Char → Option (List Char × List Char)
  | [] => none
  | a :: as =>
    if a = '-' ∧ as.head? = some '>' then some ([], as.tail)
    else (cutArrow as).map fun r => (a :: r.1, r.2)

/-- The identity that a text is taken for: the version up to the first colon, one party up to the
first arrow after that, and then the other party up to the next colon, if there is one. -/
def ofShown? (s : String) : Option ConnectionId :=
  let (beginString, rest) := cut ':' s.toList
  rest.bind fun rest => (cutArrow rest).map fun (senders, rest) =>
    let (sender, senderSub) := cut '/' senders
    let (targets, qualifier) := cut ':' rest
    let (target, targetSub) := cut '/' targets
    { beginString := .ofList beginString
      senderCompId := .ofList sender
      targetCompId := .ofList target
      senderSubId := senderSub.map .ofList
      targetSubId := targetSub.map .ofList
      qualifier := qualifier.map .ofList }

/-! ## §2. Where a text is cut -/

/-- A mark and a text, or nothing, as characters. -/
def tail (m : Char) : Option (List Char) → List Char
  | none => []
  | some s => m :: s

section

variable {m : Char} {l x y : List Char} {r : Option (List Char)}

/-- The first part is what stands before the first mark. -/
theorem cut_eq_iff : cut m l = (x, r) ↔ m ∉ x ∧ x ++ tail m r = l := by
  induction l generalizing x r with
  | nil =>
    rw [cut, List.append_eq_nil_iff, Prod.mk.injEq]
    cases r <;> simp [tail, eq_comm]
    rintro rfl
    exact List.not_mem_nil
  | cons a l ih =>
    rw [cut]
    split
    case isTrue ha =>
      subst ha
      rw [Prod.mk.injEq]
      constructor
      · rintro ⟨rfl, rfl⟩
        exact ⟨List.not_mem_nil, rfl⟩
      · rintro ⟨hx, h⟩
        cases x with
        | nil =>
          cases r with
          | none => cases h
          | some s => exact ⟨rfl, congrArg some (List.cons.inj h).2.symm⟩
        | cons b x => exact absurd (by rw [(List.cons.inj h).1]; exact List.mem_cons_self) hx
    case isFalse ha =>
      have later : cut m l = ((cut m l).1, (cut m l).2) := rfl
      rw [ih] at later
      rw [Prod.mk.injEq]
      constructor
      · rintro ⟨rfl, rfl⟩
        refine ⟨?_, congrArg (a :: ·) later.2⟩
        rw [List.mem_cons, not_or]
        exact ⟨Ne.symm ha, later.1⟩
      · rintro ⟨hx, h⟩
        cases x with
        | nil =>
          cases r with
          | none => cases h
          | some s => exact absurd (List.cons.inj h).1.symm ha
        | cons b x =>
          obtain ⟨rfl, rest⟩ := List.cons.inj h
          rw [ih.mpr ⟨fun hm => hx (List.mem_cons_of_mem _ hm), rest⟩]
          exact ⟨rfl, rfl⟩

/-- So it is for the arrow, whose two characters differ. -/
theorem cutArrow_eq_some :
    cutArrow l = some (x, y) ↔ ¬ ['-', '>'] <:+: x ∧ x ++ '-' :: '>' :: y = l := by
  induction l generalizing x with
  | nil => simp [cutArrow]
  | cons a l ih =>
    rw [cutArrow]
    split
    case isTrue ha =>
      obtain ⟨rfl, head⟩ := ha
      obtain ⟨l, rfl⟩ := List.head?_eq_some_iff.mp head
      rw [Option.some.injEq, Prod.mk.injEq]
      constructor
      · rintro ⟨rfl, rfl⟩
        exact ⟨by simp, rfl⟩
      · rintro ⟨hx, h⟩
        -- A longer first part would begin with the arrow, or the dash be the tip.
        match x with
        | [] => exact ⟨rfl, (List.cons.inj (List.cons.inj h).2).2.symm⟩
        | [b] => exact absurd (List.cons.inj (List.cons.inj h).2).1 (by decide)
        | b :: d :: x =>
          simp only [List.cons_append, List.cons.injEq] at h
          obtain ⟨rfl, rfl, -⟩ := h
          exact absurd ⟨[], x, rfl⟩ hx
    case isFalse ha =>
      rw [Option.map_eq_some_iff]
      constructor
      · rintro ⟨⟨x, y⟩, hcut, h⟩
        cases h
        obtain ⟨hx, h⟩ := ih.mp hcut
        refine ⟨?_, congrArg (a :: ·) h⟩
        rw [List.infix_cons_iff, not_or]
        refine ⟨?_, hx⟩
        rintro ⟨t, ht⟩
        obtain ⟨rfl, rfl⟩ := List.cons.inj ht
        exact ha ⟨rfl, by rw [← h]; rfl⟩
      · rintro ⟨hx, h⟩
        cases x with
        | nil =>
          obtain ⟨rfl, rfl⟩ := List.cons.inj h
          exact absurd ⟨rfl, rfl⟩ ha
        | cons b x =>
          obtain ⟨rfl, rest⟩ := List.cons.inj h
          have hx : ¬ ['-', '>'] <:+: x := fun hi => hx (hi.trans (List.suffix_cons b x).isInfix)
          exact ⟨(x, y), ih.mpr ⟨hx, rest⟩, rfl⟩

end

/-! ## §3. Legible identities -/

/-- No part of the identity can pass for the end of it.  What comes last needs no care. -/
structure Legible (c : ConnectionId) : Prop where
  beginString : ':' ∉ c.beginString.toList
  sender : '/' ∉ c.senderCompId.toList
  arrow : ¬ ['-', '>'] <:+: c.senderCompId.toList
  senderSub : ∀ s ∈ c.senderSubId, ¬ ['-', '>'] <:+: s.toList
  target : '/' ∉ c.targetCompId.toList
  colon : ':' ∉ c.targetCompId.toList
  targetSub : ∀ s ∈ c.targetSubId, ':' ∉ s.toList

/-- The characters of a part that may be missing. -/
def characters (p : Option String) : Option (List Char) := p.map String.toList

theorem ofList_characters (p : Option String) : (characters p).map String.ofList = p := by
  cases p <;> simp [characters]

theorem characters_ofList (r : Option (List Char)) : characters (r.map String.ofList) = r := by
  cases r <;> simp [characters]

/-- A mark and a text, or nothing. -/
theorem toList_after (m : Char) (p : Option String) :
    (after (String.singleton m) p).toList = tail m (characters p) := by
  cases p <;> simp [after, tail, characters]

/-- One party with its sub-name, as characters. -/
def senders (c : ConnectionId) : List Char :=
  c.senderCompId.toList ++ tail '/' (characters c.senderSubId)

/-- The other party with its sub-name, as characters. -/
def targets (c : ConnectionId) : List Char :=
  c.targetCompId.toList ++ tail '/' (characters c.targetSubId)

/-- What follows the version in the text of an identity. -/
def parties (c : ConnectionId) : List Char :=
  c.senders ++ '-' :: '>' :: (c.targets ++ tail ':' (characters c.qualifier))

/-- The text of an identity, part by part. -/
theorem toList_shown (c : ConnectionId) :
    c.shown.toList = c.beginString.toList ++ tail ':' (some c.parties) := by
  have slash := toList_after '/'
  have colon := toList_after ':'
  unfold shown parties senders targets
  simp only [String.toList_append]
  rw [show "/" = String.singleton '/' from rfl, slash, slash]
  rw [show after ":" c.qualifier = after (String.singleton ':') c.qualifier from rfl, colon]
  simp [tail]

/-- The arrow does not begin before a slash and end behind it. -/
theorem arrow_infix_append_tail {x : List Char} {r : Option (List Char)} :
    ['-', '>'] <:+: x ++ tail '/' r ↔ ['-', '>'] <:+: x ∨ ∃ s ∈ r, ['-', '>'] <:+: s := by
  cases r with
  | none => simp [tail]
  | some s =>
    rw [tail]
    constructor
    · rintro ⟨y, z, h⟩
      rw [List.append_assoc] at h
      rcases List.append_eq_append_iff.mp h with ⟨t, rfl, rest⟩ | ⟨t, rfl, rest⟩
      · match t with
        | [] => simp at rest
        | [a] => simp at rest
        | a :: b :: t =>
          simp only [List.cons_append, List.nil_append, List.cons.injEq] at rest
          obtain ⟨rfl, rfl, -⟩ := rest
          exact .inl ⟨y, t, by simp⟩
      · match t with
        | [] => simp at rest
        | a :: t =>
          simp only [List.cons_append, List.cons.injEq] at rest
          exact .inr ⟨s, rfl, t, z, by simp [rest.2]⟩
    · rintro (h | ⟨t, ht, h⟩)
      · exact h.trans (List.prefix_append _ _).isInfix
      · cases ht
        exact h.trans ((List.suffix_cons '/' s).trans (List.suffix_append _ _)).isInfix

namespace Legible

variable {c : ConnectionId} (h : c.Legible)

include h

theorem no_arrow : ¬ ['-', '>'] <:+: c.senders := by
  rw [senders, arrow_infix_append_tail, not_or]
  refine ⟨h.arrow, ?_⟩
  rintro ⟨s, hs, harrow⟩
  obtain ⟨t, ht, rfl⟩ := Option.map_eq_some_iff.mp hs
  exact h.senderSub t ht harrow

theorem no_colon : ':' ∉ c.targets := by
  rw [targets, List.mem_append, not_or]
  refine ⟨h.colon, ?_⟩
  cases hs : c.targetSubId with
  | none => exact List.not_mem_nil
  | some s => simpa [tail, characters] using h.targetSub s hs

/-- The reader finds the parts of a legible identity. -/
theorem ofShown?_shown : ofShown? c.shown = some c := by
  have text : cut ':' c.shown.toList = (c.beginString.toList, some c.parties) :=
    cut_eq_iff.mpr ⟨h.beginString, (toList_shown c).symm⟩
  have parties : cutArrow c.parties =
      some (c.senders, c.targets ++ tail ':' (characters c.qualifier)) :=
    cutArrow_eq_some.mpr ⟨h.no_arrow, rfl⟩
  have senders : cut '/' c.senders = (c.senderCompId.toList, characters c.senderSubId) :=
    cut_eq_iff.mpr ⟨h.sender, rfl⟩
  have rest : cut ':' (c.targets ++ tail ':' (characters c.qualifier)) =
      (c.targets, characters c.qualifier) := cut_eq_iff.mpr ⟨h.no_colon, rfl⟩
  have targets : cut '/' c.targets = (c.targetCompId.toList, characters c.targetSubId) :=
    cut_eq_iff.mpr ⟨h.target, rfl⟩
  unfold ofShown?
  simp only [text, Option.bind_some, parties, Option.map_some, senders, rest, targets,
    ofList_characters, String.ofList_toList]

end Legible

/-- What the reader finds is legible, and reads like the text. -/
theorem legible_of_ofShown? {s : String} {c : ConnectionId} (h : ofShown? s = some c) :
    c.Legible ∧ c.shown = s := by
  unfold ofShown? at h
  obtain ⟨parties, text, h⟩ := Option.bind_eq_some_iff.mp h
  obtain ⟨⟨senders, rest⟩, arrow, h⟩ := Option.map_eq_some_iff.mp h
  -- Each cut says what its first part is free of, and how the text was put together.
  rcases hs : cut ':' s.toList with ⟨beginString, r⟩
  rcases hsenders : cut '/' senders with ⟨sender, senderSub⟩
  rcases hrest : cut ':' rest with ⟨targets, qualifier⟩
  rcases htargets : cut '/' targets with ⟨target, targetSub⟩
  rw [hs] at text h
  simp only [hsenders, hrest, htargets] at h
  subst text h
  obtain ⟨begins, hs⟩ := cut_eq_iff.mp hs
  obtain ⟨noArrow, rfl⟩ := cutArrow_eq_some.mp arrow
  obtain ⟨sender', rfl⟩ := cut_eq_iff.mp hsenders
  obtain ⟨noColon, rfl⟩ := cut_eq_iff.mp hrest
  obtain ⟨target', rfl⟩ := cut_eq_iff.mp htargets
  rw [arrow_infix_append_tail, not_or] at noArrow
  rw [List.mem_append, not_or] at noColon
  constructor
  · constructor
    case beginString => simpa using begins
    case sender => simpa using sender'
    case arrow => simpa using noArrow.1
    case senderSub =>
      intro t ht
      obtain ⟨l, hl, rfl⟩ := Option.map_eq_some_iff.mp ht
      simpa using fun hi => noArrow.2 ⟨l, hl, hi⟩
    case target => simpa using target'
    case colon => simpa using noColon.1
    case targetSub =>
      intro t ht
      obtain ⟨l, rfl, rfl⟩ := Option.map_eq_some_iff.mp ht
      simpa using fun hm => noColon.2 (List.mem_cons_of_mem _ hm)
  · refine String.toList_inj.mp ?_
    rw [toList_shown, ← hs]
    simp [ConnectionId.parties, ConnectionId.senders, ConnectionId.targets, characters_ofList]

/-! ## §4. Every identity -/

/-- Identities without separators in the way are told apart by their texts. -/
theorem shown_injOn {a b : ConnectionId} (ha : a.Legible) (hb : b.Legible)
    (h : a.shown = b.shown) : a = b := by
  have read := ha.ofShown?_shown
  rw [h, hb.ofShown?_shown] at read
  exact (Option.some.inj read).symm

/-- **The reader finds an identity exactly if it is legible and reads like the text.**  So a text
is that of one legible identity at most. -/
theorem legible_exact (a : ConnectionId) :
    (∀ s, ofShown? s = some a ↔ a.Legible ∧ a.shown = s) ∧
    ∀ b : ConnectionId, a.Legible → b.Legible → a.shown = b.shown → a = b := by
  refine ⟨?_, fun b => shown_injOn⟩
  intro s
  constructor
  · exact legible_of_ofShown?
  · rintro ⟨h, rfl⟩
    exact h.ofShown?_shown

/-- A dash and the tip of an arrow beside the arrow, slashes and colons in parts that may hold them,
and a sub-name that is set and empty. -/
theorem legible_exact_beside_the_arrow :
    let a : ConnectionId := ⟨"FIX/4->4", "A-", ">B", some "", some "->/", some ":->/"⟩
    a.Legible ∧ a.shown = "FIX/4->4:A-/->>B/->/::->/" ∧ ofShown? a.shown = some a ∧
      ∀ b : ConnectionId, b.Legible → b.shown = a.shown → b = a := by
  intro a
  have legible : a.Legible := by
    constructor
    case senderSub =>
      rintro s ⟨⟩
      decide
    case targetSub =>
      rintro s ⟨⟩
      decide
    all_goals decide
  obtain ⟨read, unique⟩ := legible_exact a
  exact ⟨legible, rfl, (read _).mpr ⟨legible, rfl⟩, fun b hb h =>
    (unique b legible hb h.symm).symm⟩

end ConnectionId

end Correlator
