/-
  Correlator.Proofs.Isolation — CONNECTIONS DO NOT SHOW EACH OTHER.

  Errands for several connections are given to an engine in any order, and none
  of them uses a name or a handle of another connection, not even in a
  callback.  What one connection is told, what happens there and how its line
  ends is then the same as if the errands for the others had never been given,
  but for the numbers of its sinks, which keep their order.

  The invariant is that the engine is separate: each line holds scripts that
  stay there, each name leads to the connection that it belongs to, and what a
  connection has been told is right.  It is kept by every errand that stays, and
  two separate engines that match on a connection match there after the errand
  has been done on both, or one for another connection on the first.

  Main results:
    * `Engine.Separate.invariant` — engines stay separate,
    * `Engine.Matched.actAll` — the whole run and the connection's own part,
    * `EngineBuilder.isolated_connections` — connections are isolated.
-/
import Correlator.Proofs.Separation
import Mathlib.Data.Nat.Basic
import Mathlib.Order.Monotone.Defs
namespace Correlator

/-- The errand uses no name and no handle of a connection other than the one it concerns. -/
def Errand.StaysOn (owner : String → ConnectionId) (a : Errand) : Prop :=
  ∀ c, a.addressee = some c → a.Keeps (Operation.StaysOn owner c)

/-! ## §1. Separate engines -/

/-- The connections of the engine have nothing of each other's, and what each of them has been told
fits its numbers. -/
structure Engine.Separate (owner : String → ConnectionId) (e : Engine) : Prop where
  obeys : ∀ l ∈ e.registry.lines, l.Obeys (Operation.StaysOn owner l.id)
  owned : ∀ n x, Directory.find? n e.shared.names = some x → x.sink.connection = owner n
  positive : ∀ l ∈ e.registry.lines, 0 ∉ l.numbers
  told : ∀ l ∈ e.registry.lines, ∀ x ∈ e.shared.seen l.id, x.TrueOn l.numbers
  unseen : ∀ c, e.registry.get? c = none → e.shared.seen c = []

namespace Engine.Separate

variable {owner : String → ConnectionId} {e : Engine} {c : ConnectionId} {w v : Desk} {a : Errand}

/-- Nothing has been done yet to a line in hand. -/
theorem inside (h : e.Separate owner) (hw : e.Hands c w) : Desk.Inside owner c w w where
  holds := hw.holds
  before := rfl
  after := rfl
  obeys := by
    have obeys := h.obeys w.line hw.mem
    rw [hw.holds.line] at obeys
    exact obeys
  names _ _ := rfl
  own n x hn hx := by
    rw [hw.shared] at hx
    exact (h.owned n x hx).trans hn
  seen _ _ := rfl
  grows := List.prefix_rfl
  positive := h.positive _ hw.mem
  told := by
    rw [hw.shared, ← hw.holds.line]
    exact h.told _ hw.mem

/-- The work of an errand stays on its connection. -/
theorem work (h : e.Separate owner) (hw : e.Hands c w) (ha : a.addressee = some c)
    (hs : a.StaysOn owner) : Desk.Inside owner c w (a.work w).2 :=
  ((Desk.Abreast.unison owner c w w).work (.refl (h.inside hw)) ha (hs c ha)).2.left

/-- Work that stayed on its connection leaves the engine separate. -/
theorem ofDesk (h : e.Separate owner) (he : e.Sound) (hw : e.Hands c w)
    (hv : Desk.Inside owner c w v) : (e.ofDesk v).Separate owner where
  obeys l hl := by
    rcases hw.mem_ofDesk he hv.before hv.after hl with rfl | ⟨hl, -⟩
    · rw [hv.holds.line]
      exact hv.obeys
    · exact h.obeys l hl
  owned n x hx := by
    by_cases hn : owner n = c
    · exact (hv.own n x hn hx).trans hn.symm
    · have hx : Directory.find? n v.shared.names = some x := hx
      rw [hv.names n hn, hw.shared] at hx
      exact h.owned n x hx
  positive l hl := by
    rcases hw.mem_ofDesk he hv.before hv.after hl with rfl | ⟨hl, -⟩
    · exact hv.positive
    · exact h.positive l hl
  told l hl := by
    rcases hw.mem_ofDesk he hv.before hv.after hl with rfl | ⟨hl, other⟩
    · rw [hv.holds.line]
      exact hv.told
    · intro x hx
      have hx : x ∈ v.shared.seen l.id := hx
      rw [hv.seen _ other, hw.shared] at hx
      exact h.told l hl x hx
  unseen d hd := by
    -- The connection in hand is known.
    have other : d ≠ c := by
      rintro rfl
      rw [get?_ofDesk e hv.holds] at hd
      cases hd
    rw [hw.get?_of_ne hv.before hv.after hv.holds.line other] at hd
    show v.shared.seen d = []
    rw [hv.seen d other, hw.shared]
    exact h.unseen d hd

theorem note (h : e.Separate owner) (n : Notice) : (e.note n).Separate owner where
  obeys := h.obeys
  owned := h.owned
  positive := h.positive
  told l hl x hx := by
    have hx : x ∈ (e.shared.add ⟨.noted n, none⟩).seen l.id := hx
    rw [Shared.seen_add_of_not rfl] at hx
    exact h.told l hl x hx
  unseen c hc := (Shared.seen_add_of_not rfl e.shared).trans (h.unseen c hc)

/-- A new connection has nothing yet. -/
theorem register (h : e.Separate owner) {config : ConnectionConfig}
    (new : e.registry.get? config.id = none) (names : List (String × ConnectionId)) :
    Separate owner { e with registry :=
      { lines := e.registry.lines ++ [.ofConfig config e.config.sinkCapacity], names } } where
  obeys l hl := by
    rcases List.mem_append.mp hl with hl | hl
    · exact h.obeys l hl
    · rw [List.mem_singleton.mp hl]
      intro s hs
      cases hs
  owned := h.owned
  positive l hl := by
    rcases List.mem_append.mp hl with hl | hl
    · exact h.positive l hl
    · rw [List.mem_singleton.mp hl]
      exact List.not_mem_nil
  told l hl x hx := by
    rcases List.mem_append.mp hl with hl | hl
    · exact h.told l hl x hx
    · rw [List.mem_singleton.mp hl] at hx
      have hx : x ∈ e.shared.seen config.id := hx
      rw [h.unseen _ new] at hx
      cases hx
  unseen c hc := by
    have hc : (e.registry.lines ++ _).find? _ = none := hc
    rw [List.find?_append, Option.or_eq_none_iff] at hc
    exact h.unseen c hc.1

/-- **Engines in order stay separate** under errands that stay on their connections. -/
theorem invariant (owner : String → ConnectionId) :
    Engine.Invariant (Errand.StaysOn owner) fun e => e.Sound ∧ e.Separate owner where
  note {e} n h := by
    have noted : Moves none e (e.note n) := .note n e
    exact ⟨noted.sound h.1, h.2.note n⟩
  register names new h := ⟨h.1.concat new, h.2.register new names⟩
  close _ c _ _ := Operation.keeps_of_weight rfl True.intro
  work {e c w a} hw ha hs h := by
    refine ⟨?_, h.2.ofDesk h.1 hw (h.2.work hw ha hs)⟩
    rw [← (hw.work ha).2]
    exact (moves a e).sound h.1

theorem act (h : e.Separate owner) (he : e.Sound) (hs : a.StaysOn owner) :
    (e.act a).Separate owner := ((invariant owner).act hs ⟨he, h⟩).2

theorem actAll {as : List Errand} (hs : ∀ a ∈ as, a.StaysOn owner) (h : e.Separate owner)
    (he : e.Sound) : (Engine.actAll as e).Separate owner :=
  ((invariant owner).actAll hs ⟨he, h⟩).2

end Engine.Separate

/-- Nothing has been done to an engine that has just been built. -/
theorem EngineBuilder.separate (b : EngineBuilder) (owner : String → ConnectionId) :
    b.engine.Separate owner where
  obeys l hl := by
    obtain ⟨config, -, rfl⟩ := List.mem_map.mp hl
    intro s hs
    cases hs
  owned n x hx := nomatch hx
  positive l hl := by
    obtain ⟨config, -, rfl⟩ := List.mem_map.mp hl
    exact List.not_mem_nil
  told l hl x hx := nomatch hx
  unseen c hc := rfl

/-! ## §2. Two runs -/

/-- What errands tell a connection: what comes of those that concern it, in order. -/
def Engine.outcomesOn (c : ConnectionId) : List Errand → Engine → List Outcome
  | [], _ => []
  | a :: as, e =>
    if a.addressee = some c then e.outcome a :: outcomesOn c as (e.act a)
    else outcomesOn c as (e.act a)

/-- The errands that concern a connection. -/
def Errand.on (c : ConnectionId) (as : List Errand) : List Errand :=
  as.filter fun a => a.addressee = some c

/-- Two engines match on a connection: its line, its names and what has happened there are the same
but for numbers. -/
structure Engine.Matched (owner : String → ConnectionId) (c : ConnectionId) (e p : Engine) :
    Prop where
  line : (p.registry.get? c).map (Line.renumber Line.blur) =
    (e.registry.get? c).map (Line.renumber Line.blur)
  names : ∀ n, owner n = c → Directory.find? n p.shared.names = Directory.find? n e.shared.names
  seen : (p.shared.seen c).map (Moment.renumber Line.blur) =
    (e.shared.seen c).map (Moment.renumber Line.blur)

namespace Engine.Matched

variable {owner : String → ConnectionId} {e p : Engine} {c d : ConnectionId} {a : Errand}

theorem note (h : Matched owner c e p) (n : Notice) : Matched owner c (e.note n) p where
  line := h.line
  names := h.names
  seen := by
    show _ = ((e.shared.add ⟨.noted n, none⟩).seen c).map _
    rw [Shared.seen_add_of_not rfl]
    exact h.seen

theorem symm (h : Matched owner c e p) : Matched owner c p e :=
  ⟨h.line.symm, fun n hn => (h.names n hn).symm, h.seen.symm⟩

/-- An errand whose connection is not known does not show. -/
theorem unknown (h : Matched owner c e p) (hd : e.registry.get? d = none)
    (ha : a.addressee = some d) : Matched owner c (e.act a) p := by
  rcases (outcome_of_unknown hd ha).2 with hact | hact <;> rw [hact]
  · exact h
  · exact h.note _

/-- An errand for another connection does not show. -/
theorem aside (h : Matched owner c e p) (hsep : e.Separate owner) (ha : a.addressee = some d)
    (hs : a.StaysOn owner) (hd : d ≠ c) : Matched owner c (e.act a) p := by
  rcases e.known_cases d with unknown | ⟨w, hw⟩
  · exact h.unknown unknown ha
  · have worked := hsep.work hw ha hs
    rw [(hw.work ha).2]
    refine ⟨?_, fun n hn => ?_, ?_⟩
    · rw [hw.get?_of_ne worked.before worked.after worked.holds.line hd.symm]
      exact h.line
    · show _ = Directory.find? n (a.work w).2.shared.names
      rw [worked.names n fun hn' => hd (hn'.symm.trans hn), hw.shared]
      exact h.names n hn
    · show _ = ((a.work w).2.shared.seen c).map _
      rw [worked.seen c hd.symm, hw.shared]
      exact h.seen

/-- An errand for the connection itself comes to the same on both engines. -/
theorem act (h : Matched owner c e p) (he : e.Separate owner) (hp : p.Separate owner)
    (ha : a.addressee = some c) (hs : a.StaysOn owner) :
    (p.outcome a).renumber Line.blur = (e.outcome a).renumber Line.blur ∧
      Matched owner c (e.act a) (p.act a) := by
  have line := h.line
  rcases e.known_cases c with unknown | ⟨w, hw⟩
  · rw [unknown] at line
    have unknown' : p.registry.get? c = none := Option.map_eq_none_iff.mp line
    rw [(outcome_of_unknown unknown ha).1, (outcome_of_unknown unknown' ha).1]
    exact ⟨rfl, ((h.unknown unknown ha).symm.unknown unknown' ha).symm⟩
  · rw [hw.get?] at line
    obtain ⟨k, hk, alike⟩ := Option.map_eq_some_iff.mp line
    obtain ⟨v, hv, rfl⟩ := hands hk
    have start : Desk.Abreast owner c w v w v := by
      refine ⟨he.inside hw, hp.inside hv, alike, fun n hn => ?_, ?_⟩
      · rw [hw.shared, hv.shared]
        exact h.names n hn
      · rw [hw.shared, hv.shared]
        exact h.seen
    obtain ⟨outcome, worked⟩ := (Desk.Abreast.unison owner c w v).work start ha (hs c ha)
    rw [(hw.work ha).1, (hw.work ha).2, (hv.work ha).1, (hv.work ha).2]
    refine ⟨outcome, ?_, worked.names, worked.seen⟩
    rw [get?_ofDesk e worked.left.holds, get?_ofDesk p worked.right.holds]
    exact congrArg some worked.line

/-- **The whole run and the connection's own part of it**, by induction on the errands. -/
theorem actAll {as : List Errand} (hs : ∀ a ∈ as, a.StaysOn owner)
    (ha : ∀ a ∈ as, a.addressee.isSome = true) (h : Matched owner c e p) (he : e.Separate owner)
    (hp : p.Separate owner) (hes : e.Sound) (hps : p.Sound) :
    (outcomesOn c (Errand.on c as) p).map (Outcome.renumber Line.blur) =
        (outcomesOn c as e).map (Outcome.renumber Line.blur) ∧
      Matched owner c (Engine.actAll as e) (Engine.actAll (Errand.on c as) p) := by
  induction as generalizing e p with
  | nil => exact ⟨rfl, h⟩
  | cons a as ih =>
    have stays := hs a List.mem_cons_self
    have rest : ∀ b ∈ as, b.StaysOn owner := fun b hb => hs b (List.mem_cons_of_mem _ hb)
    have addressed : ∀ b ∈ as, b.addressee.isSome = true :=
      fun b hb => ha b (List.mem_cons_of_mem _ hb)
    have he' : (e.act a).Separate owner := he.act hes stays
    have hes' : (e.act a).Sound := (moves a e).sound hes
    obtain ⟨d, hd⟩ := Option.isSome_iff_exists.mp (ha a List.mem_cons_self)
    unfold Errand.on
    by_cases own : a.addressee = some c
    · -- Both runs go on with the errand.
      obtain ⟨outcome, matched⟩ := h.act he hp own stays
      obtain ⟨outcomes, final⟩ := ih rest addressed matched he' (hp.act hps stays) hes'
        ((moves a p).sound hps)
      rw [List.filter_cons_of_pos (by simpa using own)]
      refine ⟨?_, final⟩
      unfold outcomesOn
      rw [if_pos own, if_pos own, List.map_cons, List.map_cons, outcome]
      exact congrArg _ outcomes
    · -- The part waits until the whole run has done it.
      have other : d ≠ c := fun hdc => own (hdc ▸ hd)
      obtain ⟨outcomes, final⟩ := ih rest addressed (h.aside he hd stays other) he' hp hes' hps
      rw [List.filter_cons_of_neg (by simpa using own)]
      refine ⟨outcomes.trans ?_, final⟩
      conv => rhs; unfold outcomesOn
      rw [if_neg own]

end Engine.Matched

/-! ## §3. Numbers that are told -/

namespace Engine

/-- The numbers of the sinks of a connection, by their places. -/
def numbersOn (c : ConnectionId) (e : Engine) : List Nat :=
  ((e.registry.get? c).map Line.numbers).getD []

theorem Hands.numbersOn {e : Engine} {c : ConnectionId} {w : Desk} (h : e.Hands c w) :
    e.numbersOn c = w.line.numbers := by
  unfold Engine.numbersOn
  rw [h.get?]
  rfl

theorem numbersOn_ofDesk (e : Engine) {c : ConnectionId} {w : Desk} (h : w.Holds c) :
    (e.ofDesk w).numbersOn c = w.line.numbers := by
  unfold numbersOn
  rw [get?_ofDesk e h]
  rfl

end Engine

/-- What an errand tells of a sink fits the numbers of the line, as it is afterwards. -/
theorem Errand.trueOn_work {c : ConnectionId} {w : Desk} {a : Errand}
    (ha : a.addressee = some c) (hw : w.Holds c) (hv : (a.work w).2.Holds c) {x : Enrolment}
    (hx : (a.work w).1.enrolment? = some x) : x.TrueOn (a.work w).2.line.numbers := by
  cases a with
  | operate d op =>
    have answer : (op.exec w).1 = .enrolled x := by
      have hx : (Outcome.answered (some (op.exec w).1)).enrolment? = some x := hx
      cases h : (op.exec w).1 with
      | enrolled y =>
        rw [h] at hx
        exact congrArg Answer.enrolled (Option.some.inj hx)
      | _ =>
        rw [h] at hx
        cases hx
    obtain ⟨told, own⟩ := Operation.enrolled_run answer
    have shown := hv.enrolment_trueOn (own.trans hw.line)
    have told : (Errand.work (.operate d op) w).2.enrolment x.sink = x := told
    rw [told] at shown
    exact shown
  | enterSubscription name s =>
    obtain rfl := Option.some.inj hx
    exact hv.enrolment_trueOn (Option.some.inj ha)
  | beginSend d =>
    simp only [Errand.work] at hx
    split at hx <;> cases hx
  | beginCorrelated d factory request =>
    simp only [Errand.work] at hx
    split at hx <;> cases hx
  | finishSend d answer => cases answer <;> cases hx
  | finishCorrelated s answer => cases answer <;> cases hx
  | _ => cases hx

namespace Engine.Separate

variable {owner : String → ConnectionId} {e : Engine} {c d : ConnectionId} {a : Errand}

/-- Numbers are only added, and what an errand tells fits them. -/
theorem told_act (h : e.Separate owner) (ha : a.addressee = some d) (hs : a.StaysOn owner) :
    e.numbersOn c <+: (e.act a).numbersOn c ∧
      (d = c → ∀ x, (e.outcome a).enrolment? = some x → x.TrueOn ((e.act a).numbersOn c)) := by
  rcases e.known_cases d with unknown | ⟨w, hw⟩
  · obtain ⟨outcome, acted⟩ := outcome_of_unknown unknown ha
    have same : (e.act a).numbersOn c = e.numbersOn c := by
      rcases acted with acted | acted <;> rw [acted]
      rfl
    rw [same, outcome]
    refine ⟨List.prefix_rfl, fun _ x hx => ?_⟩
    cases a with
    | finishSend d answer => cases answer <;> cases hx
    | finishCorrelated s answer => cases answer <;> cases hx
    | _ => cases hx
  · have worked := h.work hw ha hs
    rw [(hw.work ha).1, (hw.work ha).2]
    by_cases hd : c = d
    · subst hd
      rw [hw.numbersOn, numbersOn_ofDesk e worked.holds]
      exact ⟨worked.grows, fun _ x hx => Errand.trueOn_work ha hw.holds worked.holds hx⟩
    · unfold Engine.numbersOn
      rw [hw.get?_of_ne worked.before worked.after worked.holds.line hd]
      exact ⟨List.prefix_rfl, fun hdc => absurd hdc.symm hd⟩

/-- **What a run of errands tells fits the numbers at its end**, by induction on the errands. -/
theorem told_actAll {as : List Errand} (hs : ∀ a ∈ as, a.StaysOn owner)
    (ha : ∀ a ∈ as, a.addressee.isSome = true) (h : e.Separate owner) (he : e.Sound) :
    e.numbersOn c <+: (Engine.actAll as e).numbersOn c ∧
      ∀ o ∈ outcomesOn c as e, ∀ x, o.enrolment? = some x →
        x.TrueOn ((Engine.actAll as e).numbersOn c) := by
  induction as generalizing e with
  | nil => exact ⟨List.prefix_rfl, by simp [outcomesOn]⟩
  | cons a as ih =>
    have stays := hs a List.mem_cons_self
    obtain ⟨d, hd⟩ := Option.isSome_iff_exists.mp (ha a List.mem_cons_self)
    obtain ⟨grown, told⟩ := h.told_act (c := c) hd stays
    obtain ⟨grows, rest⟩ := ih (fun b hb => hs b (List.mem_cons_of_mem _ hb))
      (fun b hb => ha b (List.mem_cons_of_mem _ hb)) (h.act he stays) ((moves a e).sound he)
    refine ⟨grown.trans grows, fun o ho => ?_⟩
    unfold outcomesOn at ho
    split at ho
    case isTrue own =>
      rcases List.mem_cons.mp ho with rfl | ho
      · have hdc : d = c := Option.some.inj (hd.symm.trans own)
        exact fun x hx => (told hdc x hx).mono grows
      · exact rest o ho
    case isFalse => exact rest o ho

/-- Numbers ascend, and none is zero. -/
theorem ascending (h : e.Separate owner) (he : e.Sound) (c : ConnectionId) :
    (0 :: e.numbersOn c).Pairwise (· < ·) := by
  rcases e.known_cases c with unknown | ⟨w, hw⟩
  · unfold Engine.numbersOn
    rw [unknown]
    exact List.pairwise_singleton _ _
  · rw [hw.numbersOn]
    refine List.pairwise_cons.mpr ⟨fun n hn => ?_, (he.each _ hw.mem).orderly.numbered⟩
    exact Nat.pos_of_ne_zero fun h0 => h.positive _ hw.mem (h0 ▸ hn)

end Engine.Separate

/-! ## §4. From one numbering to another -/

/-- The number that stands where another one stands in other numbers. -/
def Line.counterpart (ns ms : List Nat) (n : Nat) : Nat := ms.getD (ns.idxOf n) n

section

variable {ns ms : List Nat}

namespace Line

/-- A number that stands nowhere is its own counterpart. -/
theorem counterpart_zero (hlen : ms.length = ns.length) (hns : (0 :: ns).Pairwise (· < ·)) :
    counterpart ns ms 0 = 0 := by
  have absent : 0 ∉ ns := fun h => Nat.lt_irrefl 0 ((List.pairwise_cons.mp hns).1 0 h)
  unfold counterpart
  rw [List.idxOf_eq_length_iff.mpr absent, ← hlen, List.getD_eq_getElem?_getD,
    List.getElem?_eq_none (Nat.le_refl _)]
  rfl

theorem counterpart_of_getElem? (hns : (0 :: ns).Pairwise (· < ·)) {i n m : Nat}
    (hn : ns[i]? = some n) (hm : ms[i]? = some m) : counterpart ns ms n = m := by
  have distinct : ns.Nodup := (List.pairwise_cons.mp hns).2.imp Nat.ne_of_lt
  obtain ⟨hi, rfl⟩ := List.getElem?_eq_some_iff.mp hn
  unfold counterpart
  rw [distinct.idxOf_getElem, List.getD_eq_getElem?_getD, hm]
  rfl

/-- Counterparts keep their order. -/
theorem counterpart_strictMonoOn (hlen : ms.length = ns.length)
    (hns : (0 :: ns).Pairwise (· < ·)) (hms : (0 :: ms).Pairwise (· < ·)) :
    StrictMonoOn (counterpart ns ms) {n | n ∈ 0 :: ns} := by
  -- The counterpart of what stands at a place of all the numbers stands at that place.
  have stands : ∀ {i n : Nat}, (0 :: ns)[i]? = some n →
      (0 :: ms)[i]? = some (counterpart ns ms n) := by
    intro i n hn
    cases i with
    | zero =>
      obtain rfl : 0 = n := Option.some.inj hn
      rw [counterpart_zero hlen hns]
      rfl
    | succ i =>
      have hn : ns[i]? = some n := hn
      have hi : i < ms.length := hlen ▸ (List.getElem?_eq_some_iff.mp hn).1
      have hm : ms[i]? = some ms[i] := List.getElem?_eq_getElem hi
      rw [counterpart_of_getElem? hns hn hm]
      exact hm
  intro m hm n hn hmn
  obtain ⟨i, hi⟩ := List.mem_iff_getElem?.mp hm
  obtain ⟨j, hj⟩ := List.mem_iff_getElem?.mp hn
  obtain ⟨hi', rfl⟩ := List.getElem?_eq_some_iff.mp hi
  obtain ⟨hj', rfl⟩ := List.getElem?_eq_some_iff.mp hj
  have hij : i < j := by
    by_contra hle
    rcases Nat.lt_or_eq_of_le (Nat.le_of_not_lt hle) with hji | rfl
    · exact Nat.lt_asymm hmn (List.pairwise_iff_getElem.mp hns j i hj' hi' hji)
    · exact Nat.lt_irrefl _ hmn
  obtain ⟨hi'', himage⟩ := List.getElem?_eq_some_iff.mp (stands hi)
  obtain ⟨hj'', hjmage⟩ := List.getElem?_eq_some_iff.mp (stands hj)
  rw [← himage, ← hjmage]
  exact List.pairwise_iff_getElem.mp hms i j hi'' hj'' hij

/-- Lines that are the same but for numbers, which are the first ones of either list, are the same
under counterparts. -/
theorem Alike.eq_renumber (hns : (0 :: ns).Pairwise (· < ·)) {l k : Line}
    (h : Line.Alike blur l k) (hl : l.numbers <+: ns) (hk : k.numbers <+: ms) :
    k = l.renumber (counterpart ns ms) := by
  have sinks : k.mux.sinks = l.mux.sinks.map (Sink.renumber (counterpart ns ms)) := by
    apply List.ext_getElem?
    intro i
    rw [List.getElem?_map]
    rcases h.sink_cases i with ⟨hs, ht⟩ | ⟨s, n, hs, ht, -⟩
    · rw [show l.mux.sinks[i]? = none from hs, show k.mux.sinks[i]? = none from ht]
      rfl
    · have hs : l.mux.sinks[i]? = some s := hs
      have ht : k.mux.sinks[i]? = some { s with number := n } := ht
      -- The sink is the same one by its place, so the numbers stand at the same place of the lists.
      have before : l.numbers[i]? = some s.number := by
        unfold numbers
        rw [List.getElem?_map, hs]
        rfl
      have after : k.numbers[i]? = some n := by
        unfold numbers
        rw [List.getElem?_map, ht]
        rfl
      have counted : counterpart ns ms s.number = n := by
        obtain ⟨more, rfl⟩ := hl
        obtain ⟨more', rfl⟩ := hk
        refine counterpart_of_getElem? hns (i := i) ?_ ?_
        · rw [List.getElem?_append_left (List.getElem?_eq_some_iff.mp before).1]
          exact before
        · rw [List.getElem?_append_left (List.getElem?_eq_some_iff.mp after).1]
          exact after
      rw [hs, ht, Option.map_some, Sink.renumber, counted]
  calc k = { k.renumber blur with mux := { (k.renumber blur).mux with sinks := k.mux.sinks } } := rfl
    _ = { l.renumber blur with mux := { (l.renumber blur).mux with
          sinks := l.mux.sinks.map (Sink.renumber (counterpart ns ms)) } } := by
      rw [sinks, show k.renumber blur = l.renumber blur from h]
    _ = l.renumber (counterpart ns ms) := rfl

end Line

variable (hlen : ms.length = ns.length) (hns : (0 :: ns).Pairwise (· < ·))

include hlen hns

theorem Enrolment.eq_renumber {e e' : Enrolment}
    (h : e'.renumber Line.blur = e.renumber Line.blur) (he : e.TrueOn ns) (he' : e'.TrueOn ms) :
    e' = e.renumber (Line.counterpart ns ms) := by
  obtain ⟨s, n, active⟩ := e
  obtain ⟨s', n', active'⟩ := e'
  simp only [renumber, mk.injEq] at h
  obtain ⟨rfl, blurred, rfl⟩ := h
  have number : n' = Line.counterpart ns ms n := by
    -- If one of the numbers is zero, so is the other.
    unfold Line.blur at blurred
    rcases he with rfl | hn
    · rw [Line.counterpart_zero hlen hns]
      omega
    · rcases he' with rfl | hn'
      · obtain rfl : n = 0 := by omega
        exact (Line.counterpart_zero hlen hns).symm
      · exact (Line.counterpart_of_getElem? hns hn hn').symm
  rw [number]
  rfl

theorem Answer.eq_renumber {a b : Answer} (h : b.renumber Line.blur = a.renumber Line.blur)
    (ha : ∀ e, a = .enrolled e → e.TrueOn ns) (hb : ∀ e, b = .enrolled e → e.TrueOn ms) :
    b = a.renumber (Line.counterpart ns ms) := by
  cases a with
  | enrolled e =>
    cases b with
    | enrolled e' =>
      exact congrArg enrolled
        (Enrolment.eq_renumber hlen hns (enrolled.inj h) (ha e rfl) (hb e' rfl))
    | _ => cases h
  | _ =>
    cases b with
    | enrolled e' => cases h
    | _ => exact h

theorem Outcome.eq_renumber {o u : Outcome} (h : u.renumber Line.blur = o.renumber Line.blur)
    (ho : ∀ e, o.enrolment? = some e → e.TrueOn ns) (hu : ∀ e, u.enrolment? = some e → e.TrueOn ms) :
    u = o.renumber (Line.counterpart ns ms) := by
  cases o with
  | answered a =>
    cases u with
    | answered b =>
      have h : b.map (Answer.renumber Line.blur) = a.map (Answer.renumber Line.blur) :=
        answered.inj h
      cases a with
      | none =>
        obtain rfl := Option.map_eq_none_iff.mp h
        rfl
      | some a =>
        obtain ⟨b, rfl, hab⟩ := Option.map_eq_some_iff.mp h
        have same := Answer.eq_renumber hlen hns hab
          (fun e he => ho e (by rw [he]; rfl)) (fun e he => hu e (by rw [he]; rfl))
        exact congrArg (fun a => answered (some a)) same
    | _ => cases h
  | entered x =>
    cases u with
    | entered y =>
      have h : y.map (Enrolment.renumber Line.blur) = x.map (Enrolment.renumber Line.blur) :=
        entered.inj h
      cases x with
      | none =>
        obtain rfl := Option.map_eq_none_iff.mp h
        rfl
      | some x =>
        obtain ⟨y, rfl, hxy⟩ := Option.map_eq_some_iff.mp h
        exact congrArg (fun x => entered (some x))
          (Enrolment.eq_renumber hlen hns hxy (ho x rfl) (hu y rfl))
    | _ => cases h
  | _ =>
    cases u with
    | answered b => cases h
    | entered y => cases h
    | _ => exact h

theorem Moment.eq_renumber {x y : Moment} (h : y.renumber Line.blur = x.renumber Line.blur)
    (hx : x.TrueOn ns) (hy : y.TrueOn ms) : y = x.renumber (Line.counterpart ns ms) := by
  obtain ⟨event, line⟩ := x
  obtain ⟨event', line'⟩ := y
  simp only [renumber, mk.injEq] at h ⊢
  refine ⟨?_, ?_⟩
  · cases event with
    | answered i label op a =>
      cases event' with
      | answered i' label' op' b =>
        simp only [Event.renumber, Event.answered.injEq] at h ⊢
        obtain ⟨⟨rfl, rfl, rfl, hab⟩, -⟩ := h
        refine ⟨rfl, rfl, rfl, Answer.eq_renumber hlen hns hab ?_ ?_⟩
        · rintro e rfl
          exact hx.told e rfl
        · rintro e rfl
          exact hy.told e rfl
      | _ => cases h.1
    | _ =>
      cases event' with
      | answered i' label' op' b => cases h.1
      | _ => exact h.1
  · cases line with
    | none => exact Option.map_eq_none_iff.mp h.2
    | some l =>
      obtain ⟨k, rfl, alike⟩ := Option.map_eq_some_iff.mp h.2
      exact congrArg some (Line.Alike.eq_renumber hns alike (hx.line l rfl) (hy.line k rfl))

end

/-- Lists that look the same element by element are the same under a map that tells them apart. -/
theorem eq_map_of_map_eq {α β : Type} {f : α → β} {g : α → α} {xs ys : List α}
    (h : ys.map f = xs.map f) (hg : ∀ x ∈ xs, ∀ y ∈ ys, f y = f x → y = g x) : ys = xs.map g := by
  induction xs generalizing ys with
  | nil => exact List.map_eq_nil_iff.mp h
  | cons x xs ih =>
    obtain ⟨y, ys, rfl, hxy, rest⟩ := List.map_eq_cons_iff.mp h
    rw [List.map_cons, hg x List.mem_cons_self y List.mem_cons_self hxy]
    refine congrArg _ (ih rest fun x hx y hy => ?_)
    exact hg x (List.mem_cons_of_mem _ hx) y (List.mem_cons_of_mem _ hy)

/-! ## §5. Connections are isolated -/

/-- Engines that match on a connection are the same there under counterparts. -/
theorem Engine.Matched.eq_renumber {owner : String → ConnectionId} {e p : Engine}
    {c : ConnectionId} (h : Matched owner c e p) (he : e.Separate owner) (hp : p.Separate owner)
    (hs : e.Sound) :
    let f := Line.counterpart (e.numbersOn c) (p.numbersOn c)
    (p.numbersOn c).length = (e.numbersOn c).length ∧
      p.registry.get? c = (e.registry.get? c).map (Line.renumber f) ∧
      p.shared.seen c = (e.shared.seen c).map (Moment.renumber f) := by
  intro f
  have line := h.line
  have ascending := he.ascending hs c
  rcases e.known_cases c with unknown | ⟨w, hw⟩
  · -- Nothing is known of the connection, and nothing has happened there.
    rw [unknown] at line
    have unknown' : p.registry.get? c = none := Option.map_eq_none_iff.mp line
    unfold Engine.numbersOn
    rw [unknown, unknown', he.unseen c unknown, hp.unseen c unknown']
    exact ⟨rfl, rfl, rfl⟩
  · rw [hw.get?] at line
    obtain ⟨k, hk, same⟩ := Option.map_eq_some_iff.mp line
    obtain ⟨v, hv, rfl⟩ := hands hk
    have alike : Line.Alike Line.blur w.line v.line := same
    have hf : f = Line.counterpart w.line.numbers v.line.numbers := by
      rw [← hw.numbersOn, ← hv.numbersOn]
    rw [hw.numbersOn] at ascending
    rw [hw.numbersOn, hv.numbersOn, hw.get?, hv.get?, hf]
    refine ⟨alike.length_numbers, ?_, ?_⟩
    · exact congrArg some (alike.eq_renumber ascending List.prefix_rfl List.prefix_rfl)
    · refine eq_map_of_map_eq h.seen fun x hx y hy hxy => ?_
      have told : x.TrueOn w.line.numbers := by
        rw [← hw.holds.line] at hx
        exact he.told _ hw.mem x hx
      have told' : y.TrueOn v.line.numbers := by
        rw [← hv.holds.line] at hy
        exact hp.told _ hv.mem y hy
      exact Moment.eq_renumber alike.length_numbers ascending hxy told told'

namespace EngineBuilder

/-- **Connections are isolated.**  Take any engine that was built, whatever it was asked to do
before, and any run of errands, each for one connection, that use no names and no handles of other
connections, not even in callbacks.  The outcomes of the errands for a connection, its line, all
that has happened there and its names are the same as in the run of these errands alone, but for
the numbers of its sinks, and those keep their order. -/
theorem isolated_connections {b : EngineBuilder} {e₀ : Engine} (hb : b.build = .ok e₀)
    (owner : String → ConnectionId) (before as : List Errand)
    (hs : ∀ a ∈ before ++ as, a.StaysOn owner) (ha : ∀ a ∈ as, a.addressee.isSome = true)
    (c : ConnectionId) :
    let start := Engine.actAll before e₀
    let whole := Engine.actAll as start
    let part := Engine.actAll (Errand.on c as) start
    ∃ f : Nat → Nat, f 0 = 0 ∧ StrictMonoOn f {n | n ∈ 0 :: whole.numbersOn c} ∧
      Engine.outcomesOn c (Errand.on c as) start =
        (Engine.outcomesOn c as start).map (Outcome.renumber f) ∧
      part.registry.get? c = (whole.registry.get? c).map (Line.renumber f) ∧
      part.shared.seen c = (whole.shared.seen c).map (Moment.renumber f) ∧
      ∀ n, owner n = c →
        Directory.find? n part.shared.names = Directory.find? n whole.shared.names := by
  intro start whole part
  obtain ⟨-, -, -, -, rfl⟩ := build_eq_ok.mp hb
  have stays : ∀ a ∈ as, a.StaysOn owner := fun a h => hs a (List.mem_append_right _ h)
  have own : ∀ a ∈ Errand.on c as, a ∈ as := fun a h => List.mem_of_mem_filter h
  have sound : start.Sound := Engine.sound_actAll before (sound_build hb)
  have separate : start.Separate owner :=
    (b.separate owner).actAll (fun a h => hs a (List.mem_append_left _ h)) (sound_build hb)
  have soundW : whole.Sound := Engine.sound_actAll as sound
  have soundP : part.Sound := Engine.sound_actAll _ sound
  have separateW : whole.Separate owner := separate.actAll stays sound
  have separateP : part.Separate owner := separate.actAll (fun a h => stays a (own a h)) sound
  have same : Engine.Matched owner c start start := ⟨rfl, fun _ _ => rfl, rfl⟩
  obtain ⟨outcomes, matched⟩ := same.actAll stays ha separate separate sound sound
  have toldW := (separate.told_actAll (c := c) stays ha sound).2
  have toldP := (separate.told_actAll (c := c) (fun a h => stays a (own a h))
    (fun a h => ha a (own a h)) sound).2
  have ascendingW := separateW.ascending soundW c
  have ascendingP := separateP.ascending soundP c
  obtain ⟨hlen, registry, seen⟩ := matched.eq_renumber separateW separateP soundW
  refine ⟨Line.counterpart (whole.numbersOn c) (part.numbersOn c),
    Line.counterpart_zero hlen ascendingW,
    Line.counterpart_strictMonoOn hlen ascendingW ascendingP, ?_, registry, seen, matched.names⟩
  exact eq_map_of_map_eq outcomes fun o ho u hu h =>
    Outcome.eq_renumber hlen ascendingW h (toldW o ho) (toldP u hu)

/-- Two connections have a subscription each, the other one's was made first, and both are offered
a message.  What the one is told of the other does not show; its sink has the number two, and would
have the number one without the other. -/
theorem isolated_connections_two_subscriptions :
    let config (sender : String) : ConnectionConfig :=
      ⟨sender, .plain "FIX.4.4" sender "X", .dialingSingleThreaded, none⟩
    let other := (config "A").id
    let c := (config "B").id
    let b : EngineBuilder := { hasTransport := true, connections := [config "A", config "B"] }
    let report : Message := .empty .executionReport
    let as : List Errand := [.operate other (.subscribe "a" .always),
      .operate c (.subscribe "b" .always), .operate other (.dispatch (.empty .reject)),
      .operate c (.dispatch report), .poll ⟨other, 0⟩, .poll ⟨c, 0⟩]
    let told : List Outcome := [.answered (some (.enrolled ⟨⟨c, 0⟩, 1, true⟩)),
      .answered (some (.count 1)), .read (some (some (.ok report)))]
    Engine.outcomesOn c (Errand.on c as) b.engine = told ∧
      ∃ f : Nat → Nat, f 2 = 1 ∧
        (Engine.outcomesOn c as b.engine).map (Outcome.renumber f) = told := by
  intro config other c b report as told
  let owner (n : String) : ConnectionId := if n = "a" then other else c
  have stays : ∀ a ∈ [] ++ as, a.StaysOn owner := by
    intro a ha d hd
    rw [List.nil_append] at ha
    simp only [as, List.mem_cons, List.not_mem_nil, or_false] at ha
    rcases ha with rfl | rfl | rfl | rfl | rfl | rfl <;> cases hd
    · exact Operation.keeps_of_weight rfl rfl
    · exact Operation.keeps_of_weight rfl rfl
    · exact Operation.keeps_of_weight rfl True.intro
    · exact Operation.keeps_of_weight rfl True.intro
    · exact True.intro
    · exact True.intro
  have addressed : ∀ a ∈ as, a.addressee.isSome = true := by
    intro a ha
    simp only [as, List.mem_cons, List.not_mem_nil, or_false] at ha
    rcases ha with rfl | rfl | rfl | rfl | rfl | rfl <;> rfl
  have built : b.build = .ok b.engine := rfl
  obtain ⟨f, -, -, outcomes, line, -⟩ :=
    isolated_connections built owner [] as stays addressed c
  have alone : Engine.outcomesOn c (Errand.on c as) b.engine = told := rfl
  have numbers : (Engine.actAll (Errand.on c as) b.engine).numbersOn c =
      ((Engine.actAll as b.engine).numbersOn c).map f := by
    have line : (Engine.actAll (Errand.on c as) b.engine).registry.get? c =
      ((Engine.actAll as b.engine).registry.get? c).map (Line.renumber f) := line
    unfold Engine.numbersOn
    rw [line]
    cases (Engine.actAll as b.engine).registry.get? c with
    | none => rfl
    | some l => exact l.numbers_renumber
  have first : (Engine.actAll (Errand.on c as) b.engine).numbersOn c = [1] := by decide +kernel
  have second : (Engine.actAll as b.engine).numbersOn c = [2] := by decide +kernel
  rw [first, second] at numbers
  exact ⟨alone, f, (List.cons.inj numbers).1.symm, outcomes.symm.trans alone⟩

end EngineBuilder

end Correlator
