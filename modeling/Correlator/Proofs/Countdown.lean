/-
  Correlator.Proofs.Countdown — EACH CONNECTION IS COUNTED DOWN ONCE.

  A barrier is made from a list of connections and events; of a connection that
  is listed more than once, the last event is awaited.  An event counts if it is
  the one awaited of its connection and has not come before.  Everything else is
  ignored, so what remains depends on which events have come, and not on their
  order or on how often they came.

  What remains is kept as a list and as a count that is announced.  The two
  agree after every event, so it does not matter which of them a wait looks at,
  as long as both have an end.

  Main results:
    * `Barrier.Awaits`, `Barrier.mem_expecting` — what is awaited,
    * `Barrier.Coherent`, `Barrier.Coherent.arrive` — one event,
    * `Shared.pending_arriveAll`, `Shared.counted_arriveAll` — many events,
    * `Shared.countdown` — every barrier and every sequence of events.
-/
import Correlator.Proofs.Readiness
import Mathlib.Data.Finset.Card
namespace Correlator

namespace Barrier

/-! ## §1. What is awaited -/

/-- The event is the last one that is listed for the connection. -/
def Awaits (es : List (ConnectionId × Readiness)) (c : ConnectionId) (e : Readiness) : Prop :=
  es.reverse.lookup c = some e

section

variable {es ps : List (ConnectionId × Readiness)} {c d : ConnectionId} {e f : Readiness}

/-- The last entry decides if it is about the connection. -/
theorem awaits_concat : Awaits (es ++ [(d, f)]) c e ↔
    if c = d then f = e else Awaits es c e := by
  unfold Awaits
  rw [List.reverse_append, List.reverse_singleton, List.singleton_append, List.lookup_cons]
  by_cases hd : c = d
  · simp [hd]
  · rw [beq_eq_false_iff_ne.mpr hd, if_neg hd]

/-- Something is awaited of the connections that are listed. -/
theorem exists_awaits : (∃ e, Awaits es c e) ↔ c ∈ es.map Prod.fst := by
  induction es using List.reverseRecOn with
  | nil => simp [Awaits]
  | append_singleton es x ih =>
    obtain ⟨d, f⟩ := x
    simp only [awaits_concat, List.map_append, List.mem_append, List.map_cons, List.map_nil,
      List.mem_singleton]
    by_cases hd : c = d
    · simp [hd]
    · simp [hd, ih]

/-- What is expected of one connection says nothing of another. -/
theorem expected?_expect (c d : ConnectionId) (e : Readiness)
    (ps : List (ConnectionId × Readiness)) :
    expected? d (expect c e ps) = if c = d then some e else expected? d ps := by
  induction ps with
  | nil => simp [expect, expected?]
  | cons p ps ih =>
    obtain ⟨b, f⟩ := p
    by_cases hb : b = c
    · subst hb
      by_cases hd : b = d <;> simp [expect, expected?, hd]
    · by_cases hd : b = d
      · subst hd
        simp [expect, expected?, hb, Ne.symm hb]
      · simp [expect, expected?, hb, hd, ih]

/-- A connection of which something is expected already keeps its place. -/
theorem keys_expect_of_mem (e : Readiness) (h : c ∈ ps.map Prod.fst) :
    (expect c e ps).map Prod.fst = ps.map Prod.fst := by
  induction ps with
  | nil => cases h
  | cons p ps ih =>
    obtain ⟨d, f⟩ := p
    by_cases hd : d = c
    · simp [expect, hd]
    · have later : c ∈ ps.map Prod.fst := (List.mem_cons.mp h).resolve_left (Ne.symm hd)
      simp only [expect, if_neg hd, List.map_cons, ih later]

theorem nodup_expect (c : ConnectionId) (e : Readiness) (h : (ps.map Prod.fst).Nodup) :
    ((expect c e ps).map Prod.fst).Nodup := by
  by_cases present : c ∈ ps.map Prod.fst
  · rw [keys_expect_of_mem e present]
    exact h
  · rw [expect_of_new e present, List.map_append]
    refine List.nodup_append.mpr ⟨h, List.nodup_singleton c, ?_⟩
    rintro d hd x hx rfl
    rw [List.mem_singleton.mp hx] at hd
    exact present hd

/-! ## §2. A barrier -/

theorem pending_expecting_concat (x : ConnectionId × Readiness) :
    (expecting (es ++ [x])).pending = expect x.1 x.2 (expecting es).pending :=
  List.foldl_concat ..

/-- Nothing is expected twice of a connection, and what is announced is how many are pending. -/
structure Coherent (b : Barrier) : Prop where
  nodup : (b.pending.map Prod.fst).Nodup
  announced : b.announced = b.pending.length

theorem coherent_expecting (es : List (ConnectionId × Readiness)) : (expecting es).Coherent where
  nodup := by
    induction es using List.reverseRecOn with
    | nil => exact List.nodup_nil
    | append_singleton es x ih =>
      rw [pending_expecting_concat]
      exact nodup_expect x.1 x.2 ih
  announced := rfl

/-- **A barrier expects of each connection what is awaited of it.** -/
theorem mem_expecting : (c, e) ∈ (expecting es).pending ↔ Awaits es c e := by
  rw [← expected?_eq_some (coherent_expecting es).nodup]
  induction es using List.reverseRecOn with
  | nil => simp [expecting, expected?, Awaits]
  | append_singleton es x ih =>
    obtain ⟨d, f⟩ := x
    rw [pending_expecting_concat, expected?_expect, awaits_concat, ← ih]
    by_cases hd : c = d
    · simp [hd]
    · simp [hd, Ne.symm hd]

/-- As many are pending at first as there are connections. -/
theorem length_expecting (es : List (ConnectionId × Readiness)) :
    (expecting es).pending.length = (es.map Prod.fst).toFinset.card := by
  have keys : ((expecting es).pending.map Prod.fst).toFinset = (es.map Prod.fst).toFinset := by
    ext c
    have pending : c ∈ (expecting es).pending.map Prod.fst ↔ ∃ e, (c, e) ∈ (expecting es).pending := by
      simp
    rw [List.mem_toFinset, List.mem_toFinset, pending, ← exists_awaits]
    exact exists_congr fun e => mem_expecting
  rw [← keys, List.toFinset_card_of_nodup (coherent_expecting es).nodup, List.length_map]

/-! ## §3. One event -/

variable {b : Barrier}

namespace Coherent

/-- An event counts if it is expected. -/
theorem counted (h : b.Coherent) (c : ConnectionId) (e : Readiness) :
    (b.arrive c e).1 = decide ((c, e) ∈ b.pending) := by
  unfold Barrier.arrive
  rw [← decide_eq_decide.mpr (expected?_eq_some h.nodup)]
  by_cases he : expected? c b.pending = some e
  · rw [if_pos he, decide_eq_true he]
  · rw [if_neg he, decide_eq_false he]

theorem arrive (h : b.Coherent) (c : ConnectionId) (e : Readiness) : (b.arrive c e).2.Coherent where
  nodup := by
    rw [pending_arrive h.nodup]
    exact h.nodup.sublist (List.filter_sublist.map Prod.fst)
  announced := announced_arrive h.announced c e

/-- An event that counts leaves one less. -/
theorem length (h : b.Coherent) (c : ConnectionId) (e : Readiness) :
    (b.arrive c e).2.pending.length + (if (b.arrive c e).1 then 1 else 0) = b.pending.length := by
  have nodup : b.pending.Nodup := h.nodup.of_map
  rw [pending_arrive h.nodup, h.counted]
  by_cases hmem : (c, e) ∈ b.pending
  · have others := List.length_erase_add_one hmem
    rw [nodup.erase_eq_filter] at others
    rw [decide_eq_true hmem, if_pos rfl, ← others]
    congr 3
    funext p
    rw [bne, beq_eq_decide, decide_not]
  · have all : b.pending.filter (fun p => p ≠ (c, e)) = b.pending := by
      refine List.filter_eq_self.mpr fun p hp => ?_
      simpa using fun heq : p = (c, e) => hmem (heq ▸ hp)
    rw [all]
    simp [hmem]

end Coherent

end

end Barrier

/-! ## §4. Many events -/

namespace Shared

variable {s : Shared} {calls : List (ConnectionId × Readiness)}

theorem barrier_arrive (standing : Option Line) (c : ConnectionId) (e : Readiness) (s : Shared) :
    (s.arrive standing c e).2.barrier = (s.barrier.arrive c e).2 :=
  (notes_of_plain (Barrier.plain_arrivalNotices _ _) _).1

/-- What is pending after many events, by induction on them: what was and has not come. -/
theorem pending_arriveAll (h : s.barrier.Coherent) (calls : List (ConnectionId × Readiness)) :
    (s.arriveAll calls).2.barrier.Coherent ∧
      (s.arriveAll calls).2.barrier.pending = s.barrier.pending.filter fun p => p ∉ calls := by
  induction calls generalizing s with
  | nil => exact ⟨h, by simp [arriveAll]⟩
  | cons x calls ih =>
    obtain ⟨c, e⟩ := x
    have step := barrier_arrive none c e s
    obtain ⟨coherent, pending⟩ := ih (s := (s.arrive none c e).2) (step ▸ h.arrive c e)
    refine ⟨coherent, pending.trans ?_⟩
    rw [step, Barrier.pending_arrive h.nodup, List.filter_filter]
    refine List.filter_congr fun p _ => ?_
    simp [and_comm]

/-- Which of many events count, by induction on them: those that were expected and had not come. -/
theorem counted_arriveAll (h : s.barrier.Coherent) {i : Nat} {c : ConnectionId} {e : Readiness}
    (hi : calls[i]? = some (c, e)) : (s.arriveAll calls).1[i]? =
      some (decide ((c, e) ∈ s.barrier.pending ∧ (c, e) ∉ calls.take i)) := by
  induction calls generalizing s i with
  | nil => cases hi
  | cons x calls ih =>
    obtain ⟨d, f⟩ := x
    have step := barrier_arrive none d f s
    cases i with
    | zero =>
      obtain ⟨rfl, rfl⟩ : d = c ∧ f = e := by simpa using hi
      show some (s.barrier.arrive d f).1 = _
      rw [h.counted]
      simp
    | succ i =>
      have later := ih (s := (s.arrive none d f).2) (step ▸ h.arrive d f) (i := i) (by simpa using hi)
      refine Eq.trans ?_ (later.trans ?_)
      · rfl
      · rw [step, Barrier.pending_arrive h.nodup, List.take_succ_cons]
        simp [and_assoc]

/-- As many events count as are taken off the list. -/
theorem count_arriveAll (h : s.barrier.Coherent) (calls : List (ConnectionId × Readiness)) :
    (s.arriveAll calls).2.barrier.remaining + (s.arriveAll calls).1.count true =
      s.barrier.remaining := by
  induction calls generalizing s with
  | nil => rfl
  | cons x calls ih =>
    obtain ⟨c, e⟩ := x
    have step := barrier_arrive none c e s
    have one := h.length c e
    have later := ih (s := (s.arrive none c e).2) (step ▸ h.arrive c e)
    rw [step] at later
    show ((s.arrive none c e).2.arriveAll calls).2.barrier.remaining +
      ((s.barrier.arrive c e).1 :: ((s.arrive none c e).2.arriveAll calls).1).count true = _
    rw [List.count_cons]
    unfold Barrier.remaining at later ⊢
    simp only [beq_true] at *
    omega

theorem arriveAll_append (calls more : List (ConnectionId × Readiness)) (s : Shared) :
    (s.arriveAll (calls ++ more)).2 = ((s.arriveAll calls).2.arriveAll more).2 := by
  induction calls generalizing s with
  | nil => rfl
  | cons x calls ih => exact ih (s.arrive none x.1 x.2).2

/-- Every event is answered. -/
theorem length_arriveAll (calls : List (ConnectionId × Readiness)) (s : Shared) :
    (s.arriveAll calls).1.length = calls.length := by
  induction calls generalizing s with
  | nil => rfl
  | cons x calls ih => exact congrArg (· + 1) (ih (s.arrive none x.1 x.2).2)

/-- The two ways to wait are the same at their end. -/
theorem awaitAnnounced_eq (h : s.barrier.Coherent) (limit : Option Duration) :
    s.awaitAnnounced limit = s.awaitStartup limit := by
  unfold awaitAnnounced awaitStartup
  rw [Barrier.waitAnnounced_eq h.announced]

/-- **Each connection is counted down once.**  Of a sequence of events those count that are the
first to tell of their connection what is awaited of it.  What remains are the connections less the
events that counted; it never grows, and it is what is announced.  Without a limit, with one that
makes a deadline, or once nothing remains, the two ways to wait answer the same and log the same; a
limit too long for a deadline leaves the one without an end, and the other fails.  The barrier
depends on which events have come, and on nothing else about them. -/
theorem countdown (s : Shared) (es calls : List (ConnectionId × Readiness)) :
    let start : Shared := { s with barrier := .expecting es }
    let r := start.arriveAll calls
    (r.1.length = calls.length ∧ ∀ i c e, calls[i]? = some (c, e) →
      (r.1[i]? = some true ↔
        Barrier.Awaits es c e ∧ ∀ j : Nat, j < i → calls[j]? ≠ some (c, e))) ∧
    (r.1.count true ≤ (es.map Prod.fst).toFinset.card ∧
      r.2.barrier.remaining = (es.map Prod.fst).toFinset.card - r.1.count true) ∧
    (∀ more, (start.arriveAll (calls ++ more)).2.barrier.remaining ≤ r.2.barrier.remaining) ∧
    r.2.barrier.announced = r.2.barrier.remaining ∧
    (∀ (k : Clock) (limit : Option Duration),
      let a := r.2.awaitAnnounced limit
      ((∀ t, limit = some t → k.deadline? t ≠ none) ∨ r.2.barrier.remaining = 0 →
        r.2.awaitStartupFrom k limit = (some a.1, a.2)) ∧
      ∀ t, limit = some t → k.deadline? t = none → r.2.barrier.remaining ≠ 0 →
        r.2.awaitStartupFrom k limit = (none, r.2) ∧ a.1 = .error (r.2.barrier.timedOut t)) ∧
    ∀ others : List (ConnectionId × Readiness), (∀ x, x ∈ others ↔ x ∈ calls) →
      (start.arriveAll others).2.barrier = r.2.barrier := by
  intro start r
  have coherent : start.barrier.Coherent := Barrier.coherent_expecting es
  obtain ⟨after, pending⟩ := pending_arriveAll coherent calls
  have counts : r.2.barrier.remaining + r.1.count true = (es.map Prod.fst).toFinset.card :=
    (count_arriveAll coherent calls).trans (Barrier.length_expecting es)
  refine ⟨⟨?_, ?_⟩, ⟨by omega, by omega⟩, ?_, after.announced, ?_, ?_⟩
  · exact length_arriveAll calls start
  · intro i c e hi
    rw [counted_arriveAll coherent hi, Option.some.injEq, decide_eq_true_eq]
    refine and_congr Barrier.mem_expecting ?_
    simp [List.mem_iff_getElem?, List.getElem?_take]
  · intro more
    rw [arriveAll_append]
    have fewer := count_arriveAll after more
    exact Nat.le.intro fewer
  · intro k limit
    have same := awaitAnnounced_eq after limit
    constructor
    · intro ends
      have ends : ¬ r.2.barrier.isEndless k limit = true := by
        intro h
        obtain ⟨pending, t, ht, hd⟩ := Barrier.isEndless_iff.mp h
        exact ends.elim (fun h => h t ht hd) fun h => pending (List.length_eq_zero_iff.mp h)
      rw [same]
      exact if_neg ends
    · rintro t rfl hd remains
      have pending : r.2.barrier.pending ≠ [] := fun h => remains (List.length_eq_zero_iff.mpr h)
      refine ⟨if_pos (Barrier.isEndless_iff.mpr ⟨pending, t, rfl, hd⟩), ?_⟩
      rw [same]
      exact (Barrier.verdict_eq _ t).trans (if_neg pending)
  · intro others same
    obtain ⟨after', pending'⟩ := pending_arriveAll coherent others
    have list : (start.arriveAll others).2.barrier.pending = r.2.barrier.pending := by
      rw [pending', pending]
      exact List.filter_congr fun p _ => by simp [same]
    have announced : (start.arriveAll others).2.barrier.announced = r.2.barrier.announced := by
      rw [after'.announced, after.announced, list]
    exact congrArg₂ Barrier.mk list announced

/-- Of a connection that is listed twice only the last event counts, and only once. -/
example :
    let c : ConnectionId := .plain "FIX.4.4" "A" "B"
    let s : Shared := { barrier := .expecting [(c, .created), (c, .established)] }
    (s.arriveAll [(c, .created), (c, .established), (c, .established)]).1 = [false, true, false] := by
  decide

end Shared

end Correlator
