/-
  Correlator.Proofs.Builds — ENGINES THAT WERE BUILT.

  An engine is built from connections that are pairwise distinct by their names
  and by their identities, and from nothing else.  The check that comes first
  finds every clash, so the registration of the connections never fails.

  Main results:
    * `EngineBuilder.checkDistinct_eq_ok`, `EngineBuilder.checkDistinct_eq_error` —
      the check of names and identities,
    * `EngineBuilder.populate_of_distinct` — the registration of connections,
    * `EngineBuilder.build_eq_ok` — what is built, and when.
-/
import Correlator.Engine.Builder
import Mathlib.Data.List.Nodup
namespace Correlator

/-! ## §1. What a registry knows -/

namespace Registry

theorem findName_isSome {name : String} {names : List (String × ConnectionId)} :
    (findName name names).isSome = true ↔ name ∈ names.map Prod.fst := by
  induction names with
  | nil => simp [findName]
  | cons x names ih =>
    obtain ⟨n, c⟩ := x
    by_cases h : n = name
    · simp [findName, h]
    · simp [findName, h, ih, Ne.symm h]

theorem get?_isSome {r : Registry} {c : ConnectionId} :
    (r.get? c).isSome = true ↔ c ∈ r.lines.map Line.id := by
  simp [get?, findLine, List.find?_isSome]

/-- A connection with a new name and a new identity is added at the end. -/
theorem insert_of_new {l : Line} {r : Registry} (hn : l.config.name ∉ r.names.map Prod.fst)
    (hi : l.id ∉ r.lines.map Line.id) :
    r.insert l = .ok ⟨r.lines ++ [l], r.names ++ [(l.config.name, l.id)]⟩ := by
  unfold insert
  rw [if_neg (mt findName_isSome.mp hn), if_neg (mt get?_isSome.mp hi)]

end Registry

namespace EngineBuilder

/-! ## §2. The check -/

/-- **The check passes exactly if no name and no identity comes twice.** -/
theorem checkDistinct_eq_ok {names : List String} {ids : List ConnectionId}
    {cs : List ConnectionConfig} : checkDistinct names ids cs = .ok () ↔
      (∀ c ∈ cs, c.name ∉ names ∧ c.id ∉ ids) ∧ (cs.map ConnectionConfig.name).Nodup ∧
        (cs.map ConnectionConfig.id).Nodup := by
  induction cs generalizing names ids with
  | nil => simp [checkDistinct]
  | cons c cs ih =>
    unfold checkDistinct
    by_cases hname : c.name ∈ names
    · simp [hname]
    · by_cases hid : c.id ∈ ids
      · simp [hname, hid]
      · rw [if_neg hname, if_neg hid, ih]
        -- What the rest must avoid is what it had to avoid, and the first one.
        simp only [List.mem_cons, List.map_cons, List.nodup_cons, List.mem_map, not_or, not_exists,
          not_and, forall_eq_or_imp]
        constructor
        · rintro ⟨each, distinct, apart⟩
          exact ⟨⟨⟨hname, hid⟩, fun d hd => ⟨(each d hd).1.2, (each d hd).2.2⟩⟩,
            ⟨fun d hd => (each d hd).1.1, distinct⟩, fun d hd => (each d hd).2.1, apart⟩
        · rintro ⟨⟨-, each⟩, ⟨first, distinct⟩, start, apart⟩
          exact ⟨fun d hd => ⟨⟨first d hd, (each d hd).1⟩, start d hd, (each d hd).2⟩, distinct,
            apart⟩

/-- **The fault is that of the first connection that clashes with an earlier one.** -/
theorem checkDistinct_eq_error {names : List String} {ids : List ConnectionId}
    {cs : List ConnectionConfig} {x : ConfigError} (h : checkDistinct names ids cs = .error x) :
    ∃ earlier c later, cs = earlier ++ c :: later ∧ checkDistinct names ids earlier = .ok () ∧
      (x = .duplicateName c.name ∧ (c.name ∈ names ∨ c.name ∈ earlier.map ConnectionConfig.name) ∨
        x = .duplicateConnection c.id.shown ∧
          (c.id ∈ ids ∨ c.id ∈ earlier.map ConnectionConfig.id)) := by
  induction cs generalizing names ids with
  | nil => cases h
  | cons c cs ih =>
    unfold checkDistinct at h
    by_cases hname : c.name ∈ names
    · rw [if_pos hname] at h
      cases h
      exact ⟨[], c, cs, rfl, rfl, .inl ⟨rfl, .inl hname⟩⟩
    · rw [if_neg hname] at h
      by_cases hid : c.id ∈ ids
      · rw [if_pos hid] at h
        cases h
        exact ⟨[], c, cs, rfl, rfl, .inr ⟨rfl, .inl hid⟩⟩
      · rw [if_neg hid] at h
        obtain ⟨earlier, d, later, rfl, passed, clash⟩ := ih h
        refine ⟨c :: earlier, d, later, rfl, ?_, ?_⟩
        · unfold checkDistinct
          rw [if_neg hname, if_neg hid, passed]
        · simpa [or_left_comm, or_assoc] using clash

/-! ## §3. What is built -/

/-- Connections with new names and new identities are all registered. -/
theorem populate_of_distinct {n : Nat} {cs : List ConnectionConfig} {r : Registry}
    (hn : (r.names.map Prod.fst ++ cs.map ConnectionConfig.name).Nodup)
    (hi : (r.lines.map Line.id ++ cs.map ConnectionConfig.id).Nodup) :
    populate n cs r = .ok ⟨r.lines ++ cs.map fun c => .ofConfig c n,
      r.names ++ cs.map fun c => (c.name, c.id)⟩ := by
  induction cs generalizing r with
  | nil => simp [populate]
  | cons c cs ih =>
    have newName : c.name ∉ r.names.map Prod.fst := fun h =>
      List.disjoint_of_nodup_append hn h List.mem_cons_self
    have newId : c.id ∉ r.lines.map Line.id := fun h =>
      List.disjoint_of_nodup_append hi h List.mem_cons_self
    unfold populate
    rw [Registry.insert_of_new (l := .ofConfig c n) newName newId]
    show populate n cs ⟨r.lines ++ [.ofConfig c n], r.names ++ [(c.name, c.id)]⟩ = _
    rw [ih (by simpa using hn) (by simpa [Line.ofConfig, Line.id] using hi)]
    simp

/-- The engine that is built if nothing is wrong: a line for each connection, and no more. -/
def engine (b : EngineBuilder) : Engine where
  registry :=
    { lines := b.connections.map fun c => .ofConfig c b.config.sinkCapacity
      names := b.connections.map fun c => (c.name, c.id) }
  shared := { barrier := b.barrier }
  config := b.config
  factory := b.factory

theorem check_eq (b : EngineBuilder) : b.check =
    if b.config.sinkCapacity = 0 then .error .zeroSinkCapacity
    else if b.hasTransport then checkDistinct [] [] b.connections
    else .error .missingTransport := by
  unfold check EngineConfig.validate
  by_cases hc : b.config.sinkCapacity = 0
  · rw [if_pos hc, if_pos hc]
    rfl
  · rw [if_neg hc, if_neg hc]
    cases b.hasTransport <;> rfl

/-- What fails is the check; the registration after it does not. -/
theorem build_eq (b : EngineBuilder) : b.build =
    match b.check with
    | .error x => .error (.configuration x)
    | .ok _ => .ok b.engine := by
  unfold build
  cases hcheck : b.check with
  | error x => rfl
  | ok _ =>
    rw [check_eq] at hcheck
    split at hcheck
    · cases hcheck
    · split at hcheck
      · obtain ⟨-, names, ids⟩ := checkDistinct_eq_ok.mp hcheck
        rw [populate_of_distinct (by simpa using names) (by simpa using ids)]
        rfl
      · cases hcheck

/-- **An engine is built exactly from connections that are distinct**, with a transport and room
for at least one message. -/
theorem build_eq_ok {b : EngineBuilder} {e : Engine} : b.build = .ok e ↔
    b.config.sinkCapacity ≠ 0 ∧ b.hasTransport = true ∧
      (b.connections.map ConnectionConfig.name).Nodup ∧
        (b.connections.map ConnectionConfig.id).Nodup ∧ e = b.engine := by
  rw [build_eq, check_eq]
  by_cases hc : b.config.sinkCapacity = 0
  · simp [hc]
  · by_cases ht : b.hasTransport = true
    · rw [if_neg hc, if_pos ht]
      constructor
      · intro h
        split at h
        case h_1 => cases h
        case h_2 passed =>
          obtain ⟨-, names, ids⟩ := checkDistinct_eq_ok.mp passed
          cases h
          exact ⟨hc, ht, names, ids, rfl⟩
      · rintro ⟨-, -, names, ids, rfl⟩
        rw [checkDistinct_eq_ok.mpr ⟨by simp, names, ids⟩]
    · simp [hc, ht]

end EngineBuilder

end Correlator
