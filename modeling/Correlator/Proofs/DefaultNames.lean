/-
  Correlator.Proofs.DefaultNames — NAMES THAT NOBODY CHOSE.

  A connection that was given no name goes by the text of its identity.  The
  text puts separators between the parts and does not escape them, so a part
  that contains one can pass for two, and two identities may read the same.
  Connections without names of their own are then taken for duplicates.  That
  is the only way to clash by name, and parts without separators never do.

  Main results:
    * `EngineBuilder.build_of_default_names` — connections without names,
    * `EngineBuilder.arrow_in_a_name` — two that read the same.
-/
import Correlator.Proofs.Builds
import Correlator.Proofs.Legibility
import Mathlib.Data.List.Forall2
namespace Correlator

/-! ## Connections without names of their own -/

/-- What comes of two steps comes of the first and then of the second. -/
theorem Except.bind_eq_ok {ε α β : Type} {x : Except ε α} {f : α → Except ε β} {b : β}
    (h : (x >>= f) = .ok b) : ∃ a, x = .ok a ∧ f a = .ok b := by
  cases x with
  | error e => cases h
  | ok a => exact ⟨a, rfl, h⟩

/-- A connection goes by the name of its draft, or by the text of its identity. -/
theorem ConnectionDraft.name_of_build {d : ConnectionDraft} {c : ConnectionConfig}
    (h : d.build = .ok c) : c.name = d.name.getD c.id.shown := by
  obtain ⟨sender, -, h⟩ := Except.bind_eq_ok h
  obtain ⟨target, -, h⟩ := Except.bind_eq_ok h
  obtain ⟨role, -, h⟩ := Except.bind_eq_ok h
  obtain ⟨sender, -, h⟩ := Except.bind_eq_ok h
  obtain ⟨target, -, h⟩ := Except.bind_eq_ok h
  cases h
  rfl

namespace EngineBuilder

variable {ds : List ConnectionDraft} {b : EngineBuilder}

/-- The names of connections that were given none are the texts of their identities. -/
theorem names_of_drafts {cs : List ConnectionConfig}
    (hb : List.Forall₂ (fun d c => ConnectionDraft.build d = .ok c) ds cs)
    (hd : ∀ d ∈ ds, d.name = none) : ∀ c ∈ cs, c.name = c.id.shown := by
  induction hb with
  | nil => simp
  | @cons d c ds cs first _ ih =>
    intro c' hc'
    rcases List.mem_cons.mp hc' with rfl | hc'
    · rw [ConnectionDraft.name_of_build first, hd d List.mem_cons_self]
      rfl
    · exact ih (fun d hd' => hd d (List.mem_cons_of_mem _ hd')) c' hc'

/-- **Connections without names clash exactly if two of their identities read the same.**  Then the
fault names the text of two different connections, the later of which is the first to read like
one before it.  Connections whose parts hold no separator never clash. -/
theorem build_of_default_names (hd : ∀ d ∈ ds, d.name = none)
    (hb : List.Forall₂ (fun d c => d.build = .ok c) ds b.connections)
    (hids : (b.connections.map ConnectionConfig.id).Nodup) (ht : b.hasTransport = true)
    (hc : b.config.sinkCapacity ≠ 0) :
    ((∃ e, b.build = .ok e) ↔ (b.connections.map fun c => c.id.shown).Nodup) ∧
      (∀ x, b.build = .error x → ∃ earlier c later, b.connections = earlier ++ c :: later ∧
        (earlier.map fun d => d.id.shown).Nodup ∧
          (∃ d ∈ earlier, d.id ≠ c.id ∧ d.id.shown = c.id.shown) ∧
            x = .configuration (.duplicateName c.id.shown)) ∧
      ((∀ c ∈ b.connections, c.id.Legible) → ∃ e, b.build = .ok e) := by
  have named : ∀ c ∈ b.connections, c.name = c.id.shown := names_of_drafts hb hd
  have names : ∀ {cs : List ConnectionConfig}, (∀ c ∈ cs, c ∈ b.connections) →
      cs.map ConnectionConfig.name = cs.map fun c => c.id.shown := by
    intro cs hcs
    exact List.map_congr_left fun c h => named c (hcs c h)
  have built : (∃ e, b.build = .ok e) ↔ (b.connections.map fun c => c.id.shown).Nodup := by
    rw [← names fun _ h => h]
    constructor
    · rintro ⟨e, he⟩
      exact (build_eq_ok.mp he).2.2.1
    · intro distinct
      exact ⟨b.engine, build_eq_ok.mpr ⟨hc, ht, distinct, hids, rfl⟩⟩
  refine ⟨built, ?_, ?_⟩
  · intro x hx
    rw [build_eq, check_eq, if_neg hc, if_pos ht] at hx
    split at hx
    case h_2 => cases hx
    case h_1 fault hfault =>
      cases hx
      obtain ⟨earlier, c, later, hcs, passed, clash⟩ := checkDistinct_eq_error hfault
      rw [hcs] at hids
      have fresh : c.id ∉ earlier.map ConnectionConfig.id := by
        rw [List.map_append, List.map_cons] at hids
        exact fun h => List.disjoint_of_nodup_append hids h List.mem_cons_self
      have mem : ∀ d ∈ earlier, d ∈ b.connections := by
        intro d h
        rw [hcs]
        exact List.mem_append_left _ h
      refine ⟨earlier, c, later, hcs, ?_, ?_⟩
      · rw [← names mem]
        exact (checkDistinct_eq_ok.mp passed).2.1
      · have hname : c.name = c.id.shown := by
          refine named c ?_
          rw [hcs]
          exact List.mem_append_right _ List.mem_cons_self
        -- The identities are distinct, so it is the name that clashes.
        rcases clash with ⟨rfl, h | h⟩ | ⟨-, h | h⟩
        · cases h
        · obtain ⟨d, hd, same⟩ := List.mem_map.mp h
          rw [hname] at same ⊢
          refine ⟨⟨d, hd, ?_, (named d (mem d hd)).symm.trans same⟩, rfl⟩
          intro hid
          exact fresh (List.mem_map.mpr ⟨d, hd, hid⟩)
        · cases h
        · exact absurd h fresh
  · intro legible
    rw [built]
    have apart : (b.connections.map ConnectionConfig.id).map ConnectionId.shown =
        b.connections.map fun c => c.id.shown := List.map_map
    rw [← apart]
    refine hids.map_on ?_
    intro i hi j hj
    obtain ⟨c, hc, rfl⟩ := List.mem_map.mp hi
    obtain ⟨d, hd, rfl⟩ := List.mem_map.mp hj
    exact ConnectionId.shown_injOn (legible c hc) (legible d hd)

/-- Two desks of one party, neither of them named, make no trouble. -/
theorem build_of_default_names_two_desks :
    let d (desk : String) : ConnectionDraft :=
      { senderCompId := some "CLIENT", senderSubId := some desk, targetCompId := some "BROKER",
        role := some .dialingSingleThreaded }
    let c (desk : String) : ConnectionConfig :=
      ⟨"FIX.4.4:CLIENT/" ++ desk ++ "->BROKER",
        ⟨"FIX.4.4", "CLIENT", "BROKER", some desk, none, none⟩, .dialingSingleThreaded, none⟩
    let b : EngineBuilder := { hasTransport := true, connections := [c "DESK1", c "DESK2"] }
    (d "DESK1").build = .ok (c "DESK1") ∧ (d "DESK2").build = .ok (c "DESK2") ∧
      ∃ e, b.build = .ok e := by
  intro d c b
  have first : (d "DESK1").build = .ok (c "DESK1") := rfl
  have second : (d "DESK2").build = .ok (c "DESK2") := rfl
  have drafts : List.Forall₂ (fun d c => d.build = .ok c) [d "DESK1", d "DESK2"] b.connections :=
    .cons first (.cons second .nil)
  have built := (build_of_default_names (by decide) drafts (by decide) rfl (by decide)).1.mpr
    (by decide)
  exact ⟨first, second, built⟩

/-- **An arrow in a name.**  Two connections, neither of them named, have different identities that
read the same, and the engine is refused over a name that nobody chose. -/
theorem arrow_in_a_name :
    let d (sender target : String) : ConnectionDraft :=
      { senderCompId := some sender, targetCompId := some target,
        role := some .dialingSingleThreaded }
    let c (sender target : String) : ConnectionConfig :=
      ⟨"FIX.4.4:A->B->C", .plain "FIX.4.4" sender target, .dialingSingleThreaded, none⟩
    let b : EngineBuilder := { hasTransport := true, connections := [c "A->B" "C", c "A" "B->C"] }
    (d "A->B" "C").build = .ok (c "A->B" "C") ∧ (d "A" "B->C").build = .ok (c "A" "B->C") ∧
      (c "A->B" "C").id ≠ (c "A" "B->C").id ∧ b.config.sinkCapacity ≠ 0 ∧
        b.build = .error (.configuration (.duplicateName "FIX.4.4:A->B->C")) :=
  ⟨rfl, rfl, by decide, by decide, rfl⟩

end EngineBuilder

end Correlator
