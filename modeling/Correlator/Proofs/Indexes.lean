/-
  Correlator.Proofs.Indexes — THE TWO INDEXES OF A REGISTRY.

  A registry finds a connection by its identity and by its name.  An insertion
  looks at both keys, and either may be taken, by the same connection or by two
  different ones.  Whatever was inserted or refused, and whatever has become of
  the connections since, both indexes lead to the same connections, each of them
  under the two keys that its configuration names.

  The identities are listed in their order, so the list tells which connections
  there are and not how they came.

  Main results:
    * `ConnectionId.strictly_sorted`, `ConnectionId.sorted_congr` — identities in
      order,
    * `Registry.Coherent`, `Registry.Coherent.insert` — one insertion,
    * `Engine.coherent_act` — one errand,
    * `Registry.indexes_agree` — every registry that arises.
-/
import Correlator.Proofs.Upkeep
namespace Correlator

/-! ## §1. Identities in order -/

namespace ConnectionId

theorem orderPart_eq (a b : Option String) : orderPart a b = compare a b := by
  cases a <;> cases b <;> rfl

theorem orderParts_eq (as bs : List (Option String)) : orderParts as bs = compare as bs := by
  induction as generalizing bs with
  | nil => cases bs <;> rfl
  | cons a as ih =>
    cases bs with
    | nil => rfl
    | cons b bs =>
      show (orderPart a b).then (orderParts as bs) = List.compareLex compare (a :: as) (b :: bs)
      rw [orderPart_eq, ih, List.compareLex_cons_cons]
      rfl

/-- Identities are compared as the lists of their parts. -/
theorem order_eq (a b : ConnectionId) : a.order b = compare a.parts b.parts :=
  orderParts_eq _ _

theorem eq_of_isLE {a b : ConnectionId} (h : (a.order b).isLE = true)
    (k : (b.order a).isLE = true) : a = b := by
  rw [order_eq] at h k
  exact parts_injective (Std.LawfulEqCmp.eq_of_compare (Std.OrientedCmp.isLE_antisymm h k))

/-- An identity comes before the greater ones. -/
theorem pairwise_sorted (ids : List ConnectionId) :
    (sorted ids).Pairwise fun a b => (a.order b).isLE = true := by
  unfold sorted
  refine List.pairwise_mergeSort ?_ ?_ ids
  · intro a b c hab hbc
    rw [order_eq] at hab hbc ⊢
    exact Std.TransCmp.isLE_trans hab hbc
  · intro a b
    have swap : b.order a = (a.order b).swap := by
      rw [order_eq, order_eq]
      exact Std.OrientedCmp.eq_swap
    rw [swap]
    cases a.order b <;> rfl

theorem mem_sorted {c : ConnectionId} {ids : List ConnectionId} : c ∈ sorted ids ↔ c ∈ ids :=
  List.mem_mergeSort

/-- **Identities that differ ascend strictly** once they are sorted. -/
theorem strictly_sorted {ids : List ConnectionId} (h : ids.Nodup) :
    (sorted ids).Pairwise fun a b => a.order b = .lt := by
  have distinct : (sorted ids).Pairwise fun a b => a ≠ b :=
    (List.mergeSort_perm ids _).nodup_iff.mpr h
  refine ((pairwise_sorted ids).and distinct).imp fun {a b} both => ?_
  obtain ⟨le, ne⟩ := both
  cases ho : a.order b with
  | lt => rfl
  | gt => rw [ho] at le; cases le
  | eq =>
    rw [order_eq] at ho
    exact absurd (parts_injective (Std.LawfulEqCmp.eq_of_compare ho)) ne

/-- **How identities come does not matter** once they are sorted. -/
theorem sorted_congr {ids others : List ConnectionId} (h : ids.Perm others) :
    sorted ids = sorted others :=
  List.Perm.eq_of_pairwise (fun _ _ _ _ => eq_of_isLE) (pairwise_sorted ids)
    (pairwise_sorted others)
    (((List.mergeSort_perm ids _).trans h).trans (List.mergeSort_perm others _).symm)

end ConnectionId

/-! ## §2. Coherent registries -/

namespace Registry

/-- Each connection has its entry among the names, and no key comes twice. -/
structure Coherent (r : Registry) : Prop where
  names : r.names = (r.lines.map Line.config).map fun c => (c.name, c.id)
  distinctNames : ((r.lines.map Line.config).map ConnectionConfig.name).Nodup
  distinctIds : ((r.lines.map Line.config).map ConnectionConfig.id).Nodup

variable {r s : Registry} {l : Line} {c : ConnectionId} {name : String}

theorem Coherent.empty : Coherent {} := ⟨rfl, List.nodup_nil, List.nodup_nil⟩

/-- What becomes of the connections does not matter as long as they keep their
configurations. -/
theorem Coherent.of_same (h : r.Coherent) (hn : s.names = r.names)
    (hc : s.lines.map Line.config = r.lines.map Line.config) : s.Coherent where
  names := by rw [hn, hc, h.names]
  distinctNames := by rw [hc]; exact h.distinctNames
  distinctIds := by rw [hc]; exact h.distinctIds

theorem findName_eq_some {names : List (String × ConnectionId)}
    (h : (names.map Prod.fst).Nodup) : findName name names = some c ↔ (name, c) ∈ names := by
  induction names with
  | nil => simp [findName]
  | cons x names ih =>
    obtain ⟨n, d⟩ := x
    obtain ⟨hfirst, hrest⟩ := List.nodup_cons.mp h
    unfold findName
    by_cases hn : n = name
    · subst hn
      have absent : (n, c) ∉ names := fun mem => hfirst (List.mem_map.mpr ⟨_, mem, rfl⟩)
      simp [absent, eq_comm]
    · simp [hn, Ne.symm hn, ih hrest]

theorem findLine_eq_some {ls : List Line} (h : (ls.map Line.id).Nodup) :
    findLine c ls = some l ↔ l ∈ ls ∧ l.id = c := by
  induction ls with
  | nil => simp [findLine]
  | cons k ls ih =>
    obtain ⟨hfirst, hrest⟩ := List.nodup_cons.mp h
    have ih := ih hrest
    unfold findLine at ih ⊢
    by_cases hk : k.id = c
    · rw [List.find?_cons_of_pos (by simpa using hk), Option.some.injEq]
      constructor
      · rintro rfl
        exact ⟨List.mem_cons_self, hk⟩
      · rintro ⟨mem, hid⟩
        rcases List.mem_cons.mp mem with rfl | mem
        · rfl
        · exact absurd (hk.trans hid.symm ▸ List.mem_map_of_mem mem) hfirst
    · rw [List.find?_cons_of_neg (by simpa using hk), ih, List.mem_cons]
      constructor
      · rintro ⟨mem, hid⟩
        exact ⟨.inr mem, hid⟩
      · rintro ⟨rfl | mem, hid⟩
        · exact absurd hid hk
        · exact ⟨mem, hid⟩

/-- Two searches that find what has a key: one more may be found once it is added. -/
theorem search_concat {α : Type} [DecidableEq α] (key : Line → α) {ls : List Line}
    {find find' : α → Option Line} (hf : ∀ a k, find a = some k ↔ k ∈ ls ∧ key k = a)
    (hf' : ∀ a k, find' a = some k ↔ k ∈ ls ++ [l] ∧ key k = a) (free : find (key l) = none)
    (a : α) : find' a = if key l = a then some l else find a := by
  refine Option.ext fun k => ?_
  rw [hf', List.mem_append, List.mem_singleton]
  split
  case isTrue ha =>
    subst ha
    constructor
    · rintro ⟨mem | rfl, hk⟩
      · have taken : find (key l) = some k := (hf _ _).mpr ⟨mem, hk⟩
        rw [free] at taken
        cases taken
      · rfl
    · rintro ⟨⟩
      exact ⟨.inr rfl, rfl⟩
  case isFalse ha =>
    rw [hf]
    constructor
    · rintro ⟨mem | rfl, hk⟩
      · exact ⟨mem, hk⟩
      · exact absurd hk ha
    · exact fun ⟨mem, hk⟩ => ⟨.inl mem, hk⟩

namespace Coherent

theorem ids (h : r.Coherent) : (r.lines.map Line.id).Nodup := by
  have same : r.lines.map Line.id = (r.lines.map Line.config).map ConnectionConfig.id :=
    List.map_map.symm
  rw [same]
  exact h.distinctIds

theorem keys (h : r.Coherent) : (r.names.map Prod.fst).Nodup := by
  have same : r.names.map Prod.fst = (r.lines.map Line.config).map ConnectionConfig.name := by
    rw [h.names, List.map_map]
    rfl
  rw [same]
  exact h.distinctNames

/-- **What an identity leads to.** -/
theorem get?_eq_some (h : r.Coherent) : r.get? c = some l ↔ l ∈ r.lines ∧ l.id = c :=
  findLine_eq_some h.ids

/-- **What a name leads to.** -/
theorem getByName?_eq_some (h : r.Coherent) :
    r.getByName? name = some l ↔ l ∈ r.lines ∧ l.config.name = name := by
  unfold getByName?
  rw [Option.bind_eq_some_iff]
  constructor
  · rintro ⟨c, hc, hl⟩
    obtain ⟨mem, hid⟩ := h.get?_eq_some.mp hl
    -- The entry of the name is that of a connection, and no other has its identity.
    rw [findName_eq_some h.keys, h.names, List.map_map] at hc
    obtain ⟨k, hk, heq⟩ := List.mem_map.mp hc
    obtain ⟨hname, hkid⟩ := Prod.mk.inj heq
    have own : r.get? c = some k := h.get?_eq_some.mpr ⟨hk, hkid⟩
    obtain rfl : l = k := Option.some.inj (hl.symm.trans own)
    exact ⟨mem, hname⟩
  · rintro ⟨mem, rfl⟩
    refine ⟨l.id, ?_, h.get?_eq_some.mpr ⟨mem, rfl⟩⟩
    rw [findName_eq_some h.keys, h.names, List.map_map]
    exact List.mem_map_of_mem (f := (fun c => (c.name, c.id)) ∘ Line.config) mem

/-- A name is taken exactly if it leads to a connection. -/
theorem findName_isSome_eq (h : r.Coherent) :
    (findName name r.names).isSome = (r.getByName? name).isSome := by
  rw [Bool.eq_iff_iff, findName_isSome, Option.isSome_iff_exists, h.names, List.map_map,
    List.map_map]
  simp [h.getByName?_eq_some]

end Coherent

/-! ## §3. Insertions -/

/-- What comes of inserting a connection. -/
structure Inserts (l : Line) (r : Registry) : Prop where
  /-- Its name is looked at first. -/
  nameTaken : r.insert l = .error (.duplicateName l.config.name) ↔
    (r.getByName? l.config.name).isSome = true
  /-- Its identity counts if the name is free. -/
  idTaken : r.insert l = .error (.duplicateConnection l.id.shown) ↔
    r.getByName? l.config.name = none ∧ (r.get? l.id).isSome = true
  accepted : (∃ s, r.insert l = .ok s) ↔ r.getByName? l.config.name = none ∧ r.get? l.id = none
  /-- A connection that is accepted is found under both keys; the others are found as before. -/
  found : ∀ s, r.insert l = .ok s → s.size = r.size + 1 ∧
    (∀ c, s.get? c = if l.id = c then some l else r.get? c) ∧
    ∀ n, s.getByName? n = if l.config.name = n then some l else r.getByName? n

namespace Coherent

/-- The three things that can come of an insertion. -/
theorem insert_eq (h : r.Coherent) (l : Line) : r.insert l =
    if (r.getByName? l.config.name).isSome then .error (.duplicateName l.config.name)
    else if (r.get? l.id).isSome then .error (.duplicateConnection l.id.shown)
    else .ok { lines := r.lines ++ [l], names := r.names ++ [(l.config.name, l.id)] } := by
  unfold Registry.insert
  rw [h.findName_isSome_eq]

/-- **An insertion keeps a registry coherent.** -/
theorem insert (h : r.Coherent) (hs : r.insert l = .ok s) : s.Coherent := by
  rw [h.insert_eq] at hs
  split at hs
  · cases hs
  case isFalse freeName =>
    split at hs
    · cases hs
    case isFalse freeId =>
      cases hs
      have newName : l.config.name ∉ (r.lines.map Line.config).map ConnectionConfig.name := by
        rw [List.map_map]
        intro mem
        obtain ⟨k, hk, hn⟩ := List.mem_map.mp mem
        exact freeName (Option.isSome_of_eq_some (h.getByName?_eq_some.mpr ⟨hk, hn⟩))
      have newId : l.config.id ∉ (r.lines.map Line.config).map ConnectionConfig.id := by
        rw [List.map_map]
        intro mem
        obtain ⟨k, hk, hi⟩ := List.mem_map.mp mem
        exact freeId (Option.isSome_of_eq_some (h.get?_eq_some.mpr ⟨hk, hi⟩))
      constructor
      case names => simp [h.names, Line.id]
      case distinctNames =>
        rw [List.map_append, List.map_append]
        exact h.distinctNames.append (List.nodup_singleton _)
          (List.disjoint_singleton.mpr newName)
      case distinctIds =>
        rw [List.map_append, List.map_append]
        exact h.distinctIds.append (List.nodup_singleton _) (List.disjoint_singleton.mpr newId)

/-- **What comes of an insertion** into a coherent registry. -/
theorem inserts (h : r.Coherent) (l : Line) : r.Inserts l := by
  have eq := h.insert_eq l
  constructor
  case nameTaken | idTaken | accepted =>
    rw [eq]
    cases r.getByName? l.config.name <;> cases r.get? l.id <;> simp
  case found =>
    intro s hs
    have coherent := h.insert hs
    rw [eq] at hs
    split at hs
    · cases hs
    case isFalse freeName =>
      split at hs
      · cases hs
      case isFalse freeId =>
        cases hs
        refine ⟨List.length_append, ?_, ?_⟩
        · exact search_concat Line.id (fun _ _ => h.get?_eq_some)
            (fun _ _ => coherent.get?_eq_some) (Option.not_isSome_iff_eq_none.mp freeId)
        · exact search_concat (fun k => k.config.name) (fun _ _ => h.getByName?_eq_some)
            (fun _ _ => coherent.getByName?_eq_some) (Option.not_isSome_iff_eq_none.mp freeName)

end Coherent

/-- The registry once an insertion has been tried.  One that is refused leaves it as it is. -/
def attempt (r : Registry) (l : Line) : Registry :=
  match r.insert l with
  | .error _ => r
  | .ok s => s

/-- Insertions are tried one after the other. -/
def attemptAll (ls : List Line) (r : Registry) : Registry := ls.foldl attempt r

theorem Coherent.attemptAll (h : r.Coherent) (ls : List Line) : (attemptAll ls r).Coherent := by
  induction ls generalizing r with
  | nil => exact h
  | cons l ls ih =>
    refine ih ?_
    unfold attempt
    split
    case h_1 => exact h
    case h_2 s hs => exact h.insert hs

end Registry

/-! ## §4. Registries that arise -/

namespace Engine

variable {e : Engine}

/-- **An errand keeps the registry coherent**, whether it registers a connection or not. -/
theorem coherent_act (h : e.registry.Coherent) (a : Errand) : (e.act a).registry.Coherent := by
  rcases e.act_cases a with lasts | ⟨config, hact, inserted⟩
  · exact h.of_same lasts.names lasts.configs
  · rw [hact]
    exact h.insert inserted

theorem coherent_actAll (h : e.registry.Coherent) (as : List Errand) :
    (actAll as e).registry.Coherent := by
  induction as generalizing e with
  | nil => exact h
  | cons a as ih => exact ih (coherent_act h a)

/-- What comes of registering a connection while the engine runs. -/
structure Registers (config : ConnectionConfig) (e : Engine) : Prop where
  /-- A registration that is refused leaves the engine as it is, with its registry and its
  barrier. -/
  refused : ∀ x, e.registry.insert (.ofConfig config e.config.sinkCapacity) = .error x →
    e.registerConnection config = (.error (.configuration x), e)
  /-- One that is accepted is an insertion, and the barrier does not wait for the connection. -/
  accepted : ∀ s, e.registry.insert (.ofConfig config e.config.sinkCapacity) = .ok s →
    (e.registerConnection config).1 = .ok (.ofConfig config e.config.sinkCapacity) ∧
      (e.registerConnection config).2.registry = s ∧
      (e.registerConnection config).2.shared.barrier = e.shared.barrier

theorem registers (config : ConnectionConfig) (e : Engine) : e.Registers config where
  refused x hx := by
    unfold registerConnection
    dsimp only
    rw [hx]
  accepted s hs := by
    unfold registerConnection
    dsimp only
    rw [hs]
    exact ⟨rfl, rfl, rfl⟩

end Engine

theorem EngineBuilder.coherent_build {b : EngineBuilder} {e : Engine} (h : b.build = .ok e) :
    e.registry.Coherent := by
  obtain ⟨-, -, names, ids, rfl⟩ := build_eq_ok.mp h
  have configs : b.engine.registry.lines.map Line.config = b.connections := by
    show (b.connections.map fun c => Line.ofConfig c _).map Line.config = _
    rw [List.map_map]
    exact List.map_id _
  constructor
  · rw [configs]
    rfl
  · rw [configs]
    exact names
  · rw [configs]
    exact ids

namespace Registry

/-- A registry as it can be found: after insertions into an empty one, or in an engine that was
built, whatever it was asked to do. -/
inductive Arises : Registry → Prop
  | inserted (ls : List Line) : Arises (attemptAll ls {})
  | engine {b : EngineBuilder} {e : Engine} (h : b.build = .ok e) (as : List Errand) :
      Arises (Engine.actAll as e).registry

theorem Arises.coherent {r : Registry} (h : r.Arises) : r.Coherent := by
  cases h with
  | inserted ls => exact Coherent.empty.attemptAll ls
  | engine h as => exact Engine.coherent_actAll (EngineBuilder.coherent_build h) as

/-- The indexes tell of the same connections. -/
structure Agrees (r : Registry) : Prop where
  byName : ∀ {name l}, r.getByName? name = some l → l.config.name = name ∧ r.get? l.id = some l
  byId : ∀ {c l}, r.get? c = some l → l.id = c ∧ r.getByName? l.config.name = some l
  /-- No key comes twice, and there are as many names as identities. -/
  distinctNames : (r.names.map Prod.fst).Nodup
  distinctIds : (r.lines.map Line.id).Nodup
  sizes : r.names.length = r.size
  /-- The identities are listed in order, each once. -/
  ascending : r.connections.Pairwise fun c d => c.order d = .lt
  listed : ∀ c, c ∈ r.connections ↔ (r.get? c).isSome = true

theorem Coherent.agrees {r : Registry} (h : r.Coherent) : r.Agrees where
  byName found := by
    obtain ⟨mem, hname⟩ := h.getByName?_eq_some.mp found
    exact ⟨hname, h.get?_eq_some.mpr ⟨mem, rfl⟩⟩
  byId found := by
    obtain ⟨mem, hid⟩ := h.get?_eq_some.mp found
    exact ⟨hid, h.getByName?_eq_some.mpr ⟨mem, rfl⟩⟩
  distinctNames := h.keys
  distinctIds := h.ids
  sizes := by
    rw [h.names, List.length_map, List.length_map]
    rfl
  ascending := ConnectionId.strictly_sorted h.ids
  listed c := ConnectionId.mem_sorted.trans get?_isSome.symm

/-- **The two indexes never disagree.**  In every registry that arises, a name and an identity lead
to the same connection, which bears them both, and the indexes are of the same size.  An insertion
is refused over the name exactly if the name is taken, else over the identity exactly if that is
taken; a registration that is refused leaves the whole engine as it is, and one that is accepted
leaves the barrier.  The identities are listed in strictly ascending order, and the list depends on
nothing but which of them are known. -/
theorem indexes_agree {r : Registry} (h : r.Arises) :
    r.Agrees ∧ (∀ l, r.Inserts l) ∧
      (∀ s : Registry, s.Arises → (∀ c, (s.get? c).isSome = (r.get? c).isSome) →
        s.connections = r.connections) ∧
      ∀ e : Engine, e.registry = r → e.connections = r.connections ∧
        ∀ config, e.Registers config := by
  have coherent := h.coherent
  refine ⟨coherent.agrees, coherent.inserts, ?_, ?_⟩
  · intro s hs same
    refine ConnectionId.sorted_congr ?_
    rw [List.perm_ext_iff_of_nodup hs.coherent.ids coherent.ids]
    intro c
    rw [← get?_isSome, ← get?_isSome, same c]
  · rintro e rfl
    exact ⟨rfl, fun config => e.registers config⟩

/-- A second connection is registered; a third is refused over the name of the first and a fourth
over its identity. -/
theorem indexes_agree_late_registrations :
    let config (name sender : String) : ConnectionConfig :=
      ⟨name, .plain "FIX.4.4" sender "B", .dialingSingleThreaded, none⟩
    let b : EngineBuilder := { hasTransport := true, connections := [config "one" "A"] }
    let e := Engine.actAll [.register (config "two" "C"), .register (config "one" "D"),
      .register (config "three" "A")] b.engine
    let third := Line.ofConfig (config "one" "D") 64
    let fourth := Line.ofConfig (config "three" "A") 64
    b.build = .ok b.engine ∧ e.registry.names.length = 2 ∧ e.registry.size = 2 ∧
      (e.registry.getByName? "two").map Line.id = some (config "two" "C").id ∧
      e.registry.insert third = .error (.duplicateName "one") ∧
      e.registry.insert fourth = .error (.duplicateConnection "FIX.4.4:A->B") ∧
      (e.registerConnection (config "one" "D")).2 = e := by
  intro config b e third fourth
  have built : b.build = .ok b.engine := rfl
  obtain ⟨agrees, inserts, -, engine⟩ := indexes_agree (.engine built
    [.register (config "two" "C"), .register (config "one" "D"), .register (config "three" "A")])
  have size : e.registry.size = 2 := by decide
  have refused : e.registry.insert third = .error (.duplicateName "one") :=
    (inserts third).nameTaken.mpr (by decide)
  refine ⟨built, agrees.sizes.trans size, size, by decide, refused,
    (inserts fourth).idTaken.mpr (by decide), ?_⟩
  have registers := (engine e rfl).2 (config "one" "D")
  rw [registers.refused (.duplicateName "one") refused]

end Registry

end Correlator
