/-
  Correlator.Proofs.Validation — WHAT AN ENGINE IS BUILT FROM.

  The check of a builder says what is wrong with it: the first of the settings,
  the transport and the connections that is at fault, and of a connection its
  name before its identity.  If nothing is wrong the connections are registered
  one by one.  The registry looks at the keys again, and finds nothing that the
  check has not found.

  What comes out mirrors the builder: its connections, each as it was configured
  and with no waiter yet, and no others; and a barrier that waits for all of
  them.

  Main results:
    * `EngineBuilder.Fault`, `EngineBuilder.check_eq_error` — what is wrong,
    * `EngineBuilder.Mirrors`, `EngineBuilder.mirrors_engine` — what is built,
    * `EngineBuilder.build_exact` — every builder.
-/
import Correlator.Proofs.Indexes
import Correlator.Proofs.Readiness
namespace Correlator

namespace EngineBuilder

/-! ## §1. The first fault -/

/-- No name and no identity comes twice. -/
def Distinct (cs : List ConnectionConfig) : Prop :=
  (cs.map ConnectionConfig.name).Nodup ∧ (cs.map ConnectionConfig.id).Nodup

/-- What is wrong with a builder, if something is.  Of several faults it is the first. -/
inductive Fault (b : EngineBuilder) : ConfigError → Prop
  | capacity (hcapacity : b.config.sinkCapacity = 0) : Fault b .zeroSinkCapacity
  | transport (hcapacity : b.config.sinkCapacity ≠ 0) (htransport : b.hasTransport = false) :
      Fault b .missingTransport
  /-- A name is taken by an earlier connection, and those are distinct. -/
  | name {earlier later : List ConnectionConfig} {c : ConnectionConfig}
      (hcapacity : b.config.sinkCapacity ≠ 0) (htransport : b.hasTransport = true)
      (hc : b.connections = earlier ++ c :: later) (hearlier : Distinct earlier)
      (htaken : c.name ∈ earlier.map ConnectionConfig.name) : Fault b (.duplicateName c.name)
  /-- The name is free, but the identity is taken. -/
  | identity {earlier later : List ConnectionConfig} {c : ConnectionConfig}
      (hcapacity : b.config.sinkCapacity ≠ 0) (htransport : b.hasTransport = true)
      (hc : b.connections = earlier ++ c :: later) (hearlier : Distinct earlier)
      (hfree : c.name ∉ earlier.map ConnectionConfig.name)
      (htaken : c.id ∈ earlier.map ConnectionConfig.id) :
      Fault b (.duplicateConnection c.id.shown)

theorem checkDistinct_cons (names : List String) (ids : List ConnectionId) (c : ConnectionConfig)
    (later : List ConnectionConfig) : checkDistinct names ids (c :: later) =
      if c.name ∈ names then .error (.duplicateName c.name)
      else if c.id ∈ ids then .error (.duplicateConnection c.id.shown)
      else checkDistinct (c.name :: names) (c.id :: ids) later := rfl

/-- Connections that pass are among those that the later ones must differ from. -/
theorem checkDistinct_append {names : List String} {ids : List ConnectionId}
    {earlier : List ConnectionConfig} (h : checkDistinct names ids earlier = .ok ())
    (later : List ConnectionConfig) : checkDistinct names ids (earlier ++ later) =
      checkDistinct ((earlier.map ConnectionConfig.name).reverse ++ names)
        ((earlier.map ConnectionConfig.id).reverse ++ ids) later := by
  induction earlier generalizing names ids with
  | nil => rfl
  | cons c earlier ih =>
    rw [checkDistinct_cons] at h
    rw [List.cons_append, checkDistinct_cons]
    split at h
    · cases h
    case isFalse hname =>
      split at h
      · cases h
      case isFalse hid =>
        rw [if_neg hname, if_neg hid, ih h]
        simp

theorem checkDistinct_of_distinct {cs : List ConnectionConfig} (h : Distinct cs) :
    checkDistinct [] [] cs = .ok () :=
  checkDistinct_eq_ok.mpr ⟨by simp, h.1, h.2⟩

/-- What the check says of a connection that follows distinct ones. -/
theorem checkDistinct_next {earlier : List ConnectionConfig} (h : Distinct earlier)
    (c : ConnectionConfig) (later : List ConnectionConfig) :
    checkDistinct [] [] (earlier ++ c :: later) =
      if c.name ∈ earlier.map ConnectionConfig.name then .error (.duplicateName c.name)
      else if c.id ∈ earlier.map ConnectionConfig.id then .error (.duplicateConnection c.id.shown)
      else checkDistinct (c.name :: (earlier.map ConnectionConfig.name).reverse)
        (c.id :: (earlier.map ConnectionConfig.id).reverse) later := by
  rw [checkDistinct_append (checkDistinct_of_distinct h), checkDistinct_cons]
  simp only [List.append_nil, List.mem_reverse]

/-- **The check fails exactly over the first fault.** -/
theorem check_eq_error {b : EngineBuilder} {x : ConfigError} :
    b.check = .error x ↔ b.Fault x := by
  rw [check_eq]
  constructor
  · intro h
    split at h
    case isTrue hcapacity =>
      cases h
      exact .capacity hcapacity
    case isFalse hcapacity =>
      split at h
      case isFalse htransport =>
        cases h
        exact .transport hcapacity (Bool.eq_false_iff.mpr htransport)
      case isTrue htransport =>
        obtain ⟨earlier, c, later, hc, passed, clash⟩ := checkDistinct_eq_error h
        obtain ⟨-, hearlier⟩ := checkDistinct_eq_ok.mp passed
        rw [hc, checkDistinct_next hearlier] at h
        split at h
        case isTrue htaken =>
          cases h
          exact .name hcapacity htransport hc hearlier htaken
        case isFalse hfree =>
          split at h
          case isTrue htaken =>
            cases h
            exact .identity hcapacity htransport hc hearlier hfree htaken
          case isFalse hnew =>
            -- Neither key would be taken, but one of them is.
            rcases clash with ⟨-, taken⟩ | ⟨-, taken⟩
            · exact absurd (taken.resolve_left List.not_mem_nil) hfree
            · exact absurd (taken.resolve_left List.not_mem_nil) hnew
  · intro h
    cases h with
    | capacity hcapacity => rw [if_pos hcapacity]
    | transport hcapacity htransport => simp [hcapacity, htransport]
    | name hcapacity htransport hc hearlier htaken =>
      rw [if_neg hcapacity, if_pos htransport, hc, checkDistinct_next hearlier, if_pos htaken]
    | identity hcapacity htransport hc hearlier hfree htaken =>
      rw [if_neg hcapacity, if_pos htransport, hc, checkDistinct_next hearlier, if_neg hfree,
        if_pos htaken]

theorem check_eq_ok {b : EngineBuilder} : b.check = .ok () ↔
    b.config.sinkCapacity ≠ 0 ∧ b.hasTransport = true ∧ Distinct b.connections := by
  rw [check_eq]
  by_cases hcapacity : b.config.sinkCapacity = 0
  · simp [hcapacity]
  · by_cases htransport : b.hasTransport = true
    · rw [if_neg hcapacity, if_pos htransport, checkDistinct_eq_ok]
      simp [hcapacity, htransport, Distinct]
    · simp [hcapacity, htransport]

/-! ## §2. What is built -/

/-- The engine has what it was to be built from, and nothing else. -/
structure Mirrors (b : EngineBuilder) (e : Engine) : Prop where
  /-- Each connection is found under both keys, as it was configured: it has been created, no logout
  was sent on it, and its multiplexer is empty and has the room that is set. -/
  found : ∀ c ∈ b.connections, ∃ l, e.registry.get? c.id = some l ∧
    e.registry.getByName? c.name = some l ∧ l.config = c ∧ l.state = .created ∧
    l.logoutText = none ∧ l.mux = { capacity := b.config.sinkCapacity }
  /-- No other connection is found. -/
  knownId : ∀ i l, e.registry.get? i = some l → l.config ∈ b.connections ∧ l.config.id = i
  knownName : ∀ n l, e.registry.getByName? n = some l →
    l.config ∈ b.connections ∧ l.config.name = n
  size : e.registry.size = b.connections.length
  /-- The barrier waits for each connection, for the event that makes its role ready. -/
  pending : e.shared.barrier.pending = b.connections.map fun c => (c.id, c.role.readiness)
  announced : e.shared.barrier.announced = b.connections.length
  /-- Whatever is done with the engine, its subscriptions hold up to the capacity that is set. -/
  room : ∀ as, ∀ l ∈ (Engine.actAll as e).registry.lines, l.Roomy b.config.sinkCapacity

/-- **What is built mirrors the builder.** -/
theorem mirrors_engine {b : EngineBuilder} (hcapacity : b.config.sinkCapacity ≠ 0)
    (hdistinct : Distinct b.connections) (hbuilt : b.build = .ok b.engine) :
    b.Mirrors b.engine := by
  have coherent : b.engine.registry.Coherent := coherent_build hbuilt
  have positive : 0 < b.config.sinkCapacity := Nat.pos_of_ne_zero hcapacity
  have room : max b.config.sinkCapacity 1 = b.config.sinkCapacity := Nat.max_eq_left positive
  have member : ∀ {l}, l ∈ b.engine.registry.lines →
      l.config ∈ b.connections ∧ l = .ofConfig l.config b.config.sinkCapacity := by
    intro l hl
    obtain ⟨c, hc, rfl⟩ := List.mem_map.mp hl
    exact ⟨hc, rfl⟩
  have barrier : b.barrier.pending = b.connections.map fun c => (c.id, c.role.readiness) := by
    refine Barrier.pending_expecting ?_
    rw [List.map_map]
    exact hdistinct.2
  constructor
  case found =>
    intro c hc
    have mem : Line.ofConfig c b.config.sinkCapacity ∈ b.engine.registry.lines :=
      List.mem_map_of_mem hc
    refine ⟨_, coherent.get?_eq_some.mpr ⟨mem, rfl⟩,
      coherent.getByName?_eq_some.mpr ⟨mem, rfl⟩, rfl, rfl, rfl, ?_⟩
    show ({ capacity := max b.config.sinkCapacity 1 } : Multiplexer) = _
    rw [room]
  case knownId =>
    intro i l hl
    obtain ⟨mem, hid⟩ := coherent.get?_eq_some.mp hl
    exact ⟨(member mem).1, hid⟩
  case knownName =>
    intro n l hl
    obtain ⟨mem, hname⟩ := coherent.getByName?_eq_some.mp hl
    exact ⟨(member mem).1, hname⟩
  case size => exact List.length_map _
  case pending => exact barrier
  case announced =>
    show b.barrier.pending.length = _
    rw [barrier, List.length_map]
  case room =>
    intro as
    refine (Engine.roomy_actAll positive as ⟨rfl, fun l hl => ?_⟩).2
    rw [(member hl).2]
    exact ⟨room, fun i k q hk _ => by cases hk⟩

/-! ## §3. Every builder -/

/-- **The check of a builder is exact.**  An engine is built if and only if there is room for a
message, there is a transport, and the connections are distinct by their names and by their
identities.  Otherwise the error is the first fault.  A builder that passes the check is built: no
registration fails after it.  The engine has every connection under both keys, as it was configured,
with an empty multiplexer of the capacity that is set; it has no other, and its barrier waits for
exactly these. -/
theorem build_exact (b : EngineBuilder) :
    ((∃ e, b.build = .ok e) ↔ b.config.sinkCapacity ≠ 0 ∧ b.hasTransport = true ∧
      (b.connections.map ConnectionConfig.name).Nodup ∧
      (b.connections.map ConnectionConfig.id).Nodup) ∧
    (b.check = .ok () → ∃ r, populate b.config.sinkCapacity b.connections {} = .ok r) ∧
    (∀ x, b.build = .error x ↔ ∃ fault, x = .configuration fault ∧ b.Fault fault) ∧
    ∀ e, b.build = .ok e → b.Mirrors e := by
  refine ⟨?_, ?_, ?_, ?_⟩
  · constructor
    · rintro ⟨e, he⟩
      obtain ⟨hcapacity, htransport, names, ids, -⟩ := build_eq_ok.mp he
      exact ⟨hcapacity, htransport, names, ids⟩
    · rintro ⟨hcapacity, htransport, names, ids⟩
      exact ⟨b.engine, build_eq_ok.mpr ⟨hcapacity, htransport, names, ids, rfl⟩⟩
  · intro passed
    obtain ⟨-, -, names, ids⟩ := check_eq_ok.mp passed
    exact ⟨_, populate_of_distinct (by simpa using names) (by simpa using ids)⟩
  · intro x
    rw [build_eq]
    cases hcheck : b.check with
    | error fault =>
      have this_one : ∀ other, b.Fault other ↔ other = fault := by
        intro other
        rw [← check_eq_error, hcheck, Except.error.injEq, eq_comm]
      simp [this_one, eq_comm]
    | ok _ =>
      have none : ∀ fault, ¬ b.Fault fault := by
        intro fault h
        rw [check_eq_error.mpr h] at hcheck
        cases hcheck
      simp [none]
  · intro e he
    obtain ⟨hcapacity, -, names, ids, rfl⟩ := build_eq_ok.mp he
    exact mirrors_engine hcapacity ⟨names, ids⟩ he

/-- Two connections are registered and awaited.  A third that takes the name of the second and the
identity of the first is refused over the name, and a fourth that takes both keys of the first is
not looked at. -/
theorem build_exact_several_conflicts :
    let config (name sender : String) (role : Role) : ConnectionConfig :=
      ⟨name, .plain "FIX.4.4" sender "B", role, none⟩
    let one := config "one" "A" .dialingSingleThreaded
    let two := config "two" "C" .listeningMultiThreaded
    let good : EngineBuilder :=
      { hasTransport := true, connections := [one, two], config := { sinkCapacity := 3 } }
    let bad : EngineBuilder := { good with
      connections := [one, two, config "two" "A" .dialingSingleThreaded, one] }
    (∃ e, good.build = .ok e ∧
      e.shared.barrier.pending = [(one.id, .established), (two.id, .created)] ∧
      (e.registry.getByName? "two").map (fun l => (l.id, l.mux.capacity)) = some (two.id, 3)) ∧
    bad.build = .error (.configuration (.duplicateName "two")) := by
  intro config one two good bad
  obtain ⟨built, -, -, mirrors⟩ := build_exact good
  obtain ⟨e, he⟩ := built.mpr ⟨by decide, rfl, by decide, by decide⟩
  have mirror := mirrors e he
  obtain ⟨l, -, hname, hconfig, -, -, hmux⟩ :=
    mirror.found two (List.mem_cons_of_mem _ List.mem_cons_self)
  refine ⟨⟨e, he, mirror.pending, ?_⟩, ?_⟩
  · rw [hname, Option.map_some, Line.id, hconfig, hmux]
  · obtain ⟨-, -, errors, -⟩ := build_exact bad
    have fault : bad.Fault (.duplicateName "two") := by
      have third : bad.connections =
          [one, two] ++ config "two" "A" .dialingSingleThreaded :: [one] := rfl
      refine .name ?_ rfl third ⟨?_, ?_⟩ ?_ <;> decide
    exact (errors _).mpr ⟨_, rfl, fault⟩

end EngineBuilder

end Correlator
