/-
  Correlator.Proofs.Secrecy — A PASSWORD SHOWS IN NOTHING BUT THE VERDICT.

  Two runs are set side by side.  The configurations of the listening side in
  hand differ in the password, the operations in the passwords of handshakes that
  come in, and each of these is what the credentials ask for in both runs or in
  neither.  With every password hidden behind the verdict on it the two runs are
  one, so they answer the same, and nothing that can be seen of them at any
  moment tells them apart.

  Main results:
    * `Seal.message_verdicts_iff` — which handshakes may stand for each other,
    * `Desk.Counterpart`, `Desk.Counterpart.exec` — one operation in both runs,
    * `Moment.look`, `Moment.look_sealed` — what can be seen of a moment,
    * `Operation.secret_execAll` — every two runs.
-/
import Correlator.Proofs.UnderSeal
namespace Correlator

/-! ## §1. Which operations may stand for each other -/

namespace Seal

theorem withPassword_withPassword (s t : String) (m : Message) :
    (m.withPassword s).withPassword t = m.withPassword t := by
  have each : ((m.fields.map fun f => if f.1 = Tag.password then (f.1, s) else f).map fun f =>
      if f.1 = Tag.password then (f.1, t) else f) =
        m.fields.map fun f => if f.1 = Tag.password then (f.1, t) else f := by
    rw [List.map_map]
    refine List.map_congr_left fun f _ => ?_
    by_cases hf : f.1 = Tag.password <;> simp [hf]
  exact congrArg (fun fs => { m with fields := fs }) each

/-- A handshake without a password is not what credentials ask for. -/
theorem admits_of_no_password {asked : Option Credentials} {m : Message}
    (hm : m.get? Tag.password = none) : admits asked m = asked.isNone := by
  cases asked with
  | none => rfl
  | some c =>
    have missing : Desk.credentialsFault c m = some "credentials missing" := by
      unfold Desk.credentialsFault
      rw [hm]
      cases m.get? Tag.username <;> rfl
    show (Desk.credentialsFault c m).isNone = false
    rw [missing]
    rfl

/-- **Two handshakes are the same with their passwords hidden behind the verdicts** if they differ
in nothing but passwords and the verdicts are the same. -/
theorem message_verdicts_iff {asked asked' : Option Credentials}
    (hasked : asked'.isNone = asked.isNone) {m m' : Message} (hm : m.kind = .handshake)
    (hm' : m'.kind = .handshake) :
    (verdicts asked').message m' = (verdicts asked).message m ↔
      m'.withPassword "" = m.withPassword "" ∧ admits asked' m' = admits asked m := by
  rw [message_of_handshake _ hm, message_of_handshake _ hm']
  show m'.withPassword _ = m.withPassword _ ↔ _
  constructor
  case mp =>
    intro h
    have rest : m'.withPassword "" = m.withPassword "" := by
      have blank := congrArg (Message.withPassword "") h
      rwa [withPassword_withPassword, withPassword_withPassword] at blank
    refine ⟨rest, ?_⟩
    have seen := congrArg (Message.get? · Tag.password) h
    rw [get?_withPassword, get?_withPassword] at seen
    cases hp : m.get? Tag.password with
    | none =>
      -- Neither has a password, so neither is admitted where credentials are asked for.
      rw [hp, Option.map_none, Option.map_eq_none_iff] at seen
      rw [admits_of_no_password seen, admits_of_no_password hp, hasked]
    | some p =>
      obtain ⟨p', -, marks⟩ := Option.map_eq_some_iff.mp (seen.trans (by rw [hp]; rfl))
      cases hv : admits asked m <;> cases hv' : admits asked' m' <;> simp_all
  case mpr =>
    rintro ⟨rest, verdict⟩
    have hidden := congrArg (Message.withPassword (if admits asked m then "right" else "wrong")) rest
    rw [withPassword_withPassword, withPassword_withPassword] at hidden
    rwa [verdict]

/-- Hiding the passwords behind the verdicts leaves the verdicts of a listening side. -/
theorem hides_verdicts {config : ConnectionConfig} (hrole : config.role.isListening = true) :
    (verdicts config.credentials).Hides config where
  listening := hrole
  fair c hc := by
    rw [hc]
    exact fair_verdicts c

end Seal

/-- A report with a handshake that comes in under a seal. -/
def Report.sealed (σ : Seal) : Report → Report
  | .fromAdmin m => .fromAdmin (σ.message m)
  | .fromApp m => .fromApp (σ.message m)
  | r => r

namespace Report

variable (σ : Seal) (r : Report) (a : Answer)

theorem operation_sealed : (r.sealed σ).operation = r.operation.sealed σ := by
  cases r with
  | fromAdmin m | fromApp m =>
    show Operation.inbound (σ.message m) = Operation.sealed σ (.inbound m)
    rw [Operation.sealed]
  | _ => simp only [sealed, operation, Operation.sealed]

theorem reply_sealed : (r.sealed σ).reply a = r.reply a := by
  cases r <;> cases a <;> rfl

theorem ignored_sealed : (r.sealed σ).ignored a = r.ignored a := by
  cases r <;> rfl

end Report

/-! ## §2. What can be seen -/

/-- What can be seen of a moment: what is logged, a callback and who hears it, what a waiter is
answered and what for, what a disposal says, a drop that goes on record, and how the connection
stands. -/
structure Look where
  notice : Option (Level × String)
  callback : Option (Nat × Option String × Call)
  answer : Option (Nat × String × String × Answer)
  disposal : Option (SinkRef × Bool)
  drop : Option ConnectionDropped
  state : Option ConnectionState
  dropRecord : Option (Option ConnectionDropped)

namespace Event

def notice? : Event → Option (Level × String)
  | noted n => some (n.level, n.text)
  | _ => none

def callback? : Event → Option (Nat × Option String × Call)
  | called i hearer c => some (i, hearer, c)
  | _ => none

def answer? : Event → Option (Nat × String × String × Answer)
  | answered i label op a => some (i, label, op.name, a)
  | _ => none

def disposal? : Event → Option (SinkRef × Bool)
  | disposed s changed => some (s, changed)
  | _ => none

def loss? : Event → Option ConnectionDropped
  | refused _ d => some d
  | lost _ _ d => some d
  | _ => none

end Event

def Moment.look (x : Moment) : Look where
  notice := x.event.notice?
  callback := x.event.callback?
  answer := x.event.answer?
  disposal := x.event.disposal?
  drop := x.event.loss?
  state := x.line.map Line.state
  dropRecord := x.line.map fun l => l.mux.dropRecord

section

variable (σ : Seal) (c : ConnectionId)

theorem Operation.name_sealed (op : Operation) : (op.sealed σ).name = op.name := by
  cases op <;> simp only [sealed] <;> rfl

theorem Event.answer?_sealed (e : Event) : (e.sealed σ).answer? = e.answer? := by
  cases e with
  | answered i label op a =>
    exact congrArg (fun name => some (i, label, name, a)) (op.name_sealed σ)
  | _ => rfl

/-- What a seal does not touch of a line shows in a moment as it is. -/
theorem Moment.map_line_sealed {α : Type} {f : Line → α} (hf : ∀ l, f (l.sealed σ) = f l)
    (x : Moment) : (x.sealed σ c).line.map f = x.line.map f := by
  show (x.line.map _).map f = x.line.map f
  rw [Option.map_map]
  refine Option.map_congr fun l _ => ?_
  show f (if l.id = c then l.sealed σ else l) = f l
  split
  · exact hf l
  · rfl

/-- **A moment looks the same under a seal.** -/
theorem Moment.look_sealed (x : Moment) : (x.sealed σ c).look = x.look := by
  have state := x.map_line_sealed σ c (f := Line.state) fun _ => rfl
  have record := x.map_line_sealed σ c (f := fun l => l.mux.dropRecord) fun _ => rfl
  have answer : (x.sealed σ c).event.answer? = x.event.answer? := x.event.answer?_sealed σ
  unfold look
  rw [state, record, answer]
  obtain ⟨event, line⟩ := x
  cases event <;> rfl

theorem Shared.look_sealed (s : Shared) :
    (s.sealed σ c).history.map Moment.look = s.history.map Moment.look := by
  show ((s.trail.map (Moment.sealed σ c)).reverse).map Moment.look = s.trail.reverse.map Moment.look
  rw [← List.map_reverse, List.map_map]
  exact List.map_congr_left fun x _ => x.look_sealed σ c

end

/-! ## §3. Two runs -/

/-- The same desk with the secrets of one configuration and with those of another: with every
password hidden behind the verdict on it, nothing tells them apart. -/
structure Desk.Counterpart (config config' : ConnectionConfig) (w v : Desk) : Prop where
  first : w.line.config = config
  second : v.line.config = config'
  desk : v.sealed (.verdicts config'.credentials) = w.sealed (.verdicts config.credentials)

/-- The operations are the same but for the passwords of handshakes that come in, those in scripts
included, and each of these is what the credentials ask for in both or in neither. -/
def Operation.Alike (asked asked' : Option Credentials) (ops ops' : List Operation) : Prop :=
  ops'.map (Operation.sealed (.verdicts asked')) = ops.map (Operation.sealed (.verdicts asked))

namespace Desk.Counterpart

variable {config config' : ConnectionConfig} {w v : Desk}

/-- What a seal does not touch is the same on both desks. -/
theorem kept {α : Type} (h : Counterpart config config' w v) {f : Desk → α}
    (hf : ∀ (σ : Seal) (u : Desk), f (u.sealed σ) = f u) : f v = f w := by
  rw [← hf (.verdicts config'.credentials) v, h.desk, hf]

/-- What happened looks the same. -/
theorem look (h : Counterpart config config' w v) :
    v.shared.history.map Moment.look = w.shared.history.map Moment.look :=
  h.kept (f := fun u => u.shared.history.map Moment.look) fun σ u =>
    u.shared.look_sealed σ u.line.id

theorem state (h : Counterpart config config' w v) : v.line.state = w.line.state :=
  h.kept (f := fun u => u.line.state) fun _ _ => rfl

theorem dropRecord (h : Counterpart config config' w v) :
    v.line.mux.dropRecord = w.line.mux.dropRecord :=
  h.kept (f := fun u => u.line.mux.dropRecord) fun _ _ => rfl

theorem active (h : Counterpart config config' w v) : v.line.mux.active = w.line.mux.active :=
  h.kept (f := fun u => u.line.mux.active) fun _ _ => rfl

/-- The sinks are in the same phases. -/
theorem phase? (h : Counterpart config config' w v) (i : Nat) :
    v.line.mux.phase? i = w.line.mux.phase? i := by
  refine h.kept (f := fun u => u.line.mux.phase? i) fun σ u => ?_
  show ((u.line.sealed σ).sink? i).map Sink.phase = (u.line.sink? i).map Sink.phase
  rw [u.line.sink?_sealed σ, Option.map_map]
  rfl

theorem opening (w : Desk) {config config' : ConnectionConfig} (capacity : Nat)
    (h : config'.sealed (.verdicts config'.credentials) =
      config.sealed (.verdicts config.credentials)) :
    Counterpart config config' (w.opening config capacity) (w.opening config' capacity) := by
  refine ⟨rfl, rfl, ?_⟩
  exact congrArg (fun k => Desk.mk w.before ⟨k, .withCapacity capacity, .created, none⟩ w.after
    w.shared.forget) h

section

variable (hrole : config.role.isListening = true) (hrole' : config'.role.isListening = true)

include hrole hrole'

/-- **A run of alike operations** answers the same and keeps the desks apart in secrets only. -/
theorem execAll {ops ops' : List Operation} (h : Counterpart config config' w v)
    (hops : Operation.Alike config.credentials config'.credentials ops ops') :
    Agree (Counterpart config config') (Operation.execAll ops w)
      (Operation.execAll ops' v) := by
  have one := UnderSeal.execAll (Seal.hides_verdicts hrole) ops ⟨h.first, rfl⟩
  have other := UnderSeal.execAll (Seal.hides_verdicts hrole') ops' ⟨h.second, rfl⟩
  rw [hops, h.desk] at other
  refine ⟨other.answer.symm.trans one.answer, one.desk.config, other.desk.config, ?_⟩
  exact other.desk.desk.symm.trans one.desk.desk

/-- One operation. -/
theorem exec {op op' : Operation} (h : Counterpart config config' w v)
    (hop : op'.sealed (.verdicts config'.credentials) = op.sealed (.verdicts config.credentials)) :
    Agree (Counterpart config config') (op.exec w) (op'.exec v) := by
  have one := UnderSeal.exec (Seal.hides_verdicts hrole) op ⟨h.first, rfl⟩
  have other := UnderSeal.exec (Seal.hides_verdicts hrole') op' ⟨h.second, rfl⟩
  rw [hop, h.desk] at other
  refine ⟨other.answer.symm.trans one.answer, one.desk.config, other.desk.config, ?_⟩
  exact other.desk.desk.symm.trans one.desk.desk

/-- **A report** is replied to in the same way, and what is logged with it looks the same. -/
theorem report {c : ConnectionId} {e e' : Engine} {r r' : Report}
    (h : Counterpart config config' w v) (he : e.Hands c w) (he' : e'.Hands c v)
    (hr : r'.sealed (.verdicts config'.credentials) = r.sealed (.verdicts config.credentials)) :
    (e'.report c r').1 = (e.report c r).1 ∧
      (e'.report c r').2.shared.history.map Moment.look =
        (e.report c r).2.shared.history.map Moment.look := by
  have hop : r'.operation.sealed (.verdicts config'.credentials) =
      r.operation.sealed (.verdicts config.credentials) := by
    rw [← r'.operation_sealed, hr, r.operation_sealed]
  obtain ⟨answer, desk⟩ := h.exec hrole hrole' hop
  have reply : r'.reply (r.operation.exec w).1 = r.reply (r.operation.exec w).1 := by
    rw [← r'.reply_sealed (.verdicts config'.credentials), hr, r.reply_sealed]
  have ignored : r'.ignored (r.operation.exec w).1 = r.ignored (r.operation.exec w).1 := by
    rw [← r'.ignored_sealed (.verdicts config'.credentials), hr, r.ignored_sealed]
  rw [he.report, he'.report, answer, reply, ignored]
  refine ⟨rfl, ?_⟩
  split
  case h_1 => exact desk.look
  case h_2 n _ =>
    show ((r'.operation.exec v).2.shared.add ⟨.noted n, none⟩).history.map Moment.look =
      ((r.operation.exec w).2.shared.add ⟨.noted n, none⟩).history.map Moment.look
    rw [Shared.history_add, Shared.history_add, List.map_append, List.map_append, desk.look]

end

end Desk.Counterpart

/-! ## §4. Every two runs -/

/-- The same configuration with another password. -/
def ConnectionConfig.withPassword (password : String) (config : ConnectionConfig) :
    ConnectionConfig :=
  { config with credentials := config.credentials.map fun c => { c with password } }

namespace ConnectionConfig

variable (password : String) (config : ConnectionConfig)

theorem sealed_withPassword : (config.withPassword password).sealed
    (.verdicts (config.withPassword password).credentials) =
      config.sealed (.verdicts config.credentials) := by
  obtain ⟨name, id, role, credentials⟩ := config
  cases credentials <;> rfl

/-- The diagnostic text does not tell the password. -/
theorem record_withPassword : (config.withPassword password).record = config.record := by
  obtain ⟨name, id, role, credentials⟩ := config
  cases credentials <;> rfl

end ConnectionConfig

/-- Nothing tells two runs apart: what is answered, what is seen at each moment, and how the
connection stands in the end, its diagnostic text included. -/
structure Operation.Indistinct (r r' : List Answer × Desk) : Prop where
  answers : r'.1 = r.1
  looks : r'.2.shared.history.map Moment.look = r.2.shared.history.map Moment.look
  state : r'.2.line.state = r.2.line.state
  dropRecord : r'.2.line.mux.dropRecord = r.2.line.mux.dropRecord
  active : r'.2.line.mux.active = r.2.line.mux.active
  phases : ∀ i, r'.2.line.mux.phase? i = r.2.line.mux.phase? i
  diagnostics : r'.2.line.config.record = r.2.line.config.record

/-- **The password shows in nothing but the verdict.**  Two configurations of a listening side
differ in the password, and alike operations are performed.  Then nothing tells the runs apart, and
an engine that has come to hold such a line replies alike to every report, rejects included. -/
theorem Operation.secret_execAll (w : Desk) {config : ConnectionConfig}
    (hrole : config.role.isListening = true) (password : String) (capacity : Nat)
    {ops ops' : List Operation}
    (hops : Alike config.credentials (config.withPassword password).credentials ops ops') :
    let config' := config.withPassword password
    let r := execAll ops (w.opening config capacity)
    let r' := execAll ops' (w.opening config' capacity)
    Indistinct r r' ∧ ∀ (e e' : Engine), e.Hands config.id r.2 → e'.Hands config.id r'.2 →
      ∀ report report' : Report, report'.sealed (.verdicts config'.credentials) =
          report.sealed (.verdicts config.credentials) →
        (e'.report config.id report').1 = (e.report config.id report).1 ∧
          (e'.report config.id report').2.shared.history.map Moment.look =
            (e.report config.id report).2.shared.history.map Moment.look := by
  intro config' r r'
  have hrole' : config'.role.isListening = true := hrole
  have opened : Desk.Counterpart config config' (w.opening config capacity)
      (w.opening config' capacity) := .opening w capacity (config.sealed_withPassword password)
  obtain ⟨answers, desk⟩ := opened.execAll hrole hrole' hops
  have shown : r'.2.line.config.record = r.2.line.config.record := by
    rw [desk.first, desk.second]
    exact config.record_withPassword password
  refine ⟨⟨answers, desk.look, desk.state, desk.dropRecord, desk.active, desk.phase?, shown⟩, ?_⟩
  intro e e' he he' report report' hreport
  exact desk.report hrole hrole' he he' hreport

/-- A venue with one password and with another.  A waiter answers a refusal with a guess of its own,
and the right password lets the trader in. -/
theorem Operation.secret_execAll_two_passwords :
    let config : ConnectionConfig :=
      ⟨"venue", .plain "FIX.4.4" "A" "B", .listeningSingleThreaded, some ⟨"trader", "s3cret"⟩⟩
    let logon (password : String) : Message :=
      ⟨.logon, [(Tag.username, "trader"), (Tag.password, password)]⟩
    let ops (guess right : String) : List Operation :=
      [.register "waiter" .always ⟨[], [⟨[.inbound (logon guess)], false⟩], none⟩,
        .inbound (logon guess), .inbound (logon right), .establish]
    let w := Desk.ofLine (.ofConfig config 4) ⟨[], 0⟩
    let r := execAll (ops "guess" "s3cret") (w.opening config 4)
    let r' := execAll (ops "swordfish" "letmein") (w.opening (config.withPassword "letmein") 4)
    r.2.line.state = .established ∧ Indistinct r r' := by
  intro config logon ops w r r'
  have alike : Alike config.credentials (config.withPassword "letmein").credentials
      (ops "guess" "s3cret") (ops "swordfish" "letmein") := rfl
  exact ⟨rfl, (secret_execAll w rfl "letmein" 4 alike).1⟩

end Correlator
