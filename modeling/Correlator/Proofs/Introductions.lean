/-
  Correlator.Proofs.Introductions — HOW A DIALING SIDE INTRODUCES ITSELF.

  The side that dials puts its credentials into a handshake that goes out.  The
  user name and the password are written where the message has them already,
  and at the end where it does not, the user name first; every other field
  stays in its place.  So a handshake that has been written once is not changed
  when it is written again.  A listening side, a side without credentials and a
  message of another kind are passed over, and a handshake that is refused is
  given back as it was.

  Main results:
    * `Message.Introduces` — a message, and the same with credentials put in,
    * `Message.introduces_set` — what comes of setting the two fields,
    * `Desk.introduction_editAll` — every message, at every connection.
-/
import Correlator.Proofs.Discipline
import Correlator.Proofs.Fields
namespace Correlator

/-! ## §1. Two fields are set -/

namespace Message

section

variable {fs : List (Tag × String)} {t : Tag} {v : String}

/-- Setting a field leaves the fields of other tags where they are. -/
theorem getElem?_store_of_ne {i : Nat} {f : Tag × String} (h : fs[i]? = some f) (hf : f.1 ≠ t) :
    (store t v fs)[i]? = some f := by
  induction fs generalizing i with
  | nil => simp at h
  | cons g fs ih =>
    obtain ⟨u, w⟩ := g
    by_cases hu : u = t
    · -- The field that is set is the first one, so the one asked for comes later.
      cases i with
      | zero =>
        cases h
        exact absurd hu hf
      | succ i =>
        rw [store, if_pos hu]
        exact h
    · rw [store, if_neg hu]
      cases i with
      | zero => exact h
      | succ i => exact ih h

/-- A tag that is set stays where it is, or comes last. -/
theorem keys_store (t : Tag) (v : String) (fs : List (Tag × String)) :
    (store t v fs).map Prod.fst = fs.map Prod.fst ++ [t].filter fun u => u ∉ fs.map Prod.fst := by
  by_cases present : t ∈ fs.map Prod.fst
  · rw [keys_store_of_mem v present, List.filter_cons_of_neg (by simpa using present)]
    exact (List.append_nil _).symm
  · rw [store_of_not_mem v present, List.filter_cons_of_pos (by simpa using present)]
    exact List.map_append

/-- If no tag comes twice, a field is the only one with its tag. -/
theorem filter_eq_singleton (h : (fs.map Prod.fst).Nodup) (hf : (t, v) ∈ fs) :
    fs.filter (fun f => f.1 = t) = [(t, v)] := by
  have nodup : fs.Nodup := .of_map _ h
  refine List.perm_singleton.mp ((List.perm_ext_iff_of_nodup (nodup.filter _)
    (List.nodup_singleton _)).mpr ?_)
  rintro ⟨u, w⟩
  simp only [List.mem_filter, decide_eq_true_eq, List.mem_singleton, Prod.mk.injEq]
  constructor
  · rintro ⟨hw, rfl⟩
    have same := ((lookup_eq_some h).mpr hw).symm.trans ((lookup_eq_some h).mpr hf)
    exact ⟨rfl, Option.some.inj same⟩
  · rintro ⟨rfl, rfl⟩
    exact ⟨hf, rfl⟩

/-- Setting a field to the value that it has changes nothing. -/
theorem store_of_lookup (h : lookup t fs = some v) : store t v fs = fs := by
  induction fs with
  | nil => cases h
  | cons f fs ih =>
    obtain ⟨u, w⟩ := f
    by_cases hu : u = t
    · rw [lookup, if_pos hu] at h
      rw [store, if_pos hu, Option.some.inj h, hu]
    · rw [lookup, if_neg hu] at h
      rw [store, if_neg hu, ih h]

end

/-- A message with the two fields set by hand, the user name first. -/
def withCredentials (c : Credentials) (m : Message) : Message :=
  (m.set Tag.username c.username).set Tag.password c.password

/-- The second message is the first one with credentials put in. -/
structure Introduces (c : Credentials) (m sent : Message) : Prop where
  type : sent.type = m.type
  /-- The two fields come once each, with the values of the credentials. -/
  username : sent.fields.filter (fun f : Tag × String => f.1 = Tag.username) =
    [(Tag.username, c.username)]
  password : sent.fields.filter (fun f : Tag × String => f.1 = Tag.password) =
    [(Tag.password, c.password)]
  /-- Every other tag has the value that it had, and every other field is where it was. -/
  value : ∀ t, t ≠ Tag.username → t ≠ Tag.password → sent.get? t = m.get? t
  field : ∀ (i : Nat) f, m.fields[i]? = some f → f.1 ≠ Tag.username → f.1 ≠ Tag.password →
    sent.fields[i]? = some f
  /-- The tags are those that there were, in their places.  Behind them come those of the two that
  there were not. -/
  tags : sent.fields.map Prod.fst = m.fields.map Prod.fst ++
    [Tag.username, Tag.password].filter fun t => t ∉ m.fields.map Prod.fst

section

variable {m : Message} (c : Credentials)

/-- Credentials that are set by hand are put in, whatever the message was made of. -/
theorem introduces_set {es : List Edit} (h : m.Tracks es) :
    m.Introduces c (m.withCredentials c) := by
  have apart : Tag.username ≠ Tag.password := by decide
  have nodup := ((h.set Tag.username c.username).set Tag.password c.password).nodup
  constructor
  case type => rfl
  case username =>
    refine filter_eq_singleton nodup ((lookup_eq_some nodup).mp ?_)
    exact (get?_set_of_ne _ apart).trans (get?_set_self _ _ _)
  case password =>
    exact filter_eq_singleton nodup ((lookup_eq_some nodup).mp (get?_set_self _ _ _))
  case value =>
    intro t hu hp
    exact (get?_set_of_ne _ hp).trans (get?_set_of_ne _ hu)
  case field =>
    intro i f hf hu hp
    exact getElem?_store_of_ne (getElem?_store_of_ne hf hu) hp
  case tags =>
    show (store Tag.password _ (store Tag.username _ m.fields)).map Prod.fst = _
    rw [keys_store, keys_store, List.append_assoc]
    -- The user name that may have come in before is not the password.
    have other : Tag.password ∉ [Tag.username].filter fun t => t ∉ m.fields.map Prod.fst :=
      fun hmem => apart (List.mem_singleton.mp (List.mem_of_mem_filter hmem)).symm
    have both : [Tag.username, Tag.password] = [Tag.username] ++ [Tag.password] := rfl
    rw [both, List.filter_append]
    refine congrArg _ (congrArg _ (List.filter_congr fun t ht => ?_))
    simp only [List.mem_singleton.mp ht, List.mem_append, or_iff_left other]

/-- Credentials that have been put in are put in again to no effect. -/
theorem withCredentials_again (m : Message) :
    (m.withCredentials c).withCredentials c = m.withCredentials c := by
  have apart : Tag.username ≠ Tag.password := by decide
  have username : (m.withCredentials c).get? Tag.username = some c.username :=
    (get?_set_of_ne _ apart).trans (get?_set_self _ _ _)
  have password : (m.withCredentials c).get? Tag.password = some c.password :=
    get?_set_self _ _ _
  generalize m.withCredentials c = sent at username password
  have same : sent.set Tag.username c.username = sent := by
    show { sent with fields := store _ _ sent.fields } = sent
    rw [store_of_lookup username]
  unfold withCredentials
  rw [same]
  show { sent with fields := store _ _ sent.fields } = sent
  rw [store_of_lookup password]

end

end Message

/-! ## §2. A handshake goes out -/

/-- The credentials that a side puts into its handshakes. -/
def ConnectionConfig.introduction? (config : ConnectionConfig) : Option Credentials :=
  if config.role.isDialing then config.credentials else none

/-- A listening side has none, and neither has a side without credentials. -/
theorem ConnectionConfig.introduction?_eq_none {config : ConnectionConfig}
    (h : config.role.isDialing = false ∨ config.credentials = none) :
    config.introduction? = none := by
  unfold introduction?
  rcases h with h | h
  · rw [h, if_neg Bool.false_ne_true]
  · rw [h, ite_self]

/-- A message as it goes out: with the credentials, if there are any. -/
def Message.introducing (m : Message) : Option Credentials → Message
  | none => m
  | some c => m.withCredentials c

namespace Desk

variable {w : Desk} {m : Message}

/-- A check leaves the line as it is. -/
theorem line_check (next : ConnectionState) (w : Desk) : (w.check next).2.line = w.line := by
  rcases check_cases next w with ⟨e, h⟩ | ⟨-, h | h⟩ <;> rw [h] <;> rfl

/-- A message of another kind is passed over. -/
theorem authenticateOutbound_of_kind (hm : m.kind ≠ .handshake) :
    w.authenticateOutbound m = ((.ok (), m), w) := if_pos hm

/-- Every state but one has a step to authenticating. -/
theorem authenticating_mem_successors {s : ConnectionState} :
    .authenticating ∈ s.successors ↔ s ≠ .established := by
  cases s <;> decide

/-- A handshake that is not refused goes out, and the connection authenticates. -/
theorem authenticateOutbound_of_handshake (hm : m.kind = .handshake)
    (hs : w.line.state ≠ .established) :
    (w.authenticateOutbound m).1 = (.ok (), m.introducing w.line.config.introduction?) ∧
      (w.authenticateOutbound m).2.line = { w.line with state := .authenticating } := by
  obtain ⟨v, hv⟩ := check_of_allowed (authenticating_mem_successors.mpr hs)
  have line : v.line = w.line := by
    have kept := line_check .authenticating w
    rwa [hv] at kept
  unfold authenticateOutbound ConnectionConfig.introduction? Role.presentsCredentials
  rw [if_neg (not_not_intro hm), hv]
  dsimp only
  rw [line_record, line_setState, line]
  cases w.line.config.role.isDialing with
  | false => exact ⟨rfl, by rw [← line]; rfl⟩
  | true => cases w.line.config.credentials <;> exact ⟨rfl, by rw [← line]; rfl⟩

/-- What goes out if anything does. -/
theorem message_of_sent (hm : m.kind = .handshake) (sent : (w.authenticateOutbound m).1.1 = .ok ()) :
    w.line.state ≠ .established ∧
      (w.authenticateOutbound m).1.2 = m.introducing w.line.config.introduction? := by
  by_cases hs : w.line.state = .established
  · rw [authenticateOutbound_of_refused hm (by rw [hs]; decide)] at sent
    cases sent
  · exact ⟨hs, by rw [(authenticateOutbound_of_handshake hm hs).1]⟩

end Desk

/-! ## §3. Every message -/

/-- What becomes of a message that goes out on a connection. -/
structure Desk.Introduction (w : Desk) (m : Message) : Prop where
  /-- A handshake is refused while the connection is established, and nothing else is. -/
  sent : (w.authenticateOutbound m).1.1 = .ok () ↔
    (m.kind = .handshake → w.line.state ≠ .established)
  /-- A dialing side with credentials puts them in, and nothing else is changed. -/
  attached : ∀ c, w.line.config.role.isDialing = true → w.line.config.credentials = some c →
    m.kind = .handshake → (w.authenticateOutbound m).1.1 = .ok () →
      m.Introduces c (w.authenticateOutbound m).1.2 ∧
      (w.authenticateOutbound m).1.2 =
        (m.set Tag.username c.username).set Tag.password c.password ∧
      -- At once, or on the connection in any other state, the same message goes out again.
      ((w.authenticateOutbound m).2.authenticateOutbound (w.authenticateOutbound m).1.2).1 =
        (.ok (), (w.authenticateOutbound m).1.2) ∧
      ∀ v : Desk, v.line.config = w.line.config →
        (v.authenticateOutbound (w.authenticateOutbound m).1.2).1.2 =
          (w.authenticateOutbound m).1.2
  /-- Every other message is left alone, whichever way it goes out. -/
  passed : w.line.config.role.isDialing = false ∨ w.line.config.credentials = none ∨
    m.kind ≠ .handshake → (w.authenticateOutbound m).1.2 = m ∧ (w.outboundAdmin m).1.2 = m
  refused : ∀ e, (w.authenticateOutbound m).1.1 = .error e → (w.authenticateOutbound m).1.2 = m
  /-- Among session messages, it is the handshakes that may be refused or changed. -/
  admin : m.kind = .handshake → w.outboundAdmin m = w.authenticateOutbound m
  adminRefused : ∀ e, (w.outboundAdmin m).1.1 = .error e → (w.outboundAdmin m).1.2 = m

namespace Desk

variable {w : Desk} {m : Message}

/-- A message is left as it is, or it is a handshake that goes out. -/
theorem message_cases (w : Desk) (m : Message) : (w.authenticateOutbound m).1.2 = m ∨
    (w.authenticateOutbound m).1 = (.ok (), m.introducing w.line.config.introduction?) := by
  by_cases hm : m.kind = .handshake
  case neg => exact .inl (by rw [authenticateOutbound_of_kind hm])
  case pos =>
    by_cases hs : w.line.state = .established
    · exact .inl (by rw [authenticateOutbound_of_refused hm (by rw [hs]; decide)])
    · exact .inr (authenticateOutbound_of_handshake hm hs).1

/-- Sending a message that has the credentials changes nothing. -/
theorem authenticateOutbound_withCredentials {c : Credentials}
    (hc : w.line.config.introduction? = some c) (m : Message) :
    (w.authenticateOutbound (m.withCredentials c)).1.2 = m.withCredentials c := by
  rcases w.message_cases (m.withCredentials c) with same | sent
  · exact same
  · rw [sent, hc]
    exact m.withCredentials_again c

theorem message_of_no_introduction (h : w.line.config.introduction? = none) :
    (w.authenticateOutbound m).1.2 = m := by
  rcases w.message_cases m with same | sent
  · exact same
  · rw [sent, h]
    rfl

theorem message_of_error {e : LinkError} (h : (w.authenticateOutbound m).1.1 = .error e) :
    (w.authenticateOutbound m).1.2 = m := by
  rcases w.message_cases m with same | sent
  · exact same
  · rw [sent] at h
    cases h

/-- What comes of a handshake that goes out with credentials, the second time too. -/
theorem attaches {c : Credentials} (hc : w.line.config.introduction? = some c)
    (hm : m.kind = .handshake) (sent : (w.authenticateOutbound m).1.1 = .ok ()) :
    (w.authenticateOutbound m).1.2 = m.withCredentials c ∧
      ((w.authenticateOutbound m).2.authenticateOutbound (m.withCredentials c)).1 =
        (.ok (), m.withCredentials c) := by
  obtain ⟨hs, message⟩ := message_of_sent hm sent
  have line := (authenticateOutbound_of_handshake hm hs).2
  rw [hc] at message
  refine ⟨message, ?_⟩
  generalize (w.authenticateOutbound m).2 = v at line
  have config : v.line.config.introduction? = some c := by
    rw [line]
    exact hc
  have state : v.line.state ≠ .established := by
    rw [line]
    exact nofun
  rw [(authenticateOutbound_of_handshake (m := m.withCredentials c) hm state).1, config]
  exact congrArg _ (m.withCredentials_again c)

/-- Of session messages, it is only the handshakes that may be refused or changed. -/
theorem outboundAdmin_of_handshake (hm : m.kind = .handshake) :
    w.outboundAdmin m = w.authenticateOutbound m := by
  unfold outboundAdmin
  rw [hm]

theorem outboundAdmin_of_kind (hm : m.kind ≠ .handshake) : (w.outboundAdmin m).1 = (.ok (), m) := by
  unfold outboundAdmin
  cases hk : m.kind <;> first | rfl | exact absurd hk hm

/-- **Credentials are put into the handshakes of a dialing side, and nowhere else.**  Whatever a
message was made of and however the connection stands, a handshake that goes out has the user name
and the password once each, all else is as it was, and doing it again makes no difference. -/
theorem introduction_editAll (type : MsgType) (es : List Edit) (w : Desk) :
    w.Introduction ((Message.empty type).editAll es) := by
  have tracks := Message.tracks_editAll type es
  generalize (Message.empty type).editAll es = m at tracks
  constructor
  case sent =>
    constructor
    · exact fun sent hm => (message_of_sent hm sent).1
    · exact fun h => authenticateOutbound_of_allowed fun hm =>
        authenticating_mem_successors.mpr (h hm)
  case attached =>
    intro c hdial hcred hm hsent
    have hc : w.line.config.introduction? = some c := by
      rw [ConnectionConfig.introduction?, if_pos hdial, hcred]
    obtain ⟨message, again⟩ := attaches hc hm hsent
    rw [message]
    refine ⟨Message.introduces_set c tracks, rfl, again, ?_⟩
    intro v hv
    exact authenticateOutbound_withCredentials (hv ▸ hc) m
  case passed =>
    intro h
    by_cases hm : m.kind = .handshake
    case neg =>
      rw [authenticateOutbound_of_kind hm, outboundAdmin_of_kind hm]
      exact ⟨rfl, rfl⟩
    case pos =>
      rw [outboundAdmin_of_handshake hm, and_self]
      rcases h with h | h | h
      · exact message_of_no_introduction (ConnectionConfig.introduction?_eq_none (.inl h))
      · exact message_of_no_introduction (ConnectionConfig.introduction?_eq_none (.inr h))
      · exact absurd hm h
  case refused => exact fun e => message_of_error
  case admin => exact outboundAdmin_of_handshake
  case adminRefused =>
    intro e he
    by_cases hm : m.kind = .handshake
    case neg => rw [outboundAdmin_of_kind hm]
    case pos =>
      rw [outboundAdmin_of_handshake hm] at he ⊢
      exact message_of_error he

/-- A stale password is replaced where it stands, and the user name that is missing comes last. -/
example :
    let w := Desk.ofLine (.ofConfig ⟨"venue", .plain "FIX.4.4" "A" "B", .dialingSingleThreaded,
      some ⟨"trader", "s3cret"⟩⟩ 4) ⟨[], 0⟩
    let m : Message := ⟨.logon, [(Tag.password, "old"), (Tag.text, "hello")]⟩
    (w.authenticateOutbound m).1.2.fields =
      [(Tag.password, "s3cret"), (Tag.text, "hello"), (Tag.username, "trader")] := by decide

end Desk

end Correlator
