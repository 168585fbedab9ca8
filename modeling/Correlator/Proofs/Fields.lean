/-
  Correlator.Proofs.Fields — FIELDS ARE A MAP THAT KEEPS ITS ORDER.

  A message starts out empty, and then fields are set and removed in any order.
  What it holds can be read off these edits.  A tag has the value that it was
  set to last, unless it was removed after that; and the fields stand in the
  order in which their tags came in.  A tag comes in when it is set for the
  first time after it was last removed, so a value that is overwritten keeps
  its place and one that is set again after a removal goes to the end.

  The operations on fields look at the first field of a tag, or at all of them.
  They agree because there is never more than one.

  Main results:
    * `Edit.Leaves`, `Edit.Enters` — what edits come to,
    * `Message.Tracks`, `Message.tracks_editAll` — what one edit keeps, and a run,
    * `Message.reflects_editAll` — every message that is built up from nothing.
-/
import Correlator.Message.Basic
import Mathlib.Data.Set.Card
namespace Correlator

/-! ## §1. Edits -/

/-- A change of the fields of a message. -/
inductive Edit where
  | set (tag : Tag) (value : String)
  | remove (tag : Tag)

namespace Edit

/-- The tag that an edit is about. -/
def tag : Edit → Tag
  | set t _ => t
  | remove t => t

/-- The edits leave a tag with a value: the tag was set to it, and no later edit is about the
tag. -/
def Leaves (es : List Edit) (t : Tag) (v : String) : Prop :=
  ∃ i : Nat, es[i]? = some (.set t v) ∧ ∀ j e, i < j → es[j]? = some e → e.tag ≠ t

/-- A tag comes in with the edit at a place: the first that sets it after the last that removes
it. -/
structure Enters (es : List Edit) (t : Tag) (i : Nat) : Prop where
  sets : ∃ v, es[i]? = some (.set t v)
  stays : ∀ j, i < j → es[j]? ≠ some (.remove t)
  first : ∀ j v, j < i → es[j]? = some (.set t v) →
    ∃ k, j < k ∧ k < i ∧ es[k]? = some (.remove t)

/-! ## §2. One more edit -/

section

variable {es : List Edit} {e f : Edit} {t u : Tag} {v w : String} {i j : Nat}

/-- An edit is one of the earlier ones, or the last one. -/
theorem getElem?_concat_eq_some :
    (es ++ [e])[i]? = some f ↔ es[i]? = some f ∨ i = es.length ∧ f = e := by
  rcases Nat.lt_trichotomy i es.length with h | rfl | h
  · rw [List.getElem?_append_left h]
    simp [Nat.ne_of_lt h]
  · simp [eq_comm]
  · rw [List.getElem?_eq_none (by simp; omega), List.getElem?_eq_none (by omega)]
    simp [Nat.ne_of_gt h]

theorem lt_of_getElem? (h : es[i]? = some e) : i < es.length :=
  (List.getElem?_eq_some_iff.mp h).1

theorem le_of_concat (h : (es ++ [e])[i]? = some f) : i ≤ es.length := by
  rcases getElem?_concat_eq_some.mp h with h | ⟨rfl, -⟩
  · exact Nat.le_of_lt (lt_of_getElem? h)
  · exact Nat.le_refl _

theorem not_leaves_nil : ¬ Leaves [] t v := by
  rintro ⟨i, hi, -⟩
  simp at hi

/-- The last edit decides if it is about the tag. -/
theorem leaves_concat : Leaves (es ++ [e]) t v ↔ e = .set t v ∨ e.tag ≠ t ∧ Leaves es t v := by
  constructor
  · rintro ⟨i, hi, later⟩
    rcases getElem?_concat_eq_some.mp hi with hi | ⟨-, hi⟩
    · refine .inr ⟨?_, i, hi, ?_⟩
      · exact later es.length e (lt_of_getElem? hi) (getElem?_concat_eq_some.mpr (.inr ⟨rfl, rfl⟩))
      · exact fun j f hij hj => later j f hij (getElem?_concat_eq_some.mpr (.inl hj))
    · exact .inl hi.symm
  · rintro (rfl | ⟨other, i, hi, later⟩)
    · refine ⟨es.length, getElem?_concat_eq_some.mpr (.inr ⟨rfl, rfl⟩), ?_⟩
      exact fun j f hj hf => absurd hj (Nat.not_lt_of_le (le_of_concat hf))
    · refine ⟨i, getElem?_concat_eq_some.mpr (.inl hi), ?_⟩
      intro j f hij hj
      rcases getElem?_concat_eq_some.mp hj with hj | ⟨-, rfl⟩
      · exact later j f hij hj
      · exact other

/-- If a tag is set and not removed after that, some value is left at it. -/
theorem exists_leaves (hi : es[i]? = some (.set t v))
    (stays : ∀ j, i < j → es[j]? ≠ some (.remove t)) : ∃ w, Leaves es t w := by
  induction es using List.reverseRecOn generalizing v with
  | nil => simp at hi
  | append_singleton es e ih =>
    rcases getElem?_concat_eq_some.mp hi with hi | ⟨-, rfl⟩
    · obtain ⟨w, hw⟩ := ih hi fun j hij hj =>
        stays j hij (getElem?_concat_eq_some.mpr (.inl hj))
      have last : e ≠ .remove t := fun heq =>
        stays es.length (lt_of_getElem? hi) (getElem?_concat_eq_some.mpr (.inr ⟨rfl, heq.symm⟩))
      -- The last edit leaves the value, or another one of the same tag.
      by_cases htag : e.tag = t
      · cases e with
        | set u x =>
          obtain rfl : u = t := htag
          exact ⟨x, leaves_concat.mpr (.inl rfl)⟩
        | remove u => exact absurd (congrArg Edit.remove htag) last
      · exact ⟨w, leaves_concat.mpr (.inr ⟨htag, hw⟩)⟩
    · exact ⟨v, leaves_concat.mpr (.inl rfl)⟩

namespace Enters

/-- A tag comes in once. -/
theorem unique (h : Enters es t i) (k : Enters es t j) : i = j := by
  -- The later of the two would come after a removal.
  have apart : ∀ {i j}, Enters es t i → Enters es t j → ¬ i < j := by
    intro i j hi hj hij
    obtain ⟨v, hv⟩ := hi.sets
    obtain ⟨k, hik, -, hk⟩ := hj.first i v hij hv
    exact hi.stays k hik hk
  exact Nat.le_antisymm (Nat.le_of_not_lt (apart k h)) (Nat.le_of_not_lt (apart h k))

theorem lt (h : Enters es t i) : i < es.length := by
  obtain ⟨v, hv⟩ := h.sets
  exact lt_of_getElem? hv

/-- A tag that came in stays where it is unless it is removed. -/
theorem concat (h : Enters es t i) (he : e ≠ .remove t) : Enters (es ++ [e]) t i := by
  constructor
  case sets =>
    obtain ⟨v, hv⟩ := h.sets
    exact ⟨v, getElem?_concat_eq_some.mpr (.inl hv)⟩
  case stays =>
    intro j hij hj
    rcases getElem?_concat_eq_some.mp hj with hj | ⟨-, hj⟩
    · exact h.stays j hij hj
    · exact he hj.symm
  case first =>
    intro j v hji hj
    rcases getElem?_concat_eq_some.mp hj with hj | ⟨rfl, -⟩
    · obtain ⟨k, hjk, hki, hk⟩ := h.first j v hji hj
      exact ⟨k, hjk, hki, getElem?_concat_eq_some.mpr (.inl hk)⟩
    · have := h.lt
      omega

/-- A tag at which nothing is left comes in with the edit that sets it. -/
theorem now (h : ∀ w, ¬ Leaves es t w) (v : String) : Enters (es ++ [.set t v]) t es.length := by
  constructor
  case sets => exact ⟨v, getElem?_concat_eq_some.mpr (.inr ⟨rfl, rfl⟩)⟩
  case stays =>
    exact fun j hj he => absurd hj (Nat.not_lt_of_le (le_of_concat he))
  case first =>
    intro j w hj hw
    have hw : es[j]? = some (.set t w) := by
      rwa [List.getElem?_append_left hj] at hw
    -- Otherwise the value would have been left.
    by_contra none
    obtain ⟨x, hx⟩ := exists_leaves hw fun k hjk hk =>
      none ⟨k, hjk, lt_of_getElem? hk, getElem?_concat_eq_some.mpr (.inl hk)⟩
    exact h x hx

/-- Where a tag came in, some value is left at it. -/
theorem leaves (h : Enters es t i) : ∃ v, Leaves es t v := by
  obtain ⟨v, hv⟩ := h.sets
  exact exists_leaves hv h.stays

end Enters

end

end Edit

/-! ## §3. The fields of a message -/

namespace Message

/-- A message with an edit made. -/
def edit (m : Message) : Edit → Message
  | .set t v => m.set t v
  | .remove t => (m.remove t).2

/-- A message with edits made one after the other. -/
def editAll (es : List Edit) (m : Message) : Message := es.foldl edit m

/-- The tags of the fields, in order. -/
def tags (m : Message) : List Tag := m.fields.map Prod.fst

section

variable {fs : List (Tag × String)} {t u : Tag} {v w : String}

/-- A tag that is present keeps its place when it is set. -/
theorem keys_store_of_mem (v : String) (h : t ∈ fs.map Prod.fst) :
    (store t v fs).map Prod.fst = fs.map Prod.fst := by
  induction fs with
  | nil => simp at h
  | cons f fs ih =>
    obtain ⟨u, w⟩ := f
    by_cases hu : u = t
    · simp [store, hu]
    · have later : t ∈ fs.map Prod.fst := (List.mem_cons.mp h).resolve_left (Ne.symm hu)
      simp only [store, if_neg hu, List.map_cons, ih later]

/-- A tag that is absent is set at the end. -/
theorem store_of_not_mem (v : String) (h : t ∉ fs.map Prod.fst) :
    store t v fs = fs ++ [(t, v)] := by
  induction fs with
  | nil => rfl
  | cons f fs ih =>
    obtain ⟨u, w⟩ := f
    obtain ⟨hu, later⟩ := List.ne_and_not_mem_of_not_mem_cons h
    simp only [store, if_neg (Ne.symm hu), ih later, List.cons_append]

/-- A tag that is present is set where it is first found. -/
theorem store_of_split {a b : List (Tag × String)} (v : String) (h : t ∉ a.map Prod.fst) :
    store t v (a ++ (t, w) :: b) = a ++ (t, v) :: b := by
  induction a with
  | nil => simp [store]
  | cons f a ih =>
    obtain ⟨u, x⟩ := f
    obtain ⟨hu, later⟩ := List.ne_and_not_mem_of_not_mem_cons h
    simp only [List.cons_append, store, if_neg (Ne.symm hu), ih later]

/-- What is looked up is a field, if no tag comes twice. -/
theorem lookup_eq_some (h : (fs.map Prod.fst).Nodup) : lookup t fs = some v ↔ (t, v) ∈ fs := by
  induction fs with
  | nil => simp [lookup]
  | cons f fs ih =>
    obtain ⟨u, w⟩ := f
    obtain ⟨hu, later⟩ := List.nodup_cons.mp h
    by_cases heq : u = t
    · subst heq
      have absent : (u, v) ∉ fs := fun hmem => hu (List.mem_map.mpr ⟨_, hmem, rfl⟩)
      simp [lookup, absent, eq_comm]
    · simp [lookup, heq, ih later, Ne.symm heq]

end

/-- A message is what edits made of it: each tag has the value that they leave at it, and comes
once; and the tags stand in the order in which they came in. -/
structure Tracks (m : Message) (es : List Edit) : Prop where
  nodup : m.tags.Nodup
  value : ∀ t v, m.get? t = some v ↔ Edit.Leaves es t v
  entered : ∀ t ∈ m.tags, ∃ i, Edit.Enters es t i
  order : m.tags.Pairwise fun t u =>
    ∀ i j, Edit.Enters es t i → Edit.Enters es u j → i < j

namespace Tracks

variable {m : Message} {es : List Edit} {t : Tag}

/-- A tag is present exactly if a value is left at it. -/
theorem mem_tags (h : m.Tracks es) : t ∈ m.tags ↔ ∃ v, Edit.Leaves es t v := by
  constructor
  · intro ht
    obtain ⟨⟨u, v⟩, hf, rfl⟩ := List.mem_map.mp ht
    exact ⟨v, (h.value u v).mp ((lookup_eq_some h.nodup).mpr hf)⟩
  · rintro ⟨v, hv⟩
    exact List.mem_map_of_mem ((lookup_eq_some h.nodup).mp ((h.value t v).mpr hv))

theorem empty (type : MsgType) : (Message.empty type).Tracks [] where
  nodup := List.nodup_nil
  value t v := by simp [Message.empty, get?, lookup, Edit.not_leaves_nil]
  entered t ht := by cases ht
  order := List.Pairwise.nil

/-- Tags that were there and are not removed stand as they stood. -/
theorem order_concat (h : m.Tracks es) {e : Edit} {ts : List Tag} (hts : ts.Sublist m.tags)
    (he : ∀ t ∈ ts, e ≠ .remove t) : ts.Pairwise fun t u =>
      ∀ i j, Edit.Enters (es ++ [e]) t i → Edit.Enters (es ++ [e]) u j → i < j := by
  refine (h.order.sublist hts).imp_of_mem ?_
  intro t u ht hu before i j hi hj
  obtain ⟨i', hi'⟩ := h.entered t (hts.subset ht)
  obtain ⟨j', hj'⟩ := h.entered u (hts.subset hu)
  rw [hi.unique (hi'.concat (he t ht)), hj.unique (hj'.concat (he u hu))]
  exact before i' j' hi' hj'

theorem set (h : m.Tracks es) (t : Tag) (v : String) :
    (m.set t v).Tracks (es ++ [.set t v]) := by
  have value : ∀ u w, (m.set t v).get? u = some w ↔ Edit.Leaves (es ++ [.set t v]) u w := by
    intro u w
    rw [Edit.leaves_concat, ← h.value]
    by_cases hu : u = t
    · subst hu
      simp [Edit.tag]
    · rw [get?_set_of_ne v hu]
      simp [Edit.tag, Ne.symm hu]
  have kept : ∀ u ∈ m.tags, Edit.set t v ≠ .remove u := fun u _ heq => by cases heq
  by_cases present : t ∈ m.tags
  · -- The tags are the ones that there were.
    have same : (m.set t v).tags = m.tags := keys_store_of_mem v present
    constructor
    case nodup => exact same ▸ h.nodup
    case value => exact value
    case entered =>
      intro u hu
      obtain ⟨i, hi⟩ := h.entered u (same ▸ hu)
      exact ⟨i, hi.concat (by simp)⟩
    case order =>
      rw [same]
      exact h.order_concat (List.Sublist.refl _) kept
  · -- The tag comes last and came in last.
    have same : (m.set t v).tags = m.tags ++ [t] := by
      show (store t v m.fields).map Prod.fst = _
      rw [store_of_not_mem v present, List.map_append]
      rfl
    have now : Edit.Enters (es ++ [.set t v]) t es.length :=
      .now (fun w hw => present (h.mem_tags.mpr ⟨w, hw⟩)) v
    constructor
    case nodup =>
      rw [same]
      exact List.nodup_append.mpr ⟨h.nodup, List.nodup_singleton t, fun u hu w hw =>
        fun heq => present (List.mem_singleton.mp hw ▸ heq ▸ hu)⟩
    case value => exact value
    case entered =>
      intro u hu
      rw [same] at hu
      rcases List.mem_append.mp hu with hu | hu
      · obtain ⟨i, hi⟩ := h.entered u hu
        exact ⟨i, hi.concat (by simp)⟩
      · exact ⟨es.length, List.mem_singleton.mp hu ▸ now⟩
    case order =>
      rw [same]
      refine List.pairwise_append.mpr
        ⟨h.order_concat (List.Sublist.refl _) kept, List.pairwise_singleton _ t, ?_⟩
      intro u hu x hx i j hi hj
      obtain rfl := List.mem_singleton.mp hx
      obtain ⟨i', hi'⟩ := h.entered u hu
      rw [hi.unique (hi'.concat (kept u hu)), hj.unique now]
      exact hi'.lt

theorem remove (h : m.Tracks es) (t : Tag) :
    (m.remove t).2.Tracks (es ++ [.remove t]) := by
  have same : (m.remove t).2.tags = m.tags.filter fun u => u ≠ t := by
    show (m.fields.filter _).map Prod.fst = (m.fields.map Prod.fst).filter _
    rw [List.filter_map]
    rfl
  have nodup : (m.remove t).2.tags.Nodup := by
    rw [same]
    exact h.nodup.filter _
  have others : ∀ u ∈ (m.remove t).2.tags, Edit.remove t ≠ .remove u := by
    intro u hu heq
    cases heq
    rw [same, List.mem_filter] at hu
    simp at hu
  constructor
  case nodup => exact nodup
  case value =>
    intro u w
    rw [Edit.leaves_concat, ← h.value]
    show lookup u (m.remove t).2.fields = some w ↔ _
    rw [lookup_eq_some nodup]
    show (u, w) ∈ m.fields.filter _ ↔ _
    rw [List.mem_filter, ← lookup_eq_some h.nodup]
    simp only [Edit.tag, reduceCtorEq, false_or, decide_eq_true_eq, ne_eq]
    rw [and_comm, eq_comm]
    rfl
  case entered =>
    intro u hu
    obtain ⟨i, hi⟩ := h.entered u (List.mem_of_mem_filter (same ▸ hu))
    exact ⟨i, hi.concat (others u hu)⟩
  case order =>
    refine h.order_concat ?_ others
    rw [same]
    exact List.filter_sublist

/-- One edit. -/
theorem edit (h : m.Tracks es) (e : Edit) : (m.edit e).Tracks (es ++ [e]) := by
  cases e with
  | set t v => exact h.set t v
  | remove t => exact h.remove t

end Tracks

/-- Any number of edits. -/
theorem tracks_editAll (type : MsgType) (es : List Edit) :
    ((empty type).editAll es).Tracks es := by
  induction es using List.reverseRecOn with
  | nil => exact .empty type
  | append_singleton es e ih =>
    have last : (empty type).editAll (es ++ [e]) = ((empty type).editAll es).edit e := by
      unfold editAll
      rw [List.foldl_append]
      rfl
    rw [last]
    exact ih.edit e

/-! ## §4. Every message -/

/-- What the operations on fields say of a message that edits were made of. -/
structure Reflects (m : Message) (es : List Edit) : Prop where
  /-- No tag comes twice. -/
  nodup : (m.fields.map Prod.fst).Nodup
  /-- A tag has the value that it was set to last, if it was not removed after that. -/
  value : ∀ t v, m.get? t = some v ↔ Edit.Leaves es t v
  present : ∀ t, m.has t = true ↔ ∃ v, Edit.Leaves es t v
  fields : ∀ t v, (t, v) ∈ m.fields ↔ Edit.Leaves es t v
  size : m.size = {t | ∃ v, Edit.Leaves es t v}.ncard
  /-- Every tag that is present has come in, and they stand in the order in which they did. -/
  entered : ∀ t, m.has t = true ↔ ∃ i, Edit.Enters es t i
  order : (m.fields.map Prod.fst).Pairwise fun t u =>
    ∀ i j, Edit.Enters es t i → Edit.Enters es u j → i < j
  /-- A field that is overwritten stays in its place. -/
  overwritten : ∀ a t w b, m.fields = a ++ (t, w) :: b →
    ∀ v, (m.set t v).fields = a ++ (t, v) :: b
  /-- A removal answers the value that there was, and takes out that field alone. -/
  removed : ∀ t, (m.remove t).1 = m.get? t
  cut : ∀ a t w b, m.fields = a ++ (t, w) :: b → (m.remove t).2.fields = a ++ b
  untouched : ∀ t, m.has t = false → (m.remove t).2 = m
  others : ∀ t u, u ≠ t → (m.remove t).2.get? u = m.get? u
  /-- A second removal finds nothing. -/
  again : ∀ t, ((m.remove t).2.remove t).1 = none

/-- **Fields are a map that keeps its order.**  Whatever fields are set and removed in a message
that started out empty, it has the values that the edits leave, in the order in which their tags
came in; and the operations on it agree about that. -/
theorem reflects_editAll (type : MsgType) (es : List Edit) :
    ((empty type).editAll es).Reflects es := by
  have tracks := tracks_editAll type es
  generalize (empty type).editAll es = m at tracks
  have present : ∀ t, m.has t = true ↔ ∃ v, Edit.Leaves es t v := by
    intro t
    simp only [has, Option.isSome_iff_exists, tracks.value]
  -- Of the fields, the one that is split off is the only one of its tag.
  have alone : ∀ {a b t w}, m.fields = a ++ (t, w) :: b →
      t ∉ a.map Prod.fst ∧ t ∉ b.map Prod.fst := by
    intro a b t w hsplit
    have nodup := tracks.nodup
    rw [tags, hsplit, List.map_append, List.map_cons] at nodup
    have := List.nodup_middle.mp nodup
    simp only [List.nodup_cons, List.mem_append, not_or] at this
    exact this.1
  have without : ∀ {fs : List (Tag × String)} {t : Tag}, t ∉ fs.map Prod.fst →
      fs.filter (fun f => f.1 ≠ t) = fs := by
    intro fs t ht
    refine List.filter_eq_self.mpr fun f hf => ?_
    simpa using fun heq : f.1 = t => ht (heq ▸ List.mem_map_of_mem hf)
  constructor
  case nodup => exact tracks.nodup
  case value => exact tracks.value
  case present => exact present
  case fields =>
    intro t v
    rw [← tracks.value]
    exact (lookup_eq_some tracks.nodup).symm
  case size =>
    have set : {t | ∃ v, Edit.Leaves es t v} = (m.tags.toFinset : Set Tag) := by
      ext t
      simp [tracks.mem_tags]
    rw [set, Set.ncard_coe_finset, List.toFinset_card_of_nodup tracks.nodup]
    exact (List.length_map _).symm
  case entered =>
    intro t
    rw [present]
    constructor
    · exact fun ht => tracks.entered t (tracks.mem_tags.mpr ht)
    · exact fun ⟨i, hi⟩ => hi.leaves
  case order => exact tracks.order
  case overwritten =>
    intro a t w b hsplit v
    show store t v m.fields = _
    rw [hsplit]
    exact store_of_split v (alone hsplit).1
  case removed => exact fun t => rfl
  case cut =>
    intro a t w b hsplit
    obtain ⟨ha, hb⟩ := alone hsplit
    show m.fields.filter _ = _
    rw [hsplit, List.filter_append, List.filter_cons_of_neg (by simp), without ha, without hb]
  case untouched =>
    intro t ht
    have absent : t ∉ m.fields.map Prod.fst := by
      intro hmem
      rw [(present t).mpr (tracks.mem_tags.mp hmem)] at ht
      cases ht
    show { m with fields := m.fields.filter _ } = m
    rw [without absent]
  case others =>
    intro t u hu
    refine Option.ext fun w => ?_
    rw [(tracks.remove t).value, tracks.value, Edit.leaves_concat]
    simp [Edit.tag, Ne.symm hu]
  case again =>
    intro t
    show (m.remove t).2.get? t = none
    refine Option.eq_none_iff_forall_ne_some.mpr fun w hw => ?_
    rw [(tracks.remove t).value, Edit.leaves_concat] at hw
    simp [Edit.tag] at hw

/-- A text is overwritten where it is; a user name that is removed and set again goes to the end. -/
example : ((empty .logon).editAll [.set Tag.username "a", .set Tag.text "b", .set Tag.password "c",
    .set Tag.text "d", .remove Tag.username, .set Tag.username "e"]).fields =
      [(Tag.text, "d"), (Tag.password, "c"), (Tag.username, "e")] := by decide

end Message

end Correlator
