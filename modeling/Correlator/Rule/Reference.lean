/-
  Correlator.Rule.Reference — FROM A REQUEST TO THE RULE FOR ITS REPLIES.

  A factory makes the rule for the replies to a request.  The reference
  factory goes by the type of the request: a mapping names the field that
  identifies a request of the type and the fields in which replies repeat the
  identifier.  A type without a mapping is correlated by sequence number only.

  Main content:
    * `ReferenceFactory.standard` with the mappings of the request types,
    * `ReferenceFactory.withMapping`, the last mapping of a type counts,
    * `ReferenceFactory.rule` — the reference rule of a request.
-/
import Correlator.Rule.Basic
import Correlator.Text.Quoted
namespace Correlator

/-! ## Mappings -/

/-- How requests of a type are identified and referred to. -/
structure ReferenceMapping where
  idTag : Tag
  referenceTags : List Tag
  deriving DecidableEq, Repr

/-- Replies repeat the identifier in its own field; a business reject has a field for it. -/
def ReferenceMapping.echoed (tag : Tag) : ReferenceMapping := ⟨tag, [tag, Tag.businessRejectRefId]⟩

/-! ## The factory -/

/-- Makes reference rules by the type of the request. -/
structure ReferenceFactory where
  mappings : List (MsgType × ReferenceMapping)
  secondary : Option Comparison

namespace ReferenceFactory

/-- The mapping of a type. -/
def lookup (type : MsgType) : List (MsgType × ReferenceMapping) → Option ReferenceMapping
  | [] => none
  | (t, m) :: rest => if t = type then some m else lookup type rest

/-- The mappings with the one of the type replaced, or with a new one at the end. -/
def store (type : MsgType) (mapping : ReferenceMapping) :
    List (MsgType × ReferenceMapping) → List (MsgType × ReferenceMapping)
  | [] => [(type, mapping)]
  | (t, m) :: rest =>
    if t = type then (t, mapping) :: rest else (t, m) :: store type mapping rest

/-- The mapping of a type. -/
def mapping? (f : ReferenceFactory) (type : MsgType) : Option ReferenceMapping :=
  lookup type f.mappings

/-- Sets the mapping of a type, in place of an earlier one. -/
def withMapping (f : ReferenceFactory) (type : MsgType) (mapping : ReferenceMapping) :
    ReferenceFactory :=
  { f with mappings := store type mapping f.mappings }

/-- Sets the comparison that is asked last. -/
def withSecondary (f : ReferenceFactory) (compare : Comparison) : ReferenceFactory :=
  { f with secondary := some compare }

/-- The mappings of the request types that have an identifier of their own. -/
def standardMappings : List (MsgType × ReferenceMapping) :=
  [(.newOrderSingle, .echoed Tag.clOrdId),
   (.orderCancelRequest, .echoed Tag.clOrdId),
   (.orderCancelReplaceRequest, .echoed Tag.clOrdId),
   (.orderMassCancelRequest, .echoed Tag.clOrdId),
   (.orderStatusRequest,
     ⟨Tag.clOrdId, [Tag.clOrdId, Tag.ordStatusReqId, Tag.businessRejectRefId]⟩),
   (.newOrderList, .echoed Tag.listId),
   (.quoteRequest, .echoed Tag.quoteReqId),
   (.quoteStatusRequest, .echoed Tag.quoteStatusReqId),
   (.massQuote, .echoed Tag.quoteId),
   (.marketDataRequest, .echoed Tag.mdReqId),
   (.securityDefinitionRequest, .echoed Tag.securityReqId),
   (.securityListRequest, .echoed Tag.securityReqId),
   (.securityStatusRequest, .echoed Tag.securityStatusReqId),
   (.tradingSessionStatusRequest, .echoed Tag.tradSesReqId),
   (.requestForPositions, .echoed Tag.posReqId),
   (.collateralInquiry, .echoed Tag.collInquiryId),
   (.testRequest, ⟨Tag.testReqId, [Tag.testReqId]⟩)]

/-- The factory with the standard mappings and no comparison of its own. -/
def standard : ReferenceFactory := ⟨standardMappings, none⟩

/-- The reference rule of a request.  A sequence number that the request carries already is
kept. -/
def rule (f : ReferenceFactory) (request : Message) : ReferenceRule :=
  { requestId := (f.mapping? request.type).bind fun m => request.get? m.idTag
    referenceTags := match f.mapping? request.type with
      | none => []
      | some m => m.referenceTags
    requestSeq := request.seqNum?
    request
    secondary := f.secondary }

/-- The diagnostic text of a factory. -/
def shown (f : ReferenceFactory) : String :=
  Text.recordText "ReferenceRuleFactory"
    [("mappings", toString f.mappings.length), ("secondary", Text.truth f.secondary.isSome)]

end ReferenceFactory

/-- The diagnostic text of a reference rule. -/
def ReferenceRule.shown (r : ReferenceRule) : String :=
  Text.recordText "ReferenceRule"
    [("request_id", Text.optional (r.requestId.map Text.quoted)),
     ("reference_tags", Text.listed (r.referenceTags.map toString)),
     ("request_seq", Text.optional (r.requestSeq.map fun n => "SeqNum(" ++ n.shown ++ ")")),
     ("secondary", Text.truth r.secondary.isSome)]

/-! ## Factories in general -/

/-- Makes the rule for the replies to a request. -/
abbrev RuleFactory := Message → Rule

/-- The rules of a reference factory. -/
def RuleFactory.reference (f : ReferenceFactory) : RuleFactory := fun request =>
  .reference (f.rule request)

/-- Replies repeat one field of the request, or leave it empty if the request lacks it. -/
def RuleFactory.repeating (tag : Tag) : RuleFactory := fun request =>
  .field tag ((request.get? tag).getD "")

/-! ## Comparisons in stock -/

namespace Comparison

/-- Every reply. -/
def always : Comparison := fun _ _ => .accepts

/-- Panics on every reply. -/
def failing : Comparison := fun _ _ => .panics

/-- The request has the first field, and the reply's second field has the same value. -/
def equal (requestTag replyTag : Tag) : Comparison := fun request reply =>
  match request.get? requestTag with
  | none => .rejects
  | some v => Verdict.ofBool (reply.get? replyTag = some v)

end Comparison

/-! ## Reading back -/

theorem ReferenceFactory.lookup_store_self (t : MsgType) (m : ReferenceMapping)
    (ms : List (MsgType × ReferenceMapping)) : lookup t (store t m ms) = some m := by
  induction ms with
  | nil => simp [store, lookup]
  | cons x ms ih =>
    obtain ⟨u, w⟩ := x
    by_cases h : u = t <;> simp [store, lookup, h, ih]

/-- The last mapping of a type counts. -/
@[simp] theorem ReferenceFactory.mapping?_withMapping_self (f : ReferenceFactory) (t : MsgType)
    (m : ReferenceMapping) : (f.withMapping t m).mapping? t = some m :=
  lookup_store_self t m f.mappings

theorem ReferenceFactory.lookup_store_of_ne {t u : MsgType} (m : ReferenceMapping)
    (ms : List (MsgType × ReferenceMapping)) (h : u ≠ t) :
    lookup u (store t m ms) = lookup u ms := by
  induction ms with
  | nil => simp [store, lookup, Ne.symm h]
  | cons x ms ih =>
    obtain ⟨v, w⟩ := x
    by_cases hv : v = t
    · subst hv; simp [store, lookup, Ne.symm h]
    · simp [store, lookup, hv, ih]

/-- A mapping concerns its own type only. -/
theorem ReferenceFactory.mapping?_withMapping_of_ne (f : ReferenceFactory) {t u : MsgType}
    (m : ReferenceMapping) (h : u ≠ t) : (f.withMapping t m).mapping? u = f.mapping? u :=
  lookup_store_of_ne m f.mappings h

end Correlator
