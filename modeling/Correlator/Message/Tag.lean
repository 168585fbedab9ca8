/-
  Correlator.Message.Tag — FIELD NUMBERS.

  A field of a message is known by its number.  The ones named here are those
  that correlation and authentication read or write.
-/
namespace Correlator

/-- The number of a field. -/
abbrev Tag := Nat

namespace Tag

/-- Client order identifier. -/
def clOrdId : Tag := 11

/-- Sequence number of the message itself. -/
def msgSeqNum : Tag := 34

/-- Sequence number of the message referred to. -/
def refSeqNum : Tag := 45

/-- Free text. -/
def text : Tag := 58

/-- List identifier. -/
def listId : Tag := 66

/-- Test request identifier. -/
def testReqId : Tag := 112

/-- Quote identifier. -/
def quoteId : Tag := 117

/-- Quote request identifier. -/
def quoteReqId : Tag := 131

/-- Market data request identifier. -/
def mdReqId : Tag := 262

/-- Security request identifier. -/
def securityReqId : Tag := 320

/-- Security status request identifier. -/
def securityStatusReqId : Tag := 324

/-- Trading session request identifier. -/
def tradSesReqId : Tag := 335

/-- Identifier of the message a business reject refers to. -/
def businessRejectRefId : Tag := 379

/-- User name of a handshake. -/
def username : Tag := 553

/-- Password of a handshake. -/
def password : Tag := 554

/-- Quote status request identifier. -/
def quoteStatusReqId : Tag := 649

/-- Position request identifier. -/
def posReqId : Tag := 710

/-- Order status request identifier. -/
def ordStatusReqId : Tag := 790

/-- Collateral inquiry identifier. -/
def collInquiryId : Tag := 909

end Tag

end Correlator
