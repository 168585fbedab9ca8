/-
  Correlator.Message.MsgType — WHAT A MESSAGE IS.

  A message type is one of the named ones or a custom one with a code of its
  own.  One table writes the code of a type and another reads it; a code that
  stands for no named type is read as a custom one.  A third table says how a
  connection treats the messages of a type, and it looks at the type alone: a
  custom type is an application type whatever its code.

  Main content:
    * `MsgType.code`, `MsgType.ofCode` — the code on the wire and back,
    * `MsgType.name`, `MsgType.ofName?` — the name in configuration files,
    * `MsgType.kind` — how a connection treats messages of the type.
-/
namespace Correlator

/-! ## Types -/

/-- The type of a message. -/
inductive MsgType where
  | heartbeat
  | testRequest
  | resendRequest
  | reject
  | sequenceReset
  | logout
  | executionReport
  | orderCancelReject
  | logon
  | newOrderSingle
  | newOrderList
  | orderCancelRequest
  | orderCancelReplaceRequest
  | orderMassCancelRequest
  | orderMassCancelReport
  | orderStatusRequest
  | listStatus
  | quoteRequest
  | quote
  | quoteStatusRequest
  | massQuote
  | massQuoteAcknowledgement
  | marketDataRequest
  | marketDataSnapshotFullRefresh
  | marketDataIncrementalRefresh
  | marketDataRequestReject
  | securityDefinitionRequest
  | securityDefinition
  | securityListRequest
  | securityList
  | securityStatusRequest
  | securityStatus
  | tradingSessionStatusRequest
  | tradingSessionStatus
  | businessMessageReject
  | requestForPositions
  | requestForPositionsAck
  | positionReport
  | collateralInquiry
  | collateralReport
  | custom (code : String)
  deriving DecidableEq, Repr

namespace MsgType

/-- Every named type. -/
def named : List MsgType :=
  [heartbeat, testRequest, resendRequest, reject, sequenceReset, logout, executionReport,
   orderCancelReject, logon, newOrderSingle, newOrderList, orderCancelRequest,
   orderCancelReplaceRequest, orderMassCancelRequest, orderMassCancelReport, orderStatusRequest,
   listStatus, quoteRequest, quote, quoteStatusRequest, massQuote, massQuoteAcknowledgement,
   marketDataRequest, marketDataSnapshotFullRefresh, marketDataIncrementalRefresh,
   marketDataRequestReject, securityDefinitionRequest, securityDefinition, securityListRequest,
   securityList, securityStatusRequest, securityStatus, tradingSessionStatusRequest,
   tradingSessionStatus, businessMessageReject, requestForPositions, requestForPositionsAck,
   positionReport, collateralInquiry, collateralReport]

/-- The code that stands for a type in a message. -/
def code : MsgType → String
  | heartbeat => "0"
  | testRequest => "1"
  | resendRequest => "2"
  | reject => "3"
  | sequenceReset => "4"
  | logout => "5"
  | executionReport => "8"
  | orderCancelReject => "9"
  | logon => "A"
  | newOrderSingle => "D"
  | newOrderList => "E"
  | orderCancelRequest => "F"
  | orderCancelReplaceRequest => "G"
  | orderMassCancelRequest => "q"
  | orderMassCancelReport => "r"
  | orderStatusRequest => "H"
  | listStatus => "N"
  | quoteRequest => "R"
  | quote => "S"
  | quoteStatusRequest => "a"
  | massQuote => "i"
  | massQuoteAcknowledgement => "b"
  | marketDataRequest => "V"
  | marketDataSnapshotFullRefresh => "W"
  | marketDataIncrementalRefresh => "X"
  | marketDataRequestReject => "Y"
  | securityDefinitionRequest => "c"
  | securityDefinition => "d"
  | securityListRequest => "x"
  | securityList => "y"
  | securityStatusRequest => "e"
  | securityStatus => "f"
  | tradingSessionStatusRequest => "g"
  | tradingSessionStatus => "h"
  | businessMessageReject => "j"
  | requestForPositions => "AN"
  | requestForPositionsAck => "AO"
  | positionReport => "AP"
  | collateralInquiry => "BB"
  | collateralReport => "BA"
  | custom s => s

/-- The type that a code stands for.  A code that no row has is that of a custom type. -/
def ofCode : String → MsgType
  | "0" => heartbeat
  | "1" => testRequest
  | "2" => resendRequest
  | "3" => reject
  | "4" => sequenceReset
  | "5" => logout
  | "8" => executionReport
  | "9" => orderCancelReject
  | "A" => logon
  | "D" => newOrderSingle
  | "E" => newOrderList
  | "F" => orderCancelRequest
  | "G" => orderCancelReplaceRequest
  | "q" => orderMassCancelRequest
  | "r" => orderMassCancelReport
  | "H" => orderStatusRequest
  | "N" => listStatus
  | "R" => quoteRequest
  | "S" => quote
  | "a" => quoteStatusRequest
  | "i" => massQuote
  | "b" => massQuoteAcknowledgement
  | "V" => marketDataRequest
  | "W" => marketDataSnapshotFullRefresh
  | "X" => marketDataIncrementalRefresh
  | "Y" => marketDataRequestReject
  | "c" => securityDefinitionRequest
  | "d" => securityDefinition
  | "x" => securityListRequest
  | "y" => securityList
  | "e" => securityStatusRequest
  | "f" => securityStatus
  | "g" => tradingSessionStatusRequest
  | "h" => tradingSessionStatus
  | "j" => businessMessageReject
  | "AN" => requestForPositions
  | "AO" => requestForPositionsAck
  | "AP" => positionReport
  | "BB" => collateralInquiry
  | "BA" => collateralReport
  | s => custom s

/-- The name of a type in configuration files; a custom type is named only as such. -/
def name : MsgType → String
  | heartbeat => "Heartbeat"
  | testRequest => "TestRequest"
  | resendRequest => "ResendRequest"
  | reject => "Reject"
  | sequenceReset => "SequenceReset"
  | logout => "Logout"
  | executionReport => "ExecutionReport"
  | orderCancelReject => "OrderCancelReject"
  | logon => "Logon"
  | newOrderSingle => "NewOrderSingle"
  | newOrderList => "NewOrderList"
  | orderCancelRequest => "OrderCancelRequest"
  | orderCancelReplaceRequest => "OrderCancelReplaceRequest"
  | orderMassCancelRequest => "OrderMassCancelRequest"
  | orderMassCancelReport => "OrderMassCancelReport"
  | orderStatusRequest => "OrderStatusRequest"
  | listStatus => "ListStatus"
  | quoteRequest => "QuoteRequest"
  | quote => "Quote"
  | quoteStatusRequest => "QuoteStatusRequest"
  | massQuote => "MassQuote"
  | massQuoteAcknowledgement => "MassQuoteAcknowledgement"
  | marketDataRequest => "MarketDataRequest"
  | marketDataSnapshotFullRefresh => "MarketDataSnapshotFullRefresh"
  | marketDataIncrementalRefresh => "MarketDataIncrementalRefresh"
  | marketDataRequestReject => "MarketDataRequestReject"
  | securityDefinitionRequest => "SecurityDefinitionRequest"
  | securityDefinition => "SecurityDefinition"
  | securityListRequest => "SecurityListRequest"
  | securityList => "SecurityList"
  | securityStatusRequest => "SecurityStatusRequest"
  | securityStatus => "SecurityStatus"
  | tradingSessionStatusRequest => "TradingSessionStatusRequest"
  | tradingSessionStatus => "TradingSessionStatus"
  | businessMessageReject => "BusinessMessageReject"
  | requestForPositions => "RequestForPositions"
  | requestForPositionsAck => "RequestForPositionsAck"
  | positionReport => "PositionReport"
  | collateralInquiry => "CollateralInquiry"
  | collateralReport => "CollateralReport"
  | custom _ => "Custom"

/-- The named type of that name. -/
def ofName? (s : String) : Option MsgType := named.find? fun t => t.name == s

end MsgType

/-! ## Kinds -/

/-- How a connection treats a message: keep-alive traffic is only noted, handshakes and logouts
move the connection, rejects and application messages go to whoever waits for them. -/
inductive MessageKind where
  | keepalive
  | handshake
  | logout
  | reject
  | application
  deriving DecidableEq, Repr

/-- The kind of the messages of a type.  A custom type is always an application type. -/
def MsgType.kind : MsgType → MessageKind
  | .heartbeat => .keepalive
  | .testRequest => .keepalive
  | .resendRequest => .keepalive
  | .sequenceReset => .keepalive
  | .logon => .handshake
  | .logout => .logout
  | .reject => .reject
  | .businessMessageReject => .reject
  | _ => .application

namespace MessageKind

/-- Messages of this kind go to waiters. -/
def isRoutable : MessageKind → Bool
  | .application => true
  | .reject => true
  | _ => false

/-- The name of a kind. -/
def name : MessageKind → String
  | .keepalive => "Keepalive"
  | .handshake => "Handshake"
  | .logout => "Logout"
  | .reject => "Reject"
  | .application => "Application"

end MessageKind

end Correlator
