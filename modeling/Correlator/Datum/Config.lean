/-
  Correlator.Datum.Config — READING AND WRITING DOMAIN VALUES AS DATA.

  Each value of the domain that appears in configuration files is read from a
  datum, and some are written as one.  Nothing is checked beyond the form:
  a configuration that was read may still be refused by what it is used for.

  Main content:
    * `ofDatum?` for identities, roles, types, numbers, timestamps,
      credentials, configurations and durations,
    * `toDatum` for identities and types.
-/
import Correlator.Datum.Basic
import Correlator.Config.Connection
import Correlator.Config.Engine
import Correlator.Message.Basic
import Correlator.Time.Timestamp
namespace Correlator

open Datum

/-! ## Names and numbers -/

/-- Reads a role. -/
def Role.ofDatum? (d : Datum) : Option Role := do
  let (name, rest) ← d.variant?
  if isBare rest then Role.ofShown? name else none

/-- Reads a message type: a name, or a custom type with its code. -/
def MsgType.ofDatum? (d : Datum) : Option MsgType := do
  let (name, rest) ← d.variant?
  if name = "Custom" then
    let code ← rest
    return .custom (← code.text?)
  else if isBare rest then MsgType.ofName? name
  else none

/-- Writes a message type. -/
def MsgType.toDatum : MsgType → Datum
  | .custom s => .object [("Custom", .text s)]
  | t => .text t.name

/-- Reads a sequence number. -/
def SeqNum.ofDatum? (d : Datum) : Option SeqNum := d.word?.map SeqNum.mk

/-- Reads the name of a party. -/
def CompId.ofDatum? (d : Datum) : Option CompId := d.text?.bind CompId.ofString?

/-- Reads a timestamp. -/
def Timestamp.ofDatum? (d : Datum) : Option Timestamp := do
  let [nanoseconds] ← d.fields? ["nanos_since_epoch"] | none
  return ⟨← required word? nanoseconds⟩

/-- Reads a duration.  All its entries must be known, and both must be there. -/
def Duration.ofDatum? (d : Datum) : Option Duration := do
  let names := ["secs", "nanos"]
  let known := match d with
    | .object es => onlyNamed names es
    | _ => true
  if !known then none
  let [seconds, nanoseconds] ← d.fields? names | none
  let s ← required (natural? (UInt64.size - 1)) seconds
  let n ← required (natural? (UInt32.size - 1)) nanoseconds
  Duration.ofParts? s n

/-! ## Connections -/

/-- The names of an identity's parts. -/
def ConnectionId.fieldNames : List String :=
  ["begin_string", "sender_comp_id", "target_comp_id", "sender_sub_id", "target_sub_id", "qualifier"]

/-- Reads an identity. -/
def ConnectionId.ofDatum? (d : Datum) : Option ConnectionId := do
  let [begin, sender, target, senderSub, targetSub, qualifier] ← d.fields? fieldNames | none
  return { beginString := ← required text? begin
           senderCompId := ← required text? sender
           targetCompId := ← required text? target
           senderSubId := ← defaulted none (nullable text?) senderSub
           targetSubId := ← defaulted none (nullable text?) targetSub
           qualifier := ← defaulted none (nullable text?) qualifier }

/-- Writes an identity. -/
def ConnectionId.toDatum (c : ConnectionId) : Datum :=
  .object (fieldNames.zip (c.parts.map Datum.ofOption))

/-- Reads credentials. -/
def Credentials.ofDatum? (d : Datum) : Option Credentials := do
  let [username, password] ← d.fields? ["username", "password"] | none
  return ⟨← required text? username, ← required text? password⟩

/-- Reads the configuration of a connection. -/
def ConnectionConfig.ofDatum? (d : Datum) : Option ConnectionConfig := do
  let [name, id, role, credentials] ← d.fields? ["name", "connection_id", "role", "credentials"]
    | none
  return { name := ← required text? name
           id := ← required ConnectionId.ofDatum? id
           role := ← required Role.ofDatum? role
           credentials := ← defaulted none (nullable Credentials.ofDatum?) credentials }

/-! ## Engines -/

/-- Reads the settings of an engine. -/
def EngineConfig.ofDatum? (d : Datum) : Option EngineConfig := do
  let [timeout, capacity] ← d.fields? ["startup_timeout", "sink_capacity"] | none
  let standard : EngineConfig := {}
  return { startupTimeout := ← defaulted none (nullable Duration.ofDatum?) timeout
           sinkCapacity := ← defaulted standard.sinkCapacity (natural? (UInt64.size - 1)) capacity }

end Correlator
