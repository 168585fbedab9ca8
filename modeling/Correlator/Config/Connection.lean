/-
  Correlator.Config.Connection — THE CONFIGURATION OF A CONNECTION.

  A connection is configured with a name, an identity, a role and possibly
  credentials.  A draft gathers the parts one by one; building it names the
  first part that is missing, then checks the names of the two parties.

  Main content:
    * `ConnectionConfig`, `Credentials`,
    * `ConnectionDraft.build` — a configuration from a draft.
-/
import Correlator.Connection.Role
import Correlator.CompId
import Correlator.Error
namespace Correlator

/-! ## Credentials -/

/-- A user name and a password. -/
structure Credentials where
  username : String
  password : String
  deriving DecidableEq

/-- The diagnostic text of credentials; three stars stand for the password. -/
def Credentials.shown (c : Credentials) : String :=
  Text.recordText "Credentials" [("username", Text.quoted c.username), ("password", Text.quoted "***")]

/-! ## Configurations -/

/-- The configuration of a connection. -/
structure ConnectionConfig where
  name : String
  id : ConnectionId
  role : Role
  credentials : Option Credentials
  deriving DecidableEq

/-- The diagnostic text of an identity. -/
def ConnectionId.record (c : ConnectionId) : String :=
  let part (s : Option String) := Text.optional (s.map Text.quoted)
  Text.recordText "ConnectionId"
    [("begin_string", Text.quoted c.beginString), ("sender_comp_id", Text.quoted c.senderCompId),
     ("target_comp_id", Text.quoted c.targetCompId), ("sender_sub_id", part c.senderSubId),
     ("target_sub_id", part c.targetSubId), ("qualifier", part c.qualifier)]

/-- The diagnostic text of a configuration. -/
def ConnectionConfig.record (c : ConnectionConfig) : String :=
  Text.recordText "ConnectionConfig"
    [("name", Text.quoted c.name), ("connection_id", c.id.record), ("role", c.role.name),
     ("credentials", Text.optional (c.credentials.map Credentials.shown))]

/-! ## Drafts -/

/-- The version that messages begin with unless a draft says otherwise. -/
def ConnectionDraft.defaultBeginString : String := "FIX.4.4"

/-- A configuration in the making. -/
structure ConnectionDraft where
  name : Option String := none
  beginString : Option String := none
  senderCompId : Option String := none
  targetCompId : Option String := none
  senderSubId : Option String := none
  targetSubId : Option String := none
  qualifier : Option String := none
  role : Option Role := none
  credentials : Option Credentials := none

namespace ConnectionDraft

/-- A part that must be there. -/
def need {α : Type} (field : String) : Option α → Except ConfigError α
  | none => .error (.missingField field)
  | some a => .ok a

/-- The name of a party: not empty and within its bound. -/
def partyName (s : String) : Except ConfigError String :=
  if s = "" then .error (.invalidCompId s)
  else match CompId.ofString? s with
    | none => .error (.invalidCompId s)
    | some c => .ok c.text

/-- The configuration.  Its name, if none was given, is the text of its identity. -/
def build (d : ConnectionDraft) : Except ConfigError ConnectionConfig := do
  let sender ← need "sender_comp_id" d.senderCompId
  let target ← need "target_comp_id" d.targetCompId
  let role ← need "role" d.role
  let sender ← partyName sender
  let target ← partyName target
  let id : ConnectionId :=
    { beginString := d.beginString.getD defaultBeginString
      senderCompId := sender
      targetCompId := target
      senderSubId := d.senderSubId
      targetSubId := d.targetSubId
      qualifier := d.qualifier }
  return { name := d.name.getD id.shown, id, role, credentials := d.credentials }

end ConnectionDraft

end Correlator
