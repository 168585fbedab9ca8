import Correlator.Text.Printable
import Correlator.Text.Quoted
import Correlator.Text.Numeral
import Correlator.Text.Order
import Correlator.Text.Buffer
import Correlator.Time.Duration
import Correlator.Time.Calendar
import Correlator.Time.Timestamp
import Correlator.SeqNum
import Correlator.CompId
import Correlator.Message.MsgType
import Correlator.Message.Tag
import Correlator.Message.Basic
import Correlator.Connection.Id
import Correlator.Connection.Role
import Correlator.Connection.State
import Correlator.Error
import Correlator.Config.Connection
import Correlator.Config.Engine
import Correlator.Datum.Basic
import Correlator.Datum.Config
import Correlator.Rule.Basic
import Correlator.Rule.Reference
import Correlator.Stream
import Correlator.Barrier
import Correlator.Notice
import Correlator.Operation
import Correlator.Sink
import Correlator.Line
import Correlator.Directory
import Correlator.Desk.Basic
import Correlator.Desk.Dispatch
import Correlator.Desk.Lifecycle
import Correlator.Desk.Perform
import Correlator.Desk.Reading
import Correlator.Registry
import Correlator.Engine.Basic
import Correlator.Engine.Builder
import Correlator.Engine.Application
import Correlator.Engine.Send
import Correlator.Engine.Exchange
import Correlator.Proofs.History
import Correlator.Proofs.Step
import Correlator.Proofs.Phase
import Correlator.Proofs.Frame
import Correlator.Proofs.Scripts
import Correlator.Proofs.Course
import Correlator.Proofs.Weight
import Correlator.Proofs.Path
import Correlator.Proofs.Guise
import Correlator.Proofs.Budget
import Correlator.Proofs.ActiveSet
import Correlator.Proofs.Signals
import Correlator.Proofs.Callbacks
import Correlator.Proofs.Quiet
import Correlator.Proofs.Calm
import Correlator.Proofs.Broadcast
import Correlator.Proofs.Authentication
import Correlator.Proofs.Coupling
import Correlator.Proofs.InboundGate
import Correlator.Proofs.Discipline
import Correlator.Proofs.Attribution
import Correlator.Proofs.Continuity
import Correlator.Proofs.Visits
import Correlator.Proofs.Twins
import Correlator.Proofs.Lockstep
import Correlator.Proofs.Panics
import Correlator.Proofs.Renumbering
import Correlator.Proofs.Unison
import Correlator.Proofs.Selection
import Correlator.Proofs.Requests
import Correlator.Proofs.Endings
import Correlator.Proofs.Replies
import Correlator.Proofs.Accounts
import Correlator.Proofs.Errands
import Correlator.Proofs.Ledgers
import Correlator.Proofs.Readings
import Correlator.Proofs.Tandem
import Correlator.Proofs.FailedSends
import Correlator.Proofs.KeepNewest
import Correlator.Proofs.Grammar
import Correlator.Proofs.Fates
import Correlator.Proofs.Passages
import Correlator.Proofs.Overtaking
import Correlator.Proofs.Builds
import Correlator.Proofs.Legibility
import Correlator.Proofs.DefaultNames
import Correlator.Proofs.Outcomes
import Correlator.Proofs.Readiness
import Correlator.Proofs.Subscribers
import Correlator.Proofs.Teardown
import Correlator.Proofs.Separation
import Correlator.Proofs.Isolation
import Correlator.Proofs.Upkeep
import Correlator.Proofs.Indexes
import Correlator.Proofs.Validation
import Correlator.Proofs.References
import Correlator.Proofs.Reticence
import Correlator.Proofs.Reasons
import Correlator.Proofs.Goodbyes
import Correlator.Proofs.Countdown
import Correlator.Proofs.Fields
import Correlator.Proofs.Introductions
import Correlator.Proofs.Seals
import Correlator.Proofs.UnderSeal
import Correlator.Proofs.Secrecy
import Correlator.Proofs.Handshakes
import Correlator.Proofs.Calendar
import Correlator.Proofs.Digits
import Correlator.Proofs.Saturation
import Correlator.Proofs.Clock
import Correlator.Proofs.Codes
