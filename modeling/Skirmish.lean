import Skirmish.Ordered.Table
import Skirmish.Map.Disk
import Skirmish.Map.Layout
import Skirmish.World.Resources
import Skirmish.Document.Json.Parser
import Skirmish.Document.Json.Printer
import Skirmish.Document.Reading
import Skirmish.World.Document
import Skirmish.Error
import Skirmish.Order.Place
import Skirmish.Roster.Capability
import Skirmish.Roster.Basic
import Skirmish.Order.Book
import Skirmish.Order.Execution
import Skirmish.Strategy.Loading
import Skirmish.Strategy.Opening
import Skirmish.Roster.Document
import Skirmish.Order.Document
import Skirmish.Document.Toml.Parser
import Skirmish.Strategy.Document
import Skirmish.Config
import Skirmish.Map.Loading
import Skirmish.World.Loading
import Skirmish.Session.Step
import Skirmish.Session.Events
import Skirmish.Session.Strategy
import Skirmish.CommandLine.Run
import Skirmish.Main
import Skirmish.Proofs.Ordered.Least
import Skirmish.Proofs.World.Relisting
import Skirmish.Proofs.World.Nearest
import Skirmish.Proofs.Roster.Duty
import Skirmish.Proofs.Roster.Listing
import Skirmish.Proofs.Roster.Role
import Skirmish.Proofs.Order.Book
import Skirmish.Proofs.Order.Chain
import Skirmish.Proofs.Order.Execution
import Skirmish.Proofs.Order.OneAgent
import Skirmish.Proofs.Order.InPlace
import Skirmish.Proofs.Order.Lock
import Skirmish.Proofs.Order.Filing
import Skirmish.Proofs.Strategy.Threshold
import Skirmish.Proofs.Strategy.WellFormed
import Skirmish.Proofs.Strategy.Faults
import Skirmish.Proofs.Strategy.Loading
import Skirmish.Proofs.Strategy.Assembly
import Skirmish.Proofs.Session.Run
import Skirmish.Proofs.Session.Tick
import Skirmish.Proofs.Session.Reachable
import Skirmish.Proofs.Session.Linked
import Skirmish.Proofs.Session.CrossReference
import Skirmish.Proofs.Session.Exclusivity
import Skirmish.Proofs.Session.LastCommand
import Skirmish.Proofs.Session.Relisting
import Skirmish.Proofs.Session.IdlePhase
import Skirmish.Proofs.Session.Continuity
import Skirmish.Proofs.Session.SingleUse
import Skirmish.Proofs.Session.FollowUp
import Skirmish.Proofs.Session.Builders
import Skirmish.Proofs.Session.Loading
import Skirmish.Proofs.Session.Acceptance
import Skirmish.Proofs.Session.Failure
import Skirmish.Proofs.Session.GasCrew
import Skirmish.Proofs.Session.Account
import Skirmish.Proofs.Session.Steady
import Skirmish.Proofs.Session.Numbering
import Skirmish.Proofs.Session.Intents
import Skirmish.Proofs.Session.Roles
import Skirmish.Proofs.Order.BothWays
import Skirmish.Proofs.Session.Allegiance
import Skirmish.Proofs.Map.Bases
import Skirmish.Proofs.Session.Bases
import Skirmish.Proofs.Roster.Identity
import Skirmish.Proofs.Session.Lifecycle
import Skirmish.Proofs.Order.Aim
import Skirmish.Proofs.Order.NearestBuilder
import Skirmish.Proofs.Order.FreeUnits
import Skirmish.Proofs.Order.EachAgent
import Skirmish.Proofs.Session.Replay
import Skirmish.Proofs.CommandLine.Simulate
import Skirmish.Proofs.Roster.Membership
import Skirmish.Proofs.Order.Draws
import Skirmish.Proofs.Order.Effect
import Skirmish.Proofs.Order.GasPlacement
import Skirmish.Proofs.Session.NearestMiners
import Skirmish.Proofs.Number.Rounding
import Skirmish.Proofs.Number.Single
import Skirmish.Proofs.Number.Reading
import Skirmish.Proofs.Number.TotalOrder
import Skirmish.Proofs.Document.Numeral
import Skirmish.Proofs.Document.Parse
import Skirmish.Proofs.Document.RoundTrip
import Skirmish.Proofs.World.Lookup
import Skirmish.Proofs.Config
import Skirmish.Proofs.Order.Pairing
import Skirmish.Proofs.Session.Pairing
