import FleetWarden.Scenario
import FleetWarden.Manager.LoopScript
import FleetWarden.Main
import FleetWarden.Proofs.Cloud.Transcript
import FleetWarden.Proofs.Manager.LastRebuild
import FleetWarden.Proofs.Manager.FailedRebuild
import FleetWarden.Proofs.Manager.SameFleet
import FleetWarden.Proofs.Manager.StaleCache
import FleetWarden.Proofs.Membership.Questions
import FleetWarden.Proofs.Membership.Holdings
import FleetWarden.Proofs.Cloud.SteadySets
import FleetWarden.Proofs.Manager.ReadThrough
import FleetWarden.Proofs.Failures
import FleetWarden.Proofs.Manager.BlankIds
import FleetWarden.Proofs.Manager.SharedRebuilds
import FleetWarden.Proofs.Config.Kinds
import FleetWarden.Proofs.Config.Precedence
import FleetWarden.Proofs.Config.RoundTrip
import FleetWarden.Proofs.Manager.Lifecycle
import FleetWarden.Proofs.Startup.Opening
import FleetWarden.Proofs.Config.Intervals
import FleetWarden.Proofs.Startup.Secrecy
import FleetWarden.Proofs.CommandLine.Invocations
import FleetWarden.Proofs.Manager.TwoViews
import FleetWarden.Proofs.Manager.FailedStart
import FleetWarden.Proofs.Config.SavedFiles
import FleetWarden.Proofs.Fleet.Spellings
import FleetWarden.Proofs.CommandLine.Deleting
import FleetWarden.Proofs.Config.BadSaves
import FleetWarden.Proofs.Fleet.ResourceIds
import FleetWarden.Proofs.Manager.SettingSizes
import FleetWarden.Proofs.Cloud.Errands
import FleetWarden.Proofs.Config.Tightening
import FleetWarden.Proofs.Manager.RegistrationOrder
import FleetWarden.Proofs.Config.FleetLists
import FleetWarden.Proofs.CommandLine.BoundsWarnings
import FleetWarden.Proofs.CommandLine.UsageErrors
