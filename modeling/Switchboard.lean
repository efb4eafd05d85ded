import Switchboard.Task.Guard
import Switchboard.Task.Run
import Switchboard.TypeName.Expression
import Switchboard.Layer.Stock
import Switchboard.Board
import Switchboard.Text.Blank
import Switchboard.Json
import Switchboard.Json.Skip
import Switchboard.Settings.Document
import Switchboard.Settings.Variables
import Switchboard.Telemetry.Options
import Switchboard.Meter.Exposition
import Switchboard.Scripted.TypeTable
import Switchboard.Scripted.Run
import Switchboard.Scripted.Startup
import Switchboard.Proofs.FanOut
import Switchboard.Proofs.NestedCalls
import Switchboard.Proofs.Cancellation
import Switchboard.Proofs.FeedPools
import Switchboard.Proofs.Cabinet
import Switchboard.Proofs.Boxes
import Switchboard.Proofs.Continuations
import Switchboard.Proofs.Isolation
import Switchboard.Proofs.Strays
import Switchboard.Proofs.Misfits
import Switchboard.Proofs.Responses
import Switchboard.Proofs.BuildPhase
import Switchboard.Proofs.OwnEffects
import Switchboard.Proofs.Confinement
import Switchboard.Proofs.Reports
import Switchboard.Proofs.Questions
import Switchboard.Proofs.Metering
import Switchboard.Proofs.LenientFanOut
import Switchboard.Proofs.Reordering
import Switchboard.Proofs.FixedSchedules
import Switchboard.Proofs.TwoPolicies
import Switchboard.Proofs.Gist
import Switchboard.Proofs.Onlookers
import Switchboard.Proofs.WatchedBoards
import Switchboard.Proofs.Passes
import Switchboard.Proofs.Balance
import Switchboard.Proofs.Conservation
import Switchboard.Proofs.Conversations
import Switchboard.Proofs.Passages
import Switchboard.Proofs.Brackets
import Switchboard.Proofs.Conduits
import Switchboard.Proofs.NestedSends
import Switchboard.Proofs.Origins
import Switchboard.Proofs.Retries
import Switchboard.Proofs.Bundles
import Switchboard.Proofs.Polls
import Switchboard.Proofs.FaultStacks
import Switchboard.Proofs.WrittenJson
import Switchboard.Proofs.Skipping
import Switchboard.Proofs.ReadingPages
import Switchboard.Proofs.SettingsPages
import Switchboard.Proofs.SettingsContents
import Switchboard.Proofs.PolicyTexts
import Switchboard.Proofs.NameOffsets
import Switchboard.Proofs.BalancedNames
import Switchboard.Proofs.Counting
import Switchboard.Proofs.Ordinals
import Switchboard.Proofs.Distances
