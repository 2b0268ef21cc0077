import ClockOrchestrator.Domain.Locality
import ClockOrchestrator.Policy.CommandEffect
import ClockOrchestrator.Clock.SyncTransaction
import ClockOrchestrator.Guarantees.EvaluationTotality
import ClockOrchestrator.Guarantees.RoomMatching
import ClockOrchestrator.Guarantees.IntentVersions
import ClockOrchestrator.Guarantees.OverrideOrder
import ClockOrchestrator.Guarantees.OverrideEnd
import ClockOrchestrator.Clock.StayHistory
import ClockOrchestrator.Guarantees.SyncFreshness
import ClockOrchestrator.Domain.EvaluationInput
import ClockOrchestrator.Clock.RecordedStays
import ClockOrchestrator.Guarantees.AffectedRooms
import ClockOrchestrator.Outbox.Service
import ClockOrchestrator.Outbox.Workers
import ClockOrchestrator.Guarantees.TopicOrder
import ClockOrchestrator.Guarantees.PublishedFinal
import ClockOrchestrator.Guarantees.RegistryRollout
import ClockOrchestrator.Domain.EvaluationCases
import ClockOrchestrator.Guarantees.ValidityWindow
import ClockOrchestrator.Guarantees.CheckedInGuest
import ClockOrchestrator.Guarantees.RowOrder
import ClockOrchestrator.Persistence.Announcements
import ClockOrchestrator.Clock.RoomLogs
import ClockOrchestrator.Clock.EvaluationEffect
import ClockOrchestrator.RoomHistory
import ClockOrchestrator.Guarantees.EventLog
import ClockOrchestrator.Guarantees.ControlState
import ClockOrchestrator.Guarantees.GuestOverride
import ClockOrchestrator.G301Adapter.Planner
import ClockOrchestrator.Support.Procedure
import ClockOrchestrator.G301Adapter.Worker
import ClockOrchestrator.G301Adapter.PlanFacts
import ClockOrchestrator.G301Adapter.AttemptMachine
import ClockOrchestrator.G301Adapter.AttemptEvidence
import ClockOrchestrator.G301Adapter.WorkerSteps
import ClockOrchestrator.G301Adapter.WorkerCalls
import ClockOrchestrator.G301Adapter.WorkerHistory
import ClockOrchestrator.Guarantees.Watermarks
import ClockOrchestrator.Guarantees.NoBlindRewrite
import ClockOrchestrator.Guarantees.AppliedProof
import ClockOrchestrator.Guarantees.OverrideDuration
import ClockOrchestrator.Guarantees.TargetBounds
import ClockOrchestrator.Guarantees.OutboxRecovery
import ClockOrchestrator.Clock.CursorStore
import ClockOrchestrator.Clock.Poll
import ClockOrchestrator.Support.WindowChain
import ClockOrchestrator.Guarantees.SyncWindows
import ClockOrchestrator.G301Adapter.WriteRuns
import ClockOrchestrator.Guarantees.SwitchOn
import ClockOrchestrator.G301Adapter.SlaveCoupling
import ClockOrchestrator.G301Adapter.CallCoupling
import ClockOrchestrator.Guarantees.RoomIndependence
import ClockOrchestrator.Guarantees.StoredBookings
import ClockOrchestrator.Guarantees.Reapplication
import ClockOrchestrator.Guarantees.Suppression
import ClockOrchestrator.Guarantees.CommandAtomicity
import ClockOrchestrator.Guarantees.FieldCommands
import ClockOrchestrator.G301Adapter.CallShapes
import ClockOrchestrator.G301Adapter.CallEndings
import ClockOrchestrator.Guarantees.Refusals
import ClockOrchestrator.Guarantees.Cooldown
import ClockOrchestrator.G301Adapter.Simulator
import ClockOrchestrator.Guarantees.DelayedDevice
import ClockOrchestrator.Outbox.RowMoves
import ClockOrchestrator.Guarantees.RetryBudget
import ClockOrchestrator.Python.Json
import ClockOrchestrator.Python.JsonText
import ClockOrchestrator.Clock.Normalizer
import ClockOrchestrator.Clock.PayloadHash
import ClockOrchestrator.Guarantees.HashCoverage
import ClockOrchestrator.Guarantees.GuestData
import ClockOrchestrator.Guarantees.PhaseOrder
import ClockOrchestrator.Policy.Commands
import ClockOrchestrator.Guarantees.ManualCommands
import ClockOrchestrator.Clock.Rest
import ClockOrchestrator.Support.Exhaustion
import ClockOrchestrator.Guarantees.PollTermination
import ClockOrchestrator.Mqtt.Discovery
import ClockOrchestrator.Support.SuffixCode
import ClockOrchestrator.Guarantees.DiscoveryIdentity
import ClockOrchestrator.Support.Contract
import ClockOrchestrator.Support.Simulation
import ClockOrchestrator.G301Adapter.BusSimulation
import ClockOrchestrator.G301Adapter.UnfailingBus
import ClockOrchestrator.G301Adapter.EntranceSimulator
import ClockOrchestrator.Guarantees.UnitsAlone
import ClockOrchestrator.Guarantees.ShownState
import ClockOrchestrator.Guarantees.NewestPrevails
import ClockOrchestrator.Guarantees.PlanReadback
import ClockOrchestrator.Mqtt.Client
import ClockOrchestrator.Python.DictIterator
import ClockOrchestrator.Mqtt.Session
import ClockOrchestrator.Guarantees.CommandRouting
import ClockOrchestrator.Guarantees.CommandObeyed
import ClockOrchestrator.TransactionWrites
import ClockOrchestrator.Guarantees.StoreSchema
import ClockOrchestrator.Support.RankedQueue
import ClockOrchestrator.Outbox.Backlog
import ClockOrchestrator.Outbox.Round
import ClockOrchestrator.Guarantees.OutboxDrains
import ClockOrchestrator.Outbox.Arrivals
import ClockOrchestrator.Site
import ClockOrchestrator.Guarantees.RetainedDocuments
import ClockOrchestrator.Support.RankedGroups
import ClockOrchestrator.System.State
import ClockOrchestrator.Guarantees.SystemReport
import ClockOrchestrator.Guarantees.PlannableIntents
import ClockOrchestrator.Dashboard.Generator
import ClockOrchestrator.Guarantees.DashboardEntities
import ClockOrchestrator.Support.BitWord
import ClockOrchestrator.Guarantees.RegisterFormats
