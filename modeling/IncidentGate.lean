import IncidentGate.Lib.ScriptTree
import IncidentGate.Lib.RowLock
import IncidentGate.Lib.RowLockLogic
import IncidentGate.Lib.RowLockAlone
import IncidentGate.Lib.RowLockTrace
import IncidentGate.Lib.RowLockPart
import IncidentGate.Lib.RowLockEnds
import IncidentGate.Lib.Interleaving
import IncidentGate.Lib.Digest
import IncidentGate.Lib.JsonText
import IncidentGate.Lib.JsonRead
import IncidentGate.Lib.CodeText
import IncidentGate.Lib.TextPattern
import IncidentGate.Contracts
import IncidentGate.Fixtures
import IncidentGate.Tables
import IncidentGate.Refusals
import IncidentGate.Kernel
import IncidentGate.Specs
import IncidentGate.Repository
import IncidentGate.RowLocks
import IncidentGate.Delivery
import IncidentGate.Outcomes
import IncidentGate.SingleUse
import IncidentGate.Redelivery
import IncidentGate.T4Calls
import IncidentGate.HonestT4
import IncidentGate.Concurrent
import IncidentGate.Denial
import IncidentGate.CommitSteps
import IncidentGate.LedgerReaders
import IncidentGate.Invocations
import IncidentGate.SabotageRows
import IncidentGate.SabotageV3
import IncidentGate.SabotageV4
import IncidentGate.PublishedCells
import IncidentGate.EndStates
import IncidentGate.PlannedCheckers
import IncidentGate.SabotageCheckers
import IncidentGate.CheckerMeaning
import IncidentGate.EndDiff
import IncidentGate.HashRebinding
import IncidentGate.Provenance
import IncidentGate.ResponseCache
import IncidentGate.WriteOnce
import IncidentGate.CacheReplay
import IncidentGate.SpendMeter
import IncidentGate.ProposerPrompt
import IncidentGate.ModelProposal
import IncidentGate.Identities
import IncidentGate.Policy
import IncidentGate.EpisodeOrdering
import IncidentGate.CovertOutcomes
import IncidentGate.MonitorInputs
import IncidentGate.MonitorWiring
import IncidentGate.Withheld
import IncidentGate.ShownFacts
import IncidentGate.DeferredCapture
import IncidentGate.ObserveOnly
import IncidentGate.RecoveryVerifier
import IncidentGate.Scenes
import IncidentGate.CallEnds
import IncidentGate.SceneLedger
import IncidentGate.T8History
import IncidentGate.T4Record
import IncidentGate.Lib.Checkpoint
import IncidentGate.Lib.Beside
import IncidentGate.Workflow
import IncidentGate.WorkflowGates
import IncidentGate.MonitorBoundary
import IncidentGate.EpisodeGraph
import IncidentGate.EpisodeAttempts
import IncidentGate.EpisodeTranscripts
import IncidentGate.EpisodeCalls
import IncidentGate.EpisodeAuthorizations
