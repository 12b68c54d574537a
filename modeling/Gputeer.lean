import Gputeer.Agent.AttemptLife
import Gputeer.Agent.ContainerSandbox
import Gputeer.Agent.DisconnectWatch
import Gputeer.Agent.HeldLease
import Gputeer.Agent.HostCheck
import Gputeer.Agent.LedgerLife
import Gputeer.Agent.NearFinish
import Gputeer.Agent.OutboxSafety
import Gputeer.Agent.PauseTruth
import Gputeer.Agent.PublisherRuns
import Gputeer.Agent.RunLedgerSound
import Gputeer.Checkpoint.ConfirmedResume
import Gputeer.Checkpoint.CrashConsistency
import Gputeer.Checkpoint.FailureDomains
import Gputeer.Checkpoint.HexDigests
import Gputeer.Checkpoint.ReplicaSet
import Gputeer.Checkpoint.Republication
import Gputeer.Checkpoint.ResumeOrder
import Gputeer.Checkpoint.StoredNames
import Gputeer.Checkpoint.WriteOnce
import Gputeer.Cli.AgentLoop
import Gputeer.Coordinator.AttestationOrder
import Gputeer.Coordinator.CheckpointEvidence
import Gputeer.Coordinator.DeclarationMatching
import Gputeer.Coordinator.ImportBootstrap
import Gputeer.Coordinator.InventoryPayload
import Gputeer.Coordinator.InventoryReadBack
import Gputeer.Coordinator.InventoryRefinement
import Gputeer.Coordinator.InventoryRows
import Gputeer.Coordinator.LeaseTerms
import Gputeer.Coordinator.LivenessAgreement
import Gputeer.Coordinator.PlacementRetries
import Gputeer.Coordinator.Promises
import Gputeer.Coordinator.QueueTime
import Gputeer.Coordinator.QueueTimeout
import Gputeer.Coordinator.ReportConvergence
import Gputeer.Coordinator.RowAgreement
import Gputeer.Coordinator.UnstartedRuns
import Gputeer.Crypto.FramedIngress
import Gputeer.Crypto.KeyringFrame
import Gputeer.Crypto.KeyringRotation
import Gputeer.Crypto.KeyringRoundTrip
import Gputeer.Crypto.ReplayQuota
import Gputeer.Crypto.ReplayRefinement
import Gputeer.Crypto.ReplayWindow
import Gputeer.Lib.Delimited
import Gputeer.Lib.Transaction
import Gputeer.Protocol.CanonicalMeaning
import Gputeer.Protocol.ChunkPinning
import Gputeer.Protocol.FencedOperation
import Gputeer.Protocol.Membership
import Gputeer.Protocol.Nonce
import Gputeer.Protocol.SignaturePins
import Gputeer.Protocol.VarintCodec
import Gputeer.Protocol.WatchContinuity
import Gputeer.RuntimePolicy.ArtifactPolicy
import Gputeer.RuntimePolicy.LeaseScope
import Gputeer.RuntimeWindows.CommandLine
import Gputeer.Scheduler.FitAgreement
import Gputeer.Scheduler.LivenessOrder
import Gputeer.Scheduler.RankOrder
import Gputeer.Scheduler.ReassignmentChain
import Gputeer.Scheduler.ScopeAgreement
import Gputeer.Scheduler.Silence
import Gputeer.Scheduler.Unmet
