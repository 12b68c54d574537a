import Mathlib

/-! What the scheduler is given and what it answers. A fact that was not observed is `none`; it never
counts as a fact that holds. -/

namespace Gputeer.Scheduler

inductive NodeState where
  | discovered | enrolling | enrollRejected | approved | online | suspect | unreachable | lost
  | recovering | draining | offline | quarantined | revoked | terminated
  deriving DecidableEq, Ord

inductive RiskState where
  | normal | suspect | quarantined | revoked
  deriving DecidableEq, Ord

inductive SecurityTier where
  | s0 | s1 | s2 | s3 | s4 | s5
  deriving DecidableEq, Ord

inductive IsolationClass where
  | restricted | contained | virtualized
  deriving DecidableEq, Ord

inductive KeyProtection where
  | k0 | k1 | k2
  deriving DecidableEq, Ord

inductive WorkloadClass where
  | training | inference | preprocessing | evaluation | rendering | other
  deriving DecidableEq, Ord

inductive SideEffectClass where
  | pure | idempotent | sideEffecting
  deriving DecidableEq, Ord

inductive Sensitivity where
  | «public» | internal | sensitive
  deriving DecidableEq, Ord

structure GpuSnapshot where
  gpuId : String
  healthy : Option Bool
  availableVramBytes : Option UInt64
  model : Option String
  deriving DecidableEq

structure CandidateReservation where
  attemptId : String
  expiredAtUnixMs : Option UInt64
  deriving DecidableEq

structure CandidateSnapshot where
  nodeId : String
  inventoryRevision : Option UInt64
  ownerMemberId : Option String
  nodeState : Option NodeState
  riskState : Option RiskState
  observedAtUnixMs : Option UInt64
  securityTier : Option SecurityTier
  isolationClass : Option IsolationClass
  keyProtection : Option KeyProtection
  gpus : Option (List GpuSnapshot)
  availableCpuCores : Option UInt32
  availableRamBytes : Option UInt64
  availableWorkspaceBytes : Option UInt64
  allowedWorkloadClasses : Option (Finset WorkloadClass)
  thirdPartyWorkloadsOptIn : Option Bool
  reservation : Option CandidateReservation
  lastHeartbeatUnixMs : Option UInt64
  gpuObservationMismatchAtUnixMs : Option UInt64
  deriving DecidableEq

structure JobRequirements where
  submitterMemberId : Option String
  workloadClass : Option WorkloadClass
  sideEffectClass : Option SideEffectClass
  sensitivity : Option Sensitivity
  minimumSecurityTier : Option SecurityTier
  minimumIsolationClass : Option IsolationClass
  minimumKeyProtection : Option KeyProtection
  minimumGpuCount : Option UInt32
  minimumVramBytesPerGpu : Option UInt64
  allowedGpuModels : List String
  cpuCores : Option UInt32
  ramBytes : Option UInt64
  workspaceBytes : Option UInt64
  deriving DecidableEq

structure PoolSnapshot where
  evaluatedAtUnixMs : UInt64
  candidates : List CandidateSnapshot
  deriving DecidableEq

structure Policy where
  maximumSnapshotAgeMs : UInt64
  silentAfterMs : Option UInt64
  deriving DecidableEq

inductive MissingFact where
  | nodeId | nodeState | riskState | observedAt | securityTier | isolationClass | keyProtection
  | ownerMemberId | gpuInventory
  | gpuHealth (gpuId : String)
  | gpuVram (gpuId : String)
  | gpuModel (gpuId : String)
  | availableCpu | availableRam | availableWorkspace | allowedWorkloadClasses | thirdPartyOptIn
  | jobSubmitterMemberId | jobWorkloadClass | jobSideEffectClass | jobSensitivity
  | jobMinimumSecurityTier | jobMinimumIsolationClass | jobMinimumKeyProtection
  | jobMinimumGpuCount | jobMinimumVram | jobCpu | jobRam | jobWorkspace
  deriving DecidableEq, Ord

inductive RejectionReason where
  | missingFact (fact : MissingFact)
  | notLiveEnough (lastHeartbeatUnixMs : Option UInt64) (silentAfterMs : UInt64)
  | alreadyReserved (attemptId : String) (expiredAtUnixMs : Option UInt64)
  | nodeNotOnline (actual : NodeState)
  | riskNotNormal (actual : RiskState)
  | snapshotNotFresh (observedAtUnixMs evaluatedAtUnixMs maximumAgeMs : UInt64)
  | gpuObservationMismatch (mismatchAtUnixMs : UInt64)
  | securityTierTooLow (available required : SecurityTier)
  | isolationClassTooLow (available required : IsolationClass)
  | keyProtectionTooLow (available required : KeyProtection)
  | gpuCountInsufficient (available required : UInt32)
  | healthyGpuCountInsufficient (available required : UInt32)
  | gpuModelMismatch (matching required : UInt32) (allowed : List String)
  | gpuVramInsufficient (matching required : UInt32) (minimumBytes : UInt64)
  | cpuInsufficient (available required : UInt32)
  | ramInsufficient (available required : UInt64)
  | workspaceInsufficient (available required : UInt64)
  | workloadClassNotAllowed (workloadClass : WorkloadClass)
  | thirdPartyJobForbiddenOnS0
  | thirdPartyOptInRequiredOnRestrictedIsolation
  | thirdPartyJobMustBePureOnRestrictedIsolation (actual : SideEffectClass)
  | thirdPartySensitiveDataForbiddenOnRestrictedIsolation
  deriving DecidableEq, Ord

structure EligibleCandidate where
  nodeId : String
  deriving DecidableEq, Ord

structure RejectedCandidate where
  nodeId : String
  reasons : List RejectionReason
  deriving DecidableEq, Ord

inductive EligibilityResolution where
  | noEligibleCandidates
  | singleEligible (nodeId : String)
  | rankingRequired
  deriving DecidableEq

structure EligibilityReport where
  eligible : List EligibleCandidate
  rejected : List RejectedCandidate
  resolution : EligibilityResolution
  deriving DecidableEq

inductive FitAxis where
  | vram | gpuCount | cpu | ram | workspace
  deriving DecidableEq, Ord

structure BestFitPolicy where
  axisOrder : Vector FitAxis 5
  deriving DecidableEq

structure FitKey where
  vramRemainingBytes : UInt64
  gpuCountRemaining : UInt32
  cpuCoresRemaining : UInt32
  ramRemainingBytes : UInt64
  workspaceRemainingBytes : UInt64
  deriving DecidableEq

structure ResourceFit where
  fitKey : FitKey
  selectedGpuIds : List String
  deriving DecidableEq

structure RankedCandidate where
  nodeId : String
  fitKey : FitKey
  selectedGpuIds : List String
  deriving DecidableEq

structure BestFitRanking where
  winner : RankedCandidate
  ranked : List RankedCandidate
  deriving DecidableEq

inductive RankingError where
  | invalidPolicyAxisOrder
  | resolutionNotRankingRequired
  | eligibleCandidateCountNotMultiple (actual : Nat)
  | emptyNodeId
  | duplicatePoolNodeId (nodeId : String)
  | duplicateReportNodeId (nodeId : String)
  | reportCandidateMissingFromPool (nodeId : String)
  | poolCandidateMissingFromReport (nodeId : String)
  | emptyGpuId (nodeId : String)
  | duplicateGpuId (nodeId gpuId : String)
  | missingRankFact (nodeId : Option String) (fact : MissingFact)
  | eligibleCandidateMismatch (nodeId : String) (axis : FitAxis)
  | selectedGpuCountMismatch (nodeId : String) (required : UInt32) (actual : Nat)
  | fitOverflow (nodeId : String) (axis : FitAxis)
  deriving DecidableEq

end Gputeer.Scheduler
