import Mathlib

/-! The protocol buffer messages that are signed, with the messages nested in them. An enumeration
is its number on the wire; an absent nested message is `none`. -/

namespace Gputeer.Protocol

structure Digest where
  algo : Int32
  value : List UInt8
  deriving DecidableEq

structure CheckpointFile where
  path : String
  digest : Option Digest
  sizeBytes : UInt64
  chunkDigests : List Digest
  chunkSizeBytes : UInt32
  deriving DecidableEq

structure ResumeCompleteness where
  modelWeights : Bool
  optimizerState : Bool
  lrSchedulerState : Bool
  rngState : Bool
  samplerPosition : Bool
  dataloaderPosition : Bool
  ampScalerState : Bool
  fullResumeGuaranteed : Bool
  deriving DecidableEq

structure CheckpointManifest where
  schemaVersion : UInt32
  checkpointId : String
  jobId : String
  attemptId : String
  step : UInt64
  epoch : UInt64
  files : List CheckpointFile
  rootDigest : Option Digest
  totalBytes : UInt64
  completeness : Option ResumeCompleteness
  createdAtUnixMs : UInt64
  producerNodeId : String
  fenceEpoch : UInt64
  producerSignature : List UInt8
  deriving DecidableEq, Inhabited

structure ReplicaAck where
  schemaVersion : UInt32
  checkpointId : String
  rootDigest : Option Digest
  holderDeviceId : String
  kind : Int32
  failureDomain : String
  fsynced : Bool
  hashVerified : Bool
  storedBytes : UInt64
  ackedAtUnixMs : UInt64
  holderSignature : List UInt8
  deriving DecidableEq

structure ArtifactRef where
  schemaVersion : UInt32
  artifactId : String
  jobId : String
  attemptId : String
  kind : Int32
  digest : Option Digest
  sizeBytes : UInt64
  casPath : String
  replicas : List ReplicaAck
  createdAtUnixMs : UInt64
  fenceEpoch : UInt64
  producerSignature : List UInt8
  deriving DecidableEq

structure ReportedMetric where
  name : String
  valueMicro : Int64
  higherIsBetter : Bool
  deriving DecidableEq

structure AttemptReport where
  schemaVersion : UInt32
  jobId : String
  attemptId : String
  nodeId : String
  fenceEpoch : UInt64
  outcome : Int32
  finalStep : UInt64
  startedAtUnixMs : UInt64
  finishedAtUnixMs : UInt64
  exitObservation : Int32
  exitCode : UInt32
  finalizationFailureStage : Int32
  artifacts : List ArtifactRef
  finalCheckpoint : Option CheckpointManifest
  metrics : List ReportedMetric
  issuedAtUnixMs : UInt64
  nodeSignature : List UInt8
  deriving DecidableEq

structure CanonicalDecision where
  schemaVersion : UInt32
  jobId : String
  chosenAttemptId : String
  supersededAttemptIds : List String
  decidingCriterion : Int32
  rationale : String
  fenceEpoch : UInt64
  decidedAtUnixMs : UInt64
  coordinatorSignature : List UInt8

structure ProgressReport where
  currentStep : UInt64
  totalSteps : UInt64
  etaSeconds : UInt64
  lastCommittedStep : UInt64
  replicationBacklogBytes : UInt64

structure RenewLeaseRequest where
  schemaVersion : UInt32
  leaseId : String
  fenceEpoch : UInt64
  nodeId : String
  progress : Option ProgressReport
  issuedAtUnixMs : UInt64
  nonce : List UInt8
  unreachableUntilUnixMs : UInt64
  nodeSignature : List UInt8

structure ResourceScope where
  gpuUuids : List String
  cpuCores : UInt32
  ramBytes : UInt64
  workspaceBytes : UInt64
  writablePrefixes : List String

structure Lease where
  schemaVersion : UInt32
  leaseId : String
  jobId : String
  attemptId : String
  fenceEpoch : UInt64
  coordinatorTerm : UInt64
  holderNodeId : String
  memberNodeIds : List String
  issuingCoordinatorId : String
  issuedAtUnixMs : UInt64
  expiresAtUnixMs : UInt64
  renewAfterUnixMs : UInt64
  maxTotalDurationSeconds : UInt32
  reassignmentGraceMs : UInt64
  scope : Option ResourceScope
  coordinatorSignature : List UInt8

structure RenewLeaseResult where
  outcome : Int32
  lease : Option Lease
  detail : String
  retryAfterMs : UInt32
  schemaVersion : UInt32
  coordinatorId : String
  issuedAtUnixMs : UInt64
  requestNonce : List UInt8
  coordinatorSignature : List UInt8

structure AttemptReportAck where
  schemaVersion : UInt32
  jobId : String
  attemptId : String
  nodeId : String
  fenceEpoch : UInt64
  reportHash : Option Digest
  created : Bool
  coordinatorId : String
  issuedAtUnixMs : UInt64
  sessionNonce : List UInt8
  coordinatorSignature : List UInt8

structure GrantAckReceipt where
  schemaVersion : UInt32
  grantId : String
  attemptId : String
  agentDeviceId : String
  ackNonce : List UInt8
  coordinatorDeviceId : String
  issuedAtUnixMs : UInt64
  nonce : List UInt8
  coordinatorSignature : List UInt8

structure ObservedGpu where
  uuid : String
  model : String
  totalVramBytes : UInt64

structure NodeGpuObservation where
  observedAtUnixMs : UInt64
  gpus : List ObservedGpu

structure AgentSessionHello where
  schemaVersion : UInt32
  mode : Int32
  sessionId : String
  nodeId : String
  connectionAttempt : UInt32
  issuedAtUnixMs : UInt64
  nonce : List UInt8
  gpuObservation : Option NodeGpuObservation
  nodeSignature : List UInt8

structure ResumeLeaseRequest where
  schemaVersion : UInt32
  leaseId : String
  jobId : String
  attemptId : String
  nodeId : String
  fenceEpoch : UInt64
  sessionId : String
  connectionAttempt : UInt32
  issuedAtUnixMs : UInt64
  requestNonce : List UInt8
  nodeSignature : List UInt8

structure ResumeLeaseResult where
  outcome : Int32
  lease : Option Lease
  detail : String
  retryAfterMs : UInt32
  schemaVersion : UInt32
  coordinatorId : String
  issuedAtUnixMs : UInt64
  requestNonce : List UInt8
  coordinatorSignature : List UInt8

structure RevokeLeaseNotice where
  schemaVersion : UInt32
  leaseId : String
  fenceEpoch : UInt64
  cause : Int32
  issuedAtUnixMs : UInt64
  coordinatorSignature : List UInt8

structure CudaRequirement where
  minDriverVersion : UInt32
  cudaRuntimeVersion : String
  computeCapabilities : List String
  deriving DecidableEq

structure TarballPolicy where
  rejectPathTraversal : Bool
  rejectLinks : Bool
  maxExtractedBytes : UInt64
  deriving DecidableEq

structure ExecutionEnvironment where
  kind : Int32
  imageRef : String
  imageDigest : Option Digest
  ociSourceDigest : Option Digest
  baseRuntime : String
  lockDigest : Option Digest
  lockContent : List UInt8
  lockCasRef : Option Digest
  os : String
  arch : String
  minLibcVersion : String
  cuda : Option CudaRequirement
  codeDigest : Option Digest
  tarballPolicy : Option TarballPolicy
  deriving DecidableEq

structure DatasetRef where
  rootDigest : Option Digest
  totalBytes : UInt64
  sensitivity : Int32
  retention : Int32
  encryptedAtRest : Bool
  displayName : String
  deriving DecidableEq

structure GpuRequest where
  minVramBytes : UInt64
  minCount : UInt32
  cuda : Option CudaRequirement
  allocationMode : Int32
  allowedGpuModels : List String
  deriving DecidableEq

structure ResourceRequest where
  gpu : Option GpuRequest
  cpuCores : UInt32
  ramBytes : UInt64
  workspaceBytes : UInt64
  maxEgressBps : UInt64
  deriving DecidableEq

structure WorkloadHint where
  workloadClass : Int32
  estimatedSteps : UInt64
  refStepTimeMs : UInt32
  refGpuModel : String
  modelParams : UInt64
  estCheckpointBytes : UInt64
  estPeakVramBytes : UInt64
  deriving DecidableEq

structure NetworkPolicy where
  stagingAllowHosts : List String
  runtimeAllowHosts : List String
  mediatedDns : Bool
  deriving DecidableEq

structure ArtifactScope where
  writablePrefixes : List String
  readablePrefixes : List String
  deriving DecidableEq

structure JobManifest where
  schemaVersion : UInt32
  jobId : String
  teamId : String
  env : Option ExecutionEnvironment
  inputArtifacts : List Digest
  dataset : Option DatasetRef
  entrypoint : String
  args : List String
  envVars : Std.ExtTreeMap String String
  resources : Option ResourceRequest
  workload : Option WorkloadHint
  deadlineMinutes : UInt32
  preference : Int32
  maxQueueMinutes : UInt32
  checkpointIntervalMinutes : UInt32
  durability : Int32
  onPartition : Int32
  maxDataLossMinutes : UInt32
  minimumIsolationClass : Int32
  minimumSecurityTier : Int32
  minimumKeyProtection : Int32
  sideEffectClass : Int32
  network : Option NetworkPolicy
  artifactScope : Option ArtifactScope
  acknowledgeDuplicateRisk : Bool
  submitterDeviceId : String
  issuedAtUnixMs : UInt64
  expiresAtUnixMs : UInt64
  submitterSignature : List UInt8
  deriving DecidableEq

structure PeerHint where
  nodeId : String
  peerId : String
  multiaddrs : List String
  knownDigests : List Digest

structure EphemeralCredential where
  credentialId : String
  token : List UInt8
  expiresAtUnixMs : UInt64
  allowedEndpoints : List String

structure RejectedCandidate where
  nodeId : String
  reason : Int32
  detail : String

structure PlacementRationale where
  tEstSeconds : UInt64
  sigmaLnPpm : UInt64
  stage : Int32
  pWithinEstimatePpm : UInt64
  pSurvivalPpm : UInt64
  pSuccessPpm : UInt64
  targetConfidencePpm : UInt64
  isExploration : Bool
  rejected : List RejectedCandidate

structure GrantedExecutionPlan where
  mode : Int32
  gpuAllocation : Int32
  assignedGpuUuids : List String
  remoteReplicationIntervalMinutes : UInt32
  effectiveDurability : Int32
  rationale : Option PlacementRationale

structure ExecutionGrant where
  schemaVersion : UInt32
  grantId : String
  manifest : Option JobManifest
  manifestHash : Option Digest
  attemptId : String
  lease : Option Lease
  peers : List PeerHint
  creds : Option EphemeralCredential
  plan : Option GrantedExecutionPlan
  coordinatorDeviceId : String
  coordinatorTerm : UInt64
  issuedAtUnixMs : UInt64
  expiresAtUnixMs : UInt64
  nonce : List UInt8
  leaseFromDurableStore : Bool
  resumeFrom : Option CheckpointManifest
  poolMode : Bool
  coordinatorSignature : List UInt8

structure AgentGrantAck where
  schemaVersion : UInt32
  grantId : String
  attemptId : String
  agentDeviceId : String
  issuedAtUnixMs : UInt64
  expiresAtUnixMs : UInt64
  nonce : List UInt8
  accepted : Bool
  agentSignature : List UInt8

structure NeighborUnreachableReport where
  schemaVersion : UInt32
  reporterNodeId : String
  reporterDeviceId : String
  unreachableNodeId : String
  coordinatorDeviceId : String
  observedAtUnixMs : UInt64
  requestNonce : List UInt8
  reporterSignature : List UInt8

structure NodeHeartbeat where
  schemaVersion : UInt32
  nodeId : String
  deviceId : String
  coordinatorDeviceId : String
  issuedAtUnixMs : UInt64
  fenceEpoch : UInt64
  runningAttempts : UInt32
  requestNonce : List UInt8
  nodeSignature : List UInt8

end Gputeer.Protocol
