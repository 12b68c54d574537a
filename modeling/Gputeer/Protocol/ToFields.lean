import Gputeer.Protocol.Canonical
import Gputeer.Protocol.Messages

/-! From a message to the fields its signature covers. The signature itself (field 90) and the
derived hash of a grant are left out. -/

namespace Gputeer.Protocol

/-- What one `put_` call sets, if anything. -/
structure Put where
  number : UInt32
  value : Option Value

def Fields.put (fields : Fields) (put : Put) : Fields :=
  match put.value with
  | none => fields
  | some value => Fields.set put.number value fields

/-- The `put_` calls of a message in order. -/
class ToCanonicalFields (M : Type) where
  puts : M → List Put

def toCanonicalFields {M : Type} [ToCanonicalFields M] (m : M) : Fields :=
  (ToCanonicalFields.puts m).foldl Fields.put []

def putUint (number : UInt32) (value : UInt64) : Put :=
  ⟨number, if value ≠ 0 then some (.uint value) else none⟩

def putInt (number : UInt32) (value : Int64) : Put :=
  ⟨number, if value ≠ 0 then some (.int value) else none⟩

def putBool (number : UInt32) (value : Bool) : Put :=
  ⟨number, if value then some (.bool true) else none⟩

def putStr (number : UInt32) (text : String) : Put :=
  ⟨number, if text ≠ "" then some (.str text) else none⟩

def putBytes (number : UInt32) (content : List UInt8) : Put :=
  ⟨number, if content ≠ [] then some (.bytes content) else none⟩

def putRepeatedStr (number : UInt32) (items : List String) : Put :=
  ⟨number, if items ≠ [] then some (.repeatedStr items) else none⟩

def putMap (number : UInt32) (entries : Std.ExtTreeMap String String) : Put :=
  ⟨number, if entries.isEmpty then none else some (.mapStrStr entries)⟩

def putMsg {M : Type} [ToCanonicalFields M] (number : UInt32) (value : Option M) : Put :=
  ⟨number, value.bind fun inner =>
    if (toCanonicalFields inner).isEmpty then none
    else some (.message (toCanonicalFields inner))⟩

def putRepeatedMsg {M : Type} [ToCanonicalFields M] (number : UInt32) (items : List M) : Put :=
  ⟨number, if items.isEmpty then none
    else some (.repeatedMessage (items.map toCanonicalFields))⟩

/-- A signed 32-bit number as `u64`, with its sign extended. -/
def asU64 (value : Int32) : UInt64 := value.toInt64.toUInt64

instance : ToCanonicalFields Digest where
  puts m :=
    [putUint 1 (asU64 m.algo), putBytes 2 m.value]

instance : ToCanonicalFields CheckpointFile where
  puts m :=
    [putStr 1 m.path, putMsg 2 m.digest, putUint 3 m.sizeBytes, putRepeatedMsg 4 m.chunkDigests,
     putUint 5 m.chunkSizeBytes.toUInt64]

instance : ToCanonicalFields ResumeCompleteness where
  puts m :=
    [putBool 1 m.modelWeights, putBool 2 m.optimizerState, putBool 3 m.lrSchedulerState,
     putBool 4 m.rngState, putBool 5 m.samplerPosition, putBool 6 m.dataloaderPosition,
     putBool 7 m.ampScalerState, putBool 10 m.fullResumeGuaranteed]

instance : ToCanonicalFields CheckpointManifest where
  puts m :=
    [putUint 1 m.schemaVersion.toUInt64, putStr 2 m.checkpointId, putStr 3 m.jobId,
     putStr 4 m.attemptId, putUint 5 m.step, putUint 6 m.epoch, putRepeatedMsg 10 m.files,
     putMsg 11 m.rootDigest, putUint 12 m.totalBytes, putMsg 20 m.completeness,
     putUint 30 m.createdAtUnixMs, putStr 31 m.producerNodeId, putUint 32 m.fenceEpoch]

instance : ToCanonicalFields ReplicaAck where
  puts m :=
    [putUint 1 m.schemaVersion.toUInt64, putStr 2 m.checkpointId, putMsg 3 m.rootDigest,
     putStr 10 m.holderDeviceId, putUint 11 (asU64 m.kind), putStr 12 m.failureDomain,
     putBool 20 m.fsynced, putBool 21 m.hashVerified, putUint 22 m.storedBytes,
     putUint 30 m.ackedAtUnixMs]

instance : ToCanonicalFields ArtifactRef where
  puts m :=
    [putUint 1 m.schemaVersion.toUInt64, putStr 2 m.artifactId, putStr 3 m.jobId,
     putStr 4 m.attemptId, putUint 5 (asU64 m.kind), putMsg 10 m.digest, putUint 11 m.sizeBytes,
     putStr 12 m.casPath, putRepeatedMsg 20 m.replicas, putUint 21 m.createdAtUnixMs,
     putUint 22 m.fenceEpoch]

instance : ToCanonicalFields ReportedMetric where
  puts m :=
    [putStr 1 m.name, putInt 2 m.valueMicro, putBool 3 m.higherIsBetter]

instance : ToCanonicalFields AttemptReport where
  puts m :=
    [putUint 1 m.schemaVersion.toUInt64, putStr 2 m.jobId, putStr 3 m.attemptId, putStr 4 m.nodeId,
     putUint 5 m.fenceEpoch, putUint 10 (asU64 m.outcome), putUint 11 m.finalStep,
     putUint 12 m.startedAtUnixMs, putUint 13 m.finishedAtUnixMs,
     putUint 14 (asU64 m.exitObservation), putUint 15 m.exitCode.toUInt64,
     putUint 16 (asU64 m.finalizationFailureStage), putRepeatedMsg 20 m.artifacts,
     putMsg 21 m.finalCheckpoint, putRepeatedMsg 30 m.metrics, putUint 40 m.issuedAtUnixMs]

instance : ToCanonicalFields CanonicalDecision where
  puts m :=
    [putUint 1 m.schemaVersion.toUInt64, putStr 2 m.jobId, putStr 3 m.chosenAttemptId,
     putRepeatedStr 4 m.supersededAttemptIds, putUint 10 (asU64 m.decidingCriterion),
     putStr 11 m.rationale, putUint 12 m.fenceEpoch, putUint 13 m.decidedAtUnixMs]

instance : ToCanonicalFields ProgressReport where
  puts m :=
    [putUint 1 m.currentStep, putUint 2 m.totalSteps, putUint 3 m.etaSeconds,
     putUint 4 m.lastCommittedStep, putUint 5 m.replicationBacklogBytes]

instance : ToCanonicalFields RenewLeaseRequest where
  puts m :=
    [putUint 1 m.schemaVersion.toUInt64, putStr 2 m.leaseId, putUint 3 m.fenceEpoch,
     putStr 4 m.nodeId, putMsg 10 m.progress, putUint 20 m.issuedAtUnixMs, putBytes 21 m.nonce,
     putUint 22 m.unreachableUntilUnixMs]

instance : ToCanonicalFields ResourceScope where
  puts m :=
    [putRepeatedStr 1 m.gpuUuids, putUint 2 m.cpuCores.toUInt64, putUint 3 m.ramBytes,
     putUint 4 m.workspaceBytes, putRepeatedStr 5 m.writablePrefixes]

instance : ToCanonicalFields Lease where
  puts m :=
    [putUint 1 m.schemaVersion.toUInt64, putStr 2 m.leaseId, putStr 3 m.jobId, putStr 4 m.attemptId,
     putUint 10 m.fenceEpoch, putUint 11 m.coordinatorTerm, putStr 20 m.holderNodeId,
     putRepeatedStr 21 m.memberNodeIds, putStr 22 m.issuingCoordinatorId,
     putUint 30 m.issuedAtUnixMs, putUint 31 m.expiresAtUnixMs, putUint 32 m.renewAfterUnixMs,
     putUint 33 m.maxTotalDurationSeconds.toUInt64, putUint 34 m.reassignmentGraceMs,
     putMsg 40 m.scope]

instance : ToCanonicalFields RenewLeaseResult where
  puts m :=
    [putUint 1 (asU64 m.outcome), putMsg 2 m.lease, putStr 3 m.detail,
     putUint 4 m.retryAfterMs.toUInt64, putUint 5 m.schemaVersion.toUInt64,
     putStr 6 m.coordinatorId, putUint 7 m.issuedAtUnixMs, putBytes 8 m.requestNonce]

instance : ToCanonicalFields AttemptReportAck where
  puts m :=
    [putUint 1 m.schemaVersion.toUInt64, putStr 2 m.jobId, putStr 3 m.attemptId, putStr 4 m.nodeId,
     putUint 5 m.fenceEpoch, putMsg 6 m.reportHash, putBool 7 m.created, putStr 8 m.coordinatorId,
     putUint 9 m.issuedAtUnixMs, putBytes 10 m.sessionNonce]

instance : ToCanonicalFields GrantAckReceipt where
  puts m :=
    [putUint 1 m.schemaVersion.toUInt64, putStr 2 m.grantId, putStr 3 m.attemptId,
     putStr 4 m.agentDeviceId, putBytes 5 m.ackNonce, putStr 6 m.coordinatorDeviceId,
     putUint 7 m.issuedAtUnixMs, putBytes 8 m.nonce]

instance : ToCanonicalFields ObservedGpu where
  puts m :=
    [putStr 1 m.uuid, putStr 2 m.model, putUint 3 m.totalVramBytes]

instance : ToCanonicalFields NodeGpuObservation where
  puts m :=
    [putUint 1 m.observedAtUnixMs, putRepeatedMsg 2 m.gpus]

instance : ToCanonicalFields AgentSessionHello where
  puts m :=
    [putUint 1 m.schemaVersion.toUInt64, putUint 2 (asU64 m.mode), putStr 3 m.sessionId,
     putStr 4 m.nodeId, putUint 5 m.connectionAttempt.toUInt64, putUint 6 m.issuedAtUnixMs,
     putBytes 7 m.nonce, putMsg 8 m.gpuObservation]

instance : ToCanonicalFields ResumeLeaseRequest where
  puts m :=
    [putUint 1 m.schemaVersion.toUInt64, putStr 2 m.leaseId, putStr 3 m.jobId, putStr 4 m.attemptId,
     putStr 5 m.nodeId, putUint 6 m.fenceEpoch, putStr 7 m.sessionId,
     putUint 8 m.connectionAttempt.toUInt64, putUint 9 m.issuedAtUnixMs, putBytes 10 m.requestNonce]

instance : ToCanonicalFields ResumeLeaseResult where
  puts m :=
    [putUint 1 (asU64 m.outcome), putMsg 2 m.lease, putStr 3 m.detail,
     putUint 4 m.retryAfterMs.toUInt64, putUint 5 m.schemaVersion.toUInt64,
     putStr 6 m.coordinatorId, putUint 7 m.issuedAtUnixMs, putBytes 8 m.requestNonce]

instance : ToCanonicalFields RevokeLeaseNotice where
  puts m :=
    [putUint 1 m.schemaVersion.toUInt64, putStr 2 m.leaseId, putUint 3 m.fenceEpoch,
     putUint 4 (asU64 m.cause), putUint 5 m.issuedAtUnixMs]

instance : ToCanonicalFields CudaRequirement where
  puts m :=
    [putUint 1 m.minDriverVersion.toUInt64, putStr 2 m.cudaRuntimeVersion,
     putRepeatedStr 3 m.computeCapabilities]

instance : ToCanonicalFields TarballPolicy where
  puts m :=
    [putBool 1 m.rejectPathTraversal, putBool 2 m.rejectLinks, putUint 3 m.maxExtractedBytes]

instance : ToCanonicalFields ExecutionEnvironment where
  puts m :=
    [putUint 1 (asU64 m.kind), putStr 10 m.imageRef, putMsg 11 m.imageDigest,
     putMsg 12 m.ociSourceDigest, putStr 20 m.baseRuntime, putMsg 21 m.lockDigest,
     putBytes 22 m.lockContent, putMsg 23 m.lockCasRef, putStr 30 m.os, putStr 31 m.arch,
     putStr 32 m.minLibcVersion, putMsg 33 m.cuda, putMsg 34 m.codeDigest,
     putMsg 35 m.tarballPolicy]

instance : ToCanonicalFields DatasetRef where
  puts m :=
    [putMsg 1 m.rootDigest, putUint 2 m.totalBytes, putUint 3 (asU64 m.sensitivity),
     putUint 4 (asU64 m.retention), putBool 5 m.encryptedAtRest, putStr 6 m.displayName]

instance : ToCanonicalFields GpuRequest where
  puts m :=
    [putUint 1 m.minVramBytes, putUint 2 m.minCount.toUInt64, putMsg 3 m.cuda,
     putUint 4 (asU64 m.allocationMode), putRepeatedStr 5 m.allowedGpuModels]

instance : ToCanonicalFields ResourceRequest where
  puts m :=
    [putMsg 1 m.gpu, putUint 2 m.cpuCores.toUInt64, putUint 3 m.ramBytes,
     putUint 4 m.workspaceBytes, putUint 5 m.maxEgressBps]

instance : ToCanonicalFields WorkloadHint where
  puts m :=
    [putUint 1 (asU64 m.workloadClass), putUint 2 m.estimatedSteps,
     putUint 3 m.refStepTimeMs.toUInt64, putStr 4 m.refGpuModel, putUint 10 m.modelParams,
     putUint 11 m.estCheckpointBytes, putUint 12 m.estPeakVramBytes]

instance : ToCanonicalFields NetworkPolicy where
  puts m :=
    [putRepeatedStr 1 m.stagingAllowHosts, putRepeatedStr 2 m.runtimeAllowHosts,
     putBool 3 m.mediatedDns]

instance : ToCanonicalFields ArtifactScope where
  puts m :=
    [putRepeatedStr 1 m.writablePrefixes, putRepeatedStr 2 m.readablePrefixes]

instance : ToCanonicalFields JobManifest where
  puts m :=
    [putUint 1 m.schemaVersion.toUInt64, putStr 2 m.jobId, putStr 3 m.teamId, putMsg 10 m.env,
     putRepeatedMsg 11 m.inputArtifacts, putMsg 12 m.dataset, putStr 13 m.entrypoint,
     putRepeatedStr 14 m.args, putMap 15 m.envVars, putMsg 20 m.resources, putMsg 21 m.workload,
     putUint 30 m.deadlineMinutes.toUInt64, putUint 31 (asU64 m.preference),
     putUint 32 m.maxQueueMinutes.toUInt64, putUint 40 m.checkpointIntervalMinutes.toUInt64,
     putUint 41 (asU64 m.durability), putUint 42 (asU64 m.onPartition),
     putUint 43 m.maxDataLossMinutes.toUInt64, putUint 50 (asU64 m.minimumIsolationClass),
     putUint 51 (asU64 m.minimumSecurityTier), putUint 52 (asU64 m.minimumKeyProtection),
     putUint 53 (asU64 m.sideEffectClass), putMsg 54 m.network, putMsg 55 m.artifactScope,
     putBool 56 m.acknowledgeDuplicateRisk, putStr 60 m.submitterDeviceId,
     putUint 61 m.issuedAtUnixMs, putUint 62 m.expiresAtUnixMs]

instance : ToCanonicalFields PeerHint where
  puts m :=
    [putStr 1 m.nodeId, putStr 2 m.peerId, putRepeatedStr 3 m.multiaddrs,
     putRepeatedMsg 4 m.knownDigests]

instance : ToCanonicalFields EphemeralCredential where
  puts m :=
    [putStr 1 m.credentialId, putBytes 2 m.token, putUint 3 m.expiresAtUnixMs,
     putRepeatedStr 4 m.allowedEndpoints]

instance : ToCanonicalFields RejectedCandidate where
  puts m :=
    [putStr 1 m.nodeId, putUint 2 (asU64 m.reason), putStr 3 m.detail]

instance : ToCanonicalFields PlacementRationale where
  puts m :=
    [putUint 1 m.tEstSeconds, putUint 2 m.sigmaLnPpm, putUint 3 (asU64 m.stage),
     putUint 10 m.pWithinEstimatePpm, putUint 11 m.pSurvivalPpm, putUint 12 m.pSuccessPpm,
     putUint 13 m.targetConfidencePpm, putBool 20 m.isExploration, putRepeatedMsg 30 m.rejected]

instance : ToCanonicalFields GrantedExecutionPlan where
  puts m :=
    [putUint 1 (asU64 m.mode), putUint 2 (asU64 m.gpuAllocation),
     putRepeatedStr 3 m.assignedGpuUuids, putUint 10 m.remoteReplicationIntervalMinutes.toUInt64,
     putUint 11 (asU64 m.effectiveDurability), putMsg 20 m.rationale]

instance : ToCanonicalFields ExecutionGrant where
  puts m :=
    [putUint 1 m.schemaVersion.toUInt64, putStr 2 m.grantId, putMsg 3 m.manifest,
     putStr 5 m.attemptId, putMsg 6 m.lease, putRepeatedMsg 7 m.peers, putMsg 8 m.creds,
     putMsg 9 m.plan, putStr 20 m.coordinatorDeviceId, putUint 21 m.coordinatorTerm,
     putUint 22 m.issuedAtUnixMs, putUint 23 m.expiresAtUnixMs, putBytes 24 m.nonce,
     putBool 25 m.leaseFromDurableStore, putMsg 26 m.resumeFrom, putBool 27 m.poolMode]

instance : ToCanonicalFields AgentGrantAck where
  puts m :=
    [putUint 1 m.schemaVersion.toUInt64, putStr 2 m.grantId, putStr 3 m.attemptId,
     putStr 4 m.agentDeviceId, putUint 5 m.issuedAtUnixMs, putUint 6 m.expiresAtUnixMs,
     putBytes 7 m.nonce, putBool 8 m.accepted]

instance : ToCanonicalFields NeighborUnreachableReport where
  puts m :=
    [putUint 1 m.schemaVersion.toUInt64, putStr 2 m.reporterNodeId, putStr 3 m.reporterDeviceId,
     putStr 4 m.unreachableNodeId, putStr 5 m.coordinatorDeviceId, putUint 6 m.observedAtUnixMs,
     putBytes 7 m.requestNonce]

instance : ToCanonicalFields NodeHeartbeat where
  puts m :=
    [putUint 1 m.schemaVersion.toUInt64, putStr 2 m.nodeId, putStr 3 m.deviceId,
     putStr 4 m.coordinatorDeviceId, putUint 5 m.issuedAtUnixMs, putUint 6 m.fenceEpoch,
     putUint 7 m.runningAttempts.toUInt64, putBytes 8 m.requestNonce]

end Gputeer.Protocol
