import Gputeer.Protocol.Pinning

/-! The signed part of every message type: what is left once signatures are taken out at every
depth and absent nested messages are read as empty ones. -/

namespace Gputeer.Protocol

open ToCanonicalFields

instance : Pinned Digest where
  normalize := id
  empty := ⟨0, []⟩
  puts_numbers _ _ := by simp [puts]
  ascending := by simp [puts]
  unsigned := by simp [puts, signatureField]
  empty_fields := by simp [toCanonicalFields, puts]
  normalize_eq first second same := by
    cases first
    cases second
    simp [puts] at same
    rcases same with ⟨rfl, rfl⟩
    rfl

def CheckpointFile.normalize (m : CheckpointFile) : CheckpointFile :=
  { m with digest := normalizeOption m.digest, chunkDigests := normalizeList m.chunkDigests }

instance : Pinned CheckpointFile where
  normalize := CheckpointFile.normalize
  empty := ⟨"", none, 0, [], 0⟩
  puts_numbers _ _ := by simp [puts]
  ascending := by simp [puts]
  unsigned := by simp [puts, signatureField]
  empty_fields := by simp [toCanonicalFields, puts]
  normalize_eq first second same := by
    cases first
    cases second
    simp [puts, UInt32.toUInt64_inj] at same
    rcases same with ⟨rfl, digest, rfl, chunkDigests, rfl⟩
    simp only [CheckpointFile.normalize, putMsg_payloads_eq digest,
      putRepeatedMsg_payloads_eq chunkDigests]

instance : Pinned ResumeCompleteness where
  normalize := id
  empty := ⟨false, false, false, false, false, false, false, false⟩
  puts_numbers _ _ := by simp [puts]
  ascending := by simp [puts]
  unsigned := by simp [puts, signatureField]
  empty_fields := by simp [toCanonicalFields, puts]
  normalize_eq first second same := by
    cases first
    cases second
    simp [puts] at same
    rcases same with ⟨rfl, rfl, rfl, rfl, rfl, rfl, rfl, rfl⟩
    rfl

def CheckpointManifest.normalize (m : CheckpointManifest) : CheckpointManifest :=
  { m with
      files := normalizeList m.files
      rootDigest := normalizeOption m.rootDigest
      completeness := normalizeOption m.completeness
      producerSignature := [] }

instance : Pinned CheckpointManifest where
  normalize := CheckpointManifest.normalize
  empty := ⟨0, "", "", "", 0, 0, [], none, 0, none, 0, "", 0, []⟩
  puts_numbers _ _ := by simp [puts]
  ascending := by simp [puts]
  unsigned := by simp [puts, signatureField]
  empty_fields := by simp [toCanonicalFields, puts]
  normalize_eq first second same := by
    cases first
    cases second
    simp [puts, UInt32.toUInt64_inj] at same
    rcases same with ⟨rfl, rfl, rfl, rfl, rfl, rfl, files, rootDigest, rfl, completeness, rfl, rfl,
      rfl⟩
    simp only [CheckpointManifest.normalize, putRepeatedMsg_payloads_eq files,
      putMsg_payloads_eq rootDigest, putMsg_payloads_eq completeness]

def ReplicaAck.normalize (m : ReplicaAck) : ReplicaAck :=
  { m with rootDigest := normalizeOption m.rootDigest, holderSignature := [] }

instance : Pinned ReplicaAck where
  normalize := ReplicaAck.normalize
  empty := ⟨0, "", none, "", 0, "", false, false, 0, 0, []⟩
  puts_numbers _ _ := by simp [puts]
  ascending := by simp [puts]
  unsigned := by simp [puts, signatureField]
  empty_fields := by simp [toCanonicalFields, puts]
  normalize_eq first second same := by
    cases first
    cases second
    simp [puts, UInt32.toUInt64_inj] at same
    rcases same with ⟨rfl, rfl, rootDigest, rfl, rfl, rfl, rfl, rfl, rfl, rfl⟩
    simp only [ReplicaAck.normalize, putMsg_payloads_eq rootDigest]

def ArtifactRef.normalize (m : ArtifactRef) : ArtifactRef :=
  { m with
      digest := normalizeOption m.digest
      replicas := normalizeList m.replicas
      producerSignature := [] }

instance : Pinned ArtifactRef where
  normalize := ArtifactRef.normalize
  empty := ⟨0, "", "", "", 0, none, 0, "", [], 0, 0, []⟩
  puts_numbers _ _ := by simp [puts]
  ascending := by simp [puts]
  unsigned := by simp [puts, signatureField]
  empty_fields := by simp [toCanonicalFields, puts]
  normalize_eq first second same := by
    cases first
    cases second
    simp [puts, UInt32.toUInt64_inj] at same
    rcases same with ⟨rfl, rfl, rfl, rfl, rfl, digest, rfl, rfl, replicas, rfl, rfl⟩
    simp only [ArtifactRef.normalize, putMsg_payloads_eq digest,
      putRepeatedMsg_payloads_eq replicas]

instance : Pinned ReportedMetric where
  normalize := id
  empty := ⟨"", 0, false⟩
  puts_numbers _ _ := by simp [puts]
  ascending := by simp [puts]
  unsigned := by simp [puts, signatureField]
  empty_fields := by simp [toCanonicalFields, puts]
  normalize_eq first second same := by
    cases first
    cases second
    simp [puts] at same
    rcases same with ⟨rfl, rfl, rfl⟩
    rfl

def AttemptReport.normalize (m : AttemptReport) : AttemptReport :=
  { m with
      artifacts := normalizeList m.artifacts
      finalCheckpoint := normalizeOption m.finalCheckpoint
      metrics := normalizeList m.metrics
      nodeSignature := [] }

instance : Pinned AttemptReport where
  normalize := AttemptReport.normalize
  empty := ⟨0, "", "", "", 0, 0, 0, 0, 0, 0, 0, 0, [], none, [], 0, []⟩
  puts_numbers _ _ := by simp [puts]
  ascending := by simp [puts]
  unsigned := by simp [puts, signatureField]
  empty_fields := by simp [toCanonicalFields, puts]
  normalize_eq first second same := by
    cases first
    cases second
    simp [puts, UInt32.toUInt64_inj] at same
    rcases same with ⟨rfl, rfl, rfl, rfl, rfl, rfl, rfl, rfl, rfl, rfl, rfl, rfl, artifacts,
      finalCheckpoint, metrics, rfl⟩
    simp only [AttemptReport.normalize, putRepeatedMsg_payloads_eq artifacts,
      putMsg_payloads_eq finalCheckpoint, putRepeatedMsg_payloads_eq metrics]

def CanonicalDecision.normalize (m : CanonicalDecision) : CanonicalDecision :=
  { m with coordinatorSignature := [] }

instance : Pinned CanonicalDecision where
  normalize := CanonicalDecision.normalize
  empty := ⟨0, "", "", [], 0, "", 0, 0, []⟩
  puts_numbers _ _ := by simp [puts]
  ascending := by simp [puts]
  unsigned := by simp [puts, signatureField]
  empty_fields := by simp [toCanonicalFields, puts]
  normalize_eq first second same := by
    cases first
    cases second
    simp [puts, UInt32.toUInt64_inj] at same
    rcases same with ⟨rfl, rfl, rfl, rfl, rfl, rfl, rfl, rfl⟩
    simp only [CanonicalDecision.normalize]

instance : Pinned ProgressReport where
  normalize := id
  empty := ⟨0, 0, 0, 0, 0⟩
  puts_numbers _ _ := by simp [puts]
  ascending := by simp [puts]
  unsigned := by simp [puts, signatureField]
  empty_fields := by simp [toCanonicalFields, puts]
  normalize_eq first second same := by
    cases first
    cases second
    simp [puts] at same
    rcases same with ⟨rfl, rfl, rfl, rfl, rfl⟩
    rfl

def RenewLeaseRequest.normalize (m : RenewLeaseRequest) : RenewLeaseRequest :=
  { m with progress := normalizeOption m.progress, nodeSignature := [] }

instance : Pinned RenewLeaseRequest where
  normalize := RenewLeaseRequest.normalize
  empty := ⟨0, "", 0, "", none, 0, [], 0, []⟩
  puts_numbers _ _ := by simp [puts]
  ascending := by simp [puts]
  unsigned := by simp [puts, signatureField]
  empty_fields := by simp [toCanonicalFields, puts]
  normalize_eq first second same := by
    cases first
    cases second
    simp [puts, UInt32.toUInt64_inj] at same
    rcases same with ⟨rfl, rfl, rfl, rfl, progress, rfl, rfl, rfl⟩
    simp only [RenewLeaseRequest.normalize, putMsg_payloads_eq progress]

instance : Pinned ResourceScope where
  normalize := id
  empty := ⟨[], 0, 0, 0, []⟩
  puts_numbers _ _ := by simp [puts]
  ascending := by simp [puts]
  unsigned := by simp [puts, signatureField]
  empty_fields := by simp [toCanonicalFields, puts]
  normalize_eq first second same := by
    cases first
    cases second
    simp [puts, UInt32.toUInt64_inj] at same
    rcases same with ⟨rfl, rfl, rfl, rfl, rfl⟩
    rfl

def Lease.normalize (m : Lease) : Lease :=
  { m with scope := normalizeOption m.scope, coordinatorSignature := [] }

instance : Pinned Lease where
  normalize := Lease.normalize
  empty := ⟨0, "", "", "", 0, 0, "", [], "", 0, 0, 0, 0, 0, none, []⟩
  puts_numbers _ _ := by simp [puts]
  ascending := by simp [puts]
  unsigned := by simp [puts, signatureField]
  empty_fields := by simp [toCanonicalFields, puts]
  normalize_eq first second same := by
    cases first
    cases second
    simp [puts, UInt32.toUInt64_inj] at same
    rcases same with ⟨rfl, rfl, rfl, rfl, rfl, rfl, rfl, rfl, rfl, rfl, rfl, rfl, rfl, rfl, scope⟩
    simp only [Lease.normalize, putMsg_payloads_eq scope]

def RenewLeaseResult.normalize (m : RenewLeaseResult) : RenewLeaseResult :=
  { m with lease := normalizeOption m.lease, coordinatorSignature := [] }

instance : Pinned RenewLeaseResult where
  normalize := RenewLeaseResult.normalize
  empty := ⟨0, none, "", 0, 0, "", 0, [], []⟩
  puts_numbers _ _ := by simp [puts]
  ascending := by simp [puts]
  unsigned := by simp [puts, signatureField]
  empty_fields := by simp [toCanonicalFields, puts]
  normalize_eq first second same := by
    cases first
    cases second
    simp [puts, UInt32.toUInt64_inj] at same
    rcases same with ⟨rfl, lease, rfl, rfl, rfl, rfl, rfl, rfl⟩
    simp only [RenewLeaseResult.normalize, putMsg_payloads_eq lease]

def AttemptReportAck.normalize (m : AttemptReportAck) : AttemptReportAck :=
  { m with reportHash := normalizeOption m.reportHash, coordinatorSignature := [] }

instance : Pinned AttemptReportAck where
  normalize := AttemptReportAck.normalize
  empty := ⟨0, "", "", "", 0, none, false, "", 0, [], []⟩
  puts_numbers _ _ := by simp [puts]
  ascending := by simp [puts]
  unsigned := by simp [puts, signatureField]
  empty_fields := by simp [toCanonicalFields, puts]
  normalize_eq first second same := by
    cases first
    cases second
    simp [puts, UInt32.toUInt64_inj] at same
    rcases same with ⟨rfl, rfl, rfl, rfl, rfl, reportHash, rfl, rfl, rfl, rfl⟩
    simp only [AttemptReportAck.normalize, putMsg_payloads_eq reportHash]

def GrantAckReceipt.normalize (m : GrantAckReceipt) : GrantAckReceipt :=
  { m with coordinatorSignature := [] }

instance : Pinned GrantAckReceipt where
  normalize := GrantAckReceipt.normalize
  empty := ⟨0, "", "", "", [], "", 0, [], []⟩
  puts_numbers _ _ := by simp [puts]
  ascending := by simp [puts]
  unsigned := by simp [puts, signatureField]
  empty_fields := by simp [toCanonicalFields, puts]
  normalize_eq first second same := by
    cases first
    cases second
    simp [puts, UInt32.toUInt64_inj] at same
    rcases same with ⟨rfl, rfl, rfl, rfl, rfl, rfl, rfl, rfl⟩
    simp only [GrantAckReceipt.normalize]

instance : Pinned ObservedGpu where
  normalize := id
  empty := ⟨"", "", 0⟩
  puts_numbers _ _ := by simp [puts]
  ascending := by simp [puts]
  unsigned := by simp [puts, signatureField]
  empty_fields := by simp [toCanonicalFields, puts]
  normalize_eq first second same := by
    cases first
    cases second
    simp [puts] at same
    rcases same with ⟨rfl, rfl, rfl⟩
    rfl

def NodeGpuObservation.normalize (m : NodeGpuObservation) : NodeGpuObservation :=
  { m with gpus := normalizeList m.gpus }

instance : Pinned NodeGpuObservation where
  normalize := NodeGpuObservation.normalize
  empty := ⟨0, []⟩
  puts_numbers _ _ := by simp [puts]
  ascending := by simp [puts]
  unsigned := by simp [puts, signatureField]
  empty_fields := by simp [toCanonicalFields, puts]
  normalize_eq first second same := by
    cases first
    cases second
    simp [puts] at same
    rcases same with ⟨rfl, gpus⟩
    simp only [NodeGpuObservation.normalize, putRepeatedMsg_payloads_eq gpus]

def AgentSessionHello.normalize (m : AgentSessionHello) : AgentSessionHello :=
  { m with gpuObservation := normalizeOption m.gpuObservation, nodeSignature := [] }

instance : Pinned AgentSessionHello where
  normalize := AgentSessionHello.normalize
  empty := ⟨0, 0, "", "", 0, 0, [], none, []⟩
  puts_numbers _ _ := by simp [puts]
  ascending := by simp [puts]
  unsigned := by simp [puts, signatureField]
  empty_fields := by simp [toCanonicalFields, puts]
  normalize_eq first second same := by
    cases first
    cases second
    simp [puts, UInt32.toUInt64_inj] at same
    rcases same with ⟨rfl, rfl, rfl, rfl, rfl, rfl, rfl, gpuObservation⟩
    simp only [AgentSessionHello.normalize, putMsg_payloads_eq gpuObservation]

def ResumeLeaseRequest.normalize (m : ResumeLeaseRequest) : ResumeLeaseRequest :=
  { m with nodeSignature := [] }

instance : Pinned ResumeLeaseRequest where
  normalize := ResumeLeaseRequest.normalize
  empty := ⟨0, "", "", "", "", 0, "", 0, 0, [], []⟩
  puts_numbers _ _ := by simp [puts]
  ascending := by simp [puts]
  unsigned := by simp [puts, signatureField]
  empty_fields := by simp [toCanonicalFields, puts]
  normalize_eq first second same := by
    cases first
    cases second
    simp [puts, UInt32.toUInt64_inj] at same
    rcases same with ⟨rfl, rfl, rfl, rfl, rfl, rfl, rfl, rfl, rfl, rfl⟩
    simp only [ResumeLeaseRequest.normalize]

def ResumeLeaseResult.normalize (m : ResumeLeaseResult) : ResumeLeaseResult :=
  { m with lease := normalizeOption m.lease, coordinatorSignature := [] }

instance : Pinned ResumeLeaseResult where
  normalize := ResumeLeaseResult.normalize
  empty := ⟨0, none, "", 0, 0, "", 0, [], []⟩
  puts_numbers _ _ := by simp [puts]
  ascending := by simp [puts]
  unsigned := by simp [puts, signatureField]
  empty_fields := by simp [toCanonicalFields, puts]
  normalize_eq first second same := by
    cases first
    cases second
    simp [puts, UInt32.toUInt64_inj] at same
    rcases same with ⟨rfl, lease, rfl, rfl, rfl, rfl, rfl, rfl⟩
    simp only [ResumeLeaseResult.normalize, putMsg_payloads_eq lease]

def RevokeLeaseNotice.normalize (m : RevokeLeaseNotice) : RevokeLeaseNotice :=
  { m with coordinatorSignature := [] }

instance : Pinned RevokeLeaseNotice where
  normalize := RevokeLeaseNotice.normalize
  empty := ⟨0, "", 0, 0, 0, []⟩
  puts_numbers _ _ := by simp [puts]
  ascending := by simp [puts]
  unsigned := by simp [puts, signatureField]
  empty_fields := by simp [toCanonicalFields, puts]
  normalize_eq first second same := by
    cases first
    cases second
    simp [puts, UInt32.toUInt64_inj] at same
    rcases same with ⟨rfl, rfl, rfl, rfl, rfl⟩
    simp only [RevokeLeaseNotice.normalize]

instance : Pinned CudaRequirement where
  normalize := id
  empty := ⟨0, "", []⟩
  puts_numbers _ _ := by simp [puts]
  ascending := by simp [puts]
  unsigned := by simp [puts, signatureField]
  empty_fields := by simp [toCanonicalFields, puts]
  normalize_eq first second same := by
    cases first
    cases second
    simp [puts, UInt32.toUInt64_inj] at same
    rcases same with ⟨rfl, rfl, rfl⟩
    rfl

instance : Pinned TarballPolicy where
  normalize := id
  empty := ⟨false, false, 0⟩
  puts_numbers _ _ := by simp [puts]
  ascending := by simp [puts]
  unsigned := by simp [puts, signatureField]
  empty_fields := by simp [toCanonicalFields, puts]
  normalize_eq first second same := by
    cases first
    cases second
    simp [puts] at same
    rcases same with ⟨rfl, rfl, rfl⟩
    rfl

def ExecutionEnvironment.normalize (m : ExecutionEnvironment) : ExecutionEnvironment :=
  { m with
      imageDigest := normalizeOption m.imageDigest
      ociSourceDigest := normalizeOption m.ociSourceDigest
      lockDigest := normalizeOption m.lockDigest
      lockCasRef := normalizeOption m.lockCasRef
      cuda := normalizeOption m.cuda
      codeDigest := normalizeOption m.codeDigest
      tarballPolicy := normalizeOption m.tarballPolicy }

instance : Pinned ExecutionEnvironment where
  normalize := ExecutionEnvironment.normalize
  empty := ⟨0, "", none, none, "", none, [], none, "", "", "", none, none, none⟩
  puts_numbers _ _ := by simp [puts]
  ascending := by simp [puts]
  unsigned := by simp [puts, signatureField]
  empty_fields := by simp [toCanonicalFields, puts]
  normalize_eq first second same := by
    cases first
    cases second
    simp [puts] at same
    rcases same with ⟨rfl, rfl, imageDigest, ociSourceDigest, rfl, lockDigest, rfl, lockCasRef,
      rfl, rfl, rfl, cuda, codeDigest, tarballPolicy⟩
    simp only [ExecutionEnvironment.normalize, putMsg_payloads_eq imageDigest,
      putMsg_payloads_eq ociSourceDigest, putMsg_payloads_eq lockDigest,
      putMsg_payloads_eq lockCasRef, putMsg_payloads_eq cuda, putMsg_payloads_eq codeDigest,
      putMsg_payloads_eq tarballPolicy]

def DatasetRef.normalize (m : DatasetRef) : DatasetRef :=
  { m with rootDigest := normalizeOption m.rootDigest }

instance : Pinned DatasetRef where
  normalize := DatasetRef.normalize
  empty := ⟨none, 0, 0, 0, false, ""⟩
  puts_numbers _ _ := by simp [puts]
  ascending := by simp [puts]
  unsigned := by simp [puts, signatureField]
  empty_fields := by simp [toCanonicalFields, puts]
  normalize_eq first second same := by
    cases first
    cases second
    simp [puts] at same
    rcases same with ⟨rootDigest, rfl, rfl, rfl, rfl, rfl⟩
    simp only [DatasetRef.normalize, putMsg_payloads_eq rootDigest]

def GpuRequest.normalize (m : GpuRequest) : GpuRequest :=
  { m with cuda := normalizeOption m.cuda }

instance : Pinned GpuRequest where
  normalize := GpuRequest.normalize
  empty := ⟨0, 0, none, 0, []⟩
  puts_numbers _ _ := by simp [puts]
  ascending := by simp [puts]
  unsigned := by simp [puts, signatureField]
  empty_fields := by simp [toCanonicalFields, puts]
  normalize_eq first second same := by
    cases first
    cases second
    simp [puts, UInt32.toUInt64_inj] at same
    rcases same with ⟨rfl, rfl, cuda, rfl, rfl⟩
    simp only [GpuRequest.normalize, putMsg_payloads_eq cuda]

def ResourceRequest.normalize (m : ResourceRequest) : ResourceRequest :=
  { m with gpu := normalizeOption m.gpu }

instance : Pinned ResourceRequest where
  normalize := ResourceRequest.normalize
  empty := ⟨none, 0, 0, 0, 0⟩
  puts_numbers _ _ := by simp [puts]
  ascending := by simp [puts]
  unsigned := by simp [puts, signatureField]
  empty_fields := by simp [toCanonicalFields, puts]
  normalize_eq first second same := by
    cases first
    cases second
    simp [puts, UInt32.toUInt64_inj] at same
    rcases same with ⟨gpu, rfl, rfl, rfl, rfl⟩
    simp only [ResourceRequest.normalize, putMsg_payloads_eq gpu]

instance : Pinned WorkloadHint where
  normalize := id
  empty := ⟨0, 0, 0, "", 0, 0, 0⟩
  puts_numbers _ _ := by simp [puts]
  ascending := by simp [puts]
  unsigned := by simp [puts, signatureField]
  empty_fields := by simp [toCanonicalFields, puts]
  normalize_eq first second same := by
    cases first
    cases second
    simp [puts, UInt32.toUInt64_inj] at same
    rcases same with ⟨rfl, rfl, rfl, rfl, rfl, rfl, rfl⟩
    rfl

instance : Pinned NetworkPolicy where
  normalize := id
  empty := ⟨[], [], false⟩
  puts_numbers _ _ := by simp [puts]
  ascending := by simp [puts]
  unsigned := by simp [puts, signatureField]
  empty_fields := by simp [toCanonicalFields, puts]
  normalize_eq first second same := by
    cases first
    cases second
    simp [puts] at same
    rcases same with ⟨rfl, rfl, rfl⟩
    rfl

instance : Pinned ArtifactScope where
  normalize := id
  empty := ⟨[], []⟩
  puts_numbers _ _ := by simp [puts]
  ascending := by simp [puts]
  unsigned := by simp [puts, signatureField]
  empty_fields := by simp [toCanonicalFields, puts]
  normalize_eq first second same := by
    cases first
    cases second
    simp [puts] at same
    rcases same with ⟨rfl, rfl⟩
    rfl

def JobManifest.normalize (m : JobManifest) : JobManifest :=
  { m with
      env := normalizeOption m.env
      inputArtifacts := normalizeList m.inputArtifacts
      dataset := normalizeOption m.dataset
      resources := normalizeOption m.resources
      workload := normalizeOption m.workload
      network := normalizeOption m.network
      artifactScope := normalizeOption m.artifactScope
      submitterSignature := [] }

instance : Pinned JobManifest where
  normalize := JobManifest.normalize
  empty := ⟨0, "", "", none, [], none, "", [], ∅, none, none, 0, 0, 0, 0, 0, 0, 0, 0, 0, 0, 0,
    none, none, false, "", 0, 0, []⟩
  puts_numbers _ _ := by simp [puts]
  ascending := by simp [puts]
  unsigned := by simp [puts, signatureField]
  empty_fields := by simp [toCanonicalFields, puts]
  normalize_eq first second same := by
    cases first
    cases second
    simp [puts, UInt32.toUInt64_inj] at same
    rcases same with ⟨rfl, rfl, rfl, env, inputArtifacts, dataset, rfl, rfl, rfl, resources,
      workload, rfl, rfl, rfl, rfl, rfl, rfl, rfl, rfl, rfl, rfl, rfl, network, artifactScope, rfl,
      rfl, rfl, rfl⟩
    simp only [JobManifest.normalize, putMsg_payloads_eq env,
      putRepeatedMsg_payloads_eq inputArtifacts, putMsg_payloads_eq dataset,
      putMsg_payloads_eq resources, putMsg_payloads_eq workload, putMsg_payloads_eq network,
      putMsg_payloads_eq artifactScope]

def PeerHint.normalize (m : PeerHint) : PeerHint :=
  { m with knownDigests := normalizeList m.knownDigests }

instance : Pinned PeerHint where
  normalize := PeerHint.normalize
  empty := ⟨"", "", [], []⟩
  puts_numbers _ _ := by simp [puts]
  ascending := by simp [puts]
  unsigned := by simp [puts, signatureField]
  empty_fields := by simp [toCanonicalFields, puts]
  normalize_eq first second same := by
    cases first
    cases second
    simp [puts] at same
    rcases same with ⟨rfl, rfl, rfl, knownDigests⟩
    simp only [PeerHint.normalize, putRepeatedMsg_payloads_eq knownDigests]

instance : Pinned EphemeralCredential where
  normalize := id
  empty := ⟨"", [], 0, []⟩
  puts_numbers _ _ := by simp [puts]
  ascending := by simp [puts]
  unsigned := by simp [puts, signatureField]
  empty_fields := by simp [toCanonicalFields, puts]
  normalize_eq first second same := by
    cases first
    cases second
    simp [puts] at same
    rcases same with ⟨rfl, rfl, rfl, rfl⟩
    rfl

instance : Pinned RejectedCandidate where
  normalize := id
  empty := ⟨"", 0, ""⟩
  puts_numbers _ _ := by simp [puts]
  ascending := by simp [puts]
  unsigned := by simp [puts, signatureField]
  empty_fields := by simp [toCanonicalFields, puts]
  normalize_eq first second same := by
    cases first
    cases second
    simp [puts] at same
    rcases same with ⟨rfl, rfl, rfl⟩
    rfl

def PlacementRationale.normalize (m : PlacementRationale) : PlacementRationale :=
  { m with rejected := normalizeList m.rejected }

instance : Pinned PlacementRationale where
  normalize := PlacementRationale.normalize
  empty := ⟨0, 0, 0, 0, 0, 0, 0, false, []⟩
  puts_numbers _ _ := by simp [puts]
  ascending := by simp [puts]
  unsigned := by simp [puts, signatureField]
  empty_fields := by simp [toCanonicalFields, puts]
  normalize_eq first second same := by
    cases first
    cases second
    simp [puts] at same
    rcases same with ⟨rfl, rfl, rfl, rfl, rfl, rfl, rfl, rfl, rejected⟩
    simp only [PlacementRationale.normalize, putRepeatedMsg_payloads_eq rejected]

def GrantedExecutionPlan.normalize (m : GrantedExecutionPlan) : GrantedExecutionPlan :=
  { m with rationale := normalizeOption m.rationale }

instance : Pinned GrantedExecutionPlan where
  normalize := GrantedExecutionPlan.normalize
  empty := ⟨0, 0, [], 0, 0, none⟩
  puts_numbers _ _ := by simp [puts]
  ascending := by simp [puts]
  unsigned := by simp [puts, signatureField]
  empty_fields := by simp [toCanonicalFields, puts]
  normalize_eq first second same := by
    cases first
    cases second
    simp [puts, UInt32.toUInt64_inj] at same
    rcases same with ⟨rfl, rfl, rfl, rfl, rfl, rationale⟩
    simp only [GrantedExecutionPlan.normalize, putMsg_payloads_eq rationale]

def ExecutionGrant.normalize (m : ExecutionGrant) : ExecutionGrant :=
  { m with
      manifest := normalizeOption m.manifest
      manifestHash := none
      lease := normalizeOption m.lease
      peers := normalizeList m.peers
      creds := normalizeOption m.creds
      plan := normalizeOption m.plan
      resumeFrom := normalizeOption m.resumeFrom
      coordinatorSignature := [] }

instance : Pinned ExecutionGrant where
  normalize := ExecutionGrant.normalize
  empty := ⟨0, "", none, none, "", none, [], none, none, "", 0, 0, 0, [], false, none, false, []⟩
  puts_numbers _ _ := by simp [puts]
  ascending := by simp [puts]
  unsigned := by simp [puts, signatureField]
  empty_fields := by simp [toCanonicalFields, puts]
  normalize_eq first second same := by
    cases first
    cases second
    simp [puts, UInt32.toUInt64_inj] at same
    rcases same with ⟨rfl, rfl, manifest, rfl, lease, peers, creds, plan, rfl, rfl, rfl, rfl, rfl,
      rfl, resumeFrom, rfl⟩
    simp only [ExecutionGrant.normalize, putMsg_payloads_eq manifest, putMsg_payloads_eq lease,
      putRepeatedMsg_payloads_eq peers, putMsg_payloads_eq creds, putMsg_payloads_eq plan,
      putMsg_payloads_eq resumeFrom]

def AgentGrantAck.normalize (m : AgentGrantAck) : AgentGrantAck :=
  { m with agentSignature := [] }

instance : Pinned AgentGrantAck where
  normalize := AgentGrantAck.normalize
  empty := ⟨0, "", "", "", 0, 0, [], false, []⟩
  puts_numbers _ _ := by simp [puts]
  ascending := by simp [puts]
  unsigned := by simp [puts, signatureField]
  empty_fields := by simp [toCanonicalFields, puts]
  normalize_eq first second same := by
    cases first
    cases second
    simp [puts, UInt32.toUInt64_inj] at same
    rcases same with ⟨rfl, rfl, rfl, rfl, rfl, rfl, rfl, rfl⟩
    simp only [AgentGrantAck.normalize]

def NeighborUnreachableReport.normalize (m : NeighborUnreachableReport) : NeighborUnreachableReport :=
  { m with reporterSignature := [] }

instance : Pinned NeighborUnreachableReport where
  normalize := NeighborUnreachableReport.normalize
  empty := ⟨0, "", "", "", "", 0, [], []⟩
  puts_numbers _ _ := by simp [puts]
  ascending := by simp [puts]
  unsigned := by simp [puts, signatureField]
  empty_fields := by simp [toCanonicalFields, puts]
  normalize_eq first second same := by
    cases first
    cases second
    simp [puts, UInt32.toUInt64_inj] at same
    rcases same with ⟨rfl, rfl, rfl, rfl, rfl, rfl, rfl⟩
    simp only [NeighborUnreachableReport.normalize]

def NodeHeartbeat.normalize (m : NodeHeartbeat) : NodeHeartbeat :=
  { m with nodeSignature := [] }

instance : Pinned NodeHeartbeat where
  normalize := NodeHeartbeat.normalize
  empty := ⟨0, "", "", "", 0, 0, 0, [], []⟩
  puts_numbers _ _ := by simp [puts]
  ascending := by simp [puts]
  unsigned := by simp [puts, signatureField]
  empty_fields := by simp [toCanonicalFields, puts]
  normalize_eq first second same := by
    cases first
    cases second
    simp [puts, UInt32.toUInt64_inj] at same
    rcases same with ⟨rfl, rfl, rfl, rfl, rfl, rfl, rfl, rfl⟩
    simp only [NodeHeartbeat.normalize]

end Gputeer.Protocol
