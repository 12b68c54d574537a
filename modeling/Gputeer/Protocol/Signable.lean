import Gputeer.Protocol.Signing

/-! The messages that carry a signature, with the field each property is read from. -/

namespace Gputeer.Protocol

def grantTtlMs : UInt64 := 60000
def neighborReportTtlMs : UInt64 := 60000

def hexDigit (value : Nat) : Char := (Nat.toDigits 16 value).getLastD '0'

/-- The first eight bytes in hexadecimal. -/
def hex32 (bytes : List UInt8) : String :=
  String.ofList ((bytes.take 8).flatMap (fun byte =>
    [hexDigit (byte.toNat / 16), hexDigit (byte.toNat % 16)])) ++ ".."

instance : Signable JobManifest where
  domain := .manifest
  lifetime := .longLived
  schemaVersion m := m.schemaVersion
  signatureBytes m := m.submitterSignature
  expiresAtUnixMs m := m.expiresAtUnixMs
  issuedAtUnixMs m := m.issuedAtUnixMs
  signerId m := m.submitterDeviceId

instance : Signable Lease where
  domain := .lease
  lifetime := .longLived
  schemaVersion m := m.schemaVersion
  signatureBytes m := m.coordinatorSignature
  expiresAtUnixMs m := m.expiresAtUnixMs
  issuedAtUnixMs m := m.issuedAtUnixMs
  signerId m := m.issuingCoordinatorId

/-- The hash in the grant is the hash of what the manifest's own signature covers. -/
def ExecutionGrant.checkManifestHash (blake3 : Blake3) (m : ExecutionGrant) :
    Except DerivedMismatch Unit :=
  match m.manifest, m.manifestHash with
  | some manifest, some hash =>
      let expected := blake3 (signingInput manifest)
      if hash.value = expected then .ok ()
      else .error ⟨"ExecutionGrant.manifest_hash",
        "재계산 " ++ hex32 expected ++ " != 기재 " ++ hex32 hash.value⟩
  | none, some _ =>
      .error ⟨"ExecutionGrant.manifest_hash", "manifest 가 없는데 manifest_hash 만 있다"⟩
  | _, none => .ok ()

instance : Signable ExecutionGrant where
  domain := .grant
  lifetime := .shortLived
  schemaVersion m := m.schemaVersion
  signatureBytes m := m.coordinatorSignature
  expiresAtUnixMs m := m.expiresAtUnixMs
  issuedAtUnixMs m := m.issuedAtUnixMs
  signerId m := m.coordinatorDeviceId
  checkDerivedConsistency := ExecutionGrant.checkManifestHash
  replayNonce m := some m.nonce

instance : Signable AgentGrantAck where
  domain := .grantAck
  lifetime := .shortLived
  schemaVersion m := m.schemaVersion
  signatureBytes m := m.agentSignature
  expiresAtUnixMs m := m.expiresAtUnixMs
  issuedAtUnixMs m := m.issuedAtUnixMs
  signerId m := m.agentDeviceId
  replayNonce m := some m.nonce

instance : Signable RenewLeaseRequest where
  domain := .leaseRenew
  lifetime := .shortLived
  schemaVersion m := m.schemaVersion
  signatureBytes m := m.nodeSignature
  expiresAtUnixMs m := m.issuedAtUnixMs.saturatingAdd grantTtlMs
  issuedAtUnixMs m := m.issuedAtUnixMs
  signerId m := m.nodeId
  replayNonce m := some m.nonce

instance : Signable RenewLeaseResult where
  domain := .leaseRenewResult
  lifetime := .shortLived
  schemaVersion m := m.schemaVersion
  signatureBytes m := m.coordinatorSignature
  expiresAtUnixMs m := m.issuedAtUnixMs.saturatingAdd grantTtlMs
  issuedAtUnixMs m := m.issuedAtUnixMs
  signerId m := m.coordinatorId
  replayNonce m := some m.requestNonce

instance : Signable AgentSessionHello where
  domain := .sessionHello
  lifetime := .shortLived
  schemaVersion m := m.schemaVersion
  signatureBytes m := m.nodeSignature
  expiresAtUnixMs m := m.issuedAtUnixMs.saturatingAdd grantTtlMs
  issuedAtUnixMs m := m.issuedAtUnixMs
  signerId m := m.nodeId
  replayNonce m := some m.nonce

instance : Signable ResumeLeaseRequest where
  domain := .leaseResume
  lifetime := .shortLived
  schemaVersion m := m.schemaVersion
  signatureBytes m := m.nodeSignature
  expiresAtUnixMs m := m.issuedAtUnixMs.saturatingAdd grantTtlMs
  issuedAtUnixMs m := m.issuedAtUnixMs
  signerId m := m.nodeId
  replayNonce m := some m.requestNonce

instance : Signable ResumeLeaseResult where
  domain := .leaseResumeResult
  lifetime := .shortLived
  schemaVersion m := m.schemaVersion
  signatureBytes m := m.coordinatorSignature
  expiresAtUnixMs m := m.issuedAtUnixMs.saturatingAdd grantTtlMs
  issuedAtUnixMs m := m.issuedAtUnixMs
  signerId m := m.coordinatorId
  replayNonce m := some m.requestNonce

instance : Signable CheckpointManifest where
  domain := .checkpoint
  lifetime := .evidence
  schemaVersion m := m.schemaVersion
  signatureBytes m := m.producerSignature
  expiresAtUnixMs _ := 0
  issuedAtUnixMs m := m.createdAtUnixMs
  signerId m := m.producerNodeId

instance : Signable ReplicaAck where
  domain := .replicaAck
  lifetime := .evidence
  schemaVersion m := m.schemaVersion
  signatureBytes m := m.holderSignature
  expiresAtUnixMs _ := 0
  issuedAtUnixMs m := m.ackedAtUnixMs
  signerId m := m.holderDeviceId

instance : Signable ArtifactRef where
  domain := .artifact
  lifetime := .evidence
  schemaVersion m := m.schemaVersion
  signatureBytes m := m.producerSignature
  expiresAtUnixMs _ := 0
  issuedAtUnixMs m := m.createdAtUnixMs
  signerId m := m.attemptId

instance : Signable AttemptReport where
  domain := .attemptReport
  lifetime := .evidence
  schemaVersion m := m.schemaVersion
  signatureBytes m := m.nodeSignature
  expiresAtUnixMs _ := 0
  issuedAtUnixMs m := m.issuedAtUnixMs
  signerId m := m.nodeId

instance : Signable AttemptReportAck where
  domain := .attemptReportAck
  lifetime := .shortLived
  schemaVersion m := m.schemaVersion
  signatureBytes m := m.coordinatorSignature
  expiresAtUnixMs m := m.issuedAtUnixMs.saturatingAdd grantTtlMs
  issuedAtUnixMs m := m.issuedAtUnixMs
  signerId m := m.coordinatorId
  replayNonce m := some m.sessionNonce

instance : Signable GrantAckReceipt where
  domain := .grantAckReceipt
  lifetime := .shortLived
  schemaVersion m := m.schemaVersion
  signatureBytes m := m.coordinatorSignature
  expiresAtUnixMs m := m.issuedAtUnixMs.saturatingAdd grantTtlMs
  issuedAtUnixMs m := m.issuedAtUnixMs
  signerId m := m.coordinatorDeviceId
  replayNonce m := some m.nonce

instance : Signable CanonicalDecision where
  domain := .canonical
  lifetime := .evidence
  schemaVersion m := m.schemaVersion
  signatureBytes m := m.coordinatorSignature
  expiresAtUnixMs _ := 0
  issuedAtUnixMs m := m.decidedAtUnixMs
  signerId m := m.jobId

instance : Signable RevokeLeaseNotice where
  domain := .leaseRevoke
  lifetime := .evidence
  schemaVersion m := m.schemaVersion
  signatureBytes m := m.coordinatorSignature
  expiresAtUnixMs _ := 0
  issuedAtUnixMs m := m.issuedAtUnixMs
  signerId m := m.leaseId

instance : Signable NeighborUnreachableReport where
  domain := .neighborUnreachableReport
  lifetime := .shortLived
  schemaVersion m := m.schemaVersion
  signatureBytes m := m.reporterSignature
  expiresAtUnixMs m := m.observedAtUnixMs.saturatingAdd neighborReportTtlMs
  issuedAtUnixMs m := m.observedAtUnixMs
  signerId m := m.reporterDeviceId
  replayNonce m := some m.requestNonce

instance : Signable NodeHeartbeat where
  domain := .nodeHeartbeat
  lifetime := .shortLived
  schemaVersion m := m.schemaVersion
  signatureBytes m := m.nodeSignature
  expiresAtUnixMs m := m.issuedAtUnixMs.saturatingAdd grantTtlMs
  issuedAtUnixMs m := m.issuedAtUnixMs
  signerId m := m.deviceId
  replayNonce m := some m.requestNonce

/-- One name for each signable message type. -/
inductive SignableType where
  | jobManifest
  | lease
  | executionGrant
  | agentGrantAck
  | renewLeaseRequest
  | renewLeaseResult
  | agentSessionHello
  | resumeLeaseRequest
  | resumeLeaseResult
  | checkpointManifest
  | replicaAck
  | artifactRef
  | attemptReport
  | attemptReportAck
  | grantAckReceipt
  | canonicalDecision
  | revokeLeaseNotice
  | neighborUnreachableReport
  | nodeHeartbeat

namespace SignableType

abbrev Message : SignableType → Type
  | jobManifest => JobManifest
  | lease => Lease
  | executionGrant => ExecutionGrant
  | agentGrantAck => AgentGrantAck
  | renewLeaseRequest => RenewLeaseRequest
  | renewLeaseResult => RenewLeaseResult
  | agentSessionHello => AgentSessionHello
  | resumeLeaseRequest => ResumeLeaseRequest
  | resumeLeaseResult => ResumeLeaseResult
  | checkpointManifest => CheckpointManifest
  | replicaAck => ReplicaAck
  | artifactRef => ArtifactRef
  | attemptReport => AttemptReport
  | attemptReportAck => AttemptReportAck
  | grantAckReceipt => GrantAckReceipt
  | canonicalDecision => CanonicalDecision
  | revokeLeaseNotice => RevokeLeaseNotice
  | neighborUnreachableReport => NeighborUnreachableReport
  | nodeHeartbeat => NodeHeartbeat

instance signable : (type : SignableType) → Signable type.Message
  | jobManifest => inferInstanceAs (Signable JobManifest)
  | lease => inferInstanceAs (Signable Lease)
  | executionGrant => inferInstanceAs (Signable ExecutionGrant)
  | agentGrantAck => inferInstanceAs (Signable AgentGrantAck)
  | renewLeaseRequest => inferInstanceAs (Signable RenewLeaseRequest)
  | renewLeaseResult => inferInstanceAs (Signable RenewLeaseResult)
  | agentSessionHello => inferInstanceAs (Signable AgentSessionHello)
  | resumeLeaseRequest => inferInstanceAs (Signable ResumeLeaseRequest)
  | resumeLeaseResult => inferInstanceAs (Signable ResumeLeaseResult)
  | checkpointManifest => inferInstanceAs (Signable CheckpointManifest)
  | replicaAck => inferInstanceAs (Signable ReplicaAck)
  | artifactRef => inferInstanceAs (Signable ArtifactRef)
  | attemptReport => inferInstanceAs (Signable AttemptReport)
  | attemptReportAck => inferInstanceAs (Signable AttemptReportAck)
  | grantAckReceipt => inferInstanceAs (Signable GrantAckReceipt)
  | canonicalDecision => inferInstanceAs (Signable CanonicalDecision)
  | revokeLeaseNotice => inferInstanceAs (Signable RevokeLeaseNotice)
  | neighborUnreachableReport => inferInstanceAs (Signable NeighborUnreachableReport)
  | nodeHeartbeat => inferInstanceAs (Signable NodeHeartbeat)

end SignableType

end Gputeer.Protocol
