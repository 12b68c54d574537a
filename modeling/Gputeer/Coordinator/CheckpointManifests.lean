import Gputeer.Coordinator.ControlDb

/-! The inbox of verified checkpoint manifests. A manifest is bound to the attempt that made it while that
attempt still has its node; nothing else follows from it. -/

namespace Gputeer.Protocol

deriving instance Inhabited for Digest
deriving instance Inhabited for ReplicaAck

end Gputeer.Protocol

namespace Gputeer.Coordinator

open Protocol Text

/-- The encodings of the evidence, which lie outside as well. -/
structure EvidenceCodec extends Codec where
  encodeCheckpointManifest : CheckpointManifest → List UInt8
  encodeReplicaAck : ReplicaAck → List UInt8
  decodeReplicaAck : List UInt8 → Option ReplicaAck
  encodeDigest : Digest → List UInt8
  decodeDigest : List UInt8 → Option Digest
  decodeReplicaAck_nil : decodeReplicaAck [] = some default
  decodeDigest_nil : decodeDigest [] = some default

/-- The failure of a statement, as the stores tell it. -/
inductive SqlFailure where
  | busy
  | other (message : String)
  deriving DecidableEq

/-- A digest of the 256-bit hash: `HashAlgorithm::Blake3256`. -/
def isBlake3 (digest : Digest) : Bool := digest.algo = 1 && digest.value.length = 32

namespace CheckpointManifestStore

structure CheckpointManifestRow where
  jobId : String
  attemptId : String
  producerNodeId : String
  verifiedSignerId : String
  fenceEpoch : List UInt8
  rootDigest : List UInt8
  manifestHash : List UInt8
  manifestBody : List UInt8
  deriving DecidableEq

abbrev ManifestTable := Table String CheckpointManifestRow

structure StoredCheckpointManifestBinding where
  manifest : CheckpointManifest
  manifestHash : ManifestHash
  signerIdAtSubmission : String
  boundCheckpointId : String
  boundJobId : String
  boundAttemptId : String
  boundProducerNodeId : String
  boundFenceEpoch : UInt64
  boundRootDigest : Digest
  deriving DecidableEq

structure StoreCheckpointManifestResult where
  binding : StoredCheckpointManifestBinding
  /-- `false`: the same message came again. -/
  created : Bool
  deriving DecidableEq

inductive CheckpointBindingField where
  | jobId
  | attemptId
  | producerAndSigner
  | fenceEpoch
  | reservationJobId
  | reservationAttemptId
  deriving DecidableEq

inductive CheckpointManifestCorruption where
  | emptyBody
  | undecodableBody
  | hashEncoding
  | hashMismatch
  | invalidManifest
  | checkpointIdMismatch
  | jobIdMismatch
  | attemptIdMismatch
  | producerNodeIdMismatch
  | signerIdMismatch
  | fenceEpochEncoding
  | fenceEpochMismatch
  | rootDigestEncoding
  | rootDigestMismatch
  | missingAttempt
  | attemptBinding
  deriving DecidableEq

inductive CheckpointManifestStoreError where
  | invalidInput (field : String)
  | attemptNotFound (attemptId : String)
  | reservationNotFound (nodeId : String)
  | bindingMismatch (field : CheckpointBindingField)
  | manifestConflict (checkpointId : String)
  | corrupt (checkpointId : String) (kind : CheckpointManifestCorruption)
  | staging (message : String)
  | io (message : String)
  | lockTimeout
  deriving DecidableEq

def mapSqlError : SqlFailure → CheckpointManifestStoreError
  | .busy => .lockTimeout
  | .other message => .io message

def mapStagingError (fault : StagingStoreError) : CheckpointManifestStoreError := .staging fault.display

/-- The checked root of a manifest. -/
def validateManifestInput (manifest : CheckpointManifest) :
    Except CheckpointManifestStoreError Digest := do
  Except.ensure (manifest.schemaVersion ≠ 0) (.invalidInput "schema_version")
  Except.ensure (isBlank manifest.checkpointId = false) (.invalidInput "checkpoint_id")
  Except.ensure (isBlank manifest.jobId = false) (.invalidInput "job_id")
  Except.ensure (isBlank manifest.attemptId = false) (.invalidInput "attempt_id")
  Except.ensure (isBlank manifest.producerNodeId = false) (.invalidInput "producer_node_id")
  Except.ensure (manifest.producerSignature ≠ []) (.invalidInput "producer_signature")
  let digest ← Except.ofOption (.invalidInput "root_digest") manifest.rootDigest
  Except.ensure (isBlake3 digest = true) (.invalidInput "root_digest")
  .ok digest

variable (codec : EvidenceCodec) (control : ControlDb)

section Reads

/-- A row is checked against its body and against the attempt whenever it is read. -/
def readManifestRow (checkpointId : String) (row : CheckpointManifestRow) :
    Except CheckpointManifestStoreError StoredCheckpointManifestBinding := do
  let corrupt := CheckpointManifestStoreError.corrupt checkpointId
  Except.ensure (row.manifestBody ≠ []) (corrupt .emptyBody)
  let manifestHash ← (decodeHash row.manifestHash).mapError fun _ => corrupt .hashEncoding
  Except.ensure (codec.blake3 row.manifestBody = manifestHash) (corrupt .hashMismatch)
  let manifest ← Except.ofOption (corrupt .undecodableBody)
    (codec.decodeCheckpointManifest row.manifestBody)
  let _ ← (validateManifestInput manifest).mapError fun _ => corrupt .invalidManifest
  Except.ensure (manifest.checkpointId = checkpointId) (corrupt .checkpointIdMismatch)
  Except.ensure (manifest.jobId = row.jobId) (corrupt .jobIdMismatch)
  Except.ensure (manifest.attemptId = row.attemptId) (corrupt .attemptIdMismatch)
  Except.ensure (manifest.producerNodeId = row.producerNodeId) (corrupt .producerNodeIdMismatch)
  Except.ensure (row.verifiedSignerId = row.producerNodeId ∧
    row.verifiedSignerId = manifest.producerNodeId) (corrupt .signerIdMismatch)
  let boundFenceEpoch ← (decodeU64 row.fenceEpoch "fence_epoch").mapError
    fun _ => corrupt .fenceEpochEncoding
  Except.ensure (manifest.fenceEpoch = boundFenceEpoch) (corrupt .fenceEpochMismatch)
  Except.ensure (row.rootDigest ≠ []) (corrupt .rootDigestEncoding)
  let boundRootDigest ← Except.ofOption (corrupt .rootDigestEncoding)
    (codec.decodeDigest row.rootDigest)
  Except.ensure (isBlake3 boundRootDigest = true) (corrupt .rootDigestEncoding)
  Except.ensure (manifest.rootDigest = some boundRootDigest) (corrupt .rootDigestMismatch)
  let found ← (fetchAttempt control row.attemptId).mapError fun fault =>
    match fault with
    | .corruptData _ => corrupt .attemptBinding
    | other => mapStagingError other
  let attempt ← Except.ofOption (corrupt .missingAttempt) found
  Except.ensure (attempt.jobId = row.jobId) (corrupt .jobIdMismatch)
  Except.ensure (attempt.nodeIds = [row.producerNodeId]) (corrupt .producerNodeIdMismatch)
  Except.ensure (attempt.fenceEpoch = boundFenceEpoch) (corrupt .fenceEpochMismatch)
  .ok { manifest, manifestHash, signerIdAtSubmission := row.verifiedSignerId,
        boundCheckpointId := checkpointId, boundJobId := row.jobId,
        boundAttemptId := row.attemptId, boundProducerNodeId := row.producerNodeId,
        boundFenceEpoch, boundRootDigest }

def fetchManifestBinding (manifests : ManifestTable) (checkpointId : String) :
    Except CheckpointManifestStoreError (Option StoredCheckpointManifestBinding) :=
  Except.onSome (readManifestRow codec control checkpointId) manifests[checkpointId]?

end Reads

section Writes

variable (manifest : CheckpointManifest) (signerId : String)

def bindAttemptIdentityAndFence (attempt : StoredAttempt) :
    Except CheckpointManifestStoreError Unit := do
  Except.ensure (manifest.jobId = attempt.jobId) (.bindingMismatch .jobId)
  Except.ensure (manifest.attemptId = attempt.attemptId) (.bindingMismatch .attemptId)
  Except.ensure (manifest.fenceEpoch = attempt.fenceEpoch) (.bindingMismatch .fenceEpoch)

def bindReservationIdentity (reservation : StoredNodeReservation) :
    Except CheckpointManifestStoreError Unit := do
  Except.ensure (manifest.jobId = reservation.jobId) (.bindingMismatch .reservationJobId)
  Except.ensure (manifest.attemptId = reservation.attemptId) (.bindingMismatch .reservationAttemptId)

def bindProducerAndSigner (durableNodeId : String) (reservation : StoredNodeReservation) :
    Except CheckpointManifestStoreError Unit :=
  Except.ensure (manifest.producerNodeId = durableNodeId ∧
      manifest.producerNodeId = reservation.nodeId ∧ signerId = manifest.producerNodeId ∧
      signerId = durableNodeId ∧ signerId = reservation.nodeId)
    (.bindingMismatch .producerAndSigner)

/-- The manifest belongs to an attempt that has its node. -/
def bindManifest : Except CheckpointManifestStoreError Unit := do
  let found ← (fetchAttempt control manifest.attemptId).mapError mapStagingError
  let attempt ← Except.ofOption (.attemptNotFound manifest.attemptId) found
  bindAttemptIdentityAndFence manifest attempt
  -- The row of an attempt has exactly one node, or it is not read.
  let durableNodeId := attempt.nodeIds.headD ""
  let reserved ← (fetchNodeReservation control durableNodeId).mapError mapStagingError
  let reservation ← Except.ofOption (.reservationNotFound durableNodeId) reserved
  bindReservationIdentity manifest reservation
  bindProducerAndSigner manifest signerId durableNodeId reservation

def manifestRow (rootDigest : Digest) : CheckpointManifestRow where
  jobId := manifest.jobId
  attemptId := manifest.attemptId
  producerNodeId := manifest.producerNodeId
  verifiedSignerId := signerId
  fenceEpoch := encodeU64 manifest.fenceEpoch
  rootDigest := codec.encodeDigest rootDigest
  manifestHash := (codec.blake3 (codec.encodeCheckpointManifest manifest)).toList
  manifestBody := codec.encodeCheckpointManifest manifest

def bindingOf (rootDigest : Digest) : StoredCheckpointManifestBinding where
  manifest
  manifestHash := codec.blake3 (codec.encodeCheckpointManifest manifest)
  signerIdAtSubmission := signerId
  boundCheckpointId := manifest.checkpointId
  boundJobId := manifest.jobId
  boundAttemptId := manifest.attemptId
  boundProducerNodeId := manifest.producerNodeId
  boundFenceEpoch := manifest.fenceEpoch
  boundRootDigest := rootDigest

/-- What happens inside the transaction. -/
def storeWithin (manifests : ManifestTable) (rootDigest : Digest) :
    Except CheckpointManifestStoreError (ManifestTable × StoreCheckpointManifestResult) := do
  match ← fetchManifestBinding codec control manifests manifest.checkpointId with
  | some binding =>
      Except.ensure (binding.manifest = manifest ∧ binding.signerIdAtSubmission = signerId)
        (.manifestConflict manifest.checkpointId)
      .ok (manifests, ⟨binding, false⟩)
  | none =>
      bindManifest control manifest signerId
      .ok (manifests.insert manifest.checkpointId (manifestRow codec manifest signerId rootDigest),
        ⟨bindingOf codec manifest signerId rootDigest, true⟩)

/-- `sqlFailure` is the failure of any statement of the transaction, which then commits nothing. -/
def storeVerifiedManifest (manifests : ManifestTable) (verified : Verified CheckpointManifest)
    (sqlFailure : Option SqlFailure) :
    Except CheckpointManifestStoreError (ManifestTable × StoreCheckpointManifestResult) := do
  let rootDigest ← validateManifestInput verified.inner
  match sqlFailure with
  | some failure => .error (mapSqlError failure)
  | none => storeWithin codec control verified.inner verified.signerId manifests rootDigest

end Writes

end CheckpointManifestStore

end Gputeer.Coordinator
