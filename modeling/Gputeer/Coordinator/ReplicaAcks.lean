import Gputeer.Coordinator.CheckpointManifests
import Gputeer.Lib.DerivedOrder

/-! The inbox of verified acknowledgements of replicas. Each is bound to the manifest of its checkpoint and to
its very root; nothing is counted. -/

namespace Gputeer.Coordinator.ReplicaAckStore

open Protocol Text CheckpointManifestStore

structure AckKey where
  checkpointId : String
  holderDeviceId : String
  ackedAtUnixMs : List UInt8
  deriving DecidableEq, Ord

namespace AckKey

theorem compare_eq (left right : AckKey) : compare left right = compareLex (compareOn checkpointId)
    (compareLex (compareOn holderDeviceId) (compareOn ackedAtUnixMs)) left right := by
  change instOrdAckKey.ord left right = _
  simp only [instOrdAckKey.ord, Ordering.then_eq]
  rfl

instance : Std.TransOrd AckKey := DerivedOrder.transOrd_of_eq compare_eq

instance : Std.LawfulEqOrd AckKey where
  eq_of_compare {left right} same := by
    rw [compare_eq] at same
    simp only [compareLex, compareOn, Ordering.then_eq_eq] at same
    cases left
    cases right
    rw [mk.injEq]
    exact ⟨Std.LawfulEqCmp.eq_of_compare same.1, Std.LawfulEqCmp.eq_of_compare same.2.1,
      Std.LawfulEqCmp.eq_of_compare same.2.2⟩

end AckKey

/-- The columns beside the key. -/
structure ReplicaAckRow where
  verifiedSignerId : String
  rootDigest : List UInt8
  ackHash : List UInt8
  ackBody : List UInt8
  deriving DecidableEq

abbrev AckTable := Table AckKey ReplicaAckRow

structure StoredReplicaAckBinding where
  ack : ReplicaAck
  ackHash : ManifestHash
  signerIdAtSubmission : String
  boundCheckpointId : String
  boundHolderDeviceId : String
  boundAckedAtUnixMs : UInt64
  boundRootDigest : Digest
  deriving DecidableEq

structure StoreReplicaAckResult where
  binding : StoredReplicaAckBinding
  /-- `false`: the same message came again. -/
  created : Bool
  deriving DecidableEq

inductive ReplicaAckBindingField where
  | holderAndSigner
  | rootDigest
  deriving DecidableEq

inductive ReplicaAckCorruption where
  | emptyBody
  | undecodableBody
  | hashEncoding
  | hashMismatch
  | invalidAck
  | checkpointIdMismatch
  | holderDeviceIdMismatch
  | signerIdMismatch
  | ackedAtEncoding
  | ackedAtMismatch
  | rootDigestEncoding
  | rootDigestMismatch
  | missingCheckpointAnchor
  | checkpointRootMismatch
  deriving DecidableEq

inductive ReplicaAckStoreError where
  | invalidInput (field : String)
  | checkpointNotFound (checkpointId : String)
  | bindingMismatch (field : ReplicaAckBindingField)
  | ackConflict (checkpointId holderDeviceId : String) (ackedAtUnixMs : UInt64)
  | corrupt (checkpointId holderDeviceId : String) (kind : ReplicaAckCorruption)
  | checkpointAnchor (fault : CheckpointManifestStoreError)
  | io (message : String)
  | lockTimeout
  deriving DecidableEq

def mapSqlError : SqlFailure → ReplicaAckStoreError
  | .busy => .lockTimeout
  | .other message => .io message

/-- The checked root of an acknowledgement. -/
def validateAckInput (ack : ReplicaAck) : Except ReplicaAckStoreError Digest := do
  Except.ensure (ack.schemaVersion ≠ 0) (.invalidInput "schema_version")
  Except.ensure (isBlank ack.checkpointId = false) (.invalidInput "checkpoint_id")
  Except.ensure (isBlank ack.holderDeviceId = false) (.invalidInput "holder_device_id")
  Except.ensure (ack.holderSignature ≠ []) (.invalidInput "holder_signature")
  Except.ensure (ack.ackedAtUnixMs ≠ 0) (.invalidInput "acked_at_unix_ms")
  let digest ← Except.ofOption (.invalidInput "root_digest") ack.rootDigest
  Except.ensure (isBlake3 digest = true) (.invalidInput "root_digest")
  .ok digest

variable (codec : EvidenceCodec) (control : ControlDb) (manifests : ManifestTable)

section Reads

def corrupt (key : AckKey) (kind : ReplicaAckCorruption) : ReplicaAckStoreError :=
  .corrupt key.checkpointId key.holderDeviceId kind

def loadAnchorForStoredAck (key : AckKey) :
    Except ReplicaAckStoreError StoredCheckpointManifestBinding := do
  let found ← (CheckpointManifestStore.fetchManifestBinding codec control manifests
    key.checkpointId).mapError .checkpointAnchor
  Except.ofOption (corrupt key .missingCheckpointAnchor) found

/-- A row is checked against its body and against the manifest whenever it is read. -/
def validateAckRow (anchor : StoredCheckpointManifestBinding) (key : AckKey) (row : ReplicaAckRow) :
    Except ReplicaAckStoreError StoredReplicaAckBinding := do
  Except.ensure (row.ackBody ≠ []) (corrupt key .emptyBody)
  let ackHash ← (decodeHash row.ackHash).mapError fun _ => corrupt key .hashEncoding
  Except.ensure (codec.blake3 row.ackBody = ackHash) (corrupt key .hashMismatch)
  let ack ← Except.ofOption (corrupt key .undecodableBody) (codec.decodeReplicaAck row.ackBody)
  let _ ← (validateAckInput ack).mapError fun _ => corrupt key .invalidAck
  Except.ensure (ack.checkpointId = key.checkpointId) (corrupt key .checkpointIdMismatch)
  Except.ensure (ack.holderDeviceId = key.holderDeviceId) (corrupt key .holderDeviceIdMismatch)
  Except.ensure (row.verifiedSignerId = key.holderDeviceId ∧
    row.verifiedSignerId = ack.holderDeviceId) (corrupt key .signerIdMismatch)
  let boundAckedAtUnixMs ← (decodeU64 key.ackedAtUnixMs "acked_at_unix_ms").mapError
    fun _ => corrupt key .ackedAtEncoding
  Except.ensure (ack.ackedAtUnixMs = boundAckedAtUnixMs) (corrupt key .ackedAtMismatch)
  Except.ensure (row.rootDigest ≠ []) (corrupt key .rootDigestEncoding)
  let boundRootDigest ← Except.ofOption (corrupt key .rootDigestEncoding)
    (codec.decodeDigest row.rootDigest)
  Except.ensure (isBlake3 boundRootDigest = true) (corrupt key .rootDigestEncoding)
  Except.ensure (ack.rootDigest = some boundRootDigest) (corrupt key .rootDigestMismatch)
  Except.ensure (key.checkpointId = anchor.boundCheckpointId) (corrupt key .missingCheckpointAnchor)
  Except.ensure (boundRootDigest = anchor.boundRootDigest) (corrupt key .checkpointRootMismatch)
  .ok { ack, ackHash, signerIdAtSubmission := row.verifiedSignerId,
        boundCheckpointId := key.checkpointId, boundHolderDeviceId := key.holderDeviceId,
        boundAckedAtUnixMs, boundRootDigest }

variable (acks : AckTable)

def getAckBinding (checkpointId holderDeviceId : String) (ackedAtUnixMs : UInt64) :
    Except ReplicaAckStoreError (Option StoredReplicaAckBinding) :=
  let key : AckKey := ⟨checkpointId, holderDeviceId, encodeU64 ackedAtUnixMs⟩
  match acks[key]? with
  | none => .ok none
  | some row => do
      let anchor ← loadAnchorForStoredAck codec control manifests key
      some <$> validateAckRow codec anchor key row

/-- `ORDER BY acked_at_unix_ms ASC, holder_device_id ASC` -/
def byAckTime : AckKey × ReplicaAckRow → AckKey × ReplicaAckRow → Ordering :=
  compareLex (compareOn (·.1.ackedAtUnixMs)) (compareOn (·.1.holderDeviceId))

def acksOf (checkpointId : String) : List (AckKey × ReplicaAckRow) :=
  (acks.toList.filter fun entry => entry.1.checkpointId = checkpointId).mergeSort
    fun left right => (byAckTime left right).isLE

/-- One manifest is the anchor of all acknowledgements of its checkpoint. -/
def listAckBindings (checkpointId : String) :
    Except ReplicaAckStoreError (List StoredReplicaAckBinding) :=
  match acksOf acks checkpointId with
  | [] => .ok []
  | first :: rest => do
      let anchor ← loadAnchorForStoredAck codec control manifests first.1
      (first :: rest).mapM fun entry => validateAckRow codec anchor entry.1 entry.2

end Reads

section Writes

variable (ack : ReplicaAck) (signerId : String)

def keyOf : AckKey := ⟨ack.checkpointId, ack.holderDeviceId, encodeU64 ack.ackedAtUnixMs⟩

def ackRow (rootDigest : Digest) : ReplicaAckRow where
  verifiedSignerId := signerId
  rootDigest := codec.encodeDigest rootDigest
  ackHash := (codec.blake3 (codec.encodeReplicaAck ack)).toList
  ackBody := codec.encodeReplicaAck ack

def ackBindingOf (rootDigest : Digest) : StoredReplicaAckBinding where
  ack
  ackHash := codec.blake3 (codec.encodeReplicaAck ack)
  signerIdAtSubmission := signerId
  boundCheckpointId := ack.checkpointId
  boundHolderDeviceId := ack.holderDeviceId
  boundAckedAtUnixMs := ack.ackedAtUnixMs
  boundRootDigest := rootDigest

/-- Everything is checked inside the transaction. -/
def storeAckWithin (acks : AckTable) :
    Except ReplicaAckStoreError (AckTable × StoreReplicaAckResult) := do
  let rootDigest ← validateAckInput ack
  Except.ensure (signerId = ack.holderDeviceId) (.bindingMismatch .holderAndSigner)
  let found ← (CheckpointManifestStore.fetchManifestBinding codec control manifests
    ack.checkpointId).mapError .checkpointAnchor
  let anchor ← Except.ofOption (.checkpointNotFound ack.checkpointId) found
  Except.ensure (rootDigest = anchor.boundRootDigest) (.bindingMismatch .rootDigest)
  match acks[keyOf ack]? with
  | some row =>
      let binding ← validateAckRow codec anchor (keyOf ack) row
      Except.ensure (binding.ack = ack ∧ binding.signerIdAtSubmission = signerId)
        (.ackConflict ack.checkpointId ack.holderDeviceId ack.ackedAtUnixMs)
      .ok (acks, ⟨binding, false⟩)
  | none =>
      .ok (acks.insert (keyOf ack) (ackRow codec ack signerId rootDigest),
        ⟨ackBindingOf codec ack signerId rootDigest, true⟩)

/-- `sqlFailure` is the failure of any statement of the transaction, which then commits nothing. -/
def storeVerifiedAck (acks : AckTable) (verified : Verified ReplicaAck)
    (sqlFailure : Option SqlFailure) :
    Except ReplicaAckStoreError (AckTable × StoreReplicaAckResult) :=
  match sqlFailure with
  | some failure => .error (mapSqlError failure)
  | none => storeAckWithin codec control manifests verified.inner verified.signerId acks

end Writes

end Gputeer.Coordinator.ReplicaAckStore
