import Gputeer.Coordinator.StagingStore
import Gputeer.Protocol.Signable

/-! The signed grant for a stored reservation. No row is trusted alone: job, attempt, lease and
reservation are compared before anything is signed. -/

namespace Gputeer.Coordinator

open Protocol Text

structure StoredGrantRequest where
  jobId : String
  attemptId : String
  leaseId : String
  grantId : String
  issuedAtUnixMs : UInt64
  expiresAtUnixMs : UInt64
  nonce : List UInt8
  poolMode : Bool
  signedReassignmentGraceMs : UInt64
  deriving DecidableEq

inductive GrantRefusal where
  | lifetime (issuedAt expiresAt : UInt64)
  | unknownJob (jobId : String)
  | jobNotStarted (state : JobState)
  | attemptMissing (attemptId : String)
  | leaseMissing (leaseId : String)
  | rowsDiffer (label attemptValue leaseValue : String)
  | fenceDiffers (attemptEpoch leaseEpoch : UInt64)
  | attemptOfOtherJob (attemptJobId requestJobId : String)
  | alreadyAccepted (attemptId : String) (state : AttemptState)
  | replaced (attemptId : String) (latest : Option String)
  | noReservation (nodeId : String)
  | reservedByOther (nodeId jobId attemptId : String)
  | leaseRevoked (revokedAt : UInt64)
  | leaseExpired (issuedAt leaseExpiresAt : UInt64)
  | outlivesLease (expiresAt leaseExpiresAt : UInt64)
  | legacyJob (jobId : String)
  | manifestMissing (jobId : String)
  | manifestRejected (fault : VerifyError)
  | outlivesManifest (expiresAt manifestExpiresAt : UInt64)
  | revokedMeanwhile (leaseId : String) (revokedAt : UInt64)
  | ownGrantRejected (fault : VerifyError)
  | ownLeaseRejected (fault : VerifyError)
  deriving DecidableEq

/-- A store that cannot be read is told apart from a request that is refused. -/
inductive StoredGrantError where
  | storage (message : String)
  | refused (reason : GrantRefusal)
  deriving DecidableEq

/-- An Ed25519 key pair: signing, and the check with its public key. -/
structure SigningKey where
  sign : List UInt8 → List UInt8
  verifies : List UInt8 → List UInt8 → Bool

section Rows

variable (db : ControlDb) (request : StoredGrantRequest)

/-- The first of the three ids in which the rows differ. -/
def checkRowIds (attempt : StoredAttempt) (lease : StoredLease) : Except StoredGrantError Unit := do
  Except.ensure (attempt.jobId = lease.jobId)
    (.refused (.rowsDiffer "job_id" attempt.jobId lease.jobId))
  Except.ensure (attempt.attemptId = lease.attemptId)
    (.refused (.rowsDiffer "attempt_id" attempt.attemptId lease.attemptId))
  Except.ensure (attempt.leaseId = lease.leaseId)
    (.refused (.rowsDiffer "lease_id" attempt.leaseId lease.leaseId))

def checkAttempt (attempt : StoredAttempt) (lease : StoredLease) :
    Except StoredGrantError Unit := do
  checkRowIds attempt lease
  Except.ensure (attempt.fenceEpoch = lease.fenceEpoch)
    (.refused (.fenceDiffers attempt.fenceEpoch lease.fenceEpoch))
  Except.ensure (attempt.jobId = request.jobId)
    (.refused (.attemptOfOtherJob attempt.jobId request.jobId))
  Except.ensure (attempt.state = .created)
    (.refused (.alreadyAccepted attempt.attemptId attempt.state))
  let latest := latestAttemptForJob db request.jobId
  Except.ensure (latest = some request.attemptId)
    (.refused (.replaced request.attemptId latest))

def checkReservation (lease : StoredLease) : Except StoredGrantError Unit := do
  let found ← (fetchNodeReservation db lease.holderNodeId).mapError
    (fun fault => .storage ("예약 조회 실패: " ++ fault.display))
  let reservation ← Except.ofOption (.refused (.noReservation lease.holderNodeId)) found
  Except.ensure (reservation.jobId = request.jobId ∧ reservation.attemptId = request.attemptId)
    (.refused (.reservedByOther lease.holderNodeId reservation.jobId reservation.attemptId))

def checkLease (lease : StoredLease) : Except StoredGrantError Unit := do
  match lease.revokedAtUnixMs with
  | some revokedAt => .error (.refused (.leaseRevoked revokedAt))
  | none =>
      Except.ensure (¬ lease.expiresAtUnixMs ≤ request.issuedAtUnixMs)
        (.refused (.leaseExpired request.issuedAtUnixMs lease.expiresAtUnixMs))
      Except.ensure (¬ request.expiresAtUnixMs > lease.expiresAtUnixMs)
        (.refused (.outlivesLease request.expiresAtUnixMs lease.expiresAtUnixMs))

end Rows

/-- What the grant is made from. -/
structure StoredGrantFacts where
  job : StoredJob
  attempt : StoredAttempt
  lease : StoredLease
  binding : StoredManifestBinding

section Signed

variable (codec : Codec)

def blake3Bytes (bytes : List UInt8) : List UInt8 := (codec.blake3 bytes).toList

/-- The manifest the submitter signed, checked again at the time of issue. -/
def checkManifest (db : ControlDb) (request : StoredGrantRequest)
    (submitters : SignatureVerifier) : Except StoredGrantError StoredManifestBinding := do
  let found ← (getManifestBinding codec db request.jobId).mapError (fun fault =>
    match fault with
    | .legacyManifestMissing jobId => .refused (.legacyJob jobId)
    | other => .storage ("저장된 Manifest 를 읽지 못했다: " ++ other.display))
  let binding ← Except.ofOption (.refused (.manifestMissing request.jobId)) found
  let verified ← (verify (blake3Bytes codec) binding.manifest 1 submitters
    request.issuedAtUnixMs NoReplayCheck.mk).1.mapError (fun fault =>
      .refused (.manifestRejected fault))
  Except.ensure (¬ request.expiresAtUnixMs > verified.inner.expiresAtUnixMs)
    (.refused (.outlivesManifest request.expiresAtUnixMs verified.inner.expiresAtUnixMs))
  .ok binding

/-- Everything that is read and compared before the lease is signed. -/
def checkStoredGrant (db : ControlDb) (request : StoredGrantRequest)
    (submitters : SignatureVerifier) : Except StoredGrantError StoredGrantFacts := do
  Except.ensure (¬ request.issuedAtUnixMs ≥ request.expiresAtUnixMs)
    (.refused (.lifetime request.issuedAtUnixMs request.expiresAtUnixMs))
  let jobFound ← (fetchJob db request.jobId).mapError
    (fun fault => .storage ("Job 조회 실패: " ++ fault.display))
  let job ← Except.ofOption (.refused (.unknownJob request.jobId)) jobFound
  Except.ensure (job.state = .staging ∨ job.state = .running)
    (.refused (.jobNotStarted job.state))
  let attemptFound ← (fetchAttempt db request.attemptId).mapError
    (fun fault => .storage ("Attempt 조회 실패: " ++ fault.display))
  let attempt ← Except.ofOption (.refused (.attemptMissing request.attemptId)) attemptFound
  let lease ← Except.ofOption (.refused (.leaseMissing request.leaseId))
    (fetchLease db request.leaseId)
  checkAttempt db request attempt lease
  checkReservation db request lease
  checkLease request lease
  let binding ← checkManifest codec db request submitters
  .ok ⟨job, attempt, lease, binding⟩

def u32FromStored (value : UInt64) (field : String) : Except String UInt32 :=
  if value.toNat < 2 ^ 32 then .ok (UInt32.ofNat value.toNat)
  else .error s!"lease store 의 {field} 값({value})이 u32 범위를 넘는다 — 저장소 손상 의심"

/-- A lease without a signed grace stays in the first version of the schema. -/
def unsignedLeaseFromStored (stored : StoredLease) : Except String Lease := do
  let maxTotalDurationSeconds ←
    u32FromStored stored.maxTotalDurationSeconds "max_total_duration_seconds"
  .ok { schemaVersion := if stored.reassignmentGraceMs ≠ 0 then 2 else 1
        leaseId := stored.leaseId
        jobId := stored.jobId
        attemptId := stored.attemptId
        fenceEpoch := stored.fenceEpoch
        coordinatorTerm := stored.coordinatorTerm
        holderNodeId := stored.holderNodeId
        memberNodeIds := [stored.holderNodeId]
        issuingCoordinatorId := stored.issuingCoordinatorId
        issuedAtUnixMs := stored.issuedAtUnixMs
        expiresAtUnixMs := stored.expiresAtUnixMs
        renewAfterUnixMs := stored.renewAfterUnixMs
        maxTotalDurationSeconds
        reassignmentGraceMs := stored.reassignmentGraceMs
        scope := none
        coordinatorSignature := [] }

def storedToSignedLease (key : SigningKey) (stored : StoredLease) : Except String Lease := do
  let lease ← unsignedLeaseFromStored stored
  .ok { lease with coordinatorSignature := key.sign (signingInput lease) }

/-- The grace is raised and stored before the lease is signed. -/
def raiseForGrant (db : ControlDb) (request : StoredGrantRequest) (lease : StoredLease) :
    Except StoredGrantError (ControlDb × StoredLease) :=
  if request.signedReassignmentGraceMs = 0 then .ok (db, lease)
  else
    (raiseReassignmentGrace db lease.leaseId request.signedReassignmentGraceMs).mapError
      (fun fault =>
        match fault with
        | .revoked revokedAt => .refused (.revokedMeanwhile lease.leaseId revokedAt)
        | other => .storage ("재배치 유예를 저장하지 못했다: " ++ other.display))

def readResumePoint (body : Option (List UInt8)) :
    Except StoredGrantError (Option CheckpointManifest) :=
  Except.onSome (fun bytes => Except.ofOption (.storage "저장된 재개 지점을 읽지 못했다")
    (codec.decodeCheckpointManifest bytes)) body

/-- A grant of the pool is the fourth version, one with a point to resume from the third. -/
def grantSchemaVersion (resumes poolMode : Bool) : UInt32 :=
  if poolMode then 4 else if resumes then 3 else 2

/-- The public key of the signer under both names it signs for. -/
def ownVerifier (key : SigningKey) (grant : ExecutionGrant) (lease : Lease) :
    SignatureVerifier := fun signerId message signature =>
  if signerId ≠ grant.coordinatorDeviceId ∧ signerId ≠ lease.issuingCoordinatorId then
    .error .unknownSigner
  else if key.verifies message signature then .ok ()
  else .error .invalidSignature

def verifyOwnOutput (key : SigningKey) (grant : ExecutionGrant) (lease : Lease)
    (atUnixMs : UInt64) : Except StoredGrantError Unit := do
  let _ ← (verify (blake3Bytes codec) grant 4 (ownVerifier key grant lease) atUnixMs
    NoReplayCheck.mk).1.mapError (fun fault => .refused (.ownGrantRejected fault))
  let _ ← (verify (blake3Bytes codec) lease 2 (ownVerifier key grant lease) atUnixMs
    NoReplayCheck.mk).1.mapError (fun fault => .refused (.ownLeaseRejected fault))
  .ok ()

/-- `stored` is the lease row after its grace was raised. -/
def buildGrant (request : StoredGrantRequest) (key : SigningKey) (poolModeDeclared : Bool)
    (facts : StoredGrantFacts) (stored : StoredLease) :
    Except StoredGrantError ExecutionGrant := do
  let lease ← (storedToSignedLease key stored).mapError .storage
  let resumeFrom ← readResumePoint codec facts.job.resumeCheckpoint
  let poolMode := request.poolMode || poolModeDeclared
  let unsigned : ExecutionGrant :=
    { schemaVersion := grantSchemaVersion resumeFrom.isSome poolMode
      grantId := request.grantId
      manifest := some facts.binding.manifest
      manifestHash := some ⟨1, facts.binding.manifestHash.toList⟩
      attemptId := facts.attempt.attemptId
      lease := some lease
      peers := []
      creds := none
      plan := none
      coordinatorDeviceId := stored.issuingCoordinatorId
      coordinatorTerm := stored.coordinatorTerm
      issuedAtUnixMs := request.issuedAtUnixMs
      expiresAtUnixMs := request.expiresAtUnixMs
      nonce := request.nonce
      leaseFromDurableStore := true
      resumeFrom
      poolMode
      coordinatorSignature := [] }
  let grant := { unsigned with coordinatorSignature := key.sign (signingInput unsigned) }
  verifyOwnOutput codec key grant lease request.issuedAtUnixMs
  .ok grant

/-- The database changes when the grace was raised, also if the grant is then not made. -/
def signedGrantFromStored (db : ControlDb) (request : StoredGrantRequest) (key : SigningKey)
    (submitters : SignatureVerifier) (poolModeDeclared : Bool) :
    ControlDb × Except StoredGrantError ExecutionGrant :=
  match checkStoredGrant codec db request submitters with
  | .error fault => (db, .error fault)
  | .ok facts =>
      match raiseForGrant db request facts.lease with
      | .error fault => (db, .error fault)
      | .ok (raised, lease) =>
          (raised, buildGrant codec request key poolModeDeclared facts lease)

end Signed

end Gputeer.Coordinator
