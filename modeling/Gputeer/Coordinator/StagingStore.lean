import Gputeer.Coordinator.JobStore
import Gputeer.Coordinator.LeaseStore

/-! Staging: a queued or paused job gets a new attempt, a fence epoch and a lease in one
transaction, with or without the reservation of its node, and the records of what the node says
about its start. -/

namespace Gputeer.Coordinator

open Protocol Text

structure StageQueuedRequest where
  operationKey : OperationKey
  jobId : String
  attemptId : String
  leaseId : String
  nodeId : String
  selectedGpuIds : List String
  issuingCoordinatorId : String
  coordinatorTerm : UInt64
  issuedAtUnixMs : UInt64
  renewAfterUnixMs : UInt64
  expiresAtUnixMs : UInt64
  maxTotalDurationSeconds : UInt64
  deriving DecidableEq

structure StageQueuedResult where
  job : StoredJob
  attempt : StoredAttempt
  lease : StoredLease
  created : Bool

structure ReservedStageResult where
  reservation : StoredNodeReservation
  stage : StageQueuedResult

inductive ReservedStageError where
  | inventoryMissing (nodeId : String)
  | inventoryRevisionMismatch (nodeId : String) (expected actual : UInt64)
  | selectedGpuMissing (nodeId gpuId : String)
  | nodeAlreadyReserved (nodeId owningJobId owningAttemptId : String)
  | staging (fault : StagingStoreError)
  deriving DecidableEq

def mapJobError : JobStoreError → StagingStoreError
  | .corruptData message => .corruptData message
  | other => .io other.display

namespace StageQueuedRequest

def toLease (request : StageQueuedRequest) (fenceEpoch : UInt64) : StoredLease where
  leaseId := request.leaseId
  jobId := request.jobId
  attemptId := request.attemptId
  holderNodeId := request.nodeId
  fenceEpoch := fenceEpoch
  expiresAtUnixMs := request.expiresAtUnixMs
  issuingCoordinatorId := request.issuingCoordinatorId
  coordinatorTerm := request.coordinatorTerm
  issuedAtUnixMs := request.issuedAtUnixMs
  renewAfterUnixMs := request.renewAfterUnixMs
  maxTotalDurationSeconds := request.maxTotalDurationSeconds
  revokedAtUnixMs := none
  reassignmentGraceMs := 0

def toAttempt (request : StageQueuedRequest) (fenceEpoch : UInt64) : StoredAttempt where
  attemptId := request.attemptId
  jobId := request.jobId
  state := .created
  nodeIds := [request.nodeId]
  fenceEpoch := fenceEpoch
  leaseId := request.leaseId
  createdAtUnixMs := request.issuedAtUnixMs
  revision := 0

def toReservation (request : StageQueuedRequest) (inventoryRevision : UInt64) :
    StoredNodeReservation where
  nodeId := request.nodeId
  jobId := request.jobId
  attemptId := request.attemptId
  inventoryRevision := inventoryRevision
  reservedAtUnixMs := request.issuedAtUnixMs
  selectedGpuIds := request.selectedGpuIds
  expiredAtUnixMs := none

end StageQueuedRequest

def validateIds : List (String × String) → Except StagingStoreError Unit
  | [] => .ok ()
  | (name, value) :: rest =>
      if isBlank value then .error (.invalidInput name) else validateIds rest

def validateRequest (request : StageQueuedRequest) : Except StagingStoreError Unit := do
  validateIds
    [("job_id", request.jobId), ("attempt_id", request.attemptId),
      ("lease_id", request.leaseId), ("node_id", request.nodeId),
      ("issuing_coordinator_id", request.issuingCoordinatorId)]
  let maxDurationMs ← Except.ofOption .invalidLeaseLifetime
    (request.maxTotalDurationSeconds.checkedMul 1000)
  let lifetimeMs ← Except.ofOption .invalidLeaseLifetime
    (request.expiresAtUnixMs.checkedSub request.issuedAtUnixMs)
  Except.ensure (request.maxTotalDurationSeconds ≠ 0 ∧
      request.issuedAtUnixMs < request.renewAfterUnixMs ∧
      request.renewAfterUnixMs < request.expiresAtUnixMs ∧ lifetimeMs ≤ maxDurationMs)
    .invalidLeaseLifetime

/-- A text column behind its length. -/
def encodeText (text : String) : List UInt8 :=
  Bytes.beBytes 8 (Bytes.utf8 text).length ++ Bytes.utf8 text

def encodeRequest (request : StageQueuedRequest) : List UInt8 :=
  [request.jobId, request.attemptId, request.leaseId, request.nodeId,
      request.issuingCoordinatorId].flatMap encodeText ++
    [request.coordinatorTerm, request.issuedAtUnixMs, request.renewAfterUnixMs,
      request.expiresAtUnixMs, request.maxTotalDurationSeconds].flatMap encodeU64

def encodeReservedRequest (request : StageQueuedRequest) (expectedInventoryRevision : UInt64) :
    List UInt8 :=
  encodeRequest request ++ encodeU64 expectedInventoryRevision ++
    Bytes.beBytes 8 request.selectedGpuIds.length ++ request.selectedGpuIds.flatMap encodeText

/-- The epoch after the counter and after every lease present, whoever issued it. -/
def allocateEpoch (db : ControlDb) : Except StagingStoreError (ControlDb × UInt64) := do
  let base := (db.leases.rows.map (·.fenceEpoch)).foldl max (db.maxIssuedEpoch.getD 0)
  let epoch ← Except.ofOption .fenceEpochOverflow (base.checkedAdd 1)
  .ok ({ db with maxIssuedEpoch := some epoch }, epoch)

/-- The job with its new lease: a paused job resumes at once. -/
def stageJob (job : StoredJob) (issuedAtUnixMs : UInt64) : Except StagingStoreError StoredJob := do
  if job.state = .paused then
    let state ← (jobTransition .paused .running).mapError (fun _ => .jobNotQueued .paused)
    let revision ← Except.ofOption (.corruptData "job revision overflow")
      (job.revision.checkedAdd 1)
    .ok { job with
          state, stagingAtUnixMs := some issuedAtUnixMs, runningAtUnixMs := some issuedAtUnixMs,
          revision }
  else
    let revision ← Except.ofOption (.corruptData "job revision overflow")
      (job.revision.checkedAdd 1)
    .ok { job with state := .staging, stagingAtUnixMs := some issuedAtUnixMs, revision }

def stageNewInTransaction (db : ControlDb) (request : StageQueuedRequest)
    (requestPayload : List UInt8) : Except StagingStoreError (ControlDb × StageQueuedResult) := do
  let found ← (fetchJob db request.jobId).mapError mapJobError
  let job ← Except.ofOption .jobNotFound found
  Except.ensure (job.state = .queued ∨ job.state = .paused) (.jobNotQueued job.state)
  let queuedAt ← Except.ofOption (.corruptData "QUEUED Job has no queued timestamp")
    job.queuedAtUnixMs
  Except.ensure (¬ request.issuedAtUnixMs < queuedAt)
    (.clockRollback request.issuedAtUnixMs queuedAt)
  let attemptFound ← fetchAttempt db request.attemptId
  Except.ensure (attemptFound = none) (.attemptIdConflict request.attemptId)
  Except.ensure (fetchLease db request.leaseId = none) (.leaseIdConflict request.leaseId)
  let (counted, epoch) ← allocateEpoch db
  let attempt := request.toAttempt epoch
  let lease := request.toLease epoch
  let leased := insertLease
    { counted with attempts := counted.attempts.insert attempt.attemptId attempt } lease
  let staged ← stageJob job request.issuedAtUnixMs
  let moved ← (updateJob leased staged).mapError mapJobError
  let operation : StoredOperation :=
    { jobId := request.jobId, attemptId := request.attemptId, leaseId := request.leaseId,
      requestPayload, fenceEpoch := epoch }
  .ok ({ moved with
          stagingOperations :=
            moved.stagingOperations.insert request.operationKey.toList operation },
    ⟨staged, attempt, lease, true⟩)

/-- What an operation that was made before has to have left behind. -/
def loadResult (db : ControlDb) (request : StageQueuedRequest) (epoch : UInt64) :
    Except StagingStoreError StageQueuedResult := do
  let jobFound ← (fetchJob db request.jobId).mapError mapJobError
  let job ← Except.ofOption (.corruptData "operation points to missing Job") jobFound
  let attemptFound ← fetchAttempt db request.attemptId
  let attempt ← Except.ofOption (.corruptData "operation points to missing Attempt") attemptFound
  let current ← Except.ofOption (.corruptData "operation points to missing Lease")
    (fetchLease db request.leaseId)
  let original := request.toLease epoch
  Except.ensure ((job.state = .staging ∨ job.state = .running) ∧
      job.stagingAtUnixMs = some request.issuedAtUnixMs ∧ attempt.jobId = request.jobId ∧
      attempt.leaseId = request.leaseId ∧ attempt.nodeIds = [request.nodeId] ∧
      attempt.fenceEpoch = epoch ∧ attempt.createdAtUnixMs = request.issuedAtUnixMs ∧
      current.leaseId = original.leaseId ∧ current.jobId = original.jobId ∧
      current.attemptId = original.attemptId ∧ current.holderNodeId = original.holderNodeId ∧
      current.fenceEpoch = original.fenceEpoch ∧
      current.issuingCoordinatorId = original.issuingCoordinatorId ∧
      current.coordinatorTerm = original.coordinatorTerm ∧
      current.issuedAtUnixMs = original.issuedAtUnixMs ∧
      current.maxTotalDurationSeconds = original.maxTotalDurationSeconds ∧
      db.maxIssuedEpoch.any (epoch ≤ ·))
    (.corruptData "staging operation result is inconsistent")
  .ok ⟨job, attempt, original, false⟩

/-- The operation stored under the request's key, which has to be this one. -/
def ensureSameOperation (operation : StoredOperation) (request : StageQueuedRequest)
    (requestPayload : List UInt8) : Except StagingStoreError Unit :=
  Except.ensure (operation.jobId = request.jobId ∧ operation.attemptId = request.attemptId ∧
    operation.leaseId = request.leaseId ∧ operation.requestPayload = requestPayload)
    .operationConflict

def stageQueuedWithLease (db : ControlDb) (request : StageQueuedRequest) :
    Except StagingStoreError (ControlDb × StageQueuedResult) := do
  validateRequest request
  let requestPayload := encodeRequest request
  match db.stagingOperations[request.operationKey.toList]? with
  | some operation =>
      ensureSameOperation operation request requestPayload
      let result ← loadResult db request operation.fenceEpoch
      .ok (db, result)
  | none => stageNewInTransaction db request requestPayload

def validateSelectedGpusExist (inventory : InventoryRow) (nodeId : String) :
    List String → Except ReservedStageError Unit
  | [] => .ok ()
  | gpuId :: rest =>
      if gpuId ∈ inventory.gpuIds then validateSelectedGpusExist inventory nodeId rest
      else .error (.selectedGpuMissing nodeId gpuId)

/-- `UNIQUE` on the attempt, primary key on the node. -/
def insertNodeReservation (db : ControlDb) (reservation : StoredNodeReservation) :
    Except StagingStoreError ControlDb := do
  Except.ensure (db.nodeReservations[reservation.nodeId]? = none ∧
      ∀ other ∈ db.nodeReservations.rows, other.attemptId ≠ reservation.attemptId)
    (.io "constraint violation")
  .ok { db with
        nodeReservations := db.nodeReservations.insert reservation.nodeId reservation }

def validateReplayedReservation (reservation : StoredNodeReservation)
    (request : StageQueuedRequest) (expectedInventoryRevision : UInt64) :
    Except StagingStoreError Unit :=
  Except.ensure
    ({ reservation with expiredAtUnixMs := none } =
      request.toReservation expectedInventoryRevision)
    (.corruptData "reserved staging operation result is inconsistent")

def replayReserved (db : ControlDb) (request : StageQueuedRequest)
    (expectedInventoryRevision : UInt64) (operation : StoredOperation)
    (requestPayload : List UInt8) : Except StagingStoreError ReservedStageResult := do
  ensureSameOperation operation request requestPayload
  let stage ← loadResult db request operation.fenceEpoch
  let found ← fetchNodeReservation db request.nodeId
  let reservation ← Except.ofOption
    (.corruptData "reserved staging operation points to missing reservation") found
  validateReplayedReservation reservation request expectedInventoryRevision
  .ok ⟨reservation, stage⟩

def reserveNew (db : ControlDb) (request : StageQueuedRequest)
    (expectedInventoryRevision : UInt64) (requestPayload : List UInt8) :
    Except ReservedStageError (ControlDb × ReservedStageResult) := do
  let inventory ← Except.ofOption (.inventoryMissing request.nodeId)
    db.agentInventory[request.nodeId]?
  Except.ensure (inventory.inventoryRevision = expectedInventoryRevision)
    (.inventoryRevisionMismatch request.nodeId expectedInventoryRevision
      inventory.inventoryRevision)
  validateSelectedGpusExist inventory request.nodeId request.selectedGpuIds
  match ← (fetchNodeReservation db request.nodeId).mapError .staging with
  | some existing =>
      .error (.nodeAlreadyReserved existing.nodeId existing.jobId existing.attemptId)
  | none =>
      let reservation := request.toReservation expectedInventoryRevision
      let reserved ← (insertNodeReservation db reservation).mapError .staging
      let (staged, stage) ←
        (stageNewInTransaction reserved request requestPayload).mapError .staging
      .ok (staged, ⟨reservation, stage⟩)

/-- Both reserving entry points; the stricter one wants the job's manifest row, and looks for it
before an operation is replayed. -/
def reserveAndStage (db : ControlDb) (request : StageQueuedRequest)
    (expectedInventoryRevision : UInt64) (requireManifest : Bool) :
    Except ReservedStageError (ControlDb × ReservedStageResult) := do
  (validateRequest request).mapError .staging
  (validateSelectedGpuIds request.selectedGpuIds).mapError .staging
  let requestPayload := encodeReservedRequest request expectedInventoryRevision
  Except.ensure (¬ (requireManifest ∧ db.jobManifests[request.jobId]? = none))
    (.staging (.manifestMissing request.jobId))
  match db.stagingOperations[request.operationKey.toList]? with
  | some operation =>
      let result ← (replayReserved db request expectedInventoryRevision operation
        requestPayload).mapError .staging
      .ok (db, result)
  | none => reserveNew db request expectedInventoryRevision requestPayload

section Start

inductive GrantAcceptedRecord where
  | recorded
  | alreadyRecorded
  | startingStillCurrent
  | notCurrentAttempt
  | clockBehindStaging
  deriving DecidableEq

inductive ProcessStartedRecord where
  | started (attemptId : String) (jobMoved : Bool)
  | alreadyRecorded (attemptId : String)
  | unknownLease
  deriving DecidableEq

/-- Every step of the path has to be in the table; only the last state is written, and only over
the state that was read. -/
def transitionAttemptStateAlong (db : ControlDb) (attemptId : String) (source : AttemptState)
    (path : List AttemptState) : Except StagingStoreError ControlDb := do
  let target ← (attemptWalk source path).mapError
    (fun refusal => .attemptTransitionRejected refusal.source refusal.target)
  match db.attempts[attemptId]? with
  | some attempt =>
      if attempt.state = source then
        .ok { db with
              attempts := db.attempts.insert attemptId { attempt with state := target } }
      else .error (.attemptStateRaced source)
  | none => .error (.attemptStateRaced source)

/-- A clock behind the staging time is told apart from the other failures. -/
def mapStartError (fault : JobStoreError) : Option StagingStoreError :=
  match fault with
  | .clockRollback _ _ => none
  | other => some (.corruptData other.display)

def acknowledge (db : ControlDb) (attempt : StoredAttempt) (attemptId : String)
    (nowUnixMs : UInt64) (jobMovesOnAck : Bool) : Except JobStoreError (ControlDb × Bool) :=
  if jobMovesOnAck then recordStagingComplete db attempt.jobId attemptId nowUnixMs
  else do
    let current ← ackIsForCurrentAttempt db attempt.jobId attemptId nowUnixMs
    .ok (db, current)

/-- An attempt that was accepted before: is it still the one that runs? -/
def stillCurrent (db : ControlDb) (attempt : StoredAttempt) (attemptId : String) :
    Except StagingStoreError Bool :=
  if attempt.state = .starting then do
    let found ← (fetchJob db attempt.jobId).mapError (fun fault => .corruptData fault.display)
    .ok (found.any (·.state = .running) ∧
      latestAttemptForJob db attempt.jobId = some attemptId)
  else .ok false

def recordGrantAccepted (db : ControlDb) (attemptId : String) (nowUnixMs : UInt64)
    (jobMovesOnAck : Bool) : Except StagingStoreError (ControlDb × GrantAcceptedRecord) := do
  let found ← fetchAttempt db attemptId
  let attempt ← Except.ofOption .jobNotFound found
  if attempt.state ≠ .created then
    let current ← stillCurrent db attempt attemptId
    .ok (db, if current then .startingStillCurrent else .alreadyRecorded)
  else
    match acknowledge db attempt attemptId nowUnixMs jobMovesOnAck with
    | .error fault =>
        match mapStartError fault with
        | none => .ok (db, .clockBehindStaging)
        | some mapped => .error mapped
    | .ok (_, false) => .ok (db, .notCurrentAttempt)
    | .ok (moved, true) => do
        let accepted ← transitionAttemptStateAlong moved attemptId .created [.starting]
        .ok (accepted, .recorded)

/-- The job's part of the first sign of progress. -/
def startJob (db : ControlDb) (attempt : StoredAttempt) (nowUnixMs : UInt64) :
    Except StagingStoreError (ControlDb × Bool) :=
  if attempt.state = .starting ∨ attempt.state = .running then
    match recordStagingComplete db attempt.jobId attempt.attemptId nowUnixMs with
    | .ok result => .ok result
    | .error fault =>
        match mapStartError fault with
        | none => .ok (db, false)
        | some mapped => .error mapped
  else .ok (db, false)

def recordProcessStarted (db : ControlDb) (leaseId : String) (nowUnixMs : UInt64) :
    Except StagingStoreError (ControlDb × ProcessStartedRecord) := do
  match db.attempts.rows.find? (·.leaseId = leaseId) with
  | none => .ok (db, .unknownLease)
  | some row =>
      let found ← fetchAttempt db row.attemptId
      let attempt ← Except.ofOption .jobNotFound found
      if attempt.state = .starting then
        let moved ← transitionAttemptStateAlong db attempt.attemptId .starting [.running]
        let (started, jobMoved) ← startJob moved attempt nowUnixMs
        .ok (started, .started attempt.attemptId jobMoved)
      else
        let (started, _) ← startJob db attempt nowUnixMs
        .ok (started, .alreadyRecorded attempt.attemptId)

/-- Only the first suspicion is kept; nothing is deleted. -/
def markReservationExpired (db : ControlDb) (nodeId : String) (expiredAtUnixMs : UInt64) :
    ControlDb :=
  { db with
    nodeReservations := db.nodeReservations.update nodeId fun reservation =>
      if reservation.expiredAtUnixMs = none then
        { reservation with expiredAtUnixMs := some expiredAtUnixMs }
      else reservation }

end Start

end Gputeer.Coordinator
