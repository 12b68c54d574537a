import Gputeer.Lib.Table
import Gputeer.Lib.Word
import Gputeer.Protocol.AttemptState
import Gputeer.Protocol.AttemptReportRules
import Gputeer.Protocol.Signable
import Gputeer.Coordinator.JobRow

/-! The control database: one SQLite file whose tables the coordinator's stores share, and the
reading of their rows. A transaction that fails leaves it as it was; failures of the database
itself (locks, I/O) are left out. Attempt, lease and reservation rows are kept decoded, since
every column of theirs is written and read back by the same encoding. -/

namespace Gputeer.Coordinator

open Protocol Text

structure StoredLease where
  leaseId : String
  jobId : String
  attemptId : String
  holderNodeId : String
  fenceEpoch : UInt64
  expiresAtUnixMs : UInt64
  issuingCoordinatorId : String
  coordinatorTerm : UInt64
  issuedAtUnixMs : UInt64
  renewAfterUnixMs : UInt64
  maxTotalDurationSeconds : UInt64
  revokedAtUnixMs : Option UInt64
  reassignmentGraceMs : UInt64
  deriving DecidableEq

structure StoredAttempt where
  attemptId : String
  jobId : String
  state : AttemptState
  nodeIds : List String
  fenceEpoch : UInt64
  leaseId : String
  createdAtUnixMs : UInt64
  revision : UInt64
  deriving DecidableEq

structure StoredNodeReservation where
  nodeId : String
  jobId : String
  attemptId : String
  inventoryRevision : UInt64
  reservedAtUnixMs : UInt64
  selectedGpuIds : List String
  expiredAtUnixMs : Option UInt64
  deriving DecidableEq

structure StoredOperation where
  jobId : String
  attemptId : String
  leaseId : String
  requestPayload : List UInt8
  fenceEpoch : UInt64
  deriving DecidableEq

structure ManifestRow where
  verifiedSignerId : String
  manifestBody : List UInt8
  deriving DecidableEq

/-- The part of a node's inventory that staging reads. -/
structure InventoryRow where
  inventoryRevision : UInt64
  gpuIds : List String
  deriving DecidableEq

inductive ReportBindingSource where
  | currentReservation
  | assignmentRecord
  deriving DecidableEq

structure ReportRow where
  attemptId : String
  nodeId : String
  jobId : String
  fenceEpoch : UInt64
  verifiedSignerId : String
  reportHash : ManifestHash
  reportBody : List UInt8
  boundVia : ReportBindingSource
  deriving DecidableEq

structure StoredReservationRelease where
  attemptId : String
  nodeId : String
  jobId : String
  fenceEpoch : UInt64
  reportHash : ManifestHash
  releasedAtUnixMs : UInt64
  releasedGpuIds : List String
  deriving DecidableEq

structure OperatorReleaseRow where
  nodeId : String
  attemptId : String
  jobId : String
  operatorStatement : String
  releasedAtUnixMs : UInt64
  deriving DecidableEq

/-- The 16 bytes of an idempotency key. -/
abbrev OperationKey := Vector UInt8 16

structure ControlDb where
  jobs : Table String RawJobRow
  jobSubmissions : Table (List UInt8) String
  jobManifests : Table String ManifestRow
  leases : Table String StoredLease
  attempts : Table String StoredAttempt
  maxIssuedEpoch : Option UInt64
  stagingOperations : Table (List UInt8) StoredOperation
  nodeReservations : Table String StoredNodeReservation
  agentInventory : Table String InventoryRow
  attemptReports : List ReportRow
  reservationReleases : Table String StoredReservationRelease
  operatorReleases : List OperatorReleaseRow
  nodeReclaims : Table String UInt64

def ControlDb.empty : ControlDb where
  jobs := ∅
  jobSubmissions := ∅
  jobManifests := ∅
  leases := ∅
  attempts := ∅
  maxIssuedEpoch := none
  stagingOperations := ∅
  nodeReservations := ∅
  agentInventory := ∅
  attemptReports := []
  reservationReleases := ∅
  operatorReleases := []
  nodeReclaims := ∅

/-- The code the stores call outside this repository: protocol buffer bodies and the 256-bit hash.
An empty body is the message whose fields all have their default value. -/
structure Codec where
  encodeJobManifest : JobManifest → List UInt8
  decodeJobManifest : List UInt8 → Option JobManifest
  encodeAttemptReport : AttemptReport → List UInt8
  decodeAttemptReport : List UInt8 → Option AttemptReport
  decodeCheckpointManifest : List UInt8 → Option CheckpointManifest
  blake3 : List UInt8 → ManifestHash
  decodeCheckpointManifest_nil : decodeCheckpointManifest [] = some default

inductive StagingStoreError where
  | invalidInput (field : String)
  | jobNotFound
  | jobNotQueued (state : JobState)
  | operationConflict
  | attemptIdConflict (attemptId : String)
  | leaseIdConflict (leaseId : String)
  | clockRollback (issuedAtUnixMs queuedAtUnixMs : UInt64)
  | invalidLeaseLifetime
  | fenceEpochOverflow
  | attemptTransitionRejected (source target : AttemptState)
  | attemptStateRaced (expected : AttemptState)
  | manifestMissing (jobId : String)
  | corruptData (message : String)
  | io (message : String)
  deriving DecidableEq

def StagingStoreError.display : StagingStoreError → String
  | .invalidInput field => s!"invalid staging input: {field}"
  | .jobNotFound => "job_id is not present in the control DB"
  | .jobNotQueued state => s!"Job is not QUEUED: {state.debugName}"
  | .operationConflict => "staging operation key payload conflict"
  | .attemptIdConflict attemptId => s!"attempt_id already exists: {attemptId}"
  | .leaseIdConflict leaseId => s!"lease_id already exists: {leaseId}"
  | .clockRollback issued queued =>
      s!"staging clock moved backwards: issued={issued}, queued={queued}"
  | .invalidLeaseLifetime => "invalid Lease lifetime ordering"
  | .fenceEpochOverflow => "team-global fence epoch overflow"
  | .attemptTransitionRejected source target =>
      "규범 표에 없는 Attempt 전이다: " ++ source.debugName ++ " -> " ++ target.debugName ++
        " (docs/protocol/state-machines.md §3)"
  | .attemptStateRaced expected =>
      "Attempt 상태가 읽은 값(" ++ expected.debugName ++
        ")과 달라 갱신하지 않았다 — 다른 쓰기가 끼어들었다"
  | .manifestMissing jobId =>
      jobId ++ " 에 저장된 Manifest 행이 없다 — 예약하지 않는다(Grant 를 만들 수 없는 예약이 노드를 묶는다)"
  | .corruptData message => s!"staging store corruption: {message}"
  | .io message => s!"staging store I/O error: {message}"

def fetchJob (db : ControlDb) (jobId : String) : Except JobStoreError (Option StoredJob) :=
  Except.onSome RawJobRow.intoStored db.jobs[jobId]?

def fetchLease (db : ControlDb) (leaseId : String) : Option StoredLease := db.leases[leaseId]?

def fetchAttempt (db : ControlDb) (attemptId : String) :
    Except StagingStoreError (Option StoredAttempt) :=
  Except.onSome (fun attempt =>
    if attempt.nodeIds.length ≠ 1 ∨ attempt.nodeIds.any isBlank then
      .error (.corruptData "single-node Attempt row shape is invalid")
    else .ok attempt) db.attempts[attemptId]?

/-- `ORDER BY fence_epoch DESC, attempt_id DESC LIMIT 1` over the attempts of a job. Eight-byte
big-endian columns compare as numbers. -/
def latestAttemptRow (db : ControlDb) (jobId : String) : Option StoredAttempt :=
  (db.attempts.rows.filter (·.jobId = jobId)).argmax
    (fun attempt => toLex (attempt.fenceEpoch.toNat, attempt.attemptId))

def latestAttemptForJob (db : ControlDb) (jobId : String) : Option String :=
  (latestAttemptRow db jobId).map (·.attemptId)

def checkAdjacentGpuIds : List String → Except StagingStoreError Unit
  | first :: second :: rest =>
      if first = second then .error (.invalidInput "selected_gpu_ids duplicate gpu_id")
      else if first > second then .error (.invalidInput "selected_gpu_ids canonical order")
      else checkAdjacentGpuIds (second :: rest)
  | _ => .ok ()

def validateSelectedGpuIds (selectedGpuIds : List String) : Except StagingStoreError Unit := do
  Except.ensure (selectedGpuIds ≠ []) (.invalidInput "selected_gpu_ids")
  Except.ensure (selectedGpuIds.any isBlank = false)
    (.invalidInput "selected_gpu_ids blank gpu_id")
  checkAdjacentGpuIds selectedGpuIds

def readReservation (reservation : StoredNodeReservation) :
    Except StagingStoreError StoredNodeReservation := do
  Except.ensure
    ([reservation.nodeId, reservation.jobId, reservation.attemptId].any isBlank = false)
    (.corruptData "node reservation owner identity is blank")
  Except.ensure (reservation.selectedGpuIds ≠ [])
    (.corruptData "node reservation has no selected GPU binding")
  (validateSelectedGpuIds reservation.selectedGpuIds).mapError
    (fun _ => .corruptData "node reservation selected GPU binding is not canonical")
  .ok reservation

def fetchNodeReservation (db : ControlDb) (nodeId : String) :
    Except StagingStoreError (Option StoredNodeReservation) :=
  Except.onSome readReservation db.nodeReservations[nodeId]?

end Gputeer.Coordinator
