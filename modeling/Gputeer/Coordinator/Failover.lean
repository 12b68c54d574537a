import Gputeer.Coordinator.ReservationRelease

/-! Taking over the jobs of lost nodes, the operator's release of such a node, and the preemption
of a job by the owner of its node. -/

namespace Gputeer.Coordinator

open Protocol Text

/-- The shared checkpoint directory as one call finds it. -/
structure SharedRoot where
  listSignedManifests : String → Except String (List (String × List UInt8))
  verifyOnDisk : CheckpointManifest → Except String Unit

structure FailoverPolicy where
  graceMs : UInt64
  sharedCheckpointRoot : Option SharedRoot
  /-- The Ed25519 verifier over the pool's producer keys. -/
  verifier : SignatureVerifier

inductive FailoverOutcome where
  | requeued (jobId lostAttemptId lostNodeId : String) (wasRunning : Bool)
      (resumeCheckpointId : Option String) (resumeStep : Option UInt64)
  | failedNoCheckpoint (jobId lostAttemptId lostNodeId : String)
  deriving DecidableEq

structure ResumePoint where
  checkpointId : String
  fenceEpoch : UInt64
  step : UInt64
  body : List UInt8
  deriving DecidableEq

variable (codec : Codec)

/-- A listed checkpoint that can be resumed from: named like its file, signed by its producer, of
this job, made by the attempt it names under that attempt's fence and node, and whole on disk.
Everything else is skipped. -/
def trustedPoint (db : ControlDb) (policy : FailoverPolicy) (root : SharedRoot)
    (jobId checkpointId : String) (body : List UInt8) (nowUnixMs : UInt64) :
    Except String (Option ResumePoint) :=
  match codec.decodeCheckpointManifest body with
  | none => .ok none
  | some manifest =>
      let checked := checkMessage (fun bytes => (codec.blake3 bytes).toList) manifest 1
        policy.verifier nowUnixMs
      if manifest.checkpointId ≠ checkpointId ∨ ¬ checked matches .ok _ ∨
          manifest.jobId ≠ jobId then .ok none
      else do
        match ← (fetchAttempt db manifest.attemptId).mapError StagingStoreError.display with
        | none => .ok none
        | some attempt =>
            if attempt.jobId ≠ jobId ∨ attempt.fenceEpoch ≠ manifest.fenceEpoch ∨
                manifest.producerNodeId ∉ attempt.nodeIds then .ok none
            else if ¬ root.verifyOnDisk manifest matches .ok _ then .ok none
            else
              .ok (some { checkpointId, fenceEpoch := manifest.fenceEpoch,
                          step := manifest.step, body })

/-- The later of two points by fence and step; the first one found wins a tie. -/
def betterPoint (best : Option ResumePoint) (point : ResumePoint) : Option ResumePoint :=
  match best with
  | none => some point
  | some held =>
      if held.fenceEpoch < point.fenceEpoch ∨
          held.fenceEpoch = point.fenceEpoch ∧ held.step < point.step then some point
      else some held

def bestPoint (db : ControlDb) (policy : FailoverPolicy) (root : SharedRoot) (jobId : String)
    (nowUnixMs : UInt64) : Option ResumePoint → List (String × List UInt8) →
    Except String (Option ResumePoint)
  | best, [] => .ok best
  | best, (checkpointId, body) :: rest => do
      match ← trustedPoint codec db policy root jobId checkpointId body nowUnixMs with
      | none => bestPoint db policy root jobId nowUnixMs best rest
      | some point => bestPoint db policy root jobId nowUnixMs (betterPoint best point) rest

def findResumePoint (db : ControlDb) (policy : FailoverPolicy) (jobId : String)
    (nowUnixMs : UInt64) (listErrorAsNone : Bool) : Except String (Option ResumePoint) :=
  match policy.sharedCheckpointRoot with
  | none => .ok none
  | some root =>
      match root.listSignedManifests jobId with
      | .error fault => if listErrorAsNone then .ok none else .error fault
      | .ok listed => bestPoint codec db policy root jobId nowUnixMs none listed

def AttemptState.isOver (state : AttemptState) : Bool :=
  state ∈ [.completed, .failed, .cancelled, .canonical, .superseded]

/-- The lease of an unfinished latest attempt, once it and its grace have run out. -/
def lostLease (db : ControlDb) (policy : FailoverPolicy) (attempt : StoredAttempt)
    (nowUnixMs : UInt64) : Except String (Option StoredLease) :=
  if AttemptState.isOver attempt.state then .ok none
  else do
    let lease ← Except.ofOption
      ("시도 " ++ attempt.attemptId ++ " 의 Lease " ++ attempt.leaseId ++ " 가 없다")
      (fetchLease db attempt.leaseId)
    let graceMs := max policy.graceMs lease.reassignmentGraceMs
    if nowUnixMs ≤ lease.expiresAtUnixMs.saturatingAdd graceMs then .ok none
    else .ok (some lease)

/-- Only a job that ran has a point to resume from. -/
def lostResumePoint (db : ControlDb) (policy : FailoverPolicy) (job : StoredJob)
    (nowUnixMs : UInt64) : Except String (Option ResumePoint) :=
  if job.state = .running then findResumePoint codec db policy job.jobId nowUnixMs false
  else .ok none

/-- Move the job on, revoke the old lease and mark the old reservation, in one commit. -/
def takeOver (db : ControlDb) (policy : FailoverPolicy) (job : StoredJob)
    (attempt : StoredAttempt) (nowUnixMs : UInt64) :
    Except String (ControlDb × FailoverOutcome) := do
  let lostNodeId := attempt.nodeIds.head?.getD ""
  let resume ← lostResumePoint codec db policy job nowUnixMs
  let (moved, updated) ← (requeueAfterNodeLost db job (resume.map (·.body)) nowUnixMs).mapError
    JobStoreError.display
  let revoked ← (revokeWithin moved attempt.leaseId nowUnixMs).mapError LeaseStoreError.display
  let marked := if lostNodeId = "" then revoked
    else markReservationExpired revoked lostNodeId nowUnixMs
  .ok (marked,
    if updated.state = .queued then
      .requeued job.jobId attempt.attemptId lostNodeId (job.state = .running)
        (resume.map (·.checkpointId)) (resume.map (·.step))
    else .failedNoCheckpoint job.jobId attempt.attemptId lostNodeId)

/-- One transaction of the loop: the job is read again under the lock. -/
def failoverJob (db : ControlDb) (policy : FailoverPolicy) (jobId : String)
    (nowUnixMs : UInt64) : Except String (ControlDb × Option FailoverOutcome) := do
  match ← (fetchJob db jobId).mapError JobStoreError.display with
  | none => .ok (db, none)
  | some job =>
      if job.state ≠ .staging ∧ job.state ≠ .running then .ok (db, none)
      else
        match latestAttemptForJob db job.jobId with
        | none => .ok (db, none)
        | some attemptId =>
            let found ← (fetchAttempt db attemptId).mapError StagingStoreError.display
            let attempt ← Except.ofOption ("시도 " ++ attemptId ++ " 가 사라졌다") found
            match ← lostLease db policy attempt nowUnixMs with
            | none => .ok (db, none)
            | some _ => do
                let (moved, outcome) ← takeOver codec db policy job attempt nowUnixMs
                .ok (moved, some outcome)

/-- An error ends the loop; what was committed before it stays. -/
def failoverEach (policy : FailoverPolicy) (nowUnixMs : UInt64) :
    ControlDb → List StoredJob → ControlDb × Except String (List FailoverOutcome)
  | db, [] => (db, .ok [])
  | db, listed :: rest =>
      match failoverJob codec db policy listed.jobId nowUnixMs with
      | .error fault => (db, .error fault)
      | .ok (next, outcome) =>
          let later := failoverEach policy nowUnixMs next rest
          (later.1, (outcome.toList ++ ·) <$> later.2)

def failoverLostAttempts (db : ControlDb) (policy : FailoverPolicy) (nowUnixMs : UInt64) :
    ControlDb × Except String (List FailoverOutcome) :=
  match listInRunStates db with
  | .error fault => (db, .error fault.display)
  | .ok listed => failoverEach codec policy nowUnixMs db listed

structure OperatorRelease where
  nodeId : String
  attemptId : String
  jobId : String
  releasedGpuIds : List String
  deriving DecidableEq

/-- The attempt of the reservation was replaced, or its job has moved on. -/
def mayReleaseLost (db : ControlDb) (reservation : StoredNodeReservation) (job : StoredJob) :
    Bool :=
  latestAttemptForJob db reservation.jobId ≠ some reservation.attemptId ∨
    job.state = .queued ∨ job.state = .completed ∨ job.state = .failed

def insertOperatorRelease (db : ControlDb) (row : OperatorReleaseRow) :
    Except String ControlDb := do
  Except.ensure (∀ other ∈ db.operatorReleases,
      ¬ (other.nodeId = row.nodeId ∧ other.attemptId = row.attemptId))
    "constraint violation"
  .ok { db with operatorReleases := db.operatorReleases ++ [row] }

def releaseLostNodeByOperator (db : ControlDb) (nodeId operatorStatement : String)
    (nowUnixMs : UInt64) : Except String (ControlDb × OperatorRelease) := do
  Except.ensure (isBlank operatorStatement = false)
    "RELEASE_REFUSED: 운영자 진술(누가 · 무엇을 확인했나)이 비었다"
  let reserved ← (fetchNodeReservation db nodeId).mapError StagingStoreError.display
  let reservation ← Except.ofOption ("RELEASE_REFUSED: " ++ nodeId ++ " 에 예약이 없다") reserved
  let found ← (fetchJob db reservation.jobId).mapError JobStoreError.display
  let job ← Except.ofOption ("RELEASE_REFUSED: 예약의 Job " ++ reservation.jobId ++ " 이 없다") found
  Except.ensure (mayReleaseLost db reservation job)
    ("RELEASE_REFUSED: " ++ nodeId ++ " 의 예약은 **살아 있는 시도**(" ++ reservation.attemptId ++
      ") 의 것이다(Job " ++ job.state.debugName ++
      ") — 풀지 않는다. 장애 이어받기가 먼저 그 Job 을 되돌려야 한다")
  let deleted ← Except.ofOption "RELEASE_REFUSED: 예약 삭제가 0 행을 지웠다"
    (deleteReservation db nodeId reservation.attemptId)
  let recorded ← insertOperatorRelease deleted
    { nodeId, attemptId := reservation.attemptId, jobId := reservation.jobId, operatorStatement,
      releasedAtUnixMs := nowUnixMs }
  .ok (recorded,
    { nodeId, attemptId := reservation.attemptId, jobId := reservation.jobId,
      releasedGpuIds := reservation.selectedGpuIds })

/-- Pause, revoke and mark the node as taken back by its owner. The stale session record of the
node is left out. -/
def preempt (db : ControlDb) (job : StoredJob) (attemptId nodeId : String)
    (resume : Option ResumePoint) (nowUnixMs : UInt64) : Except String ControlDb := do
  let (paused, _) ← (pauseJobForOwnerPreempt db job (resume.map (·.body))).mapError
    JobStoreError.display
  let found ← (fetchAttempt paused attemptId).mapError StagingStoreError.display
  let attempt ← Except.ofOption ("시도 " ++ attemptId ++ " 가 사라졌다") found
  let revoked ← (revokeWithin paused attempt.leaseId nowUnixMs).mapError LeaseStoreError.display
  .ok { revoked with nodeReclaims := revoked.nodeReclaims.insert nodeId nowUnixMs }

def pauseForOwnerPreemptWithin (db : ControlDb) (jobId attemptId nodeId : String)
    (policy : FailoverPolicy) (nowUnixMs : UInt64) :
    Except String (ControlDb × Option String) := do
  match ← (fetchJob db jobId).mapError JobStoreError.display with
  | none => .ok (db, none)
  | some job =>
      if job.state ≠ .running then .ok (db, none)
      else if latestAttemptForJob db jobId ≠ some attemptId then .ok (db, none)
      else
        -- an unreadable listing counts as no new point, so that the report is still stored
        let resume ← findResumePoint codec db policy jobId nowUnixMs true
        let preempted ← preempt db job attemptId nodeId resume nowUnixMs
        .ok (preempted, some ("OWNER_PREEMPTED job_id=" ++ jobId ++ " attempt_id=" ++ attemptId ++
          " node_id=" ++ nodeId ++ " resume_step=" ++
          (resume.map (fun found => toString found.step)).getD "-"))

def pauseForOwnerPreempt (db : ControlDb) (jobId attemptId nodeId : String)
    (policy : FailoverPolicy) (nowUnixMs : UInt64) :
    Except String (ControlDb × Option String) :=
  pauseForOwnerPreemptWithin codec db jobId attemptId nodeId policy nowUnixMs

end Gputeer.Coordinator
