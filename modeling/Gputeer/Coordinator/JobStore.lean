import Gputeer.Coordinator.ControlDb

/-! The job store: accepted submissions, planning, the queue, and the moves that staging, reports
and failover make on a job inside their own transactions. -/

namespace Gputeer.Coordinator

open Protocol Text

structure AcceptedJobSubmission where
  idempotencyKey : OperationKey
  jobId : String
  submitterDeviceId : String
  manifestHash : ManifestHash
  deadlineUnixMs : Option UInt64
  maxQueueDurationMs : Option UInt64
  deriving DecidableEq

def StoredJob.matchesSubmission (job : StoredJob) (submission : AcceptedJobSubmission) : Bool :=
  job.jobId = submission.jobId ∧ job.submitterDeviceId = submission.submitterDeviceId ∧
    job.manifestHash = submission.manifestHash ∧
    job.deadlineUnixMs = submission.deadlineUnixMs ∧
    job.maxQueueDurationMs = submission.maxQueueDurationMs

structure SubmitResult where
  job : StoredJob
  created : Bool

structure StoredManifestBinding where
  manifest : JobManifest
  manifestHash : ManifestHash
  signerIdAtSubmission : String
  deriving DecidableEq

structure ManifestBoundSubmitResult where
  job : StoredJob
  binding : StoredManifestBinding
  created : Bool

def ensureNotBefore (event prior : UInt64) : Except JobStoreError Unit :=
  Except.ensure (¬ event < prior) (.clockRollback event prior)

/-- `checked_add(1)` of a counter column. -/
def countUp (count : UInt64) (overflow : String) : Except JobStoreError UInt64 :=
  Except.ofOption (.corruptData overflow) (count.checkedAdd 1)

def updateJob (db : ControlDb) (job : StoredJob) : Except JobStoreError ControlDb :=
  match db.jobs[job.jobId]? with
  | some row => .ok { db with jobs := db.jobs.insert job.jobId (row.written job) }
  | none => .error (.corruptData s!"updating {job.jobId} changed 0 rows")

def insertJob (db : ControlDb) (job : StoredJob) : ControlDb :=
  { db with jobs := db.jobs.insert job.jobId (RawJobRow.ofSubmitted job) }

section Submission

def validateSubmission (submission : AcceptedJobSubmission) : Except JobStoreError Unit := do
  Except.ensure (isBlank submission.jobId = false) (.invalidInput "job_id")
  Except.ensure (isBlank submission.submitterDeviceId = false)
    (.invalidInput "submitter_device_id")
  Except.ensure (submission.maxQueueDurationMs ≠ some 0) (.invalidInput "max_queue_duration_ms")

/-- The job a new submission is stored as. -/
def AcceptedJobSubmission.toJob (submission : AcceptedJobSubmission)
    (submittedAtUnixMs : UInt64) : StoredJob where
  jobId := submission.jobId
  submitterDeviceId := submission.submitterDeviceId
  manifestHash := submission.manifestHash
  state := .submitted
  submittedAtUnixMs := submittedAtUnixMs
  planningAtUnixMs := none
  queuedAtUnixMs := none
  stagingAtUnixMs := none
  deadlineUnixMs := submission.deadlineUnixMs
  maxQueueDurationMs := submission.maxQueueDurationMs
  planId := none
  queueFailure := none
  failedAtUnixMs := none
  runningAtUnixMs := none
  runTerminal := none
  workerReportedFinishedAtUnixMs := none
  requeueCount := 0
  resumeCheckpoint := none
  revision := 0

/-- The job an idempotency key is bound to, which has to be the one submitted again. -/
def fetchSubmitted (db : ControlDb) (submission : AcceptedJobSubmission) (storedJobId : String) :
    Except JobStoreError StoredJob := do
  let found ← fetchJob db storedJobId
  let stored ← Except.ofOption
    (.corruptData s!"idempotency key points to missing job: {storedJobId}") found
  Except.ensure (stored.matchesSubmission submission)
    (.idempotencyConflict storedJobId submission.jobId)
  .ok stored

def ensureNewJob (db : ControlDb) (jobId : String) : Except JobStoreError Unit := do
  let found ← fetchJob db jobId
  Except.ensure (found = none) (.jobIdConflict jobId)

def bindKey (db : ControlDb) (submission : AcceptedJobSubmission) : ControlDb :=
  { db with
    jobSubmissions := db.jobSubmissions.insert submission.idempotencyKey.toList submission.jobId }

def submitAccepted (db : ControlDb) (submission : AcceptedJobSubmission)
    (submittedAtUnixMs : UInt64) : Except JobStoreError (ControlDb × SubmitResult) := do
  validateSubmission submission
  match db.jobSubmissions[submission.idempotencyKey.toList]? with
  | some storedJobId =>
      let stored ← fetchSubmitted db submission storedJobId
      .ok (db, ⟨stored, false⟩)
  | none =>
      ensureNewJob db submission.jobId
      let stored := submission.toJob submittedAtUnixMs
      .ok (bindKey (insertJob db stored) submission, ⟨stored, true⟩)

def validateManifestIdentity (submission : AcceptedJobSubmission) (manifest : JobManifest)
    (verifiedSignerId : String) : Except JobStoreError Unit := do
  Except.ensure (manifest.jobId = submission.jobId) (.manifestIdentityMismatch "job_id")
  Except.ensure (manifest.submitterDeviceId = submission.submitterDeviceId)
    (.manifestIdentityMismatch "submitter_device_id")
  Except.ensure (verifiedSignerId = submission.submitterDeviceId)
    (.manifestIdentityMismatch "verified signer_id")

variable (codec : Codec)

def deriveManifestHash (manifest : JobManifest) : ManifestHash :=
  codec.blake3 (signingInput manifest)

def fetchManifestBinding (db : ControlDb) (job : StoredJob) :
    Except JobStoreError StoredManifestBinding := do
  let row ← Except.ofOption (.legacyManifestMissing job.jobId) db.jobManifests[job.jobId]?
  Except.ensure (row.manifestBody ≠ []) (.manifestCorrupt job.jobId .emptyBody)
  let manifest ← Except.ofOption (.manifestCorrupt job.jobId .undecodableBody)
    (codec.decodeJobManifest row.manifestBody)
  Except.ensure (manifest.jobId = job.jobId) (.manifestCorrupt job.jobId .jobIdMismatch)
  Except.ensure (manifest.submitterDeviceId = job.submitterDeviceId)
    (.manifestCorrupt job.jobId .submitterDeviceIdMismatch)
  Except.ensure (row.verifiedSignerId = job.submitterDeviceId)
    (.manifestCorrupt job.jobId .signerIdMismatch)
  let derivedHash := deriveManifestHash codec manifest
  Except.ensure (derivedHash = job.manifestHash) (.manifestCorrupt job.jobId .hashMismatch)
  .ok ⟨manifest, derivedHash, row.verifiedSignerId⟩

def getManifestBinding (db : ControlDb) (jobId : String) :
    Except JobStoreError (Option StoredManifestBinding) := do
  match ← fetchJob db jobId with
  | none => .ok none
  | some job => some <$> fetchManifestBinding codec db job

def submitVerifiedManifest (db : ControlDb) (submission : AcceptedJobSubmission)
    (verified : Verified JobManifest) (submittedAtUnixMs : UInt64) :
    Except JobStoreError (ControlDb × ManifestBoundSubmitResult) := do
  validateSubmission submission
  let manifest := verified.inner
  validateManifestIdentity submission manifest verified.signerId
  let derivedHash := deriveManifestHash codec manifest
  Except.ensure (submission.manifestHash = derivedHash) .manifestHashMismatch
  match db.jobSubmissions[submission.idempotencyKey.toList]? with
  | some storedJobId =>
      let stored ← fetchSubmitted db submission storedJobId
      let binding ← fetchManifestBinding codec db stored
      Except.ensure (binding.manifest = manifest ∧
          binding.signerIdAtSubmission = verified.signerId)
        (.idempotencyConflict stored.jobId submission.jobId)
      .ok (db, ⟨stored, binding, false⟩)
  | none =>
      ensureNewJob db submission.jobId
      let stored := submission.toJob submittedAtUnixMs
      let inserted := insertJob db stored
      let row : ManifestRow := ⟨verified.signerId, codec.encodeJobManifest manifest⟩
      let bound := { inserted with jobManifests := inserted.jobManifests.insert stored.jobId row }
      .ok (bindKey bound submission,
        ⟨stored, ⟨manifest, derivedHash, verified.signerId⟩, true⟩)

end Submission

section Queue

/-- Read the job, apply the move, and commit. -/
def transition (db : ControlDb) (jobId : String)
    (apply : StoredJob → Except JobStoreError (ControlDb × StoredJob)) :
    Except JobStoreError (ControlDb × StoredJob) := do
  let found ← fetchJob db jobId
  let job ← Except.ofOption .notFound found
  apply job

/-- Write the moved job and return it. -/
def commitJob (db : ControlDb) (job : StoredJob) : Except JobStoreError (ControlDb × StoredJob) := do
  let written ← updateJob db job
  .ok (written, job)

/-- `SUBMITTED -> PLANNING`. -/
def planJob (job : StoredJob) (atUnixMs : UInt64) : Except JobStoreError StoredJob := do
  ensureNotBefore atUnixMs job.submittedAtUnixMs
  let revision ← countUp job.revision "job revision overflow"
  .ok { job with state := .planning, planningAtUnixMs := some atUnixMs, revision }

/-- `PLANNING -> QUEUED`. -/
def queueJob (job : StoredJob) (planId : String) (atUnixMs : UInt64) :
    Except JobStoreError StoredJob := do
  Except.ensure (job.state = .planning) (.invalidTransition job.state .queued)
  let planningAt ← Except.ofOption (.corruptData "PLANNING job has no planning timestamp")
    job.planningAtUnixMs
  ensureNotBefore atUnixMs planningAt
  let revision ← countUp job.revision "job revision overflow"
  .ok { job with
        state := .queued, queuedAtUnixMs := some atUnixMs, planId := some planId, revision }

def startPlanning (db : ControlDb) (jobId : String) (atUnixMs : UInt64) :
    Except JobStoreError (ControlDb × StoredJob) :=
  transition db jobId fun job =>
    if job.state = .planning then .ok (db, job)
    else if job.state ≠ .submitted then .error (.invalidTransition job.state .planning)
    else do
      let planned ← planJob job atUnixMs
      commitJob db planned

/-- A job that is already queued: the retry must name its plan. -/
def alreadyQueued (db : ControlDb) (job : StoredJob) (planId : String) :
    Except JobStoreError (ControlDb × StoredJob) :=
  if job.planId = some planId then .ok (db, job)
  else .error (.planConflict (job.planId.getD "") planId)

def enqueue (db : ControlDb) (jobId planId : String) (atUnixMs : UInt64) :
    Except JobStoreError (ControlDb × StoredJob) :=
  if isBlank planId then .error (.invalidInput "plan_id")
  else
    transition db jobId fun job =>
      if job.state = .queued then alreadyQueued db job planId
      else do
        let queued ← queueJob job planId atUnixMs
        commitJob db queued

/-- Both moves in one transaction; a job left in `PLANNING` makes the second one only. The
variant that reads the clock itself is this one at the time it reads. -/
def planAndEnqueue (db : ControlDb) (jobId planId : String) (atUnixMs : UInt64) :
    Except JobStoreError (ControlDb × StoredJob) :=
  if isBlank planId then .error (.invalidInput "plan_id")
  else
    transition db jobId fun job =>
      if job.state = .queued then alreadyQueued db job planId
      else if job.state = .submitted then do
        let planned ← planJob job atUnixMs
        let written ← updateJob db planned
        let queued ← queueJob planned planId atUnixMs
        commitJob written queued
      else do
        let queued ← queueJob job planId atUnixMs
        commitJob db queued

def checkQueueFailure (job : StoredJob) (failure : QueueFailure) (queuedAt atUnixMs : UInt64) :
    Except JobStoreError Unit :=
  match failure with
  | .deadlinePassed => do
      let deadline ← Except.ofOption (.guardNotMet "Job has no deadline") job.deadlineUnixMs
      Except.ensure (¬ atUnixMs ≤ deadline) (.guardNotMet "now must be greater than deadline")
  | .queueTimeout => do
      let limit ← Except.ofOption (.guardNotMet "Job has no independent queue timeout")
        job.maxQueueDurationMs
      let elapsed ← Except.ofOption (.clockRollback atUnixMs queuedAt)
        (atUnixMs.checkedSub queuedAt)
      Except.ensure (¬ elapsed ≤ limit)
        (.guardNotMet "queue wait must be greater than max queue duration")
  | .permanentlyInfeasible _ => .ok ()

def failQueued (db : ControlDb) (jobId : String) (failure : QueueFailure) (atUnixMs : UInt64) :
    Except JobStoreError (ControlDb × StoredJob) := do
  Except.ensure (∀ reason ∈ failure.detail, isBlank reason = false)
    (.invalidInput "permanent infeasibility reason")
  transition db jobId fun job =>
    if job.state = .failed ∧ job.queueFailure = some failure then .ok (db, job)
    else if job.state ≠ .queued then .error (.invalidTransition job.state .failed)
    else do
      let queuedAt ← Except.ofOption (.corruptData "QUEUED job has no queue timestamp")
        job.queuedAtUnixMs
      ensureNotBefore atUnixMs queuedAt
      checkQueueFailure job failure queuedAt atUnixMs
      let revision ← countUp job.revision "job revision overflow"
      commitJob db
        { job with
          state := .failed, queueFailure := some failure, failedAtUnixMs := some atUnixMs,
          revision }

end Queue

section Run

def rejected (refusal : JobTransitionRejected) : JobStoreError :=
  .invalidTransition refusal.source refusal.target

/-- The walk a lost node forces on its job. -/
def nodeLostPath (state : JobState) (resumable : Bool) : Except JobStoreError (List JobState) :=
  match state, resumable with
  | .staging, _ => .ok [.queued]
  | .running, true => .ok [.interrupted, .replanning, .queued]
  | .running, false => .ok [.interrupted, .failed]
  | state, _ => .error (.invalidTransition state .queued)

def requeueAfterNodeLost (db : ControlDb) (job : StoredJob) (resume : Option (List UInt8))
    (workerClockHintUnixMs : UInt64) : Except JobStoreError (ControlDb × StoredJob) := do
  let path ← nodeLostPath job.state resume.isSome
  let state ← (jobWalk job.state path).mapError rejected
  if state = .queued then
    let requeueCount ← countUp job.requeueCount "requeue_count overflow"
    let revision ← countUp job.revision "revision overflow"
    -- a point chosen earlier stays when none was chosen now
    commitJob db
      { job with
        state, stagingAtUnixMs := none, runningAtUnixMs := none, requeueCount,
        resumeCheckpoint := resume.or job.resumeCheckpoint, revision }
  else
    let revision ← countUp job.revision "revision overflow"
    commitJob db
      { job with
        state, runTerminal := some .noCommittedCheckpoint,
        workerReportedFinishedAtUnixMs := some workerClockHintUnixMs, revision }

def pauseJobForOwnerPreempt (db : ControlDb) (job : StoredJob) (resume : Option (List UInt8)) :
    Except JobStoreError (ControlDb × StoredJob) := do
  let state ← (jobTransition job.state .paused).mapError rejected
  let requeueCount ← countUp job.requeueCount "requeue_count overflow"
  let revision ← countUp job.revision "revision overflow"
  commitJob db
    { job with
      state, requeueCount, resumeCheckpoint := resume.or job.resumeCheckpoint, revision }

/-- The job in a run state whose latest attempt is this one. -/
def fetchCurrentJob (db : ControlDb) (jobId attemptId : String) :
    Except JobStoreError (Option StoredJob) := do
  let found ← fetchJob db jobId
  let job ← Except.ofOption .notFound found
  if job.state ≠ .staging ∧ job.state ≠ .running then .ok none
  else if latestAttemptForJob db jobId ≠ some attemptId then .ok none
  else .ok (some job)

def ensureStagedBefore (job : StoredJob) (nowUnixMs : UInt64) : Except JobStoreError Unit :=
  match job.stagingAtUnixMs with
  | some stagingAt => ensureNotBefore nowUnixMs stagingAt
  | none => .ok ()

def ackIsForCurrentAttempt (db : ControlDb) (jobId attemptId : String) (nowUnixMs : UInt64) :
    Except JobStoreError Bool := do
  match ← fetchCurrentJob db jobId attemptId with
  | none => .ok false
  | some job =>
      if job.state = .staging then
        ensureStagedBefore job nowUnixMs
        .ok true
      else .ok true

def recordStagingComplete (db : ControlDb) (jobId attemptId : String) (nowUnixMs : UInt64) :
    Except JobStoreError (ControlDb × Bool) := do
  match ← fetchCurrentJob db jobId attemptId with
  | none => .ok (db, false)
  | some job =>
      if job.state = .running then .ok (db, true)
      else
        ensureStagedBefore job nowUnixMs
        let state ← (jobTransition job.state .running).mapError rejected
        let revision ← countUp job.revision "revision overflow"
        let written ← updateJob db
          { job with state, runningAtUnixMs := some nowUnixMs, revision }
        .ok (written, true)

/-- Where the end of an attempt takes its job. -/
def terminalPath (attemptFinal : AttemptState) (attemptRan : Bool) : Option (List JobState) :=
  match attemptFinal, attemptRan with
  | .completed, _ => some [.running, .completed]
  | .failed, true => some [.running, .failed]
  | .failed, false => some [.failed]
  | .cancelled, _ => some [.failed]
  | _, _ => none

/-- The trigger is decided by the last edge of the walk. -/
def terminalOf (lastFrom finalTo : JobState) : Except JobStoreError RunTerminal :=
  match lastFrom, finalTo with
  | .running, .completed => .ok .attemptCompleted
  | .running, .failed => .ok .unrecoverableError
  | .staging, .failed => .ok .stagingFailed
  | source, target => .error (.invalidTransition source target)

def followAttemptTerminal (db : ControlDb) (jobId attemptId : String)
    (attemptFinal : AttemptState) (attemptRan : Bool)
    (workerReportedFinishedAtUnixMs : UInt64) :
    Except JobStoreError (ControlDb × Option StoredJob) := do
  match ← fetchCurrentJob db jobId attemptId with
  | none => .ok (db, none)
  | some job =>
      match terminalPath attemptFinal attemptRan with
      | none => .ok (db, none)
      | some path =>
          let remaining :=
            if job.state = .running ∧ path.head? = some .running then path.tail else path
          match remaining.getLast? with
          | none => .ok (db, none)
          | some finalTo =>
              let before := remaining.dropLast
              let lastFrom := before.getLast?.getD job.state
              let terminal ← terminalOf lastFrom finalTo
              let _ ← (jobWalk job.state before).mapError rejected
              let state ← (jobTransitionVia lastFrom finalTo terminal.trigger).mapError rejected
              let revision ← countUp job.revision "revision overflow"
              let moved := { job with
                state, runTerminal := some terminal,
                workerReportedFinishedAtUnixMs := some workerReportedFinishedAtUnixMs,
                revision }
              let written ← updateJob db moved
              .ok (written, some moved)

/-- The ids of the jobs a failover looks at, in order. -/
def listInRunStates (db : ControlDb) : Except JobStoreError (List StoredJob) :=
  (db.jobs.rows.filter (fun row => row.state = "STAGING" ∨ row.state = "RUNNING")).mapM
    RawJobRow.intoStored

end Run

end Gputeer.Coordinator
