import Gputeer.Lib.Bytes
import Gputeer.Lib.Text
import Gputeer.Protocol.JobState

/-! A job as a row of the control database: which columns each state fills, and the reading of a
row back into a job. -/

namespace Gputeer.Coordinator

open Protocol Text

abbrev ManifestHash := Vector UInt8 32

inductive ManifestCorruption where
  | emptyBody
  | undecodableBody
  | hashMismatch
  | jobIdMismatch
  | submitterDeviceIdMismatch
  | signerIdMismatch
  deriving DecidableEq

def ManifestCorruption.debugName : ManifestCorruption → String
  | .emptyBody => "EmptyBody"
  | .undecodableBody => "UndecodableBody"
  | .hashMismatch => "HashMismatch"
  | .jobIdMismatch => "JobIdMismatch"
  | .submitterDeviceIdMismatch => "SubmitterDeviceIdMismatch"
  | .signerIdMismatch => "SignerIdMismatch"

inductive JobStoreError where
  | invalidInput (field : String)
  | notFound
  | idempotencyConflict (storedJobId requestedJobId : String)
  | jobIdConflict (jobId : String)
  | invalidTransition (source target : JobState)
  | planConflict (storedPlanId requestedPlanId : String)
  | guardNotMet (guard : String)
  | manifestIdentityMismatch (field : String)
  | manifestHashMismatch
  | legacyManifestMissing (jobId : String)
  | manifestCorrupt (jobId : String) (kind : ManifestCorruption)
  | clockRollback (earlierUnixMs laterUnixMs : UInt64)
  | corruptData (message : String)
  deriving DecidableEq

def JobStoreError.display : JobStoreError → String
  | .invalidInput field => s!"invalid job store input: {field}"
  | .notFound => "job_id is not present in the durable store"
  | .idempotencyConflict stored requested =>
      s!"idempotency key conflict: stored job={stored}, requested job={requested}"
  | .jobIdConflict jobId => s!"job_id was already submitted with another key: {jobId}"
  | .invalidTransition source target =>
      s!"invalid durable Job transition: {source.debugName} -> {target.debugName}"
  | .planConflict stored requested =>
      s!"queued Job plan conflict: stored={stored}, requested={requested}"
  | .guardNotMet guard => s!"Job transition guard not met: {guard}"
  | .manifestIdentityMismatch field =>
      s!"verified Manifest identity does not match accepted {field}"
  | .manifestHashMismatch => "supplied manifest_hash does not match the verified Manifest"
  | .legacyManifestMissing jobId =>
      s!"job {jobId} predates durable Manifest bodies and cannot be consumed"
  | .manifestCorrupt jobId kind =>
      s!"durable Manifest for job {jobId} is corrupt: {kind.debugName}"
  | .clockRollback earlier later => s!"clock moved backwards: event={earlier}, prior={later}"
  | .corruptData message => s!"job store corruption: {message}"

/-- The states this store writes; the others are only passed through. -/
def parseJobState (value : String) : Except JobStoreError JobState :=
  if value = "SUBMITTED" then .ok .submitted
  else if value = "PLANNING" then .ok .planning
  else if value = "QUEUED" then .ok .queued
  else if value = "STAGING" then .ok .staging
  else if value = "RUNNING" then .ok .running
  else if value = "PAUSED" then .ok .paused
  else if value = "COMPLETED" then .ok .completed
  else if value = "FAILED" then .ok .failed
  else .error (.corruptData s!"unknown job state in durable store: {value}")

inductive RunTerminal where
  | attemptCompleted
  | stagingFailed
  | unrecoverableError
  | noCommittedCheckpoint
  deriving DecidableEq

def RunTerminal.trigger : RunTerminal → String
  | .attemptCompleted => "ATTEMPT_COMPLETED"
  | .stagingFailed => "STAGING_FAILED"
  | .unrecoverableError => "UNRECOVERABLE_ERROR"
  | .noCommittedCheckpoint => "NO_COMMITTED_CHECKPOINT"

def RunTerminal.parse (value : String) : Except JobStoreError RunTerminal :=
  if value = "ATTEMPT_COMPLETED" then .ok .attemptCompleted
  else if value = "STAGING_FAILED" then .ok .stagingFailed
  else if value = "UNRECOVERABLE_ERROR" then .ok .unrecoverableError
  else if value = "NO_COMMITTED_CHECKPOINT" then .ok .noCommittedCheckpoint
  else .error (.corruptData s!"unknown run terminal trigger in durable store: {value}")

inductive QueueFailure where
  | deadlinePassed
  | queueTimeout
  | permanentlyInfeasible (reason : String)
  deriving DecidableEq

namespace QueueFailure

def code : QueueFailure → String
  | .deadlinePassed => "DEADLINE_PASSED"
  | .queueTimeout => "QUEUE_TIMEOUT"
  | .permanentlyInfeasible _ => "PERMANENTLY_INFEASIBLE"

def detail : QueueFailure → Option String
  | .permanentlyInfeasible reason => some reason
  | .deadlinePassed | .queueTimeout => none

def parse (code : String) (detail : Option String) : Except JobStoreError QueueFailure :=
  if code = "DEADLINE_PASSED" ∧ detail = none then .ok .deadlinePassed
  else if code = "QUEUE_TIMEOUT" ∧ detail = none then .ok .queueTimeout
  else if code = "PERMANENTLY_INFEASIBLE" then
    match detail.filter (fun reason => !isBlank reason) with
    | some reason => .ok (.permanentlyInfeasible reason)
    | none => .error (.corruptData "PERMANENTLY_INFEASIBLE row has no reason")
  else .error (.corruptData s!"invalid queue failure in durable store: {code}")

end QueueFailure

structure StoredJob where
  jobId : String
  submitterDeviceId : String
  manifestHash : ManifestHash
  state : JobState
  submittedAtUnixMs : UInt64
  planningAtUnixMs : Option UInt64
  queuedAtUnixMs : Option UInt64
  stagingAtUnixMs : Option UInt64
  deadlineUnixMs : Option UInt64
  maxQueueDurationMs : Option UInt64
  planId : Option String
  queueFailure : Option QueueFailure
  failedAtUnixMs : Option UInt64
  runningAtUnixMs : Option UInt64
  runTerminal : Option RunTerminal
  workerReportedFinishedAtUnixMs : Option UInt64
  requeueCount : UInt64
  resumeCheckpoint : Option (List UInt8)
  revision : UInt64
  deriving DecidableEq

structure RawJobRow where
  jobId : String
  submitterDeviceId : String
  manifestHash : List UInt8
  state : String
  submittedAtUnixMs : List UInt8
  planningAtUnixMs : Option (List UInt8)
  queuedAtUnixMs : Option (List UInt8)
  stagingAtUnixMs : Option (List UInt8)
  deadlineUnixMs : Option (List UInt8)
  maxQueueDurationMs : Option (List UInt8)
  planId : Option String
  queueFailureKind : Option String
  queueFailureDetail : Option String
  failedAtUnixMs : Option (List UInt8)
  revision : List UInt8
  runningAtUnixMs : Option (List UInt8)
  runTerminal : Option String
  workerReportedFinishedAtUnixMs : Option (List UInt8)
  requeueCount : Option (List UInt8)
  resumeCheckpoint : Option (List UInt8)
  deriving DecidableEq

def encodeU64 (value : UInt64) : List UInt8 := Bytes.beBytes 8 value.toNat

def decodeU64 (bytes : List UInt8) (field : String) : Except JobStoreError UInt64 :=
  if bytes.length = 8 then .ok (UInt64.ofNat (Bytes.beNat bytes))
  else .error (.corruptData s!"{field} must contain exactly 8 bytes")

def decodeHash (bytes : List UInt8) : Except JobStoreError ManifestHash :=
  if exact : bytes.length = 32 then .ok ⟨bytes.toArray, by simpa using exact⟩
  else .error (.corruptData "manifest_hash must contain exactly 32 bytes")

/-- The columns `INSERT` writes for a job that has just been accepted; the rest are `NULL`. -/
def RawJobRow.ofSubmitted (job : StoredJob) : RawJobRow where
  jobId := job.jobId
  submitterDeviceId := job.submitterDeviceId
  manifestHash := job.manifestHash.toList
  state := job.state.tableName
  submittedAtUnixMs := encodeU64 job.submittedAtUnixMs
  planningAtUnixMs := none
  queuedAtUnixMs := none
  stagingAtUnixMs := none
  deadlineUnixMs := job.deadlineUnixMs.map encodeU64
  maxQueueDurationMs := job.maxQueueDurationMs.map encodeU64
  planId := none
  queueFailureKind := none
  queueFailureDetail := none
  failedAtUnixMs := none
  revision := encodeU64 job.revision
  runningAtUnixMs := none
  runTerminal := none
  workerReportedFinishedAtUnixMs := none
  requeueCount := none
  resumeCheckpoint := none

/-- The columns `update_job` sets. -/
def RawJobRow.written (row : RawJobRow) (job : StoredJob) : RawJobRow :=
  { row with
    state := job.state.tableName
    planningAtUnixMs := job.planningAtUnixMs.map encodeU64
    queuedAtUnixMs := job.queuedAtUnixMs.map encodeU64
    stagingAtUnixMs := job.stagingAtUnixMs.map encodeU64
    planId := job.planId
    queueFailureKind := job.queueFailure.map QueueFailure.code
    queueFailureDetail := job.queueFailure.bind QueueFailure.detail
    failedAtUnixMs := job.failedAtUnixMs.map encodeU64
    revision := encodeU64 job.revision
    runningAtUnixMs := job.runningAtUnixMs.map encodeU64
    runTerminal := job.runTerminal.map RunTerminal.trigger
    workerReportedFinishedAtUnixMs := job.workerReportedFinishedAtUnixMs.map encodeU64
    requeueCount := if job.requeueCount > 0 then some (encodeU64 job.requeueCount) else none
    resumeCheckpoint := job.resumeCheckpoint }

def hasPlan (planId : Option String) : Bool := planId.any (fun plan => !isBlank plan)

def RawJobRow.notRunYet (row : RawJobRow) (runTerminal : Option RunTerminal) : Bool :=
  row.runningAtUnixMs.isNone && runTerminal.isNone && row.workerReportedFinishedAtUnixMs.isNone

def RawJobRow.validShape (row : RawJobRow) (state : JobState) (runTerminal : Option RunTerminal)
    (queueFailure : Option QueueFailure) : Bool :=
  match state with
  | .submitted =>
      row.notRunYet runTerminal && row.planningAtUnixMs.isNone && row.queuedAtUnixMs.isNone &&
        row.stagingAtUnixMs.isNone && row.planId.isNone && queueFailure.isNone &&
        row.failedAtUnixMs.isNone
  | .planning =>
      row.notRunYet runTerminal && row.planningAtUnixMs.isSome && row.queuedAtUnixMs.isNone &&
        row.stagingAtUnixMs.isNone && row.planId.isNone && queueFailure.isNone &&
        row.failedAtUnixMs.isNone
  | .queued =>
      row.notRunYet runTerminal && row.planningAtUnixMs.isSome && row.queuedAtUnixMs.isSome &&
        row.stagingAtUnixMs.isNone && hasPlan row.planId && queueFailure.isNone &&
        row.failedAtUnixMs.isNone
  | .staging =>
      row.notRunYet runTerminal && row.planningAtUnixMs.isSome && row.queuedAtUnixMs.isSome &&
        row.stagingAtUnixMs.isSome && hasPlan row.planId && queueFailure.isNone &&
        row.failedAtUnixMs.isNone
  | .running | .paused =>
      row.planningAtUnixMs.isSome && row.queuedAtUnixMs.isSome && row.stagingAtUnixMs.isSome &&
        row.runningAtUnixMs.isSome && runTerminal.isNone &&
        row.workerReportedFinishedAtUnixMs.isNone && hasPlan row.planId && queueFailure.isNone &&
        row.failedAtUnixMs.isNone
  | .completed =>
      row.planningAtUnixMs.isSome && row.queuedAtUnixMs.isSome && row.stagingAtUnixMs.isSome &&
        runTerminal = some .attemptCompleted && hasPlan row.planId && queueFailure.isNone &&
        row.failedAtUnixMs.isNone
  | .failed =>
      let queueStageFailure := row.notRunYet runTerminal && row.stagingAtUnixMs.isNone &&
        queueFailure.isSome && row.failedAtUnixMs.isSome
      let runStageFailure := row.stagingAtUnixMs.isSome &&
        runTerminal.any (· ≠ .attemptCompleted) && queueFailure.isNone &&
        row.failedAtUnixMs.isNone
      row.planningAtUnixMs.isSome && row.queuedAtUnixMs.isSome && hasPlan row.planId &&
        (queueStageFailure || runStageFailure)
  | _ => false

def parseQueueFailure (kind detail : Option String) :
    Except JobStoreError (Option QueueFailure) :=
  match kind with
  | some kind => some <$> QueueFailure.parse kind detail
  | none =>
      if detail = none then .ok none
      else .error (.corruptData "queue failure detail exists without a kind")

def RawJobRow.intoStored (row : RawJobRow) : Except JobStoreError StoredJob := do
  let state ← parseJobState row.state
  let runTerminal ← Except.onSome RunTerminal.parse row.runTerminal
  let queueFailure ← parseQueueFailure row.queueFailureKind row.queueFailureDetail
  let requeues ← Except.onSome (decodeU64 · "requeue_count") row.requeueCount
  let requeueCount := requeues.getD 0
  Except.ensure (¬ (row.resumeCheckpoint.isSome ∧ requeueCount = 0))
    (.corruptData "resume_checkpoint exists without a requeue")
  Except.ensure (row.resumeCheckpoint ≠ some []) (.corruptData "resume_checkpoint is empty")
  Except.ensure (row.validShape state runTerminal queueFailure)
    (.corruptData s!"{state.tableName} row shape does not match its state")
  let manifestHash ← decodeHash row.manifestHash
  let submittedAtUnixMs ← decodeU64 row.submittedAtUnixMs "submitted_at_unix_ms"
  let planningAtUnixMs ←
    Except.onSome (decodeU64 · "planning_at_unix_ms") row.planningAtUnixMs
  let queuedAtUnixMs ← Except.onSome (decodeU64 · "queued_at_unix_ms") row.queuedAtUnixMs
  let stagingAtUnixMs ← Except.onSome (decodeU64 · "staging_at_unix_ms") row.stagingAtUnixMs
  let deadlineUnixMs ← Except.onSome (decodeU64 · "deadline_unix_ms") row.deadlineUnixMs
  let maxQueueDurationMs ←
    Except.onSome (decodeU64 · "max_queue_duration_ms") row.maxQueueDurationMs
  let failedAtUnixMs ← Except.onSome (decodeU64 · "failed_at_unix_ms") row.failedAtUnixMs
  let runningAtUnixMs ← Except.onSome (decodeU64 · "running_at_unix_ms") row.runningAtUnixMs
  let workerReportedFinishedAtUnixMs ←
    Except.onSome (decodeU64 · "worker_reported_finished_at_unix_ms")
      row.workerReportedFinishedAtUnixMs
  let revision ← decodeU64 row.revision "revision"
  .ok { jobId := row.jobId, submitterDeviceId := row.submitterDeviceId, manifestHash, state,
        submittedAtUnixMs, planningAtUnixMs, queuedAtUnixMs, stagingAtUnixMs, deadlineUnixMs,
        maxQueueDurationMs, planId := row.planId, queueFailure, failedAtUnixMs, runningAtUnixMs,
        runTerminal, workerReportedFinishedAtUnixMs, requeueCount,
        resumeCheckpoint := row.resumeCheckpoint, revision }

/-- All columns of a job: what the two writers leave in its row. -/
def RawJobRow.ofStored (job : StoredJob) : RawJobRow := (RawJobRow.ofSubmitted job).written job

/-- What a job must look like for its row to be accepted. -/
structure StoredJob.WellShaped (job : StoredJob) : Prop where
  shape : (RawJobRow.ofStored job).validShape job.state job.runTerminal job.queueFailure = true
  resumable : ∀ body, job.resumeCheckpoint = some body → job.requeueCount ≠ 0 ∧ body ≠ []
  explained : ∀ reason, job.queueFailure = some (.permanentlyInfeasible reason) →
    isBlank reason = false

theorem decodeU64_encodeU64 (field : String) (value : UInt64) :
    decodeU64 (encodeU64 value) field = .ok value := by
  have fits : value.toNat < 256 ^ 8 := value.toNat_lt
  simp [decodeU64, encodeU64, Bytes.beNat_beBytes fits]

theorem encodeU64_injective : Function.Injective encodeU64 := by
  intro first second same
  have read := decodeU64_encodeU64 "" first
  rw [same, decodeU64_encodeU64, Except.ok.injEq] at read
  exact read.symm

theorem decodeHash_toList (hash : ManifestHash) : decodeHash hash.toList = .ok hash := by
  simp [decodeHash, Vector.toList]

theorem RunTerminal.parse_trigger (terminal : RunTerminal) :
    RunTerminal.parse terminal.trigger = .ok terminal := by
  cases terminal <;> rfl

theorem parseJobState_tableName {row : RawJobRow} {state : JobState}
    {terminal : Option RunTerminal} {failure : Option QueueFailure}
    (valid : row.validShape state terminal failure = true) :
    parseJobState state.tableName = .ok state := by
  cases state <;> first | rfl | simp [RawJobRow.validShape] at valid

theorem parseQueueFailure_columns {failure : Option QueueFailure}
    (explained : ∀ reason, failure = some (.permanentlyInfeasible reason) →
      isBlank reason = false) :
    parseQueueFailure (failure.map QueueFailure.code) (failure.bind QueueFailure.detail) =
      .ok failure := by
  rcases failure with _ | (_ | _ | reason)
  · rfl
  · rfl
  · rfl
  · have filled := explained reason rfl
    simp [parseQueueFailure, QueueFailure.parse, QueueFailure.code, QueueFailure.detail,
      Option.filter, filled, Functor.map, Except.map]

theorem requeueCount_column (count : UInt64) :
    ∃ requeues, Except.onSome (decodeU64 · "requeue_count")
        (if count > 0 then some (encodeU64 count) else none) = .ok requeues ∧
      requeues.getD 0 = count := by
  by_cases positive : count > 0
  · refine ⟨some count, ?_, rfl⟩
    simp [positive, Except.onSome, decodeU64_encodeU64, Functor.map, Except.map]
  · have zero : count = 0 := UInt64.le_antisymm (UInt64.not_lt.mp positive) UInt64.zero_le
    exact ⟨none, by simp [zero, Except.onSome], zero.symm⟩

/-- The row of a well-shaped job reads back as that job. -/
theorem RawJobRow.intoStored_ofStored {job : StoredJob} (shaped : job.WellShaped) :
    (RawJobRow.ofStored job).intoStored = .ok job := by
  have columns : ∀ (field : String) (value : Option UInt64),
      Except.onSome (decodeU64 · field) (value.map encodeU64) = .ok value :=
    fun field => Except.onSome_map (decodeU64_encodeU64 field)
  have terminals := Except.onSome_map RunTerminal.parse_trigger job.runTerminal
  have failures := parseQueueFailure_columns shaped.explained
  have state := parseJobState_tableName shaped.shape
  have requeued : ¬ (job.resumeCheckpoint.isSome ∧ job.requeueCount = 0) := by
    rintro ⟨present, zero⟩
    obtain ⟨body, found⟩ := Option.isSome_iff_exists.mp present
    exact (shaped.resumable body found).1 zero
  have filled : job.resumeCheckpoint ≠ some [] :=
    fun empty => (shaped.resumable [] empty).2 rfl
  obtain ⟨requeues, counted, total⟩ := requeueCount_column job.requeueCount
  have shape := shaped.shape
  simp only [RawJobRow.ofStored, RawJobRow.written, RawJobRow.ofSubmitted] at shape
  simp only [RawJobRow.intoStored, RawJobRow.ofStored, RawJobRow.written, RawJobRow.ofSubmitted,
    state, terminals, failures, counted, total, columns, decodeU64_encodeU64, decodeHash_toList,
    shape, Except.ensure, requeued, filled, bind, Except.bind, if_true, not_false_eq_true,
    ne_eq]

end Gputeer.Coordinator
