import Gputeer.Coordinator.Failover

/-! Storing a terminal report: the report, the end of the attempt, the end of the job, and on
request the release of the node or the pause of the job, all in one commit. -/

namespace Gputeer.Coordinator

open Protocol Text

structure OwnerPreemptRequest where
  policy : FailoverPolicy
  nowUnixMs : UInt64

inductive StoreReportError where
  | report (fault : AttemptReportStoreError)
  /-- A refused release, which the source prints in its debug form. -/
  | release (fault : ReservationReleaseError)
  deriving DecidableEq

structure StoreAttemptReportResult where
  binding : StoredAttemptReportBinding
  created : Bool
  notes : List String

variable (codec : Codec)

def releaseAfterReport (db : ControlDb) (verified : Verified AttemptReport)
    (release : Option (ReleaseAuthorization × UInt64)) :
    Except StoreReportError (ControlDb × List String) :=
  match release with
  | none => .ok (db, [])
  | some (authorization, releasedAt) => do
      let (released, _) ←
        (releaseWithinTransaction codec db verified authorization releasedAt).mapError .release
      .ok (released, ["RESERVATION_RELEASED node_id=" ++ verified.inner.nodeId ++
        " attempt_id=" ++ verified.inner.attemptId])

def preemptAfterReport (db : ControlDb) (report : AttemptReport)
    (ownerPreempt : Option OwnerPreemptRequest) :
    Except StoreReportError (ControlDb × List String) :=
  match ownerPreempt with
  | none => .ok (db, [])
  | some request =>
      if report.outcome = interruptedCode then do
        let (paused, line) ←
          (pauseForOwnerPreemptWithin codec db report.jobId report.attemptId report.nodeId
            request.policy request.nowUnixMs).mapError
            (fun fault => .report (.staging ("소유자 선점 기록: " ++ fault)))
        .ok (paused, line.toList)
      else .ok (db, [])

/-- Both are tried again when the same report comes again. -/
def afterReport (db : ControlDb) (verified : Verified AttemptReport)
    (release : Option (ReleaseAuthorization × UInt64))
    (ownerPreempt : Option OwnerPreemptRequest) :
    Except StoreReportError (ControlDb × List String) := do
  let (released, freed) ← releaseAfterReport codec db verified release
  let (paused, lines) ← preemptAfterReport codec released verified.inner ownerPreempt
  .ok (paused, freed ++ lines)

/-- The report is bound to the reservation of its node only while that is its own. -/
def bindingSource (db : ControlDb) (report : AttemptReport) :
    Except AttemptReportStoreError ReportBindingSource := do
  match ← (fetchNodeReservation db report.nodeId).mapError mapStagingError with
  | some reservation =>
      if reservation.attemptId = report.attemptId then
        bindReservation report reservation
        .ok .currentReservation
      else .ok .assignmentRecord
  | none => .ok .assignmentRecord

def insertReport (db : ControlDb) (report : AttemptReport) (signerId : String)
    (boundVia : ReportBindingSource) : ControlDb :=
  let reportBody := codec.encodeAttemptReport report
  let row : ReportRow :=
    { attemptId := report.attemptId, nodeId := report.nodeId, jobId := report.jobId,
      fenceEpoch := report.fenceEpoch, verifiedSignerId := signerId,
      reportHash := codec.blake3 reportBody, reportBody, boundVia }
  { db with attemptReports := db.attemptReports ++ [row] }

/-- Move the attempt to the state the report proves. -/
def endAttempt (db : ControlDb) (report : AttemptReport) (attempt : StoredAttempt)
    (target : AttemptState) : Except AttemptReportStoreError ControlDb :=
  if attempt.state = target then .ok db
  else
    match normativePath attempt.state target (observedExit report) with
    | none => .error (.attemptStateUnreachable attempt.state target)
    | some path =>
        (transitionAttemptStateAlong db report.attemptId attempt.state path).mapError
          mapStagingError

/-- Whether the report proves that the attempt ran. -/
def attemptRan (report : AttemptReport) (attempt : StoredAttempt) (target : AttemptState) : Bool :=
  attempt.state = .running ∨
    (normativePath .created target (observedExit report)).any (·.contains .running)

def endRun (db : ControlDb) (report : AttemptReport) (attempt : StoredAttempt) :
    Except AttemptReportStoreError ControlDb :=
  match terminalStateFor report with
  | none => .ok db
  | some target => do
      let ended ← endAttempt db report attempt target
      let (followed, _) ← (followAttemptTerminal ended report.jobId report.attemptId target
        (attemptRan report attempt target) report.finishedAtUnixMs).mapError
        (fun fault => .staging ("Job 종료 전이: " ++ fault.display))
      .ok followed

/-- A report that is not stored yet. -/
def storeNewReport (db : ControlDb) (report : AttemptReport) (signerId : String) :
    Except AttemptReportStoreError (ControlDb × StoredAttemptReportBinding) := do
  let found ← (fetchAttempt db report.attemptId).mapError mapStagingError
  let attempt ← Except.ofOption (.attemptNotFound report.attemptId) found
  bindAttempt report signerId attempt
  let boundVia ← bindingSource db report
  let inserted := insertReport codec db report signerId boundVia
  let ended ← endRun inserted report attempt
  .ok (ended,
    { report, reportHash := codec.blake3 (codec.encodeAttemptReport report),
      signerIdAtSubmission := signerId, boundJobId := report.jobId,
      boundAttemptId := report.attemptId, boundNodeId := report.nodeId,
      boundFenceEpoch := report.fenceEpoch, boundVia })

def storeVerifiedTerminalReport (db : ControlDb) (verified : Verified AttemptReport)
    (release : Option (ReleaseAuthorization × UInt64))
    (ownerPreempt : Option OwnerPreemptRequest) :
    Except StoreReportError (ControlDb × StoreAttemptReportResult) := do
  let report := verified.inner
  (validateReportInput report).mapError .report
  let stored ←
    (fetchReportBinding codec db report.attemptId report.nodeId).mapError .report
  match stored with
  | some binding =>
      Except.ensure (binding.report = report ∧
          binding.signerIdAtSubmission = verified.signerId)
        (.report (.reportConflict report.attemptId report.nodeId))
      let (after, notes) ← afterReport codec db verified release ownerPreempt
      .ok (after, ⟨binding, false, notes⟩)
  | none =>
      let (ended, binding) ← (storeNewReport codec db report verified.signerId).mapError .report
      let (after, notes) ← afterReport codec ended verified release ownerPreempt
      .ok (after, ⟨binding, true, notes⟩)

/-- Opening the store moves the attempts on whose reports were stored while their state was not
yet followed. A body that does not decode, or that proves no reachable state, is passed over. -/
def backfillTerminalStates (db : ControlDb) : List ReportRow → Except StagingStoreError ControlDb
  | [] => .ok db
  | row :: rest =>
      let path := do
        let report ← codec.decodeAttemptReport row.reportBody
        let target ← terminalStateFor report
        normativePath .created target (observedExit report)
      match path with
      | none => backfillTerminalStates db rest
      | some path => do
          let moved ← transitionAttemptStateAlong db row.attemptId .created path
          backfillTerminalStates moved rest

def openReportStore (db : ControlDb) : Except StagingStoreError ControlDb :=
  backfillTerminalStates codec db
    (db.attemptReports.filter
      (fun row => db.attempts[row.attemptId]?.any (·.state = .created)))

end Gputeer.Coordinator
