import Gputeer.Coordinator.AttemptReports

/-! Releasing a node reservation on the strength of a stored terminal report. -/

namespace Gputeer.Coordinator

open Protocol Text

inductive RuntimeStopProof where
  | provenByCaller
  | observedExitInSignedReport
  | notProvenYet
  deriving DecidableEq

inductive KeyDirectoryProvenance where
  | authoritativeDirectoryVerifiedByCaller
  | unverified
  deriving DecidableEq

inductive ArtifactDurabilityGuard where
  | satisfiedByCaller
  | notSatisfiedYet
  | notApplicableNonCompleted
  deriving DecidableEq

structure ReleaseAuthorization where
  runtimeStop : RuntimeStopProof
  keyDirectory : KeyDirectoryProvenance
  artifactDurability : ArtifactDurabilityGuard
  deriving DecidableEq

inductive ReleaseOutcome where
  | released (release : StoredReservationRelease)
  | alreadyReleased (release : StoredReservationRelease)
  deriving DecidableEq

inductive ReservationReleaseError where
  | invalidInput (field : String)
  | notTerminalOutcome (outcome : Int32)
  | reportRule (rule : ReportRuleError)
  | runtimeStopNotProven
  | keyDirectoryNotVerified
  | artifactDurabilityNotSatisfied
  | artifactGuardMarkedNotApplicableForCompleted
  | noTerminalEvidence (attemptId nodeId : String)
  | evidenceMismatch (attemptId nodeId : String)
  | reservationNotFound (nodeId : String)
  | reservationBelongsToAnotherAttempt (nodeId holderAttemptId : String)
  | reservationJobMismatch (nodeId reservationJobId reportJobId : String)
  | releaseConflict (attemptId : String)
  | evidence (fault : AttemptReportStoreError)
  | storage (message : String)
  deriving DecidableEq

def checkAuthorization (authorization : ReleaseAuthorization) :
    Except ReservationReleaseError Unit := do
  Except.ensure (authorization.runtimeStop ≠ .notProvenYet) .runtimeStopNotProven
  Except.ensure (authorization.keyDirectory ≠ .unverified) .keyDirectoryNotVerified

def validateReleaseInput (report : AttemptReport) : Except ReservationReleaseError Unit := do
  Except.ensure (isBlank report.jobId = false) (.invalidInput "job_id")
  Except.ensure (isBlank report.attemptId = false) (.invalidInput "attempt_id")
  Except.ensure (isBlank report.nodeId = false) (.invalidInput "node_id")
  Except.ensure (isTerminalOutcome report.outcome) (.notTerminalOutcome report.outcome)
  (validateAttemptReportSemantics report).mapError .reportRule

/-- A late completion is a completion too. -/
def checkArtifactGuard (outcome : Int32) (guard : ArtifactDurabilityGuard) :
    Except ReservationReleaseError Unit :=
  if outcome = 1 ∨ outcome = 5 then
    match guard with
    | .satisfiedByCaller => .ok ()
    | .notSatisfiedYet => .error .artifactDurabilityNotSatisfied
    | .notApplicableNonCompleted => .error .artifactGuardMarkedNotApplicableForCompleted
  else .ok ()

def checkObservedExit (report : AttemptReport) (proof : RuntimeStopProof) :
    Except ReservationReleaseError Unit :=
  if proof ≠ .observedExitInSignedReport then .ok ()
  else Except.ensure (observedExit report) .runtimeStopNotProven

/-- The reservation of another attempt is refused, never deleted. -/
def checkReservationOwner (report : AttemptReport) (reservation : StoredNodeReservation) :
    Except ReservationReleaseError Unit := do
  Except.ensure (reservation.attemptId = report.attemptId)
    (.reservationBelongsToAnotherAttempt report.nodeId reservation.attemptId)
  Except.ensure (reservation.jobId = report.jobId)
    (.reservationJobMismatch report.nodeId reservation.jobId report.jobId)

/-- `DELETE … WHERE node_id = ? AND attempt_id = ?`, which has to remove one row. -/
def deleteReservation (db : ControlDb) (nodeId attemptId : String) : Option ControlDb :=
  match db.nodeReservations[nodeId]? with
  | some reservation =>
      if reservation.attemptId = attemptId then
        some { db with nodeReservations := db.nodeReservations.erase nodeId }
      else none
  | none => none

variable (codec : Codec)

/-- The same facts may be released again. -/
def checkSameRelease (existing : StoredReservationRelease) (report : AttemptReport)
    (reportHash : ManifestHash) : Except ReservationReleaseError Unit :=
  Except.ensure (existing.nodeId = report.nodeId ∧ existing.jobId = report.jobId ∧
    existing.fenceEpoch = report.fenceEpoch ∧ existing.reportHash = reportHash)
    (.releaseConflict report.attemptId)

def releaseNew (db : ControlDb) (verified : Verified AttemptReport) (reportHash : ManifestHash)
    (releasedAtUnixMs : UInt64) :
    Except ReservationReleaseError (ControlDb × ReleaseOutcome) := do
  let report := verified.inner
  let evidence ← (fetchReportBinding codec db report.attemptId report.nodeId).mapError .evidence
  let binding ← Except.ofOption (.noTerminalEvidence report.attemptId report.nodeId) evidence
  Except.ensure (binding.reportHash = reportHash ∧ binding.report = report ∧
      binding.signerIdAtSubmission = verified.signerId)
    (.evidenceMismatch report.attemptId report.nodeId)
  let found ← (fetchNodeReservation db report.nodeId).mapError
    (fun fault => .storage fault.display)
  let reservation ← Except.ofOption (.reservationNotFound report.nodeId) found
  checkReservationOwner report reservation
  let deleted ← Except.ofOption (.storage "예약 삭제가 0 행을 지웠다 — 1 이어야 한다")
    (deleteReservation db report.nodeId report.attemptId)
  let release : StoredReservationRelease :=
    { attemptId := report.attemptId, nodeId := report.nodeId, jobId := report.jobId,
      fenceEpoch := report.fenceEpoch, reportHash, releasedAtUnixMs,
      releasedGpuIds := reservation.selectedGpuIds }
  .ok ({ deleted with
          reservationReleases :=
            deleted.reservationReleases.insert report.attemptId release },
    .released release)

/-- The stand-alone release and the one inside the report's transaction make the same checks. -/
def releaseWithinTransaction (db : ControlDb) (verified : Verified AttemptReport)
    (authorization : ReleaseAuthorization) (releasedAtUnixMs : UInt64) :
    Except ReservationReleaseError (ControlDb × ReleaseOutcome) := do
  checkAuthorization authorization
  let report := verified.inner
  validateReleaseInput report
  checkArtifactGuard report.outcome authorization.artifactDurability
  checkObservedExit report authorization.runtimeStop
  let reportHash := codec.blake3 (codec.encodeAttemptReport report)
  match db.reservationReleases[report.attemptId]? with
  | some existing =>
      checkSameRelease existing report reportHash
      .ok (db, .alreadyReleased existing)
  | none => releaseNew codec db verified reportHash releasedAtUnixMs

def releaseForVerifiedTerminalReport (db : ControlDb) (verified : Verified AttemptReport)
    (authorization : ReleaseAuthorization) (releasedAtUnixMs : UInt64) :
    Except ReservationReleaseError (ControlDb × ReleaseOutcome) :=
  releaseWithinTransaction codec db verified authorization releasedAtUnixMs

end Gputeer.Coordinator
