import Gputeer.Coordinator.StagingStore

/-! Terminal reports of attempts: what is accepted, the attempt state a report proves, and the
reading of a stored report together with the attempt it is bound to. -/

namespace Gputeer.Coordinator

open Protocol Text

structure StoredAttemptReportBinding where
  report : AttemptReport
  reportHash : ManifestHash
  signerIdAtSubmission : String
  boundJobId : String
  boundAttemptId : String
  boundNodeId : String
  boundFenceEpoch : UInt64
  boundVia : ReportBindingSource
  deriving DecidableEq

inductive BindingField where
  | jobId
  | attemptId
  | nodeId
  | signerId
  | fenceEpoch
  | reservationJobId
  | reservationAttemptId
  | reservationNodeId
  deriving DecidableEq

inductive AttemptReportCorruption where
  | emptyBody
  | undecodableBody
  | hashMismatch
  | jobIdMismatch
  | attemptIdMismatch
  | nodeIdMismatch
  | signerIdMismatch
  | fenceEpochMismatch
  | invalidOutcome
  | reportRule
  | missingAttempt
  deriving DecidableEq

inductive AttemptReportStoreError where
  | invalidInput (field : String)
  | invalidOutcome (outcome : Int32)
  | reportRule (rule : ReportRuleError)
  | attemptNotFound (attemptId : String)
  | bindingMismatch (field : BindingField)
  | attemptStateUnreachable (source target : AttemptState)
  | reportConflict (attemptId nodeId : String)
  | corrupt (attemptId nodeId : String) (kind : AttemptReportCorruption)
  | staging (message : String)
  deriving DecidableEq

def interruptedCode : Int32 := 3

def isTerminalOutcome (outcome : Int32) : Bool :=
  (AttemptOutcome.ofCode outcome).any (· ≠ .unspecified)

def validateReportInput (report : AttemptReport) : Except AttemptReportStoreError Unit := do
  Except.ensure (isBlank report.jobId = false) (.invalidInput "job_id")
  Except.ensure (isBlank report.attemptId = false) (.invalidInput "attempt_id")
  Except.ensure (isBlank report.nodeId = false) (.invalidInput "node_id")
  Except.ensure (isTerminalOutcome report.outcome) (.invalidOutcome report.outcome)
  (validateAttemptReportSemantics report).mapError .reportRule

/-- The exit of the workload was observed, with or without its code. -/
def observedExit (report : AttemptReport) : Bool :=
  (ExitObservation.ofCode report.exitObservation).any
    (fun observation => observation = .observedWithCode ∨ observation = .observedNoCode)

/-- An interruption has no attempt state of its own. -/
def terminalStateFor (report : AttemptReport) : Option AttemptState :=
  match AttemptOutcome.ofCode report.outcome with
  | some .completed | some .staleCompleted => some .completed
  | some .failed | some .outputFinalizationFailed => some .failed
  | some .cancelled => some .cancelled
  | _ => none

/-- A failure passes through `RUNNING` exactly when its exit was observed. -/
def admissiblePath (source target : AttemptState) (observed : Bool)
    (path : List AttemptState) : Bool :=
  let runs := path.contains .running
  let synthesized := !observed && target = .failed && runs
  let startFailure := observed && target = .failed && source ≠ .running && !runs
  !synthesized && !startFailure && attemptWalk source path matches .ok _

def normativePath (source target : AttemptState) (observed : Bool) :
    Option (List AttemptState) :=
  [[target], [.starting, target], [.starting, .running, target], [.running, target]].find?
    (admissiblePath source target observed)

def bindAttempt (report : AttemptReport) (signerId : String) (attempt : StoredAttempt) :
    Except AttemptReportStoreError Unit := do
  Except.ensure (report.jobId = attempt.jobId) (.bindingMismatch .jobId)
  Except.ensure (report.attemptId = attempt.attemptId) (.bindingMismatch .attemptId)
  Except.ensure (attempt.nodeIds = [report.nodeId]) (.bindingMismatch .nodeId)
  Except.ensure (signerId = report.nodeId) (.bindingMismatch .signerId)
  Except.ensure (report.fenceEpoch = attempt.fenceEpoch) (.bindingMismatch .fenceEpoch)

def bindReservation (report : AttemptReport) (reservation : StoredNodeReservation) :
    Except AttemptReportStoreError Unit := do
  Except.ensure (report.jobId = reservation.jobId) (.bindingMismatch .reservationJobId)
  Except.ensure (report.attemptId = reservation.attemptId)
    (.bindingMismatch .reservationAttemptId)
  Except.ensure (report.nodeId = reservation.nodeId) (.bindingMismatch .reservationNodeId)

def mapStagingError (fault : StagingStoreError) : AttemptReportStoreError :=
  .staging fault.display

def fetchReportRow (db : ControlDb) (attemptId nodeId : String) : Option ReportRow :=
  db.attemptReports.find? (fun row => row.attemptId = attemptId ∧ row.nodeId = nodeId)

variable (codec : Codec)

/-- A stored report, checked against its own columns and the attempt it belongs to. -/
def readReport (db : ControlDb) (row : ReportRow) :
    Except AttemptReportStoreError StoredAttemptReportBinding := do
  let corrupt := AttemptReportStoreError.corrupt row.attemptId row.nodeId
  Except.ensure (row.reportBody ≠ []) (corrupt .emptyBody)
  Except.ensure (codec.blake3 row.reportBody = row.reportHash) (corrupt .hashMismatch)
  let report ← Except.ofOption (corrupt .undecodableBody)
    (codec.decodeAttemptReport row.reportBody)
  Except.ensure (isTerminalOutcome report.outcome) (corrupt .invalidOutcome)
  (validateAttemptReportSemantics report).mapError (fun _ => corrupt .reportRule)
  Except.ensure (report.jobId = row.jobId) (corrupt .jobIdMismatch)
  Except.ensure (report.attemptId = row.attemptId) (corrupt .attemptIdMismatch)
  Except.ensure (report.nodeId = row.nodeId) (corrupt .nodeIdMismatch)
  Except.ensure (row.verifiedSignerId = row.nodeId ∧ row.verifiedSignerId = report.nodeId)
    (corrupt .signerIdMismatch)
  Except.ensure (report.fenceEpoch = row.fenceEpoch) (corrupt .fenceEpochMismatch)
  let found ← (fetchAttempt db row.attemptId).mapError mapStagingError
  let attempt ← Except.ofOption (corrupt .missingAttempt) found
  Except.ensure (attempt.jobId = row.jobId) (corrupt .jobIdMismatch)
  Except.ensure (attempt.nodeIds = [row.nodeId]) (corrupt .nodeIdMismatch)
  Except.ensure (attempt.fenceEpoch = row.fenceEpoch) (corrupt .fenceEpochMismatch)
  .ok { report, reportHash := row.reportHash, signerIdAtSubmission := row.verifiedSignerId,
        boundJobId := row.jobId, boundAttemptId := row.attemptId, boundNodeId := row.nodeId,
        boundFenceEpoch := row.fenceEpoch, boundVia := row.boundVia }

def fetchReportBinding (db : ControlDb) (attemptId nodeId : String) :
    Except AttemptReportStoreError (Option StoredAttemptReportBinding) :=
  Except.onSome (readReport codec db) (fetchReportRow db attemptId nodeId)

end Gputeer.Coordinator
