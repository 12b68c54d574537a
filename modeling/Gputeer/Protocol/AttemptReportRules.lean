import Gputeer.Protocol.Messages

/-! Which combinations of outcome, exit observation and finalization stage a report may carry. -/

namespace Gputeer.Protocol

inductive AttemptOutcome where
  | unspecified
  | completed
  | failed
  | interrupted
  | cancelled
  | staleCompleted
  | outputFinalizationFailed
  deriving DecidableEq, Repr

inductive ExitObservation where
  | unspecified
  | notObserved
  | observedWithCode
  | observedNoCode
  deriving DecidableEq, Repr

inductive FinalizationFailureStage where
  | unspecified
  | readOutputs
  | encodeResult
  | commitCheckpoint
  deriving DecidableEq, Repr

def AttemptOutcome.ofCode (code : Int32) : Option AttemptOutcome :=
  if code = 0 then some .unspecified
  else if code = 1 then some .completed
  else if code = 2 then some .failed
  else if code = 3 then some .interrupted
  else if code = 4 then some .cancelled
  else if code = 5 then some .staleCompleted
  else if code = 6 then some .outputFinalizationFailed
  else none

def ExitObservation.ofCode (code : Int32) : Option ExitObservation :=
  if code = 0 then some .unspecified
  else if code = 1 then some .notObserved
  else if code = 2 then some .observedWithCode
  else if code = 3 then some .observedNoCode
  else none

def FinalizationFailureStage.ofCode (code : Int32) : Option FinalizationFailureStage :=
  if code = 0 then some .unspecified
  else if code = 1 then some .readOutputs
  else if code = 2 then some .encodeResult
  else if code = 3 then some .commitCheckpoint
  else none

inductive ReportRuleError where
  | unknownOutcome (code : Int32)
  | unspecifiedOutcome
  | unknownExitObservation (code : Int32)
  | unknownFinalizationStage (code : Int32)
  | unsupportedSchemaVersion (version : UInt32)
  | v1UsesNewFields
  | v1UsesNewOutcome
  | v2MissingExitObservation
  | exitCodeWithoutObservedCode
  | combinationRejected (outcome exitObservation : Int32) (exitCode : UInt32) (stage : Int32)
  deriving DecidableEq

def attemptReportMaxSchemaVersion : UInt32 := 2

def validateV1 (outcome : AttemptOutcome) (observation : ExitObservation)
    (stage : FinalizationFailureStage) (exitCode : UInt32) : Except ReportRuleError Unit :=
  if observation ≠ .unspecified ∨ exitCode ≠ 0 ∨ stage ≠ .unspecified then .error .v1UsesNewFields
  else
    match outcome with
    | .completed | .failed | .interrupted | .cancelled | .staleCompleted => .ok ()
    | .outputFinalizationFailed => .error .v1UsesNewOutcome
    | .unspecified => .error .unspecifiedOutcome

def allowedV2 (outcome : AttemptOutcome) (observation : ExitObservation)
    (stage : FinalizationFailureStage) (exitCode : UInt32) : Bool :=
  match outcome with
  | .completed | .staleCompleted =>
      observation = .observedWithCode ∧ exitCode = 0 ∧ stage = .unspecified
  | .outputFinalizationFailed =>
      observation = .observedWithCode ∧ exitCode = 0 ∧ stage ≠ .unspecified
  | .failed | .interrupted | .cancelled => true
  | .unspecified => false

def validateV2 (report : AttemptReport) (outcome : AttemptOutcome)
    (observation : ExitObservation) (stage : FinalizationFailureStage) :
    Except ReportRuleError Unit :=
  if observation = .unspecified then .error .v2MissingExitObservation
  else if report.exitCode ≠ 0 ∧ observation ≠ .observedWithCode then
    .error .exitCodeWithoutObservedCode
  else if allowedV2 outcome observation stage report.exitCode then .ok ()
  else
    .error (.combinationRejected report.outcome report.exitObservation report.exitCode
      report.finalizationFailureStage)

def validateAttemptReportSemantics (report : AttemptReport) : Except ReportRuleError Unit :=
  match AttemptOutcome.ofCode report.outcome with
  | none => .error (.unknownOutcome report.outcome)
  | some outcome =>
      match ExitObservation.ofCode report.exitObservation with
      | none => .error (.unknownExitObservation report.exitObservation)
      | some observation =>
          match FinalizationFailureStage.ofCode report.finalizationFailureStage with
          | none => .error (.unknownFinalizationStage report.finalizationFailureStage)
          | some stage =>
              if outcome = .unspecified then .error .unspecifiedOutcome
              else if report.schemaVersion = 1 then
                validateV1 outcome observation stage report.exitCode
              else if report.schemaVersion = attemptReportMaxSchemaVersion then
                validateV2 report outcome observation stage
              else .error (.unsupportedSchemaVersion report.schemaVersion)

end Gputeer.Protocol
