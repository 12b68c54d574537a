import Gputeer.Lib.Except
import Gputeer.Lib.Text
import Gputeer.Scheduler.Filter

/-! May a job that is placed be moved to another machine while its broker is silent? The gate demands
six conditions as statements of the caller. It refuses what it cannot judge, and else names every
condition that is not met. -/

namespace Gputeer.Scheduler

open Text

inductive ParticipationModel where
  | privateTeam | publicPool
  deriving DecidableEq

def ParticipationModel.assumesMutualTrust : ParticipationModel → Bool
  | .privateTeam => true
  | .publicPool => false

inductive PartitionPauseEnforcement where
  | enforcedByCaller | notEnforcedYet
  deriving DecidableEq

inductive NeighborReportResolution where
  | signatureAndMembershipVerifiedByCaller | unresolved
  deriving DecidableEq, Ord

inductive FenceRangeIssuance where
  | brokerPreSignedVerifiedByCaller | unproven
  deriving DecidableEq

inductive ReceivingNodeConsent where
  | granted | withheld
  deriving DecidableEq

inductive AuditRecord where
  | committed (recordId recordedJobId recordedAttemptId : String) (recordedFenceEpoch : UInt64)
  | notRecorded
  deriving DecidableEq

structure NeighborUnreachableReport where
  reporterNodeId : String
  reporterMemberId : String
  unreachableNodeId : String
  observedAtUnixMs : UInt64
  resolution : NeighborReportResolution
  deriving DecidableEq, Ord

/-- The numbers that the broker issued for the failover of one attempt, both ends included. -/
structure ReservedFenceRange where
  first : UInt64
  last : UInt64
  alreadyUsed : Std.ExtTreeSet UInt64 compare
  issuance : FenceRangeIssuance
  issuedForJobId : String
  issuedForAttemptId : String

structure ReassignmentPolicy where
  brokerSilenceThresholdMs : UInt64
  privateTeamRequiredReports : UInt32
  publicPoolRequiredReports : UInt32
  publicPoolEnabled : Bool
  deriving DecidableEq

structure ReassignmentRequest where
  jobId : String
  attemptId : String
  strandedNodeId : String
  strandedMemberId : String
  receivingNodeId : String
  receivingMemberId : String
  brokerSilentForMs : UInt64
  originalLeaseExpiresAtUnixMs : UInt64
  partitionPause : PartitionPauseEnforcement
  neighborReports : List NeighborUnreachableReport
  receivingConsent : ReceivingNodeConsent
  originalFenceEpoch : UInt64
  proposedFenceEpoch : UInt64
  reservedFenceRange : ReservedFenceRange
  auditRecord : AuditRecord
  model : ParticipationModel
  nowUnixMs : UInt64

inductive UnmetCondition where
  | brokerSilenceTooShort (observedMs requiredMs : UInt64)
  | originalLeaseStillValid (expiresAtUnixMs nowUnixMs : UInt64)
  | partitionPauseNotEnforced
  | notEnoughNeighborReports (distinct required : UInt32)
  | receivingNodeDidNotConsent
  | fenceEpochOutsideReservedRange (proposed first last : UInt64)
  | fenceEpochAlreadyUsed (proposed : UInt64)
  | fenceEpochNotAboveHighestSeen (proposed mustExceed : UInt64)
  | auditRecordNotCommitted
  | publicPoolReassignmentDisabled
  deriving DecidableEq, Ord

inductive ReassignmentInputError where
  | nonCanonicalIdentifier (field value : String)
  | receivingNodeIsStrandedNode (nodeId : String)
  | unresolvedNeighborReport (reporterMemberId : String)
  | conflictingReporterOwnership (reporterNodeId firstMemberId secondMemberId : String)
  | reportTargetsAnotherNode (reporterMemberId reportedNodeId expectedNodeId : String)
  | reportObservedInFuture (reporterMemberId : String) (observedAtUnixMs nowUnixMs : UInt64)
  | reportFromBeneficiary (memberId : String)
  | reportFromStrandedMember (memberId : String)
  | reportFromStrandedNode (reporterNodeId : String)
  | reportFromReceivingNode (reporterNodeId : String)
  | ambiguousIdentifier (field first second : String)
  | auditRecordDoesNotMatchRequest (recordId recordedJobId recordedAttemptId : String)
      (recordedFenceEpoch : UInt64)
  | identifierIsNotUlidLength (field : String) (actual : Nat)
  | fenceRangeIssuedForAnotherAttempt (issuedForJobId issuedForAttemptId : String)
  | reservedFenceRangeInverted (first last : UInt64)
  | reservedFenceRangeNotAboveOriginal (last original : UInt64)
  | unprovenFenceRange
  | alreadyUsedEpochOutsideRange (epoch first last : UInt64)
  | brokerSilenceThresholdIsZero
  | requiredNeighborReportsIsZero
  | publicPoolQuorumNotHigher (publicPool privateTeam : UInt32)
  deriving DecidableEq

inductive ReassignmentDecision where
  | allowed (fenceEpoch : UInt64)
  | refused (unmet : List UnmetCondition)
  deriving DecidableEq

section Identifiers

def isAsciiGraphic (c : Char) : Bool := 0x21 ≤ c.val ∧ c.val ≤ 0x7E

/-- An identifier is refused rather than trimmed. -/
def requireCanonicalIdentifier (value field : String) : Except ReassignmentInputError Unit :=
  Except.ensure (¬ (value = "" ∨ value.toList.any isWhiteSpace ∨ ¬ value.toList.all isAsciiGraphic))
    (.nonCanonicalIdentifier field value)

def ulidLen : Nat := 26

def requireUlidIdentifier (value field : String) : Except ReassignmentInputError Unit := do
  requireCanonicalIdentifier value field
  Except.ensure (value.length = ulidLen) (.identifierIsNotUlidLength field value.length)

/-- Two identifiers that differ in the case of their letters alone are neither the same nor
different. -/
inductive IdentityMatch where
  | same | ambiguous | different
  deriving DecidableEq

def eqIgnoreAsciiCase (left right : String) : Bool :=
  left.toList.map Char.toLower = right.toList.map Char.toLower

def compareIdentity (left right : String) : IdentityMatch :=
  if left = right then .same
  else if eqIgnoreAsciiCase left right then .ambiguous
  else .different

/-- Both identifiers are the same, or surely different. -/
def refuseAmbiguous (mine theirs field : String) : Except ReassignmentInputError Unit :=
  Except.ensure (compareIdentity mine theirs ≠ .ambiguous) (.ambiguousIdentifier field mine theirs)

/-- A value that has to be surely different from another. -/
def requireDifferent (value other field : String) (same : ReassignmentInputError) :
    Except ReassignmentInputError Unit :=
  match compareIdentity value other with
  | .same => .error same
  | .ambiguous => .error (.ambiguousIdentifier field other value)
  | .different => .ok ()

/-- A value that has to be the same as another. -/
def requireSame (value other field : String) (different : ReassignmentInputError) :
    Except ReassignmentInputError Unit :=
  match compareIdentity value other with
  | .same => .ok ()
  | .ambiguous => .error (.ambiguousIdentifier field other value)
  | .different => .error different

end Identifiers

def checkPolicy (policy : ReassignmentPolicy) : Except ReassignmentInputError Unit := do
  Except.ensure (policy.brokerSilenceThresholdMs ≠ 0) .brokerSilenceThresholdIsZero
  Except.ensure (¬ (policy.privateTeamRequiredReports = 0 ∨ policy.publicPoolRequiredReports = 0))
    .requiredNeighborReportsIsZero
  Except.ensure (¬ policy.publicPoolRequiredReports ≤ policy.privateTeamRequiredReports)
    (.publicPoolQuorumNotHigher policy.publicPoolRequiredReports policy.privateTeamRequiredReports)

def unmetIf (fails : Prop) [Decidable fails] (condition : UnmetCondition) : List UnmetCondition :=
  if fails then [condition] else []

section Request

variable (request : ReassignmentRequest)

def checkIdentifiers : Except ReassignmentInputError Unit := do
  requireUlidIdentifier request.jobId "job_id"
  requireUlidIdentifier request.attemptId "attempt_id"
  requireCanonicalIdentifier request.strandedNodeId "stranded_node_id"
  requireCanonicalIdentifier request.strandedMemberId "stranded_member_id"
  requireCanonicalIdentifier request.receivingNodeId "receiving_node_id"
  requireCanonicalIdentifier request.receivingMemberId "receiving_member_id"
  requireDifferent request.receivingNodeId request.strandedNodeId "receiving_node_id"
    (.receivingNodeIsStrandedNode request.strandedNodeId)

/-- The range is for this attempt, above the number in use, and its history lies inside it. -/
def checkFenceRange : Except ReassignmentInputError Unit := do
  let range := request.reservedFenceRange
  requireUlidIdentifier range.issuedForJobId "issued_for_job_id"
  requireUlidIdentifier range.issuedForAttemptId "issued_for_attempt_id"
  refuseAmbiguous request.jobId range.issuedForJobId "issued_for_job_id"
  refuseAmbiguous request.attemptId range.issuedForAttemptId "issued_for_attempt_id"
  Except.ensure (range.issuedForJobId = request.jobId ∧ range.issuedForAttemptId = request.attemptId)
    (.fenceRangeIssuedForAnotherAttempt range.issuedForJobId range.issuedForAttemptId)
  Except.ensure (range.first ≤ range.last) (.reservedFenceRangeInverted range.first range.last)
  Except.ensure (request.originalFenceEpoch < range.last)
    (.reservedFenceRangeNotAboveOriginal range.last request.originalFenceEpoch)
  Except.ensure (range.issuance ≠ .unproven) .unprovenFenceRange
  match range.alreadyUsed.toList.find? fun used => used < range.first ∨ range.last < used with
  | some outside => .error (.alreadyUsedEpochOutsideRange outside range.first range.last)
  | none => .ok ()

def checkAuditRecord : Except ReassignmentInputError Unit :=
  match request.auditRecord with
  | .notRecorded => .ok ()
  | .committed recordId recordedJobId recordedAttemptId recordedFenceEpoch => do
      requireCanonicalIdentifier recordId "audit_record_id"
      requireUlidIdentifier recordedJobId "recorded_job_id"
      requireUlidIdentifier recordedAttemptId "recorded_attempt_id"
      refuseAmbiguous request.jobId recordedJobId "recorded_job_id"
      refuseAmbiguous request.attemptId recordedAttemptId "recorded_attempt_id"
      Except.ensure (recordedJobId = request.jobId ∧ recordedAttemptId = request.attemptId ∧
          recordedFenceEpoch = request.proposedFenceEpoch)
        (.auditRecordDoesNotMatchRequest recordId recordedJobId recordedAttemptId recordedFenceEpoch)

/-- The machines that were counted, and whom each report named as the owner of its machine. -/
structure ReportTally where
  distinctReporterNodes : Std.ExtTreeSet String compare
  nodeOwner : List (String × String)

/-- All of the report that does not hang on the other reports. -/
def checkReport (report : NeighborUnreachableReport) : Except ReassignmentInputError Unit := do
  requireCanonicalIdentifier report.reporterNodeId "reporter_node_id"
  requireCanonicalIdentifier report.reporterMemberId "reporter_member_id"
  requireCanonicalIdentifier report.unreachableNodeId "unreachable_node_id"
  Except.ensure (report.resolution ≠ .unresolved) (.unresolvedNeighborReport report.reporterMemberId)
  requireSame report.unreachableNodeId request.strandedNodeId "unreachable_node_id"
    (.reportTargetsAnotherNode report.reporterMemberId report.unreachableNodeId request.strandedNodeId)
  Except.ensure (report.observedAtUnixMs ≤ request.nowUnixMs)
    (.reportObservedInFuture report.reporterMemberId report.observedAtUnixMs request.nowUnixMs)
  requireDifferent report.reporterMemberId request.receivingMemberId
    "reporter_member_id/receiving_member_id" (.reportFromBeneficiary report.reporterMemberId)
  requireDifferent report.reporterMemberId request.strandedMemberId
    "reporter_member_id/stranded_member_id"
    (if request.strandedMemberId = request.receivingMemberId then
      .reportFromBeneficiary report.reporterMemberId
    else .reportFromStrandedMember report.reporterMemberId)
  requireDifferent report.reporterNodeId request.strandedNodeId "reporter_node_id/stranded_node_id"
    (.reportFromStrandedNode report.reporterNodeId)
  requireDifferent report.reporterNodeId request.receivingNodeId "reporter_node_id/receiving_node_id"
    (.reportFromReceivingNode report.reporterNodeId)

/-- None of the machines before this one differs from it in the case of letters alone. -/
def refuseAlike (reporterNodeId : String) (seen : List String) : Except ReassignmentInputError Unit :=
  match seen.find? fun previous => compareIdentity previous reporterNodeId = .ambiguous with
  | some previous => .error (.ambiguousIdentifier "reporter_node_id" previous reporterNodeId)
  | none => .ok ()

/-- Everyone who reported for this machine named the same owner. -/
def checkOwner (report : NeighborUnreachableReport) :
    List (String × String) → Except ReassignmentInputError Unit
  | [] => .ok ()
  | (node, member) :: rest =>
      if node ≠ report.reporterNodeId then checkOwner report rest
      else
        match compareIdentity member report.reporterMemberId with
        | .same => checkOwner report rest
        | .ambiguous =>
            .error (.ambiguousIdentifier "reporter_member_id" member report.reporterMemberId)
        | .different => .error (.conflictingReporterOwnership report.reporterNodeId member
            report.reporterMemberId)

def tallyReport (tally : ReportTally) (report : NeighborUnreachableReport) :
    Except ReassignmentInputError ReportTally := do
  checkReport request report
  refuseAlike report.reporterNodeId tally.distinctReporterNodes.toList
  checkOwner report tally.nodeOwner
  .ok { distinctReporterNodes := tally.distinctReporterNodes.insert report.reporterNodeId
        nodeOwner := tally.nodeOwner ++ [(report.reporterNodeId, report.reporterMemberId)] }

/-- The reports in sorted order, so that an error does not hang on how they came. -/
def tallyReports : Except ReassignmentInputError ReportTally :=
  (sorted request.neighborReports).foldlM (tallyReport request) ⟨∅, []⟩

def requiredReports (policy : ReassignmentPolicy) : ParticipationModel → UInt32
  | .privateTeam => policy.privateTeamRequiredReports
  | .publicPool => policy.publicPoolRequiredReports

/-- The greatest number that was seen: the original one, or one that was used since. -/
def highestSeen : UInt64 :=
  request.reservedFenceRange.alreadyUsed.toList.foldl max request.originalFenceEpoch

def unmetConditions (policy : ReassignmentPolicy) (distinctCount : Nat) : List UnmetCondition :=
  let range := request.reservedFenceRange
  let required := requiredReports policy request.model
  unmetIf (request.brokerSilentForMs ≤ policy.brokerSilenceThresholdMs)
      (.brokerSilenceTooShort request.brokerSilentForMs policy.brokerSilenceThresholdMs) ++
    unmetIf (request.nowUnixMs < request.originalLeaseExpiresAtUnixMs)
      (.originalLeaseStillValid request.originalLeaseExpiresAtUnixMs request.nowUnixMs) ++
    unmetIf (request.partitionPause = .notEnforcedYet) .partitionPauseNotEnforced ++
    unmetIf (distinctCount < required.toNat)
      (.notEnoughNeighborReports (saturatingU32 distinctCount) required) ++
    unmetIf (request.receivingConsent = .withheld) .receivingNodeDidNotConsent ++
    unmetIf (request.proposedFenceEpoch < range.first ∨ range.last < request.proposedFenceEpoch)
      (.fenceEpochOutsideReservedRange request.proposedFenceEpoch range.first range.last) ++
    unmetIf (request.proposedFenceEpoch ∈ range.alreadyUsed)
      (.fenceEpochAlreadyUsed request.proposedFenceEpoch) ++
    unmetIf (request.proposedFenceEpoch ≤ highestSeen request)
      (.fenceEpochNotAboveHighestSeen request.proposedFenceEpoch (highestSeen request)) ++
    unmetIf (request.auditRecord = .notRecorded) .auditRecordNotCommitted ++
    unmetIf (request.model.assumesMutualTrust = false ∧ policy.publicPoolEnabled = false)
      .publicPoolReassignmentDisabled

end Request

def evaluateReassignment (request : ReassignmentRequest) (policy : ReassignmentPolicy) :
    Except ReassignmentInputError ReassignmentDecision := do
  checkPolicy policy
  checkIdentifiers request
  checkFenceRange request
  checkAuditRecord request
  let tally ← tallyReports request
  match unmetConditions request policy tally.distinctReporterNodes.size with
  | [] => .ok (.allowed request.proposedFenceEpoch)
  | unmet => .ok (.refused (sortedDedup unmet))

end Gputeer.Scheduler
