import Gputeer.Coordinator.ReportRefinement
import Gputeer.Lib.Trace

/-! Runs of the control database: any calls of the stores, in any order, from the empty file. A call
that fails commits nothing. -/

namespace Gputeer.Coordinator

open Protocol ControlDb

inductive Operation where
  | submitAccepted (submission : AcceptedJobSubmission) (submittedAtUnixMs : UInt64)
  | submitVerifiedManifest (submission : AcceptedJobSubmission) (verified : Verified JobManifest)
      (submittedAtUnixMs : UInt64)
  | startPlanning (jobId : String) (atUnixMs : UInt64)
  | enqueue (jobId planId : String) (atUnixMs : UInt64)
  | planAndEnqueue (jobId planId : String) (atUnixMs : UInt64)
  | failQueued (jobId : String) (failure : QueueFailure) (atUnixMs : UInt64)
  | recordInventory (nodeId : String) (inventory : InventoryRow)
  | stageQueuedWithLease (request : StageQueuedRequest)
  | reserveAndStage (request : StageQueuedRequest) (expectedInventoryRevision : UInt64)
      (requireManifest : Bool)
  | recordGrantAccepted (attemptId : String) (nowUnixMs : UInt64) (jobMovesOnAck : Bool)
  | recordProcessStarted (leaseId : String) (nowUnixMs : UInt64)
  | getOrIssue (candidate : StoredLease) (nowUnixMs : UInt64)
  | renewExisting (leaseId : String) (newExpiresAtUnixMs newRenewAfterUnixMs : UInt64)
  | renewExistingWithinDuration (leaseId : String)
      (nowUnixMs newExpiresAtUnixMs newRenewAfterUnixMs : UInt64)
  | raiseReassignmentGrace (leaseId : String) (atLeastMs : UInt64)
  | markRevoked (leaseId : String) (revokedAtUnixMs : UInt64)
  | storeVerifiedTerminalReport (verified : Verified AttemptReport)
      (release : Option (ReleaseAuthorization × UInt64))
      (ownerPreempt : Option OwnerPreemptRequest)
  | releaseForVerifiedTerminalReport (verified : Verified AttemptReport)
      (authorization : ReleaseAuthorization) (releasedAtUnixMs : UInt64)
  | openReportStore
  | pauseForOwnerPreempt (jobId attemptId nodeId : String) (policy : FailoverPolicy)
      (nowUnixMs : UInt64)
  /-- One transaction of the failover loop, between which other calls may come. -/
  | failoverJob (policy : FailoverPolicy) (jobId : String) (nowUnixMs : UInt64)
  | failoverLostAttempts (policy : FailoverPolicy) (nowUnixMs : UInt64)
  | releaseLostNodeByOperator (nodeId operatorStatement : String) (nowUnixMs : UInt64)
  | markReservationExpired (nodeId : String) (expiredAtUnixMs : UInt64)

/-- The database after a call: what it committed, or nothing. -/
def commit {ε α : Type} (db : ControlDb) : Except ε (ControlDb × α) → ControlDb
  | .ok (next, _) => next
  | .error _ => db

def step (codec : Codec) (db : ControlDb) : Operation → ControlDb
  | .submitAccepted submission at_ => commit db (submitAccepted db submission at_)
  | .submitVerifiedManifest submission verified at_ =>
      commit db (submitVerifiedManifest codec db submission verified at_)
  | .startPlanning jobId at_ => commit db (startPlanning db jobId at_)
  | .enqueue jobId planId at_ => commit db (enqueue db jobId planId at_)
  | .planAndEnqueue jobId planId at_ => commit db (planAndEnqueue db jobId planId at_)
  | .failQueued jobId failure at_ => commit db (failQueued db jobId failure at_)
  | .recordInventory nodeId inventory =>
      { db with agentInventory := db.agentInventory.insert nodeId inventory }
  | .stageQueuedWithLease request => commit db (stageQueuedWithLease db request)
  | .reserveAndStage request revision requireManifest =>
      commit db (reserveAndStage db request revision requireManifest)
  | .recordGrantAccepted attemptId now jobMovesOnAck =>
      commit db (recordGrantAccepted db attemptId now jobMovesOnAck)
  | .recordProcessStarted leaseId now => commit db (recordProcessStarted db leaseId now)
  | .getOrIssue candidate now => commit db (getOrIssue db candidate now)
  | .renewExisting leaseId expires renewAfter =>
      commit db (renewExisting db leaseId expires renewAfter)
  | .renewExistingWithinDuration leaseId now expires renewAfter =>
      commit db (renewExistingWithinDuration db leaseId now expires renewAfter)
  | .raiseReassignmentGrace leaseId atLeast =>
      commit db (raiseReassignmentGrace db leaseId atLeast)
  | .markRevoked leaseId revokedAt => commit db (markRevoked db leaseId revokedAt)
  | .storeVerifiedTerminalReport verified release ownerPreempt =>
      commit db (storeVerifiedTerminalReport codec db verified release ownerPreempt)
  | .releaseForVerifiedTerminalReport verified authorization releasedAt =>
      commit db (releaseForVerifiedTerminalReport codec db verified authorization releasedAt)
  | .openReportStore => ((openReportStore codec db).toOption).getD db
  | .pauseForOwnerPreempt jobId attemptId nodeId policy now =>
      commit db (pauseForOwnerPreempt codec db jobId attemptId nodeId policy now)
  | .failoverJob policy jobId now => commit db (failoverJob codec db policy jobId now)
  | .failoverLostAttempts policy now => (failoverLostAttempts codec db policy now).1
  | .releaseLostNodeByOperator nodeId statement now =>
      commit db (releaseLostNodeByOperator db nodeId statement now)
  | .markReservationExpired nodeId expiredAt => markReservationExpired db nodeId expiredAt

/-- The database after a whole run. -/
def run (codec : Codec) (operations : List Operation) : ControlDb :=
  Trace.run (step codec) ControlDb.empty operations

/-- The attempts whose reservation a call may delete: the one the report is about, or the one the
operator is told about in the answer. -/
def Operation.frees (db : ControlDb) : Operation → Set String
  | .storeVerifiedTerminalReport verified _ _ => {verified.inner.attemptId}
  | .releaseForVerifiedTerminalReport verified _ _ => {verified.inner.attemptId}
  | .releaseLostNodeByOperator nodeId statement now =>
      {id | ∃ next release, Coordinator.releaseLostNodeByOperator db nodeId statement now =
        .ok (next, release) ∧ release.attemptId = id}
  | _ => ∅

/-- The expiry a call may give to a lease that is there. -/
def Operation.renews : Operation → Set (String × UInt64)
  | .renewExisting leaseId expires _ => {(leaseId, expires)}
  | .renewExistingWithinDuration leaseId _ expires _ => {(leaseId, expires)}
  | _ => ∅

/-- The report a call stores. -/
def Operation.reports (codec : Codec) : Operation → Set (String × List UInt8)
  | .storeVerifiedTerminalReport verified _ _ =>
      {(verified.inner.attemptId, codec.encodeAttemptReport verified.inner)}
  | _ => ∅

/-- The call moves the job when the grant is accepted, as it is done outside the pool. -/
def Operation.acks : Operation → Prop
  | .recordGrantAccepted _ _ jobMovesOnAck => jobMovesOnAck = true
  | _ => False

/-- The job is there and paused. -/
def ControlDb.Paused (db : ControlDb) (jobId : String) : Prop :=
  ∃ job, fetchJob db jobId = .ok (some job) ∧ job.state = .paused

/-- The attempt that a call stages for a paused job. -/
def Operation.resumes (db : ControlDb) : Operation → Set String
  | .stageQueuedWithLease request =>
      {id | id = request.attemptId ∧ db.Paused request.jobId ∧
        ∃ next result, Coordinator.stageQueuedWithLease db request = .ok (next, result) ∧
          result.created = true}
  | .reserveAndStage request revision requireManifest =>
      {id | id = request.attemptId ∧ db.Paused request.jobId ∧
        ∃ next result, Coordinator.reserveAndStage db request revision requireManifest =
          .ok (next, result) ∧ result.stage.created = true}
  | _ => ∅

def Operation.backfills : Operation → Prop
  | .openReportStore => True
  | _ => False

/-- The call issues a lease of the caller's making. -/
def Operation.issues : Operation → Prop
  | .getOrIssue _ _ => True
  | _ => False

def Operation.allowance (codec : Codec) (db : ControlDb) (operation : Operation) : Allowance where
  frees := operation.frees db
  renews := operation.renews
  reports := operation.reports codec
  acks := operation.acks
  resumes := operation.resumes db
  backfills := operation.backfills
  issues := operation.issues

variable {codec : Codec} {db : ControlDb}

theorem ControlDb.Intact.commit {ε α : Type} {allowed : Allowance} (intact : db.Intact)
    {result : Except ε (ControlDb × α)}
    (refines : ∀ (next : ControlDb) (answer : α), result = .ok (next, answer) →
      Refines allowed db next) : Refines allowed db (Coordinator.commit db result) := by
  cases result with
  | error fault => exact intact.refl
  | ok answer => exact refines answer.1 answer.2 rfl

theorem ControlDb.Readable.paused_iff (readable : db.Readable) {jobId : String} {job : StoredJob}
    (found : db.ledger.job jobId = some job) : db.Paused jobId ↔ job.state = .paused := by
  simp [ControlDb.Paused, readable.fetchJob_eq, found]

theorem openReportStore_refines {allowed : Allowance} (intact : db.Intact)
    (backfills : allowed.backfills) :
    Refines allowed db ((openReportStore codec db).toOption.getD db) := by
  cases opened : openReportStore codec db with
  | error fault => exact intact.refl
  | ok next => exact backfillTerminalStates_refines _ intact backfills opened

/-- Every call refines the ledger. -/
theorem step_refines (codec : Codec) (intact : db.Intact) (operation : Operation) :
    Refines (operation.allowance codec db) db (step codec db operation) := by
  cases operation with
  | submitAccepted submission at_ => exact intact.commit fun _ _ => submitAccepted_refines intact
  | submitVerifiedManifest submission verified at_ =>
      exact intact.commit fun _ _ => submitVerifiedManifest_refines intact
  | startPlanning jobId at_ => exact intact.commit fun _ _ => startPlanning_refines intact
  | enqueue jobId planId at_ => exact intact.commit fun _ _ => enqueue_refines intact
  | planAndEnqueue jobId planId at_ =>
      exact intact.commit fun _ _ => planAndEnqueue_refines intact
  | failQueued jobId failure at_ => exact intact.commit fun _ _ => failQueued_refines intact
  | recordInventory nodeId inventory => exact intact.unseen rfl rfl
  | stageQueuedWithLease request =>
      refine intact.commit fun next result done => ?_
      refine stageQueuedWithLease_refines intact (fun created job found => ?_) done
      rw [← intact.readable.paused_iff found]
      exact ⟨fun paused => ⟨rfl, paused, next, result, done, created⟩, fun resumed => resumed.2.1⟩
  | reserveAndStage request revision requireManifest =>
      refine intact.commit fun next result done => ?_
      refine reserveAndStage_refines intact (fun created job found => ?_) done
      rw [← intact.readable.paused_iff found]
      exact ⟨fun paused => ⟨rfl, paused, next, result, done, created⟩, fun resumed => resumed.2.1⟩
  | recordGrantAccepted attemptId now jobMovesOnAck =>
      exact intact.commit fun _ _ => recordGrantAccepted_refines intact (fun moves => moves)
  | recordProcessStarted leaseId now =>
      exact intact.commit fun _ _ => recordProcessStarted_refines intact
  | getOrIssue candidate now => exact intact.commit fun _ _ => getOrIssue_refines intact trivial
  | renewExisting leaseId expires renewAfter =>
      exact intact.commit fun _ _ => renewExisting_refines intact (Set.mem_singleton _)
  | renewExistingWithinDuration leaseId now expires renewAfter =>
      exact intact.commit fun _ _ =>
        renewExistingWithinDuration_refines intact (Set.mem_singleton _)
  | raiseReassignmentGrace leaseId atLeast =>
      exact intact.commit fun _ _ => raiseReassignmentGrace_refines intact
  | markRevoked leaseId revokedAt => exact intact.commit fun _ _ => markRevoked_refines intact
  | storeVerifiedTerminalReport verified release ownerPreempt =>
      exact intact.commit fun _ _ =>
        storeVerifiedTerminalReport_refines intact (Set.mem_singleton _) (Set.mem_singleton _)
  | releaseForVerifiedTerminalReport verified authorization releasedAt =>
      exact intact.commit fun _ _ => releaseWithinTransaction_refines intact (Set.mem_singleton _)
  | openReportStore => exact openReportStore_refines intact trivial
  | pauseForOwnerPreempt jobId attemptId nodeId policy now =>
      exact intact.commit fun _ _ => pauseForOwnerPreemptWithin_refines intact
  | failoverJob policy jobId now => exact intact.commit fun _ _ => failoverJob_refines intact
  | failoverLostAttempts policy now => exact failoverLostAttempts_refines intact
  | releaseLostNodeByOperator nodeId statement now =>
      exact intact.commit fun next release done =>
        releaseLostNodeByOperator_refines intact ⟨next, release, done, rfl⟩ done
  | markReservationExpired nodeId expiredAt =>
      exact markReservationExpired_refines intact nodeId expiredAt

theorem run_intact (codec : Codec) (operations : List Operation) :
    (run codec operations).Intact :=
  Trace.invariant ControlDb.Intact ControlDb.empty_intact
    (fun _ operation intact => intact.after (step_refines codec intact operation)) operations

/-- What a call leaves and every commit keeps is there at the end of the run. -/
theorem run_kept {operations before : List Operation} {operation : Operation}
    (Kept : ControlDb → Prop) (took : Trace.Took operations before operation)
    (starts : Kept (step codec (run codec before) operation))
    (kept : ∀ {earlier : List Operation} {allowed : Allowance} {next : ControlDb},
      (run codec earlier).Intact → Refines allowed (run codec earlier) next →
      Kept (run codec earlier) → Kept next) : Kept (run codec operations) :=
  Trace.kept_since Kept took starts (fun _ later holds =>
    kept (run_intact codec _) (step_refines codec (run_intact codec _) later) holds)

end Gputeer.Coordinator
