import Gputeer.Coordinator.LateReports

/-! How long a job waits in the queue. The store keeps the time at which a job was first queued, and nothing but
the moves into the queue from planning writes it. -/

namespace Gputeer.Coordinator

open Protocol ControlDb

variable {codec : Codec} {db next last : ControlDb} {nowUnixMs : UInt64}

namespace ControlDb

/-- When a job was first queued. -/
def queuedAt (db : ControlDb) (jobId : String) : Option UInt64 :=
  (db.ledger.job jobId).bind (·.queuedAtUnixMs)

/-- No job is queued for the first time. -/
def KeepsQueueTimes (db next : ControlDb) : Prop := ∀ jobId, next.queuedAt jobId = db.queuedAt jobId

namespace KeepsQueueTimes

theorem refl (db : ControlDb) : db.KeepsQueueTimes db := fun _ => rfl

theorem trans (first : db.KeepsQueueTimes next) (second : next.KeepsQueueTimes last) :
    db.KeepsQueueTimes last :=
  fun jobId => (second jobId).trans (first jobId)

theorem of_jobs (same : next.jobs = db.jobs) : db.KeepsQueueTimes next := by
  intro jobId
  simp [queuedAt, ledger, same]

end KeepsQueueTimes

theorem Intact.edge_keeps (intact : db.Intact) {move : JobMove} {old new : StoredJob}
    (found : db.ledger.job old.jobId = some old) (edge : JobEdge move old new) (queue : move ≠ .queued)
    (written : updateJob db new = .ok next) : db.KeepsQueueTimes next := by
  obtain rfl := intact.readable.updateJob_eq_ok found edge written
  intro jobId
  rw [queuedAt, withJob_ledger (edge.wellShaped (intact.sound.job found).2.2), Ledger.setJob_job]
  split
  · next same =>
    rw [same, Option.bind_some, edge.queuedAt_eq queue, edge.jobId_eq, queuedAt, found]
    rfl
  · rfl

end ControlDb

section Moves

theorem insertJob_queueTimes (intact : db.Intact) {submission : AcceptedJobSubmission} {atUnixMs : UInt64} {done : Unit}
    (new : ensureNewJob db submission.jobId = .ok done)
    (jobs : next.jobs = (insertJob db (submission.toJob atUnixMs)).jobs) : db.KeepsQueueTimes next := by
  have fresh := intact.ensureNewJob new
  have inserted : db.KeepsQueueTimes (insertJob db (submission.toJob atUnixMs)) := by
    intro jobId
    rw [insertJob_toJob, queuedAt, withJob_ledger (submission.toJob_wellShaped atUnixMs), Ledger.setJob_job]
    split
    · next same =>
      rw [queuedAt, same, show (submission.toJob atUnixMs).jobId = submission.jobId from rfl, fresh]
      rfl
    · rfl
  exact inserted.trans (.of_jobs jobs)

theorem submitAccepted_queueTimes (intact : db.Intact) {submission : AcceptedJobSubmission} {atUnixMs : UInt64}
    {result : SubmitResult} (done : submitAccepted db submission atUnixMs = .ok (next, result)) :
    db.KeepsQueueTimes next := by
  simp only [submitAccepted, Except.bind_eq_ok] at done
  obtain ⟨_, valid, done⟩ := done
  cases bound : db.jobSubmissions[submission.idempotencyKey.toList]? with
  | some storedJobId =>
      simp only [bound, Except.bind_eq_ok, Except.ok.injEq, Prod.mk.injEq] at done
      obtain ⟨_, _, rfl, _⟩ := done
      exact .refl _
  | none =>
      simp only [bound, Except.bind_eq_ok, Except.ok.injEq, Prod.mk.injEq] at done
      obtain ⟨_, new, rfl, _⟩ := done
      exact insertJob_queueTimes intact new rfl

theorem submitVerifiedManifest_queueTimes (intact : db.Intact) {submission : AcceptedJobSubmission}
    {verified : Verified JobManifest} {atUnixMs : UInt64} {result : ManifestBoundSubmitResult}
    (done : submitVerifiedManifest codec db submission verified atUnixMs = .ok (next, result)) :
    db.KeepsQueueTimes next := by
  simp only [submitVerifiedManifest, Except.bind_eq_ok] at done
  obtain ⟨_, valid, _, _, _, _, done⟩ := done
  cases bound : db.jobSubmissions[submission.idempotencyKey.toList]? with
  | some storedJobId =>
      simp only [bound, Except.bind_eq_ok, Except.ok.injEq, Prod.mk.injEq] at done
      obtain ⟨_, _, _, _, _, _, rfl, _⟩ := done
      exact .refl _
  | none =>
      simp only [bound, Except.bind_eq_ok, Except.ok.injEq, Prod.mk.injEq] at done
      obtain ⟨_, new, rfl, _⟩ := done
      exact insertJob_queueTimes intact new rfl

theorem startPlanning_queueTimes (intact : db.Intact) {jobId : String} {atUnixMs : UInt64} {job : StoredJob}
    (done : startPlanning db jobId atUnixMs = .ok (next, job)) : db.KeepsQueueTimes next := by
  obtain ⟨old, found, applied⟩ := intact.transition_eq_ok done
  split at applied
  · exact (Prod.mk.inj (Except.ok.inj applied)).1 ▸ .refl _
  · split at applied
    · cases applied
    · next before =>
      simp only [Except.bind_eq_ok, commitJob_eq_ok] at applied
      obtain ⟨planned, plans, writes, _⟩ := applied
      exact intact.edge_keeps found (planJob_edge (not_not.mp before) plans) (by simp) writes

theorem failQueued_queueTimes (intact : db.Intact) {jobId : String} {failure : QueueFailure} {atUnixMs : UInt64}
    {job : StoredJob} (done : failQueued db jobId failure atUnixMs = .ok (next, job)) :
    db.KeepsQueueTimes next := by
  simp only [failQueued, Except.bind_eq_ok, Except.ensure_eq_ok] at done
  obtain ⟨_, explained, done⟩ := done
  obtain ⟨old, found, applied⟩ := intact.transition_eq_ok done
  split at applied
  · exact (Prod.mk.inj (Except.ok.inj applied)).1 ▸ .refl _
  · split at applied
    · cases applied
    · next before =>
      simp only [Except.bind_eq_ok, countUp_eq_ok, commitJob_eq_ok] at applied
      obtain ⟨_, _, _, _, _, _, revision, counted, writes, _⟩ := applied
      exact intact.edge_keeps found (JobEdge.queueFailed (not_not.mp before) explained counted) (by simp) writes

theorem StagesNew.keeps_times (intact : db.Intact) {request : StageQueuedRequest} {requestPayload : List UInt8}
    {epoch : UInt64} {move : JobMove} {old new : StoredJob}
    (stages : StagesNew db next request requestPayload epoch move old new) : db.KeepsQueueTimes next := by
  have queue : move ≠ .queued := by
    rintro rfl
    rcases stages.starts with never | never <;> cases never
  have row := (intact.readable.of_job stages.found).2
  rw [← stages.edge.jobId_eq] at row
  have written : updateJob db new = .ok (db.withJob new) := by
    simp only [updateJob, row, stages.edge.written_ofStored, withJob]
  exact (intact.edge_keeps stages.found stages.edge queue written).trans (.of_jobs stages.jobs)

theorem stageQueuedWithLease_queueTimes (intact : db.Intact) {request : StageQueuedRequest}
    {result : StageQueuedResult} (done : stageQueuedWithLease db request = .ok (next, result)) :
    db.KeepsQueueTimes next := by
  rcases stageQueuedWithLease_eq_ok intact.readable done with ⟨rfl, _⟩ | ⟨_, _, _, _, _, stages, _⟩
  · exact .refl _
  · exact stages.keeps_times intact

theorem reserveAndStage_queueTimes (intact : db.Intact) {request : StageQueuedRequest} {revision : UInt64}
    {requireManifest : Bool} {result : ReservedStageResult}
    (done : reserveAndStage db request revision requireManifest = .ok (next, result)) :
    db.KeepsQueueTimes next := by
  rcases (reserveAndStage_eq_ok intact.readable done).2 with ⟨rfl, _⟩ | ⟨_, _, _, _, _, ⟨_, stages, _⟩, _⟩
  · exact .refl _
  · exact (stages.keeps_times intact).trans (.of_jobs rfl)

theorem recordStagingComplete_queueTimes (intact : db.Intact) {jobId attemptId : String} {recorded : Bool}
    (done : recordStagingComplete db jobId attemptId nowUnixMs = .ok (next, recorded)) :
    db.KeepsQueueTimes next := by
  simp only [recordStagingComplete, Except.bind_eq_ok] at done
  obtain ⟨current, found, done⟩ := done
  cases current with
  | none => exact (Prod.mk.inj (Except.ok.inj done)).1 ▸ .refl _
  | some job =>
      obtain ⟨there, runs, _⟩ := intact.fetchCurrentJob_eq_ok found
      dsimp only at done
      split at done
      · exact (Prod.mk.inj (Except.ok.inj done)).1 ▸ .refl _
      · next unstarted =>
        simp only [Except.bind_eq_ok, Except.mapError_eq_ok, jobTransition_eq_ok, countUp_eq_ok,
          Except.ok.injEq, Prod.mk.injEq] at done
        obtain ⟨_, _, state, ⟨rfl, _⟩, revision, counted, written, writes, rfl, _⟩ := done
        exact intact.edge_keeps there
          (@JobEdge.started job nowUnixMs revision (runs.resolve_right unstarted) counted) (by simp) writes

theorem transitionAttemptStateAlong_jobs {attemptId : String} {source : AttemptState} {path : List AttemptState}
    (done : transitionAttemptStateAlong db attemptId source path = .ok next) : next.jobs = db.jobs := by
  unfold transitionAttemptStateAlong at done
  obtain ⟨target, _, done⟩ := Except.bind_eq_ok.mp done
  split at done
  · split at done
    · exact (Except.ok.inj done) ▸ rfl
    · cases done
  · cases done

theorem recordGrantAccepted_queueTimes (intact : db.Intact) {attemptId : String} {jobMovesOnAck : Bool}
    {answer : GrantAcceptedRecord}
    (done : recordGrantAccepted db attemptId nowUnixMs jobMovesOnAck = .ok (next, answer)) :
    db.KeepsQueueTimes next := by
  simp only [recordGrantAccepted, Except.bind_eq_ok, Except.ofOption_eq_ok] at done
  obtain ⟨_, _, attempt, rfl, done⟩ := done
  split at done
  · simp only [Except.bind_eq_ok, Except.ok.injEq, Prod.mk.injEq] at done
    obtain ⟨_, _, rfl, _⟩ := done
    exact .refl _
  · split at done
    · split at done
      · exact (Prod.mk.inj (Except.ok.inj done)).1 ▸ .refl _
      · cases done
    · exact (Prod.mk.inj (Except.ok.inj done)).1 ▸ .refl _
    · next moved acknowledged =>
      simp only [Except.bind_eq_ok, Except.ok.injEq, Prod.mk.injEq] at done
      obtain ⟨accepted, accepts, rfl, _⟩ := done
      unfold acknowledge at acknowledged
      split at acknowledged
      · have first : Refines ⟨∅, ∅, ∅, True, ∅, False, False⟩ db moved :=
          recordStagingComplete_refines intact (fun _ _ => Or.inr trivial) acknowledged
        exact (recordStagingComplete_queueTimes intact acknowledged).trans
          (.of_jobs (transitionAttemptStateAlong_jobs accepts))
      · simp only [Except.bind_eq_ok, Except.ok.injEq, Prod.mk.injEq] at acknowledged
        obtain ⟨_, _, rfl, _⟩ := acknowledged
        exact .of_jobs (transitionAttemptStateAlong_jobs accepts)

theorem startJob_queueTimes (intact : db.Intact) {attempt : StoredAttempt} {moved : Bool}
    (done : startJob db attempt nowUnixMs = .ok (next, moved)) : db.KeepsQueueTimes next := by
  unfold startJob at done
  split at done
  · split at done
    · next result completed =>
      obtain rfl := Except.ok.inj done
      exact recordStagingComplete_queueTimes intact completed
    · split at done
      · exact (Prod.mk.inj (Except.ok.inj done)).1 ▸ .refl _
      · cases done
  · exact (Prod.mk.inj (Except.ok.inj done)).1 ▸ .refl _

theorem recordProcessStarted_queueTimes (intact : db.Intact) {leaseId : String} {recorded : ProcessStartedRecord}
    (done : recordProcessStarted db leaseId nowUnixMs = .ok (next, recorded)) : db.KeepsQueueTimes next := by
  unfold recordProcessStarted at done
  split at done
  · exact (Prod.mk.inj (Except.ok.inj done)).1 ▸ .refl _
  · simp only [Except.bind_eq_ok, Except.ofOption_eq_ok] at done
    obtain ⟨_, read, attempt, rfl, done⟩ := done
    split at done
    · simp only [Except.bind_eq_ok, Except.ok.injEq, Prod.mk.injEq] at done
      obtain ⟨moved, moves, ⟨started, _⟩, starts, rfl, _⟩ := done
      have first : Refines ⟨∅, ∅, ∅, False, ∅, False, False⟩ db moved :=
        intact.progressed (Or.inr ⟨rfl, rfl⟩) moves
      exact (KeepsQueueTimes.of_jobs (transitionAttemptStateAlong_jobs moves)).trans
        (startJob_queueTimes (intact.after first) starts)
    · simp only [Except.bind_eq_ok, Except.ok.injEq, Prod.mk.injEq] at done
      obtain ⟨⟨started, _⟩, starts, rfl, _⟩ := done
      exact startJob_queueTimes intact starts

end Moves

section Ends

theorem followAttemptTerminal_queueTimes (intact : db.Intact) {jobId attemptId : String} {final : AttemptState}
    {attemptRan : Bool} {finishedAtUnixMs : UInt64} {moved : Option StoredJob}
    (ended : AttemptState.ended final = true)
    (done : followAttemptTerminal db jobId attemptId final attemptRan finishedAtUnixMs = .ok (next, moved)) :
    db.KeepsQueueTimes next := by
  rcases intact.followAttemptTerminal_eq_ok ended done with ⟨_, rfl⟩ | ⟨job, new, current, edge, _, writes⟩
  · exact .refl _
  · exact intact.edge_keeps (intact.fetchCurrentJob_eq_ok current).1 edge (by simp) writes

theorem endRun_queueTimes (intact : db.Intact) {report : AttemptReport} {attempt : StoredAttempt}
    (present : db.ledger.attempt report.attemptId = some attempt)
    (done : endRun db report attempt = .ok next) : db.KeepsQueueTimes next := by
  rcases endRun_eq_ok intact present done with ⟨_, rfl⟩ | ⟨target, _, past, source, between, follows⟩
  · exact .refl _
  · have ends : db.KeepsQueueTimes (db.withAttempt { attempt with state := target }) := .of_jobs rfl
    exact ends.trans (followAttemptTerminal_queueTimes between past follows)

theorem pauseForOwnerPreemptWithin_queueTimes (intact : db.Intact) {jobId attemptId nodeId : String}
    {policy : FailoverPolicy} {line : Option String}
    (done : pauseForOwnerPreemptWithin codec db jobId attemptId nodeId policy nowUnixMs = .ok (next, line)) :
    db.KeepsQueueTimes next := by
  simp only [pauseForOwnerPreemptWithin, intact.readable.fetchJob_eq, Except.bind_eq_ok,
    Except.mapError_eq_ok, Except.ok.injEq] at done
  obtain ⟨_, rfl, done⟩ := done
  cases found : db.ledger.job jobId with
  | none =>
      simp only [found, Except.ok.injEq, Prod.mk.injEq] at done
      exact done.1 ▸ .refl _
  | some job =>
      obtain ⟨rfl, filledId, _⟩ := intact.sound.job found
      simp only [found] at done
      split at done
      · exact (Prod.mk.inj (Except.ok.inj done)).1 ▸ .refl _
      · next running =>
        split at done
        · exact (Prod.mk.inj (Except.ok.inj done)).1 ▸ .refl _
        · simp only [Except.bind_eq_ok, Except.ok.injEq, Prod.mk.injEq, preempt, revokeWithin,
            Except.mapError_eq_ok, Except.ofOption_eq_ok] at done
          obtain ⟨resume, resumes, preempted, ⟨⟨paused, updated⟩, pauses, _, _, _, _,
            revoked, ⟨_, _, rfl⟩, rfl⟩, rfl, _⟩ := done
          have filled := findResumePoint_body (Text.ne_empty_of_not_isBlank filledId) resumes
          obtain ⟨edge, writes⟩ := pauseJobForOwnerPreempt_edge (not_not.mp running) filled pauses
          exact (intact.edge_keeps found edge (by simp) writes).trans (.of_jobs rfl)

theorem afterReport_queueTimes (intact : db.Intact) {verified : Verified AttemptReport}
    {release : Option (ReleaseAuthorization × UInt64)} {ownerPreempt : Option OwnerPreemptRequest}
    {notes : List String} (done : afterReport codec db verified release ownerPreempt = .ok (next, notes)) :
    db.KeepsQueueTimes next := by
  simp only [afterReport, Except.bind_eq_ok, Except.ok.injEq, Prod.mk.injEq] at done
  obtain ⟨⟨released, _⟩, releases, ⟨paused, _⟩, pauses, rfl, _⟩ := done
  have first : db.KeepsQueueTimes released ∧ released.Intact := by
    unfold releaseAfterReport at releases
    split at releases
    · obtain rfl := (Prod.mk.inj (Except.ok.inj releases)).1
      exact ⟨.refl _, intact⟩
    · simp only [Except.bind_eq_ok, Except.mapError_eq_ok, Except.ok.injEq, Prod.mk.injEq] at releases
      obtain ⟨⟨freedDb, _⟩, frees, rfl, _⟩ := releases
      have refines : Refines ⟨Set.univ, ∅, ∅, False, ∅, False, False⟩ db freedDb :=
        releaseWithinTransaction_refines intact (Set.mem_univ _) frees
      exact ⟨.of_jobs (releaseWithinTransaction_touchesOnly frees).jobs, intact.after refines⟩
  unfold preemptAfterReport at pauses
  split at pauses
  · exact (Prod.mk.inj (Except.ok.inj pauses)).1 ▸ first.1
  · split at pauses
    · simp only [Except.bind_eq_ok, Except.mapError_eq_ok, Except.ok.injEq, Prod.mk.injEq] at pauses
      obtain ⟨⟨preempted, _⟩, preempts, rfl, _⟩ := pauses
      exact first.1.trans (pauseForOwnerPreemptWithin_queueTimes first.2 preempts)
    · exact (Prod.mk.inj (Except.ok.inj pauses)).1 ▸ first.1

theorem storeVerifiedTerminalReport_queueTimes (intact : db.Intact) {verified : Verified AttemptReport}
    {release : Option (ReleaseAuthorization × UInt64)} {ownerPreempt : Option OwnerPreemptRequest}
    {result : StoreAttemptReportResult}
    (done : storeVerifiedTerminalReport codec db verified release ownerPreempt = .ok (next, result)) :
    db.KeepsQueueTimes next := by
  rcases storeVerifiedTerminalReport_eq_ok done with ⟨_, follows⟩ | ⟨ended, _, _, ends, follows⟩
  · exact afterReport_queueTimes intact follows
  · have stores : Refines ⟨∅, ∅, Set.univ, False, ∅, False, False⟩ db ended :=
      storeNewReport_refines intact (Set.mem_univ _) ends
    refine KeepsQueueTimes.trans ?_ (afterReport_queueTimes (intact.after stores) follows)
    simp only [storeNewReport, bindAttempt, Except.bind_eq_ok, Except.mapError_eq_ok,
      Except.ofOption_eq_ok, Except.ok.injEq, Prod.mk.injEq] at ends
    obtain ⟨_, read, attempt, rfl, _, _, boundVia, _, ended, ends, rfl, _⟩ := ends
    have inserted : Refines ⟨∅, ∅, Set.univ, False, ∅, False, False⟩ db
        (insertReport codec db verified.inner verified.signerId boundVia) :=
      insertReport_refines intact verified.inner verified.signerId boundVia (Set.mem_univ _)
    have same : db.KeepsQueueTimes
        (insertReport codec db verified.inner verified.signerId boundVia) := .of_jobs rfl
    exact same.trans (endRun_queueTimes (intact.after inserted) (fetchAttempt_eq_ok read) ends)

theorem backfillTerminalStates_jobs (rows : List ReportRow)
    (done : backfillTerminalStates codec db rows = .ok next) : next.jobs = db.jobs := by
  induction rows generalizing db with
  | nil => exact Except.ok.inj done ▸ rfl
  | cons row rest ih =>
      unfold backfillTerminalStates at done
      dsimp only at done
      split at done
      · exact ih done
      · obtain ⟨moved, moves, done⟩ := Except.bind_eq_ok.mp done
        exact (ih done).trans (transitionAttemptStateAlong_jobs moves)

theorem takeOver_queueTimes (intact : db.Intact) {policy : FailoverPolicy} {job : StoredJob} {attempt : StoredAttempt}
    {outcome : FailoverOutcome} (found : db.ledger.job job.jobId = some job)
    (done : takeOver codec db policy job attempt nowUnixMs = .ok (next, outcome)) : db.KeepsQueueTimes next := by
  have named := Text.ne_empty_of_not_isBlank (intact.sound.job found).2.1
  simp only [takeOver, revokeWithin, Except.bind_eq_ok, Except.mapError_eq_ok, Except.ofOption_eq_ok,
    Except.ok.injEq, Prod.mk.injEq] at done
  obtain ⟨resume, resumes, ⟨moved, updated⟩, requeues, _, ⟨lease, read, rfl⟩, rfl, _⟩ := done
  have filled : resume.map (·.body) ≠ some [] := by
    unfold lostResumePoint at resumes
    split at resumes
    · exact findResumePoint_body named resumes
    · obtain rfl := Except.ok.inj resumes
      simp
  obtain ⟨move, edge, handsBack, writes⟩ := requeueAfterNodeLost_edge filled requeues
  have queue : move ≠ .queued := by
    rintro rfl
    cases handsBack
  refine (intact.edge_keeps found edge queue writes).trans (.of_jobs ?_)
  split <;> rfl

theorem failoverJob_queueTimes (intact : db.Intact) {policy : FailoverPolicy} {jobId : String}
    {outcome : Option FailoverOutcome}
    (done : failoverJob codec db policy jobId nowUnixMs = .ok (next, outcome)) : db.KeepsQueueTimes next := by
  simp only [failoverJob, intact.readable.fetchJob_eq, Except.bind_eq_ok, Except.mapError_eq_ok,
    Except.ok.injEq] at done
  obtain ⟨_, rfl, done⟩ := done
  cases found : db.ledger.job jobId with
  | none =>
      simp only [found, Except.ok.injEq, Prod.mk.injEq] at done
      exact done.1 ▸ .refl _
  | some job =>
      obtain rfl := (intact.sound.job found).1
      simp only [found] at done
      split at done
      · exact (Prod.mk.inj (Except.ok.inj done)).1 ▸ .refl _
      · split at done
        · exact (Prod.mk.inj (Except.ok.inj done)).1 ▸ .refl _
        · simp only [Except.bind_eq_ok, Except.mapError_eq_ok, Except.ofOption_eq_ok] at done
          obtain ⟨_, _, attempt, _, lost, _, done⟩ := done
          cases lost with
          | none => exact (Prod.mk.inj (Except.ok.inj done)).1 ▸ .refl _
          | some lease =>
              simp only [Except.bind_eq_ok, Except.ok.injEq, Prod.mk.injEq] at done
              obtain ⟨⟨moved, _⟩, takes, rfl, _⟩ := done
              exact takeOver_queueTimes intact found takes

theorem failoverEach_queueTimes {policy : FailoverPolicy} (listed : List StoredJob) (intact : db.Intact) :
    db.KeepsQueueTimes (failoverEach codec policy nowUnixMs db listed).1 := by
  induction listed generalizing db with
  | nil => exact .refl _
  | cons job rest ih =>
      unfold failoverEach
      split
      · exact .refl _
      · next moved outcome done =>
        have first : Refines ⟨∅, ∅, ∅, False, ∅, False, False⟩ db moved := failoverJob_refines intact done
        exact (failoverJob_queueTimes intact done).trans (ih (intact.after first))

theorem failoverLostAttempts_queueTimes (intact : db.Intact) {policy : FailoverPolicy} :
    db.KeepsQueueTimes (failoverLostAttempts codec db policy nowUnixMs).1 := by
  unfold failoverLostAttempts
  split
  · exact .refl _
  · exact failoverEach_queueTimes _ intact

end Ends

section Calls

theorem getOrIssue_jobs {candidate issued : StoredLease}
    (done : getOrIssue db candidate nowUnixMs = .ok (next, issued)) : next.jobs = db.jobs := by
  unfold getOrIssue at done
  split at done
  · simp only [Except.bind_eq_ok, Except.ok.injEq, Prod.mk.injEq] at done
    obtain ⟨_, _, _, _, _, _, rfl, _⟩ := done
    rfl
  · exact (Prod.mk.inj (Except.ok.inj done)).1 ▸ rfl

theorem renewExisting_jobs {leaseId : String} {expires renewAfter : UInt64} {renewed : StoredLease}
    (done : renewExisting db leaseId expires renewAfter = .ok (next, renewed)) : next.jobs = db.jobs := by
  simp only [renewExisting, Except.bind_eq_ok, Except.ok.injEq, Prod.mk.injEq] at done
  obtain ⟨_, _, _, _, rfl, _⟩ := done
  rfl

theorem renewExistingWithinDuration_jobs {leaseId : String} {expires renewAfter : UInt64} {decision : RenewDecision}
    (done : renewExistingWithinDuration db leaseId nowUnixMs expires renewAfter = .ok (next, decision)) :
    next.jobs = db.jobs := by
  simp only [renewExistingWithinDuration, Except.bind_eq_ok] at done
  obtain ⟨_, _, _, _, _, _, done⟩ := done
  split at done <;> exact (Prod.mk.inj (Except.ok.inj done)).1 ▸ rfl

theorem raiseReassignmentGrace_jobs {leaseId : String} {atLeastMs : UInt64} {raised : StoredLease}
    (done : raiseReassignmentGrace db leaseId atLeastMs = .ok (next, raised)) : next.jobs = db.jobs := by
  simp only [raiseReassignmentGrace, Except.bind_eq_ok, Except.ok.injEq, Prod.mk.injEq] at done
  obtain ⟨_, _, _, _, rfl, _⟩ := done
  rfl

theorem markRevoked_jobs {leaseId : String} {revokedAtUnixMs : UInt64} {revoked : StoredLease}
    (done : markRevoked db leaseId revokedAtUnixMs = .ok (next, revoked)) : next.jobs = db.jobs := by
  simp only [markRevoked, Except.bind_eq_ok] at done
  obtain ⟨_, _, done⟩ := done
  split at done <;> exact (Prod.mk.inj (Except.ok.inj done)).1 ▸ rfl

theorem releaseLostNodeByOperator_jobs {nodeId operatorStatement : String} {release : OperatorRelease}
    (done : releaseLostNodeByOperator db nodeId operatorStatement nowUnixMs = .ok (next, release)) :
    next.jobs = db.jobs := by
  simp only [releaseLostNodeByOperator, insertOperatorRelease, Except.bind_eq_ok, Except.ensure_eq_ok,
    Except.ofOption_eq_ok, Except.ok.injEq, Prod.mk.injEq] at done
  obtain ⟨_, _, _, _, reservation, _, _, _, job, _, _, _, deleted, deletes, recorded, ⟨_, _, rfl⟩, rfl, _⟩ := done
  obtain rfl := deleteReservation_eq_some deletes
  rfl

theorem ControlDb.KeepsQueueTimes.commit {ε α : Type} {result : Except ε (ControlDb × α)}
    (keeps : ∀ (next : ControlDb) (answer : α), result = .ok (next, answer) → db.KeepsQueueTimes next) :
    db.KeepsQueueTimes (Coordinator.commit db result) := by
  cases result with
  | error fault => exact .refl _
  | ok answer => exact keeps answer.1 answer.2 rfl

/-- The call moves a job into the queue from planning. -/
def Operation.enqueues : Operation → Bool
  | .enqueue .. => true
  | .planAndEnqueue .. => true
  | _ => false

/-- Only the two calls that enqueue write when a job was first queued. -/
theorem step_queueTimes (intact : db.Intact) (operation : Operation) (other : operation.enqueues = false) :
    db.KeepsQueueTimes (step codec db operation) := by
  cases operation with
  | submitAccepted submission at_ => exact .commit fun _ _ => submitAccepted_queueTimes intact
  | submitVerifiedManifest submission verified at_ =>
      exact .commit fun _ _ => submitVerifiedManifest_queueTimes intact
  | startPlanning jobId at_ => exact .commit fun _ _ => startPlanning_queueTimes intact
  | enqueue jobId planId at_ => cases other
  | planAndEnqueue jobId planId at_ => cases other
  | failQueued jobId failure at_ => exact .commit fun _ _ => failQueued_queueTimes intact
  | recordInventory nodeId inventory => exact .of_jobs rfl
  | stageQueuedWithLease request => exact .commit fun _ _ => stageQueuedWithLease_queueTimes intact
  | reserveAndStage request revision requireManifest =>
      exact .commit fun _ _ => reserveAndStage_queueTimes intact
  | recordGrantAccepted attemptId now jobMovesOnAck =>
      exact .commit fun _ _ => recordGrantAccepted_queueTimes intact
  | recordProcessStarted leaseId now => exact .commit fun _ _ => recordProcessStarted_queueTimes intact
  | getOrIssue candidate now => exact .commit fun _ _ done => .of_jobs (getOrIssue_jobs done)
  | renewExisting leaseId expires renewAfter =>
      exact .commit fun _ _ done => .of_jobs (renewExisting_jobs done)
  | renewExistingWithinDuration leaseId now expires renewAfter =>
      exact .commit fun _ _ done => .of_jobs (renewExistingWithinDuration_jobs done)
  | raiseReassignmentGrace leaseId atLeast =>
      exact .commit fun _ _ done => .of_jobs (raiseReassignmentGrace_jobs done)
  | markRevoked leaseId revokedAt => exact .commit fun _ _ done => .of_jobs (markRevoked_jobs done)
  | storeVerifiedTerminalReport verified release ownerPreempt =>
      exact .commit fun _ _ => storeVerifiedTerminalReport_queueTimes intact
  | releaseForVerifiedTerminalReport verified authorization releasedAt =>
      exact .commit fun _ _ done => .of_jobs (releaseWithinTransaction_touchesOnly done).jobs
  | openReportStore =>
      unfold step
      cases opened : openReportStore codec db with
      | error fault => exact .refl _
      | ok moved => exact .of_jobs (backfillTerminalStates_jobs _ opened)
  | pauseForOwnerPreempt jobId attemptId nodeId policy now =>
      exact .commit fun _ _ => pauseForOwnerPreemptWithin_queueTimes intact
  | failoverJob policy jobId now => exact .commit fun _ _ => failoverJob_queueTimes intact
  | failoverLostAttempts policy now => exact failoverLostAttempts_queueTimes intact
  | releaseLostNodeByOperator nodeId statement now =>
      exact .commit fun _ _ done => .of_jobs (releaseLostNodeByOperator_jobs done)
  | markReservationExpired nodeId expiredAt => exact .of_jobs rfl

end Calls

end Gputeer.Coordinator
