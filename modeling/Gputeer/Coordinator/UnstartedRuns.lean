import Gputeer.Coordinator.LostAttempts

/-! What becomes of a job whose latest attempt never ran, where an accepted grant does not move the
job. -/

namespace Gputeer.Coordinator

open Protocol ControlDb

variable {codec : Codec} {db : ControlDb}

/-- The attempts that a run staged for jobs that were paused. -/
def StagedForPaused (codec : Codec) (operations : List Operation) : Set String :=
  {id | ∃ before operation, Trace.Took operations before operation ∧
    id ∈ Operation.resumes (run codec before) operation}

theorem stagedForPaused_snoc (operations : List Operation) (operation : Operation) :
    StagedForPaused codec (operations ++ [operation]) =
      StagedForPaused codec operations ∪ operation.resumes (run codec operations) := by
  ext id
  simp only [StagedForPaused, Set.mem_ofPred_eq, Set.mem_union, Trace.took_snoc]
  constructor
  · rintro ⟨before, taken, earlier | ⟨rfl, rfl⟩, resumes⟩
    · exact Or.inl ⟨before, taken, earlier, resumes⟩
    · exact Or.inr resumes
  · rintro (⟨before, taken, earlier, resumes⟩ | resumes)
    · exact ⟨before, taken, Or.inl earlier, resumes⟩
    · exact ⟨operations, operation, Or.inr ⟨rfl, rfl⟩, resumes⟩

/-- An attempt is staged for a paused job once. -/
theorem attempt_of_resumes (codec : Codec) (intact : db.Intact) {operation : Operation} {id : String}
    (resumes : id ∈ operation.resumes db) :
    db.ledger.attempt id = none ∧
      ∃ attempt, (step codec db operation).ledger.attempt id = some attempt := by
  cases operation with
  | stageQueuedWithLease request =>
      obtain ⟨rfl, _, next, result, done, created⟩ := resumes
      have left : step codec db (.stageQueuedWithLease request) = next := by
        simp only [step, done, commit]
      rcases stageQueuedWithLease_eq_ok intact.readable done with
        ⟨_, replayed⟩ | ⟨_, epoch, _, _, _, stages, _⟩
      · exact absurd (created.symm.trans replayed) (by simp)
      · refine ⟨stages.freshAttempt, request.toAttempt epoch, ?_⟩
        rw [left]
        simp [ledger, stages.attempts, withAttempt, StageQueuedRequest.toAttempt]
  | reserveAndStage request revision requireManifest =>
      obtain ⟨rfl, _, next, result, done, created⟩ := resumes
      have left : step codec db (.reserveAndStage request revision requireManifest) = next := by
        simp only [step, done, commit]
      rcases (reserveAndStage_eq_ok intact.readable done).2 with
        ⟨_, replayed⟩ | ⟨_, epoch, _, _, _, ⟨_, stages, _⟩, _⟩
      · exact absurd (created.symm.trans replayed) (by simp)
      · refine ⟨stages.freshAttempt, request.toAttempt epoch, ?_⟩
        rw [left]
        simpa [ledger, withAttempt, StageQueuedRequest.toAttempt] using
          congrArg (·[request.attemptId]?) stages.attempts
  | _ => exact absurd resumes (Set.notMem_empty id)

/-- In the pool a job runs on an attempt without progress only if that was staged while it was paused. -/
theorem run_shown (codec : Codec) (operations : List Operation)
    (pool : ∀ operation ∈ operations, ¬ operation.acks) :
    Shown (StagedForPaused codec operations) (run codec operations).ledger ∧
      ∀ id ∈ StagedForPaused codec operations,
        ∃ attempt, (run codec operations).ledger.attempt id = some attempt := by
  revert pool
  refine Trace.induction (fun operations (db : ControlDb) =>
    (∀ operation ∈ operations, ¬ operation.acks) →
    Shown (StagedForPaused codec operations) db.ledger ∧
      ∀ id ∈ StagedForPaused codec operations, ∃ attempt, db.ledger.attempt id = some attempt)
    (fun _ => ⟨?_, ?_⟩) (fun earlier operation holds pool => ?_) operations
  · constructor <;> intros <;> simp_all [ControlDb.empty, ledger]
  · rintro id ⟨_, _, took, _⟩
    exact absurd took Trace.not_took_nil
  · have intact := run_intact codec earlier
    have steps := (step_refines codec intact operation).steps
    obtain ⟨shown, staged⟩ := holds fun one among => pool one (List.mem_append_left _ among)
    rw [stagedForPaused_snoc]
    constructor
    · refine steps.shown intact.sound ⟨?_, ?_⟩
        (pool operation (List.mem_append_right _ (List.mem_singleton_self _))) ?_
      · intro attempt job latest now running unshown live
        exact Or.inl (shown.running latest now running unshown live)
      · intro attempt job latest now resumed
        rcases resumed with earlierOne | new
        · exact shown.resumed latest now earlierOne
        · have fresh := (attempt_of_resumes codec intact new).1
          exact absurd (fresh.symm.trans latest.present) (by simp)
      · intro id absent
        refine ⟨fun resumed => resumed.resolve_left fun earlierOne => ?_, Or.inr⟩
        obtain ⟨attempt, there⟩ := staged id earlierOne
        exact absurd (absent.symm.trans there) (by simp)
    · rintro id (earlierOne | new)
      · obtain ⟨attempt, there⟩ := staged id earlierOne
        obtain ⟨moved, now, _⟩ := steps.attempt_kept intact.sound there
        exact ⟨moved, now⟩
      · exact (attempt_of_resumes codec intact new).2

/-- In a run of the pool, a lost job whose latest attempt never ran goes back to the queue exactly if
the attempt was not staged for the job while it was paused, or a trusted checkpoint is there to resume
from. -/
theorem unstarted_run_requeued_iff (codec : Codec) (operations : List Operation)
    (policy : FailoverPolicy) (nowUnixMs : UInt64)
    (pool : ∀ operation ∈ operations, ¬ operation.acks) (job : StoredJob)
    (attempt : StoredAttempt) (lease : StoredLease)
    (lost : Lost (run codec operations) policy nowUnixMs job attempt lease)
    (unstarted : attempt.state ≠ .running)
    (handled : (failoverLostAttempts codec (run codec operations) policy nowUnixMs).1.jobs[job.jobId]? ≠
        (run codec operations).jobs[job.jobId]? ∨
      ∃ outcomes, (failoverLostAttempts codec (run codec operations) policy nowUnixMs).2 =
        .ok outcomes) :
    ∃ updated,
      fetchJob (failoverLostAttempts codec (run codec operations) policy nowUnixMs).1 job.jobId =
        .ok (some updated) ∧
      (updated.state = .queued ↔ attempt.attemptId ∉ StagedForPaused codec operations ∨
        ∃ body manifest, TrustedManifest codec (run codec operations) policy nowUnixMs job.jobId body
          manifest) ∧
      (updated.state ≠ .queued →
        updated.state = .failed ∧ updated.runTerminal = some .noCommittedCheckpoint) := by
  have intact := run_intact codec operations
  obtain ⟨shown, _⟩ := run_shown codec operations pool
  obtain ⟨updated, found, goesOn⟩ := failoverLostAttempts_moves intact lost handled
  have there := lost.found
  rw [intact.readable.fetchJob_eq, Except.ok.injEq, ← lost.ofJob] at there
  refine ⟨updated, found, ?_, fun left => ?_⟩
  · rcases lost.runs with staging | running
    · have other : attempt.attemptId ∉ StagedForPaused codec operations :=
        fun resumed => shown.resumed lost.latest there resumed staging
      exact ⟨fun _ => Or.inl other, fun _ => (goesOn.staging staging).1⟩
    · have live : AttemptState.ended attempt.state = false := by
        have unfinished := lost.unfinished
        cases state : attempt.state <;> simp_all [AttemptState.ended]
      have resumed := shown.running lost.latest there running unstarted live
      rw [goesOn.requeued running]
      exact ⟨Or.inr, fun either => either.resolve_left (not_not.mpr resumed)⟩
  · rcases lost.runs with staging | running
    · exact absurd (goesOn.staging staging).1 left
    · exact goesOn.abandoned running left

section Resumed

/-- The owner of the node takes a running job's node back, and the job is staged on another one. -/
def resumedRun : List Operation :=
  [submitJob "job" 1, .planAndEnqueue "job" "plan" 20, .recordInventory "node" ⟨1, ["gpu-0"]⟩,
    .recordInventory "other-node" ⟨1, ["gpu-0"]⟩,
    .reserveAndStage (stageRequest "job" "attempt" "lease" "node" 1) 1 false,
    .recordGrantAccepted "attempt" 120 false, .recordProcessStarted "lease" 150,
    .pauseForOwnerPreempt "job" "attempt" "node" plainPolicy 300,
    .reserveAndStage (stageRequest "job" "second-attempt" "second-lease" "other-node" 2) 1 false]

theorem resumedRun_lost : ∃ job attempt lease, job.jobId = "job" ∧ attempt.state = .created ∧
    Lost (run plainCodec resumedRun) plainPolicy 5000 job attempt lease := by
  have intact := run_intact plainCodec resumedRun
  have query : latestAttemptForJob (run plainCodec resumedRun) "job" = some "second-attempt" := by
    decide +kernel
  have jobRow : (fetchJob (run plainCodec resumedRun) "job").toOption.join.map (·.state) =
      some .running := by
    decide +kernel
  have attemptRow : (run plainCodec resumedRun).attempts["second-attempt"]?.map
      (fun attempt => (attempt.state, attempt.leaseId)) = some (.created, "second-lease") := by
    decide +kernel
  have leaseRow : (run plainCodec resumedRun).leases["second-lease"]?.map
      (fun lease => (lease.expiresAtUnixMs, lease.reassignmentGraceMs)) = some (1100, 0) := by
    decide +kernel
  obtain ⟨attempt, latest, key, ofJob⟩ := intact.latestAttemptForJob_iff.mp query
  have present := latest.present
  rw [key] at present
  rw [show (run plainCodec resumedRun).attempts["second-attempt"]? = some attempt from present,
    Option.map_some, Option.some.injEq, Prod.mk.injEq] at attemptRow
  obtain ⟨lease, leased, term⟩ := Option.map_eq_some_iff.mp leaseRow
  obtain ⟨expires, grace⟩ := Prod.mk.inj term
  rw [intact.readable.fetchJob_eq] at jobRow
  obtain ⟨job, found, running⟩ := Option.map_eq_some_iff.mp jobRow
  have named := (intact.sound.job found).1
  refine ⟨job, attempt, lease, named, attemptRow.1, ?_, Or.inr running, latest, ofJob.trans named.symm,
    ?_, ?_, ?_⟩
  · rw [intact.readable.fetchJob_eq, named]
    exact congrArg Except.ok found
  · simp [attemptRow.1]
  · rw [attemptRow.2]
    exact leased
  · rw [expires, grace]
    decide

/-- The other node is lost before the run has started there, and the job fails for want of a
checkpoint. -/
theorem unstarted_run_fails_its_job :
    (∀ operation ∈ resumedRun, ¬ operation.acks) ∧
    ∃ job attempt lease updated, job.jobId = "job" ∧ attempt.state = .created ∧
      Lost (run plainCodec resumedRun) plainPolicy 5000 job attempt lease ∧
      fetchJob (failoverLostAttempts plainCodec (run plainCodec resumedRun) plainPolicy 5000).1 "job" =
        .ok (some updated) ∧
      updated.state = .failed ∧ updated.runTerminal = some .noCommittedCheckpoint := by
  obtain ⟨job, attempt, lease, named, created, lost⟩ := resumedRun_lost
  have after : (fetchJob (failoverLostAttempts plainCodec (run plainCodec resumedRun) plainPolicy
      5000).1 "job").map (·.map fun updated => (updated.state, updated.runTerminal)) =
      .ok (some (.failed, some .noCommittedCheckpoint)) := by
    decide +kernel
  obtain ⟨found, read, final⟩ := Except.map_eq_ok.mp after
  obtain ⟨updated, rfl, fields⟩ := Option.map_eq_some_iff.mp final
  obtain ⟨failed, terminal⟩ := Prod.mk.inj fields
  refine ⟨?_, job, attempt, lease, updated, named, created, lost, read, failed, terminal⟩
  simp [resumedRun, submitJob, Operation.acks]

theorem resumed_run_requeued_iff_staged_anew :
    ∃ job attempt lease updated, job.jobId = "job" ∧
      Lost (run plainCodec resumedRun) plainPolicy 5000 job attempt lease ∧
      fetchJob (failoverLostAttempts plainCodec (run plainCodec resumedRun) plainPolicy 5000).1
        job.jobId = .ok (some updated) ∧
      (updated.state = .queued ↔ attempt.attemptId ∉ StagedForPaused plainCodec resumedRun ∨
        ∃ body manifest, TrustedManifest plainCodec (run plainCodec resumedRun) plainPolicy 5000
          job.jobId body manifest) := by
  obtain ⟨job, attempt, lease, named, created, lost⟩ := resumedRun_lost
  have whole : (failoverLostAttempts plainCodec (run plainCodec resumedRun) plainPolicy 5000).2.map
      List.length = .ok 1 := by
    decide +kernel
  obtain ⟨outcomes, handled, _⟩ := Except.map_eq_ok.mp whole
  obtain ⟨updated, found, queued, _⟩ := unstarted_run_requeued_iff plainCodec resumedRun plainPolicy
    5000 (by simp [resumedRun, submitJob, Operation.acks]) job attempt lease lost (by simp [created])
    (Or.inr ⟨outcomes, handled⟩)
  exact ⟨job, attempt, lease, updated, named, lost, found, queued⟩

end Resumed

end Gputeer.Coordinator
