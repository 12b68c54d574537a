import Gputeer.Coordinator.Operations

/-! What holds in every state of the control database that a run can reach. -/

namespace Gputeer.Coordinator

open Protocol ControlDb

/-- The lease of the attempt has been revoked. -/
def ControlDb.LeaseRevoked (db : ControlDb) (attempt : StoredAttempt) : Prop :=
  ∃ lease, db.leases[attempt.leaseId]? = some lease ∧ lease.attemptId = attempt.attemptId ∧
    lease.revokedAtUnixMs ≠ none

variable {codec : Codec} {db : ControlDb}

theorem ControlDb.Intact.leaseRevoked (intact : db.Intact) {id : String} {attempt : StoredAttempt}
    (found : db.attempts[id]? = some attempt)
    (revoked : ∀ {lease : StoredLease}, db.ledger.lease attempt.leaseId = some lease →
      lease.revokedAtUnixMs ≠ none) : db.LeaseRevoked attempt := by
  obtain ⟨lease, leased, covers⟩ := intact.sound.covered
    (show db.ledger.attempt id = some attempt from found)
  exact ⟨lease, leased, covers.attemptId, revoked leased⟩

/-- Of all attempts of a job only the one with the greatest fence epoch can have a live lease, none
of them has one while the job waits, and a revoked lease never changes again. -/
theorem only_latest_attempt_leased (codec : Codec) (operations : List Operation) :
    (∀ (id other : String) (attempt rival : StoredAttempt),
      (run codec operations).attempts[id]? = some attempt →
      (run codec operations).attempts[other]? = some rival → id ≠ other →
      attempt.jobId = rival.jobId → attempt.fenceEpoch ≤ rival.fenceEpoch →
      (run codec operations).LeaseRevoked attempt) ∧
    (∀ (id : String) (attempt : StoredAttempt) (job : StoredJob),
      (run codec operations).attempts[id]? = some attempt →
      fetchJob (run codec operations) attempt.jobId = .ok (some job) →
      job.state = .queued ∨ job.state = .paused →
      (run codec operations).LeaseRevoked attempt) ∧
    ∀ (operation : Operation) (leaseId : String) (lease : StoredLease),
      (run codec operations).leases[leaseId]? = some lease → lease.revokedAtUnixMs ≠ none →
      (step codec (run codec operations) operation).leases[leaseId]? = some lease := by
  have intact := run_intact codec operations
  refine ⟨?_, ?_, ?_⟩
  · intro id other attempt rival found foundRival different ofJob below
    refine intact.leaseRevoked found (intact.sound.superseded found foundRival ofJob ?_)
    rcases UInt64.lt_or_eq_of_le below with later | same
    · exact later
    · exact absurd (intact.sound.distinct found foundRival same) different
  · intro id attempt job found ofJob state
    rw [intact.readable.fetchJob_eq, Except.ok.injEq] at ofJob
    exact intact.leaseRevoked found (intact.sound.waiting found ofJob state)
  · intro operation leaseId lease found revoked
    obtain ⟨changed, now, kept⟩ :=
      (step_refines codec intact operation).steps.lease_kept intact.sound found
    rw [kept.frozen revoked] at now
    exact now

theorem ControlDb.Readable.job_of_row (readable : db.Readable) {id : String} {row : RawJobRow}
    (found : db.jobs[id]? = some row) :
    ∃ job, db.ledger.job id = some job ∧ job.jobId = id ∧ row = RawJobRow.ofStored job ∧
      row.intoStored = .ok job := by
  obtain ⟨job, shaped, key, rfl⟩ := readable id row found
  have read := RawJobRow.intoStored_ofStored shaped
  refine ⟨job, ?_, key, rfl, read⟩
  simp [ledger, found, read, Except.toOption]

/-- The row of a job after a commit: the same one, or one that reads back as what was written over
it and follows the state machine. -/
def RowFollows (row next : RawJobRow) : Prop :=
  next = row ∨ ∃ old new, row.intoStored = .ok old ∧ next = row.written new ∧
    next.intoStored = .ok new ∧ JobFollows old new

/-- Every job row can be read, and no commit leaves the state machine. -/
theorem job_rows_follow_machine (codec : Codec) (operations : List Operation) :
    (∀ (id : String) (row : RawJobRow), (run codec operations).jobs[id]? = some row →
      ∃ job, job.jobId = id ∧ row = RawJobRow.ofStored job ∧ row.intoStored = .ok job) ∧
    ∀ (operation : Operation) (id : String),
      (∀ row, (run codec operations).jobs[id]? = some row →
        ∃ next, (step codec (run codec operations) operation).jobs[id]? = some next ∧
          RowFollows row next) ∧
      ((run codec operations).jobs[id]? = none → ∀ row,
        (step codec (run codec operations) operation).jobs[id]? = some row →
        ∃ start job, start.state = .submitted ∧ row = RawJobRow.ofStored job ∧
          row.intoStored = .ok job ∧ (job = start ∨ JobFollows start job)) := by
  have intact := run_intact codec operations
  refine ⟨?_, fun operation id => ⟨?_, ?_⟩⟩
  · intro id row found
    obtain ⟨job, _, key, written, read⟩ := intact.readable.job_of_row found
    exact ⟨job, key, written, read⟩
  · intro row found
    have refines := step_refines codec intact operation
    obtain ⟨old, there, _, rfl, read⟩ := intact.readable.job_of_row found
    obtain ⟨new, now, followed⟩ := refines.steps.job_kept intact.sound there
    obtain ⟨_, rowAfter⟩ := refines.readable.of_job now
    refine ⟨RawJobRow.ofStored new, rowAfter, ?_⟩
    rcases followed with rfl | follows
    · exact Or.inl rfl
    · obtain ⟨again, nowAgain, _, _, readNew⟩ := refines.readable.job_of_row rowAfter
      obtain rfl : new = again := Option.some.inj (now.symm.trans nowAgain)
      exact Or.inr ⟨old, new, read, follows.written.symm, readNew, follows⟩
  · intro fresh row found
    have refines := step_refines codec intact operation
    obtain ⟨job, now, _, written, read⟩ := refines.readable.job_of_row found
    have absent : (run codec operations).ledger.job id = none := by
      simp [ledger, fresh]
    obtain ⟨start, submitted, followed⟩ := refines.steps.job_origin intact.sound absent now
    exact ⟨start, job, submitted, written, read, followed⟩

section Reservations

theorem checkAdjacentGpuIds_sorted {gpuIds : List String}
    (checked : checkAdjacentGpuIds gpuIds = .ok ()) : gpuIds.Pairwise (· < ·) := by
  have chain : gpuIds.IsChain (· < ·) := by
    induction gpuIds with
    | nil => exact List.IsChain.nil
    | cons first rest ih =>
        cases rest with
        | nil => exact List.IsChain.singleton first
        | cons second rest =>
            simp only [checkAdjacentGpuIds, Except.ite_error_eq_ok] at checked
            obtain ⟨different, ascending, checked⟩ := checked
            have below : first < second := lt_of_le_of_ne (not_lt.mp ascending) different
            exact List.IsChain.cons_cons below (ih checked)
  exact List.isChain_iff_pairwise.mp chain

theorem validateSelectedGpuIds_sorted {gpuIds : List String}
    (valid : validateSelectedGpuIds gpuIds = .ok ()) : gpuIds.Pairwise (· < ·) := by
  simp only [validateSelectedGpuIds, Except.bind_eq_ok] at valid
  obtain ⟨_, _, _, _, checked⟩ := valid
  exact checkAdjacentGpuIds_sorted checked

/-- The run staged this request through a reserving entry point. -/
def StagedReserving (codec : Codec) (operations : List Operation) (request : StageQueuedRequest)
    (inventoryRevision : UInt64) : Prop :=
  ∃ (before : List Operation) (requireManifest : Bool) (next : ControlDb)
    (result : ReservedStageResult),
    Trace.Took operations before (.reserveAndStage request inventoryRevision requireManifest) ∧
    reserveAndStage (run codec before) request inventoryRevision requireManifest =
      .ok (next, result) ∧ result.stage.created = true

theorem ReservesNew.holds {next : ControlDb} {request : StageQueuedRequest}
    {inventoryRevision epoch : UInt64} {move : JobMove} {old new : StoredJob}
    (reserves : ReservesNew db next request inventoryRevision epoch move old new) :
    next.ledger.Holds (request.toReservation inventoryRevision) := by
  refine ⟨⟨request.toAttempt epoch, reserves.stages.attempt_eq⟩, fun _ _ => ?_⟩
  refine ⟨request.toReservation inventoryRevision, ?_, rfl⟩
  simp only [ledger, reserves.reservations, withReservation, Table.lookup_insert, if_true]

/-- What the staging call itself left. -/
theorem StagedReserving.took {operations : List Operation} {request : StageQueuedRequest}
    {inventoryRevision : UInt64}
    (staged : StagedReserving codec operations request inventoryRevision) :
    validateSelectedGpuIds request.selectedGpuIds = .ok () ∧
    ∃ (before : List Operation) (requireManifest : Bool) (epoch : UInt64) (move : JobMove)
      (old new : StoredJob),
      Trace.Took operations before (.reserveAndStage request inventoryRevision requireManifest) ∧
      ReservesNew (run codec before)
        (step codec (run codec before) (.reserveAndStage request inventoryRevision requireManifest))
        request inventoryRevision epoch move old new := by
  obtain ⟨before, requireManifest, next, result, took, done, created⟩ := staged
  obtain ⟨canonical, made⟩ := reserveAndStage_eq_ok (run_intact codec before).readable done
  rcases made with ⟨_, replayed⟩ | ⟨_, epoch, move, old, new, reserves, _⟩
  · rw [replayed] at created
    exact absurd created (by simp)
  · have committed : step codec (run codec before)
        (.reserveAndStage request inventoryRevision requireManifest) = next := by
      simp only [step, done, commit]
    exact ⟨canonical, before, requireManifest, epoch, move, old, new, took, committed ▸ reserves⟩

/-- A request that was staged with a reservation holds its node, with GPUs in canonical order. -/
theorem StagedReserving.holds {operations : List Operation} {request : StageQueuedRequest}
    {inventoryRevision : UInt64}
    (staged : StagedReserving codec operations request inventoryRevision) :
    (run codec operations).ledger.Holds (request.toReservation inventoryRevision) ∧
      request.selectedGpuIds.Pairwise (· < ·) := by
  obtain ⟨canonical, before, requireManifest, epoch, move, old, new, took, reserves⟩ := staged.took
  refine ⟨?_, validateSelectedGpuIds_sorted canonical⟩
  exact run_kept (fun db => db.ledger.Holds (request.toReservation inventoryRevision)) took
    reserves.holds (fun intact refines held => refines.steps.holds intact.sound held)

/-- The attempt a job is staged for or runs on keeps its node until a terminal report of it is
stored, and no call deletes the reservation of an attempt that it is not about. -/
theorem current_attempt_keeps_node (codec : Codec) (operations : List Operation) :
    (∀ (request : StageQueuedRequest) (inventoryRevision : UInt64) (job : StoredJob)
        (attempt : StoredAttempt),
      StagedReserving codec operations request inventoryRevision →
      fetchJob (run codec operations) attempt.jobId = .ok (some job) →
      job.state = .staging ∨ job.state = .running →
      (run codec operations).attempts[request.attemptId]? = some attempt →
      (∀ (id : String) (other : StoredAttempt),
        (run codec operations).attempts[id]? = some other → other.jobId = attempt.jobId →
        other.fenceEpoch ≤ attempt.fenceEpoch) →
      (∀ row ∈ (run codec operations).attemptReports, row.attemptId ≠ request.attemptId) →
      attempt.nodeIds = [request.nodeId] ∧ request.selectedGpuIds.Pairwise (· < ·) ∧
        ∃ expiredAtUnixMs, (run codec operations).nodeReservations[request.nodeId]? =
          some { request.toReservation inventoryRevision with expiredAtUnixMs }) ∧
    ∀ (operation : Operation) (nodeId : String) (reservation : StoredNodeReservation),
      (run codec operations).nodeReservations[nodeId]? = some reservation →
      reservation.attemptId ∉ operation.frees (run codec operations) →
      ∃ expiredAtUnixMs,
        (step codec (run codec operations) operation).nodeReservations[nodeId]? =
          some { reservation with expiredAtUnixMs } := by
  have intact := run_intact codec operations
  constructor
  · intro request inventoryRevision job attempt staged ofJob state found greatest unreported
    rw [intact.readable.fetchJob_eq, Except.ok.injEq] at ofJob
    have key := intact.sound.attemptKey
      (show (run codec operations).ledger.attempt request.attemptId = some attempt from found)
    have current : (run codec operations).ledger.Current request.attemptId :=
      ⟨attempt, job, ⟨key ▸ found, greatest⟩, key, ofJob, state⟩
    obtain ⟨⟨_, held⟩, sorted⟩ := staged.holds
    obtain ⟨kept, there, same⟩ := held current
      (fun ⟨_, row, listed, named⟩ => unreported row listed (Prod.mk.inj named).1)
    have marked := StoredNodeReservation.eq_of_unmarked same
    obtain ⟨_, bound, boundThere, _, onNode⟩ := intact.sound.reserved there
    rw [StoredNodeReservation.attemptId_of_unmarked same] at boundThere
    obtain rfl : attempt = bound := Option.some.inj (found.symm.trans boundThere)
    exact ⟨onNode, sorted, kept.expiredAtUnixMs, there.trans (congrArg some marked)⟩
  · intro operation nodeId reservation found kept
    obtain ⟨after, there, same⟩ :=
      (step_refines codec intact operation).steps.reservation_kept intact.sound found kept
    exact ⟨after.expiredAtUnixMs,
      there.trans (congrArg some (StoredNodeReservation.eq_of_unmarked same))⟩

end Reservations

end Gputeer.Coordinator
