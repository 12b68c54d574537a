import Gputeer.Coordinator.LedgerProgress
import Gputeer.Coordinator.Operations

/-! Repeating a staging request. What the first success wrote stays for good, so whether the request
can be replayed depends on the job, and on the reservation where there was one. -/

namespace Gputeer.Coordinator

open Protocol ControlDb

/-- The attempt is the one the request was staged as. -/
structure StageQueuedRequest.StagedAs (request : StageQueuedRequest) (attempt : StoredAttempt) :
    Prop where
  jobId : attempt.jobId = request.jobId
  leaseId : attempt.leaseId = request.leaseId
  nodeIds : attempt.nodeIds = [request.nodeId]
  createdAt : attempt.createdAtUnixMs = request.issuedAtUnixMs

/-- What a ledger keeps of a request that was staged: its operation, its attempt and its lease. -/
structure Ledger.Keeps (ledger : Ledger) (request : StageQueuedRequest)
    (requestPayload : List UInt8) (original : StoredAttempt) : Prop where
  operation : ledger.operation request.operationKey.toList =
    some (request.toOperation requestPayload original.fenceEpoch)
  attempt : ∃ kept, ledger.attempt request.attemptId = some kept ∧
    kept.assignment = original.assignment
  lease : ∃ lease, ledger.lease request.leaseId = some lease ∧
    lease.identity = (request.toLease original.fenceEpoch).identity

theorem Ledger.Keeps.onward {ledger next : Ledger} {allowed : Allowance}
    {request : StageQueuedRequest} {requestPayload : List UInt8} {original : StoredAttempt}
    (keeps : ledger.Keeps request requestPayload original) (sound : Sound ledger)
    (steps : Steps allowed ledger next) : next.Keeps request requestPayload original where
  operation := steps.operation_kept sound keeps.operation
  attempt := by
    obtain ⟨kept, there, same⟩ := keeps.attempt
    obtain ⟨later, now, sameLater⟩ := steps.attempt_kept sound there
    exact ⟨later, now, sameLater.trans same⟩
  lease := by
    obtain ⟨lease, there, same⟩ := keeps.lease
    obtain ⟨later, now, kept⟩ := steps.lease_kept sound there
    exact ⟨later, now, kept.identity.trans same⟩

variable {codec : Codec} {db next : ControlDb} {request : StageQueuedRequest}

theorem StagesNew.keeps {requestPayload : List UInt8} {epoch : UInt64} {move : JobMove}
    {old new : StoredJob} (stages : StagesNew db next request requestPayload epoch move old new) :
    next.ledger.Keeps request requestPayload (request.toAttempt epoch) where
  operation := by
    simp only [ledger, stages.operations, Table.lookup_insert, if_true]
    rfl
  attempt := ⟨request.toAttempt epoch, stages.attempt_eq, rfl⟩
  lease := by
    refine ⟨request.toLease epoch, ?_, rfl⟩
    simp only [ledger, stages.leases, writeLease, Table.lookup_insert, if_true]

theorem ensureSameOperation_eq_ok {operation : StoredOperation} {requestPayload : List UInt8}
    {checked : Unit} :
    ensureSameOperation operation request requestPayload = .ok checked ↔
      operation = request.toOperation requestPayload operation.fenceEpoch := by
  rcases operation with ⟨⟩
  simp [ensureSameOperation, StageQueuedRequest.toOperation]

/-- What a replay that succeeded has found. -/
theorem loadResult_keeps {requestPayload : List UInt8} {operation : StoredOperation}
    {checked : Unit} {result : StageQueuedResult}
    (made : db.stagingOperations[request.operationKey.toList]? = some operation)
    (same : ensureSameOperation operation request requestPayload = .ok checked)
    (loaded : loadResult db request operation.fenceEpoch = .ok result) :
    db.ledger.Keeps request requestPayload result.attempt ∧
      request.StagedAs result.attempt ∧
      result.lease = request.toLease result.attempt.fenceEpoch := by
  simp only [loadResult, Except.bind_eq_ok, Except.mapError_eq_ok, Except.ofOption_eq_ok,
    Except.ensure_eq_ok, Except.ok.injEq] at loaded
  obtain ⟨_, _, job, _, _, readAttempt, attempt, rfl, current, leased, _,
    ⟨_, _, ofJob, ofLease, onNode, epoch, createdAt, leaseId, jobId, attemptId, holder, fence,
      issuer, term, issuedAt, duration, _⟩, rfl⟩ := loaded
  refine ⟨⟨?_, ⟨attempt, fetchAttempt_eq_ok readAttempt, rfl⟩, ⟨current, leased, ?_⟩⟩,
    ⟨ofJob, ofLease, onNode, createdAt⟩, ?_⟩
  · rw [epoch, ← ensureSameOperation_eq_ok.mp same]
    exact made
  · rw [epoch]
    rcases current with ⟨⟩
    simp_all [StoredLease.identity, StageQueuedRequest.toLease]
  · rw [epoch]

theorem validateRequest_nodeId {checked : Unit} (valid : validateRequest request = .ok checked) :
    Text.isBlank request.nodeId = false := by
  simp only [validateRequest, validateIds, Except.bind_eq_ok, Except.ite_error_eq_ok] at valid
  obtain ⟨_, ⟨_, _, _, filled, _⟩, _⟩ := valid
  simpa using filled

/-- The job is still in the run that the request began. -/
def StillStaged (db : ControlDb) (request : StageQueuedRequest) : Prop :=
  ∃ job, fetchJob db request.jobId = .ok (some job) ∧
    (job.state = .staging ∨ job.state = .running) ∧
    job.stagingAtUnixMs = some request.issuedAtUnixMs

section Replay

variable {requestPayload : List UInt8} {original : StoredAttempt} {checked : Unit}
  (intact : db.Intact) (keeps : db.ledger.Keeps request requestPayload original)
  (stagedAs : request.StagedAs original) (valid : validateRequest request = .ok checked)

include intact keeps stagedAs valid

theorem loadResult_replayed :
    (StillStaged db request → ∃ job kept,
      loadResult db request original.fenceEpoch =
        .ok ⟨job, kept, request.toLease original.fenceEpoch, false⟩ ∧
      kept.assignment = original.assignment) ∧
    (¬ StillStaged db request → loadResult db request original.fenceEpoch =
      .error (.corruptData "staging operation result is inconsistent")) := by
  obtain ⟨kept, there, same⟩ := keeps.attempt
  obtain ⟨lease, leased, sameLease⟩ := keeps.lease
  obtain ⟨job, ofJob, _⟩ := intact.sound.placed there
  have sameJob := StoredAttempt.jobId_of_assignment same
  have sameNodes := StoredAttempt.nodeIds_of_assignment same
  have createdAt : kept.createdAtUnixMs = original.createdAtUnixMs :=
    congrArg (fun assigned => assigned.createdAtUnixMs) same
  rw [sameJob, stagedAs.jobId] at ofJob
  have readJob := intact.readable.fetchJob_eq request.jobId
  rw [ofJob] at readJob
  have readAttempt : fetchAttempt db request.attemptId = .ok (some kept) := by
    have row : db.attempts[request.attemptId]? = some kept := there
    simp [fetchAttempt, row, Except.onSome, sameNodes, stagedAs.nodeIds,
      validateRequest_nodeId valid, Functor.map, Except.map]
  have readLease : fetchLease db request.leaseId = some lease := leased
  have counted : db.maxIssuedEpoch.any (original.fenceEpoch ≤ ·) := by
    obtain ⟨counter, issued, high⟩ := intact.issued there
    rw [StoredAttempt.fenceEpoch_of_assignment same] at high
    simpa [issued] using high
  have still : StillStaged db request ↔ (job.state = .staging ∨ job.state = .running) ∧
      job.stagingAtUnixMs = some request.issuedAtUnixMs := by
    simp [StillStaged, readJob]
  have fence := StoredAttempt.fenceEpoch_of_assignment same
  have named := StoredAttempt.leaseId_of_assignment same
  simp only [StoredLease.identity, StageQueuedRequest.toLease, StoredLease.mk.injEq] at sameLease
  rw [still]
  constructor
  · rintro ⟨runs, since⟩
    refine ⟨job, kept, ?_, same⟩
    simp only [loadResult, readJob, readAttempt, readLease, Except.mapError, Except.ofOption,
      bind, Except.bind]
    rw [Except.ensure, if_pos]
    simp_all [StageQueuedRequest.toLease, stagedAs.jobId, stagedAs.leaseId, stagedAs.nodeIds,
      stagedAs.createdAt]
  · intro moved
    simp only [loadResult, readJob, readAttempt, readLease, Except.mapError, Except.ofOption,
      bind, Except.bind]
    rw [Except.ensure, if_neg]
    rintro ⟨runs, since, _⟩
    exact moved ⟨runs, since⟩

theorem stageQueuedWithLease_replayed (payload : requestPayload = encodeRequest request) :
    (StillStaged db request → ∃ job kept,
      stageQueuedWithLease db request =
        .ok (db, ⟨job, kept, request.toLease original.fenceEpoch, false⟩) ∧
      kept.assignment = original.assignment) ∧
    (¬ StillStaged db request →
      ∃ message, stageQueuedWithLease db request = .error (.corruptData message)) := by
  subst payload
  obtain ⟨replays, refuses⟩ := loadResult_replayed intact keeps stagedAs valid
  have made : db.stagingOperations[request.operationKey.toList]? =
    some (request.toOperation (encodeRequest request) original.fenceEpoch) := keeps.operation
  have known : ensureSameOperation (request.toOperation (encodeRequest request) original.fenceEpoch)
    request (encodeRequest request) = .ok () := ensureSameOperation_eq_ok.mpr rfl
  have epoch : (request.toOperation (encodeRequest request) original.fenceEpoch).fenceEpoch =
    original.fenceEpoch := rfl
  constructor
  · intro still
    obtain ⟨job, kept, loaded, same⟩ := replays still
    refine ⟨job, kept, ?_, same⟩
    simp only [stageQueuedWithLease, valid, made, known, epoch, loaded, bind, Except.bind]
  · intro moved
    refine ⟨"staging operation result is inconsistent", ?_⟩
    simp only [stageQueuedWithLease, valid, made, known, epoch, refuses moved, bind, Except.bind]

/-- The reservation of the request is still on its node, marked or not. -/
def StillReserved (db : ControlDb) (request : StageQueuedRequest) (inventoryRevision : UInt64) :
    Prop :=
  ∃ reservation, db.nodeReservations[request.nodeId]? = some reservation ∧
    reservation.unmarked = request.toReservation inventoryRevision

end Replay

theorem StillReserved.fetch {inventoryRevision : UInt64} {checked : Unit}
    (valid : validateRequest request = .ok checked)
    (canonical : validateSelectedGpuIds request.selectedGpuIds = .ok ())
    (still : StillReserved db request inventoryRevision) :
    ∃ reservation, fetchNodeReservation db request.nodeId = .ok (some reservation) ∧
      reservation.unmarked = request.toReservation inventoryRevision := by
  obtain ⟨reservation, there, same⟩ := still
  refine ⟨reservation, ?_, same⟩
  simp only [validateRequest, validateIds, Except.bind_eq_ok, Except.ite_error_eq_ok] at valid
  obtain ⟨_, ⟨jobFilled, attemptFilled, _, nodeFilled, _⟩, _⟩ := valid
  have nonempty : request.selectedGpuIds ≠ [] := by
    rintro empty
    simp [validateSelectedGpuIds, empty, Except.ensure, bind, Except.bind] at canonical
  simp only [StoredNodeReservation.unmarked, StageQueuedRequest.toReservation,
    StoredNodeReservation.mk.injEq] at same
  obtain ⟨nodeId, jobId, attemptId, _, _, gpuIds, _⟩ := same
  simp [fetchNodeReservation, there, Except.onSome, readReservation, nodeId, jobId, attemptId,
    gpuIds, jobFilled, attemptFilled, nodeFilled, nonempty, canonical, Except.ensure,
    Except.mapError, bind, Except.bind, Functor.map, Except.map]

theorem readReservation_eq_error {reservation : StoredNodeReservation} {fault : StagingStoreError}
    (read : readReservation reservation = .error fault) :
    ∃ message, fault = .corruptData message := by
  simp only [readReservation, Except.bind_eq_error, Except.ensure_eq_error,
    Except.mapError_eq_error] at read
  rcases read with ⟨_, rfl⟩ | ⟨_, _, ⟨_, rfl⟩ | ⟨_, _, ⟨_, _, rfl⟩ | ⟨_, _, none⟩⟩⟩
  · exact ⟨_, rfl⟩
  · exact ⟨_, rfl⟩
  · exact ⟨_, rfl⟩
  · cases none

/-- Without the reservation a replay finds no row, a row it cannot read, or the row of another
attempt. -/
theorem not_stillReserved_fetch {inventoryRevision : UInt64}
    (freed : ¬ StillReserved db request inventoryRevision) :
    (∃ message, fetchNodeReservation db request.nodeId = .error (.corruptData message)) ∨
      fetchNodeReservation db request.nodeId = .ok none ∨
      ∃ reservation, fetchNodeReservation db request.nodeId = .ok (some reservation) ∧
        reservation.unmarked ≠ request.toReservation inventoryRevision := by
  cases row : db.nodeReservations[request.nodeId]? with
  | none =>
      right; left
      simp [fetchNodeReservation, row, Except.onSome]
  | some reservation =>
      have other : reservation.unmarked ≠ request.toReservation inventoryRevision :=
        fun same => freed ⟨reservation, row, same⟩
      cases read : readReservation reservation with
      | error fault =>
          left
          obtain ⟨message, rfl⟩ := readReservation_eq_error read
          exact ⟨message, by simp [fetchNodeReservation, row, Except.onSome, read, Functor.map,
            Except.map]⟩
      | ok stored =>
          right; right
          have same : stored = reservation := by
            simp only [readReservation, Except.bind_eq_ok, Except.ok.injEq] at read
            obtain ⟨_, _, _, _, _, _, same⟩ := read
            exact same.symm
          subst same
          exact ⟨stored, by simp [fetchNodeReservation, row, Except.onSome, read, Functor.map,
            Except.map], other⟩

theorem reserveAndStage_replayed {inventoryRevision : UInt64} {requireManifest : Bool}
    {original : StoredAttempt} {checked : Unit} (intact : db.Intact)
    (keeps : db.ledger.Keeps request (encodeReservedRequest request inventoryRevision) original)
    (stagedAs : request.StagedAs original) (valid : validateRequest request = .ok checked)
    (canonical : validateSelectedGpuIds request.selectedGpuIds = .ok ())
    (manifested : ¬ (requireManifest ∧ db.jobManifests[request.jobId]? = none)) :
    (StillStaged db request ∧ StillReserved db request inventoryRevision →
      ∃ reservation job kept, reserveAndStage db request inventoryRevision requireManifest =
        .ok (db, ⟨reservation, job, kept, request.toLease original.fenceEpoch, false⟩) ∧
      kept.assignment = original.assignment) ∧
    (¬ (StillStaged db request ∧ StillReserved db request inventoryRevision) →
      ∃ message, reserveAndStage db request inventoryRevision requireManifest =
        .error (.staging (.corruptData message))) := by
  obtain ⟨replays, refuses⟩ := loadResult_replayed intact keeps stagedAs valid
  generalize payloadIs : encodeReservedRequest request inventoryRevision = payload at keeps
  have made : db.stagingOperations[request.operationKey.toList]? =
    some (request.toOperation payload original.fenceEpoch) := keeps.operation
  have entered : reserveAndStage db request inventoryRevision requireManifest =
      ((replayReserved db request inventoryRevision
        (request.toOperation payload original.fenceEpoch) payload).mapError .staging).map
        (fun result => (db, result)) := by
    simp only [reserveAndStage, valid, canonical, made, payloadIs, Except.ensure,
      if_pos manifested, Except.mapError, bind, Except.bind]
    cases replayReserved db request inventoryRevision
      (request.toOperation payload original.fenceEpoch) payload <;> rfl
  have known : ensureSameOperation (request.toOperation payload original.fenceEpoch) request
    payload = .ok () := ensureSameOperation_eq_ok.mpr rfl
  have epoch : (request.toOperation payload original.fenceEpoch).fenceEpoch =
    original.fenceEpoch := rfl
  constructor
  · rintro ⟨still, reserved⟩
    obtain ⟨job, kept, loaded, same⟩ := replays still
    obtain ⟨reservation, read, unmarked⟩ := reserved.fetch valid canonical
    have owned : validateReplayedReservation reservation request inventoryRevision = .ok () :=
      if_pos unmarked
    refine ⟨reservation, job, kept, ?_, same⟩
    simp only [entered, replayReserved, known, epoch, loaded, read, owned, Except.ofOption, bind,
      Except.bind, Except.mapError, Except.map]
  · intro changed
    by_cases still : StillStaged db request
    · obtain ⟨job, kept, loaded, same⟩ := replays still
      rcases not_stillReserved_fetch (fun reserved => changed ⟨still, reserved⟩) with
        ⟨message, read⟩ | read | ⟨reservation, read, other⟩
      · refine ⟨message, ?_⟩
        simp only [entered, replayReserved, known, epoch, loaded, read, bind, Except.bind,
          Except.mapError, Except.map]
      · refine ⟨"reserved staging operation points to missing reservation", ?_⟩
        simp only [entered, replayReserved, known, epoch, loaded, read, Except.ofOption, bind,
          Except.bind, Except.mapError, Except.map]
      · have disowned : validateReplayedReservation reservation request inventoryRevision =
            .error (.corruptData "reserved staging operation result is inconsistent") :=
          if_neg other
        refine ⟨"reserved staging operation result is inconsistent", ?_⟩
        simp only [entered, replayReserved, known, epoch, loaded, read, disowned, Except.ofOption,
          bind, Except.bind, Except.mapError, Except.map]
    · refine ⟨"staging operation result is inconsistent", ?_⟩
      simp only [entered, replayReserved, known, epoch, refuses still, bind, Except.bind,
        Except.mapError, Except.map]

/-- What the run keeps of a request once it succeeded, new or replayed. -/
theorem stageQueuedWithLease_keeps {operations before : List Operation} {next : ControlDb}
    {result : StageQueuedResult}
    (took : Trace.Took operations before (.stageQueuedWithLease request))
    (done : stageQueuedWithLease (run codec before) request = .ok (next, result)) :
    (run codec operations).ledger.Keeps request (encodeRequest request) result.attempt ∧
      request.StagedAs result.attempt ∧
      result.lease = request.toLease result.attempt.fenceEpoch ∧
      ∃ checked, validateRequest request = .ok checked := by
  have committed : step codec (run codec before) (.stageQueuedWithLease request) = next := by
    simp only [step, done, commit]
  have left : next.ledger.Keeps request (encodeRequest request) result.attempt ∧
      request.StagedAs result.attempt ∧
      result.lease = request.toLease result.attempt.fenceEpoch ∧
      ∃ checked, validateRequest request = .ok checked := by
    have entered := done
    simp only [stageQueuedWithLease, Except.bind_eq_ok] at done
    obtain ⟨checked, valid, done⟩ := done
    cases made : (run codec before).stagingOperations[request.operationKey.toList]? with
    | some operation =>
        simp only [made, Except.bind_eq_ok, Except.ok.injEq, Prod.mk.injEq] at done
        obtain ⟨_, same, _, loaded, rfl, rfl⟩ := done
        obtain ⟨keeps, stagedAs, lease⟩ := loadResult_keeps made same loaded
        exact ⟨keeps, stagedAs, lease, checked, valid⟩
    | none =>
        simp only [made] at done
        obtain ⟨epoch, move, old, new, stages, rfl⟩ :=
          stageNewInTransaction_eq_ok (run_intact codec before).readable done
        exact ⟨stages.keeps, ⟨rfl, rfl, rfl, rfl⟩, rfl, checked, valid⟩
  refine ⟨?_, left.2⟩
  exact run_kept (fun db => db.ledger.Keeps request (encodeRequest request) result.attempt) took
    (committed ▸ left.1) (fun intact refines keeps => keeps.onward intact.sound refines.steps)

theorem reserveAndStage_keeps {operations before : List Operation} {next : ControlDb}
    {inventoryRevision : UInt64} {requireManifest : Bool} {result : ReservedStageResult}
    (took : Trace.Took operations before
      (.reserveAndStage request inventoryRevision requireManifest))
    (done : reserveAndStage (run codec before) request inventoryRevision requireManifest =
      .ok (next, result)) :
    (run codec operations).ledger.Keeps request (encodeReservedRequest request inventoryRevision)
        result.stage.attempt ∧
      request.StagedAs result.stage.attempt ∧
      result.stage.lease = request.toLease result.stage.attempt.fenceEpoch ∧
      (∃ checked, validateRequest request = .ok checked) ∧
      validateSelectedGpuIds request.selectedGpuIds = .ok () ∧
      ¬ (requireManifest ∧ (run codec operations).jobManifests[request.jobId]? = none) := by
  have intact := run_intact codec before
  have committed : step codec (run codec before)
      (.reserveAndStage request inventoryRevision requireManifest) = next := by
    simp only [step, done, commit]
  have entered := done
  simp only [reserveAndStage, Except.bind_eq_ok, Except.mapError_eq_ok, Except.ensure_eq_ok] at done
  obtain ⟨checked, valid, _, canonical, _, manifested, done⟩ := done
  have left : next.ledger.Keeps request (encodeReservedRequest request inventoryRevision)
        result.stage.attempt ∧
      request.StagedAs result.stage.attempt ∧
      result.stage.lease = request.toLease result.stage.attempt.fenceEpoch := by
    cases made : (run codec before).stagingOperations[request.operationKey.toList]? with
    | some operation =>
        simp only [made, replayReserved, Except.bind_eq_ok, Except.mapError_eq_ok, Except.ok.injEq,
          Prod.mk.injEq] at done
        obtain ⟨_, ⟨_, same, _, loaded, _, _, _, _, _, _, rfl⟩, rfl, rfl⟩ := done
        exact loadResult_keeps made same loaded
    | none =>
        simp only [made] at done
        obtain ⟨epoch, move, old, new, reserves, rfl⟩ := reserveNew_eq_ok intact.readable done
        have keeps := reserves.stages.keeps
        exact ⟨⟨keeps.operation, keeps.attempt, keeps.lease⟩, ⟨rfl, rfl, rfl, rfl⟩, rfl⟩
  have kept : ¬ (requireManifest ∧ request.jobId ∉ (run codec operations).ledger.manifested) := by
    refine run_kept (fun db => ¬ (requireManifest ∧ request.jobId ∉ db.ledger.manifested)) took ?_ ?_
    · rintro ⟨required, missing⟩
      have before : request.jobId ∈ (run codec before).ledger.manifested :=
        fun absent => manifested ⟨required, absent⟩
      exact missing ((step_refines codec intact _).steps.manifested_kept intact.sound before)
    · rintro earlier allowed next sound refines there ⟨required, missing⟩
      have before : request.jobId ∈ (run codec earlier).ledger.manifested := by
        by_contra absent
        exact there ⟨required, absent⟩
      exact missing (refines.steps.manifested_kept sound.sound before)
  refine ⟨?_, left.2.1, left.2.2, ⟨checked, valid⟩, canonical, ?_⟩
  · exact run_kept (fun db => db.ledger.Keeps request
      (encodeReservedRequest request inventoryRevision) result.stage.attempt) took
      (committed ▸ left.1) (fun intact refines keeps => keeps.onward intact.sound refines.steps)
  · rintro ⟨required, absent⟩
    exact kept ⟨required, fun there => there absent⟩

/-- A staging request that succeeded once can be repeated exactly as long as its job is still in the
run it began, and for a reserving request its reservation is still there. The repetition then
returns the first attempt and lease and writes nothing; afterwards the rows are reported as corrupt. -/
theorem staging_replayed_iff_still_staged (codec : Codec) (operations : List Operation) :
    (∀ (before : List Operation) (request : StageQueuedRequest) (next : ControlDb)
        (result : StageQueuedResult),
      Trace.Took operations before (.stageQueuedWithLease request) →
      stageQueuedWithLease (run codec before) request = .ok (next, result) →
      ((∃ again, stageQueuedWithLease (run codec operations) request =
          .ok (run codec operations, again) ∧ again.created = false ∧
          again.attempt.assignment = result.attempt.assignment ∧ again.lease = result.lease) ↔
        StillStaged (run codec operations) request) ∧
      (¬ StillStaged (run codec operations) request → ∃ message,
        stageQueuedWithLease (run codec operations) request = .error (.corruptData message))) ∧
    ∀ (before : List Operation) (request : StageQueuedRequest) (inventoryRevision : UInt64)
        (requireManifest : Bool) (next : ControlDb) (result : ReservedStageResult),
      Trace.Took operations before (.reserveAndStage request inventoryRevision requireManifest) →
      reserveAndStage (run codec before) request inventoryRevision requireManifest =
        .ok (next, result) →
      ((∃ again, reserveAndStage (run codec operations) request inventoryRevision requireManifest =
          .ok (run codec operations, again) ∧ again.stage.created = false ∧
          again.stage.attempt.assignment = result.stage.attempt.assignment ∧
          again.stage.lease = result.stage.lease) ↔
        StillStaged (run codec operations) request ∧
          StillReserved (run codec operations) request inventoryRevision) ∧
      (¬ (StillStaged (run codec operations) request ∧
          StillReserved (run codec operations) request inventoryRevision) → ∃ message,
        reserveAndStage (run codec operations) request inventoryRevision requireManifest =
          .error (.staging (.corruptData message))) := by
  have intact := run_intact codec operations
  constructor
  · intro before request next result took done
    obtain ⟨keeps, stagedAs, lease, checked, valid⟩ := stageQueuedWithLease_keeps took done
    obtain ⟨replays, refuses⟩ := stageQueuedWithLease_replayed intact keeps stagedAs valid rfl
    refine ⟨⟨?_, ?_⟩, refuses⟩
    · rintro ⟨again, repeated, _⟩
      by_contra moved
      obtain ⟨message, refused⟩ := refuses moved
      exact absurd (repeated.symm.trans refused) (by simp)
    · intro still
      obtain ⟨job, kept, repeated, same⟩ := replays still
      exact ⟨_, repeated, rfl, same, lease.symm⟩
  · intro before request inventoryRevision requireManifest next result took done
    obtain ⟨keeps, stagedAs, lease, ⟨checked, valid⟩, canonical, manifested⟩ :=
      reserveAndStage_keeps took done
    obtain ⟨replays, refuses⟩ :=
      reserveAndStage_replayed intact keeps stagedAs valid canonical manifested
    refine ⟨⟨?_, ?_⟩, refuses⟩
    · rintro ⟨again, repeated, _⟩
      by_contra changed
      obtain ⟨message, refused⟩ := refuses changed
      exact absurd (repeated.symm.trans refused) (by simp)
    · intro still
      obtain ⟨reservation, job, kept, repeated, same⟩ := replays still
      exact ⟨_, repeated, rfl, same, lease.symm⟩

section Requeued

/-- A codec for runs in which no message body is read. -/
def plainCodec : Codec where
  encodeJobManifest _ := []
  decodeJobManifest _ := none
  encodeAttemptReport _ := []
  decodeAttemptReport _ := none
  decodeCheckpointManifest body := if body = [] then some default else none
  blake3 _ := Vector.replicate 32 0
  decodeCheckpointManifest_nil := rfl

def submitJob (jobId : String) (key : UInt8) : Operation :=
  .submitAccepted
    { idempotencyKey := Vector.replicate 16 key, jobId, submitterDeviceId := "laptop",
      manifestHash := Vector.replicate 32 7, deadlineUnixMs := none, maxQueueDurationMs := none } 10

def stageRequest (jobId attemptId leaseId nodeId : String) (key : UInt8) : StageQueuedRequest where
  operationKey := Vector.replicate 16 key
  jobId := jobId
  attemptId := attemptId
  leaseId := leaseId
  nodeId := nodeId
  selectedGpuIds := ["gpu-0"]
  issuingCoordinatorId := "coordinator"
  coordinatorTerm := 1
  issuedAtUnixMs := 100
  renewAfterUnixMs := 600
  expiresAtUnixMs := 1100
  maxTotalDurationSeconds := 3600

/-- A failover without a grace of its own and without a shared checkpoint directory. -/
def plainPolicy : FailoverPolicy where
  graceMs := 0
  sharedCheckpointRoot := none
  verifier := fun _ _ _ => .error .unknownSigner

/-- The job is queued again after its node was lost, and the request that had staged it is repeated. -/
theorem requeued_job_breaks_replay :
    (stageQueuedWithLease
      (run plainCodec [submitJob "job" 1, .planAndEnqueue "job" "plan" 20])
      (stageRequest "job" "attempt" "lease" "node" 1)).toOption.any (·.2.created) = true ∧
    (stageQueuedWithLease
      (run plainCodec [submitJob "job" 1, .planAndEnqueue "job" "plan" 20,
        .stageQueuedWithLease (stageRequest "job" "attempt" "lease" "node" 1),
        .failoverLostAttempts plainPolicy 5000])
      (stageRequest "job" "attempt" "lease" "node" 1)).map (·.2.created) =
      .error (.corruptData "staging operation result is inconsistent") := by
  decide +kernel

end Requeued

end Gputeer.Coordinator
