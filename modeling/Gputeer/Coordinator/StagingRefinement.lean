import Gputeer.Coordinator.JobRefinement

/-! The transactions of the staging store are steps of the ledger. -/

namespace Gputeer.Coordinator

open Protocol Text ControlDb

theorem stageJob_edge {job staged : StoredJob} {issuedAtUnixMs : UInt64}
    (waiting : job.state = .queued ∨ job.state = .paused)
    (done : stageJob job issuedAtUnixMs = .ok staged) :
    ∃ move, JobEdge move job staged ∧ (move = .staged ∨ move = .resumed) := by
  unfold stageJob at done
  split at done
  · next paused =>
    simp only [Except.bind_eq_ok, Except.mapError_eq_ok, Except.ofOption_eq_ok,
      Except.ok.injEq] at done
    obtain ⟨state, resumed, revision, counted, rfl⟩ := done
    obtain rfl : JobState.running = state := Except.ok.inj resumed
    exact ⟨.resumed, JobEdge.resumed paused counted, Or.inr rfl⟩
  · next unpaused =>
    simp only [Except.bind_eq_ok, Except.ofOption_eq_ok, Except.ok.injEq] at done
    obtain ⟨revision, counted, rfl⟩ := done
    exact ⟨.staged, JobEdge.staged (waiting.resolve_right unpaused) counted, Or.inl rfl⟩

theorem stageJob_stagingAt {job staged : StoredJob} {issuedAtUnixMs : UInt64}
    (done : stageJob job issuedAtUnixMs = .ok staged) :
    staged.stagingAtUnixMs = some issuedAtUnixMs := by
  unfold stageJob at done
  split at done
  · simp only [Except.bind_eq_ok, Except.ok.injEq] at done
    obtain ⟨_, _, _, _, rfl⟩ := done
    rfl
  · simp only [Except.bind_eq_ok, Except.ok.injEq] at done
    obtain ⟨_, _, rfl⟩ := done
    rfl

variable {db next : ControlDb} {allowed : Allowance}

/-- The epoch given out is above the counter and above every lease present. -/
theorem allocateEpoch_eq_ok {epoch : UInt64} (done : allocateEpoch db = .ok (next, epoch)) :
    next = { db with maxIssuedEpoch := some epoch } ∧ db.ledger.counter < epoch ∧
      ∀ (id : String) (lease : StoredLease), db.ledger.lease id = some lease →
        lease.fenceEpoch < epoch := by
  simp only [allocateEpoch, Except.bind_eq_ok, Except.ofOption_eq_ok, Except.ok.injEq,
    Prod.mk.injEq, UInt64.checkedAdd_eq_some, UInt64.toNat_one] at done
  obtain ⟨given, counted, rfl, rfl⟩ := done
  obtain ⟨counter, leases⟩ := UInt64.le_foldl_max (db.leases.rows.map (·.fenceEpoch))
    (db.maxIssuedEpoch.getD 0)
  refine ⟨rfl, ?_, fun id lease found => ?_⟩
  · rw [UInt64.le_iff_toNat_le] at counter
    rw [UInt64.lt_iff_toNat_lt]
    change (db.maxIssuedEpoch.getD 0).toNat < given.toNat
    omega
  · have listed : lease.fenceEpoch ∈ db.leases.rows.map (·.fenceEpoch) :=
      List.mem_map_of_mem (Table.mem_rows.mpr ⟨id, found⟩)
    have below := leases lease.fenceEpoch listed
    rw [UInt64.le_iff_toNat_le] at below
    rw [UInt64.lt_iff_toNat_lt]
    omega

theorem StageQueuedRequest.toLease_covers (request : StageQueuedRequest) (epoch : UInt64) :
    (request.toLease epoch).Covers (request.toAttempt epoch) where
  leaseId := rfl
  jobId := rfl
  attemptId := rfl
  holder := rfl
  fenceEpoch := rfl

/-- The row under which the request is known again. -/
def StageQueuedRequest.toOperation (request : StageQueuedRequest) (requestPayload : List UInt8)
    (epoch : UInt64) : StoredOperation where
  jobId := request.jobId
  attemptId := request.attemptId
  leaseId := request.leaseId
  requestPayload := requestPayload
  fenceEpoch := epoch

/-- What a staging transaction leaves: the new attempt and its lease under a new epoch, the job moved
on, and the operation. Reservations are neither read nor written. -/
structure StagesNew (db next : ControlDb) (request : StageQueuedRequest)
    (requestPayload : List UInt8) (epoch : UInt64) (move : JobMove) (old new : StoredJob) :
    Prop where
  found : db.ledger.job old.jobId = some old
  edge : JobEdge move old new
  starts : move = .staged ∨ move = .resumed
  staged : new.stagingAtUnixMs = some request.issuedAtUnixMs
  ofJob : old.jobId = request.jobId
  freshAttempt : db.ledger.attempt request.attemptId = none
  freshLease : db.ledger.lease request.leaseId = none
  above : db.ledger.counter < epoch
  aboveLeases : ∀ (id : String) (lease : StoredLease), db.ledger.lease id = some lease →
    lease.fenceEpoch < epoch
  jobs : next.jobs = (db.withJob new).jobs
  attempts : next.attempts = (db.withAttempt (request.toAttempt epoch)).attempts
  leases : next.leases = (writeLease db request.leaseId (request.toLease epoch)).leases
  counter : next.maxIssuedEpoch = some epoch
  reservations : next.nodeReservations = db.nodeReservations
  reports : next.attemptReports = db.attemptReports
  operations : next.stagingOperations = db.stagingOperations.insert request.operationKey.toList
    (request.toOperation requestPayload epoch)
  manifests : next.jobManifests = db.jobManifests

theorem stageNewInTransaction_eq_ok (readable : db.Readable) {request : StageQueuedRequest}
    {requestPayload : List UInt8} {result : StageQueuedResult}
    (done : stageNewInTransaction db request requestPayload = .ok (next, result)) :
    ∃ (epoch : UInt64) (move : JobMove) (old new : StoredJob),
      StagesNew db next request requestPayload epoch move old new ∧
      result = ⟨new, request.toAttempt epoch, request.toLease epoch, true⟩ := by
  simp only [stageNewInTransaction, readable.fetchJob_eq, Except.bind_eq_ok,
    Except.mapError_eq_ok, Except.ofOption_eq_ok, Except.ensure_eq_ok, Except.ok.injEq,
    Prod.mk.injEq] at done
  obtain ⟨_, rfl, old, found, _, waiting, _, _, _, _, _, attemptRead, _, rfl, _, freshLease,
    ⟨counted, epoch⟩, allocated, new, staged, moved, written, rfl, rfl⟩ := done
  obtain ⟨rfl, above, aboveLeases⟩ := allocateEpoch_eq_ok allocated
  obtain ⟨move, edge, starts⟩ := stageJob_edge waiting staged
  have key := (readable.of_job found).1
  rw [← key] at found
  generalize leasedIs : insertLease _ _ = leased at written
  have rows : leased.Readable := by
    subst leasedIs
    exact readable
  have there : leased.ledger.job old.jobId = some old := by
    subst leasedIs
    exact found
  obtain rfl := rows.updateJob_eq_ok there edge written
  subst leasedIs
  exact ⟨epoch, move, old, new,
    { found, edge, starts, staged := stageJob_stagingAt staged, ofJob := key,
      freshAttempt := fetchAttempt_eq_none attemptRead, freshLease, above, aboveLeases,
      jobs := rfl, attempts := rfl, leases := rfl, counter := rfl, reservations := rfl,
      reports := rfl, operations := rfl, manifests := rfl },
    rfl⟩

namespace StagesNew

variable {request : StageQueuedRequest} {requestPayload : List UInt8} {epoch : UInt64}
  {move : JobMove} {old new : StoredJob}

theorem ledger_eq (stages : StagesNew db next request requestPayload epoch move old new)
    (shaped : old.WellShaped) :
    next.ledger =
      { ((db.ledger.setJob new).setAttempt (request.toAttempt epoch)).setLease
          (request.toLease epoch) with
        counter := (request.toAttempt epoch).fenceEpoch
        operation := Function.update db.ledger.operation request.operationKey.toList
          (some (request.toOperation requestPayload epoch)) } := by
  have jobs : (db.withJob new).ledger = db.ledger.setJob new :=
    withJob_ledger (stages.edge.wellShaped shaped)
  have attempts := withAttempt_ledger db (request.toAttempt epoch)
  have leases := writeLease_ledger db (request.toLease epoch)
  ext1
  case job =>
    rw [show next.ledger.job = (db.withJob new).ledger.job by
      simp only [ledger, stages.jobs], jobs]
    rfl
  case attempt =>
    rw [show next.ledger.attempt = (db.withAttempt (request.toAttempt epoch)).ledger.attempt by
      simp only [ledger, stages.attempts], attempts]
    rfl
  case lease =>
    rw [show next.ledger.lease =
      (writeLease db request.leaseId (request.toLease epoch)).ledger.lease by
      simp only [ledger, stages.leases]]
    exact (congrArg Ledger.lease leases).trans rfl
  case reservation =>
    simp only [ledger, stages.reservations]
    rfl
  case counter =>
    simp only [ledger, stages.counter]
    rfl
  case reported =>
    simp only [ledger, stages.reports]
    rfl
  case operation =>
    funext key
    by_cases same : request.operationKey.toList = key
    · simp [ledger, stages.operations, same]
    · have other : ¬ key = request.operationKey.toList := fun equal => same equal.symm
      simp [ledger, stages.operations, Table.lookup_insert, same, other]
  case manifested =>
    simp only [ledger, stages.manifests]
    rfl

theorem readable (stages : StagesNew db next request requestPayload epoch move old new)
    (shaped : old.WellShaped) (before : db.Readable) : next.Readable := by
  intro id row found
  rw [stages.jobs] at found
  exact before.withJob (stages.edge.wellShaped shaped) id row found

theorem refines (stages : StagesNew db next request requestPayload epoch move old new)
    (intact : db.Intact) (fresh : db.ledger.operation request.operationKey.toList = none)
    (resumes : move = .resumed ↔ request.attemptId ∈ allowed.resumes)
    (termed : (request.toLease epoch).Termed) : Refines allowed db next := by
  have shaped := (intact.sound.job stages.found).2.2
  refine ⟨stages.readable shaped intact.readable, Relation.ReflTransGen.single ?_⟩
  rw [stages.ledger_eq shaped]
  exact Step.staged stages.found stages.edge stages.starts resumes stages.freshAttempt
    stages.freshLease fresh stages.ofJob.symm rfl (request.toLease_covers epoch) termed
    stages.above stages.aboveLeases

theorem attempt_eq (stages : StagesNew db next request requestPayload epoch move old new) :
    next.ledger.attempt request.attemptId = some (request.toAttempt epoch) := by
  simp only [ledger, stages.attempts, withAttempt, Table.lookup_insert]
  exact if_pos rfl

end StagesNew

section Reservations

/-- The database with this reservation. -/
def ControlDb.withReservation (db : ControlDb) (reservation : StoredNodeReservation) : ControlDb :=
  { db with nodeReservations := db.nodeReservations.insert reservation.nodeId reservation }

theorem withReservation_ledger (db : ControlDb) (reservation : StoredNodeReservation) :
    (db.withReservation reservation).ledger =
      db.ledger.setReservation reservation.nodeId (some reservation) := by
  ext1
  case reservation =>
    funext id
    by_cases same : reservation.nodeId = id
    · simp [withReservation, ledger, same]
    · have other : ¬ id = reservation.nodeId := fun equal => same equal.symm
      simp [withReservation, ledger, Table.lookup_insert, same, other]
  all_goals rfl

theorem insertNodeReservation_eq_ok {reservation : StoredNodeReservation}
    (done : insertNodeReservation db reservation = .ok next) :
    next = db.withReservation reservation ∧
      db.ledger.reservation reservation.nodeId = none := by
  simp only [insertNodeReservation, Except.bind_eq_ok, Except.ensure_eq_ok, Except.ok.injEq] at done
  obtain ⟨_, ⟨free, _⟩, rfl⟩ := done
  exact ⟨rfl, free⟩

/-- Staging beside a new reservation is staging without it. -/
theorem StagesNew.unreserved {request : StageQueuedRequest} {requestPayload : List UInt8}
    {epoch : UInt64} {move : JobMove} {old new : StoredJob} {reservation : StoredNodeReservation}
    (stages : StagesNew (db.withReservation reservation) next request requestPayload epoch move old
      new) :
    StagesNew db { next with nodeReservations := db.nodeReservations } request requestPayload epoch
      move old new :=
  { stages with reservations := rfl }

/-- What a reserving transaction leaves: a staged attempt, and its node reserved for it. -/
structure ReservesNew (db next : ControlDb) (request : StageQueuedRequest)
    (inventoryRevision epoch : UInt64) (move : JobMove) (old new : StoredJob) : Prop where
  free : db.ledger.reservation request.nodeId = none
  stages : StagesNew db { next with nodeReservations := db.nodeReservations } request
    (encodeReservedRequest request inventoryRevision) epoch move old new
  reservations : next.nodeReservations =
    (db.withReservation (request.toReservation inventoryRevision)).nodeReservations

theorem reserveNew_eq_ok (readable : db.Readable) {request : StageQueuedRequest}
    {inventoryRevision : UInt64} {result : ReservedStageResult}
    (done : reserveNew db request inventoryRevision
      (encodeReservedRequest request inventoryRevision) = .ok (next, result)) :
    ∃ (epoch : UInt64) (move : JobMove) (old new : StoredJob),
      ReservesNew db next request inventoryRevision epoch move old new ∧
      result = ⟨request.toReservation inventoryRevision,
        new, request.toAttempt epoch, request.toLease epoch, true⟩ := by
  simp only [reserveNew, Except.bind_eq_ok, Except.mapError_eq_ok] at done
  obtain ⟨_, _, _, _, _, _, found, _, done⟩ := done
  cases found with
  | some existing => simp at done
  | none =>
      simp only [Except.bind_eq_ok, Except.mapError_eq_ok, Except.ok.injEq,
        Prod.mk.injEq] at done
      obtain ⟨reserved, inserted, ⟨staged, stage⟩, stagesNew, rfl, rfl⟩ := done
      obtain ⟨rfl, free⟩ := insertNodeReservation_eq_ok inserted
      have rows : (db.withReservation (request.toReservation inventoryRevision)).Readable :=
        readable
      obtain ⟨epoch, move, old, new, stages, rfl⟩ := stageNewInTransaction_eq_ok rows stagesNew
      exact ⟨epoch, move, old, new, ⟨free, stages.unreserved, stages.reservations⟩, rfl⟩

theorem ReservesNew.refines {request : StageQueuedRequest} {inventoryRevision epoch : UInt64}
    {move : JobMove} {old new : StoredJob}
    (reserves : ReservesNew db next request inventoryRevision epoch move old new)
    (intact : db.Intact) (fresh : db.ledger.operation request.operationKey.toList = none)
    (resumes : move = .resumed ↔ request.attemptId ∈ allowed.resumes)
    (termed : (request.toLease epoch).Termed) : Refines allowed db next := by
  have staged : Refines allowed db { next with nodeReservations := db.nodeReservations } :=
    reserves.stages.refines intact fresh resumes termed
  have reserved : next.ledger =
      { next with nodeReservations := db.nodeReservations : ControlDb }.ledger.setReservation
        request.nodeId (some (request.toReservation inventoryRevision)) := by
    rw [show request.nodeId = (request.toReservation inventoryRevision).nodeId from rfl,
      ← withReservation_ledger]
    simp only [ledger, withReservation, reserves.reservations]
  refine staged.trans ⟨(intact.after staged).readable, Relation.ReflTransGen.single ?_⟩
  rw [reserved]
  exact @Step.reserved allowed _ (request.toAttempt epoch) (request.toReservation inventoryRevision)
    reserves.free reserves.stages.attempt_eq rfl rfl

end Reservations

section Entry

variable {request : StageQueuedRequest}

/-- The entry point without a reservation either replays an operation or makes a new one. -/
theorem stageQueuedWithLease_eq_ok (readable : db.Readable) {result : StageQueuedResult}
    (done : stageQueuedWithLease db request = .ok (next, result)) :
    next = db ∧ result.created = false ∨
      db.ledger.operation request.operationKey.toList = none ∧
      ∃ (epoch : UInt64) (move : JobMove) (old new : StoredJob),
        StagesNew db next request (encodeRequest request) epoch move old new ∧
        result = ⟨new, request.toAttempt epoch, request.toLease epoch, true⟩ := by
  simp only [stageQueuedWithLease, Except.bind_eq_ok] at done
  obtain ⟨_, _, done⟩ := done
  cases made : db.stagingOperations[request.operationKey.toList]? with
  | some operation =>
      simp only [made, Except.bind_eq_ok, Except.ok.injEq, Prod.mk.injEq] at done
      obtain ⟨_, _, replayed, loaded, rfl, rfl⟩ := done
      refine Or.inl ⟨rfl, ?_⟩
      simp only [loadResult, Except.bind_eq_ok, Except.ok.injEq] at loaded
      grind
  | none =>
      simp only [made] at done
      exact Or.inr ⟨made, stageNewInTransaction_eq_ok readable done⟩

/-- A reserving entry point does the same. -/
theorem reserveAndStage_eq_ok (readable : db.Readable) {inventoryRevision : UInt64}
    {requireManifest : Bool} {result : ReservedStageResult}
    (done : reserveAndStage db request inventoryRevision requireManifest = .ok (next, result)) :
    validateSelectedGpuIds request.selectedGpuIds = .ok () ∧
    (next = db ∧ result.stage.created = false ∨
      db.ledger.operation request.operationKey.toList = none ∧
      ∃ (epoch : UInt64) (move : JobMove) (old new : StoredJob),
        ReservesNew db next request inventoryRevision epoch move old new ∧
        result = ⟨request.toReservation inventoryRevision,
          new, request.toAttempt epoch, request.toLease epoch, true⟩) := by
  simp only [reserveAndStage, Except.bind_eq_ok, Except.mapError_eq_ok] at done
  obtain ⟨_, _, _, canonical, _, _, done⟩ := done
  refine ⟨canonical, ?_⟩
  cases made : db.stagingOperations[request.operationKey.toList]? with
  | some operation =>
      simp only [made, Except.bind_eq_ok, Except.mapError_eq_ok, Except.ok.injEq,
        Prod.mk.injEq] at done
      obtain ⟨replayed, replay, rfl, rfl⟩ := done
      refine Or.inl ⟨rfl, ?_⟩
      simp only [replayReserved, loadResult, Except.bind_eq_ok, Except.ok.injEq] at replay
      grind
  | none =>
      simp only [made] at done
      exact Or.inr ⟨made, reserveNew_eq_ok readable done⟩

/-- Staging resumes exactly the jobs that were paused. -/
theorem StagesNew.resumed_iff {requestPayload : List UInt8} {epoch : UInt64} {move : JobMove}
    {old new : StoredJob} (stages : StagesNew db next request requestPayload epoch move old new) :
    move = .resumed ↔ old.state = .paused := by
  have edge := stages.edge
  rcases stages.starts with rfl | rfl
  · cases edge with
    | staged before counted => simp [before]
  · cases edge with
    | resumed before counted => simp [before]

/-- The transaction may resume the job of the request exactly when it is paused. -/
def ResumesIfPaused (allowed : Allowance) (db : ControlDb) (request : StageQueuedRequest) : Prop :=
  ∀ job, db.ledger.job request.jobId = some job →
    (job.state = .paused ↔ request.attemptId ∈ allowed.resumes)

theorem StagesNew.resumes {requestPayload : List UInt8} {epoch : UInt64} {move : JobMove}
    {old new : StoredJob} (stages : StagesNew db next request requestPayload epoch move old new)
    (resumes : ResumesIfPaused allowed db request) :
    move = .resumed ↔ request.attemptId ∈ allowed.resumes :=
  stages.resumed_iff.trans (resumes old (stages.ofJob ▸ stages.found))

/-- A valid request asks for a lease within its total duration. -/
theorem validateRequest_termed {checked : Unit} (valid : validateRequest request = .ok checked)
    (epoch : UInt64) : (request.toLease epoch).Termed := by
  simp only [validateRequest, Except.bind_eq_ok, Except.ofOption_eq_ok, Except.ensure_eq_ok] at valid
  obtain ⟨_, _, longest, multiplied, lifetime, subtracted, _, early, late, within⟩ := valid
  have room := UInt64.checkedMul_eq_some.mp multiplied
  obtain ⟨order, span⟩ := UInt64.checkedSub_eq_some.mp subtracted
  rw [UInt64.le_iff_toNat_le] at within
  rw [show (1000 : UInt64).toNat = 1000 from rfl] at room
  refine ⟨UInt64.lt_trans early late, ?_⟩
  change request.expiresAtUnixMs.toNat ≤
    request.issuedAtUnixMs.toNat + 1000 * request.maxTotalDurationSeconds.toNat
  omega

theorem stageQueuedWithLease_refines (intact : db.Intact) {result : StageQueuedResult}
    (resumes : result.created = true → ResumesIfPaused allowed db request)
    (done : stageQueuedWithLease db request = .ok (next, result)) : Refines allowed db next := by
  rcases stageQueuedWithLease_eq_ok intact.readable done with
    ⟨rfl, _⟩ | ⟨fresh, epoch, move, old, new, stages, rfl⟩
  · exact intact.refl
  · simp only [stageQueuedWithLease, Except.bind_eq_ok] at done
    obtain ⟨_, valid, _⟩ := done
    exact stages.refines intact fresh (stages.resumes (resumes rfl))
      (validateRequest_termed valid epoch)

theorem reserveAndStage_refines (intact : db.Intact) {inventoryRevision : UInt64}
    {requireManifest : Bool} {result : ReservedStageResult}
    (resumes : result.stage.created = true → ResumesIfPaused allowed db request)
    (done : reserveAndStage db request inventoryRevision requireManifest = .ok (next, result)) :
    Refines allowed db next := by
  rcases (reserveAndStage_eq_ok intact.readable done).2 with
    ⟨rfl, _⟩ | ⟨fresh, epoch, move, old, new, reserves, rfl⟩
  · exact intact.refl
  · have stages : StagesNew db { next with nodeReservations := db.nodeReservations } request
      (encodeReservedRequest request inventoryRevision) epoch move old new := reserves.stages
    simp only [reserveAndStage, Except.bind_eq_ok, Except.mapError_eq_ok] at done
    obtain ⟨_, valid, _⟩ := done
    exact reserves.refines intact fresh (stages.resumes (resumes rfl))
      (validateRequest_termed valid epoch)

end Entry

section Start

/-- The attempt was in the state it was read in, and its state alone is written. -/
theorem ControlDb.Intact.transitionAttemptStateAlong_eq_ok (intact : db.Intact)
    {attemptId : String} {source : AttemptState} {path : List AttemptState}
    (done : transitionAttemptStateAlong db attemptId source path = .ok next) :
    ∃ (attempt : StoredAttempt) (target : AttemptState),
      db.ledger.attempt attemptId = some attempt ∧ attempt.attemptId = attemptId ∧
      attempt.state = source ∧ attemptWalk source path = .ok target ∧
      next = db.withAttempt { attempt with state := target } := by
  simp only [transitionAttemptStateAlong, Except.bind_eq_ok, Except.mapError_eq_ok] at done
  obtain ⟨target, walked, done⟩ := done
  cases found : db.attempts[attemptId]? with
  | none => simp [found] at done
  | some attempt =>
      simp only [found] at done
      split at done
      · next state =>
        have key := intact.sound.attemptKey
          (show db.ledger.attempt attemptId = some attempt from found)
        subst key
        exact ⟨attempt, target, found, rfl, state, walked, (Except.ok.inj done).symm⟩
      · cases done

/-- A step that changes the state of one attempt. -/
theorem ControlDb.Intact.attemptMoved (intact : db.Intact) {attempt : StoredAttempt}
    {state : AttemptState}
    (step : Step allowed db.ledger (db.ledger.setAttempt { attempt with state })) :
    Refines allowed db (db.withAttempt { attempt with state }) := by
  refine intact.single rfl ?_
  rw [withAttempt_ledger]
  exact step

/-- The attempt shows progress. -/
theorem ControlDb.Intact.progressed (intact : db.Intact) {attemptId : String}
    {source target : AttemptState}
    (progress : source = .created ∧ target = .starting ∨ source = .starting ∧ target = .running)
    (done : transitionAttemptStateAlong db attemptId source [target] = .ok next) :
    Refines allowed db next := by
  obtain ⟨attempt, reached, found, key, rfl, walked, rfl⟩ :=
    intact.transitionAttemptStateAlong_eq_ok done
  have landed : reached = target := by
    rcases progress with ⟨source, rfl⟩ | ⟨source, rfl⟩ <;>
      rw [source] at walked <;> exact (Except.ok.inj walked).symm
  subst landed
  exact intact.attemptMoved (Step.attemptMoved (key ▸ found) progress)

theorem ControlDb.Intact.fetchCurrentJob_eq_ok (intact : db.Intact) {jobId attemptId : String}
    {job : StoredJob} (found : fetchCurrentJob db jobId attemptId = .ok (some job)) :
    db.ledger.job job.jobId = some job ∧ (job.state = .staging ∨ job.state = .running) ∧
      ∃ attempt, db.ledger.Latest attempt ∧ attempt.attemptId = attemptId ∧
        attempt.jobId = job.jobId := by
  simp only [fetchCurrentJob, intact.readable.fetchJob_eq, Except.bind_eq_ok, Except.ok.injEq,
    Except.ofOption_eq_ok] at found
  obtain ⟨_, rfl, current, there, found⟩ := found
  split at found
  · simp at found
  · next runs =>
    split at found
    · simp at found
    · next query =>
      obtain rfl := Option.some.inj (Except.ok.inj found)
      obtain rfl := (intact.sound.job there).1
      exact ⟨there, by tauto, intact.latestAttemptForJob_iff.mp (not_not.mp query)⟩

theorem recordStagingComplete_refines (intact : db.Intact) {jobId attemptId : String}
    {nowUnixMs : UInt64} {recorded : Bool}
    (shown : ∀ attempt, db.ledger.attempt attemptId = some attempt →
      attempt.state = .running ∨ allowed.acks)
    (done : recordStagingComplete db jobId attemptId nowUnixMs = .ok (next, recorded)) :
    Refines allowed db next := by
  simp only [recordStagingComplete, Except.bind_eq_ok] at done
  obtain ⟨current, found, done⟩ := done
  cases current with
  | none =>
      obtain ⟨rfl, _⟩ := Prod.mk.inj (Except.ok.inj done)
      exact intact.refl
  | some job =>
      obtain ⟨there, runs, attempt, latest, rfl, ofJob⟩ := intact.fetchCurrentJob_eq_ok found
      dsimp only at done
      split at done
      · obtain ⟨rfl, _⟩ := Prod.mk.inj (Except.ok.inj done)
        exact intact.refl
      · next unstarted =>
        simp only [Except.bind_eq_ok, Except.mapError_eq_ok, jobTransition_eq_ok, countUp_eq_ok,
          Except.ok.injEq, Prod.mk.injEq] at done
        obtain ⟨_, _, state, ⟨rfl, _⟩, revision, counted, written, writes, rfl, _⟩ := done
        have edge := @JobEdge.started job nowUnixMs revision (runs.resolve_right unstarted) counted
        exact intact.jobMoved there edge writes
          (Step.started there edge latest ofJob (shown attempt latest.present))

theorem recordGrantAccepted_refines (intact : db.Intact) {attemptId : String} {nowUnixMs : UInt64}
    {jobMovesOnAck : Bool} {answer : GrantAcceptedRecord}
    (acks : jobMovesOnAck = true → allowed.acks)
    (done : recordGrantAccepted db attemptId nowUnixMs jobMovesOnAck = .ok (next, answer)) :
    Refines allowed db next := by
  simp only [recordGrantAccepted, Except.bind_eq_ok, Except.ofOption_eq_ok] at done
  obtain ⟨_, _, attempt, rfl, done⟩ := done
  split at done
  · simp only [Except.bind_eq_ok, Except.ok.injEq, Prod.mk.injEq] at done
    obtain ⟨_, _, rfl, _⟩ := done
    exact intact.refl
  · split at done
    · split at done
      · obtain ⟨rfl, _⟩ := Prod.mk.inj (Except.ok.inj done)
        exact intact.refl
      · cases done
    · obtain ⟨rfl, _⟩ := Prod.mk.inj (Except.ok.inj done)
      exact intact.refl
    · next moved acknowledged =>
      have first : Refines allowed db moved := by
        unfold acknowledge at acknowledged
        split at acknowledged
        · next moves =>
          exact recordStagingComplete_refines intact (fun _ _ => Or.inr (acks moves)) acknowledged
        · simp only [Except.bind_eq_ok, Except.ok.injEq, Prod.mk.injEq] at acknowledged
          obtain ⟨_, _, rfl, _⟩ := acknowledged
          exact intact.refl
      simp only [Except.bind_eq_ok, Except.ok.injEq, Prod.mk.injEq] at done
      obtain ⟨accepted, accepts, rfl, _⟩ := done
      exact first.trans ((intact.after first).progressed (Or.inl ⟨rfl, rfl⟩) accepts)

/-- The job starts only for an attempt that runs by then. -/
theorem startJob_refines (intact : db.Intact) {attempt : StoredAttempt} {nowUnixMs : UInt64}
    {moved : Bool}
    (shown : attempt.state = .starting ∨ attempt.state = .running →
      ∀ running, db.ledger.attempt attempt.attemptId = some running → running.state = .running)
    (done : startJob db attempt nowUnixMs = .ok (next, moved)) : Refines allowed db next := by
  unfold startJob at done
  split at done
  · next alive =>
    split at done
    · next result completed =>
      obtain rfl := Except.ok.inj done
      exact recordStagingComplete_refines intact
        (fun running found => Or.inl (shown alive running found)) completed
    · split at done
      · obtain ⟨rfl, _⟩ := Prod.mk.inj (Except.ok.inj done)
        exact intact.refl
      · cases done
  · obtain ⟨rfl, _⟩ := Prod.mk.inj (Except.ok.inj done)
    exact intact.refl

theorem recordProcessStarted_refines (intact : db.Intact) {leaseId : String} {nowUnixMs : UInt64}
    {recorded : ProcessStartedRecord}
    (done : recordProcessStarted db leaseId nowUnixMs = .ok (next, recorded)) :
    Refines allowed db next := by
  unfold recordProcessStarted at done
  split at done
  · obtain ⟨rfl, _⟩ := Prod.mk.inj (Except.ok.inj done)
    exact intact.refl
  · simp only [Except.bind_eq_ok, Except.ofOption_eq_ok] at done
    obtain ⟨_, read, attempt, rfl, done⟩ := done
    have found := fetchAttempt_eq_ok read
    rw [← intact.sound.attemptKey found] at found
    split at done
    · next starting =>
      simp only [Except.bind_eq_ok, Except.ok.injEq, Prod.mk.injEq] at done
      obtain ⟨moved, moves, ⟨started, _⟩, starts, rfl, _⟩ := done
      have first : Refines allowed db moved := intact.progressed (Or.inr ⟨rfl, rfl⟩) moves
      refine first.trans (startJob_refines (intact.after first) (fun _ running now => ?_) starts)
      obtain ⟨_, target, _, key, _, walked, rfl⟩ :=
        intact.transitionAttemptStateAlong_eq_ok moves
      obtain rfl : AttemptState.running = target := Except.ok.inj walked
      rw [withAttempt_ledger, Ledger.setAttempt_attempt, if_pos key.symm,
        Option.some.injEq] at now
      rw [← now]
    · next unstarted =>
      simp only [Except.bind_eq_ok, Except.ok.injEq, Prod.mk.injEq] at done
      obtain ⟨⟨started, _⟩, starts, rfl, _⟩ := done
      refine startJob_refines intact (fun alive running now => ?_) starts
      obtain rfl : attempt = running := Option.some.inj (found.symm.trans now)
      exact alive.resolve_left unstarted

theorem markReservationExpired_refines (intact : db.Intact) (nodeId : String)
    (expiredAtUnixMs : UInt64) :
    Refines allowed db (markReservationExpired db nodeId expiredAtUnixMs) := by
  unfold markReservationExpired
  cases found : db.nodeReservations[nodeId]? with
  | none =>
      simp only [Table.update, found]
      exact intact.refl
  | some reservation =>
      obtain ⟨rfl, _⟩ := intact.sound.reserved
        (show db.ledger.reservation nodeId = some reservation from found)
      obtain ⟨expired, marked⟩ : ∃ expired : Option UInt64,
          (if reservation.expiredAtUnixMs = none then
            { reservation with expiredAtUnixMs := some expiredAtUnixMs } else reservation) =
          { reservation with expiredAtUnixMs := expired } := by
        split
        · exact ⟨_, rfl⟩
        · exact ⟨reservation.expiredAtUnixMs, rfl⟩
      simp only [Table.update, found, marked]
      refine intact.single rfl ?_
      have written := withReservation_ledger db { reservation with expiredAtUnixMs := expired }
      simp only [withReservation] at written
      rw [written]
      exact Step.suspected found

end Start

end Gputeer.Coordinator
