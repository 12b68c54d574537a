import Gputeer.Coordinator.InventoryRuns
import Gputeer.Coordinator.Orchestrate
import Gputeer.Coordinator.StagingReplay

/-! Asking for the placement of a job once more, after nodes have registered, declared another
inventory or observed their GPUs. -/

namespace Gputeer.Coordinator

open Protocol Scheduler ControlDb

variable {codec : Codec} {file : CoordinatorFile}

/-- What a reserving staging has left in the database when it answers. -/
structure LeftBehind (db : ControlDb) (request : StageQueuedRequest) (inventoryRevision : UInt64)
    (stage : StageQueuedResult) : Prop where
  keeps : db.ledger.Keeps request (encodeReservedRequest request inventoryRevision) stage.attempt
  stagedAs : request.StagedAs stage.attempt
  lease : stage.lease = request.toLease stage.attempt.fenceEpoch
  job : fetchJob db request.jobId = .ok (some stage.job)
  runs : stage.job.state = .staging ∨ stage.job.state = .running
  since : stage.job.stagingAtUnixMs = some request.issuedAtUnixMs
  attempt : db.attempts[request.attemptId]? = some stage.attempt
  reserved : StillReserved db request inventoryRevision

section Staged

variable {db next : ControlDb} {request : StageQueuedRequest} {inventoryRevision : UInt64}
  {requireManifest : Bool} {result : ReservedStageResult} {stage : StageQueuedResult}

theorem loadResult_eq_ok {epoch : UInt64} (loaded : loadResult db request epoch = .ok stage) :
    fetchJob db request.jobId = .ok (some stage.job) ∧
      (stage.job.state = .staging ∨ stage.job.state = .running) ∧
      stage.job.stagingAtUnixMs = some request.issuedAtUnixMs ∧
      db.attempts[request.attemptId]? = some stage.attempt ∧
      stage.attempt.nodeIds = [request.nodeId] ∧ stage.lease = request.toLease epoch ∧
      stage.created = false := by
  simp only [loadResult, Except.bind_eq_ok, Except.mapError_eq_ok, Except.ofOption_eq_ok,
    Except.ensure_eq_ok, Except.ok.injEq] at loaded
  obtain ⟨_, readJob, job, rfl, _, readAttempt, attempt, rfl, _, _, _,
    ⟨runs, since, _, _, onNode, _⟩, rfl⟩ := loaded
  exact ⟨readJob, runs, since, fetchAttempt_eq_ok readAttempt, onNode, rfl, rfl⟩

/-- With the operation in its table a reserving staging reads and writes nothing. -/
theorem reserveAndStage_found {operation : StoredOperation}
    (done : reserveAndStage db request inventoryRevision requireManifest = .ok (next, result))
    (made : db.stagingOperations[request.operationKey.toList]? = some operation) :
    next = db ∧ loadResult db request operation.fenceEpoch = .ok result.stage ∧
      StillReserved db request inventoryRevision := by
  simp only [reserveAndStage, made, replayReserved, Except.bind_eq_ok, Except.mapError_eq_ok,
    Except.ofOption_eq_ok, validateReplayedReservation, Except.ensure_eq_ok, Except.ok.injEq,
    Prod.mk.injEq] at done
  obtain ⟨_, _, _, _, _, _, _, ⟨_, _, _, loaded, _, read, reservation, rfl, _, same, rfl⟩, rfl,
    rfl⟩ := done
  exact ⟨rfl, loaded, reservation, fetchNodeReservation_eq_ok read, same⟩

/-- The job of a new staging waits for its start, or resumes. -/
theorem StagesNew.runs {requestPayload : List UInt8} {epoch : UInt64} {move : JobMove}
    {old new : StoredJob} (stages : StagesNew db next request requestPayload epoch move old new) :
    new.state = .staging ∨ new.state = .running := by
  have edge := stages.edge
  rcases stages.starts with rfl | rfl
  · cases edge with
    | staged before counted => exact Or.inl rfl
  · cases edge with
    | resumed before counted => exact Or.inr rfl

theorem StagesNew.fetchJob {requestPayload : List UInt8} {epoch : UInt64} {move : JobMove}
    {old new : StoredJob} (stages : StagesNew db next request requestPayload epoch move old new)
    (intact : db.Intact) : fetchJob next request.jobId = .ok (some new) := by
  have shaped := (intact.sound.job stages.found).2.2
  have named : new.jobId = request.jobId := stages.edge.jobId_eq.trans stages.ofJob
  rw [(stages.readable shaped intact.readable).fetchJob_eq, stages.ledger_eq shaped]
  simp [Ledger.setJob, Ledger.setAttempt, Ledger.setLease, ← named]

theorem run_reserved {operations : List Operation}
    (done : reserveAndStage (Coordinator.run codec operations) request inventoryRevision
      requireManifest = .ok (next, result)) :
    Coordinator.run codec (operations ++
      [.reserveAndStage request inventoryRevision requireManifest]) = next := by
  simp only [Coordinator.run, Trace.run_snoc]
  rw [← Coordinator.run, step, done, commit]

/-- A staging that answers has left its rows, whether they are new or were found. -/
theorem reserveAndStage_left {operations : List Operation}
    (done : reserveAndStage (Coordinator.run codec operations) request inventoryRevision
      requireManifest = .ok (next, result)) :
    LeftBehind next request inventoryRevision result.stage := by
  have intact := run_intact codec operations
  obtain ⟨keeps, stagedAs, lease, _⟩ :=
    reserveAndStage_keeps (Trace.took_snoc.mpr (Or.inr ⟨rfl, rfl⟩)) done
  rw [run_reserved done] at keeps
  cases made : (Coordinator.run codec operations).stagingOperations[request.operationKey.toList]? with
  | some operation =>
      obtain ⟨rfl, loaded, reserved⟩ := reserveAndStage_found done made
      obtain ⟨job, runs, since, attempt, _⟩ := loadResult_eq_ok loaded
      exact { keeps, stagedAs, lease, job, runs, since, attempt, reserved }
  | none =>
      simp only [reserveAndStage, made, Except.bind_eq_ok] at done
      obtain ⟨_, _, _, _, _, _, done⟩ := done
      obtain ⟨epoch, move, old, new, reserves, rfl⟩ := reserveNew_eq_ok intact.readable done
      refine { keeps, stagedAs, lease, job := reserves.stages.fetchJob intact,
               runs := reserves.stages.runs, since := reserves.stages.staged,
               attempt := reserves.stages.attempt_eq, reserved := ?_ }
      refine ⟨request.toReservation inventoryRevision, ?_, rfl⟩
      rw [reserves.reservations]
      simp [withReservation, StageQueuedRequest.toReservation]

namespace LeftBehind

variable (left : LeftBehind db request inventoryRevision stage)

include left

/-- Rows of the inventory are no part of it. -/
theorem frame (rows : Table String InventoryRow) :
    LeftBehind { db with agentInventory := rows } request inventoryRevision stage :=
  { left with }

/-- Under the operation's key only the placement that was made is found again. -/
theorem found {nodeId : String} {gpuIds : List String} {revision : UInt64}
    (done : reserveAndStage db { request with nodeId, selectedGpuIds := gpuIds } revision
      requireManifest = .ok (next, result)) :
    next = db ∧ nodeId = request.nodeId ∧ gpuIds = request.selectedGpuIds ∧
      revision = inventoryRevision ∧ result.stage = { stage with created := false } := by
  obtain ⟨rfl, loaded, still⟩ := reserveAndStage_found done left.keeps.operation
  obtain ⟨job, _, _, attempt, onNode, lease, created⟩ := loadResult_eq_ok loaded
  have sameJob : result.stage.job = stage.job := by
    simpa using job.symm.trans left.job
  have sameAttempt : result.stage.attempt = stage.attempt := by
    simpa using attempt.symm.trans left.attempt
  obtain rfl : nodeId = request.nodeId := by
    rw [sameAttempt, left.stagedAs.nodeIds] at onNode
    exact (List.singleton_inj.mp onNode).symm
  obtain ⟨reservation, there, unmarked⟩ := still
  obtain ⟨original, first, unmarkedFirst⟩ := left.reserved
  obtain rfl : original = reservation := by
    simpa using first.symm.trans there
  rw [unmarkedFirst] at unmarked
  simp only [StageQueuedRequest.toReservation, StoredNodeReservation.mk.injEq] at unmarked
  obtain ⟨_, _, _, sameRevision, _, sameGpus, _⟩ := unmarked
  refine ⟨rfl, rfl, sameGpus.symm, sameRevision.symm, ?_⟩
  have sameLease : result.stage.lease = stage.lease := lease.trans left.lease.symm
  rcases result with ⟨_, ⟨⟩⟩
  simp_all

/-- As long as the rows are there, the same request finds them, whatever the inventory says. -/
theorem replayed (intact : db.Intact) {checked : Unit}
    (valid : validateRequest request = .ok checked)
    (canonical : validateSelectedGpuIds request.selectedGpuIds = .ok ())
    (manifested : ¬ (requireManifest ∧ db.jobManifests[request.jobId]? = none)) :
    ∃ reservation, reserveAndStage db request inventoryRevision requireManifest =
      .ok (db, ⟨reservation, { stage with created := false }⟩) := by
  obtain ⟨replays, _⟩ :=
    reserveAndStage_replayed intact left.keeps left.stagedAs valid canonical manifested
  obtain ⟨reservation, job, kept, again, _⟩ :=
    replays ⟨⟨stage.job, left.job, left.runs, left.since⟩, left.reserved⟩
  obtain ⟨_, _, _, _, same⟩ := left.found again
  refine ⟨reservation, again.trans ?_⟩
  rw [← same]

end LeftBehind

end Staged

section Retry

variable {input : PlacementToStagingInput} {next last later : CoordinatorFile}
  {eligibility : EligibilityReport} {ranking : Option BestFitRanking} {nodeId : String}
  {gpuIds : List String} {stage : StageQueuedResult}

/-- A retry or a first call that answers has written nothing, or has staged what was selected. -/
theorem orchestrate_eq_ok {outcome : PlacementToStagingOutcome}
    (done : orchestratePlacementToStaging file input = .ok (next, outcome)) :
    ∃ pool, poolSnapshot file input.evaluatedAtUnixMs = .ok pool ∧
      ((next = file ∧ ∃ report, outcome = .noEligible report) ∨
        ∃ placement control result,
          selectPlacement input (withoutOwnReservation input pool) = .ok (some placement) ∧
          reserveAndStage file.control (placementRequest input placement)
              placement.inventoryRevision input.issuance.requireStoredManifest =
            .ok (control, result) ∧
          next = { file with control } ∧
          outcome = .staged (eligibilityOf input (withoutOwnReservation input pool))
            placement.ranking placement.nodeId placement.gpuIds result.stage) := by
  simp only [orchestratePlacementToStaging, Except.bind_eq_ok, Except.mapError_eq_ok] at done
  obtain ⟨pool, taken, selected, selects, done⟩ := done
  refine ⟨pool, taken, ?_⟩
  cases selected with
  | none =>
      obtain ⟨rfl, rfl⟩ := Prod.mk.inj (Except.ok.inj done)
      exact Or.inl ⟨rfl, _, rfl⟩
  | some placement =>
      simp only [Except.bind_eq_ok, Except.mapError_eq_ok, Except.ok.injEq, Prod.mk.injEq] at done
      obtain ⟨⟨control, result⟩, reserves, rfl, rfl⟩ := done
      exact Or.inr ⟨placement, control, result, selects, reserves, rfl, rfl⟩

theorem orchestrate_of_selected {pool : PoolSnapshot} {placement : Placement}
    {control : ControlDb} {result : ReservedStageResult}
    (taken : poolSnapshot file input.evaluatedAtUnixMs = .ok pool)
    (selects : selectPlacement input (withoutOwnReservation input pool) = .ok (some placement))
    (reserves : reserveAndStage file.control (placementRequest input placement)
      placement.inventoryRevision input.issuance.requireStoredManifest = .ok (control, result)) :
    orchestratePlacementToStaging file input =
      .ok ({ file with control },
        .staged (eligibilityOf input (withoutOwnReservation input pool)) placement.ranking
          placement.nodeId placement.gpuIds result.stage) := by
  simp only [orchestratePlacementToStaging, taken, selects, reserves, Except.mapError, bind,
    Except.bind]

/-- The rows of a placement, and what made its request a valid one. -/
structure Placed (control : ControlDb) (input : PlacementToStagingInput) (placement : Placement)
    (stage : StageQueuedResult) : Prop where
  intact : control.Intact
  left : LeftBehind control (placementRequest input placement) placement.inventoryRevision stage
  valid : ∃ checked, validateRequest (placementRequest input placement) = .ok checked
  canonical : validateSelectedGpuIds placement.gpuIds = .ok ()
  manifested : ¬ (input.issuance.requireStoredManifest ∧ control.jobManifests[input.jobId]? = none)

theorem Placed.frame {placement : Placement} (placed : Placed next.control input placement stage)
    (same : SameButInventory next later) : Placed later.control input placement stage := by
  obtain ⟨rows, same⟩ := same
  rw [same]
  exact { placed with
          intact := ⟨placed.intact.readable, placed.intact.sound⟩
          left := placed.left.frame rows }

theorem placed_of_orchestrate (reached : FileReached codec file)
    (done : orchestratePlacementToStaging file input =
      .ok (next, .staged eligibility ranking nodeId gpuIds stage)) :
    ∃ placement, placement.nodeId = nodeId ∧ placement.gpuIds = gpuIds ∧
      Placed next.control input placement stage := by
  obtain ⟨operations, same⟩ := reached.run
  obtain ⟨_, _, ⟨_, _, refused⟩ | ⟨placement, control, result, _, reserves, rfl, staged⟩⟩ :=
    orchestrate_eq_ok done
  · cases refused
  · obtain ⟨_, _, rfl, rfl, rfl⟩ := PlacementToStagingOutcome.staged.inj staged
    rw [same] at reserves
    have reached := run_reserved reserves
    obtain ⟨_, _, _, valid, canonical, manifested⟩ :=
      reserveAndStage_keeps (Trace.took_snoc.mpr (Or.inr ⟨rfl, rfl⟩)) reserves
    have intact := run_intact codec (operations ++
      [.reserveAndStage (placementRequest input placement) placement.inventoryRevision
        input.issuance.requireStoredManifest])
    rw [reached] at manifested intact
    exact ⟨placement, rfl, rfl, intact, reserveAndStage_left reserves, valid, canonical, manifested⟩

/-- A retry would choose the node and the GPUs that were chosen, at the inventory revision that they
are reserved at. -/
def SelectsAgain (placed later : CoordinatorFile) (input : PlacementToStagingInput)
    (nodeId : String) (gpuIds : List String) : Prop :=
  ∃ pool placement reservation, poolSnapshot later input.evaluatedAtUnixMs = .ok pool ∧
    selectPlacement input (withoutOwnReservation input pool) = .ok (some placement) ∧
    placement.nodeId = nodeId ∧ placement.gpuIds = gpuIds ∧
    placed.control.nodeReservations[nodeId]? = some reservation ∧
    placement.inventoryRevision = reservation.inventoryRevision

end Retry

section Samples

def placementInput : PlacementToStagingInput where
  jobId := "job"
  jobRequirements :=
    { submitterMemberId := some "member", workloadClass := some .training,
      sideEffectClass := some .pure, sensitivity := some .internal, minimumSecurityTier := some .s1,
      minimumIsolationClass := some .restricted, minimumKeyProtection := some .k0,
      minimumGpuCount := some 1, minimumVramBytesPerGpu := some 8, allowedGpuModels := ["model"],
      cpuCores := some 2, ramBytes := some 8, workspaceBytes := some 8 }
  hardFilterPolicy := ⟨20, none⟩
  bestFitPolicy := ⟨#v[.vram, .gpuCount, .cpu, .ram, .workspace]⟩
  evaluatedAtUnixMs := 100
  issuance :=
    { operationKey := Vector.replicate 16 3, attemptId := "attempt", leaseId := "lease",
      issuingCoordinatorId := "coordinator", coordinatorTerm := 7, issuedAtUnixMs := 100,
      renewAfterUnixMs := 120, expiresAtUnixMs := 160, maxTotalDurationSeconds := 1,
      requireStoredManifest := false }

/-- A queued job, and one node that declares one GPU. -/
def pooledFile : CoordinatorFile :=
  InventoryEvent.applyAll
    ⟨run plainCodec [submitJob "job" 1, .planAndEnqueue "job" "plan" 20], InventoryDb.empty⟩
    [.register (registryOf "node" 12), .update (inventoryOf "node" 1)]

/-- The node reports the GPUs that it sees. -/
def seesGpus (gpus : List ObservedGpu) : InventoryEvent := .attest "node" ⟨95, gpus⟩ 95

/-- The node and the GPUs of a staging, and whether it is new. -/
def placedOn : CoordinatorFile × PlacementToStagingOutcome → Option (String × List String × Bool)
  | (_, .noEligible _) => none
  | (_, .staged _ _ nodeId gpuIds stage) => some (nodeId, gpuIds, stage.created)

/-- What a retry answers after the first placement and these events. -/
def retriedAfter (events : List InventoryEvent) :
    Except PlacementToStagingError (Option (String × List String × Bool)) := do
  let (placed, _) ← orchestratePlacementToStaging pooledFile placementInput
  (orchestratePlacementToStaging (InventoryEvent.applyAll placed events) placementInput).map placedOn

theorem pooledFile_reached : FileReached plainCodec pooledFile :=
  (FileReached.called_run plainCodec _).events _

theorem pooledFile_places : ∃ next eligibility ranking stage,
    orchestratePlacementToStaging pooledFile placementInput =
      .ok (next, .staged eligibility ranking "node" ["gpu-node"] stage) := by
  have placed : (orchestratePlacementToStaging pooledFile placementInput).map placedOn =
      .ok (some ("node", ["gpu-node"], true)) := by
    decide +kernel
  rcases done : orchestratePlacementToStaging pooledFile placementInput with
    fault | ⟨next, report | ⟨eligibility, ranking, nodeId, gpuIds, stage⟩⟩
  · simp [done, Except.map] at placed
  · simp [done, Except.map, placedOn] at placed
  · simp only [done, Except.map, placedOn, Except.ok.injEq, Option.some.injEq,
      Prod.mk.injEq] at placed
    obtain ⟨rfl, rfl, _⟩ := placed
    exact ⟨next, eligibility, ranking, stage, rfl⟩

example : retriedAfter [seesGpus [⟨"GPU-0", "model", 12⟩]] =
    .ok (some ("node", ["gpu-node"], false)) := by
  decide +kernel

end Samples

end Gputeer.Coordinator
