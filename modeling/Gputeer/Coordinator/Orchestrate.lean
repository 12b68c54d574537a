import Gputeer.Coordinator.InventoryStore
import Gputeer.Coordinator.StagingStore
import Gputeer.Scheduler.Rank

/-! From the pool to a staged job: one snapshot of the inventory, no, one or many candidates, and the
reservation of the node that was selected. -/

namespace Gputeer.Coordinator

open Protocol Scheduler

/-- The identities, the clock and the lease of a staging, which the caller decides. -/
structure StagingIssuanceInput where
  operationKey : OperationKey
  attemptId : String
  leaseId : String
  issuingCoordinatorId : String
  coordinatorTerm : UInt64
  issuedAtUnixMs : UInt64
  renewAfterUnixMs : UInt64
  expiresAtUnixMs : UInt64
  maxTotalDurationSeconds : UInt64
  requireStoredManifest : Bool
  deriving DecidableEq

structure PlacementToStagingInput where
  jobId : String
  jobRequirements : JobRequirements
  hardFilterPolicy : Policy
  bestFitPolicy : BestFitPolicy
  evaluatedAtUnixMs : UInt64
  issuance : StagingIssuanceInput
  deriving DecidableEq

inductive PlacementToStagingOutcome where
  | noEligible (eligibility : EligibilityReport)
  | staged (eligibility : EligibilityReport) (ranking : Option BestFitRanking)
      (selectedNodeId : String) (selectedGpuIds : List String) (stage : StageQueuedResult)

inductive PlacementToStagingError where
  | inventory (fault : InventoryStoreError)
  | ranking (fault : RankingError)
  | selectedCandidateNotUnique (nodeId : String) (matchCount : Nat)
  | selectedCandidateMissingInventoryRevision (nodeId : String)
  | selectedGpuCountMismatch (nodeId : String) (required : UInt32) (actual : Nat)
  | staging (fault : ReservedStageError)
  deriving DecidableEq

/-- What the pool is asked to hold for a job. -/
structure Placement where
  ranking : Option BestFitRanking
  nodeId : String
  gpuIds : List String
  inventoryRevision : UInt64
  deriving DecidableEq

section Selection

variable (input : PlacementToStagingInput)

/-- The reservation of this very attempt is not the reservation of another. -/
def withoutOwnReservation (pool : PoolSnapshot) : PoolSnapshot :=
  { pool with
    candidates := pool.candidates.map fun candidate =>
      if candidate.reservation.any (·.attemptId = input.issuance.attemptId) then
        { candidate with reservation := none }
      else candidate }

def eligibilityOf (pool : PoolSnapshot) : EligibilityReport :=
  evaluateEligibility pool input.jobRequirements input.hardFilterPolicy

/-- The GPUs of the winner of a ranking, or those that fit best where there was no ranking. -/
def selectGpus (candidate : CandidateSnapshot) :
    Option BestFitRanking → Except PlacementToStagingError (List String)
  | some ranking => .ok ranking.winner.selectedGpuIds
  | none => do
      let fit ← (resourceFit candidate input.jobRequirements).mapError .ranking
      .ok fit.selectedGpuIds

def selectOnNode (pool : PoolSnapshot) (nodeId : String) (ranking : Option BestFitRanking) :
    Except PlacementToStagingError Placement :=
  match pool.candidates.filter (·.nodeId = nodeId) with
  | [candidate] => do
      let gpuIds ← selectGpus input candidate ranking
      let required ← Except.ofOption (.ranking (.missingRankFact none .jobMinimumGpuCount))
        input.jobRequirements.minimumGpuCount
      Except.ensure (gpuIds.length = required.toNat)
        (.selectedGpuCountMismatch nodeId required gpuIds.length)
      let inventoryRevision ← Except.ofOption (.selectedCandidateMissingInventoryRevision nodeId)
        candidate.inventoryRevision
      .ok { ranking, nodeId, gpuIds, inventoryRevision }
  | candidates => .error (.selectedCandidateNotUnique nodeId candidates.length)

/-- No placement is no error: the job stays queued. -/
def selectPlacement (pool : PoolSnapshot) : Except PlacementToStagingError (Option Placement) :=
  match (eligibilityOf input pool).resolution with
  | .noEligibleCandidates => .ok none
  | .singleEligible nodeId => do
      let placement ← selectOnNode input pool nodeId none
      .ok (some placement)
  | .rankingRequired => do
      let ranking ← (rankBestFit pool input.jobRequirements (eligibilityOf input pool)
        input.bestFitPolicy).mapError .ranking
      let placement ← selectOnNode input pool ranking.winner.nodeId (some ranking)
      .ok (some placement)

def placementRequest (placement : Placement) : StageQueuedRequest where
  operationKey := input.issuance.operationKey
  jobId := input.jobId
  attemptId := input.issuance.attemptId
  leaseId := input.issuance.leaseId
  nodeId := placement.nodeId
  selectedGpuIds := placement.gpuIds
  issuingCoordinatorId := input.issuance.issuingCoordinatorId
  coordinatorTerm := input.issuance.coordinatorTerm
  issuedAtUnixMs := input.issuance.issuedAtUnixMs
  renewAfterUnixMs := input.issuance.renewAfterUnixMs
  expiresAtUnixMs := input.issuance.expiresAtUnixMs
  maxTotalDurationSeconds := input.issuance.maxTotalDurationSeconds

end Selection

def orchestratePlacementToStaging (file : CoordinatorFile) (input : PlacementToStagingInput) :
    Except PlacementToStagingError (CoordinatorFile × PlacementToStagingOutcome) := do
  let snapshot ← (poolSnapshot file input.evaluatedAtUnixMs).mapError .inventory
  let pool := withoutOwnReservation input snapshot
  let eligibility := eligibilityOf input pool
  match ← selectPlacement input pool with
  | none => .ok (file, .noEligible eligibility)
  | some placement =>
      let (control, result) ← (reserveAndStage file.control (placementRequest input placement)
        placement.inventoryRevision input.issuance.requireStoredManifest).mapError .staging
      .ok ({ file with control },
        .staged eligibility placement.ranking placement.nodeId placement.gpuIds result.stage)

end Gputeer.Coordinator
