import Gputeer.Lib.Except
import Gputeer.Lib.Text
import Gputeer.Lib.Word
import Gputeer.Scheduler.Filter

/-! Best fit: among the eligible nodes, the one that leaves least unused. -/

namespace Gputeer.Scheduler

open Text

def validatePolicy (policy : BestFitPolicy) : Except RankingError Unit :=
  Except.ensure policy.axisOrder.toList.Nodup .invalidPolicyAxisOrder

/-- The ids of a list one after the other: not empty, and none for the second time. -/
def checkNodeIds (duplicate : String → RankingError) (seen : List String) :
    List String → Except RankingError Unit
  | [] => .ok ()
  | nodeId :: rest => do
      Except.ensure (nodeId ≠ "") .emptyNodeId
      Except.ensure (nodeId ∉ seen) (duplicate nodeId)
      checkNodeIds duplicate (nodeId :: seen) rest

def validateCandidateSets (pool : PoolSnapshot) (report : EligibilityReport) :
    Except RankingError Unit := do
  let poolIds := pool.candidates.map (·.nodeId)
  let reportIds := report.eligible.map (·.nodeId) ++ report.rejected.map (·.nodeId)
  checkNodeIds .duplicatePoolNodeId [] poolIds
  checkNodeIds .duplicateReportNodeId [] reportIds
  match (sorted reportIds).find? (· ∉ poolIds) with
  | some nodeId => .error (.reportCandidateMissingFromPool nodeId)
  | none =>
      match (sorted poolIds).find? (· ∉ reportIds) with
      | some nodeId => .error (.poolCandidateMissingFromReport nodeId)
      | none => .ok ()

structure RankRequirements where
  gpuCount : UInt32
  vramPerGpu : UInt64
  cpuCores : UInt32
  ramBytes : UInt64
  workspaceBytes : UInt64

def missingJob (fact : MissingFact) : RankingError := .missingRankFact none fact

def missingCandidate (nodeId : String) (fact : MissingFact) : RankingError :=
  .missingRankFact (some nodeId) fact

def RankRequirements.fromJob (job : JobRequirements) : Except RankingError RankRequirements := do
  let gpuCount ← Except.ofOption (missingJob .jobMinimumGpuCount) job.minimumGpuCount
  let vramPerGpu ← Except.ofOption (missingJob .jobMinimumVram) job.minimumVramBytesPerGpu
  let cpuCores ← Except.ofOption (missingJob .jobCpu) job.cpuCores
  let ramBytes ← Except.ofOption (missingJob .jobRam) job.ramBytes
  let workspaceBytes ← Except.ofOption (missingJob .jobWorkspace) job.workspaceBytes
  .ok { gpuCount, vramPerGpu, cpuCores, ramBytes, workspaceBytes }

section Fit

variable (nodeId : String)

def checkGpuIds (seen : List String) : List GpuSnapshot → Except RankingError Unit
  | [] => .ok ()
  | gpu :: rest => do
      Except.ensure (isBlank gpu.gpuId = false) (.emptyGpuId nodeId)
      Except.ensure (gpu.gpuId ∉ seen) (.duplicateGpuId nodeId gpu.gpuId)
      checkGpuIds (gpu.gpuId :: seen) rest

/-- The model of a healthy GPU, where the job asks for one. -/
def modelAllowed (job : JobRequirements) (gpu : GpuSnapshot) : Except RankingError Bool :=
  if job.allowedGpuModels = [] then .ok true
  else do
    let model ← Except.ofOption (missingCandidate nodeId (.gpuModel gpu.gpuId)) gpu.model
    .ok (model ∈ job.allowedGpuModels)

/-- The GPUs that a job could use, with their memory, in the order of the inventory. -/
def matchingGpus (job : JobRequirements) (vramPerGpu : UInt64) :
    List GpuSnapshot → Except RankingError (List (UInt64 × String))
  | [] => .ok []
  | gpu :: rest => do
      let healthy ← Except.ofOption (missingCandidate nodeId (.gpuHealth gpu.gpuId)) gpu.healthy
      if healthy = false then matchingGpus job vramPerGpu rest
      else if ← modelAllowed nodeId job gpu then
        let available ← Except.ofOption (missingCandidate nodeId (.gpuVram gpu.gpuId))
          gpu.availableVramBytes
        let others ← matchingGpus job vramPerGpu rest
        .ok (if vramPerGpu ≤ available then (available, gpu.gpuId) :: others else others)
      else matchingGpus job vramPerGpu rest

/-- The order in which GPUs are taken: least memory first, then by id. -/
def gpuLe (left right : UInt64 × String) : Bool :=
  left.1 < right.1 ∨ left.1 = right.1 ∧ left.2 ≤ right.2

def sumLeftOver (vramPerGpu : UInt64) : List (UInt64 × String) → UInt64 → Option UInt64
  | [], total => some total
  | (available, _) :: rest, total => do
      sumLeftOver vramPerGpu rest (← total.checkedAdd (available - vramPerGpu))

def remaining {α : Type} [Ord α] [Sub α] (available : Option α) (required : α) (fact : MissingFact)
    (axis : FitAxis) : Except RankingError α := do
  let available ← Except.ofOption (missingCandidate nodeId fact) available
  Except.ensure (compare available required ≠ .lt) (.eligibleCandidateMismatch nodeId axis)
  .ok (available - required)

end Fit

/-- A count of GPUs that is left over has to fit the word of the fit key. -/
def countLeftOver (nodeId : String) (count : Nat) : Except RankingError UInt32 :=
  if count < 2 ^ 32 then .ok (UInt32.ofNat count) else .error (.fitOverflow nodeId .gpuCount)

def resourceFit (candidate : CandidateSnapshot) (job : JobRequirements) :
    Except RankingError ResourceFit := do
  let required ← RankRequirements.fromJob job
  let nodeId := candidate.nodeId
  let gpus ← Except.ofOption (missingCandidate nodeId .gpuInventory) candidate.gpus
  checkGpuIds nodeId [] gpus
  let found ← matchingGpus nodeId job required.vramPerGpu gpus
  let matching := found.mergeSort gpuLe
  let requiredGpuCount := required.gpuCount.toNat
  Except.ensure (requiredGpuCount ≤ matching.length) (.eligibleCandidateMismatch nodeId .gpuCount)
  let selected := matching.take requiredGpuCount
  let vramRemainingBytes ← Except.ofOption (.fitOverflow nodeId .vram)
    (sumLeftOver required.vramPerGpu selected 0)
  let gpuCountRemaining ← countLeftOver nodeId (matching.length - requiredGpuCount)
  let selectedGpuIds := sorted (selected.map Prod.snd)
  Except.ensure (selectedGpuIds.length = requiredGpuCount)
    (.selectedGpuCountMismatch nodeId required.gpuCount selectedGpuIds.length)
  let cpuCoresRemaining ←
    remaining nodeId candidate.availableCpuCores required.cpuCores .availableCpu .cpu
  let ramRemainingBytes ←
    remaining nodeId candidate.availableRamBytes required.ramBytes .availableRam .ram
  let workspaceRemainingBytes ← remaining nodeId candidate.availableWorkspaceBytes
    required.workspaceBytes .availableWorkspace .workspace
  .ok { fitKey :=
          { vramRemainingBytes, gpuCountRemaining, cpuCoresRemaining, ramRemainingBytes,
            workspaceRemainingBytes }
        selectedGpuIds }

def compareAxis (left right : FitKey) : FitAxis → Ordering
  | .vram => compare left.vramRemainingBytes right.vramRemainingBytes
  | .gpuCount => compare left.gpuCountRemaining right.gpuCountRemaining
  | .cpu => compare left.cpuCoresRemaining right.cpuCoresRemaining
  | .ram => compare left.ramRemainingBytes right.ramRemainingBytes
  | .workspace => compare left.workspaceRemainingBytes right.workspaceRemainingBytes

/-- The axes in the order of the policy; the id of the node decides what they leave open. -/
def compareRanked (policy : BestFitPolicy) (left right : RankedCandidate) : Ordering :=
  ((policy.axisOrder.toList.map (compareAxis left.fitKey right.fitKey)).foldl Ordering.then .eq).then
    (compare left.nodeId right.nodeId)

def rankCandidate (pool : PoolSnapshot) (job : JobRequirements) (eligible : EligibleCandidate) :
    Except RankingError RankedCandidate := do
  let candidate ← Except.ofOption (.reportCandidateMissingFromPool eligible.nodeId)
    (pool.candidates.find? (·.nodeId = eligible.nodeId))
  let fit ← resourceFit candidate job
  .ok { nodeId := eligible.nodeId, fitKey := fit.fitKey, selectedGpuIds := fit.selectedGpuIds }

def rankBestFit (pool : PoolSnapshot) (job : JobRequirements) (report : EligibilityReport)
    (policy : BestFitPolicy) : Except RankingError BestFitRanking := do
  validatePolicy policy
  Except.ensure (report.resolution = .rankingRequired) .resolutionNotRankingRequired
  Except.ensure (¬ report.eligible.length < 2)
    (.eligibleCandidateCountNotMultiple report.eligible.length)
  validateCandidateSets pool report
  let fits ← report.eligible.mapM (rankCandidate pool job)
  match fits.mergeSort fun left right => (compareRanked policy left right).isLE with
  | [] => .error (.eligibleCandidateCountNotMultiple 0)
  | winner :: others => .ok { winner, ranked := winner :: others }

end Gputeer.Scheduler
