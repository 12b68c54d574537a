import Gputeer.Lib.Word
import Gputeer.Scheduler.Model

/-! The hard filter: every reason a candidate is not eligible, in a fixed order. -/

namespace Gputeer.Scheduler

/-- `sort` of a type with a derived order. -/
def sorted {α : Type} [Ord α] (items : List α) : List α :=
  items.mergeSort fun left right => (compare left right).isLE

/-- `sort`, then `dedup`. -/
def sortedDedup {α : Type} [Ord α] [BEq α] (items : List α) : List α := (sorted items).eraseReps

def missing (fact : MissingFact) : List RejectionReason := [.missingFact fact]

def compareMinimum {α : Type} [Ord α] (available required : Option α)
    (missingAvailable missingRequired : MissingFact) (rejection : α → α → RejectionReason) :
    List RejectionReason :=
  (if available.isNone then missing missingAvailable else []) ++
    (if required.isNone then missing missingRequired else []) ++
    match available, required with
    | some available, some required =>
        if compare available required = .lt then [rejection available required] else []
    | _, _ => []

def compareResource {α : Type} [Ord α] (available required : Option α)
    (missingAvailable missingRequired : MissingFact) (rejection : α → α → RejectionReason) :
    List RejectionReason :=
  compareMinimum available required missingAvailable missingRequired rejection

def saturatingU32 (value : Nat) : UInt32 := UInt32.ofNat (min value (2 ^ 32 - 1))

section Gpus

variable (job : JobRequirements) (requiredCount : UInt32) (requiredVram : UInt64)

/-- The last of the checks, on the GPUs that are healthy and of an allowed model. -/
def evaluateVram (modelMatched : List GpuSnapshot) : List RejectionReason :=
  let unknown := modelMatched.filter (·.availableVramBytes.isNone)
  let matching := (modelMatched.filter (·.availableVramBytes.any (requiredVram ≤ ·))).length
  if unknown ≠ [] then unknown.map fun gpu => .missingFact (.gpuVram gpu.gpuId)
  else if matching < requiredCount.toNat then
    [.gpuVramInsufficient (saturatingU32 matching) requiredCount requiredVram]
  else []

def evaluateModels (healthy : List GpuSnapshot) : List RejectionReason :=
  if job.allowedGpuModels = [] then evaluateVram requiredCount requiredVram healthy
  else
    let unknown := healthy.filter (·.model.isNone)
    let matched := healthy.filter (·.model.any (· ∈ job.allowedGpuModels))
    if unknown ≠ [] then unknown.map fun gpu => .missingFact (.gpuModel gpu.gpuId)
    else if matched.length < requiredCount.toNat then
      [.gpuModelMismatch (saturatingU32 matched.length) requiredCount
        (sortedDedup job.allowedGpuModels)]
    else evaluateVram requiredCount requiredVram matched

def evaluateHealth (gpus : List GpuSnapshot) : List RejectionReason :=
  let unknown := gpus.filter (·.healthy.isNone)
  let healthy := gpus.filter (·.healthy = some true)
  if unknown ≠ [] then unknown.map fun gpu => .missingFact (.gpuHealth gpu.gpuId)
  else if healthy.length < requiredCount.toNat then
    [.healthyGpuCountInsufficient (saturatingU32 healthy.length) requiredCount]
  else evaluateModels job requiredCount requiredVram healthy

end Gpus

def evaluateGpus (candidate : CandidateSnapshot) (job : JobRequirements) : List RejectionReason :=
  match job.minimumGpuCount, job.minimumVramBytesPerGpu with
  | some requiredCount, some requiredVram =>
      match candidate.gpus with
      | none => missing .gpuInventory
      | some gpus =>
          if gpus.length < requiredCount.toNat then
            [.gpuCountInsufficient (saturatingU32 gpus.length) requiredCount]
          else evaluateHealth job requiredCount requiredVram gpus
  | requiredCount, requiredVram =>
      (if requiredCount.isNone then missing .jobMinimumGpuCount else []) ++
        if requiredVram.isNone then missing .jobMinimumVram else []

/-- A member id that was not observed, or an empty one, names nobody. -/
def named (memberId : Option String) : Option String := memberId.filter (· ≠ "")

/-- What the owner of a node forbids to the jobs of others. -/
def evaluateThirdParty (candidate : CandidateSnapshot) (job : JobRequirements) :
    List RejectionReason :=
  (if candidate.securityTier = some .s0 then [.thirdPartyJobForbiddenOnS0] else []) ++
    if candidate.isolationClass ≠ some .restricted then []
    else
      (match candidate.thirdPartyWorkloadsOptIn with
        | none => missing .thirdPartyOptIn
        | some false => [.thirdPartyOptInRequiredOnRestrictedIsolation]
        | some true => []) ++
      (match job.sideEffectClass with
        | none => missing .jobSideEffectClass
        | some .pure => []
        | some actual => [.thirdPartyJobMustBePureOnRestrictedIsolation actual]) ++
      match job.sensitivity with
        | none => missing .jobSensitivity
        | some .sensitive => [.thirdPartySensitiveDataForbiddenOnRestrictedIsolation]
        | some .public | some .internal => []

def evaluateOwnerPolicy (candidate : CandidateSnapshot) (job : JobRequirements) :
    List RejectionReason :=
  let owner := named candidate.ownerMemberId
  let submitter := named job.submitterMemberId
  (if job.workloadClass.isNone then missing .jobWorkloadClass else []) ++
    (match candidate.allowedWorkloadClasses, job.workloadClass with
      | none, _ => missing .allowedWorkloadClasses
      | some allowed, some workloadClass =>
          if workloadClass ∉ allowed then [.workloadClassNotAllowed workloadClass] else []
      | some _, none => []) ++
    (if owner.isNone then missing .ownerMemberId else []) ++
    (if submitter.isNone then missing .jobSubmitterMemberId else []) ++
    match owner, submitter with
    | some owner, some submitter =>
        if owner ≠ submitter then evaluateThirdParty candidate job else []
    | _, _ => []

section Candidate

variable (candidate : CandidateSnapshot) (evaluatedAtUnixMs : UInt64) (policy : Policy)

/-- A node whose last heartbeat is unknown is as silent as one that was heard too long ago. -/
def evaluateLiveness : List RejectionReason :=
  match policy.silentAfterMs with
  | none => []
  | some silentAfterMs =>
      let silent := match candidate.lastHeartbeatUnixMs with
        | none => true
        | some last => silentAfterMs < evaluatedAtUnixMs.saturatingSub last
      if silent then [.notLiveEnough candidate.lastHeartbeatUnixMs silentAfterMs] else []

def evaluateFreshness : List RejectionReason :=
  match candidate.observedAtUnixMs with
  | none => missing .observedAt
  | some observed =>
      if evaluatedAtUnixMs < observed ∨
          policy.maximumSnapshotAgeMs < evaluatedAtUnixMs - observed then
        [.snapshotNotFresh observed evaluatedAtUnixMs policy.maximumSnapshotAgeMs]
      else []

def evaluateCandidate (job : JobRequirements) : List RejectionReason :=
  (if candidate.nodeId = "" then missing .nodeId else []) ++
    evaluateLiveness candidate evaluatedAtUnixMs policy ++
    (match candidate.reservation with
      | some reservation => [.alreadyReserved reservation.attemptId reservation.expiredAtUnixMs]
      | none => []) ++
    (match candidate.nodeState with
      | none => missing .nodeState
      | some .online => []
      | some actual => [.nodeNotOnline actual]) ++
    (match candidate.riskState with
      | none => missing .riskState
      | some .normal => []
      | some actual => [.riskNotNormal actual]) ++
    evaluateFreshness candidate evaluatedAtUnixMs policy ++
    (match candidate.gpuObservationMismatchAtUnixMs with
      | some mismatchAtUnixMs => [.gpuObservationMismatch mismatchAtUnixMs]
      | none => []) ++
    compareMinimum candidate.securityTier job.minimumSecurityTier .securityTier
      .jobMinimumSecurityTier .securityTierTooLow ++
    compareMinimum candidate.isolationClass job.minimumIsolationClass .isolationClass
      .jobMinimumIsolationClass .isolationClassTooLow ++
    compareMinimum candidate.keyProtection job.minimumKeyProtection .keyProtection
      .jobMinimumKeyProtection .keyProtectionTooLow ++
    evaluateGpus candidate job ++
    compareResource candidate.availableCpuCores job.cpuCores .availableCpu .jobCpu
      .cpuInsufficient ++
    compareResource candidate.availableRamBytes job.ramBytes .availableRam .jobRam
      .ramInsufficient ++
    compareResource candidate.availableWorkspaceBytes job.workspaceBytes .availableWorkspace
      .jobWorkspace .workspaceInsufficient ++
    evaluateOwnerPolicy candidate job

end Candidate

/-- The reasons as the report carries them. -/
def candidateReasons (pool : PoolSnapshot) (job : JobRequirements) (policy : Policy)
    (candidate : CandidateSnapshot) : List RejectionReason :=
  sortedDedup (evaluateCandidate candidate pool.evaluatedAtUnixMs policy job)

def resolve : List EligibleCandidate → EligibilityResolution
  | [] => .noEligibleCandidates
  | [only] => .singleEligible only.nodeId
  | _ => .rankingRequired

def evaluateEligibility (pool : PoolSnapshot) (job : JobRequirements) (policy : Policy) :
    EligibilityReport :=
  let reasons := candidateReasons pool job policy
  let eligible := sorted ((pool.candidates.filter (reasons · = [])).map fun candidate =>
    ⟨candidate.nodeId⟩)
  let rejected := sorted ((pool.candidates.filter (reasons · ≠ [])).map fun candidate =>
    ⟨candidate.nodeId, reasons candidate⟩)
  { eligible, rejected, resolution := resolve eligible }

end Gputeer.Scheduler
