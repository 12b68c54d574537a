import Gputeer.Scheduler.Concerns
import Gputeer.Scheduler.Rank

/-! The GPUs that a job can use: the hard filter counts them step by step, best fit collects them in
one pass. Both need the same facts about the same GPUs. -/

namespace Gputeer.Scheduler

section Facts

variable (job : JobRequirements) (vramPerGpu : UInt64) (gpu : GpuSnapshot)

def AllowsModel : Bool := job.allowedGpuModels = [] ∨ gpu.model.any (· ∈ job.allowedGpuModels)

/-- A healthy GPU of an allowed model with enough memory. -/
def Usable : Bool :=
  gpu.healthy = some true ∧ AllowsModel job gpu ∧ gpu.availableVramBytes.any (vramPerGpu ≤ ·)

/-- All that decides whether the GPU is usable is known. -/
def Known : Prop :=
  gpu.healthy ≠ none ∧ (gpu.healthy = some true →
    (job.allowedGpuModels ≠ [] → gpu.model ≠ none) ∧
    (AllowsModel job gpu → gpu.availableVramBytes ≠ none))

def memoryOf : UInt64 × String := (gpu.availableVramBytes.getD 0, gpu.gpuId)

end Facts

section Filter

variable {job : JobRequirements} {requiredCount : UInt32} {requiredVram : UInt64}
  {gpus : List GpuSnapshot}

/-- A step of the filter gives no reason when nothing is unknown, enough is left, and the steps after it
give none. -/
theorem step_eq_nil {unknown : List GpuSnapshot} {toReason : GpuSnapshot → RejectionReason}
    {few : Prop} [Decidable few] {reason : RejectionReason} {rest : List RejectionReason} :
    (if unknown ≠ [] then unknown.map toReason else if few then [reason] else rest) = [] ↔
      unknown = [] ∧ ¬ few ∧ rest = [] := by
  by_cases known : unknown = []
  · by_cases short : few <;> simp [known, short]
  · simp [known]

theorem filter_isNone_eq_nil {α : Type} {fact : GpuSnapshot → Option α} :
    gpus.filter (fun gpu => (fact gpu).isNone) = [] ↔ ∀ gpu ∈ gpus, fact gpu ≠ none := by
  simp [List.filter_eq_nil_iff]

theorem evaluateVram_eq_nil :
    evaluateVram requiredCount requiredVram gpus = [] ↔
      (∀ gpu ∈ gpus, gpu.availableVramBytes ≠ none) ∧
      requiredCount.toNat ≤
        (gpus.filter (·.availableVramBytes.any (requiredVram ≤ ·))).length := by
  rw [evaluateVram, step_eq_nil, filter_isNone_eq_nil, not_lt, and_iff_left rfl]

theorem evaluateVram_enough (nil : evaluateVram requiredCount requiredVram gpus = []) :
    requiredCount.toNat ≤ gpus.length :=
  (evaluateVram_eq_nil.mp nil).2.trans (List.length_filter_le _ _)

theorem evaluateModels_eq_nil :
    evaluateModels job requiredCount requiredVram gpus = [] ↔
      (∀ gpu ∈ gpus, job.allowedGpuModels ≠ [] → gpu.model ≠ none) ∧
      evaluateVram requiredCount requiredVram (gpus.filter (AllowsModel job)) = [] := by
  unfold evaluateModels
  split
  · next free =>
    have all : gpus.filter (AllowsModel job) = gpus :=
      List.filter_eq_self.mpr fun gpu _ => by simp [AllowsModel, free]
    simp [free, all]
  · next limited =>
    have matched : gpus.filter (AllowsModel job) =
        gpus.filter (·.model.any (· ∈ job.allowedGpuModels)) :=
      List.filter_congr fun gpu _ => by simp [AllowsModel, limited]
    rw [step_eq_nil, filter_isNone_eq_nil, matched]
    simp only [limited, ne_eq, not_false_eq_true, true_imp_iff, not_lt]
    exact and_congr_right fun _ => and_iff_right_of_imp evaluateVram_enough

theorem evaluateModels_enough (nil : evaluateModels job requiredCount requiredVram gpus = []) :
    requiredCount.toNat ≤ gpus.length :=
  (evaluateVram_enough (evaluateModels_eq_nil.mp nil).2).trans (List.length_filter_le _ _)

/-- The steps of the filter pass when all is known and enough GPUs are usable. -/
theorem evaluateHealth_eq_nil :
    evaluateHealth job requiredCount requiredVram gpus = [] ↔
      (∀ gpu ∈ gpus, Known job gpu) ∧
      requiredCount.toNat ≤ (gpus.filter (Usable job requiredVram)).length := by
  have usable : ((gpus.filter (·.healthy = some true)).filter (AllowsModel job)).filter
      (·.availableVramBytes.any (requiredVram ≤ ·)) = gpus.filter (Usable job requiredVram) := by
    simp only [List.filter_filter]
    congr 1
    funext gpu
    simp only [Usable]
    grind
  rw [evaluateHealth, step_eq_nil, filter_isNone_eq_nil, not_lt,
    and_iff_right_of_imp evaluateModels_enough, evaluateModels_eq_nil, evaluateVram_eq_nil, usable,
    ← and_assoc, ← and_assoc]
  refine and_congr_left fun _ => ?_
  simp only [List.mem_filter, decide_eq_true_eq, and_imp, ← forall_and]
  refine forall_congr' fun gpu => ?_
  simp only [Known]
  tauto

theorem evaluateGpus_eq_nil {candidate : CandidateSnapshot} :
    evaluateGpus candidate job = [] ↔ ∃ requiredCount requiredVram gpus,
      job.minimumGpuCount = some requiredCount ∧ job.minimumVramBytesPerGpu = some requiredVram ∧
      candidate.gpus = some gpus ∧ (∀ gpu ∈ gpus, Known job gpu) ∧
      requiredCount.toNat ≤ (gpus.filter (Usable job requiredVram)).length := by
  unfold evaluateGpus
  cases job.minimumGpuCount with
  | none => simp [missing]
  | some requiredCount =>
      cases job.minimumVramBytesPerGpu with
      | none => simp [missing]
      | some requiredVram =>
          cases candidate.gpus with
          | none => simp [missing]
          | some gpus =>
              simp only [Option.some.injEq, exists_and_left, exists_eq_left']
              rw [← evaluateHealth_eq_nil]
              split
              · next few =>
                simp only [reduceCtorEq, false_iff, evaluateHealth_eq_nil, not_and]
                intro _ enough
                have fewer := List.length_filter_le (Usable job requiredVram) gpus
                omega
              · exact Iff.rfl

theorem compareMinimum_eq_nil {α : Type} [Ord α] {available required : Option α}
    {missingAvailable missingRequired : MissingFact} {rejection : α → α → RejectionReason} :
    compareMinimum available required missingAvailable missingRequired rejection = [] ↔
      ∃ has wants, available = some has ∧ required = some wants ∧ compare has wants ≠ .lt := by
  unfold compareMinimum
  cases available with
  | none => simp [missing]
  | some has =>
      cases required with
      | none => simp [missing]
      | some wants => simp

end Filter

section Fit

variable {job : JobRequirements} {vramPerGpu : UInt64} {gpus : List GpuSnapshot} {nodeId : String}

theorem modelAllowed_eq_ok {gpu : GpuSnapshot} {allows : Bool} :
    modelAllowed nodeId job gpu = .ok allows ↔
      (job.allowedGpuModels ≠ [] → gpu.model ≠ none) ∧ AllowsModel job gpu = allows := by
  unfold modelAllowed AllowsModel
  split
  · next free => simp [free, eq_comm]
  · next limited =>
    cases gpu.model with
    | none => simp [Except.bind_eq_ok, limited]
    | some model => simp [Except.bind_eq_ok, limited]

/-- Best fit reads the same facts, and collects the usable GPUs in the order of the inventory. -/
theorem matchingGpus_eq_ok {found : List (UInt64 × String)} :
    matchingGpus nodeId job vramPerGpu gpus = .ok found ↔
      (∀ gpu ∈ gpus, Known job gpu) ∧
      found = (gpus.filter (Usable job vramPerGpu)).map memoryOf := by
  induction gpus generalizing found with
  | nil => simp [matchingGpus, eq_comm]
  | cons gpu rest ih =>
      cases health : gpu.healthy with
      | none => simp [matchingGpus, Except.bind_eq_ok, health, Known]
      | some healthy =>
          cases healthy with
          | false =>
              have unusable : Usable job vramPerGpu gpu = false := by simp [Usable, health]
              have known : Known job gpu := by simp [Known, health]
              simp [matchingGpus, Except.bind_eq_ok, health, ih, unusable, known]
          | true =>
              simp only [matchingGpus, Except.bind_eq_ok, Except.ofOption_eq_ok, health,
                Option.some.injEq, exists_eq_left', Bool.true_eq_false, if_false,
                modelAllowed_eq_ok]
              cases allows : AllowsModel job gpu with
              | false =>
                  have unusable : Usable job vramPerGpu gpu = false := by simp [Usable, allows]
                  simp [Known, health, allows, unusable, ih, and_assoc]
              | true =>
                  cases memory : gpu.availableVramBytes with
                  | none => simp [Known, Except.bind_eq_ok, health, allows, memory]
                  | some available =>
                      have usable : Usable job vramPerGpu gpu = decide (vramPerGpu ≤ available) := by
                        simp [Usable, health, allows, memory]
                      have known : Known job gpu ↔
                          (job.allowedGpuModels ≠ [] → gpu.model ≠ none) := by
                        simp [Known, health, allows, memory]
                      simp only [exists_and_left, exists_eq_left', if_true, Except.bind_eq_ok,
                        Except.ofOption_eq_ok, Option.some.injEq, Except.ok.injEq, ih,
                        List.forall_mem_cons, known, and_assoc, List.filter_cons, usable,
                        decide_eq_true_eq]
                      refine and_congr_right fun _ => ?_
                      by_cases enough : vramPerGpu ≤ available
                      · simp [enough, memoryOf, memory, eq_comm]
                      · simp [enough, eq_comm]

end Fit

end Gputeer.Scheduler
