import Gputeer.Lib.Lists
import Gputeer.Scheduler.Filter

/-! What each part of the hard filter is about: the silence of a node, its resources, or its standing. -/

namespace Gputeer.Scheduler

variable {reason : RejectionReason} {candidate : CandidateSnapshot} {job : JobRequirements} {policy : Policy}

section Sorting

variable {α : Type} [Ord α] {items : List α} {item : α}

@[simp] theorem mem_sorted : item ∈ sorted items ↔ item ∈ items := by
  simp [sorted]

@[simp] theorem mem_sortedDedup [BEq α] [LawfulBEq α] :
    item ∈ sortedDedup items ↔ item ∈ items := by
  rw [sortedDedup, List.mem_eraseReps, mem_sorted]

end Sorting

inductive Concern where
  | liveness | resources | standing
  deriving DecidableEq

def MissingFact.concern : MissingFact → Concern
  | .gpuInventory | .gpuHealth _ | .gpuVram _ | .gpuModel _ | .availableCpu | .availableRam
  | .availableWorkspace | .jobMinimumGpuCount | .jobMinimumVram | .jobCpu | .jobRam
  | .jobWorkspace => .resources
  | _ => .standing

def RejectionReason.concern : RejectionReason → Concern
  | .missingFact fact => fact.concern
  | .notLiveEnough .. => .liveness
  | .gpuCountInsufficient .. | .healthyGpuCountInsufficient .. | .gpuModelMismatch ..
  | .gpuVramInsufficient .. | .cpuInsufficient .. | .ramInsufficient ..
  | .workspaceInsufficient .. => .resources
  | _ => .standing

/-- All of these reasons are about one thing. -/
def AllOn (concern : Concern) (reasons : List RejectionReason) : Prop :=
  ∀ reason ∈ reasons, reason.concern = concern

namespace AllOn

variable {concern : Concern} {first second : List RejectionReason}

theorem nil : AllOn concern [] := by
  simp [AllOn]

theorem single (about : reason.concern = concern) : AllOn concern [reason] := by
  simpa [AllOn] using about

theorem append (one : AllOn concern first) (other : AllOn concern second) :
    AllOn concern (first ++ second) := by
  intro reason member
  rcases List.mem_append.mp member with member | member
  · exact one reason member
  · exact other reason member

theorem ite {c : Prop} [Decidable c] (one : AllOn concern first) (other : AllOn concern second) :
    AllOn concern (if c then first else second) := by
  split
  · exact one
  · exact other

theorem map {α : Type} {items : List α} {toReason : α → RejectionReason}
    (about : ∀ item, (toReason item).concern = concern) : AllOn concern (items.map toReason) := by
  intro reason member
  obtain ⟨item, _, rfl⟩ := List.mem_map.mp member
  exact about item

/-- Reasons about something else are no reasons about this. -/
theorem not_mem {other : Concern} (all : AllOn other first) (about : reason.concern = concern)
    (different : concern ≠ other) : reason ∉ first :=
  fun member => different (about.symm.trans (all reason member))

end AllOn

section Parts

variable {requiredCount : UInt32} {requiredVram evaluatedAtUnixMs : UInt64} {gpus : List GpuSnapshot}

theorem compareMinimum_allOn {α : Type} [Ord α] {available required : Option α}
    {missingAvailable missingRequired : MissingFact} {rejection : α → α → RejectionReason}
    {concern : Concern} (onAvailable : missingAvailable.concern = concern)
    (onRequired : missingRequired.concern = concern)
    (onRejection : ∀ available required, (rejection available required).concern = concern) :
    AllOn concern
      (compareMinimum available required missingAvailable missingRequired rejection) := by
  unfold compareMinimum
  refine .append (.append (.ite (.single onAvailable) .nil) (.ite (.single onRequired) .nil)) ?_
  cases available with
  | none => exact .nil
  | some available =>
      cases required with
      | none => exact .nil
      | some required => exact .ite (.single (onRejection available required)) .nil

theorem evaluateVram_allOn : AllOn .resources (evaluateVram requiredCount requiredVram gpus) :=
  .ite (.map fun _ => rfl) (.ite (.single rfl) .nil)

theorem evaluateModels_allOn :
    AllOn .resources (evaluateModels job requiredCount requiredVram gpus) :=
  .ite evaluateVram_allOn
    (.ite (.map fun _ => rfl) (.ite (.single rfl) evaluateVram_allOn))

theorem evaluateHealth_allOn :
    AllOn .resources (evaluateHealth job requiredCount requiredVram gpus) :=
  .ite (.map fun _ => rfl) (.ite (.single rfl) evaluateModels_allOn)

theorem evaluateGpus_allOn : AllOn .resources (evaluateGpus candidate job) := by
  unfold evaluateGpus
  split
  · split
    · exact .single rfl
    · exact .ite (.single rfl) evaluateHealth_allOn
  · exact .append (.ite (.single rfl) .nil) (.ite (.single rfl) .nil)

theorem evaluateLiveness_allOn :
    AllOn .liveness (evaluateLiveness candidate evaluatedAtUnixMs policy) := by
  unfold evaluateLiveness
  split
  · exact .nil
  · exact .ite (.single rfl) .nil

theorem evaluateFreshness_allOn :
    AllOn .standing (evaluateFreshness candidate evaluatedAtUnixMs policy) := by
  unfold evaluateFreshness
  split
  · exact .single rfl
  · exact .ite (.single rfl) .nil

theorem evaluateThirdParty_allOn : AllOn .standing (evaluateThirdParty candidate job) := by
  unfold evaluateThirdParty
  refine .append (.ite (.single rfl) .nil) (.ite .nil (.append (.append ?_ ?_) ?_))
  · split
    · exact .single rfl
    · exact .single rfl
    · exact .nil
  · split
    · exact .single rfl
    · exact .nil
    · exact .single rfl
  · split
    · exact .single rfl
    · exact .single rfl
    · exact .nil
    · exact .nil

theorem evaluateOwnerPolicy_allOn : AllOn .standing (evaluateOwnerPolicy candidate job) := by
  unfold evaluateOwnerPolicy
  refine .append (.append (.append (.append (.ite (.single rfl) .nil) ?_)
    (.ite (.single rfl) .nil)) (.ite (.single rfl) .nil)) ?_
  · split
    · exact .single rfl
    · exact .ite (.single rfl) .nil
    · exact .nil
  · split
    · exact .ite evaluateThirdParty_allOn .nil
    · exact .nil

/-- The reasons about resources, as `evaluateCandidate` gives them. -/
def resourceReasons (candidate : CandidateSnapshot) (job : JobRequirements) :
    List RejectionReason :=
  evaluateGpus candidate job ++
    compareResource candidate.availableCpuCores job.cpuCores .availableCpu .jobCpu
      .cpuInsufficient ++
    compareResource candidate.availableRamBytes job.ramBytes .availableRam .jobRam
      .ramInsufficient ++
    compareResource candidate.availableWorkspaceBytes job.workspaceBytes .availableWorkspace
      .jobWorkspace .workspaceInsufficient

theorem resourceReasons_allOn : AllOn .resources (resourceReasons candidate job) :=
  .append (.append (.append evaluateGpus_allOn
    (compareMinimum_allOn rfl rfl fun _ _ => rfl)) (compareMinimum_allOn rfl rfl fun _ _ => rfl))
    (compareMinimum_allOn rfl rfl fun _ _ => rfl)

/-- A reason that is not about the standing of the node is given by the liveness axis or by one of the
resource axes. -/
theorem evaluateCandidate_mem {reason : RejectionReason}
    (about : reason.concern ≠ .standing) :
    reason ∈ evaluateCandidate candidate evaluatedAtUnixMs policy job ↔
      reason ∈ evaluateLiveness candidate evaluatedAtUnixMs policy ∨
        reason ∈ resourceReasons candidate job := by
  have drop : ∀ {first second : List RejectionReason}, AllOn .standing second →
      (reason ∈ first ++ second ↔ reason ∈ first) := by
    intro first second all
    rw [List.mem_append, or_iff_left (all.not_mem rfl about)]
  have keep : ∀ {first second : List RejectionReason} {given : Prop}, (reason ∈ first ↔ given) →
      (reason ∈ first ++ second ↔ given ∨ reason ∈ second) := by
    intro first second given same
    rw [List.mem_append, same]
  have named : AllOn .standing (if candidate.nodeId = "" then missing .nodeId else []) :=
    .ite (.single rfl) .nil
  unfold evaluateCandidate
  refine (drop evaluateOwnerPolicy_allOn).trans ((keep (keep (keep (keep
    ((drop (compareMinimum_allOn rfl rfl fun _ _ => rfl)).trans <|
      (drop (compareMinimum_allOn rfl rfl fun _ _ => rfl)).trans <|
      (drop (compareMinimum_allOn rfl rfl fun _ _ => rfl)).trans <| (drop ?mismatch).trans <|
      (drop evaluateFreshness_allOn).trans <| (drop ?risk).trans <| (drop ?state).trans <|
      (drop ?reserved).trans <| List.mem_append.trans
        (or_iff_right (named.not_mem rfl about))))))).trans ?_)
  case mismatch =>
    split
    · exact .single rfl
    · exact .nil
  case risk =>
    split
    · exact .single rfl
    · exact .nil
    · exact .single rfl
  case state =>
    split
    · exact .single rfl
    · exact .nil
    · exact .single rfl
  case reserved =>
    split
    · exact .single rfl
    · exact .nil
  simp only [resourceReasons, List.mem_append, or_assoc]

end Parts

variable {pool : PoolSnapshot}

theorem candidateReasons_mem_of_liveness (about : reason.concern = .liveness) :
    reason ∈ candidateReasons pool job policy candidate ↔
      reason ∈ evaluateLiveness candidate pool.evaluatedAtUnixMs policy := by
  rw [candidateReasons, mem_sortedDedup, evaluateCandidate_mem (by simp [about]),
    or_iff_left (resourceReasons_allOn.not_mem about (by decide))]

theorem candidateReasons_mem_of_resources (about : reason.concern = .resources) :
    reason ∈ candidateReasons pool job policy candidate ↔ reason ∈ resourceReasons candidate job := by
  rw [candidateReasons, mem_sortedDedup, evaluateCandidate_mem (by simp [about]),
    or_iff_right (evaluateLiveness_allOn.not_mem about (by decide))]

/-- The report rejects a candidate with all its reasons, once there is one. -/
theorem rejected_with_reasons (listed : candidate ∈ pool.candidates)
    (given : reason ∈ candidateReasons pool job policy candidate) :
    (⟨candidate.nodeId, candidateReasons pool job policy candidate⟩ : RejectedCandidate) ∈
      (evaluateEligibility pool job policy).rejected := by
  simp only [evaluateEligibility, mem_sorted, List.mem_map, List.mem_filter, decide_eq_true_eq]
  exact ⟨candidate, ⟨listed, List.ne_nil_of_mem given⟩, rfl⟩

end Gputeer.Scheduler
