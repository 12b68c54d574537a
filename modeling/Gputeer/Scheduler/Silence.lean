import Gputeer.Scheduler.Concerns
import Gputeer.Scheduler.Liveness

/-! Two judgements of one silence: the hard filter looks at the last heartbeat of a candidate, the
liveness kernel at all heartbeats of all nodes. Both are given a threshold of the same name. -/

namespace Gputeer.Scheduler

variable {pool : PoolSnapshot} {job : JobRequirements} {policy : Policy}
  {candidate : CandidateSnapshot}

/-- The filter rejects the candidate because too little was heard of it. -/
def RejectsAsSilent (pool : PoolSnapshot) (job : JobRequirements) (policy : Policy)
    (candidate : CandidateSnapshot) (silentAfterMs : UInt64) : Prop :=
  ∃ rejected ∈ (evaluateEligibility pool job policy).rejected,
    rejected = ⟨candidate.nodeId, candidateReasons pool job policy candidate⟩ ∧
    .notLiveEnough candidate.lastHeartbeatUnixMs silentAfterMs ∈ rejected.reasons

/-- The kernel puts the node in the silent band, or has no observation of it. -/
def ReportsSilence (reports : List NodeLivenessReport) (nodeId : String) : Prop :=
  ∀ report ∈ reports, report.nodeId = nodeId →
    report.liveness = .silent ∨ report.liveness = .noObservation

theorem notLiveEnough_mem_evaluateLiveness {evaluatedAtUnixMs silentAfterMs : UInt64}
    (watched : policy.silentAfterMs = some silentAfterMs) :
    .notLiveEnough candidate.lastHeartbeatUnixMs silentAfterMs ∈
        evaluateLiveness candidate evaluatedAtUnixMs policy ↔
      ∀ last ∈ candidate.lastHeartbeatUnixMs,
        silentAfterMs < evaluatedAtUnixMs.saturatingSub last := by
  cases heard : candidate.lastHeartbeatUnixMs with
  | none => simp [evaluateLiveness, watched, heard]
  | some last => simp [evaluateLiveness, watched, heard]

theorem rejectsAsSilent_iff {silentAfterMs : UInt64} (listed : candidate ∈ pool.candidates)
    (watched : policy.silentAfterMs = some silentAfterMs) :
    RejectsAsSilent pool job policy candidate silentAfterMs ↔
      ∀ last ∈ candidate.lastHeartbeatUnixMs,
        silentAfterMs < pool.evaluatedAtUnixMs.saturatingSub last := by
  have reason : .notLiveEnough candidate.lastHeartbeatUnixMs silentAfterMs ∈
        candidateReasons pool job policy candidate ↔ _ := candidateReasons_mem_of_liveness rfl
  rw [← notLiveEnough_mem_evaluateLiveness watched, ← reason]
  constructor
  · rintro ⟨_, _, rfl, given⟩
    exact given
  · intro given
    exact ⟨_, rejected_with_reasons listed given, rfl, given⟩

section Kernel

variable {observations : List HeartbeatObservation} {knownNodes : List String}
  {livenessPolicy : LivenessPolicy} {nowUnixMs : UInt64} {reports : List NodeLivenessReport}

theorem reportsSilence_iff {nodeId : String} {lastHeartbeat : Option UInt64}
    (classified : classifyNodeLiveness observations knownNodes livenessPolicy nowUnixMs = .ok reports)
    (heard : LastHeard observations nodeId lastHeartbeat) :
    ReportsSilence reports nodeId ↔ ∀ last ∈ lastHeartbeat,
      livenessPolicy.silentAfterMs ≤ nowUnixMs.saturatingSub last := by
  obtain ⟨ordered, selected, latest, listed⟩ := classifyNodeLiveness_eq_ok classified
  obtain rfl := heard.unique (latest.lastHeard nodeId)
  have named : ∀ other found, (reportOf livenessPolicy nowUnixMs other found).nodeId = other := by
    intro other found
    cases found <;> rfl
  constructor
  · intro silent last heardAt
    obtain ⟨observation, found, rfl⟩ := Option.map_eq_some_iff.mp heardAt
    have report := silent _ ((listed _).mpr ⟨nodeId, Or.inl (by simp [found]), rfl⟩) (named _ _)
    simp only [found, reportOf, bandOf] at report
    by_contra below
    simp [UInt64.not_le.mp below] at report
    split at report <;> simp at report
  · rintro silent report member ofNode
    obtain ⟨other, _, rfl⟩ := (listed report).mp member
    obtain rfl := (named _ _).symm.trans ofNode
    cases found : selected[other]? with
    | none => exact Or.inr rfl
    | some observation =>
        have below := silent _ (by simp [found] : observation.issuedAtUnixMs ∈ _)
        left
        simp only [reportOf, bandOf]
        rw [if_neg (UInt64.not_le.mpr (UInt64.lt_of_lt_of_le ordered below)),
          if_neg (UInt64.not_lt.mpr below)]

/-- The two agree on a candidate exactly when its last heartbeat is not as old as the threshold to the
millisecond: at that age the kernel calls the node silent and the filter still takes it. -/
theorem silence_agrees_iff_not_at_threshold (listed : candidate ∈ pool.candidates)
    (watched : policy.silentAfterMs = some livenessPolicy.silentAfterMs)
    (classified : classifyNodeLiveness observations knownNodes livenessPolicy pool.evaluatedAtUnixMs =
      .ok reports)
    (heard : LastHeard observations candidate.nodeId candidate.lastHeartbeatUnixMs) :
    (RejectsAsSilent pool job policy candidate livenessPolicy.silentAfterMs ↔
      ReportsSilence reports candidate.nodeId) ↔
    ∀ last ∈ candidate.lastHeartbeatUnixMs,
      pool.evaluatedAtUnixMs.saturatingSub last ≠ livenessPolicy.silentAfterMs := by
  rw [rejectsAsSilent_iff listed watched, reportsSilence_iff classified heard]
  cases candidate.lastHeartbeatUnixMs with
  | none => simp
  | some last =>
      simp only [Option.mem_def, Option.some.injEq, forall_eq']
      constructor
      · intro agree at_threshold
        have rejected := agree.mpr (UInt64.le_of_eq at_threshold.symm)
        exact absurd at_threshold.symm (UInt64.ne_of_lt rejected)
      · intro different
        exact ⟨UInt64.le_of_lt, fun below => UInt64.lt_of_le_of_ne below (Ne.symm different)⟩

end Kernel

section Samples

/-- A node that was last heard at 100 and could take a small job of its owner. -/
def heardAt100 : CandidateSnapshot where
  nodeId := "node"
  inventoryRevision := some 1
  ownerMemberId := some "member"
  nodeState := some .online
  riskState := some .normal
  observedAtUnixMs := some 150
  securityTier := some .s2
  isolationClass := some .contained
  keyProtection := some .k1
  gpus := some [⟨"gpu", some true, some 12, some "model"⟩]
  availableCpuCores := some 4
  availableRamBytes := some 16
  availableWorkspaceBytes := some 16
  allowedWorkloadClasses := some {.training}
  thirdPartyWorkloadsOptIn := none
  reservation := none
  lastHeartbeatUnixMs := some 100
  gpuObservationMismatchAtUnixMs := none

def smallJob : JobRequirements where
  submitterMemberId := some "member"
  workloadClass := some .training
  sideEffectClass := some .pure
  sensitivity := some .internal
  minimumSecurityTier := some .s1
  minimumIsolationClass := some .restricted
  minimumKeyProtection := some .k0
  minimumGpuCount := some 1
  minimumVramBytesPerGpu := some 8
  allowedGpuModels := []
  cpuCores := some 2
  ramBytes := some 8
  workspaceBytes := some 8

def heartbeatAt100 : HeartbeatObservation := ⟨"node", "device", 100, 7, 0⟩

/-- At an age of exactly the threshold the filter takes the node and the kernel calls it silent. -/
theorem silence_disagrees_at_threshold :
    LastHeard [heartbeatAt100] "node" heardAt100.lastHeartbeatUnixMs ∧
      (evaluateEligibility ⟨190, [heardAt100]⟩ smallJob ⟨60, some 90⟩).eligible = [⟨"node"⟩] ∧
      ¬ RejectsAsSilent ⟨190, [heardAt100]⟩ smallJob ⟨60, some 90⟩ heardAt100 90 ∧
      classifyNodeLiveness [heartbeatAt100] ["node"] ⟨30, 90⟩ 190 =
        .ok [⟨"node", .silent, some heartbeatAt100, some 90⟩] ∧
      ReportsSilence [⟨"node", .silent, some heartbeatAt100, some 90⟩] "node" := by
  refine ⟨⟨⟨heartbeatAt100, List.mem_singleton.mpr rfl, rfl, rfl⟩, ?_⟩, by decide +kernel, ?_, by decide +kernel, ?_⟩
  · intro observation member _
    obtain rfl := List.mem_singleton.mp member
    exact UInt64.le_refl 100
  · rw [rejectsAsSilent_iff (List.mem_singleton.mpr rfl) rfl]
    intro silent
    exact absurd (silent 100 rfl) (by decide)
  · intro report member _
    obtain rfl := List.mem_singleton.mp member
    exact Or.inl rfl

/-- A millisecond later both call the node silent. -/
theorem silence_agrees_after_threshold :
    (RejectsAsSilent ⟨191, [heardAt100]⟩ smallJob ⟨60, some 90⟩ heardAt100 90 ↔
      ReportsSilence [⟨"node", .silent, some heartbeatAt100, some 91⟩] "node") ↔
    ∀ last ∈ some (100 : UInt64), UInt64.saturatingSub 191 last ≠ 90 := by
  have listed : heardAt100 ∈ (⟨191, [heardAt100]⟩ : PoolSnapshot).candidates :=
    List.mem_singleton.mpr rfl
  have watched : (⟨60, some 90⟩ : Policy).silentAfterMs =
      some (⟨30, 90⟩ : LivenessPolicy).silentAfterMs := rfl
  have classified : classifyNodeLiveness [heartbeatAt100] ["node"] ⟨30, 90⟩
      (⟨191, [heardAt100]⟩ : PoolSnapshot).evaluatedAtUnixMs =
      .ok [⟨"node", .silent, some heartbeatAt100, some 91⟩] := by
    decide +kernel
  have heard : LastHeard [heartbeatAt100] heardAt100.nodeId heardAt100.lastHeartbeatUnixMs := by
    refine ⟨⟨heartbeatAt100, List.mem_singleton.mpr rfl, rfl, rfl⟩, fun observation member _ => ?_⟩
    obtain rfl := List.mem_singleton.mp member
    exact UInt64.le_refl 100
  exact silence_agrees_iff_not_at_threshold listed watched classified heard

end Samples

end Gputeer.Scheduler
