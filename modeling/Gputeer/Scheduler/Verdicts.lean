import Gputeer.Scheduler.FitAgreement
import Gputeer.Scheduler.Orders

/-! Each candidate gets one verdict, which does not hang on the order of anything. Nobody is admitted over a
fact that is not known, nor against the will of an owner. -/

namespace Gputeer.Scheduler

section Admission

/-- The owner has forbidden nothing of this job to its own node. -/
structure OwnerAllows (candidate : CandidateSnapshot) (job : JobRequirements) : Prop where
  workload : ∃ workloadClass allowed, job.workloadClass = some workloadClass ∧
    candidate.allowedWorkloadClasses = some allowed ∧ workloadClass ∈ allowed
  parties : ∃ owner submitter, candidate.ownerMemberId = some owner ∧ owner ≠ "" ∧
    job.submitterMemberId = some submitter ∧ submitter ≠ ""
  thirdParty : candidate.ownerMemberId ≠ job.submitterMemberId →
    candidate.securityTier ≠ some .s0 ∧
    (candidate.isolationClass = some .restricted →
      candidate.thirdPartyWorkloadsOptIn = some true ∧ job.sideEffectClass = some .pure ∧
      ∃ sensitivity, job.sensitivity = some sensitivity ∧ sensitivity ≠ .sensitive)

/-- What a candidate has to be for a job to run on it. -/
structure Admitted (candidate : CandidateSnapshot) (evaluatedAtUnixMs : UInt64) (policy : Policy)
    (job : JobRequirements) : Prop where
  identified : candidate.nodeId ≠ ""
  heard : ∀ silentAfterMs, policy.silentAfterMs = some silentAfterMs →
    ∃ last, candidate.lastHeartbeatUnixMs = some last ∧
      evaluatedAtUnixMs.toNat - last.toNat ≤ silentAfterMs.toNat
  free : candidate.reservation = none
  online : candidate.nodeState = some .online
  normal : candidate.riskState = some .normal
  fresh : ∃ observed, candidate.observedAtUnixMs = some observed ∧ observed ≤ evaluatedAtUnixMs ∧
    evaluatedAtUnixMs - observed ≤ policy.maximumSnapshotAgeMs
  undisputed : candidate.gpuObservationMismatchAtUnixMs = none
  tier : Suffices candidate.securityTier job.minimumSecurityTier
  isolation : Suffices candidate.isolationClass job.minimumIsolationClass
  protection : Suffices candidate.keyProtection job.minimumKeyProtection
  gpus : ∃ requiredCount requiredVram gpus, job.minimumGpuCount = some requiredCount ∧
    job.minimumVramBytesPerGpu = some requiredVram ∧ candidate.gpus = some gpus ∧
    (∀ gpu ∈ gpus, Known job gpu) ∧
    requiredCount.toNat ≤ (gpus.filter (Usable job requiredVram)).length
  host : HostSuffices candidate job
  owner : OwnerAllows candidate job

variable {candidate : CandidateSnapshot} {evaluatedAtUnixMs : UInt64} {policy : Policy}
  {job : JobRequirements}

theorem evaluateLiveness_eq_nil :
    evaluateLiveness candidate evaluatedAtUnixMs policy = [] ↔
      ∀ silentAfterMs, policy.silentAfterMs = some silentAfterMs →
        ∃ last, candidate.lastHeartbeatUnixMs = some last ∧
          evaluatedAtUnixMs.toNat - last.toNat ≤ silentAfterMs.toNat := by
  unfold evaluateLiveness
  cases policy.silentAfterMs with
  | none => simp
  | some silentAfterMs =>
      cases candidate.lastHeartbeatUnixMs with
      | none => simp
      | some last =>
          simp only [decide_eq_true_eq, ite_eq_right_iff, reduceCtorEq, imp_false, Option.some.injEq,
            forall_eq', exists_eq_left']
          rw [UInt64.not_lt, UInt64.le_iff_toNat_le, UInt64.toNat_saturatingSub]

theorem evaluateFreshness_eq_nil :
    evaluateFreshness candidate evaluatedAtUnixMs policy = [] ↔
      ∃ observed, candidate.observedAtUnixMs = some observed ∧ observed ≤ evaluatedAtUnixMs ∧
        evaluatedAtUnixMs - observed ≤ policy.maximumSnapshotAgeMs := by
  unfold evaluateFreshness
  cases candidate.observedAtUnixMs with
  | none => simp [missing]
  | some observed => simp [not_or, UInt64.not_lt]

theorem evaluateThirdParty_eq_nil :
    evaluateThirdParty candidate job = [] ↔
      candidate.securityTier ≠ some .s0 ∧
      (candidate.isolationClass = some .restricted →
        candidate.thirdPartyWorkloadsOptIn = some true ∧ job.sideEffectClass = some .pure ∧
        ∃ sensitivity, job.sensitivity = some sensitivity ∧ sensitivity ≠ .sensitive) := by
  unfold evaluateThirdParty
  rw [List.append_eq_nil_iff]
  refine and_congr (by simp) ?_
  by_cases restricted : candidate.isolationClass = some .restricted
  · simp only [restricted, ne_eq, not_true_eq_false, if_false, true_imp_iff, List.append_eq_nil_iff,
      and_assoc]
    refine and_congr ?_ (and_congr ?_ ?_)
    · rcases candidate.thirdPartyWorkloadsOptIn with _ | _ | _ <;> simp [missing]
    · rcases job.sideEffectClass with _ | _ | _ | _ <;> simp [missing]
    · rcases job.sensitivity with _ | _ | _ | _ <;> simp [missing]
  · simp [restricted]

theorem named_eq_some {memberId : Option String} {member : String} :
    named memberId = some member ↔ memberId = some member ∧ member ≠ "" := by
  unfold named
  rw [Option.filter_eq_some_iff]
  simp

theorem evaluateOwnerPolicy_eq_nil :
    evaluateOwnerPolicy candidate job = [] ↔ OwnerAllows candidate job := by
  have parts : evaluateOwnerPolicy candidate job = [] ↔
      (∃ workloadClass allowed, job.workloadClass = some workloadClass ∧
        candidate.allowedWorkloadClasses = some allowed ∧ workloadClass ∈ allowed) ∧
      ∃ owner submitter, named candidate.ownerMemberId = some owner ∧
        named job.submitterMemberId = some submitter ∧
        (owner ≠ submitter → evaluateThirdParty candidate job = []) := by
    unfold evaluateOwnerPolicy
    simp only [List.append_eq_nil_iff, and_assoc]
    cases job.workloadClass with
    | none => simp [missing]
    | some workloadClass =>
        cases candidate.allowedWorkloadClasses with
        | none => simp [missing]
        | some allowed =>
            cases named candidate.ownerMemberId with
            | none => simp [missing]
            | some owner =>
                cases named job.submitterMemberId with
                | none => simp [missing]
                | some submitter => simp
  rw [parts]
  constructor
  · rintro ⟨workload, owner, submitter, ofOwner, ofSubmitter, allows⟩
    obtain ⟨owned, ownerNamed⟩ := named_eq_some.mp ofOwner
    obtain ⟨submitted, submitterNamed⟩ := named_eq_some.mp ofSubmitter
    refine ⟨workload, ⟨owner, submitter, owned, ownerNamed, submitted, submitterNamed⟩, ?_⟩
    intro foreign
    rw [owned, submitted] at foreign
    exact evaluateThirdParty_eq_nil.mp (allows fun same => foreign (congrArg some same))
  · rintro ⟨workload, ⟨owner, submitter, owned, ownerNamed, submitted, submitterNamed⟩, allows⟩
    refine ⟨workload, owner, submitter, named_eq_some.mpr ⟨owned, ownerNamed⟩,
      named_eq_some.mpr ⟨submitted, submitterNamed⟩, fun foreign => ?_⟩
    rw [owned, submitted] at allows
    exact evaluateThirdParty_eq_nil.mpr (allows fun same => foreign (Option.some.inj same))

theorem sortedDedup_eq_nil {items : List RejectionReason} : sortedDedup items = [] ↔ items = [] := by
  simp only [List.eq_nil_iff_forall_not_mem, mem_sortedDedup]

/-- There is no reason against a candidate exactly when it is admitted. -/
theorem candidateReasons_eq_nil {pool : PoolSnapshot} :
    candidateReasons pool job policy candidate = [] ↔
      Admitted candidate pool.evaluatedAtUnixMs policy job := by
  have identified : (if candidate.nodeId = "" then missing .nodeId else []) = [] ↔
      candidate.nodeId ≠ "" := by
    simp [missing]
  rw [candidateReasons, sortedDedup_eq_nil]
  unfold evaluateCandidate
  simp only [compareResource, List.append_eq_nil_iff, and_assoc, identified,
    evaluateLiveness_eq_nil, evaluateFreshness_eq_nil, compareMinimum_eq_nil, evaluateGpus_eq_nil,
    evaluateOwnerPolicy_eq_nil]
  constructor
  · rintro ⟨identified, heard, free, online, normal, fresh, undisputed, tier, isolation, protection,
      gpus, cpu, ram, workspace, owner⟩
    refine ⟨identified, heard, ?free, ?online, ?normal, fresh, ?undisputed, tier, isolation,
      protection, gpus, ⟨cpu, ram, workspace⟩, owner⟩
    case free =>
      cases there : candidate.reservation with
      | none => rfl
      | some reservation => simp [there] at free
    case online =>
      cases there : candidate.nodeState with
      | none => simp [there, missing] at online
      | some state => cases state <;> simp [there] at online ⊢
    case normal =>
      cases there : candidate.riskState with
      | none => simp [there, missing] at normal
      | some state => cases state <;> simp [there] at normal ⊢
    case undisputed =>
      cases there : candidate.gpuObservationMismatchAtUnixMs with
      | none => rfl
      | some mismatchAt => simp [there] at undisputed
  · rintro ⟨identified, heard, free, online, normal, fresh, undisputed, tier, isolation, protection,
      gpus, ⟨cpu, ram, workspace⟩, owner⟩
    simp only [free, online, normal, undisputed, true_and]
    exact ⟨identified, heard, fresh, tier, isolation, protection, gpus, cpu, ram, workspace, owner⟩

/-- A fact about the candidate that the job asks about is not known. Of a GPU that is not healthy no more
is asked, and of one whose model is not allowed not its memory. -/
inductive LacksFact (candidate : CandidateSnapshot) (job : JobRequirements) : Prop where
  | nodeId (unknown : candidate.nodeId = "")
  | nodeState (unknown : candidate.nodeState = none)
  | riskState (unknown : candidate.riskState = none)
  | observedAt (unknown : candidate.observedAtUnixMs = none)
  | securityTier (unknown : candidate.securityTier = none)
  | isolationClass (unknown : candidate.isolationClass = none)
  | keyProtection (unknown : candidate.keyProtection = none)
  | owner (unknown : named candidate.ownerMemberId = none)
  | gpuInventory (unknown : candidate.gpus = none)
  | gpu (gpus : List GpuSnapshot) (gpu : GpuSnapshot) (listed : candidate.gpus = some gpus)
      (member : gpu ∈ gpus) (unknown : ¬ Known job gpu)
  | cpu (unknown : candidate.availableCpuCores = none)
  | ram (unknown : candidate.availableRamBytes = none)
  | workspace (unknown : candidate.availableWorkspaceBytes = none)
  | workloadClasses (unknown : candidate.allowedWorkloadClasses = none)
  | optIn (foreign : candidate.ownerMemberId ≠ job.submitterMemberId)
      (restricted : candidate.isolationClass = some .restricted)
      (unknown : candidate.thirdPartyWorkloadsOptIn = none)

theorem Suffices.ne_none {α : Type} [Ord α] {available required : Option α}
    (enough : Suffices available required) : available ≠ none := by
  obtain ⟨_, _, there, _⟩ := enough
  simp [there]

theorem Admitted.not_lacksFact (admitted : Admitted candidate evaluatedAtUnixMs policy job) :
    ¬ LacksFact candidate job := by
  intro lacks
  cases lacks with
  | nodeId unknown => exact admitted.identified unknown
  | nodeState unknown => cases unknown.symm.trans admitted.online
  | riskState unknown => cases unknown.symm.trans admitted.normal
  | observedAt unknown =>
      obtain ⟨_, there, _⟩ := admitted.fresh
      cases unknown.symm.trans there
  | securityTier unknown => exact admitted.tier.ne_none unknown
  | isolationClass unknown => exact admitted.isolation.ne_none unknown
  | keyProtection unknown => exact admitted.protection.ne_none unknown
  | owner unknown =>
      obtain ⟨_, _, owned, ownerNamed, _⟩ := admitted.owner.parties
      cases unknown.symm.trans (named_eq_some.mpr ⟨owned, ownerNamed⟩)
  | gpuInventory unknown =>
      obtain ⟨_, _, _, _, _, there, _⟩ := admitted.gpus
      cases unknown.symm.trans there
  | gpu gpus gpu listed member unknown =>
      obtain ⟨_, _, _, _, _, there, known, _⟩ := admitted.gpus
      cases listed.symm.trans there
      exact unknown (known gpu member)
  | cpu unknown => exact admitted.host.cpu.ne_none unknown
  | ram unknown => exact admitted.host.ram.ne_none unknown
  | workspace unknown => exact admitted.host.workspace.ne_none unknown
  | workloadClasses unknown =>
      obtain ⟨_, _, _, there, _⟩ := admitted.owner.workload
      cases unknown.symm.trans there
  | optIn foreign restricted unknown =>
      cases unknown.symm.trans ((admitted.owner.thirdParty foreign).2 restricted).1

end Admission

section Order

/-- The same candidate, with its GPUs listed in another order. -/
structure SameCandidate (one other : CandidateSnapshot) : Prop where
  gpus : Option.Rel List.Perm one.gpus other.gpus
  rest : other = { one with gpus := other.gpus }

/-- The same job, with its models listed in another order. -/
structure SameJob (one other : JobRequirements) : Prop where
  models : one.allowedGpuModels.Perm other.allowedGpuModels
  rest : other = { one with allowedGpuModels := other.allowedGpuModels }

/-- The same pool, with its candidates and their GPUs listed in another order. -/
structure SamePool (one other : PoolSnapshot) : Prop where
  evaluatedAt : other.evaluatedAtUnixMs = one.evaluatedAtUnixMs
  candidates : ∃ ordered, one.candidates.Perm ordered ∧
    List.Forall₂ SameCandidate ordered other.candidates

variable {job otherJob : JobRequirements} {requiredCount : UInt32} {requiredVram : UInt64}
  {gpus others : List GpuSnapshot}

theorem step_perm {unknown unknowns : List GpuSnapshot} {toReason : GpuSnapshot → RejectionReason}
    {few fewer : Prop} [Decidable few] [Decidable fewer] {reason : RejectionReason}
    {rest rests : List RejectionReason} (sameUnknown : unknown.Perm unknowns) (sameFew : few ↔ fewer)
    (sameRest : rest.Perm rests) :
    (if unknown ≠ [] then unknown.map toReason else if few then [reason] else rest).Perm
      (if unknowns ≠ [] then unknowns.map toReason else if fewer then [reason] else rests) := by
  by_cases known : unknown = []
  · obtain rfl : unknowns = [] := sameUnknown.eq_nil_iff.mp known
    rw [if_neg (not_not_intro known), if_neg (not_not_intro rfl)]
    by_cases short : few
    · rw [if_pos short, if_pos (sameFew.mp short)]
    · rw [if_neg short, if_neg (mt sameFew.mpr short)]
      exact sameRest
  · have unknownToo : unknowns ≠ [] := mt sameUnknown.eq_nil_iff.mpr known
    rw [if_pos known, if_pos unknownToo]
    exact sameUnknown.map toReason

theorem evaluateVram_perm (same : gpus.Perm others) :
    (evaluateVram requiredCount requiredVram gpus).Perm
      (evaluateVram requiredCount requiredVram others) := by
  have matching := (same.filter (·.availableVramBytes.any (requiredVram ≤ ·))).length_eq
  simp only [evaluateVram, matching]
  exact step_perm (same.filter _) Iff.rfl .rfl

theorem evaluateModels_perm (sameModels : job.allowedGpuModels.Perm otherJob.allowedGpuModels)
    (same : gpus.Perm others) :
    (evaluateModels job requiredCount requiredVram gpus).Perm
      (evaluateModels otherJob requiredCount requiredVram others) := by
  have free : job.allowedGpuModels = [] ↔ otherJob.allowedGpuModels = [] := sameModels.eq_nil_iff
  have allowed : sortedDedup job.allowedGpuModels = sortedDedup otherJob.allowedGpuModels :=
    sortedDedup_eq_of_mem_iff fun _ => sameModels.mem_iff
  have matches' : ∀ gpu : GpuSnapshot, gpu.model.any (· ∈ job.allowedGpuModels) =
      gpu.model.any (· ∈ otherJob.allowedGpuModels) := by
    intro gpu
    simp only [sameModels.mem_iff]
  have matching := (same.filter (·.model.any (· ∈ otherJob.allowedGpuModels))).length_eq
  unfold evaluateModels
  by_cases none : job.allowedGpuModels = []
  · rw [if_pos none, if_pos (free.mp none)]
    exact evaluateVram_perm same
  · rw [if_neg none, if_neg (mt free.mpr none)]
    simp only [matches', allowed, matching]
    exact step_perm (same.filter _) Iff.rfl (evaluateVram_perm (same.filter _))

theorem evaluateHealth_perm (sameModels : job.allowedGpuModels.Perm otherJob.allowedGpuModels)
    (same : gpus.Perm others) :
    (evaluateHealth job requiredCount requiredVram gpus).Perm
      (evaluateHealth otherJob requiredCount requiredVram others) := by
  have healthy := (same.filter (·.healthy = some true)).length_eq
  simp only [evaluateHealth, healthy]
  exact step_perm (same.filter _) Iff.rfl (evaluateModels_perm sameModels (same.filter _))

theorem evaluateGpus_perm {candidate other : CandidateSnapshot}
    (same : Option.Rel List.Perm candidate.gpus other.gpus) (sameJob : SameJob job otherJob) :
    (evaluateGpus candidate job).Perm (evaluateGpus other otherJob) := by
  have sameModels := sameJob.models
  rw [sameJob.rest] at sameModels ⊢
  unfold evaluateGpus
  cases job.minimumGpuCount with
  | none => exact .rfl
  | some requiredCount =>
      cases job.minimumVramBytesPerGpu with
      | none => exact .rfl
      | some requiredVram =>
          generalize candidate.gpus = one at same ⊢
          generalize other.gpus = two at same ⊢
          cases same with
          | none => exact .rfl
          | some permuted =>
              simp only [permuted.length_eq]
              split
              · exact .rfl
              · exact evaluateHealth_perm sameModels permuted

/-- Neither the order of the GPUs nor that of the models has a part in the reasons. -/
theorem candidateReasons_eq_of_same {pool other : PoolSnapshot} {policy : Policy}
    {candidate otherCandidate : CandidateSnapshot}
    (sameTime : other.evaluatedAtUnixMs = pool.evaluatedAtUnixMs) (sameJob : SameJob job otherJob)
    (same : SameCandidate candidate otherCandidate) :
    candidateReasons other otherJob policy otherCandidate =
      candidateReasons pool job policy candidate := by
  have onGpus := evaluateGpus_perm same.gpus sameJob
  rw [same.rest, sameJob.rest] at onGpus
  rw [candidateReasons, candidateReasons, sameTime, same.rest, sameJob.rest]
  refine sortedDedup_eq_of_mem_iff fun reason => List.Perm.mem_iff ?_
  unfold evaluateCandidate
  -- all other axes read the same fields of both
  exact (((((List.Perm.refl _).append onGpus.symm).append (.refl _)).append (.refl _)).append
    (.refl _)).append (.refl _)

/-- The id of each candidate with the reasons against it, in the order of the pool. -/
def verdicts (pool : PoolSnapshot) (job : JobRequirements) (policy : Policy) :
    List (String × List RejectionReason) :=
  pool.candidates.map fun candidate => (candidate.nodeId, candidateReasons pool job policy candidate)

theorem verdicts_perm {pool other : PoolSnapshot} {policy : Policy} (samePool : SamePool pool other)
    (sameJob : SameJob job otherJob) :
    (verdicts pool job policy).Perm (verdicts other otherJob policy) := by
  obtain ⟨ordered, permuted, paired⟩ := samePool.candidates
  refine (permuted.map _).trans (List.Perm.of_eq (paired.map_eq fun one two same => ?_))
  rw [candidateReasons_eq_of_same samePool.evaluatedAt sameJob same, same.rest]

theorem eligible_eq_of_verdicts {pool : PoolSnapshot} {policy : Policy} :
    (evaluateEligibility pool job policy).eligible =
      sorted (((verdicts pool job policy).filter (·.2 = [])).map fun verdict => ⟨verdict.1⟩) := by
  rw [verdicts, List.filter_map, List.map_map]
  rfl

theorem rejected_eq_of_verdicts {pool : PoolSnapshot} {policy : Policy} :
    (evaluateEligibility pool job policy).rejected =
      sorted (((verdicts pool job policy).filter (·.2 ≠ [])).map fun verdict =>
        ⟨verdict.1, verdict.2⟩) := by
  rw [verdicts, List.filter_map, List.map_map]
  rfl

/-- Two listings of one pool have one report. -/
theorem evaluateEligibility_eq_of_same {pool other : PoolSnapshot} {policy : Policy}
    (samePool : SamePool pool other) (sameJob : SameJob job otherJob) :
    evaluateEligibility other otherJob policy = evaluateEligibility pool job policy := by
  have permuted : (verdicts other otherJob policy).Perm (verdicts pool job policy) :=
    (verdicts_perm samePool sameJob).symm
  have eligible : (evaluateEligibility other otherJob policy).eligible =
      (evaluateEligibility pool job policy).eligible := by
    rw [eligible_eq_of_verdicts, eligible_eq_of_verdicts]
    exact sorted_eq_of_perm ((permuted.filter _).map _)
  have rejected : (evaluateEligibility other otherJob policy).rejected =
      (evaluateEligibility pool job policy).rejected := by
    rw [rejected_eq_of_verdicts, rejected_eq_of_verdicts]
    exact sorted_eq_of_perm ((permuted.filter _).map _)
  rw [EligibilityReport.mk.injEq]
  exact ⟨eligible, rejected, congrArg resolve eligible⟩

end Order

/-- What a report says of each candidate that it names. -/
def EligibilityReport.verdicts (report : EligibilityReport) : List (String × List RejectionReason) :=
  report.eligible.map (fun eligible => (eligible.nodeId, [])) ++
    report.rejected.map fun rejected => (rejected.nodeId, rejected.reasons)

theorem report_verdicts_perm {pool : PoolSnapshot} {job : JobRequirements} {policy : Policy} :
    (evaluateEligibility pool job policy).verdicts.Perm (verdicts pool job policy) := by
  have eligible : ((evaluateEligibility pool job policy).eligible.map fun eligible =>
      (eligible.nodeId, ([] : List RejectionReason))).Perm
        ((verdicts pool job policy).filter (·.2 = [])) := by
    rw [eligible_eq_of_verdicts]
    refine ((List.mergeSort_perm _ _).map _).trans (List.Perm.of_eq ?_)
    rw [List.map_map]
    refine (List.map_congr_left fun verdict member => ?_).trans (List.map_id _)
    have none := of_decide_eq_true (List.mem_filter.mp member).2
    rw [Function.comp_apply, ← none, id]
  have rejected : ((evaluateEligibility pool job policy).rejected.map fun rejected =>
      (rejected.nodeId, rejected.reasons)).Perm
        ((verdicts pool job policy).filter fun verdict => ¬ verdict.2 = []) := by
    rw [rejected_eq_of_verdicts]
    refine ((List.mergeSort_perm _ _).map _).trans (List.Perm.of_eq ?_)
    rw [List.map_map]
    exact List.map_id _
  refine (eligible.append rejected).trans ?_
  simpa using List.filter_append_perm (fun verdict : String × List RejectionReason =>
    decide (verdict.2 = [])) (verdicts pool job policy)

/-- Each candidate is reported once, as eligible or with its sorted reasons; the report is that of the pool,
in whatever order it is listed. Who is eligible lacks no fact, is reserved for nobody, and runs the job of
another on a restricted node only as its owner allows. -/
theorem eligibility_is_safe (pool : PoolSnapshot) (job : JobRequirements) (policy : Policy) :
    (evaluateEligibility pool job policy).verdicts.Perm
      (pool.candidates.map fun candidate =>
        (candidate.nodeId, candidateReasons pool job policy candidate)) ∧
    (∀ rejected ∈ (evaluateEligibility pool job policy).rejected, rejected.reasons ≠ [] ∧
      rejected.reasons.Pairwise fun left right => compare left right = .lt) ∧
    (∀ (other : PoolSnapshot) (otherJob : JobRequirements), SamePool pool other → SameJob job otherJob →
      evaluateEligibility other otherJob policy = evaluateEligibility pool job policy ∧
      ∀ candidate otherCandidate, SameCandidate candidate otherCandidate →
        candidateReasons other otherJob policy otherCandidate =
          candidateReasons pool job policy candidate) ∧
    ∀ candidate, candidateReasons pool job policy candidate = [] →
      ¬ LacksFact candidate job ∧ candidate.reservation = none ∧
      (candidate.ownerMemberId ≠ job.submitterMemberId →
        candidate.isolationClass = some .restricted →
          candidate.thirdPartyWorkloadsOptIn = some true ∧ job.sideEffectClass = some .pure ∧
          ∃ sensitivity, job.sensitivity = some sensitivity ∧ sensitivity ≠ .sensitive) := by
  refine ⟨report_verdicts_perm, ?_, ?_, ?_⟩
  · intro rejected member
    rw [rejected_eq_of_verdicts, mem_sorted, List.mem_map] at member
    obtain ⟨verdict, listed, rfl⟩ := member
    obtain ⟨there, given⟩ := List.mem_filter.mp listed
    obtain ⟨candidate, _, rfl⟩ := List.mem_map.mp there
    exact ⟨of_decide_eq_true given, pairwise_sortedDedup⟩
  · intro other otherJob samePool sameJob
    exact ⟨evaluateEligibility_eq_of_same samePool sameJob, fun candidate otherCandidate same =>
      candidateReasons_eq_of_same samePool.evaluatedAt sameJob same⟩
  · intro candidate silent
    have admitted := candidateReasons_eq_nil.mp silent
    exact ⟨admitted.not_lacksFact, admitted.free, fun foreign restricted =>
      (admitted.owner.thirdParty foreign).2 restricted⟩

end Gputeer.Scheduler
