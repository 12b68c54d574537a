import Gputeer.Scheduler.Usable

/-! The hard filter and best fit judge the same resources: what the one has no reason against the other
can fit, unless a sum of what is left over does not fit its word. -/

namespace Gputeer.Scheduler

open Text

def RankingError.IsOverflow : RankingError → Prop
  | .fitOverflow _ _ => True
  | _ => False

variable {candidate : CandidateSnapshot} {job : JobRequirements}

section Fit

variable {fit : ResourceFit} {gpus : List GpuSnapshot} {nodeId : String} {fault : RankingError}

/-- The ids of the GPUs tell them apart. -/
def GpuIdsValid (gpus : List GpuSnapshot) : Prop :=
  (gpus.map (·.gpuId)).Nodup ∧ ∀ gpu ∈ gpus, isBlank gpu.gpuId = false

theorem checkGpuIds_eq_ok {seen : List String} (valid : GpuIdsValid gpus)
    (unseen : ∀ gpu ∈ gpus, gpu.gpuId ∉ seen) : checkGpuIds nodeId seen gpus = .ok () := by
  induction gpus generalizing seen with
  | nil => rfl
  | cons gpu rest ih =>
      obtain ⟨distinct, filled⟩ := valid
      rw [List.map_cons, List.nodup_cons] at distinct
      rw [List.forall_mem_cons] at filled unseen
      have others : ∀ other ∈ rest, other.gpuId ∉ gpu.gpuId :: seen := by
        intro other member repeated
        rcases List.mem_cons.mp repeated with same | before
        · exact distinct.1 (same ▸ List.mem_map_of_mem member)
        · exact unseen.2 other member before
      simp only [checkGpuIds, Except.bind_eq_ok, Except.ensure_eq_ok]
      exact ⟨(), filled.1, (), unseen.1, ih ⟨distinct.2, filled.2⟩ others⟩

theorem checkGpuIds_error {seen : List String} (failed : checkGpuIds nodeId seen gpus = .error fault) :
    ¬ fault.IsOverflow := by
  induction gpus generalizing seen with
  | nil => simp [checkGpuIds] at failed
  | cons gpu rest ih =>
      simp only [checkGpuIds, Except.bind_eq_error, Except.ensure_eq_error] at failed
      rcases failed with ⟨_, rfl⟩ | ⟨_, _, ⟨_, rfl⟩ | ⟨_, _, failed⟩⟩
      · exact id
      · exact id
      · exact ih failed

theorem matchingGpus_error {vramPerGpu : UInt64}
    (failed : matchingGpus nodeId job vramPerGpu gpus = .error fault) : ¬ fault.IsOverflow := by
  induction gpus with
  | nil => simp [matchingGpus] at failed
  | cons gpu rest ih =>
      simp only [matchingGpus, Except.bind_eq_error, Except.ofOption_eq_error] at failed
      rcases failed with ⟨_, rfl⟩ | ⟨healthy, _, failed⟩
      · exact id
      · split at failed
        · exact ih failed
        · rcases Except.bind_eq_error.mp failed with failed | ⟨allows, _, failed⟩
          · unfold modelAllowed at failed
            split at failed
            · cases failed
            · simp only [Except.bind_eq_error, Except.ofOption_eq_error, reduceCtorEq, and_false,
                exists_false, or_false] at failed
              rw [← failed.2]
              exact id
          · split at failed
            · simp only [Except.bind_eq_error, Except.ofOption_eq_error, reduceCtorEq, and_false,
                exists_false, or_false] at failed
              rcases failed with ⟨_, rfl⟩ | ⟨_, _, failed⟩
              · exact id
              · exact ih failed
            · exact ih failed

theorem RankRequirements.fromJob_eq_ok {required : RankRequirements} :
    RankRequirements.fromJob job = .ok required ↔
      job.minimumGpuCount = some required.gpuCount ∧
      job.minimumVramBytesPerGpu = some required.vramPerGpu ∧
      job.cpuCores = some required.cpuCores ∧ job.ramBytes = some required.ramBytes ∧
      job.workspaceBytes = some required.workspaceBytes := by
  simp only [fromJob, Except.bind_eq_ok, Except.ofOption_eq_ok, Except.ok.injEq]
  constructor
  · rintro ⟨_, count, _, vram, _, cpu, _, ram, _, workspace, rfl⟩
    exact ⟨count, vram, cpu, ram, workspace⟩
  · rintro ⟨count, vram, cpu, ram, workspace⟩
    exact ⟨_, count, _, vram, _, cpu, _, ram, _, workspace, rfl⟩

theorem RankRequirements.fromJob_error (failed : RankRequirements.fromJob job = .error fault) :
    ¬ fault.IsOverflow := by
  simp only [fromJob, Except.bind_eq_error, Except.ofOption_eq_error, missingJob] at failed
  rcases failed with ⟨_, rfl⟩ | ⟨_, _, ⟨_, rfl⟩ | ⟨_, _, ⟨_, rfl⟩ | ⟨_, _, ⟨_, rfl⟩ |
    ⟨_, _, ⟨_, rfl⟩ | ⟨_, _, failed⟩⟩⟩⟩⟩
  all_goals first | exact id | cases failed

theorem remaining_eq_ok {α : Type} [Ord α] [Sub α] {available : Option α} {required left : α}
    {fact : MissingFact} {axis : FitAxis} :
    remaining nodeId available required fact axis = .ok left ↔
      ∃ has, available = some has ∧ compare has required ≠ .lt ∧ has - required = left := by
  simp [remaining, Except.bind_eq_ok]

theorem countLeftOver_error {count : Nat} (failed : countLeftOver nodeId count = .error fault) :
    fault.IsOverflow := by
  unfold countLeftOver at failed
  split at failed
  · cases failed
  · cases failed
    trivial

theorem toNat_countLeftOver {count : Nat} {left : UInt32}
    (counted : countLeftOver nodeId count = .ok left) : left.toNat = count := by
  unfold countLeftOver at counted
  split at counted
  · next fits =>
    rw [← Except.ok.inj counted, UInt32.toNat_ofNat', Nat.mod_eq_of_lt fits]
  · cases counted

/-- Both amounts are known, and there is as much as is wanted. -/
def Suffices {α : Type} [Ord α] (available required : Option α) : Prop :=
  ∃ has wants, available = some has ∧ required = some wants ∧ compare has wants ≠ .lt

/-- The host has the cores, the memory and the workspace that the job wants. -/
structure HostSuffices (candidate : CandidateSnapshot) (job : JobRequirements) : Prop where
  cpu : Suffices candidate.availableCpuCores job.cpuCores
  ram : Suffices candidate.availableRamBytes job.ramBytes
  workspace : Suffices candidate.availableWorkspaceBytes job.workspaceBytes

/-- When nothing is said against the resources of the candidate. -/
theorem resourceReasons_eq_nil : resourceReasons candidate job = [] ↔
    evaluateGpus candidate job = [] ∧ HostSuffices candidate job := by
  simp only [resourceReasons, compareResource, List.append_eq_nil_iff, compareMinimum_eq_nil,
    and_assoc]
  refine and_congr_right fun _ => ⟨?_, fun host => ⟨host.cpu, host.ram, host.workspace⟩⟩
  rintro ⟨cpu, ram, workspace⟩
  exact ⟨cpu, ram, workspace⟩

/-- A candidate that nothing is said against has a fit, or one that does not fit its words. -/
theorem resourceFit_error_isOverflow (silent : resourceReasons candidate job = [])
    (valid : ∀ gpus ∈ candidate.gpus, GpuIdsValid gpus)
    (failed : resourceFit candidate job = .error fault) : fault.IsOverflow := by
  obtain ⟨onGpus, ⟨cpu, wantsCpu, hasCpu, jobCpu, enoughCpu⟩, ⟨ram, wantsRam, hasRam, jobRam, enoughRam⟩,
    ⟨workspace, wantsWorkspace, hasWorkspace, jobWorkspace, enoughWorkspace⟩⟩ :=
    resourceReasons_eq_nil.mp silent
  obtain ⟨count, vram, gpus, jobCount, jobVram, listed, known, enough⟩ := evaluateGpus_eq_nil.mp onGpus
  have asked : RankRequirements.fromJob job = .ok ⟨count, vram, wantsCpu, wantsRam, wantsWorkspace⟩ :=
    RankRequirements.fromJob_eq_ok.mpr ⟨jobCount, jobVram, jobCpu, jobRam, jobWorkspace⟩
  have checked : checkGpuIds candidate.nodeId [] gpus = .ok () :=
    checkGpuIds_eq_ok (valid gpus listed) (by simp)
  have found : matchingGpus candidate.nodeId job vram gpus =
      .ok ((gpus.filter (Usable job vram)).map memoryOf) :=
    matchingGpus_eq_ok.mpr ⟨known, rfl⟩
  have left : ∀ {α : Type} [Ord α] [Sub α] {available : Option α} {has wants : α}
      {fact : MissingFact} {axis : FitAxis}, available = some has → compare has wants ≠ .lt →
      remaining candidate.nodeId available wants fact axis = .ok (has - wants) :=
    fun there enough => remaining_eq_ok.mpr ⟨_, there, enough, rfl⟩
  have length : ∀ selected : List (UInt64 × String),
      (sorted (selected.map Prod.snd)).length = selected.length := by
    simp [sorted]
  simp only [resourceFit, asked, listed, checked, found, Except.ofOption_eq_ok,
    Except.ofOption_eq_error, Except.bind_eq_error, Except.ok.injEq, Option.some.injEq, reduceCtorEq,
    false_and, false_or, exists_eq_left', Except.ensure_eq_error, Except.ensure_eq_ok, length,
    List.length_mergeSort, List.length_map, List.length_take, min_eq_left enough, enough,
    not_true_eq_false, true_and, left hasCpu enoughCpu, left hasRam enoughRam,
    left hasWorkspace enoughWorkspace] at failed
  obtain ⟨_, _, ⟨_, rfl⟩ | ⟨_, _, failed | ⟨_, _, _, ⟨⟩⟩⟩⟩ := failed
  · trivial
  · exact countLeftOver_error failed

theorem resourceFit_of_full {required : RankRequirements} {found : List (UInt64 × String)}
    (asked : RankRequirements.fromJob job = .ok required) (listed : candidate.gpus = some gpus)
    (checked : checkGpuIds candidate.nodeId [] gpus = .ok ())
    (matched : matchingGpus candidate.nodeId job required.vramPerGpu gpus = .ok found)
    (enough : required.gpuCount.toNat ≤ (found.mergeSort gpuLe).length)
    (full : sumLeftOver required.vramPerGpu
      ((found.mergeSort gpuLe).take required.gpuCount.toNat) 0 = none) :
    resourceFit candidate job = .error (.fitOverflow candidate.nodeId .vram) := by
  simp only [resourceFit, asked, listed, checked, matched, enough, full, Except.ofOption,
    Except.ensure, if_true, bind, Except.bind]

/-- A sum that does not fit is one over usable GPUs, of which there are enough. -/
theorem evaluateGpus_of_overflow (failed : resourceFit candidate job = .error fault)
    (overflow : fault.IsOverflow) : evaluateGpus candidate job = [] := by
  simp only [resourceFit, Except.bind_eq_error] at failed
  rcases failed with failed | ⟨required, asked, failed | ⟨gpus, listed, failed |
    ⟨_, _, failed | ⟨found, matched, failed | ⟨_, enough, _⟩⟩⟩⟩⟩
  · exact absurd overflow (RankRequirements.fromJob_error failed)
  · obtain ⟨_, rfl⟩ := Except.ofOption_eq_error.mp failed
    cases overflow
  · exact absurd overflow (checkGpuIds_error failed)
  · exact absurd overflow (matchingGpus_error failed)
  · obtain ⟨_, rfl⟩ := Except.ensure_eq_error.mp failed
    cases overflow
  · obtain ⟨known, rfl⟩ := matchingGpus_eq_ok.mp matched
    obtain ⟨count, vram, _⟩ := RankRequirements.fromJob_eq_ok.mp asked
    rw [Except.ensure_eq_ok, List.length_mergeSort, List.length_map] at enough
    exact evaluateGpus_eq_nil.mpr
      ⟨_, _, gpus, count, vram, Except.ofOption_eq_ok.mp listed, known, enough⟩

/-- What is left over of each GPU adds up to what is left over of all. -/
theorem sumLeftOver_eq_some {vramPerGpu total rest : UInt64} {selected : List (UInt64 × String)}
    (enough : ∀ pair ∈ selected, vramPerGpu ≤ pair.1)
    (summed : sumLeftOver vramPerGpu selected total = some rest) :
    total.toNat + (selected.map (·.1.toNat)).sum = rest.toNat + selected.length * vramPerGpu.toNat := by
  induction selected generalizing total with
  | nil =>
      obtain rfl := Option.some.inj summed
      simp
  | cons pair others ih =>
      rw [List.forall_mem_cons] at enough
      simp only [sumLeftOver, Option.bind_eq_bind, Option.bind_eq_some_iff,
        UInt64.checkedAdd_eq_some, UInt64.toNat_sub_of_le _ _ enough.1] at summed
      obtain ⟨next, added, summed⟩ := summed
      have below := UInt64.le_iff_toNat_le.mp enough.1
      have after := ih enough.2 summed
      simp only [List.map_cons, List.sum_cons, List.length_cons, Nat.succ_mul]
      omega

/-- What a job is given of a candidate, and what that leaves over: nothing is given twice, and no
difference is below zero. -/
structure FitsJob (candidate : CandidateSnapshot) (job : JobRequirements) (fit : ResourceFit)
    (gpus selected : List GpuSnapshot) (vramPerGpu : UInt64) : Prop where
  inventory : candidate.gpus = some gpus
  listed : ∀ gpu ∈ selected, gpu ∈ gpus
  ids : fit.selectedGpuIds.Perm (selected.map (·.gpuId))
  distinct : fit.selectedGpuIds.Nodup
  count : job.minimumGpuCount.map UInt32.toNat = some selected.length
  healthy : ∀ gpu ∈ selected, gpu.healthy = some true
  allowed : ∀ gpu ∈ selected, job.allowedGpuModels = [] ∨
    ∃ model ∈ job.allowedGpuModels, gpu.model = some model
  wanted : job.minimumVramBytesPerGpu = some vramPerGpu
  memory : ∀ gpu ∈ selected, ∃ available ∈ gpu.availableVramBytes, vramPerGpu ≤ available
  vramLeft : (selected.map fun gpu => (gpu.availableVramBytes.getD 0).toNat).sum =
    fit.fitKey.vramRemainingBytes.toNat + selected.length * vramPerGpu.toNat
  gpusLeft : (gpus.filter (Usable job vramPerGpu)).length =
    fit.fitKey.gpuCountRemaining.toNat + selected.length
  cpuLeft : ∃ has wants, candidate.availableCpuCores = some has ∧ job.cpuCores = some wants ∧
    has.toNat = fit.fitKey.cpuCoresRemaining.toNat + wants.toNat
  ramLeft : ∃ has wants, candidate.availableRamBytes = some has ∧ job.ramBytes = some wants ∧
    has.toNat = fit.fitKey.ramRemainingBytes.toNat + wants.toNat
  workspaceLeft : ∃ has wants, candidate.availableWorkspaceBytes = some has ∧
    job.workspaceBytes = some wants ∧
    has.toNat = fit.fitKey.workspaceRemainingBytes.toNat + wants.toNat

theorem usable_iff {vramPerGpu : UInt64} {gpu : GpuSnapshot} : Usable job vramPerGpu gpu ↔
    gpu.healthy = some true ∧
    (job.allowedGpuModels = [] ∨ ∃ model ∈ job.allowedGpuModels, gpu.model = some model) ∧
    ∃ available ∈ gpu.availableVramBytes, vramPerGpu ≤ available := by
  simp [Usable, AllowsModel, Option.any_eq_true, and_comm]

theorem memory_left {has wants : UInt64} (enough : compare has wants ≠ .lt) :
    has.toNat = (has - wants).toNat + wants.toNat := by
  have above : wants ≤ has := by
    rw [← UInt64.not_lt]
    exact fun below => enough (if_pos below)
  rw [UInt64.toNat_sub_of_le _ _ above]
  have := UInt64.le_iff_toNat_le.mp above
  omega

theorem cores_left {has wants : UInt32} (enough : compare has wants ≠ .lt) :
    has.toNat = (has - wants).toNat + wants.toNat := by
  have above : wants ≤ has := by
    rw [← UInt32.not_lt]
    exact fun below => enough (if_pos below)
  rw [UInt32.toNat_sub_of_le _ _ above]
  have := UInt32.le_iff_toNat_le.mp above
  omega

theorem resourceFit_fits (valid : ∀ gpus ∈ candidate.gpus, GpuIdsValid gpus)
    (fits : resourceFit candidate job = .ok fit) :
    resourceReasons candidate job = [] ∧
      ∃ gpus selected vramPerGpu, FitsJob candidate job fit gpus selected vramPerGpu := by
  simp only [resourceFit, Except.bind_eq_ok, Except.ofOption_eq_ok, Except.ensure_eq_ok,
    RankRequirements.fromJob_eq_ok, matchingGpus_eq_ok, remaining_eq_ok, Except.ok.injEq,
    List.length_mergeSort] at fits
  obtain ⟨required, ⟨count, vram, jobCpu, jobRam, jobWorkspace⟩, gpus, listed, _, _, found,
    ⟨known, rfl⟩, _, enough, vramLeft, summed, gpusLeft, counted, _, _,
    cpuLeft, ⟨cpu, hasCpu, enoughCpu, rfl⟩, ramLeft, ⟨ram, hasRam, enoughRam, rfl⟩,
    workspaceLeft, ⟨workspace, hasWorkspace, enoughWorkspace, rfl⟩, rfl⟩ := fits
  rw [List.length_map] at enough counted
  constructor
  · exact resourceReasons_eq_nil.mpr
      ⟨evaluateGpus_eq_nil.mpr ⟨_, _, gpus, count, vram, listed, known, enough⟩,
        ⟨cpu, _, hasCpu, jobCpu, enoughCpu⟩, ⟨ram, _, hasRam, jobRam, enoughRam⟩,
        ⟨workspace, _, hasWorkspace, jobWorkspace, enoughWorkspace⟩⟩
  · have order : ((gpus.filter (Usable job required.vramPerGpu)).map memoryOf).mergeSort gpuLe =
        ((gpus.filter (Usable job required.vramPerGpu)).mergeSort fun left right =>
          gpuLe (memoryOf left) (memoryOf right)).map memoryOf := by
      symm
      apply List.map_mergeSort
      intro _ _ _ _
      rfl
    rw [order, ← List.map_take] at summed
    simp only [order, ← List.map_take]
    generalize ranked : (gpus.filter (Usable job required.vramPerGpu)).mergeSort (fun left right =>
      gpuLe (memoryOf left) (memoryOf right)) = usable at summed
    have permuted : usable.Perm (gpus.filter (Usable job required.vramPerGpu)) :=
      ranked ▸ List.mergeSort_perm _ _
    have taken : ∀ gpu ∈ usable.take required.gpuCount.toNat, gpu ∈ gpus ∧
        Usable job required.vramPerGpu gpu := fun gpu member =>
      List.mem_filter.mp (permuted.mem_iff.mp (List.mem_of_mem_take member))
    have length : (usable.take required.gpuCount.toNat).length = required.gpuCount.toNat := by
      rw [List.length_take, permuted.length_eq, min_eq_left enough]
    have ids : (sorted (((usable.take required.gpuCount.toNat).map memoryOf).map Prod.snd)).Perm
        ((usable.take required.gpuCount.toNat).map (·.gpuId)) := by
      rw [List.map_map]
      exact List.mergeSort_perm _ _
    have distinct : ((usable.take required.gpuCount.toNat).map (·.gpuId)).Nodup := by
      have all := ((permuted.map (·.gpuId)).nodup_iff).mpr
        ((valid gpus listed).1.sublist (List.filter_sublist.map _))
      exact all.sublist ((List.take_sublist _ usable).map _)
    have rest := sumLeftOver_eq_some (by
      intro pair member
      obtain ⟨gpu, chosen, rfl⟩ := List.mem_map.mp member
      obtain ⟨available, has, above⟩ := (usable_iff.mp (taken gpu chosen).2).2.2
      rw [Option.mem_def] at has
      simpa [memoryOf, has] using above) summed
    have unused := toNat_countLeftOver counted
    refine ⟨gpus, usable.take required.gpuCount.toNat, required.vramPerGpu, ?_⟩
    exact
      { inventory := listed
        listed := fun gpu member => (taken gpu member).1
        ids := ids
        distinct := ids.nodup_iff.mpr distinct
        count := by rw [count, length, Option.map_some]
        healthy := fun gpu member => (usable_iff.mp (taken gpu member).2).1
        allowed := fun gpu member => (usable_iff.mp (taken gpu member).2).2.1
        wanted := vram
        memory := fun gpu member => (usable_iff.mp (taken gpu member).2).2.2
        vramLeft := by
          rw [← Nat.zero_add (List.sum _)]
          simpa [memoryOf, Function.comp_def] using rest
        gpusLeft := by
          rw [length, unused]
          omega
        cpuLeft := ⟨cpu, _, hasCpu, jobCpu, cores_left enoughCpu⟩
        ramLeft := ⟨ram, _, hasRam, jobRam, memory_left enoughRam⟩
        workspaceLeft := ⟨workspace, _, hasWorkspace, jobWorkspace, memory_left enoughWorkspace⟩ }

end Fit

section Report

variable {pool : PoolSnapshot} {policy : Policy}

/-- The report rejects the node, and one of its reasons is about this. -/
def RejectsOver (report : EligibilityReport) (nodeId : String) (concern : Concern) : Prop :=
  ∃ rejected ∈ report.rejected, rejected.nodeId = nodeId ∧
    ∃ reason ∈ rejected.reasons, reason.concern = concern

theorem eq_of_nodeId {other : CandidateSnapshot} (distinct : (pool.candidates.map (·.nodeId)).Nodup)
    (listed : candidate ∈ pool.candidates) (otherListed : other ∈ pool.candidates)
    (same : other.nodeId = candidate.nodeId) : other = candidate :=
  List.inj_on_of_nodup_map distinct otherListed listed same

theorem rejectsOver_resources (distinct : (pool.candidates.map (·.nodeId)).Nodup)
    (listed : candidate ∈ pool.candidates) :
    RejectsOver (evaluateEligibility pool job policy) candidate.nodeId .resources ↔
      resourceReasons candidate job ≠ [] := by
  constructor
  · rintro ⟨_, member, ofNode, reason, given, about⟩
    simp only [evaluateEligibility, mem_sorted, List.mem_map, List.mem_filter] at member
    obtain ⟨other, ⟨otherListed, _⟩, rfl⟩ := member
    obtain rfl := eq_of_nodeId distinct listed otherListed ofNode
    exact List.ne_nil_of_mem ((candidateReasons_mem_of_resources about).mp given)
  · intro reasons
    obtain ⟨reason, given⟩ := List.exists_mem_of_ne_nil _ reasons
    have about := resourceReasons_allOn reason given
    have listedReason : reason ∈ candidateReasons pool job policy candidate :=
      (candidateReasons_mem_of_resources about).mpr given
    exact ⟨_, rejected_with_reasons listed listedReason, rfl, reason, listedReason, about⟩

theorem resourceReasons_of_eligible (distinct : (pool.candidates.map (·.nodeId)).Nodup)
    (listed : candidate ∈ pool.candidates)
    (eligible : ⟨candidate.nodeId⟩ ∈ (evaluateEligibility pool job policy).eligible) :
    resourceReasons candidate job = [] := by
  simp only [evaluateEligibility, mem_sorted, List.mem_map, List.mem_filter, decide_eq_true_eq,
    EligibleCandidate.mk.injEq] at eligible
  obtain ⟨other, ⟨otherListed, silent⟩, ofNode⟩ := eligible
  obtain rfl := eq_of_nodeId distinct listed otherListed ofNode
  rw [List.eq_nil_iff_forall_not_mem]
  intro reason given
  have listedReason : reason ∈ candidateReasons pool job policy other :=
    (candidateReasons_mem_of_resources (resourceReasons_allOn reason given)).mpr given
  rw [silent] at listedReason
  exact List.not_mem_nil listedReason

/-- A candidate is rejected over its resources exactly when best fit refuses it with another error than
its overflow, or with its overflow before it looks at a host that does not suffice. What it selects fits
the job. -/
theorem filter_agrees_with_fit (distinct : (pool.candidates.map (·.nodeId)).Nodup)
    (listed : candidate ∈ pool.candidates) (valid : ∀ gpus ∈ candidate.gpus, GpuIdsValid gpus) :
    (RejectsOver (evaluateEligibility pool job policy) candidate.nodeId .resources ↔
      (∃ fault, resourceFit candidate job = .error fault ∧ ¬ fault.IsOverflow) ∨
        (∃ fault, resourceFit candidate job = .error fault ∧ fault.IsOverflow) ∧
          ¬ HostSuffices candidate job) ∧
    (⟨candidate.nodeId⟩ ∈ (evaluateEligibility pool job policy).eligible →
      ∀ fault, resourceFit candidate job = .error fault → fault.IsOverflow) ∧
    ∀ fit, resourceFit candidate job = .ok fit →
      ∃ gpus selected vramPerGpu, FitsJob candidate job fit gpus selected vramPerGpu := by
  refine ⟨?_, ?_, fun fit fits => (resourceFit_fits valid fits).2⟩
  · rw [rejectsOver_resources distinct listed]
    cases fits : resourceFit candidate job with
    | ok fit => simp [(resourceFit_fits valid fits).1]
    | error fault =>
        simp only [Except.error.injEq, exists_eq_left']
        by_cases overflow : fault.IsOverflow
        · simp [overflow, resourceReasons_eq_nil, evaluateGpus_of_overflow fits overflow]
        · simp only [overflow, not_false_eq_true, true_or, iff_true]
          exact fun silent => overflow (resourceFit_error_isOverflow silent valid fits)
  · intro eligible fault failed
    exact resourceFit_error_isOverflow (resourceReasons_of_eligible distinct listed eligible) valid
      failed

end Report

section Samples

def healthyGpu (gpuId : String) (vramBytes : UInt64) : GpuSnapshot :=
  ⟨gpuId, some true, some vramBytes, some "model"⟩

def nodeWith (gpus : List GpuSnapshot) (cpuCores : UInt32) : CandidateSnapshot where
  nodeId := "node"
  inventoryRevision := some 1
  ownerMemberId := some "member"
  nodeState := some .online
  riskState := some .normal
  observedAtUnixMs := some 90
  securityTier := some .s2
  isolationClass := some .contained
  keyProtection := some .k1
  gpus := some gpus
  availableCpuCores := some cpuCores
  availableRamBytes := some 16
  availableWorkspaceBytes := some 16
  allowedWorkloadClasses := some {.training}
  thirdPartyWorkloadsOptIn := none
  reservation := none
  lastHeartbeatUnixMs := none
  gpuObservationMismatchAtUnixMs := none

def jobOn (gpuCount : UInt32) (vramBytesPerGpu : UInt64) : JobRequirements where
  submitterMemberId := some "member"
  workloadClass := some .training
  sideEffectClass := some .pure
  sensitivity := some .internal
  minimumSecurityTier := some .s1
  minimumIsolationClass := some .restricted
  minimumKeyProtection := some .k0
  minimumGpuCount := some gpuCount
  minimumVramBytesPerGpu := some vramBytesPerGpu
  allowedGpuModels := ["model"]
  cpuCores := some 2
  ramBytes := some 8
  workspaceBytes := some 8

/-- Two GPUs with all the memory that a word can say, and one core. -/
def hugeNode : CandidateSnapshot :=
  nodeWith [healthyGpu "gpu-0" UInt64.maxValue, healthyGpu "gpu-1" UInt64.maxValue] 1

theorem hugeNode_overflows :
    resourceFit hugeNode (jobOn 2 0) = .error (.fitOverflow "node" .vram) := by
  have found : matchingGpus "node" (jobOn 2 0) 0
      [healthyGpu "gpu-0" UInt64.maxValue, healthyGpu "gpu-1" UInt64.maxValue] =
        .ok [(UInt64.maxValue, "gpu-0"), (UInt64.maxValue, "gpu-1")] := by
    decide +kernel
  have ordered : [(UInt64.maxValue, "gpu-0"), (UInt64.maxValue, "gpu-1")].mergeSort gpuLe =
      [(UInt64.maxValue, "gpu-0"), (UInt64.maxValue, "gpu-1")] :=
    List.mergeSort_of_pairwise (by decide +kernel)
  have checked : checkGpuIds "node" []
      [healthyGpu "gpu-0" UInt64.maxValue, healthyGpu "gpu-1" UInt64.maxValue] = .ok () := by
    decide +kernel
  have full : sumLeftOver 0 [(UInt64.maxValue, "gpu-0"), (UInt64.maxValue, "gpu-1")] 0 = none := by
    decide +kernel
  have asked : RankRequirements.fromJob (jobOn 2 0) = .ok ⟨2, 0, 2, 8, 8⟩ :=
    RankRequirements.fromJob_eq_ok.mpr ⟨rfl, rfl, rfl, rfl, rfl⟩
  refine resourceFit_of_full asked rfl checked found ?_ ?_
  · rw [ordered]
    decide
  · rw [ordered]
    exact full

/-- Too few cores are a reason, but best fit stops at the sum of the memory before it looks at them. -/
theorem overflow_hides_missing_cores :
    (∀ gpus ∈ hugeNode.gpus, GpuIdsValid gpus) ∧
    RejectsOver (evaluateEligibility ⟨100, [hugeNode]⟩ (jobOn 2 0) ⟨60, none⟩) "node" .resources ∧
    ¬ ∃ fault, resourceFit hugeNode (jobOn 2 0) = .error fault ∧ ¬ fault.IsOverflow := by
  have reported : (evaluateEligibility ⟨100, [hugeNode]⟩ (jobOn 2 0) ⟨60, none⟩).rejected =
      [⟨"node", [.cpuInsufficient 1 2]⟩] := by
    decide +kernel
  refine ⟨?_, ?_, ?_⟩
  · rintro gpus listed
    obtain rfl := Option.some.inj listed
    exact ⟨by decide, by decide +kernel⟩
  · rw [RejectsOver, reported]
    exact ⟨_, List.mem_singleton_self _, rfl, _, List.mem_singleton_self _, rfl⟩
  · rintro ⟨fault, failed, other⟩
    obtain rfl := Except.error.inj (hugeNode_overflows.symm.trans failed)
    exact other trivial

def oneGpuNode : CandidateSnapshot := nodeWith [healthyGpu "gpu-0" 12] 4

/-- A node whose GPU and whose host suffice. -/
theorem oneGpuNode_fits : ∃ fit gpus selected vramPerGpu,
    resourceFit oneGpuNode (jobOn 1 8) = .ok fit ∧ fit.selectedGpuIds = ["gpu-0"] ∧
    FitsJob oneGpuNode (jobOn 1 8) fit gpus selected vramPerGpu ∧
    ¬ RejectsOver (evaluateEligibility ⟨100, [oneGpuNode]⟩ (jobOn 1 8) ⟨60, none⟩) "node"
      .resources := by
  have fits : resourceFit oneGpuNode (jobOn 1 8) = .ok ⟨⟨4, 0, 2, 8, 8⟩, ["gpu-0"]⟩ := by
    decide +kernel
  have valid : ∀ gpus ∈ oneGpuNode.gpus, GpuIdsValid gpus := by
    rintro gpus listed
    obtain rfl := Option.some.inj listed
    exact ⟨by decide, by decide +kernel⟩
  have distinct : ((⟨100, [oneGpuNode]⟩ : PoolSnapshot).candidates.map (·.nodeId)).Nodup :=
    List.nodup_singleton _
  have listed : oneGpuNode ∈ (⟨100, [oneGpuNode]⟩ : PoolSnapshot).candidates :=
    List.mem_singleton_self _
  have agreement : ∀ policy : Policy, (RejectsOver
      (evaluateEligibility ⟨100, [oneGpuNode]⟩ (jobOn 1 8) policy) "node" .resources ↔ _) ∧ _ ∧ _ :=
    fun policy => filter_agrees_with_fit distinct listed valid
  obtain ⟨agree, _, selects⟩ := agreement ⟨60, none⟩
  obtain ⟨gpus, selected, vramPerGpu, given⟩ := selects _ fits
  refine ⟨_, gpus, selected, vramPerGpu, fits, rfl, given, fun rejected => ?_⟩
  rcases agree.mp rejected with ⟨fault, failed, _⟩ | ⟨⟨fault, failed, _⟩, _⟩
  · cases fits.symm.trans failed
  · cases fits.symm.trans failed

end Samples

end Gputeer.Scheduler
