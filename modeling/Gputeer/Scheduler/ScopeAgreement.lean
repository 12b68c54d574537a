import Gputeer.Scheduler.LeastWaste
import Gputeer.Scheduler.Scope

/-! A scope does not hang on the order of what it is computed from, and names the GPUs that best fit takes. -/

namespace Gputeer.Scheduler

open Text

section Texts

variable {texts others : List String}

theorem firstUntrimmed_eq_of_perm (same : texts.Perm others) :
    firstUntrimmed texts = firstUntrimmed others :=
  (same.filter _).min?_eq

theorem firstRepeated_eq_of_perm (same : texts.Perm others) :
    firstRepeated texts = firstRepeated others := by
  have counts : ∀ text, texts.count text = others.count text := fun text => same.count_eq text
  simp only [firstRepeated, counts, sorted_eq_of_perm same]

theorem firstRepeated_eq_none : firstRepeated texts = none ↔ texts.Nodup := by
  rw [List.nodup_iff_count_le_one, firstRepeated, List.find?_eq_none]
  constructor
  · intro single text
    by_cases listed : text ∈ texts
    · simpa using single text (mem_sorted.mpr listed)
    · rw [List.count_eq_zero_of_not_mem listed]
      exact Nat.zero_le 1
  · intro single text _
    simpa using single text

theorem firstUntrimmed_eq_none : firstUntrimmed texts = none ↔ ∀ text ∈ texts, trim text = text := by
  simp [firstUntrimmed, List.min?_eq_none_iff]

theorem canonicalPrefixes_eq_of_perm (same : texts.Perm others) :
    canonicalPrefixes texts = canonicalPrefixes others := by
  have canonical : sortedDedup texts = sortedDedup others :=
    sortedDedup_eq_of_mem_iff fun _ => same.mem_iff
  simp only [canonicalPrefixes, same.any_eq, firstUntrimmed_eq_of_perm same,
    firstRepeated_eq_of_perm same, canonical, same.length_eq]

end Texts

section Gpus

variable {gpus others : List ScopeGpuObservation}

theorem validateGpuIds_eq_of_perm (same : gpus.Perm others) :
    validateGpuIds gpus = validateGpuIds others := by
  have ids := same.map (·.gpuId)
  simp only [validateGpuIds, ids.any_eq, firstUntrimmed_eq_of_perm ids,
    firstRepeated_eq_of_perm ids]

theorem validateGpuIds_eq_ok {done : Unit} : validateGpuIds gpus = .ok done ↔
    (∀ gpu ∈ gpus, isBlank gpu.gpuId = false ∧ trim gpu.gpuId = gpu.gpuId) ∧
    (gpus.map (·.gpuId)).Nodup := by
  rw [← firstRepeated_eq_none, forall₂_and]
  simp only [validateGpuIds, Except.bind_eq_ok, Except.ensure_eq_ok, exists_const]
  have trimmed : firstUntrimmed (gpus.map (·.gpuId)) = none ↔
      ∀ gpu ∈ gpus, trim gpu.gpuId = gpu.gpuId := by
    rw [firstUntrimmed_eq_none, List.forall_mem_map]
  have filled : (gpus.map (·.gpuId)).any isBlank = false ↔
      ∀ gpu ∈ gpus, isBlank gpu.gpuId = false := by
    simp
  rw [filled, and_assoc]
  refine and_congr_right fun _ => ?_
  rw [← trimmed]
  cases firstUntrimmed (gpus.map (·.gpuId)) with
  | some gpuId => simp
  | none => cases firstRepeated (gpus.map (·.gpuId)) <;> simp

/-- GPUs with distinct ids have one canonical order. -/
theorem canonicalGpus_eq_of_perm (same : gpus.Perm others) (distinct : (gpus.map (·.gpuId)).Nodup) :
    canonicalGpus gpus = canonicalGpus others := by
  have := List.transCmp_comap compare ScopeGpuObservation.gpuId
  exact same.mergeSort_isLE_of_mem fun _ leftIn _ rightIn equal =>
    List.inj_on_of_nodup_map distinct leftIn rightIn (Std.LawfulEqCmp.eq_of_compare equal)

end Gpus

section Listings

/-- The same observation, with its GPUs listed in another order. -/
structure SameSnapshot (one other : GpuObservationSnapshot) : Prop where
  gpus : Option.Rel List.Perm one.gpus other.gpus
  rest : other = { one with gpus := other.gpus }

/-- The same requirements, with the allowed models and capabilities listed in another order. -/
structure SameRequirements (one other : JobGpuRequirements) : Prop where
  models : one.allowedGpuModels.Perm other.allowedGpuModels
  capabilities : one.allowedComputeCapabilities.Perm other.allowedComputeCapabilities
  rest : other = { one with allowedGpuModels := other.allowedGpuModels
                            allowedComputeCapabilities := other.allowedComputeCapabilities }

/-- The same resources, with the writable prefixes listed in another order. -/
structure SameResources (one other : ScopeResourceInput) : Prop where
  prefixes : Option.Rel List.Perm one.writablePrefixes other.writablePrefixes
  rest : other = { one with writablePrefixes := other.writablePrefixes }

theorem allowsText_eq_of_perm {allowed others : List String} {value : Option String}
    {fact : ScopeMissingFact} (same : allowed.Perm others) :
    allowsText allowed value fact = allowsText others value fact := by
  simp only [allowsText, same.eq_nil_iff, same.mem_iff]

theorem matchGpu_eq_of_same {requirements others : JobGpuRequirements} {mode : GpuAllocationMode}
    {vram : UInt64} (same : SameRequirements requirements others) :
    matchGpu others mode vram = matchGpu requirements mode vram := by
  funext gpu
  have models := same.models.symm
  have capabilities := same.capabilities.symm
  have driver : allowsDriver others gpu = allowsDriver requirements gpu := by
    rw [same.rest]
    rfl
  unfold matchGpu
  rw [driver]
  simp only [allowsText_eq_of_perm models, allowsText_eq_of_perm capabilities]

/-- The scope, or the error, does not hang on the order of anything. -/
theorem gpuScopeCandidate_eq_of_same {snapshot otherSnapshot : GpuObservationSnapshot}
    {requirements otherRequirements : JobGpuRequirements} {resources otherResources : ScopeResourceInput}
    {provenance : ProvenanceGate} (sameSnapshot : SameSnapshot snapshot otherSnapshot)
    (sameRequirements : SameRequirements requirements otherRequirements)
    (sameResources : SameResources resources otherResources) :
    gpuScopeCandidate otherSnapshot otherRequirements otherResources provenance =
      gpuScopeCandidate snapshot requirements resources provenance := by
  have prefixes : ∀ {β : Type} (next : List String → Except ScopeError β),
      (do let given ← missingScope .writablePrefixes otherResources.writablePrefixes
          let writablePrefixes ← canonicalPrefixes given
          next writablePrefixes) =
        (do let given ← missingScope .writablePrefixes resources.writablePrefixes
            let writablePrefixes ← canonicalPrefixes given
            next writablePrefixes) := by
    intro β next
    have same := sameResources.prefixes
    generalize resources.writablePrefixes = one at same ⊢
    generalize otherResources.writablePrefixes = two at same ⊢
    cases same with
    | none => rfl
    | some permuted =>
        change (canonicalPrefixes _ >>= _) = (canonicalPrefixes _ >>= _)
        rw [canonicalPrefixes_eq_of_perm permuted]
  obtain ⟨otherGpus, rfl⟩ : ∃ gpus, otherSnapshot = { snapshot with gpus := gpus } :=
    ⟨_, sameSnapshot.rest⟩
  obtain ⟨otherPrefixes, rfl⟩ : ∃ prefixes, otherResources =
      { resources with writablePrefixes := prefixes } := ⟨_, sameResources.rest⟩
  obtain ⟨models, capabilities, rfl⟩ : ∃ models capabilities, otherRequirements =
      { requirements with allowedGpuModels := models, allowedComputeCapabilities := capabilities } :=
    ⟨_, _, sameRequirements.rest⟩
  unfold gpuScopeCandidate
  simp only [matchGpu_eq_of_same sameRequirements]
  -- the checks before the prefixes read what is the same
  refine bind_congr fun _ => bind_congr fun observedAt => bind_congr fun revision => ?_
  refine bind_congr fun vram => bind_congr fun count => bind_congr fun _ => bind_congr fun _ => ?_
  refine bind_congr fun mode => bind_congr fun _ => bind_congr fun _ => bind_congr fun cpu => ?_
  refine bind_congr fun ram => bind_congr fun workspace => (prefixes _).trans ?_
  refine bind_congr fun given => bind_congr fun writable => ?_
  have same := sameSnapshot.gpus
  generalize snapshot.gpus = one at same ⊢
  cases same with
  | none => rfl
  | some permuted =>
      change (validateGpuIds _ >>= _) = (validateGpuIds _ >>= _)
      rw [validateGpuIds_eq_of_perm permuted]
      -- valid GPUs are looked at in one order, and others not at all
      cases checked : validateGpuIds _ with
      | error fault => rfl
      | ok done =>
          have distinct := (validateGpuIds_eq_ok.mp checked).2
          rw [canonicalGpus_eq_of_perm permuted.symm distinct]

end Listings

section Agreement

variable {candidate : CandidateSnapshot} {job : JobRequirements} {snapshot : GpuObservationSnapshot}
  {requirements : JobGpuRequirements} {resources : ScopeResourceInput} {provenance : ProvenanceGate}
  {vramPerGpu : UInt64}

/-- An observation of the GPU with its memory as the authority gives it, which offers the GPU to one job
alone. -/
structure SameGpu (gpu : GpuSnapshot) (observation : ScopeGpuObservation) : Prop where
  gpuId : observation.gpuId = gpu.gpuId
  healthy : observation.healthy = gpu.healthy
  model : observation.model = gpu.model
  memory : observation.availableVram = gpu.availableVramBytes.map .authoritative
  exclusive : ∃ modes, observation.allocationModes = some modes ∧ .exclusive ∈ modes

/-- A scope and a fit are asked for the same GPUs, in whatever order. -/
structure SameRun (candidate : CandidateSnapshot) (job : JobRequirements)
    (snapshot : GpuObservationSnapshot) (requirements : JobGpuRequirements) : Prop where
  gpus : ∃ gpus ordered observations, candidate.gpus = some gpus ∧ gpus.Perm ordered ∧
    snapshot.gpus = some observations ∧ List.Forall₂ SameGpu ordered observations ∧
    (∀ gpu ∈ gpus, trim gpu.gpuId = gpu.gpuId) ∧ (gpus.map (·.gpuId)).Nodup
  count : requirements.minimumGpuCount = job.minimumGpuCount
  memory : requirements.minimumVramBytesPerGpu = job.minimumVramBytesPerGpu
  models : requirements.allowedGpuModels = job.allowedGpuModels
  anyDriver : requirements.minimumDriverVersion = none
  anyCapability : requirements.allowedComputeCapabilities = []
  positive : requirements.minimumGpuCount ≠ some 0

/-- What a scope asks for beyond the GPUs is there and valid. -/
structure Complete (snapshot : GpuObservationSnapshot) (requirements : JobGpuRequirements)
    (resources : ScopeResourceInput) (provenance : ProvenanceGate) : Prop where
  verified : provenance = .verified
  observedAt : ∃ observedAt, snapshot.observedAtUnixMs = some observedAt
  revision : ∃ revision, snapshot.inventoryRevision = some revision
  anyRuntime : requirements.cudaRuntimeVersion = none
  mode : requirements.allocationMode = some .exclusive
  cpuCores : ∃ cpuCores, resources.cpuCores = some cpuCores
  ramBytes : ∃ ramBytes, resources.ramBytes = some ramBytes
  workspaceBytes : ∃ workspaceBytes, resources.workspaceBytes = some workspaceBytes
  prefixes : ∃ given canonical, resources.writablePrefixes = some given ∧
    canonicalPrefixes given = .ok canonical

/-- What the scope collects of a GPU that best fit knows enough of. -/
def collected (job : JobRequirements) (vramPerGpu : UInt64) (gpu : GpuSnapshot) :
    Option (UInt64 × String) :=
  if Usable job vramPerGpu gpu then some (memoryOf gpu) else none

theorem matchGpu_of_same {gpu : GpuSnapshot} {observation : ScopeGpuObservation}
    (same : SameGpu gpu observation) (known : Known job gpu)
    (models : requirements.allowedGpuModels = job.allowedGpuModels)
    (anyDriver : requirements.minimumDriverVersion = none)
    (anyCapability : requirements.allowedComputeCapabilities = []) :
    matchGpu requirements .exclusive vramPerGpu observation = .ok (collected job vramPerGpu gpu) := by
  obtain ⟨modes, offered, exclusive⟩ := same.exclusive
  obtain ⟨health, facts⟩ := known
  have driver : allowsDriver requirements observation = .ok true := by
    rw [allowsDriver, anyDriver]
  have capability : ∀ fact, allowsText requirements.allowedComputeCapabilities
      observation.computeCapability fact = .ok true := by
    intro fact
    rw [allowsText, anyCapability, if_pos rfl]
  unfold matchGpu
  rw [same.healthy, driver, capability, offered, models, same.model]
  cases healthy : gpu.healthy with
  | none => exact absurd healthy health
  | some healthyGpu =>
      cases healthyGpu with
      | false =>
          have unusable : collected job vramPerGpu gpu = none := by simp [collected, Usable, healthy]
          rw [unusable]
          rfl
      | true =>
          obtain ⟨knownModel, knownMemory⟩ := facts healthy
          have model : ∀ fact, allowsText job.allowedGpuModels gpu.model fact =
              .ok (AllowsModel job gpu) := by
            intro fact
            unfold allowsText AllowsModel
            split
            · next free => simp [free]
            · next limited =>
              obtain ⟨model, there⟩ := Option.ne_none_iff_exists'.mp (knownModel limited)
              simp [there, limited, Except.ofOption, bind, Except.bind]
          rw [model]
          cases allows : AllowsModel job gpu with
          | false =>
              have unusable : collected job vramPerGpu gpu = none := by
                simp [collected, Usable, allows]
              rw [unusable]
              rfl
          | true =>
              obtain ⟨available, there⟩ := Option.ne_none_iff_exists'.mp (knownMemory allows)
              have usable : collected job vramPerGpu gpu =
                  if vramPerGpu ≤ available then some (available, gpu.gpuId) else none := by
                simp [collected, Usable, healthy, allows, there, memoryOf]
              have memory : authoritativeVram observation = .ok available := by
                rw [authoritativeVram, same.memory, there]
                rfl
              simp [Except.ofOption, bind, Except.bind, exclusive, memory, usable, same.gpuId]

theorem reduceOption_collected {gpus : List GpuSnapshot} :
    (gpus.map (collected job vramPerGpu)).reduceOption =
      (gpus.filter (Usable job vramPerGpu)).map memoryOf := by
  induction gpus with
  | nil => rfl
  | cons gpu rest ih =>
      cases usable : Usable job vramPerGpu gpu with
      | true => simp [collected, usable, ih]
      | false => simp [collected, usable, ih]

/-- The canonical order of the observations, with the GPU that each of them is of. -/
theorem paired_canonical {gpus ordered : List GpuSnapshot} {observations : List ScopeGpuObservation}
    (same : gpus.Perm ordered) (paired : List.Forall₂ SameGpu ordered observations) :
    ∃ listed, List.Forall₂ SameGpu listed (canonicalGpus observations) ∧ gpus.Perm listed := by
  obtain ⟨listed, pairs, permuted⟩ :=
    List.perm_comp_forall₂ (List.mergeSort_perm observations _) paired.flip
  exact ⟨listed, pairs.flip, same.trans permuted.symm⟩

theorem map_gpuId_of_paired {gpus : List GpuSnapshot} {observations : List ScopeGpuObservation}
    (paired : List.Forall₂ SameGpu gpus observations) :
    observations.map (·.gpuId) = gpus.map (·.gpuId) := by
  induction paired with
  | nil => rfl
  | cons same _ ih => rw [List.map_cons, List.map_cons, ih, same.gpuId]

theorem mapM_matchGpu_of_paired {gpus : List GpuSnapshot} {observations : List ScopeGpuObservation}
    (paired : List.Forall₂ SameGpu gpus observations) (known : ∀ gpu ∈ gpus, Known job gpu)
    (run : SameRun candidate job snapshot requirements) :
    observations.mapM (matchGpu requirements .exclusive vramPerGpu) =
      .ok (gpus.map (collected job vramPerGpu)) := by
  rw [Except.mapM_eq_ok]
  induction paired with
  | nil => exact .nil
  | cons same _ ih =>
      rw [List.forall_mem_cons] at known
      exact .cons (matchGpu_of_same same known.1 run.models run.anyDriver run.anyCapability)
        (ih known.2)

/-- When best fit takes GPUs, the scope is given exactly when all else that it asks for is, and names the
same GPUs. -/
theorem scope_of_fit {fit : ResourceFit} (run : SameRun candidate job snapshot requirements)
    (fits : resourceFit candidate job = .ok fit) :
    (∀ scope, gpuScopeCandidate snapshot requirements resources provenance = .ok scope →
      Complete snapshot requirements resources provenance ∧
        scope.selectedGpuIds = fit.selectedGpuIds) ∧
    (Complete snapshot requirements resources provenance →
      ∃ scope, gpuScopeCandidate snapshot requirements resources provenance = .ok scope) := by
  obtain ⟨required, gpus, vramLeft, gpusLeft, cpuLeft, ramLeft, workspaceLeft, asked, listed, valid,
    known, enough, _, _, _, _, _, fitted⟩ := resourceFit_eq_ok.mp fits
  obtain ⟨count, vram, _⟩ := RankRequirements.fromJob_eq_ok.mp asked
  obtain ⟨sameGpus, ordered, observations, there, permuted, observed, paired, trimmed, distinct⟩ :=
    run.gpus
  obtain rfl : gpus = sameGpus := Option.some.inj (listed.symm.trans there)
  obtain ⟨canonical, pairs, sameListing⟩ := paired_canonical permuted paired
  have checked : validateGpuIds observations = .ok () := by
    refine validateGpuIds_eq_ok.mpr ⟨fun observation member => ?_, ?_⟩
    · obtain ⟨gpu, inOrdered, same⟩ := paired.exists_left member
      have inGpus := permuted.mem_iff.mpr inOrdered
      rw [same.gpuId]
      exact ⟨valid.2 gpu inGpus, trimmed gpu inGpus⟩
    · rw [map_gpuId_of_paired paired]
      exact (permuted.map _).nodup_iff.mp distinct
  have found : (canonicalGpus observations).mapM
      (matchGpu requirements .exclusive required.vramPerGpu) =
        .ok (canonical.map (collected job required.vramPerGpu)) :=
    mapM_matchGpu_of_paired pairs (fun gpu member => known gpu (sameListing.mem_iff.mpr member)) run
  have taken : (canonical.map (collected job required.vramPerGpu)).reduceOption.mergeSort gpuLe =
      (takingOrder job required.vramPerGpu gpus).map memoryOf := by
    rw [reduceOption_collected, map_takingOrder, takingOrder_eq_of_perm sameListing valid.1]
  have ids : sorted ((((takingOrder job required.vramPerGpu gpus).map memoryOf).take
      required.gpuCount.toNat).map Prod.snd) = fit.selectedGpuIds := by
    rw [fitted, ← List.map_take, List.map_map]
    rfl
  have wanted : requirements.minimumGpuCount = some required.gpuCount := run.count.trans count
  have memory : requirements.minimumVramBytesPerGpu = some required.vramPerGpu := run.memory.trans vram
  constructor
  · intro scope done
    simp only [gpuScopeCandidate, missingScope, Except.bind_eq_ok, Except.ofOption_eq_ok,
      Except.ensure_eq_ok, wanted, memory, observed, Option.some.injEq, exists_eq_left',
      exists_const] at done
    obtain ⟨verified, observedAt, isObserved, revision, isRevision, _, anyRuntime, mode, isMode,
      notPartitioned, notShared, cpu, isCpu, ram, isRam, workspace, isWorkspace, given, isGiven, prefixes,
      arePrefixes, _, _, matched, areMatched, _, done⟩ := done
    have exclusive : mode = .exclusive := by
      cases mode with
      | exclusive => rfl
      | shared => exact absurd rfl notShared
      | partitioned => exact absurd rfl notPartitioned
    rw [exclusive, found] at areMatched
    obtain rfl := Except.ok.inj areMatched
    refine ⟨⟨verified, ⟨_, isObserved⟩, ⟨_, isRevision⟩, anyRuntime, exclusive ▸ isMode, ⟨_, isCpu⟩,
      ⟨_, isRam⟩, ⟨_, isWorkspace⟩, ⟨_, _, isGiven, arePrefixes⟩⟩, ?_⟩
    rw [← Except.ok.inj done, ← ids, ← taken]
  · intro complete
    obtain ⟨observedAt, isObserved⟩ := complete.observedAt
    obtain ⟨revision, isRevision⟩ := complete.revision
    obtain ⟨cpu, isCpu⟩ := complete.cpuCores
    obtain ⟨ram, isRam⟩ := complete.ramBytes
    obtain ⟨workspace, isWorkspace⟩ := complete.workspaceBytes
    obtain ⟨given, prefixes, isGiven, arePrefixes⟩ := complete.prefixes
    have positive : required.gpuCount ≠ 0 := fun zero => run.positive (zero ▸ wanted)
    simp only [gpuScopeCandidate, missingScope, Except.bind_eq_ok, Except.ofOption_eq_ok,
      Except.ensure_eq_ok, wanted, memory, observed, isObserved, isRevision, isCpu, isRam, isWorkspace,
      isGiven, arePrefixes, complete.mode, complete.verified, complete.anyRuntime, Option.some.injEq,
      Except.ok.injEq, exists_eq_left', exists_const, checked, found, taken]
    refine ⟨_, trivial, positive, trivial, by decide, by decide, trivial, ?_, rfl⟩
    rwa [List.length_map]

end Agreement

/-- No order in which the observation, the requirements or the resources are listed changes the scope or the
error. When best fit takes GPUs, a scope is given exactly when all else that it asks for is there and valid,
and it names the same GPUs. -/
theorem gpu_scope_agrees_with_fit {snapshot otherSnapshot : GpuObservationSnapshot}
    {requirements otherRequirements : JobGpuRequirements} {resources otherResources : ScopeResourceInput}
    {provenance : ProvenanceGate} (sameSnapshot : SameSnapshot snapshot otherSnapshot)
    (sameRequirements : SameRequirements requirements otherRequirements)
    (sameResources : SameResources resources otherResources) :
    gpuScopeCandidate otherSnapshot otherRequirements otherResources provenance =
      gpuScopeCandidate snapshot requirements resources provenance ∧
    ∀ candidate job fit, SameRun candidate job snapshot requirements →
      resourceFit candidate job = .ok fit →
      ((∃ scope, gpuScopeCandidate snapshot requirements resources provenance = .ok scope) ↔
        Complete snapshot requirements resources provenance) ∧
      ∀ scope, gpuScopeCandidate snapshot requirements resources provenance = .ok scope →
        scope.selectedGpuIds = fit.selectedGpuIds := by
  refine ⟨gpuScopeCandidate_eq_of_same sameSnapshot sameRequirements sameResources, ?_⟩
  intro candidate job fit run fits
  obtain ⟨sound, given⟩ := @scope_of_fit candidate job snapshot requirements resources provenance fit run fits
  refine ⟨⟨?_, given⟩, fun scope done => (sound scope done).2⟩
  rintro ⟨scope, done⟩
  exact (sound scope done).1

def observationOf (gpu : GpuSnapshot) : ScopeGpuObservation where
  gpuId := gpu.gpuId
  healthy := gpu.healthy
  availableVram := gpu.availableVramBytes.map .authoritative
  model := gpu.model
  driverVersion := none
  computeCapability := none
  allocationModes := some {.exclusive}

def threeObserved (gpus : List GpuSnapshot) : GpuObservationSnapshot :=
  ⟨some 100, some 1, some (gpus.map observationOf)⟩

def wantsTwo : JobGpuRequirements := ⟨some 8, some 2, none, none, [], some .exclusive, ["model"]⟩

def roomFor (writablePrefixes : List String) : ScopeResourceInput :=
  ⟨some 2, some 8, some 8, some writablePrefixes⟩

theorem threeGpus_sameRun :
    SameRun threeGpuNode (jobOn 2 8) (threeObserved threeGpus) wantsTwo where
  gpus := by
    refine ⟨threeGpus, threeGpus, threeGpus.map observationOf, rfl, .refl _, rfl, ?_, ?_, ?_⟩
    · rw [List.forall₂_map_right_iff, List.forall₂_same]
      exact fun gpu _ => ⟨rfl, rfl, rfl, rfl, {.exclusive}, rfl, by decide⟩
    · decide +kernel
    · decide
  count := rfl
  memory := rfl
  models := rfl
  anyDriver := rfl
  anyCapability := rfl
  positive := by decide

/-- The scope of two of the three GPUs names those that best fit takes, in whatever order it is asked for. -/
theorem scope_takes_two_of_three :
    ∃ scope, gpuScopeCandidate (threeObserved threeGpus.reverse) wantsTwo (roomFor ["out", "log"])
        .verified = .ok scope ∧ scope.selectedGpuIds = ["gpu-b", "gpu-c"] := by
  have sameSnapshot : SameSnapshot (threeObserved threeGpus) (threeObserved threeGpus.reverse) :=
    ⟨.some ((List.reverse_perm threeGpus).symm.map _), rfl⟩
  have sameRequirements : SameRequirements wantsTwo wantsTwo := ⟨.refl _, .refl _, rfl⟩
  have sameResources : SameResources (roomFor ["log", "out"]) (roomFor ["out", "log"]) :=
    ⟨.some (.swap _ _ _), rfl⟩
  obtain ⟨free, agrees⟩ :=
    @gpu_scope_agrees_with_fit _ _ _ _ _ _ .verified sameSnapshot sameRequirements sameResources
  obtain ⟨given, same⟩ := agrees _ _ _ threeGpus_sameRun threeGpuNode_fits
  have canonical : canonicalPrefixes ["log", "out"] = .ok ["log", "out"] := by
    have ascending : sorted ["log", "out"] = ["log", "out"] :=
      List.mergeSort_of_pairwise (by decide +kernel)
    rw [canonicalPrefixes, sortedDedup, ascending]
    decide +kernel
  have complete : Complete (threeObserved threeGpus) wantsTwo (roomFor ["log", "out"]) .verified :=
    { verified := rfl
      observedAt := ⟨100, rfl⟩
      revision := ⟨1, rfl⟩
      anyRuntime := rfl
      mode := rfl
      cpuCores := ⟨2, rfl⟩
      ramBytes := ⟨8, rfl⟩
      workspaceBytes := ⟨8, rfl⟩
      prefixes := ⟨_, _, rfl, canonical⟩ }
  obtain ⟨scope, done⟩ := given.mpr complete
  exact ⟨scope, free.trans done, same scope done⟩

/-- Best fit does not ask where an observation comes from, and the scope does. -/
theorem fit_without_scope :
    ¬ ∀ candidate job fit snapshot requirements resources provenance,
      SameRun candidate job snapshot requirements → resourceFit candidate job = .ok fit →
      ∃ scope, gpuScopeCandidate snapshot requirements resources provenance = .ok scope ∧
        scope.selectedGpuIds = fit.selectedGpuIds := by
  intro agrees
  obtain ⟨scope, done, _⟩ :=
    agrees _ _ _ _ _ (roomFor []) .unverified threeGpus_sameRun threeGpuNode_fits
  cases done

end Gputeer.Scheduler
