import Gputeer.Coordinator.ControlDb
import Gputeer.Scheduler.Verdicts

/-! Best fit takes the GPUs that leave the least memory unused, and of those that leave the same the ones with
the first ids. -/

namespace Gputeer.Scheduler

open DerivedOrder Text

variable {job : JobRequirements} {vramPerGpu : UInt64} {gpus others : List GpuSnapshot}
  {candidate : CandidateSnapshot} {fit : ResourceFit}

section Taking

/-- The order of the pairs of memory and id. -/
def gpuOrder : UInt64 × String → UInt64 × String → Ordering :=
  compareLex (compareOn Prod.fst) (compareOn Prod.snd)

instance : Std.TransCmp gpuOrder := inferInstanceAs (Std.TransCmp (compareLex _ _))

theorem eq_of_gpuOrder {left right : UInt64 × String} (same : gpuOrder left right = .eq) :
    left = right := by
  change (compare left.1 right.1).then (compare left.2 right.2) = .eq at same
  rw [Ordering.then_eq_eq] at same
  exact Prod.ext (Std.LawfulEqCmp.eq_of_compare same.1) (Std.LawfulEqCmp.eq_of_compare same.2)

theorem gpuLe_eq : gpuLe = fun left right => (gpuOrder left right).isLE := by
  funext left right
  rw [Bool.eq_iff_iff, gpuLe, decide_eq_true_eq]
  change _ ↔ ((compare left.1 right.1).then (compare left.2 right.2)).isLE
  rw [Ordering.isLE_then_iff_or, Std.compare_eq_lt, Std.compare_eq_iff_eq, isLE_compare_text]

/-- The usable GPUs, in the order in which they are taken. -/
def takingOrder (job : JobRequirements) (vramPerGpu : UInt64) (gpus : List GpuSnapshot) :
    List GpuSnapshot :=
  (gpus.filter (Usable job vramPerGpu)).mergeSort fun left right =>
    (gpuOrder (memoryOf left) (memoryOf right)).isLE

theorem map_takingOrder :
    ((gpus.filter (Usable job vramPerGpu)).map memoryOf).mergeSort gpuLe =
      (takingOrder job vramPerGpu gpus).map memoryOf := by
  rw [gpuLe_eq]
  symm
  apply List.map_mergeSort
  intro _ _ _ _
  rfl

theorem takingOrder_perm : (takingOrder job vramPerGpu gpus).Perm (gpus.filter (Usable job vramPerGpu)) :=
  List.mergeSort_perm _ _

theorem mem_takingOrder {gpu : GpuSnapshot} :
    gpu ∈ takingOrder job vramPerGpu gpus ↔ gpu ∈ gpus ∧ Usable job vramPerGpu gpu :=
  takingOrder_perm.mem_iff.trans List.mem_filter

/-- GPUs that differ in their ids are taken in one order, however they are listed. -/
theorem takingOrder_eq_of_perm (same : gpus.Perm others) (distinct : (gpus.map (·.gpuId)).Nodup) :
    takingOrder job vramPerGpu gpus = takingOrder job vramPerGpu others := by
  have := List.transCmp_comap gpuOrder memoryOf
  refine (same.filter _).mergeSort_isLE_of_mem fun left leftIn right rightIn equal => ?_
  have sameId : left.gpuId = right.gpuId := congrArg Prod.snd (eq_of_gpuOrder equal)
  exact List.inj_on_of_nodup_map distinct (List.mem_of_mem_filter leftIn)
    (List.mem_of_mem_filter rightIn) sameId

theorem pairwise_takingOrder : (takingOrder job vramPerGpu gpus).Pairwise fun left right =>
    (gpuOrder (memoryOf left) (memoryOf right)).isLE := by
  have := List.transCmp_comap gpuOrder memoryOf
  exact List.pairwise_mergeSort_isLE

end Taking

section Ids

variable {nodeId : String}

theorem checkGpuIds_valid {seen : List String} (checked : checkGpuIds nodeId seen gpus = .ok ()) :
    GpuIdsValid gpus ∧ ∀ gpu ∈ gpus, gpu.gpuId ∉ seen := by
  induction gpus generalizing seen with
  | nil => exact ⟨⟨List.nodup_nil, by simp⟩, by simp⟩
  | cons gpu rest ih =>
      simp only [checkGpuIds, Except.bind_eq_ok, Except.ensure_eq_ok] at checked
      obtain ⟨_, filled, _, unseen, checked⟩ := checked
      obtain ⟨⟨distinct, restFilled⟩, restUnseen⟩ := ih checked
      have fresh : gpu.gpuId ∉ rest.map (·.gpuId) := by
        intro again
        obtain ⟨other, member, same⟩ := List.mem_map.mp again
        exact restUnseen other member (same ▸ List.mem_cons_self)
      refine ⟨⟨List.nodup_cons.mpr ⟨fresh, distinct⟩, ?_⟩, ?_⟩
      · exact List.forall_mem_cons.mpr ⟨filled, restFilled⟩
      · refine List.forall_mem_cons.mpr ⟨unseen, fun other member earlier => ?_⟩
        exact restUnseen other member (List.mem_cons_of_mem _ earlier)

theorem checkGpuIds_eq_ok_iff : checkGpuIds nodeId [] gpus = .ok () ↔ GpuIdsValid gpus :=
  ⟨fun checked => (checkGpuIds_valid checked).1, fun valid => checkGpuIds_eq_ok valid (by simp)⟩

theorem GpuIdsValid.perm (valid : GpuIdsValid gpus) (same : gpus.Perm others) : GpuIdsValid others :=
  ⟨(same.map _).nodup_iff.mp valid.1, fun gpu member => valid.2 gpu (same.mem_iff.mpr member)⟩

end Ids

section Fit

variable {other : CandidateSnapshot}

/-- The fit of a candidate, by the order in which its GPUs are taken. -/
theorem resourceFit_eq_ok : resourceFit candidate job = .ok fit ↔
    ∃ required gpus vramLeft gpusLeft cpuLeft ramLeft workspaceLeft,
      RankRequirements.fromJob job = .ok required ∧ candidate.gpus = some gpus ∧ GpuIdsValid gpus ∧
      (∀ gpu ∈ gpus, Known job gpu) ∧
      required.gpuCount.toNat ≤ (takingOrder job required.vramPerGpu gpus).length ∧
      sumLeftOver required.vramPerGpu (((takingOrder job required.vramPerGpu gpus).take
        required.gpuCount.toNat).map memoryOf) 0 = some vramLeft ∧
      countLeftOver candidate.nodeId ((takingOrder job required.vramPerGpu gpus).length -
        required.gpuCount.toNat) = .ok gpusLeft ∧
      remaining candidate.nodeId candidate.availableCpuCores required.cpuCores .availableCpu .cpu =
        .ok cpuLeft ∧
      remaining candidate.nodeId candidate.availableRamBytes required.ramBytes .availableRam .ram =
        .ok ramLeft ∧
      remaining candidate.nodeId candidate.availableWorkspaceBytes required.workspaceBytes
        .availableWorkspace .workspace = .ok workspaceLeft ∧
      fit = ⟨⟨vramLeft, gpusLeft, cpuLeft, ramLeft, workspaceLeft⟩,
        sorted (((takingOrder job required.vramPerGpu gpus).take required.gpuCount.toNat).map
          (·.gpuId))⟩ := by
  have ids : ∀ taken : List GpuSnapshot, (taken.map memoryOf).map Prod.snd = taken.map (·.gpuId) :=
    fun taken => List.map_map
  simp only [resourceFit, Except.bind_eq_ok, Except.ofOption_eq_ok, Except.ensure_eq_ok,
    matchingGpus_eq_ok, Except.ok.injEq]
  constructor
  · rintro ⟨required, asked, gpus, listed, _, checked, _, ⟨known, rfl⟩, _, enough, vramLeft, summed,
      gpusLeft, counted, _, _, cpuLeft, cpu, ramLeft, ram, workspaceLeft, workspace, rfl⟩
    rw [map_takingOrder] at enough summed counted
    rw [List.length_map] at enough counted
    rw [← List.map_take] at summed
    refine ⟨required, gpus, vramLeft, gpusLeft, cpuLeft, ramLeft, workspaceLeft, asked, listed,
      checkGpuIds_eq_ok_iff.mp checked, known, enough, summed, counted, cpu, ram, workspace, ?_⟩
    rw [map_takingOrder, ← List.map_take, ids]
  · rintro ⟨required, gpus, vramLeft, gpusLeft, cpuLeft, ramLeft, workspaceLeft, asked, listed, valid,
      known, enough, summed, counted, cpu, ram, workspace, rfl⟩
    refine ⟨required, asked, gpus, listed, (), checkGpuIds_eq_ok_iff.mpr valid, _, ⟨known, rfl⟩, (), ?_,
      vramLeft, ?_, gpusLeft, ?_, (), ?_, cpuLeft, cpu, ramLeft, ram, workspaceLeft, workspace, ?_⟩
    · rwa [map_takingOrder, List.length_map]
    · rwa [map_takingOrder, ← List.map_take]
    · rwa [map_takingOrder, List.length_map]
    · rw [map_takingOrder, ← List.map_take, ids, sorted, List.length_mergeSort, List.length_map,
        List.length_take, min_eq_left enough]
    · rw [map_takingOrder, ← List.map_take, ids]

/-- The fit does not hang on the order of the inventory. -/
theorem resourceFit_of_same (same : SameCandidate candidate other)
    (fits : resourceFit candidate job = .ok fit) : resourceFit other job = .ok fit := by
  obtain ⟨required, gpus, vramLeft, gpusLeft, cpuLeft, ramLeft, workspaceLeft, asked, listed, valid,
    known, enough, summed, counted, cpu, ram, workspace, rfl⟩ := resourceFit_eq_ok.mp fits
  have permuted := same.gpus
  rw [listed] at permuted
  cases there : other.gpus with
  | none =>
      rw [there] at permuted
      cases permuted
  | some others =>
      rw [there] at permuted
      cases permuted with
      | some permuted =>
          have order : takingOrder job required.vramPerGpu gpus =
              takingOrder job required.vramPerGpu others := takingOrder_eq_of_perm permuted valid.1
          rw [resourceFit_eq_ok]
          refine ⟨required, others, vramLeft, gpusLeft, cpuLeft, ramLeft, workspaceLeft, asked, there,
            valid.perm permuted, fun gpu member => known gpu (permuted.mem_iff.mpr member), ?_⟩
          rw [same.rest, ← order]
          exact ⟨enough, summed, counted, cpu, ram, workspace, rfl⟩

end Fit

section Waste

variable {count : UInt32} {chosen : List GpuSnapshot}

/-- As many different GPUs of the node as the job wants, each of which it can use. -/
structure Choice (job : JobRequirements) (vramPerGpu : UInt64) (count : UInt32)
    (gpus chosen : List GpuSnapshot) : Prop where
  distinct : chosen.Nodup
  listed : ∀ gpu ∈ chosen, gpu ∈ gpus
  usable : ∀ gpu ∈ chosen, Usable job vramPerGpu gpu
  count : chosen.length = count.toNat

/-- The memory of a GPU that the job leaves unused. -/
def unused (vramPerGpu : UInt64) (gpu : GpuSnapshot) : ℕ :=
  (gpu.availableVramBytes.getD 0).toNat - vramPerGpu.toNat

def leftOver (vramPerGpu : UInt64) (chosen : List GpuSnapshot) : ℕ :=
  (chosen.map (unused vramPerGpu)).sum

/-- The GPU with less memory comes first, and of two with the same the one with the first id. -/
def TakenBefore (one other : GpuSnapshot) : Prop :=
  one.availableVramBytes.getD 0 < other.availableVramBytes.getD 0 ∨
    one.availableVramBytes.getD 0 = other.availableVramBytes.getD 0 ∧ one.gpuId < other.gpuId

theorem takenBefore_iff {one other : GpuSnapshot} :
    TakenBefore one other ↔ gpuOrder (memoryOf one) (memoryOf other) = .lt := by
  change _ ↔ (compare _ _).then (compare one.gpuId other.gpuId) = .lt
  rw [Ordering.then_eq_lt, Std.compare_eq_lt, Std.compare_eq_iff_eq, compare_eq_lt_text]
  rfl

theorem wanted_le_of_usable {gpu : GpuSnapshot} (usable : Usable job vramPerGpu gpu) :
    vramPerGpu ≤ gpu.availableVramBytes.getD 0 := by
  obtain ⟨_, _, available, has, above⟩ := usable_iff.mp usable
  rw [Option.mem_def] at has
  rwa [has]

theorem sum_memory_eq (usable : ∀ gpu ∈ chosen, Usable job vramPerGpu gpu) :
    ((chosen.map memoryOf).map (·.1.toNat)).sum =
      leftOver vramPerGpu chosen + chosen.length * vramPerGpu.toNat := by
  induction chosen with
  | nil => simp [leftOver]
  | cons gpu rest ih =>
      rw [List.forall_mem_cons] at usable
      have after := ih usable.2
      have above := UInt64.le_iff_toNat_le.mp (wanted_le_of_usable usable.1)
      simp only [leftOver, List.map_cons, List.sum_cons, List.length_cons, Nat.succ_mul, unused,
        memoryOf] at *
      omega

/-- No choice leaves less unused than the GPUs that are taken first. -/
theorem Choice.leftOver_take_le (choice : Choice job vramPerGpu count gpus chosen) :
    leftOver vramPerGpu ((takingOrder job vramPerGpu gpus).take count.toNat) ≤
      leftOver vramPerGpu chosen := by
  have ascending : (takingOrder job vramPerGpu gpus).Pairwise fun left right =>
      unused vramPerGpu left ≤ unused vramPerGpu right := by
    refine pairwise_takingOrder.imp fun {left right} below => ?_
    change ((compare (memoryOf left).1 (memoryOf right).1).then _).isLE at below
    have less : (memoryOf left).1 ≤ (memoryOf right).1 :=
      Std.isLE_compare.mp (Ordering.isLE_left_of_isLE_then below)
    exact Nat.sub_le_sub_right (UInt64.le_iff_toNat_le.mp less) _
  have among : chosen.Subperm (takingOrder job vramPerGpu gpus) :=
    List.subperm_of_subset choice.distinct fun gpu member =>
      mem_takingOrder.mpr ⟨choice.listed gpu member, choice.usable gpu member⟩
  rw [← choice.count]
  exact List.sum_take_le_of_subperm ascending among

/-- What is taken comes before what is left. -/
theorem takenBefore_of_take (valid : GpuIdsValid gpus) {taken gpu : GpuSnapshot} {n : ℕ}
    (isTaken : taken ∈ (takingOrder job vramPerGpu gpus).take n)
    (listed : gpu ∈ takingOrder job vramPerGpu gpus)
    (isLeft : gpu ∉ (takingOrder job vramPerGpu gpus).take n) : TakenBefore taken gpu := by
  have both := List.take_append_drop n (takingOrder job vramPerGpu gpus)
  have later : gpu ∈ (takingOrder job vramPerGpu gpus).drop n := by
    rw [← both] at listed
    exact (List.mem_append.mp listed).resolve_left isLeft
  have ascending : (takingOrder job vramPerGpu gpus).Pairwise _ := pairwise_takingOrder
  rw [← both, List.pairwise_append] at ascending
  have below := ascending.2.2 taken isTaken gpu later
  rw [takenBefore_iff]
  cases compared : gpuOrder (memoryOf taken) (memoryOf gpu) with
  | lt => rfl
  | gt =>
      rw [compared] at below
      cases below
  | eq =>
      have sameId : taken.gpuId = gpu.gpuId := congrArg Prod.snd (eq_of_gpuOrder compared)
      have takenListed := (mem_takingOrder.mp (List.mem_of_mem_take isTaken)).1
      have same := List.inj_on_of_nodup_map valid.1 takenListed (mem_takingOrder.mp listed).1 sameId
      exact absurd (same ▸ isTaken) isLeft

end Waste

section Canonical

open Coordinator

theorem checkAdjacentGpuIds_of_pairwise {gpuIds : List String} (ascending : gpuIds.Pairwise (· < ·)) :
    checkAdjacentGpuIds gpuIds = .ok () := by
  induction gpuIds with
  | nil => rfl
  | cons first rest ih =>
      cases rest with
      | nil => rfl
      | cons second rest =>
          rw [List.pairwise_cons] at ascending
          have below : first < second := ascending.1 second List.mem_cons_self
          rw [checkAdjacentGpuIds, if_neg below.ne, if_neg (not_lt.mpr below.le)]
          exact ih ascending.2

/-- Ids without repetition ascend once they are sorted. -/
theorem pairwise_sorted_ids {gpuIds : List String} (distinct : gpuIds.Nodup) :
    (sorted gpuIds).Pairwise (· < ·) := by
  have nodup : (sorted gpuIds).Nodup := (List.mergeSort_perm _ _).nodup_iff.mpr distinct
  have ascending : (sorted gpuIds).Pairwise fun left right => compare left right = .lt :=
    List.pairwise_mergeSort_isLE.lt_of_nodup nodup
  exact ascending.imp fun below => (compare_eq_lt_text _ _).mp below

theorem validateSelectedGpuIds_of_pairwise {gpuIds : List String} (ascending : gpuIds.Pairwise (· < ·))
    (filled : ∀ gpuId ∈ gpuIds, isBlank gpuId = false) (some : gpuIds ≠ []) :
    validateSelectedGpuIds gpuIds = .ok () := by
  simp only [validateSelectedGpuIds, Except.bind_eq_ok, Except.ensure_eq_ok]
  refine ⟨(), some, (), ?_, checkAdjacentGpuIds_of_pairwise ascending⟩
  rw [List.any_eq_false]
  exact fun gpuId member => by rw [filled gpuId member]; decide

end Canonical

/-- The GPUs of a fit leave the least memory unused of all choices, come before the ones that are left, and
are the same however the node lists them. Their ids are in the order that a reservation asks for. -/
theorem resource_fit_wastes_least {candidate : CandidateSnapshot} {job : JobRequirements}
    {fit : ResourceFit} (fits : resourceFit candidate job = .ok fit) :
    ∃ gpus count vramPerGpu selected, candidate.gpus = some gpus ∧ job.minimumGpuCount = some count ∧
      job.minimumVramBytesPerGpu = some vramPerGpu ∧ Choice job vramPerGpu count gpus selected ∧
      fit.selectedGpuIds.Perm (selected.map (·.gpuId)) ∧
      fit.fitKey.vramRemainingBytes.toNat = leftOver vramPerGpu selected ∧
      (∀ chosen, Choice job vramPerGpu count gpus chosen →
        leftOver vramPerGpu selected ≤ leftOver vramPerGpu chosen) ∧
      (∀ gpu ∈ gpus, Usable job vramPerGpu gpu → gpu ∉ selected →
        ∀ taken ∈ selected, TakenBefore taken gpu) ∧
      (∀ other, SameCandidate candidate other → resourceFit other job = .ok fit) ∧
      fit.selectedGpuIds.Pairwise (· < ·) ∧
      (count ≠ 0 → Coordinator.validateSelectedGpuIds fit.selectedGpuIds = .ok ()) := by
  obtain ⟨required, gpus, vramLeft, gpusLeft, cpuLeft, ramLeft, workspaceLeft, asked, listed, valid, _,
    enough, summed, _, _, _, _, fitted⟩ := resourceFit_eq_ok.mp fits
  obtain ⟨count, vram, _⟩ := RankRequirements.fromJob_eq_ok.mp asked
  have members : ∀ gpu ∈ (takingOrder job required.vramPerGpu gpus).take required.gpuCount.toNat,
      gpu ∈ gpus ∧ Usable job required.vramPerGpu gpu := fun gpu member =>
    mem_takingOrder.mp (List.mem_of_mem_take member)
  have distinct : (((takingOrder job required.vramPerGpu gpus).take required.gpuCount.toNat).map
      (·.gpuId)).Nodup := by
    have all : ((takingOrder job required.vramPerGpu gpus).map (·.gpuId)).Nodup :=
      (takingOrder_perm.map _).nodup_iff.mpr (valid.1.sublist (List.filter_sublist.map _))
    exact all.sublist ((List.take_sublist _ _).map _)
  have choice : Choice job required.vramPerGpu required.gpuCount gpus
      ((takingOrder job required.vramPerGpu gpus).take required.gpuCount.toNat) :=
    { distinct := List.Nodup.of_map _ distinct
      listed := fun gpu member => (members gpu member).1
      usable := fun gpu member => (members gpu member).2
      count := by rw [List.length_take, min_eq_left enough] }
  have rest := sumLeftOver_eq_some (by
    intro pair member
    obtain ⟨gpu, taken, rfl⟩ := List.mem_map.mp member
    exact wanted_le_of_usable (members gpu taken).2) summed
  have sums := sum_memory_eq choice.usable
  have ascending : fit.selectedGpuIds.Pairwise (· < ·) := by
    rw [fitted]
    exact pairwise_sorted_ids distinct
  refine ⟨gpus, required.gpuCount, required.vramPerGpu, _, listed, count, vram, choice, ?_, ?_,
    fun chosen other => other.leftOver_take_le, ?_, fun other same => resourceFit_of_same same fits,
    ascending, ?_⟩
  · rw [fitted]
    exact List.mergeSort_perm _ _
  · rw [fitted]
    rw [List.length_map, UInt64.toNat_zero, Nat.zero_add] at rest
    change vramLeft.toNat = _
    omega
  · intro gpu there usable isLeft taken isTaken
    exact takenBefore_of_take valid isTaken (mem_takingOrder.mpr ⟨there, usable⟩) isLeft
  · intro wants
    refine validateSelectedGpuIds_of_pairwise ascending ?_ ?_
    · intro gpuId member
      rw [fitted, mem_sorted] at member
      obtain ⟨gpu, taken, rfl⟩ := List.mem_map.mp member
      exact valid.2 gpu (members gpu taken).1
    · intro none
      rw [fitted] at none
      have length := congrArg List.length none
      rw [sorted, List.length_mergeSort, List.length_map, choice.count, List.length_nil] at length
      exact wants (UInt32.toNat_inj.mp length)

def threeGpus : List GpuSnapshot :=
  [healthyGpu "gpu-c" 12, healthyGpu "gpu-a" 40, healthyGpu "gpu-b" 12]

def threeGpuNode : CandidateSnapshot := nodeWith threeGpus 4

theorem threeGpuNode_fits :
    resourceFit threeGpuNode (jobOn 2 8) = .ok ⟨⟨8, 1, 2, 8, 8⟩, ["gpu-b", "gpu-c"]⟩ := by
  have order : takingOrder (jobOn 2 8) 8 threeGpus =
      [healthyGpu "gpu-b" 12, healthyGpu "gpu-c" 12, healthyGpu "gpu-a" 40] := by
    have listed : threeGpus.Perm
        [healthyGpu "gpu-b" 12, healthyGpu "gpu-c" 12, healthyGpu "gpu-a" 40] := by
      decide
    rw [takingOrder_eq_of_perm listed (by decide)]
    exact List.mergeSort_of_pairwise (by decide +kernel)
  have ids : sorted ["gpu-b", "gpu-c"] = ["gpu-b", "gpu-c"] :=
    List.mergeSort_of_pairwise (by decide +kernel)
  refine resourceFit_eq_ok.mpr ⟨⟨2, 8, 2, 8, 8⟩, threeGpus, 8, 1, 2, 8, 8, rfl, rfl, ?_, ?_, ?_⟩
  · exact ⟨by decide, by decide +kernel⟩
  · rintro gpu member
    simp only [threeGpus, List.mem_cons, List.not_mem_nil, or_false] at member
    rcases member with rfl | rfl | rfl <;> simp [Known, healthyGpu]
  · rw [order, ← ids]
    exact ⟨by decide, rfl, rfl, rfl, rfl, rfl, rfl⟩

/-- Two of three GPUs leave eight bytes unused, and no other two leave less. -/
theorem three_gpus_leave_eight :
    ∃ fit selected, resourceFit threeGpuNode (jobOn 2 8) = .ok fit ∧
      fit.selectedGpuIds = ["gpu-b", "gpu-c"] ∧ leftOver 8 selected = 8 ∧
      ∃ gpus, threeGpuNode.gpus = some gpus ∧
        ∀ chosen, Choice (jobOn 2 8) 8 2 gpus chosen → 8 ≤ leftOver 8 chosen := by
  obtain ⟨gpus, count, vramPerGpu, selected, listed, counted, wanted, _, _, left, least, _⟩ :=
    resource_fit_wastes_least threeGpuNode_fits
  obtain rfl : 2 = count := Option.some.inj counted
  obtain rfl : 8 = vramPerGpu := Option.some.inj wanted
  have eight : leftOver 8 selected = 8 := left.symm
  refine ⟨_, selected, threeGpuNode_fits, rfl, eight, gpus, listed, fun chosen choice => ?_⟩
  exact eight.symm.le.trans (least chosen choice)

end Gputeer.Scheduler
