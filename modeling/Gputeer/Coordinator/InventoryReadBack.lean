import Gputeer.Coordinator.InventoryPayload

/-! Rows that stand for a decoded inventory are read back as that inventory: no read of them finds its
columns, its children and its payload at odds. -/

namespace Gputeer.Coordinator

open Protocol Text Scheduler Bytes

namespace InventoryRows

def gpusAt (db : InventoryDb) (nodeId : String) : List GpuInventory :=
  (db.agentInventory[nodeId]?.bind (·.gpus)).getD []

def workloadsAt (db : InventoryDb) (nodeId : String) : Finset WorkloadClass :=
  (db.agentInventory[nodeId]?.bind (·.allowedWorkloadClasses)).getD ∅

/-- The rows are those of the decoded tables, and what is in these is valid and in its normal form. -/
structure Represents (rows : InventoryRows) (db : InventoryDb) : Prop where
  registries : ∀ nodeId : String, rows.agentRegistry[nodeId]? = db.agentRegistry[nodeId]?.map toRawRegistry
  inventories : ∀ nodeId : String, rows.agentInventory[nodeId]? = db.agentInventory[nodeId]?.map toRawInventory
  gpus : ∀ nodeId : String, rows.agentGpus.filter (·.nodeId = nodeId) = (gpusAt db nodeId).map (toRawGpu nodeId)
  workloads : ∀ nodeId : String, rows.agentWorkloadClasses.filter (·.nodeId = nodeId) =
    (workloadsOf (workloadsAt db nodeId)).map (toRawWorkloadClass nodeId)
  registered : ∀ nodeId : String, ∀ registry ∈ db.agentRegistry[nodeId]?,
    registry.nodeId = nodeId ∧ validateRegistry registry = .ok () ∧ registry.Fits
  stored : ∀ nodeId : String, ∀ inventory ∈ db.agentInventory[nodeId]?,
    inventory.nodeId = nodeId ∧ inventory.Normalized ∧ inventory.Fits

theorem represents_empty : Represents empty InventoryDb.empty := by
  constructor <;> intro nodeId <;> simp [empty, InventoryDb.empty, gpusAt, workloadsAt, workloadsOf]

theorem intoRegistry_toRaw {registry : AgentRegistry} (valid : validateRegistry registry = .ok ()) :
    (toRawRegistry registry).intoRegistry = .ok registry := by
  simp only [RawRegistry.intoRegistry, toRawRegistry, Except.onSome_map (EnumCodec.parse_toCode _),
    Except.bind_eq_ok, Except.mapError_eq_ok, Except.ok.injEq]
  exact ⟨_, rfl, _, rfl, _, rfl, _, rfl, _, rfl, (), valid, (), Except.ensure_eq_ok.mpr rfl, rfl⟩

theorem intoGpu_toRaw (nodeId : String) (gpu : GpuInventory) : (toRawGpu nodeId gpu).intoGpu = .ok gpu := by
  simp only [RawGpu.intoGpu, toRawGpu, Except.onSome_map (parseBool_boolToI64 _),
    Except.onSome_map (decodeU64_encodeU64 _), Except.bind_eq_ok]
  exact ⟨_, rfl, _, rfl, rfl⟩

/-- Each text is new to the set, whatever their order is. -/
theorem insertWorkloads {values : List WorkloadClass} {found : Finset WorkloadClass} (nodup : values.Nodup)
    (fresh : ∀ value ∈ values, value ∉ found) :
    (values.map workloadClassCodec.toCode).foldlM insertWorkload found = .ok (found ∪ values.toFinset) := by
  induction values generalizing found with
  | nil => simp [pure, Except.pure]
  | cons value values ih =>
      obtain ⟨new, nodup⟩ := List.nodup_cons.mp nodup
      have inserted : insertWorkload found (workloadClassCodec.toCode value) = .ok (insert value found) := by
        simp only [insertWorkload, EnumCodec.parse_toCode, Except.bind_eq_ok, Except.ensure_eq_ok, Except.ok.injEq]
        exact ⟨value, rfl, (), fresh value List.mem_cons_self, rfl⟩
      have later := @ih (insert value found) nodup ?_
      · rw [List.map_cons, List.foldlM_cons, inserted]
        refine later.trans (congrArg Except.ok ?_)
        ext each
        simp only [Finset.mem_union, Finset.mem_insert, List.mem_toFinset, List.mem_cons]
        tauto
      · intro each listed there
        rcases Finset.mem_insert.mp there with rfl | there
        · exact new listed
        · exact fresh each (List.mem_cons_of_mem _ listed) there

theorem workloadsOf_nodup (workloads : Finset WorkloadClass) : (workloadsOf workloads).Nodup :=
  List.Nodup.filter _ (by decide)

variable {rows : InventoryRows} {db : InventoryDb}

theorem fetchRegistry_eq (represents : Represents rows db) (nodeId : String) :
    fetchRegistry rows nodeId = .ok db.agentRegistry[nodeId]? := by
  rw [fetchRegistry, represents.registries]
  cases found : db.agentRegistry[nodeId]? with
  | none => rfl
  | some registry =>
      obtain ⟨_, valid, _⟩ := represents.registered nodeId registry found
      simp only [Option.map_some, Except.onSome, Except.map_eq_ok]
      exact ⟨registry, intoRegistry_toRaw valid, rfl⟩

theorem gpusAt_sorted (represents : Represents rows db) (nodeId : String) :
    sortedGpus (gpusAt db nodeId) = gpusAt db nodeId := by
  unfold gpusAt
  cases found : db.agentInventory[nodeId]? with
  | none => simp [sortedGpus]
  | some inventory =>
      obtain ⟨_, normal, _⟩ := represents.stored nodeId inventory found
      cases gpus : inventory.gpus with
      | none => simp [gpus, sortedGpus]
      | some listed => simpa [gpus] using sorted_of_normalized normal listed gpus

theorem fetchGpus_eq (represents : Represents rows db) (nodeId : String) :
    fetchGpus rows nodeId = .ok (gpusAt db nodeId) := by
  have sorted : (sortedGpus (gpusAt db nodeId)).map (toRawGpu nodeId) =
      ((gpusAt db nodeId).map (toRawGpu nodeId)).mergeSort fun left right => left.gpuId ≤ right.gpuId :=
    List.map_mergeSort fun _ _ _ _ => rfl
  rw [gpusAt_sorted represents] at sorted
  rw [fetchGpus, represents.gpus, ← sorted, Except.mapM_eq_ok, List.forall₂_map_left_iff, List.forall₂_same]
  exact fun gpu _ => intoGpu_toRaw nodeId gpu

theorem fetchWorkloads_eq (represents : Represents rows db) (nodeId : String) :
    fetchWorkloads rows nodeId = .ok (workloadsAt db nodeId) := by
  have sorted : ((workloadsOf (workloadsAt db nodeId)).mergeSort fun left right =>
      workloadClassCodec.toCode left ≤ workloadClassCodec.toCode right).map workloadClassCodec.toCode =
      ((workloadsOf (workloadsAt db nodeId)).map workloadClassCodec.toCode).mergeSort
        fun left right => left ≤ right :=
    List.map_mergeSort fun _ _ _ _ => rfl
  have nodup := (List.mergeSort_perm (workloadsOf (workloadsAt db nodeId)) fun left right =>
    workloadClassCodec.toCode left ≤ workloadClassCodec.toCode right).nodup_iff.mpr (workloadsOf_nodup _)
  have texts : ((workloadsOf (workloadsAt db nodeId)).map (toRawWorkloadClass nodeId)).map (·.workloadClass) =
      (workloadsOf (workloadsAt db nodeId)).map workloadClassCodec.toCode := by
    rw [List.map_map]
    rfl
  rw [fetchWorkloads, represents.workloads, texts, ← sorted,
    insertWorkloads nodup fun value _ => Finset.notMem_empty value]
  congr 1
  ext value
  simp [mem_workloadsOf]

theorem ifObserved_some {α : Type} {field what : String} {children : α} {isEmpty : Bool} :
    ifObserved (boolToI64 true) field what children isEmpty = .ok (some children) := rfl

theorem ifObserved_none {α : Type} {field what : String} {children : α} :
    ifObserved (boolToI64 false) field what children true = .ok none := rfl

theorem intoInventory_toRaw (represents : Represents rows db) {nodeId : String} {inventory : AgentInventory}
    (found : db.agentInventory[nodeId]? = some inventory) :
    (toRawInventory inventory).intoInventory rows nodeId = .ok inventory := by
  obtain ⟨_, normal, _⟩ := represents.stored nodeId inventory found
  have gpus : ifObserved (boolToI64 inventory.gpus.isSome) "gpus_observed" "GPU" (gpusAt db nodeId)
      (gpusAt db nodeId).isEmpty = .ok inventory.gpus := by
    rw [gpusAt, found]
    cases declared : inventory.gpus <;> simp [declared, ifObserved_some, ifObserved_none]
  have workloads : ifObserved (boolToI64 inventory.allowedWorkloadClasses.isSome) "workload_classes_observed"
      "workload" (workloadsAt db nodeId) (workloadsAt db nodeId = ∅) =
        .ok inventory.allowedWorkloadClasses := by
    rw [workloadsAt, found]
    cases allowed : inventory.allowedWorkloadClasses <;> simp [allowed, ifObserved_some, ifObserved_none]
  have cores : Except.onSome toU32 (inventory.availableCpuCores.map (·.toUInt64)) = .ok inventory.availableCpuCores :=
    Except.onSome_map toU32_toUInt64 _
  have coreBytes : inventory.availableCpuCores.map (fun value => encodeU64 value.toUInt64) =
      (inventory.availableCpuCores.map (·.toUInt64)).map encodeU64 := by
    rw [Option.map_map]
    rfl
  simp only [RawInventory.intoInventory, toRawInventory, fetchGpus_eq represents, fetchWorkloads_eq represents,
    coreBytes, Except.onSome_map (decodeU64_encodeU64 _), Except.onSome_map (parseBool_boolToI64 _),
    decodeU64_encodeU64, Except.bind_eq_ok, Except.mapError_eq_ok, Except.ensure_eq_ok, Except.ok.injEq]
  exact ⟨_, rfl, _, gpus, _, rfl, _, workloads, _, rfl, _, cores, _, rfl, _, rfl, _, rfl, _, rfl, _, rfl, (),
    valid_of_normalized normal, (), rfl, rfl⟩

theorem fetchInventory_eq (represents : Represents rows db) (nodeId : String) :
    fetchInventory rows nodeId = .ok db.agentInventory[nodeId]? := by
  rw [fetchInventory, represents.inventories]
  cases found : db.agentInventory[nodeId]? with
  | none => rfl
  | some inventory =>
      simp only [Option.map_some, Except.onSome, Except.map_eq_ok]
      exact ⟨inventory, intoInventory_toRaw represents found, rfl⟩

end InventoryRows

end Gputeer.Coordinator
