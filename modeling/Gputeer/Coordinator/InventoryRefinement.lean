import Gputeer.Coordinator.InventoryReadBack
import Gputeer.Coordinator.InventoryRuns

/-! What the calls do to the rows is what they do to the decoded tables. -/

namespace Gputeer.Coordinator

open Protocol Text Scheduler Transaction Body

namespace InventoryRows

variable {rows later : InventoryRows} {file : CoordinatorFile}

@[simp] theorem does_checked {α : Type} {result : Except InventoryStoreError α} {answer : α} :
    Does (checked result) rows answer later ↔ result = .ok answer ∧ later = rows := by
  rw [checked, does_ofExcept, Except.mapError_eq_ok]

section Register

variable {registry : AgentRegistry} {result : RegisterAgentResult}

def registeredRows (rows : InventoryRows) (registry : AgentRegistry) : InventoryRows :=
  { rows with agentRegistry := rows.agentRegistry.insert registry.nodeId (toRawRegistry registry) }

theorem mem_agentRegistry_rows (represents : Represents rows file.inventory) {raw : RawRegistry} :
    raw ∈ rows.agentRegistry.rows ↔
      ∃ stored ∈ file.inventory.agentRegistry.rows, toRawRegistry stored = raw := by
  simp only [Table.mem_rows, represents.registries, Option.map_eq_some_iff]
  constructor
  · rintro ⟨nodeId, stored, found, same⟩
    exact ⟨stored, ⟨nodeId, found⟩, same⟩
  · rintro ⟨stored, ⟨nodeId, found⟩, same⟩
    exact ⟨nodeId, stored, found, same⟩

theorem registryIdentityExists_eq_false (represents : Represents rows file.inventory) :
    registryIdentityExists registry rows = false ↔
      ∀ other ∈ file.inventory.agentRegistry.rows, other.deviceId ≠ registry.deviceId := by
  simp only [registryIdentityExists, List.any_eq_false, mem_agentRegistry_rows represents, decide_eq_true_eq]
  constructor
  · exact fun free other listed => free _ ⟨other, listed, rfl⟩
  · rintro free _ ⟨other, listed, rfl⟩
    exact free other listed

theorem registryKeyExists_eq_false (represents : Represents rows file.inventory) :
    registryKeyExists registry rows = false ↔
      ∀ other ∈ file.inventory.agentRegistry.rows, other.verifyingKey ≠ registry.verifyingKey := by
  simp only [registryKeyExists, List.any_eq_false, mem_agentRegistry_rows represents, decide_eq_true_eq]
  constructor
  · exact fun free other listed => free _ ⟨other, listed, rfl⟩
  · rintro free _ ⟨other, listed, rfl⟩
    exact free other listed

theorem registerAgentInTx_new (represents : Represents rows file.inventory)
    (absent : file.inventory.agentRegistry[registry.nodeId]? = none) :
    Does (registerAgentInTx registry) rows result later ↔
      (∀ other ∈ file.inventory.agentRegistry.rows, other.deviceId ≠ registry.deviceId) ∧
      (∀ other ∈ file.inventory.agentRegistry.rows, other.verifyingKey ≠ registry.verifyingKey) ∧
      result = ⟨registry, true⟩ ∧ later = registeredRows rows registry := by
  have fetched := fetchRegistry_eq represents registry.nodeId
  rw [absent] at fetched
  simp only [registerAgentInTx, does_bind, does_get, does_checked]
  constructor
  · rintro ⟨_, _, ⟨rfl, rfl⟩, found, _, ⟨read, rfl⟩, done⟩
    obtain rfl := Except.ok.inj (fetched.symm.trans read)
    simp only [does_bind, does_checked, does_set, does_pure, Except.ensure_eq_ok,
      registryIdentityExists_eq_false represents, registryKeyExists_eq_false represents] at done
    obtain ⟨_, _, ⟨device, rfl⟩, _, _, ⟨key, rfl⟩, _, _, rfl, rfl, rfl⟩ := done
    exact ⟨device, key, rfl, rfl⟩
  · rintro ⟨device, key, rfl, rfl⟩
    refine ⟨rows, rows, ⟨rfl, rfl⟩, none, rows, ⟨fetched, rfl⟩, ?_⟩
    simp only [does_bind, does_checked, does_set, does_pure, Except.ensure_eq_ok,
      registryIdentityExists_eq_false represents, registryKeyExists_eq_false represents]
    exact ⟨(), rows, ⟨device, rfl⟩, (), rows, ⟨key, rfl⟩, ⟨⟩, _, rfl, trivial, rfl⟩

theorem registerAgentInTx_known (represents : Represents rows file.inventory) {stored : AgentRegistry}
    (found : file.inventory.agentRegistry[registry.nodeId]? = some stored) :
    Does (registerAgentInTx registry) rows result later ↔
      encodeRegistry stored = encodeRegistry registry ∧ result = ⟨stored, false⟩ ∧ later = rows := by
  have fetched := fetchRegistry_eq represents registry.nodeId
  rw [found] at fetched
  simp only [registerAgentInTx, does_bind, does_get, does_checked]
  constructor
  · rintro ⟨_, _, ⟨rfl, rfl⟩, known, _, ⟨read, rfl⟩, done⟩
    obtain rfl := Except.ok.inj (fetched.symm.trans read)
    simp only [does_bind, does_checked, does_pure, Except.ensure_eq_ok] at done
    obtain ⟨_, _, ⟨same, rfl⟩, rfl, rfl⟩ := done
    exact ⟨same, rfl, rfl⟩
  · rintro ⟨same, rfl, rfl⟩
    refine ⟨later, later, ⟨rfl, rfl⟩, some stored, later, ⟨fetched, rfl⟩, ?_⟩
    simp only [does_bind, does_checked, does_pure, Except.ensure_eq_ok]
    exact ⟨(), later, ⟨same, rfl⟩, trivial, rfl⟩

theorem represents_registered (represents : Represents rows file.inventory) (fits : registry.Fits)
    (valid : validateRegistry registry = .ok ()) :
    Represents (registeredRows rows registry)
      { file.inventory with agentRegistry := file.inventory.agentRegistry.insert registry.nodeId registry } where
  registries nodeId := by
    simp only [registeredRows, Table.lookup_insert, represents.registries]
    split <;> rfl
  inventories := represents.inventories
  gpus := represents.gpus
  workloads := represents.workloads
  registered nodeId stored found := by
    rw [Option.mem_def, Table.lookup_insert] at found
    split at found
    · next same =>
      obtain rfl := Option.some.inj found
      exact ⟨same, valid, fits⟩
    · exact represents.registered nodeId stored found
  stored := represents.stored

/-- The decoded call answers as the one on the rows does, and leaves the tables that these stand for. -/
theorem registerAgent_refines (represents : Represents rows file.inventory) (fits : registry.Fits)
    (done : Does (registerAgent registry) rows result later) :
    ∃ next, Coordinator.registerAgent file registry = .ok (next, result.created) ∧
      Represents later next.inventory := by
  simp only [registerAgent, does_bind, does_checked, does_immediate] at done
  obtain ⟨_, _, ⟨valid, rfl⟩, done⟩ := done
  cases found : file.inventory.agentRegistry[registry.nodeId]? with
  | none =>
      obtain ⟨device, key, rfl, rfl⟩ := (registerAgentInTx_new represents found).mp done
      refine ⟨{ file with inventory :=
        { file.inventory with agentRegistry := file.inventory.agentRegistry.insert registry.nodeId registry } },
        ?_, represents_registered represents fits valid⟩
      simp only [Coordinator.registerAgent, Except.bind_eq_ok, found, Except.ensure_eq_ok]
      exact ⟨(), valid, (), device, (), key, trivial⟩
  | some stored =>
      obtain ⟨same, rfl, rfl⟩ := (registerAgentInTx_known represents found).mp done
      obtain ⟨_, storedValid, storedFits⟩ := represents.registered _ stored found
      have equal := encodeRegistry_injective storedValid valid storedFits fits same
      refine ⟨file, ?_, represents⟩
      simp only [Coordinator.registerAgent, Except.bind_eq_ok, found, Except.ensure_eq_ok]
      exact ⟨(), valid, (), equal, trivial⟩

end Register

section Update

theorem validateGpus_nodup {seen : List String} {gpus : List GpuInventory} {done : Unit}
    (valid : validateGpus seen gpus = .ok done) :
    (gpus.map (·.gpuId)).Nodup ∧ ∀ gpuId ∈ gpus.map (·.gpuId), gpuId ∉ seen := by
  induction gpus generalizing seen with
  | nil => simp
  | cons gpu gpus ih =>
      simp only [validateGpus, Except.bind_eq_ok, Except.ensure_eq_ok] at valid
      obtain ⟨_, _, _, new, _, _, rest⟩ := valid
      obtain ⟨nodup, fresh⟩ := ih rest
      refine ⟨List.nodup_cons.mpr ⟨fun again => fresh _ again List.mem_cons_self, nodup⟩, ?_⟩
      rintro gpuId listed there
      rcases List.mem_cons.mp listed with rfl | listed
      · exact new there
      · exact fresh gpuId listed (List.mem_cons_of_mem _ there)

/-- Ids that are new to the node are taken one by one. -/
theorem does_insertGpuRows {nodeId : String} {gpus : List GpuInventory} (nodup : (gpus.map (·.gpuId)).Nodup)
    (fresh : ∀ row ∈ rows.agentGpus, row.nodeId = nodeId → row.gpuId ∉ gpus.map (·.gpuId)) {done : Unit} :
    Does (gpus.forM fun gpu => insertGpuRow (toRawGpu nodeId gpu)) rows done later ↔
      later = { rows with agentGpus := rows.agentGpus ++ gpus.map (toRawGpu nodeId) } := by
  induction gpus generalizing rows with
  | nil =>
      rw [does_forM_nil]
      simp
  | cons gpu gpus ih =>
      obtain ⟨new, nodup⟩ := List.nodup_cons.mp nodup
      have inserted {between : InventoryRows} :
          Does (insertGpuRow (toRawGpu nodeId gpu)) rows () between ↔
            between = { rows with agentGpus := rows.agentGpus ++ [toRawGpu nodeId gpu] } := by
        simp only [insertGpuRow, does_bind, does_get, does_ofExcept, Except.ensure_eq_ok, does_set]
        constructor
        · rintro ⟨_, _, ⟨rfl, rfl⟩, _, _, ⟨_, rfl⟩, rfl⟩
          rfl
        · rintro rfl
          refine ⟨rows, rows, ⟨rfl, rfl⟩, (), rows, ⟨?_, rfl⟩, rfl⟩
          rintro row listed ⟨sameNode, sameId⟩
          exact fresh row listed sameNode (by rw [sameId]; exact List.mem_cons_self)
      have later_fresh : ∀ row ∈ rows.agentGpus ++ [toRawGpu nodeId gpu], row.nodeId = nodeId →
          row.gpuId ∉ gpus.map (·.gpuId) := by
        intro row listed sameNode
        rcases List.mem_append.mp listed with before | last
        · exact fun again => fresh row before sameNode (List.mem_cons_of_mem _ again)
        · obtain rfl := List.mem_singleton.mp last
          exact new
      rw [does_forM_cons]
      constructor
      · rintro ⟨between, first, rest⟩
        obtain rfl := inserted.mp first
        rw [(ih nodup later_fresh).mp rest]
        simp
      · rintro rfl
        refine ⟨_, inserted.mpr rfl, (ih nodup later_fresh).mpr ?_⟩
        simp

theorem does_insertWorkloadRows {nodeId : String} {workloads : List WorkloadClass} (nodup : workloads.Nodup)
    (fresh : ∀ workload ∈ workloads, toRawWorkloadClass nodeId workload ∉ rows.agentWorkloadClasses)
    {done : Unit} :
    Does (workloads.forM fun workload => insertWorkloadRow (toRawWorkloadClass nodeId workload)) rows done later ↔
      later = { rows with
        agentWorkloadClasses := rows.agentWorkloadClasses ++ workloads.map (toRawWorkloadClass nodeId) } := by
  induction workloads generalizing rows with
  | nil =>
      rw [does_forM_nil]
      simp
  | cons workload workloads ih =>
      obtain ⟨new, nodup⟩ := List.nodup_cons.mp nodup
      have inserted {between : InventoryRows} :
          Does (insertWorkloadRow (toRawWorkloadClass nodeId workload)) rows () between ↔
            between = { rows with
              agentWorkloadClasses := rows.agentWorkloadClasses ++ [toRawWorkloadClass nodeId workload] } := by
        simp only [insertWorkloadRow, does_bind, does_get, does_ofExcept, Except.ensure_eq_ok, does_set]
        constructor
        · rintro ⟨_, _, ⟨rfl, rfl⟩, _, _, ⟨_, rfl⟩, rfl⟩
          rfl
        · rintro rfl
          exact ⟨rows, rows, ⟨rfl, rfl⟩, (), rows, ⟨fresh workload List.mem_cons_self, rfl⟩, rfl⟩
      have later_fresh : ∀ each ∈ workloads, toRawWorkloadClass nodeId each ∉
          rows.agentWorkloadClasses ++ [toRawWorkloadClass nodeId workload] := by
        intro each listed there
        rcases List.mem_append.mp there with before | last
        · exact fresh each (List.mem_cons_of_mem _ listed) before
        · have texts := congrArg RawWorkloadClass.workloadClass (List.mem_singleton.mp last)
          exact new (workloadClassCodec.toCode_injective texts ▸ listed)
      rw [does_forM_cons]
      constructor
      · rintro ⟨between, first, rest⟩
        obtain rfl := inserted.mp first
        rw [(ih nodup later_fresh).mp rest]
        simp
      · rintro rfl
        refine ⟨_, inserted.mpr rfl, (ih nodup later_fresh).mpr ?_⟩
        simp

variable {inventory : AgentInventory} {result : UpdateInventoryResult}

def replacedRows (rows : InventoryRows) (inventory : AgentInventory) : InventoryRows where
  agentRegistry := rows.agentRegistry
  agentInventory := rows.agentInventory.insert inventory.nodeId (toRawInventory inventory)
  agentGpus := rows.agentGpus.filter (·.nodeId ≠ inventory.nodeId) ++
    (sortedGpus (inventory.gpus.getD [])).map (toRawGpu inventory.nodeId)
  agentWorkloadClasses := rows.agentWorkloadClasses.filter (·.nodeId ≠ inventory.nodeId) ++
    (workloadsOf (inventory.allowedWorkloadClasses.getD ∅)).map (toRawWorkloadClass inventory.nodeId)
  gpuMismatches :=
    if (sortedGpus (inventory.gpus.getD [])).isEmpty then rows.gpuMismatches.erase inventory.nodeId
    else rows.gpuMismatches

theorem sortedGpus_declared (normal : inventory.Normalized) :
    sortedGpus (inventory.gpus.getD []) = inventory.gpus.getD [] := by
  cases declared : inventory.gpus with
  | none => simp [sortedGpus]
  | some gpus => exact sorted_of_normalized normal gpus declared

/-- No key is taken twice: the old children are gone, and the new ones are of different ids. -/
theorem does_replaceInventory (normal : inventory.Normalized) :
    Does (replaceInventory inventory) rows result later ↔
      result = ⟨inventory, true⟩ ∧ later = replacedRows rows inventory := by
  have valid := valid_of_normalized normal
  simp only [validateInventory, Except.bind_eq_ok] at valid
  obtain ⟨_, _, distinct⟩ := valid
  have nodup : ((sortedGpus (inventory.gpus.getD [])).map (·.gpuId)).Nodup := by
    rw [sortedGpus_declared normal]
    exact (validateGpus_nodup distinct).1
  have freshGpus : ∀ row ∈ rows.agentGpus.filter (·.nodeId ≠ inventory.nodeId),
      row.nodeId = inventory.nodeId → row.gpuId ∉ (sortedGpus (inventory.gpus.getD [])).map (·.gpuId) := by
    intro row listed same
    exact absurd same (of_decide_eq_true (List.mem_filter.mp listed).2)
  have freshWorkloads : ∀ workload ∈ workloadsOf (inventory.allowedWorkloadClasses.getD ∅),
      toRawWorkloadClass inventory.nodeId workload ∉
        rows.agentWorkloadClasses.filter (·.nodeId ≠ inventory.nodeId) := by
    intro workload _ there
    exact absurd rfl (of_decide_eq_true (List.mem_filter.mp there).2)
  simp only [replaceInventory, does_bind, does_modify, does_pure]
  constructor
  · rintro ⟨_, _, rfl, _, _, rfl, _, _, gpus, _, _, rfl, _, _, workloads, rfl, rfl⟩
    obtain rfl := (does_insertGpuRows nodup freshGpus).mp gpus
    obtain rfl := (does_insertWorkloadRows (workloadsOf_nodup _) freshWorkloads).mp workloads
    exact ⟨rfl, rfl⟩
  · rintro ⟨rfl, rfl⟩
    exact ⟨⟨⟩, _, rfl, ⟨⟩, _, rfl, (), _, (does_insertGpuRows nodup freshGpus).mpr rfl, ⟨⟩, _, rfl, (), _,
      (does_insertWorkloadRows (workloadsOf_nodup _) freshWorkloads).mpr rfl, rfl, rfl⟩

/-- Rows of one node among those of the others and its own new ones. -/
theorem filter_replaced {Row : Type} {nodeOf : Row → String} {before fresh : List Row} {written : String}
    (own : ∀ row ∈ fresh, nodeOf row = written) (nodeId : String) :
    (before.filter (nodeOf · ≠ written) ++ fresh).filter (nodeOf · = nodeId) =
      if written = nodeId then fresh else before.filter (nodeOf · = nodeId) := by
  rw [List.filter_append, List.filter_filter]
  split
  · next same =>
    subst same
    have gone : before.filter (fun row => decide (nodeOf row = written) && decide (nodeOf row ≠ written)) = [] :=
      List.filter_eq_nil_iff.mpr fun row _ => by simp
    have kept : fresh.filter (nodeOf · = written) = fresh :=
      List.filter_eq_self.mpr fun row listed => decide_eq_true (own row listed)
    rw [gone, kept, List.nil_append]
  · next different =>
    have none_ : fresh.filter (nodeOf · = nodeId) = [] := by
      refine List.filter_eq_nil_iff.mpr fun row listed => ?_
      rw [own row listed, decide_eq_true_eq]
      exact different
    rw [none_, List.append_nil]
    refine List.filter_congr fun row _ => ?_
    by_cases there : nodeOf row = nodeId
    · simp [there, Ne.symm different]
    · simp [there]

theorem represents_replaced (represents : Represents rows file.inventory) (normal : inventory.Normalized)
    (fits : inventory.Fits) : Represents (replacedRows rows inventory) (writeInventory file inventory).inventory where
  registries := represents.registries
  inventories nodeId := by
    simp only [replacedRows, writeInventory, Table.lookup_insert, represents.inventories]
    split <;> rfl
  gpus nodeId := by
    have own : ∀ row ∈ (sortedGpus (inventory.gpus.getD [])).map (toRawGpu inventory.nodeId),
        row.nodeId = inventory.nodeId := by
      intro row listed
      obtain ⟨gpu, _, rfl⟩ := List.mem_map.mp listed
      rfl
    rw [replacedRows, filter_replaced own, represents.gpus, sortedGpus_declared normal]
    simp only [gpusAt, writeInventory, Table.lookup_insert]
    split
    · next same =>
      rw [same]
      rfl
    · rfl
  workloads nodeId := by
    have own : ∀ row ∈ (workloadsOf (inventory.allowedWorkloadClasses.getD ∅)).map
        (toRawWorkloadClass inventory.nodeId), row.nodeId = inventory.nodeId := by
      intro row listed
      obtain ⟨workload, _, rfl⟩ := List.mem_map.mp listed
      rfl
    rw [replacedRows, filter_replaced own, represents.workloads]
    simp only [workloadsAt, writeInventory, Table.lookup_insert]
    split
    · next same =>
      rw [same]
      rfl
    · rfl
  registered := represents.registered
  stored nodeId stored found := by
    simp only [writeInventory, Option.mem_def, Table.lookup_insert] at found
    split at found
    · next same =>
      obtain rfl := Option.some.inj found
      exact ⟨same, normal, fits⟩
    · exact represents.stored nodeId stored found

/-- What the decoded call does with an inventory that is normalized already. -/
def UpdatedTo (file : CoordinatorFile) (inventory : AgentInventory) (updated : Bool) : Prop :=
  file.inventory.agentRegistry[inventory.nodeId]? ≠ none ∧
    ((updated = true ∧ ∀ stored ∈ file.inventory.agentInventory[inventory.nodeId]?,
        stored.inventoryRevision < inventory.inventoryRevision) ∨
      (updated = false ∧ file.inventory.agentInventory[inventory.nodeId]? = some inventory))

theorem updateInventory_iff {next : CoordinatorFile} {updated : Bool} :
    Coordinator.updateInventory file inventory = .ok (next, updated) ↔
      ∃ normalized, normalizedAndValidated inventory = .ok normalized ∧ UpdatedTo file normalized updated ∧
        next = if updated then writeInventory file normalized else file := by
  simp only [Coordinator.updateInventory, Except.bind_eq_ok, UpdatedTo, Except.ensure_eq_ok]
  refine exists_congr fun normalized => and_congr_right fun _ => ?_
  cases found : file.inventory.agentInventory[normalized.nodeId]? with
  | none =>
      cases updated <;> simp [eq_comm]
  | some stored =>
      simp only [Except.bind_eq_ok, Except.ensure_eq_ok]
      by_cases equal : stored.inventoryRevision = normalized.inventoryRevision
      · simp only [if_pos equal, Except.bind_eq_ok, Except.ensure_eq_ok]
        cases updated <;> simp [equal, and_assoc, eq_comm]
      · simp only [if_neg equal]
        have unlike : stored ≠ normalized := fun same => equal (congrArg _ same)
        have below : stored.inventoryRevision ≤ normalized.inventoryRevision ↔
            stored.inventoryRevision < normalized.inventoryRevision :=
          ⟨fun bound => UInt64.lt_of_le_of_ne bound equal, UInt64.le_of_lt⟩
        cases updated <;> simp [below, unlike, and_assoc, @eq_comm _ next]

/-- The test on the payloads finds the same inventory, and no other. -/
theorem updateInventoryInTx_does (represents : Represents rows file.inventory) (normal : inventory.Normalized)
    (fits : inventory.Fits) : Does (updateInventoryInTx inventory) rows result later ↔
      ∃ updated, UpdatedTo file inventory updated ∧ result = ⟨inventory, updated⟩ ∧
        later = if updated then replacedRows rows inventory else rows := by
  have known := fetchRegistry_eq represents inventory.nodeId
  have fetched := fetchInventory_eq represents inventory.nodeId
  simp only [updateInventoryInTx, does_bind, does_get, does_checked, Except.ensure_eq_ok, UpdatedTo]
  cases found : file.inventory.agentInventory[inventory.nodeId]? with
  | none =>
      rw [found] at fetched
      constructor
      · rintro ⟨_, _, ⟨rfl, rfl⟩, _, _, ⟨read, rfl⟩, _, _, ⟨registered, rfl⟩, _, _, ⟨readToo, rfl⟩, done⟩
        obtain rfl := Except.ok.inj (known.symm.trans read)
        obtain rfl := Except.ok.inj (fetched.symm.trans readToo)
        obtain ⟨rfl, rfl⟩ := (does_replaceInventory normal).mp done
        exact ⟨true, ⟨registered, Or.inl ⟨rfl, by simp⟩⟩, rfl, rfl⟩
      · rintro ⟨_, ⟨registered, ⟨rfl, _⟩ | ⟨_, never⟩⟩, rfl, rfl⟩
        · exact ⟨rows, rows, ⟨rfl, rfl⟩, _, rows, ⟨known, rfl⟩, (), rows, ⟨registered, rfl⟩, none, rows,
            ⟨fetched, rfl⟩, (does_replaceInventory normal).mpr ⟨rfl, rfl⟩⟩
        · cases never
  | some stored =>
      rw [found] at fetched
      obtain ⟨sameNode, storedNormal, storedFits⟩ := represents.stored _ stored found
      have told : encodeInventoryPayload inventory = encodeInventoryPayload stored ↔ stored = inventory := by
        constructor
        · exact fun same => (encodeInventoryPayload_injective normal storedNormal fits storedFits sameNode.symm same).symm
        · rintro rfl
          rfl
      constructor
      · rintro ⟨_, _, ⟨rfl, rfl⟩, _, _, ⟨read, rfl⟩, _, _, ⟨registered, rfl⟩, _, _, ⟨readToo, rfl⟩, done⟩
        obtain rfl := Except.ok.inj (known.symm.trans read)
        obtain rfl := Except.ok.inj (fetched.symm.trans readToo)
        simp only [does_bind, does_checked, Except.ensure_eq_ok] at done
        obtain ⟨_, _, ⟨raised, rfl⟩, done⟩ := done
        split at done
        · simp only [does_bind, does_checked, Except.ensure_eq_ok, told, does_pure] at done
          obtain ⟨_, _, ⟨rfl, rfl⟩, rfl, rfl⟩ := done
          exact ⟨false, ⟨registered, Or.inr ⟨rfl, rfl⟩⟩, rfl, rfl⟩
        · next different =>
          obtain ⟨rfl, rfl⟩ := (does_replaceInventory normal).mp done
          refine ⟨true, ⟨registered, Or.inl ⟨rfl, ?_⟩⟩, rfl, rfl⟩
          rintro _ ⟨⟩
          exact UInt64.lt_of_le_of_ne raised (Ne.symm different)
      · rintro ⟨updated, ⟨registered, way⟩, rfl, rfl⟩
        refine ⟨rows, rows, ⟨rfl, rfl⟩, _, rows, ⟨known, rfl⟩, (), rows, ⟨registered, rfl⟩, some stored, rows,
          ⟨fetched, rfl⟩, ?_⟩
        simp only [does_bind, does_checked, Except.ensure_eq_ok]
        rcases way with ⟨rfl, above⟩ | ⟨rfl, same⟩
        · have below := above stored rfl
          refine ⟨(), rows, ⟨UInt64.le_of_lt below, rfl⟩, ?_⟩
          rw [if_neg (UInt64.ne_of_lt below).symm]
          exact (does_replaceInventory normal).mpr ⟨rfl, rfl⟩
        · obtain rfl := Option.some.inj same
          refine ⟨(), rows, ⟨UInt64.le_refl _, rfl⟩, ?_⟩
          rw [if_pos rfl, does_bind]
          exact ⟨(), rows, does_checked.mpr ⟨Except.ensure_eq_ok.mpr rfl, rfl⟩, does_pure.mpr ⟨rfl, rfl⟩⟩

theorem represents_updated (represents : Represents rows file.inventory) (normal : inventory.Normalized)
    (fits : inventory.Fits) (updated : Bool) :
    Represents (if updated then replacedRows rows inventory else rows)
      (if updated then writeInventory file inventory else file).inventory := by
  cases updated with
  | false => exact represents
  | true => exact represents_replaced represents normal fits

theorem updateInventory_refines (represents : Represents rows file.inventory) (fits : inventory.Fits)
    (done : Does (updateInventory inventory) rows result later) :
    ∃ next, Coordinator.updateInventory file inventory = .ok (next, result.updated) ∧
      Represents later next.inventory := by
  simp only [updateInventory, does_bind, does_checked, does_immediate] at done
  obtain ⟨normalized, _, ⟨accepted, rfl⟩, done⟩ := done
  have normal := normalized_of_ok accepted
  have normalFits := fits_of_ok fits accepted
  obtain ⟨updated, way, rfl, rfl⟩ := (updateInventoryInTx_does represents normal normalFits).mp done
  exact ⟨_, updateInventory_iff.mpr ⟨normalized, accepted, way, rfl⟩,
    represents_updated represents normal normalFits updated⟩

end Update

end InventoryRows

end Gputeer.Coordinator
