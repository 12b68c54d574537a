import Gputeer.Coordinator.InventoryStore
import Gputeer.Lib.Bytes
import Gputeer.Lib.Transaction

/-! The tables of the inventory store as they are on disk: texts and bytes, the payload of a row beside
its columns, and the reads that compare the two. What a failed transaction wrote is rolled back; what
SQLite itself may fail with is left out, but for a broken primary key. -/

namespace Gputeer.Coordinator

open Protocol Text Scheduler Bytes

namespace InventoryRows

section Codecs

/-- `enum_codec!`: what a variant is called in a column (`$to_code`), and its byte in a payload (`$to_u8`). -/
structure EnumCodec (α : Type) [DecidableEq α] where
  label : String
  /-- In the order of the declaration. -/
  variants : List α
  toCode : α → String
  toU8 : α → UInt8
  every : ∀ value, value ∈ variants
  parses : ∀ value, variants.find? (toCode · = toCode value) = some value
  told : ∀ value, variants.find? (toU8 · = toU8 value) = some value

/-- `$parse` of the macro. -/
def EnumCodec.parse {α : Type} [DecidableEq α] (codec : EnumCodec α) (value : String) :
    Except InventoryStoreError α :=
  Except.ofOption (.corruptData s!"unknown {codec.label} enum value: {value}")
    (codec.variants.find? (codec.toCode · = value))

def nodeStateCodec : EnumCodec NodeState where
  label := "node_state"
  variants := [.discovered, .enrolling, .enrollRejected, .approved, .online, .suspect, .unreachable, .lost,
    .recovering, .draining, .offline, .quarantined, .revoked, .terminated]
  toCode
    | .discovered => "DISCOVERED"
    | .enrolling => "ENROLLING"
    | .enrollRejected => "ENROLL_REJECTED"
    | .approved => "APPROVED"
    | .online => "ONLINE"
    | .suspect => "SUSPECT"
    | .unreachable => "UNREACHABLE"
    | .lost => "LOST"
    | .recovering => "RECOVERING"
    | .draining => "DRAINING"
    | .offline => "OFFLINE"
    | .quarantined => "QUARANTINED"
    | .revoked => "REVOKED"
    | .terminated => "TERMINATED"
  toU8
    | .discovered => 1
    | .enrolling => 2
    | .enrollRejected => 3
    | .approved => 4
    | .online => 5
    | .suspect => 6
    | .unreachable => 7
    | .lost => 8
    | .recovering => 9
    | .draining => 10
    | .offline => 11
    | .quarantined => 12
    | .revoked => 13
    | .terminated => 14
  every := by rintro (_ | _) <;> decide
  parses := by rintro (_ | _) <;> decide
  told := by rintro (_ | _) <;> decide

def riskStateCodec : EnumCodec RiskState where
  label := "risk_state"
  variants := [.normal, .suspect, .quarantined, .revoked]
  toCode
    | .normal => "NORMAL"
    | .suspect => "SUSPECT"
    | .quarantined => "QUARANTINED"
    | .revoked => "REVOKED"
  toU8
    | .normal => 1
    | .suspect => 2
    | .quarantined => 3
    | .revoked => 4
  every := by rintro (_ | _) <;> decide
  parses := by rintro (_ | _) <;> decide
  told := by rintro (_ | _) <;> decide

def securityTierCodec : EnumCodec SecurityTier where
  label := "security_tier"
  variants := [.s0, .s1, .s2, .s3, .s4, .s5]
  toCode
    | .s0 => "S0"
    | .s1 => "S1"
    | .s2 => "S2"
    | .s3 => "S3"
    | .s4 => "S4"
    | .s5 => "S5"
  toU8
    | .s0 => 1
    | .s1 => 2
    | .s2 => 3
    | .s3 => 4
    | .s4 => 5
    | .s5 => 6
  every := by rintro (_ | _) <;> decide
  parses := by rintro (_ | _) <;> decide
  told := by rintro (_ | _) <;> decide

def isolationClassCodec : EnumCodec IsolationClass where
  label := "isolation_class"
  variants := [.restricted, .contained, .virtualized]
  toCode
    | .restricted => "RESTRICTED"
    | .contained => "CONTAINED"
    | .virtualized => "VIRTUALIZED"
  toU8
    | .restricted => 1
    | .contained => 2
    | .virtualized => 3
  every := by rintro (_ | _) <;> decide
  parses := by rintro (_ | _) <;> decide
  told := by rintro (_ | _) <;> decide

def keyProtectionCodec : EnumCodec KeyProtection where
  label := "key_protection"
  variants := [.k0, .k1, .k2]
  toCode
    | .k0 => "K0"
    | .k1 => "K1"
    | .k2 => "K2"
  toU8
    | .k0 => 1
    | .k1 => 2
    | .k2 => 3
  every := by rintro (_ | _) <;> decide
  parses := by rintro (_ | _) <;> decide
  told := by rintro (_ | _) <;> decide

def workloadClassCodec : EnumCodec WorkloadClass where
  label := "workload_class"
  variants := [.training, .inference, .preprocessing, .evaluation, .rendering, .other]
  toCode
    | .training => "TRAINING"
    | .inference => "INFERENCE"
    | .preprocessing => "PREPROCESSING"
    | .evaluation => "EVALUATION"
    | .rendering => "RENDERING"
    | .other => "OTHER"
  toU8
    | .training => 1
    | .inference => 2
    | .preprocessing => 3
    | .evaluation => 4
    | .rendering => 5
    | .other => 6
  every := by rintro (_ | _) <;> decide
  parses := by rintro (_ | _) <;> decide
  told := by rintro (_ | _) <;> decide

def encodeU64 (value : UInt64) : List UInt8 := beBytes 8 value.toNat

def decodeU64 (field : String) (bytes : List UInt8) : Except InventoryStoreError UInt64 :=
  if bytes.length = 8 then .ok (UInt64.ofNat (beNat bytes))
  else .error (.corruptData s!"{field} must contain exactly 8 bytes")

def boolToI64 (value : Bool) : Int := if value then 1 else 0

def parseBool (field : String) (value : Int) : Except InventoryStoreError Bool :=
  if value = 0 then .ok false
  else if value = 1 then .ok true
  else .error (.corruptData s!"{field} is outside the boolean enum range: {value}")

end Codecs

section Payloads

/-- A length is cast to 64 bits. -/
def pushLength (length : Nat) : List UInt8 := beBytes 8 length

def pushString (value : String) : List UInt8 := pushLength (utf8 value).length ++ utf8 value

def pushOptional {α : Type} (push : α → List UInt8) (value : Option α) : List UInt8 :=
  value.elim [0] (1 :: push ·)

def pushOptionalString : Option String → List UInt8 := pushOptional pushString

def pushOptionalBool : Option Bool → List UInt8 := pushOptional fun value => [if value then 1 else 0]

def pushOptionalU64 : Option UInt64 → List UInt8 := pushOptional encodeU64

def pushOptionalCode {α : Type} [DecidableEq α] (codec : EnumCodec α) : Option α → List UInt8 :=
  pushOptional fun value => [codec.toU8 value]

def encodeRegistry (registry : AgentRegistry) : List UInt8 :=
  pushString registry.nodeId ++ pushString registry.deviceId ++ pushString registry.ownerMemberId ++
    registry.verifyingKey ++ pushOptionalCode nodeStateCodec registry.nodeState ++
    pushOptionalCode riskStateCodec registry.riskState ++ pushOptionalCode securityTierCodec registry.securityTier ++
    pushOptionalCode isolationClassCodec registry.isolationClass ++
    pushOptionalCode keyProtectionCodec registry.keyProtection

/-- `sort_by` on the ids. -/
def sortedGpus (gpus : List GpuInventory) : List GpuInventory :=
  gpus.mergeSort fun left right => left.gpuId ≤ right.gpuId

def pushGpu (gpu : GpuInventory) : List UInt8 :=
  pushString gpu.gpuId ++ pushOptionalString gpu.model ++ pushOptionalBool gpu.healthy ++
    pushOptionalU64 gpu.availableVramBytes

def pushGpus (gpus : List GpuInventory) : List UInt8 :=
  pushLength (sortedGpus gpus).length ++ (sortedGpus gpus).flatMap pushGpu

/-- The elements of an ordered set, in their order. -/
def workloadsOf (workloads : Finset WorkloadClass) : List WorkloadClass :=
  workloadClassCodec.variants.filter (· ∈ workloads)

def pushWorkloads (workloads : Finset WorkloadClass) : List UInt8 :=
  pushLength (workloadsOf workloads).length ++ (workloadsOf workloads).map workloadClassCodec.toU8

/-- The node is not named: a payload belongs to a row. -/
def encodeInventoryPayload (inventory : AgentInventory) : List UInt8 :=
  encodeU64 inventory.inventoryRevision ++ encodeU64 inventory.observedAtUnixMs ++
    pushOptional pushGpus inventory.gpus ++
    pushOptionalU64 (inventory.availableCpuCores.map (·.toUInt64)) ++
    pushOptionalU64 inventory.availableRamBytes ++ pushOptionalU64 inventory.availableWorkspaceBytes ++
    pushOptional pushWorkloads inventory.allowedWorkloadClasses ++
    pushOptionalBool inventory.thirdPartyWorkloadsOptIn

end Payloads

structure RawRegistry where
  nodeId : String
  deviceId : String
  ownerMemberId : String
  verifyingKey : List UInt8
  nodeState : Option String
  riskState : Option String
  securityTier : Option String
  isolationClass : Option String
  keyProtection : Option String
  payload : List UInt8
  deriving DecidableEq

structure RawInventory where
  nodeId : String
  inventoryRevision : List UInt8
  observedAtUnixMs : List UInt8
  gpusObserved : Int
  availableCpuCores : Option (List UInt8)
  availableRamBytes : Option (List UInt8)
  availableWorkspaceBytes : Option (List UInt8)
  workloadClassesObserved : Int
  thirdPartyWorkloadsOptIn : Option Int
  payload : List UInt8
  deriving DecidableEq

/-- A row of `coordinator_agent_gpus`, under the node and the id. -/
structure RawGpu where
  nodeId : String
  gpuId : String
  model : Option String
  healthy : Option Int
  availableVramBytes : Option (List UInt8)
  deriving DecidableEq

/-- A row of `coordinator_agent_workload_classes`, both columns its key. -/
structure RawWorkloadClass where
  nodeId : String
  workloadClass : String
  deriving DecidableEq

end InventoryRows

open InventoryRows in
/-- The tables that the store writes its agents to. -/
structure InventoryRows where
  agentRegistry : Table String RawRegistry
  agentInventory : Table String RawInventory
  agentGpus : List RawGpu
  agentWorkloadClasses : List RawWorkloadClass
  gpuMismatches : Table String (List UInt8)

namespace InventoryRows

def empty : InventoryRows := ⟨∅, ∅, [], [], ∅⟩

section Reads

/-- What was valid when it was written is corrupt when it no longer is. -/
def asCorrupt (what : String) : InventoryStoreError → InventoryStoreError
  | .invalidInput field => .corruptData s!"{what} has invalid {field}"
  | other => other

def RawRegistry.intoRegistry (raw : RawRegistry) : Except InventoryStoreError AgentRegistry := do
  let state ← Except.onSome nodeStateCodec.parse raw.nodeState
  let risk ← Except.onSome riskStateCodec.parse raw.riskState
  let tier ← Except.onSome securityTierCodec.parse raw.securityTier
  let isolation ← Except.onSome isolationClassCodec.parse raw.isolationClass
  let protection ← Except.onSome keyProtectionCodec.parse raw.keyProtection
  let registry : AgentRegistry :=
    { nodeId := raw.nodeId
      deviceId := raw.deviceId
      ownerMemberId := raw.ownerMemberId
      verifyingKey := raw.verifyingKey
      nodeState := state
      riskState := risk
      securityTier := tier
      isolationClass := isolation
      keyProtection := protection }
  (validateRegistry registry).mapError (asCorrupt "registry")
  Except.ensure (encodeRegistry registry = raw.payload)
    (.corruptData "registry normalized payload does not match its columns")
  .ok registry

variable (rows : InventoryRows) (nodeId : String)

def fetchRegistry : Except InventoryStoreError (Option AgentRegistry) :=
  Except.onSome RawRegistry.intoRegistry rows.agentRegistry[nodeId]?

def RawGpu.intoGpu (raw : RawGpu) : Except InventoryStoreError GpuInventory := do
  let healthy ← Except.onSome (parseBool "GPU healthy") raw.healthy
  let availableVramBytes ← Except.onSome (decodeU64 "GPU available_vram_bytes") raw.availableVramBytes
  .ok ⟨raw.gpuId, raw.model, healthy, availableVramBytes⟩

def fetchGpus : Except InventoryStoreError (List GpuInventory) :=
  ((rows.agentGpus.filter (·.nodeId = nodeId)).mergeSort fun left right => left.gpuId ≤ right.gpuId).mapM
    RawGpu.intoGpu

def insertWorkload (workloads : Finset WorkloadClass) (text : String) :
    Except InventoryStoreError (Finset WorkloadClass) := do
  let value ← workloadClassCodec.parse text
  Except.ensure (value ∉ workloads) (.corruptData "duplicate workload class child row")
  .ok (insert value workloads)

def fetchWorkloads : Except InventoryStoreError (Finset WorkloadClass) :=
  (((rows.agentWorkloadClasses.filter (·.nodeId = nodeId)).map (·.workloadClass)).mergeSort
    fun left right => left ≤ right).foldlM insertWorkload ∅

/-- Children are there only under a parent that was seen to have some. -/
def ifObserved {α : Type} (flag : Int) (field what : String) (children : α) (isEmpty : Bool) :
    Except InventoryStoreError (Option α) := do
  if ← parseBool field flag then .ok (some children)
  else do
    Except.ensure (isEmpty = true) (.corruptData s!"{what} child rows exist while {field} is false")
    .ok none

def toU32 (value : UInt64) : Except InventoryStoreError UInt32 :=
  if value.toNat < 2 ^ 32 then .ok value.toUInt32
  else .error (.corruptData "available_cpu_cores exceeds the scheduler u32 range")

def RawInventory.intoInventory (raw : RawInventory) : Except InventoryStoreError AgentInventory := do
  let allGpus ← fetchGpus rows nodeId
  let gpus ← ifObserved raw.gpusObserved "gpus_observed" "GPU" allGpus allGpus.isEmpty
  let allWorkloads ← fetchWorkloads rows nodeId
  let allowedWorkloadClasses ← ifObserved raw.workloadClassesObserved "workload_classes_observed" "workload"
    allWorkloads (allWorkloads = ∅)
  let cores ← Except.onSome (decodeU64 "available_cpu_cores") raw.availableCpuCores
  let availableCpuCores ← Except.onSome toU32 cores
  let inventoryRevision ← decodeU64 "inventory_revision" raw.inventoryRevision
  let observedAtUnixMs ← decodeU64 "observed_at_unix_ms" raw.observedAtUnixMs
  let availableRamBytes ← Except.onSome (decodeU64 "available_ram_bytes") raw.availableRamBytes
  let availableWorkspaceBytes ←
    Except.onSome (decodeU64 "available_workspace_bytes") raw.availableWorkspaceBytes
  let thirdPartyWorkloadsOptIn ←
    Except.onSome (parseBool "third_party_workloads_opt_in") raw.thirdPartyWorkloadsOptIn
  let inventory : AgentInventory :=
    { nodeId := raw.nodeId
      inventoryRevision, observedAtUnixMs, gpus, availableCpuCores, availableRamBytes
      availableWorkspaceBytes, allowedWorkloadClasses, thirdPartyWorkloadsOptIn }
  (validateInventory inventory).mapError (asCorrupt "inventory")
  Except.ensure (encodeInventoryPayload inventory = raw.payload)
    (.corruptData "inventory normalized payload does not match parent/child rows")
  .ok inventory

def fetchInventory : Except InventoryStoreError (Option AgentInventory) :=
  Except.onSome (RawInventory.intoInventory rows nodeId) rows.agentInventory[nodeId]?

end Reads

/-- What a call of the store fails with. -/
inductive StoreFault where
  | store (error : InventoryStoreError)
  /-- SQLite refused a statement. -/
  | io (message : String)
  /-- The entry of an import that stopped it. -/
  | bootstrapEntry (index : Nat) (nodeId : String) (source : StoreFault)
  deriving DecidableEq

structure RegisterAgentResult where
  registry : AgentRegistry
  created : Bool

structure UpdateInventoryResult where
  inventory : AgentInventory
  updated : Bool

structure AgentBootstrap where
  registry : AgentRegistry
  inventory : AgentInventory

structure ImportBootstrapResult where
  registered : Nat
  inventoriesUpdated : Nat
  entries : Nat
  deriving DecidableEq

section Writes

open Transaction Body

abbrev StoreBody := Body InventoryRows StoreFault

/-- A read of the rows, or a check of the input. -/
def checked {α : Type} (result : Except InventoryStoreError α) : StoreBody α :=
  Body.ofExcept (result.mapError .store)

section Register

variable (registry : AgentRegistry)

def registryIdentityExists (rows : InventoryRows) : Bool :=
  rows.agentRegistry.rows.any (·.deviceId = registry.deviceId)

def registryKeyExists (rows : InventoryRows) : Bool :=
  rows.agentRegistry.rows.any (·.verifyingKey = registry.verifyingKey)

/-- The columns of a registration, and the payload made of them. -/
def toRawRegistry : RawRegistry where
  nodeId := registry.nodeId
  deviceId := registry.deviceId
  ownerMemberId := registry.ownerMemberId
  verifyingKey := registry.verifyingKey
  nodeState := registry.nodeState.map nodeStateCodec.toCode
  riskState := registry.riskState.map riskStateCodec.toCode
  securityTier := registry.securityTier.map securityTierCodec.toCode
  isolationClass := registry.isolationClass.map isolationClassCodec.toCode
  keyProtection := registry.keyProtection.map keyProtectionCodec.toCode
  payload := encodeRegistry registry

/-- Validated before, by every caller. -/
def registerAgentInTx : StoreBody RegisterAgentResult := do
  let rows ← get
  match ← checked (fetchRegistry rows registry.nodeId) with
  | some stored =>
      checked (Except.ensure (encodeRegistry stored = encodeRegistry registry) (.registryConflict "node_id"))
      return ⟨stored, false⟩
  | none =>
      checked (Except.ensure (registryIdentityExists registry rows = false) (.registryConflict "device_id"))
      checked (Except.ensure (registryKeyExists registry rows = false) (.registryConflict "verifying_key"))
      set { rows with agentRegistry := rows.agentRegistry.insert registry.nodeId (toRawRegistry registry) }
      return ⟨registry, true⟩

def registerAgent : StoreBody RegisterAgentResult := do
  checked (validateRegistry registry)
  (registerAgentInTx registry).immediate

end Register

section Update

variable (inventory : AgentInventory)

/-- The columns of the parent row, and the payload that covers its children too. -/
def toRawInventory : RawInventory where
  nodeId := inventory.nodeId
  inventoryRevision := encodeU64 inventory.inventoryRevision
  observedAtUnixMs := encodeU64 inventory.observedAtUnixMs
  gpusObserved := boolToI64 inventory.gpus.isSome
  availableCpuCores := inventory.availableCpuCores.map fun value => encodeU64 value.toUInt64
  availableRamBytes := inventory.availableRamBytes.map encodeU64
  availableWorkspaceBytes := inventory.availableWorkspaceBytes.map encodeU64
  workloadClassesObserved := boolToI64 inventory.allowedWorkloadClasses.isSome
  thirdPartyWorkloadsOptIn := inventory.thirdPartyWorkloadsOptIn.map boolToI64
  payload := encodeInventoryPayload inventory

def toRawGpu (nodeId : String) (gpu : GpuInventory) : RawGpu where
  nodeId := nodeId
  gpuId := gpu.gpuId
  model := gpu.model
  healthy := gpu.healthy.map boolToI64
  availableVramBytes := gpu.availableVramBytes.map encodeU64

def toRawWorkloadClass (nodeId : String) (workload : WorkloadClass) : RawWorkloadClass where
  nodeId := nodeId
  workloadClass := workloadClassCodec.toCode workload

def keyTaken : StoreFault := .io "Error code 1555: A PRIMARY KEY constraint failed"

def insertGpuRow (row : RawGpu) : StoreBody Unit := do
  let rows ← get
  Body.ofExcept (Except.ensure (∀ other ∈ rows.agentGpus, ¬ (other.nodeId = row.nodeId ∧ other.gpuId = row.gpuId))
    keyTaken)
  set { rows with agentGpus := rows.agentGpus ++ [row] }

def insertWorkloadRow (row : RawWorkloadClass) : StoreBody Unit := do
  let rows ← get
  Body.ofExcept (Except.ensure (row ∉ rows.agentWorkloadClasses) keyTaken)
  set { rows with agentWorkloadClasses := rows.agentWorkloadClasses ++ [row] }

/-- The parent row, then its children: the old ones go, the new ones come one by one. -/
def replaceInventory : StoreBody UpdateInventoryResult := do
  modify fun rows =>
    { rows with
      agentInventory := rows.agentInventory.insert inventory.nodeId (toRawInventory inventory)
      agentGpus := rows.agentGpus.filter (·.nodeId ≠ inventory.nodeId) }
  let gpus := sortedGpus (inventory.gpus.getD [])
  modify fun rows =>
    { rows with
      gpuMismatches :=
        if gpus.isEmpty then rows.gpuMismatches.erase inventory.nodeId else rows.gpuMismatches }
  gpus.forM fun gpu => insertGpuRow (toRawGpu inventory.nodeId gpu)
  modify fun rows =>
    { rows with
      agentWorkloadClasses := rows.agentWorkloadClasses.filter (·.nodeId ≠ inventory.nodeId) }
  (workloadsOf (inventory.allowedWorkloadClasses.getD ∅)).forM fun workload =>
    insertWorkloadRow (toRawWorkloadClass inventory.nodeId workload)
  return ⟨inventory, true⟩

/-- Normalized and validated before, by every caller. -/
def updateInventoryInTx : StoreBody UpdateInventoryResult := do
  let rows ← get
  let registered ← checked (fetchRegistry rows inventory.nodeId)
  checked (Except.ensure (registered ≠ none) (.agentNotFound inventory.nodeId))
  match ← checked (fetchInventory rows inventory.nodeId) with
  | some stored =>
      checked (Except.ensure (stored.inventoryRevision ≤ inventory.inventoryRevision)
        (.lowerRevision stored.inventoryRevision inventory.inventoryRevision))
      if inventory.inventoryRevision = stored.inventoryRevision then do
        checked (Except.ensure (encodeInventoryPayload inventory = encodeInventoryPayload stored)
          (.revisionConflict inventory.inventoryRevision))
        return ⟨stored, false⟩
      else replaceInventory inventory
  | none => replaceInventory inventory

def updateInventory : StoreBody UpdateInventoryResult := do
  let normalized ← checked (normalizedAndValidated inventory)
  (updateInventoryInTx normalized).immediate

end Update

section Import

/-- A failure names the entry it comes from. -/
def attributed (index : Nat) (entry : AgentBootstrap) (source : StoreFault) : StoreFault :=
  .bootstrapEntry index entry.registry.nodeId source

/-- What can be judged of an entry before the lock is taken. -/
def prepare (entry : AgentBootstrap) : Except InventoryStoreError AgentInventory := do
  Except.ensure (entry.registry.nodeId = entry.inventory.nodeId)
    (.invalidInput "registry/inventory node_id mismatch")
  validateRegistry entry.registry
  normalizedAndValidated entry.inventory

/-- One round of the loop: the counts so far, and an entry with its prepared inventory. -/
def importEntry (counts : Nat × Nat) (item : (AgentBootstrap × AgentInventory) × Nat) :
    StoreBody (Nat × Nat) := do
  let ((entry, inventory), index) := item
  let registration ← (registerAgentInTx entry.registry).mapError (attributed index entry)
  let update ← (updateInventoryInTx inventory).mapError (attributed index entry)
  return (if registration.created then counts.1 + 1 else counts.1,
    if update.updated then counts.2 + 1 else counts.2)

def importBootstrap (entries : List AgentBootstrap) : StoreBody ImportBootstrapResult := do
  let prepared ← Body.ofExcept (entries.zipIdx.mapM fun item =>
    (prepare item.1).mapError fun error => attributed item.2 item.1 (.store error))
  let counts ← ((entries.zip prepared).zipIdx.foldlM importEntry (0, 0)).immediate
  return ⟨counts.1, counts.2, entries.length⟩

/-- The same entries by the calls for one half each, every call in a transaction of its own. -/
def oneByOne : List AgentBootstrap → StoreBody (List (RegisterAgentResult × UpdateInventoryResult))
  | [] => return []
  | entry :: entries => do
      let registration ← registerAgent entry.registry
      let update ← updateInventory entry.inventory
      let others ← oneByOne entries
      return (registration, update) :: others

end Import

end Writes

end InventoryRows

end Gputeer.Coordinator
