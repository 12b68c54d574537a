import Gputeer.Coordinator.ControlDb
import Gputeer.Coordinator.GpuAttestation
import Gputeer.Scheduler.Filter

/-! The inventory of the nodes, what their own observations say about it, and the pool that the
scheduler is shown. Its tables lie in the file of the control database. Rows are kept decoded: the
payload beside them is made of the same columns. -/

namespace Gputeer.Coordinator

open Protocol Text Scheduler

structure AgentRegistry where
  nodeId : String
  deviceId : String
  ownerMemberId : String
  verifyingKey : List UInt8
  nodeState : Option NodeState
  riskState : Option RiskState
  securityTier : Option SecurityTier
  isolationClass : Option IsolationClass
  keyProtection : Option KeyProtection
  deriving DecidableEq

structure AgentInventory where
  nodeId : String
  inventoryRevision : UInt64
  observedAtUnixMs : UInt64
  gpus : Option (List GpuInventory)
  availableCpuCores : Option UInt32
  availableRamBytes : Option UInt64
  availableWorkspaceBytes : Option UInt64
  allowedWorkloadClasses : Option (Finset WorkloadClass)
  thirdPartyWorkloadsOptIn : Option Bool
  deriving DecidableEq

inductive GpuAttestationOutcome where
  | recorded (inventoryRevision attestedAtUnixMs : UInt64)
  | noInventory
  | noDeclaredGpus
  | mismatch (reason : String)
  | olderThanMismatch (mismatchAtUnixMs : UInt64)
  deriving DecidableEq

inductive InventoryStoreError where
  | invalidInput (field : String)
  | agentNotFound (nodeId : String)
  | registryConflict (field : String)
  | lowerRevision (stored requested : UInt64)
  | revisionConflict (revision : UInt64)
  | corruptData (message : String)
  deriving DecidableEq

/-- The last observation of a node that matched a revision of its inventory. -/
structure GpuAttestationRow where
  inventoryRevision : UInt64
  attestedAtUnixMs : UInt64
  deriving DecidableEq

structure InventoryDb where
  agentRegistry : Table String AgentRegistry
  agentInventory : Table String AgentInventory
  gpuAttestations : Table String GpuAttestationRow
  gpuMismatches : Table String UInt64
  /-- The heartbeat column of the liveness table, a signed integer. -/
  nodeLiveness : Table String Int
  sessionSeen : Table String UInt64

def InventoryDb.empty : InventoryDb := ⟨∅, ∅, ∅, ∅, ∅, ∅⟩

/-- The one file of a coordinator. -/
structure CoordinatorFile where
  control : ControlDb
  inventory : InventoryDb

section Writes

def validateRegistry (registry : AgentRegistry) : Except InventoryStoreError Unit := do
  Except.ensure (isBlank registry.nodeId = false) (.invalidInput "node_id")
  Except.ensure (isBlank registry.deviceId = false) (.invalidInput "device_id")
  Except.ensure (isBlank registry.ownerMemberId = false) (.invalidInput "owner_member_id")
  Except.ensure (registry.verifyingKey.length = 32) (.invalidInput "verifying_key")

def validateGpus (seen : List String) : List GpuInventory → Except InventoryStoreError Unit
  | [] => .ok ()
  | gpu :: rest => do
      Except.ensure (isBlank gpu.gpuId = false) (.invalidInput "gpu_id")
      Except.ensure (gpu.gpuId ∉ seen) (.invalidInput "duplicate gpu_id")
      Except.ensure (gpu.model.any isBlank = false) (.invalidInput "gpu model")
      validateGpus (gpu.gpuId :: seen) rest

def validateInventory (inventory : AgentInventory) : Except InventoryStoreError Unit := do
  Except.ensure (isBlank inventory.nodeId = false) (.invalidInput "node_id")
  validateGpus [] (inventory.gpus.getD [])

/-- GPUs in the order of their ids. -/
def normalizedAndValidated (inventory : AgentInventory) :
    Except InventoryStoreError AgentInventory := do
  let normalized :=
    { inventory with
      gpus := inventory.gpus.map (·.mergeSort fun left right => left.gpuId ≤ right.gpuId) }
  validateInventory normalized
  .ok normalized

variable (file : CoordinatorFile)

/-- Only the same registration again is no conflict. -/
def registerAgent (registry : AgentRegistry) :
    Except InventoryStoreError (CoordinatorFile × Bool) := do
  validateRegistry registry
  match file.inventory.agentRegistry[registry.nodeId]? with
  | some stored =>
      Except.ensure (stored = registry) (.registryConflict "node_id")
      .ok (file, false)
  | none =>
      let rows := file.inventory.agentRegistry.rows
      Except.ensure (∀ other ∈ rows, other.deviceId ≠ registry.deviceId)
        (.registryConflict "device_id")
      Except.ensure (∀ other ∈ rows, other.verifyingKey ≠ registry.verifyingKey)
        (.registryConflict "verifying_key")
      .ok ({ file with
              inventory :=
                { file.inventory with
                  agentRegistry := file.inventory.agentRegistry.insert registry.nodeId registry } },
        true)

/-- The columns of an inventory that staging reads. -/
def AgentInventory.toRow (inventory : AgentInventory) : InventoryRow where
  inventoryRevision := inventory.inventoryRevision
  gpuIds := (inventory.gpus.getD []).map (·.gpuId)

/-- An inventory that claims no GPU drops what was said against the GPUs of an earlier one. -/
def writeInventory (inventory : AgentInventory) : CoordinatorFile where
  control :=
    { file.control with
      agentInventory := file.control.agentInventory.insert inventory.nodeId inventory.toRow }
  inventory :=
    { file.inventory with
      agentInventory := file.inventory.agentInventory.insert inventory.nodeId inventory
      gpuMismatches :=
        if inventory.gpus.getD [] = [] then file.inventory.gpuMismatches.erase inventory.nodeId
        else file.inventory.gpuMismatches }

def updateInventory (inventory : AgentInventory) :
    Except InventoryStoreError (CoordinatorFile × Bool) := do
  let normalized ← normalizedAndValidated inventory
  Except.ensure (file.inventory.agentRegistry[normalized.nodeId]? ≠ none)
    (.agentNotFound normalized.nodeId)
  match file.inventory.agentInventory[normalized.nodeId]? with
  | none => .ok (writeInventory file normalized, true)
  | some stored =>
      Except.ensure (stored.inventoryRevision ≤ normalized.inventoryRevision)
        (.lowerRevision stored.inventoryRevision normalized.inventoryRevision)
      if stored.inventoryRevision = normalized.inventoryRevision then
        Except.ensure (stored = normalized) (.revisionConflict normalized.inventoryRevision)
        .ok (file, false)
      else .ok (writeInventory file normalized, true)

end Writes

section Attestation

variable (db : InventoryDb) (nodeId : String) (attestedAtUnixMs : UInt64)

/-- The last match counts only against the inventory it was made with. -/
def lastMatchAt (inventory : AgentInventory) : Option UInt64 :=
  (db.gpuAttestations[nodeId]?.filter (·.inventoryRevision = inventory.inventoryRevision)).map
    (·.attestedAtUnixMs)

/-- An observation against the declaration is written down unless a newer one matched. -/
def recordMismatch (inventory : AgentInventory) : InventoryDb :=
  if (lastMatchAt db nodeId inventory).all (· ≤ attestedAtUnixMs) then
    { db with
      gpuMismatches := db.gpuMismatches.insert nodeId
        (match db.gpuMismatches[nodeId]? with
          | none => attestedAtUnixMs
          | some old => max old attestedAtUnixMs) }
  else db

/-- An observation that matches takes back a mismatch only if it is newer. -/
def recordMatch (inventory : AgentInventory) : InventoryDb × GpuAttestationOutcome :=
  let attestedAt := match lastMatchAt db nodeId inventory with
    | some earlier => max earlier attestedAtUnixMs
    | none => attestedAtUnixMs
  let written := { db with
    gpuMismatches := db.gpuMismatches.erase nodeId
    gpuAttestations :=
      db.gpuAttestations.insert nodeId ⟨inventory.inventoryRevision, attestedAt⟩ }
  match db.gpuMismatches[nodeId]? with
  | some mismatchAt =>
      if attestedAtUnixMs ≤ mismatchAt then (db, .olderThanMismatch mismatchAt)
      else (written, .recorded inventory.inventoryRevision attestedAt)
  | none => (written, .recorded inventory.inventoryRevision attestedAt)

def recordGpuAttestation (observation : NodeGpuObservation) :
    InventoryDb × GpuAttestationOutcome :=
  match db.agentInventory[nodeId]? with
  | none => (db, .noInventory)
  | some inventory =>
      let declared := inventory.gpus.getD []
      if declared = [] then
        ({ db with gpuMismatches := db.gpuMismatches.erase nodeId }, .noDeclaredGpus)
      else
        match matchDeclaration declared observation.gpus with
        | .error reason => (recordMismatch db nodeId attestedAtUnixMs inventory, .mismatch reason)
        | .ok () => recordMatch db nodeId attestedAtUnixMs inventory

end Attestation

section Pool

def GpuInventory.toSnapshot (gpu : GpuInventory) : GpuSnapshot where
  gpuId := gpu.gpuId
  healthy := gpu.healthy
  availableVramBytes := gpu.availableVramBytes
  model := gpu.model

def projectCandidate (registry : AgentRegistry) (inventory : Option AgentInventory) :
    CandidateSnapshot where
  nodeId := registry.nodeId
  inventoryRevision := inventory.map (·.inventoryRevision)
  ownerMemberId := some registry.ownerMemberId
  nodeState := registry.nodeState
  riskState := registry.riskState
  observedAtUnixMs := inventory.map (·.observedAtUnixMs)
  securityTier := registry.securityTier
  isolationClass := registry.isolationClass
  keyProtection := registry.keyProtection
  gpus := inventory.bind fun inventory => inventory.gpus.map (·.map (·.toSnapshot))
  availableCpuCores := inventory.bind (·.availableCpuCores)
  availableRamBytes := inventory.bind (·.availableRamBytes)
  availableWorkspaceBytes := inventory.bind (·.availableWorkspaceBytes)
  allowedWorkloadClasses := inventory.bind (·.allowedWorkloadClasses)
  thirdPartyWorkloadsOptIn := inventory.bind (·.thirdPartyWorkloadsOptIn)
  reservation := none
  lastHeartbeatUnixMs := none
  gpuObservationMismatchAtUnixMs := none

variable (file : CoordinatorFile) (nodeId : String)

def fetchHeartbeat : Except InventoryStoreError (Option UInt64) :=
  Except.onSome (fun value =>
    if value < 0 then
      .error (.corruptData s!"liveness last_heartbeat_unix_ms 가 음수다: {value}")
    else .ok (UInt64.ofNat value.toNat)) file.inventory.nodeLiveness[nodeId]?

/-- The later of the two, or the one that is there. -/
def laterOf : Option UInt64 → Option UInt64 → Option UInt64
  | some first, some second => some (max first second)
  | first, second => first.or second

/-- A node that its owner took back is not heard of before it greets again. -/
def lastHeard (heartbeat : Option UInt64) : Option UInt64 :=
  if file.control.nodeReclaims[nodeId]? ≠ none then none
  else laterOf heartbeat file.inventory.sessionSeen[nodeId]?

/-- A match of the very revision that is declared keeps it fresh. -/
def attestedFreshness (revision observedAtUnixMs : Option UInt64) : Option UInt64 :=
  match file.inventory.gpuAttestations[nodeId]? with
  | some row =>
      if revision = some row.inventoryRevision then
        observedAtUnixMs.map (max · row.attestedAtUnixMs)
      else observedAtUnixMs
  | none => observedAtUnixMs

def snapshotCandidate (registry : AgentRegistry) :
    Except InventoryStoreError CandidateSnapshot := do
  let nodeId := registry.nodeId
  let candidate := projectCandidate registry file.inventory.agentInventory[nodeId]?
  let heartbeat ← fetchHeartbeat file nodeId
  let reservation ← (fetchNodeReservation file.control nodeId).mapError
    (fun fault => .corruptData fault.display)
  .ok { candidate with
        lastHeartbeatUnixMs := lastHeard file nodeId heartbeat
        observedAtUnixMs :=
          attestedFreshness file nodeId candidate.inventoryRevision candidate.observedAtUnixMs
        gpuObservationMismatchAtUnixMs :=
          if candidate.gpus.any (· ≠ []) then file.inventory.gpuMismatches[nodeId]? else none
        reservation := reservation.map fun reservation =>
          ⟨reservation.attemptId, reservation.expiredAtUnixMs⟩ }

def poolSnapshot (evaluatedAtUnixMs : UInt64) : Except InventoryStoreError PoolSnapshot := do
  let candidates ← file.inventory.agentRegistry.rows.mapM (snapshotCandidate file)
  .ok { evaluatedAtUnixMs
        candidates := candidates.mergeSort fun left right => left.nodeId ≤ right.nodeId }

end Pool

end Gputeer.Coordinator
