import Gputeer.Scheduler.Concerns
import Gputeer.Scheduler.Rank

/-! The scope of an assignment: which GPUs of one fixed observation a job could be given. What was not
observed is an error, and an error does not hang on the order of the observation. -/

namespace Gputeer.Scheduler

open Text

inductive GpuAllocationMode where
  | exclusive | shared | partitioned
  deriving DecidableEq

inductive ProvenanceGate where
  | verified | unverified
  deriving DecidableEq

inductive AvailableVramObservation where
  | authoritative (bytes : UInt64)
  | derivedFromTotalAndReserved (totalBytes reservedBytes : UInt64)
  deriving DecidableEq

structure ScopeGpuObservation where
  gpuId : String
  healthy : Option Bool
  availableVram : Option AvailableVramObservation
  model : Option String
  driverVersion : Option UInt32
  computeCapability : Option String
  allocationModes : Option (Finset GpuAllocationMode)
  deriving DecidableEq

structure GpuObservationSnapshot where
  observedAtUnixMs : Option UInt64
  inventoryRevision : Option UInt64
  gpus : Option (List ScopeGpuObservation)
  deriving DecidableEq

structure JobGpuRequirements where
  minimumVramBytesPerGpu : Option UInt64
  minimumGpuCount : Option UInt32
  minimumDriverVersion : Option UInt32
  cudaRuntimeVersion : Option String
  allowedComputeCapabilities : List String
  allocationMode : Option GpuAllocationMode
  allowedGpuModels : List String
  deriving DecidableEq

structure ScopeResourceInput where
  cpuCores : Option UInt32
  ramBytes : Option UInt64
  workspaceBytes : Option UInt64
  writablePrefixes : Option (List String)
  deriving DecidableEq

structure ScopeCandidate where
  observedAtUnixMs : UInt64
  inventoryRevision : UInt64
  selectedGpuIds : List String
  allocationMode : GpuAllocationMode
  cpuCores : UInt32
  ramBytes : UInt64
  workspaceBytes : UInt64
  writablePrefixes : List String
  deriving DecidableEq

inductive ScopeMissingFact where
  | observedAt | inventoryRevision | gpuInventory | jobMinimumVram | jobMinimumGpuCount
  | jobAllocationMode | cpuCores | ramBytes | workspaceBytes | writablePrefixes
  | gpuHealth (gpuId : String)
  | gpuModel (gpuId : String)
  | gpuDriverVersion (gpuId : String)
  | gpuComputeCapability (gpuId : String)
  | gpuAllocationModes (gpuId : String)
  | authoritativeAvailableVram (gpuId : String)
  deriving DecidableEq

inductive ScopeError where
  | unverifiedProvenance
  | missingFact (fact : ScopeMissingFact)
  | minimumGpuCountMustBePositive
  | emptyGpuId
  | nonCanonicalGpuId (gpuId : String)
  | duplicateGpuId (gpuId : String)
  | emptyWritablePrefix
  | nonCanonicalWritablePrefix (text : String)
  | duplicateWritablePrefix (text : String)
  | nonAuthoritativeAvailableVram (gpuId : String)
  | cudaRuntimeCompatibilityUnresolved
  | insufficientMatchingGpus (matching required : UInt32)
  | partitionedAllocationUnproven
  | sharedAllocationUnproven
  deriving DecidableEq

section Texts

/-- The least of the texts that are not trimmed. -/
def firstUntrimmed (texts : List String) : Option String :=
  (texts.filter fun text => trim text ≠ text).min?

/-- The least of the texts that occur more than once. -/
def firstRepeated (texts : List String) : Option String :=
  (sorted texts).find? fun text => 1 < texts.count text

def validateGpuIds (gpus : List ScopeGpuObservation) : Except ScopeError Unit := do
  let gpuIds := gpus.map (·.gpuId)
  Except.ensure (gpuIds.any isBlank = false) .emptyGpuId
  match firstUntrimmed gpuIds with
  | some gpuId => .error (.nonCanonicalGpuId gpuId)
  | none =>
      match firstRepeated gpuIds with
      | some gpuId => .error (.duplicateGpuId gpuId)
      | none => .ok ()

def canonicalPrefixes (prefixes : List String) : Except ScopeError (List String) := do
  Except.ensure (prefixes.any isBlank = false) .emptyWritablePrefix
  match firstUntrimmed prefixes with
  | some text => .error (.nonCanonicalWritablePrefix text)
  | none =>
      let canonical := sortedDedup prefixes
      if canonical.length ≠ prefixes.length then
        match firstRepeated prefixes with
        | some text => .error (.duplicateWritablePrefix text)
        -- a shorter set has a repeated prefix, so that the `expect` of the source never fails
        | none => .ok canonical
      else .ok canonical

end Texts

section Gpus

variable (requirements : JobGpuRequirements) (allocationMode : GpuAllocationMode)

/-- An empty list of texts allows every value, and does not ask for one. -/
def allowsText (allowed : List String) (value : Option String) (fact : ScopeMissingFact) :
    Except ScopeError Bool :=
  if allowed = [] then .ok true
  else do
    let value ← Except.ofOption (.missingFact fact) value
    .ok (value ∈ allowed)

def allowsDriver (gpu : ScopeGpuObservation) : Except ScopeError Bool :=
  match requirements.minimumDriverVersion with
  | none => .ok true
  | some requiredDriver => do
      let driver ← Except.ofOption (.missingFact (.gpuDriverVersion gpu.gpuId)) gpu.driverVersion
      .ok (¬ driver < requiredDriver)

def authoritativeVram (gpu : ScopeGpuObservation) : Except ScopeError UInt64 :=
  match gpu.availableVram with
  | none => .error (.missingFact (.authoritativeAvailableVram gpu.gpuId))
  | some (.authoritative bytes) => .ok bytes
  | some (.derivedFromTotalAndReserved _ _) => .error (.nonAuthoritativeAvailableVram gpu.gpuId)

/-- One round of the loop: the memory and the id of a GPU that matches. -/
def matchGpu (minimumVramBytesPerGpu : UInt64) (gpu : ScopeGpuObservation) :
    Except ScopeError (Option (UInt64 × String)) := do
  let healthy ← Except.ofOption (.missingFact (.gpuHealth gpu.gpuId)) gpu.healthy
  if healthy = false then .ok none
  else if ¬ (← allowsText requirements.allowedGpuModels gpu.model (.gpuModel gpu.gpuId)) then .ok none
  else if ¬ (← allowsDriver requirements gpu) then .ok none
  else if ¬ (← allowsText requirements.allowedComputeCapabilities gpu.computeCapability
      (.gpuComputeCapability gpu.gpuId)) then .ok none
  else
    let modes ← Except.ofOption (.missingFact (.gpuAllocationModes gpu.gpuId)) gpu.allocationModes
    if allocationMode ∉ modes then .ok none
    else
      let available ← authoritativeVram gpu
      .ok (if minimumVramBytesPerGpu ≤ available then some (available, gpu.gpuId) else none)

end Gpus

def missingScope {α : Type} (fact : ScopeMissingFact) (found : Option α) : Except ScopeError α :=
  Except.ofOption (.missingFact fact) found

/-- The GPUs in the order of their ids. -/
def canonicalGpus (gpus : List ScopeGpuObservation) : List ScopeGpuObservation :=
  gpus.mergeSort fun left right => (compare left.gpuId right.gpuId).isLE

def gpuScopeCandidate (snapshot : GpuObservationSnapshot) (requirements : JobGpuRequirements)
    (resources : ScopeResourceInput) (provenance : ProvenanceGate) :
    Except ScopeError ScopeCandidate := do
  Except.ensure (provenance = .verified) .unverifiedProvenance
  let observedAtUnixMs ← missingScope .observedAt snapshot.observedAtUnixMs
  let inventoryRevision ← missingScope .inventoryRevision snapshot.inventoryRevision
  let minimumVramBytesPerGpu ← missingScope .jobMinimumVram requirements.minimumVramBytesPerGpu
  let minimumGpuCount ← missingScope .jobMinimumGpuCount requirements.minimumGpuCount
  Except.ensure (minimumGpuCount ≠ 0) .minimumGpuCountMustBePositive
  Except.ensure (requirements.cudaRuntimeVersion = none) .cudaRuntimeCompatibilityUnresolved
  let allocationMode ← missingScope .jobAllocationMode requirements.allocationMode
  Except.ensure (allocationMode ≠ .partitioned) .partitionedAllocationUnproven
  Except.ensure (allocationMode ≠ .shared) .sharedAllocationUnproven
  let cpuCores ← missingScope .cpuCores resources.cpuCores
  let ramBytes ← missingScope .ramBytes resources.ramBytes
  let workspaceBytes ← missingScope .workspaceBytes resources.workspaceBytes
  let given ← missingScope .writablePrefixes resources.writablePrefixes
  let writablePrefixes ← canonicalPrefixes given
  let gpus ← missingScope .gpuInventory snapshot.gpus
  validateGpuIds gpus
  let found ← (canonicalGpus gpus).mapM (matchGpu requirements allocationMode minimumVramBytesPerGpu)
  let matching := found.reduceOption.mergeSort gpuLe
  let required := minimumGpuCount.toNat
  Except.ensure (required ≤ matching.length)
    (.insufficientMatchingGpus (saturatingU32 matching.length) minimumGpuCount)
  .ok { observedAtUnixMs, inventoryRevision,
        selectedGpuIds := sorted ((matching.take required).map Prod.snd), allocationMode, cpuCores,
        ramBytes, workspaceBytes, writablePrefixes }

end Gputeer.Scheduler
