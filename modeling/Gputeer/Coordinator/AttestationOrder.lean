import Gputeer.Coordinator.InventoryRuns
import Gputeer.Coordinator.StagingReplay
import Gputeer.Lib.Objection

/-! The GPUs of a node are judged by the time at which it saw them: its observations are words for and
against what is declared, and the two tables are the registers that these words leave. -/

namespace Gputeer.Coordinator

open Protocol Scheduler Objection

/-- An observation of a node's GPUs, with the time it is taken at. -/
structure TimedObservation where
  observation : NodeGpuObservation
  attestedAtUnixMs : UInt64

local instance wordOrder : LinearOrder UInt64 where
  le_refl := UInt64.le_refl
  le_trans _ _ _ := UInt64.le_trans
  lt_iff_le_not_ge first second := by
    rw [UInt64.not_le]
    exact ⟨fun less => ⟨UInt64.le_of_lt less, less⟩, And.right⟩
  le_antisymm _ _ := UInt64.le_antisymm
  le_total := UInt64.le_total
  toDecidableLE := inferInstance
  toDecidableEq := inferInstance
  toDecidableLT := inferInstance
  max_def _ _ := rfl
  min_def _ _ := rfl

namespace AgentInventory

/-- What an observation says about this inventory. -/
def wordOf (inventory : AgentInventory) (observed : TimedObservation) : Word UInt64 :=
  match matchDeclaration (inventory.gpus.getD []) observed.observation.gpus with
  | .ok () => .confirm observed.attestedAtUnixMs
  | .error _ => .object observed.attestedAtUnixMs

end AgentInventory

namespace InventoryDb

/-- What is written down for and against an inventory of a node. -/
def standing (db : InventoryDb) (nodeId : String) (inventory : AgentInventory) : Record UInt64 :=
  ⟨lastMatchAt db nodeId inventory, db.gpuMismatches[nodeId]?⟩

/-- A match is of the declared revision or of an earlier one, and a mismatch beside a match of the
declared revision is at or after it. -/
structure Coherent (db : InventoryDb) : Prop where
  declared : ∀ (nodeId : String) (row : GpuAttestationRow), db.gpuAttestations[nodeId]? = some row →
    ∃ inventory, db.agentInventory[nodeId]? = some inventory ∧
      row.inventoryRevision ≤ inventory.inventoryRevision
  settled : ∀ (nodeId : String) (inventory : AgentInventory),
    db.agentInventory[nodeId]? = some inventory → (db.standing nodeId inventory).Settled

end InventoryDb

section Record

variable {db next : InventoryDb} {nodeId other : String} {attestedAtUnixMs : UInt64}
  {observation : NodeGpuObservation} {inventory : AgentInventory}

theorem recordMatch_fst :
    (recordMatch db nodeId attestedAtUnixMs inventory).1 =
      if db.gpuMismatches[nodeId]?.any (attestedAtUnixMs ≤ ·) then db
      else
        { db with
          gpuMismatches := db.gpuMismatches.erase nodeId
          gpuAttestations := db.gpuAttestations.insert nodeId
            ⟨inventory.inventoryRevision, later (lastMatchAt db nodeId inventory) attestedAtUnixMs⟩ } := by
  unfold recordMatch later
  cases lastMatchAt db nodeId inventory <;> cases db.gpuMismatches[nodeId]? with
  | none => rfl
  | some mismatchAt =>
      by_cases early : attestedAtUnixMs ≤ mismatchAt
      · simp [early]
      · rw [if_neg (by simpa using early)]
        exact congrArg Prod.fst (if_neg early)

theorem recordMatch_standing :
    (recordMatch db nodeId attestedAtUnixMs inventory).1.standing nodeId inventory =
      (db.standing nodeId inventory).hear (.confirm attestedAtUnixMs) := by
  rw [recordMatch_fst]
  by_cases early : db.gpuMismatches[nodeId]?.any (attestedAtUnixMs ≤ ·) = true
  · rw [if_pos early, Record.hear]
    exact (if_pos early).symm
  · rw [if_neg early, Record.hear]
    refine Eq.trans ?_ (if_neg early).symm
    simp [InventoryDb.standing, lastMatchAt]

theorem recordMismatch_standing :
    (recordMismatch db nodeId attestedAtUnixMs inventory).standing nodeId inventory =
      (db.standing nodeId inventory).hear (.object attestedAtUnixMs) := by
  unfold recordMismatch
  by_cases after : (lastMatchAt db nodeId inventory).all (· ≤ attestedAtUnixMs) = true
  · rw [if_pos after, Record.hear]
    refine Eq.trans ?_ (if_pos after).symm
    simp only [InventoryDb.standing, lastMatchAt, Table.lookup_insert, if_true]
    cases db.gpuMismatches[nodeId]? <;> rfl
  · rw [if_neg after, Record.hear]
    exact (if_neg after).symm

/-- An observation is heard by the registers of its node. -/
theorem recordGpuAttestation_standing (declared : db.agentInventory[nodeId]? = some inventory)
    (claims : inventory.gpus.getD [] ≠ []) :
    (recordGpuAttestation db nodeId attestedAtUnixMs observation).1.standing nodeId inventory =
      (db.standing nodeId inventory).hear
        (inventory.wordOf ⟨observation, attestedAtUnixMs⟩) := by
  simp only [recordGpuAttestation, AgentInventory.wordOf, declared, claims, if_false]
  cases matchDeclaration (inventory.gpus.getD []) observation.gpus with
  | error reason => exact recordMismatch_standing
  | ok done => exact recordMatch_standing

/-- Two databases that differ in nothing but what was observed of one node. -/
structure InventoryDb.SameBut (nodeId : String) (db next : InventoryDb) : Prop where
  registry : next.agentRegistry = db.agentRegistry
  inventory : next.agentInventory = db.agentInventory
  liveness : next.nodeLiveness = db.nodeLiveness
  seen : next.sessionSeen = db.sessionSeen
  attestations : ∀ other : String, other ≠ nodeId →
    next.gpuAttestations[other]? = db.gpuAttestations[other]?
  mismatches : ∀ other : String, other ≠ nodeId → next.gpuMismatches[other]? = db.gpuMismatches[other]?

theorem InventoryDb.SameBut.refl (nodeId : String) (db : InventoryDb) : SameBut nodeId db db :=
  ⟨rfl, rfl, rfl, rfl, fun _ _ => rfl, fun _ _ => rfl⟩

theorem InventoryDb.SameBut.trans {last : InventoryDb} (first : SameBut nodeId db next)
    (second : SameBut nodeId next last) : SameBut nodeId db last where
  registry := second.registry.trans first.registry
  inventory := second.inventory.trans first.inventory
  liveness := second.liveness.trans first.liveness
  seen := second.seen.trans first.seen
  attestations other away := (second.attestations other away).trans (first.attestations other away)
  mismatches other away := (second.mismatches other away).trans (first.mismatches other away)

theorem InventoryDb.SameBut.standing (same : db.SameBut nodeId next) (away : other ≠ nodeId) :
    next.standing other inventory = db.standing other inventory := by
  simp only [InventoryDb.standing, lastMatchAt, same.attestations other away,
    same.mismatches other away]

theorem recordGpuAttestation_sameBut (db : InventoryDb) (nodeId : String) (attestedAtUnixMs : UInt64)
    (observation : NodeGpuObservation) :
    db.SameBut nodeId (recordGpuAttestation db nodeId attestedAtUnixMs observation).1 := by
  unfold recordGpuAttestation
  cases db.agentInventory[nodeId]? with
  | none => exact InventoryDb.SameBut.refl nodeId db
  | some inventory =>
      dsimp only
      split
      · refine ⟨rfl, rfl, rfl, rfl, fun _ _ => rfl, fun other away => ?_⟩
        simp [Table.lookup_erase, away.symm]
      · cases matchDeclaration (inventory.gpus.getD []) observation.gpus with
        | error reason =>
            dsimp only [recordMismatch]
            split
            · refine ⟨rfl, rfl, rfl, rfl, fun _ _ => rfl, fun other away => ?_⟩
              simp [Table.lookup_insert_ne away.symm]
            · exact InventoryDb.SameBut.refl nodeId db
        | ok done =>
            dsimp only
            rw [recordMatch_fst]
            split
            · exact InventoryDb.SameBut.refl nodeId db
            · refine ⟨rfl, rfl, rfl, rfl, fun other away => ?_, fun other away => ?_⟩
              · simp [Table.lookup_insert_ne away.symm]
              · simp [Table.lookup_erase, away.symm]

/-- A match that is written down is of the declared revision. -/
theorem recordGpuAttestation_row {row : GpuAttestationRow}
    (found : (recordGpuAttestation db nodeId attestedAtUnixMs observation).1.gpuAttestations[nodeId]? =
      some row) :
    db.gpuAttestations[nodeId]? = some row ∨ ∃ inventory,
      db.agentInventory[nodeId]? = some inventory ∧
        row.inventoryRevision = inventory.inventoryRevision := by
  unfold recordGpuAttestation at found
  cases declared : db.agentInventory[nodeId]? with
  | none =>
      simp only [declared] at found
      exact Or.inl found
  | some inventory =>
      simp only [declared] at found
      split at found
      · exact Or.inl found
      · split at found
        · dsimp only [recordMismatch] at found
          split at found
          · exact Or.inl found
          · exact Or.inl found
        · rw [recordMatch_fst] at found
          split at found
          · exact Or.inl found
          · rw [Table.lookup_insert, if_pos rfl] at found
            exact Or.inr ⟨inventory, rfl, congrArg _ (Option.some.inj found).symm⟩

end Record

section Coherence

variable {db : InventoryDb} {file next : CoordinatorFile}

theorem recordGpuAttestation_coherent (coherent : db.Coherent) (nodeId : String)
    (attestedAtUnixMs : UInt64) (observation : NodeGpuObservation) :
    (recordGpuAttestation db nodeId attestedAtUnixMs observation).1.Coherent := by
  have same := recordGpuAttestation_sameBut db nodeId attestedAtUnixMs observation
  constructor
  · intro other row found
    rw [same.inventory]
    by_cases away : other = nodeId
    · subst away
      rcases recordGpuAttestation_row found with before | ⟨inventory, declared, revision⟩
      · exact coherent.declared other row before
      · exact ⟨inventory, declared, UInt64.le_of_eq revision⟩
    · rw [same.attestations other away] at found
      exact coherent.declared other row found
  · intro other inventory declared
    rw [same.inventory] at declared
    have settled := coherent.settled other inventory declared
    by_cases away : other = nodeId
    · subst away
      by_cases claims : inventory.gpus.getD [] = []
      · intro confirmed _ stands standing
        simp [recordGpuAttestation, declared, claims, InventoryDb.standing] at standing
      · rw [recordGpuAttestation_standing declared claims]
        exact settled.hear _
    · rw [same.standing away]
      exact settled

/-- A revision that is written is new, so nothing matched it before. -/
theorem writeInventory_coherent {normalized : AgentInventory} (coherent : file.inventory.Coherent)
    (raised : ∀ stored ∈ file.inventory.agentInventory[normalized.nodeId]?,
      stored.inventoryRevision < normalized.inventoryRevision) :
    (writeInventory file normalized).inventory.Coherent := by
  have older : ∀ row : GpuAttestationRow,
      file.inventory.gpuAttestations[normalized.nodeId]? = some row →
      row.inventoryRevision < normalized.inventoryRevision := by
    intro row found
    obtain ⟨stored, declared, revision⟩ := coherent.declared normalized.nodeId row found
    exact UInt64.lt_of_le_of_lt revision (raised stored declared)
  have declares : ∀ nodeId : String, (writeInventory file normalized).inventory.agentInventory[nodeId]? =
      if normalized.nodeId = nodeId then some normalized
      else file.inventory.agentInventory[nodeId]? := fun nodeId => Table.lookup_insert
  constructor
  · intro nodeId row found
    rw [declares]
    by_cases same : normalized.nodeId = nodeId
    · subst same
      exact ⟨normalized, if_pos rfl, UInt64.le_of_lt (older row found)⟩
    · rw [if_neg same]
      exact coherent.declared nodeId row found
  · intro nodeId inventory declared
    rw [declares] at declared
    by_cases same : normalized.nodeId = nodeId
    · subst same
      rw [if_pos rfl] at declared
      obtain rfl := Option.some.inj declared
      intro confirmed matched
      simp only [InventoryDb.standing, lastMatchAt, Option.mem_def, Option.map_eq_some_iff,
        Option.filter_eq_some_iff, decide_eq_true_eq] at matched
      obtain ⟨row, ⟨found, revision⟩, _⟩ := matched
      exact absurd revision (UInt64.ne_of_lt (older row found))
    · rw [if_neg same] at declared
      have settled := coherent.settled nodeId inventory declared
      intro confirmed matched stands standing
      refine settled confirmed matched stands ?_
      simp only [InventoryDb.standing, writeInventory] at standing ⊢
      split at standing
      · rwa [Table.lookup_erase, if_neg same] at standing
      · exact standing

theorem FileReached.coherent {codec : Codec} (reached : FileReached codec file) :
    file.inventory.Coherent := by
  induction reached with
  | created =>
      exact ⟨fun _ _ found => by simp [InventoryDb.empty] at found,
        fun _ _ found => by simp [InventoryDb.empty] at found⟩
  | called reached operation ih => exact ih
  | @told file reached event ih =>
      cases event with
      | register registry =>
          cases done : registerAgent file registry with
          | error fault => simpa [InventoryEvent.apply, done, Except.toOption] using ih
          | ok answer =>
              rcases registerAgent_eq_ok done with same | same
              · simpa [InventoryEvent.apply, done, Except.toOption, same] using ih
              · simp only [InventoryEvent.apply, done, Except.toOption, same, Option.map_some,
                  Option.getD_some]
                exact ⟨ih.declared, ih.settled⟩
      | update inventory => 
          cases done : updateInventory file inventory with
          | error fault => simpa [InventoryEvent.apply, done, Except.toOption] using ih
          | ok answer =>
              rcases updateInventory_eq_ok done with same | ⟨normalized, same, raised⟩
              · simpa [InventoryEvent.apply, done, Except.toOption, same] using ih
              · simpa [InventoryEvent.apply, done, Except.toOption, same] using
                  writeInventory_coherent ih raised
      | attest nodeId observation attestedAtUnixMs =>
          exact recordGpuAttestation_coherent ih nodeId attestedAtUnixMs observation
  | heard reached nodeLiveness sessionSeen ih => exact ⟨ih.declared, ih.settled⟩

end Coherence

variable {codec : Codec} {file : CoordinatorFile} {nodeId : String} {inventory : AgentInventory}
  {observations : List TimedObservation}

def TimedObservation.event (nodeId : String) (observed : TimedObservation) : InventoryEvent :=
  .attest nodeId observed.observation observed.attestedAtUnixMs

/-- The file after these observations of a node, in this order. -/
def observe (file : CoordinatorFile) (nodeId : String) (observations : List TimedObservation) :
    CoordinatorFile :=
  InventoryEvent.applyAll file (observations.map (·.event nodeId))

section Times

variable (file nodeId inventory observations)

/-- When the declared GPUs were contradicted: by the observations, or by an earlier one whose mismatch
is written down. -/
def contradictingTimes : Set UInt64 :=
  {time | file.inventory.gpuMismatches[nodeId]? = some time ∨
    ∃ observed ∈ observations, observed.attestedAtUnixMs = time ∧
      matchDeclaration (inventory.gpus.getD []) observed.observation.gpus ≠ .ok ()}

/-- When they were seen as declared. -/
def matchingTimes : Set UInt64 :=
  {time | lastMatchAt file.inventory nodeId inventory = some time ∨
    ∃ observed ∈ observations, observed.attestedAtUnixMs = time ∧
      matchDeclaration (inventory.gpus.getD []) observed.observation.gpus = .ok ()}

/-- All that was said for and against the inventory. -/
def heardOf : Set (Word UInt64) :=
  (file.inventory.standing nodeId inventory).words ∪
    {word | word ∈ observations.map inventory.wordOf}

end Times

theorem wordOf_eq_object {observed : TimedObservation} {time : UInt64} :
    inventory.wordOf observed = .object time ↔ observed.attestedAtUnixMs = time ∧
      matchDeclaration (inventory.gpus.getD []) observed.observation.gpus ≠ .ok () := by
  unfold AgentInventory.wordOf
  cases matchDeclaration (inventory.gpus.getD []) observed.observation.gpus with
  | error reason => simp
  | ok done => simp

theorem wordOf_eq_confirm {observed : TimedObservation} {time : UInt64} :
    inventory.wordOf observed = .confirm time ↔ observed.attestedAtUnixMs = time ∧
      matchDeclaration (inventory.gpus.getD []) observed.observation.gpus = .ok () := by
  unfold AgentInventory.wordOf
  cases matchDeclaration (inventory.gpus.getD []) observed.observation.gpus with
  | error reason => simp
  | ok done => simp

theorem objections_heardOf :
    objections (heardOf file nodeId inventory observations) =
      contradictingTimes file nodeId inventory observations := by
  ext time
  simp only [objections, heardOf, Record.words, InventoryDb.standing, contradictingTimes,
    Set.mem_ofPred_eq, Set.mem_union, List.mem_map, wordOf_eq_object, Option.mem_def]

theorem confirmations_heardOf :
    confirmations (heardOf file nodeId inventory observations) =
      matchingTimes file nodeId inventory observations := by
  ext time
  simp only [confirmations, heardOf, Record.words, InventoryDb.standing, matchingTimes,
    Set.mem_ofPred_eq, Set.mem_union, List.mem_map, wordOf_eq_confirm, Option.mem_def]

theorem observe_sameBut (file : CoordinatorFile) (nodeId : String)
    (observations : List TimedObservation) :
    (observe file nodeId observations).control = file.control ∧
      file.inventory.SameBut nodeId (observe file nodeId observations).inventory := by
  induction observations generalizing file with
  | nil => exact ⟨rfl, InventoryDb.SameBut.refl nodeId file.inventory⟩
  | cons observed observations ih =>
      obtain ⟨control, same⟩ := ih ((observed.event nodeId).apply file)
      exact ⟨control, (recordGpuAttestation_sameBut file.inventory nodeId
        observed.attestedAtUnixMs observed.observation).trans same⟩

theorem observe_standing (declared : file.inventory.agentInventory[nodeId]? = some inventory)
    (claims : inventory.gpus.getD [] ≠ []) (observations : List TimedObservation) :
    (observe file nodeId observations).inventory.standing nodeId inventory =
      (observations.map inventory.wordOf).foldl Record.hear
        (file.inventory.standing nodeId inventory) := by
  induction observations generalizing file with
  | nil => rfl
  | cons observed observations ih =>
      have same := recordGpuAttestation_sameBut file.inventory nodeId observed.attestedAtUnixMs
        observed.observation
      have first : ((observed.event nodeId).apply file).inventory.standing nodeId inventory =
          (file.inventory.standing nodeId inventory).hear (inventory.wordOf observed) :=
        recordGpuAttestation_standing declared claims
      have still : ((observed.event nodeId).apply file).inventory.agentInventory[nodeId]? =
          some inventory := by
        rw [← declared]
        exact congrArg (fun table => table[nodeId]?) same.inventory
      rw [List.map_cons, List.foldl_cons, ← first]
      exact ih still

/-- What the observations and the registers they began with say is all that the registers say. -/
theorem observe_judges (coherent : file.inventory.Coherent)
    (declared : file.inventory.agentInventory[nodeId]? = some inventory)
    (claims : inventory.gpus.getD [] ≠ []) (observations : List TimedObservation) :
    ((observe file nodeId observations).inventory.standing nodeId inventory).Judges
      (heardOf file nodeId inventory observations) := by
  rw [observe_standing declared claims]
  exact (coherent.settled nodeId inventory declared).judges.hearAll _

/-- The time since which an inventory is fresh, given the last observation that matched it. -/
def AgentInventory.freshSince (inventory : AgentInventory) : Option UInt64 → UInt64
  | none => inventory.observedAtUnixMs
  | some last => max inventory.observedAtUnixMs last

section Verdict

variable {pool : PoolSnapshot} {candidate : CandidateSnapshot} {evaluatedAtUnixMs : UInt64}

/-- A candidate of the pool is made of the rows of its node. -/
theorem poolSnapshot_candidate (taken : poolSnapshot file evaluatedAtUnixMs = .ok pool)
    (listed : candidate ∈ pool.candidates)
    (declared : file.inventory.agentInventory[candidate.nodeId]? = some inventory)
    (claims : inventory.gpus.getD [] ≠ []) :
    candidate.gpuObservationMismatchAtUnixMs =
        (file.inventory.standing candidate.nodeId inventory).objected ∧
      candidate.observedAtUnixMs = some
        (inventory.freshSince (file.inventory.standing candidate.nodeId inventory).confirmed) := by
  simp only [poolSnapshot, Except.bind_eq_ok, Except.ok.injEq] at taken
  obtain ⟨candidates, projected, rfl⟩ := taken
  rw [List.mem_mergeSort] at listed
  obtain ⟨registry, _, made⟩ := Except.mem_of_mapM_eq_ok projected listed
  simp only [snapshotCandidate, Except.bind_eq_ok, Except.ok.injEq] at made
  obtain ⟨_, _, _, _, rfl⟩ := made
  have declaredThere : file.inventory.agentInventory[registry.nodeId]? = some inventory := declared
  have claimed : (inventory.gpus.map (·.map GpuInventory.toSnapshot)).any (· ≠ []) = true := by
    cases gpus : inventory.gpus with
    | none => simp [gpus] at claims
    | some gpus => simpa [gpus] using claims
  constructor
  · simp only [projectCandidate, declaredThere, Option.bind_some]
    exact if_pos claimed
  · simp only [projectCandidate, declaredThere, Option.map_some, attestedFreshness,
      InventoryDb.standing, lastMatchAt]
    cases file.inventory.gpuAttestations[registry.nodeId]? with
    | none => rfl
    | some row =>
        by_cases same : row.inventoryRevision = inventory.inventoryRevision
        · simp [same, Option.filter, AgentInventory.freshSince]
        · simp [same, Ne.symm same, Option.filter, AgentInventory.freshSince]

theorem observed_judges (reached : FileReached codec file)
    (declared : file.inventory.agentInventory[nodeId]? = some inventory)
    (claims : inventory.gpus.getD [] ≠ [])
    (taken : poolSnapshot (observe file nodeId observations) evaluatedAtUnixMs = .ok pool)
    (listed : candidate ∈ pool.candidates) (ofNode : candidate.nodeId = nodeId) :
    ∃ record : Record UInt64, record.Judges (heardOf file nodeId inventory observations) ∧
      candidate.gpuObservationMismatchAtUnixMs = record.objected ∧
      candidate.observedAtUnixMs = some (inventory.freshSince record.confirmed) := by
  subst ofNode
  have same := (observe_sameBut file candidate.nodeId observations).2
  have still : (observe file candidate.nodeId observations).inventory.agentInventory[
      candidate.nodeId]? = some inventory := by
    rw [same.inventory]
    exact declared
  exact ⟨_, observe_judges reached.coherent declared claims observations,
    poolSnapshot_candidate taken listed still claims⟩

theorem heardOf_congr {others : List TimedObservation}
    (sameSeen : ∀ observed, observed ∈ others ↔ observed ∈ observations) :
    heardOf file nodeId inventory others = heardOf file nodeId inventory observations := by
  ext word
  simp [heardOf, sameSeen]

end Verdict

section Samples

/-- One node that declares one GPU. -/
def declaredFile : CoordinatorFile :=
  InventoryEvent.applyAll ⟨ControlDb.empty, InventoryDb.empty⟩
    [.register (registryOf "node" 12), .update (inventoryOf "node" 1)]

def seenAsDeclared (attestedAtUnixMs : UInt64) : TimedObservation :=
  ⟨⟨attestedAtUnixMs, [⟨"GPU-0", "model", 12⟩]⟩, attestedAtUnixMs⟩

def seenMissing (attestedAtUnixMs : UInt64) : TimedObservation :=
  ⟨⟨attestedAtUnixMs, []⟩, attestedAtUnixMs⟩

/-- Each node of the pool, with the mismatch and the freshness that are shown of it. -/
def shownOf (observations : List TimedObservation) :
    Except InventoryStoreError (List (String × Option UInt64 × Option UInt64)) :=
  (poolSnapshot (observe declaredFile "node" observations) 100).map fun pool =>
    pool.candidates.map fun candidate =>
      (candidate.nodeId, candidate.gpuObservationMismatchAtUnixMs, candidate.observedAtUnixMs)

end Samples

end Gputeer.Coordinator
