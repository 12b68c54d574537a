import Gputeer.Coordinator.InventoryStore
import Gputeer.Coordinator.Operations

/-! The one file of a coordinator over time: calls of the stores on its control database, and what
nodes tell the inventory store beside them. -/

namespace Gputeer.Coordinator

open Protocol Scheduler ControlDb

/-- What nodes tell the inventory store. -/
inductive InventoryEvent where
  | register (registry : AgentRegistry)
  | update (inventory : AgentInventory)
  | attest (nodeId : String) (observation : NodeGpuObservation) (attestedAtUnixMs : UInt64)

namespace InventoryEvent

/-- A refused write leaves the file as it was. -/
def apply (file : CoordinatorFile) : InventoryEvent → CoordinatorFile
  | .register registry => ((registerAgent file registry).toOption.map Prod.fst).getD file
  | .update inventory => ((updateInventory file inventory).toOption.map Prod.fst).getD file
  | .attest nodeId observation attestedAtUnixMs =>
      { file with
        inventory :=
          (recordGpuAttestation file.inventory nodeId attestedAtUnixMs observation).1 }

def applyAll (file : CoordinatorFile) (events : List InventoryEvent) : CoordinatorFile :=
  events.foldl apply file

end InventoryEvent

/-- A file that calls of the stores, what the nodes told and what was heard of them have left. -/
inductive FileReached (codec : Codec) : CoordinatorFile → Prop
  | created : FileReached codec ⟨ControlDb.empty, InventoryDb.empty⟩
  | called {file : CoordinatorFile} (reached : FileReached codec file) (operation : Operation) :
      FileReached codec { file with control := step codec file.control operation }
  | told {file : CoordinatorFile} (reached : FileReached codec file) (event : InventoryEvent) :
      FileReached codec (event.apply file)
  | heard {file : CoordinatorFile} (reached : FileReached codec file)
      (nodeLiveness : Table String Int) (sessionSeen : Table String UInt64) :
      FileReached codec { file with inventory := { file.inventory with nodeLiveness, sessionSeen } }

section Frame

variable {file next : CoordinatorFile}

/-- Of the control database only the inventory rows differ. -/
def SameButInventory (file next : CoordinatorFile) : Prop :=
  ∃ rows, next.control = { file.control with agentInventory := rows }

theorem SameButInventory.refl (file : CoordinatorFile) : SameButInventory file file :=
  ⟨file.control.agentInventory, rfl⟩

theorem SameButInventory.trans {last : CoordinatorFile} (first : SameButInventory file next)
    (second : SameButInventory next last) : SameButInventory file last := by
  rcases first with ⟨rows, same⟩
  rcases second with ⟨later, after⟩
  exact ⟨later, by rw [after, same]⟩

/-- A registration that is taken adds a row under the node's own id. -/
theorem registerAgent_eq_ok {registry : AgentRegistry} {inserted : Bool}
    (done : registerAgent file registry = .ok (next, inserted)) :
    next = file ∨ next =
      { file with
        inventory :=
          { file.inventory with
            agentRegistry := file.inventory.agentRegistry.insert registry.nodeId registry } } := by
  simp only [registerAgent, Except.bind_eq_ok] at done
  obtain ⟨_, _, done⟩ := done
  split at done
  · simp only [Except.bind_eq_ok, Except.ok.injEq, Prod.mk.injEq] at done
    obtain ⟨_, _, rfl, _⟩ := done
    exact Or.inl rfl
  · simp only [Except.bind_eq_ok, Except.ok.injEq, Prod.mk.injEq] at done
    obtain ⟨_, _, _, _, rfl, _⟩ := done
    exact Or.inr rfl

/-- An inventory that is written is new, or of a higher revision than the one before it. -/
theorem updateInventory_eq_ok {inventory : AgentInventory} {written : Bool}
    (done : updateInventory file inventory = .ok (next, written)) :
    next = file ∨ ∃ normalized, next = writeInventory file normalized ∧
      ∀ stored ∈ file.inventory.agentInventory[normalized.nodeId]?,
        stored.inventoryRevision < normalized.inventoryRevision := by
  simp only [updateInventory, Except.bind_eq_ok] at done
  obtain ⟨normalized, _, _, _, done⟩ := done
  split at done
  · next absent =>
    obtain ⟨rfl, _⟩ := Prod.mk.inj (Except.ok.inj done)
    exact Or.inr ⟨normalized, rfl, by simp [absent]⟩
  · next stored found =>
    simp only [Except.bind_eq_ok, Except.ensure_eq_ok] at done
    obtain ⟨_, raised, done⟩ := done
    split at done
    · simp only [Except.bind_eq_ok, Except.ok.injEq, Prod.mk.injEq] at done
      obtain ⟨_, _, rfl, _⟩ := done
      exact Or.inl rfl
    · next different =>
      obtain ⟨rfl, _⟩ := Prod.mk.inj (Except.ok.inj done)
      refine Or.inr ⟨normalized, rfl, ?_⟩
      rintro _ there
      obtain rfl := Option.some.inj (found.symm.trans there)
      exact UInt64.lt_of_le_of_ne raised different

theorem InventoryEvent.apply_control (event : InventoryEvent) (file : CoordinatorFile) :
    (event.apply file).control = file.control ∨ ∃ normalized : AgentInventory,
      (event.apply file).control =
        { file.control with
          agentInventory :=
            file.control.agentInventory.insert normalized.nodeId normalized.toRow } := by
  cases event with
  | register registry =>
      left
      cases done : registerAgent file registry with
      | error fault => simp [apply, done, Except.toOption]
      | ok answer =>
          rcases registerAgent_eq_ok done with same | same
          · simp [apply, done, Except.toOption, same]
          · simp [apply, done, Except.toOption, same]
  | update inventory =>
      cases done : updateInventory file inventory with
      | error fault =>
          left
          simp [apply, done, Except.toOption]
      | ok answer =>
          rcases updateInventory_eq_ok done with same | ⟨normalized, same, _⟩
          · left
            simp [apply, done, Except.toOption, same]
          · right
            refine ⟨normalized, ?_⟩
            simp [apply, done, Except.toOption, same, writeInventory]
  | attest nodeId observation attestedAtUnixMs => exact Or.inl rfl

theorem InventoryEvent.apply_same (event : InventoryEvent) (file : CoordinatorFile) :
    SameButInventory file (event.apply file) := by
  rcases event.apply_control file with same | ⟨normalized, same⟩
  · exact ⟨file.control.agentInventory, same⟩
  · exact ⟨_, same⟩

theorem InventoryEvent.applyAll_same (events : List InventoryEvent) (file : CoordinatorFile) :
    SameButInventory file (applyAll file events) := by
  induction events generalizing file with
  | nil => exact SameButInventory.refl file
  | cons event events ih => exact (event.apply_same file).trans (ih (event.apply file))

end Frame

variable {codec : Codec} {file : CoordinatorFile}

/-- The control database of a reached file is that of a run. -/
theorem FileReached.run (reached : FileReached codec file) :
    ∃ operations, file.control = Coordinator.run codec operations := by
  induction reached with
  | created => exact ⟨[], rfl⟩
  | @called file reached operation ih =>
      obtain ⟨operations, same⟩ := ih
      refine ⟨operations ++ [operation], ?_⟩
      simp only [Coordinator.run, Trace.run_snoc]
      rw [same]
      rfl
  | @told file reached event ih =>
      obtain ⟨operations, same⟩ := ih
      rcases event.apply_control file with kept | ⟨normalized, written⟩
      · exact ⟨operations, kept.trans same⟩
      · refine ⟨operations ++ [.recordInventory normalized.nodeId normalized.toRow], ?_⟩
        rw [written, same]
        simp only [Coordinator.run, Trace.run_snoc]
        rfl
  | heard reached nodeLiveness sessionSeen ih => exact ih

theorem FileReached.events (reached : FileReached codec file) (events : List InventoryEvent) :
    FileReached codec (InventoryEvent.applyAll file events) := by
  induction events generalizing file with
  | nil => exact reached
  | cons event events ih => exact ih (reached.told event)

theorem FileReached.called_run (codec : Codec) (operations : List Operation) :
    FileReached codec ⟨Coordinator.run codec operations, InventoryDb.empty⟩ := by
  refine Trace.induction (fun _ (db : ControlDb) => FileReached codec ⟨db, InventoryDb.empty⟩)
    .created ?_ operations
  intro _ operation reached
  exact reached.called operation

section Samples

def registryOf (nodeId : String) (keyByte : UInt8) : AgentRegistry where
  nodeId := nodeId
  deviceId := "device-" ++ nodeId
  ownerMemberId := "member"
  verifyingKey := List.replicate 32 keyByte
  nodeState := some .online
  riskState := some .normal
  securityTier := some .s2
  isolationClass := some .contained
  keyProtection := some .k1

def inventoryOf (nodeId : String) (inventoryRevision : UInt64) : AgentInventory where
  nodeId := nodeId
  inventoryRevision := inventoryRevision
  observedAtUnixMs := 90
  gpus := some [⟨"gpu-" ++ nodeId, some "model", some true, some 12⟩]
  availableCpuCores := some 8
  availableRamBytes := some 64
  availableWorkspaceBytes := some 64
  allowedWorkloadClasses := some {.training}
  thirdPartyWorkloadsOptIn := none

end Samples

end Gputeer.Coordinator
