import Gputeer.Coordinator.InventoryRefinement

/-! An import is the calls for one entry after the other in a single transaction, and over time the store
holds for every node the inventory that was taken last. -/

namespace Gputeer.Coordinator

open Protocol Text Scheduler Bytes Transaction Body

namespace InventoryRows

variable {rows later : InventoryRows}

section Import

variable {entries : List AgentBootstrap} {done : List (RegisterAgentResult × UpdateInventoryResult)}

def SameNodes (entries : List AgentBootstrap) : Prop :=
  ∀ entry ∈ entries, entry.registry.nodeId = entry.inventory.nodeId

/-- The counts of an import, with the answers to one more entry. -/
def tally (counts : Nat × Nat) (answers : RegisterAgentResult × UpdateInventoryResult) : Nat × Nat :=
  (if answers.1.created then counts.1 + 1 else counts.1, if answers.2.updated then counts.2 + 1 else counts.2)

theorem prepare_eq_ok {entry : AgentBootstrap} {inventory : AgentInventory} :
    prepare entry = .ok inventory ↔ entry.registry.nodeId = entry.inventory.nodeId ∧
      validateRegistry entry.registry = .ok () ∧ normalizedAndValidated entry.inventory = .ok inventory := by
  simp only [prepare, Except.bind_eq_ok, Except.ensure_eq_ok]
  constructor
  · rintro ⟨_, same, _, valid, accepted⟩
    exact ⟨same, valid, accepted⟩
  · rintro ⟨same, valid, accepted⟩
    exact ⟨(), same, (), valid, accepted⟩

/-- With its input checked, a round of the loop is the two calls without their own transactions. -/
theorem importEntry_does {entry : AgentBootstrap} {inventory : AgentInventory} {index : Nat}
    {counts next : Nat × Nat} (prepared : prepare entry = .ok inventory) :
    Does (importEntry counts ((entry, inventory), index)) rows next later ↔
      ∃ registration update between, Does (registerAgent entry.registry) rows registration between ∧
        Does (updateInventory entry.inventory) between update later ∧ next = tally counts (registration, update) := by
  obtain ⟨_, valid, accepted⟩ := prepare_eq_ok.mp prepared
  simp only [importEntry, registerAgent, updateInventory, does_bind, does_mapError, does_checked, does_immediate,
    does_pure, valid, accepted]
  constructor
  · rintro ⟨registration, between, registered, update, _, updated, rfl, rfl⟩
    exact ⟨registration, update, between, ⟨(), rows, ⟨trivial, rfl⟩, registered⟩,
      ⟨inventory, between, ⟨rfl, rfl⟩, updated⟩, rfl⟩
  · rintro ⟨registration, update, between, ⟨_, _, ⟨_, rfl⟩, registered⟩, ⟨_, _, ⟨⟨⟩, rfl⟩, updated⟩, rfl⟩
    exact ⟨registration, _, registered, update, later, updated, rfl, rfl⟩

theorem importEntries_does {inventories : List AgentInventory} {counts last : Nat × Nat} {start : Nat}
    (prepared : List.Forall₂ (fun entry inventory => prepare entry = .ok inventory) entries inventories) :
    Does (((entries.zip inventories).zipIdx start).foldlM importEntry counts) rows last later ↔
      ∃ done, Does (oneByOne entries) rows done later ∧ last = done.foldl tally counts := by
  induction prepared generalizing rows counts start with
  | nil => simp [oneByOne, and_comm, eq_comm]
  | @cons entry inventory entries inventories first _ ih =>
      simp only [List.zip_cons_cons, List.zipIdx_cons, does_foldlM_cons, importEntry_does first, ih, oneByOne,
        does_bind, does_pure]
      constructor
      · rintro ⟨_, between, ⟨registration, update, _, registered, updated, rfl⟩, others, rest, rfl⟩
        exact ⟨(registration, update) :: others, ⟨registration, _, registered, update, between, updated, others,
          later, rest, rfl, rfl⟩, rfl⟩
      · rintro ⟨_, ⟨registration, middle, registered, update, between, updated, others, _, rest, rfl, rfl⟩, rfl⟩
        exact ⟨_, between, ⟨registration, update, middle, registered, updated, rfl⟩, others, rest, rfl⟩

/-- Calls that all succeed have each checked its own input. -/
theorem prepared_of_oneByOne (same : SameNodes entries) (ran : Does (oneByOne entries) rows done later) :
    ∃ inventories, List.Forall₂ (fun entry inventory => prepare entry = .ok inventory) entries inventories := by
  induction entries generalizing rows later done with
  | nil => exact ⟨[], .nil⟩
  | cons entry entries ih =>
      simp only [oneByOne, registerAgent, updateInventory, does_bind, does_checked, does_immediate, does_pure] at ran
      obtain ⟨_, _, ⟨_, _, ⟨valid, rfl⟩, _⟩, _, _, ⟨inventory, _, ⟨accepted, rfl⟩, _⟩, _, _, rest, _⟩ := ran
      obtain ⟨inventories, others⟩ := ih (fun each listed => same each (List.mem_cons_of_mem _ listed)) rest
      exact ⟨inventory :: inventories,
        .cons (prepare_eq_ok.mpr ⟨same entry List.mem_cons_self, valid, accepted⟩) others⟩

theorem prepareAll_eq_ok {inventories : List AgentInventory} :
    (entries.zipIdx.mapM fun item =>
        (prepare item.1).mapError fun error => attributed item.2 item.1 (.store error)) = .ok inventories ↔
      List.Forall₂ (fun entry inventory => prepare entry = .ok inventory) entries inventories := by
  have named : entries.zipIdx.map Prod.fst = entries := List.zipIdx_map_fst 0 entries
  rw [Except.mapM_eq_ok]
  simp only [Except.mapError_eq_ok]
  conv_rhs => rw [← named, List.forall₂_map_left_iff]

theorem sameNodes_of_prepared {inventories : List AgentInventory}
    (prepared : List.Forall₂ (fun entry inventory => prepare entry = .ok inventory) entries inventories) :
    SameNodes entries := by
  induction prepared with
  | nil =>
      intro entry listed
      cases listed
  | cons first _ ih =>
      intro entry listed
      rcases List.mem_cons.mp listed with rfl | listed
      · exact (prepare_eq_ok.mp first).1
      · exact ih entry listed

/-- The import succeeds where the single calls do, with what they leave, but for entries of two nodes. -/
theorem importBootstrap_does {result : ImportBootstrapResult} :
    Does (importBootstrap entries) rows result later ↔ SameNodes entries ∧
      ∃ done, Does (oneByOne entries) rows done later ∧
        result = ⟨(done.foldl tally (0, 0)).1, (done.foldl tally (0, 0)).2, entries.length⟩ := by
  simp only [importBootstrap, does_bind, does_ofExcept, does_immediate, does_pure, prepareAll_eq_ok]
  constructor
  · rintro ⟨_, _, ⟨prepared, rfl⟩, _, _, looped, rfl, rfl⟩
    obtain ⟨done, ran, rfl⟩ := (importEntries_does prepared).mp looped
    exact ⟨sameNodes_of_prepared prepared, done, ran, rfl⟩
  · rintro ⟨same, done, ran, rfl⟩
    obtain ⟨inventories, prepared⟩ := prepared_of_oneByOne same ran
    exact ⟨inventories, rows, ⟨prepared, rfl⟩, _, later, (importEntries_does prepared).mpr ⟨done, ran, rfl⟩, rfl, rfl⟩

/-- What is judged before the lock is taken writes nothing, and the one transaction is rolled back. -/
theorem importBootstrap_atomic (entries : List AgentBootstrap) : Atomic (importBootstrap entries) :=
  ofExcept_bind_atomic fun _ => bind_pure_atomic (immediate_atomic _) _

theorem registerAgent_atomic (registry : AgentRegistry) : Atomic (registerAgent registry) :=
  ofExcept_bind_atomic fun _ => immediate_atomic _

theorem updateInventory_atomic (inventory : AgentInventory) : Atomic (updateInventory inventory) :=
  ofExcept_bind_atomic fun _ => immediate_atomic _

end Import

section Progress

/-- Over time a node keeps its inventory or gets one of a higher revision, and holds the last that was
taken. -/
structure Progress (before : InventoryDb) (accepted : List AgentInventory) (after : InventoryDb) : Prop where
  advances : ∀ nodeId : String, ∀ stored ∈ before.agentInventory[nodeId]?, ∃ next ∈ after.agentInventory[nodeId]?,
    stored.inventoryRevision < next.inventoryRevision ∨ stored = next
  holds : ∀ nodeId : String, after.agentInventory[nodeId]? =
    (accepted.reverse.find? (·.nodeId = nodeId)).or before.agentInventory[nodeId]?

theorem Progress.refl (db : InventoryDb) : Progress db [] db where
  advances _ stored found := ⟨stored, found, Or.inr rfl⟩
  holds _ := rfl

theorem Progress.trans {first second third : InventoryDb} {accepted more : List AgentInventory}
    (early : Progress first accepted second) (late : Progress second more third) :
    Progress first (accepted ++ more) third where
  advances nodeId stored found := by
    obtain ⟨next, between, raised⟩ := early.advances nodeId stored found
    obtain ⟨last, there, again⟩ := late.advances nodeId next between
    refine ⟨last, there, ?_⟩
    rcases raised with raised | rfl
    · rcases again with again | rfl
      · exact Or.inl (UInt64.lt_trans raised again)
      · exact Or.inl raised
    · exact again
  holds nodeId := by
    rw [late.holds, early.holds, List.reverse_append, List.find?_append, Option.or_assoc]

variable {file next : CoordinatorFile}

theorem registerAgent_progress {registry : AgentRegistry} {created : Bool}
    (done : Coordinator.registerAgent file registry = .ok (next, created)) :
    Progress file.inventory [] next.inventory := by
  rcases registerAgent_eq_ok done with rfl | rfl
  · exact Progress.refl _
  · exact ⟨(Progress.refl file.inventory).advances, (Progress.refl file.inventory).holds⟩

theorem updateInventory_progress {inventory normalized : AgentInventory} {updated : Bool}
    (accepted : normalizedAndValidated inventory = .ok normalized)
    (done : Coordinator.updateInventory file inventory = .ok (next, updated)) :
    Progress file.inventory [normalized] next.inventory := by
  obtain ⟨_, same, ⟨_, ⟨rfl, above⟩ | ⟨rfl, stored⟩⟩, rfl⟩ := updateInventory_iff.mp done
  · obtain rfl := Except.ok.inj (accepted.symm.trans same)
    constructor
    · intro nodeId stored found
      simp only [if_true, writeInventory, Option.mem_def, Table.lookup_insert]
      by_cases own : normalized.nodeId = nodeId
      · subst own
        exact ⟨normalized, if_pos rfl, Or.inl (above stored found)⟩
      · exact ⟨stored, (if_neg own).trans found, Or.inr rfl⟩
    · intro nodeId
      simp only [if_true, writeInventory, Table.lookup_insert, List.reverse_singleton, List.find?_singleton,
        decide_eq_true_eq]
      split <;> rfl
  · obtain rfl := Except.ok.inj (accepted.symm.trans same)
    constructor
    · exact (Progress.refl _).advances
    · intro nodeId
      simp only [List.reverse_singleton, List.find?_singleton, decide_eq_true_eq]
      split
      · next own =>
        rw [← own, stored]
        rfl
      · rfl

end Progress

/-- A call of the store. An observation of GPUs writes to tables that hold no inventory; of these only the
one that an update writes to is kept here. -/
inductive InventoryCall where
  | registerAgent (registry : AgentRegistry)
  | updateInventory (inventory : AgentInventory)
  | importBootstrap (entries : List AgentBootstrap)
  | recordGpuAttestation (gpuMismatches : Table String (List UInt8))

namespace InventoryCall

def Fits : InventoryCall → Prop
  | .registerAgent registry => registry.Fits
  | .updateInventory inventory => inventory.Fits
  | .importBootstrap entries => ∀ entry ∈ entries, entry.registry.Fits ∧ entry.inventory.Fits
  | .recordGpuAttestation _ => True

def apply (rows : InventoryRows) : InventoryCall → InventoryRows
  | .registerAgent registry => ((InventoryRows.registerAgent registry).on rows).2
  | .updateInventory inventory => ((InventoryRows.updateInventory inventory).on rows).2
  | .importBootstrap entries => ((InventoryRows.importBootstrap entries).on rows).2
  | .recordGpuAttestation gpuMismatches => { rows with gpuMismatches }

/-- The normal form of an input, if it has one. -/
def normalForm (inventory : AgentInventory) : Option AgentInventory :=
  (normalizedAndValidated inventory).toOption

/-- The normalized inputs of a call that is answered with `Ok`. -/
def accepted (rows : InventoryRows) : InventoryCall → List AgentInventory
  | .updateInventory inventory =>
      if ((InventoryRows.updateInventory inventory).on rows).1.isOk then (normalForm inventory).toList else []
  | .importBootstrap entries =>
      if ((InventoryRows.importBootstrap entries).on rows).1.isOk then
        entries.filterMap fun entry => normalForm entry.inventory
      else []
  | .registerAgent _ | .recordGpuAttestation _ => []

end InventoryCall

/-- The rows, and the inventories that were taken until now. -/
structure InventoryRun where
  rows : InventoryRows
  accepted : List AgentInventory

def InventoryRun.step (run : InventoryRun) (call : InventoryCall) : InventoryRun :=
  ⟨call.apply run.rows, run.accepted ++ call.accepted run.rows⟩

def runFrom (start : InventoryRun) (calls : List InventoryCall) : InventoryRun :=
  Trace.run InventoryRun.step start calls

/-- The calls on an empty store. -/
def runOf (calls : List InventoryCall) : InventoryRun := runFrom ⟨empty, []⟩ calls

section Runs

variable {file : CoordinatorFile}

theorem represents_mismatches {db : InventoryDb} (represents : Represents rows db)
    (gpuMismatches : Table String (List UInt8)) : Represents { rows with gpuMismatches } db :=
  ⟨represents.registries, represents.inventories, represents.gpus, represents.workloads, represents.registered,
    represents.stored⟩

theorem normalForm_eq {inventory normalized : AgentInventory}
    (accepted : normalizedAndValidated inventory = .ok normalized) :
    InventoryCall.normalForm inventory = some normalized := by
  rw [InventoryCall.normalForm, accepted]
  rfl

theorem updateInventory_step {inventory : AgentInventory} {result : UpdateInventoryResult}
    (represents : Represents rows file.inventory) (fits : inventory.Fits)
    (done : Does (updateInventory inventory) rows result later) :
    ∃ next : CoordinatorFile, Represents later next.inventory ∧
      Progress file.inventory (InventoryCall.normalForm inventory).toList next.inventory := by
  obtain ⟨next, decoded, after⟩ := updateInventory_refines represents fits done
  obtain ⟨normalized, accepted, -⟩ := updateInventory_iff.mp decoded
  refine ⟨next, after, ?_⟩
  rw [normalForm_eq accepted]
  exact updateInventory_progress accepted decoded

theorem oneByOne_step {entries : List AgentBootstrap} {done : List (RegisterAgentResult × UpdateInventoryResult)}
    (represents : Represents rows file.inventory)
    (fits : ∀ entry ∈ entries, entry.registry.Fits ∧ entry.inventory.Fits)
    (ran : Does (oneByOne entries) rows done later) :
    ∃ next : CoordinatorFile, Represents later next.inventory ∧
      Progress file.inventory (entries.filterMap fun entry => InventoryCall.normalForm entry.inventory)
        next.inventory := by
  induction entries generalizing rows file done with
  | nil =>
      obtain ⟨_, rfl⟩ := does_pure.mp ran
      exact ⟨file, represents, Progress.refl _⟩
  | cons entry entries ih =>
      simp only [oneByOne, does_bind, does_pure] at ran
      obtain ⟨_, _, registered, _, _, updated, _, _, rest, rfl, rfl⟩ := ran
      obtain ⟨registryFits, inventoryFits⟩ := fits entry List.mem_cons_self
      obtain ⟨first, decoded, known⟩ := registerAgent_refines represents registryFits registered
      obtain ⟨second, stored, written⟩ := updateInventory_step known inventoryFits updated
      obtain ⟨last, represented, others⟩ := ih stored
        (fun each listed => fits each (List.mem_cons_of_mem _ listed)) rest
      refine ⟨last, represented, ?_⟩
      have whole := ((registerAgent_progress decoded).trans written).trans others
      rw [List.filterMap_cons]
      cases formed : InventoryCall.normalForm entry.inventory with
      | none => simpa [formed] using whole
      | some normalized => simpa [formed] using whole

theorem call_step {call : InventoryCall} (represents : Represents rows file.inventory) (fits : call.Fits) :
    ∃ next : CoordinatorFile, Represents (call.apply rows) next.inventory ∧
      Progress file.inventory (call.accepted rows) next.inventory := by
  cases call with
  | registerAgent registry =>
      rcases ran : (registerAgent registry).on rows with ⟨fault | result, later⟩
      · obtain rfl := registerAgent_atomic registry ran
        refine ⟨file, ?_, Progress.refl _⟩
        rw [InventoryCall.apply, ran]
        exact represents
      · obtain ⟨next, decoded, after⟩ := registerAgent_refines represents fits ran
        refine ⟨next, ?_, registerAgent_progress decoded⟩
        rw [InventoryCall.apply, ran]
        exact after
  | updateInventory inventory =>
      rw [InventoryCall.apply, InventoryCall.accepted]
      rcases ran : (updateInventory inventory).on rows with ⟨fault | result, later⟩
      · obtain rfl := updateInventory_atomic inventory ran
        exact ⟨file, represents, Progress.refl _⟩
      · exact updateInventory_step represents fits ran
  | importBootstrap entries =>
      rw [InventoryCall.apply, InventoryCall.accepted]
      rcases ran : (importBootstrap entries).on rows with ⟨fault | result, later⟩
      · obtain rfl := importBootstrap_atomic entries ran
        exact ⟨file, represents, Progress.refl _⟩
      · obtain ⟨_, done, single, _⟩ := importBootstrap_does.mp ran
        exact oneByOne_step represents fits single
  | recordGpuAttestation gpuMismatches =>
      exact ⟨file, represents_mismatches represents gpuMismatches, Progress.refl _⟩

/-- What the calls of a run add to what was taken before, and what becomes of every node meanwhile. -/
theorem run_step {start : InventoryRun} {calls : List InventoryCall}
    (represents : Represents start.rows file.inventory) (fits : ∀ call ∈ calls, call.Fits) :
    ∃ (next : CoordinatorFile) (more : List AgentInventory), Represents (runFrom start calls).rows next.inventory ∧
      (runFrom start calls).accepted = start.accepted ++ more ∧ Progress file.inventory more next.inventory := by
  induction calls generalizing start file with
  | nil => exact ⟨file, [], represents, (List.append_nil _).symm, Progress.refl _⟩
  | cons call calls ih =>
      obtain ⟨between, after, first⟩ := @call_step start.rows file call represents (fits call List.mem_cons_self)
      obtain ⟨next, more, represented, taken, rest⟩ := @ih between (start.step call) after
        fun each listed => fits each (List.mem_cons_of_mem _ listed)
      refine ⟨next, call.accepted start.rows ++ more, represented, ?_, first.trans rest⟩
      rw [← List.append_assoc]
      exact taken

theorem runOf_append (before after : List InventoryCall) : runOf (before ++ after) = runFrom (runOf before) after := by
  simp [runOf, runFrom, Trace.run]

/-- Rows of one node at two times: the revision does not fall, and while it stays the payload stays. -/
theorem kept_or_raised {start : InventoryRun} {calls : List InventoryCall}
    (represents : Represents start.rows file.inventory) (fits : ∀ call ∈ calls, call.Fits) {nodeId : String}
    {earlier : RawInventory} (held : start.rows.agentInventory[nodeId]? = some earlier) :
    ∃ last ∈ (runFrom start calls).rows.agentInventory[nodeId]?,
      beNat earlier.inventoryRevision ≤ beNat last.inventoryRevision ∧
        (earlier.inventoryRevision = last.inventoryRevision → earlier.payload = last.payload) := by
  obtain ⟨next, _, after, _, progress⟩ := run_step represents fits
  rw [represents.inventories] at held
  obtain ⟨stored, found, rfl⟩ := Option.map_eq_some_iff.mp held
  obtain ⟨last, there, raised⟩ := progress.advances nodeId stored found
  have revisions (inventory : AgentInventory) :
      beNat (toRawInventory inventory).inventoryRevision = inventory.inventoryRevision.toNat :=
    beNat_beBytes (fits_u64 _)
  refine ⟨toRawInventory last, ?_, ?_, fun same => ?_⟩
  · rw [after.inventories, Option.mem_def.mp there]
    rfl
  · rw [revisions, revisions]
    rcases raised with above | rfl
    · exact Nat.le_of_lt (UInt64.lt_iff_toNat_lt.mp above)
    · exact Nat.le_refl _
  · rcases raised with above | rfl
    · have equal := (encodeU64_delimited.injective trivial trivial same : stored.inventoryRevision = last.inventoryRevision)
      exact absurd (equal ▸ above) (UInt64.lt_irrefl _)
    · rfl

end Runs

/-- An import takes what the single calls take, entries of two nodes apart, and as a whole or not at all. What
is stored is read back; a payload tells the inventories of a node apart, and a revision has one payload. -/
theorem import_is_one_by_one (calls : List InventoryCall) (fits : ∀ call ∈ calls, call.Fits) :
    (∀ (entries : List AgentBootstrap) (later : InventoryRows),
      (∃ result, Does (importBootstrap entries) (runOf calls).rows result later) ↔
        SameNodes entries ∧ ∃ done, Does (oneByOne entries) (runOf calls).rows done later) ∧
    (∀ (entries : List AgentBootstrap) (later : InventoryRows) (fault : StoreFault),
      (importBootstrap entries).on (runOf calls).rows = (.error fault, later) → later = (runOf calls).rows) ∧
    (∀ nodeId : String, fetchInventory (runOf calls).rows nodeId =
      .ok ((runOf calls).accepted.reverse.find? (·.nodeId = nodeId))) ∧
    (∀ first second : AgentInventory, first.Normalized → second.Normalized → first.Fits → second.Fits →
      first.nodeId = second.nodeId → encodeInventoryPayload first = encodeInventoryPayload second →
      first = second) ∧
    (∀ before after : List InventoryCall, calls = before ++ after → ∀ nodeId : String,
      ∀ earlier ∈ (runOf before).rows.agentInventory[nodeId]?,
        ∃ last ∈ (runOf calls).rows.agentInventory[nodeId]?,
          beNat earlier.inventoryRevision ≤ beNat last.inventoryRevision ∧
            (earlier.inventoryRevision = last.inventoryRevision → earlier.payload = last.payload)) := by
  have created : Represents empty (CoordinatorFile.mk ControlDb.empty InventoryDb.empty).inventory := represents_empty
  refine ⟨?_, ?_, ?_, ?_, ?_⟩
  · intro entries later
    constructor
    · rintro ⟨result, imported⟩
      obtain ⟨same, done, ran, _⟩ := importBootstrap_does.mp imported
      exact ⟨same, done, ran⟩
    · rintro ⟨same, done, ran⟩
      exact ⟨_, importBootstrap_does.mpr ⟨same, done, ran, rfl⟩⟩
  · intro entries later fault failed
    exact importBootstrap_atomic entries failed
  · intro nodeId
    obtain ⟨file, more, represents, taken, progress⟩ := @run_step _ ⟨empty, []⟩ calls created fits
    have accepted : (runOf calls).accepted = more := taken
    rw [accepted]
    refine (fetchInventory_eq represents nodeId).trans (congrArg Except.ok ?_)
    rw [progress.holds]
    simp [InventoryDb.empty]
  · intro first second normal normalToo firstFits secondFits nodeId same
    exact encodeInventoryPayload_injective normal normalToo firstFits secondFits nodeId same
  · rintro before after rfl nodeId earlier held
    obtain ⟨file, _, represents, _⟩ := @run_step _ ⟨empty, []⟩ before created
      fun call listed => fits call (List.mem_append_left _ listed)
    rw [runOf_append]
    exact kept_or_raised represents (fun call listed => fits call (List.mem_append_right _ listed)) held

section Samples

theorem registryOf_fits {nodeId : String} {keyByte : UInt8} (node : FitsUsize nodeId)
    (device : FitsUsize ("device-" ++ nodeId)) : (registryOf nodeId keyByte).Fits := by
  have owner : FitsUsize "member" := by
    unfold FitsUsize
    decide +kernel
  exact ⟨node, device, owner⟩

theorem inventoryOf_fits {nodeId : String} {inventoryRevision : UInt64} (gpu : FitsUsize ("gpu-" ++ nodeId)) :
    (inventoryOf nodeId inventoryRevision).Fits := by
  constructor
  · rintro gpus ⟨⟩
    exact Nat.one_lt_two_pow (by decide)
  · rintro gpus ⟨⟩ each listed
    obtain rfl := List.mem_singleton.mp listed
    refine ⟨gpu, ?_⟩
    rintro model ⟨⟩
    unfold FitsUsize
    decide +kernel

/-- Two agents are imported, and one of them is heard of again. -/
def sampleCalls : List InventoryCall :=
  [.importBootstrap [⟨registryOf "a" 1, inventoryOf "a" 7⟩, ⟨registryOf "b" 2, inventoryOf "b" 3⟩],
    .updateInventory (inventoryOf "a" 8)]

theorem sampleCalls_fit : ∀ call ∈ sampleCalls, call.Fits := by
  have a : (registryOf "a" 1).Fits := registryOf_fits (by unfold FitsUsize; decide +kernel)
    (by unfold FitsUsize; decide +kernel)
  have b : (registryOf "b" 2).Fits := registryOf_fits (by unfold FitsUsize; decide +kernel)
    (by unfold FitsUsize; decide +kernel)
  have aToo {revision : UInt64} : (inventoryOf "a" revision).Fits :=
    inventoryOf_fits (by unfold FitsUsize; decide +kernel)
  have bToo {revision : UInt64} : (inventoryOf "b" revision).Fits :=
    inventoryOf_fits (by unfold FitsUsize; decide +kernel)
  simp only [sampleCalls, List.forall_mem_cons, InventoryCall.Fits]
  exact ⟨⟨⟨a, aToo⟩, ⟨b, bToo⟩, by simp⟩, aToo, by simp⟩

theorem imported_inventories_are_read_back :
    fetchInventory (runOf sampleCalls).rows "a" = .ok (some (inventoryOf "a" 8)) ∧
      fetchInventory (runOf sampleCalls).rows "b" = .ok (some (inventoryOf "b" 3)) := by
  have read := (import_is_one_by_one sampleCalls sampleCalls_fit).2.2.1
  constructor
  · rw [read]
    decide +kernel
  · rw [read]
    decide +kernel

/-- Both nodes are known, so the single calls take an entry that names the one and then the other; and what
two nodes hold may have one payload. -/
theorem entry_of_two_nodes_is_refused :
    ((oneByOne [⟨registryOf "a" 1, inventoryOf "b" 7⟩]).on
      (runOf [.registerAgent (registryOf "a" 1), .registerAgent (registryOf "b" 2)]).rows).1.isOk = true ∧
    ((importBootstrap [⟨registryOf "a" 1, inventoryOf "b" 7⟩]).on
      (runOf [.registerAgent (registryOf "a" 1), .registerAgent (registryOf "b" 2)]).rows).1.isOk = false ∧
    (inventoryOf "a" 7).Normalized ∧ ({ inventoryOf "a" 7 with nodeId := "b" } : AgentInventory).Normalized ∧
    inventoryOf "a" 7 ≠ { inventoryOf "a" 7 with nodeId := "b" } ∧
    encodeInventoryPayload (inventoryOf "a" 7) =
      encodeInventoryPayload { inventoryOf "a" 7 with nodeId := "b" } := by
  refine ⟨by decide +kernel, by decide +kernel, ?_, ?_, by decide +kernel, rfl⟩
  · unfold AgentInventory.Normalized
    decide +kernel
  · unfold AgentInventory.Normalized
    decide +kernel

end Samples

end InventoryRows

end Gputeer.Coordinator
