import Gputeer.Coordinator.InventoryRows
import Gputeer.Lib.Delimited

/-! A column is read back as it was written, and a payload tells what it was made of: every text and every
list says how long it is. -/

namespace Gputeer.Coordinator

open Protocol Text Scheduler Bytes

/-- Lengths are of type `usize`. -/
def FitsUsize (text : String) : Prop := (utf8 text).length < 2 ^ 64

structure GpuInventory.Fits (gpu : GpuInventory) : Prop where
  gpuId : FitsUsize gpu.gpuId
  model : ∀ model ∈ gpu.model, FitsUsize model

structure AgentRegistry.Fits (registry : AgentRegistry) : Prop where
  nodeId : FitsUsize registry.nodeId
  deviceId : FitsUsize registry.deviceId
  ownerMemberId : FitsUsize registry.ownerMemberId

structure AgentInventory.Fits (inventory : AgentInventory) : Prop where
  count : ∀ gpus ∈ inventory.gpus, gpus.length < 2 ^ 64
  gpus : ∀ gpus ∈ inventory.gpus, ∀ gpu ∈ gpus, gpu.Fits

/-- What normalization gives, and what it leaves as it is. -/
def AgentInventory.Normalized (inventory : AgentInventory) : Prop :=
  normalizedAndValidated inventory = .ok inventory

namespace InventoryRows

section Columns

variable {α : Type} [DecidableEq α] (codec : EnumCodec α)

@[simp] theorem EnumCodec.parse_toCode (value : α) : codec.parse (codec.toCode value) = .ok value := by
  simp [EnumCodec.parse, codec.parses]

theorem EnumCodec.toU8_injective : Function.Injective codec.toU8 := by
  intro first second same
  have found := codec.told first
  rw [same, codec.told second] at found
  exact (Option.some.inj found).symm

theorem EnumCodec.toCode_injective : Function.Injective codec.toCode := by
  intro first second same
  have found := codec.parses first
  rw [same, codec.parses second] at found
  exact (Option.some.inj found).symm

@[simp] theorem length_encodeU64 (value : UInt64) : (encodeU64 value).length = 8 := length_beBytes 8 _

theorem fits_u64 (value : UInt64) : value.toNat < 256 ^ 8 := value.toNat_lt

@[simp] theorem decodeU64_encodeU64 (field : String) (value : UInt64) :
    decodeU64 field (encodeU64 value) = .ok value := by
  rw [decodeU64, if_pos (length_encodeU64 value), encodeU64, beNat_beBytes (fits_u64 value)]
  simp

@[simp] theorem parseBool_boolToI64 (field : String) (value : Bool) :
    parseBool field (boolToI64 value) = .ok value := by
  cases value <;> rfl

@[simp] theorem toU32_toUInt64 (value : UInt32) : toU32 value.toUInt64 = .ok value := by
  have small : value.toUInt64.toNat < 2 ^ 32 := by
    rw [UInt32.toNat_toUInt64]
    exact value.toNat_lt
  rw [toU32, if_pos small]
  simp

end Columns

section Writers

theorem pushLength_delimited : Delimited pushLength (· < 2 ^ 64) := by
  refine Delimited.of_length (fun length _ => length_beBytes 8 length) ?_
  intro first second fits fitsToo same
  exact beBytes_injective fits fitsToo same

theorem encodeU64_delimited : Delimited encodeU64 fun _ => True := by
  refine Delimited.of_length (fun value _ => length_encodeU64 value) ?_
  intro first second _ _ same
  exact UInt64.toNat_inj.mp (beBytes_injective (fits_u64 first) (fits_u64 second) same)

/-- Two texts of one length in the same place are the same text. -/
theorem pushString_delimited : Delimited pushString FitsUsize := by
  intro first second tail rest fits fitsToo same
  simp only [pushString, List.append_assoc] at same
  obtain ⟨lengths, behind⟩ := pushLength_delimited fits fitsToo same
  obtain ⟨texts, tails⟩ := List.append_inj behind lengths
  exact ⟨utf8_injective texts, tails⟩

theorem byte_delimited {α : Type} {byte : α → UInt8} (told : Function.Injective byte) :
    Delimited (fun value => [byte value]) fun _ => True :=
  Delimited.of_length (fun _ _ => rfl) fun _ _ _ _ same => told (List.cons.inj same).1

theorem pushOptional_delimited {α : Type} {push : α → List UInt8} {Fits : α → Prop}
    (delimited : Delimited push Fits) : Delimited (pushOptional push) (∀ value ∈ ·, Fits value) :=
  delimited.optional (by decide)

theorem pushOptionalBool_delimited : Delimited pushOptionalBool fun _ => True := by
  have each := pushOptional_delimited (@byte_delimited Bool (fun value => if value then 1 else 0)
    (by intro first second same; cases first <;> cases second <;> simp_all))
  intro first second tail rest _ _ same
  exact each (fun _ _ => trivial) (fun _ _ => trivial) same

theorem pushOptionalU64_delimited : Delimited pushOptionalU64 fun _ => True := by
  intro first second tail rest _ _ same
  exact pushOptional_delimited encodeU64_delimited (fun _ _ => trivial) (fun _ _ => trivial) same

theorem pushOptionalCode_delimited {α : Type} [DecidableEq α] (codec : EnumCodec α) :
    Delimited (pushOptionalCode codec) fun _ => True := by
  intro first second tail rest _ _ same
  exact pushOptional_delimited (byte_delimited codec.toU8_injective) (fun _ _ => trivial) (fun _ _ => trivial) same

theorem pushGpu_delimited : Delimited pushGpu GpuInventory.Fits := by
  intro first second tail rest fits fitsToo same
  simp only [pushGpu, List.append_assoc] at same
  obtain ⟨gpuId, same⟩ := pushString_delimited fits.gpuId fitsToo.gpuId same
  obtain ⟨model, same⟩ := pushOptional_delimited pushString_delimited fits.model fitsToo.model same
  obtain ⟨healthy, same⟩ := pushOptionalBool_delimited trivial trivial same
  obtain ⟨availableVramBytes, same⟩ := pushOptionalU64_delimited trivial trivial same
  refine ⟨?_, same⟩
  cases first
  cases second
  simp_all

/-- Lists that are sorted already. -/
theorem pushGpus_delimited : Delimited pushGpus fun gpus =>
    sortedGpus gpus = gpus ∧ gpus.length < 2 ^ 64 ∧ ∀ gpu ∈ gpus, gpu.Fits := by
  intro first second tail rest fits fitsToo same
  simp only [pushGpus, fits.1, fitsToo.1] at same
  exact pushGpu_delimited.counted pushLength_delimited fits.2 fitsToo.2 same

theorem mem_workloadsOf {workloads : Finset WorkloadClass} {value : WorkloadClass} :
    value ∈ workloadsOf workloads ↔ value ∈ workloads := by
  rw [workloadsOf, List.mem_filter, decide_eq_true_eq]
  exact and_iff_right (workloadClassCodec.every value)

theorem workloadsOf_injective : Function.Injective workloadsOf := by
  intro first second same
  ext value
  rw [← mem_workloadsOf, same, mem_workloadsOf]

theorem pushWorkloads_delimited : Delimited pushWorkloads fun _ => True := by
  have few (workloads : Finset WorkloadClass) : (workloadsOf workloads).length < 2 ^ 64 :=
    lt_of_le_of_lt (List.length_filter_le _ _) (by decide)
  have counted := (byte_delimited workloadClassCodec.toU8_injective).counted pushLength_delimited
  intro first second tail rest _ _ same
  simp only [pushWorkloads, List.map_eq_flatMap] at same
  obtain ⟨lists, tails⟩ := counted ⟨few first, fun _ _ => trivial⟩ ⟨few second, fun _ _ => trivial⟩ same
  exact ⟨workloadsOf_injective lists, tails⟩

theorem verifyingKey_delimited : Delimited id fun key : List UInt8 => key.length = 32 :=
  Delimited.of_length (fun _ whole => whole) fun _ _ _ _ same => same

end Writers

theorem validateRegistry_eq_ok {registry : AgentRegistry} {done : Unit} : validateRegistry registry = .ok done ↔
    isBlank registry.nodeId = false ∧ isBlank registry.deviceId = false ∧
      isBlank registry.ownerMemberId = false ∧ registry.verifyingKey.length = 32 := by
  simp [validateRegistry, Except.bind_eq_ok]

/-- The key has no length before it: it is always of 32 bytes. -/
theorem encodeRegistry_injective {first second : AgentRegistry} (valid : validateRegistry first = .ok ())
    (validToo : validateRegistry second = .ok ()) (fits : first.Fits) (fitsToo : second.Fits)
    (same : encodeRegistry first = encodeRegistry second) : first = second := by
  obtain ⟨_, _, _, key⟩ := validateRegistry_eq_ok.mp valid
  obtain ⟨_, _, _, keyToo⟩ := validateRegistry_eq_ok.mp validToo
  simp only [encodeRegistry, List.append_assoc] at same
  obtain ⟨nodeId, same⟩ := pushString_delimited fits.nodeId fitsToo.nodeId same
  obtain ⟨deviceId, same⟩ := pushString_delimited fits.deviceId fitsToo.deviceId same
  obtain ⟨ownerMemberId, same⟩ := pushString_delimited fits.ownerMemberId fitsToo.ownerMemberId same
  obtain ⟨verifyingKey, same⟩ := verifyingKey_delimited key keyToo same
  obtain ⟨nodeState, same⟩ := pushOptionalCode_delimited nodeStateCodec trivial trivial same
  obtain ⟨riskState, same⟩ := pushOptionalCode_delimited riskStateCodec trivial trivial same
  obtain ⟨securityTier, same⟩ := pushOptionalCode_delimited securityTierCodec trivial trivial same
  obtain ⟨isolationClass, same⟩ := pushOptionalCode_delimited isolationClassCodec trivial trivial same
  have keyProtection := (pushOptionalCode_delimited keyProtectionCodec).injective trivial trivial same
  cases first
  cases second
  simp_all

section Normal

variable {inventory normalized : AgentInventory}

theorem sortedGpus_pairwise (gpus : List GpuInventory) :
    (sortedGpus gpus).Pairwise fun left right => decide (left.gpuId ≤ right.gpuId) = true := by
  refine List.pairwise_mergeSort (fun first second third early late => ?_) (fun first second => ?_) gpus
  · rw [decide_eq_true_eq] at early late ⊢
    exact le_trans early late
  · rw [Bool.or_eq_true, decide_eq_true_eq, decide_eq_true_eq]
    exact le_total first.gpuId second.gpuId

@[simp] theorem sortedGpus_sortedGpus (gpus : List GpuInventory) :
    sortedGpus (sortedGpus gpus) = sortedGpus gpus :=
  List.mergeSort_of_pairwise (sortedGpus_pairwise gpus)

theorem normalizedAndValidated_eq_ok : normalizedAndValidated inventory = .ok normalized ↔
    normalized = { inventory with gpus := inventory.gpus.map sortedGpus } ∧
      validateInventory normalized = .ok () := by
  simp only [normalizedAndValidated, Except.bind_eq_ok, Except.ok.injEq]
  constructor
  · rintro ⟨⟨⟩, valid, rfl⟩
    exact ⟨rfl, valid⟩
  · rintro ⟨rfl, valid⟩
    exact ⟨(), valid, rfl⟩

/-- Normalizing once more changes nothing. -/
theorem normalized_of_ok (done : normalizedAndValidated inventory = .ok normalized) : normalized.Normalized := by
  obtain ⟨rfl, valid⟩ := normalizedAndValidated_eq_ok.mp done
  refine normalizedAndValidated_eq_ok.mpr ⟨?_, valid⟩
  cases inventory.gpus <;> simp

theorem sorted_of_normalized (normal : inventory.Normalized) :
    ∀ gpus ∈ inventory.gpus, sortedGpus gpus = gpus := by
  intro gpus listed
  have same := congrArg AgentInventory.gpus (normalizedAndValidated_eq_ok.mp normal).1
  rw [Option.mem_def.mp listed] at same
  exact (Option.some.inj same).symm

theorem valid_of_normalized (normal : inventory.Normalized) : validateInventory inventory = .ok () :=
  (normalizedAndValidated_eq_ok.mp normal).2

theorem fits_of_ok (fits : inventory.Fits) (done : normalizedAndValidated inventory = .ok normalized) :
    normalized.Fits := by
  obtain ⟨rfl, -⟩ := normalizedAndValidated_eq_ok.mp done
  constructor
  · intro gpus listed
    obtain ⟨written, there, rfl⟩ := Option.mem_map.mp listed
    rw [sortedGpus, List.length_mergeSort]
    exact fits.count written there
  · intro gpus listed gpu member
    obtain ⟨written, there, rfl⟩ := Option.mem_map.mp listed
    exact fits.gpus written there gpu (List.mem_mergeSort.mp member)

/-- Of one node, two inventories with the same payload are the same. -/
theorem encodeInventoryPayload_injective {first second : AgentInventory} (normal : first.Normalized)
    (normalToo : second.Normalized) (fits : first.Fits) (fitsToo : second.Fits)
    (nodeId : first.nodeId = second.nodeId)
    (same : encodeInventoryPayload first = encodeInventoryPayload second) : first = second := by
  simp only [encodeInventoryPayload, List.append_assoc] at same
  obtain ⟨revision, same⟩ := encodeU64_delimited trivial trivial same
  obtain ⟨observed, same⟩ := encodeU64_delimited trivial trivial same
  obtain ⟨gpus, same⟩ := pushOptional_delimited pushGpus_delimited
    (fun gpus listed => ⟨sorted_of_normalized normal gpus listed, fits.count gpus listed, fits.gpus gpus listed⟩)
    (fun gpus listed => ⟨sorted_of_normalized normalToo gpus listed, fitsToo.count gpus listed, fitsToo.gpus gpus listed⟩) same
  obtain ⟨cores, same⟩ := pushOptionalU64_delimited trivial trivial same
  obtain ⟨ram, same⟩ := pushOptionalU64_delimited trivial trivial same
  obtain ⟨workspace, same⟩ := pushOptionalU64_delimited trivial trivial same
  obtain ⟨workloads, same⟩ := pushOptional_delimited pushWorkloads_delimited (fun _ _ => trivial)
    (fun _ _ => trivial) same
  have optIn := pushOptionalBool_delimited.injective trivial trivial same
  have coresToo : first.availableCpuCores = second.availableCpuCores :=
    Option.map_injective (fun _ _ => UInt32.toUInt64_inj.mp) cores
  cases first
  cases second
  simp_all

end Normal

end InventoryRows

end Gputeer.Coordinator
