import Gputeer.Coordinator.Operations
import Gputeer.Coordinator.ReplicaAcks
import Gputeer.Lib.Sorting

/-! What is written of checkpoint evidence reads back: a manifest hangs on its attempt, and an acknowledgement
on its manifest. -/

namespace Gputeer.Coordinator.CheckpointManifestStore

open Protocol Text ReplicaAckStore

variable {codec : EvidenceCodec} {control next : ControlDb} {manifests : ManifestTable} {acks : AckTable}
  {manifest other : CheckpointManifest} {root otherRoot : Digest} {ack : ReplicaAck}
  {checkpointId signerId : String}

/-- A manifest that may be kept, with its root. -/
structure Admitted (codec : EvidenceCodec) (manifest : CheckpointManifest) (root : Digest) : Prop where
  valid : validateManifestInput manifest = .ok root
  decodes : codec.decodeCheckpointManifest (codec.encodeCheckpointManifest manifest) = some manifest
  rootDecodes : codec.decodeDigest (codec.encodeDigest root) = some root

structure AdmittedAck (codec : EvidenceCodec) (ack : ReplicaAck) (root : Digest) : Prop where
  valid : validateAckInput ack = .ok root
  decodes : codec.decodeReplicaAck (codec.encodeReplicaAck ack) = some ack
  rootDecodes : codec.decodeDigest (codec.encodeDigest root) = some root

/-- What the manifest says about its attempt is so, and no write changes it. -/
structure ProducedBy (manifest : CheckpointManifest) (attempt : StoredAttempt) : Prop where
  jobId : attempt.jobId = manifest.jobId
  nodeIds : attempt.nodeIds = [manifest.producerNodeId]
  fenceEpoch : attempt.fenceEpoch = manifest.fenceEpoch

def Produced (control : ControlDb) (manifest : CheckpointManifest) : Prop :=
  ∃ attempt, control.attempts[manifest.attemptId]? = some attempt ∧ ProducedBy manifest attempt

/-- The row of a manifest, which its producer signed. -/
structure Filed (codec : EvidenceCodec) (control : ControlDb) (manifests : ManifestTable)
    (manifest : CheckpointManifest) (root : Digest) : Prop where
  row : manifests[manifest.checkpointId]? =
    some (manifestRow codec manifest manifest.producerNodeId root)
  admitted : Admitted codec manifest root
  produced : Produced control manifest

/-- The row of an acknowledgement, which its holder signed, of the root of a manifest. -/
structure FiledAck (codec : EvidenceCodec) (control : ControlDb) (manifests : ManifestTable)
    (acks : AckTable) (ack : ReplicaAck) (root : Digest) : Prop where
  row : acks[keyOf ack]? = some (ackRow codec ack ack.holderDeviceId root)
  admitted : AdmittedAck codec ack root
  anchor : ∃ manifest, manifest.checkpointId = ack.checkpointId ∧
    Filed codec control manifests manifest root

structure Anchored (codec : EvidenceCodec) (control : ControlDb) (manifests : ManifestTable)
    (acks : AckTable) : Prop where
  intact : control.Intact
  filed : ∀ (checkpointId : String) (row : CheckpointManifestRow),
    manifests[checkpointId]? = some row → ∃ manifest root, manifest.checkpointId = checkpointId ∧
      Filed codec control manifests manifest root
  filedAck : ∀ (key : AckKey) (row : ReplicaAckRow), acks[key]? = some row → ∃ ack root, keyOf ack = key ∧
    FiledAck codec control manifests acks ack root

section Valid

theorem validateManifestInput_eq_ok (valid : validateManifestInput manifest = .ok root) :
    manifest.schemaVersion ≠ 0 ∧ isBlank manifest.producerNodeId = false ∧
      manifest.rootDigest = some root ∧ isBlake3 root = true := by
  simp only [validateManifestInput, Except.bind_eq_ok, Except.ensure_eq_ok, Except.ofOption_eq_ok,
    Except.ok.injEq] at valid
  obtain ⟨_, version, _, _, _, _, _, _, _, producer, _, _, digest, found, _, hash, rfl⟩ := valid
  exact ⟨version, producer, found, hash⟩

theorem validateAckInput_eq_ok (valid : validateAckInput ack = .ok root) :
    ack.schemaVersion ≠ 0 ∧ ack.rootDigest = some root ∧ isBlake3 root = true := by
  simp only [validateAckInput, Except.bind_eq_ok, Except.ensure_eq_ok, Except.ofOption_eq_ok,
    Except.ok.injEq] at valid
  obtain ⟨_, version, _, _, _, _, _, _, _, _, digest, found, _, hash, rfl⟩ := valid
  exact ⟨version, found, hash⟩

/-- The default digest is none of the hash. -/
theorem encodeDigest_ne_nil (hash : isBlake3 root = true)
    (decodes : codec.decodeDigest (codec.encodeDigest root) = some root) :
    codec.encodeDigest root ≠ [] := by
  intro empty
  rw [empty, codec.decodeDigest_nil, Option.some.injEq] at decodes
  rw [← decodes] at hash
  exact absurd hash (by decide)

theorem Admitted.encode_ne_nil (admitted : Admitted codec manifest root) :
    codec.encodeCheckpointManifest manifest ≠ [] := by
  intro empty
  have blank := admitted.decodes
  rw [empty, codec.decodeCheckpointManifest_nil, Option.some.injEq] at blank
  have version := (validateManifestInput_eq_ok admitted.valid).1
  rw [← blank] at version
  exact version rfl

theorem AdmittedAck.encode_ne_nil (admitted : AdmittedAck codec ack root) :
    codec.encodeReplicaAck ack ≠ [] := by
  intro empty
  have blank := admitted.decodes
  rw [empty, codec.decodeReplicaAck_nil, Option.some.injEq] at blank
  have version := (validateAckInput_eq_ok admitted.valid).1
  rw [← blank] at version
  exact version rfl

end Valid

section Reads

theorem Produced.fetchAttempt_eq (produced : Produced control manifest)
    (named : isBlank manifest.producerNodeId = false) :
    ∃ attempt, fetchAttempt control manifest.attemptId = .ok (some attempt) ∧
      ProducedBy manifest attempt := by
  obtain ⟨attempt, found, by_⟩ := produced
  refine ⟨attempt, ?_, by_⟩
  have shape : ¬ (attempt.nodeIds.length ≠ 1 ∨ attempt.nodeIds.any isBlank) := by
    simp [by_.nodeIds, named]
  simp only [fetchAttempt, found, Except.onSome, if_neg shape]
  rfl

theorem Filed.fetch_eq (filed : Filed codec control manifests manifest root) :
    fetchManifestBinding codec control manifests manifest.checkpointId =
      .ok (some (bindingOf codec manifest manifest.producerNodeId root)) := by
  have admitted := filed.admitted
  obtain ⟨version, named, found, hash⟩ := validateManifestInput_eq_ok admitted.valid
  obtain ⟨attempt, fetched, job, nodes, epoch⟩ := filed.produced.fetchAttempt_eq named
  rw [fetchManifestBinding, filed.row, Except.onSome, Except.map_eq_ok]
  refine ⟨_, ?_, rfl⟩
  simp only [readManifestRow, Except.bind_eq_ok, Except.ensure_eq_ok, Except.mapError_eq_ok,
    Except.ofOption_eq_ok, Except.ok.injEq]
  exact ⟨(), admitted.encode_ne_nil, _, decodeHash_toList _, (), rfl, _, admitted.decodes, root,
    admitted.valid, (), rfl, (), rfl, (), rfl, (), rfl, (), ⟨rfl, rfl⟩, _, decodeU64_encodeU64 _ _, (),
    rfl, (), encodeDigest_ne_nil hash admitted.rootDecodes, root, admitted.rootDecodes, (), hash, (),
    found, _, fetched, _, rfl, (), job, (), nodes, (), epoch, rfl⟩

/-- A row belongs to one manifest. -/
theorem Filed.unique (filed : Filed codec control manifests manifest root)
    (also : Filed codec control manifests other otherRoot)
    (same : manifest.checkpointId = other.checkpointId) : manifest = other ∧ root = otherRoot := by
  have rows := filed.row
  rw [same, also.row, Option.some.injEq] at rows
  have body := congrArg CheckpointManifestRow.manifestBody rows
  have digest := congrArg CheckpointManifestRow.rootDigest rows
  simp only [manifestRow] at body digest
  have decodes := filed.admitted.decodes
  rw [← body, also.admitted.decodes, Option.some.injEq] at decodes
  have rootDecodes := filed.admitted.rootDecodes
  rw [← digest, also.admitted.rootDecodes, Option.some.injEq] at rootDecodes
  exact ⟨decodes.symm, rootDecodes.symm⟩

theorem FiledAck.loadAnchor_eq (filed : FiledAck codec control manifests acks ack root) :
    ∃ manifest, manifest.checkpointId = ack.checkpointId ∧
      Filed codec control manifests manifest root ∧
      loadAnchorForStoredAck codec control manifests (keyOf ack) =
        .ok (bindingOf codec manifest manifest.producerNodeId root) := by
  obtain ⟨manifest, same, anchor⟩ := filed.anchor
  refine ⟨manifest, same, anchor, ?_⟩
  have fetched := anchor.fetch_eq
  rw [same] at fetched
  rw [loadAnchorForStoredAck, keyOf, fetched]
  rfl

theorem FiledAck.validate_eq (filed : FiledAck codec control manifests acks ack root)
    (same : manifest.checkpointId = ack.checkpointId) :
    validateAckRow codec (bindingOf codec manifest manifest.producerNodeId root) (keyOf ack)
        (ackRow codec ack ack.holderDeviceId root) =
      .ok (ackBindingOf codec ack ack.holderDeviceId root) := by
  have admitted := filed.admitted
  obtain ⟨version, found, hash⟩ := validateAckInput_eq_ok admitted.valid
  simp only [validateAckRow, Except.bind_eq_ok, Except.ensure_eq_ok, Except.mapError_eq_ok,
    Except.ofOption_eq_ok, Except.ok.injEq]
  exact ⟨(), admitted.encode_ne_nil, _, decodeHash_toList _, (), rfl, _, admitted.decodes, root,
    admitted.valid, (), rfl, (), rfl, (), ⟨rfl, rfl⟩, _, decodeU64_encodeU64 _ _, (), rfl, (),
    encodeDigest_ne_nil hash admitted.rootDecodes, root, admitted.rootDecodes, (), hash, (), found, (),
    same.symm, (), rfl, rfl⟩

theorem FiledAck.get_eq (filed : FiledAck codec control manifests acks ack root) :
    getAckBinding codec control manifests acks ack.checkpointId ack.holderDeviceId ack.ackedAtUnixMs =
      .ok (some (ackBindingOf codec ack ack.holderDeviceId root)) := by
  obtain ⟨manifest, same, -, loaded⟩ := filed.loadAnchor_eq
  have row : acks[(⟨ack.checkpointId, ack.holderDeviceId, encodeU64 ack.ackedAtUnixMs⟩ : AckKey)]? =
      some (ackRow codec ack ack.holderDeviceId root) := filed.row
  have anchor : loadAnchorForStoredAck codec control manifests
      ⟨ack.checkpointId, ack.holderDeviceId, encodeU64 ack.ackedAtUnixMs⟩ =
        .ok (bindingOf codec manifest manifest.producerNodeId root) := loaded
  simp only [getAckBinding, row, anchor]
  have read := filed.validate_eq same
  rw [keyOf] at read
  simp only [bind, Except.bind, read]
  rfl

theorem FiledAck.eq_of_row {first second : ReplicaAck × Digest}
    (filed : FiledAck codec control manifests acks first.1 first.2)
    (also : FiledAck codec control manifests acks second.1 second.2)
    (same : keyOf first.1 = keyOf second.1) : first = second := by
  have rows := filed.row
  rw [same, also.row, Option.some.injEq] at rows
  have body := congrArg ReplicaAckRow.ackBody rows
  have digest := congrArg ReplicaAckRow.rootDigest rows
  simp only [ackRow] at body digest
  have decodes := filed.admitted.decodes
  rw [← body, also.admitted.decodes, Option.some.injEq] at decodes
  have rootDecodes := filed.admitted.rootDecodes
  rw [← digest, also.admitted.rootDecodes, Option.some.injEq] at rootDecodes
  exact Prod.ext decodes.symm rootDecodes.symm

/-- All acknowledgements of a checkpoint have the root of its manifest. -/
theorem FiledAck.root_eq (filedAck : FiledAck codec control manifests acks ack otherRoot)
    (filed : Filed codec control manifests manifest root)
    (same : manifest.checkpointId = ack.checkpointId) : otherRoot = root := by
  obtain ⟨other, ofAck, anchor⟩ := filedAck.anchor
  exact (anchor.unique filed (ofAck.trans same.symm)).2

namespace Anchored

/-- A read of a manifest never fails. -/
theorem fetch_cases (anchored : Anchored codec control manifests acks) (checkpointId : String) :
    manifests[checkpointId]? = none ∧
        fetchManifestBinding codec control manifests checkpointId = .ok none ∨
      ∃ manifest root, manifest.checkpointId = checkpointId ∧
        Filed codec control manifests manifest root := by
  cases found : manifests[checkpointId]? with
  | none =>
      left
      rw [fetchManifestBinding, found]
      exact ⟨rfl, rfl⟩
  | some row => exact Or.inr (anchored.filed checkpointId row found)

/-- The acknowledgements of a checkpoint all hang on its one manifest. -/
theorem list_eq (anchored : Anchored codec control manifests acks) (checkpointId : String) :
    ∃ bindings, listAckBindings codec control manifests acks checkpointId = .ok bindings ∧
      ∀ binding, binding ∈ bindings ↔ ∃ ack root, FiledAck codec control manifests acks ack root ∧
        ack.checkpointId = checkpointId ∧ binding = ackBindingOf codec ack ack.holderDeviceId root := by
  let entryOf : ReplicaAck × Digest → AckKey × ReplicaAckRow :=
    fun pair => (keyOf pair.1, ackRow codec pair.1 pair.1.holderDeviceId pair.2)
  have members : ∀ entry, entry ∈ acksOf acks checkpointId ↔
      acks[entry.1]? = some entry.2 ∧ entry.1.checkpointId = checkpointId := by
    intro entry
    rw [acksOf, List.mem_mergeSort, List.mem_filter, decide_eq_true_iff, ← Table.mem_toList]
  obtain ⟨listed, filed, entries⟩ : ∃ listed : List (ReplicaAck × Digest), (∀ pair ∈ listed,
      FiledAck codec control manifests acks pair.1 pair.2 ∧ pair.1.checkpointId = checkpointId) ∧
      listed.map entryOf = acksOf acks checkpointId := by
    refine List.exists_map_eq ?_
    rintro ⟨key, row⟩ there
    obtain ⟨found, ofCheckpoint⟩ := (members _).mp there
    obtain ⟨ack, root, rfl, filed⟩ := anchored.filedAck key row found
    exact ⟨(ack, root), ⟨filed, ofCheckpoint⟩,
      Prod.ext rfl (Option.some.inj (filed.row.symm.trans found))⟩
  refine ⟨listed.map fun pair => ackBindingOf codec pair.1 pair.1.holderDeviceId pair.2, ?_, ?_⟩
  · rw [listAckBindings, ← entries]
    cases listed with
    | nil => rfl
    | cons first rest =>
        obtain ⟨firstFiled, ofCheckpoint⟩ := filed first List.mem_cons_self
        obtain ⟨manifest, same, anchor, loaded⟩ := firstFiled.loadAnchor_eq
        simp only [List.map_cons, entryOf, loaded, bind, Except.bind]
        change (List.map entryOf (first :: rest)).mapM (fun entry => validateAckRow codec
          (bindingOf codec manifest manifest.producerNodeId first.2) entry.1 entry.2) =
            .ok (List.map (fun pair => ackBindingOf codec pair.1 pair.1.holderDeviceId pair.2)
              (first :: rest))
        rw [Except.mapM_eq_ok, List.forall₂_map_left_iff, List.forall₂_map_right_iff]
        refine List.forall₂_same.mpr fun pair there => ?_
        obtain ⟨pairFiled, ofPair⟩ := filed pair there
        have ofManifest : manifest.checkpointId = pair.1.checkpointId :=
          same.trans (ofCheckpoint.trans ofPair.symm)
        obtain root := pairFiled.root_eq anchor ofManifest
        rw [← root]
        exact pairFiled.validate_eq ofManifest
  · intro binding
    rw [List.mem_map]
    constructor
    · rintro ⟨pair, there, rfl⟩
      exact ⟨pair.1, pair.2, (filed pair there).1, (filed pair there).2, rfl⟩
    · rintro ⟨ack, root, filedAck, ofCheckpoint, rfl⟩
      have there : entryOf (ack, root) ∈ acksOf acks checkpointId :=
        (members _).mpr ⟨filedAck.row, ofCheckpoint⟩
      rw [← entries, List.mem_map] at there
      obtain ⟨pair, inside, same⟩ := there
      obtain ⟨keys, rows⟩ := Prod.mk.inj same
      obtain rfl := (filed pair inside).1.eq_of_row filedAck keys
      exact ⟨_, inside, rfl⟩

end Anchored

end Reads

end Gputeer.Coordinator.CheckpointManifestStore
