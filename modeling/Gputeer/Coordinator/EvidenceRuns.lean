import Gputeer.Coordinator.EvidenceSteps
import Gputeer.Coordinator.StagingReplay

/-! Checkpoint evidence beside everything else that happens to the control database: what was written first
stays, and stays readable. -/

namespace Gputeer.Coordinator.CheckpointManifestStore

open Protocol Text ReplicaAckStore

/-- The file of the coordinator with the two inboxes. -/
structure EvidenceDb where
  control : ControlDb
  manifests : ManifestTable
  acks : AckTable

inductive EvidenceCall where
  | coordinator (operation : Operation)
  | storeVerifiedManifest (verified : Verified CheckpointManifest) (sqlFailure : Option SqlFailure)
  | storeVerifiedAck (verified : Verified ReplicaAck) (sqlFailure : Option SqlFailure)

section Calls

variable (codec : EvidenceCodec) (db : EvidenceDb)

def storeManifest (verified : Verified CheckpointManifest) (sqlFailure : Option SqlFailure) :
    Except CheckpointManifestStoreError (ManifestTable × StoreCheckpointManifestResult) :=
  CheckpointManifestStore.storeVerifiedManifest codec db.control db.manifests verified sqlFailure

def storeAck (verified : Verified ReplicaAck) (sqlFailure : Option SqlFailure) :
    Except ReplicaAckStoreError (AckTable × StoreReplicaAckResult) :=
  ReplicaAckStore.storeVerifiedAck codec db.control db.manifests db.acks verified sqlFailure

def getManifest (checkpointId : String) :
    Except CheckpointManifestStoreError (Option StoredCheckpointManifestBinding) :=
  fetchManifestBinding codec db.control db.manifests checkpointId

def getAck (checkpointId holderDeviceId : String) (ackedAtUnixMs : UInt64) :
    Except ReplicaAckStoreError (Option StoredReplicaAckBinding) :=
  getAckBinding codec db.control db.manifests db.acks checkpointId holderDeviceId ackedAtUnixMs

def listAcks (checkpointId : String) : Except ReplicaAckStoreError (List StoredReplicaAckBinding) :=
  listAckBindings codec db.control db.manifests db.acks checkpointId

/-- A call that fails commits nothing. -/
def call : EvidenceCall → EvidenceDb
  | .coordinator operation => { db with control := step codec.toCodec db.control operation }
  | .storeVerifiedManifest verified sqlFailure =>
      match storeManifest codec db verified sqlFailure with
      | .ok (manifests, _) => { db with manifests }
      | .error _ => db
  | .storeVerifiedAck verified sqlFailure =>
      match storeAck codec db verified sqlFailure with
      | .ok (acks, _) => { db with acks }
      | .error _ => db

/-- The file after a whole run. -/
def runCalls (calls : List EvidenceCall) : EvidenceDb :=
  Trace.run (call codec) ⟨ControlDb.empty, ∅, ∅⟩ calls

/-- A message and its root survive their encodings. -/
def EvidenceCall.Decodes : EvidenceCall → Prop
  | .coordinator _ => True
  | .storeVerifiedManifest verified _ =>
      codec.decodeCheckpointManifest (codec.encodeCheckpointManifest verified.inner) =
          some verified.inner ∧
        ∀ root ∈ verified.inner.rootDigest, codec.decodeDigest (codec.encodeDigest root) = some root
  | .storeVerifiedAck verified _ =>
      codec.decodeReplicaAck (codec.encodeReplicaAck verified.inner) = some verified.inner ∧
        ∀ root ∈ verified.inner.rootDigest, codec.decodeDigest (codec.encodeDigest root) = some root

end Calls

variable {codec : EvidenceCodec} {db : EvidenceDb} {calls : List EvidenceCall}

def EvidenceDb.Anchored (codec : EvidenceCodec) (db : EvidenceDb) : Prop :=
  CheckpointManifestStore.Anchored codec db.control db.manifests db.acks

section Steps

variable {verified : Verified CheckpointManifest} {verifiedAck : Verified ReplicaAck}
  {sqlFailure : Option SqlFailure}

theorem admitted_of_decodes
    (decodes : (EvidenceCall.storeVerifiedManifest verified sqlFailure).Decodes codec) (root : Digest)
    (valid : validateManifestInput verified.inner = .ok root) : Admitted codec verified.inner root :=
  ⟨valid, decodes.1, decodes.2 root (validateManifestInput_eq_ok valid).2.2.1⟩

theorem admittedAck_of_decodes
    (decodes : (EvidenceCall.storeVerifiedAck verifiedAck sqlFailure).Decodes codec) (root : Digest)
    (valid : validateAckInput verifiedAck.inner = .ok root) :
    AdmittedAck codec verifiedAck.inner root :=
  ⟨valid, decodes.1, decodes.2 root (validateAckInput_eq_ok valid).2.1⟩

/-- What a call does to the evidence: nothing, or one row more. -/
inductive Files (codec : EvidenceCodec) (db : EvidenceDb) : EvidenceCall → EvidenceDb → Prop where
  | control (operation : Operation) : Files codec db (.coordinator operation)
      { db with control := step codec.toCodec db.control operation }
  | nothing (made : EvidenceCall) : Files codec db made db
  | manifest {verified : Verified CheckpointManifest} {sqlFailure : Option SqlFailure}
      {manifests : ManifestTable} {result : StoreCheckpointManifestResult} {root : Digest}
      (stored : storeManifest codec db verified sqlFailure = .ok (manifests, result))
      (created : result.created = true)
      (absent : db.manifests[verified.inner.checkpointId]? = none)
      (written : manifests = db.manifests.insert verified.inner.checkpointId
        (manifestRow codec verified.inner verified.inner.producerNodeId root))
      (filed : Filed codec db.control manifests verified.inner root) :
      Files codec db (.storeVerifiedManifest verified sqlFailure) { db with manifests }
  | ack {verified : Verified ReplicaAck} {sqlFailure : Option SqlFailure} {acks : AckTable}
      {result : StoreReplicaAckResult} {root : Digest}
      (stored : storeAck codec db verified sqlFailure = .ok (acks, result))
      (created : result.created = true) (absent : db.acks[keyOf verified.inner]? = none)
      (written : acks = db.acks.insert (keyOf verified.inner)
        (ackRow codec verified.inner verified.inner.holderDeviceId root))
      (filed : FiledAck codec db.control db.manifests acks verified.inner root) :
      Files codec db (.storeVerifiedAck verified sqlFailure) { db with acks }

theorem call_files (anchored : db.Anchored codec) {made : EvidenceCall} (decodes : made.Decodes codec) :
    Files codec db made (call codec db made) := by
  cases made with
  | coordinator operation => exact .control operation
  | storeVerifiedManifest verified sqlFailure =>
      rw [call]
      cases stored : storeManifest codec db verified sqlFailure with
      | error fault => exact .nothing _
      | ok answer =>
          obtain ⟨root, filed, _, ⟨same, _⟩ | ⟨absent, created, written, _⟩⟩ :=
            storeVerifiedManifest_eq_ok anchored (admitted_of_decodes decodes) stored
          · simp only [same]
            exact .nothing _
          · exact .manifest stored created absent written filed
  | storeVerifiedAck verified sqlFailure =>
      rw [call]
      cases stored : storeAck codec db verified sqlFailure with
      | error fault => exact .nothing _
      | ok answer =>
          obtain ⟨root, filed, _, _, ⟨same, _⟩ | ⟨absent, created, written⟩⟩ :=
            storeVerifiedAck_eq_ok anchored (admittedAck_of_decodes decodes) stored
          · simp only [same]
            exact .nothing _
          · exact .ack stored created absent written filed

namespace Files

variable {made : EvidenceCall} {next : EvidenceDb}

/-- A manifest that is filed stays filed. -/
theorem filed (files : Files codec db made next) (anchored : db.Anchored codec)
    {manifest : CheckpointManifest} {root : Digest}
    (before : Filed codec db.control db.manifests manifest root) :
    Filed codec next.control next.manifests manifest root := by
  cases files with
  | control operation => exact before.kept anchored.intact (step_refines codec.toCodec anchored.intact operation)
  | nothing => exact before
  | manifest stored created absent written _ =>
      subst written
      exact before.put absent
  | ack => exact before

theorem filedAck (files : Files codec db made next) (anchored : db.Anchored codec) {ack : ReplicaAck}
    {root : Digest} (before : FiledAck codec db.control db.manifests db.acks ack root) :
    FiledAck codec next.control next.manifests next.acks ack root := by
  cases files with
  | control operation => exact before.kept anchored.intact (step_refines codec.toCodec anchored.intact operation)
  | nothing => exact before
  | manifest stored created absent written _ =>
      subst written
      exact before.putManifest absent
  | ack stored created absent written _ =>
      subst written
      exact before.putAck absent

theorem intact (files : Files codec db made next) (anchored : db.Anchored codec) :
    next.control.Intact := by
  cases files with
  | control operation =>
      exact anchored.intact.after (step_refines codec.toCodec anchored.intact operation)
  | nothing => exact anchored.intact
  | manifest => exact anchored.intact
  | ack => exact anchored.intact

/-- Every row of a manifest was there before, or the call that has just created it filed it. -/
theorem row_cases (files : Files codec db made next) {checkpointId : String}
    {row : CheckpointManifestRow} (found : next.manifests[checkpointId]? = some row) :
    db.manifests[checkpointId]? = some row ∨ ∃ verified sqlFailure result root,
      made = .storeVerifiedManifest verified sqlFailure ∧ verified.inner.checkpointId = checkpointId ∧
      storeManifest codec db verified sqlFailure = .ok (next.manifests, result) ∧
      result.created = true ∧ Filed codec next.control next.manifests verified.inner root := by
  cases files with
  | control => exact Or.inl found
  | nothing => exact Or.inl found
  | ack => exact Or.inl found
  | manifest stored created absent written filed =>
      rename_i verified sqlFailure manifests result root
      by_cases own : verified.inner.checkpointId = checkpointId
      · exact Or.inr ⟨verified, sqlFailure, result, root, rfl, own, stored, created, filed⟩
      · left
        simp only [written, Table.lookup_insert, if_neg own] at found
        exact found

theorem ackRow_cases (files : Files codec db made next) {key : AckKey} {row : ReplicaAckRow}
    (found : next.acks[key]? = some row) :
    db.acks[key]? = some row ∨ ∃ verified sqlFailure result root,
      made = .storeVerifiedAck verified sqlFailure ∧ keyOf verified.inner = key ∧
      storeAck codec db verified sqlFailure = .ok (next.acks, result) ∧ result.created = true ∧
      FiledAck codec next.control next.manifests next.acks verified.inner root := by
  cases files with
  | control => exact Or.inl found
  | nothing => exact Or.inl found
  | manifest => exact Or.inl found
  | ack stored created absent written filed =>
      rename_i verified sqlFailure acks result root
      by_cases own : keyOf verified.inner = key
      · exact Or.inr ⟨verified, sqlFailure, result, root, rfl, own, stored, created, filed⟩
      · left
        simp only [written, Table.lookup_insert, if_neg own] at found
        exact found

theorem anchored (files : Files codec db made next) (before : db.Anchored codec) :
    next.Anchored codec where
  intact := files.intact before
  filed := by
    intro checkpointId row found
    rcases files.row_cases found with earlier | ⟨verified, _, _, root, _, own, _, _, filed⟩
    · obtain ⟨manifest, root, same, filed⟩ := before.filed checkpointId row earlier
      exact ⟨manifest, root, same, files.filed before filed⟩
    · exact ⟨verified.inner, root, own, filed⟩
  filedAck := by
    intro key row found
    rcases files.ackRow_cases found with earlier | ⟨verified, _, _, root, _, own, _, _, filed⟩
    · obtain ⟨ack, root, same, filed⟩ := before.filedAck key row earlier
      exact ⟨ack, root, same, files.filedAck before filed⟩
    · exact ⟨verified.inner, root, own, filed⟩

/-- No row is rewritten or deleted. -/
theorem row_kept (files : Files codec db made next) {checkpointId : String} {row : CheckpointManifestRow}
    (found : db.manifests[checkpointId]? = some row) : next.manifests[checkpointId]? = some row := by
  cases files with
  | control => exact found
  | nothing => exact found
  | ack => exact found
  | manifest stored created absent written _ =>
      subst written
      rw [Table.lookup_insert_ne]
      · exact found
      · rintro rfl
        rw [found] at absent
        cases absent

theorem ackRow_kept (files : Files codec db made next) {key : AckKey} {row : ReplicaAckRow}
    (found : db.acks[key]? = some row) : next.acks[key]? = some row := by
  cases files with
  | control => exact found
  | nothing => exact found
  | manifest => exact found
  | ack stored created absent written _ =>
      subst written
      rw [Table.lookup_insert_ne]
      · exact found
      · rintro rfl
        rw [found] at absent
        cases absent

end Files

end Steps

end Gputeer.Coordinator.CheckpointManifestStore
