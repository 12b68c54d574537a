import Gputeer.Coordinator.EvidenceRuns

/-! Whatever happens to the attempt later, the evidence of a checkpoint is what was written first, and all of it
speaks of one root. -/

namespace Gputeer.Coordinator.CheckpointManifestStore

open Protocol Text ReplicaAckStore

variable {codec : EvidenceCodec} {db : EvidenceDb} {calls before : List EvidenceCall}

def MessagesDecode (codec : EvidenceCodec) (calls : List EvidenceCall) : Prop :=
  ∀ made ∈ calls, made.Decodes codec

section Runs

theorem runCalls_snoc {made : EvidenceCall} :
    runCalls codec (calls ++ [made]) = call codec (runCalls codec calls) made :=
  Trace.run_snoc _ _

theorem runCalls_anchored (decodes : MessagesDecode codec calls) :
    (runCalls codec calls).Anchored codec := by
  induction calls using List.reverseRecOn with
  | nil => exact ⟨ControlDb.empty_intact, by simp [runCalls], by simp [runCalls]⟩
  | append_singleton calls made ih =>
      have anchored := ih fun other listed => decodes other (List.mem_append_left _ listed)
      rw [runCalls_snoc]
      exact (call_files anchored
        (decodes made (List.mem_append_right _ (List.mem_singleton_self _)))).anchored anchored

theorem MessagesDecode.took {made : EvidenceCall} (decodes : MessagesDecode codec calls)
    (took : Trace.Took calls before made) : MessagesDecode codec before ∧ made.Decodes codec := by
  obtain ⟨rest, rfl⟩ := took
  exact ⟨fun other listed => decodes other (List.mem_append_left _ listed),
    decodes made (List.mem_append_right _ List.mem_cons_self)⟩

/-- What a call leaves and every later call keeps is there in the end. -/
theorem runCalls_kept {made : EvidenceCall} (Kept : EvidenceDb → Prop)
    (decodes : MessagesDecode codec calls) (took : Trace.Took calls before made)
    (starts : Kept (call codec (runCalls codec before) made))
    (kept : ∀ {earlier next : EvidenceDb} {later : EvidenceCall}, earlier.Anchored codec →
      Files codec earlier later next → Kept earlier → Kept next) : Kept (runCalls codec calls) := by
  obtain ⟨after, rfl⟩ := took
  induction after using List.reverseRecOn with
  | nil =>
      rw [runCalls_snoc]
      exact starts
  | append_singleton after last ih =>
      have regrouped : before ++ made :: (after ++ [last]) = (before ++ made :: after) ++ [last] := by simp
      rw [regrouped] at decodes ⊢
      have earlier : MessagesDecode codec (before ++ made :: after) :=
        fun other listed => decodes other (List.mem_append_left _ listed)
      have anchored := runCalls_anchored earlier
      rw [runCalls_snoc]
      exact kept anchored
        (call_files anchored (decodes last (List.mem_append_right _ (List.mem_singleton_self _))))
        (ih earlier)

end Runs

/-- A manifest was filed while its producer held the node for the attempt. -/
structure CreatedInHold (codec : EvidenceCodec) (db last : EvidenceDb)
    (verified : Verified CheckpointManifest) (result : StoreCheckpointManifestResult) : Prop where
  held : HeldByProducer db.control verified.inner verified.signerId
  same : result.binding.manifest = verified.inner
  stays : getManifest codec last verified.inner.checkpointId = .ok (some result.binding)

/-- An acknowledgement was filed by its holder, of the very root of a manifest that is there. -/
structure CreatedOfRoot (codec : EvidenceCodec) (db last : EvidenceDb) (verified : Verified ReplicaAck)
    (result : StoreReplicaAckResult) : Prop where
  signed : verified.signerId = verified.inner.holderDeviceId
  anchored : ∃ anchor, getManifest codec db verified.inner.checkpointId = .ok (some anchor) ∧
    verified.inner.rootDigest = some anchor.boundRootDigest
  same : result.binding.ack = verified.inner
  stays : getAck codec last verified.inner.checkpointId verified.inner.holderDeviceId
    verified.inner.ackedAtUnixMs = .ok (some result.binding)

/-- A row comes with a call that says so, and no call takes one away or changes it. -/
structure FirstWriteWins (codec : EvidenceCodec) (db next : EvidenceDb) (made : EvidenceCall) : Prop where
  manifestKept : ∀ (checkpointId : String) (row : CheckpointManifestRow),
    db.manifests[checkpointId]? = some row → next.manifests[checkpointId]? = some row
  manifestNew : ∀ (checkpointId : String) (row : CheckpointManifestRow),
    next.manifests[checkpointId]? = some row → db.manifests[checkpointId]? = none →
    ∃ verified sqlFailure result, made = .storeVerifiedManifest verified sqlFailure ∧
      verified.inner.checkpointId = checkpointId ∧ result.created = true ∧
      storeManifest codec db verified sqlFailure = .ok (next.manifests, result)
  ackKept : ∀ (key : AckKey) (row : ReplicaAckRow),
    db.acks[key]? = some row → next.acks[key]? = some row
  ackNew : ∀ (key : AckKey) (row : ReplicaAckRow), next.acks[key]? = some row → db.acks[key]? = none →
    ∃ verified sqlFailure result, made = .storeVerifiedAck verified sqlFailure ∧
      keyOf verified.inner = key ∧ result.created = true ∧
      storeAck codec db verified sqlFailure = .ok (next.acks, result)

/-- Every read succeeds, and all that is listed of a checkpoint has one root. -/
structure Legible (codec : EvidenceCodec) (db : EvidenceDb) : Prop where
  manifest : ∀ checkpointId, ∃ found, getManifest codec db checkpointId = .ok found
  ack : ∀ checkpointId holderDeviceId ackedAtUnixMs,
    ∃ found, getAck codec db checkpointId holderDeviceId ackedAtUnixMs = .ok found
  list : ∀ checkpointId, ∃ bindings, listAcks codec db checkpointId = .ok bindings ∧
    (∀ binding, binding ∈ bindings ↔ ∃ holderDeviceId ackedAtUnixMs,
      getAck codec db checkpointId holderDeviceId ackedAtUnixMs = .ok (some binding)) ∧
    ∀ binding ∈ bindings, ∃ anchor, getManifest codec db checkpointId = .ok (some anchor) ∧
      binding.boundRootDigest = anchor.boundRootDigest

/-- The same message again is answered with the first row; another message under its key is refused. -/
structure AnswersAgain (codec : EvidenceCodec) (db : EvidenceDb) : Prop where
  manifest : ∀ binding verified,
    getManifest codec db verified.inner.checkpointId = .ok (some binding) →
    storeManifest codec db verified none =
      if verified.inner = binding.manifest ∧ verified.signerId = binding.signerIdAtSubmission then
        .ok (db.manifests, ⟨binding, false⟩)
      else (validateManifestInput verified.inner).bind
        fun _ => .error (.manifestConflict verified.inner.checkpointId)
  ack : ∀ binding verified, getAck codec db verified.inner.checkpointId verified.inner.holderDeviceId
      verified.inner.ackedAtUnixMs = .ok (some binding) →
    storeAck codec db verified none =
      if verified.inner = binding.ack ∧ verified.signerId = binding.signerIdAtSubmission then
        .ok (db.acks, ⟨binding, false⟩)
      else (do
        let rootDigest ← validateAckInput verified.inner
        Except.ensure (verified.signerId = verified.inner.holderDeviceId)
          (.bindingMismatch .holderAndSigner)
        Except.ensure (rootDigest = binding.boundRootDigest) (.bindingMismatch .rootDigest)
        .error (.ackConflict verified.inner.checkpointId verified.inner.holderDeviceId
          verified.inner.ackedAtUnixMs))

structure EvidenceStands (codec : EvidenceCodec) (calls : List EvidenceCall) : Prop where
  manifestCreated : ∀ before verified sqlFailure manifests result,
    Trace.Took calls before (.storeVerifiedManifest verified sqlFailure) →
    storeManifest codec (runCalls codec before) verified sqlFailure = .ok (manifests, result) →
    result.created = true →
    CreatedInHold codec (runCalls codec before) (runCalls codec calls) verified result
  ackCreated : ∀ before verified sqlFailure acks result,
    Trace.Took calls before (.storeVerifiedAck verified sqlFailure) →
    storeAck codec (runCalls codec before) verified sqlFailure = .ok (acks, result) →
    result.created = true →
    CreatedOfRoot codec (runCalls codec before) (runCalls codec calls) verified result
  firstWriteWins : ∀ before made, Trace.Took calls before made →
    FirstWriteWins codec (runCalls codec before) (runCalls codec (before ++ [made])) made
  legible : Legible codec (runCalls codec calls)
  again : AnswersAgain codec (runCalls codec calls)

section Reads

namespace EvidenceDb.Anchored

variable {binding : StoredReplicaAckBinding} {checkpointId holderDeviceId : String} {ackedAtUnixMs : UInt64}

theorem getManifest_eq_some (anchored : db.Anchored codec)
    {binding : StoredCheckpointManifestBinding}
    (found : getManifest codec db checkpointId = .ok (some binding)) :
    ∃ manifest root, manifest.checkpointId = checkpointId ∧
      Filed codec db.control db.manifests manifest root ∧
      binding = bindingOf codec manifest manifest.producerNodeId root := by
  rcases anchored.fetch_cases checkpointId with ⟨_, missing⟩ | ⟨manifest, root, same, filed⟩
  · rw [getManifest, missing] at found
    cases found
  · have read := filed.fetch_eq
    rw [same] at read
    rw [getManifest, read] at found
    exact ⟨manifest, root, same, filed, (Option.some.inj (Except.ok.inj found)).symm⟩

/-- A read of an acknowledgement never fails. -/
theorem getAck_cases (anchored : db.Anchored codec) (checkpointId holderDeviceId : String)
    (ackedAtUnixMs : UInt64) :
    getAck codec db checkpointId holderDeviceId ackedAtUnixMs = .ok none ∨
      ∃ ack root, FiledAck codec db.control db.manifests db.acks ack root ∧
        ack.checkpointId = checkpointId ∧ ack.holderDeviceId = holderDeviceId ∧
        ack.ackedAtUnixMs = ackedAtUnixMs ∧
        getAck codec db checkpointId holderDeviceId ackedAtUnixMs =
          .ok (some (ackBindingOf codec ack ack.holderDeviceId root)) := by
  cases found : db.acks[(⟨checkpointId, holderDeviceId, encodeU64 ackedAtUnixMs⟩ : AckKey)]? with
  | none =>
      left
      simp only [getAck, getAckBinding, found]
  | some row =>
      obtain ⟨ack, root, same, filed⟩ := anchored.filedAck _ row found
      rw [keyOf, AckKey.mk.injEq] at same
      obtain ⟨rfl, rfl, times⟩ := same
      obtain rfl := encodeU64_injective times
      exact Or.inr ⟨ack, root, filed, rfl, rfl, rfl, filed.get_eq⟩

theorem getAck_eq_some (anchored : db.Anchored codec)
    (found : getAck codec db checkpointId holderDeviceId ackedAtUnixMs = .ok (some binding)) :
    ∃ ack root, FiledAck codec db.control db.manifests db.acks ack root ∧
      ack.checkpointId = checkpointId ∧ ack.holderDeviceId = holderDeviceId ∧
      ack.ackedAtUnixMs = ackedAtUnixMs ∧
      binding = ackBindingOf codec ack ack.holderDeviceId root := by
  rcases anchored.getAck_cases checkpointId holderDeviceId ackedAtUnixMs with
    missing | ⟨ack, root, filed, ofCheckpoint, holder, time, read⟩
  · rw [missing] at found
    cases found
  · rw [read] at found
    exact ⟨ack, root, filed, ofCheckpoint, holder, time, (Option.some.inj (Except.ok.inj found)).symm⟩

theorem legible (anchored : db.Anchored codec) : Legible codec db where
  manifest := by
    intro checkpointId
    rcases anchored.fetch_cases checkpointId with ⟨_, missing⟩ | ⟨manifest, root, rfl, filed⟩
    · exact ⟨none, missing⟩
    · exact ⟨_, filed.fetch_eq⟩
  ack := by
    intro checkpointId holderDeviceId ackedAtUnixMs
    rcases anchored.getAck_cases checkpointId holderDeviceId ackedAtUnixMs with
      missing | ⟨ack, root, _, _, _, _, read⟩
    · exact ⟨none, missing⟩
    · exact ⟨_, read⟩
  list := by
    intro checkpointId
    obtain ⟨bindings, listed, members⟩ := anchored.list_eq checkpointId
    refine ⟨bindings, listed, fun binding => ?_, fun binding inside => ?_⟩
    · rw [members]
      constructor
      · rintro ⟨ack, root, filed, rfl, rfl⟩
        exact ⟨ack.holderDeviceId, ack.ackedAtUnixMs, filed.get_eq⟩
      · rintro ⟨holderDeviceId, ackedAtUnixMs, found⟩
        obtain ⟨ack, root, filed, ofCheckpoint, _, _, rfl⟩ := anchored.getAck_eq_some found
        exact ⟨ack, root, filed, ofCheckpoint, rfl⟩
    · obtain ⟨ack, root, filed, rfl, rfl⟩ := (members binding).mp inside
      obtain ⟨manifest, same, anchor⟩ := filed.anchor
      exact ⟨_, same ▸ anchor.fetch_eq, rfl⟩

theorem answersAgain (anchored : db.Anchored codec) : AnswersAgain codec db where
  manifest := by
    intro binding verified found
    obtain ⟨manifest, root, same, filed, rfl⟩ := anchored.getManifest_eq_some found
    exact storeVerifiedManifest_again filed same
  ack := by
    intro binding verified found
    obtain ⟨ack, root, filed, ofCheckpoint, holder, time, rfl⟩ := anchored.getAck_eq_some found
    have sameKey : keyOf ack = keyOf verified.inner := by
      rw [keyOf, keyOf, ofCheckpoint, holder, time]
    exact storeVerifiedAck_again filed sameKey

end EvidenceDb.Anchored

theorem Files.firstWriteWins {made : EvidenceCall} {next : EvidenceDb}
    (files : Files codec db made next) : FirstWriteWins codec db next made where
  manifestKept := fun _ _ found => files.row_kept found
  manifestNew := by
    intro checkpointId row found absent
    rcases files.row_cases found with earlier | ⟨verified, sqlFailure, result, _, rfl, own, stored, new, _⟩
    · rw [earlier] at absent
      cases absent
    · exact ⟨verified, sqlFailure, result, rfl, own, new, stored⟩
  ackKept := fun _ _ found => files.ackRow_kept found
  ackNew := by
    intro key row found absent
    rcases files.ackRow_cases found with
      earlier | ⟨verified, sqlFailure, result, _, rfl, own, stored, new, _⟩
    · rw [earlier] at absent
      cases absent
    · exact ⟨verified, sqlFailure, result, rfl, own, new, stored⟩

end Reads

section Created

variable {sqlFailure : Option SqlFailure}

theorem createdInHold {verified : Verified CheckpointManifest} {manifests : ManifestTable}
    {result : StoreCheckpointManifestResult} (decodes : MessagesDecode codec calls)
    (took : Trace.Took calls before (.storeVerifiedManifest verified sqlFailure))
    (stored : storeManifest codec (runCalls codec before) verified sqlFailure = .ok (manifests, result))
    (created : result.created = true) :
    CreatedInHold codec (runCalls codec before) (runCalls codec calls) verified result := by
  obtain ⟨decodesBefore, decodesCall⟩ := decodes.took took
  have anchored := runCalls_anchored decodesBefore
  obtain ⟨root, filed, shown, ⟨_, old⟩ | ⟨_, _, _, held⟩⟩ :=
    storeVerifiedManifest_eq_ok anchored (admitted_of_decodes decodesCall) stored
  · rw [created] at old
    cases old
  have filedLast : Filed codec (runCalls codec calls).control (runCalls codec calls).manifests
      verified.inner root := by
    refine runCalls_kept (fun db => Filed codec db.control db.manifests verified.inner root) decodes took
      ?_ fun anchored files before => files.filed anchored before
    rw [call, stored]
    exact filed
  refine ⟨held, by rw [shown]; rfl, ?_⟩
  rw [shown]
  exact filedLast.fetch_eq

theorem createdOfRoot {verified : Verified ReplicaAck} {acks : AckTable} {result : StoreReplicaAckResult}
    (decodes : MessagesDecode codec calls)
    (took : Trace.Took calls before (.storeVerifiedAck verified sqlFailure))
    (stored : storeAck codec (runCalls codec before) verified sqlFailure = .ok (acks, result)) :
    CreatedOfRoot codec (runCalls codec before) (runCalls codec calls) verified result := by
  obtain ⟨decodesBefore, decodesCall⟩ := decodes.took took
  have anchored := runCalls_anchored decodesBefore
  obtain ⟨root, filed, signed, shown, _⟩ :=
    storeVerifiedAck_eq_ok anchored (admittedAck_of_decodes decodesCall) stored
  have filedLast : FiledAck codec (runCalls codec calls).control (runCalls codec calls).manifests
      (runCalls codec calls).acks verified.inner root := by
    refine runCalls_kept
      (fun db => FiledAck codec db.control db.manifests db.acks verified.inner root) decodes took ?_
      fun anchored files before => files.filedAck anchored before
    rw [call, stored]
    exact filed
  obtain ⟨manifest, same, anchor⟩ := filed.anchor
  refine ⟨signed, ⟨_, same ▸ anchor.fetch_eq, ?_⟩, by rw [shown]; rfl, ?_⟩
  · exact (validateAckInput_eq_ok filed.admitted.valid).2.1
  · rw [shown]
    exact filedLast.get_eq

end Created

/-- Messages may come again and in any order between any calls of the other stores, and calls may fail. -/
theorem checkpoint_evidence_stands (decodes : MessagesDecode codec calls) : EvidenceStands codec calls := by
  constructor
  case manifestCreated =>
    intro before verified sqlFailure manifests result took stored created
    exact createdInHold decodes took stored created
  case ackCreated =>
    intro before verified sqlFailure acks result took stored _
    exact createdOfRoot decodes took stored
  case firstWriteWins =>
    intro before made took
    obtain ⟨decodesBefore, decodesCall⟩ := decodes.took took
    rw [runCalls_snoc]
    exact (call_files (runCalls_anchored decodesBefore) decodesCall).firstWriteWins
  case legible => exact (runCalls_anchored decodes).legible
  case again => exact (runCalls_anchored decodes).answersAgain

section Gone

def sampleRoot : Digest := ⟨1, List.replicate 32 9⟩

def sampleManifest : CheckpointManifest where
  schemaVersion := 2
  checkpointId := "checkpoint"
  jobId := "job"
  attemptId := "attempt"
  step := 10
  epoch := 0
  files := []
  rootDigest := some sampleRoot
  totalBytes := 0
  completeness := none
  createdAtUnixMs := 250
  producerNodeId := "node"
  fenceEpoch := 1
  producerSignature := List.replicate 64 5

def sampleAck : ReplicaAck where
  schemaVersion := 2
  checkpointId := "checkpoint"
  rootDigest := some sampleRoot
  holderDeviceId := "holder"
  kind := 1
  failureDomain := "rack"
  fsynced := true
  hashVerified := true
  storedBytes := 0
  ackedAtUnixMs := 260
  holderSignature := List.replicate 64 6

def sampleRootBody : List UInt8 := [8, 1, 18, 32] ++ List.replicate 32 9

def sampleManifestBody : List UInt8 :=
  [8, 2, 18, 10, 99, 104, 101, 99, 107, 112, 111, 105, 110, 116, 26, 3, 106, 111, 98, 34, 7, 97, 116, 116,
    101, 109, 112, 116, 40, 10, 90, 36] ++ sampleRootBody ++
    [240, 1, 250, 1, 250, 1, 4, 110, 111, 100, 101, 128, 2, 1, 210, 5, 64] ++ List.replicate 64 5

def sampleAckBody : List UInt8 :=
  [8, 2, 18, 10, 99, 104, 101, 99, 107, 112, 111, 105, 110, 116, 26, 36] ++ sampleRootBody ++
    [82, 6, 104, 111, 108, 100, 101, 114, 88, 1, 98, 4, 114, 97, 99, 107, 160, 1, 1, 168, 1, 1, 240, 1,
      132, 2, 210, 5, 64] ++ List.replicate 64 6

/-- The encodings of the two messages and of their root, with their digests. -/
def sampleEvidenceCodec : EvidenceCodec where
  toCodec := { plainCodec with
    decodeCheckpointManifest := fun body =>
      if body = [] then some default else if body = sampleManifestBody then some sampleManifest else none
    decodeCheckpointManifest_nil := rfl
    blake3 := fun body =>
      if body = sampleManifestBody then
        #v[159, 218, 242, 79, 36, 120, 253, 229, 209, 248, 0, 225, 192, 66, 16, 86,
          17, 39, 181, 84, 242, 169, 252, 68, 245, 58, 163, 147, 165, 2, 199, 78]
      else if body = sampleAckBody then
        #v[99, 50, 227, 32, 122, 55, 78, 213, 121, 199, 122, 222, 163, 104, 251, 193,
          153, 37, 189, 119, 2, 71, 26, 207, 52, 81, 124, 188, 109, 136, 158, 102]
      else Vector.replicate 32 0 }
  encodeCheckpointManifest := fun manifest => if manifest = sampleManifest then sampleManifestBody else []
  encodeReplicaAck := fun ack => if ack = sampleAck then sampleAckBody else []
  decodeReplicaAck := fun body =>
    if body = [] then some default else if body = sampleAckBody then some sampleAck else none
  encodeDigest := fun digest => if digest = sampleRoot then sampleRootBody else []
  decodeDigest := fun body =>
    if body = [] then some default else if body = sampleRootBody then some sampleRoot else none
  decodeReplicaAck_nil := rfl
  decodeDigest_nil := rfl

/-- A manifest and its first acknowledgement come, then the node is lost, its job goes on without it and the
operator frees it. -/
def lostProducerCalls : List EvidenceCall :=
  [.coordinator (submitJob "job" 1), .coordinator (.planAndEnqueue "job" "plan" 20),
    .coordinator (.recordInventory "node" ⟨1, ["gpu-0"]⟩),
    .coordinator (.reserveAndStage (stageRequest "job" "attempt" "lease" "node" 1) 1 false),
    .storeVerifiedManifest ⟨sampleManifest, "node", .notApplicable⟩ none,
    .storeVerifiedAck ⟨sampleAck, "holder", .notApplicable⟩ none,
    .coordinator (.failoverLostAttempts plainPolicy 2000),
    .coordinator (.releaseLostNodeByOperator "node" "powered off" 3000)]

theorem evidence_outlives_its_node :
    EvidenceStands sampleEvidenceCodec lostProducerCalls ∧
      (runCalls sampleEvidenceCodec lostProducerCalls).control.nodeReservations["node"]? = none ∧
      ((getManifest sampleEvidenceCodec (runCalls sampleEvidenceCodec lostProducerCalls)
        "checkpoint").toOption.join.map (·.manifest)) = some sampleManifest := by
  refine ⟨checkpoint_evidence_stands ?_, by decide +kernel, by decide +kernel⟩
  intro made listed
  simp only [lostProducerCalls, List.mem_cons, List.not_mem_nil, or_false] at listed
  rcases listed with rfl | rfl | rfl | rfl | rfl | rfl | rfl | rfl
  case inr.inr.inr.inr.inl =>
    exact ⟨by decide +kernel, by decide +kernel⟩
  case inr.inr.inr.inr.inr.inl =>
    exact ⟨by decide +kernel, by decide +kernel⟩
  all_goals trivial

end Gone

end Gputeer.Coordinator.CheckpointManifestStore
