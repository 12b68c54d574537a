import Gputeer.Coordinator.EvidenceAnchors

/-! What the two inboxes write: the first message under a key, and only that. -/

namespace Gputeer.Coordinator.CheckpointManifestStore

open Protocol Text ReplicaAckStore

variable {codec : EvidenceCodec} {control next : ControlDb} {manifests : ManifestTable} {acks : AckTable}
  {manifest : CheckpointManifest} {root : Digest} {ack : ReplicaAck} {signerId checkpointId : String}

/-- The attempt is there and has the node that the manifest comes from. -/
structure HeldByProducer (control : ControlDb) (manifest : CheckpointManifest) (signerId : String) :
    Prop where
  produced : Produced control manifest
  reserved : ∃ reservation, control.nodeReservations[manifest.producerNodeId]? = some reservation ∧
    reservation.nodeId = manifest.producerNodeId ∧ reservation.attemptId = manifest.attemptId ∧
    reservation.jobId = manifest.jobId
  signed : signerId = manifest.producerNodeId

section Bind

theorem fetchAttempt_single {attemptId : String} {attempt : StoredAttempt}
    (read : fetchAttempt control attemptId = .ok (some attempt)) :
    control.attempts[attemptId]? = some attempt ∧ attempt.nodeIds = [attempt.nodeIds.headD ""] := by
  unfold fetchAttempt at read
  cases row : control.attempts[attemptId]? with
  | none => simp [row, Except.onSome] at read
  | some stored =>
      simp only [row, Except.onSome, Except.map_eq_ok, Except.ite_error_eq_ok, Except.ok.injEq,
        Option.some.injEq] at read
      obtain ⟨_, ⟨shape, rfl⟩, rfl⟩ := read
      refine ⟨rfl, ?_⟩
      obtain ⟨nodeId, nodes⟩ := List.length_eq_one_iff.mp (not_not.mp (not_or.mp shape).1)
      rw [nodes]
      rfl

theorem bindManifest_eq_ok (bound : bindManifest control manifest signerId = .ok ()) :
    HeldByProducer control manifest signerId := by
  simp only [bindManifest, bindAttemptIdentityAndFence, bindReservationIdentity, bindProducerAndSigner,
    Except.bind_eq_ok, Except.mapError_eq_ok, Except.ofOption_eq_ok, Except.ensure_eq_ok] at bound
  obtain ⟨_, read, attempt, rfl, _, ⟨_, job, _, _, epoch⟩, _, reserved, reservation, rfl, _,
    ⟨_, ofJob, ofAttempt⟩, producer, atNode, signed, _⟩ := bound
  obtain ⟨found, single⟩ := fetchAttempt_single read
  have nodes : attempt.nodeIds = [manifest.producerNodeId] := by rw [single, ← producer]
  refine ⟨⟨attempt, found, job.symm, nodes, epoch.symm⟩, ⟨reservation, ?_, atNode.symm, ofAttempt.symm,
    ofJob.symm⟩, signed⟩
  rw [producer]
  exact fetchNodeReservation_eq_ok reserved

end Bind

section Kept

/-- The other stores leave of an attempt what a manifest says about it. -/
theorem Produced.kept {allowed : Allowance} (produced : Produced control manifest)
    (intact : control.Intact) (refines : ControlDb.Refines allowed control next) :
    Produced next manifest := by
  obtain ⟨attempt, found, job, nodes, epoch⟩ := produced
  obtain ⟨moved, now, same⟩ := refines.steps.attempt_kept intact.sound
    (show control.ledger.attempt manifest.attemptId = some attempt from found)
  exact ⟨moved, now, (StoredAttempt.jobId_of_assignment same).trans job,
    (StoredAttempt.nodeIds_of_assignment same).trans nodes,
    (StoredAttempt.fenceEpoch_of_assignment same).trans epoch⟩

theorem Filed.kept {allowed : Allowance} (filed : Filed codec control manifests manifest root)
    (intact : control.Intact) (refines : ControlDb.Refines allowed control next) :
    Filed codec next manifests manifest root :=
  ⟨filed.row, filed.admitted, filed.produced.kept intact refines⟩

theorem FiledAck.kept {allowed : Allowance} (filed : FiledAck codec control manifests acks ack root)
    (intact : control.Intact) (refines : ControlDb.Refines allowed control next) :
    FiledAck codec next manifests acks ack root := by
  obtain ⟨manifest, same, anchor⟩ := filed.anchor
  exact ⟨filed.row, filed.admitted, manifest, same, anchor.kept intact refines⟩

/-- A row beside the others. -/
theorem Filed.put {row : CheckpointManifestRow} (filed : Filed codec control manifests manifest root)
    (absent : manifests[checkpointId]? = none) :
    Filed codec control (manifests.insert checkpointId row) manifest root := by
  refine ⟨?_, filed.admitted, filed.produced⟩
  have other : checkpointId ≠ manifest.checkpointId := by
    rintro rfl
    rw [filed.row] at absent
    cases absent
  rw [Table.lookup_insert_ne other]
  exact filed.row

theorem FiledAck.putManifest {row : CheckpointManifestRow}
    (filed : FiledAck codec control manifests acks ack root) (absent : manifests[checkpointId]? = none) :
    FiledAck codec control (manifests.insert checkpointId row) acks ack root := by
  obtain ⟨manifest, same, anchor⟩ := filed.anchor
  exact ⟨filed.row, filed.admitted, manifest, same, anchor.put absent⟩

theorem FiledAck.putAck {key : AckKey} {row : ReplicaAckRow}
    (filed : FiledAck codec control manifests acks ack root) (absent : acks[key]? = none) :
    FiledAck codec control manifests (acks.insert key row) ack root := by
  refine ⟨?_, filed.admitted, filed.anchor⟩
  have other : key ≠ keyOf ack := by
    rintro rfl
    rw [filed.row] at absent
    cases absent
  rw [Table.lookup_insert_ne other]
  exact filed.row

end Kept

section Store

variable {verified : Verified CheckpointManifest} {sqlFailure : Option SqlFailure}
  {after : ManifestTable} {result : StoreCheckpointManifestResult}

/-- What an accepted manifest leaves: the row that was there, or its own, which is new. -/
theorem storeVerifiedManifest_eq_ok (anchored : Anchored codec control manifests acks)
    (decodes : ∀ root, validateManifestInput verified.inner = .ok root →
      Admitted codec verified.inner root)
    (stored : storeVerifiedManifest codec control manifests verified sqlFailure = .ok (after, result)) :
    ∃ root, Filed codec control after verified.inner root ∧
      result.binding = bindingOf codec verified.inner verified.inner.producerNodeId root ∧
      ((after = manifests ∧ result.created = false) ∨
        (manifests[verified.inner.checkpointId]? = none ∧ result.created = true ∧
          after = manifests.insert verified.inner.checkpointId
            (manifestRow codec verified.inner verified.inner.producerNodeId root) ∧
          HeldByProducer control verified.inner verified.signerId)) := by
  simp only [storeVerifiedManifest, Except.bind_eq_ok] at stored
  obtain ⟨root, valid, stored⟩ := stored
  cases sqlFailure with
  | some failure => cases stored
  | none =>
      simp only [storeWithin, Except.bind_eq_ok] at stored
      obtain ⟨binding, fetched, stored⟩ := stored
      rcases anchored.fetch_cases verified.inner.checkpointId with
        ⟨absent, missing⟩ | ⟨first, firstRoot, same, filed⟩
      · rw [missing, Except.ok.injEq] at fetched
        subst fetched
        simp only [Except.bind_eq_ok, Except.ok.injEq, Prod.mk.injEq] at stored
        obtain ⟨_, bound, rfl, rfl⟩ := stored
        have held := bindManifest_eq_ok bound
        rw [held.signed]
        refine ⟨root, ⟨?_, decodes root valid, held.produced⟩, rfl, Or.inr ⟨absent, rfl, rfl, ?_⟩⟩
        · rw [Table.lookup_insert, if_pos rfl]
        · exact held.signed ▸ held
      · have read := filed.fetch_eq
        rw [same, fetched, Except.ok.injEq] at read
        subst read
        simp only [Except.bind_eq_ok, Except.ensure_eq_ok, Except.ok.injEq, Prod.mk.injEq] at stored
        obtain ⟨_, ⟨sameManifest, _⟩, rfl, rfl⟩ := stored
        obtain rfl : first = verified.inner := sameManifest
        exact ⟨firstRoot, filed, rfl, Or.inl ⟨rfl, rfl⟩⟩

/-- Where a manifest is filed, the same message is answered with it and any other is refused. -/
theorem storeVerifiedManifest_again (filed : Filed codec control manifests manifest root)
    (same : manifest.checkpointId = verified.inner.checkpointId) :
    storeVerifiedManifest codec control manifests verified none =
      if verified.inner = manifest ∧ verified.signerId = manifest.producerNodeId then
        .ok (manifests, ⟨bindingOf codec manifest manifest.producerNodeId root, false⟩)
      else (validateManifestInput verified.inner).bind
        fun _ => .error (.manifestConflict verified.inner.checkpointId) := by
  have fetched := filed.fetch_eq
  rw [same] at fetched
  have within : ∀ found, storeWithin codec control verified.inner verified.signerId manifests found =
      if verified.inner = manifest ∧ verified.signerId = manifest.producerNodeId then
        .ok (manifests, ⟨bindingOf codec manifest manifest.producerNodeId root, false⟩)
      else .error (.manifestConflict verified.inner.checkpointId) := by
    intro found
    simp only [storeWithin, fetched, bind, Except.bind, Except.ensure]
    by_cases again : verified.inner = manifest ∧ verified.signerId = manifest.producerNodeId
    · rw [if_pos ⟨again.1.symm, again.2.symm⟩, if_pos again]
    · rw [if_neg fun equal => again ⟨equal.1.symm, equal.2.symm⟩, if_neg again]
  simp only [storeVerifiedManifest, bind, within]
  split
  · next again =>
    rw [again.1, filed.admitted.valid]
    rfl
  · rfl

end Store

section StoreAck

variable {verified : Verified ReplicaAck} {sqlFailure : Option SqlFailure} {after : AckTable}
  {result : StoreReplicaAckResult}

/-- What an accepted acknowledgement leaves: the row that was there, or its own, which is new. -/
theorem storeVerifiedAck_eq_ok (anchored : Anchored codec control manifests acks)
    (decodes : ∀ root, validateAckInput verified.inner = .ok root → AdmittedAck codec verified.inner root)
    (stored : storeVerifiedAck codec control manifests acks verified sqlFailure = .ok (after, result)) :
    ∃ root, FiledAck codec control manifests after verified.inner root ∧
      verified.signerId = verified.inner.holderDeviceId ∧
      result.binding = ackBindingOf codec verified.inner verified.inner.holderDeviceId root ∧
      ((after = acks ∧ result.created = false) ∨
        (acks[keyOf verified.inner]? = none ∧ result.created = true ∧
          after = acks.insert (keyOf verified.inner)
            (ackRow codec verified.inner verified.inner.holderDeviceId root))) := by
  cases sqlFailure with
  | some failure => cases stored
  | none =>
      simp only [storeVerifiedAck, storeAckWithin, Except.bind_eq_ok, Except.ensure_eq_ok,
        Except.mapError_eq_ok, Except.ofOption_eq_ok] at stored
      obtain ⟨root, valid, _, signed, _, fetched, anchor, rfl, _, rooted, stored⟩ := stored
      rw [signed] at stored
      rcases anchored.fetch_cases verified.inner.checkpointId with
        ⟨_, missing⟩ | ⟨manifest, manifestRoot, same, filed⟩
      · rw [missing] at fetched
        cases fetched
      have read := filed.fetch_eq
      rw [same, fetched, Except.ok.injEq, Option.some.injEq] at read
      subst read
      obtain rfl : root = manifestRoot := rooted
      cases found : acks[keyOf verified.inner]? with
      | none =>
          simp only [found, Except.ok.injEq, Prod.mk.injEq] at stored
          obtain ⟨rfl, rfl⟩ := stored
          refine ⟨root, ⟨?_, decodes root valid, manifest, same, filed⟩, signed, rfl,
            Or.inr ⟨rfl, rfl, rfl⟩⟩
          rw [Table.lookup_insert, if_pos rfl]
      | some row =>
          obtain ⟨first, firstRoot, sameKey, filedAck⟩ := anchored.filedAck _ row found
          have ofCheckpoint : manifest.checkpointId = first.checkpointId :=
            same.trans (congrArg AckKey.checkpointId sameKey).symm
          obtain rfl := filedAck.root_eq filed ofCheckpoint
          obtain rfl := Option.some.inj (found.symm.trans (sameKey ▸ filedAck.row))
          have checked := filedAck.validate_eq ofCheckpoint
          rw [sameKey] at checked
          simp only [found, checked, Except.bind_eq_ok, Except.ensure_eq_ok, Except.ok.injEq,
            Prod.mk.injEq] at stored
          obtain ⟨_, rfl, _, ⟨sameAck, _⟩, rfl, rfl⟩ := stored
          obtain rfl : first = verified.inner := sameAck
          exact ⟨_, filedAck, signed, rfl, Or.inl ⟨rfl, rfl⟩⟩

/-- Where an acknowledgement is filed, the same message is answered with it and any other under its key is
refused. -/
theorem storeVerifiedAck_again (filed : FiledAck codec control manifests acks ack root)
    (same : keyOf ack = keyOf verified.inner) :
    storeVerifiedAck codec control manifests acks verified none =
      if verified.inner = ack ∧ verified.signerId = ack.holderDeviceId then
        .ok (acks, ⟨ackBindingOf codec ack ack.holderDeviceId root, false⟩)
      else (do
        let rootDigest ← validateAckInput verified.inner
        Except.ensure (verified.signerId = verified.inner.holderDeviceId)
          (.bindingMismatch .holderAndSigner)
        Except.ensure (rootDigest = root) (.bindingMismatch .rootDigest)
        .error (.ackConflict verified.inner.checkpointId verified.inner.holderDeviceId
          verified.inner.ackedAtUnixMs)) := by
  obtain ⟨manifest, ofAck, anchor⟩ := filed.anchor
  have sameCheckpoint : manifest.checkpointId = verified.inner.checkpointId :=
    ofAck.trans (congrArg AckKey.checkpointId same)
  have fetched := anchor.fetch_eq
  rw [sameCheckpoint] at fetched
  have checked := filed.validate_eq ofAck
  have row := filed.row
  rw [same] at checked row
  have stored : storeVerifiedAck codec control manifests acks verified none = (do
      let rootDigest ← validateAckInput verified.inner
      Except.ensure (verified.signerId = verified.inner.holderDeviceId)
        (.bindingMismatch .holderAndSigner)
      Except.ensure (rootDigest = root) (.bindingMismatch .rootDigest)
      Except.ensure (ack = verified.inner ∧ ack.holderDeviceId = verified.signerId)
        (.ackConflict verified.inner.checkpointId verified.inner.holderDeviceId
          verified.inner.ackedAtUnixMs)
      .ok (acks, ⟨ackBindingOf codec ack ack.holderDeviceId root, false⟩)) := by
    change storeAckWithin codec control manifests verified.inner verified.signerId acks = _
    simp only [storeAckWithin, fetched, row, Except.mapError, Except.ofOption, bind, Except.bind, checked]
    rfl
  rw [stored]
  split
  · next again =>
    obtain ⟨sameAck, signed⟩ := again
    simp only [sameAck, signed, filed.admitted.valid, Except.bind_eq_ok, Except.ensure_eq_ok]
    exact ⟨root, rfl, (), trivial, (), rfl, (), ⟨trivial, trivial⟩, trivial⟩
  · next again =>
    have conflict : ¬ (ack = verified.inner ∧ ack.holderDeviceId = verified.signerId) :=
      fun equal => again ⟨equal.1.symm, equal.2.symm⟩
    simp only [Except.ensure, if_neg conflict]
    rfl

end StoreAck

end Gputeer.Coordinator.CheckpointManifestStore
