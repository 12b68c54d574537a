import Gputeer.Checkpoint.Publication

/-! The verification of shared checkpoints: one that was published is found as it was, and what is verified of
any other is what its manifest lists. -/

namespace Gputeer.Checkpoint

open Dialogue Text FileTree

variable {codec : CheckpointCodec} {habits : Habits} {tree : FileTree} {sharedRoot dir : DiskPath}
  {checkpointId : String} {about : ManifestMeta} {contents : List (String × List UInt8)}
  {manifest : Protocol.CheckpointManifest}

section Signing

def signedFile (codec : CheckpointCodec) (content : String × List UInt8) : Protocol.CheckpointFile :=
  ⟨storedName codec content.1 content.2, some ⟨1, (codec.blake3 content.2).toList⟩,
    UInt64.ofNat content.2.length, [], 0⟩

theorem filesToPb_staged : filesToPb (contents.map fun content => (stagedFile codec content).toManifestFile) =
    .ok (contents.map (signedFile codec)) := by
  induction contents with
  | nil => rfl
  | cons content contents ih =>
      have first : fileToPb (stagedFile codec content).toManifestFile = .ok (signedFile codec content) := by
        unfold fileToPb
        dsimp only [StagedFile.toManifestFile, stagedFile, CheckpointCodec.hash]
        rw [hex32_toHex (Vector.length_toList)]
        rfl
      rw [List.map_cons]
      unfold filesToPb
      rw [first, ih]
      rfl

/-- The manifest that is signed says what the one on the disk says. -/
structure Signed (codec : CheckpointCodec) (checkpointId : String) (about : ManifestMeta)
    (contents : List (String × List UInt8)) (manifest : Protocol.CheckpointManifest) : Prop where
  checkpointId : manifest.checkpointId = checkpointId
  jobId : manifest.jobId = about.jobId
  files : manifest.files = contents.map (signedFile codec)
  root : ∃ root, Protocol.merkleRoot codec.blake3 (contents.map Prod.snd) = some root ∧
    manifest.rootDigest = some ⟨1, root.toList⟩
  total : manifest.totalBytes = UInt64.ofNat (sizeOf contents)

theorem sum_sizes : (contents.map fun content => UInt64.ofNat content.2.length).sum =
    UInt64.ofNat (sizeOf contents) := by
  induction contents with
  | nil => rfl
  | cons content contents ih =>
      rw [List.map_cons, List.sum_cons, ih]
      exact (UInt64.ofNat_add _ _).symm

theorem toUnsignedPb_manifestOf (filled : contents ≠ []) :
    ∃ manifest, toUnsignedPb (manifestOf codec dir checkpointId about contents) = .ok manifest ∧
      Signed codec checkpointId about contents manifest := by
  have chunks : contents.map Prod.snd ≠ [] := by simpa using filled
  obtain ⟨root, merkle⟩ := Option.isSome_iff_exists.mp (@Protocol.merkleRoot_isSome codec.blake3 _ chunks)
  have files : (manifestOf codec dir checkpointId about contents).files =
      contents.map fun content => (stagedFile codec content).toManifestFile := by
    simp [manifestOf, StagedCheckpoint.buildManifest, stagedWith, Function.comp_def]
  have digest : (manifestOf codec dir checkpointId about contents).rootDigest = toHex root.toList := by
    simp [manifestOf, StagedCheckpoint.buildManifest, rootDigestOf, merkle]
  have total : (manifestOf codec dir checkpointId about contents).totalBytes =
      UInt64.ofNat (sizeOf contents) := by
    rw [← sum_sizes]
    simp [manifestOf, StagedCheckpoint.buildManifest, stagedWith, Function.comp_def, stagedFile]
  unfold toUnsignedPb
  rw [files, filesToPb_staged, digest, hex32_toHex Vector.length_toList]
  exact ⟨_, rfl, rfl, rfl, rfl, ⟨root, merkle, rfl⟩, total⟩

end Signing

section Verifying

theorem totalOf_sizes (small : sizeOf contents < 2 ^ 64) :
    totalOf (contents.map fun content => UInt64.ofNat content.2.length) = UInt64.ofNat (sizeOf contents) := by
  suffices from_ : ∀ start : UInt64, start.toNat + sizeOf contents < 2 ^ 64 →
      (contents.map fun content => UInt64.ofNat content.2.length).foldl UInt64.saturatingAdd start =
        start + UInt64.ofNat (sizeOf contents) by
    have := from_ 0 (by simpa using small)
    simpa [totalOf] using this
  induction contents with
  | nil =>
      intro start _
      change start = start + 0
      rw [UInt64.add_zero]
  | cons content contents ih =>
      intro start fits
      have fits : start.toNat + (content.2.length + sizeOf contents) < 2 ^ 64 := fits
      have length : (UInt64.ofNat content.2.length).toNat = content.2.length :=
        UInt64.toNat_ofNat_of_lt' (by change content.2.length < 2 ^ 64; omega)
      have sum : start.saturatingAdd (UInt64.ofNat content.2.length) = start + UInt64.ofNat content.2.length := by
        unfold UInt64.saturatingAdd
        rw [length, if_pos (by omega)]
      have together : (start + UInt64.ofNat content.2.length).toNat = start.toNat + content.2.length := by
        rw [UInt64.toNat_add, length, Nat.mod_eq_of_lt (by omega)]
      have whole : UInt64.ofNat (sizeOf (content :: contents)) =
          UInt64.ofNat content.2.length + UInt64.ofNat (sizeOf contents) := UInt64.ofNat_add _ _
      rw [List.map_cons, List.foldl_cons, sum, ih (by omega) _
        (by rw [together]; omega), whole, UInt64.add_assoc]

theorem verifySharedFile_reads (file : Protocol.CheckpointFile) :
    (verifySharedFile codec dir file).Asks FileQuestion.Reads := by
  unfold verifySharedFile
  dsimp only
  split
  · exact asks_pure _
  · exact Asks.andThen (Asks.map (readBeneathCapped_reads _)) fun _ => asks_pure _

theorem verifySharedFiles_reads (files : List Protocol.CheckpointFile) :
    (verifySharedFiles codec dir files).Asks FileQuestion.Reads := by
  induction files with
  | nil => exact asks_pure _
  | cons file files ih => exact Asks.andThen (verifySharedFile_reads file) fun _ => Asks.map ih

theorem verifyOnDisk_reads : (verifyOnDisk codec sharedRoot manifest).Asks FileQuestion.Reads := by
  unfold verifyOnDisk verifyOnDiskCapped
  split
  · exact asks_pure _
  · refine Asks.andThen (jobRoot_reads _) fun root => ?_
    dsimp only
    refine Asks.andThen (ensureNotLink_reads _) fun _ => ?_
    split
    · exact asks_pure _
    · split
      · exact asks_pure _
      · exact Asks.andThen (verifySharedFiles_reads _) fun _ => asks_pure _

theorem checkContent_eq_ok {file : Protocol.CheckpointFile} {data : List UInt8} :
    checkContent codec file data = .ok () ↔ UInt64.ofNat data.length = file.sizeBytes ∧
      ∃ digest, blake3Digest file.digest = some digest ∧ (codec.blake3 data).toList = digest.value ∧
        (rsplitOnce contentAddressMarker.toList file.path.toList).map Prod.snd =
          some (toHex digest.value).toList := by
  unfold checkContent
  dsimp only
  split
  · next differs => exact ⟨fun no => (by cases no), fun ⟨same, _⟩ => absurd same differs⟩
  · next same =>
    have same := not_not.mp same
    split
    · next none_ => exact ⟨fun no => (by cases no), fun ⟨_, digest, some_, _⟩ => by rw [none_] at some_; cases some_⟩
    · next digest found =>
      constructor
      · intro accepted
        split at accepted
        · cases accepted
        · next hashed =>
          split at accepted
          · cases accepted
          · next named => exact ⟨same, digest, found, not_not.mp hashed, not_not.mp named⟩
      · rintro ⟨_, other, some_, hashed, named⟩
        rw [found] at some_
        cases some_
        rw [if_neg (not_not.mpr hashed), if_neg (not_not.mpr named)]

/-- A content is found under its stored name. -/
theorem look_verifySharedFile {content : String × List UInt8} (logical : LogicalName content.1)
    (small : content.2.length < 2 ^ 64)
    (stored : tree.kindAt (dir ++ [storedName codec content.1 content.2]) = some (.file content.2)) :
    look habits tree (verifySharedFile codec dir (signedFile codec content)) = .ok content := by
  have read : look habits tree (readBeneath dir (storedName codec content.1 content.2)) = .ok content.2 :=
    look_readBeneath.mpr ⟨_, openBeneath_plain (plain_stored logical), stored⟩
  have length : (UInt64.ofNat content.2.length).toNat = content.2.length := UInt64.toNat_ofNat_of_lt' small
  have capped : look habits tree (readBeneathCapped dir (storedName codec content.1 content.2)
      (UInt64.ofNat content.2.length)) = .ok content.2 := by
    unfold readBeneathCapped
    rw [look_andThen readBeneath_reads, read]
    simp [readCapped, length]
  have agrees : checkContent codec (signedFile codec content) content.2 = .ok () := by
    refine checkContent_eq_ok.mpr ⟨rfl, ⟨1, (codec.blake3 content.2).toList⟩, rfl, rfl, ?_⟩
    change (rsplitOnce contentAddressMarker.toList (storedName codec content.1 content.2).toList).map Prod.snd = _
    rw [rsplitOnce_stored]
    rfl
  unfold verifySharedFile
  dsimp only [signedFile]
  rw [logicalNameOf_stored logical.plain.filled]
  dsimp only
  rw [look_andThen (Asks.map (readBeneathCapped_reads _)), look_map, capped]
  dsimp only [Except.mapError]
  exact congrArg (Except.map fun _ => (content.1, content.2)) agrees

theorem look_verifySharedFiles (logical : ∀ content ∈ contents, LogicalName content.1)
    (small : ∀ content ∈ contents, content.2.length < 2 ^ 64)
    (stored : ∀ content ∈ contents,
      tree.kindAt (dir ++ [storedName codec content.1 content.2]) = some (.file content.2)) :
    look habits tree (verifySharedFiles codec dir (contents.map (signedFile codec))) = .ok contents := by
  induction contents with
  | nil => rfl
  | cons content contents ih =>
      rw [List.forall_mem_cons] at logical small stored
      rw [List.map_cons]
      unfold verifySharedFiles
      rw [look_andThen (verifySharedFile_reads _), look_verifySharedFile logical.1 small.1 stored.1]
      dsimp only
      rw [look_map, ih logical.2 small.2 stored.2]
      rfl

/-- The checkpoint that was published is found as it was. -/
theorem look_verifyOnDisk (filled : contents ≠ []) (signed : Signed codec checkpointId about contents manifest)
    (safeId : safeComponent checkpointId "checkpoint_id" = .ok ())
    (safeJob : safeComponent about.jobId "job_id" = .ok ())
    (logical : ∀ content ∈ contents, LogicalName content.1)
    (fits : sizeOf contents ≤ maxInMemoryCheckpointBytes.toNat)
    (stored : ∀ content ∈ contents, tree.kindAt (sharedRoot ++ [about.jobId] ++ [checkpointId] ++
      [storedName codec content.1 content.2]) = some (.file content.2)) :
    look habits tree (verifyOnDisk codec sharedRoot manifest) = .ok contents := by
  have cap : maxInMemoryCheckpointBytes.toNat < 2 ^ 64 := by decide
  have length : (UInt64.ofNat (sizeOf contents)).toNat = sizeOf contents :=
    UInt64.toNat_ofNat_of_lt' (by change sizeOf contents < 2 ^ 64; omega)
  have small : ∀ content ∈ contents, content.2.length < 2 ^ 64 := by
    intro content listed
    have part : content.2.length ≤ sizeOf contents := List.le_sum_of_mem (List.mem_map.mpr ⟨content, listed, rfl⟩)
    omega
  have total : totalOf (contents.map fun content => UInt64.ofNat content.2.length) =
      UInt64.ofNat (sizeOf contents) := totalOf_sizes (by omega)
  have listedTotal : totalOf (manifest.files.map Protocol.CheckpointFile.sizeBytes) =
      UInt64.ofNat (sizeOf contents) := by
    rw [signed.files, List.map_map, ← total]
    rfl
  obtain ⟨root, merkle, digest⟩ := signed.root
  have whole : checkWhole codec manifest contents = .ok () := by
    have known : blake3Digest (some ⟨1, root.toList⟩) = some ⟨1, root.toList⟩ := rfl
    unfold checkWhole
    dsimp only
    rw [total, signed.total, merkle, digest, known, if_neg (not_not.mpr rfl)]
    exact if_neg (not_not.mpr rfl)
  have someFiles : manifest.files ≠ [] := by
    rw [signed.files]
    simpa using filled
  have within : ¬ maxInMemoryCheckpointBytes < max manifest.totalBytes (UInt64.ofNat (sizeOf contents)) := by
    have same (x : UInt64) : max x x = x := ite_self x
    rw [signed.total, same, UInt64.lt_iff_toNat_lt, length]
    omega
  unfold verifyOnDisk verifyOnDiskCapped
  rw [signed.checkpointId, signed.jobId, safeId]
  dsimp only
  rw [look_andThen (jobRoot_reads _), look_jobRoot safeJob]
  dsimp only
  rw [look_andThen (ensureNotLink_reads _), look_ensureNotLink]
  dsimp only
  rw [if_neg someFiles, listedTotal, if_neg within, signed.files, look_andThen (verifySharedFiles_reads _),
    look_verifySharedFiles logical small stored]
  dsimp only
  rw [look_pure, whole]
  rfl

end Verifying

section Foreign

/-- What was verified of a listed file. -/
structure Matches (codec : CheckpointCodec) (file : Protocol.CheckpointFile) (content : String × List UInt8) :
    Prop where
  logical : logicalNameOf file.path = some content.1
  size : content.2.length = file.sizeBytes.toNat
  digest : file.digest = some ⟨1, (codec.blake3 content.2).toList⟩

theorem look_readBeneathCapped_le {relative : String} {maxBytes : UInt64} {data : List UInt8}
    (read : look habits tree (readBeneathCapped dir relative maxBytes) = .ok data) :
    data.length ≤ maxBytes.toNat := by
  unfold readBeneathCapped at read
  rw [look_andThen readBeneath_reads] at read
  cases found : look habits tree (readBeneath dir relative) with
  | error failure =>
      rw [found] at read
      cases read
  | ok whole =>
      rw [found] at read
      simp only [look_pure, readCapped] at read
      split at read
      · cases read
      · next fits =>
        cases read
        omega

theorem verifySharedFile_matches {file : Protocol.CheckpointFile} {content : String × List UInt8}
    (verified : look habits tree (verifySharedFile codec dir file) = .ok content) : Matches codec file content := by
  unfold verifySharedFile at verified
  dsimp only at verified
  split at verified
  · cases verified
  · next logical named =>
    rw [look_andThen (Asks.map (readBeneathCapped_reads _)), look_map] at verified
    cases read : look habits tree (readBeneathCapped dir file.path file.sizeBytes) with
    | error failure =>
        rw [read] at verified
        cases verified
    | ok data =>
        rw [read] at verified
        simp only [Except.mapError, look_pure] at verified
        cases checked : checkContent codec file data with
        | error error =>
            rw [checked] at verified
            cases verified
        | ok done =>
            rw [checked] at verified
            cases verified
            obtain ⟨size, digest, known, hashed, _⟩ := checkContent_eq_ok.mp checked
            have short := look_readBeneathCapped_le read
            have bound := file.sizeBytes.toNat_lt
            have listed : file.digest = some digest ∧ digest.algo = 1 := by
              simpa [blake3Digest, Option.filter_eq_some_iff] using known
            refine ⟨named, ?_, ?_⟩
            · have whole := congrArg UInt64.toNat size
              rwa [UInt64.toNat_ofNat_of_lt' (by change data.length < 2 ^ 64; omega)] at whole
            · rw [listed.1, hashed, ← listed.2]

theorem verifySharedFiles_match {files : List Protocol.CheckpointFile}
    (verified : look habits tree (verifySharedFiles codec dir files) = .ok contents) :
    List.Forall₂ (Matches codec) files contents := by
  induction files generalizing contents with
  | nil =>
      cases verified
      exact .nil
  | cons file files ih =>
      unfold verifySharedFiles at verified
      rw [look_andThen (verifySharedFile_reads file)] at verified
      cases first : look habits tree (verifySharedFile codec dir file) with
      | error error =>
          rw [first] at verified
          cases verified
      | ok content =>
          rw [first] at verified
          simp only [look_map] at verified
          cases rest : look habits tree (verifySharedFiles codec dir files) with
          | error error =>
              rw [rest] at verified
              cases verified
          | ok others =>
              rw [rest] at verified
              cases verified
              exact .cons (verifySharedFile_matches first) (ih rest)

theorem verifyOnDisk_match (verified : look habits tree (verifyOnDisk codec sharedRoot manifest) = .ok contents) :
    List.Forall₂ (Matches codec) manifest.files contents := by
  unfold verifyOnDisk verifyOnDiskCapped at verified
  split at verified
  · cases verified
  · rw [look_andThen (jobRoot_reads _)] at verified
    split at verified
    · dsimp only at verified
      rw [look_andThen (ensureNotLink_reads _), look_ensureNotLink] at verified
      dsimp only at verified
      split at verified
      · cases verified
      · split at verified
        · cases verified
        · rw [look_andThen (verifySharedFiles_reads _)] at verified
          split at verified
          · next found =>
            rw [look_pure] at verified
            cases whole : checkWhole codec manifest _ with
            | error error =>
                rw [whole] at verified
                cases verified
            | ok done =>
                rw [whole] at verified
                cases verified
                exact verifySharedFiles_match found
          · cases verified
    · cases verified

end Foreign

end Gputeer.Checkpoint
