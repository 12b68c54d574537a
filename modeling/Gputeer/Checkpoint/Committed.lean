import Gputeer.Checkpoint.ConfirmedResume
import Gputeer.Checkpoint.Verification

/-! What a checkpoint is that was committed on a disk that may fail: wherever the commit is stopped, there is no
manifest yet or all the files that it lists are there. -/

namespace Gputeer.Checkpoint

open Dialogue Text FileTree

variable {codec : CheckpointCodec} {tree later : FileTree} {dir sourceDir root : DiskPath}
  {name other logical checkpointId : String} {data content : List UInt8} {checkpoint : StagedCheckpoint}
  {about : ManifestMeta} {contents : List (String × List UInt8)}

section Reserved

/-- No file is staged under the name, whatever is put after it. -/
def Reserved (name : String) : Prop := ∀ suffix, validateLogicalName (name ++ suffix) ≠ .ok ()

theorem reserved_hidden (hidden : name.toList.head? = some '.') : Reserved name := by
  intro suffix accepted
  refine (validateLogicalName_ok accepted).visible ?_
  have filled : name.toList ≠ [] := by
    intro none_
    rw [none_] at hidden
    cases hidden
  rw [String.toList_append, List.head?_append_of_ne_nil _ filled, hidden]

theorem reserved_stored : Reserved (storedName codec logical content) := by
  intro suffix accepted
  have marked : occurs contentAddressMarker (storedName codec logical content ++ suffix) = true := by
    refine decide_eq_true ⟨logical.toList, (codec.hash content).toList ++ suffix.toList, ?_⟩
    rw [String.toList_append, stored_toList]
    simp
  unfold validateLogicalName at accepted
  rw [if_pos marked] at accepted
  split at accepted
  · cases accepted
  · cases accepted

theorem wrote_joined (once : OnceName name) (wrote : WroteOnce tree dir name data later) :
    Wrote tree (dir ++ [name]) (dir ++ [name ++ ".tmp"]) (dir ++ [name ++ ".write_once.lock"]) data later := by
  have places := wrote
  unfold WroteOnce joinName at places
  rwa [once.final, once.tmp, once.lock] at places

/-- What may be staged is not touched by what is written of the checkpoint. -/
theorem wrote_source (once : OnceName name) (reserved : Reserved name) (accepted : validateLogicalName other = .ok ())
    (wrote : WroteOnce tree dir name data later) :
    later.kindAt (sourceDir ++ [other]) = tree.kindAt (sourceDir ++ [other]) := by
  have apart (suffix : String) : sourceDir ++ [other] ≠ dir ++ [name ++ suffix] := by
    intro same
    have parts := (List.append_inj' same rfl).2
    rw [List.cons.injEq] at parts
    exact reserved suffix (parts.1 ▸ accepted)
  have final : sourceDir ++ [other] ≠ dir ++ [name] := by simpa using apart ""
  exact (wrote_joined once wrote).elsewhere _ (apart _) (fun same => absurd same (apart _)) final

/-- A stored file stays while others are written. -/
theorem wrote_stored (once : OnceName name) (wrote : WroteOnce tree dir name data later)
    (there : tree.kindAt (dir ++ [storedName codec logical content]) = some (.file content)) :
    later.kindAt (dir ++ [storedName codec logical content]) = some (.file content) := by
  have apart {suffix : String} (ends : storedName codec logical content ≠ name ++ suffix) :
      dir ++ [storedName codec logical content] ≠ dir ++ [name ++ suffix] := by
    simpa using ends
  have notTmp : storedName codec logical content ≠ name ++ ".tmp" :=
    (@ne_stored_of_last codec _ _ _ 'p' (name.toList ++ ['.', 't', 'm']) (by simp) (by decide)).symm
  have notLock : storedName codec logical content ≠ name ++ ".write_once.lock" :=
    (@ne_stored_of_last codec _ _ _ 'k' (name.toList ++ ".write_once.loc".toList) (by simp) (by decide)).symm
  exact (wrote_joined once wrote).keeps there (apart notLock) fun same => absurd same (apart notTmp)

end Reserved

section Stopped

variable {final tmp lock path : DiskPath} {May : DiskPath → Prop}

theorem kindAt_touches {α : Type} {dialogue : FileDialogue α} (asks : dialogue.Asks (Touches May))
    (notMay : ¬ May path) (reached : tree.Reaches dialogue later) : later.kindAt path = tree.kindAt path :=
  kindAt_reaches (Asks.mono asks fun _ touches changes => notMay (touches.1 path changes)) reached

/-- The new file is not there yet, or whole. -/
theorem reaches_renameTemporary (there : tree.kindAt tmp = some (.file data)) (absent : tree.kindAt final = none)
    (reached : tree.Reaches (renameTemporary tmp final) later) :
    later.kindAt final = none ∨ later.kindAt final = some (.file data) := by
  have apart : final ≠ tmp := by
    rintro rfl
    rw [there] at absent
    cases absent
  have moved {answered : Except DiskFailure Unit} (said : tree.Honest ⟨.rename tmp final, answered⟩) :
      (tree.effect ⟨.rename tmp final, answered⟩).kindAt final = none ∨
        (tree.effect ⟨.rename tmp final, answered⟩).kindAt final = some (.file data) := by
    cases answered with
    | ok done =>
        refine Or.inr ((kindAt_moved there (Honest.rename said).2).trans ?_)
        rw [if_pos rfl]
    | error failure => exact Or.inl absent
  rcases Reaches.of_bind reached with asking | ⟨between, outcome, asking, rest⟩
  · rcases Reaches.of_question asking with rfl | ⟨answered, said, rfl⟩
    · exact Or.inl absent
    · exact moved said
  · obtain ⟨said, rfl⟩ := Finishes.of_question asking
    cases outcome with
    | ok done =>
        cases rest with
        | stop => exact moved said
    | error failure =>
        have cleans : (removeAnyway tmp).Asks (Touches (· ≠ final)) := removeAnyway_touches apart.symm
        rw [kindAt_touches (Asks.bind cleans fun _ => asks_pure _) (not_not.mpr rfl) rest]
        exact moved said

theorem reaches_writeNew (absent : tree.kindAt final = none) (apart : ApartPaths final tmp lock)
    (reached : tree.Reaches (writeNew dir final tmp lock data) later) :
    later.kindAt final = none ∨ later.kindAt final = some (.file data) := by
  have spares : (writeTemporary tmp data).Asks (Touches (· ≠ final)) := writeTemporary_touches apart.finalTmp.symm
  rcases Reaches.of_andThen reached with filling | ⟨filled, _, filling, rest⟩
  · exact Or.inl ((kindAt_touches spares (not_not.mpr rfl) filling).trans absent)
  · obtain ⟨_, kinds⟩ := finishes_writeTemporary filling
    have temporary : filled.kindAt tmp = some (.file data) := by rw [kinds, if_pos rfl]
    have stillAbsent : filled.kindAt final = none := by rw [kinds, if_neg apart.finalTmp, absent]
    rcases Reaches.of_bind rest with asking | ⟨asked, there, asking, further⟩
    · have same := reaches_reads (asks_question (show FileQuestion.Reads (.isThere final) from trivial)) asking
      exact Or.inl (same ▸ stillAbsent)
    · obtain ⟨rfl, same⟩ := finishes_fileExists asking
      rw [stillAbsent] at same
      rw [same, if_neg (by simp)] at further
      rcases Reaches.of_andThen further with moving | ⟨moved, _, moving, ending⟩
      · exact reaches_renameTemporary temporary stillAbsent moving
      · have named := reaches_renameTemporary temporary stillAbsent moving.reaches
        have spares : ((syncDir dir).andThen fun _ => cleanupLock lock true).Asks (Touches (· ≠ final)) :=
          Asks.andThen (Asks.map (asks_question (touches_reads trivial))) fun _ =>
            @cleanupLock_touches (· ≠ final) lock apart.finalLock.symm true
        rw [kindAt_touches spares (not_not.mpr rfl) ending]
        exact named

/-- Wherever the write of a new file is stopped, the file is not there or whole. -/
theorem reaches_writeOnce (absent : tree.kindAt (joinName dir name) = none)
    (reached : tree.Reaches (writeOnce dir name data) later) :
    later.kindAt (joinName dir name) = none ∨ later.kindAt (joinName dir name) = some (.file data) := by
  have apart := joinName_apart dir name
  unfold writeOnce at reached
  split at reached
  · cases reached with
    | stop => exact Or.inl absent
  · generalize joinName dir name = final at *
    generalize joinName dir (name ++ ".tmp") = tmp at *
    generalize joinName dir (name ++ ".write_once.lock") = lock at *
    have locks : (takeLock lock final).Asks (Touches (· ≠ final)) := takeLock_touches apart.finalLock.symm
    rcases Reaches.of_andThen reached with locking | ⟨locked, _, locking, rest⟩
    · exact Or.inl ((kindAt_touches locks (not_not.mpr rfl) locking).trans absent)
    · have stillAbsent := (kindAt_touches locks (not_not.mpr rfl) locking.reaches).trans absent
      rcases Reaches.of_bind rest with asking | ⟨asked, there, asking, further⟩
      · have same := reaches_reads (asks_question (show FileQuestion.Reads (.isThere final) from trivial)) asking
        exact Or.inl (same ▸ stillAbsent)
      · obtain ⟨rfl, same⟩ := finishes_fileExists asking
        rw [stillAbsent] at same
        rw [same, if_neg (by simp)] at further
        exact reaches_writeNew stillAbsent apart further

end Stopped

section Staging

variable {staged : StagedCheckpoint} {parent : DiskPath} {dirName : String} {names : List String} {used cap : UInt64}

/-- A staged file is about this content. -/
structure StagedAs (codec : CheckpointCodec) (file : StagedFile) (content : String × List UInt8) : Prop where
  stored : file.storedName = storedName codec content.1 content.2
  digest : file.digest = codec.hash content.2
  size : file.sizeBytes = UInt64.ofNat content.2.length

/-- The staged checkpoint has these contents. -/
structure Filled (codec : CheckpointCodec) (tree : FileTree) (checkpoint : StagedCheckpoint)
    (contents : List (String × List UInt8)) : Prop where
  staged : List.Forall₂ (StagedAs codec) checkpoint.staged contents
  accepted : ∀ content ∈ contents, validateLogicalName content.1 = .ok ()
  stored : ∀ content ∈ contents,
    tree.kindAt (checkpoint.dir ++ [storedName codec content.1 content.2]) = some (.file content.2)

theorem finishes_readSourceFile (dirPlain : PlainName dirName) (plain : PlainName name)
    (read : tree.Finishes (readSourceFile (parent ++ [dirName]) name used) later (.ok data)) :
    later = tree ∧ data.length ≤ used.toNat ∧ tree.kindAt (parent ++ [dirName] ++ [name]) = some (.file data) := by
  unfold readSourceFile at read
  rw [List.getLast?_concat, List.dropLast_concat] at read
  obtain ⟨rfl, small, names, opened, there⟩ := finishes_readBeneathCapped (Finishes.of_mapError read)
  rw [openBeneath_pair dirPlain plain] at opened
  cases opened
  refine ⟨rfl, small, ?_⟩
  rw [List.append_assoc]
  exact there

theorem finishes_stage (ended : tree.Finishes (checkpoint.stage codec name data) later (.ok staged)) :
    validateLogicalName name = .ok () ∧
      WroteOnce tree checkpoint.dir (storedName codec name data) data later ∧
      ∃ file, StagedAs codec file (name, data) ∧
        staged = { checkpoint with staged := checkpoint.staged ++ [file] } := by
  unfold StagedCheckpoint.stage at ended
  split at ended
  · cases (Finishes.of_pure ended).2
  · next accepted =>
    split at ended
    · cases (Finishes.of_pure ended).2
    · obtain ⟨between, newlyWritten, writing, rest⟩ := Finishes.of_andThen ended
      obtain ⟨rfl, same⟩ := Finishes.of_pure rest
      cases same
      exact ⟨accepted, (finishes_writeOnce (Finishes.of_mapError writing)).2, _, ⟨rfl, rfl, rfl⟩, rfl⟩

theorem Filled.stage (filled : Filled codec tree checkpoint contents)
    (ended : tree.Finishes (checkpoint.stage codec name data) later (.ok staged)) :
    Filled codec later staged (contents ++ [(name, data)]) := by
  obtain ⟨accepted, wrote, file, as, rfl⟩ := finishes_stage ended
  have once : OnceName (storedName codec name data) := onceName_stored (validateLogicalName_ok accepted)
  refine ⟨List.rel_append filled.staged (.cons as .nil), fun content listed => ?_, fun content listed => ?_⟩
  · rcases List.mem_append.mp listed with before | last
    · exact filled.accepted content before
    · rw [List.mem_singleton.mp last]
      exact accepted
  · rcases List.mem_append.mp listed with before | last
    · exact wrote_stored once wrote (filled.stored content before)
    · rw [List.mem_singleton.mp last]
      exact (wrote_joined once wrote).file

/-- What was staged of a folder was in it. -/
theorem finishes_stageWithinBudget (dirPlain : PlainName dirName) (filled : Filled codec tree checkpoint contents)
    (within : used.toNat ≤ cap.toNat)
    (ended : tree.Finishes (stageWithinBudget codec (parent ++ [dirName]) cap used checkpoint names) later
      (.ok staged)) :
    ∃ more, more.map Prod.fst = names ∧ Filled codec later staged (contents ++ more) ∧
      (∀ content ∈ more, tree.kindAt (parent ++ [dirName] ++ [content.1]) = some (.file content.2)) ∧
      used.toNat + sizeOf more ≤ cap.toNat ∧ staged.dir = checkpoint.dir ∧
      staged.checkpointId = checkpoint.checkpointId := by
  induction names generalizing tree checkpoint contents used with
  | nil =>
      obtain ⟨rfl, same⟩ := Finishes.of_pure ended
      cases same
      exact ⟨[], rfl, by rwa [List.append_nil], fun _ no => (by cases no), within, rfl, rfl⟩
  | cons name names ih =>
      obtain ⟨between, data, reading, further⟩ := Finishes.of_andThen ended
      obtain ⟨filledTree, filledWith, staging, rest⟩ := Finishes.of_andThen further
      have stages := Finishes.of_mapError staging
      obtain ⟨accepted, wrote, file, as, same⟩ := finishes_stage stages
      have logical := validateLogicalName_ok accepted
      obtain ⟨rfl, small, there⟩ := finishes_readSourceFile dirPlain logical.plain reading
      rw [UInt64.toNat_saturatingSub] at small
      have sum := UInt64.toNat_saturatingAdd_length (show used.toNat + data.length ≤ cap.toNat by omega)
      obtain ⟨more, named, last, source, fits, placed, called⟩ := ih (filled.stage stages) (by rw [sum]; omega) rest
      refine ⟨(name, data) :: more, by rw [List.map_cons, named], ?_, List.forall_mem_cons.mpr ⟨there, ?_⟩, ?_, ?_, ?_⟩
      · rwa [List.append_assoc, List.singleton_append] at last
      · intro content listed
        have own := last.accepted content (List.mem_append_right _ listed)
        have unchanged := @wrote_source _ _ _ (parent ++ [dirName]) _ content.1 _ (onceName_stored logical)
          reserved_stored own wrote
        rw [← unchanged]
        exact source content listed
      · change used.toNat + (data.length + sizeOf more) ≤ cap.toNat
        omega
      · rw [placed, same]
      · rw [called, same]

end Staging

section Committing

variable {committed : CommittedCheckpoint}

theorem finishes_verifyStagedFile {file : StagedFile} {content : String × List UInt8} {data : List UInt8}
    (as : StagedAs codec file content) (logical : LogicalName content.1)
    (stored : tree.kindAt (dir ++ [storedName codec content.1 content.2]) = some (.file content.2))
    (ended : tree.Finishes (verifyStagedFile codec dir file) later (.ok data)) : later = tree ∧ data = content.2 := by
  obtain ⟨between, outcome, reading, rest⟩ := Finishes.of_bind ended
  cases outcome with
  | ok read =>
      obtain ⟨rfl, _, names, opened, there⟩ := finishes_readBeneathCapped reading
      obtain ⟨rfl, same⟩ := Finishes.of_pure rest
      rw [as.stored, openBeneath_plain (plain_stored logical)] at opened
      cases opened
      rw [stored, Option.some.injEq, DiskEntry.file.injEq] at there
      split at same
      · cases same
      · cases same
        exact ⟨rfl, there.symm⟩
  | error failure =>
      cases failure with
      | notFound => cases (Finishes.of_pure rest).2
      | other why => cases (Finishes.of_pure rest).2
      | fileTooLarge why =>
          obtain ⟨_, _, _, last⟩ := Finishes.of_andThen rest
          cases (Finishes.of_pure last).2

theorem finishes_verifyStagedFiles {files : List StagedFile} {read : List (List UInt8)}
    (as : List.Forall₂ (StagedAs codec) files contents) (logical : ∀ content ∈ contents, LogicalName content.1)
    (stored : ∀ content ∈ contents,
      tree.kindAt (dir ++ [storedName codec content.1 content.2]) = some (.file content.2))
    (ended : tree.Finishes (verifyStagedFiles codec dir files) later (.ok read)) :
    later = tree ∧ read = contents.map Prod.snd := by
  induction as generalizing read with
  | nil =>
      obtain ⟨rfl, same⟩ := Finishes.of_pure ended
      cases same
      exact ⟨rfl, rfl⟩
  | cons first rest ih =>
      rw [List.forall_mem_cons] at logical stored
      obtain ⟨between, data, reading, others⟩ := Finishes.of_andThen ended
      obtain ⟨rfl, rfl⟩ := finishes_verifyStagedFile first logical.1 stored.1 reading
      obtain ⟨more, verifying, same⟩ := Finishes.of_mapOk others
      obtain ⟨rfl, rfl⟩ := ih logical.2 stored.2 verifying
      exact ⟨rfl, same.symm⟩

theorem buildManifest_eq (as : List.Forall₂ (StagedAs codec) checkpoint.staged contents) :
    checkpoint.buildManifest codec about (contents.map Prod.snd) =
      manifestOf codec checkpoint.dir checkpoint.checkpointId about contents := by
  have files : checkpoint.staged.map StagedFile.toManifestFile =
      contents.map fun content => (stagedFile codec content).toManifestFile :=
    as.map_eq fun file content one => by
      unfold StagedFile.toManifestFile stagedFile
      rw [one.stored, one.digest, one.size]
  have sizes : checkpoint.staged.map StagedFile.sizeBytes = contents.map fun content => (stagedFile codec content).sizeBytes :=
    as.map_eq fun file content one => one.size
  unfold manifestOf StagedCheckpoint.buildManifest stagedWith
  simp only [files, sizes, List.map_map, Function.comp_def]

theorem finishes_marked {source target : DurabilityState} (allowed : source.transition target = .ok target)
    (ended : tree.Finishes (marked (recordStateTransition dir source target)) later (.ok ())) :
    WroteOnce tree dir target.markerName (Bytes.utf8 (target.debugName ++ "\n")) later := by
  obtain ⟨_, ran⟩ := finishes_recordStateTransition allowed (Finishes.of_mapError ended)
  exact (finishes_writeOnce ran).2

/-- A checkpoint with these contents is on the disk, with this manifest. -/
structure OnDisk (codec : CheckpointCodec) (tree : FileTree) (dir : DiskPath) (manifest : CheckpointManifest)
    (contents : List (String × List UInt8)) : Prop where
  whole : ∃ json, codec.toJson manifest = .ok json ∧ tree.kindAt (dir ++ [manifestFilename]) = some (.file json)
  stored : ∀ content ∈ contents,
    tree.kindAt (dir ++ [storedName codec content.1 content.2]) = some (.file content.2)

theorem finishes_commit (filled : Filled codec tree checkpoint contents)
    (ended : tree.Finishes (checkpoint.commit codec about) later (.ok committed)) :
    committed.manifest = manifestOf codec checkpoint.dir checkpoint.checkpointId about contents ∧ contents ≠ [] ∧
      OnDisk codec later checkpoint.dir committed.manifest contents := by
  have logical : ∀ content ∈ contents, LogicalName content.1 :=
    fun content listed => validateLogicalName_ok (filled.accepted content listed)
  unfold StagedCheckpoint.commit at ended
  split at ended
  · cases (Finishes.of_pure ended).2
  · next someStaged =>
    obtain ⟨first, _, marking, verifying⟩ := Finishes.of_andThen ended
    have marked := finishes_marked (by rfl) marking
    have storedFirst := fun content listed =>
      wrote_stored (onceName_marker _) marked (filled.stored content listed)
    obtain ⟨verified, read, reading, writing⟩ := Finishes.of_andThen verifying
    obtain ⟨rfl, rfl⟩ := finishes_verifyStagedFiles filled.staged logical storedFirst reading
    rw [buildManifest_eq filled.staged] at writing
    obtain ⟨second, newlyWritten, manifest, last⟩ := Finishes.of_andThen writing
    obtain ⟨third, _, marking, rest⟩ := Finishes.of_andThen last
    obtain ⟨rfl, same⟩ := Finishes.of_pure rest
    cases same
    have verified := finishes_marked (by rfl) marking
    have filledContents : contents ≠ [] := by
      rintro rfl
      exact someStaged (List.forall₂_nil_right_iff.mp filled.staged)
    unfold writeManifest at manifest
    split at manifest
    · cases (Finishes.of_pure manifest).2
    · next json encoded =>
      have wrote := (finishes_writeOnce (Finishes.of_mapError manifest)).2
      refine ⟨rfl, filledContents, ⟨json, encoded, ?_⟩, fun content listed => ?_⟩
      · have apart (suffix : String) : checkpoint.dir ++ [manifestFilename] ≠
            checkpoint.dir ++ [DurabilityState.hashVerified.markerName ++ suffix] := by
          intro same
          rw [List.append_cancel_left_eq, List.cons.injEq] at same
          have heads := congrArg (fun name => name.toList.head?) same.1
          rw [String.toList_append, List.head?_append_of_ne_nil _ (by decide)] at heads
          exact absurd heads (by decide)
        exact (wrote_joined (onceName_marker _) verified).keeps (wrote_joined onceName_manifest wrote).file (apart _)
          fun same => absurd same (apart _)
      · exact wrote_stored (onceName_marker _) verified
          (wrote_stored onceName_manifest wrote (storedFirst content listed))

theorem finishes_manifestPresent {present : Bool}
    (ended : tree.Finishes (manifestPresent dir) later (.ok present)) :
    later = tree ∧ ((present = true ∧ ∃ json, tree.kindAt (dir ++ [manifestFilename]) = some (.file json)) ∨
      present = false ∧ tree.kindAt (dir ++ [manifestFilename]) = none) := by
  have reads := reaches_reads (manifestPresent_reads dir) ended.reaches
  subst reads
  refine ⟨rfl, ?_⟩
  obtain ⟨between, outcome, reading, rest⟩ := Finishes.of_bind ended
  cases outcome with
  | ok json =>
      obtain ⟨rfl, names, opened, there⟩ := finishes_readBeneath reading
      obtain ⟨_, same⟩ := Finishes.of_pure rest
      cases same
      rw [openBeneath_manifest] at opened
      cases opened
      exact Or.inl ⟨rfl, json, there⟩
  | error failure =>
      cases failure with
      | other why => cases (Finishes.of_pure rest).2
      | fileTooLarge why => cases (Finishes.of_pure rest).2
      | notFound =>
          obtain ⟨_, same⟩ := Finishes.of_pure rest
          cases same
          unfold readBeneath at reading
          rw [openBeneath_manifest] at reading
          obtain ⟨answered, asked, failed⟩ := Finishes.of_map reading
          obtain ⟨said, _⟩ := Finishes.of_question asked
          have missing : answered = .error .notFound := by
            cases answered with
            | ok content => cases failed
            | error failure =>
                cases failure with
                | notFound => rfl
                | other why => cases failed
          subst missing
          exact Or.inr ⟨rfl, Honest.read_missing said⟩

/-- The folders of a checkpoint were made. -/
def MadeFolders (tree : FileTree) (dir : DiskPath) (later : FileTree) : Prop :=
  ∀ path, later.kindAt path = if path <+: dir then some .folder else tree.kindAt path

theorem finishes_begin (ended : tree.Finishes (StagedCheckpoint.begin root checkpointId) later (.ok checkpoint)) :
    validateCheckpointId checkpointId = .ok () ∧ checkpoint = ⟨root ++ [checkpointId], checkpointId, []⟩ ∧
      ∃ made, MadeFolders tree (root ++ [checkpointId]) made ∧
        made.kindAt (root ++ [checkpointId] ++ [manifestFilename]) = none ∧
        WroteOnce made (root ++ [checkpointId]) DurabilityState.writing.markerName (Bytes.utf8 "Writing\n") later := by
  unfold StagedCheckpoint.begin at ended
  split at ended
  · cases (Finishes.of_pure ended).2
  · next valid =>
    obtain ⟨made, _, creating, looking⟩ := Finishes.of_andThen ended
    obtain ⟨said, rfl⟩ := Finishes.of_question (Finishes.of_mapError creating)
    obtain ⟨looked, present, asking, rest⟩ := Finishes.of_andThen looking
    obtain ⟨rfl, ⟨rfl, _⟩ | ⟨rfl, absent⟩⟩ := finishes_manifestPresent asking
    · cases (Finishes.of_pure rest).2
    · obtain ⟨wrote, _, marking, last⟩ := Finishes.of_andThen rest
      obtain ⟨rfl, same⟩ := Finishes.of_pure last
      cases same
      obtain ⟨_, initial, _⟩ := Finishes.of_mapOk (Finishes.of_mapError marking)
      exact ⟨valid, rfl, _, fun path => Honest.createFolders said, absent, (finishes_writeOnce initial).2⟩

section Spared

/-- The steps that leave this file as it is. -/
theorem writeOnce_spares (once : OnceName name) (final : other ≠ name) (tmp : other ≠ name ++ ".tmp")
    (lock : other ≠ name ++ ".write_once.lock") :
    (writeOnce dir name data).Asks (Touches (· ≠ sourceDir ++ [other])) := by
  have apart {rival : String} (away : other ≠ rival) : dir ++ [rival] ≠ sourceDir ++ [other] := by
    intro same
    have parts := (List.append_inj' same rfl).2
    rw [List.cons.injEq] at parts
    exact away parts.1.symm
  refine writeOnce_touches ?_ ?_ ?_ <;> unfold joinName
  · rw [once.final]
    exact apart final
  · rw [once.tmp]
    exact apart tmp
  · rw [once.lock]
    exact apart lock

theorem ne_of_head (visible : other.toList.head? ≠ some '.') (hidden : name.toList.head? = some '.')
    (suffix : String) : other ≠ name ++ suffix := by
  rintro rfl
  have filled : name.toList ≠ [] := by
    intro none_
    rw [none_] at hidden
    cases hidden
  rw [String.toList_append, List.head?_append_of_ne_nil _ filled] at visible
  exact visible hidden

theorem ne_of_last {suffix : String} (filled : suffix.toList ≠ [])
    (last : other.toList.getLast? ≠ suffix.toList.getLast?) (before : String) : other ≠ before ++ suffix := by
  rintro rfl
  rw [String.toList_append, List.getLast?_append_of_ne_nil _ filled] at last
  exact last rfl

theorem stored_ne_manifest : storedName codec logical content ≠ manifestFilename :=
  (@ne_stored_of_last codec _ _ _ 'n' "manifest.jso".toList (by decide) (by decide)).symm

theorem marker_hidden (state : DurabilityState) : state.markerName.toList.head? = some '.' := by
  cases state <;> decide

theorem writeMarker_spares (visible : other.toList.head? ≠ some '.') (state : DurabilityState) :
    (writeOnce dir state.markerName data).Asks (Touches (· ≠ sourceDir ++ [other])) := by
  have apart := ne_of_head visible (marker_hidden state)
  refine writeOnce_spares (onceName_marker state) ?_ (apart _) (apart _)
  exact fun same => visible (same ▸ marker_hidden state)

theorem recordInitialState_spares (visible : other.toList.head? ≠ some '.') :
    (recordInitialState dir).Asks (Touches (· ≠ sourceDir ++ [other])) :=
  Asks.map (writeMarker_spares visible .writing)

theorem marked_spares {source target : DurabilityState} (visible : other.toList.head? ≠ some '.') :
    (marked (recordStateTransition dir source target)).Asks (Touches (· ≠ sourceDir ++ [other])) := by
  refine marked_asks ?_
  unfold recordStateTransition
  split
  · exact asks_pure _
  · next reached _ => exact Asks.map (writeMarker_spares visible reached)

theorem writeManifest_spares {manifest : CheckpointManifest} :
    (writeManifest codec dir manifest).Asks (Touches (· ≠ sourceDir ++ [storedName codec logical content])) := by
  have once := onceName_manifest
  have final : storedName codec logical content ≠ manifestFilename := stored_ne_manifest
  have tmp : storedName codec logical content ≠ manifestFilename ++ ".tmp" :=
    (@ne_stored_of_last codec _ _ _ 'p' "manifest.json.tm".toList (by decide) (by decide)).symm
  have lock : storedName codec logical content ≠ manifestFilename ++ ".write_once.lock" :=
    (@ne_stored_of_last codec _ _ _ 'k' "manifest.json.write_once.loc".toList (by decide) (by decide)).symm
  unfold writeManifest
  -- The goal would be evaluated with the name in it.
  generalize manifestFilename = name at once final tmp lock ⊢
  split
  · exact asks_pure _
  · exact Asks.map (writeOnce_spares once final tmp lock)

end Spared

theorem OnDisk.kept {manifest : CheckpointManifest} (onDisk : OnDisk codec tree dir manifest contents)
    (whole : later.kindAt (dir ++ [manifestFilename]) = tree.kindAt (dir ++ [manifestFilename]))
    (stored : ∀ content ∈ contents, later.kindAt (dir ++ [storedName codec content.1 content.2]) =
      tree.kindAt (dir ++ [storedName codec content.1 content.2])) : OnDisk codec later dir manifest contents := by
  obtain ⟨json, encoded, there⟩ := onDisk.whole
  refine ⟨⟨json, encoded, whole.trans there⟩, fun content listed => ?_⟩
  exact (stored content listed).trans (onDisk.stored content listed)

theorem reaches_writeManifest {manifest : CheckpointManifest} (absent : tree.kindAt (dir ++ [manifestFilename]) = none)
    (stored : ∀ content ∈ contents, tree.kindAt (dir ++ [storedName codec content.1 content.2]) = some (.file content.2))
    (reached : tree.Reaches (writeManifest codec dir manifest) later) :
    later.kindAt (dir ++ [manifestFilename]) = none ∨ OnDisk codec later dir manifest contents := by
  have kept : ∀ content ∈ contents,
      later.kindAt (dir ++ [storedName codec content.1 content.2]) = some (.file content.2) := by
    intro content listed
    rw [kindAt_touches writeManifest_spares (not_not.mpr rfl) reached, stored content listed]
  unfold writeManifest at reached
  split at reached
  · cases reached with
    | stop => exact Or.inl absent
  · next json encoded =>
    rw [← joinName_manifest] at absent ⊢
    rcases reaches_writeOnce absent (Reaches.of_map reached) with none_ | there
    · exact Or.inl none_
    · exact Or.inr ⟨⟨json, encoded, joinName_manifest ▸ there⟩, kept⟩

/-- Wherever a commit is stopped, there is no manifest or the checkpoint is whole. -/
theorem reaches_commit (filled : Filled codec tree checkpoint contents)
    (absent : tree.kindAt (checkpoint.dir ++ [manifestFilename]) = none)
    (reached : tree.Reaches (checkpoint.commit codec about) later) :
    later.kindAt (checkpoint.dir ++ [manifestFilename]) = none ∨ contents ≠ [] ∧
      OnDisk codec later checkpoint.dir (manifestOf codec checkpoint.dir checkpoint.checkpointId about contents)
        contents := by
  have logical : ∀ content ∈ contents, LogicalName content.1 :=
    fun content listed => validateLogicalName_ok (filled.accepted content listed)
  have manifestSpared {source target : DurabilityState} :
      (marked (recordStateTransition checkpoint.dir source target)).Asks
        (Touches (· ≠ checkpoint.dir ++ [manifestFilename])) := marked_spares (by decide)
  unfold StagedCheckpoint.commit at reached
  split at reached
  · cases reached with
    | stop => exact Or.inl absent
  · next someStaged =>
    have filledContents : contents ≠ [] := by
      rintro rfl
      exact someStaged (List.forall₂_nil_right_iff.mp filled.staged)
    rcases Reaches.of_andThen reached with marking | ⟨first, _, marking, verifying⟩
    · exact Or.inl ((kindAt_touches manifestSpared (not_not.mpr rfl) marking).trans absent)
    · have absentFirst := (kindAt_touches manifestSpared (not_not.mpr rfl) marking.reaches).trans absent
      have storedFirst := fun content listed =>
        wrote_stored (onceName_marker _) (finishes_marked (by rfl) marking) (filled.stored content listed)
      rcases Reaches.of_andThen verifying with reading | ⟨verified, read, reading, writing⟩
      · have same := reaches_reads (verifyStagedFiles_reads _ _) reading
        exact Or.inl (same ▸ absentFirst)
      · obtain ⟨rfl, rfl⟩ := finishes_verifyStagedFiles filled.staged logical storedFirst reading
        rw [buildManifest_eq filled.staged] at writing
        rcases Reaches.of_andThen writing with written | ⟨second, _, written, marking⟩
        · exact (reaches_writeManifest absentFirst storedFirst written).imp_right fun whole => ⟨filledContents, whole⟩
        · have spared {name : String} (visible : name.toList.head? ≠ some '.') :
              later.kindAt (checkpoint.dir ++ [name]) = second.kindAt (checkpoint.dir ++ [name]) :=
            kindAt_touches (Asks.andThen (marked_spares visible) fun _ => asks_pure _) (not_not.mpr rfl) marking
          have unmarked := @spared manifestFilename (by decide)
          rcases reaches_writeManifest absentFirst storedFirst written.reaches with none_ | whole
          · exact Or.inl (unmarked.trans none_)
          · refine Or.inr ⟨filledContents, whole.kept unmarked fun content listed => spared ?_⟩
            simpa using @head_stored codec _ content.2 (logical content listed) ""

end Committing


end Gputeer.Checkpoint
