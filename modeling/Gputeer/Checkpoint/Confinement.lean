import Gputeer.Checkpoint.Resumable

/-! Which files a writer touches, whatever the disk answers and wherever it stops: those in the directory of
its checkpoint, and the pointer. -/

namespace Gputeer.Checkpoint

open Dialogue Text FileTree

/-- The step touches only files in this directory, and removes no directory. -/
def Within (dir : DiskPath) (asked : FileQuestion) : Prop :=
  (∀ path, asked.Changes path → dir <+: path) ∧ ∀ path, asked ≠ .removeFolder path

section Steps

variable {dir path : DiskPath} {name : String} {data : List UInt8} {May : DiskPath → Prop}

/-- The step touches only such files, and removes no directory. -/
def Touches (May : DiskPath → Prop) (asked : FileQuestion) : Prop :=
  (∀ path, asked.Changes path → May path) ∧ ∀ path, asked ≠ .removeFolder path

theorem touches_reads {asked : FileQuestion} (reads : asked.Reads) : Touches May asked := by
  refine ⟨fun path changes => absurd changes reads.changes_nothing, fun path same => ?_⟩
  rw [same] at reads
  exact reads

theorem within_reads {asked : FileQuestion} (reads : asked.Reads) : Within dir asked := touches_reads reads

theorem joinName_inside : dir <+: joinName dir name := List.prefix_append _ _

theorem create_touches (may : May path) : (create path).Asks (Touches May) := by
  refine Asks.map (asks_question ⟨fun changed same => ?_, fun _ no => by cases no⟩)
  rw [show changed = path from same]
  exact may

theorem writeAll_touches (may : May path) : (writeAll path data).Asks (Touches May) := by
  refine Asks.map (asks_question ⟨fun changed same => ?_, fun _ no => by cases no⟩)
  rw [show changed = path from same]
  exact may

theorem removeAnyway_touches (may : May path) : (removeAnyway path).Asks (Touches May) := by
  refine Asks.bind (asks_question ⟨fun changed same => ?_, fun _ no => by cases no⟩) fun _ => asks_pure _
  rw [show changed = path from same]
  exact may

theorem takeLock_touches {finalPath : DiskPath} (may : May path) :
    (takeLock path finalPath).Asks (Touches May) := by
  refine Asks.map (asks_question ⟨fun changed same => ?_, fun _ no => by cases no⟩)
  rw [show changed = path from same]
  exact may

theorem rename_touches {target : DiskPath} (source : May path) (aim : May target) :
    Touches May (.rename path target) := by
  refine ⟨fun changed same => ?_, fun _ no => by cases no⟩
  rcases same with rfl | rfl
  · exact source
  · exact aim

theorem readExisting_touches (finalPath : DiskPath) :
    (readExisting finalPath data).Asks (Touches May) := by
  refine Asks.andThen (Asks.map (asks_question (touches_reads trivial))) fun existingLen => ?_
  split
  · exact asks_pure _
  · exact Asks.map (asks_question (touches_reads trivial))

theorem cleanupLock_touches {lockPath : DiskPath} (lock : May lockPath) (result : Bool) :
    (cleanupLock lockPath result).Asks (Touches May) :=
  Asks.bind (removeAnyway_touches lock) fun _ => asks_pure _

theorem keepExisting_touches {finalPath lockPath : DiskPath} {existing : List UInt8}
    (lock : May lockPath) : (keepExisting finalPath lockPath data existing).Asks (Touches May) := by
  unfold keepExisting
  split
  · exact cleanupLock_touches lock false
  · exact asks_pure _

theorem writeTemporary_touches {tmpPath : DiskPath} (tmp : May tmpPath) :
    (writeTemporary tmpPath data).Asks (Touches May) :=
  Asks.andThen (create_touches tmp) fun _ => Asks.andThen (writeAll_touches tmp) fun _ =>
    Asks.map (asks_question (touches_reads trivial))

theorem renameTemporary_touches {tmpPath finalPath : DiskPath} (tmp : May tmpPath)
    (final : May finalPath) : (renameTemporary tmpPath finalPath).Asks (Touches May) := by
  unfold renameTemporary
  refine Asks.bind (asks_question (rename_touches tmp final)) fun renamed => ?_
  cases renamed with
  | ok done => exact asks_pure _
  | error failure => exact Asks.bind (removeAnyway_touches tmp) fun _ => asks_pure _

theorem writeNew_touches {finalPath tmpPath lockPath : DiskPath} (final : May finalPath)
    (tmp : May tmpPath) (lock : May lockPath) :
    (writeNew dir finalPath tmpPath lockPath data).Asks (Touches May) := by
  refine Asks.andThen (writeTemporary_touches tmp) fun _ => ?_
  refine Asks.bind (asks_question (touches_reads trivial)) fun there => ?_
  split
  · refine Asks.andThen (readExisting_touches finalPath) fun winner => ?_
    exact Asks.bind (removeAnyway_touches tmp) fun _ => keepExisting_touches lock
  · refine Asks.andThen (renameTemporary_touches tmp final) fun _ => ?_
    refine Asks.andThen (Asks.map (asks_question (touches_reads trivial))) fun _ => ?_
    exact cleanupLock_touches lock true

theorem writeOnce_touches (final : May (joinName dir name)) (tmp : May (joinName dir (name ++ ".tmp")))
    (lock : May (joinName dir (name ++ ".write_once.lock"))) : (writeOnce dir name data).Asks (Touches May) := by
  unfold writeOnce
  split
  · exact asks_pure _
  · refine Asks.andThen (takeLock_touches lock) fun _ => ?_
    refine Asks.bind (asks_question (touches_reads trivial)) fun there => ?_
    split
    · exact Asks.andThen (readExisting_touches _) fun existing => keepExisting_touches lock
    · exact writeNew_touches final tmp lock

/-- Whatever the name. -/
theorem writeOnce_within : (writeOnce dir name data).Asks (Within dir) :=
  writeOnce_touches joinName_inside joinName_inside joinName_inside

theorem recordInitialState_within : (recordInitialState dir).Asks (Within dir) :=
  Asks.map writeOnce_within

theorem recordStateTransition_within (source target : DurabilityState) :
    (recordStateTransition dir source target).Asks (Within dir) := by
  unfold recordStateTransition
  split
  · exact asks_pure _
  · exact Asks.map writeOnce_within

end Steps

section Writers

variable {codec : CheckpointCodec} {root : DiskPath} {id : String}

/-- The entries that the writer of this checkpoint may touch. -/
def Own (root : DiskPath) (id : String) (path : DiskPath) : Prop :=
  root ++ [id] <+: path ∨ path = root ++ [pointerFilename] ∨ path = root ++ [pointerFilename ++ ".tmp"]

/-- A step of the writer: the folders on the way are made, and nothing else of others is touched. -/
def Confined (root : DiskPath) (id : String) (asked : FileQuestion) : Prop :=
  (∀ path, asked.Changes path → path <+: root ∨ Own root id path) ∧ ∀ path, asked ≠ .removeFolder path

theorem Within.confined {asked : FileQuestion} (within : Within (root ++ [id]) asked) :
    Confined root id asked :=
  ⟨fun path changes => Or.inr (Or.inl (within.1 path changes)), within.2⟩

theorem confined_of_within {α : Type} {step : FileDialogue α} (asks : step.Asks (Within (root ++ [id]))) :
    step.Asks (Confined root id) :=
  Asks.mono asks fun _ within => within.confined

theorem confined_of_reads {α : Type} {step : FileDialogue α} (asks : step.Asks FileQuestion.Reads) :
    step.Asks (Confined root id) :=
  Asks.mono asks fun _ reads => (within_reads reads).confined

theorem createFolders_confined : Confined root id (.createFolders (root ++ [id])) := by
  refine ⟨fun path changes => ?_, fun _ no => by cases no⟩
  rcases List.prefix_concat_iff.mp changes with rfl | inside
  · exact Or.inr (Or.inl (List.prefix_refl _))
  · exact Or.inl inside

theorem failAfterMaterialization_confined (original : CheckpointError) :
    (failAfterMaterialization (root ++ [id]) original).Asks (Confined root id) := by
  unfold failAfterMaterialization
  refine Asks.bind (confined_of_within (Asks.map writeOnce_within)) fun recorded => ?_
  cases recorded with
  | ok done => exact asks_pure _
  | error markerError => exact asks_pure _

theorem orFailed_confined {step : FileDialogue (Checked Unit)} (asks : step.Asks (Confined root id)) :
    (orFailed (root ++ [id]) step).Asks (Confined root id) := by
  unfold orFailed
  refine Asks.bind asks fun result => ?_
  cases result with
  | ok done => exact asks_pure _
  | error error => exact Asks.map (failAfterMaterialization_confined error)

section Pointer

/-- The only two files that are not in the directory of a checkpoint. -/
def Pointer (root path : DiskPath) : Prop :=
  path = root ++ [pointerFilename] ∨ path = root ++ [pointerFilename ++ ".tmp"]

theorem joinName_pointer : joinName root pointerFilename = root ++ [pointerFilename] :=
  congrArg (root ++ ·) (by decide +kernel)

theorem joinName_temporary :
    joinName root (pointerFilename ++ ".tmp") = root ++ [pointerFilename ++ ".tmp"] :=
  congrArg (root ++ ·) (by decide +kernel)

theorem pointer_confined {asked : FileQuestion} (changes : ∀ path, asked.Changes path → Pointer root path)
    (stays : ∀ path, asked ≠ .removeFolder path) : Confined root id asked :=
  ⟨fun path changed => Or.inr (Or.inr (changes path changed)), stays⟩

theorem pointerFile_confined {path : DiskPath} (pointer : Pointer root path) :
    Confined root id (.create path) ∧ (∀ data, Confined root id (.writeAll path data)) ∧
      Confined root id (.remove path) := by
  have only {changed : DiskPath} (same : changed = path) : Pointer root changed := same ▸ pointer
  refine ⟨pointer_confined (fun _ => only) fun _ no => ?_, fun data => ?_, ?_⟩
  · cases no
  · exact pointer_confined (fun _ => only) fun _ no => by cases no
  · exact pointer_confined (fun _ => only) fun _ no => by cases no

theorem sync_confined {path : DiskPath} : Confined root id (.sync path) :=
  (@within_reads _ (.sync path) trivial).confined

theorem writePointer_confined (data : List UInt8) :
    (writeTemporary (root ++ [pointerFilename ++ ".tmp"]) data).Asks (Confined root id) := by
  obtain ⟨create, write, _⟩ := @pointerFile_confined root id _ (Or.inr rfl)
  refine Asks.andThen (Asks.map (asks_question create)) fun _ => ?_
  refine Asks.andThen (Asks.map (asks_question (write data))) fun _ => ?_
  exact Asks.map (asks_question sync_confined)

theorem retryRename_confined (attempts left : Nat) (lastWhy : String) :
    (retryRename root (root ++ [pointerFilename ++ ".tmp"]) (root ++ [pointerFilename]) attempts lastWhy
      left).Asks (Confined root id) := by
  induction left generalizing lastWhy with
  | zero =>
      have remove := (@pointerFile_confined root id _ (Or.inr rfl)).2.2
      refine Asks.bind ?_ fun _ => asks_pure _
      exact Asks.bind (asks_question remove) fun _ => asks_pure _
  | succ left ih =>
      have rename : Confined root id
          (.rename (root ++ [pointerFilename ++ ".tmp"]) (root ++ [pointerFilename])) := by
        refine pointer_confined (fun path changed => ?_) fun _ no => by cases no
        exact Or.symm changed
      unfold retryRename
      refine Asks.bind (asks_question rename) fun renamed => ?_
      cases renamed with
      | ok done => exact Asks.map (asks_question sync_confined)
      | error failure => exact ih _

theorem replaceWithRetry_confined (data : List UInt8) (maxAttempts : Nat) :
    (replaceWithRetry root pointerFilename data maxAttempts).Asks (Confined root id) := by
  unfold replaceWithRetry
  split
  · exact asks_pure _
  · split
    · exact asks_pure _
    · rw [joinName_pointer, joinName_temporary]
      exact Asks.andThen (writePointer_confined data) fun _ => retryRename_confined _ _ _

end Pointer

section Phased

variable {manifest : CheckpointManifest} {files : List (String × List UInt8)}

theorem writeDataFiles_confined : (writeDataFiles (root ++ [id]) files).Asks (Confined root id) := by
  induction files with
  | nil => exact asks_pure _
  | cons file files ih =>
      exact Asks.andThen (confined_of_within writeOnce_within) fun _ => ih

theorem storeAndVerify_confined :
    (storeAndVerify codec (root ++ [id]) manifest files).Asks (Confined root id) := by
  refine Asks.andThen (confined_of_within recordInitialState_within) fun _ => ?_
  refine Asks.andThen writeDataFiles_confined fun _ => ?_
  refine Asks.andThen (confined_of_within (recordStateTransition_within _ _)) fun _ => ?_
  split
  · exact asks_pure _
  · refine Asks.andThen (confined_of_within writeOnce_within) fun _ => ?_
    exact orFailed_confined (confined_of_reads (verifyFiles_reads manifest.files))

theorem publish_confined : (publish root (root ++ [id]) manifest).Asks (Confined root id) := by
  have reached (source target : DurabilityState) :
      (orFailed (root ++ [id]) (recordStateTransition (root ++ [id]) source target)).Asks
        (Confined root id) :=
    orFailed_confined (confined_of_within (recordStateTransition_within source target))
  refine Asks.andThen (reached _ _) fun _ => ?_
  exact Asks.andThen (orFailed_confined (replaceWithRetry_confined _ _)) fun _ => reached _ _

theorem writeCheckpoint_confined :
    (writeCheckpoint codec root manifest files).Asks (Confined root manifest.checkpointId) := by
  unfold writeCheckpoint writeCheckpointPhased
  refine Asks.map ?_
  split
  · exact asks_pure _
  · refine Asks.andThen (Asks.map ?_) fun _ => Asks.map (Asks.map publish_confined)
    refine Asks.andThen (Asks.map (asks_question createFolders_confined)) fun _ => ?_
    exact storeAndVerify_confined

end Phased

section Staged

variable {checkpoint : StagedCheckpoint} {about : ManifestMeta}

/-- The directory of a staged checkpoint is below the root, under its id. -/
def BegunAt (root : DiskPath) (id : String) (begun : Except CommitError StagedCheckpoint) : Prop :=
  ∀ checkpoint, begun = .ok checkpoint → checkpoint.dir = root ++ [id]

theorem manifestPresent_reads (dir : DiskPath) : (manifestPresent dir).Asks FileQuestion.Reads := by
  unfold manifestPresent
  refine Asks.bind readBeneath_reads fun data => ?_
  split
  · exact asks_pure _
  · exact asks_pure _
  · exact asks_pure _

theorem verifyStagedFile_reads (dir : DiskPath) (file : StagedFile) :
    (verifyStagedFile codec dir file).Asks FileQuestion.Reads := by
  unfold verifyStagedFile
  refine Asks.bind (readBeneathCapped_reads _) fun data => ?_
  split
  · exact Asks.andThen (Asks.map readBeneath_reads) fun _ => asks_pure _
  · exact asks_pure _
  · exact asks_pure _

theorem verifyStagedFiles_reads (dir : DiskPath) (staged : List StagedFile) :
    (verifyStagedFiles codec dir staged).Asks FileQuestion.Reads := by
  induction staged with
  | nil => exact asks_pure _
  | cons file staged ih => exact Asks.andThen (verifyStagedFile_reads dir file) fun _ => Asks.map ih

theorem marked_asks {may : FileQuestion → Prop} {step : FileDialogue (Checked Unit)} (asks : step.Asks may) :
    (marked step).Asks may :=
  Asks.map asks

theorem writeManifest_confined (manifest : CheckpointManifest) :
    (writeManifest codec (root ++ [id]) manifest).Asks (Confined root id) := by
  unfold writeManifest
  split
  · exact asks_pure _
  · exact Asks.map (confined_of_within writeOnce_within)

theorem commit_confined (placed : checkpoint.dir = root ++ [id]) :
    (checkpoint.commit codec about).Asks (Confined root id) := by
  unfold StagedCheckpoint.commit
  rw [placed]
  split
  · exact asks_pure _
  · refine Asks.andThen (marked_asks (confined_of_within (recordStateTransition_within _ _))) fun _ => ?_
    refine Asks.andThen (confined_of_reads (verifyStagedFiles_reads _ _)) fun contents => ?_
    refine Asks.andThen (writeManifest_confined _) fun _ => ?_
    refine Asks.andThen (marked_asks (confined_of_within (recordStateTransition_within _ _))) fun _ => ?_
    exact asks_pure _

theorem begin_ends {may : FileQuestion → Prop} (reads : ∀ asked : FileQuestion, asked.Reads → may asked)
    (makes : may (.createFolders (root ++ [id]))) (marks : (recordInitialState (root ++ [id])).Asks may) :
    Ends may (BegunAt root id) (StagedCheckpoint.begin root id) := by
  have failed (error : CommitError) : BegunAt root id (.error error) := fun _ no => by cases no
  unfold StagedCheckpoint.begin
  split
  · exact failed _
  · refine Asks.andThen_ends (Asks.map (asks_question makes)) failed fun _ => ?_
    refine Asks.andThen_ends (Asks.mono (manifestPresent_reads _) reads) failed fun present => ?_
    split
    · exact failed _
    · refine Asks.andThen_ends (marked_asks marks) failed fun _ => ?_
      intro checkpoint begun
      cases begun
      rfl

theorem begin_confined : Ends (Confined root id) (BegunAt root id) (StagedCheckpoint.begin root id) :=
  begin_ends (fun _ reads => (within_reads reads).confined) createFolders_confined
    (confined_of_within recordInitialState_within)

theorem stage_ends {may : FileQuestion → Prop} {name : String} {data : List UInt8}
    (writes : validateLogicalName name = .ok () →
      (writeOnce (root ++ [id]) (storedName codec name data) data).Asks may)
    (placed : checkpoint.dir = root ++ [id]) : Ends may (BegunAt root id) (checkpoint.stage codec name data) := by
  have failed (error : CommitError) : BegunAt root id (.error error) := fun _ no => by cases no
  unfold StagedCheckpoint.stage
  split
  · exact failed _
  · next accepted =>
    split
    · exact failed _
    · rw [placed]
      refine Asks.andThen_ends (Asks.map (writes accepted)) failed fun _ => ?_
      intro staged same
      cases same
      rfl

theorem stage_confined (placed : checkpoint.dir = root ++ [id]) (name : String) (data : List UInt8) :
    Ends (Confined root id) (BegunAt root id) (checkpoint.stage codec name data) :=
  stage_ends (fun _ => confined_of_within writeOnce_within) placed

theorem stageFiles_confined (placed : checkpoint.dir = root ++ [id]) (files : List (String × List UInt8)) :
    Ends (Confined root id) (fun staged => staged.dir = root ++ [id])
      (stageFiles codec checkpoint files) := by
  induction files generalizing checkpoint with
  | nil => exact placed
  | cons file files ih =>
      unfold stageFiles
      refine Ends.bind (stage_confined placed _ _) fun staged right => ?_
      cases staged with
      | ok later => exact ih (right later rfl)
      | error error => exact ih placed

end Staged

/-- One who writes a checkpoint: at once, or file by file. -/
inductive CheckpointWriter where
  | write (manifest : CheckpointManifest) (files : List (String × List UInt8))
  | staged (checkpointId : String) (files : List (String × List UInt8)) (about : ManifestMeta)

def CheckpointWriter.checkpointId : CheckpointWriter → String
  | write manifest _ => manifest.checkpointId
  | staged checkpointId _ _ => checkpointId

/-- What it does, of which a crash leaves the first steps. -/
def CheckpointWriter.program (codec : CheckpointCodec) (root : DiskPath) : CheckpointWriter → FileDialogue Unit
  | write manifest files => (fun _ => ()) <$> writeCheckpoint codec root manifest files
  | staged checkpointId files about => do
      match ← StagedCheckpoint.begin root checkpointId with
      | .error _ => pure ()
      | .ok begun => do
          let filled ← stageFiles codec begun files
          let _ ← filled.commit codec about
          pure ()

theorem program_confined (writer : CheckpointWriter) :
    (writer.program codec root).Asks (Confined root writer.checkpointId) := by
  cases writer with
  | write manifest files => exact Asks.map writeCheckpoint_confined
  | staged checkpointId files about =>
      refine Ends.bind begin_confined fun begun right => ?_
      cases begun with
      | error error => exact asks_pure _
      | ok begun =>
          refine Ends.bind (stageFiles_confined (right begun rfl) files) fun filled placed => ?_
          exact Asks.bind (commit_confined placed) fun _ => asks_pure _

end Writers

end Gputeer.Checkpoint
