import Gputeer.Checkpoint.Committed

/-! What a publication leaves on a disk that may fail, when it ends well and wherever it is stopped: the files of the
folder, as they were, under their stored names. -/

namespace Gputeer.Checkpoint

open Dialogue Text FileTree

section Publishing

variable {codec : CheckpointCodec} {tree later : FileTree} {sharedRoot root parent sourceDir : DiskPath}
  {jobId checkpointId dirName : String} {about : ManifestMeta} {names : List String} {cap used declared : UInt64}
  {checkpoint : StagedCheckpoint} {committed : CommittedCheckpoint}

theorem readSourceFile_reads (name : String) : (readSourceFile sourceDir name used).Asks FileQuestion.Reads := by
  unfold readSourceFile
  dsimp only
  split
  · exact asks_pure _
  · exact Asks.map (readBeneathCapped_reads _)

section Placed

variable {may : FileQuestion → Prop}

theorem begunAt_andThen {α : Type} {post : Except SharedError α → Prop}
    {step : FileDialogue (Except CommitError StagedCheckpoint)} {f : CommitError → SharedError}
    {next : StagedCheckpoint → FileDialogue (Except SharedError α)}
    (begun : Ends may (BegunAt root checkpointId) step) (failed : ∀ error, post (.error error))
    (rest : ∀ checkpoint, checkpoint.dir = root ++ [checkpointId] → Ends may post (next checkpoint)) :
    Ends may post ((Except.mapError f <$> step).andThen next) := by
  have mapped : Ends may (fun result => ∀ staged, result = .ok staged →
      staged.dir = root ++ [checkpointId]) (Except.mapError f <$> step) := by
    refine Holds.map (Holds.mono begun fun _ result right staged same => ?_)
    cases result with
    | ok value =>
        cases same
        exact right _ rfl
    | error error => cases same
  refine Ends.bind mapped fun result right => ?_
  cases result with
  | ok staged => exact rest staged (right staged rfl)
  | error error => exact failed error

/-- The steps of staging a checkpoint may be taken. -/
structure MayStage (codec : CheckpointCodec) (root : DiskPath) (id : String) (may : FileQuestion → Prop) : Prop where
  reads : ∀ asked : FileQuestion, asked.Reads → may asked
  makes : may (.createFolders (root ++ [id]))
  marks : (recordInitialState (root ++ [id])).Asks may
  writes : ∀ name data, validateLogicalName name = .ok () →
    (writeOnce (root ++ [id]) (storedName codec name data) data).Asks may

theorem mayStage_confined : MayStage codec root checkpointId (Confined root checkpointId) where
  reads := fun _ reads => (within_reads reads).confined
  makes := createFolders_confined
  marks := confined_of_within recordInitialState_within
  writes := fun _ _ _ => confined_of_within writeOnce_within

/-- No step of it touches the manifest. -/
theorem mayStage_spares : MayStage codec root checkpointId (Touches (· ≠ root ++ [checkpointId] ++ [manifestFilename])) where
  reads := fun _ reads => touches_reads reads
  makes := by
    refine ⟨fun path above same => ?_, fun _ no => by cases no⟩
    have short := List.IsPrefix.length_le (show path <+: root ++ [checkpointId] from above)
    rw [same] at short
    simp at short
  marks := recordInitialState_spares (by decide)
  writes := by
    intro name data accepted
    refine writeOnce_spares (onceName_stored (validateLogicalName_ok accepted)) stored_ne_manifest.symm ?_ ?_
    · exact ne_of_last (by decide) (by decide) _
    · exact ne_of_last (by decide) (by decide) _

theorem stageWithinBudget_ends (allowed : MayStage codec root checkpointId may)
    (placed : checkpoint.dir = root ++ [checkpointId]) :
    Ends may (fun result => ∀ staged, result = .ok staged → staged.dir = root ++ [checkpointId])
      (stageWithinBudget codec sourceDir cap used checkpoint names) := by
  have failed (error : SharedError) (staged : StagedCheckpoint) (no : Except.error error = .ok staged) :
      staged.dir = root ++ [checkpointId] := by cases no
  induction names generalizing used checkpoint with
  | nil =>
      intro staged same
      cases same
      exact placed
  | cons name names ih =>
      unfold stageWithinBudget
      refine Asks.andThen_ends (Asks.mono (readSourceFile_reads name) allowed.reads) failed fun data => ?_
      exact begunAt_andThen (stage_ends (allowed.writes name data) placed) failed fun staged right => ih right

theorem stageWithinBudget_asks (allowed : MayStage codec root checkpointId may)
    (placed : checkpoint.dir = root ++ [checkpointId]) :
    (stageWithinBudget codec sourceDir cap used checkpoint names).Asks may :=
  Holds.mono (stageWithinBudget_ends allowed placed) fun _ _ _ => trivial

end Placed

theorem listSource_reads : (listSource sourceDir).Asks FileQuestion.Reads :=
  Asks.map (asks_question trivial)

theorem jobRoot_ends {may : FileQuestion → Prop} (reads : ∀ asked : FileQuestion, asked.Reads → may asked) :
    Ends may (fun result => ∀ place, result = .ok place → place = sharedRoot ++ [jobId]) (jobRoot sharedRoot jobId) := by
  have failed (error : SharedError) (place : DiskPath) (no : Except.error error = .ok place) :
      place = sharedRoot ++ [jobId] := by cases no
  unfold jobRoot
  split
  · exact failed _
  · refine Asks.andThen_ends (Asks.mono (ensureNotLink_reads _) reads) failed fun _ => ?_
    intro place same
    cases same
    rfl

theorem finishes_jobRoot {place : DiskPath} (ended : tree.Finishes (jobRoot sharedRoot jobId) later (.ok place)) :
    later = tree ∧ safeComponent jobId "job_id" = .ok () ∧ place = sharedRoot ++ [jobId] := by
  have reads := reaches_reads (jobRoot_reads jobId) ended.reaches
  unfold jobRoot at ended
  split at ended
  · cases (Finishes.of_pure ended).2
  · next safe =>
    obtain ⟨_, _, _, last⟩ := Finishes.of_andThen ended
    obtain ⟨_, same⟩ := Finishes.of_pure last
    cases same
    exact ⟨reads, safe, rfl⟩

theorem finishes_listSource (ended : tree.Finishes (listSource sourceDir) later (.ok names)) :
    later = tree ∧ tree.kindAt sourceDir = some .folder ∧ names.Perm (tree.childNames sourceDir) := by
  obtain ⟨said, rfl⟩ := Finishes.of_question (Finishes.of_mapError ended)
  exact ⟨rfl, Honest.list said⟩

theorem finishes_declareSources (ended : tree.Finishes (declareSources sourceDir cap declared names) later (.ok ())) :
    later = tree ∧ ∀ name ∈ names, ∃ content, tree.kindAt (sourceDir ++ [name]) = some (.file content) := by
  induction names generalizing declared with
  | nil => exact ⟨reaches_reads (asks_pure _) ended.reaches, fun _ no => (by cases no)⟩
  | cons name names ih =>
      obtain ⟨between, sum, first, rest⟩ := Finishes.of_andThen ended
      have reads := reaches_reads (declareSource_reads name) first.reaches
      subst reads
      obtain ⟨same, others⟩ := ih rest
      refine ⟨same, List.forall_mem_cons.mpr ⟨?_, others⟩⟩
      obtain ⟨kinded, kind, asking, measuring⟩ := Finishes.of_andThen first
      obtain ⟨said, rfl⟩ := Finishes.of_question (Finishes.of_mapError asking)
      rcases Honest.kind said with ⟨rfl, _⟩ | ⟨_, there⟩
      · cases (Finishes.of_pure measuring).2
      · exact there

/-- What a publication does before it commits. -/
def stageSource (codec : CheckpointCodec) (sharedRoot : DiskPath) (jobId checkpointId : String) (sourceDir : DiskPath)
    (cap : UInt64) : FileDialogue (Except SharedError StagedCheckpoint) :=
  match safeComponent checkpointId "checkpoint_id" with
  | .error error => pure (.error error)
  | .ok () =>
      (jobRoot sharedRoot jobId).andThen fun root =>
        (ensureNotLink (root ++ [checkpointId])).andThen fun _ =>
          (listSource sourceDir).andThen fun names =>
            (declareSources sourceDir cap 0 names).andThen fun _ =>
              let shown := pathText sourceDir
              if names = [] then pure (.error (.text s!"SHARED_CHECKPOINT_EMPTY: {shown} 에 파일이 없다"))
              else
                (Except.mapError SharedError.beginning <$> StagedCheckpoint.begin root checkpointId).andThen fun begun =>
                  stageWithinBudget codec sourceDir cap 0 begun (sortNames names)

theorem publishDirectoryCapped_eq : publishDirectoryCapped codec sharedRoot jobId checkpointId sourceDir about cap =
    (stageSource codec sharedRoot jobId checkpointId sourceDir cap).andThen fun staged =>
      Except.mapError SharedError.committing <$> staged.commit codec about := by
  unfold publishDirectoryCapped stageSource stageAndCommit
  cases safeComponent checkpointId "checkpoint_id" with
  | error error => rfl
  | ok safe =>
      simp only [andThen_assoc]
      refine congrArg _ (funext fun root => congrArg _ (funext fun _ => congrArg _ (funext fun names => ?_)))
      refine congrArg _ (funext fun _ => ?_)
      split
      · rfl
      · rw [andThen_assoc]

theorem stageSource_ends {may : FileQuestion → Prop} (allowed : MayStage codec (sharedRoot ++ [jobId]) checkpointId may) :
    Ends may (fun result => ∀ staged, result = .ok staged → staged.dir = sharedRoot ++ [jobId] ++ [checkpointId])
      (stageSource codec sharedRoot jobId checkpointId sourceDir cap) := by
  have failed (error : SharedError) (staged : StagedCheckpoint) (no : Except.error error = .ok staged) :
      staged.dir = sharedRoot ++ [jobId] ++ [checkpointId] := by cases no
  unfold stageSource
  split
  · exact failed _
  · refine Ends.bind (jobRoot_ends allowed.reads) fun result right => ?_
    cases result with
    | error error => exact failed error
    | ok place =>
        rw [right place rfl]
        refine Asks.andThen_ends (Asks.mono (ensureNotLink_reads _) allowed.reads) failed fun _ => ?_
        refine Asks.andThen_ends (Asks.mono listSource_reads allowed.reads) failed fun names => ?_
        refine Asks.andThen_ends (Asks.mono (declareSources_reads names) allowed.reads) failed fun _ => ?_
        dsimp only
        split
        · exact failed _
        · exact begunAt_andThen (begin_ends allowed.reads allowed.makes allowed.marks) failed fun begun placed =>
            stageWithinBudget_ends allowed placed

theorem publishDirectoryCapped_confined :
    (publishDirectoryCapped codec sharedRoot jobId checkpointId sourceDir about cap).Asks
      (Confined (sharedRoot ++ [jobId]) checkpointId) := by
  rw [publishDirectoryCapped_eq]
  refine Ends.bind (stageSource_ends mayStage_confined) fun result right => ?_
  cases result with
  | ok staged => exact Asks.map (commit_confined (right staged rfl))
  | error error => exact asks_pure _

/-- A folder of these contents was staged. -/
structure StagedFrom (codec : CheckpointCodec) (tree : FileTree) (sharedRoot sourceDir : DiskPath)
    (jobId checkpointId : String) (contents : List (String × List UInt8)) (staged : StagedCheckpoint)
    (later : FileTree) : Prop where
  safeId : safeComponent checkpointId "checkpoint_id" = .ok ()
  safeJob : safeComponent jobId "job_id" = .ok ()
  validId : validateCheckpointId checkpointId = .ok ()
  source : HoldsExactly tree sourceDir contents
  distinct : (contents.map Prod.fst).Nodup
  fits : sizeOf contents ≤ maxInMemoryCheckpointBytes.toNat
  placed : staged.dir = sharedRoot ++ [jobId] ++ [checkpointId]
  called : staged.checkpointId = checkpointId
  filled : Filled codec later staged contents
  folders : ∀ path, path <+: sharedRoot ++ [jobId] ++ [checkpointId] → later.kindAt path = some .folder
  absent : later.kindAt (sharedRoot ++ [jobId] ++ [checkpointId] ++ [manifestFilename]) = none

/-- The folder holds what was read of each of its names. -/
theorem holdsExactly_of_names {contents : List (String × List UInt8)} (folder : tree.kindAt sourceDir = some .folder)
    (named : (contents.map Prod.fst).Perm (tree.childNames sourceDir))
    (there : ∀ content ∈ contents, tree.kindAt (sourceDir ++ [content.1]) = some (.file content.2)) :
    HoldsExactly tree sourceDir contents := by
  have distinct : (contents.map Prod.fst).Nodup := named.nodup_iff.mpr nodup_childNames
  refine ⟨folder, fun name => ?_⟩
  cases found : contents.lastValue name with
  | some data => exact there (name, data) (List.mem_of_lastValue found)
  | none =>
      by_contra filled
      have listed : name ∈ contents.map Prod.fst := by
        refine named.mem_iff.mpr (mem_childNames.mpr ?_)
        exact Option.isSome_iff_ne_none.mpr filled
      obtain ⟨⟨_, data⟩, inside, rfl⟩ := List.mem_map.mp listed
      obtain ⟨last, some_⟩ := List.lastValue_isSome inside
      rw [found] at some_
      cases some_

theorem finishes_stageSource (dirPlain : PlainName dirName)
    (ended : tree.Finishes (stageSource codec sharedRoot jobId checkpointId (parent ++ [dirName])
      maxInMemoryCheckpointBytes) later (.ok checkpoint)) :
    ∃ contents, StagedFrom codec tree sharedRoot (parent ++ [dirName]) jobId checkpointId contents checkpoint
      later := by
  unfold stageSource at ended
  split at ended
  · cases (Finishes.of_pure ended).2
  · next safeId =>
    obtain ⟨tree, place, rooting, first⟩ := Finishes.of_andThen ended
    obtain ⟨rfl, safeJob, rfl⟩ := finishes_jobRoot rooting
    obtain ⟨tree, _, linking, second⟩ := Finishes.of_andThen first
    have unlinked := reaches_reads (ensureNotLink_reads _) linking.reaches
    subst unlinked
    obtain ⟨tree, names, listing, third⟩ := Finishes.of_andThen second
    obtain ⟨rfl, folder, named⟩ := finishes_listSource listing
    obtain ⟨tree, _, declaring, fourth⟩ := Finishes.of_andThen third
    obtain ⟨rfl, each⟩ := finishes_declareSources declaring
    dsimp only at fourth
    split at fourth
    · cases (Finishes.of_pure fourth).2
    · obtain ⟨begun, checkpoint, beginning, staging⟩ := Finishes.of_andThen fourth
      obtain ⟨validId, rfl, made, folders, absent, initial⟩ := finishes_begin (Finishes.of_mapError beginning)
      have empty : Filled codec begun ⟨sharedRoot ++ [jobId] ++ [checkpointId], checkpointId, []⟩ [] :=
        ⟨.nil, fun _ no => (by cases no), fun _ no => (by cases no)⟩
      obtain ⟨contents, sorted, filled, source, fits, placed, called⟩ :=
        finishes_stageWithinBudget dirPlain empty (by rw [UInt64.toNat_zero]; omega) staging
      have same : (contents.map Prod.fst).Perm (tree.childNames (parent ++ [dirName])) := by
        rw [sorted]
        exact (List.mergeSort_perm names _).trans named
      have holds : HoldsExactly tree (parent ++ [dirName]) contents := by
        refine holdsExactly_of_names folder same fun content listed => ?_
        have there := source content listed
        rw [wrote_source (onceName_marker .writing) (reserved_hidden (by decide)) (filled.accepted content listed)
          initial, folders] at there
        split at there
        · cases there
        · exact there
      have marked (path : DiskPath) (apart : ∀ suffix, path ≠ sharedRoot ++ [jobId] ++ [checkpointId] ++
          [DurabilityState.writing.markerName ++ suffix]) : begun.kindAt path = made.kindAt path :=
        (wrote_joined (onceName_marker .writing) initial).elsewhere path (apart _)
          (fun same => absurd same (apart _)) (by simpa using apart "")
      rw [UInt64.toNat_zero, Nat.zero_add] at fits
      refine ⟨contents, safeId, safeJob, validId, holds, same.nodup_iff.mpr nodup_childNames, fits, placed, called,
        filled, fun path above => ?_, ?_⟩
      · refine folder_reaches (Asks.mono (stageWithinBudget_asks mayStage_confined rfl) fun _ confined =>
          confined.2 path) staging.reaches ?_
        rw [marked path fun suffix same => ?_, folders, if_pos above]
        have := above.length_le
        simp [same] at this
      · rw [kindAt_touches (stageWithinBudget_asks mayStage_spares rfl) (not_not.mpr rfl) staging.reaches, marked,
          absent]
        intro suffix same
        rw [List.append_cancel_left_eq, List.cons.injEq] at same
        exact ne_of_head (by decide) (marker_hidden .writing) suffix same.1

/-- Before the commit no manifest is touched. -/
theorem reaches_stageSource (reached : tree.Reaches (stageSource codec sharedRoot jobId checkpointId sourceDir cap) later) :
    later.kindAt (sharedRoot ++ [jobId] ++ [checkpointId] ++ [manifestFilename]) =
      tree.kindAt (sharedRoot ++ [jobId] ++ [checkpointId] ++ [manifestFilename]) :=
  kindAt_touches (Holds.mono (stageSource_ends mayStage_spares) fun _ _ _ => trivial) (not_not.mpr rfl) reached

/-- A folder of these contents is published. -/
structure Published (codec : CheckpointCodec) (tree : FileTree) (sharedRoot sourceDir : DiskPath) (checkpointId : String)
    (about : ManifestMeta) (contents : List (String × List UInt8)) (manifest : CheckpointManifest)
    (later : FileTree) : Prop where
  safeId : safeComponent checkpointId "checkpoint_id" = .ok ()
  safeJob : safeComponent about.jobId "job_id" = .ok ()
  validId : validateCheckpointId checkpointId = .ok ()
  source : HoldsExactly tree sourceDir contents
  distinct : (contents.map Prod.fst).Nodup
  filled : contents ≠ []
  accepted : ∀ content ∈ contents, validateLogicalName content.1 = .ok ()
  fits : sizeOf contents ≤ maxInMemoryCheckpointBytes.toNat
  whole : manifest = manifestOf codec (sharedRoot ++ [about.jobId] ++ [checkpointId]) checkpointId about contents
  onDisk : OnDisk codec later (sharedRoot ++ [about.jobId] ++ [checkpointId]) manifest contents
  folders : ∀ path, path <+: sharedRoot ++ [about.jobId] ++ [checkpointId] → later.kindAt path = some .folder

theorem StagedFrom.published {staged : StagedCheckpoint} {contents : List (String × List UInt8)} {between : FileTree}
    (from_ : StagedFrom codec tree sharedRoot sourceDir about.jobId checkpointId contents staged between)
    (reached : between.Reaches (staged.commit codec about) later) (filled : contents ≠ [])
    (onDisk : OnDisk codec later staged.dir (manifestOf codec staged.dir staged.checkpointId about contents) contents) :
    Published codec tree sharedRoot sourceDir checkpointId about contents
      (manifestOf codec (sharedRoot ++ [about.jobId] ++ [checkpointId]) checkpointId about contents) later := by
  rw [from_.placed, from_.called] at onDisk
  refine ⟨from_.safeId, from_.safeJob, from_.validId, from_.source, from_.distinct, filled, from_.filled.accepted,
    from_.fits, rfl, onDisk, fun path above => ?_⟩
  exact folder_reaches (Asks.mono (commit_confined from_.placed) fun _ confined => confined.2 path) reached
    (from_.folders path above)

theorem finishes_publishDirectory (dirPlain : PlainName dirName)
    (ended : tree.Finishes (publishDirectoryCapped codec sharedRoot about.jobId checkpointId (parent ++ [dirName]) about
      maxInMemoryCheckpointBytes) later (.ok committed)) :
    ∃ contents, Published codec tree sharedRoot (parent ++ [dirName]) checkpointId about contents committed.manifest
      later := by
  rw [publishDirectoryCapped_eq] at ended
  obtain ⟨between, staged, staging, committing⟩ := Finishes.of_andThen ended
  obtain ⟨contents, from_⟩ := finishes_stageSource dirPlain staging
  have commits := Finishes.of_mapError committing
  obtain ⟨whole, filled, onDisk⟩ := finishes_commit from_.filled commits
  rw [whole] at onDisk
  refine ⟨contents, ?_⟩
  rw [whole, from_.placed, from_.called]
  exact from_.published commits.reaches filled onDisk

/-- Wherever a publication is stopped, it has not touched the manifest or it has published. -/
theorem reaches_publishDirectory (dirPlain : PlainName dirName)
    (reached : tree.Reaches (publishDirectoryCapped codec sharedRoot about.jobId checkpointId (parent ++ [dirName]) about
      maxInMemoryCheckpointBytes) later) :
    later.kindAt (sharedRoot ++ [about.jobId] ++ [checkpointId] ++ [manifestFilename]) =
        tree.kindAt (sharedRoot ++ [about.jobId] ++ [checkpointId] ++ [manifestFilename]) ∨
      ∃ contents manifest, Published codec tree sharedRoot (parent ++ [dirName]) checkpointId about contents manifest
        later := by
  rw [publishDirectoryCapped_eq] at reached
  rcases Reaches.of_andThen reached with staging | ⟨between, staged, staging, committing⟩
  · exact Or.inl (reaches_stageSource staging)
  · obtain ⟨contents, from_⟩ := finishes_stageSource dirPlain staging
    have absent := from_.absent
    have untouched := reaches_stageSource staging.reaches
    have commits := Reaches.of_map committing
    rw [← from_.placed] at absent
    rcases reaches_commit from_.filled absent commits with none_ | ⟨filled, onDisk⟩
    · rw [from_.placed] at absent none_
      exact Or.inl (none_.trans (absent.symm.trans untouched))
    · exact Or.inr ⟨contents, _, from_.published commits filled onDisk⟩

end Publishing

end Gputeer.Checkpoint
