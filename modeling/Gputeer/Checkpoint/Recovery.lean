import Gputeer.Checkpoint.Published
import Gputeer.Checkpoint.Restoration
import Gputeer.Lib.Sorting

/-! A publication that was committed but not signed is found again, and given back for as long as it stands and the
folder holds what it did. -/

namespace Gputeer.Checkpoint

open Dialogue Text FileTree

variable {codec : CheckpointCodec} {tree later : FileTree} {sharedRoot sourceDir parent : DiskPath}
  {jobId checkpointId dirName : String} {about : ManifestMeta} {names : List String} {cap used : UInt64}
  {contents : List (String × List UInt8)} {habits : Habits}

section Errors

variable {declared : UInt64} {checkpoint : StagedCheckpoint} {α β : Type}

/-- The result is no error of the beginning of a checkpoint. -/
def NotBeginning (result : Except SharedError α) : Prop := ∀ error, result ≠ .error (.beginning error)

/-- No run of it ends with such an error. -/
abbrev Otherwise (dialogue : FileDialogue (Except SharedError α)) : Prop := Ends (fun _ => True) NotBeginning dialogue

theorem otherwise_text {message : String} :
    Otherwise (pure (.error (.text message)) : FileDialogue (Except SharedError α)) :=
  fun _ no => by cases no

theorem otherwise_ok {value : α} : Otherwise (pure (.ok value) : FileDialogue (Except SharedError α)) :=
  fun _ no => by cases no

theorem otherwise_mapError {Failure : Type} {step : FileDialogue (Except Failure α)} {f : Failure → SharedError}
    (named : ∀ failure error, f failure ≠ .beginning error) : Otherwise (Except.mapError f <$> step) := by
  refine Holds.map (Holds.mono (asks_any step) fun _ result _ error same => ?_)
  cases result with
  | ok value => cases same
  | error failure => exact named failure error (Except.error.inj same)

theorem Otherwise.andThen {step : FileDialogue (Except SharedError α)}
    {next : α → FileDialogue (Except SharedError β)} (first : Otherwise step) (rest : ∀ value, Otherwise (next value)) :
    Otherwise (step.andThen next) := by
  refine Ends.bind first fun result right => ?_
  cases result with
  | ok value => exact rest value
  | error failure => exact fun error same => right error (congrArg Except.error (Except.error.inj same))

theorem ensureNotLink_otherwise (path : DiskPath) : Otherwise (ensureNotLink path) := by
  unfold ensureNotLink
  refine Asks.bind_ends (asks_any _) fun found => ?_
  split
  · exact otherwise_ok
  · exact otherwise_ok
  · exact otherwise_text

theorem safeComponent_text {value what : String} {error : SharedError} (refused : safeComponent value what = .error error) :
    ∃ message, error = .text message := by
  unfold safeComponent at refused
  split at refused
  · cases refused
    exact ⟨_, rfl⟩
  · cases refused

theorem jobRoot_otherwise : Otherwise (jobRoot sharedRoot jobId) := by
  unfold jobRoot
  split
  · next error refused =>
    obtain ⟨message, rfl⟩ := safeComponent_text refused
    exact otherwise_text
  · exact (ensureNotLink_otherwise _).andThen fun _ => otherwise_ok

theorem declareSources_otherwise : Otherwise (declareSources sourceDir cap declared names) := by
  induction names generalizing declared with
  | nil => exact otherwise_ok
  | cons name names ih =>
      refine Otherwise.andThen ?_ fun _ => ih
      refine (otherwise_mapError fun _ _ no => by cases no).andThen fun kind => ?_
      cases kind with
      | folder => exact otherwise_text
      | file =>
          refine (otherwise_mapError fun _ _ no => by cases no).andThen fun length => ?_
          dsimp only
          split
          · exact otherwise_text
          · exact otherwise_ok

theorem readSourceFile_otherwise {name : String} : Otherwise (readSourceFile sourceDir name used) := by
  unfold readSourceFile
  dsimp only
  split
  · exact otherwise_text
  · refine otherwise_mapError fun failure _ no => ?_
    unfold tooLargeMessage at no
    cases failure <;> cases no

theorem stageWithinBudget_otherwise : Otherwise (stageWithinBudget codec sourceDir cap used checkpoint names) := by
  induction names generalizing used checkpoint with
  | nil => exact otherwise_ok
  | cons name names ih =>
      refine readSourceFile_otherwise.andThen fun data => ?_
      exact (otherwise_mapError fun _ _ no => by cases no).andThen fun staged => ih

/-- The error of a checkpoint that has a manifest already. -/
theorem finishes_begin_committed {root : DiskPath} {id : String}
    (ended : tree.Finishes (StagedCheckpoint.begin root checkpointId) later (.error (.alreadyCommitted id))) :
    validateCheckpointId checkpointId = .ok () ∧ MadeFolders tree (root ++ [checkpointId]) later := by
  unfold StagedCheckpoint.begin at ended
  split at ended
  · next error refused =>
    cases (Finishes.of_pure ended).2
    unfold validateCheckpointId at refused
    cases valid : validateComponent checkpointId maxLogicalNameLen with
    | ok done =>
        rw [valid] at refused
        cases refused
    | error reason =>
        rw [valid] at refused
        cases refused
  · next valid =>
    rcases Finishes.of_andThen_error ended with creating | ⟨made, _, creating, looking⟩
    · obtain ⟨outcome, _, same⟩ := Finishes.of_map creating
      cases outcome with
      | ok done => cases same
      | error failure => cases same
    · obtain ⟨said, rfl⟩ := Finishes.of_question (Finishes.of_mapError creating)
      refine ⟨valid, fun path => ?_⟩
      rcases Finishes.of_andThen_error looking with asking | ⟨looked, present, asking, rest⟩
      · obtain ⟨_, outcome, _, last⟩ := Finishes.of_bind asking
        split at last <;> cases (Finishes.of_pure last).2
      · obtain ⟨rfl, _⟩ := finishes_manifestPresent asking
        split at rest
        · obtain ⟨rfl, _⟩ := Finishes.of_pure rest
          exact Honest.createFolders said
        · rcases Finishes.of_andThen_error rest with marking | ⟨_, _, _, last⟩
          · obtain ⟨outcome, _, same⟩ := Finishes.of_map marking
            cases outcome with
            | ok done => cases same
            | error error => cases same
          · cases (Finishes.of_pure last).2

/-- What is so when a publication finds a manifest. -/
structure FoundCommitted (tree : FileTree) (sharedRoot sourceDir : DiskPath) (jobId checkpointId : String)
    (later : FileTree) : Prop where
  safeId : safeComponent checkpointId "checkpoint_id" = .ok ()
  safeJob : safeComponent jobId "job_id" = .ok ()
  validId : validateCheckpointId checkpointId = .ok ()
  folder : tree.kindAt sourceDir = some .folder
  filled : tree.childNames sourceDir ≠ []
  files : ∀ name ∈ tree.childNames sourceDir, ∃ content, tree.kindAt (sourceDir ++ [name]) = some (.file content)
  made : MadeFolders tree (sharedRoot ++ [jobId] ++ [checkpointId]) later

theorem finishes_publish_committed {id : String}
    (ended : tree.Finishes (publishDirectoryCapped codec sharedRoot jobId checkpointId sourceDir about cap) later
      (.error (.beginning (.alreadyCommitted id)))) :
    FoundCommitted tree sharedRoot sourceDir jobId checkpointId later := by
  rw [publishDirectoryCapped_eq] at ended
  have otherwise_ {α : Type} {dialogue : FileDialogue (Except SharedError α)} {first last : FileTree}
      (right : Otherwise dialogue) : ¬ first.Finishes dialogue last (.error (.beginning (.alreadyCommitted id))) :=
    fun failed => failed.right right _ rfl
  rcases Finishes.of_andThen_error ended with staging | ⟨_, _, _, committing⟩
  · unfold stageSource at staging
    split at staging
    · next error refused =>
      obtain ⟨message, rfl⟩ := safeComponent_text refused
      cases (Finishes.of_pure staging).2
    · next safeId =>
      rcases Finishes.of_andThen_error staging with failed | ⟨tree, place, rooting, first⟩
      · exact absurd failed (otherwise_ jobRoot_otherwise)
      · obtain ⟨rfl, safeJob, rfl⟩ := finishes_jobRoot rooting
        rcases Finishes.of_andThen_error first with failed | ⟨tree, _, linking, second⟩
        · exact absurd failed (otherwise_ (ensureNotLink_otherwise _))
        · have unlinked := reaches_reads (ensureNotLink_reads _) linking.reaches
          subst unlinked
          rcases Finishes.of_andThen_error second with failed | ⟨tree, names, listing, third⟩
          · exact absurd failed (otherwise_ (otherwise_mapError fun _ _ no => by cases no))
          · obtain ⟨rfl, folder, named⟩ := finishes_listSource listing
            rcases Finishes.of_andThen_error third with failed | ⟨tree, _, declaring, fourth⟩
            · exact absurd failed (otherwise_ declareSources_otherwise)
            · obtain ⟨rfl, each⟩ := finishes_declareSources declaring
              dsimp only at fourth
              split at fourth
              · cases (Finishes.of_pure fourth).2
              · next filled =>
                rcases Finishes.of_andThen_error fourth with beginning | ⟨_, _, _, staging⟩
                · obtain ⟨outcome, begins, same⟩ := Finishes.of_map beginning
                  cases outcome with
                  | ok begun => cases same
                  | error error =>
                      cases same
                      obtain ⟨validId, made⟩ := finishes_begin_committed begins
                      refine ⟨safeId, safeJob, validId, folder, fun none_ => filled ?_, fun name listed => ?_, made⟩
                      · rw [none_] at named
                        exact List.perm_nil.mp named
                      · exact each name (named.mem_iff.mpr listed)
                · exact absurd staging (otherwise_ stageWithinBudget_otherwise)
  · obtain ⟨outcome, _, same⟩ := Finishes.of_map committing
    cases outcome with
    | ok committed => cases same
    | error error => cases same

end Errors

section Verified

variable {dir path : DiskPath} {relative : String} {manifest : Protocol.CheckpointManifest} {maxBytes : UInt64}

theorem sure_readBeneath : tree.Sure (readBeneath dir relative) := by
  unfold readBeneath
  split
  · exact sure_pure _
  · exact sure_read.mapError

theorem sure_readBeneathCapped : tree.Sure (readBeneathCapped dir relative maxBytes) :=
  sure_readBeneath.andThen readBeneath_reads fun _ => sure_pure _

theorem sure_verifySharedFile (file : Protocol.CheckpointFile) : tree.Sure (verifySharedFile codec dir file) := by
  unfold verifySharedFile
  dsimp only
  split
  · exact sure_pure _
  · exact sure_readBeneathCapped.mapError.andThen (Asks.map (readBeneathCapped_reads _)) fun _ => sure_pure _

theorem sure_verifySharedFiles (files : List Protocol.CheckpointFile) :
    tree.Sure (verifySharedFiles codec dir files) := by
  induction files with
  | nil => exact sure_pure _
  | cons file files ih => exact (sure_verifySharedFile file).andThen (verifySharedFile_reads file) fun _ => ih.mapOk

theorem sure_ensureNotLink : tree.Sure (ensureNotLink path) := by
  intro later done ended
  exact ⟨reaches_reads (ensureNotLink_reads path) ended.reaches, fun _ => look_ensureNotLink path⟩

theorem sure_jobRoot {jobId : String} : tree.Sure (jobRoot sharedRoot jobId) := by
  unfold jobRoot
  split
  · exact sure_pure _
  · exact sure_ensureNotLink.andThen (ensureNotLink_reads _) fun _ => sure_pure _

/-- What is verified on a disk that may fail is so. -/
theorem sure_verifyOnDisk : tree.Sure (verifyOnDisk codec sharedRoot manifest) := by
  unfold verifyOnDisk verifyOnDiskCapped
  split
  · exact sure_pure _
  · refine sure_jobRoot.andThen (jobRoot_reads _) fun root => ?_
    dsimp only
    refine sure_ensureNotLink.andThen (ensureNotLink_reads _) fun _ => ?_
    split
    · exact sure_pure _
    · split
      · exact sure_pure _
      · exact (sure_verifySharedFiles _).andThen (verifySharedFiles_reads _) fun _ => sure_pure _

theorem look_readBeneath_congr
    (same : ∀ name rest, later.kindAt (dir ++ name :: rest) = tree.kindAt (dir ++ name :: rest)) :
    look habits later (readBeneath dir relative) = look habits tree (readBeneath dir relative) := by
  unfold readBeneath
  split
  · rfl
  · next names opened =>
    obtain ⟨name, rest, rfl⟩ := List.exists_cons_of_ne_nil (openBeneath_ne_nil opened)
    rw [look_map, look_map]
    simp only [look, serve_question, answer, same]

theorem look_verifySharedFiles_congr {files : List Protocol.CheckpointFile}
    (same : ∀ name rest, later.kindAt (dir ++ name :: rest) = tree.kindAt (dir ++ name :: rest)) :
    look habits later (verifySharedFiles codec dir files) = look habits tree (verifySharedFiles codec dir files) := by
  have capped (relative : String) (maxBytes : UInt64) :
      look habits later (readBeneathCapped dir relative maxBytes) =
        look habits tree (readBeneathCapped dir relative maxBytes) := by
    unfold readBeneathCapped
    rw [look_andThen readBeneath_reads, look_andThen readBeneath_reads, look_readBeneath_congr same]
    rfl
  have each (file : Protocol.CheckpointFile) :
      look habits later (verifySharedFile codec dir file) = look habits tree (verifySharedFile codec dir file) := by
    unfold verifySharedFile
    dsimp only
    split
    · rfl
    · rw [look_andThen (Asks.map (readBeneathCapped_reads _)), look_andThen (Asks.map (readBeneathCapped_reads _)),
        look_map, look_map, capped]
      rfl
  induction files with
  | nil => rfl
  | cons file files ih =>
      unfold verifySharedFiles
      rw [look_andThen (verifySharedFile_reads file), look_andThen (verifySharedFile_reads file), each]
      simp only [look_map, ih]

/-- Only what is in the directory of the checkpoint is verified. -/
theorem look_verifyOnDisk_congr (same : ∀ name rest,
      later.kindAt (sharedRoot ++ [manifest.jobId] ++ [manifest.checkpointId] ++ name :: rest) =
        tree.kindAt (sharedRoot ++ [manifest.jobId] ++ [manifest.checkpointId] ++ name :: rest)) :
    look habits later (verifyOnDisk codec sharedRoot manifest) =
      look habits tree (verifyOnDisk codec sharedRoot manifest) := by
  unfold verifyOnDisk verifyOnDiskCapped
  split
  · rfl
  · rw [look_andThen (jobRoot_reads _), look_andThen (jobRoot_reads _)]
    cases safe : safeComponent manifest.jobId "job_id" with
    | error error =>
        unfold jobRoot
        rw [safe]
        rfl
    | ok done =>
        rw [look_jobRoot safe, look_jobRoot safe]
        dsimp only
        rw [look_andThen (ensureNotLink_reads _), look_andThen (ensureNotLink_reads _), look_ensureNotLink,
          look_ensureNotLink]
        dsimp only
        split
        · rfl
        · split
          · rfl
          · rw [look_andThen (verifySharedFiles_reads _), look_andThen (verifySharedFiles_reads _),
              look_verifySharedFiles_congr same]
            rfl

end Verified

section Source

variable {listed : List (String × List UInt8)}

theorem readSource_reads {sourceDir : DiskPath} (names : List String) :
    (readSource sourceDir cap used names).Asks FileQuestion.Reads := by
  induction names generalizing used with
  | nil => exact asks_pure _
  | cons name names ih => exact Asks.andThen (readSourceFile_reads name) fun _ => Asks.map ih

theorem finishes_readSource (dirPlain : PlainName dirName) (plain : ∀ name ∈ names, PlainName name)
    (within : used.toNat ≤ cap.toNat)
    (ended : tree.Finishes (readSource (parent ++ [dirName]) cap used names) later (.ok contents)) :
    later = tree ∧ contents.map Prod.fst = names ∧
      (∀ content ∈ contents, tree.kindAt (parent ++ [dirName] ++ [content.1]) = some (.file content.2)) ∧
      used.toNat + sizeOf contents ≤ cap.toNat := by
  induction names generalizing contents used with
  | nil =>
      obtain ⟨rfl, same⟩ := Finishes.of_pure ended
      cases same
      exact ⟨rfl, rfl, fun _ no => (by cases no), within⟩
  | cons name names ih =>
      rw [List.forall_mem_cons] at plain
      obtain ⟨between, data, reading, rest⟩ := Finishes.of_andThen ended
      obtain ⟨rfl, small, there⟩ := finishes_readSourceFile dirPlain plain.1 reading
      obtain ⟨others, further, rfl⟩ := Finishes.of_mapOk rest
      rw [UInt64.toNat_saturatingSub] at small
      have sum := UInt64.toNat_saturatingAdd_length (show used.toNat + data.length ≤ cap.toNat by omega)
      obtain ⟨same, named, source, fits⟩ := ih plain.2 (by rw [sum]; omega) further
      refine ⟨same, by rw [List.map_cons, named], List.forall_mem_cons.mpr ⟨there, source⟩, ?_⟩
      change used.toNat + (data.length + sizeOf others) ≤ cap.toNat
      omega

theorem look_readSource (dirPlain : PlainName dirName) (plain : ∀ content ∈ listed, PlainName content.1)
    (source : ∀ content ∈ listed, tree.kindAt (parent ++ [dirName] ++ [content.1]) = some (.file content.2))
    (fits : used.toNat + sizeOf listed ≤ cap.toNat) :
    look habits tree (readSource (parent ++ [dirName]) cap used (listed.map Prod.fst)) = .ok listed := by
  induction listed generalizing used with
  | nil => rfl
  | cons content listed ih =>
      obtain ⟨name, data⟩ := content
      rw [List.forall_mem_cons] at plain source
      have fits : used.toNat + (data.length + sizeOf listed) ≤ cap.toNat := fits
      have sum := UInt64.toNat_saturatingAdd_length (show used.toNat + data.length ≤ cap.toNat by omega)
      have small : data.length ≤ (cap.saturatingSub used).toNat := by
        rw [UInt64.toNat_saturatingSub]
        omega
      have first : look habits tree (readSourceFile (parent ++ [dirName]) name (cap.saturatingSub used)) = .ok data :=
        congrArg Prod.snd (serve_readSourceFile dirPlain plain.1 source.1 small)
      rw [List.map_cons]
      unfold readSource
      rw [look_andThen (readSourceFile_reads name), first]
      dsimp only
      rw [look_map, ih plain.2 source.2 (by rw [sum]; omega)]
      rfl

instance : Std.TransCmp contentOrder :=
  inferInstanceAs (Std.TransCmp (compareLex (compareOn Prod.fst) (compareOn Prod.snd)))

theorem eq_of_contentOrder {left right : String × List UInt8} (same : contentOrder left right = .eq) : left = right := by
  unfold contentOrder compareLex compareOn at same
  rw [Ordering.then_eq_eq] at same
  exact Prod.ext (Std.LawfulEqOrd.eq_of_compare same.1) (Std.LawfulEqOrd.eq_of_compare same.2)

/-- Sorted lists are the same for the same files. -/
theorem sortContents_eq_iff : sortContents listed = sortContents contents ↔ listed.Perm contents := by
  constructor
  · intro same
    have sorted : (sortContents listed).Perm contents := by
      rw [same]
      exact List.mergeSort_perm contents _
    exact (List.mergeSort_perm listed _).symm.trans sorted
  · intro same
    exact same.mergeSort_isLE_of_mem fun left _ right _ => eq_of_contentOrder

end Source

section Standing

variable {manifest : CheckpointManifest} {signed : Protocol.CheckpointManifest} {onDisk : List (String × List UInt8)}

/-- A committed checkpoint that holds these contents and is the one that is asked for. -/
structure Standing (codec : CheckpointCodec) (tree : FileTree) (sharedRoot : DiskPath) (checkpointId : String)
    (about : ManifestMeta) (manifest : CheckpointManifest) (signed : Protocol.CheckpointManifest)
    (contents : List (String × List UInt8)) : Prop where
  safeId : safeComponent checkpointId "checkpoint_id" = .ok ()
  safeJob : safeComponent about.jobId "job_id" = .ok ()
  validId : validateCheckpointId checkpointId = .ok ()
  folders : ∀ path, path <+: sharedRoot ++ [about.jobId] ++ [checkpointId] → tree.kindAt path = some .folder
  whole : ∃ json, codec.fromJson json = .ok manifest ∧
    tree.kindAt (sharedRoot ++ [about.jobId] ++ [checkpointId] ++ [manifestFilename]) = some (.file json)
  requested : isRequested checkpointId about manifest = true
  converts : toUnsignedPb manifest = .ok signed
  verified : ∀ habits, look habits tree (verifyOnDisk codec sharedRoot signed) = .ok contents
  filled : contents ≠ []
  distinct : (contents.map Prod.fst).Nodup
  plain : ∀ content ∈ contents, PlainName content.1
  fits : sizeOf contents ≤ maxInMemoryCheckpointBytes.toNat

theorem toUnsignedPb_names (converts : toUnsignedPb manifest = .ok signed) :
    signed.jobId = manifest.jobId ∧ signed.checkpointId = manifest.checkpointId := by
  unfold toUnsignedPb at converts
  obtain ⟨files, _, rest⟩ := Except.bind_eq_ok.mp converts
  obtain ⟨root, _, last⟩ := Except.bind_eq_ok.mp rest
  cases last
  exact ⟨rfl, rfl⟩

theorem isRequested_names (requested : isRequested checkpointId about manifest = true) :
    manifest.checkpointId = checkpointId ∧ manifest.jobId = about.jobId := by
  simp only [isRequested, Bool.and_eq_true, decide_eq_true_eq] at requested
  exact ⟨requested.1.1.1.1.1, requested.1.1.1.1.2⟩

/-- It stands while nothing in its directory changes. -/
theorem Standing.kept (standing : Standing codec tree sharedRoot checkpointId about manifest signed contents)
    (below : ∀ name rest, later.kindAt (sharedRoot ++ [about.jobId] ++ [checkpointId] ++ name :: rest) =
      tree.kindAt (sharedRoot ++ [about.jobId] ++ [checkpointId] ++ name :: rest))
    (folders : ∀ path, path <+: sharedRoot ++ [about.jobId] ++ [checkpointId] → later.kindAt path = some .folder) :
    Standing codec later sharedRoot checkpointId about manifest signed contents := by
  obtain ⟨json, parsed, there⟩ := standing.whole
  obtain ⟨named, ofJob⟩ := isRequested_names standing.requested
  obtain ⟨signedJob, signedId⟩ := toUnsignedPb_names standing.converts
  rw [ofJob] at signedJob
  rw [named] at signedId
  have looks (habits : Habits) : look habits later (verifyOnDisk codec sharedRoot signed) =
      look habits tree (verifyOnDisk codec sharedRoot signed) := by
    refine look_verifyOnDisk_congr ?_
    rwa [signedJob, signedId]
  exact { standing with
    folders := folders
    whole := ⟨json, parsed, (below manifestFilename []).trans there⟩
    verified := fun habits => (looks habits).trans (standing.verified habits) }

theorem compareSource_reads :
    (compareSource checkpointId sourceDir cap manifest onDisk).Asks FileQuestion.Reads := by
  have list : FileQuestion.Reads (.list sourceDir) := trivial
  unfold compareSource
  refine Asks.andThen (Asks.map (asks_question list)) fun names => ?_
  refine Asks.andThen (readSource_reads names) fun source => ?_
  split
  · exact asks_pure _
  · exact asks_pure _

theorem recoverCommitted_reads : (recoverCommitted codec sharedRoot jobId checkpointId sourceDir about
    maxInMemoryCheckpointBytes).Asks FileQuestion.Reads := by
  unfold recoverCommitted
  refine Asks.andThen (jobRoot_reads _) fun root => ?_
  refine Asks.andThen (Asks.map readBeneath_reads) fun json => ?_
  split
  · exact asks_pure _
  · split
    · exact asks_pure _
    · split
      · exact asks_pure _
      · exact Asks.andThen verifyOnDisk_reads fun onDisk => compareSource_reads

/-- Folders that are there are not made again. -/
theorem putFolders_there {path : DiskPath} (folders : ∀ part, part <+: path → tree.kindAt part = some .folder) :
    path.inits.foldl putFolder tree = tree := by
  have inits : ∀ part ∈ path.inits, tree.kindAt part = some .folder :=
    fun part listed => folders part ((List.mem_inits _ _).mp listed)
  generalize path.inits = parts at inits
  induction parts with
  | nil => rfl
  | cons part parts ih =>
      rw [List.forall_mem_cons] at inits
      have same : tree.putFolder part = tree := by
        unfold putFolder
        rw [inits.1]
      rw [List.foldl_cons, same]
      exact ih inits.2

theorem serve_createFolders_there {path : DiskPath}
    (folders : ∀ part, part <+: path → tree.kindAt part = some .folder) :
    tree.serve habits (FileQuestion.createFolders path).ask = (tree, .ok ()) := by
  rw [serve_createFolders fun part listed => Or.inr (folders part ((List.mem_inits _ _).mp listed)),
    putFolders_there folders]

/-- What stands is found by a publication. -/
theorem Standing.found (standing : Standing codec tree sharedRoot checkpointId about manifest signed contents)
    (holds : HoldsExactly tree sourceDir contents) :
    tree.serve habits (publishDirectoryCapped codec sharedRoot about.jobId checkpointId sourceDir about
      maxInMemoryCheckpointBytes) = (tree, .error (.beginning (.alreadyCommitted checkpointId))) := by
  let names := habits.shuffle (tree.childNames sourceDir)
  have declared : look habits tree (declareSources sourceDir maxInMemoryCheckpointBytes 0 names) = .ok () :=
    holds.declares standing.distinct standing.fits
  have someNames : names ≠ [] := holds.someNames standing.distinct standing.filled
  have listing : tree.serve habits (listSource sourceDir) = (tree, .ok names) := holds.lists
  obtain ⟨json, _, there⟩ := standing.whole
  have present : look habits tree (manifestPresent (sharedRoot ++ [about.jobId] ++ [checkpointId])) = .ok true := by
    have read : look habits tree (readBeneath (sharedRoot ++ [about.jobId] ++ [checkpointId]) manifestFilename) =
      .ok json := look_readBeneath.mpr ⟨_, openBeneath_manifest, there⟩
    unfold manifestPresent
    rw [look_bind readBeneath_reads, read]
    rfl
  have begins : tree.serve habits (StagedCheckpoint.begin (sharedRoot ++ [about.jobId]) checkpointId) =
      (tree, .error (.alreadyCommitted checkpointId)) := by
    unfold StagedCheckpoint.begin
    rw [standing.validId]
    dsimp only
    rw [serve_ok (serve_mapError (serve_createFolders_there standing.folders)),
      serve_andThen_reads (manifestPresent_reads _), present]
    rfl
  unfold publishDirectoryCapped
  rw [standing.safeId]
  dsimp only
  rw [serve_andThen_reads (jobRoot_reads _), look_jobRoot standing.safeJob]
  dsimp only
  rw [serve_andThen_reads (ensureNotLink_reads _), look_ensureNotLink]
  dsimp only
  rw [serve_ok listing, serve_andThen_reads (declareSources_reads _), declared]
  dsimp only
  rw [if_neg someNames]
  unfold stageAndCommit
  exact serve_failed (serve_mapped begins)

theorem Standing.compares (standing : Standing codec tree sharedRoot checkpointId about manifest signed contents)
    (dirPlain : PlainName dirName) (holds : HoldsExactly tree (parent ++ [dirName]) contents) :
    look habits tree (compareSource checkpointId (parent ++ [dirName]) maxInMemoryCheckpointBytes manifest contents) =
      .ok manifest := by
  let names := habits.shuffle (tree.childNames (parent ++ [dirName]))
  have listed : (withData contents names).Perm contents := holds.asListed standing.distinct
  have fits := standing.fits
  have listing : look habits tree (FileQuestion.list (parent ++ [dirName])).ask = .ok names := by
    simp only [look, serve_question, answer, holds.1]
    rfl
  have read : look habits tree (readSource (parent ++ [dirName]) maxInMemoryCheckpointBytes 0 names) =
      .ok (withData contents names) := by
    have found := @look_readSource tree parent dirName maxInMemoryCheckpointBytes 0 habits (withData contents names)
      dirPlain (fun content there => standing.plain content (listed.mem_iff.mp there))
      (fun content there => holds.file standing.distinct (listed.mem_iff.mp there))
      (by rw [sizeOf_perm listed, UInt64.toNat_zero]; omega)
    rwa [names_withData] at found
  have list : FileQuestion.Reads (.list (parent ++ [dirName])) := trivial
  unfold compareSource
  dsimp only
  rw [look_andThen (Asks.map (asks_question list)), look_map, listing]
  dsimp only [Except.mapError]
  rw [look_andThen (readSource_reads _), read]
  dsimp only
  rw [if_neg (not_not.mpr (sortContents_eq_iff.mpr listed))]
  rfl

/-- What stands is given back, for the same folder. -/
theorem Standing.again (standing : Standing codec tree sharedRoot checkpointId about manifest signed contents)
    (dirPlain : PlainName dirName) (holds : HoldsExactly tree (parent ++ [dirName]) contents) :
    tree.serve habits (publishOrRecover codec sharedRoot about.jobId checkpointId (parent ++ [dirName]) about) =
      (tree, .ok manifest) := by
  obtain ⟨json, parsed, there⟩ := standing.whole
  have read : look habits tree (readBeneath (sharedRoot ++ [about.jobId] ++ [checkpointId]) manifestFilename) =
    .ok json := look_readBeneath.mpr ⟨_, openBeneath_manifest, there⟩
  have verified : look habits tree (verifyOnDiskCapped codec sharedRoot signed maxInMemoryCheckpointBytes) =
    .ok contents := standing.verified habits
  have asks : (verifyOnDiskCapped codec sharedRoot signed maxInMemoryCheckpointBytes).Asks FileQuestion.Reads :=
    verifyOnDisk_reads
  unfold publishOrRecover publishOrRecoverCapped
  rw [serve_then (standing.found holds)]
  dsimp only
  refine serve_of_look recoverCommitted_reads ?_
  unfold recoverCommitted
  rw [look_andThen (jobRoot_reads _), look_jobRoot standing.safeJob]
  dsimp only
  rw [look_andThen (Asks.map readBeneath_reads), look_map, read]
  dsimp only [Except.mapError]
  rw [parsed]
  dsimp only
  rw [standing.requested, if_neg (by simp), standing.converts]
  dsimp only
  rw [look_andThen asks, verified]
  exact standing.compares dirPlain holds

end Standing

section Found

variable {between : FileTree} {manifest : CheckpointManifest} {files : List (String × List UInt8)}

/-- The names that are asked for are such that a disk can have. -/
structure DiskNames (tree : FileTree) (sharedRoot sourceDir : DiskPath) : Prop where
  root : ∀ part ∈ sharedRoot, PlainName part
  source : ∀ name, (tree.kindAt (sourceDir ++ [name])).isSome → PlainName name

theorem HoldsExactly.filled (holds : HoldsExactly tree sourceDir contents) (some_ : tree.childNames sourceDir ≠ []) :
    contents ≠ [] := by
  rintro rfl
  refine some_ (List.eq_nil_iff_forall_not_mem.mpr fun name listed => ?_)
  have there := mem_childNames.mp listed
  rw [holds.2] at there
  cases there

/-- A folder that was listed and read, when the folders of a checkpoint had been made. -/
theorem FoundCommitted.holds
    (found : FoundCommitted tree sharedRoot sourceDir about.jobId checkpointId between)
    (holds : HoldsExactly between sourceDir contents) : HoldsExactly tree sourceDir contents := by
  refine ⟨found.folder, fun name => ?_⟩
  have there := holds.2 name
  rw [found.made] at there
  split at there
  · cases last : contents.lastValue name with
    | some data =>
        rw [last] at there
        cases there
    | none =>
        rw [last] at there
        cases there
  · exact there

theorem FoundCommitted.plain
    (found : FoundCommitted tree sharedRoot sourceDir about.jobId checkpointId between)
    (names : DiskNames tree sharedRoot sourceDir) {name : String}
    (there : (between.kindAt (sourceDir ++ [name])).isSome) : PlainName name := by
  rw [found.made] at there
  split at there
  · next above =>
    have part : name ∈ sharedRoot ++ [about.jobId] ++ [checkpointId] := above.subset (by simp)
    simp only [List.mem_append, List.mem_singleton] at part
    rcases part with (root | rfl) | rfl
    · exact names.root name root
    · exact (safeComponent_eq_ok.mp found.safeJob).1
    · exact (safeComponent_eq_ok.mp found.safeId).1
  · exact names.source name there

theorem finishes_compareSource (dirPlain : PlainName dirName) {same : CheckpointManifest}
    (plain : ∀ name, (tree.kindAt (parent ++ [dirName] ++ [name])).isSome → PlainName name)
    (ended : tree.Finishes (compareSource checkpointId (parent ++ [dirName]) maxInMemoryCheckpointBytes manifest contents)
      later (.ok same)) :
    later = tree ∧ same = manifest ∧ HoldsExactly tree (parent ++ [dirName]) contents ∧
      (contents.map Prod.fst).Nodup ∧ (∀ content ∈ contents, PlainName content.1) ∧
      sizeOf contents ≤ maxInMemoryCheckpointBytes.toNat := by
  obtain ⟨listed, names, listing, reading⟩ := Finishes.of_andThen ended
  obtain ⟨said, rfl⟩ := Finishes.of_question (Finishes.of_mapError listing)
  obtain ⟨folder, named⟩ := Honest.list said
  have plainNames : ∀ name ∈ names, PlainName name :=
    fun name listed => plain name (mem_childNames.mp (named.mem_iff.mp listed))
  obtain ⟨_, source, read, comparing⟩ := Finishes.of_andThen reading
  obtain ⟨rfl, sameNames, there, fits⟩ := finishes_readSource dirPlain plainNames (by rw [UInt64.toNat_zero]; omega) read
  split at comparing
  · cases (Finishes.of_pure comparing).2
  · next sorted =>
    obtain ⟨unchanged, ended⟩ := Finishes.of_pure comparing
    cases ended
    have perm : source.Perm contents := sortContents_eq_iff.mp (not_not.mp sorted)
    have held := named
    rw [← sameNames] at held
    have distinct : (source.map Prod.fst).Nodup := held.nodup_iff.mpr nodup_childNames
    rw [UInt64.toNat_zero, Nat.zero_add, sizeOf_perm perm] at fits
    refine ⟨unchanged, rfl, (holdsExactly_of_names folder held there).perm distinct perm,
      (perm.map Prod.fst).nodup_iff.mp distinct, fun content listed => ?_, fits⟩
    refine plainNames content.1 ?_
    rw [← sameNames]
    exact List.mem_map_of_mem (perm.mem_iff.mpr listed)

/-- What is given back was committed before, and is what the folder holds. -/
theorem finishes_recoverCommitted (dirPlain : PlainName dirName)
    (found : FoundCommitted tree sharedRoot (parent ++ [dirName]) about.jobId checkpointId between)
    (names : DiskNames tree sharedRoot (parent ++ [dirName]))
    (ended : between.Finishes (recoverCommitted codec sharedRoot about.jobId checkpointId (parent ++ [dirName]) about
      maxInMemoryCheckpointBytes) later (.ok manifest)) :
    ∃ signed contents, Standing codec later sharedRoot checkpointId about manifest signed contents ∧
      HoldsExactly tree (parent ++ [dirName]) contents := by
  obtain ⟨tree, place, rooting, first⟩ := Finishes.of_andThen ended
  obtain ⟨rfl, safeJob, rfl⟩ := finishes_jobRoot rooting
  obtain ⟨tree, json, reading, second⟩ := Finishes.of_andThen first
  obtain ⟨rfl, _, opened, there⟩ := finishes_readBeneath (Finishes.of_mapError reading)
  rw [openBeneath_manifest] at opened
  cases opened
  split at second
  · cases (Finishes.of_pure second).2
  · next read parsed =>
    split at second
    · cases (Finishes.of_pure second).2
    · next requested =>
      split at second
      · cases (Finishes.of_pure second).2
      · next signed converts =>
        obtain ⟨_, contents, verifying, comparing⟩ := Finishes.of_andThen second
        obtain ⟨rfl, verified⟩ := sure_verifyOnDisk _ _ verifying
        obtain ⟨rfl, rfl, holds, distinct, plain, fits⟩ :=
          finishes_compareSource dirPlain (fun name there => found.plain names there) comparing
        have held := found.holds holds
        refine ⟨signed, contents, ⟨found.safeId, safeJob, found.validId, fun path above => ?_, ⟨json, parsed, there⟩, ?_,
          converts, verified, held.filled found.filled, distinct, plain, fits⟩, held⟩
        · rw [found.made, if_pos above]
        · simpa using requested

end Found

end Gputeer.Checkpoint
