import Gputeer.Checkpoint.Recovery

/-! What is given back to be signed is what the folder holds, whichever way it came to be on the disk, and stays so
through whatever goes on around the store. -/

namespace Gputeer.Checkpoint

open Dialogue Text FileTree

variable {codec : CheckpointCodec} {tree later : FileTree} {sharedRoot parent sourceDir : DiskPath}
  {jobId checkpointId dirName : String} {about : ManifestMeta} {manifest : CheckpointManifest} {cap : UInt64}
  {signed : Protocol.CheckpointManifest} {contents : List (String × List UInt8)}

section Steps

variable {between : FileTree}

theorem Published.standing (published : Published codec tree sharedRoot sourceDir checkpointId about contents manifest later)
    (readable : ∀ manifest json, codec.toJson manifest = .ok json → codec.fromJson json = .ok manifest) :
    ∃ signed, Standing codec later sharedRoot checkpointId about manifest signed contents := by
  have logical : ∀ content ∈ contents, LogicalName content.1 :=
    fun content listed => validateLogicalName_ok (published.accepted content listed)
  obtain ⟨json, encoded, there⟩ := published.onDisk.whole
  obtain ⟨signed, converts, tells⟩ := @toUnsignedPb_manifestOf codec
    (sharedRoot ++ [about.jobId] ++ [checkpointId]) checkpointId about contents published.filled
  rw [← published.whole] at converts
  refine ⟨signed, published.safeId, published.safeJob, published.validId, published.folders,
    ⟨json, readable _ _ encoded, there⟩, ?_, converts, fun habits => ?_, published.filled, published.distinct,
    fun content listed => (logical content listed).plain, published.fits⟩
  · rw [published.whole]
    simp [isRequested, manifestOf, StagedCheckpoint.buildManifest, stagedWith]
  · exact look_verifyOnDisk published.filled tells published.safeId published.safeJob logical published.fits
      published.onDisk.stored

/-- However it ended well, the checkpoint stands and the folder has its contents. -/
theorem finishes_publishOrRecover (dirPlain : PlainName dirName)
    (names : DiskNames tree sharedRoot (parent ++ [dirName]))
    (readable : ∀ manifest json, codec.toJson manifest = .ok json → codec.fromJson json = .ok manifest)
    (ended : tree.Finishes (publishOrRecover codec sharedRoot about.jobId checkpointId (parent ++ [dirName]) about) later
      (.ok manifest)) :
    ∃ signed contents, Standing codec later sharedRoot checkpointId about manifest signed contents ∧
      HoldsExactly tree (parent ++ [dirName]) contents := by
  obtain ⟨between, outcome, publishing, rest⟩ := Finishes.of_bind ended
  split at rest
  · next committed =>
    obtain ⟨rfl, same⟩ := Finishes.of_pure rest
    cases same
    obtain ⟨contents, published⟩ := finishes_publishDirectory dirPlain publishing
    obtain ⟨signed, standing⟩ := published.standing readable
    exact ⟨signed, contents, standing, published.source⟩
  · exact finishes_recoverCommitted dirPlain (finishes_publish_committed publishing) names rest
  · cases (Finishes.of_pure rest).2

/-- A recovery touches nothing. -/
theorem reaches_publishOrRecover
    (reached : tree.Reaches (publishOrRecover codec sharedRoot jobId checkpointId sourceDir about) later) :
    tree.Reaches (publishDirectoryCapped codec sharedRoot jobId checkpointId sourceDir about
      maxInMemoryCheckpointBytes) later := by
  rcases Reaches.of_bind reached with first | ⟨between, outcome, publishing, rest⟩
  · exact first
  · have same : later = between := by
      split at rest
      · exact reaches_reads (asks_pure _) rest
      · exact reaches_reads recoverCommitted_reads rest
      · exact reaches_reads (asks_pure _) rest
    rw [same]
    exact publishing.reaches

end Steps

section Store

variable {path : DiskPath} {name : String} {rest : DiskPath}

/-- A begun checkpoint had no manifest. -/
theorem finishes_begin_absent {root : DiskPath} {checkpoint : StagedCheckpoint}
    (ended : tree.Finishes (StagedCheckpoint.begin root checkpointId) later (.ok checkpoint)) :
    tree.kindAt (root ++ [checkpointId] ++ [manifestFilename]) = none := by
  obtain ⟨_, _, made, folders, absent, _⟩ := finishes_begin ended
  rw [folders] at absent
  split at absent
  · cases absent
  · exact absent

theorem reaches_begin_there {root : DiskPath} {json : List UInt8}
    (folders : ∀ path, path <+: root ++ [checkpointId] → tree.kindAt path = some .folder)
    (there : tree.kindAt (root ++ [checkpointId] ++ [manifestFilename]) = some (.file json))
    (reached : tree.Reaches (StagedCheckpoint.begin root checkpointId) later) : later = tree := by
  have made (answered : Except DiskFailure Unit) :
      tree.effect ⟨.createFolders (root ++ [checkpointId]), answered⟩ = tree := by
    cases answered with
    | ok done => exact putFolders_there folders
    | error failure => rfl
  unfold StagedCheckpoint.begin at reached
  split at reached
  · exact reaches_reads (asks_pure _) reached
  · rcases Reaches.of_andThen reached with creating | ⟨between, _, creating, looking⟩
    · rcases Reaches.of_question (Reaches.of_map creating) with same | ⟨answered, _, same⟩
      · exact same
      · exact same.trans (made answered)
    · have unchanged := (Finishes.of_question (Finishes.of_mapError creating)).2.trans (made (.ok ()))
      rw [unchanged] at looking
      rcases Reaches.of_andThen looking with asking | ⟨asked, present, asking, rest⟩
      · exact reaches_reads (manifestPresent_reads _) asking
      · obtain ⟨same, ⟨rfl, _⟩ | ⟨_, absent⟩⟩ := finishes_manifestPresent asking
        · exact (reaches_reads (asks_pure _) rest).trans same
        · rw [there] at absent
          cases absent

/-- Where a committed checkpoint is, no publication does anything. -/
theorem reaches_publish_there {json : List UInt8}
    (folders : ∀ path, path <+: sharedRoot ++ [jobId] ++ [checkpointId] → tree.kindAt path = some .folder)
    (there : tree.kindAt (sharedRoot ++ [jobId] ++ [checkpointId] ++ [manifestFilename]) = some (.file json))
    (reached : tree.Reaches (publishDirectoryCapped codec sharedRoot jobId checkpointId sourceDir about cap) later) :
    later = tree := by
  have looked {α : Type} {step : FileDialogue α} {between : FileTree} (asks : step.Asks FileQuestion.Reads)
      (reached : tree.Reaches step between) : between = tree := reaches_reads asks reached
  unfold publishDirectoryCapped at reached
  split at reached
  · exact looked (asks_pure _) reached
  · rcases Reaches.of_andThen reached with rooting | ⟨between, place, rooting, first⟩
    · exact looked (jobRoot_reads _) rooting
    · obtain ⟨same, _, rfl⟩ := finishes_jobRoot rooting
      rw [same] at first
      rcases Reaches.of_andThen first with linking | ⟨between, _, linking, second⟩
      · exact looked (ensureNotLink_reads _) linking
      · rw [looked (ensureNotLink_reads _) linking.reaches] at second
        rcases Reaches.of_andThen second with listing | ⟨between, names, listing, third⟩
        · exact looked listSource_reads listing
        · rw [looked listSource_reads listing.reaches] at third
          rcases Reaches.of_andThen third with declaring | ⟨between, _, declaring, fourth⟩
          · exact looked (declareSources_reads _) declaring
          · rw [looked (declareSources_reads _) declaring.reaches] at fourth
            dsimp only at fourth
            split at fourth
            · exact looked (asks_pure _) fourth
            · rcases Reaches.of_andThen fourth with beginning | ⟨between, begun, beginning, _⟩
              · exact reaches_begin_there folders there (Reaches.of_map beginning)
              · have absent := finishes_begin_absent (Finishes.of_mapError beginning)
                rw [there] at absent
                cases absent

/-- What is in a checkpoint is not touched for another one. -/
theorem not_confined_below {otherJob otherId : String} (apart : ¬ (otherJob = jobId ∧ otherId = checkpointId)) :
    ¬ (sharedRoot ++ [jobId] ++ [checkpointId] ++ name :: rest <+: sharedRoot ++ [otherJob] ∨
      Own (sharedRoot ++ [otherJob]) otherId (sharedRoot ++ [jobId] ++ [checkpointId] ++ name :: rest)) := by
  rintro (above | below | pointer | temporary)
  · have := above.length_le
    simp at this
  · simp only [List.append_assoc, List.cons_append, List.nil_append, List.prefix_append_right_inj,
      List.cons_prefix_cons] at below
    exact apart ⟨below.1, below.2.1⟩
  · have := congrArg List.length pointer
    simp at this
  · have := congrArg List.length temporary
    simp at this

theorem Standing.publish (standing : Standing codec tree sharedRoot checkpointId about manifest signed contents)
    {otherId : String} {other : ManifestMeta}
    (reached : tree.Reaches (publishDirectoryCapped codec sharedRoot jobId otherId sourceDir other cap) later) :
    Standing codec later sharedRoot checkpointId about manifest signed contents := by
  by_cases same : jobId = about.jobId ∧ otherId = checkpointId
  · obtain ⟨rfl, rfl⟩ := same
    obtain ⟨json, _, there⟩ := standing.whole
    rw [reaches_publish_there standing.folders there reached]
    exact standing
  · have confined := @publishDirectoryCapped_confined codec sharedRoot sourceDir jobId otherId other cap
    refine standing.kept (fun name rest => ?_) fun path above => ?_
    · exact kindAt_reaches (Asks.mono confined fun asked may changes => not_confined_below same (may.1 _ changes)) reached
    · exact folder_reaches (Asks.mono confined fun _ may => may.2 path) reached (standing.folders path above)

/-- What is beside the checkpoints of a job, and the folders on the way. -/
def Beside (root path : DiskPath) : Prop := path <+: root ∨ ∃ name, path = root ++ [name]

theorem not_beside_below {otherJob : String} :
    ¬ Beside (sharedRoot ++ [otherJob]) (sharedRoot ++ [jobId] ++ [checkpointId] ++ name :: rest) := by
  rintro (above | ⟨beside, same⟩)
  · have := above.length_le
    simp at this
  · have := congrArg List.length same
    simp at this

theorem writeSignedManifest_touches {body : List UInt8} :
    (writeSignedManifest sharedRoot jobId checkpointId body).Asks (Touches (Beside (sharedRoot ++ [jobId]))) := by
  unfold writeSignedManifest
  split
  · exact asks_pure _
  · next safe =>
    have plain : PlainName (checkpointId ++ signedManifestSuffix) :=
      (safeComponent_eq_ok.mp safe).1.append (by decide) (by decide)
    refine Ends.bind (jobRoot_ends fun _ => touches_reads) fun result right => ?_
    cases result with
    | error error => exact asks_pure _
    | ok place =>
        rw [right place rfl]
        have makes : Touches (Beside (sharedRoot ++ [jobId])) (.createFolders (sharedRoot ++ [jobId])) :=
          ⟨fun path above => Or.inl above, fun _ no => by cases no⟩
        refine Asks.andThen (Asks.map (asks_question makes)) fun _ => ?_
        refine Asks.andThen (Asks.mono (ensureNotLink_reads _) fun _ => touches_reads) fun _ => ?_
        refine Asks.map (Asks.map (writeOnce_touches ?_ ?_ ?_))
        · exact Or.inr ⟨_, joinName_plain _ plain⟩
        · exact Or.inr ⟨_, joinName_plain _ (plain.append (by decide) (by decide))⟩
        · exact Or.inr ⟨_, joinName_plain _ (plain.append (by decide) (by decide))⟩

theorem Standing.sign (standing : Standing codec tree sharedRoot checkpointId about manifest signed contents)
    {otherId : String} {body : List UInt8} (reached : tree.Reaches (writeSignedManifest sharedRoot jobId otherId body) later) :
    Standing codec later sharedRoot checkpointId about manifest signed contents := by
  have touches := @writeSignedManifest_touches sharedRoot jobId otherId body
  refine standing.kept (fun name rest => ?_) fun path above => ?_
  · exact kindAt_touches touches not_beside_below reached
  · exact folder_reaches (Asks.mono touches fun _ may => may.2 path) reached (standing.folders path above)

/-- What goes on around a shared store: checkpoints are published and signed there, by calls that may stop after any
step, and anything is done elsewhere. -/
inductive StoreStep (codec : CheckpointCodec) (sharedRoot : DiskPath) (tree later : FileTree) : Prop
  | publish (jobId checkpointId : String) (sourceDir : DiskPath) (about : ManifestMeta)
      (reached : tree.Reaches (publishOrRecover codec sharedRoot jobId checkpointId sourceDir about) later)
  | sign (jobId checkpointId : String) (body : List UInt8)
      (reached : tree.Reaches (writeSignedManifest sharedRoot jobId checkpointId body) later)
  | elsewhere (apart : ∀ path, path <+: sharedRoot ∨ sharedRoot <+: path → later.kindAt path = tree.kindAt path)

theorem Standing.step (standing : Standing codec tree sharedRoot checkpointId about manifest signed contents)
    (step : StoreStep codec sharedRoot tree later) :
    Standing codec later sharedRoot checkpointId about manifest signed contents := by
  cases step with
  | publish jobId otherId sourceDir other reached => exact standing.publish (reaches_publishOrRecover reached)
  | sign jobId otherId body reached => exact standing.sign reached
  | elsewhere apart =>
      refine standing.kept (fun name rest => apart _ (Or.inr ?_)) fun path above => ?_
      · simp only [List.append_assoc]
        exact List.prefix_append _ _
      · have root : sharedRoot <+: sharedRoot ++ [about.jobId] ++ [checkpointId] := by
          rw [List.append_assoc]
          exact List.prefix_append _ _
        rw [apart path (List.prefix_or_prefix_of_prefix above root), standing.folders path above]

theorem Standing.steps (standing : Standing codec tree sharedRoot checkpointId about manifest signed contents)
    (steps : Relation.ReflTransGen (StoreStep codec sharedRoot) tree later) :
    Standing codec later sharedRoot checkpointId about manifest signed contents := by
  induction steps with
  | refl => exact standing
  | tail _ step ih => exact ih.step step

end Store

section Signing

/-- The folder is as it was. -/
def SameFolder (dir : DiskPath) (tree later : FileTree) : Prop :=
  later.kindAt dir = tree.kindAt dir ∧ ∀ name, later.kindAt (dir ++ [name]) = tree.kindAt (dir ++ [name])

theorem HoldsExactly.same {contents : List (String × List UInt8)} {later : FileTree}
    (holds : HoldsExactly tree sourceDir contents) (same : SameFolder sourceDir tree later) :
    HoldsExactly later sourceDir contents :=
  ⟨same.1.trans holds.1, fun name => (same.2 name).trans (holds.2 name)⟩

/-- What the one who signs may rely on, when a call on this tree gave the manifest back, or committed it. -/
structure SignsWhatIsThere (codec : CheckpointCodec) (tree later : FileTree) (sharedRoot sourceDir : DiskPath)
    (checkpointId : String) (about : ManifestMeta) (manifest : CheckpointManifest) : Prop where
  requested : manifest.checkpointId = checkpointId ∧ manifest.jobId = about.jobId ∧
    manifest.attemptId = about.attemptId ∧ manifest.step = about.step ∧ manifest.fenceEpoch = about.fenceEpoch ∧
    manifest.producerNodeId = about.producerNodeId
  restores : ∃ signed contents, toUnsignedPb manifest = .ok signed ∧
    HoldsExactly tree sourceDir contents ∧ (contents.map Prod.fst).Nodup ∧
    (∀ habits, look habits later (verifyOnDisk codec sharedRoot signed) = .ok contents) ∧
    (∀ habits dest restored, later.serve habits (restore codec sharedRoot signed dest) = (restored, .ok ()) →
      HoldsExactly restored dest contents) ∧
    ∀ habits dest, EmptyDestination later dest → (∀ content ∈ contents, SafeName content.1) →
      ∃ restored, later.serve habits (restore codec sharedRoot signed dest) = (restored, .ok ())
  again : ∀ final, Relation.ReflTransGen (StoreStep codec sharedRoot) later final → SameFolder sourceDir tree final →
    ∀ habits, final.serve habits (publishOrRecover codec sharedRoot about.jobId checkpointId sourceDir about) =
      (final, .ok manifest)

theorem Standing.signs {later : FileTree} {manifest : CheckpointManifest} {signed : Protocol.CheckpointManifest}
    {contents : List (String × List UInt8)} (dirPlain : PlainName dirName)
    (standing : Standing codec later sharedRoot checkpointId about manifest signed contents)
    (holds : HoldsExactly tree (parent ++ [dirName]) contents) :
    SignsWhatIsThere codec tree later sharedRoot (parent ++ [dirName]) checkpointId about manifest := by
  have requested := standing.requested
  simp only [isRequested, Bool.and_eq_true, decide_eq_true_eq, and_assoc] at requested
  refine ⟨requested, ⟨signed, contents, standing.converts, holds, standing.distinct, standing.verified, ?_, ?_⟩, ?_⟩
  · intro habits dest restored ended
    obtain ⟨others, found, _, restores⟩ := restore_verified ended
    rw [standing.verified habits] at found
    cases found
    exact restores
  · intro habits dest ready safe
    obtain ⟨restored, ended, _⟩ := serve_restore (standing.verified habits) ready safe
    exact ⟨restored, ended⟩
  · intro final steps same habits
    exact (standing.steps steps).again dirPlain (holds.same same)

/-- On a disk that may fail at any step, what is given back to be signed is there, and so is what was committed before
the call was stopped; and it is given back for as long as the folder stays as it was. -/
theorem publishOrRecover_signs_what_is_there
    (readable : ∀ manifest json, codec.toJson manifest = .ok json → codec.fromJson json = .ok manifest)
    (dirPlain : PlainName dirName) (names : DiskNames tree sharedRoot (parent ++ [dirName])) (later : FileTree) :
    (∀ manifest, tree.Finishes (publishOrRecover codec sharedRoot about.jobId checkpointId (parent ++ [dirName]) about)
        later (.ok manifest) →
      SignsWhatIsThere codec tree later sharedRoot (parent ++ [dirName]) checkpointId about manifest) ∧
    (tree.Reaches (publishOrRecover codec sharedRoot about.jobId checkpointId (parent ++ [dirName]) about) later →
      later.kindAt (sharedRoot ++ [about.jobId] ++ [checkpointId] ++ [manifestFilename]) ≠
        tree.kindAt (sharedRoot ++ [about.jobId] ++ [checkpointId] ++ [manifestFilename]) →
      ∃ manifest, SignsWhatIsThere codec tree later sharedRoot (parent ++ [dirName]) checkpointId about manifest) := by
  constructor
  · intro manifest ended
    obtain ⟨signed, contents, standing, holds⟩ := finishes_publishOrRecover dirPlain names readable ended
    exact standing.signs dirPlain holds
  · intro reached committed
    rcases reaches_publishDirectory dirPlain (reaches_publishOrRecover reached) with same | ⟨contents, manifest, published⟩
    · exact absurd same committed
    · obtain ⟨signed, standing⟩ := published.standing readable
      exact ⟨manifest, standing.signs dirPlain published.source⟩

end Signing

section Sample

def sampleAbout : ManifestMeta := ⟨"job-1", "a1", 7, 0, "n1", 0⟩

def sampleManifest : CheckpointManifest := manifestOf knownCodec ["shared", "job-1", "c1"] "c1" sampleAbout [("w", [1])]

/-- Of this one manifest. -/
def sampleCodec : CheckpointCodec where
  toJson manifest :=
    if manifest = sampleManifest then .ok (Bytes.utf8 (manifestJson sampleManifest))
    else .error "key must be a string"
  fromJson json :=
    if json = Bytes.utf8 (manifestJson sampleManifest) then .ok sampleManifest
    else .error "EOF while parsing a value at line 1 column 0"
  blake3 := knownHash

theorem sampleCodec_writes : sampleCodec.toJson sampleManifest = .ok (Bytes.utf8 (manifestJson sampleManifest)) := by
  unfold sampleCodec
  dsimp only
  rw [if_pos rfl]

theorem sampleCodec_readable (manifest : CheckpointManifest) (json : List UInt8)
    (written : sampleCodec.toJson manifest = .ok json) : sampleCodec.fromJson json = .ok manifest := by
  unfold sampleCodec at written ⊢
  dsimp only at written ⊢
  split at written
  · next same =>
    cases written
    rw [if_pos rfl, same]
  · cases written

theorem sample_names : DiskNames sourceTree ["shared"] ["step-1"] where
  root := by
    intro part listed
    rw [List.mem_singleton.mp listed]
    exact ⟨by decide, by decide, by decide, by decide⟩
  source := by
    intro name there
    have holds := publishable_source.holds.2 name
    by_cases same : name = "w"
    · rw [same]
      exact ⟨by decide, by decide, by decide, by decide⟩
    · rw [List.lastValue, if_neg same] at holds
      rw [show ["step-1"] ++ [name] = [] ++ ["step-1"] ++ [name] from rfl, holds] at there
      cases there

/-- The folder is not touched. -/
theorem sample_same {later : FileTree} (reached : sourceTree.Reaches (publishDirectoryCapped sampleCodec ["shared"]
    "job-1" "c1" ["step-1"] sampleAbout maxInMemoryCheckpointBytes) later) : SameFolder ["step-1"] sourceTree later := by
  have apart (rest : DiskPath) : later.kindAt ("step-1" :: rest) = sourceTree.kindAt ("step-1" :: rest) := by
    refine kindAt_reaches (Asks.mono publishDirectoryCapped_confined fun asked may changes => ?_) reached
    rcases may.1 _ changes with above | below | pointer | temporary
    · exact absurd (List.cons_prefix_cons.mp above).1 (by decide)
    · exact absurd (List.cons_prefix_cons.mp below).1 (by decide)
    · exact absurd (List.cons.inj pointer).1 (by decide)
    · exact absurd (List.cons.inj temporary).1 (by decide)
  exact ⟨apart [], fun name => apart [name]⟩

/-- A folder of one file is published, and given back when it is published again. -/
theorem one_file_is_given_back : ∃ later manifest,
    SignsWhatIsThere sampleCodec sourceTree later ["shared"] ["step-1"] "c1" sampleAbout manifest ∧
    later.serve .quiet (publishOrRecover sampleCodec ["shared"] "job-1" "c1" ["step-1"] sampleAbout) =
      (later, .ok manifest) := by
  have source : PublishableFrom sourceTree [] "step-1" [("w", [1])] maxInMemoryCheckpointBytes :=
    { publishable_source with fits := by decide }
  have writable : ∀ contents, contents.Perm [("w", [1])] → ∃ json, sampleCodec.toJson
      (manifestOf sampleCodec (["shared"] ++ ["job-1"] ++ ["c1"]) "c1" sampleAbout contents) = .ok json := by
    intro contents same
    rw [List.perm_singleton.mp same]
    have same : manifestOf sampleCodec (["shared"] ++ ["job-1"] ++ ["c1"]) "c1" sampleAbout [("w", [1])] =
      sampleManifest := rfl
    rw [same]
    exact ⟨_, sampleCodec_writes⟩
  obtain ⟨later, committed, _, _, publishes, _⟩ := @serve_publish sampleCodec .quiet sourceTree [] ["shared"] "step-1"
    "c1" sampleAbout _ _ source publishable_place writable
  have ended : sourceTree.serve .quiet (publishOrRecover sampleCodec ["shared"] "job-1" "c1" ["step-1"] sampleAbout) =
      (later, .ok committed.manifest) := by
    unfold publishOrRecover publishOrRecoverCapped
    exact serve_then publishes
  have signs := (@publishOrRecover_signs_what_is_there sampleCodec sourceTree ["shared"] [] "c1" "step-1" sampleAbout
    sampleCodec_readable publishable_source.named sample_names later).1 _ (finishes_served ended)
  exact ⟨later, committed.manifest, signs,
    signs.again later .refl (sample_same (finishes_served publishes).reaches) .quiet⟩

end Sample

end Gputeer.Checkpoint
