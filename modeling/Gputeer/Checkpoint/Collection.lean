import Gputeer.Checkpoint.Confinement

/-! The collection at the start removes what a crash left behind, and nothing that a search relies on. -/

namespace Gputeer.Checkpoint

open Dialogue Text FileTree

variable {codec : CheckpointCodec} {tree : FileTree} {root dir path : DiskPath} {jobId attemptId name : String}
  {manifest : CheckpointManifest}

section Relied

variable {later : FileTree}

/-- The entries that decide whether a checkpoint with this manifest can be resumed from. -/
inductive Relied (dir : DiskPath) (manifest : CheckpointManifest) : DiskPath → Prop where
  | folder : Relied dir manifest dir
  | manifest : Relied dir manifest (dir ++ [manifestFilename])
  | marker : Relied dir manifest (dir ++ [publicationFailedMarker])
  | file {file : CheckpointFile} {names : DiskPath} (listed : file ∈ manifest.files)
      (opened : openBeneath file.path = .ok names) : Relied dir manifest (dir ++ names)

theorem Relied.inside (relied : Relied dir manifest path) : dir <+: path := by
  cases relied with
  | folder => exact List.prefix_refl _
  | manifest => exact List.prefix_append _ _
  | marker => exact List.prefix_append _ _
  | file listed opened => exact List.prefix_append _ _

theorem VerifiedFile.of_kept {file : CheckpointFile} (verified : VerifiedFile codec tree dir file)
    (listed : file ∈ manifest.files)
    (kept : ∀ path, Relied dir manifest path → later.kindAt path = tree.kindAt path) :
    VerifiedFile codec later dir file := by
  obtain ⟨names, data, opened, there, small, same⟩ := verified
  exact ⟨names, data, opened, (kept _ (.file listed opened)).trans there, small, same⟩

/-- Nothing else decides. -/
theorem Resumable.of_kept (resumable : Resumable codec tree root jobId attemptId name manifest)
    (kept : ∀ path, Relied (root ++ [name]) manifest path → later.kindAt path = tree.kindAt path) :
    Resumable codec later root jobId attemptId name manifest where
  folder := (kept _ .folder).trans resumable.folder
  valid := by
    obtain ⟨data, there, parsed, verified⟩ := resumable.valid
    exact ⟨data, (kept _ .manifest).trans there, parsed,
      fun file listed => (verified file listed).of_kept listed kept⟩
  requested := resumable.requested
  notFailed := by
    unfold NotFailed
    rw [kept _ .marker]
    exact resumable.notFailed

end Relied

section Leftovers

variable {registered : List String}

/-- A step that removes at most what the writing of a file left behind. -/
def Tidies (dir : DiskPath) (registered : List String) (asked : FileQuestion) : Prop :=
  ∀ path, asked.Changes path → ∃ name, path = dir ++ [name] ∧ name ∉ registered ∧
    (endsWith ".write_once.lock" name = true ∨ endsWith ".tmp" name = true)

/-- A step that changes only what is inside of this directory, or the directory. -/
def Inside (dir : DiskPath) (asked : FileQuestion) : Prop := ∀ path, asked.Changes path → dir <+: path

section Anywhere

variable {may : FileQuestion → Prop}

theorem removeTolerant_asks (removes : may (.remove path)) : (removeTolerant path).Asks may :=
  Asks.map (asks_question removes)

theorem collectLock_asks (reads : ∀ asked : FileQuestion, asked.Reads → may asked)
    (removes : may (.remove path)) : (collectLock path).Asks may := by
  unfold collectLock
  refine Asks.bind (asks_question (reads _ trivial)) fun locked => ?_
  split
  · exact Asks.map (removeTolerant_asks removes)
  · exact asks_pure _
  · exact asks_pure _
  · exact asks_pure _

end Anywhere

section WithManifest

theorem collectFile_tidies : (collectFile true registered (dir ++ [name]) name).Asks (Tidies dir registered) := by
  have reads (asked : FileQuestion) (reads : asked.Reads) : Tidies dir registered asked :=
    fun path changes => absurd changes reads.changes_nothing
  have removes (unlisted : name ∉ registered)
      (left : endsWith ".write_once.lock" name = true ∨ endsWith ".tmp" name = true) :
      Tidies dir registered (.remove (dir ++ [name])) := by
    intro path same
    exact ⟨name, same, unlisted, left⟩
  unfold collectFile
  dsimp only
  split
  · next lock =>
    split
    · exact asks_pure _
    · next unlisted => exact collectLock_asks reads (removes (by simpa using unlisted) (Or.inl lock))
  · split
    · next leftover =>
      simp only [Bool.not_true, Bool.false_or, Bool.and_eq_true, Bool.not_eq_true'] at leftover
      exact Asks.map (removeTolerant_asks (removes (by simpa using leftover.2) (Or.inr leftover.1)))
    · exact asks_pure _

theorem collectEntries_tidies (names : List String) :
    (collectEntries true registered dir names).Asks (Tidies dir registered) := by
  induction names with
  | nil => exact asks_pure _
  | cons name names ih =>
      refine Asks.andThen ?_ fun removed => Asks.map ih
      unfold collectEntry
      refine Asks.bind (asks_question fun path changes => absurd changes
        (@FileQuestion.Reads.changes_nothing (.kind (dir ++ [name])) path trivial)) fun kind => ?_
      split
      · exact asks_pure _
      · exact asks_pure _
      · exact asks_pure _
      · exact collectFile_tidies

end WithManifest

section WithoutManifest

theorem inside_of_reads {asked : FileQuestion} (reads : asked.Reads) : Inside dir asked :=
  fun _ changes => absurd changes reads.changes_nothing

theorem collectFile_inside (manifestExists : Bool) :
    (collectFile manifestExists registered (dir ++ [name]) name).Asks (Inside dir) := by
  have removes : Inside dir (.remove (dir ++ [name])) := by
    intro path same
    rw [show path = dir ++ [name] from same]
    exact List.prefix_append _ _
  unfold collectFile
  dsimp only
  split
  · split
    · exact asks_pure _
    · exact collectLock_asks (fun _ => inside_of_reads) removes
  · split
    · exact Asks.map (removeTolerant_asks removes)
    · exact asks_pure _

theorem collectEntries_inside (manifestExists : Bool) (names : List String) :
    (collectEntries manifestExists registered dir names).Asks (Inside dir) := by
  induction names with
  | nil => exact asks_pure _
  | cons name names ih =>
      refine Asks.andThen ?_ fun removed => Asks.map ih
      unfold collectEntry
      refine Asks.bind (asks_question (inside_of_reads trivial)) fun kind => ?_
      split
      · exact asks_pure _
      · exact asks_pure _
      · exact asks_pure _
      · exact collectFile_inside manifestExists

theorem readManifest_reads (manifestName : String) : (readManifest dir manifestName).Asks FileQuestion.Reads := by
  unfold readManifest
  refine Asks.bind readBeneath_reads fun data => ?_
  split
  · exact asks_pure _
  · exact asks_pure _
  · exact asks_pure _

theorem collectListed_inside (manifestData : Option (List UInt8)) :
    (collectListed codec dir manifestData).Asks (Inside dir) := by
  unfold collectListed
  refine Asks.bind (asks_question (inside_of_reads trivial)) fun listed => ?_
  split
  · exact asks_pure _
  · exact asks_pure _
  · exact collectEntries_inside _ _

theorem gcPartial_inside (manifestName : String) : (gcPartial codec dir manifestName).Asks (Inside dir) := by
  unfold gcPartial
  refine Asks.bind (asks_question (inside_of_reads trivial)) fun kind => ?_
  split
  · exact asks_pure _
  · exact asks_pure _
  · exact asks_pure _
  · refine Asks.andThen (Asks.mono (readManifest_reads manifestName) fun _ => inside_of_reads) fun data => ?_
    exact collectListed_inside data

theorem removeIfEmpty_inside : (removeIfEmpty dir).Asks (Inside dir) := by
  unfold removeIfEmpty
  refine Asks.bind (asks_question (inside_of_reads trivial)) fun listed => ?_
  split
  · exact asks_pure _
  · exact asks_pure _
  · exact asks_pure _
  · refine Asks.map (asks_question fun path same => ?_)
    rw [show path = dir from same]

theorem collectDirectory_inside : (collectDirectory codec root name).Asks (Inside (root ++ [name])) := by
  unfold collectDirectory
  refine Asks.bind (asks_question (inside_of_reads trivial)) fun kind => ?_
  split
  · exact asks_pure _
  · exact asks_pure _
  · exact asks_pure _
  · exact Asks.andThen (gcPartial_inside manifestFilename) fun _ => Asks.map removeIfEmpty_inside

/-- A step that leaves the root as it is. -/
def Below (root : DiskPath) (asked : FileQuestion) : Prop :=
  ∀ path, asked.Changes path → ∃ name, root ++ [name] <+: path

theorem collectDirectories_below (names : List String) :
    (collectDirectories codec root names).Asks (Below root) := by
  induction names with
  | nil => exact asks_pure _
  | cons name names ih =>
      refine Asks.andThen (Asks.mono collectDirectory_inside fun asked inside path changes => ?_) fun _ =>
        Asks.map ih
      exact ⟨name, inside path changes⟩

theorem listNames_reads : (listNames dir).Asks FileQuestion.Reads := by
  unfold listNames
  refine Asks.bind (asks_question trivial) fun listed => ?_
  split
  · exact asks_pure _
  · exact asks_pure _
  · exact asks_pure _

theorem startupGc_below : (startupGc codec root).Asks (Below root) := by
  refine Asks.andThen (Asks.mono listNames_reads fun asked reads path changes => ?_) fun names =>
    collectDirectories_below names
  exact absurd changes reads.changes_nothing

end WithoutManifest

end Leftovers

section Kept

variable {habits : Habits} {other : String}

theorem openBeneath_ne_nil {relative : String} {names : DiskPath} (opened : openBeneath relative = .ok names) :
    names ≠ [] := by
  unfold openBeneath at opened
  split at opened
  · cases opened
  · next plain =>
    split at opened
    · cases opened
    · next filled =>
      split at opened
      · cases opened
      · rintro rfl
        have normal : ∀ component ∈ pathComponents relative, isNormal component := by
          intro component listed
          simpa using List.find?_eq_none.mp plain component listed
        refine filled ?_
        rw [eq_map_normal normal, Except.ok.inj opened]
        rfl

/-- What the writing leaves behind is nothing that a search relies on. -/
theorem Relied.not_tidied {asked : FileQuestion} (relied : Relied dir manifest path)
    (tidies : Tidies dir (manifest.files.map CheckpointFile.path) asked) : ¬ asked.Changes path := by
  intro changes
  obtain ⟨name, same, unlisted, left⟩ := tidies path changes
  have plain {fixed : String} (same : dir ++ [fixed] = dir ++ [name])
      (noLock : endsWith ".write_once.lock" fixed = false) (noTmp : endsWith ".tmp" fixed = false) : False := by
    rw [List.append_cancel_left_eq, List.singleton_inj] at same
    rw [← same, noLock, noTmp] at left
    simp at left
  cases relied with
  | folder => simp at same
  | manifest => exact plain same (by decide +kernel) (by decide +kernel)
  | marker => exact plain same (by decide +kernel) (by decide +kernel)
  | @file file names listed opened =>
      rw [List.append_cancel_left_eq] at same
      rw [same] at opened
      exact unlisted (List.mem_map.mpr ⟨file, listed, openBeneath_single opened⟩)

theorem look_readManifest {data : List UInt8} (there : tree.kindAt (dir ++ [manifestFilename]) = some (.file data)) :
    look habits tree (readManifest dir manifestFilename) = .ok (some data) := by
  unfold readManifest
  rw [look_bind readBeneath_reads, look_readBeneath.mpr ⟨_, openBeneath_manifest, there⟩]
  rfl

/-- The collection in the directory of a checkpoint that can be resumed from. -/
theorem gcPartial_keeps (resumable : Resumable codec tree root jobId attemptId other manifest)
    (relied : Relied (root ++ [other]) manifest path) :
    (tree.serve habits (gcPartial codec (root ++ [other]) manifestFilename)).1.kindAt path =
      tree.kindAt path := by
  obtain ⟨data, there, parsed, verified⟩ := resumable.valid
  have kind : answer habits tree (.kind (root ++ [other])) = .ok .folder := by
    simp only [answer, resumable.folder]
  have read : look habits tree (readManifest (root ++ [other]) manifestFilename) = .ok (some data) :=
    look_readManifest there
  have list : answer habits tree (.list (root ++ [other])) =
      .ok (habits.shuffle (tree.childNames (root ++ [other]))) := by
    simp only [answer, resumable.folder]
  have registered : registeredIn codec (some data) = manifest.files.map CheckpointFile.path := by
    simp only [registeredIn, parsed]
  unfold gcPartial
  rw [serve_ask (.kind _) trivial, kind]
  dsimp only [tolerateGone]
  rw [serve_andThen_reads (readManifest_reads manifestFilename), read]
  dsimp only
  unfold collectListed
  rw [serve_ask (.list _) trivial, list]
  dsimp only [tolerateGone]
  rw [registered]
  exact kindAt_serve (Asks.mono (collectEntries_tidies _) fun _ tidies => relied.not_tidied tidies)

/-- Its directory is not empty. -/
theorem removeIfEmpty_keeps {entry : DiskEntry} {name : String} (folder : tree.kindAt dir = some .folder)
    (there : tree.kindAt (dir ++ [name]) = some entry) : (tree.serve habits (removeIfEmpty dir)).1 = tree := by
  have list : answer habits tree (.list dir) = .ok (habits.shuffle (tree.childNames dir)) := by
    simp only [answer, folder]
  have filled : name ∈ habits.shuffle (tree.childNames dir) := by
    refine (habits.shuffle_perm _).mem_iff.mpr (mem_childNames.mpr ?_)
    rw [there]
    rfl
  unfold removeIfEmpty
  rw [serve_ask (.list _) trivial, list]
  cases listed : habits.shuffle (tree.childNames dir) with
  | nil =>
      rw [listed] at filled
      cases filled
  | cons first rest => rfl

theorem collectDirectory_keeps (name : String)
    (resumable : Resumable codec tree root jobId attemptId other manifest)
    (relied : Relied (root ++ [other]) manifest path) :
    (tree.serve habits (collectDirectory codec root name)).1.kindAt path = tree.kindAt path := by
  by_cases same : name = other
  · subst same
    have kind : answer habits tree (.kind (root ++ [name])) = .ok .folder := by
      simp only [answer, resumable.folder]
    have kept (path : DiskPath) (relied : Relied (root ++ [name]) manifest path) :
        (tree.serve habits (gcPartial codec (root ++ [name]) manifestFilename)).1.kindAt path =
          tree.kindAt path :=
      gcPartial_keeps resumable relied
    obtain ⟨data, there, _⟩ := resumable.valid
    unfold collectDirectory
    rw [serve_ask (.kind _) trivial, kind]
    dsimp only [tolerateGone]
    rw [FileTree.serve, serve_andThen]
    split
    · rw [serve_map, removeIfEmpty_keeps ((kept _ .folder).trans resumable.folder)
        ((kept _ .manifest).trans there)]
      exact kept path relied
    · exact kept path relied
  · refine kindAt_serve (Asks.mono collectDirectory_inside fun asked inside changes => same ?_)
    have fromThere := (inside path changes).trans (List.prefix_refl path)
    have fromHere : root ++ [other] <+: path := relied.inside
    have equal : root ++ [name] = root ++ [other] := by
      refine (List.prefix_of_prefix_length_le fromThere fromHere (by simp)).eq_of_length (by simp)
    simpa using equal

theorem collectDirectories_keeps (names : List String)
    (resumable : Resumable codec tree root jobId attemptId other manifest)
    (relied : Relied (root ++ [other]) manifest path) :
    (tree.serve habits (collectDirectories codec root names)).1.kindAt path = tree.kindAt path := by
  induction names generalizing tree with
  | nil => rfl
  | cons name names ih =>
      have first (path : DiskPath) (relied : Relied (root ++ [other]) manifest path) :
          (tree.serve habits (collectDirectory codec root name)).1.kindAt path = tree.kindAt path :=
        collectDirectory_keeps name resumable relied
      unfold collectDirectories
      rw [FileTree.serve, serve_andThen]
      split
      · rw [serve_map]
        exact (ih (resumable.of_kept first)).trans (first path relied)
      · exact first path relied

/-- Whatever else is there, and whichever locks others hold. -/
theorem startupGc_keeps (resumable : Resumable codec tree root jobId attemptId other manifest)
    (relied : Relied (root ++ [other]) manifest path) :
    (tree.serve habits (startupGc codec root)).1.kindAt path = tree.kindAt path := by
  unfold startupGc
  rw [serve_andThen_reads listNames_reads]
  split
  · exact collectDirectories_keeps _ resumable relied
  · rfl

end Kept

end Gputeer.Checkpoint
