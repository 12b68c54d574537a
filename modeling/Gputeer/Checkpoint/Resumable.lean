import Gputeer.Checkpoint.Commit
import Gputeer.Lib.FaultyDisk

/-! When a checkpoint can be resumed from: what the search looks at, and nothing else. -/

namespace Gputeer.Checkpoint

open Dialogue Text FileTree

section Paths

/-- A text of several parts ends in the last one, after a separator. -/
theorem suffix_intercalate (separator : Char) (first : List Char) (rest : List (List Char))
    (several : rest ≠ []) :
    separator :: rest.getLast several <:+ [separator].intercalate (first :: rest) := by
  induction rest generalizing first with
  | nil => exact absurd rfl several
  | cons second rest ih =>
      rw [List.intercalate_cons_cons]
      cases rest with
      | nil => exact ⟨first, by simp [List.intercalate_singleton]⟩
      | cons third rest =>
          have later := ih second (by simp)
          rw [List.getLast_cons (by simp : third :: rest ≠ [])]
          exact later.trans (List.suffix_append _ _)

theorem componentOf_eq_none {part : List Char} (silent : componentOf part = none) :
    part = [] ∨ part = ['.'] := by
  unfold componentOf at silent
  split at silent
  · next quiet => exact quiet
  · split at silent
    · cases silent
    · cases silent

theorem componentOf_eq_normal {part : List Char} {name : String}
    (named : componentOf part = some (.normal name)) : String.ofList part = name := by
  unfold componentOf at named
  split at named
  · cases named
  · split at named
    · cases named
    · cases named
      rfl

/-- A path of one part that is not of a directory is the name of that part. -/
theorem eq_of_pathComponents {relative name : String} (parts : pathComponents relative = [.normal name])
    (file : endsWith "/" relative = false) (plain : endsWith "/." relative = false) : relative = name := by
  have whole : ['/'].intercalate (relative.toList.splitOn '/') = relative.toList :=
    List.intercalate_splitOn '/'
  unfold pathComponents at parts
  split at parts
  · cases parts
  · next first rest divided =>
    rw [divided] at whole
    split at parts
    · cases parts
    · next noRoot =>
      split at parts
      · cases parts
      · next noDot =>
        have named : componentOf first = some (.normal name) ∧ rest.filterMap componentOf = [] := by
          cases part : componentOf first with
          | none =>
              rcases componentOf_eq_none part with empty | dot
              · have alone : rest = [] := not_not.mp fun more => noRoot ⟨empty, more⟩
                rw [List.filterMap_cons, part, alone] at parts
                cases parts
              · exact absurd dot noDot
          | some component =>
              rw [List.filterMap_cons, part] at parts
              simp only [List.cons.injEq] at parts
              rw [parts.1]
              exact ⟨rfl, parts.2⟩
        by_cases alone : rest = []
        · rw [alone, List.intercalate_singleton] at whole
          rw [← componentOf_eq_normal named.1, whole, String.ofList_toList]
        · have last := suffix_intercalate '/' first rest alone
          rw [whole] at last
          have quiet : componentOf (rest.getLast alone) = none := by
            have all := List.filterMap_eq_nil_iff.mp named.2
            exact all _ (List.getLast_mem alone)
          rcases componentOf_eq_none quiet with empty | dot
          · rw [empty] at last
            exact absurd (decide_eq_true last) (by simpa [endsWith] using file)
          · rw [dot] at last
            exact absurd (decide_eq_true last) (by simpa [endsWith] using plain)

/-- Components that are all names are the names. -/
theorem eq_map_normal {components : List PathComponent} (normal : ∀ component ∈ components, isNormal component) :
    components = (normalNames components).map .normal := by
  induction components with
  | nil => rfl
  | cons component components ih =>
      rw [List.forall_mem_cons] at normal
      cases component with
      | normal name =>
          change _ = PathComponent.normal name :: (normalNames components).map PathComponent.normal
          rw [← ih normal.2]
      | rootDir => exact absurd normal.1 (by decide)
      | curDir => exact absurd normal.1 (by decide)
      | parentDir => exact absurd normal.1 (by decide)

theorem openBeneath_single {relative name : String} (opened : openBeneath relative = .ok [name]) :
    relative = name := by
  unfold openBeneath at opened
  split at opened
  · cases opened
  · next plain =>
    split at opened
    · cases opened
    · split at opened
      · cases opened
      · next noFolder =>
        simp only [Bool.or_eq_true, not_or, Bool.not_eq_true] at noFolder
        have normal : ∀ component ∈ pathComponents relative, isNormal component := by
          intro component listed
          simpa using List.find?_eq_none.mp plain component listed
        have names : normalNames (pathComponents relative) = [name] := Except.ok.inj opened
        have single : pathComponents relative = [.normal name] := by
          rw [eq_map_normal normal, names]
          rfl
        exact eq_of_pathComponents single noFolder.1 noFolder.2

end Paths

section Looking

variable {habits : Habits} {tree : FileTree} {codec : CheckpointCodec} {root dir : DiskPath}
  {relative : String}

theorem readBeneath_reads : (readBeneath root relative).Asks FileQuestion.Reads := by
  unfold readBeneath
  split
  · exact asks_pure _
  · exact Asks.map (asks_question trivial)

theorem readBeneathCapped_reads (maxBytes : UInt64) :
    (readBeneathCapped root relative maxBytes).Asks FileQuestion.Reads :=
  Asks.andThen readBeneath_reads fun _ => asks_pure _

theorem verifyFile_reads (file : CheckpointFile) : (verifyFile codec dir file).Asks FileQuestion.Reads := by
  refine Asks.andThen (Asks.map (readBeneathCapped_reads _)) fun data => ?_
  split
  · exact asks_pure _
  · exact asks_pure _

theorem verifyFiles_reads (files : List CheckpointFile) :
    (verifyFiles codec dir files).Asks FileQuestion.Reads := by
  induction files with
  | nil => exact asks_pure _
  | cons file files ih => exact Asks.andThen (verifyFile_reads file) fun _ => ih

theorem loadValidManifest_reads : (loadValidManifest codec dir).Asks FileQuestion.Reads := by
  unfold loadValidManifest
  refine Asks.bind readBeneath_reads fun data => ?_
  split
  · exact asks_pure _
  · split
    · exact asks_pure _
    · exact Asks.bind (verifyFiles_reads _) fun _ => asks_pure _

theorem publicationFailed_reads : (publicationFailed dir).Asks FileQuestion.Reads := by
  unfold publicationFailed
  refine Asks.bind readBeneath_reads fun data => ?_
  split
  · exact asks_pure _
  · exact asks_pure _
  · exact asks_pure _

theorem isDir_reads : (isDir dir).Asks FileQuestion.Reads := by
  unfold isDir
  refine Asks.bind (asks_question trivial) fun kind => ?_
  split
  · exact asks_pure _
  · exact asks_pure _
  · exact asks_pure _

theorem resumeCandidateBy_reads (fits : String → CheckpointManifest → Bool) (name : String) :
    (resumeCandidateBy codec fits root name).Asks FileQuestion.Reads := by
  unfold resumeCandidateBy
  refine Asks.bind isDir_reads fun inside => ?_
  split
  · refine Asks.bind loadValidManifest_reads fun loaded => ?_
    split
    · exact asks_pure _
    · split
      · exact Asks.map publicationFailed_reads
      · exact asks_pure _
  · exact asks_pure _

/-- A file that the manifest lists is there, not longer than listed, with the hash that is listed. -/
def VerifiedFile (codec : CheckpointCodec) (tree : FileTree) (dir : DiskPath) (file : CheckpointFile) : Prop :=
  ∃ names data, openBeneath file.path = .ok names ∧ tree.kindAt (dir ++ names) = some (.file data) ∧
    data.length ≤ file.sizeBytes.toNat ∧ codec.hash data = file.digest

theorem look_readBeneath {data : List UInt8} :
    look habits tree (readBeneath root relative) = .ok data ↔
      ∃ names, openBeneath relative = .ok names ∧ tree.kindAt (root ++ names) = some (.file data) := by
  unfold readBeneath look
  split
  · next failure opened => simp [opened]
  · next names opened =>
    simp only [opened, serve_map, serve_question, answer, Except.ok.injEq, exists_eq_left']
    cases there : tree.kindAt (root ++ names) with
    | none => simp [Except.mapError]
    | some entry => cases entry <;> simp [Except.mapError]

/-- What is read on a disk that may fail is what is there. -/
theorem finishes_readBeneath {later : FileTree} {data : List UInt8}
    (read : tree.Finishes (readBeneath root relative) later (.ok data)) :
    later = tree ∧ ∃ names, openBeneath relative = .ok names ∧ tree.kindAt (root ++ names) = some (.file data) := by
  unfold readBeneath at read
  split at read
  · cases (Finishes.of_pure read).2
  · next names opened =>
    obtain ⟨said, rfl⟩ := Finishes.of_question (Finishes.of_mapError read)
    exact ⟨rfl, names, opened, Honest.read said⟩

theorem finishes_readBeneathCapped {later : FileTree} {maxBytes : UInt64} {data : List UInt8}
    (read : tree.Finishes (readBeneathCapped root relative maxBytes) later (.ok data)) :
    later = tree ∧ data.length ≤ maxBytes.toNat ∧
      ∃ names, openBeneath relative = .ok names ∧ tree.kindAt (root ++ names) = some (.file data) := by
  obtain ⟨between, whole, reading, capping⟩ := Finishes.of_andThen read
  obtain ⟨rfl, there⟩ := finishes_readBeneath reading
  obtain ⟨rfl, fits⟩ := Finishes.of_pure capping
  unfold readCapped at fits
  dsimp only at fits
  split at fits
  · cases fits
  · next small =>
    cases fits
    exact ⟨rfl, by omega, there⟩

theorem look_verifyFile {file : CheckpointFile} :
    look habits tree (verifyFile codec dir file) = .ok () ↔ VerifiedFile codec tree dir file := by
  unfold verifyFile
  rw [look_andThen (Asks.map (readBeneathCapped_reads _)), look_map]
  unfold readBeneathCapped
  rw [look_andThen readBeneath_reads]
  constructor
  · intro verified
    cases found : look habits tree (readBeneath dir file.path) with
    | error failure =>
        rw [found] at verified
        cases verified
    | ok data =>
        obtain ⟨names, opened, there⟩ := look_readBeneath.mp found
        rw [found] at verified
        simp only [look_pure, readCapped] at verified
        split at verified
        · next fits =>
          split at fits
          · cases fits
          · next small =>
            cases fits
            split at verified
            · cases verified
            · next same => exact ⟨names, data, opened, there, by omega, not_not.mp same⟩
        · cases verified
  · rintro ⟨names, data, opened, there, small, same⟩
    have found : look habits tree (readBeneath dir file.path) = .ok data :=
      look_readBeneath.mpr ⟨names, opened, there⟩
    have fits : ¬ file.sizeBytes.toNat < data.length := by omega
    simp [found, readCapped, fits, same, Except.mapError]

theorem look_verifyFiles {files : List CheckpointFile} :
    look habits tree (verifyFiles codec dir files) = .ok () ↔
      ∀ file ∈ files, VerifiedFile codec tree dir file := by
  induction files with
  | nil => simp [verifyFiles]
  | cons file files ih =>
      unfold verifyFiles
      rw [look_andThen (verifyFile_reads file), List.forall_mem_cons, ← ih, ← @look_verifyFile habits]
      cases look habits tree (verifyFile codec dir file) with
      | ok done => simp
      | error error => simp

/-- The same on a disk that may fail. -/
theorem finishes_verifyFiles {later : FileTree} {files : List CheckpointFile}
    (verified : tree.Finishes (verifyFiles codec dir files) later (.ok ())) :
    later = tree ∧ ∀ file ∈ files, VerifiedFile codec tree dir file := by
  induction files with
  | nil =>
      obtain ⟨rfl, _⟩ := Finishes.of_pure verified
      exact ⟨rfl, fun _ no => (by cases no)⟩
  | cons file files ih =>
      obtain ⟨between, _, first, rest⟩ := Finishes.of_andThen verified
      obtain ⟨read, data, reading, checking⟩ := Finishes.of_andThen first
      obtain ⟨rfl, small, names, opened, there⟩ := finishes_readBeneathCapped (Finishes.of_mapError reading)
      split at checking
      · cases (Finishes.of_pure checking).2
      · next same =>
        obtain ⟨rfl, _⟩ := Finishes.of_pure checking
        obtain ⟨rfl, others⟩ := ih rest
        exact ⟨rfl, List.forall_mem_cons.mpr ⟨⟨names, data, opened, there, small, not_not.mp same⟩, others⟩⟩

/-- The manifest of this directory can be read, and agrees with its files. -/
def ValidManifest (codec : CheckpointCodec) (tree : FileTree) (dir : DiskPath)
    (manifest : CheckpointManifest) : Prop :=
  ∃ data, tree.kindAt (dir ++ [manifestFilename]) = some (.file data) ∧ codec.fromJson data = .ok manifest ∧
    ∀ file ∈ manifest.files, VerifiedFile codec tree dir file

theorem openBeneath_manifest : openBeneath manifestFilename = .ok [manifestFilename] := by decide +kernel

theorem openBeneath_marker : openBeneath publicationFailedMarker = .ok [publicationFailedMarker] := by
  decide +kernel

theorem look_loadValidManifest {manifest : CheckpointManifest} :
    look habits tree (loadValidManifest codec dir) = some manifest ↔
      ValidManifest codec tree dir manifest := by
  unfold loadValidManifest
  rw [look_bind readBeneath_reads]
  cases found : look habits tree (readBeneath dir manifestFilename) with
  | error failure =>
      refine ⟨fun no => (by cases no), fun ⟨data, there, _⟩ => ?_⟩
      have read : look habits tree (readBeneath dir manifestFilename) = .ok data :=
        look_readBeneath.mpr ⟨_, openBeneath_manifest, there⟩
      rw [found] at read
      cases read
  | ok data =>
      have there : tree.kindAt (dir ++ [manifestFilename]) = some (.file data) := by
        obtain ⟨names, opened, there⟩ := look_readBeneath.mp found
        rw [openBeneath_manifest] at opened
        cases opened
        exact there
      cases parsed : codec.fromJson data with
      | error why =>
          refine ⟨fun no => (by simp [parsed] at no), fun ⟨other, same, read, _⟩ => ?_⟩
          rw [there] at same
          cases same
          rw [parsed] at read
          cases read
      | ok loaded =>
          simp only [parsed]
          rw [look_bind (verifyFiles_reads _), look_pure]
          constructor
          · intro valid
            split at valid
            · next verified =>
              cases valid
              refine ⟨data, there, parsed, (@look_verifyFiles habits tree codec dir _).mp ?_⟩
              cases ended : look habits tree (verifyFiles codec dir manifest.files) with
              | ok done => rfl
              | error error =>
                  rw [ended] at verified
                  cases verified
            · cases valid
          · rintro ⟨other, same, read, verified⟩
            rw [there] at same
            cases same
            rw [parsed] at read
            cases read
            rw [look_verifyFiles.mpr verified]
            rfl

/-- Publication is not marked as failed. -/
def NotFailed (tree : FileTree) (dir : DiskPath) : Prop :=
  ∀ entry, tree.kindAt (dir ++ [publicationFailedMarker]) = some entry →
    ∃ data, entry = .file data ∧ data ≠ publicationFailedText

theorem look_marker : look habits tree (readBeneath dir publicationFailedMarker) =
    (answer habits tree (.read (dir ++ [publicationFailedMarker]))).mapError readFailureOf := by
  unfold readBeneath look
  rw [openBeneath_marker]
  simp only [serve_map, serve_question]

theorem look_publicationFailed :
    look habits tree (publicationFailed dir) = .ok false ↔ NotFailed tree dir := by
  unfold publicationFailed NotFailed
  rw [look_bind readBeneath_reads, look_marker]
  cases there : tree.kindAt (dir ++ [publicationFailedMarker]) with
  | none => simp [answer, there, Except.mapError, readFailureOf]
  | some entry =>
      cases entry with
      | folder => simp [answer, there, Except.mapError, readFailureOf]
      | file data => simp [answer, there, Except.mapError]

theorem look_isDir : look habits tree (isDir dir) = true ↔ tree.kindAt dir = some .folder := by
  have asks : (FileQuestion.kind dir).ask.Asks FileQuestion.Reads := asks_question trivial
  unfold isDir
  rw [look_bind asks]
  simp only [look, serve_question, answer]
  cases there : tree.kindAt dir with
  | none => simp
  | some entry => cases entry <;> simp

theorem look_publicationFailed_error :
    (∃ error, look habits tree (publicationFailed dir) = .error error) ↔
      tree.kindAt (dir ++ [publicationFailedMarker]) = some .folder := by
  unfold publicationFailed
  rw [look_bind readBeneath_reads, look_marker]
  cases there : tree.kindAt (dir ++ [publicationFailedMarker]) with
  | none => simp [answer, there, Except.mapError, readFailureOf]
  | some entry =>
      cases entry with
      | folder => simp [answer, there, Except.mapError, readFailureOf]
      | file data => simp [answer, there, Except.mapError]

/-- What a search asks of the directory of this name. -/
structure ResumableBy (codec : CheckpointCodec) (tree : FileTree) (root : DiskPath)
    (fits : String → CheckpointManifest → Bool) (name : String) (manifest : CheckpointManifest) : Prop where
  folder : tree.kindAt (root ++ [name]) = some .folder
  valid : ValidManifest codec tree (root ++ [name]) manifest
  requested : fits name manifest = true
  notFailed : NotFailed tree (root ++ [name])

/-- What the search asks of the directory of this name. -/
structure Resumable (codec : CheckpointCodec) (tree : FileTree) (root : DiskPath)
    (jobId attemptId name : String) (manifest : CheckpointManifest) : Prop where
  folder : tree.kindAt (root ++ [name]) = some .folder
  valid : ValidManifest codec tree (root ++ [name]) manifest
  requested : fitsRequest jobId attemptId name manifest = true
  notFailed : NotFailed tree (root ++ [name])

theorem resumable_iff {jobId attemptId name : String} {manifest : CheckpointManifest} :
    Resumable codec tree root jobId attemptId name manifest ↔
      ResumableBy codec tree root (fitsRequest jobId attemptId) name manifest := by
  constructor
  · rintro ⟨folder, valid, requested, notFailed⟩
    exact ⟨folder, valid, requested, notFailed⟩
  · rintro ⟨folder, valid, requested, notFailed⟩
    exact ⟨folder, valid, requested, notFailed⟩

/-- A checkpoint that fits, of which it cannot be read whether its publication failed. -/
def Unreadable (codec : CheckpointCodec) (tree : FileTree) (root : DiskPath)
    (fits : String → CheckpointManifest → Bool) (name : String) : Prop :=
  tree.kindAt (root ++ [name]) = some .folder ∧
    (∃ manifest, ValidManifest codec tree (root ++ [name]) manifest ∧ fits name manifest = true) ∧
    tree.kindAt (root ++ [name] ++ [publicationFailedMarker]) = some .folder

section Candidate

variable {fits : String → CheckpointManifest → Bool} {name : String} {manifest : CheckpointManifest}

/-- The search of one directory, by what is found in it. -/
theorem look_resumeCandidateBy_cases (read : CheckpointManifest) (folder : tree.kindAt (root ++ [name]) = some .folder)
    (valid : ValidManifest codec tree (root ++ [name]) read) (requested : fits name read = true) :
    look habits tree (resumeCandidateBy codec fits root name) =
      Except.map (fun failed => if failed then none else some read)
        (look habits tree (publicationFailed (root ++ [name]))) := by
  unfold resumeCandidateBy
  rw [look_bind isDir_reads, look_isDir.mpr folder, if_pos rfl, look_bind loadValidManifest_reads,
    look_loadValidManifest.mpr valid]
  dsimp only
  rw [if_pos requested, look_map]

/-- A directory without a valid manifest that fits is passed over. -/
theorem look_resumeCandidateBy_none (misfit : ¬ (tree.kindAt (root ++ [name]) = some .folder ∧
      ∃ manifest, ValidManifest codec tree (root ++ [name]) manifest ∧ fits name manifest = true)) :
    look habits tree (resumeCandidateBy codec fits root name) = .ok none := by
  unfold resumeCandidateBy
  rw [look_bind isDir_reads]
  split
  · next inside =>
    rw [look_bind loadValidManifest_reads]
    cases loaded : look habits tree (loadValidManifest codec (root ++ [name])) with
    | none => rfl
    | some read =>
        dsimp only
        split
        · next requested =>
          exact absurd ⟨look_isDir.mp inside, read, look_loadValidManifest.mp loaded, requested⟩ misfit
        · rfl
  · rfl

theorem look_resumeCandidateBy :
    look habits tree (resumeCandidateBy codec fits root name) = .ok (some manifest) ↔
      ResumableBy codec tree root fits name manifest := by
  constructor
  · intro found
    by_cases fit : tree.kindAt (root ++ [name]) = some .folder ∧
        ∃ manifest, ValidManifest codec tree (root ++ [name]) manifest ∧ fits name manifest = true
    · obtain ⟨folder, read, valid, requested⟩ := fit
      rw [look_resumeCandidateBy_cases read folder valid requested] at found
      cases failed : look habits tree (publicationFailed (root ++ [name])) with
      | error error => simp [failed, Except.map] at found
      | ok marked =>
          cases marked with
          | true => simp [failed, Except.map] at found
          | false =>
              simp only [failed, Except.map, Except.ok.injEq] at found
              cases found
              exact ⟨folder, valid, requested, look_publicationFailed.mp failed⟩
    · rw [look_resumeCandidateBy_none fit] at found
      cases found
  · rintro ⟨folder, valid, requested, notFailed⟩
    rw [look_resumeCandidateBy_cases manifest folder valid requested, look_publicationFailed.mpr notFailed]
    rfl

theorem look_resumeCandidateBy_error :
    (∃ error, look habits tree (resumeCandidateBy codec fits root name) = .error error) ↔
      Unreadable codec tree root fits name := by
  by_cases fit : tree.kindAt (root ++ [name]) = some .folder ∧
      ∃ manifest, ValidManifest codec tree (root ++ [name]) manifest ∧ fits name manifest = true
  · obtain ⟨folder, read, valid, requested⟩ := fit
    rw [look_resumeCandidateBy_cases read folder valid requested]
    constructor
    · rintro ⟨error, failed⟩
      refine ⟨folder, ⟨read, valid, requested⟩, (@look_publicationFailed_error habits _ _).mp ?_⟩
      cases marked : look habits tree (publicationFailed (root ++ [name])) with
      | error error => exact ⟨error, rfl⟩
      | ok marked_ =>
          rw [marked] at failed
          cases failed
    · rintro ⟨_, _, marker⟩
      obtain ⟨error, failed⟩ := (@look_publicationFailed_error habits _ _).mpr marker
      exact ⟨error, by rw [failed]; rfl⟩
  · rw [look_resumeCandidateBy_none fit]
    constructor
    · rintro ⟨error, failed⟩
      cases failed
    · rintro ⟨folder, found, _⟩
      exact absurd ⟨folder, found⟩ fit

end Candidate

theorem look_resumeCandidate {jobId attemptId name : String} {manifest : CheckpointManifest} :
    look habits tree (resumeCandidate codec root jobId attemptId name) = .ok (some manifest) ↔
      Resumable codec tree root jobId attemptId name manifest := by
  rw [resumable_iff]
  exact look_resumeCandidateBy

end Looking

end Gputeer.Checkpoint
