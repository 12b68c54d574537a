import Gputeer.Checkpoint.Confinement
import Gputeer.Checkpoint.FreshFiles
import Gputeer.Checkpoint.SharedNames
import Gputeer.Lib.Lists

/-! The publication of a new checkpoint on a disk that answers by what is on it: it succeeds, and the disk has
what its manifest lists. -/

namespace Gputeer.Checkpoint

open Dialogue Text FileTree

section OnceNames

variable {codec : CheckpointCodec} {name : String} {data : List UInt8}

theorem onceName_of_plain (plain : PlainName name) (relative : validateRelativeName name = .ok ()) :
    OnceName name where
  relative := relative
  final := by
    rw [pathComponents_plain plain]
    rfl
  tmp := by
    rw [pathComponents_plain (plain.append (by decide) (by decide))]
    rfl
  lock := by
    rw [pathComponents_plain (plain.append (by decide) (by decide))]
    rfl

theorem onceName_stored (logical : LogicalName name) : OnceName (storedName codec name data) :=
  onceName_of_plain (plain_stored logical) (relative_stored logical)

theorem onceName_marker (state : DurabilityState) : OnceName state.markerName := by
  have plain : PlainName state.markerName := by
    cases state <;> exact ⟨by decide, by decide, by decide, by decide⟩
  refine onceName_of_plain plain (relative_plain plain ?_)
  cases state <;> decide +kernel

theorem onceName_manifest : OnceName manifestFilename := by
  have plain : PlainName manifestFilename := ⟨by decide, by decide, by decide, by decide⟩
  exact onceName_of_plain plain (relative_plain plain (by decide +kernel))

end OnceNames

section Staging

variable {codec : CheckpointCodec} {habits : Habits} {tree later : FileTree} {dir : DiskPath}
  {extras : List String} {contents : List (String × List UInt8)} {name : String} {data : List UInt8}

/-- What stands in the directory of a checkpoint that is being published: some files of its own, and the
stored contents. -/
structure Staging (codec : CheckpointCodec) (tree : FileTree) (dir : DiskPath) (extras : List String)
    (contents : List (String × List UInt8)) : Prop where
  folder : tree.kindAt dir = some .folder
  stored : ∀ content ∈ contents,
    tree.kindAt (dir ++ [storedName codec content.1 content.2]) = some (.file content.2)
  only : ∀ name, tree.kindAt (dir ++ [name]) ≠ none →
    name ∈ extras ∨ ∃ content ∈ contents, name = storedName codec content.1 content.2

/-- No file of this name is there. -/
def Unused (codec : CheckpointCodec) (extras : List String) (contents : List (String × List UInt8))
    (name : String) : Prop :=
  name ∉ extras ∧ ∀ content ∈ contents, name ≠ storedName codec content.1 content.2

theorem Staging.absent (staging : Staging codec tree dir extras contents)
    (unused : Unused codec extras contents name) : tree.kindAt (dir ++ [name]) = none := by
  by_contra there
  rcases staging.only name there with listed | ⟨content, listed, same⟩
  · exact unused.1 listed
  · exact unused.2 content listed same

/-- With its lock and its temporary file. -/
structure UnusedOnce (codec : CheckpointCodec) (extras : List String) (contents : List (String × List UInt8))
    (name : String) : Prop where
  final : Unused codec extras contents name
  tmp : Unused codec extras contents (name ++ ".tmp")
  lock : Unused codec extras contents (name ++ ".write_once.lock")

theorem Staging.write (staging : Staging codec tree dir extras contents) (once : OnceName name)
    (unused : UnusedOnce codec extras contents name) (free : ∀ name, habits.locked (dir ++ [name]) = false) :
    ∃ later, tree.serve habits (writeOnce dir name data) = (later, .ok true) ∧
      ∀ other, later.kindAt other = if other = dir ++ [name] then some (.file data) else tree.kindAt other :=
  serve_writeOnce once staging.folder (staging.absent unused.final) (staging.absent unused.tmp)
    (staging.absent unused.lock) (free _)

theorem Staging.folder_of (staging : Staging codec tree dir extras contents)
    (kinds : ∀ other, later.kindAt other =
      if other = dir ++ [name] then some (.file data) else tree.kindAt other) :
    later.kindAt dir = some .folder := by
  rw [kinds, if_neg (by simp), staging.folder]

/-- A file of its own was written. -/
theorem Staging.extra (staging : Staging codec tree dir extras contents)
    (unused : UnusedOnce codec extras contents name)
    (kinds : ∀ other, later.kindAt other =
      if other = dir ++ [name] then some (.file data) else tree.kindAt other) :
    Staging codec later dir (name :: extras) contents where
  folder := staging.folder_of kinds
  stored := by
    intro content listed
    have apart : dir ++ [storedName codec content.1 content.2] ≠ dir ++ [name] := by
      simpa using (unused.final.2 content listed).symm
    rw [kinds, if_neg apart]
    exact staging.stored content listed
  only := by
    intro other there
    rw [kinds] at there
    by_cases same : other = name
    · exact Or.inl (by simp [same])
    · rw [if_neg (by simpa using same)] at there
      rcases staging.only other there with listed | stored
      · exact Or.inl (List.mem_cons_of_mem _ listed)
      · exact Or.inr stored

/-- Another content was stored. -/
theorem Staging.store (staging : Staging codec tree dir extras contents)
    (unused : UnusedOnce codec extras contents (storedName codec name data))
    (kinds : ∀ other, later.kindAt other =
      if other = dir ++ [storedName codec name data] then some (.file data) else tree.kindAt other) :
    Staging codec later dir extras (contents ++ [(name, data)]) where
  folder := staging.folder_of kinds
  stored := by
    intro content listed
    rcases List.mem_append.mp listed with before | last
    · have apart : dir ++ [storedName codec content.1 content.2] ≠ dir ++ [storedName codec name data] := by
        simpa using (unused.final.2 content before).symm
      rw [kinds, if_neg apart]
      exact staging.stored content before
    · rw [List.mem_singleton.mp last, kinds, if_pos rfl]
  only := by
    intro other there
    rw [kinds] at there
    by_cases same : other = storedName codec name data
    · exact Or.inr ⟨(name, data), by simp, same⟩
    · rw [if_neg (by simpa using same)] at there
      rcases staging.only other there with listed | ⟨content, listed, stored⟩
      · exact Or.inl listed
      · exact Or.inr ⟨content, List.mem_append_left _ listed, stored⟩

end Staging

section Names

variable {codec : CheckpointCodec} {contents : List (String × List UInt8)} {extras : List String}
  {name other : String} {data content : List UInt8}

/-- A stored name ends in a digit, so that nothing that ends otherwise is one. -/
theorem ne_stored_of_last {last : Char} {before : List Char} (ends : name.toList = before ++ [last])
    (noDigit : ∀ n < 16, Nat.digitChar n ≠ last) : name ≠ storedName codec other content := by
  rintro rfl
  obtain ⟨init, n, small, whole⟩ := @stored_last codec other content
  rw [whole] at ends
  exact noDigit n small (by simpa using (List.append_inj' ends rfl).2)

/-- A stored name is visible, so that no hidden name is one. -/
theorem ne_stored_of_hidden (logical : LogicalName other) (hidden : name.toList.head? = some '.') :
    name ≠ storedName codec other content := by
  rintro rfl
  have filled : other.toList ≠ [] := fun same => logical.plain.filled (String.toList_inj.mp same)
  rw [stored_toList, List.head?_append_of_ne_nil _ filled] at hidden
  exact logical.visible hidden

/-- Every character of a logical name is visible. -/
theorem head_stored (logical : LogicalName name) (suffix : String) :
    (storedName codec name data ++ suffix).toList.head? ≠ some '.' := by
  have filled : name.toList ≠ [] := fun same => logical.plain.filled (String.toList_inj.mp same)
  rw [String.toList_append, stored_toList, List.append_assoc, List.head?_append_of_ne_nil _ filled]
  exact logical.visible

theorem unusedOnce_stored (logical : LogicalName name)
    (hidden : ∀ extra ∈ extras, extra.toList.head? = some '.')
    (others : ∀ content ∈ contents, LogicalName content.1 ∧ content.1 ≠ name) :
    UnusedOnce codec extras contents (storedName codec name data) := by
  have noExtra (suffix : String) : storedName codec name data ++ suffix ∉ extras :=
    fun listed => head_stored logical suffix (hidden _ listed)
  have noStored {suffix : String} {before : List Char} {last : Char} (ends : suffix.toList = before ++ [last])
      (noDigit : ∀ n < 16, Nat.digitChar n ≠ last) (other : String × List UInt8) :
      storedName codec name data ++ suffix ≠ storedName codec other.1 other.2 :=
    @ne_stored_of_last codec _ _ _ last ((storedName codec name data).toList ++ before)
      (by rw [String.toList_append, ends, List.append_assoc]) noDigit
  refine ⟨⟨by simpa using noExtra "", fun content listed same => ?_⟩,
    ⟨noExtra ".tmp", fun content _ => @noStored ".tmp" ['.', 't', 'm'] 'p' (by decide) (by decide) content⟩,
    ⟨noExtra ".write_once.lock", fun content _ => @noStored ".write_once.lock"
      ['.', 'w', 'r', 'i', 't', 'e', '_', 'o', 'n', 'c', 'e', '.', 'l', 'o', 'c'] 'k' (by decide) (by decide)
      content⟩⟩
  obtain ⟨valid, different⟩ := others content listed
  exact different (storedName_injective logical.plain.filled valid.plain.filled same).symm

theorem unusedOnce_hidden (hidden : name.toList.head? = some '.')
    (others : ∀ content ∈ contents, LogicalName content.1)
    (noExtra : name ∉ extras ∧ name ++ ".tmp" ∉ extras ∧ name ++ ".write_once.lock" ∉ extras) :
    UnusedOnce codec extras contents name := by
  have filled : name.toList ≠ [] := by
    intro same
    rw [same] at hidden
    cases hidden
  have stays (suffix : String) : (name ++ suffix).toList.head? = some '.' := by
    rw [String.toList_append, List.head?_append_of_ne_nil _ filled, hidden]
  exact ⟨⟨noExtra.1, fun content listed => ne_stored_of_hidden (others content listed) hidden⟩,
    ⟨noExtra.2.1, fun content listed => ne_stored_of_hidden (others content listed) (stays _)⟩,
    ⟨noExtra.2.2, fun content listed => ne_stored_of_hidden (others content listed) (stays _)⟩⟩

theorem unusedOnce_manifest (noExtra : manifestFilename ∉ extras ∧ manifestFilename ++ ".tmp" ∉ extras ∧
      manifestFilename ++ ".write_once.lock" ∉ extras) :
    UnusedOnce codec extras contents manifestFilename := by
  refine ⟨⟨noExtra.1, fun content _ => ?_⟩, ⟨noExtra.2.1, fun content _ => ?_⟩,
    ⟨noExtra.2.2, fun content _ => ?_⟩⟩
  · exact @ne_stored_of_last codec _ _ _ 'n' ("manifest.jso".toList) (by decide) (by decide)
  · exact @ne_stored_of_last codec _ _ _ 'p' ("manifest.json.tm".toList) (by decide) (by decide)
  · exact @ne_stored_of_last codec _ _ _ 'k' ("manifest.json.write_once.loc".toList) (by decide) (by decide)

end Names

section Publishing

variable {codec : CheckpointCodec} {habits : Habits} {tree : FileTree} {dir parent : DiskPath}
  {dirName name checkpointId : String} {data : List UInt8} {contents rest : List (String × List UInt8)}
  {extras : List String} {cap used : UInt64}

def stagedFile (codec : CheckpointCodec) (content : String × List UInt8) : StagedFile :=
  ⟨content.1, storedName codec content.1 content.2, codec.hash content.2, UInt64.ofNat content.2.length, true⟩

/-- The checkpoint with these contents staged. -/
def stagedWith (codec : CheckpointCodec) (dir : DiskPath) (checkpointId : String)
    (contents : List (String × List UInt8)) : StagedCheckpoint :=
  ⟨dir, checkpointId, contents.map (stagedFile codec)⟩

theorem serve_readSourceFile (dirPlain : PlainName dirName) (plain : PlainName name)
    (there : tree.kindAt (parent ++ [dirName] ++ [name]) = some (.file data)) (fits : data.length ≤ used.toNat) :
    tree.serve habits (readSourceFile (parent ++ [dirName]) name used) = (tree, .ok data) := by
  have read : look habits tree (readBeneath parent (dirName ++ "/" ++ name)) = .ok data :=
    look_readBeneath.mpr ⟨_, openBeneath_pair dirPlain plain, by simpa using there⟩
  have small : ¬ used.toNat < data.length := by omega
  unfold readSourceFile
  rw [List.getLast?_concat, List.dropLast_concat]
  refine serve_of_look (Asks.map (readBeneathCapped_reads used)) ?_
  unfold readBeneathCapped
  rw [look_map, look_andThen readBeneath_reads, read]
  simp [readCapped, small, Except.mapError]

theorem serve_stage (staging : Staging codec tree dir [DurabilityState.writing.markerName] contents)
    (accepted : validateLogicalName name = .ok ())
    (others : ∀ content ∈ contents, LogicalName content.1 ∧ content.1 ≠ name)
    (free : ∀ name, habits.locked (dir ++ [name]) = false) :
    ∃ later, tree.serve habits ((stagedWith codec dir checkpointId contents).stage codec name data) =
        (later, .ok (stagedWith codec dir checkpointId (contents ++ [(name, data)]))) ∧
      Staging codec later dir [DurabilityState.writing.markerName] (contents ++ [(name, data)]) ∧
      ∀ path, tree.kindAt path ≠ none → later.kindAt path = tree.kindAt path := by
  have logical := validateLogicalName_ok accepted
  have unused : UnusedOnce codec [DurabilityState.writing.markerName] contents
      (storedName codec name data) :=
    unusedOnce_stored logical (by decide) others
  obtain ⟨later, ran, kinds⟩ := staging.write (onceName_stored logical) unused free
  have fresh : (contents.map (stagedFile codec)).find? (fun file => file.logicalName = name) = none := by
    refine List.find?_eq_none.mpr fun file listed => ?_
    obtain ⟨content, there, rfl⟩ := List.mem_map.mp listed
    rw [decide_eq_true_eq]
    exact (others content there).2
  refine ⟨later, ?_, staging.store unused kinds, fun path there => ?_⟩
  · unfold StagedCheckpoint.stage stagedWith
    rw [accepted, fresh]
    dsimp only
    rw [serve_ok (serve_mapError ran)]
    simp [stagedFile, FileTree.serve]
  · rw [kinds]
    split
    · next same =>
      rw [same, staging.absent unused.final] at there
      exact absurd rfl there
    · rfl

/-- The lengths of the contents, added up. -/
def sizeOf (contents : List (String × List UInt8)) : Nat := (contents.map fun content => content.2.length).sum

theorem serve_stageWithinBudget (dirPlain : PlainName dirName)
    (staging : Staging codec tree dir [DurabilityState.writing.markerName] contents)
    (accepted : ∀ content ∈ contents ++ rest, validateLogicalName content.1 = .ok ())
    (distinct : ((contents ++ rest).map Prod.fst).Nodup)
    (source : ∀ content ∈ rest, tree.kindAt (parent ++ [dirName] ++ [content.1]) = some (.file content.2))
    (fits : used.toNat + sizeOf rest ≤ cap.toNat) (free : ∀ name, habits.locked (dir ++ [name]) = false) :
    ∃ later, tree.serve habits (stageWithinBudget codec (parent ++ [dirName]) cap used
        (stagedWith codec dir checkpointId contents) (rest.map Prod.fst)) =
        (later, .ok (stagedWith codec dir checkpointId (contents ++ rest))) ∧
      Staging codec later dir [DurabilityState.writing.markerName] (contents ++ rest) := by
  induction rest generalizing tree contents used with
  | nil =>
      rw [List.append_nil]
      exact ⟨tree, rfl, staging⟩
  | cons content rest ih =>
      obtain ⟨name, data⟩ := content
      have fits : used.toNat + (data.length + sizeOf rest) ≤ cap.toNat := fits
      have bound := cap.toNat_lt
      have own : validateLogicalName name = .ok () := accepted (name, data) (by simp)
      have others : ∀ content ∈ contents, LogicalName content.1 ∧ content.1 ≠ name := by
        intro content listed
        refine ⟨validateLogicalName_ok (accepted content (List.mem_append_left _ listed)), ?_⟩
        rw [List.map_append, List.map_cons] at distinct
        have apart := (List.nodup_append.mp distinct).2.2
        exact apart content.1 (List.mem_map_of_mem listed) name (by simp)
      have budget : data.length ≤ (cap.saturatingSub used).toNat := by
        rw [UInt64.toNat_saturatingSub]
        omega
      have read := @serve_readSourceFile habits tree parent dirName name data (cap.saturatingSub used) dirPlain
        (validateLogicalName_ok own).plain (source (name, data) (by simp)) budget
      obtain ⟨between, staged, staging, kept⟩ :=
        @serve_stage codec habits tree dir name checkpointId data contents staging own others free
      have length : (UInt64.ofNat data.length).toNat = data.length :=
        UInt64.toNat_ofNat_of_lt' (by change data.length < 2 ^ 64; omega)
      have whole : contents ++ (name, data) :: rest = contents ++ [(name, data)] ++ rest := by simp
      rw [whole] at accepted distinct ⊢
      have sourceKept : ∀ content ∈ rest,
          between.kindAt (parent ++ [dirName] ++ [content.1]) = some (.file content.2) := by
        intro content listed
        have there := source content (List.mem_cons_of_mem _ listed)
        rw [kept _ (by rw [there]; simp), there]
      have left : (used.saturatingAdd (UInt64.ofNat data.length)).toNat + sizeOf rest ≤ cap.toNat := by
        rw [UInt64.toNat_saturatingAdd, length]
        omega
      obtain ⟨later, ran, last⟩ := ih staging accepted distinct sourceKept left
      refine ⟨later, ?_, last⟩
      rw [List.map_cons]
      unfold stageWithinBudget
      rw [serve_ok read, serve_ok (serve_mapError staged)]
      exact ran

/-- Nothing is in the directory, and it can be made. -/
structure FreshDirectory (tree : FileTree) (dir : DiskPath) : Prop where
  empty : ∀ path, dir <+: path → tree.kindAt path = none
  reachable : ∀ part, part <+: dir → part ≠ dir → tree.kindAt part = none ∨ tree.kindAt part = some .folder

theorem serve_begin {root : DiskPath} (fresh : FreshDirectory tree (root ++ [checkpointId]))
    (valid : validateCheckpointId checkpointId = .ok ())
    (free : ∀ name, habits.locked (root ++ [checkpointId] ++ [name]) = false) :
    ∃ later, tree.serve habits (StagedCheckpoint.begin root checkpointId) =
        (later, .ok (stagedWith codec (root ++ [checkpointId]) checkpointId [])) ∧
      Staging codec later (root ++ [checkpointId]) [DurabilityState.writing.markerName] [] ∧
      ∀ path data, tree.kindAt path = some (.file data) → later.kindAt path = some (.file data) := by
  let dir := root ++ [checkpointId]
  let made := dir.inits.foldl putFolder tree
  have possible : ∀ part ∈ dir.inits, tree.kindAt part = none ∨ tree.kindAt part = some .folder := by
    intro part listed
    have part_ := (List.mem_inits _ _).mp listed
    by_cases whole : part = dir
    · exact Or.inl (whole ▸ fresh.empty dir (List.prefix_refl _))
    · exact fresh.reachable part part_ whole
  have kindMade (path : DiskPath) :
      made.kindAt path = if path ∈ dir.inits then some .folder else tree.kindAt path :=
    kindAt_madeFolders _ possible
  have makes : tree.serve habits (FileQuestion.createFolders dir).ask = (made, .ok ()) :=
    serve_createFolders possible
  have inside (name : String) : made.kindAt (dir ++ [name]) = none := by
    have outside : dir ++ [name] ∉ dir.inits := by
      intro listed
      have := ((List.mem_inits _ _).mp listed).length_le
      simp at this
    rw [kindMade, if_neg outside, fresh.empty _ (List.prefix_append _ _)]
  have empty : Staging codec made dir [] [] := by
    refine ⟨?_, fun _ no => (by cases no), fun name there => absurd (inside name) there⟩
    rw [kindMade, if_pos ((List.mem_inits _ _).mpr (List.prefix_refl _))]
  have absent : made.serve habits (manifestPresent dir) = (made, .ok false) := by
    refine serve_of_look (manifestPresent_reads dir) ?_
    have read : look habits made (readBeneath dir manifestFilename) = .error .notFound := by
      unfold readBeneath
      rw [openBeneath_manifest]
      dsimp only
      rw [look_map]
      simp only [look, serve_question, answer, inside manifestFilename]
      rfl
    unfold manifestPresent
    rw [look_bind readBeneath_reads, read]
    rfl
  have unused : UnusedOnce codec [] [] DurabilityState.writing.markerName :=
    unusedOnce_hidden (by decide) (fun _ no => (by cases no)) (by simp)
  obtain ⟨later, ran, kinds⟩ := @Staging.write codec habits made dir [] [] _ (Bytes.utf8 "Writing\n") empty
    (onceName_marker .writing) unused free
  refine ⟨later, ?_, empty.extra unused kinds, fun path data there => ?_⟩
  · have written : made.serve habits (recordInitialState dir) = (later, .ok ()) := serve_mapped ran
    have marks : made.serve habits (marked (recordInitialState dir)) = (later, .ok ()) :=
      serve_mapError written
    unfold StagedCheckpoint.begin
    rw [valid]
    dsimp only
    rw [serve_ok (serve_mapError makes), serve_ok absent, if_neg (by simp), serve_ok marks]
    rfl
  · have away : path ∉ dir.inits := by
      intro listed
      rcases possible path listed with none_ | folder
      · rw [none_] at there
        cases there
      · rw [folder] at there
        cases there
    have notNew : path ≠ dir ++ [DurabilityState.writing.markerName] := by
      rintro rfl
      rw [fresh.empty _ (List.prefix_append _ _)] at there
      cases there
    rw [kinds, if_neg notNew, kindMade, if_neg away, there]

theorem serve_recordStateTransition {source target : DurabilityState}
    (staging : Staging codec tree dir extras contents) (legal : source.canTransitionTo target = true)
    (unused : UnusedOnce codec extras contents target.markerName)
    (free : ∀ name, habits.locked (dir ++ [name]) = false) :
    ∃ later, tree.serve habits (marked (recordStateTransition dir source target)) = (later, .ok ()) ∧
      Staging codec later dir (target.markerName :: extras) contents := by
  obtain ⟨later, ran, kinds⟩ := @Staging.write codec habits tree dir extras contents _
    (Bytes.utf8 (target.debugName ++ "\n")) staging (onceName_marker target) unused free
  refine ⟨later, ?_, staging.extra unused kinds⟩
  unfold marked recordStateTransition DurabilityState.transition
  rw [if_pos legal]
  exact serve_mapError (serve_mapped ran)

theorem look_verifyStagedFiles (staging : Staging codec tree dir extras contents)
    (logical : ∀ content ∈ contents, LogicalName content.1)
    (small : ∀ content ∈ contents, content.2.length < 2 ^ 64) :
    look habits tree (verifyStagedFiles codec dir (contents.map (stagedFile codec))) =
      .ok (contents.map Prod.snd) := by
  suffices each : ∀ some_ ⊆ contents, look habits tree (verifyStagedFiles codec dir
      (some_.map (stagedFile codec))) = .ok (some_.map Prod.snd) from each contents (fun _ listed => listed)
  intro some_ inside
  induction some_ with
  | nil => rfl
  | cons content others ih =>
      have listed : content ∈ contents := inside (by simp)
      have read : look habits tree (readBeneath dir (storedName codec content.1 content.2)) = .ok content.2 :=
        look_readBeneath.mpr ⟨_, openBeneath_plain (plain_stored (logical content listed)),
          staging.stored content listed⟩
      have length : (UInt64.ofNat content.2.length).toNat = content.2.length :=
        UInt64.toNat_ofNat_of_lt' (small content listed)
      have capped : look habits tree (readBeneathCapped dir (storedName codec content.1 content.2)
          (UInt64.ofNat content.2.length)) = .ok content.2 := by
        unfold readBeneathCapped
        rw [look_andThen readBeneath_reads, read]
        simp [readCapped, length]
      have first : look habits tree (verifyStagedFile codec dir (stagedFile codec content)) = .ok content.2 := by
        unfold verifyStagedFile
        dsimp only [stagedFile]
        rw [look_bind (readBeneathCapped_reads _), capped]
        simp
      rw [List.map_cons]
      unfold verifyStagedFiles
      rw [look_andThen (verifyStagedFile_reads _ _), first]
      dsimp only
      rw [look_map, ih fun _ there => inside (List.mem_cons_of_mem _ there)]
      rfl

/-- The manifest of a checkpoint with these contents. -/
def manifestOf (codec : CheckpointCodec) (dir : DiskPath) (checkpointId : String) (about : ManifestMeta)
    (contents : List (String × List UInt8)) : CheckpointManifest :=
  (stagedWith codec dir checkpointId contents).buildManifest codec about (contents.map Prod.snd)

theorem serve_commit {about : ManifestMeta} (filled : contents ≠ [])
    (staging : Staging codec tree dir [DurabilityState.writing.markerName] contents)
    (logical : ∀ content ∈ contents, LogicalName content.1)
    (small : ∀ content ∈ contents, content.2.length < 2 ^ 64)
    (writable : ∃ json, codec.toJson (manifestOf codec dir checkpointId about contents) = .ok json)
    (free : ∀ name, habits.locked (dir ++ [name]) = false) :
    ∃ later committed, tree.serve habits ((stagedWith codec dir checkpointId contents).commit codec about) =
        (later, .ok committed) ∧
      committed.manifest = manifestOf codec dir checkpointId about contents ∧
      ∃ extras, Staging codec later dir extras contents := by
  obtain ⟨first, wrote, staging⟩ := @serve_recordStateTransition codec habits tree dir contents _ .writing
    .localWritten staging (by decide) (unusedOnce_hidden (by decide) logical (by decide)) free
  have verified : first.serve habits (verifyStagedFiles codec dir (contents.map (stagedFile codec))) =
      (first, .ok (contents.map Prod.snd)) :=
    serve_of_look (verifyStagedFiles_reads _ _) (look_verifyStagedFiles staging logical small)
  obtain ⟨json, encoded⟩ := writable
  have unused : UnusedOnce codec [DurabilityState.localWritten.markerName, DurabilityState.writing.markerName]
      contents manifestFilename :=
    unusedOnce_manifest (by decide)
  obtain ⟨second, ran, kinds⟩ := @Staging.write codec habits first dir _ contents _ json staging
    onceName_manifest unused free
  obtain ⟨third, marked_, last⟩ := @serve_recordStateTransition codec habits second dir contents _ .localWritten
    .hashVerified (staging.extra unused kinds) (by decide) (unusedOnce_hidden (by decide) logical (by decide)) free
  have someStaged : (stagedWith codec dir checkpointId contents).staged ≠ [] := by
    simpa [stagedWith] using filled
  refine ⟨third, ⟨dir, manifestOf codec dir checkpointId about contents, true⟩, ?_, rfl, _, last⟩
  have written : first.serve habits (writeManifest codec dir (manifestOf codec dir checkpointId about contents)) =
      (second, .ok true) := by
    unfold writeManifest
    rw [encoded]
    exact serve_mapError ran
  unfold StagedCheckpoint.commit
  rw [if_neg someStaged]
  refine (serve_ok wrote).trans ((serve_ok verified).trans ((serve_ok written).trans ((serve_ok marked_).trans ?_)))
  rfl

end Publishing

section FromFolder

variable {codec : CheckpointCodec} {habits : Habits} {tree : FileTree} {sourceDir parent sharedRoot : DiskPath}
  {dirName checkpointId : String} {about : ManifestMeta} {files listed : List (String × List UInt8)}
  {cap declared : UInt64}

/-- The folder has these files, and nothing else. -/
def HoldsExactly (tree : FileTree) (dir : DiskPath) (files : List (String × List UInt8)) : Prop :=
  tree.kindAt dir = some .folder ∧
    ∀ name, tree.kindAt (dir ++ [name]) = (files.lastValue name).map DiskEntry.file

theorem declareSource_reads (name : String) :
    (declareSource sourceDir cap declared name).Asks FileQuestion.Reads := by
  have kind : FileQuestion.Reads (.kind (sourceDir ++ [name])) := trivial
  have length : FileQuestion.Reads (.length (sourceDir ++ [name])) := trivial
  refine Asks.andThen (Asks.map (asks_question kind)) fun found => ?_
  cases found with
  | folder => exact asks_pure _
  | file =>
      refine Asks.andThen (Asks.map (asks_question length)) fun found => ?_
      dsimp only
      split
      · exact asks_pure _
      · exact asks_pure _

theorem declareSources_reads (names : List String) :
    (declareSources sourceDir cap declared names).Asks FileQuestion.Reads := by
  induction names generalizing declared with
  | nil => exact asks_pure _
  | cons name names ih => exact Asks.andThen (declareSource_reads name) fun _ => ih

theorem look_declareSources
    (source : ∀ content ∈ listed, tree.kindAt (sourceDir ++ [content.1]) = some (.file content.2))
    (fits : declared.toNat + sizeOf listed ≤ cap.toNat) :
    look habits tree (declareSources sourceDir cap declared (listed.map Prod.fst)) = .ok () := by
  induction listed generalizing declared with
  | nil => rfl
  | cons content listed ih =>
      obtain ⟨name, data⟩ := content
      have fits : declared.toNat + (data.length + sizeOf listed) ≤ cap.toNat := fits
      have there : tree.kindAt (sourceDir ++ [name]) = some (.file data) := source (name, data) (by simp)
      have sum := UInt64.toNat_saturatingAdd_length (show declared.toNat + data.length ≤ cap.toNat by omega)
      have below : ¬ cap < declared.saturatingAdd (UInt64.ofNat data.length) := by
        rw [UInt64.lt_iff_toNat_lt, sum]
        omega
      have first : look habits tree (declareSource sourceDir cap declared name) =
          .ok (declared.saturatingAdd (UInt64.ofNat data.length)) := by
        have kind : tree.serve habits (FileQuestion.kind (sourceDir ++ [name])).ask = (tree, .ok .file) :=
          serve_asked trivial (by simp only [answer, there])
        have size : tree.serve habits (FileQuestion.length (sourceDir ++ [name])).ask =
            (tree, .ok data.length) :=
          serve_asked trivial (by simp only [answer, there])
        unfold look declareSource
        dsimp only
        rw [serve_ok (serve_mapError kind), serve_ok (serve_mapError size), if_neg below]
        rfl
      rw [List.map_cons]
      unfold declareSources
      rw [look_andThen (declareSource_reads name), first]
      exact ih (fun content later => source content (List.mem_cons_of_mem _ later)) (by rw [sum]; omega)

theorem sizeOf_perm (same : files.Perm listed) : sizeOf files = sizeOf listed :=
  List.Perm.sum_eq (same.map fun content => content.2.length)

/-- The names with what the files hold under them. -/
def withData (files : List (String × List UInt8)) (names : List String) : List (String × List UInt8) :=
  names.map fun name => (name, (files.lastValue name).getD [])

theorem names_withData (names : List String) : (withData files names).map Prod.fst = names := by
  simp [withData, Function.comp_def]

theorem withData_perm {names : List String} (distinct : (files.map Prod.fst).Nodup)
    (same : names.Perm (files.map Prod.fst)) : (withData files names).Perm files := by
  have back : (files.map Prod.fst).map (fun name => (name, (files.lastValue name).getD [])) = files := by
    rw [List.map_map]
    conv_rhs => rw [← List.map_id files]
    refine List.map_congr_left fun content listed => ?_
    have found : files.lastValue content.1 = some content.2 := (List.lastValue_eq_some distinct).mpr listed
    simp [found]
  have moved := same.map fun name => (name, (files.lastValue name).getD [])
  rwa [back] at moved

/-- A folder to publish from. -/
structure PublishableFrom (tree : FileTree) (parent : DiskPath) (dirName : String)
    (files : List (String × List UInt8)) (cap : UInt64) : Prop where
  named : PlainName dirName
  holds : HoldsExactly tree (parent ++ [dirName]) files
  distinct : (files.map Prod.fst).Nodup
  filled : files ≠ []
  accepted : ∀ file ∈ files, validateLogicalName file.1 = .ok ()
  fits : sizeOf files ≤ cap.toNat

/-- A place to publish into: nothing is there yet, and no one else locks files there. -/
structure PublishableInto (habits : Habits) (tree : FileTree) (sharedRoot : DiskPath)
    (jobId checkpointId : String) : Prop where
  safeId : safeComponent checkpointId "checkpoint_id" = .ok ()
  validId : validateCheckpointId checkpointId = .ok ()
  safeJob : safeComponent jobId "job_id" = .ok ()
  fresh : FreshDirectory tree (sharedRoot ++ [jobId] ++ [checkpointId])
  unlocked : ∀ name, habits.locked (sharedRoot ++ [jobId] ++ [checkpointId] ++ [name]) = false

theorem HoldsExactly.names (holds : HoldsExactly tree sourceDir files) (distinct : (files.map Prod.fst).Nodup) :
    (habits.shuffle (tree.childNames sourceDir)).Perm (files.map Prod.fst) := by
  refine (habits.shuffle_perm _).trans ?_
  refine (List.perm_ext_iff_of_nodup nodup_childNames distinct).mpr fun name => ?_
  rw [mem_childNames, holds.2 name, Option.isSome_map]
  constructor
  · intro there
    obtain ⟨data, found⟩ := Option.isSome_iff_exists.mp there
    exact List.mem_map.mpr ⟨_, List.mem_of_lastValue found, rfl⟩
  · intro listed
    obtain ⟨⟨_, data⟩, written, rfl⟩ := List.mem_map.mp listed
    obtain ⟨last, found⟩ := List.lastValue_isSome written
    rw [found]
    rfl

theorem HoldsExactly.file (holds : HoldsExactly tree sourceDir files) (distinct : (files.map Prod.fst).Nodup)
    {content : String × List UInt8} (listed : content ∈ files) :
    tree.kindAt (sourceDir ++ [content.1]) = some (.file content.2) := by
  rw [holds.2, (List.lastValue_eq_some distinct).mpr listed]
  rfl

/-- The folder as it is listed. -/
theorem HoldsExactly.asListed (holds : HoldsExactly tree sourceDir files) (distinct : (files.map Prod.fst).Nodup) :
    (withData files (habits.shuffle (tree.childNames sourceDir))).Perm files :=
  withData_perm distinct (holds.names distinct)

theorem HoldsExactly.lists (holds : HoldsExactly tree sourceDir files) :
    tree.serve habits (listSource sourceDir) = (tree, .ok (habits.shuffle (tree.childNames sourceDir))) := by
  unfold listSource
  exact serve_mapError (serve_asked trivial (by simp only [answer, holds.1]))

theorem HoldsExactly.declares (holds : HoldsExactly tree sourceDir files) (distinct : (files.map Prod.fst).Nodup)
    (fits : sizeOf files ≤ cap.toNat) :
    look habits tree (declareSources sourceDir cap 0 (habits.shuffle (tree.childNames sourceDir))) = .ok () := by
  have listed := @HoldsExactly.asListed habits tree sourceDir files holds distinct
  have found := @look_declareSources habits tree sourceDir (withData files (habits.shuffle (tree.childNames sourceDir)))
    cap 0 (fun content there => holds.file distinct (listed.mem_iff.mp there))
    (by rw [sizeOf_perm listed, UInt64.toNat_zero]; omega)
  rwa [names_withData] at found

theorem HoldsExactly.someNames (holds : HoldsExactly tree sourceDir files) (distinct : (files.map Prod.fst).Nodup)
    (filled : files ≠ []) : habits.shuffle (tree.childNames sourceDir) ≠ [] := by
  intro none_
  have same := @HoldsExactly.names habits tree sourceDir files holds distinct
  rw [none_] at same
  exact filled (List.map_eq_nil_iff.mp (List.nil_perm.mp same))

theorem look_ensureNotLink (path : DiskPath) : look habits tree (ensureNotLink path) = .ok () := by
  have kind : FileQuestion.Reads (.kind path) := trivial
  unfold ensureNotLink
  dsimp only
  rw [look_bind (asks_question kind)]
  simp only [look, serve_question, answer]
  cases tree.kindAt path with
  | none => rfl
  | some entry => cases entry <;> rfl

theorem ensureNotLink_reads (path : DiskPath) : (ensureNotLink path).Asks FileQuestion.Reads := by
  have kind : FileQuestion.Reads (.kind path) := trivial
  unfold ensureNotLink
  dsimp only
  refine Asks.bind (asks_question kind) fun found => ?_
  split
  · exact asks_pure _
  · exact asks_pure _
  · exact asks_pure _

theorem jobRoot_reads (jobId : String) : (jobRoot sharedRoot jobId).Asks FileQuestion.Reads := by
  unfold jobRoot
  split
  · exact asks_pure _
  · exact Asks.andThen (ensureNotLink_reads _) fun _ => asks_pure _

theorem look_jobRoot {jobId : String} (safe : safeComponent jobId "job_id" = .ok ()) :
    look habits tree (jobRoot sharedRoot jobId) = .ok (sharedRoot ++ [jobId]) := by
  unfold jobRoot
  rw [safe]
  dsimp only
  rw [look_andThen (ensureNotLink_reads _), look_ensureNotLink]
  rfl

/-- The publication of a new checkpoint succeeds. -/
theorem serve_publish (source : PublishableFrom tree parent dirName files cap)
    (place : PublishableInto habits tree sharedRoot about.jobId checkpointId)
    (writable : ∀ contents, contents.Perm files → ∃ json, codec.toJson
      (manifestOf codec (sharedRoot ++ [about.jobId] ++ [checkpointId]) checkpointId about contents) = .ok json) :
    ∃ published committed contents extras,
      tree.serve habits (publishDirectoryCapped codec sharedRoot about.jobId checkpointId
        (parent ++ [dirName]) about cap) = (published, .ok committed) ∧
      contents.Perm files ∧
      committed.manifest = manifestOf codec (sharedRoot ++ [about.jobId] ++ [checkpointId]) checkpointId about
        contents ∧
      Staging codec published (sharedRoot ++ [about.jobId] ++ [checkpointId]) extras contents := by
  let dir := sharedRoot ++ [about.jobId] ++ [checkpointId]
  let names := habits.shuffle (tree.childNames (parent ++ [dirName]))
  have same : names.Perm (files.map Prod.fst) := source.holds.names source.distinct
  have sorted : (withData files (sortNames names)).Perm files :=
    withData_perm source.distinct ((List.mergeSort_perm names _).trans same)
  have bound := cap.toNat_lt
  have fits := source.fits
  have declared : look habits tree (declareSources (parent ++ [dirName]) cap 0 names) = .ok () :=
    source.holds.declares source.distinct source.fits
  have someNames : names ≠ [] := source.holds.someNames source.distinct source.filled
  have listing : tree.serve habits (listSource (parent ++ [dirName])) = (tree, .ok names) := source.holds.lists
  have accepted : ∀ content ∈ withData files (sortNames names), validateLogicalName content.1 = .ok () :=
    fun content there => source.accepted content (sorted.mem_iff.mp there)
  obtain ⟨begun, began, staging, kept⟩ := @serve_begin codec habits tree checkpointId (sharedRoot ++ [about.jobId])
    place.fresh place.validId place.unlocked
  obtain ⟨staged, filled, staging⟩ := @serve_stageWithinBudget codec habits begun dir parent dirName checkpointId
    [] (withData files (sortNames names)) cap 0 source.named staging accepted
    (by rw [List.nil_append, (sorted.map Prod.fst).nodup_iff]; exact source.distinct)
    (fun content there => kept _ _ (source.holds.file source.distinct (sorted.mem_iff.mp there)))
    (by rw [sizeOf_perm sorted, UInt64.toNat_zero]; omega) place.unlocked
  rw [List.nil_append] at filled staging
  have small : ∀ content ∈ withData files (sortNames names), content.2.length < 2 ^ 64 := by
    intro content there
    have part : content.2.length ≤ sizeOf files := by
      rw [← sizeOf_perm sorted]
      exact List.le_sum_of_mem (List.mem_map.mpr ⟨content, there, rfl⟩)
    omega
  have someContents : withData files (sortNames names) ≠ [] := by
    intro none_
    rw [none_] at sorted
    exact source.filled (List.nil_perm.mp sorted)
  obtain ⟨published, committed, commits, manifest, extras, last⟩ := @serve_commit codec habits staged dir
    checkpointId _ about someContents staging (fun content there => validateLogicalName_ok (accepted content there))
    small (writable _ sorted) place.unlocked
  refine ⟨published, committed, withData files (sortNames names), extras, ?_, sorted, manifest, last⟩
  unfold publishDirectoryCapped
  rw [place.safeId]
  dsimp only
  rw [serve_andThen_reads (jobRoot_reads _), look_jobRoot place.safeJob]
  dsimp only
  rw [serve_andThen_reads (ensureNotLink_reads _), look_ensureNotLink]
  dsimp only
  rw [serve_ok listing, serve_andThen_reads (declareSources_reads _), declared]
  dsimp only
  rw [if_neg someNames]
  unfold stageAndCommit
  rw [serve_ok (serve_mapError began)]
  rw [names_withData] at filled
  rw [serve_ok filled, serve_mapError commits]

end FromFolder

end Gputeer.Checkpoint
