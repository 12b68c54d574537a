import Gputeer.Checkpoint.Verification
import Gputeer.Lib.Except

/-! What is restored, of a checkpoint that was published here and of one that someone else made. -/

namespace Gputeer.Checkpoint

open Dialogue Text FileTree

section Restoring

variable {codec : CheckpointCodec} {habits : Habits} {tree : FileTree} {dest sharedRoot : DiskPath}
  {logical : String} {data : List UInt8} {contents : List (String × List UInt8)}
  {manifest : Protocol.CheckpointManifest}

/-- A name that can be restored under. -/
abbrev SafeName (name : String) : Prop := safeComponent name "file name" = .ok ()

theorem serve_restoreFile (safe : SafeName logical) (folder : tree.kindAt dest = some .folder)
    (noFolder : tree.kindAt (dest ++ [logical]) ≠ some .folder) :
    ∃ later, tree.serve habits (restoreFile dest logical data) = (later, .ok ()) ∧
      ∀ path, later.kindAt path =
        if path = dest ++ [logical] then some (.file data) else tree.kindAt path := by
  have may : tree.mayPut (dest ++ [logical]) = .ok () := by
    refine mayPut_eq_ok.mpr ⟨noFolder, ?_⟩
    rw [List.dropLast_concat, folder]
  have again : (tree.putFile (dest ++ [logical]) []).mayPut (dest ++ [logical]) = .ok () := mayPut_putFile may
  have created : tree.serve habits (FileQuestion.create (dest ++ [logical])).ask =
      (tree.putFile (dest ++ [logical]) [], .ok ()) := by
    unfold FileTree.serve
    rw [serve_question]
    simp only [answer, may]
    rfl
  have written : (tree.putFile (dest ++ [logical]) []).serve habits
      (FileQuestion.writeAll (dest ++ [logical]) data).ask =
      ((tree.putFile (dest ++ [logical]) []).putFile (dest ++ [logical]) data, .ok ()) := by
    unfold FileTree.serve
    rw [serve_question]
    simp only [answer, again]
    rfl
  refine ⟨(tree.putFile (dest ++ [logical]) []).putFile (dest ++ [logical]) data, ?_, fun path => ?_⟩
  · unfold restoreFile writeFile
    rw [show safeComponent logical "file name" = .ok () from safe,
      joinName_plain dest (safeComponent_eq_ok.mp safe).1]
    dsimp only
    rw [serve_ok (serve_mapError created)]
    exact serve_mapError written
  · rw [kindAt_putFile_of_mayPut again, kindAt_putFile_of_mayPut may]
    split
    · rfl
    · rfl

/-- All files are restored, and of several under one name the last one stays. -/
theorem serve_restoreFiles (safe : ∀ content ∈ contents, SafeName content.1)
    (folder : tree.kindAt dest = some .folder) (noFolder : ∀ name, tree.kindAt (dest ++ [name]) ≠ some .folder) :
    ∃ later, tree.serve habits (restoreFiles dest contents) = (later, .ok ()) ∧
      later.kindAt dest = some .folder ∧ ∀ name, later.kindAt (dest ++ [name]) =
        ((contents.lastValue name).map DiskEntry.file).or (tree.kindAt (dest ++ [name])) := by
  induction contents generalizing tree with
  | nil => exact ⟨tree, rfl, folder, fun name => rfl⟩
  | cons content contents ih =>
      obtain ⟨logical, data⟩ := content
      rw [List.forall_mem_cons] at safe
      obtain ⟨between, first, kinds⟩ := @serve_restoreFile habits tree dest logical data safe.1 folder
        (noFolder logical)
      have betweenFolder : between.kindAt dest = some .folder := by
        rw [kinds, if_neg (by simp), folder]
      have noBetween : ∀ name, between.kindAt (dest ++ [name]) ≠ some .folder := by
        intro name
        rw [kinds]
        split
        · simp
        · exact noFolder name
      obtain ⟨later, ran, there, names⟩ := ih safe.2 betweenFolder noBetween
      refine ⟨later, ?_, there, fun name => ?_⟩
      · unfold restoreFiles
        rw [serve_ok first, ran]
      · rw [names, kinds, List.lastValue]
        by_cases same : name = logical
        · subst same
          cases contents.lastValue name <;> simp
        · have apart : dest ++ [name] ≠ dest ++ [logical] := by simpa using same
          rw [if_neg apart, if_neg same, Option.or_none]

theorem restoreFiles_safe (folder : tree.kindAt dest = some .folder)
    (noFolder : ∀ name, tree.kindAt (dest ++ [name]) ≠ some .folder)
    (restored : (tree.serve habits (restoreFiles dest contents)).2 = .ok ()) :
    ∀ content ∈ contents, SafeName content.1 := by
  induction contents generalizing tree with
  | nil => exact fun _ no => (by cases no)
  | cons content contents ih =>
      obtain ⟨logical, data⟩ := content
      by_cases safe : SafeName logical
      · obtain ⟨between, first, kinds⟩ := @serve_restoreFile habits tree dest logical data safe folder
          (noFolder logical)
        have betweenFolder : between.kindAt dest = some .folder := by
          rw [kinds, if_neg (by simp), folder]
        have noBetween : ∀ name, between.kindAt (dest ++ [name]) ≠ some .folder := by
          intro name
          rw [kinds]
          split
          · simp
          · exact noFolder name
        unfold restoreFiles at restored
        rw [serve_ok first] at restored
        exact List.forall_mem_cons.mpr ⟨safe, ih betweenFolder noBetween restored⟩
      · unfold restoreFiles restoreFile at restored
        cases refused : safeComponent logical "file name" with
        | ok done => exact absurd refused safe
        | error error =>
            rw [refused] at restored
            cases restored

/-- A destination that can be made, with nothing in it. -/
structure EmptyDestination (tree : FileTree) (dest : DiskPath) : Prop where
  reachable : ∀ part, part <+: dest → tree.kindAt part = none ∨ tree.kindAt part = some .folder
  empty : ∀ name, tree.kindAt (dest ++ [name]) = none

theorem serve_emptyDestination (ready : EmptyDestination tree dest) :
    ∃ later, tree.serve habits (emptyDestination dest) = (later, .ok ()) ∧ HoldsExactly later dest [] := by
  have possible : ∀ part ∈ dest.inits, tree.kindAt part = none ∨ tree.kindAt part = some .folder :=
    fun part listed => ready.reachable part ((List.mem_inits _ _).mp listed)
  let made := dest.inits.foldl putFolder tree
  have kindMade (path : DiskPath) :
      made.kindAt path = if path ∈ dest.inits then some .folder else tree.kindAt path :=
    kindAt_madeFolders _ possible
  have makes : tree.serve habits (FileQuestion.createFolders dest).ask = (made, .ok ()) :=
    serve_createFolders possible
  have folder : made.kindAt dest = some .folder := by
    rw [kindMade, if_pos ((List.mem_inits _ _).mpr (List.prefix_refl _))]
  have inside (name : String) : made.kindAt (dest ++ [name]) = none := by
    have outside : dest ++ [name] ∉ dest.inits := by
      intro listed
      have := ((List.mem_inits _ _).mp listed).length_le
      simp at this
    rw [kindMade, if_neg outside, ready.empty]
  have none_ : habits.shuffle (made.childNames dest) = [] := by
    refine List.eq_nil_iff_forall_not_mem.mpr fun name listed => ?_
    have there := mem_childNames.mp ((habits.shuffle_perm _).mem_iff.mp listed)
    rw [inside] at there
    cases there
  have lists : made.serve habits (FileQuestion.list dest).ask = (made, .ok []) :=
    serve_asked trivial (by simp only [answer, folder, none_])
  refine ⟨made, ?_, folder, inside⟩
  unfold emptyDestination
  dsimp only
  rw [serve_ok (serve_mapError makes), serve_ok (serve_mapError lists)]
  rfl

/-- Whatever was there: a destination that is accepted is empty. -/
theorem emptyDestination_holds {later : FileTree}
    (accepted : tree.serve habits (emptyDestination dest) = (later, .ok ())) : HoldsExactly later dest [] := by
  unfold emptyDestination at accepted
  dsimp only at accepted
  obtain ⟨made, _, _, rest⟩ := of_serve_ok accepted
  obtain ⟨listed, names, lists, last⟩ := of_serve_ok rest
  have asked := of_serve_mapError lists
  have same : listed = made := (congrArg Prod.fst asked).symm.trans (serve_reads (asks_question trivial))
  have answered : answer habits made (.list dest) = .ok names := congrArg Prod.snd asked
  split at last
  · next none_ =>
    have here : later = made := (congrArg Prod.fst last).symm.trans same
    rw [here]
    subst none_
    simp only [answer] at answered
    split at answered
    · cases answered
    · next folder =>
      refine ⟨folder, fun name => ?_⟩
      have nobody : name ∉ made.childNames dest := by
        intro child
        have listed := (habits.shuffle_perm _).mem_iff.mpr child
        rw [Except.ok.inj answered] at listed
        cases listed
      rw [mem_childNames, Option.not_isSome_iff_eq_none] at nobody
      exact nobody
    · cases answered
  · cases last

theorem HoldsExactly.perm {files : List (String × List UInt8)} (holds : HoldsExactly tree dest contents)
    (distinct : (contents.map Prod.fst).Nodup) (same : contents.Perm files) : HoldsExactly tree dest files :=
  ⟨holds.1, fun name => by rw [holds.2, List.lastValue_perm distinct same]⟩

theorem HoldsExactly.noFolder (holds : HoldsExactly tree dest []) (name : String) :
    tree.kindAt (dest ++ [name]) ≠ some .folder := by
  rw [holds.2]
  simp [List.lastValue]

/-- What a restoration that succeeds leaves. -/
theorem restore_verified {later : FileTree}
    (restored : tree.serve habits (restore codec sharedRoot manifest dest) = (later, .ok ())) :
    ∃ contents, look habits tree (verifyOnDisk codec sharedRoot manifest) = .ok contents ∧
      (∀ content ∈ contents, SafeName content.1) ∧ HoldsExactly later dest contents := by
  unfold restore at restored
  obtain ⟨verified, contents, verifies, rest⟩ := of_serve_ok restored
  obtain ⟨emptied, _, empties, last⟩ := of_serve_ok rest
  have empty : HoldsExactly emptied dest [] := emptyDestination_holds empties
  have safe := restoreFiles_safe empty.1 empty.noFolder (congrArg Prod.snd last)
  obtain ⟨same, ran, folder, names⟩ := @serve_restoreFiles habits emptied dest contents safe empty.1
    empty.noFolder
  rw [last] at ran
  cases ran
  refine ⟨contents, congrArg Prod.snd verifies, safe, folder, fun name => ?_⟩
  rw [names, empty.2]
  simp [List.lastValue]

theorem restore_holds {later : FileTree}
    (restored : tree.serve habits (restore codec sharedRoot manifest dest) = (later, .ok ())) :
    ∃ contents, List.Forall₂ (Matches codec) manifest.files contents ∧ HoldsExactly later dest contents := by
  obtain ⟨contents, verified, _, holds⟩ := restore_verified restored
  exact ⟨contents, verifyOnDisk_match verified, holds⟩

/-- What is verified is restored, under names that can be restored under. -/
theorem serve_restore (verified : look habits tree (verifyOnDisk codec sharedRoot manifest) = .ok contents)
    (ready : EmptyDestination tree dest) (safe : ∀ content ∈ contents, SafeName content.1) :
    ∃ later, tree.serve habits (restore codec sharedRoot manifest dest) = (later, .ok ()) ∧
      HoldsExactly later dest contents := by
  have verifies := serve_of_look verifyOnDisk_reads verified
  obtain ⟨emptied, empties, empty⟩ := @serve_emptyDestination habits tree dest ready
  obtain ⟨later, restored, folder, names⟩ := @serve_restoreFiles habits emptied dest contents safe empty.1
    empty.noFolder
  refine ⟨later, ?_, folder, fun name => ?_⟩
  · unfold restore
    rw [serve_ok verifies, serve_ok empties, restored]
  · rw [names, empty.2]
    simp [List.lastValue]

end Restoring

section Agreement

variable {codec : CheckpointCodec} {habits : Habits} {tree later : FileTree} {dest sharedRoot : DiskPath}
  {contents files : List (String × List UInt8)} {manifest : Protocol.CheckpointManifest}

/-- For every entry there are bytes of the listed size and digest under its logical name, and nothing else. -/
structure HoldsEntries (codec : CheckpointCodec) (tree : FileTree) (dest : DiskPath)
    (files : List Protocol.CheckpointFile) : Prop where
  each : ∀ file ∈ files, ∃ logical data, logicalNameOf file.path = some logical ∧
    tree.kindAt (dest ++ [logical]) = some (.file data) ∧ data.length = file.sizeBytes.toNat ∧
    file.digest = some ⟨1, (codec.blake3 data).toList⟩
  only : ∀ name, tree.kindAt (dest ++ [name]) ≠ none → ∃ file ∈ files, logicalNameOf file.path = some name

/-- Entries that share a logical name list the same digest and size. -/
def NamesAgree (files : List Protocol.CheckpointFile) : Prop :=
  ∀ first ∈ files, ∀ second ∈ files, logicalNameOf first.path = logicalNameOf second.path →
    first.digest = second.digest ∧ first.sizeBytes = second.sizeBytes

theorem holdsEntries_iff {listed : List Protocol.CheckpointFile}
    (verified : List.Forall₂ (Matches codec) listed contents) (holds : HoldsExactly later dest contents) :
    HoldsEntries codec later dest listed ↔ NamesAgree listed := by
  constructor
  · intro entries first firstListed second secondListed same
    obtain ⟨logical, data, named, there, size, digest⟩ := entries.each first firstListed
    obtain ⟨other, content, otherNamed, otherThere, otherSize, otherDigest⟩ := entries.each second secondListed
    have sameName : logical = other := by
      rw [named, otherNamed] at same
      exact Option.some.inj same
    rw [← sameName, there] at otherThere
    cases otherThere
    exact ⟨digest.trans otherDigest.symm, UInt64.toNat_inj.mp (size.symm.trans otherSize)⟩
  · intro agree
    refine ⟨fun file listedFile => ?_, fun name there => ?_⟩
    · obtain ⟨content, contentListed, found⟩ := verified.exists_right listedFile
      obtain ⟨data, last⟩ := List.lastValue_isSome contentListed
      obtain ⟨other, otherListed, otherFound⟩ := verified.exists_left (List.mem_of_lastValue last)
      have sameName : logicalNameOf file.path = logicalNameOf other.path :=
        found.logical.trans otherFound.logical.symm
      obtain ⟨digest, size⟩ := agree file listedFile other otherListed sameName
      refine ⟨content.1, data, found.logical, ?_, ?_, ?_⟩
      · rw [holds.2, last]
        rfl
      · rw [size]
        exact otherFound.size
      · rw [digest]
        exact otherFound.digest
    · rw [holds.2] at there
      cases last : contents.lastValue name with
      | none =>
          rw [last] at there
          exact absurd rfl there
      | some data =>
          obtain ⟨file, listedFile, found⟩ := verified.exists_left (List.mem_of_lastValue last)
          exact ⟨file, listedFile, found.logical⟩

/-- Names that one machine publishes and another restores. -/
def PortableName (name : String) : Prop := ':' ∉ name.toList ∧ ∀ c ∈ name.toList, isControl c = false

theorem safeName_iff {name : String} (logical : LogicalName name) : SafeName name ↔ PortableName name := by
  refine safeComponent_eq_ok.trans ⟨fun ⟨_, _, noColon, printable⟩ => ⟨noColon, printable⟩, fun portable => ?_⟩
  exact ⟨logical.plain, logical.noBack, portable.1, portable.2⟩

/-- The contents that are verified are restored, if their names can be. -/
theorem restore_iff (verified : look habits tree (verifyOnDisk codec sharedRoot manifest) = .ok contents)
    (ready : EmptyDestination tree dest) (distinct : (contents.map Prod.fst).Nodup) (same : contents.Perm files)
    (logical : ∀ file ∈ files, LogicalName file.1) :
    (∃ later, tree.serve habits (restore codec sharedRoot manifest dest) = (later, .ok ()) ∧
        HoldsExactly later dest files) ↔ ∀ file ∈ files, PortableName file.1 := by
  constructor
  · rintro ⟨later, restored, _⟩ file listed
    obtain ⟨others, found, safe, _⟩ := restore_verified restored
    rw [verified] at found
    cases found
    exact (safeName_iff (logical file listed)).mp (safe file (same.mem_iff.mpr listed))
  · intro portable
    have safe : ∀ content ∈ contents, SafeName content.1 := by
      intro content listed
      have there := same.mem_iff.mp listed
      exact (safeName_iff (logical content there)).mpr (portable content there)
    obtain ⟨later, restored, holds⟩ := serve_restore verified ready safe
    exact ⟨later, restored, holds.perm distinct same⟩

/-- What is published is restored as it was exactly when its names can be restored under; and what is restored of
any manifest is what it lists exactly when its entries agree. -/
theorem checkpoints_are_restored (writable : ∀ manifest, ∃ json, codec.toJson manifest = .ok json) :
    (∀ (habits : Habits) (tree : FileTree) (parent sharedRoot : DiskPath) (dirName checkpointId : String)
        (about : ManifestMeta) (files : List (String × List UInt8)) (cap : UInt64),
      PublishableFrom tree parent dirName files cap → sizeOf files ≤ maxInMemoryCheckpointBytes.toNat →
      PublishableInto habits tree sharedRoot about.jobId checkpointId →
      ∃ published committed signed,
        tree.serve habits (publishDirectoryCapped codec sharedRoot about.jobId checkpointId
          (parent ++ [dirName]) about cap) = (published, .ok committed) ∧
        toUnsignedPb committed.manifest = .ok signed ∧
        ∀ (habits : Habits) (disk : FileTree) (dest : DiskPath),
          (∀ path, sharedRoot ++ [about.jobId] ++ [checkpointId] <+: path →
            disk.kindAt path = published.kindAt path) →
          EmptyDestination disk dest →
          (∃ contents, look habits disk (verifyOnDisk codec sharedRoot signed) = .ok contents ∧
            contents.Perm files) ∧
          ((∃ later, disk.serve habits (restore codec sharedRoot signed dest) = (later, .ok ()) ∧
              HoldsExactly later dest files) ↔ ∀ file ∈ files, PortableName file.1)) ∧
    ∀ (habits : Habits) (tree later : FileTree) (sharedRoot dest : DiskPath)
        (manifest : Protocol.CheckpointManifest),
      tree.serve habits (restore codec sharedRoot manifest dest) = (later, .ok ()) →
      (HoldsEntries codec later dest manifest.files ↔ NamesAgree manifest.files) := by
  refine ⟨?_, fun habits tree later sharedRoot dest manifest restored => ?_⟩
  · intro habits tree parent sharedRoot dirName checkpointId about files cap source within place
    obtain ⟨published, committed, contents, extras, publishes, same, listed, staging⟩ :=
      serve_publish source place fun _ _ => writable _
    have someContents : contents ≠ [] := by
      rintro rfl
      exact source.filled (List.nil_perm.mp same)
    obtain ⟨signed, converts, tells⟩ := @toUnsignedPb_manifestOf codec
      (sharedRoot ++ [about.jobId] ++ [checkpointId]) checkpointId about contents someContents
    refine ⟨published, committed, signed, publishes, by rw [listed, converts], ?_⟩
    intro habits disk dest shared ready
    have logical : ∀ file ∈ files, LogicalName file.1 :=
      fun file there => validateLogicalName_ok (source.accepted file there)
    have verified := @look_verifyOnDisk codec habits disk sharedRoot checkpointId about contents signed someContents
      tells place.safeId place.safeJob (fun content there => logical content (same.mem_iff.mp there))
      (by rw [sizeOf_perm same]; exact within)
      (fun content there => (shared _ (List.prefix_append _ _)).trans (staging.stored content there))
    have distinct : (contents.map Prod.fst).Nodup := (same.map Prod.fst).nodup_iff.mpr source.distinct
    exact ⟨⟨contents, verified, same⟩, restore_iff verified ready distinct same logical⟩
  · obtain ⟨contents, verified, holds⟩ := restore_holds restored
    exact holdsEntries_iff verified holds

end Agreement

section Samples

def digestOf (number : Nat) : Vector UInt8 32 := Vector.ofFn fun i => UInt8.ofNat (number / 256 ^ (31 - i.val))

/-- The hashes of two files of one byte, of their leaves, and of the node above these. -/
def knownHash (data : List UInt8) : Vector UInt8 32 :=
  if data = [1] then digestOf 0x48fc721fbbc172e0925fa27af1671de225ba927134802998b10a1568a188652b
  else if data = [2] then digestOf 0xab13bedf42e84bae0f7c62c7dd6a8ada571e8829bed6ea558217f0361b5e25d0
  else if data = [0, 1] then digestOf 0x7b7015bb92cf0b318037702a6cdd81dee41224f734684c2c122cd6359cb1ee63
  else if data = [0, 2] then digestOf 0x0013f4c84c09ed4f906f561e31fb6cb5336107f6813206a1f8860ab1ad35f2b8
  else digestOf 0x43572982c88e21319e50a366fa5ea1f090cbc6a03bd8db43133df3a94062b5b3

def quoted (text : String) : String := "\"" ++ text ++ "\""

def fileJson (file : CheckpointFile) : String :=
  "    \x7b\n      \"path\": " ++ quoted file.path ++ ",\n      \"digest\": " ++ quoted file.digest ++
    ",\n      \"size_bytes\": " ++ toString file.sizeBytes ++ "\n    \x7d"

/-- Of texts without quotes, backslashes and control characters. -/
def manifestJson (manifest : CheckpointManifest) : String :=
  "\x7b\n  \"schema_version\": " ++ toString manifest.schemaVersion ++
    ",\n  \"checkpoint_id\": " ++ quoted manifest.checkpointId ++
    ",\n  \"job_id\": " ++ quoted manifest.jobId ++
    ",\n  \"attempt_id\": " ++ quoted manifest.attemptId ++
    ",\n  \"step\": " ++ toString manifest.step ++
    ",\n  \"files\": [\n" ++ String.intercalate ",\n" (manifest.files.map fileJson) ++
    "\n  ],\n  \"root_digest\": " ++ quoted manifest.rootDigest ++
    ",\n  \"total_bytes\": " ++ toString manifest.totalBytes ++
    ",\n  \"created_at_unix_ms\": " ++ toString manifest.createdAtUnixMs ++
    ",\n  \"producer_node_id\": " ++ quoted manifest.producerNodeId ++
    ",\n  \"fence_epoch\": " ++ toString manifest.fenceEpoch ++ "\n\x7d"

def knownCodec : CheckpointCodec where
  toJson manifest := .ok (Bytes.utf8 (manifestJson manifest))
  fromJson _ := .error "EOF while parsing a value at line 1 column 0"
  blake3 := knownHash

/-- The manifest of a checkpoint with these contents, which may share a name. -/
def foreignManifest (contents : List (String × List UInt8)) : Protocol.CheckpointManifest where
  schemaVersion := 1
  checkpointId := "c1"
  jobId := "job-1"
  attemptId := "a1"
  step := 7
  epoch := 0
  files := contents.map (signedFile knownCodec)
  rootDigest := (Protocol.merkleRoot knownHash (contents.map Prod.snd)).map fun root => ⟨1, root.toList⟩
  totalBytes := totalOf (contents.map fun content => UInt64.ofNat content.2.length)
  completeness := none
  createdAtUnixMs := 0
  producerNodeId := "n1"
  fenceEpoch := 0
  producerSignature := []

def foreignTree (contents : List (String × List UInt8)) : FileTree :=
  contents.foldl (fun tree content => tree.insert
    ["shared", "job-1", "c1", storedName knownCodec content.1 content.2] (.file content.2)) ∅

def foreignRestore (contents : List (String × List UInt8)) : FileTree × Except SharedError Unit :=
  (foreignTree contents).serve .quiet (restore knownCodec ["shared"] (foreignManifest contents) ["dest"])

theorem foreign_restored {contents : List (String × List UInt8)}
    (accepted : (foreignRestore contents).2.toOption = some ()) :
    (foreignTree contents).serve .quiet (restore knownCodec ["shared"] (foreignManifest contents) ["dest"]) =
      ((foreignRestore contents).1, .ok ()) :=
  Prod.ext rfl (Except.eq_ok_of_toOption accepted)

/-- Of two entries under one name the first is not restored. -/
theorem shared_name_is_lost :
    (foreignRestore [("w", [1]), ("w", [2])]).2.toOption = some () ∧
    (foreignRestore [("w", [1]), ("w", [2])]).1.kindAt ["dest", "w"] = some (.file [2]) ∧
    ¬ HoldsEntries knownCodec (foreignRestore [("w", [1]), ("w", [2])]).1 ["dest"]
      (foreignManifest [("w", [1]), ("w", [2])]).files := by
  obtain ⟨accepted, overwritten⟩ : (foreignRestore [("w", [1]), ("w", [2])]).2.toOption = some () ∧
      (foreignRestore [("w", [1]), ("w", [2])]).1.kindAt ["dest", "w"] = some (.file [2]) := by
    decide +kernel
  refine ⟨accepted, overwritten, fun entries => ?_⟩
  obtain ⟨contents, verified, holds⟩ := restore_holds (foreign_restored accepted)
  have agree := (holdsEntries_iff verified holds).mp entries
  have same := (agree (signedFile knownCodec ("w", [1])) (by decide +kernel)
    (signedFile knownCodec ("w", [2])) (by decide +kernel) (by decide +kernel)).1
  exact absurd same (by decide +kernel)

def sourceTree : FileTree := ((∅ : FileTree).insert ["step-1"] .folder).insert ["step-1", "w"] (.file [1])

theorem publishable_source : PublishableFrom sourceTree [] "step-1" [("w", [1])] 1024 where
  named := ⟨by decide, by decide, by decide, by decide⟩
  holds := by
    refine ⟨by decide +kernel, fun name => ?_⟩
    unfold sourceTree
    rw [kindAt_insert (by simp), kindAt_insert (by simp)]
    by_cases same : name = "w"
    · simp [same, List.lastValue]
    · have missing : kindAt ∅ ["step-1", name] = none := by
        rw [kindAt_of_ne (by simp)]
        simp
      simp [same, List.lastValue, missing]
  distinct := by decide
  filled := by decide
  accepted := by
    intro file listed
    rw [List.mem_singleton.mp listed]
    exact Except.eq_ok_of_toOption (by decide +kernel)
  fits := by decide

theorem publishable_place : PublishableInto .quiet sourceTree ["shared"] "job-1" "c1" where
  safeId := Except.eq_ok_of_toOption (by decide +kernel)
  validId := Except.eq_ok_of_toOption (by decide +kernel)
  safeJob := Except.eq_ok_of_toOption (by decide +kernel)
  fresh := by
    have elsewhere (path : DiskPath) (below : ["shared"] <+: path) : sourceTree.kindAt path = none := by
      obtain ⟨rest, rfl⟩ := below
      unfold sourceTree
      rw [kindAt_insert (by simp), kindAt_insert (by simp), kindAt_of_ne (by simp)]
      simp
    refine ⟨fun path below => elsewhere path ((List.prefix_append _ _).trans below), fun part inside _ => ?_⟩
    cases part with
    | nil => exact Or.inr rfl
    | cons first rest =>
        refine Or.inl (elsewhere _ ?_)
        rw [(List.cons_prefix_cons.mp inside).1]
        exact List.prefix_append ["shared"] rest
  unlocked := fun _ => rfl

/-- A folder of one file is published, and a checkpoint of two names is restored. -/
theorem one_file_is_published :
    (∃ published committed signed,
      sourceTree.serve .quiet (publishDirectoryCapped knownCodec ["shared"] "job-1" "c1" ["step-1"]
        ⟨"job-1", "a1", 7, 0, "n1", 0⟩ 1024) = (published, .ok committed) ∧
      toUnsignedPb committed.manifest = .ok signed) ∧
    (HoldsEntries knownCodec (foreignRestore [("v", [1]), ("w", [2])]).1 ["dest"]
        (foreignManifest [("v", [1]), ("w", [2])]).files ↔
      NamesAgree (foreignManifest [("v", [1]), ("w", [2])]).files) := by
  have both := @checkpoints_are_restored knownCodec fun _ => ⟨_, rfl⟩
  obtain ⟨published, committed, signed, publishes, converts, _⟩ := both.1 .quiet sourceTree [] ["shared"] "step-1"
    "c1" ⟨"job-1", "a1", 7, 0, "n1", 0⟩ [("w", [1])] 1024 publishable_source (by decide) publishable_place
  exact ⟨⟨published, committed, signed, publishes, converts⟩,
    both.2 _ _ _ _ _ _ (foreign_restored (by decide +kernel))⟩

end Samples

end Gputeer.Checkpoint
