import Gputeer.Checkpoint.Collection
import Gputeer.Lib.Except

/-! A writer that stops anywhere, a collection, and a search: what is found agrees with its files, and what
could be resumed from before still can. -/

namespace Gputeer.Checkpoint

open Dialogue Text FileTree

section Search

variable {codec : CheckpointCodec} {habits : Habits} {tree : FileTree} {root : DiskPath}
  {fits : String → CheckpointManifest → Bool} {jobId attemptId name : String} {manifest : CheckpointManifest}
  {found : Option CheckpointManifest}

theorem mem_latestStep {candidates : List CheckpointManifest} (latest : latestStep candidates = some manifest) :
    manifest ∈ candidates := by
  have listed := List.mem_of_getLast? latest
  exact List.mem_mergeSort.mp listed

theorem latestStep_le {candidates : List CheckpointManifest} (listed : manifest ∈ candidates) :
    ∃ latest, latestStep candidates = some latest ∧ manifest.step ≤ latest.step := by
  let le (first second : CheckpointManifest) : Bool := first.step ≤ second.step
  have ordered : (candidates.mergeSort le).Pairwise fun first second => le first second := by
    refine List.pairwise_mergeSort (fun first second third early late => ?_) (fun first second => ?_) candidates
    · simp only [le, decide_eq_true_eq] at early late ⊢
      exact UInt64.le_trans early late
    · simpa [le] using UInt64.le_total first.step second.step
  have sorted : manifest ∈ candidates.mergeSort le := List.mem_mergeSort.mpr listed
  rcases List.eq_nil_or_concat (candidates.mergeSort le) with none_ | ⟨before, last, whole⟩
  · rw [none_] at sorted
    cases sorted
  · rw [List.concat_eq_append] at whole
    refine ⟨last, ?_, ?_⟩
    · unfold latestStep
      rw [show candidates.mergeSort (fun first second => decide (first.step ≤ second.step)) = before ++ [last]
        from whole]
      simp
    · rw [whole] at sorted ordered
      rcases List.mem_append.mp sorted with earlier | same
      · have below := (List.pairwise_append.mp ordered).2.2 manifest earlier last (by simp)
        simpa [le] using below
      · rw [List.mem_singleton.mp same]
        exact UInt64.le_refl _

theorem look_resumeCandidatesBy {names : List String} {candidates : List CheckpointManifest}
    (searched : look habits tree (resumeCandidatesBy codec fits root names) = .ok candidates) :
    manifest ∈ candidates ↔ ∃ name ∈ names, ResumableBy codec tree root fits name manifest := by
  induction names generalizing candidates with
  | nil =>
      cases searched
      simp
  | cons name names ih =>
      unfold resumeCandidatesBy at searched
      rw [look_andThen (resumeCandidateBy_reads fits name)] at searched
      cases first : look habits tree (resumeCandidateBy codec fits root name) with
      | error error =>
          rw [first] at searched
          cases searched
      | ok candidate =>
          rw [first] at searched
          simp only [look_map] at searched
          cases rest : look habits tree (resumeCandidatesBy codec fits root names) with
          | error error =>
              rw [rest] at searched
              cases searched
          | ok others =>
              rw [rest] at searched
              cases searched
              rw [List.mem_append, ih rest]
              simp only [List.mem_cons, exists_eq_or_imp]
              rw [← @look_resumeCandidateBy habits, first]
              simp

theorem look_listNames (folder : tree.kindAt root = some .folder) :
    look habits tree (listNames root) = .ok (habits.shuffle (tree.childNames root)) := by
  have asks : (FileQuestion.list root).ask.Asks FileQuestion.Reads := asks_question trivial
  have list : look habits tree (FileQuestion.list root).ask =
      .ok (habits.shuffle (tree.childNames root)) := by
    simp only [look, serve_question, answer, folder]
  unfold listNames
  rw [look_bind asks, list]
  rfl

/-- What the search of a folder comes to. -/
theorem look_findResumePointBy_folder (folder : tree.kindAt root = some .folder) :
    look habits tree (findResumePointBy codec fits root) =
      Except.map latestStep (look habits tree (resumeCandidatesBy codec fits root
        (habits.shuffle (tree.childNames root)))) := by
  unfold findResumePointBy readPointer
  rw [look_bind readBeneath_reads, look_bind isDir_reads, look_isDir.mpr folder, if_pos rfl,
    look_andThen listNames_reads, look_listNames folder]
  simp only [look_map]

theorem look_findResumePointBy_outside (outside : tree.kindAt root ≠ some .folder) :
    look habits tree (findResumePointBy codec fits root) = .ok none := by
  unfold findResumePointBy readPointer
  rw [look_bind readBeneath_reads, look_bind isDir_reads]
  split
  · next inside => exact absurd (look_isDir.mp inside) outside
  · rfl

/-- What the search came to, when it came to an end. -/
theorem look_findResumePointBy (searched : look habits tree (findResumePointBy codec fits root) = .ok found) :
    (found = none ∧ tree.kindAt root ≠ some .folder) ∨
    ∃ candidates, found = latestStep candidates ∧ tree.kindAt root = some .folder ∧
      look habits tree (resumeCandidatesBy codec fits root
        (habits.shuffle (tree.childNames root))) = .ok candidates := by
  by_cases folder : tree.kindAt root = some .folder
  · rw [look_findResumePointBy_folder folder] at searched
    cases tried : look habits tree (resumeCandidatesBy codec fits root
        (habits.shuffle (tree.childNames root))) with
    | error error =>
        rw [tried] at searched
        cases searched
    | ok candidates =>
        rw [tried] at searched
        exact Or.inr ⟨candidates, (Except.ok.inj searched).symm, folder, rfl⟩
  · rw [look_findResumePointBy_outside folder] at searched
    exact Or.inl ⟨(Except.ok.inj searched).symm, folder⟩

/-- A checkpoint that is found can be resumed from. -/
theorem found_resumableBy (own : ∀ name manifest, fits name manifest = true → manifest.checkpointId = name)
    (searched : look habits tree (findResumePointBy codec fits root) = .ok (some manifest)) :
    ResumableBy codec tree root fits manifest.checkpointId manifest := by
  rcases look_findResumePointBy searched with ⟨no, _⟩ | ⟨candidates, latest, _, tried⟩
  · cases no
  · obtain ⟨name, _, resumable⟩ := (look_resumeCandidatesBy tried).mp (mem_latestStep latest.symm)
    rw [own name manifest resumable.requested]
    exact resumable

/-- A search that ends finds no checkpoint before one that can be resumed from. -/
theorem resumableBy_found (resumable : ResumableBy codec tree root fits name manifest)
    (folder : tree.kindAt root = some .folder)
    (searched : look habits tree (findResumePointBy codec fits root) = .ok found) :
    ∃ latest, found = some latest ∧ manifest.step ≤ latest.step := by
  rcases look_findResumePointBy searched with ⟨_, outside⟩ | ⟨candidates, latest, _, tried⟩
  · exact absurd folder outside
  · have listed : name ∈ habits.shuffle (tree.childNames root) := by
      refine (habits.shuffle_perm _).mem_iff.mpr (mem_childNames.mpr ?_)
      rw [resumable.folder]
      rfl
    rw [latest]
    exact latestStep_le ((look_resumeCandidatesBy tried).mpr ⟨name, listed, resumable⟩)

theorem fitsRequest_own (name : String) (manifest : CheckpointManifest)
    (requested : fitsRequest jobId attemptId name manifest = true) : manifest.checkpointId = name := by
  simp only [fitsRequest, Bool.and_eq_true, decide_eq_true_eq] at requested
  exact requested.2

theorem found_resumable
    (searched : look habits tree (findResumePointFor codec root jobId attemptId) = .ok (some manifest)) :
    Resumable codec tree root jobId attemptId manifest.checkpointId manifest := by
  rw [findResumePointFor_eq] at searched
  exact resumable_iff.mpr (found_resumableBy fitsRequest_own searched)

theorem resumable_found (resumable : Resumable codec tree root jobId attemptId name manifest)
    (folder : tree.kindAt root = some .folder)
    (searched : look habits tree (findResumePointFor codec root jobId attemptId) = .ok found) :
    ∃ latest, found = some latest ∧ manifest.step ≤ latest.step := by
  rw [findResumePointFor_eq] at searched
  exact resumableBy_found (resumable_iff.mp resumable) folder searched

end Search

section Crash

variable (codec : CheckpointCodec) (habits : Habits) (tree : FileTree) (root : DiskPath)
  (writer : CheckpointWriter) (answers : List FileExchange → (asked : FileQuestion) → asked.Answer)
  (steps : Nat)

/-- What is on the disk after so many steps of a writer, whatever it was answered. -/
def crashed : FileTree :=
  Trace.run effect tree ((Dialogue.run answers [] (writer.program codec root)).1.take steps)

/-- The same, when an agent has started again. -/
def restarted : FileTree :=
  ((crashed codec tree root writer answers steps).serve habits (startupGc codec root)).1

variable {codec} {habits} {tree} {root} {writer} {answers} {steps} {other jobId attemptId : String}
  {manifest : CheckpointManifest} {path : DiskPath}

theorem crashed_keeps (foreign : other ≠ writer.checkpointId)
    (resumable : Resumable codec tree root jobId attemptId other manifest)
    (relied : Relied (root ++ [other]) manifest path) :
    (crashed codec tree root writer answers steps).kindAt path = tree.kindAt path := by
  have confined : ∀ exchange ∈ (Dialogue.run answers [] (writer.program codec root)).1.take steps,
      Confined root writer.checkpointId exchange.1 :=
    fun exchange said => (program_confined writer).said exchange (List.mem_of_mem_take said)
  have below {name : String} {rest : DiskPath} (same : path = root ++ [other] ++ name :: rest) :
      (crashed codec tree root writer answers steps).kindAt path = tree.kindAt path := by
    refine kindAt_run fun exchange said changes => ?_
    rw [same] at changes
    rcases (confined exchange said).1 _ changes with above | own | pointer | temporary
    · have := above.length_le
      simp at this
    · rw [List.append_assoc, List.prefix_append_right_inj] at own
      exact foreign (List.cons_prefix_cons.mp own).1.symm
    · simpa using congrArg List.length pointer
    · simpa using congrArg List.length temporary
  cases relied with
  | folder =>
      rw [resumable.folder]
      exact folder_run (fun exchange said => (confined exchange said).2 _) resumable.folder
  | manifest => exact below rfl
  | marker => exact below rfl
  | file listed opened =>
      obtain ⟨name, rest, names⟩ := List.exists_cons_of_ne_nil (openBeneath_ne_nil opened)
      exact below (congrArg (root ++ [other] ++ ·) names)

theorem restarted_keeps (foreign : other ≠ writer.checkpointId)
    (resumable : Resumable codec tree root jobId attemptId other manifest)
    (relied : Relied (root ++ [other]) manifest path) :
    (restarted codec habits tree root writer answers steps).kindAt path = tree.kindAt path := by
  have kept : ∀ path, Relied (root ++ [other]) manifest path →
      (crashed codec tree root writer answers steps).kindAt path = tree.kindAt path :=
    fun path relied => crashed_keeps foreign resumable relied
  exact (startupGc_keeps (resumable.of_kept kept) relied).trans (kept path relied)

theorem restarted_root (folder : tree.kindAt root = some .folder) :
    (restarted codec habits tree root writer answers steps).kindAt root = some .folder := by
  have confined : ∀ exchange ∈ (Dialogue.run answers [] (writer.program codec root)).1.take steps,
      Confined root writer.checkpointId exchange.1 :=
    fun exchange said => (program_confined writer).said exchange (List.mem_of_mem_take said)
  have before : (crashed codec tree root writer answers steps).kindAt root = some .folder :=
    folder_run (fun exchange said => (confined exchange said).2 _) folder
  refine (kindAt_serve (Asks.mono startupGc_below fun asked below changes => ?_)).trans before
  obtain ⟨name, inside⟩ := below root changes
  have := inside.length_le
  simp at this

/-- Whatever the writer was answered and wherever it stopped. -/
theorem checkpoints_survive_crashes :
    (∀ found, look habits (restarted codec habits tree root writer answers steps)
        (findResumePointFor codec root jobId attemptId) = .ok (some found) →
      ∀ file ∈ found.files, VerifiedFile codec (restarted codec habits tree root writer answers steps)
        (root ++ [found.checkpointId]) file) ∧
    ∀ other manifest, other ≠ writer.checkpointId →
      look habits tree (resumeCandidate codec root jobId attemptId other) = .ok (some manifest) →
      look habits (restarted codec habits tree root writer answers steps)
        (resumeCandidate codec root jobId attemptId other) = .ok (some manifest) ∧
      (∀ path, Relied (root ++ [other]) manifest path →
        (restarted codec habits tree root writer answers steps).kindAt path = tree.kindAt path) ∧
      (tree.kindAt root = some .folder → ∀ found,
        look habits (restarted codec habits tree root writer answers steps)
          (findResumePointFor codec root jobId attemptId) = .ok found →
        ∃ latest, found = some latest ∧ manifest.step ≤ latest.step) := by
  refine ⟨fun found searched => ?_, fun other manifest foreign accepted => ?_⟩
  · obtain ⟨data, there, parsed, verified⟩ := (found_resumable searched).valid
    exact verified
  · have resumable := look_resumeCandidate.mp accepted
    have kept : ∀ path, Relied (root ++ [other]) manifest path →
        (restarted codec habits tree root writer answers steps).kindAt path = tree.kindAt path :=
      fun path relied => restarted_keeps foreign resumable relied
    have still := resumable.of_kept kept
    exact ⟨look_resumeCandidate.mpr still, kept, fun folder found searched =>
      resumable_found still (restarted_root folder) searched⟩

end Crash

section ShortFile

/-- The hash of nothing. -/
def emptyHash : Vector UInt8 32 :=
  #v[0xaf, 0x13, 0x49, 0xb9, 0xf5, 0xf9, 0xa1, 0xa6, 0xa0, 0x40, 0x4d, 0xea, 0x36, 0xdc, 0xc9, 0x49,
    0x9b, 0xcb, 0x25, 0xc9, 0xad, 0xc1, 0x12, 0xb7, 0xcc, 0x9a, 0x93, 0xca, 0xe4, 0x1f, 0x32, 0x62]

def shortManifest : CheckpointManifest :=
  ⟨1, "c1", "j1", "a1", 7, [⟨"weights", toHex emptyHash.toList, 1⟩], "", 1, 0, "n1", 0⟩

def shortJson : List UInt8 := Bytes.utf8 <|
  "\x7b\n  \"schema_version\": 1,\n  \"checkpoint_id\": \"c1\",\n  \"job_id\": \"j1\",\n" ++
  "  \"attempt_id\": \"a1\",\n  \"step\": 7,\n  \"files\": [\n    \x7b\n      \"path\": \"weights\",\n" ++
  "      \"digest\": \"af1349b9f5f9a1a6a0404dea36dcc9499bcb25c9adc112b7cc9a93cae41f3262\",\n" ++
  "      \"size_bytes\": 1\n    \x7d\n  ],\n  \"root_digest\": \"\",\n  \"total_bytes\": 1,\n" ++
  "  \"created_at_unix_ms\": 0,\n  \"producer_node_id\": \"n1\",\n  \"fence_epoch\": 0\n\x7d"

/-- As far as it is needed for one manifest and one empty file. -/
def shortCodec : CheckpointCodec where
  toJson manifest := if manifest = shortManifest then .ok shortJson else .error ""
  fromJson data :=
    if data = shortJson then .ok shortManifest else .error "EOF while parsing a value at line 1 column 0"
  blake3 _ := emptyHash

/-- A checkpoint whose manifest lists one byte of a file that is empty. -/
def shortTree : FileTree :=
  (((∅ : FileTree).insert ["c1"] .folder).insert ["c1", "weights"] (.file [])).insert ["c1", manifestFilename]
    (.file shortJson)

def shortRestart : FileTree :=
  restarted shortCodec .quiet shortTree [] (.staged "c2" [] ⟨"j1", "a1", 8, 0, "n1", 0⟩)
    (fun _ asked => answer .quiet shortTree asked) 0

theorem short_accepted :
    look .quiet shortTree (resumeCandidate shortCodec [] "j1" "a1" "c1") = .ok (some shortManifest) := by
  exact Except.eq_ok_of_toOption (by decide +kernel)

/-- It can still be resumed from when the writer of another checkpoint stopped after twelve steps. -/
theorem short_checkpoint_survives :
    look .quiet (restarted shortCodec .quiet shortTree [] (.staged "c2" [("weights", [1, 2])]
        ⟨"j1", "a1", 8, 0, "n1", 0⟩) (fun _ asked => answer .quiet shortTree asked) 12)
      (resumeCandidate shortCodec [] "j1" "a1" "c1") = .ok (some shortManifest) :=
  (checkpoints_survive_crashes.2 "c1" shortManifest (by decide) short_accepted).1

/-- A file with the hash that is listed may be shorter than listed. -/
theorem short_file_is_found :
    (look .quiet shortRestart (findResumePointFor shortCodec [] "j1" "a1")).toOption =
      some (some shortManifest) ∧
    (∃ file ∈ shortManifest.files, file.path = "weights" ∧ file.sizeBytes = 1) ∧
    shortRestart.kindAt ["c1", "weights"] = some (.file []) := by
  refine ⟨by decide +kernel, by decide +kernel, by decide +kernel⟩

end ShortFile

end Gputeer.Checkpoint
