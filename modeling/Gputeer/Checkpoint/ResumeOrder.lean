import Gputeer.Checkpoint.CrashConsistency

/-! The order in which a disk lists the checkpoints of a root, and the one that is resumed from. -/

namespace Gputeer.Checkpoint

open Dialogue FileTree Text

section Latest

variable {manifest : CheckpointManifest} {rest : List CheckpointManifest}

/-- The sort keeps the order of checkpoints of one step: the first comes out last only if it is ahead of all others. -/
theorem latestStep_cons_lt (apart : manifest ∉ rest) (latest : latestStep (manifest :: rest) = some manifest) :
    ∀ other ∈ rest, other.step < manifest.step := by
  let le (first second : CheckpointManifest) : Bool := first.step ≤ second.step
  have trans : ∀ first second third : CheckpointManifest, le first second → le second third → le first third := by
    intro first second third early late
    simp only [le, decide_eq_true_eq] at early late ⊢
    exact UInt64.le_trans early late
  have total : ∀ first second : CheckpointManifest, le first second || le second first := by
    intro first second
    simpa [le] using UInt64.le_total first.step second.step
  obtain ⟨below, above, whole, others, behind⟩ := List.mergeSort_cons trans total manifest rest
  have latest : (below ++ manifest :: above).getLast? = some manifest := whole ▸ latest
  have none_above : above = [] := by
    rcases List.eq_nil_or_concat above with none_ | ⟨before, last, same⟩
    · exact none_
    · have member : last ∈ rest.mergeSort le := by simp [others, same]
      simp only [same, List.concat_eq_append, ← List.cons_append, ← List.append_assoc, List.getLast?_concat,
        Option.some.injEq] at latest
      exact absurd (latest ▸ List.mem_mergeSort.mp member) apart
  intro other listed
  have member : other ∈ below := by
    have sorted : other ∈ rest.mergeSort le := List.mem_mergeSort.mpr listed
    rwa [others, none_above, List.append_nil] at sorted
  have ahead := behind other member
  simp only [le, Bool.not_eq_true', decide_eq_false_iff_not, UInt64.not_le] at ahead
  exact ahead

/-- Of two checkpoints of one step the later one. -/
theorem latestStep_pair {first second : CheckpointManifest} (same : first.step = second.step) :
    latestStep [first, second] = some second := by
  simp [latestStep, List.mergeSort, List.MergeSort.Internal.splitInTwo, same]

end Latest

section Order

variable {codec : CheckpointCodec} {habits : Habits} {tree : FileTree} {root : DiskPath}
  {fits : String → CheckpointManifest → Bool} {name : String} {manifest : CheckpointManifest}

theorem look_resumeCandidatesBy_error {names : List String} :
    (∃ error, look habits tree (resumeCandidatesBy codec fits root names) = .error error) ↔
      ∃ name ∈ names, Unreadable codec tree root fits name := by
  induction names with
  | nil =>
      unfold resumeCandidatesBy
      simp
  | cons name names ih =>
      unfold resumeCandidatesBy
      rw [look_andThen (resumeCandidateBy_reads fits name)]
      simp only [List.mem_cons, exists_eq_or_imp]
      rw [← ih, ← @look_resumeCandidateBy_error habits]
      cases look habits tree (resumeCandidateBy codec fits root name) with
      | error error => simp
      | ok candidate =>
          simp only [look_map, reduceCtorEq, exists_false, false_or]
          cases look habits tree (resumeCandidatesBy codec fits root names) with
          | error error => simp [Except.map]
          | ok others => simp [Except.map]

theorem Unreadable.listed (unreadable : Unreadable codec tree root fits name) : name ∈ tree.childNames root := by
  rw [mem_childNames, unreadable.1]
  rfl

/-- In whatever order it lists them, the search fails on a checkpoint whose marker cannot be read. -/
theorem look_findResumePointBy_error (folder : tree.kindAt root = some .folder) :
    (∃ error, look habits tree (findResumePointBy codec fits root) = .error error) ↔
      ∃ name, Unreadable codec tree root fits name := by
  have tried : (∃ error, look habits tree (findResumePointBy codec fits root) = .error error) ↔
      ∃ error, look habits tree (resumeCandidatesBy codec fits root
        (habits.shuffle (tree.childNames root))) = .error error := by
    rw [look_findResumePointBy_folder folder]
    cases look habits tree (resumeCandidatesBy codec fits root (habits.shuffle (tree.childNames root))) with
    | error error => simp [Except.map]
    | ok candidates => simp [Except.map]
  rw [tried, look_resumeCandidatesBy_error]
  constructor
  · rintro ⟨name, _, unreadable⟩
    exact ⟨name, unreadable⟩
  · rintro ⟨name, unreadable⟩
    exact ⟨name, (habits.shuffle_perm _).mem_iff.mpr unreadable.listed, unreadable⟩

/-- A search that comes to the same checkpoint, or to none, in every order of the directories. -/
def OrderFree (tree : FileTree) (search : FileDialogue (Checked (Option CheckpointManifest))) : Prop :=
  ∀ first second : Habits, (look first tree search).toOption = (look second tree search).toOption

/-- A checkpoint that can be resumed from, with no other ahead of it. -/
def Foremost (codec : CheckpointCodec) (tree : FileTree) (root : DiskPath)
    (fits : String → CheckpointManifest → Bool) (manifest : CheckpointManifest) : Prop :=
  ResumableBy codec tree root fits manifest.checkpointId manifest ∧
    ∀ name other, ResumableBy codec tree root fits name other → other.step ≤ manifest.step

/-- A search that comes only to foremost checkpoints. -/
def FindsForemost (codec : CheckpointCodec) (tree : FileTree) (root : DiskPath)
    (fits : String → CheckpointManifest → Bool) (search : FileDialogue (Checked (Option CheckpointManifest))) : Prop :=
  ∀ (habits : Habits) (manifest : CheckpointManifest),
    look habits tree search = .ok (some manifest) → Foremost codec tree root fits manifest

/-- There is a single foremost checkpoint, if any, in a folder whose markers can all be read. -/
def Untied (codec : CheckpointCodec) (tree : FileTree) (root : DiskPath)
    (fits : String → CheckpointManifest → Bool) : Prop :=
  tree.kindAt root = some .folder → (∀ name, ¬ Unreadable codec tree root fits name) →
    ∀ first second, Foremost codec tree root fits first → Foremost codec tree root fits second → first = second

variable (own : ∀ name manifest, fits name manifest = true → manifest.checkpointId = name)
include own

theorem found_foremost (searched : look habits tree (findResumePointBy codec fits root) = .ok (some manifest)) :
    Foremost codec tree root fits manifest := by
  refine ⟨found_resumableBy own searched, fun name other resumable => ?_⟩
  have folder : tree.kindAt root = some .folder := by
    by_contra outside
    rw [look_findResumePointBy_outside outside] at searched
    cases searched
  obtain ⟨latest, same, behind⟩ := resumableBy_found resumable folder searched
  rw [Option.some.injEq] at same
  exact same ▸ behind

theorem orderFree_of_untied (untied : Untied codec tree root fits) :
    OrderFree tree (findResumePointBy codec fits root) := by
  intro first second
  by_cases folder : tree.kindAt root = some .folder
  · by_cases unreadable : ∃ name, Unreadable codec tree root fits name
    · obtain ⟨_, failsFirst⟩ := (@look_findResumePointBy_error _ first _ _ _ folder).mpr unreadable
      obtain ⟨_, failsSecond⟩ := (@look_findResumePointBy_error _ second _ _ _ folder).mpr unreadable
      rw [failsFirst, failsSecond]
      rfl
    · have ends (habits : Habits) : ∃ found, look habits tree (findResumePointBy codec fits root) = .ok found := by
        cases searched : look habits tree (findResumePointBy codec fits root) with
        | error error => exact absurd ((look_findResumePointBy_error folder).mp ⟨error, searched⟩) unreadable
        | ok found => exact ⟨found, rfl⟩
      have same {one other : Habits} {manifest : CheckpointManifest} {found : Option CheckpointManifest}
          (here : look one tree (findResumePointBy codec fits root) = .ok (some manifest))
          (there : look other tree (findResumePointBy codec fits root) = .ok found) : found = some manifest := by
        have foremost := found_foremost own here
        obtain ⟨latest, rfl, _⟩ := resumableBy_found foremost.1 folder there
        rw [untied folder (not_exists.mp unreadable) latest manifest (found_foremost own there) foremost]
      obtain ⟨one, here⟩ := ends first
      obtain ⟨other, there⟩ := ends second
      rw [here, there]
      cases one with
      | some manifest => rw [same here there]
      | none =>
          cases other with
          | some manifest => cases same there here
          | none => rfl
  · rw [look_findResumePointBy_outside folder, look_findResumePointBy_outside folder]

omit own

/-- A disk that lists one directory before all others. -/
def listingFirst (name : String) : Habits where
  locked := fun _ => false
  shuffle := fun names => if name ∈ names then name :: names.erase name else names
  shuffle_perm := by
    intro names
    split
    · next listed => exact (List.perm_cons_erase listed).symm
    · exact List.Perm.refl names

/-- One directory has one manifest. -/
theorem ResumableBy.unique {first second : CheckpointManifest} (one : ResumableBy codec tree root fits name first)
    (other : ResumableBy codec tree root fits name second) : first = second := by
  obtain ⟨data, there, parsed, _⟩ := one.valid
  obtain ⟨same, again, parsedAgain, _⟩ := other.valid
  rw [there, Option.some.injEq, DiskEntry.file.injEq] at again
  subst again
  exact Except.ok.inj (parsed.symm.trans parsedAgain)

include own

/-- The checkpoint that is listed first is not found when another is as far. -/
theorem listingFirst_passes_over {other : CheckpointManifest} (foremost : Foremost codec tree root fits manifest)
    (rival : Foremost codec tree root fits other) (apart : other ≠ manifest)
    (folder : tree.kindAt root = some .folder) :
    look (listingFirst manifest.checkpointId) tree (findResumePointBy codec fits root) ≠ .ok (some manifest) := by
  intro searched
  have listed {found : CheckpointManifest} (resumable : ResumableBy codec tree root fits found.checkpointId found) :
      found.checkpointId ∈ tree.childNames root := by
    rw [mem_childNames, resumable.folder]
    rfl
  have shuffled : (listingFirst manifest.checkpointId).shuffle (tree.childNames root) =
      manifest.checkpointId :: (tree.childNames root).erase manifest.checkpointId :=
    if_pos (listed foremost.1)
  rw [look_findResumePointBy_folder folder, shuffled] at searched
  unfold resumeCandidatesBy at searched
  rw [look_andThen (resumeCandidateBy_reads _ _), look_resumeCandidateBy.mpr foremost.1] at searched
  simp only [look_map] at searched
  cases tried : look (listingFirst manifest.checkpointId) tree
      (resumeCandidatesBy codec fits root ((tree.childNames root).erase manifest.checkpointId)) with
  | error error =>
      rw [tried] at searched
      cases searched
  | ok rest =>
      rw [tried] at searched
      have latest : latestStep (manifest :: rest) = some manifest := Except.ok.inj searched
      have alone : manifest ∉ rest := by
        intro again
        obtain ⟨name, left, resumable⟩ := (look_resumeCandidatesBy tried).mp again
        rw [← own name manifest resumable.requested] at left
        exact (nodup_childNames.mem_erase_iff.mp left).1 rfl
      have present : other ∈ rest := by
        refine (look_resumeCandidatesBy tried).mpr ⟨other.checkpointId, ?_, rival.1⟩
        refine nodup_childNames.mem_erase_iff.mpr ⟨fun same => apart ?_, listed rival.1⟩
        exact ResumableBy.unique rival.1 (same ▸ foremost.1)
      have behind := latestStep_cons_lt alone latest other present
      exact absurd (rival.2 _ _ foremost.1) (UInt64.not_le.mpr behind)

theorem untied_of_orderFree (free : OrderFree tree (findResumePointBy codec fits root)) :
    Untied codec tree root fits := by
  intro folder readable first second foremost rival
  by_contra apart
  cases searched : look .quiet tree (findResumePointBy codec fits root) with
  | error error =>
      obtain ⟨name, unreadable⟩ := (look_findResumePointBy_error folder).mp ⟨error, searched⟩
      exact readable name unreadable
  | ok found =>
      obtain ⟨picked, rfl, _⟩ := resumableBy_found foremost.1 folder searched
      have pickedForemost := found_foremost own searched
      have again : look (listingFirst picked.checkpointId) tree (findResumePointBy codec fits root) =
          .ok (some picked) := by
        refine Except.eq_ok_of_toOption ?_
        rw [free (listingFirst picked.checkpointId) .quiet, searched]
        rfl
      by_cases same : first = picked
      · subst same
        exact listingFirst_passes_over own pickedForemost rival (Ne.symm apart) folder again
      · exact listingFirst_passes_over own pickedForemost foremost same folder again

omit own

theorem fitsAny_own (name : String) (manifest : CheckpointManifest) (requested : fitsAny name manifest = true) :
    manifest.checkpointId = name := by
  simp only [fitsAny, Bool.and_eq_true, decide_eq_true_eq] at requested
  exact requested.2

theorem orderFree_iff (own : ∀ name manifest, fits name manifest = true → manifest.checkpointId = name) :
    OrderFree tree (findResumePointBy codec fits root) ∧
        FindsForemost codec tree root fits (findResumePointBy codec fits root) ↔
      Untied codec tree root fits := by
  constructor
  · rintro ⟨free, _⟩
    exact untied_of_orderFree own free
  · intro untied
    exact ⟨orderFree_of_untied own untied, fun _ _ searched => found_foremost own searched⟩

/-- Both searches come to the same foremost checkpoint in every order exactly where no two are foremost. -/
theorem resume_point_orderFree_iff (codec : CheckpointCodec) (tree : FileTree) (root : DiskPath) :
    (∀ jobId attemptId : String,
      OrderFree tree (findResumePointFor codec root jobId attemptId) ∧
          FindsForemost codec tree root (fitsRequest jobId attemptId) (findResumePointFor codec root jobId attemptId) ↔
        Untied codec tree root (fitsRequest jobId attemptId)) ∧
    (OrderFree tree (findResumePoint codec root) ∧
        FindsForemost codec tree root fitsAny (findResumePoint codec root) ↔
      Untied codec tree root fitsAny) := by
  refine ⟨fun jobId attemptId => ?_, orderFree_iff fitsAny_own⟩
  rw [findResumePointFor_eq]
  exact orderFree_iff fitsRequest_own

end Order

section TwoAtOneStep

def tiedManifest (checkpointId : String) : CheckpointManifest :=
  ⟨1, checkpointId, "j1", "a1", 7, [⟨"weights", toHex emptyHash.toList, 0⟩], "", 0, 0, "n1", 0⟩

def tiedJson (checkpointId : String) : List UInt8 := Bytes.utf8 <|
  "\x7b\n  \"schema_version\": 1,\n  \"checkpoint_id\": \"" ++ checkpointId ++
  "\",\n  \"job_id\": \"j1\",\n  \"attempt_id\": \"a1\",\n  \"step\": 7,\n  \"files\": [\n    \x7b\n" ++
  "      \"path\": \"weights\",\n" ++
  "      \"digest\": \"af1349b9f5f9a1a6a0404dea36dcc9499bcb25c9adc112b7cc9a93cae41f3262\",\n" ++
  "      \"size_bytes\": 0\n    \x7d\n  ],\n  \"root_digest\": \"\",\n  \"total_bytes\": 0,\n" ++
  "  \"created_at_unix_ms\": 0,\n  \"producer_node_id\": \"n1\",\n  \"fence_epoch\": 0\n\x7d"

/-- As far as it is needed for the manifests of two checkpoints and one empty file. -/
def tiedCodec : CheckpointCodec where
  toJson manifest :=
    if manifest = tiedManifest manifest.checkpointId then .ok (tiedJson manifest.checkpointId) else .error ""
  fromJson data :=
    if data = tiedJson "c1" then .ok (tiedManifest "c1")
    else if data = tiedJson "c2" then .ok (tiedManifest "c2")
    else .error "EOF while parsing a value at line 1 column 0"
  blake3 _ := emptyHash

/-- An attempt has two checkpoints of step 7. -/
def tiedTree : FileTree :=
  ((((((∅ : FileTree).insert ["c1"] .folder).insert ["c1", "weights"] (.file [])).insert ["c1", manifestFilename]
    (.file (tiedJson "c1"))).insert ["c2"] .folder).insert ["c2", "weights"] (.file [])).insert
      ["c2", manifestFilename] (.file (tiedJson "c2"))

/-- A search of the two finds the one that is listed later. -/
theorem tied_found {habits : Habits} {fits : String → CheckpointManifest → Bool} (first second : String)
    (tried : (look habits tiedTree (resumeCandidatesBy tiedCodec fits []
      (habits.shuffle (tiedTree.childNames [])))).toOption = some [tiedManifest first, tiedManifest second]) :
    look habits tiedTree (findResumePointBy tiedCodec fits []) = .ok (some (tiedManifest second)) := by
  rw [look_findResumePointBy_folder rfl, Except.eq_ok_of_toOption tried, Except.map,
    @latestStep_pair (tiedManifest first) (tiedManifest second) rfl]

/-- The checkpoint listed last is the one that is found. -/
theorem tied_checkpoints_by_order :
    ¬ OrderFree tiedTree (findResumePointFor tiedCodec [] "j1" "a1") ∧
      ¬ OrderFree tiedTree (findResumePoint tiedCodec []) := by
  have apart : some (some (tiedManifest "c2")) ≠ some (some (tiedManifest "c1")) := by
    decide +kernel
  constructor
  · intro free
    have listed := @tied_found .quiet (fitsRequest "j1" "a1") "c1" "c2" (by decide +kernel)
    have turned := @tied_found (listingFirst "c2") (fitsRequest "j1" "a1") "c2" "c1"
      (by decide +kernel)
    have orders := free .quiet (listingFirst "c2")
    rw [findResumePointFor_eq, listed, turned] at orders
    exact apart orders
  · intro free
    have listed := @tied_found .quiet fitsAny "c1" "c2" (by decide +kernel)
    have turned := @tied_found (listingFirst "c2") fitsAny "c2" "c1" (by decide +kernel)
    have orders := free .quiet (listingFirst "c2")
    unfold findResumePoint at orders
    rw [listed, turned] at orders
    exact apart orders

end TwoAtOneStep

end Gputeer.Checkpoint
