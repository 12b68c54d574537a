import Gputeer.Checkpoint.ResumeOrder
import Gputeer.Checkpoint.WriteOnce

/-! When a checkpoint that was confirmed to its writer is found again: what the writer saw, and what the search
looks at later. -/

namespace Gputeer.Checkpoint

open Dialogue Text FileTree

variable {codec : CheckpointCodec} {root dir : DiskPath} {manifest : CheckpointManifest}
  {files : List (String × List UInt8)} {tree later : FileTree}

section Folders

variable {id : String}

/-- The step makes no folder but that of a checkpoint. -/
def MakesCheckpoints (root : DiskPath) (asked : FileQuestion) : Prop :=
  ∀ made, asked = .createFolders made → ∃ id, made = root ++ [id]

theorem Within.makesCheckpoints {asked : FileQuestion} (within : Within (root ++ [id]) asked) :
    MakesCheckpoints root asked := by
  rintro made rfl
  have inside := within.1 [] List.nil_prefix
  simp at inside

theorem makesCheckpoints_of_within {α : Type} {step : FileDialogue α} (asks : step.Asks (Within (root ++ [id]))) :
    step.Asks (MakesCheckpoints root) :=
  Asks.mono asks fun _ within => within.makesCheckpoints

theorem failAfterMaterialization_within (original : CheckpointError) :
    (failAfterMaterialization dir original).Asks (Within dir) := by
  unfold failAfterMaterialization
  refine Asks.bind (Asks.map writeOnce_within) fun recorded => ?_
  cases recorded with
  | ok done => exact asks_pure _
  | error markerError => exact asks_pure _

theorem orFailed_asks {may : FileQuestion → Prop} {step : FileDialogue (Checked Unit)} (asks : step.Asks may)
    (marks : ∀ asked, Within dir asked → may asked) : (orFailed dir step).Asks may := by
  unfold orFailed
  refine Asks.bind asks fun result => ?_
  cases result with
  | ok done => exact asks_pure _
  | error error => exact Asks.map (Asks.mono (failAfterMaterialization_within error) marks)

theorem writeDataFiles_within : (writeDataFiles dir files).Asks (Within dir) := by
  induction files with
  | nil => exact asks_pure _
  | cons file files ih => exact Asks.andThen writeOnce_within fun _ => ih

theorem storeAndVerify_within : (storeAndVerify codec dir manifest files).Asks (Within dir) := by
  refine Asks.andThen recordInitialState_within fun _ => ?_
  refine Asks.andThen writeDataFiles_within fun _ => ?_
  refine Asks.andThen (recordStateTransition_within _ _) fun _ => ?_
  split
  · exact asks_pure _
  · refine Asks.andThen writeOnce_within fun _ => ?_
    exact orFailed_asks (Asks.mono (verifyFiles_reads manifest.files) fun _ => within_reads) fun _ within => within

theorem retryRename_makes (tmpPath finalPath : DiskPath) (attempts left : Nat) (lastWhy : String) :
    (retryRename dir tmpPath finalPath attempts lastWhy left).Asks (MakesCheckpoints root) := by
  induction left generalizing lastWhy with
  | zero =>
      refine Asks.bind (Asks.bind (asks_question ?_) fun _ => asks_pure _) fun _ => asks_pure _
      rintro made ⟨⟩
  | succ left ih =>
      unfold retryRename
      refine Asks.bind (asks_question ?_) fun renamed => ?_
      · rintro made ⟨⟩
      · cases renamed with
        | ok done =>
            refine Asks.map (asks_question ?_)
            rintro made ⟨⟩
        | error failure => exact ih _

theorem replaceWithRetry_makes (name : String) (data : List UInt8) (maxAttempts : Nat) :
    (replaceWithRetry dir name data maxAttempts).Asks (MakesCheckpoints root) := by
  unfold replaceWithRetry
  split
  · exact asks_pure _
  · split
    · exact asks_pure _
    · refine Asks.andThen ?_ fun _ => retryRename_makes _ _ _ _ _
      refine Asks.andThen (Asks.map (asks_question ?_)) fun _ =>
        Asks.andThen (Asks.map (asks_question ?_)) fun _ => Asks.map (asks_question ?_)
      · rintro made ⟨⟩
      · rintro made ⟨⟩
      · rintro made ⟨⟩

theorem writeCheckpoint_makes : (writeCheckpoint codec root manifest files).Asks (MakesCheckpoints root) := by
  have marked (source target : DurabilityState) :
      (orFailed (root ++ [manifest.checkpointId])
        (recordStateTransition (root ++ [manifest.checkpointId]) source target)).Asks (MakesCheckpoints root) :=
    makesCheckpoints_of_within (orFailed_asks (recordStateTransition_within source target) fun _ within => within)
  unfold writeCheckpoint writeCheckpointPhased
  refine Asks.map ?_
  split
  · exact asks_pure _
  · refine Asks.andThen (Asks.map ?_) fun _ => Asks.map (Asks.map ?_)
    · refine Asks.andThen (Asks.map (asks_question ?_)) fun _ => makesCheckpoints_of_within storeAndVerify_within
      rintro made ⟨⟩
      exact ⟨_, rfl⟩
    · refine Asks.andThen (marked _ _) fun _ => ?_
      refine Asks.andThen (orFailed_asks (replaceWithRetry_makes _ _ _) fun _ within =>
        within.makesCheckpoints) fun _ => marked _ _

theorem startupGc_makes : (startupGc codec root).Asks (MakesCheckpoints root) := by
  refine Asks.mono startupGc_below fun asked below => ?_
  rintro made rfl
  obtain ⟨name, inside⟩ := below [] List.nil_prefix
  simp at inside

/-- The checkpoints hold no folders. -/
def Flat (root : DiskPath) (tree : FileTree) : Prop :=
  ∀ id name rest, tree.kindAt (root ++ id :: name :: rest) ≠ some .folder

theorem not_below_made {made : DiskPath} {name : String} {rest : DiskPath} (makes : ∃ id, made = root ++ [id]) :
    ¬ root ++ id :: name :: rest <+: made := by
  obtain ⟨other, rfl⟩ := makes
  intro inside
  have := inside.length_le
  simp at this

theorem Flat.reached {α : Type} {dialogue : FileDialogue α} {later : FileTree} (flat : Flat root tree)
    (asks : dialogue.Asks (MakesCheckpoints root)) (reached : tree.Reaches dialogue later) : Flat root later := by
  intro id name rest there
  rcases folder_of_reaches asks reached there with before | ⟨made, makes, inside⟩
  · exact flat id name rest before
  · exact not_below_made makes inside

theorem Flat.ran {said : List FileExchange} (flat : Flat root tree)
    (asked : ∀ exchange ∈ said, MakesCheckpoints root exchange.1) : Flat root (Trace.run effect tree said) := by
  intro id name rest there
  rcases folder_of_run asked there with before | ⟨made, makes, inside⟩
  · exact flat id name rest before
  · exact not_below_made makes inside

end Folders

section History

/-- What happened on a root before: an attempt to write a checkpoint or a collection, answered in any way and
stopped after so many steps. -/
inductive RootEvent where
  | write (manifest : CheckpointManifest) (files : List (String × List UInt8))
  | collect

def RootEvent.program (codec : CheckpointCodec) (root : DiskPath) : RootEvent → FileDialogue Unit
  | write manifest files => (fun _ => ()) <$> writeCheckpoint codec root manifest files
  | collect => (fun _ => ()) <$> startupGc codec root

structure RootStep where
  event : RootEvent
  answers : List FileExchange → (asked : FileQuestion) → asked.Answer
  steps : Nat

def RootStep.after (codec : CheckpointCodec) (root : DiskPath) (tree : FileTree) (step : RootStep) : FileTree :=
  Trace.run effect tree ((Dialogue.run step.answers [] (step.event.program codec root)).1.take step.steps)

def afterHistory (codec : CheckpointCodec) (root : DiskPath) (start : FileTree) (history : List RootStep) : FileTree :=
  Trace.run (RootStep.after codec root) start history

theorem program_makes (codec : CheckpointCodec) (root : DiskPath) (event : RootEvent) :
    (event.program codec root).Asks (MakesCheckpoints root) := by
  cases event with
  | write manifest files => exact Asks.map writeCheckpoint_makes
  | collect => exact Asks.map startupGc_makes

theorem flat_afterHistory (codec : CheckpointCodec) {root : DiskPath} {start : FileTree} (flat : Flat root start)
    (history : List RootStep) : Flat root (afterHistory codec root start history) :=
  Trace.invariant (Flat root) flat (fun _ step flat => flat.ran fun exchange said =>
    (program_makes codec root step.event).said exchange (List.mem_of_mem_take said)) history

end History

section Steps

variable {name : String} {data : List UInt8} {state : DurabilityState}

theorem finishes_orFailed {step : FileDialogue (Checked Unit)}
    (ended : tree.Finishes (orFailed dir step) later (.ok ())) : tree.Finishes step later (.ok ()) := by
  obtain ⟨between, outcome, first, rest⟩ := Finishes.of_bind ended
  cases outcome with
  | ok done =>
      obtain ⟨rfl, _⟩ := Finishes.of_pure rest
      exact first
  | error error =>
      obtain ⟨_, _, no⟩ := Finishes.of_map rest
      cases no

theorem finishes_recordStateTransition {source target : DurabilityState}
    (allowed : source.transition target = .ok target)
    (ended : tree.Finishes (recordStateTransition dir source target) later (.ok ())) :
    ∃ wrote, tree.Finishes (writeOnce dir target.markerName (Bytes.utf8 (target.debugName ++ "\n"))) later
      (.ok wrote) := by
  unfold recordStateTransition at ended
  rw [allowed] at ended
  obtain ⟨wrote, ran, _⟩ := Finishes.of_mapOk ended
  exact ⟨wrote, ran⟩

/-- The paths of temporary files and of locks have names of their own. -/
theorem plain_apart {part : String} (noTmp : ¬ ".tmp".toList <:+ part.toList)
    (noLock : ¬ ".write_once.lock".toList <:+ part.toList) :
    dir ++ [part] ≠ joinName dir (name ++ ".tmp") ∧ dir ++ [part] ≠ joinName dir (name ++ ".write_once.lock") := by
  obtain ⟨folder, last, _, _, tmp, lock⟩ := exists_onceFolder dir name
  have longer {suffix : List Char} (plain : ¬ suffix <:+ part.toList) :
      dir ++ [part] ≠ folder ++ [String.ofList (last ++ suffix)] := by
    intro same
    have parts := (List.append_inj' same rfl).2
    rw [List.cons.injEq] at parts
    refine plain ?_
    rw [parts.1, String.toList_ofList]
    exact List.suffix_append _ _
  rw [tmp, lock]
  exact ⟨longer noTmp, longer noLock⟩

theorem markerName_plain :
    ¬ ".tmp".toList <:+ state.markerName.toList ∧ ¬ ".write_once.lock".toList <:+ state.markerName.toList := by
  cases state <;> decide +kernel

theorem joinName_marker : joinName dir state.markerName = dir ++ [state.markerName] ∧
    joinName dir (state.markerName ++ ".tmp") = dir ++ [state.markerName ++ ".tmp"] := by
  have names : normalNames (pathComponents state.markerName) = [state.markerName] ∧
      normalNames (pathComponents (state.markerName ++ ".tmp")) = [state.markerName ++ ".tmp"] := by
    cases state <;> decide +kernel
  exact ⟨congrArg (dir ++ ·) names.1, congrArg (dir ++ ·) names.2⟩

theorem joinName_manifest : joinName dir manifestFilename = dir ++ [manifestFilename] :=
  congrArg (dir ++ ·) (by decide +kernel)

/-- The file of this state. -/
def stateMarkerPath (dir : DiskPath) (state : DurabilityState) : DiskPath := dir ++ [state.markerName]

theorem NotFailed.wrote (notFailed : NotFailed tree dir) (wrote : WroteOnce tree dir name data later)
    (other : joinName dir name = dir ++ [publicationFailedMarker] → data ≠ publicationFailedText) :
    NotFailed later dir := by
  obtain ⟨notTmp, notLock⟩ := @plain_apart dir name publicationFailedMarker (by decide +kernel) (by decide +kernel)
  intro entry there
  by_cases own : joinName dir name = dir ++ [publicationFailedMarker]
  · rw [← own, wrote.file] at there
    cases there
    exact ⟨data, rfl, other own⟩
  · rw [wrote.elsewhere _ notLock (fun same => absurd same notTmp) (Ne.symm own)] at there
    exact notFailed entry there

/-- What is there with a plain name stays there. -/
theorem isSome_wrote {part : String} (plain : ¬ ".tmp".toList <:+ part.toList ∧
      ¬ ".write_once.lock".toList <:+ part.toList) (there : (tree.kindAt (dir ++ [part])).isSome)
    (wrote : WroteOnce tree dir name data later) : (later.kindAt (dir ++ [part])).isSome := by
  obtain ⟨notTmp, notLock⟩ := @plain_apart dir name part plain.1 plain.2
  by_cases own : dir ++ [part] = joinName dir name
  · rw [own, wrote.file]
    rfl
  · rw [wrote.elsewhere _ notLock (fun same => absurd same notTmp) own]
    exact there

/-- No listed file is in the place of a temporary file that is still to be written. -/
def MarkerClear (tree : FileTree) (dir : DiskPath) (manifest : CheckpointManifest) (state : DurabilityState) : Prop :=
  ∀ listed ∈ manifest.files, joinName dir listed.path = joinName dir (state.markerName ++ ".tmp") →
    (tree.kindAt (stateMarkerPath dir state)).isSome

theorem MarkerClear.wrote (clear : MarkerClear tree dir manifest state) (wrote : WroteOnce tree dir name data later) :
    MarkerClear later dir manifest state :=
  fun listed inside same => isSome_wrote markerName_plain (clear listed inside same) wrote

theorem joinName_of_openBeneath {relative : String} {names : DiskPath} (opened : openBeneath relative = .ok names) :
    dir ++ names = joinName dir relative := by
  unfold openBeneath at opened
  split at opened
  · cases opened
  · split at opened
    · cases opened
    · split at opened
      · cases opened
      · cases opened
        rfl

/-- A manifest stays valid while its file and those that it lists stay. -/
theorem ValidManifest.kept (valid : ValidManifest codec tree dir manifest)
    (whole : ∀ content, tree.kindAt (dir ++ [manifestFilename]) = some (.file content) →
      later.kindAt (dir ++ [manifestFilename]) = some (.file content))
    (kept : ∀ listed ∈ manifest.files, joinName dir listed.path ≠ dir → ∀ content,
      tree.kindAt (joinName dir listed.path) = some (.file content) →
        later.kindAt (joinName dir listed.path) = some (.file content)) : ValidManifest codec later dir manifest := by
  obtain ⟨json, there, parsed, verified⟩ := valid
  refine ⟨json, whole json there, parsed, fun listed inside => ?_⟩
  obtain ⟨names, content, opened, file, small, same⟩ := verified listed inside
  have filled : names ≠ [] := openBeneath_ne_nil opened
  have below : joinName dir listed.path ≠ dir := by
    rw [← joinName_of_openBeneath opened]
    simpa using filled
  refine ⟨names, content, opened, ?_, small, same⟩
  rw [joinName_of_openBeneath opened] at file ⊢
  exact kept listed inside below content file

/-- The marker of a state is written beside a checkpoint that is complete. -/
theorem ValidManifest.marked (valid : ValidManifest codec tree dir manifest)
    (wrote : WroteOnce tree dir state.markerName data later) (clear : MarkerClear tree dir manifest state)
    (notLock : ∀ listed ∈ manifest.files,
      joinName dir listed.path ≠ joinName dir (state.markerName ++ ".write_once.lock")) :
    ValidManifest codec later dir manifest := by
  obtain ⟨notTmp, apartLock⟩ := @plain_apart dir state.markerName manifestFilename (by decide +kernel)
    (by decide +kernel)
  refine valid.kept (fun content there => ?_) fun listed inside _ content there => ?_
  · exact wrote.keeps there apartLock fun same => absurd same notTmp
  · refine wrote.keeps there (notLock listed inside) fun same => ?_
    rw [joinName_marker.1]
    exact clear listed inside same

end Steps

section Chain

/-- Calls for several files, one after the other, that all ended well. -/
inductive WroteAll (dir : DiskPath) : FileTree → List (String × List UInt8) → FileTree → Prop
  | nil {tree : FileTree} : WroteAll dir tree [] tree
  | cons {tree between later : FileTree} {given : String × List UInt8} {files : List (String × List UInt8)}
      (accepted : validateRelativeName given.1 = .ok ()) (first : WroteOnce tree dir given.1 given.2 between)
      (rest : WroteAll dir between files later) : WroteAll dir tree (given :: files) later

namespace WroteAll

theorem append {between : FileTree} {others : List (String × List UInt8)} (first : WroteAll dir tree files between)
    (rest : WroteAll dir between others later) : WroteAll dir tree (files ++ others) later := by
  induction first with
  | nil => exact rest
  | cons accepted wrote _ ih => exact .cons accepted wrote (ih rest)

theorem of_writeOnce {name : String} {data : List UInt8} {wrote : Bool}
    (ended : tree.Finishes (writeOnce dir name data) later (.ok wrote)) : WroteAll dir tree [(name, data)] later := by
  obtain ⟨accepted, wrote⟩ := finishes_writeOnce ended
  exact .cons accepted wrote .nil

theorem of_writeDataFiles (ended : tree.Finishes (writeDataFiles dir files) later (.ok ())) :
    WroteAll dir tree files later := by
  induction files generalizing tree with
  | nil =>
      obtain ⟨rfl, _⟩ := Finishes.of_pure ended
      exact .nil
  | cons given files ih =>
      obtain ⟨between, wrote, ran, rest⟩ := Finishes.of_andThen ended
      obtain ⟨accepted, wrote⟩ := finishes_writeOnce ran
      exact .cons accepted wrote (ih rest)

theorem notFailed (wrote : WroteAll dir tree files later) (before : NotFailed tree dir)
    (other : ∀ given ∈ files, joinName dir given.1 = dir ++ [publicationFailedMarker] →
      given.2 ≠ publicationFailedText) : NotFailed later dir := by
  induction wrote with
  | nil => exact before
  | cons accepted first rest ih =>
      rw [List.forall_mem_cons] at other
      exact ih (before.wrote first other.1) other.2

theorem ne_lockPath (wrote : WroteAll dir tree files later) (given : String × List UInt8) (listed : given ∈ files)
    (other : String) : joinName dir given.1 ≠ joinName dir (other ++ ".write_once.lock") := by
  induction wrote with
  | nil => cases listed
  | cons accepted first rest ih =>
      rcases List.mem_cons.mp listed with rfl | later
      · exact first.ne_lockPath accepted other
      · exact ih later

/-- A plain name is there after the calls when it was there before, or was given. -/
theorem isSome {part : String} (wrote : WroteAll dir tree files later)
    (plain : ¬ ".tmp".toList <:+ part.toList ∧ ¬ ".write_once.lock".toList <:+ part.toList)
    (there : (tree.kindAt (dir ++ [part])).isSome ∨ ∃ given ∈ files, joinName dir given.1 = dir ++ [part]) :
    (later.kindAt (dir ++ [part])).isSome := by
  induction wrote with
  | nil =>
      rcases there with there | ⟨_, no, _⟩
      · exact there
      · cases no
  | cons accepted first rest ih =>
      refine ih ?_
      rcases there with there | ⟨given, listed, same⟩
      · exact Or.inl (isSome_wrote plain there first)
      · rcases List.mem_cons.mp listed with rfl | listed
        · refine Or.inl ?_
          rw [← same, first.file]
          rfl
        · exact Or.inr ⟨given, listed, same⟩

end WroteAll

/-- What is written before a checkpoint is verified. -/
def storedFiles (files : List (String × List UInt8)) (json : List UInt8) : List (String × List UInt8) :=
  [(DurabilityState.writing.markerName, Bytes.utf8 "Writing\n")] ++ files ++
    [(DurabilityState.localWritten.markerName, Bytes.utf8 (DurabilityState.localWritten.debugName ++ "\n"))] ++
    [(manifestFilename, json)]

theorem storeAndVerify_stored (ended : tree.Finishes (storeAndVerify codec dir manifest files) later (.ok ())) :
    ∃ json, codec.toJson manifest = .ok json ∧ WroteAll dir tree (storedFiles files json) later ∧
      later.kindAt (dir ++ [manifestFilename]) = some (.file json) ∧
      ∀ listed ∈ manifest.files, VerifiedFile codec later dir listed := by
  unfold storeAndVerify recordInitialState at ended
  obtain ⟨begun, _, initial, filling⟩ := Finishes.of_andThen ended
  obtain ⟨_, initial, _⟩ := Finishes.of_mapOk initial
  obtain ⟨filled, _, data, marking⟩ := Finishes.of_andThen filling
  obtain ⟨written, _, marked, encoding⟩ := Finishes.of_andThen marking
  obtain ⟨_, marked⟩ := finishes_recordStateTransition (by rfl) marked
  cases encoded : codec.toJson manifest with
  | error why =>
      rw [encoded] at encoding
      cases (Finishes.of_pure encoding).2
  | ok json =>
      rw [encoded] at encoding
      obtain ⟨complete, _, whole, verifying⟩ := Finishes.of_andThen encoding
      obtain ⟨rfl, verified⟩ := finishes_verifyFiles (finishes_orFailed verifying)
      refine ⟨json, rfl, ?_, ?_, verified⟩
      · exact (((WroteAll.of_writeOnce initial).append (.of_writeDataFiles data)).append
          (.of_writeOnce marked)).append (.of_writeOnce whole)
      · rw [← joinName_manifest]
        exact (finishes_writeOnce whole).2.file

theorem publish_wrote (ended : tree.Finishes (publish root dir manifest) later (.ok ())) :
    ∃ verified pointed, WroteOnce tree dir DurabilityState.hashVerified.markerName
        (Bytes.utf8 (DurabilityState.hashVerified.debugName ++ "\n")) verified ∧
      verified.Finishes (replaceWithRetry root pointerFilename (Bytes.utf8 manifest.checkpointId) retryAttempts) pointed
        (.ok ()) ∧
      WroteOnce pointed dir DurabilityState.committed.markerName
        (Bytes.utf8 (DurabilityState.committed.debugName ++ "\n")) later := by
  unfold publish at ended
  obtain ⟨verified, _, marked, rest⟩ := Finishes.of_andThen ended
  obtain ⟨_, marked⟩ := finishes_recordStateTransition (by rfl) (finishes_orFailed marked)
  obtain ⟨pointed, _, replaced, last⟩ := Finishes.of_andThen rest
  obtain ⟨_, last⟩ := finishes_recordStateTransition (by rfl) (finishes_orFailed last)
  exact ⟨verified, pointed, (finishes_writeOnce marked).2, finishes_orFailed replaced, (finishes_writeOnce last).2⟩

/-- The pointer is no file of a checkpoint. -/
theorem replaceWithRetry_apart {id name : String} {rest : DiskPath} {attempts : Nat} {data : List UInt8}
    (ended : tree.Finishes (replaceWithRetry root pointerFilename data attempts) later (.ok ())) :
    later.kindAt (root ++ id :: name :: rest) = tree.kindAt (root ++ id :: name :: rest) := by
  have away : (replaceWithRetry root pointerFilename data attempts).Asks fun asked =>
      ¬ asked.Changes (root ++ id :: name :: rest) := by
    -- the steps are those of a writer of any checkpoint, so of one with another name
    refine Asks.mono (@replaceWithRetry_confined root (id ++ "'") data attempts) fun asked confined changes => ?_
    rcases confined.1 _ changes with above | own | pointer | temporary
    · have := above.length_le
      simp at this
    · rw [List.prefix_append_right_inj] at own
      have same := (List.cons_prefix_cons.mp own).1
      simp at same
    · simpa using congrArg List.length pointer
    · simpa using congrArg List.length temporary
  exact kindAt_reaches away ended.reaches

/-- Nothing is in the way of the checkpoint in this folder: it is not marked as failed, by an earlier attempt or by
a file that is given, and no listed file is in the place of a temporary file of a marker that is still to be
written. -/
structure Unspoiled (tree : FileTree) (dir : DiskPath) (manifest : CheckpointManifest)
    (files : List (String × List UInt8)) : Prop where
  notFailed : NotFailed tree dir
  unmarked : ∀ given ∈ files, joinName dir given.1 = dir ++ [publicationFailedMarker] →
    given.2 ≠ publicationFailedText
  clear : ∀ state, state = .hashVerified ∨ state = .committed → ∀ listed ∈ manifest.files,
    joinName dir listed.path = joinName dir (state.markerName ++ ".tmp") →
      (tree.kindAt (stateMarkerPath dir state)).isSome ∨
        ∃ given ∈ files, joinName dir given.1 = stateMarkerPath dir state

/-- The manifest is about the files that are given. -/
def Describes (codec : CheckpointCodec) (manifest : CheckpointManifest) (files : List (String × List UInt8)) : Prop :=
  ∀ listed ∈ manifest.files, ∃ given ∈ files, listed.path = given.1 ∧ listed.digest = codec.hash given.2 ∧
    listed.sizeBytes.toNat = given.2.length

theorem marker_apart (state : DurabilityState) :
    joinName dir state.markerName ≠ dir ++ [publicationFailedMarker] := by
  intro same
  rw [joinName_marker.1, List.append_cancel_left_eq, List.cons.injEq] at same
  revert same
  cases state <;> decide +kernel

theorem stored_unmarked {json : List UInt8} (unspoiled : Unspoiled tree dir manifest files) :
    ∀ given ∈ storedFiles files json, joinName dir given.1 = dir ++ [publicationFailedMarker] →
      given.2 ≠ publicationFailedText := by
  have whole : joinName dir manifestFilename ≠ dir ++ [publicationFailedMarker] := by
    intro same
    rw [joinName_manifest, List.append_cancel_left_eq, List.cons.injEq] at same
    exact absurd same.1 (by decide +kernel)
  intro given listed same
  simp only [storedFiles, List.mem_append, List.mem_singleton] at listed
  rcases listed with ((rfl | listed) | rfl) | rfl
  · exact absurd same (marker_apart .writing)
  · exact unspoiled.unmarked given listed same
  · exact absurd same (marker_apart .localWritten)
  · exact absurd same whole

/-- The pointer and the last two markers leave a complete checkpoint as it is. -/
theorem published_keeps (valid : ValidManifest codec tree (root ++ [manifest.checkpointId]) manifest)
    (notFailed : NotFailed tree (root ++ [manifest.checkpointId]))
    (clear : ∀ state, state = .hashVerified ∨ state = .committed →
      MarkerClear tree (root ++ [manifest.checkpointId]) manifest state)
    (notLock : ∀ other, ∀ listed ∈ manifest.files, joinName (root ++ [manifest.checkpointId]) listed.path ≠
      joinName (root ++ [manifest.checkpointId]) (other ++ ".write_once.lock"))
    (published : tree.Finishes (publish root (root ++ [manifest.checkpointId]) manifest) later (.ok ())) :
    ValidManifest codec later (root ++ [manifest.checkpointId]) manifest ∧
      NotFailed later (root ++ [manifest.checkpointId]) := by
  obtain ⟨verified, pointed, first, replaced, last⟩ := publish_wrote published
  have below (name : String) (rest : DiskPath) : pointed.kindAt (root ++ [manifest.checkpointId] ++ name :: rest) =
      verified.kindAt (root ++ [manifest.checkpointId] ++ name :: rest) := by
    rw [List.append_assoc]
    exact replaceWithRetry_apart replaced
  have validFirst := valid.marked first (clear _ (Or.inl rfl)) (notLock _)
  have validPointed : ValidManifest codec pointed (root ++ [manifest.checkpointId]) manifest := by
    refine validFirst.kept (fun content there => (below _ []).trans there) fun listed inside apart content there => ?_
    obtain ⟨name, rest, names⟩ : ∃ name rest, normalNames (pathComponents listed.path) = name :: rest := by
      refine List.exists_cons_of_ne_nil fun none_ => apart ?_
      unfold joinName
      rw [none_, List.append_nil]
    unfold joinName at there ⊢
    rw [names] at there ⊢
    rw [below, there]
  have clearPointed : MarkerClear pointed (root ++ [manifest.checkpointId]) manifest .committed := by
    intro listed inside same
    have there := (clear .committed (Or.inr rfl)).wrote first listed inside same
    unfold stateMarkerPath at there ⊢
    rwa [below]
  have notFailedPointed : NotFailed pointed (root ++ [manifest.checkpointId]) := by
    intro entry there
    rw [below] at there
    exact notFailed.wrote first (fun same => absurd same (marker_apart _)) entry there
  exact ⟨validPointed.marked last clearPointed (notLock _),
    notFailedPointed.wrote last fun same => absurd same (marker_apart _)⟩

/-- A checkpoint that was stored and published, with nothing in its way. -/
theorem published_resumable {between : FileTree}
    (unspoiled : Unspoiled tree (root ++ [manifest.checkpointId]) manifest files)
    (readable : ∀ json, codec.toJson manifest = .ok json → codec.fromJson json = .ok manifest)
    (describes : Describes codec manifest files)
    (stored : tree.Finishes (storeAndVerify codec (root ++ [manifest.checkpointId]) manifest files) between (.ok ()))
    (published : between.Finishes (publish root (root ++ [manifest.checkpointId]) manifest) later (.ok ())) :
    ValidManifest codec later (root ++ [manifest.checkpointId]) manifest ∧
      NotFailed later (root ++ [manifest.checkpointId]) := by
  obtain ⟨json, encoded, wroteAll, whole, verified⟩ := storeAndVerify_stored stored
  have own {given : String × List UInt8} (inside : given ∈ files) : given ∈ storedFiles files json := by
    simp [storedFiles, inside]
  refine published_keeps ⟨json, whole, readable json encoded, verified⟩
    (wroteAll.notFailed unspoiled.notFailed (stored_unmarked unspoiled)) (fun state last listed inside same => ?_)
    (fun other listed inside => ?_) published
  · refine wroteAll.isSome markerName_plain ?_
    rcases unspoiled.clear state last listed inside same with there | ⟨given, inFiles, same⟩
    · exact Or.inl there
    · exact Or.inr ⟨given, own inFiles, same⟩
  · obtain ⟨given, inFiles, same, _⟩ := describes listed inside
    rw [same]
    exact wroteAll.ne_lockPath given (own inFiles) other

/-- The folders are there when they were made, and nothing else is. -/
theorem Unspoiled.made (unspoiled : Unspoiled tree dir manifest files)
    (made : ∀ path, later.kindAt path = if path <+: dir then some .folder else tree.kindAt path) :
    Unspoiled later dir manifest files := by
  have below (name : String) : later.kindAt (dir ++ [name]) = tree.kindAt (dir ++ [name]) := by
    rw [made, if_neg]
    intro inside
    have := inside.length_le
    simp at this
  refine ⟨fun entry there => ?_, unspoiled.unmarked, fun state last listed inside same => ?_⟩
  · rw [below] at there
    exact unspoiled.notFailed entry there
  · unfold stateMarkerPath
    rw [below]
    exact unspoiled.clear state last listed inside same

theorem writeCheckpoint_resumable {where_ : DiskPath} {jobId attemptId : String}
    (unspoiled : Unspoiled tree (root ++ [manifest.checkpointId]) manifest files)
    (readable : ∀ json, codec.toJson manifest = .ok json → codec.fromJson json = .ok manifest)
    (describes : Describes codec manifest files) (filled : manifest.files ≠ [])
    (requested : manifest.jobId = jobId ∧ manifest.attemptId = attemptId)
    (ended : tree.Finishes (writeCheckpoint codec root manifest files) later (.ok where_)) :
    Resumable codec later root jobId attemptId manifest.checkpointId manifest ∧ later.kindAt root = some .folder := by
  unfold writeCheckpoint writeCheckpointPhased at ended
  have phased := Finishes.of_mapError ended
  split at phased
  · cases (Finishes.of_pure phased).2
  · obtain ⟨between, _, storing, publishing⟩ := Finishes.of_andThen phased
    obtain ⟨_, publishing, _⟩ := Finishes.of_mapOk publishing
    have published := Finishes.of_mapError publishing
    obtain ⟨begun, _, creating, stored⟩ := Finishes.of_andThen (Finishes.of_mapError storing)
    obtain ⟨said, rfl⟩ := Finishes.of_question (Finishes.of_mapError creating)
    have made (path : DiskPath) := @Honest.createFolders _ _ path said
    have folders (path : DiskPath) (inside : path <+: root ++ [manifest.checkpointId]) :
        later.kindAt path = some .folder := by
      have first := made path
      rw [if_pos inside] at first
      have second := folder_reaches (Asks.mono storeAndVerify_within fun _ within => within.2 path) stored.reaches first
      exact folder_reaches (Asks.mono publish_confined fun _ confined => confined.2 path) published.reaches second
    obtain ⟨valid, notFailed⟩ := published_resumable (unspoiled.made made) readable describes stored published
    refine ⟨⟨folders _ (List.prefix_refl _), valid, ?_, notFailed⟩, folders root (List.prefix_append _ _)⟩
    simp [fitsRequest, requested, filled]

end Chain

section Confirmed

variable {habits : Habits} {where_ : DiskPath} {start : FileTree} {history : List RootStep}

/-- A search finds a checkpoint of the job and the attempt that is as far as this one. -/
def Resumes (codec : CheckpointCodec) (habits : Habits) (tree : FileTree) (root : DiskPath)
    (manifest : CheckpointManifest) : Prop :=
  ∃ found, look habits tree (findResumePointFor codec root manifest.jobId manifest.attemptId) = .ok (some found) ∧
    manifest.step ≤ found.step

/-- Whatever happened on the root before, a checkpoint that is confirmed with nothing in its way is found again. -/
theorem confirmed_checkpoint_resumes (flat : Flat root start)
    (readable : ∀ json, codec.toJson manifest = .ok json → codec.fromJson json = .ok manifest)
    (filled : manifest.files ≠ []) (describes : Describes codec manifest files)
    (unspoiled : Unspoiled (afterHistory codec root start history) (root ++ [manifest.checkpointId]) manifest files)
    (confirmed : (afterHistory codec root start history).Finishes (writeCheckpoint codec root manifest files) later
      (.ok where_)) : Resumes codec habits later root manifest := by
  obtain ⟨resumable, folder⟩ := writeCheckpoint_resumable unspoiled readable describes filled ⟨rfl, rfl⟩ confirmed
  have flatLater : Flat root later :=
    (flat_afterHistory codec flat history).reached writeCheckpoint_makes confirmed.reaches
  cases searched : look habits later (findResumePointFor codec root manifest.jobId manifest.attemptId) with
  | error error =>
      rw [findResumePointFor_eq] at searched
      obtain ⟨name, _, _, marker⟩ := (look_findResumePointBy_error folder).mp ⟨error, searched⟩
      rw [List.append_assoc] at marker
      exact absurd marker (flatLater _ _ _)
  | ok found =>
      obtain ⟨latest, rfl, further⟩ := resumable_found resumable folder searched
      exact ⟨latest, searched, further⟩

section PointerFailed

/-- A disk that is asked about a root that was empty, and cannot rename onto the pointer. -/
def pointerBlocked (said : List FileExchange) (asked : FileQuestion) : asked.Answer :=
  match asked with
  | .rename source target =>
      if target = [pointerFilename] then .error (.other "Permission denied (os error 13)")
      else answer .quiet (Trace.run effect ∅ said) (.rename source target)
  | other => answer .quiet (Trace.run effect ∅ said) other

def emptyWeights : List (String × List UInt8) := [("weights", [])]

/-- An attempt whose checkpoint is complete, and that could not replace the pointer. -/
def failedPublication (checkpointId : String) : RootStep :=
  ⟨.write (tiedManifest checkpointId) emptyWeights, pointerBlocked, 100⟩

/-- A checkpoint that is written after a failed attempt at this one. -/
def writtenAfter (failed : String) : FileTree × Checked DiskPath :=
  (afterHistory tiedCodec [] ∅ [failedPublication failed]).serve .quiet
    (writeCheckpoint tiedCodec [] (tiedManifest "c1") emptyWeights)

theorem kindAt_empty {name : String} {rest : DiskPath} : kindAt ∅ (root ++ name :: rest) = none := by
  rw [kindAt_of_ne (by simp)]
  rfl

theorem empty_flat : Flat root ∅ := by
  intro id name rest there
  rw [kindAt_empty] at there
  cases there

theorem tied_readable (json : List UInt8) (encoded : tiedCodec.toJson (tiedManifest "c1") = .ok json) :
    tiedCodec.fromJson json = .ok (tiedManifest "c1") := by
  have whole : tiedCodec.toJson (tiedManifest "c1") = .ok (tiedJson "c1") := by
    simp only [tiedCodec]
    exact if_pos rfl
  rw [whole, Except.ok.injEq] at encoded
  exact if_pos encoded.symm

theorem tied_describes : Describes tiedCodec (tiedManifest "c1") emptyWeights := by
  intro listed inside
  rw [List.mem_singleton.mp inside]
  have size : (0 : UInt64).toNat = ([] : List UInt8).length := by decide
  exact ⟨("weights", []), List.mem_singleton.mpr rfl, by rfl, by unfold CheckpointCodec.hash tiedCodec; rfl, size⟩

theorem writtenAfter_finishes {failed : String} (confirmed : (writtenAfter failed).2 = .ok ["c1"]) :
    (afterHistory tiedCodec [] ∅ [failedPublication failed]).Finishes
      (writeCheckpoint tiedCodec [] (tiedManifest "c1") emptyWeights) (writtenAfter failed).1 (.ok ["c1"]) :=
  finishes_served (Prod.ext rfl confirmed)

/-- A failed attempt at another checkpoint is not in the way. -/
theorem confirmed_after_another : Resumes tiedCodec .quiet (writtenAfter "c2").1 [] (tiedManifest "c1") := by
  have ran : (afterHistory tiedCodec [] ∅ [failedPublication "c2"]).kindAt ["c1", publicationFailedMarker] = none ∧
      (writtenAfter "c2").2.toOption = some ["c1"] := by
    decide +kernel
  have unspoiled : Unspoiled (afterHistory tiedCodec [] ∅ [failedPublication "c2"]) ["c1"] (tiedManifest "c1")
      emptyWeights := by
    refine ⟨fun entry there => ?_, fun given inside same => ?_, fun state last listed inside same => ?_⟩
    · exact absurd (ran.1.symm.trans there) (by simp)
    · rw [List.mem_singleton.mp inside] at same
      exact absurd same (by decide +kernel)
    · rw [List.mem_singleton.mp inside] at same
      rcases last with rfl | rfl
      · exact absurd same (by decide +kernel)
      · exact absurd same (by decide +kernel)
  exact confirmed_checkpoint_resumes empty_flat tied_readable (by decide) tied_describes unspoiled
    (writtenAfter_finishes (Except.eq_ok_of_toOption ran.2))

/-- The same files are written again and confirmed, but the marker of the failure is still there. -/
theorem confirmed_retry_is_not_found :
    ¬ ∀ (codec : CheckpointCodec) (habits : Habits) (root where_ : DiskPath) (start later : FileTree)
      (history : List RootStep) (manifest : CheckpointManifest) (files : List (String × List UInt8)),
      (∀ name rest, start.kindAt (root ++ name :: rest) = none) →
      (∀ json, codec.toJson manifest = .ok json → codec.fromJson json = .ok manifest) →
      manifest.files ≠ [] → Describes codec manifest files →
      (afterHistory codec root start history).Finishes (writeCheckpoint codec root manifest files) later
        (.ok where_) → Resumes codec habits later root manifest := by
  intro resumes
  have ran : (writtenAfter "c1").2.toOption = some ["c1"] ∧
      (look .quiet (writtenAfter "c1").1 (findResumePointFor tiedCodec [] "j1" "a1")).toOption = some none := by
    decide +kernel
  obtain ⟨found, searched, _⟩ := resumes tiedCodec .quiet [] ["c1"] ∅ (writtenAfter "c1").1
    [failedPublication "c1"] (tiedManifest "c1") emptyWeights (fun _ _ => kindAt_empty) tied_readable (by decide) tied_describes
    (writtenAfter_finishes (Except.eq_ok_of_toOption ran.1))
  have none_ := Except.eq_ok_of_toOption ran.2
  exact absurd (searched.symm.trans none_) (by simp)

end PointerFailed

end Confirmed

end Gputeer.Checkpoint
