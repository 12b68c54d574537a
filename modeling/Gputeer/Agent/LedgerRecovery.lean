import Gputeer.Agent.LedgerRecords

/-! The programs that open, adopt and clear: wherever they are stopped, the files of a node fit together. -/

namespace Gputeer.Agent

open Checkpoint Dialogue FileTree Text Bytes RealRoot

variable {blake3 : List UInt8 → Vector UInt8 32} {engine : LedgerEngine} {root : RealRoot} {tree later : FileTree}
  {random : Except String (Vector UInt8 16)} {presence : Presence} {records : AttemptIds}
  {suffix pair id generation : String} {marker spot other : Place} {attested : Bool} {α : Type}
  {dialogue : LinkedDialogue α}

section Programs

variable {name : String} {path : DiskPath}

/-- The paths that a program with this marker touches. -/
def Uses (root : RealRoot) (suffix : String) (path : DiskPath) : Prop := root.Residue path ∨ Makes root suffix path

theorem uses_ours (of : MarkerOf marker suffix) (uses : Uses root suffix path) : root.Ours path :=
  uses.elim Residue.ours (makes_ours of)

theorem agentGeneration_reads : (agentGeneration root.paths random presence).Asks FileQuestion.Reads := by
  unfold agentGeneration
  split
  · refine Asks.andThen (readGenerationFile_reads _) fun generation => ?_
    split
    · refine Asks.andThen (readGenerationFile_reads _) fun pair => ?_
      split <;> exact asks_pure _
    · exact asks_pure _
  · exact asks_pure _

theorem createForAgent_step : (createForAgent engine root.paths random presence records).Asks
    (LinkedStep root (Makes root creatingSuffix)) := by
  unfold createForAgent
  split
  · split <;> exact asks_pure _
  · split
    · split <;> exact asks_pure _
    · split
      · exact asks_pure _
      · exact Asks.andThen (asks_onLinked (asks_reads agentGeneration_reads)) fun generation =>
          makeLedger_step .creating

theorem finishMarker_makes :
    (finishMarker root.paths (root.sibling suffix)).Asks (Step root (Touched root.parent (root.name ++ suffix))) := by
  refine asks_touches (Asks.mono finishMarker_touches fun asked touches => ⟨fun path changes => ?_, touches.2⟩)
  exact Or.inl (touches.1 path changes)

theorem finishCreating_step : (finishCreating root.paths presence pair).Asks
    (Step root (Touched root.parent (root.name ++ creatingSuffix))) := by
  unfold finishCreating
  split
  · refine Asks.andThen (asks_reads (readGenerationFile_reads _)) fun marker => ?_
    split
    · exact asks_pure _
    · exact finishMarker_makes
  · exact asks_pure _

/-- The paths that the last steps of an Agent touch. -/
def Checks (root : RealRoot) (path : DiskPath) : Prop :=
  root.Temp path ∨ Touched root.parent (root.name ++ creatingSuffix) path

theorem checkForAgent_step : (checkForAgent engine root.paths presence records).Asks (Step root (Checks root)) := by
  unfold checkForAgent
  refine Asks.andThen (asks_step_mono removeStaleTemps_step fun _ => Or.inl) fun _ => ?_
  refine Asks.andThen (asks_reads (openLedger_reads _)) fun ledger => ?_
  refine Asks.andThen (asks_reads (readGenerationFile_reads _)) fun pair => ?_
  split
  · exact asks_pure _
  · exact Asks.andThen (asks_step_mono finishCreating_step fun _ => Or.inr) fun _ => asks_pure _

theorem openForAgent_step : (openForAgent blake3 engine root.paths random).Asks
    (LinkedStep root (Uses root creatingSuffix)) := by
  unfold openForAgent
  refine Asks.andThen (asks_onLinked (asks_reads (detect_reads _))) fun presence => ?_
  split
  · exact asks_pure _
  · refine Asks.andThen (asks_onLinked (asks_step_mono (scanStartRecords_step true) fun _ => Or.inl)) fun records => ?_
    refine Asks.andThen (linkedStep_mono createForAgent_step fun _ => Or.inr) fun _ => ?_
    refine asks_onLinked (asks_step_mono checkForAgent_step fun path checks => Or.inr ?_)
    exact checks.elim Or.inr fun touched => Or.inl (Or.inl touched)

theorem writtenGeneration_reads (there : Bool) (path : DiskPath) :
    (writtenGeneration there path).Asks FileQuestion.Reads := by
  unfold writtenGeneration
  split
  · exact Asks.map (readGenerationFile_reads _)
  · exact asks_pure _

theorem adoptGeneration_reads : (adoptGeneration root.paths random presence).Asks FileQuestion.Reads := by
  refine Asks.andThen (writtenGeneration_reads _ _) fun pair =>
    Asks.andThen (writtenGeneration_reads _ _) fun marker => ?_
  rcases pair with _ | pair <;> rcases marker with _ | marker
  · exact asks_pure _
  · exact asks_pure _
  · exact asks_pure _
  · dsimp only
    split <;> exact asks_pure _

/-- The paths that the end of an adoption touches. -/
def Resumes (root : RealRoot) (path : DiskPath) : Prop :=
  root.Residue path ∨ Touched root.parent (root.name ++ adoptingSuffix) path

theorem resumeAdopting_step : (resumeAdopting blake3 engine root.paths presence).Asks (Step root (Resumes root)) := by
  unfold resumeAdopting
  refine Asks.andThen (asks_reads (readGenerationFile_reads _)) fun marker => ?_
  split
  · exact asks_pure _
  · refine Asks.andThen (asks_reads (readGenerationFile_reads _)) fun pair => ?_
    refine Asks.andThen (asks_reads (openLedger_reads _)) fun ledger => ?_
    split
    · exact asks_pure _
    · refine Asks.andThen (asks_step_mono (scanStartRecords_step true) fun _ => Or.inl) fun records => ?_
      refine Asks.andThen (given_asks _) fun missing => ?_
      split
      · exact asks_pure _
      · exact Asks.map (asks_step_mono finishMarker_makes fun _ => Or.inr)

theorem adoptRecords_step : (adoptRecords engine root.paths random presence attested records).Asks
    (LinkedStep root (Makes root adoptingSuffix)) := by
  unfold adoptRecords
  split
  · exact asks_pure _
  · exact Asks.andThen (asks_onLinked (asks_reads adoptGeneration_reads)) fun generation =>
      Asks.map (makeLedger_step .adopting)

theorem adoptLegacyFiles_step : (adoptLegacyFiles blake3 engine root.paths random attested).Asks
    (LinkedStep root (Uses root adoptingSuffix)) := by
  unfold adoptLegacyFiles
  refine Asks.andThen (asks_onLinked (asks_reads (detect_reads _))) fun presence => ?_
  split
  · refine asks_onLinked (asks_step_mono resumeAdopting_step fun path resumes => ?_)
    exact resumes.imp id fun touched => Or.inl (Or.inl touched)
  · split
    · exact asks_pure _
    · split
      · exact asks_pure _
      · refine Asks.andThen (asks_onLinked (asks_step_mono (scanStartRecords_step true) fun _ => Or.inl)) fun records => ?_
        exact linkedStep_mono adoptRecords_step fun _ => Or.inr

theorem openForClear_step : (openForClear blake3 engine root.paths).Asks (Step root root.Residue) := by
  unfold openForClear
  refine Asks.andThen (asks_reads (detect_reads _)) fun presence => ?_
  split
  · exact asks_pure _
  · split
    · exact asks_pure _
    · split
      · exact asks_pure _
      · refine Asks.andThen (asks_reads (openLedger_reads _)) fun ledger => ?_
        refine Asks.andThen ?_ fun _ => ?_
        · split
          · refine Asks.andThen (asks_reads (readGenerationFile_reads _)) fun pair => ?_
            split <;> exact asks_pure _
          · exact asks_pure _
        · exact Asks.andThen (scanStartRecords_step true) fun records => asks_pure _

/-- No start record is touched. -/
theorem record_kept (asks : dialogue.Asks (LinkedStep root (Uses root suffix))) (record : isRecordName name = true)
    (reached : tree.LinkedReaches dialogue later) : later.kindAt (root.started name) = tree.kindAt (root.started name) :=
  linkedKept asks (fun uses => uses.elim (@record_spared _ _ .pair record).2.1 (record_not_made record)) record_off
    (record_spared record).2.2 reached

theorem uses_place (of : MarkerOf marker suffix) (uses : Uses root suffix (root.place spot)) :
    spot = marker ∨ spot = .pair :=
  uses.elim (fun residue => absurd residue place_not_residue) (makes_place of)

theorem place_unused (of : MarkerOf marker suffix) (apart : spot ≠ marker ∧ spot ≠ .pair ∧ spot ≠ .ledger)
    (asks : dialogue.Asks (LinkedStep root (Uses root suffix))) (reached : tree.LinkedReaches dialogue later) :
    later.kindAt (root.place spot) = tree.kindAt (root.place spot) := by
  refine linkedKept asks (fun uses => ?_) (place_ours root spot).not_above (fun same => ?_) reached
  · exact (uses_place of uses).elim apart.1 apart.2.1
  · exact apart.2.2 (place_inj.mp same)

/-- A ledger that is there stays as it is, wherever the program is stopped. -/
theorem ledger_unused {content : List UInt8} (of : MarkerOf marker suffix)
    (asks : dialogue.Asks (LinkedStep root (Uses root suffix))) (reached : tree.LinkedReaches dialogue later)
    (there : tree.kindAt (root.place .ledger) = some (.file content)) :
    later.kindAt (root.place .ledger) = some (.file content) := by
  refine ledgerKept asks (fun uses => ?_) reached there
  rcases uses_place of uses with same | same
  · cases of <;> cases same
  · cases same

end Programs

section Phases

variable {content : List UInt8} {whole wider : List UInt8 → Prop}

/-- The ledger holds the rows that were meant, one for each recorded attempt among them. -/
def Serves (blake3 : List UInt8 → Vector UInt8 32) (engine : LedgerEngine) (root : RealRoot) (tree : FileTree)
    (generation : String) (content : List UInt8) : Prop :=
  ∃ file typed, engine.read content = .ok file ∧ Sound generation file typed ∧
    ∀ id, Recorded blake3 root tree id → id ∈ typed

/-- A ledger that is made with this marker, or was. -/
structure Phase (blake3 : List UInt8 → Vector UInt8 32) (engine : LedgerEngine) (root : RealRoot) (tree : FileTree)
    (marker other : Place) (generation : String) : Prop where
  formed : isGeneration generation = true
  alone : tree.kindAt (root.place other) = none
  stage : Stage root tree marker generation (Serves blake3 engine root tree generation)

/-- The files of a node, whatever has been done on it. An Agent makes a ledger only where nothing was recorded. -/
structure Node (blake3 : List UInt8 → Vector UInt8 32) (engine : LedgerEngine) (root : RealRoot) (tree : FileTree) :
    Prop where
  neat : Neat root tree
  valid : Valid blake3 root tree
  housed : tree.kindAt root.paths.startedDir = none → ∀ id, ¬ Recorded blake3 root tree id
  phase : (∃ generation, Phase blake3 engine root tree .creating .adopting generation ∧
      (tree.kindAt (root.place .ledger) = none → ∀ id, ¬ Recorded blake3 root tree id)) ∨
    ∃ generation, Phase blake3 engine root tree .adopting .creating generation

theorem Stage.mono (stage : Stage root tree marker generation whole) (implies : ∀ content, whole content → wider content) :
    Stage root tree marker generation wider := by
  refine stage.imp id fun ⟨first, second, content, right, there⟩ => ?_
  exact ⟨first, second, content, implies content right, there⟩

theorem Serves.of_records (same : ∀ id, Recorded blake3 root later id → Recorded blake3 root tree id)
    (serves : Serves blake3 engine root tree generation content) :
    Serves blake3 engine root later generation content := by
  obtain ⟨file, typed, read, sound, rows⟩ := serves
  exact ⟨file, typed, read, sound, fun id recorded => rows id (same id recorded)⟩

/-- What was made of the records serves them. -/
theorem Complete.serves {origin : Origin} {adopted : List String} (legacyOrigin : origin ≠ .agent)
    (complete : Complete engine generation (adopted.map (AttemptRow.legacy · origin)) content)
    (each : ∀ id, Recorded blake3 root tree id → id ∈ adopted) : Serves blake3 engine root tree generation content := by
  obtain ⟨file, made, read⟩ := complete
  exact ⟨file, _, read, sound_created legacyOrigin made, fun id recorded => mem_adoptedRows.mpr (each id recorded)⟩

theorem scan_keeps (spot : Place) (reached : tree.Reaches (scanStartRecords blake3 root.paths.startedDir true) later) :
    later.kindAt (root.place spot) = tree.kindAt (root.place spot) :=
  kept (scanStartRecords_step true) place_not_residue (place_ours root spot).not_above reached

/-- Where the four files are as they were, the stage is the same. -/
theorem Stage.same (stage : Stage root tree marker generation whole)
    (same : ∀ spot, later.kindAt (root.place spot) = tree.kindAt (root.place spot)) :
    Stage root later marker generation whole := by
  unfold Stage Begun at stage ⊢
  rw [same, same, same]
  exact stage

theorem readFile_unique {first second : String} (there : tree.kindAt (root.place marker) = some (.file (utf8 first)))
    (again : tree.kindAt (root.place marker) = some (.file (utf8 second))) : first = second := by
  rw [there, Option.some.injEq, DiskEntry.file.injEq] at again
  exact utf8_injective again

/-- What the Agent takes for the generation is the one that was begun, or a new one. -/
theorem finishes_agentGeneration {begun : String}
    (seen : ∀ spot, presence.has spot = (tree.kindAt (root.place spot)).isSome)
    (before : Begun root tree .creating begun) (ended : tree.Finishes (agentGeneration root.paths random presence) later
      (.ok generation)) :
    later = tree ∧ isGeneration generation = true ∧ Begun root tree .creating generation := by
  obtain rfl := reaches_reads agentGeneration_reads ended.reaches
  refine ⟨rfl, ?_⟩
  unfold agentGeneration at ended
  have creating : presence.creating = (later.kindAt (root.place .creating)).isSome := seen .creating
  rcases before with ⟨unmarked, unpaired⟩ | ⟨marked, pair⟩
  · rw [unmarked] at creating
    rw [creating, if_neg (by simp)] at ended
    obtain ⟨_, same⟩ := Finishes.of_pure ended
    exact ⟨isGeneration_new same.symm, Or.inl ⟨unmarked, unpaired⟩⟩
  · rw [marked] at creating
    rw [creating, if_pos (by rfl)] at ended
    obtain ⟨between, found, reading, rest⟩ := Finishes.of_andThen ended
    obtain ⟨rfl, there, formed⟩ := finishes_readGenerationFile reading
    have same : generation = found := by
      split at rest
      · obtain ⟨_, _, _, last⟩ := Finishes.of_andThen rest
        split at last
        · cases (Finishes.of_pure last).2
        · cases (Finishes.of_pure last).2
          rfl
      · cases (Finishes.of_pure rest).2
        rfl
    have again : found = begun := readFile_unique there marked
    rw [same, again]
    exact ⟨again ▸ formed, Or.inr ⟨marked, pair⟩⟩

/-- A ledger that was there, or one that an Agent has made where nothing was recorded. -/
def MadeFor (engine : LedgerEngine) (records : AttemptIds) (before : String) (whole : List UInt8 → Prop)
    (generation : String) (content : List UInt8) : Prop :=
  (generation = before ∧ whole content) ∨ records.isEmpty = true ∧ Complete engine generation [] content

theorem reaches_createForAgent (seen : ∀ spot, presence.has spot = (tree.kindAt (root.place spot)).isSome)
    (formed : isGeneration generation = true) (stage : Stage root tree .creating generation whole)
    (reached : tree.LinkedReaches (createForAgent engine root.paths random presence records) later) :
    ∃ next, isGeneration next = true ∧ Stage root later .creating next (MadeFor engine records generation whole next) := by
  have stays : ∃ next, isGeneration next = true ∧
      Stage root tree .creating next (MadeFor engine records generation whole next) :=
    ⟨generation, formed, stage.mono fun content right => Or.inl ⟨rfl, right⟩⟩
  have stopped {error : Except String Unit} (ended : tree.LinkedReaches (pure error) later) : later = tree := by
    cases ended with
    | stop => rfl
  unfold createForAgent at reached
  split at reached
  · split at reached
    · exact stopped reached ▸ stays
    · exact stopped reached ▸ stays
  · next noLedger =>
    split at reached
    · split at reached
      · exact stopped reached ▸ stays
      · exact stopped reached ▸ stays
    · next noRecords =>
      split at reached
      · exact stopped reached ▸ stays
      · rcases stage with ⟨begun, absent⟩ | ⟨_, _, content, _, there⟩
        · rcases Reaches.of_andThen reached with choosing | ⟨chosen, next, choosing, making⟩
          · rw [reaches_reads agentGeneration_reads (linkedReaches_onLinked.mp choosing)]
            exact stays
          · obtain ⟨rfl, formedNext, begunNext⟩ :=
              finishes_agentGeneration seen begun (linkedFinishes_onLinked.mp choosing)
            have made := reaches_makeLedger .creating begunNext absent making
            refine ⟨next, formedNext, made.mono fun content complete => ?_⟩
            exact Or.inr ⟨by simpa using noRecords, complete⟩
        · have some_ := seen .ledger
          rw [there] at some_
          exact absurd some_ noLedger

theorem finishes_createForAgent (seen : ∀ spot, presence.has spot = (tree.kindAt (root.place spot)).isSome)
    (formed : isGeneration generation = true) (stage : Stage root tree .creating generation whole)
    (ended : tree.LinkedFinishes (createForAgent engine root.paths random presence records) later (.ok ())) :
    ∃ next, isGeneration next = true ∧ (later.kindAt (root.place .creating) = none ∨
        presence.ledger = true ∧ later.kindAt (root.place .creating) = some (.file (utf8 next))) ∧
      later.kindAt (root.place .pair) = some (.file (utf8 next)) ∧ ∃ content,
        MadeFor engine records generation whole next content ∧
          later.kindAt (root.place .ledger) = some (.file content) := by
  have ledger : presence.ledger = (tree.kindAt (root.place .ledger)).isSome := seen .ledger
  rcases stage with ⟨begun, absent⟩ | ⟨marker_, pair_, content, right, there⟩
  · rw [absent] at ledger
    unfold createForAgent at ended
    rw [ledger, if_neg (by simp)] at ended
    split at ended
    · split at ended
      · cases (Finishes.of_pure ended).2
      · cases (Finishes.of_pure ended).2
    · next noRecords =>
      split at ended
      · cases (Finishes.of_pure ended).2
      · obtain ⟨chosen, next, choosing, making⟩ := Finishes.of_andThen ended
        obtain ⟨rfl, formedNext, _⟩ := finishes_agentGeneration seen begun (linkedFinishes_onLinked.mp choosing)
        obtain ⟨unmarked, paired, ⟨content, complete, placed⟩, _⟩ := finishes_makeLedger .creating making
        exact ⟨next, formedNext, Or.inl unmarked, paired, content, Or.inr ⟨by simpa using noRecords, complete⟩, placed⟩
  · rw [there] at ledger
    unfold createForAgent at ended
    rw [ledger, if_pos (by rfl)] at ended
    split at ended
    · obtain ⟨rfl, _⟩ := Finishes.of_pure ended
      exact ⟨generation, formed, marker_.imp id fun same => ⟨ledger, same⟩, pair_, content, Or.inl ⟨rfl, right⟩, there⟩
    · cases (Finishes.of_pure ended).2

theorem checks_place (spot : Place) (apart : spot ≠ .creating) : ¬ Checks root (root.place spot) := by
  rintro (temp | touched)
  · exact place_not_temp temp
  · exact apart (touched_marker .creating touched)

theorem reaches_finishCreating (reached : tree.Reaches (finishCreating root.paths presence pair) later) :
    later.kindAt (root.place .creating) = tree.kindAt (root.place .creating) ∨
      later.kindAt (root.place .creating) = none := by
  unfold finishCreating at reached
  split at reached
  · rcases Reaches.of_andThen reached with reading | ⟨read, marker, reading, rest⟩
    · rw [reaches_reads (readGenerationFile_reads _) reading]
      exact Or.inl rfl
    · obtain rfl := reaches_reads (readGenerationFile_reads _) reading.reaches
      split at rest
      · rw [reaches_reads (asks_pure _) rest]
        exact Or.inl rfl
      · exact reaches_finishMarker rest
  · rw [reaches_reads (asks_pure _) reached]
    exact Or.inl rfl

/-- The last steps of an Agent do no more than to remove its marker. -/
theorem reaches_checkForAgent (reached : tree.Reaches (checkForAgent engine root.paths presence records) later) :
    later.kindAt (root.place .creating) = tree.kindAt (root.place .creating) ∨
      later.kindAt (root.place .creating) = none := by
  have cleans {next : FileTree} (cleaning : tree.Reaches (removeStaleTemps root.paths) next) :
      next.kindAt (root.place .creating) = tree.kindAt (root.place .creating) :=
    kept removeStaleTemps_step place_not_temp (place_ours root .creating).not_above cleaning
  unfold checkForAgent at reached
  rcases Reaches.of_andThen reached with cleaning | ⟨clean, _, cleaning, opening⟩
  · exact Or.inl (cleans cleaning)
  · rw [← cleans cleaning.reaches]
    rcases Reaches.of_andThen opening with looking | ⟨opened, ledger, looking, reading⟩
    · rw [reaches_reads (openLedger_reads _) looking]
      exact Or.inl rfl
    · obtain rfl := reaches_reads (openLedger_reads _) looking.reaches
      rcases Reaches.of_andThen reading with stopped | ⟨read, pair, found, finishing⟩
      · rw [reaches_reads (readGenerationFile_reads _) stopped]
        exact Or.inl rfl
      · obtain rfl := reaches_reads (readGenerationFile_reads _) found.reaches
        split at finishing
        · rw [reaches_reads (asks_pure _) finishing]
          exact Or.inl rfl
        · rcases Reaches.of_andThen finishing with stopped | ⟨finished, _, ended, missing⟩
          · exact reaches_finishCreating stopped
          · rw [reaches_reads (asks_pure _) missing]
            exact reaches_finishCreating ended.reaches

end Phases

section Opening

/-- What a program leaves of the files around its places. -/
theorem Node.around (node : Node blake3 engine root tree) (of : MarkerOf marker suffix)
    (asks : dialogue.Asks (LinkedStep root (Uses root suffix))) (reached : tree.LinkedReaches dialogue later) :
    (Neat root later ∧ Valid blake3 root later ∧
      (later.kindAt root.paths.startedDir = none → ∀ id, ¬ Recorded blake3 root later id)) ∧
    ∀ id, Recorded blake3 root later id ↔ Recorded blake3 root tree id := by
  have ours := linkedStep_mono asks fun path => uses_ours of
  have same : ∀ name, isRecordName name = true → later.kindAt (root.started name) = tree.kindAt (root.started name) :=
    fun name record => record_kept asks record reached
  refine ⟨⟨node.neat.linkedReaches ours reached, fun name content record there => ?_, fun absent id recorded => ?_⟩,
    fun id => recorded_iff same⟩
  · exact node.valid name content record (same name record ▸ there)
  · refine node.housed ?_ id ((recorded_iff same).mp recorded)
    rcases node.neat.started with none_ | folder
    · exact none_
    · rw [folder_linkedReaches (Asks.mono ours fun _ step => linkedStep_keeps step) reached folder] at absent
      cases absent

theorem recorded_of_scan (scanned : tree.Finishes (scanStartRecords blake3 root.paths.startedDir true) later (.ok records))
    (housed : tree.kindAt root.paths.startedDir = none → ∀ id, ¬ Recorded blake3 root tree id) :
    id ∈ records ↔ Recorded blake3 root tree id := by
  rcases finishes_scanStartRecords scanned with ⟨absent, rfl⟩ | ⟨_, each⟩
  · simp [housed absent id]
  · exact each id

theorem isEmpty_iff_forall : records.isEmpty = true ↔ ∀ id, id ∉ records := by
  rw [Std.ExtTreeMap.isEmpty_iff, Std.ExtTreeMap.eq_empty_iff_forall_not_mem]

/-- What was made or kept serves the records as long as there are no more of them. -/
theorem MadeFor.serves {before : String} {content : List UInt8}
    (made : MadeFor engine records before (Serves blake3 engine root tree before) generation content)
    (each : ∀ id, id ∈ records ↔ Recorded blake3 root tree id) : Serves blake3 engine root tree generation content := by
  rcases made with ⟨rfl, serves⟩ | ⟨empty, complete⟩
  · exact serves
  · refine @Complete.serves _ _ _ _ _ _ .legacyAdopt [] (by simp) complete fun id recorded => ?_
    exact absurd ((each id).mpr recorded) (isEmpty_iff_forall.mp empty id)

theorem seen_after {between : FileTree} (seen : ∀ spot, presence.has spot = (tree.kindAt (root.place spot)).isSome)
    (same : ∀ spot, between.kindAt (root.place spot) = tree.kindAt (root.place spot)) :
    ∀ spot, presence.has spot = (between.kindAt (root.place spot)).isSome :=
  fun spot => (seen spot).trans (congrArg Option.isSome (same spot).symm)

/-- Wherever an Agent is stopped that opens its ledger. -/
theorem reaches_openForAgent (housed : tree.kindAt root.paths.startedDir = none → ∀ id, ¬ Recorded blake3 root tree id)
    (formed : isGeneration generation = true)
    (stage : Stage root tree .creating generation (Serves blake3 engine root tree generation))
    (reached : tree.LinkedReaches (openForAgent blake3 engine root.paths random) later) :
    ∃ next, isGeneration next = true ∧ Stage root later .creating next (Serves blake3 engine root tree next) := by
  unfold openForAgent at reached
  rcases Reaches.of_andThen reached with looking | ⟨between, presence, looking, rest⟩
  · rw [reaches_reads (detect_reads _) (linkedReaches_onLinked.mp looking)]
    exact ⟨generation, formed, stage⟩
  · obtain ⟨rfl, seen⟩ := finishes_detect (linkedFinishes_onLinked.mp looking)
    split at rest
    · cases rest with
      | stop => exact ⟨generation, formed, stage⟩
    · rcases Reaches.of_andThen rest with scanning | ⟨scanned, records, scanning, creating⟩
      · exact ⟨generation, formed, stage.same fun spot => scan_keeps spot (linkedReaches_onLinked.mp scanning)⟩
      · have scans := linkedFinishes_onLinked.mp scanning
        have same := fun spot => @scan_keeps blake3 _ _ _ spot scans.reaches
        have each : ∀ id, id ∈ records ↔ Recorded blake3 root between id := fun id => recorded_of_scan scans housed
        rcases Reaches.of_andThen creating with stopped | ⟨created, _, ended, checking⟩
        · obtain ⟨next, formedNext, stageNext⟩ :=
            reaches_createForAgent (seen_after seen same) formed (stage.same same) stopped
          exact ⟨next, formedNext, stageNext.mono fun content made => made.serves each⟩
        · obtain ⟨next, formedNext, marker_, paired, content, made, there⟩ :=
            finishes_createForAgent (seen_after seen same) formed (stage.same same) ended
          have checks := linkedReaches_onLinked.mp checking
          have stays (spot : Place) (apart : spot ≠ .creating) :=
            kept checkForAgent_step (@checks_place root spot apart) (place_ours root spot).not_above checks
          refine ⟨next, formedNext, Or.inr ⟨?_, (stays .pair (by simp)).trans paired, content, made.serves each,
            (stays .ledger (by simp)).trans there⟩⟩
          rcases reaches_checkForAgent checks with same | gone
          · rw [same]
            exact marker_.imp id And.right
          · exact Or.inl gone

/-- An Agent makes no ledger where attempts were recorded. -/
theorem openForAgent_refuses (housed : tree.kindAt root.paths.startedDir = none → ∀ id, ¬ Recorded blake3 root tree id)
    (absent : tree.kindAt (root.place .ledger) = none) (recorded : Recorded blake3 root tree id)
    (reached : tree.LinkedReaches (openForAgent blake3 engine root.paths random) later) :
    later.kindAt (root.place spot) = tree.kindAt (root.place spot) := by
  unfold openForAgent at reached
  rcases Reaches.of_andThen reached with looking | ⟨between, presence, looking, rest⟩
  · rw [reaches_reads (detect_reads _) (linkedReaches_onLinked.mp looking)]
  · obtain ⟨rfl, seen⟩ := finishes_detect (linkedFinishes_onLinked.mp looking)
    split at rest
    · cases rest with
      | stop => rfl
    · rcases Reaches.of_andThen rest with scanning | ⟨scanned, records, scanning, creating⟩
      · exact scan_keeps spot (linkedReaches_onLinked.mp scanning)
      · have scans := linkedFinishes_onLinked.mp scanning
        have ledger : presence.ledger = false := by
          have shown := seen .ledger
          rw [absent] at shown
          exact shown
        have some_ : records.isEmpty = false := by
          rw [Bool.eq_false_iff]
          intro empty
          exact isEmpty_iff_forall.mp empty id ((recorded_of_scan scans housed).mpr recorded)
        have refused : ∃ error, createForAgent engine root.paths random presence records = pure (.error error) := by
          unfold createForAgent
          rw [ledger, some_]
          simp only [Bool.false_eq_true, if_false, if_true]
          split
          · exact ⟨_, rfl⟩
          · exact ⟨_, rfl⟩
        obtain ⟨error, refused⟩ := refused
        rw [refused] at creating
        have same : later = scanned := by
          cases creating with
          | stop => rfl
        rw [same]
        exact scan_keeps spot scans.reaches

/-- A phase without its marker is one of the other marker. -/
theorem Phase.swap (phase : Phase blake3 engine root tree marker other generation)
    (unmarked : tree.kindAt (root.place marker) = none) : Phase blake3 engine root tree other marker generation where
  formed := phase.formed
  alone := unmarked
  stage := by
    rcases phase.stage with ⟨⟨_, unpaired⟩ | ⟨marked, _⟩, absent⟩ | ⟨_, paired, ledger⟩
    · exact Or.inl ⟨Or.inl ⟨phase.alone, unpaired⟩, absent⟩
    · rw [unmarked] at marked
      cases marked
    · exact Or.inr ⟨Or.inl phase.alone, paired, ledger⟩

theorem Phase.same (phase : Phase blake3 engine root tree marker other generation)
    (same : ∀ spot, later.kindAt (root.place spot) = tree.kindAt (root.place spot))
    (records : ∀ id, Recorded blake3 root later id → Recorded blake3 root tree id) :
    Phase blake3 engine root later marker other generation where
  formed := phase.formed
  alone := (same other).trans phase.alone
  stage := (phase.stage.same same).mono fun _ serves => serves.of_records records

/-- An adoption that is not finished keeps an Agent away. -/
theorem openForAgent_waits (adopting : tree.kindAt (root.place .adopting) ≠ none)
    (reached : tree.LinkedReaches (openForAgent blake3 engine root.paths random) later) : later = tree := by
  unfold openForAgent at reached
  rcases Reaches.of_andThen reached with looking | ⟨between, presence, looking, rest⟩
  · exact reaches_reads (detect_reads _) (linkedReaches_onLinked.mp looking)
  · obtain ⟨rfl, seen⟩ := finishes_detect (linkedFinishes_onLinked.mp looking)
    have shown : presence.adopting = true := (seen .adopting).trans (Option.isSome_iff_ne_none.mpr adopting)
    rw [shown, if_pos rfl] at rest
    cases rest with
    | stop => rfl

theorem ledger_none (neat : Neat root tree) (of : MarkerOf marker suffix)
    (asks : dialogue.Asks (LinkedStep root (Uses root suffix))) (reached : tree.LinkedReaches dialogue later)
    (absent : later.kindAt (root.place .ledger) = none) : tree.kindAt (root.place .ledger) = none := by
  rcases neat.isFile (place_ours root .ledger) with none_ | ⟨content, there⟩
  · exact none_
  · rw [ledger_unused of asks reached there] at absent
    cases absent

/-- Wherever an Agent is stopped that opens its ledger, the node is one still. -/
theorem Node.opens (node : Node blake3 engine root tree)
    (reached : tree.LinkedReaches (openForAgent blake3 engine root.paths random) later) :
    Node blake3 engine root later := by
  obtain ⟨⟨neat, valid, housed⟩, records⟩ := node.around .creating openForAgent_step reached
  refine ⟨neat, valid, housed, ?_⟩
  have goes (generation : String) (phase : Phase blake3 engine root tree .creating .adopting generation)
      (fresh : tree.kindAt (root.place .ledger) = none → ∀ id, ¬ Recorded blake3 root tree id) :
      ∃ generation, Phase blake3 engine root later .creating .adopting generation ∧
        (later.kindAt (root.place .ledger) = none → ∀ id, ¬ Recorded blake3 root later id) := by
    obtain ⟨next, formed, stage⟩ := reaches_openForAgent node.housed phase.formed phase.stage reached
    have alone := @place_unused _ _ _ _ _ .adopting _ _ .creating (by simp) openForAgent_step reached
    refine ⟨next, ⟨formed, alone.trans phase.alone, stage.mono fun content serves =>
      serves.of_records fun id => (records id).mp⟩, fun absent id recorded => ?_⟩
    exact fresh (ledger_none node.neat .creating openForAgent_step reached absent) id ((records id).mp recorded)
  rcases node.phase with ⟨generation, phase, fresh⟩ | ⟨generation, phase⟩
  · exact Or.inl (goes generation phase fresh)
  · by_cases unmarked : tree.kindAt (root.place .adopting) = none
    · by_cases fresh : tree.kindAt (root.place .ledger) = none → ∀ id, ¬ Recorded blake3 root tree id
      · exact Or.inl (goes generation (phase.swap unmarked) fresh)
      · obtain ⟨absent, recorded_⟩ := Classical.not_imp.mp fresh
        obtain ⟨id, recorded⟩ := not_forall_not.mp recorded_
        refine Or.inr ⟨generation, phase.same (fun spot => ?_) fun id => (records id).mp⟩
        exact openForAgent_refuses node.housed absent recorded reached
    · obtain rfl := openForAgent_waits unmarked reached
      exact Or.inr ⟨generation, phase⟩

end Opening

section Adopting

/-- A ledger that was there, or one of the records that were found. -/
def AdoptedFor (engine : LedgerEngine) (records : AttemptIds) (attested : Bool) (before : String)
    (whole : List UInt8 → Prop) (generation : String) (content : List UInt8) : Prop :=
  (generation = before ∧ whole content) ∨ Complete engine generation
    (records.keys.map (AttemptRow.legacy · (if attested then .legacyAdoptAttested else .legacyAdopt))) content

theorem AdoptedFor.serves {before : String} {content : List UInt8}
    (made : AdoptedFor engine records attested before (Serves blake3 engine root tree before) generation content)
    (each : ∀ id, id ∈ records ↔ Recorded blake3 root tree id) : Serves blake3 engine root tree generation content := by
  rcases made with ⟨rfl, serves⟩ | complete
  · exact serves
  · refine complete.serves ?_ fun id recorded => Std.ExtTreeMap.mem_keys.mpr ((each id).mpr recorded)
    cases attested <;> simp

/-- What the command takes for the generation is the one that was begun, or a new one. -/
theorem finishes_adoptGeneration {begun : String}
    (seen : ∀ spot, presence.has spot = (tree.kindAt (root.place spot)).isSome)
    (before : Begun root tree .adopting begun) (ended : tree.Finishes (adoptGeneration root.paths random presence) later
      (.ok generation)) :
    later = tree ∧ isGeneration generation = true ∧ Begun root tree .adopting generation := by
  obtain rfl := reaches_reads adoptGeneration_reads ended.reaches
  refine ⟨rfl, ?_⟩
  have adopting : presence.adopting = (later.kindAt (root.place .adopting)).isSome := seen .adopting
  have pairs : presence.pair = (later.kindAt (root.place .pair)).isSome := seen .pair
  obtain ⟨first, pair, readingPair, rest⟩ := Finishes.of_andThen ended
  obtain ⟨second, marker, readingMarker, last⟩ := Finishes.of_andThen rest
  rcases before with ⟨unmarked, unpaired⟩ | ⟨marked, pair_⟩
  · rw [unpaired] at pairs
    rw [unmarked] at adopting
    rw [pairs] at readingPair
    rw [adopting] at readingMarker
    obtain ⟨_, samePair⟩ := Finishes.of_pure readingPair
    obtain ⟨_, sameMarker⟩ := Finishes.of_pure readingMarker
    cases samePair
    cases sameMarker
    obtain ⟨_, same⟩ := Finishes.of_pure last
    exact ⟨isGeneration_new same.symm, Or.inl ⟨unmarked, unpaired⟩⟩
  · rw [marked] at adopting
    rw [adopting] at readingMarker
    obtain rfl := reaches_reads (writtenGeneration_reads _ _) readingPair.reaches
    obtain ⟨found, reading, same⟩ := Finishes.of_mapOk readingMarker
    subst same
    obtain ⟨_, there, formed⟩ := finishes_readGenerationFile reading
    have again : found = begun := readFile_unique there marked
    subst again
    have chosen : generation = found := by
      cases pair with
      | none =>
          cases (Finishes.of_pure last).2
          rfl
      | some pair =>
          dsimp only at last
          split at last
          · cases (Finishes.of_pure last).2
          · next agree =>
            cases (Finishes.of_pure last).2
            exact not_not.mp agree
    rw [chosen]
    exact ⟨formed, Or.inr ⟨marked, pair_⟩⟩

theorem reaches_adoptRecords (seen : ∀ spot, presence.has spot = (tree.kindAt (root.place spot)).isSome)
    (formed : isGeneration generation = true) (begun : Begun root tree .adopting generation)
    (absent : tree.kindAt (root.place .ledger) = none) {whole : List UInt8 → Prop}
    (reached : tree.LinkedReaches (adoptRecords engine root.paths random presence attested records) later) :
    ∃ next, isGeneration next = true ∧
      Stage root later .adopting next (AdoptedFor engine records attested generation whole next) := by
  have stays : ∃ next, isGeneration next = true ∧
      Stage root tree .adopting next (AdoptedFor engine records attested generation whole next) :=
    ⟨generation, formed, Or.inl ⟨begun, absent⟩⟩
  unfold adoptRecords at reached
  split at reached
  · cases reached with
    | stop => exact stays
  · rcases Reaches.of_andThen reached with choosing | ⟨chosen, next, choosing, making⟩
    · rw [reaches_reads adoptGeneration_reads (linkedReaches_onLinked.mp choosing)]
      exact stays
    · obtain ⟨rfl, formedNext, begunNext⟩ := finishes_adoptGeneration seen begun (linkedFinishes_onLinked.mp choosing)
      refine ⟨next, formedNext, (reaches_makeLedger .adopting begunNext absent (Reaches.of_map making)).mono ?_⟩
      exact fun content complete => Or.inr complete

/-- The end of an adoption does no more than to remove its marker. -/
theorem reaches_resumeAdopting (reached : tree.Reaches (resumeAdopting blake3 engine root.paths presence) later) :
    later.kindAt (root.place .adopting) = tree.kindAt (root.place .adopting) ∨
      later.kindAt (root.place .adopting) = none := by
  unfold resumeAdopting at reached
  rcases Reaches.of_andThen reached with stopped | ⟨read, marker, marked, pairing⟩
  · rw [reaches_reads (readGenerationFile_reads _) stopped]
    exact Or.inl rfl
  · obtain rfl := reaches_reads (readGenerationFile_reads _) marked.reaches
    split at pairing
    · rw [reaches_reads (asks_pure _) pairing]
      exact Or.inl rfl
    · rcases Reaches.of_andThen pairing with stopped | ⟨paired, pair, found, opening⟩
      · rw [reaches_reads (readGenerationFile_reads _) stopped]
        exact Or.inl rfl
      · obtain rfl := reaches_reads (readGenerationFile_reads _) found.reaches
        rcases Reaches.of_andThen opening with stopped | ⟨opened, ledger, looking, scanning⟩
        · rw [reaches_reads (openLedger_reads _) stopped]
          exact Or.inl rfl
        · obtain rfl := reaches_reads (openLedger_reads _) looking.reaches
          split at scanning
          · rw [reaches_reads (asks_pure _) scanning]
            exact Or.inl rfl
          · rcases Reaches.of_andThen scanning with stopped | ⟨scanned, records, scans, asking⟩
            · exact Or.inl (scan_keeps _ stopped)
            · rw [← scan_keeps .adopting scans.reaches]
              rcases Reaches.of_andThen asking with stopped | ⟨asked, missing, told, finishing⟩
              · rw [reaches_reads (given_asks _) stopped]
                exact Or.inl rfl
              · obtain rfl := reaches_reads (given_asks _) told.reaches
                split at finishing
                · rw [reaches_reads (asks_pure _) finishing]
                  exact Or.inl rfl
                · exact reaches_finishMarker (Reaches.of_map finishing)

theorem resumes_place (spot : Place) (apart : spot ≠ .adopting) : ¬ Resumes root (root.place spot) := by
  rintro (residue | touched)
  · exact place_not_residue residue
  · exact apart (touched_marker .adopting touched)

/-- Wherever the command is stopped. -/
theorem reaches_adoptLegacyFiles (housed : tree.kindAt root.paths.startedDir = none → ∀ id, ¬ Recorded blake3 root tree id)
    (formed : isGeneration generation = true)
    (stage : Stage root tree .adopting generation (Serves blake3 engine root tree generation))
    (reached : tree.LinkedReaches (adoptLegacyFiles blake3 engine root.paths random attested) later) :
    ∃ next, isGeneration next = true ∧ Stage root later .adopting next (Serves blake3 engine root tree next) := by
  unfold adoptLegacyFiles at reached
  rcases Reaches.of_andThen reached with looking | ⟨between, presence, looking, rest⟩
  · rw [reaches_reads (detect_reads _) (linkedReaches_onLinked.mp looking)]
    exact ⟨generation, formed, stage⟩
  · obtain ⟨rfl, seen⟩ := finishes_detect (linkedFinishes_onLinked.mp looking)
    have ledger : presence.ledger = (between.kindAt (root.place .ledger)).isSome := seen .ledger
    split at rest
    · next resumes =>
      have ran := linkedReaches_onLinked.mp rest
      have stays (spot : Place) (apart : spot ≠ .adopting) :=
        kept resumeAdopting_step (@resumes_place root spot apart) (place_ours root spot).not_above ran
      rcases stage with ⟨_, absent⟩ | ⟨marker_, paired, content, serves, there⟩
      · rw [resumes.2, absent] at ledger
        cases ledger
      · refine ⟨generation, formed, Or.inr ⟨?_, (stays .pair (by simp)).trans paired, content, serves,
          (stays .ledger (by simp)).trans there⟩⟩
        rcases reaches_resumeAdopting ran with same | gone
        · rw [same]
          exact marker_
        · exact Or.inl gone
    · split at rest
      · cases rest with
        | stop => exact ⟨generation, formed, stage⟩
      · next noLedger =>
        split at rest
        · cases rest with
          | stop => exact ⟨generation, formed, stage⟩
        · rcases Reaches.of_andThen rest with scanning | ⟨scanned, records, scanning, adopting⟩
          · exact ⟨generation, formed, stage.same fun spot => scan_keeps spot (linkedReaches_onLinked.mp scanning)⟩
          · have scans := linkedFinishes_onLinked.mp scanning
            have same := fun spot => @scan_keeps blake3 _ _ _ spot scans.reaches
            rcases stage with ⟨begun, absent⟩ | ⟨_, _, content, _, there⟩
            · have begunScanned : Begun root scanned .adopting generation := by
                unfold Begun at begun ⊢
                rw [same, same]
                exact begun
              obtain ⟨next, formedNext, stageNext⟩ := @reaches_adoptRecords _ _ _ _ _ _ _ _ _ (seen_after seen same) formed
                begunScanned ((same .ledger).trans absent) (Serves blake3 engine root between generation) adopting
              refine ⟨next, formedNext, stageNext.mono fun content made => made.serves fun id => ?_⟩
              exact recorded_of_scan scans housed
            · rw [there] at ledger
              exact absurd ledger noLedger

/-- Nothing is adopted where an Agent has begun. -/
theorem adoptLegacyFiles_refuses (unmarked : tree.kindAt (root.place .adopting) = none)
    (begun : tree.kindAt (root.place .ledger) ≠ none ∨ tree.kindAt (root.place .creating) ≠ none)
    (reached : tree.LinkedReaches (adoptLegacyFiles blake3 engine root.paths random attested) later) : later = tree := by
  unfold adoptLegacyFiles at reached
  rcases Reaches.of_andThen reached with looking | ⟨between, presence, looking, rest⟩
  · exact reaches_reads (detect_reads _) (linkedReaches_onLinked.mp looking)
  · obtain ⟨rfl, seen⟩ := finishes_detect (linkedFinishes_onLinked.mp looking)
    have adopting : presence.adopting = false := by
      have shown := seen .adopting
      rwa [unmarked] at shown
    rw [adopting, if_neg (by simp)] at rest
    split at rest
    · cases rest with
      | stop => rfl
    · next noLedger =>
      split at rest
      · cases rest with
        | stop => rfl
      · next noMarker =>
        rcases begun with there | there
        · exact absurd ((seen .ledger).trans (Option.isSome_iff_ne_none.mpr there)) noLedger
        · exact absurd ((seen .creating).trans (Option.isSome_iff_ne_none.mpr there)) noMarker

/-- Wherever the command is stopped that adopts the records of a node, the node is one still. -/
theorem Node.adopts (node : Node blake3 engine root tree)
    (reached : tree.LinkedReaches (adoptLegacyFiles blake3 engine root.paths random attested) later) :
    Node blake3 engine root later := by
  obtain ⟨⟨neat, valid, housed⟩, records⟩ := node.around .adopting adoptLegacyFiles_step reached
  refine ⟨neat, valid, housed, ?_⟩
  have goes (generation : String) (phase : Phase blake3 engine root tree .adopting .creating generation) :
      ∃ generation, Phase blake3 engine root later .adopting .creating generation := by
    obtain ⟨next, formed, stage⟩ := reaches_adoptLegacyFiles node.housed phase.formed phase.stage reached
    have alone := @place_unused _ _ _ _ _ .creating _ _ .adopting (by simp) adoptLegacyFiles_step reached
    exact ⟨next, formed, alone.trans phase.alone, stage.mono fun content serves =>
      serves.of_records fun id => (records id).mp⟩
  rcases node.phase with ⟨generation, phase, fresh⟩ | ⟨generation, phase⟩
  · by_cases begun : tree.kindAt (root.place .ledger) ≠ none ∨ tree.kindAt (root.place .creating) ≠ none
    · obtain rfl := adoptLegacyFiles_refuses phase.alone begun reached
      exact Or.inl ⟨generation, phase, fresh⟩
    · obtain ⟨_, unmarked⟩ := not_or.mp begun
      exact Or.inr (goes generation (phase.swap (not_not.mp unmarked)))
  · exact Or.inr (goes generation phase)

/-- So is a node whose blocked attempts are to be cleared. -/
theorem Node.clears (node : Node blake3 engine root tree)
    (reached : tree.Reaches (openForClear blake3 engine root.paths) later) : Node blake3 engine root later := by
  have asks : (openForClear blake3 engine root.paths).onLinked.Asks (LinkedStep root (Uses root creatingSuffix)) :=
    asks_onLinked (asks_step_mono openForClear_step fun _ => Or.inl)
  obtain ⟨⟨neat, valid, housed⟩, records⟩ := node.around .creating asks (linkedReaches_onLinked.mpr reached)
  have same (spot : Place) : later.kindAt (root.place spot) = tree.kindAt (root.place spot) :=
    kept openForClear_step place_not_residue (place_ours root spot).not_above reached
  refine ⟨neat, valid, housed, ?_⟩
  rcases node.phase with ⟨generation, phase, fresh⟩ | ⟨generation, phase⟩
  · refine Or.inl ⟨generation, phase.same same fun id => (records id).mp, fun absent id recorded => ?_⟩
    exact fresh ((same .ledger).symm.trans absent) id ((records id).mp recorded)
  · exact Or.inr ⟨generation, phase.same same fun id => (records id).mp⟩

end Adopting

end Gputeer.Agent
