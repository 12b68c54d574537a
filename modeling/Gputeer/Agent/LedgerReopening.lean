import Gputeer.Agent.LedgerRecovery

/-! A ledger that an Agent has got is the one that is there, and on a disk that does not fail an Agent gets it. -/

namespace Gputeer.Agent

open Checkpoint Dialogue FileTree Text Bytes RealRoot

variable {blake3 : List UInt8 → Vector UInt8 32} {engine : LedgerEngine} {root : RealRoot} {tree later : FileTree}
  {random : Except String (Vector UInt8 16)} {presence : Presence} {records : AttemptIds} {generation pair : String}
  {ledger : RunLedger}

section Opened

/-- The ledger that is there: it has its pair and no marker, and a row for each recorded attempt. -/
structure Opened (blake3 : List UInt8 → Vector UInt8 32) (engine : LedgerEngine) (root : RealRoot) (tree : FileTree)
    (ledger : RunLedger) : Prop where
  unmarked : tree.kindAt (root.place .adopting) = none ∧ tree.kindAt (root.place .creating) = none
  paired : tree.kindAt (root.place .pair) = some (.file (utf8 ledger.generation))
  there : ∃ content, tree.kindAt (root.place .ledger) = some (.file content) ∧ engine.read content = .ok ledger.file
  opens : ledger.file.openExisting = .ok ledger.generation
  rows : ∃ rows, ledger.file.rows = .ok rows ∧
    ∀ id, Recorded blake3 root tree id → id ∈ rows.map AttemptRow.attemptId

theorem finishes_finishCreating (ended : tree.Finishes (finishCreating root.paths presence pair) later (.ok ())) :
    later.kindAt (root.place .creating) = none ∨ ¬ (presence.creating ∧ presence.ledger) ∧ later = tree := by
  unfold finishCreating at ended
  split at ended
  · obtain ⟨read, marker, _, rest⟩ := Finishes.of_andThen ended
    split at rest
    · cases (Finishes.of_pure rest).2
    · exact Or.inl (finishes_finishMarker rest)
  · next other => exact Or.inr ⟨other, (Finishes.of_pure ended).1⟩

/-- What the last steps of an Agent have found. -/
theorem finishes_checkForAgent
    (ended : tree.Finishes (checkForAgent engine root.paths presence records) later (.ok ledger)) :
    tree.kindAt (root.place .pair) = some (.file (utf8 ledger.generation)) ∧
      (∃ content, tree.kindAt (root.place .ledger) = some (.file content) ∧ engine.read content = .ok ledger.file) ∧
      ledger.file.openExisting = .ok ledger.generation ∧ ledger.missing records = .ok none ∧
      (later.kindAt (root.place .creating) = none ∨ ¬ (presence.creating ∧ presence.ledger) ∧
        later.kindAt (root.place .creating) = tree.kindAt (root.place .creating)) := by
  obtain ⟨clean, _, cleaning, opening⟩ := Finishes.of_andThen ended
  have same (spot : Place) : clean.kindAt (root.place spot) = tree.kindAt (root.place spot) :=
    kept removeStaleTemps_step place_not_temp (place_ours root spot).not_above cleaning.reaches
  obtain ⟨opened, found, looking, reading⟩ := Finishes.of_andThen opening
  obtain ⟨rfl, content, there, read, opens⟩ := finishes_openLedger looking
  obtain ⟨paired, pair, said, comparing⟩ := Finishes.of_andThen reading
  obtain ⟨rfl, written, _⟩ := finishes_readGenerationFile said
  split at comparing
  · cases (Finishes.of_pure comparing).2
  · next agree =>
    obtain ⟨finished, _, finishing, last⟩ := Finishes.of_andThen comparing
    obtain ⟨rfl, complete⟩ := Finishes.of_pure last
    obtain ⟨missing, rfl⟩ := complete_eq_ok.mp complete.symm
    refine ⟨?_, ⟨content, (same .ledger).symm.trans there, read⟩, opens, missing, ?_⟩
    · rw [← same, ← not_not.mp agree]
      exact written
    · rw [← same]
      exact (finishes_finishCreating finishing).imp id fun ⟨other, unchanged⟩ => ⟨other, by rw [unchanged]⟩

theorem created_or_same (ended : tree.LinkedFinishes (createForAgent engine root.paths random presence records) later
      (.ok ())) :
    presence.ledger = true ∧ later = tree ∨ presence.ledger = false ∧ later.kindAt (root.place .creating) = none := by
  unfold createForAgent at ended
  split at ended
  · next there =>
    split at ended
    · exact Or.inl ⟨there, (Finishes.of_pure ended).1⟩
    · cases (Finishes.of_pure ended).2
  · next absent =>
    split at ended
    · split at ended
      · cases (Finishes.of_pure ended).2
      · cases (Finishes.of_pure ended).2
    · split at ended
      · cases (Finishes.of_pure ended).2
      · obtain ⟨_, next, _, making⟩ := Finishes.of_andThen ended
        exact Or.inr ⟨Bool.eq_false_iff.mpr absent, (finishes_makeLedger .creating making).1⟩

/-- Whatever the files were, an Agent that has got its ledger has the one that is there, whole and alone. -/
theorem finishes_openForAgent (housed : tree.kindAt root.paths.startedDir = none → ∀ id, ¬ Recorded blake3 root tree id)
    (ended : tree.LinkedFinishes (openForAgent blake3 engine root.paths random) later (.ok ledger)) :
    Opened blake3 engine root later ledger := by
  have reached := ended.reaches
  have recorded (id : String) : Recorded blake3 root later id ↔ Recorded blake3 root tree id :=
    recorded_iff fun name record => record_kept openForAgent_step record reached
  have adopting := @place_unused _ _ _ _ _ .adopting _ _ .creating (by simp) openForAgent_step reached
  obtain ⟨looked, presence, looking, rest⟩ := Finishes.of_andThen ended
  obtain ⟨rfl, seen⟩ := finishes_detect (linkedFinishes_onLinked.mp looking)
  split at rest
  · cases (Finishes.of_pure rest).2
  · next unadopted =>
    obtain ⟨scanned, records, scanning, making⟩ := Finishes.of_andThen rest
    have scans := linkedFinishes_onLinked.mp scanning
    obtain ⟨created, _, creating, checking⟩ := Finishes.of_andThen making
    have checks := linkedFinishes_onLinked.mp checking
    have stays (spot : Place) (apart : spot ≠ .creating) :
        later.kindAt (root.place spot) = created.kindAt (root.place spot) :=
      kept checkForAgent_step (checks_place spot apart) (place_ours root spot).not_above checks.reaches
    obtain ⟨paired, ⟨content, there, read⟩, opens, missing, marker⟩ := finishes_checkForAgent checks
    obtain ⟨rows, readable, each⟩ := missing_eq_none.mp missing
    have absent (spot : Place) (unseen : ¬ presence.has spot = true) : looked.kindAt (root.place spot) = none := by
      rw [seen spot] at unseen
      exact Option.not_isSome_iff_eq_none.mp unseen
    refine ⟨⟨adopting.trans (absent .adopting unadopted), ?_⟩, (stays .pair (by simp)).trans paired,
      ⟨content, (stays .ledger (by simp)).trans there, read⟩, opens, rows, readable, fun id found => ?_⟩
    · rcases marker with gone | ⟨other, same⟩
      · exact gone
      · rw [same]
        rcases created_or_same creating with ⟨ledger, rfl⟩ | ⟨_, gone⟩
        · rw [scan_keeps .creating scans.reaches]
          exact absent .creating fun marked => other ⟨marked, ledger⟩
        · exact gone
    · exact each id ((recorded_of_scan scans housed).mpr ((recorded id).mp found))

end Opened

section Serving

variable {begun : String} {habits : Habits} {bytes : Vector UInt8 16} {content : List UInt8} {attested : Bool}

theorem absent_of_none {spot : Place} (seen : ∀ spot, presence.has spot = (tree.kindAt (root.place spot)).isSome)
    (none_ : tree.kindAt (root.place spot) = none) : presence.has spot = false := by
  rw [seen spot, none_]
  rfl

theorem there_of_some {spot : Place} {entry : DiskEntry}
    (seen : ∀ spot, presence.has spot = (tree.kindAt (root.place spot)).isSome)
    (there : tree.kindAt (root.place spot) = some entry) : presence.has spot = true := by
  rw [seen spot, there]
  rfl

theorem serve_agentGeneration (seen : ∀ spot, presence.has spot = (tree.kindAt (root.place spot)).isSome)
    (formed : isGeneration begun = true) (before : Begun root tree .creating begun) :
    ∃ generation, tree.serve habits (agentGeneration root.paths (.ok bytes) presence) = (tree, .ok generation) := by
  unfold agentGeneration
  rcases before with ⟨unmarked, _⟩ | ⟨marked, pair_⟩
  · have creating : presence.creating = false := absent_of_none seen unmarked
    rw [creating]
    exact ⟨_, rfl⟩
  · have creating : presence.creating = true := there_of_some seen marked
    rw [creating, if_pos rfl,
      serve_ok (serve_readGenerationFile (show tree.kindAt root.paths.creating = _ from marked) formed)]
    rcases pair_ with unpaired | paired
    · have pair : presence.pair = false := absent_of_none seen unpaired
      rw [pair]
      exact ⟨begun, rfl⟩
    · have pair : presence.pair = true := there_of_some seen paired
      rw [pair, if_pos rfl, serve_ok (serve_readGenerationFile (show tree.kindAt root.paths.pair = _ from paired) formed),
        if_neg (not_not.mpr rfl)]
      exact ⟨begun, rfl⟩

theorem serve_createForAgent {whole : List UInt8 → Prop} (neat : Neat root tree)
    (unheld : ∀ path, habits.locked path = false)
    (seen : ∀ spot, presence.has spot = (tree.kindAt (root.place spot)).isSome) (formed : isGeneration begun = true)
    (stage : Stage root tree .creating begun whole)
    (fresh : tree.kindAt (root.place .ledger) = none → records.isEmpty = true) :
    ∃ later, tree.linkedServe habits (createForAgent engine root.paths (.ok bytes) presence records) = (later, .ok ()) := by
  unfold createForAgent
  rcases stage with ⟨before, absent⟩ | ⟨_, paired, content, _, there⟩
  · have ledger : presence.ledger = false := absent_of_none seen absent
    have noRecords := fresh absent
    have mayMake : ¬ (presence.pair = true ∧ ¬ presence.creating = true) := by
      rintro ⟨pair, unmarked⟩
      rcases before with ⟨_, unpaired⟩ | ⟨marked, _⟩
      · have none_ : presence.pair = false := absent_of_none seen unpaired
        rw [none_] at pair
        cases pair
      · exact unmarked (there_of_some seen marked)
    obtain ⟨generation, choosing⟩ := @serve_agentGeneration _ _ _ _ habits bytes seen formed before
    obtain ⟨_, _, beginning⟩ := finishes_agentGeneration seen before (finishes_served choosing)
    obtain ⟨file, made⟩ := @createLedgerFile_ok generation [] List.nodup_nil
    rw [ledger, if_neg (by simp), noRecords, if_neg (by simp), if_neg mayMake,
      linkedServe_ok (linkedServe_onLinked.trans choosing)]
    exact serve_makeLedger .creating neat unheld beginning absent made
  · have ledger : presence.ledger = true := there_of_some seen there
    have pair : presence.pair = true := there_of_some seen paired
    rw [ledger, if_pos rfl, pair, if_pos rfl]
    exact ⟨tree, rfl⟩

theorem serve_finishCreating (neat : Neat root tree) (formed : isGeneration generation = true)
    (marker : presence.creating = true → presence.ledger = true →
      tree.kindAt (root.place .creating) = some (.file (utf8 generation))) :
    ∃ later, tree.serve habits (finishCreating root.paths presence generation) = (later, .ok ()) := by
  unfold finishCreating
  split
  · next both =>
    have marked : tree.kindAt root.paths.creating = _ := marker both.1 both.2
    rw [serve_ok (serve_readGenerationFile marked formed), if_neg (not_not.mpr rfl)]
    exact serve_finishMarker neat (place_ours root .creating)
  · exact ⟨tree, rfl⟩

/-- A ledger that serves the records is opened. -/
theorem serve_checkForAgent (neat : Neat root tree) (formed : isGeneration generation = true)
    (paired : tree.kindAt (root.place .pair) = some (.file (utf8 generation)))
    (there : tree.kindAt (root.place .ledger) = some (.file content))
    (serves : Serves blake3 engine root tree generation content)
    (each : ∀ id, id ∈ records ↔ Recorded blake3 root tree id)
    (marker : presence.creating = true → presence.ledger = true →
      tree.kindAt (root.place .creating) = some (.file (utf8 generation))) :
    ∃ later ledger, tree.serve habits (checkForAgent engine root.paths presence records) = (later, .ok ledger) := by
  obtain ⟨file, typed, read, sound, rows⟩ := serves
  obtain ⟨clean, cleaned⟩ := @serve_removeStaleTemps _ _ habits neat
  have cleaning := (finishes_served cleaned).reaches
  have same (spot : Place) : clean.kindAt (root.place spot) = tree.kindAt (root.place spot) :=
    kept removeStaleTemps_step place_not_temp (place_ours root spot).not_above cleaning
  have neatClean := neat.reaches (asks_step_mono removeStaleTemps_step fun _ => Temp.ours) cleaning
  have opens := openExisting_of_mirrors sound.mirrors sound.version sound.named formed
  have opened : clean.serve habits (openLedger engine root.paths) = (clean, .ok ⟨file, generation⟩) :=
    serve_openLedger ((same .ledger).trans there) read opens
  have stillPaired : clean.kindAt root.paths.pair = _ := (same .pair).trans paired
  obtain ⟨later, finished⟩ := @serve_finishCreating _ _ presence _ habits neatClean formed
    fun creating ledger => (same .creating).trans (marker creating ledger)
  have complete : (⟨file, generation⟩ : RunLedger).complete records "원장이 바뀌었다" = .ok ⟨file, generation⟩ :=
    complete_eq_ok.mpr ⟨(missing_of_mirrors sound.mirrors).mpr fun id listed => rows id ((each id).mp listed), rfl⟩
  unfold checkForAgent
  rw [serve_ok cleaned, serve_ok opened, serve_ok (serve_readGenerationFile stillPaired formed),
    if_neg (not_not.mpr rfl), serve_ok finished, complete]
  exact ⟨later, _, rfl⟩

/-- On a disk that does not fail an Agent opens the ledger that is there, or makes the one of a new node. -/
theorem serve_openForAgent (node : Node blake3 engine root tree) (unheld : ∀ path, habits.locked path = false)
    (phase : Phase blake3 engine root tree .creating .adopting generation)
    (fresh : tree.kindAt (root.place .ledger) = none → ∀ id, ¬ Recorded blake3 root tree id) :
    ∃ later ledger, tree.linkedServe habits (openForAgent blake3 engine root.paths (.ok bytes)) = (later, .ok ledger) := by
  obtain ⟨presence, detected⟩ := @serve_detect _ _ habits node.neat
  obtain ⟨_, seen⟩ := finishes_detect (finishes_served detected)
  have adopting : presence.adopting = false := absent_of_none seen phase.alone
  obtain ⟨scanned, records, scanned_⟩ := @serve_scanStartRecords _ _ _ habits node.neat node.valid
  have scans := finishes_served scanned_
  have same := fun spot => @scan_keeps blake3 _ _ _ spot scans.reaches
  have each : ∀ id, id ∈ records ↔ Recorded blake3 root tree id := fun id => recorded_of_scan scans node.housed
  have scanning : (scanStartRecords blake3 root.paths.startedDir true).onLinked.Asks
      (LinkedStep root (Uses root creatingSuffix)) :=
    asks_onLinked (asks_step_mono (scanStartRecords_step true) fun _ => Or.inl)
  obtain ⟨⟨neatScanned, validScanned, housedScanned⟩, kept_⟩ :=
    node.around .creating scanning (linkedReaches_onLinked.mpr scans.reaches)
  have stage := phase.stage.same same
  obtain ⟨created, created_⟩ := @serve_createForAgent engine _ _ _ records _ habits bytes _
    neatScanned unheld (seen_after seen same) phase.formed stage fun absent =>
      isEmpty_iff_forall.mpr fun id listed => fresh ((same .ledger).symm.trans absent) id ((each id).mp listed)
  have creates := linkedFinishes_served created_
  obtain ⟨next, formed, marker, paired, content, made, there⟩ :=
    finishes_createForAgent (seen_after seen same) phase.formed stage creates
  have recorded (id : String) : Recorded blake3 root created id ↔ Recorded blake3 root scanned id :=
    recorded_iff fun name record => record_kept (linkedStep_mono createForAgent_step fun _ => Or.inr) record creates.reaches
  have neatCreated := neatScanned.linkedReaches
    (linkedStep_mono createForAgent_step fun _ => makes_ours .creating) creates.reaches
  have eachCreated (id : String) : id ∈ records ↔ Recorded blake3 root created id :=
    (each id).trans ((kept_ id).symm.trans (recorded id).symm)
  have serves : Serves blake3 engine root created next content :=
    (made.serves each).of_records fun id found => (kept_ id).mp ((recorded id).mp found)
  obtain ⟨later, ledger, checked⟩ := @serve_checkForAgent _ _ _ _ presence _ _ habits _ neatCreated formed paired
    there serves eachCreated fun creating stands => by
      rcases marker with gone | ⟨_, marked⟩
      · rcases created_or_same creates with ⟨_, rfl⟩ | ⟨made, _⟩
        · have shown := @absent_of_none _ _ _ .creating (seen_after seen same) gone
          rw [show presence.creating = false from shown] at creating
          cases creating
        · rw [made] at stands
          cases stands
      · exact marked
  unfold openForAgent
  rw [linkedServe_ok (linkedServe_onLinked.trans detected), adopting, if_neg (by simp),
    linkedServe_ok (linkedServe_onLinked.trans scanned_), linkedServe_ok created_, linkedServe_onLinked]
  exact ⟨later, ledger, checked⟩

theorem serve_adoptGeneration (seen : ∀ spot, presence.has spot = (tree.kindAt (root.place spot)).isSome)
    (formed : isGeneration begun = true) (before : Begun root tree .adopting begun) :
    ∃ generation, tree.serve habits (adoptGeneration root.paths (.ok bytes) presence) = (tree, .ok generation) := by
  have written {there : Bool} {path : DiskPath} (reads : there = true → tree.kindAt path = some (.file (utf8 begun))) :
      tree.serve habits (writtenGeneration there path) = (tree, .ok (if there then some begun else none)) := by
    cases there with
    | false => rfl
    | true => exact serve_mapped (serve_readGenerationFile (reads rfl) formed)
  have reads (spot : Place) (there : presence.has spot = true)
      (either : tree.kindAt (root.place spot) = none ∨ tree.kindAt (root.place spot) = some (.file (utf8 begun))) :
      tree.kindAt (root.place spot) = some (.file (utf8 begun)) := by
    refine either.resolve_left fun none_ => ?_
    rw [absent_of_none seen none_] at there
    cases there
  have pair : tree.serve habits (writtenGeneration presence.pair root.paths.pair) = _ :=
    written fun there => reads .pair there (before.elim (fun first => Or.inl first.2) And.right)
  have marker : tree.serve habits (writtenGeneration presence.adopting root.paths.adopting) = _ :=
    written fun there => reads .adopting there (before.imp And.left And.left)
  unfold adoptGeneration
  rw [serve_ok pair, serve_ok marker]
  cases presence.pair with
  | false =>
      cases presence.adopting with
      | false => exact ⟨_, rfl⟩
      | true => exact ⟨begun, rfl⟩
  | true =>
      cases presence.adopting with
      | false => exact ⟨begun, rfl⟩
      | true =>
          exact ⟨begun, by simp⟩

theorem serve_adoptRecords (neat : Neat root tree) (unheld : ∀ path, habits.locked path = false)
    (seen : ∀ spot, presence.has spot = (tree.kindAt (root.place spot)).isSome) (formed : isGeneration begun = true)
    (before : Begun root tree .adopting begun) (absent : tree.kindAt (root.place .ledger) = none) :
    ∃ later outcome, tree.linkedServe habits (adoptRecords engine root.paths (.ok bytes) presence attested records) =
        (later, .ok outcome) ∧ later.kindAt (root.place .adopting) = none ∧ later.kindAt (root.place .ledger) ≠ none := by
  have mayMake : ¬ (presence.pair = true ∧ ¬ presence.adopting = true) := by
    rintro ⟨pair, unmarked⟩
    rcases before with ⟨_, unpaired⟩ | ⟨marked, _⟩
    · have none_ : presence.pair = false := absent_of_none seen unpaired
      rw [none_] at pair
      cases pair
    · exact unmarked (there_of_some seen marked)
  obtain ⟨generation, choosing⟩ := @serve_adoptGeneration _ _ _ _ habits bytes seen formed before
  obtain ⟨_, _, beginning⟩ := finishes_adoptGeneration seen before (finishes_served choosing)
  have distinct (origin : Origin) : ((records.keys.map (AttemptRow.legacy · origin)).map AttemptRow.attemptId).Nodup := by
    rw [List.map_map]
    exact (List.map_id records.keys).symm ▸ Std.ExtTreeMap.nodup_keys
  obtain ⟨file, made⟩ := @createLedgerFile_ok generation _
    (distinct (if attested then .legacyAdoptAttested else .legacyAdopt))
  obtain ⟨later, making⟩ := @serve_makeLedger _ _ _ _ _ _ _ _ engine .adopting neat unheld beginning absent made
  obtain ⟨unmarked, _, ⟨content, _, there⟩, _⟩ := finishes_makeLedger .adopting (linkedFinishes_served making)
  unfold adoptRecords
  rw [if_neg mayMake, linkedServe_ok (linkedServe_onLinked.trans choosing)]
  exact ⟨later, _, linkedServe_mapOk making, unmarked, by rw [there]; simp⟩

theorem serve_resumeAdopting (neat : Neat root tree) (valid : Valid blake3 root tree)
    (housed : tree.kindAt root.paths.startedDir = none → ∀ id, ¬ Recorded blake3 root tree id)
    (seen : ∀ spot, presence.has spot = (tree.kindAt (root.place spot)).isSome) (formed : isGeneration generation = true)
    (marked : tree.kindAt (root.place .adopting) = some (.file (utf8 generation)))
    (paired : tree.kindAt (root.place .pair) = some (.file (utf8 generation)))
    (there : tree.kindAt (root.place .ledger) = some (.file content))
    (serves : Serves blake3 engine root tree generation content) :
    ∃ later outcome, tree.serve habits (resumeAdopting blake3 engine root.paths presence) = (later, .ok outcome) ∧
      later.kindAt (root.place .adopting) = none ∧ later.kindAt (root.place .ledger) ≠ none := by
  obtain ⟨file, typed, read, sound, rows⟩ := serves
  have opens := openExisting_of_mirrors sound.mirrors sound.version sound.named formed
  have opened : tree.serve habits (openLedger engine root.paths) = (tree, .ok ⟨file, generation⟩) :=
    serve_openLedger there read opens
  have pair : presence.pair = true := there_of_some seen paired
  obtain ⟨scanned, records, scanned_⟩ := @serve_scanStartRecords _ _ _ habits neat valid
  have scans := finishes_served scanned_
  have missing : (⟨file, generation⟩ : RunLedger).missing records = .ok none :=
    (missing_of_mirrors sound.mirrors).mpr fun id listed => rows id ((recorded_of_scan scans housed).mp listed)
  have neatScanned := neat.reaches (asks_step_mono (scanStartRecords_step true) fun _ => Residue.ours) scans.reaches
  obtain ⟨later, finished⟩ := @serve_finishMarker _ _ habits _ neatScanned (place_ours root .adopting)
  have finishes := finishes_served finished
  refine ⟨later, .resumed, ?_, finishes_finishMarker finishes, ?_⟩
  · unfold resumeAdopting
    rw [serve_ok (serve_readGenerationFile (show tree.kindAt root.paths.adopting = _ from marked) formed), pair,
      if_neg (by simp), serve_ok (serve_readGenerationFile (show tree.kindAt root.paths.pair = _ from paired) formed),
      serve_ok opened, if_neg (by simp), serve_ok scanned_, missing, given_andThen, if_neg (by simp)]
    exact serve_mapped finished
  · rw [@finishing_keeps _ _ _ .adopting _ (by simp) finishes.reaches, scan_keeps .ledger scans.reaches, there]
    simp

/-- On a disk that does not fail the command adopts the records of a node, or finishes what was begun. -/
theorem serve_adoptLegacyFiles (node : Node blake3 engine root tree) (unheld : ∀ path, habits.locked path = false)
    (phase : Phase blake3 engine root tree .adopting .creating generation)
    (unfinished : tree.kindAt (root.place .adopting) ≠ none ∨ tree.kindAt (root.place .ledger) = none) :
    ∃ later outcome, tree.linkedServe habits (adoptLegacyFiles blake3 engine root.paths (.ok bytes) attested) =
        (later, .ok outcome) ∧ later.kindAt (root.place .adopting) = none ∧ later.kindAt (root.place .ledger) ≠ none := by
  obtain ⟨presence, detected⟩ := @serve_detect _ _ habits node.neat
  obtain ⟨_, seen⟩ := finishes_detect (finishes_served detected)
  unfold adoptLegacyFiles
  rw [linkedServe_ok (linkedServe_onLinked.trans detected)]
  rcases phase.stage with ⟨before, absent⟩ | ⟨marker, paired, content, serves, there⟩
  · have ledger : presence.ledger = false := absent_of_none seen absent
    have creating : presence.creating = false := absent_of_none seen phase.alone
    obtain ⟨scanned, records, scanned_⟩ := @serve_scanStartRecords _ _ _ habits node.neat node.valid
    have scans := finishes_served scanned_
    have same := fun spot => @scan_keeps blake3 _ _ _ spot scans.reaches
    have neatScanned := node.neat.reaches (asks_step_mono (scanStartRecords_step true) fun _ => Residue.ours) scans.reaches
    have begunScanned : Begun root scanned .adopting generation := by
      unfold Begun at before ⊢
      rw [same, same]
      exact before
    rw [ledger, creating, if_neg (by simp), if_neg (by simp), if_neg (by simp),
      linkedServe_ok (linkedServe_onLinked.trans scanned_)]
    exact serve_adoptRecords neatScanned unheld (seen_after seen same) phase.formed begunScanned
      ((same .ledger).trans absent)
  · have marked : tree.kindAt (root.place .adopting) = some (.file (utf8 generation)) := by
      rcases unfinished with begun | absent
      · exact marker.resolve_left begun
      · rw [there] at absent
        cases absent
    have adopting : presence.adopting = true := there_of_some seen marked
    have ledger : presence.ledger = true := there_of_some seen there
    rw [adopting, ledger, if_pos (by simp), linkedServe_onLinked]
    exact serve_resumeAdopting node.neat node.valid node.housed seen phase.formed marked paired there serves

end Serving

end Gputeer.Agent
