import Gputeer.Agent.LedgerSteps

/-! The start records of a node: what a scan of them finds, and what one more leaves, wherever it is stopped. Then the
steps that an Agent and the command make a ledger by, and how far one is where they are stopped. -/

namespace Gputeer.Agent

open Checkpoint Dialogue FileTree Text Bytes RealRoot

variable {blake3 : List UInt8 → Vector UInt8 32} {root : RealRoot} {tree later : FileTree} {path : DiskPath}
  {marker spot : Place} {name id suffix generation : String} {habits : Habits} {rows : List AttemptRow}
  {file : LedgerFile}

section Scanning

variable {text other : String} {body content : List UInt8} {entry : StartEntry} {entries : List StartEntry}
  {names : List String} {removes : Bool} {ids : AttemptIds}

/-- An attempt that can be recorded: on one line. -/
structure RecordId (id : String) : Prop where
  filled : id ≠ ""
  oneLine : '\n' ∉ id.toList

/-- The start of this attempt is recorded. -/
structure Recorded (blake3 : List UInt8 → Vector UInt8 32) (root : RealRoot) (tree : FileTree) (id : String) : Prop where
  valid : RecordId id
  there : tree.kindAt (root.started (startedAttemptName blake3 id)) = some (.file (utf8 (startRecord id)))

theorem startRecord_injective (same : startRecord id = startRecord other) : id = other := by
  unfold startRecord at same
  rw [← String.toList_inj, String.toList_append, String.toList_append, String.toList_append, String.toList_append,
    List.append_cancel_right_eq, List.append_cancel_left_eq, String.toList_inj] at same
  exact same

theorem recordedAttempt_eq_some : recordedAttempt text = some id ↔ text = startRecord id ∧ RecordId id := by
  unfold recordedAttempt
  rw [Option.filter_eq_some_iff, Option.bind_eq_some_iff]
  constructor
  · rintro ⟨⟨rest, begins, ends⟩, valid⟩
    rw [eq_of_stripPrefix begins, eq_of_stripSuffix ends, ← String.append_assoc]
    simp only [Bool.and_eq_true, decide_eq_true_eq, Bool.not_eq_true', List.contains_eq_mem,
      decide_eq_false_iff_not] at valid
    exact ⟨rfl, valid.1, valid.2⟩
  · rintro ⟨rfl, valid⟩
    refine ⟨⟨id ++ "\n", ?_, stripSuffix_append⟩, ?_⟩
    · unfold startRecord
      rw [String.append_assoc]
      exact stripPrefix_append
    · simp [valid.filled, valid.oneLine]

theorem readRecord_eq_ok : readRecord blake3 path name body = .ok id ↔
    body = utf8 (startRecord id) ∧ RecordId id ∧ startedAttemptName blake3 id = name := by
  constructor
  · intro read
    obtain ⟨text, decoded, rest⟩ := Except.bind_eq_ok.mp read
    obtain ⟨found, parsed, last⟩ := Except.bind_eq_ok.mp rest
    obtain ⟨_, named, same⟩ := Except.bind_eq_ok.mp last
    cases same
    rw [Except.ofOption_eq_ok, fromUTF8_eq_some] at decoded
    rw [Except.ofOption_eq_ok, recordedAttempt_eq_some] at parsed
    exact ⟨parsed.1 ▸ decoded, parsed.2, Except.ensure_eq_ok.mp named⟩
  · rintro ⟨rfl, valid, named⟩
    refine Except.bind_eq_ok.mpr ⟨startRecord id, Except.ofOption_eq_ok.mpr (fromUTF8_eq_some.mpr rfl), ?_⟩
    refine Except.bind_eq_ok.mpr ⟨id, Except.ofOption_eq_ok.mpr (recordedAttempt_eq_some.mpr ⟨rfl, valid⟩), ?_⟩
    exact Except.bind_eq_ok.mpr ⟨(), Except.ensure_eq_ok.mpr named, rfl⟩

/-- What the scan makes of a file of this name. -/
inductive EntryOf (blake3 : List UInt8 → Vector UInt8 32) (root : RealRoot) (tree : FileTree) (name : String) :
    StartEntry → Prop
  | pair (named : name = pairName) : EntryOf blake3 root tree name .pair
  | residue {target : String} (left : residueTarget name = some target) :
      EntryOf blake3 root tree name (.residue (root.started name))
  | record {id : String} (named : name = startedAttemptName blake3 id) (recorded : Recorded blake3 root tree id) :
      EntryOf blake3 root tree name (.record id)

theorem finishes_scanEntry (ended : tree.Finishes (scanEntry blake3 root.paths.startedDir name) later (.ok entry)) :
    later = tree ∧ EntryOf blake3 root tree name entry := by
  unfold scanEntry at ended
  obtain ⟨asked, found, asking, rest⟩ := Finishes.of_bind ended
  obtain ⟨_, rfl⟩ := Finishes.of_question asking
  rcases found with failure | (_ | _)
  · cases (Finishes.of_pure rest).2
  · dsimp only at rest
    split at rest
    · next named =>
      obtain ⟨rfl, same⟩ := Finishes.of_pure rest
      cases same
      exact ⟨rfl, .pair named⟩
    · split at rest
      · next target left =>
        split at rest
        · obtain ⟨rfl, same⟩ := Finishes.of_pure rest
          cases same
          exact ⟨rfl, .residue left⟩
        · cases (Finishes.of_pure rest).2
      · split at rest
        · cases (Finishes.of_pure rest).2
        · obtain ⟨read, body, reading, last⟩ := Finishes.of_bind rest
          obtain ⟨said, rfl⟩ := Finishes.of_question reading
          cases body with
          | error failure => cases (Finishes.of_pure last).2
          | ok body =>
              obtain ⟨rfl, same⟩ := Finishes.of_pure last
              obtain ⟨id, parsed, rfl⟩ := Except.map_eq_ok.mp same.symm
              obtain ⟨rfl, valid, rfl⟩ := readRecord_eq_ok.mp parsed
              exact ⟨rfl, .record rfl ⟨valid, Honest.read said⟩⟩
  · cases (Finishes.of_pure rest).2

theorem finishes_scanEntries (ended : tree.Finishes (scanEntries blake3 root.paths.startedDir names) later (.ok entries)) :
    later = tree ∧ List.Forall₂ (EntryOf blake3 root tree) names entries := by
  induction names generalizing entries later with
  | nil =>
      obtain ⟨rfl, same⟩ := Finishes.of_pure ended
      cases same
      exact ⟨rfl, .nil⟩
  | cons name names ih =>
      obtain ⟨between, entry, first, rest⟩ := Finishes.of_andThen ended
      obtain ⟨rfl, right⟩ := finishes_scanEntry first
      obtain ⟨scanned, others, second, last⟩ := Finishes.of_andThen rest
      obtain ⟨rfl, each⟩ := ih second
      obtain ⟨rfl, same⟩ := Finishes.of_pure last
      cases same
      exact ⟨rfl, .cons right each⟩

theorem mem_foldl_insert {listed : List String} {table : AttemptIds} :
    id ∈ listed.foldl (fun ids id => ids.insert id ()) table ↔ id ∈ listed ∨ id ∈ table := by
  induction listed generalizing table with
  | nil => simp
  | cons first listed ih =>
      rw [List.foldl_cons, ih, Std.ExtTreeMap.mem_insert, List.mem_cons, compare_eq_iff_eq]
      constructor
      · rintro (later | rfl | before)
        · exact Or.inl (Or.inr later)
        · exact Or.inl (Or.inl rfl)
        · exact Or.inr before
      · rintro ((rfl | later) | before)
        · exact Or.inr (Or.inl rfl)
        · exact Or.inl later
        · exact Or.inr (Or.inr before)

theorem mem_idsOf : id ∈ idsOf entries ↔ StartEntry.record id ∈ entries := by
  unfold idsOf
  rw [mem_foldl_insert, List.mem_filterMap]
  constructor
  · rintro (⟨entry, listed, same⟩ | no)
    · cases entry with
      | record found =>
          cases same
          exact listed
      | pair => cases same
      | residue path => cases same
    · simp at no
  · intro listed
    exact Or.inl ⟨_, listed, rfl⟩

/-- Each recorded attempt is found once more by its name. -/
theorem mem_ids_iff (each : List.Forall₂ (EntryOf blake3 root tree) names entries)
    (named : names.Perm (tree.childNames root.paths.startedDir)) : id ∈ idsOf entries ↔ Recorded blake3 root tree id := by
  rw [mem_idsOf]
  constructor
  · intro listed
    obtain ⟨name, _, right⟩ := List.Forall₂.exists_left each listed
    cases right with
    | record _ recorded => exact recorded
  · intro recorded
    have inside : startedAttemptName blake3 id ∈ names := by
      refine named.mem_iff.mpr (mem_childNames.mpr ?_)
      rw [show root.paths.startedDir ++ [startedAttemptName blake3 id] = root.started _ from rfl, recorded.there]
      rfl
    obtain ⟨entry, listed, right⟩ := List.Forall₂.exists_right each inside
    have record := @isRecordName_started blake3 id
    cases right with
    | pair same =>
        rw [same, pair_not_record] at record
        cases record
    | residue left =>
        rw [residueTarget_of_isRecordName record] at left
        cases left
    | record same found =>
        have content := found.there
        rw [← same, recorded.there, Option.some.injEq, DiskEntry.file.injEq] at content
        rw [startRecord_injective (utf8_injective content)]
        exact listed

/-- The scan finds the recorded attempts. -/
theorem finishes_scanStartRecords
    (ended : tree.Finishes (scanStartRecords blake3 root.paths.startedDir removes) later (.ok ids)) :
    (tree.kindAt root.paths.startedDir = none ∧ ids = ∅) ∨
      tree.kindAt root.paths.startedDir = some .folder ∧ ∀ id, id ∈ ids ↔ Recorded blake3 root tree id := by
  unfold scanStartRecords at ended
  obtain ⟨asked, found, asking, rest⟩ := Finishes.of_bind ended
  obtain ⟨said, rfl⟩ := Finishes.of_question asking
  rcases found with (_ | why) | names
  · obtain ⟨_, same⟩ := Finishes.of_pure rest
    cases same
    exact Or.inl ⟨Honest.list_missing said, rfl⟩
  · cases (Finishes.of_pure rest).2
  · obtain ⟨folder, named⟩ := Honest.list said
    obtain ⟨scanned, entries, scanning, last⟩ := Finishes.of_andThen rest
    obtain ⟨rfl, each⟩ := finishes_scanEntries scanning
    have whole : ids = idsOf entries := by
      dsimp only at last
      split at last
      · obtain ⟨_, _, _, syncing⟩ := Finishes.of_andThen last
        obtain ⟨_, _, _, ending⟩ := Finishes.of_andThen syncing
        cases (Finishes.of_pure ending).2
        rfl
      · cases (Finishes.of_pure last).2
        rfl
    refine Or.inr ⟨folder, fun id => ?_⟩
    rw [whole]
    exact mem_ids_iff each named

/-- What is among the start records is what was written there. -/
def Valid (blake3 : List UInt8 → Vector UInt8 32) (root : RealRoot) (tree : FileTree) : Prop :=
  ∀ name content, isRecordName name = true → tree.kindAt (root.started name) = some (.file content) →
    ∃ id, RecordId id ∧ name = startedAttemptName blake3 id ∧ content = utf8 (startRecord id)

theorem serve_scanEntry (neat : Neat root tree) (valid : Valid blake3 root tree)
    (there : (tree.kindAt (root.started name)).isSome) :
    ∃ entry, tree.serve habits (scanEntry blake3 root.paths.startedDir name) = (tree, .ok entry) := by
  have allowed := neat.names name there
  obtain ⟨content, file⟩ : ∃ content, tree.kindAt (root.paths.startedDir ++ [name]) = some (.file content) := by
    rcases neat.isFile (ours_started.mpr allowed) with none_ | file
    · rw [none_] at there
      cases there
    · exact file
  have asked : tree.serve habits (FileQuestion.kind (root.paths.startedDir ++ [name])).ask = (tree, .ok .file) :=
    serve_asked trivial (by simp only [answer, file])
  unfold scanEntry
  dsimp only
  rw [serve_then asked]
  dsimp only
  by_cases pair : name = pairName
  · rw [if_pos pair]
    exact ⟨_, rfl⟩
  · rw [if_neg pair]
    cases left : residueTarget name with
    | some target =>
        dsimp only
        rcases allowed with same | record | ⟨found, same, fits⟩
        · exact absurd same pair
        · rw [residueTarget_of_isRecordName record] at left
          cases left
        · rw [left, Option.some.injEq] at same
          rw [if_pos (same ▸ fits)]
          exact ⟨_, rfl⟩
    | none =>
        dsimp only
        rcases allowed with same | record | ⟨found, same, _⟩
        · exact absurd same pair
        · obtain ⟨id, valid, named, rfl⟩ := valid name content record file
          have read : tree.serve habits (FileQuestion.read (root.paths.startedDir ++ [name])).ask =
              (tree, .ok (utf8 (startRecord id))) := serve_asked trivial (by simp only [answer, file])
          rw [if_neg (by simp [record]), serve_then read]
          refine ⟨.record id, Prod.ext rfl ?_⟩
          exact Except.map_eq_ok.mpr ⟨id, readRecord_eq_ok.mpr ⟨rfl, valid, named.symm⟩, rfl⟩
        · rw [left] at same
          cases same

theorem serve_scanEntries (neat : Neat root tree) (valid : Valid blake3 root tree)
    (there : ∀ name ∈ names, (tree.kindAt (root.started name)).isSome) :
    ∃ entries, tree.serve habits (scanEntries blake3 root.paths.startedDir names) = (tree, .ok entries) := by
  induction names with
  | nil => exact ⟨[], rfl⟩
  | cons name names ih =>
      rw [List.forall_mem_cons] at there
      obtain ⟨entry, first⟩ := @serve_scanEntry _ _ _ _ habits neat valid there.1
      obtain ⟨entries, second⟩ := ih there.2
      unfold scanEntries
      rw [serve_ok first, serve_ok second]
      exact ⟨entry :: entries, rfl⟩

theorem serve_removeResidue {residue : List DiskPath} (files : ∀ path ∈ residue, tree.kindAt path ≠ some .folder) :
    ∃ later, tree.serve habits (removeResidue residue) = (later, .ok ()) := by
  induction residue generalizing tree with
  | nil => exact ⟨tree, rfl⟩
  | cons path residue ih =>
      rw [List.forall_mem_cons] at files
      unfold removeResidue
      cases there : tree.kindAt path with
      | none =>
          have asked : tree.serve habits (FileQuestion.remove path).ask = (tree, .error .notFound) := by
            unfold FileTree.serve
            rw [serve_question]
            simp only [answer, there, effect]
          rw [serve_then asked]
          exact ih files.2
      | some entry =>
          cases entry with
          | folder => exact absurd there files.1
          | file content =>
              rw [serve_then (serve_remove there)]
              refine ih fun other listed folder => files.2 other listed ?_
              rw [kindAt_removeFile] at folder
              split at folder
              · cases folder
              · exact folder

theorem serve_scanStartRecords (neat : Neat root tree) (valid : Valid blake3 root tree) :
    ∃ later ids, tree.serve habits (scanStartRecords blake3 root.paths.startedDir true) = (later, .ok ids) := by
  unfold scanStartRecords
  rcases neat.started with none_ | folder
  · have asked : tree.serve habits (FileQuestion.list root.paths.startedDir).ask = (tree, .error .notFound) :=
      serve_asked trivial (by simp only [answer, none_])
    rw [serve_then asked]
    exact ⟨tree, ∅, rfl⟩
  · have asked : tree.serve habits (FileQuestion.list root.paths.startedDir).ask =
        (tree, .ok (habits.shuffle (tree.childNames root.paths.startedDir))) :=
      serve_asked trivial (by simp only [answer, folder])
    have perm := habits.shuffle_perm (tree.childNames root.paths.startedDir)
    obtain ⟨entries, scanned⟩ := @serve_scanEntries _ _ _ habits
      (habits.shuffle (tree.childNames root.paths.startedDir)) neat valid fun name listed =>
        mem_childNames.mp (perm.mem_iff.mp listed)
    obtain ⟨_, each⟩ := finishes_scanEntries (finishes_served scanned)
    have files : ∀ path ∈ entries.filterMap StartEntry.residuePath, tree.kindAt path ≠ some .folder := by
      intro path listed
      obtain ⟨entry, inside, residue⟩ := List.mem_filterMap.mp listed
      obtain ⟨name, listedName, right⟩ := List.Forall₂.exists_left each inside
      cases right with
      | pair => cases residue
      | record => cases residue
      | residue left =>
          cases residue
          have there := mem_childNames.mp (perm.mem_iff.mp listedName)
          exact neat.files _ (ours_started.mpr (neat.names name there))
    obtain ⟨removed, done⟩ := @serve_removeResidue _ habits _ files
    rw [serve_then asked]
    dsimp only
    rw [serve_ok scanned]
    split
    · rw [serve_ok done]
      exact ⟨removed, idsOf entries, rfl⟩
    · exact ⟨tree, idsOf entries, rfl⟩

end Scanning

section Recording

theorem record_not_touched {dir : DiskPath} {once : String} (record : isRecordName name = true)
    (ours : dir ++ [once] ≠ root.started name) : ¬ Touched dir once (root.started name) := by
  have noDot := noDot_of_isRecordName record
  rintro (same | same | same)
  · exact ours same.symm
  · have last := (List.append_inj' same rfl).2
    rw [List.cons.injEq] at last
    exact noDot (by rw [last.1]; simp)
  · have last := (List.append_inj' same rfl).2
    rw [List.cons.injEq] at last
    exact noDot (by rw [last.1]; simp)

theorem record_off : ¬ root.started name <+: root.paths.startedDir := fun above => by
  have := above.length_le
  simp [length_started, paths, length_sibling] at this

theorem recorded_iff (same : ∀ name, isRecordName name = true →
      later.kindAt (root.started name) = tree.kindAt (root.started name)) :
    Recorded blake3 root later id ↔ Recorded blake3 root tree id := by
  constructor
  · rintro ⟨valid, there⟩
    exact ⟨valid, by rw [← same _ isRecordName_started, there]⟩
  · rintro ⟨valid, there⟩
    exact ⟨valid, by rw [same _ isRecordName_started, there]⟩

theorem record_step : (recordAttemptStartedHere blake3 root.paths id).Asks
    (Step root (Touched root.paths.startedDir (startedAttemptName blake3 id))) :=
  writeOnceIn_step once_record (List.prefix_refl _)

theorem touched_record_place : ¬ Touched root.paths.startedDir (startedAttemptName blake3 id) (root.place spot) := by
  have here (name : String) (same : root.place spot = root.started name) : pairName = name := by
    cases spot with
    | pair => exact started_inj.mp same
    | ledger => exact absurd same sibling_ne_started
    | adopting => exact absurd same sibling_ne_started
    | creating => exact absurd same sibling_ne_started
  have none_ := residueTarget_pair
  rintro (same | same | same)
  · have record := @isRecordName_started blake3 id
    rw [← here _ same, pair_not_record] at record
    cases record
  · rw [here _ same, residueTarget_tmp] at none_
    cases none_
  · rw [here _ same, residueTarget_lock] at none_
    cases none_

/-- Wherever the recording of an attempt is stopped: one more is recorded at most, and only its file is touched. -/
theorem reaches_record (neat : Neat root tree) (valid : Valid blake3 root tree) (named : RecordId id)
    (reached : tree.Reaches (recordAttemptStartedHere blake3 root.paths id) later) :
    Valid blake3 root later ∧ (∀ other, Recorded blake3 root tree other → Recorded blake3 root later other) ∧
      (∀ other, Recorded blake3 root later other → Recorded blake3 root tree other ∨ other = id) ∧
      ((∀ name, isRecordName name = true → later.kindAt (root.started name) = tree.kindAt (root.started name)) ∨
        later.kindAt root.paths.startedDir = some .folder) := by
  obtain ⟨fresh, stays, placed⟩ := reaches_writeOnceIn once_record reached
  have others (name : String) (record : isRecordName name = true) (apart : name ≠ startedAttemptName blake3 id) :
      later.kindAt (root.started name) = tree.kindAt (root.started name) :=
    kept record_step (record_not_touched record fun same => apart (started_inj.mp same).symm) record_off reached
  have ours : root.Ours (root.started (startedAttemptName blake3 id)) :=
    ours_started.mpr (Or.inr (Or.inl isRecordName_started))
  refine ⟨fun name content record there => ?_, fun other recorded => ⟨recorded.valid, ?_⟩, fun other recorded => ?_,
    placed.imp_left fun same name record => ?_⟩
  · by_cases mine : name = startedAttemptName blake3 id
    · subst mine
      rcases neat.isFile ours with none_ | ⟨before, file⟩
      · rcases fresh none_ with still | whole
        · rw [show later.kindAt (root.started _) = none from still] at there
          cases there
        · rw [show later.kindAt (root.started _) = _ from whole] at there
          cases there
          exact ⟨id, named, rfl, rfl⟩
      · rw [show later.kindAt (root.started _) = _ from stays before file] at there
        cases there
        exact valid _ _ record file
    · rw [others name record mine] at there
      exact valid name content record there
  · by_cases mine : startedAttemptName blake3 other = startedAttemptName blake3 id
    · have there := recorded.there
      rw [mine] at there ⊢
      exact stays _ there
    · exact (others _ isRecordName_started mine).trans recorded.there
  · by_cases mine : startedAttemptName blake3 other = startedAttemptName blake3 id
    · rcases neat.isFile ours with none_ | ⟨before, file⟩
      · have there := recorded.there
        rw [mine] at there
        rcases fresh none_ with still | whole
        · rw [show later.kindAt (root.started _) = none from still] at there
          cases there
        · rw [show later.kindAt (root.started _) = _ from whole, Option.some.injEq, DiskEntry.file.injEq] at there
          exact Or.inr (startRecord_injective (utf8_injective there)).symm
      · refine Or.inl ⟨recorded.valid, ?_⟩
        have there := recorded.there
        rw [mine] at there ⊢
        rw [show later.kindAt (root.started _) = _ from stays before file] at there
        exact file.trans there
    · exact Or.inl ⟨recorded.valid, (others _ isRecordName_started mine).symm.trans recorded.there⟩
  · by_cases mine : name = startedAttemptName blake3 id
    · subst mine
      exact same
    · exact others name record mine

theorem recorded_of_finishes (named : RecordId id)
    (ended : tree.Finishes (recordAttemptStartedHere blake3 root.paths id) later (.ok ())) :
    Recorded blake3 root later id :=
  ⟨named, (finishes_writeOnceIn once_record ended).1⟩

/-- On a disk that does not fail an attempt can be recorded. -/
theorem serve_record {habits : Habits} (neat : Neat root tree) (unheld : ∀ path, habits.locked path = false)
    (fresh : tree.kindAt (root.started (startedAttemptName blake3 id)) = none) :
    ∃ later, tree.serve habits (recordAttemptStartedHere blake3 root.paths id) = (later, .ok ()) := by
  refine serve_writeOnceIn once_record unheld (fun part above => ?_)
    (fun path touched => neat.files path (touched_started (Or.inr isRecordName_started) touched)) (Or.inl fresh)
  rcases List.prefix_concat_iff.mp above with rfl | inside
  · exact neat.started
  · exact Or.inr (neat.above part inside)

end Recording

section Markers

/-- The marker comes first. -/
def Begun (root : RealRoot) (tree : FileTree) (marker : Place) (generation : String) : Prop :=
  (tree.kindAt (root.place marker) = none ∧ tree.kindAt (root.place .pair) = none) ∨
    tree.kindAt (root.place marker) = some (.file (utf8 generation)) ∧
      (tree.kindAt (root.place .pair) = none ∨ tree.kindAt (root.place .pair) = some (.file (utf8 generation)))

/-- The paths that are touched when the marker and the pair are written. -/
def Marking (root : RealRoot) (suffix : String) (path : DiskPath) : Prop :=
  Touched root.parent (root.name ++ suffix) path ∨ Touched root.paths.startedDir pairName path

theorem once_of_marker (of : MarkerOf marker suffix) : OnceName (root.name ++ suffix) := by
  cases of with
  | creating => exact once_marker root.plain (Or.inl rfl)
  | adopting => exact once_marker root.plain (Or.inr rfl)

theorem begins_of_marker (of : MarkerOf marker suffix) : ".run-ledger.".toList <+: suffix.toList := by
  cases of <;> decide

theorem marking_ours (of : MarkerOf marker suffix) (marking : Marking root suffix path) : root.Ours path :=
  marking.elim (touched_sibling (begins_of_marker of)) (touched_started (Or.inl rfl))

theorem marking_place (of : MarkerOf marker suffix) (marking : Marking root suffix (root.place spot)) :
    spot = marker ∨ spot = .pair :=
  marking.imp (touched_marker of) touched_pair

theorem writeMarkers_eq : writeMarkers root.paths (root.sibling suffix) generation =
    (writeOnceValue root.parent (root.name ++ suffix) generation).andThen fun _ =>
      writeOnceValue root.paths.startedDir pairName generation := by
  unfold writeMarkers
  rw [parentDir_paths, given_andThen, fileName_sibling, given_andThen]

theorem marker_step (of : MarkerOf marker suffix) :
    (writeOnceValue root.parent (root.name ++ suffix) generation).Asks
      (Step root (Touched root.parent (root.name ++ suffix))) :=
  writeOnceIn_step (once_of_marker of) parent_above

theorem pair_step : (writeOnceValue root.paths.startedDir pairName generation).Asks
    (Step root (Touched root.paths.startedDir pairName)) :=
  writeOnceIn_step once_pair (List.prefix_refl _)

theorem writeMarkers_step (of : MarkerOf marker suffix) :
    (writeMarkers root.paths (root.sibling suffix) generation).Asks (Step root (Marking root suffix)) := by
  rw [writeMarkers_eq]
  exact Asks.andThen (asks_step_mono (marker_step of) fun _ => Or.inl) fun _ =>
    asks_step_mono pair_step fun _ => Or.inr

theorem marker_ne_pair (of : MarkerOf marker suffix) : marker ≠ .pair := by
  cases of <;> simp

theorem marker_keeps_pair (of : MarkerOf marker suffix)
    (reached : tree.Reaches (writeOnceValue root.parent (root.name ++ suffix) generation) later) :
    later.kindAt (root.place .pair) = tree.kindAt (root.place .pair) :=
  kept (marker_step of) (fun touched => marker_ne_pair of (touched_marker of touched).symm)
    (place_ours root .pair).not_above reached

theorem pair_keeps_marker (of : MarkerOf marker suffix)
    (reached : tree.Reaches (writeOnceValue root.paths.startedDir pairName generation) later) :
    later.kindAt (root.place marker) = tree.kindAt (root.place marker) :=
  kept pair_step (fun touched => marker_ne_pair of (touched_pair touched)) (place_ours root marker).not_above reached

theorem finishes_writeMarkers (of : MarkerOf marker suffix)
    (ended : tree.Finishes (writeMarkers root.paths (root.sibling suffix) generation) later (.ok ())) :
    later.kindAt (root.place marker) = some (.file (utf8 generation)) ∧
      later.kindAt (root.place .pair) = some (.file (utf8 generation)) ∧
        later.kindAt root.paths.startedDir = some .folder := by
  rw [writeMarkers_eq] at ended
  obtain ⟨between, _, marking, pairing⟩ := Finishes.of_andThen ended
  obtain ⟨marked, _⟩ := finishes_writeOnceIn (once_of_marker of) marking
  obtain ⟨paired, folder⟩ := finishes_writeOnceIn once_pair pairing
  refine ⟨?_, paired, folder⟩
  rw [pair_keeps_marker of pairing.reaches, place_marker of]
  exact marked

/-- What is begun stays so, wherever it is stopped. -/
theorem reaches_writeMarkers (of : MarkerOf marker suffix) (begun : Begun root tree marker generation)
    (reached : tree.Reaches (writeMarkers root.paths (root.sibling suffix) generation) later) :
    Begun root later marker generation := by
  rw [writeMarkers_eq] at reached
  rcases Reaches.of_andThen reached with marking | ⟨between, _, marking, pairing⟩
  · obtain ⟨fresh, stays, _⟩ := reaches_writeOnceIn (once_of_marker of) marking
    rw [show root.parent ++ [root.name ++ suffix] = root.place marker from (place_marker of).symm] at fresh stays
    unfold Begun at begun ⊢
    rw [marker_keeps_pair of marking]
    rcases begun with ⟨absent, unpaired⟩ | ⟨there, pair⟩
    · rcases fresh absent with none_ | whole
      · exact Or.inl ⟨none_, unpaired⟩
      · exact Or.inr ⟨whole, Or.inl unpaired⟩
    · exact Or.inr ⟨stays _ there, pair⟩
  · obtain ⟨marked, _⟩ := finishes_writeOnceIn (once_of_marker of) marking
    rw [show root.parent ++ [root.name ++ suffix] = root.place marker from (place_marker of).symm] at marked
    obtain ⟨fresh, stays, _⟩ := reaches_writeOnceIn once_pair pairing
    rw [show root.paths.startedDir ++ [pairName] = root.place .pair from rfl,
      marker_keeps_pair of marking.reaches] at fresh stays
    refine Or.inr ⟨(pair_keeps_marker of pairing).trans marked, ?_⟩
    rcases begun with ⟨_, unpaired⟩ | ⟨_, unpaired | paired⟩
    · exact fresh unpaired
    · exact fresh unpaired
    · exact Or.inr (stays _ paired)

theorem serve_writeMarkers (of : MarkerOf marker suffix) (neat : Neat root tree)
    (unheld : ∀ path, habits.locked path = false) (begun : Begun root tree marker generation) :
    ∃ later, tree.serve habits (writeMarkers root.paths (root.sibling suffix) generation) = (later, .ok ()) := by
  rw [writeMarkers_eq]
  have marker_ : tree.kindAt (root.place marker) = none ∨
      tree.kindAt (root.place marker) = some (.file (utf8 generation)) :=
    begun.imp And.left And.left
  have pair_ : tree.kindAt (root.place .pair) = none ∨
      tree.kindAt (root.place .pair) = some (.file (utf8 generation)) :=
    begun.elim (fun first => Or.inl first.2) And.right
  rw [place_marker of] at marker_
  obtain ⟨marked, marking⟩ := serve_writeOnceIn (once_of_marker of) unheld
    (fun part above => Or.inr (neat.above part above))
    (fun path touched => neat.files path (touched_sibling (begins_of_marker of) touched)) marker_
  have reached := (finishes_served marking).reaches
  have neatMarked := neat.reaches (asks_step_mono (marker_step of) fun _ =>
    touched_sibling (begins_of_marker of)) reached
  rw [← marker_keeps_pair of reached] at pair_
  obtain ⟨paired, pairing⟩ := @serve_writeOnceIn marked root.paths.startedDir _ _ _ _ _ once_pair unheld
    (fun part above => by
      rcases List.prefix_concat_iff.mp above with rfl | inside
      · exact neatMarked.started
      · exact Or.inr (neatMarked.above part inside))
    (fun path touched => neatMarked.files path (touched_started (Or.inl rfl) touched)) pair_
  exact ⟨paired, (serve_ok marking).trans pairing⟩

end Markers

section Making

variable {engine : LedgerEngine}

/-- The paths that are touched when a ledger is made. -/
def Makes (root : RealRoot) (suffix : String) (path : DiskPath) : Prop := Marking root suffix path ∨ root.Temp path

theorem makes_ours (of : MarkerOf marker suffix) (makes : Makes root suffix path) : root.Ours path :=
  makes.elim (marking_ours of) Temp.ours

theorem makes_place (of : MarkerOf marker suffix) (makes : Makes root suffix (root.place spot)) :
    spot = marker ∨ spot = .pair :=
  makes.elim (marking_place of) fun temp => absurd temp place_not_temp

/-- No start record is touched. -/
theorem record_not_made (record : isRecordName name = true) : ¬ Makes root suffix (root.started name) := by
  rintro ((marker | pair) | temp)
  · exact record_not_touched record sibling_ne_started marker
  · refine record_not_touched record (fun same => ?_) pair
    have named := started_inj.mp (show root.started pairName = root.started name from same)
    rw [← named, pair_not_record] at record
    cases record
  · exact (@record_spared _ _ .ledger record).1 temp

theorem makeLedger_step (of : MarkerOf marker suffix) :
    (makeLedger engine root.paths (root.sibling suffix) generation rows).Asks (LinkedStep root (Makes root suffix)) := by
  refine Asks.andThen (asks_onLinked (asks_step_mono (writeMarkers_step of) fun _ => Or.inl)) fun _ => ?_
  refine Asks.andThen (linkedStep_mono createLedgerOnDisk_step fun _ => Or.inr) fun _ => ?_
  refine asks_onLinked (asks_touches (Asks.mono finishMarker_touches fun asked touches => ?_))
  refine ⟨fun path changes => ?_, touches.2⟩
  exact Or.inl (Or.inl (Or.inl (touches.1 path changes)))

/-- How far a ledger is: its marker stands at least until it is whole. -/
def Stage (root : RealRoot) (tree : FileTree) (marker : Place) (generation : String) (whole : List UInt8 → Prop) : Prop :=
  (Begun root tree marker generation ∧ tree.kindAt (root.place .ledger) = none) ∨
    (tree.kindAt (root.place marker) = none ∨ tree.kindAt (root.place marker) = some (.file (utf8 generation))) ∧
      tree.kindAt (root.place .pair) = some (.file (utf8 generation)) ∧
        ∃ content, whole content ∧ tree.kindAt (root.place .ledger) = some (.file content)

theorem marking_keeps_ledger (of : MarkerOf marker suffix)
    (reached : tree.Reaches (writeMarkers root.paths (root.sibling suffix) generation) later) :
    later.kindAt (root.place .ledger) = tree.kindAt (root.place .ledger) := by
  refine kept (writeMarkers_step of) (fun marking => ?_) (place_ours root .ledger).not_above reached
  rcases marking_place of marking with same | same
  · cases of <;> cases same
  · cases same

theorem creating_keeps (apart : spot ≠ .ledger)
    (reached : tree.LinkedReaches (createLedgerOnDisk engine root.paths generation rows) later) :
    later.kindAt (root.place spot) = tree.kindAt (root.place spot) := by
  refine linkedKept createLedgerOnDisk_step place_not_temp (place_ours root spot).not_above (fun same => ?_) reached
  exact apart (place_inj.mp same)

theorem finishing_keeps (apart : spot ≠ marker)
    (reached : tree.Reaches (finishMarker root.paths (root.place marker)) later) :
    later.kindAt (root.place spot) = tree.kindAt (root.place spot) :=
  kindAt_touches finishMarker_touches (fun same => apart (place_inj.mp same)) reached

/-- Wherever the making of a ledger is stopped. -/
theorem reaches_makeLedger (of : MarkerOf marker suffix) (begun : Begun root tree marker generation)
    (absent : tree.kindAt (root.place .ledger) = none)
    (reached : tree.LinkedReaches (makeLedger engine root.paths (root.sibling suffix) generation rows) later) :
    Stage root later marker generation (Complete engine generation rows) := by
  have marker_ne : marker ≠ .ledger := by cases of <;> simp
  rcases Reaches.of_andThen reached with marking | ⟨marked, _, marking, creating⟩
  · have ran := linkedReaches_onLinked.mp marking
    exact Or.inl ⟨reaches_writeMarkers of begun ran, (marking_keeps_ledger of ran).trans absent⟩
  · have ran := linkedFinishes_onLinked.mp marking
    obtain ⟨marker_, pair_, _⟩ := finishes_writeMarkers of ran
    have absentMarked := (marking_keeps_ledger of ran.reaches).trans absent
    rcases Reaches.of_andThen creating with stopped | ⟨made, _, ended, finishing⟩
    · have stillMarker := (creating_keeps marker_ne stopped).trans marker_
      have stillPair := (creating_keeps (by simp) stopped).trans pair_
      rcases reaches_createLedgerOnDisk stopped with same | ⟨_, content, complete, there⟩
      · exact Or.inl ⟨Or.inr ⟨stillMarker, Or.inr stillPair⟩, same.trans absentMarked⟩
      · exact Or.inr ⟨Or.inr stillMarker, stillPair, content, complete, there⟩
    · obtain ⟨content, complete, there⟩ := finishes_createLedgerOnDisk ended
      have stillMarker := (creating_keeps marker_ne ended.reaches).trans marker_
      have stillPair := (creating_keeps (by simp) ended.reaches).trans pair_
      have last := linkedReaches_onLinked.mp finishing
      rw [← place_marker of] at last
      refine Or.inr ⟨?_, (finishing_keeps (marker_ne_pair of).symm last).trans stillPair, content, complete,
        (finishing_keeps marker_ne.symm last).trans there⟩
      rcases reaches_finishMarker last with same | gone
      · exact Or.inr (same.trans stillMarker)
      · exact Or.inl gone

theorem finishes_makeLedger (of : MarkerOf marker suffix)
    (ended : tree.LinkedFinishes (makeLedger engine root.paths (root.sibling suffix) generation rows) later (.ok ())) :
    later.kindAt (root.place marker) = none ∧ later.kindAt (root.place .pair) = some (.file (utf8 generation)) ∧
      (∃ content, Complete engine generation rows content ∧ later.kindAt (root.place .ledger) = some (.file content)) ∧
        later.kindAt root.paths.startedDir = some .folder := by
  have marker_ne : marker ≠ .ledger := by cases of <;> simp
  obtain ⟨marked, _, marking, creating⟩ := Finishes.of_andThen ended
  obtain ⟨_, pair_, folder⟩ := finishes_writeMarkers of (linkedFinishes_onLinked.mp marking)
  obtain ⟨made, _, created, finishing⟩ := Finishes.of_andThen creating
  obtain ⟨content, complete, there⟩ := finishes_createLedgerOnDisk created
  have stillPair := (@creating_keeps _ _ _ .pair _ _ _ (by simp) created.reaches).trans pair_
  have stillFolder : made.kindAt root.paths.startedDir = some .folder :=
    folder_linkedReaches (Asks.mono createLedgerOnDisk_step fun _ step => linkedStep_keeps step) created.reaches folder
  have last := linkedFinishes_onLinked.mp finishing
  rw [← place_marker of] at last
  refine ⟨finishes_finishMarker last, (finishing_keeps (marker_ne_pair of).symm last.reaches).trans stillPair,
    ⟨content, complete, (finishing_keeps marker_ne.symm last.reaches).trans there⟩, ?_⟩
  exact folder_reaches (Asks.mono finishMarker_touches fun _ touches => touches.2 _) last.reaches stillFolder

theorem serve_makeLedger (of : MarkerOf marker suffix) (neat : Neat root tree)
    (unheld : ∀ path, habits.locked path = false) (begun : Begun root tree marker generation)
    (absent : tree.kindAt (root.place .ledger) = none) (made : createLedgerFile generation rows = .ok file) :
    ∃ later, tree.linkedServe habits (makeLedger engine root.paths (root.sibling suffix) generation rows) =
      (later, .ok ()) := by
  obtain ⟨marked, marking⟩ := serve_writeMarkers of neat unheld begun
  have ran := (finishes_served marking).reaches
  have neatMarked := neat.reaches (asks_step_mono (writeMarkers_step of) fun _ => marking_ours of) ran
  obtain ⟨created, creating⟩ := @serve_createLedgerOnDisk _ _ _ habits engine _ _ neatMarked
    ((marking_keeps_ledger of ran).trans absent) made
  have neatCreated := neatMarked.linkedReaches (linkedStep_mono createLedgerOnDisk_step fun _ => Temp.ours)
    (linkedFinishes_served creating).reaches
  obtain ⟨last, finishing⟩ := @serve_finishMarker _ _ habits _ neatCreated
    (ours_sibling.mpr (begins_of_marker of))
  unfold makeLedger
  rw [linkedServe_ok (linkedServe_onLinked.trans marking), linkedServe_ok creating, linkedServe_onLinked]
  exact ⟨last, finishing⟩

end Making

section Rows

variable {ledger : RunLedger} {typed : TypedLedger} {records : AttemptIds} {adopted : List String} {origin : Origin}

theorem missing_eq_none : ledger.missing records = .ok none ↔
    ∃ rows, ledger.file.rows = .ok rows ∧ ∀ id ∈ records, id ∈ rows.map AttemptRow.attemptId := by
  unfold RunLedger.missing
  rw [Except.bind_eq_ok]
  refine exists_congr fun rows => and_congr_right fun _ => ?_
  rw [Except.ok.injEq, List.find?_eq_none]
  simp only [Bool.not_eq_true', Bool.not_eq_false, List.contains_eq_mem, decide_eq_true_eq, Std.ExtTreeMap.mem_keys]

theorem missing_of_mirrors (mirrors : Mirrors ledger.file typed) :
    ledger.missing records = .ok none ↔ ∀ id ∈ records, id ∈ typed := by
  have listed (id : String) : id ∈ typed.rows.map AttemptRow.attemptId ↔ id ∈ typed := by
    rw [List.mem_map]
    constructor
    · rintro ⟨row, there, rfl⟩
      obtain ⟨key, found⟩ := Table.mem_rows.mp there
      rw [mirrors.named key row found, Std.ExtTreeMap.mem_iff_isSome_getElem?, found]
      rfl
    · intro there
      obtain ⟨row, found⟩ := Option.isSome_iff_exists.mp (Std.ExtTreeMap.mem_iff_isSome_getElem?.mp there)
      exact ⟨row, Table.mem_rows.mpr ⟨id, found⟩, mirrors.named id row found⟩
  rw [missing_eq_none, rows_of_mirrors mirrors]
  simp only [Except.ok.injEq, exists_eq_left', listed]

theorem complete_eq_ok {refused : String} {opened : RunLedger} :
    ledger.complete records refused = .ok opened ↔ ledger.missing records = .ok none ∧ opened = ledger := by
  unfold RunLedger.complete
  rw [Except.bind_eq_ok]
  constructor
  · rintro ⟨missing, asked, rest⟩
    cases missing with
    | none => exact ⟨asked, (Except.ok.inj rest).symm⟩
    | some id => cases rest
  · rintro ⟨asked, rfl⟩
    exact ⟨none, asked, rfl⟩

theorem createLedgerFile_ok (distinct : (rows.map AttemptRow.attemptId).Nodup) :
    ∃ file, createLedgerFile generation rows = .ok file := by
  suffices further : ∀ start : LedgerFile, (∀ row ∈ rows, row.attemptId ∉ start.attempts) → ∃ file,
      rows.foldlM (fun file row => (insertRow row file).mapError fun fault =>
        let id := row.attemptId
        s!"RUN_LEDGER: 행을 쓰지 못했다({id}): {fault}") start = .ok file from further _ (by simp)
  induction rows with
  | nil => exact fun start _ => ⟨start, rfl⟩
  | cons row rows ih =>
      intro start fresh
      rw [List.forall_mem_cons] at fresh
      rw [List.map_cons, List.nodup_cons] at distinct
      have inserted : insertRow row start =
          .ok { start with attempts := start.attempts.insert row.attemptId row.columns } := by
        unfold insertRow
        rw [if_neg fresh.1]
      obtain ⟨file, made⟩ := ih distinct.2 { start with attempts := start.attempts.insert row.attemptId row.columns } (by
        intro other listed there
        rw [Std.ExtTreeMap.mem_insert, compare_eq_iff_eq] at there
        rcases there with same | before
        · exact distinct.1 (same ▸ List.mem_map_of_mem listed)
        · exact fresh.2 other listed before)
      refine ⟨file, ?_⟩
      rw [List.foldlM_cons]
      exact Except.bind_eq_ok.mpr ⟨_, Except.mapError_eq_ok.mpr inserted, made⟩

theorem mem_adoptedRows : id ∈ adoptedRows adopted origin ↔ id ∈ adopted := by
  suffices further : ∀ start : TypedLedger,
      id ∈ adopted.foldl (fun ledger id => ledger.insert id (AttemptRow.legacy id origin)) start ↔
        id ∈ adopted ∨ id ∈ start by
    unfold adoptedRows
    rw [further]
    simp
  induction adopted with
  | nil => simp
  | cons first adopted ih =>
      intro start
      rw [List.foldl_cons, ih, Std.ExtTreeMap.mem_insert, compare_eq_iff_eq, List.mem_cons]
      constructor
      · rintro (later | rfl | before)
        · exact Or.inl (Or.inr later)
        · exact Or.inl (Or.inl rfl)
        · exact Or.inr before
      · rintro ((rfl | later) | before)
        · exact Or.inr (Or.inl rfl)
        · exact Or.inl later
        · exact Or.inr (Or.inr before)

end Rows

end Gputeer.Agent
