import Gputeer.Agent.LedgerNames

/-! What the steps on the files of a run ledger do: on a disk that does not fail, on one that may fail, and where they
are stopped. -/

namespace Gputeer.Agent

open Checkpoint Dialogue FileTree Text Bytes RealRoot

variable {root : RealRoot} {tree later : FileTree} {dir path : DiskPath} {name generation : String}
  {content : List UInt8} {habits : Habits} {engine : LedgerEngine} {rows : List AttemptRow} {presence : Presence}
  {body : Except String LedgerFile}

section Asking

variable {blake3 : List UInt8 → Vector UInt8 32} {May : DiskPath → Prop}

theorem given_asks {Question : Type} {Answer : Question → Type} {may : Question → Prop} {α Error : Type}
    (result : Except Error α) : (given result : Dialogue Question Answer (Except Error α)).Asks may :=
  asks_pure _

theorem existsStrict_reads (path : DiskPath) : (existsStrict path).Asks FileQuestion.Reads := by
  unfold existsStrict
  refine Asks.bind (asks_question trivial) fun found => ?_
  rcases found with (_ | _) | (_ | _) <;> exact asks_pure _

theorem detect_reads (paths : LedgerPaths) : (detect paths).Asks FileQuestion.Reads :=
  Asks.andThen (existsStrict_reads _) fun _ => Asks.andThen (existsStrict_reads _) fun _ =>
    Asks.andThen (existsStrict_reads _) fun _ => Asks.andThen (existsStrict_reads _) fun _ => asks_pure _

theorem readGenerationFile_reads (path : DiskPath) : (readGenerationFile path).Asks FileQuestion.Reads := by
  unfold readGenerationFile
  refine Asks.bind (asks_question trivial) fun found => ?_
  cases found <;> exact asks_pure _

theorem openLedger_reads (paths : LedgerPaths) : (openLedger engine paths).Asks FileQuestion.Reads := by
  unfold openLedger
  refine Asks.bind (asks_question trivial) fun found => ?_
  cases found <;> exact asks_pure _

theorem syncFolder_reads (what : String) (dir : DiskPath) : (syncFolder what dir).Asks FileQuestion.Reads :=
  Asks.map (Asks.map (asks_question trivial))

/-- An entry that is to be removed is a left-over. -/
theorem scanEntry_ends (name : String) : Ends FileQuestion.Reads
    (fun result => ∀ entry, result = .ok entry → ∀ path, entry.residuePath = some path → root.Residue path)
    (scanEntry blake3 root.paths.startedDir name) := by
  unfold scanEntry
  refine Asks.bind_ends (asks_question trivial) fun found => ?_
  rcases found with failure | kind
  · intro entry no
    cases no
  · cases kind with
    | folder =>
        intro entry no
        cases no
    | file =>
        dsimp only
        split
        · intro entry same path no
          cases same
          cases no
        · split
          · next target residue =>
            split
            · next fits =>
              intro entry same path made
              cases same
              cases made
              exact ⟨name, target, rfl, residue, fits⟩
            · intro entry no
              cases no
          · split
            · intro entry no
              cases no
            · refine Asks.bind_ends (asks_question trivial) fun read => ?_
              cases read with
              | error failure =>
                  intro entry no
                  cases no
              | ok body =>
                  intro entry same path no
                  obtain ⟨id, _, rfl⟩ := Except.map_eq_ok.mp same
                  cases no

theorem scanEntries_ends (names : List String) : Ends FileQuestion.Reads
    (fun result => ∀ entries, result = .ok entries → ∀ path ∈ entries.filterMap StartEntry.residuePath,
      root.Residue path) (scanEntries blake3 root.paths.startedDir names) := by
  induction names with
  | nil =>
      intro entries same
      cases same
      simp
  | cons name names ih =>
      unfold scanEntries
      refine Ends.bind (scanEntry_ends name) fun result right => ?_
      cases result with
      | error error =>
          intro entries no
          cases no
      | ok entry =>
          refine Ends.bind ih fun rest others => ?_
          cases rest with
          | error error =>
              intro entries no
              cases no
          | ok rest =>
              intro entries same path listed
              cases same
              rw [List.filterMap_cons] at listed
              cases residue : entry.residuePath with
              | none =>
                  rw [residue] at listed
                  exact others rest rfl path listed
              | some first =>
                  rw [residue, List.mem_cons] at listed
                  rcases listed with rfl | later
                  · exact right entry rfl _ residue
                  · exact others rest rfl path later

theorem removeResidue_touches {residue : List DiskPath} (may : ∀ path ∈ residue, May path) :
    (removeResidue residue).Asks (Touches May) := by
  induction residue with
  | nil => exact asks_pure _
  | cons path rest ih =>
      rw [List.forall_mem_cons] at may
      unfold removeResidue
      refine Asks.bind (asks_question ⟨fun changed same => ?_, fun _ no => by cases no⟩) fun removed => ?_
      · rw [show changed = path from same]
        exact may.1
      · rcases removed with (_ | why) | done
        · exact ih may.2
        · exact asks_pure _
        · exact ih may.2

theorem scanStartRecords_step (removes : Bool) :
    (scanStartRecords blake3 root.paths.startedDir removes).Asks (Step root root.Residue) := by
  unfold scanStartRecords
  refine Asks.bind (asks_reads (asks_question trivial)) fun found => ?_
  rcases found with (_ | why) | names
  · exact asks_pure _
  · exact asks_pure _
  · have scans := @scanEntries_ends root blake3 names
    refine Ends.bind (Ends.widen scans fun _ => step_reads) fun result right => ?_
    cases result with
    | error error => exact asks_pure _
    | ok entries =>
        dsimp only
        split
        · refine Asks.andThen (asks_touches (removeResidue_touches (right entries rfl))) fun _ => ?_
          exact Asks.andThen (asks_reads (syncFolder_reads _ _)) fun _ => asks_pure _
        · exact asks_pure _

end Asking

section Writing

variable {suffix : String} {data : List UInt8} {spot : Place} {unmade : DiskFailure → String}
  {unwritten : CheckpointError → String}

/-- The paths of a file that is written once. -/
def Touched (dir : DiskPath) (name : String) (path : DiskPath) : Prop :=
  path = dir ++ [name] ∨ path = dir ++ [name ++ ".tmp"] ∨ path = dir ++ [name ++ ".write_once.lock"]

theorem joinName_once (once : OnceName name) : joinName dir name = dir ++ [name] ∧
    joinName dir (name ++ ".tmp") = dir ++ [name ++ ".tmp"] ∧
    joinName dir (name ++ ".write_once.lock") = dir ++ [name ++ ".write_once.lock"] := by
  unfold joinName
  rw [once.final, once.tmp, once.lock]
  exact ⟨rfl, rfl, rfl⟩

theorem writeOnce_touched (once : OnceName name) :
    (writeOnce dir name data).Asks (Touches (Touched dir name)) := by
  obtain ⟨final, tmp, lock⟩ := @joinName_once dir _ once
  exact writeOnce_touches (final ▸ Or.inl rfl) (tmp ▸ Or.inr (Or.inl rfl)) (lock ▸ Or.inr (Or.inr rfl))

theorem writeOnceIn_step (once : OnceName name) (way : dir <+: root.paths.startedDir) :
    (writeOnceIn unmade unwritten dir name data).Asks (Step root (Touched dir name)) := by
  refine Asks.andThen (Asks.map (asks_question ⟨Or.inl ⟨dir, rfl, way⟩, fun _ no => by cases no⟩)) fun _ => ?_
  exact asks_touches (Asks.map (Asks.map (writeOnce_touched once)))

/-- A file that is there stays, wherever the call is stopped. -/
theorem keeps_writeOnce (once : OnceName name)
    (there : tree.kindAt (dir ++ [name]) = some (.file content))
    (reached : tree.Reaches (writeOnce dir name data) later) : later.kindAt (dir ++ [name]) = some (.file content) := by
  obtain ⟨final, tmp, lock⟩ := @joinName_once dir _ once
  have apart := joinName_apart dir name
  rw [final, tmp, lock] at apart
  unfold writeOnce at reached
  rw [once.relative, final, tmp, lock] at reached
  have spares (path : DiskPath) (away : path ≠ dir ++ [name]) {α : Type} {step : FileDialogue α} {state next : FileTree}
      (touches : step.Asks (Touches (· = path))) (reaches : state.Reaches step next) :
      next.kindAt (dir ++ [name]) = state.kindAt (dir ++ [name]) :=
    kindAt_touches touches away.symm reaches
  rcases Reaches.of_andThen reached with locking | ⟨locked, _, locking, rest⟩
  · rw [spares _ apart.finalLock.symm (takeLock_touches rfl) locking, there]
  · have still := (finishes_takeLock locking).2 _ apart.finalLock
    rw [there] at still
    rcases Reaches.of_bind rest with asking | ⟨asked, present, asking, further⟩
    · rw [reaches_reads (asks_question (show FileQuestion.Reads (.isThere _) from trivial)) asking, still]
    · obtain ⟨rfl, same⟩ := finishes_fileExists asking
      rw [still] at same
      rw [same, if_pos (by rfl)] at further
      have touches : ((readExisting (dir ++ [name]) data).andThen fun existing =>
          keepExisting (dir ++ [name]) (dir ++ [name ++ ".write_once.lock"]) data existing).Asks
          (Touches (· = dir ++ [name ++ ".write_once.lock"])) :=
        Asks.andThen (readExisting_touches _) fun existing => keepExisting_touches rfl
      rw [spares _ apart.finalLock.symm touches further, still]

theorem finishes_writeOnceIn (once : OnceName name)
    (ended : tree.Finishes (writeOnceIn unmade unwritten dir name data) later (.ok ())) :
    later.kindAt (dir ++ [name]) = some (.file data) ∧ later.kindAt dir = some .folder := by
  obtain ⟨made, _, _, writing⟩ := Finishes.of_andThen ended
  obtain ⟨wrote, ran, _⟩ := Finishes.of_mapOk (Finishes.of_mapError writing)
  have left := wrote_joined once (finishes_writeOnce ran).2
  have place := left.place
  rw [List.dropLast_concat] at place
  exact ⟨left.file, folder_reaches (Asks.mono (writeOnce_touched once) fun _ touches => touches.2 dir) ran.reaches place⟩

/-- The file is not there or whole, what was there stays, and there is a folder where there is something new. -/
theorem reaches_writeOnceIn (once : OnceName name)
    (reached : tree.Reaches (writeOnceIn unmade unwritten dir name data) later) :
    (tree.kindAt (dir ++ [name]) = none → later.kindAt (dir ++ [name]) = none ∨
      later.kindAt (dir ++ [name]) = some (.file data)) ∧
    (∀ content, tree.kindAt (dir ++ [name]) = some (.file content) →
      later.kindAt (dir ++ [name]) = some (.file content)) ∧
    (later.kindAt (dir ++ [name]) = tree.kindAt (dir ++ [name]) ∨ later.kindAt dir = some .folder) := by
  have off : ¬ FileQuestion.Changes (.createFolders dir) (dir ++ [name]) := fun above => by
    have := List.IsPrefix.length_le (show dir ++ [name] <+: dir from above)
    simp at this
  have making : Asks (fun asked => ¬ asked.Changes (dir ++ [name])) (FileQuestion.createFolders dir).ask :=
    asks_question off
  rcases Reaches.of_andThen reached with first | ⟨made, _, first, writing⟩
  · rw [kindAt_reaches making (Reaches.of_map first)]
    exact ⟨Or.inl, fun _ there => there, Or.inl rfl⟩
  · have asking := Finishes.of_mapError first
    have same := kindAt_reaches making asking.reaches
    have ran := Reaches.of_map (Reaches.of_map writing)
    rw [← same]
    refine ⟨fun absent => ?_, fun content there => keeps_writeOnce once there ran, Or.inr ?_⟩
    · have final := (@joinName_once dir _ once).1
      have placed := @reaches_writeOnce made _ dir name _ (by rw [final, absent]) ran
      rwa [final] at placed
    · obtain ⟨said, rfl⟩ := Finishes.of_question asking
      have folder := (@Honest.createFolders _ _ dir said).trans (if_pos (List.prefix_refl _))
      exact folder_reaches (Asks.mono (writeOnce_touched once) fun _ touches => touches.2 dir) ran folder

theorem serve_writeOnceIn (once : OnceName name) (unheld : ∀ path, habits.locked path = false)
    (folders : ∀ part, part <+: dir → tree.kindAt part = none ∨ tree.kindAt part = some .folder)
    (files : ∀ path, Touched dir name path → tree.kindAt path ≠ some .folder)
    (before : tree.kindAt (dir ++ [name]) = none ∨ tree.kindAt (dir ++ [name]) = some (.file data)) :
    ∃ later, tree.serve habits (writeOnceIn unmade unwritten dir name data) = (later, .ok ()) := by
  have made := @serve_createFolders tree dir habits fun part listed =>
    folders part ((List.mem_inits _ _).mp listed)
  generalize between : dir.inits.foldl putFolder tree = next at made
  have kinds (other : DiskPath) : next.kindAt other = if other <+: dir then some .folder else tree.kindAt other := by
    rw [← between, kindAt_madeFolders _ fun part listed => folders part ((List.mem_inits _ _).mp listed)]
    exact if_congr (List.mem_inits _ _) rfl rfl
  have below (part : String) : ¬ dir ++ [part] <+: dir := fun above => by
    have := above.length_le
    simp at this
  have stays (part : String) : next.kindAt (dir ++ [part]) = tree.kindAt (dir ++ [part]) := by
    rw [kinds, if_neg (below part)]
  obtain ⟨final, tmp, lock⟩ := @joinName_once dir _ once
  have called := @writeOnce_once habits next data dir _ once.relative (unheld _)
  rw [final, tmp, lock] at called
  have may : next.mayPut (dir ++ [name ++ ".write_once.lock"]) = .ok () := by
    refine mayPut_eq_ok.mpr ⟨?_, ?_⟩
    · rw [stays]
      exact files _ (Or.inr (Or.inr rfl))
    · rw [List.dropLast_concat, kinds, if_pos (List.prefix_refl _)]
  suffices wrote : ∃ later done, next.serve habits (writeOnce dir name data) = (later, .ok done) by
    obtain ⟨later, done, ran⟩ := wrote
    exact ⟨later, (serve_ok (serve_mapError made)).trans (serve_mapError (serve_mapped ran))⟩
  generalize next.serve habits (writeOnce dir name data) = ran at called
  obtain ⟨later, outcome⟩ := ran
  cases called with
  | unlocked not_ => exact absurd may not_
  | same => exact ⟨later, false, rfl⟩
  | different _ there differs =>
      rw [stays] at there
      rcases before with absent | same
      · rw [absent] at there
        cases there
      · rw [same, Option.some.injEq, DiskEntry.file.injEq] at there
        exact absurd there.symm differs
  | blocked _ folder =>
      rw [stays, stays] at folder
      rcases folder with final | ⟨_, tmp⟩
      · exact absurd final (files _ (Or.inl rfl))
      · exact absurd tmp (files _ (Or.inr (Or.inl rfl)))
  | written => exact ⟨later, true, rfl⟩

theorem parent_above : root.parent <+: root.paths.startedDir := List.prefix_append _ _

theorem touched_sibling (begins : ".run-ledger.".toList <+: suffix.toList)
    (touched : Touched root.parent (root.name ++ suffix) path) : root.Ours path := by
  have longer (last : String) : ".run-ledger.".toList <+: (suffix ++ last).toList := by
    rw [String.toList_append]
    exact begins.trans (List.prefix_append _ _)
  rcases touched with rfl | rfl | rfl
  · exact ours_sibling.mpr begins
  · rw [String.append_assoc]
    exact ours_sibling.mpr (longer _)
  · rw [String.append_assoc]
    exact ours_sibling.mpr (longer _)

theorem touched_started (named : name = pairName ∨ isRecordName name = true)
    (touched : Touched root.paths.startedDir name path) : root.Ours path := by
  rcases touched with rfl | rfl | rfl
  · exact ours_started.mpr (named.imp id Or.inl)
  · exact ours_started.mpr (Or.inr (Or.inr ⟨name, residueTarget_tmp, named⟩))
  · exact ours_started.mpr (Or.inr (Or.inr ⟨name, residueTarget_lock, named⟩))

/-- A marker, and the end of its name. -/
inductive MarkerOf : Place → String → Prop
  | creating : MarkerOf .creating creatingSuffix
  | adopting : MarkerOf .adopting adoptingSuffix

theorem place_marker {marker : Place} (of : MarkerOf marker suffix) : root.place marker = root.sibling suffix := by
  cases of <;> rfl

/-- Of the four places only its own is touched when a marker is written. -/
theorem touched_marker {marker : Place} (of : MarkerOf marker suffix)
    (touched : Touched root.parent (root.name ++ suffix) (root.place spot)) : spot = marker := by
  have here : root.place spot = root.sibling suffix ∨ root.place spot = root.sibling (suffix ++ ".tmp") ∨
      root.place spot = root.sibling (suffix ++ ".write_once.lock") := by
    unfold Touched at touched
    rwa [String.append_assoc, String.append_assoc] at touched
  cases spot with
  | pair =>
      have apart (suffix : String) : root.place .pair ≠ root.sibling suffix := fun same => sibling_ne_started same.symm
      simp only [apart, or_self] at here
  | ledger =>
      change root.sibling ledgerSuffix = _ ∨ root.sibling ledgerSuffix = _ ∨ root.sibling ledgerSuffix = _ at here
      simp only [sibling_inj] at here
      cases of <;> exact absurd here (by decide)
  | adopting =>
      change root.sibling adoptingSuffix = _ ∨ root.sibling adoptingSuffix = _ ∨ root.sibling adoptingSuffix = _ at here
      simp only [sibling_inj] at here
      cases of with
      | creating => exact absurd here (by decide)
      | adopting => rfl
  | creating =>
      change root.sibling creatingSuffix = _ ∨ root.sibling creatingSuffix = _ ∨ root.sibling creatingSuffix = _ at here
      simp only [sibling_inj] at here
      cases of with
      | creating => rfl
      | adopting => exact absurd here (by decide)

theorem touched_pair (touched : Touched root.paths.startedDir pairName (root.place spot)) : spot = .pair := by
  have here : root.place spot = root.started pairName ∨ root.place spot = root.started (pairName ++ ".tmp") ∨
      root.place spot = root.started (pairName ++ ".write_once.lock") := touched
  cases spot with
  | pair => rfl
  | ledger => simp [place, paths] at here
  | adopting => simp [place, paths] at here
  | creating => simp [place, paths] at here

end Writing

section Temps

variable {parent : DiskPath} {start : String} {removed : Bool} {names : List String}

theorem temp_of_begins {name : String} (begins : (root.name ++ ledgerSuffix ++ ".tmp-").toList <+: name.toList) :
    root.Temp (root.parent ++ [name]) := by
  obtain ⟨rest, whole⟩ := begins
  have split : name = root.name ++ (".run-ledger.sqlite3.tmp-" ++ String.ofList rest) := by
    apply String.toList_inj.mp
    rw [← whole]
    simp [ledgerSuffix, String.toList_append]
  refine ⟨".run-ledger.sqlite3.tmp-" ++ String.ofList rest, ?_, ?_⟩
  · rw [split]
    rfl
  · rw [String.toList_append]
    exact List.prefix_append _ _

theorem begins_of_temp (temp : root.Temp path) : ∃ name, path = root.parent ++ [name] ∧
    (root.name ++ ledgerSuffix ++ ".tmp-").toList <+: name.toList := by
  obtain ⟨suffix, rfl, begins⟩ := temp
  refine ⟨root.name ++ suffix, rfl, ?_⟩
  have whole : root.name ++ ledgerSuffix ++ ".tmp-" = root.name ++ ".run-ledger.sqlite3.tmp-" := String.append_assoc
  rw [whole, String.toList_append, String.toList_append]
  exact (List.prefix_append_right_inj root.name.toList).mpr begins

theorem removeTemps_touches {May : DiskPath → Prop}
    (may : ∀ name ∈ names, start.toList <+: name.toList → May (parent ++ [name])) :
    (removeTemps parent start removed names).Asks (Touches May) := by
  induction names generalizing removed with
  | nil => exact asks_pure _
  | cons name names ih =>
      rw [List.forall_mem_cons] at may
      unfold removeTemps
      split
      · next begins =>
        refine Asks.andThen (Asks.map (asks_question ⟨fun changed same => ?_, fun _ no => by cases no⟩)) fun _ => ih may.2
        rw [show changed = parent ++ [name] from same]
        exact may.1 begins
      · exact ih may.2

theorem removeStaleTemps_step : (removeStaleTemps root.paths).Asks (Step root root.Temp) := by
  unfold removeStaleTemps
  rw [parentDir_paths, given_andThen, tempPrefix_paths, given_andThen]
  refine Asks.bind (asks_reads (asks_question trivial)) fun found => ?_
  cases found with
  | error failure => exact asks_pure _
  | ok names =>
      refine Asks.andThen (asks_touches (removeTemps_touches fun name _ => temp_of_begins)) fun done => ?_
      split
      · exact asks_reads (syncFolder_reads _ _)
      · exact asks_pure _

/-- What is removed is gone, and nothing else changes. -/
theorem finishes_removeTemps {outcome : Bool} (ended : tree.Finishes (removeTemps parent start removed names) later
      (.ok outcome)) :
    (∀ name ∈ names, start.toList <+: name.toList → later.kindAt (parent ++ [name]) = none) ∧
      ∀ path, later.kindAt path = tree.kindAt path ∨ later.kindAt path = none := by
  induction names generalizing removed tree with
  | nil =>
      obtain ⟨rfl, _⟩ := Finishes.of_pure ended
      exact ⟨by simp, fun _ => Or.inl rfl⟩
  | cons name names ih =>
      unfold removeTemps at ended
      split at ended
      · obtain ⟨between, _, removing, rest⟩ := Finishes.of_andThen ended
        obtain ⟨said, rfl⟩ := Finishes.of_question (Finishes.of_mapError removing)
        obtain ⟨content, there⟩ := Honest.remove said
        have kinds (path : DiskPath) : (tree.effect ⟨.remove (parent ++ [name]), .ok ()⟩).kindAt path =
            if path = parent ++ [name] then none else tree.kindAt path := by
          refine kindAt_removeFile.trans ?_
          rw [there]
          simp
        obtain ⟨gone, others⟩ := ih rest
        have emptied (path : DiskPath) : later.kindAt path = tree.kindAt path ∨ later.kindAt path = none := by
          rcases others path with same | none_
          · rw [same, kinds]
            split
            · exact Or.inr rfl
            · exact Or.inl rfl
          · exact Or.inr none_
        refine ⟨List.forall_mem_cons.mpr ⟨fun _ => ?_, gone⟩, emptied⟩
        rcases others (parent ++ [name]) with same | none_
        · rw [same, kinds, if_pos rfl]
        · exact none_
      · next other =>
        obtain ⟨gone, others⟩ := ih ended
        exact ⟨List.forall_mem_cons.mpr ⟨fun begins => absurd begins other, gone⟩, others⟩

/-- No temporary ledger is left. -/
theorem finishes_removeStaleTemps (ended : tree.Finishes (removeStaleTemps root.paths) later (.ok ()))
    (temp : root.Temp path) : later.kindAt path = none := by
  unfold removeStaleTemps at ended
  rw [parentDir_paths, given_andThen, tempPrefix_paths, given_andThen] at ended
  obtain ⟨listed, found, listing, rest⟩ := Finishes.of_bind ended
  obtain ⟨said, rfl⟩ := Finishes.of_question listing
  cases found with
  | error failure => cases (Finishes.of_pure rest).2
  | ok names =>
      obtain ⟨_, named⟩ := Honest.list said
      obtain ⟨between, some_, removing, syncing⟩ := Finishes.of_andThen rest
      obtain ⟨gone, others⟩ := finishes_removeTemps removing
      obtain ⟨name, rfl, begins⟩ := begins_of_temp temp
      have same : later = between := by
        split at syncing
        · exact reaches_reads (syncFolder_reads _ _) syncing.reaches
        · exact (Finishes.of_pure syncing).1
      rw [same]
      by_cases inside : name ∈ names
      · exact gone name inside begins
      · rcases others (root.parent ++ [name]) with same | none_
        · rw [same]
          by_contra there
          exact inside (named.mem_iff.mpr (mem_childNames.mpr (Option.isSome_iff_ne_none.mpr there)))
        · exact none_

theorem serve_remove {content : List UInt8} (there : tree.kindAt path = some (.file content)) :
    tree.serve habits (FileQuestion.remove path).ask = (tree.removeFile path, .ok ()) := by
  unfold FileTree.serve
  rw [serve_question]
  simp only [answer, there, effect]

theorem serve_removeTemps (distinct : names.Nodup)
    (files : ∀ name ∈ names, start.toList <+: name.toList →
      ∃ content, tree.kindAt (parent ++ [name]) = some (.file content)) :
    ∃ later outcome, tree.serve habits (removeTemps parent start removed names) = (later, .ok outcome) := by
  induction names generalizing removed tree with
  | nil => exact ⟨tree, removed, rfl⟩
  | cons name names ih =>
      rw [List.forall_mem_cons] at files
      obtain ⟨fresh, distinct⟩ := List.nodup_cons.mp distinct
      unfold removeTemps
      split
      · next begins =>
        obtain ⟨content, there⟩ := files.1 begins
        rw [serve_ok (serve_mapError (serve_remove there))]
        refine ih distinct fun other listed begins => ?_
        obtain ⟨content, still⟩ := files.2 other listed begins
        refine ⟨content, ?_⟩
        have apart : parent ++ [other] ≠ parent ++ [name] := by
          intro same
          rw [List.append_cancel_left_eq, List.cons.injEq] at same
          exact fresh (same.1 ▸ listed)
        rw [kindAt_removeFile, if_neg fun same => apart same.1, still]
      · exact ih distinct files.2

theorem serve_removeStaleTemps (neat : Neat root tree) :
    ∃ later, tree.serve habits (removeStaleTemps root.paths) = (later, .ok ()) := by
  have folder := neat.above root.parent (List.prefix_refl _)
  have lists : tree.serve habits (FileQuestion.list root.parent).ask =
      (tree, .ok (habits.shuffle (tree.childNames root.parent))) := serve_asked trivial (by simp only [answer, folder])
  have perm := habits.shuffle_perm (tree.childNames root.parent)
  obtain ⟨between, outcome, removed⟩ := @serve_removeTemps tree habits root.parent
    (root.name ++ ledgerSuffix ++ ".tmp-") false (habits.shuffle (tree.childNames root.parent))
    (perm.nodup_iff.mpr nodup_childNames) fun name listed begins => by
      have there := mem_childNames.mp (perm.mem_iff.mp listed)
      rcases neat.isFile (temp_of_begins begins).ours with none_ | file
      · rw [none_] at there
        cases there
      · exact file
  unfold removeStaleTemps
  rw [parentDir_paths, given_andThen, tempPrefix_paths, given_andThen, serve_then lists]
  dsimp only
  rw [serve_ok removed]
  split
  · exact ⟨between, rfl⟩
  · exact ⟨between, rfl⟩

end Temps

section Looking

variable {value : String} {ledger : RunLedger}

def Presence.has (presence : Presence) : Place → Bool
  | .ledger => presence.ledger
  | .pair => presence.pair
  | .adopting => presence.adopting
  | .creating => presence.creating

theorem finishes_existsStrict {there : Bool} (ended : tree.Finishes (existsStrict path) later (.ok there)) :
    there = (tree.kindAt path).isSome := by
  obtain ⟨asked, found, asking, rest⟩ := Finishes.of_bind ended
  obtain ⟨said, rfl⟩ := Finishes.of_question asking
  rcases found with (_ | why) | (_ | _)
  · cases (Finishes.of_pure rest).2
    rw [Honest.kind_missing said]
    rfl
  · cases (Finishes.of_pure rest).2
  · rcases Honest.kind said with ⟨no, _⟩ | ⟨_, content, there⟩
    · cases no
    · cases (Finishes.of_pure rest).2
      rw [there]
      rfl
  · cases (Finishes.of_pure rest).2

/-- What is detected is there, and what is not is not. -/
theorem finishes_detect (ended : tree.Finishes (detect root.paths) later (.ok presence)) :
    later = tree ∧ ∀ spot, presence.has spot = (tree.kindAt (root.place spot)).isSome := by
  obtain ⟨tree, first, ledger, second⟩ := Finishes.of_andThen ended
  obtain rfl := reaches_reads (existsStrict_reads _) ledger.reaches
  obtain ⟨tree, there, pair, third⟩ := Finishes.of_andThen second
  obtain rfl := reaches_reads (existsStrict_reads _) pair.reaches
  obtain ⟨tree, stands, adopting, fourth⟩ := Finishes.of_andThen third
  obtain rfl := reaches_reads (existsStrict_reads _) adopting.reaches
  obtain ⟨tree, marked, creating, last⟩ := Finishes.of_andThen fourth
  obtain rfl := reaches_reads (existsStrict_reads _) creating.reaches
  obtain ⟨rfl, same⟩ := Finishes.of_pure last
  cases same
  refine ⟨rfl, fun spot => ?_⟩
  cases spot with
  | ledger => exact finishes_existsStrict ledger
  | pair => exact finishes_existsStrict pair
  | adopting => exact finishes_existsStrict adopting
  | creating => exact finishes_existsStrict creating

theorem serve_existsStrict (neat : Neat root tree) (ours : root.Ours path) :
    tree.serve habits (existsStrict path) = (tree, .ok (tree.kindAt path).isSome) := by
  unfold existsStrict
  rcases neat.isFile ours with none_ | ⟨content, there⟩
  · have asked : tree.serve habits (FileQuestion.kind path).ask = (tree, .error .notFound) :=
      serve_asked trivial (by simp only [answer, none_])
    rw [serve_then asked, none_]
    rfl
  · have asked : tree.serve habits (FileQuestion.kind path).ask = (tree, .ok .file) :=
      serve_asked trivial (by simp only [answer, there])
    rw [serve_then asked, there]
    rfl

theorem serve_detect (neat : Neat root tree) :
    ∃ presence, tree.serve habits (detect root.paths) = (tree, .ok presence) := by
  have ledger : tree.serve habits (existsStrict root.paths.ledger) = _ := serve_existsStrict neat (place_ours root .ledger)
  have pair : tree.serve habits (existsStrict root.paths.pair) = _ := serve_existsStrict neat (place_ours root .pair)
  have adopting : tree.serve habits (existsStrict root.paths.adopting) = _ :=
    serve_existsStrict neat (place_ours root .adopting)
  have creating : tree.serve habits (existsStrict root.paths.creating) = _ :=
    serve_existsStrict neat (place_ours root .creating)
  refine ⟨⟨(tree.kindAt (root.place .ledger)).isSome, (tree.kindAt (root.place .pair)).isSome,
    (tree.kindAt (root.place .adopting)).isSome, (tree.kindAt (root.place .creating)).isSome⟩, ?_⟩
  unfold detect
  rw [serve_ok ledger, serve_ok pair, serve_ok adopting, serve_ok creating]
  rfl

theorem finishes_readGenerationFile (ended : tree.Finishes (readGenerationFile path) later (.ok value)) :
    later = tree ∧ tree.kindAt path = some (.file (utf8 value)) ∧ isGeneration value = true := by
  obtain ⟨asked, found, asking, rest⟩ := Finishes.of_bind ended
  obtain ⟨said, rfl⟩ := Finishes.of_question asking
  cases found with
  | error failure => cases (Finishes.of_pure rest).2
  | ok bytes =>
      obtain ⟨rfl, same⟩ := Finishes.of_pure rest
      have there := Honest.read said
      obtain ⟨text, decoded, checked⟩ := Except.bind_eq_ok.mp same.symm
      obtain ⟨_, formed, last⟩ := Except.bind_eq_ok.mp checked
      cases last
      rw [Except.ofOption_eq_ok, fromUTF8_eq_some] at decoded
      exact ⟨rfl, decoded ▸ there, Except.ensure_eq_ok.mp formed⟩

theorem serve_readGenerationFile (there : tree.kindAt path = some (.file (utf8 value)))
    (formed : isGeneration value = true) : tree.serve habits (readGenerationFile path) = (tree, .ok value) := by
  have asked : tree.serve habits (FileQuestion.read path).ask = (tree, .ok (utf8 value)) :=
    serve_asked trivial (by simp only [answer, there])
  have decoded : String.fromUTF8? ⟨(utf8 value).toArray⟩ = some value := fromUTF8_eq_some.mpr rfl
  unfold readGenerationFile
  rw [serve_then asked]
  refine Prod.ext rfl (Except.bind_eq_ok.mpr ⟨value, Except.ofOption_eq_ok.mpr decoded, ?_⟩)
  exact Except.bind_eq_ok.mpr ⟨(), Except.ensure_eq_ok.mpr formed, rfl⟩

theorem finishes_openLedger (ended : tree.Finishes (openLedger engine root.paths) later (.ok ledger)) :
    later = tree ∧ ∃ content, tree.kindAt (root.place .ledger) = some (.file content) ∧
      engine.read content = .ok ledger.file ∧ ledger.file.openExisting = .ok ledger.generation := by
  obtain ⟨asked, found, asking, rest⟩ := Finishes.of_bind ended
  obtain ⟨said, rfl⟩ := Finishes.of_question asking
  cases found with
  | error failure => cases (Finishes.of_pure rest).2
  | ok content =>
      obtain ⟨rfl, same⟩ := Finishes.of_pure rest
      obtain ⟨file, read, opened⟩ := Except.bind_eq_ok.mp same.symm
      obtain ⟨generation, named, last⟩ := Except.bind_eq_ok.mp opened
      cases last
      exact ⟨rfl, content, Honest.read said, read, named⟩

theorem serve_openLedger {file : LedgerFile} (there : tree.kindAt (root.place .ledger) = some (.file content))
    (read : engine.read content = .ok file) (opens : file.openExisting = .ok generation) :
    tree.serve habits (openLedger engine root.paths) = (tree, .ok ⟨file, generation⟩) := by
  have asked : tree.serve habits (FileQuestion.read root.paths.ledger).ask = (tree, .ok content) :=
    serve_asked trivial (by simp only [answer]; rw [show tree.kindAt root.paths.ledger = _ from there])
  unfold openLedger
  rw [serve_then asked]
  exact Prod.ext rfl (Except.bind_eq_ok.mpr ⟨file, read, Except.bind_eq_ok.mpr ⟨generation, opens, rfl⟩⟩)

end Looking

section Marker

variable {marker : DiskPath}

theorem finishMarker_touches : (finishMarker root.paths marker).Asks (Touches (· = marker)) := by
  unfold finishMarker
  rw [parentDir_paths, given_andThen]
  refine Asks.bind (asks_question ⟨fun changed same => same, fun _ no => by cases no⟩) fun removed => ?_
  rcases removed with (_ | why) | done
  · exact Asks.mono (syncFolder_reads _ _) fun _ => touches_reads
  · exact asks_pure _
  · exact Asks.mono (syncFolder_reads _ _) fun _ => touches_reads

/-- Whatever it says of itself. -/
theorem removed_or_same {answered : Except DiskFailure Unit} :
    (tree.effect ⟨.remove marker, answered⟩).kindAt marker = tree.kindAt marker ∨
      (tree.effect ⟨.remove marker, answered⟩).kindAt marker = none := by
  cases answered with
  | error failure => exact Or.inl rfl
  | ok done =>
      change (tree.removeFile marker).kindAt marker = _ ∨ (tree.removeFile marker).kindAt marker = _
      rw [kindAt_removeFile]
      split
      · exact Or.inr rfl
      · exact Or.inl rfl

theorem reaches_finishMarker (reached : tree.Reaches (finishMarker root.paths marker) later) :
    later.kindAt marker = tree.kindAt marker ∨ later.kindAt marker = none := by
  unfold finishMarker at reached
  rw [parentDir_paths, given_andThen] at reached
  rcases Reaches.of_bind reached with removing | ⟨between, outcome, removing, rest⟩
  · rcases Reaches.of_question removing with rfl | ⟨answered, _, rfl⟩
    · exact Or.inl rfl
    · exact removed_or_same
  · obtain ⟨_, rfl⟩ := Finishes.of_question removing
    have reads : later = tree.effect ⟨.remove marker, outcome⟩ := by
      rcases outcome with (_ | why) | done
      · exact reaches_reads (syncFolder_reads _ _) rest
      · exact reaches_reads (asks_pure _) rest
      · exact reaches_reads (syncFolder_reads _ _) rest
    rw [reads]
    exact removed_or_same

theorem finishes_finishMarker (ended : tree.Finishes (finishMarker root.paths marker) later (.ok ())) :
    later.kindAt marker = none := by
  unfold finishMarker at ended
  rw [parentDir_paths, given_andThen] at ended
  obtain ⟨between, outcome, removing, rest⟩ := Finishes.of_bind ended
  obtain ⟨said, rfl⟩ := Finishes.of_question removing
  rcases outcome with (_ | why) | done
  · rw [reaches_reads (syncFolder_reads _ _) rest.reaches]
    exact Honest.remove_missing said
  · cases (Finishes.of_pure rest).2
  · rw [reaches_reads (syncFolder_reads _ _) rest.reaches]
    obtain ⟨content, there⟩ := Honest.remove said
    refine kindAt_removeFile.trans (if_pos ⟨rfl, ?_⟩)
    rw [there]
    simp

theorem serve_finishMarker (neat : Neat root tree) (ours : root.Ours marker) :
    ∃ later, tree.serve habits (finishMarker root.paths marker) = (later, .ok ()) := by
  unfold finishMarker
  rw [parentDir_paths, given_andThen]
  rcases neat.isFile ours with none_ | ⟨content, there⟩
  · have asked : tree.serve habits (FileQuestion.remove marker).ask = (tree, .error .notFound) := by
      unfold FileTree.serve
      rw [serve_question]
      simp only [answer, none_, effect]
    rw [serve_then asked]
    exact ⟨tree, rfl⟩
  · rw [serve_then (serve_remove there)]
    exact ⟨tree.removeFile marker, rfl⟩

end Marker

section Placing

/-- The ledger is whole. -/
def Complete (engine : LedgerEngine) (generation : String) (rows : List AttemptRow) (content : List UInt8) : Prop :=
  ∃ file, createLedgerFile generation rows = .ok file ∧ engine.read content = .ok file

theorem temp_generation (generation : String) : root.Temp (root.parent ++ [root.tempName generation]) := by
  refine temp_of_begins ?_
  rw [tempName, String.toList_append (s := root.name ++ ledgerSuffix ++ ".tmp-")]
  exact List.prefix_append _ _

theorem temp_journal (generation : String) : root.Temp (root.parent ++ [root.tempName generation ++ "-journal"]) := by
  refine temp_of_begins ?_
  rw [tempName, @String.append_assoc (root.name ++ ledgerSuffix ++ ".tmp-") _ _,
    String.toList_append (s := root.name ++ ledgerSuffix ++ ".tmp-")]
  exact List.prefix_append _ _

theorem fill_step : (engine.fill root.parent (root.tempName generation) body).Asks (Step root root.Temp) := by
  refine Asks.mono (engine.fill_steps _ _ _) fun asked step => ?_
  rcases step with reads | ⟨file, named, touches⟩
  · exact step_reads reads
  · have temp : root.Temp (root.parent ++ [file]) := by
      rcases named with rfl | rfl
      · exact temp_generation generation
      · exact temp_journal generation
    refine ⟨Or.inr fun path changes => ?_, fun path same => ?_⟩
    · rcases touches with rfl | ⟨content, rfl⟩ | rfl
      · rwa [show path = root.parent ++ [file] from changes]
      · rwa [show path = root.parent ++ [file] from changes]
      · rwa [show path = root.parent ++ [file] from changes]
    · rcases touches with rfl | ⟨content, rfl⟩ | rfl <;> cases same

theorem syncTemporary_reads (parent : DiskPath) (temp : String) : (syncTemporary parent temp).Asks FileQuestion.Reads :=
  Asks.map (asks_question trivial)

theorem removeTemporary_step : (removeTemporary root.parent (root.tempName generation)).Asks (Step root root.Temp) := by
  refine Asks.andThen (Asks.map (asks_question ⟨Or.inr fun path changes => ?_, fun _ no => by cases no⟩)) fun _ =>
    asks_reads (syncFolder_reads _ _)
  rw [show path = root.parent ++ [root.tempName generation] from changes]
  exact temp_generation generation

theorem placeLedger_step :
    (placeLedger root.paths root.parent (root.tempName generation)).Asks (LinkedStep root root.Temp) :=
  Asks.andThen (Asks.map (asks_question rfl)) fun _ => asks_onLinked removeTemporary_step

theorem ledger_spared : ¬ root.Temp (root.place .ledger) ∧ ¬ root.place .ledger <+: root.paths.startedDir :=
  ⟨place_not_temp, (place_ours root .ledger).not_above⟩

/-- The ledger is what it was, or the temporary file where there was nothing. -/
theorem reaches_placeLedger (there : tree.kindAt (root.parent ++ [root.tempName generation]) = some (.file content))
    (reached : tree.LinkedReaches (placeLedger root.paths root.parent (root.tempName generation)) later) :
    later.kindAt (root.place .ledger) = tree.kindAt (root.place .ledger) ∨
      tree.kindAt (root.place .ledger) = none ∧ later.kindAt (root.place .ledger) = some (.file content) := by
  have linked {next : FileTree} (may : tree.mayLink (root.parent ++ [root.tempName generation]) root.paths.ledger = .ok ())
      (same : next = tree.linkFile (root.parent ++ [root.tempName generation]) root.paths.ledger) :
      tree.kindAt (root.place .ledger) = none ∧ next.kindAt (root.place .ledger) = some (.file content) := by
    obtain ⟨_, absent, puts⟩ := mayLink_eq_ok.mp may
    refine ⟨absent, ?_⟩
    rw [same, kindAt_linkFile there puts]
    exact if_pos rfl
  rcases Reaches.of_andThen reached with linking | ⟨between, _, linking, rest⟩
  · rcases linkedReaches_hardLink (Reaches.of_map linking) with rfl | ⟨may, same⟩
    · exact Or.inl rfl
    · exact Or.inr (linked may same)
  · obtain ⟨may, same⟩ := linkedFinishes_hardLink (Finishes.of_mapError linking)
    obtain ⟨absent, placed⟩ := linked may same
    refine Or.inr ⟨absent, ?_⟩
    rw [kept removeTemporary_step ledger_spared.1 ledger_spared.2 (linkedReaches_onLinked.mp rest), placed]

/-- What is placed is there. -/
theorem finishes_placeLedger (there : tree.kindAt (root.parent ++ [root.tempName generation]) = some (.file content))
    (ended : tree.LinkedFinishes (placeLedger root.paths root.parent (root.tempName generation)) later (.ok ())) :
    later.kindAt (root.place .ledger) = some (.file content) := by
  obtain ⟨between, _, linking, rest⟩ := Finishes.of_andThen ended
  obtain ⟨may, same⟩ := linkedFinishes_hardLink (Finishes.of_mapError linking)
  obtain ⟨_, absent, puts⟩ := mayLink_eq_ok.mp may
  rw [kept removeTemporary_step ledger_spared.1 ledger_spared.2
    (linkedFinishes_onLinked.mp rest).reaches, same, kindAt_linkFile there puts]
  exact if_pos rfl

theorem createLedgerOnDisk_eq : createLedgerOnDisk engine root.paths generation rows =
    (removeStaleTemps root.paths).onLinked.andThen fun _ =>
      (engine.fill root.parent (root.tempName generation) (createLedgerFile generation rows)).onLinked.andThen fun _ =>
        (syncTemporary root.parent (root.tempName generation)).onLinked.andThen fun _ =>
          placeLedger root.paths root.parent (root.tempName generation) := by
  unfold createLedgerOnDisk
  simp only [parentDir_paths, tempPrefix_paths, given_andThen]
  rfl

theorem createLedgerOnDisk_step :
    (createLedgerOnDisk engine root.paths generation rows).Asks (LinkedStep root root.Temp) := by
  rw [createLedgerOnDisk_eq]
  refine Asks.andThen (asks_onLinked removeStaleTemps_step) fun _ => ?_
  refine Asks.andThen (asks_onLinked fill_step) fun _ => ?_
  exact Asks.andThen (asks_onLinked (asks_reads (syncTemporary_reads _ _))) fun _ => placeLedger_step

/-- Wherever it is stopped: the ledger is what it was, or a whole one is in the place of nothing. -/
theorem reaches_createLedgerOnDisk
    (reached : tree.LinkedReaches (createLedgerOnDisk engine root.paths generation rows) later) :
    later.kindAt (root.place .ledger) = tree.kindAt (root.place .ledger) ∨
      tree.kindAt (root.place .ledger) = none ∧ ∃ content, Complete engine generation rows content ∧
        later.kindAt (root.place .ledger) = some (.file content) := by
  rw [createLedgerOnDisk_eq] at reached
  rcases Reaches.of_andThen reached with cleaning | ⟨clean, _, cleaning, making⟩
  · exact Or.inl (kept removeStaleTemps_step ledger_spared.1 ledger_spared.2 (linkedReaches_onLinked.mp cleaning))
  · have cleaned := kept removeStaleTemps_step ledger_spared.1 ledger_spared.2
      (linkedFinishes_onLinked.mp cleaning).reaches
    rcases Reaches.of_andThen making with filling | ⟨filled, _, filling, syncing⟩
    · have still := kept fill_step ledger_spared.1 ledger_spared.2 (linkedReaches_onLinked.mp filling)
      exact Or.inl (still.trans cleaned)
    · have still := kept fill_step ledger_spared.1 ledger_spared.2 (linkedFinishes_onLinked.mp filling).reaches
      obtain ⟨file, content, made, there, read⟩ := engine.fill_committed _ _ _ _ _ (linkedFinishes_onLinked.mp filling)
      rcases Reaches.of_andThen syncing with stopped | ⟨synced, _, ended, placing⟩
      · rw [reaches_reads (syncTemporary_reads _ _) (linkedReaches_onLinked.mp stopped)]
        exact Or.inl (still.trans cleaned)
      · obtain rfl := reaches_reads (syncTemporary_reads _ _) (linkedFinishes_onLinked.mp ended).reaches
        rcases reaches_placeLedger there placing with same | ⟨absent, placed⟩
        · exact Or.inl (same.trans (still.trans cleaned))
        · refine Or.inr ⟨?_, content, ⟨file, made, read⟩, placed⟩
          rw [← cleaned, ← still, absent]

theorem finishes_createLedgerOnDisk
    (ended : tree.LinkedFinishes (createLedgerOnDisk engine root.paths generation rows) later (.ok ())) :
    ∃ content, Complete engine generation rows content ∧ later.kindAt (root.place .ledger) = some (.file content) := by
  rw [createLedgerOnDisk_eq] at ended
  obtain ⟨clean, _, _, making⟩ := Finishes.of_andThen ended
  obtain ⟨filled, _, filling, syncing⟩ := Finishes.of_andThen making
  obtain ⟨file, content, made, there, read⟩ := engine.fill_committed _ _ _ _ _ (linkedFinishes_onLinked.mp filling)
  obtain ⟨synced, _, synced_, placing⟩ := Finishes.of_andThen syncing
  obtain rfl := reaches_reads (syncTemporary_reads _ _) (linkedFinishes_onLinked.mp synced_).reaches
  exact ⟨content, ⟨file, made, read⟩, finishes_placeLedger there placing⟩

theorem serve_createLedgerOnDisk {file : LedgerFile} (neat : Neat root tree)
    (absent : tree.kindAt (root.place .ledger) = none) (made : createLedgerFile generation rows = .ok file) :
    ∃ later, tree.linkedServe habits (createLedgerOnDisk engine root.paths generation rows) = (later, .ok ()) := by
  obtain ⟨clean, cleaned⟩ := @serve_removeStaleTemps _ _ habits neat
  have cleaning := finishes_served cleaned
  have neatClean := neat.reaches (asks_step_mono removeStaleTemps_step fun _ => Temp.ours) cleaning.reaches
  have absentClean := (kept removeStaleTemps_step ledger_spared.1 ledger_spared.2 cleaning.reaches).trans absent
  obtain ⟨filled, filled_⟩ := engine.fill_new clean habits root.parent (root.tempName generation) file
    (neatClean.above _ (List.prefix_refl _)) (finishes_removeStaleTemps cleaning (temp_generation generation))
    (finishes_removeStaleTemps cleaning (temp_journal generation))
  have filling := finishes_served filled_
  have neatFilled := neatClean.reaches (asks_step_mono fill_step fun _ => Temp.ours) filling.reaches
  have absentFilled := (kept fill_step ledger_spared.1 ledger_spared.2 filling.reaches).trans absentClean
  obtain ⟨_, content, _, there, _⟩ := engine.fill_committed _ _ _ _ _ filling
  have may : filled.mayLink (root.parent ++ [root.tempName generation]) root.paths.ledger = .ok () := by
    refine mayLink_eq_ok.mpr ⟨⟨content, there⟩, absentFilled, mayPut_of_absent dropLast_sibling ?_ absentFilled⟩
    exact neatFilled.above _ (List.prefix_refl _)
  have synced : filled.serve habits (syncTemporary root.parent (root.tempName generation)) = (filled, .ok ()) := rfl
  have still : (filled.linkFile (root.parent ++ [root.tempName generation]) root.paths.ledger).kindAt
      (root.parent ++ [root.tempName generation]) = some (.file content) := by
    rw [kindAt_linkFile there (mayLink_eq_ok.mp may).2.2]
    split
    · rfl
    · exact there
  rw [createLedgerOnDisk_eq, linkedServe_ok (linkedServe_onLinked.trans cleaned), made,
    linkedServe_ok (linkedServe_onLinked.trans filled_), linkedServe_ok (linkedServe_onLinked.trans synced)]
  unfold placeLedger
  dsimp only
  rw [linkedServe_ok (linkedServe_mapError (linkedServe_hardLink may)), linkedServe_onLinked]
  exact ⟨_, serve_ok (serve_mapError (serve_remove still))⟩

end Placing

end Gputeer.Agent
