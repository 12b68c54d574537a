import Gputeer.Agent.LedgerFiles
import Gputeer.Agent.RunLedgerSound
import Gputeer.Checkpoint.Committed
import Gputeer.Crypto.KeyringRoundTrip

/-! The paths of a run ledger, and what is kept of the files around them by every program that touches no others. -/

namespace Gputeer.Agent

open Checkpoint Dialogue FileTree Text Bytes

section Names

variable {name target suffix other : String} {blake3 : List UInt8 → Vector UInt8 32} {id : String}

theorem fromUTF8_eq_some {bytes : List UInt8} {text : String} :
    String.fromUTF8? ⟨bytes.toArray⟩ = some text ↔ bytes = utf8 text := by
  rw [← Keyring.decodeString_eq_ok]
  unfold Keyring.decodeString
  cases String.fromUTF8? ⟨bytes.toArray⟩ with
  | none => simp
  | some found => simp

theorem once_marker (plain : PlainName name) (marker : suffix = creatingSuffix ∨ suffix = adoptingSuffix) :
    OnceName (name ++ suffix) := by
  have ends : ∃ before, suffix.toList = before ++ ['g'] := by
    rcases marker with rfl | rfl
    · exact ⟨".run-ledger.creatin".toList, by decide⟩
    · exact ⟨".run-ledger.adoptin".toList, by decide⟩
  obtain ⟨before, whole⟩ := ends
  have longer : PlainName (name ++ suffix) := by
    refine plain.append ?_ ?_
    · rcases marker with rfl | rfl <;> decide
    · rcases marker with rfl | rfl <;> decide
  have last : (name ++ suffix).toList = (name.toList ++ before) ++ ['g'] := by
    rw [String.toList_append, whole, List.append_assoc]
  exact onceName_of_plain longer (relative_of_last longer last (by decide) (by decide))

theorem once_pair : OnceName pairName := by
  have plain : PlainName pairName := ⟨by decide, by decide, by decide, by decide⟩
  exact onceName_of_plain plain (relative_plain plain (by decide +kernel))

theorem isRecordName_started : isRecordName (startedAttemptName blake3 id) = true := by
  have size : (startedAttemptName blake3 id).utf8ByteSize = 64 := by
    unfold startedAttemptName
    rw [size_toHex, Vector.length_toList]
  have digits : (startedAttemptName blake3 id).toList.all
      (fun c => ('0' ≤ c && c ≤ '9') || ('a' ≤ c && c ≤ 'f')) = true :=
    List.all_eq_true.mpr fun c listed => lowerHex_toHex listed
  unfold isRecordName
  rw [size, digits]
  rfl

theorem isGeneration_new {random : Except String (Vector UInt8 16)} {generation : String}
    (made : newGeneration random = .ok generation) : isGeneration generation = true := by
  obtain ⟨bytes, _, same⟩ := Except.bind_eq_ok.mp made
  cases same
  have digits : (toHex bytes.toList).toList.all (fun c => ('0' ≤ c && c ≤ '9') || ('a' ≤ c && c ≤ 'f')) = true :=
    List.all_eq_true.mpr fun c listed => lowerHex_toHex listed
  unfold isGeneration
  rw [size_toHex, Vector.length_toList, digits]
  rfl

theorem noDot_of_isRecordName (record : isRecordName name = true) : '.' ∉ name.toList := by
  intro dot
  unfold isRecordName at record
  rw [Bool.and_eq_true, List.all_eq_true] at record
  exact absurd (record.2 '.' dot) (by decide)

theorem once_record : OnceName (startedAttemptName blake3 id) := by
  have size : (startedAttemptName blake3 id).utf8ByteSize = 64 := by
    unfold startedAttemptName
    rw [size_toHex, Vector.length_toList]
  have filled : (startedAttemptName blake3 id).toList ≠ [] := by
    intro none_
    rw [String.toList_eq_nil_iff] at none_
    rw [none_] at size
    cases size
  have digits : ∀ c ∈ (startedAttemptName blake3 id).toList, ∃ n < 16, c = Nat.digitChar n := fun c listed =>
    mem_toHex listed
  have plain : PlainName (startedAttemptName blake3 id) := by
    have noDot := noDot_of_isRecordName (@isRecordName_started blake3 id)
    refine ⟨fun none_ => filled (String.toList_eq_nil_iff.mpr none_), ?_, ?_, not_mem_toHex (by decide)⟩
    · intro same
      exact noDot (same ▸ by decide)
    · intro same
      exact noDot (same ▸ by decide)
  rcases List.eq_nil_or_concat' (startedAttemptName blake3 id).toList with none_ | ⟨before, c, whole⟩
  · exact absurd none_ filled
  · obtain ⟨n, small, rfl⟩ := digits c (by rw [whole]; simp)
    obtain ⟨noLock, noDot, noBlank⟩ := digitChar_plain n small
    exact onceName_of_plain plain (relative_of_last plain whole ⟨noDot, noBlank⟩ noLock)

theorem stripSuffix_append : strStripSuffix suffix (name ++ suffix) = some name := by
  have ends : suffix.toList <:+ (name ++ suffix).toList := by
    rw [String.toList_append]
    exact List.suffix_append _ _
  unfold strStripSuffix
  rw [endsWith, decide_eq_true ends, if_pos rfl, String.length_append, Nat.add_sub_cancel, String.toList_append,
    List.take_left' String.length_toList, String.ofList_toList]

theorem eq_of_stripSuffix (stripped : strStripSuffix suffix name = some target) : name = target ++ suffix := by
  unfold strStripSuffix at stripped
  split at stripped
  · next ends =>
    obtain ⟨before, whole⟩ := of_decide_eq_true ends
    rw [Option.some.injEq] at stripped
    subst stripped
    have length : name.length = before.length + suffix.length := by
      rw [← String.length_toList, ← whole, List.length_append, String.length_toList]
    apply String.toList_inj.mp
    rw [String.toList_append, String.toList_ofList, length, Nat.add_sub_cancel, ← whole, List.take_left']
    rfl
  · cases stripped

theorem stripPrefix_append : strStripPrefix other (other ++ name) = some name := by
  unfold strStripPrefix
  rw [String.toList_append, if_pos (List.prefix_append _ _), List.drop_left' String.length_toList,
    String.ofList_toList]

theorem eq_of_stripPrefix (stripped : strStripPrefix other name = some target) : name = other ++ target := by
  unfold strStripPrefix at stripped
  split at stripped
  · next begins =>
    obtain ⟨rest, whole⟩ := begins
    rw [Option.some.injEq] at stripped
    subst stripped
    apply String.toList_inj.mp
    rw [String.toList_append, String.toList_ofList, ← whole, ← String.length_toList, List.drop_left]
  · cases stripped

/-- What is left over is no record. -/
theorem residueTarget_cases (residue : residueTarget name = some target) :
    name = target ++ ".write_once.lock" ∨ name = target ++ ".tmp" := by
  unfold residueTarget at residue
  cases stripped : strStripSuffix ".write_once.lock" name with
  | some before =>
      rw [stripped] at residue
      cases residue
      exact Or.inl (eq_of_stripSuffix stripped)
  | none =>
      rw [stripped] at residue
      exact Or.inr (eq_of_stripSuffix residue)

theorem residueTarget_of_isRecordName (record : isRecordName name = true) : residueTarget name = none := by
  cases found : residueTarget name with
  | none => rfl
  | some target =>
      refine absurd ?_ (noDot_of_isRecordName record)
      rcases residueTarget_cases found with rfl | rfl <;> simp

theorem residueTarget_lock : residueTarget (name ++ ".write_once.lock") = some name := by
  unfold residueTarget
  rw [stripSuffix_append]
  rfl

theorem residueTarget_tmp : residueTarget (name ++ ".tmp") = some name := by
  have noLock : strStripSuffix ".write_once.lock" (name ++ ".tmp") = none := by
    cases stripped : strStripSuffix ".write_once.lock" (name ++ ".tmp") with
    | none => rfl
    | some before =>
        have whole := congrArg (fun text => text.toList.getLast?) (eq_of_stripSuffix stripped)
        simp [String.toList_append] at whole
  unfold residueTarget
  rw [noLock, stripSuffix_append]
  rfl

theorem pair_not_record : isRecordName pairName = false := by decide +kernel

theorem residueTarget_pair : residueTarget pairName = none := by decide +kernel

end Names

/-- A checkpoint root that is settled: one name in a folder. -/
structure RealRoot where
  parent : DiskPath
  name : String
  plain : PlainName name

namespace RealRoot

variable (root : RealRoot)

def sibling (suffix : String) : DiskPath := root.parent ++ [root.name ++ suffix]

def paths : LedgerPaths where
  ledger := root.sibling ledgerSuffix
  adopting := root.sibling adoptingSuffix
  creating := root.sibling creatingSuffix
  startedDir := root.sibling startedSuffix

def started (name : String) : DiskPath := root.paths.startedDir ++ [name]

/-- The name of the temporary ledger of this generation. -/
def tempName (generation : String) : String := root.name ++ ledgerSuffix ++ ".tmp-" ++ generation

/-- The paths of temporary ledgers. -/
def Temp (path : DiskPath) : Prop :=
  ∃ suffix, path = root.sibling suffix ∧ ".run-ledger.sqlite3.tmp-".toList <+: suffix.toList

/-- A left-over of a file among the start records. -/
def Residue (path : DiskPath) : Prop :=
  ∃ name target, path = root.started name ∧ residueTarget name = some target ∧
    (target = pairName ∨ isRecordName target = true)

/-- The names that may be among the start records. -/
def StartedName (name : String) : Prop :=
  name = pairName ∨ isRecordName name = true ∨
    ∃ target, residueTarget name = some target ∧ (target = pairName ∨ isRecordName target = true)

/-- The paths that the run ledger has to itself. -/
def Ours (path : DiskPath) : Prop :=
  (∃ suffix, path = root.sibling suffix ∧ ".run-ledger.".toList <+: suffix.toList) ∨
    ∃ name, path = root.started name ∧ StartedName name

variable {root} {suffix other name : String} {path : DiskPath}

@[simp] theorem sibling_inj : root.sibling suffix = root.sibling other ↔ suffix = other := by
  unfold sibling
  rw [List.append_cancel_left_eq, List.cons.injEq, ← String.toList_inj, String.toList_append, String.toList_append,
    List.append_cancel_left_eq, String.toList_inj]
  exact and_iff_left rfl

@[simp] theorem started_inj : root.started name = root.started other ↔ name = other := by
  unfold started
  rw [List.append_cancel_left_eq, List.cons.injEq]
  exact and_iff_left rfl

theorem length_sibling : (root.sibling suffix).length = root.parent.length + 1 := by
  simp [sibling]

theorem length_started : (root.started name).length = root.parent.length + 2 := by
  simp [started, paths, length_sibling]

@[simp] theorem sibling_ne_started : root.sibling suffix ≠ root.started name := by
  intro same
  have := congrArg List.length same
  rw [length_sibling, length_started] at this
  omega

theorem dropLast_sibling : (root.sibling suffix).dropLast = root.parent := List.dropLast_concat

theorem forRoot_paths : LedgerPaths.forRoot (root.parent ++ [root.name]) = .ok root.paths := by
  have sibling (suffix : String) : checkpointRootSibling (root.parent ++ [root.name]) suffix =
      .ok (root.sibling suffix) := by
    unfold checkpointRootSibling
    rw [List.getLast?_concat]
    simp [RealRoot.sibling]
  simp only [LedgerPaths.forRoot, sibling]
  rfl

@[simp] theorem parentDir_paths : root.paths.parentDir = .ok root.parent := by
  have below : root.paths.ledger ≠ [] := by simp [paths, RealRoot.sibling]
  unfold LedgerPaths.parentDir
  rw [if_neg below]
  exact congrArg Except.ok dropLast_sibling

@[simp] theorem fileName_sibling : LedgerPaths.fileName (root.sibling suffix) = .ok (root.name ++ suffix) := by
  unfold LedgerPaths.fileName RealRoot.sibling
  rw [List.getLast?_concat]
  rfl

@[simp] theorem tempPrefix_paths : root.paths.tempPrefix = .ok (root.name ++ ledgerSuffix ++ ".tmp-") := by
  unfold LedgerPaths.tempPrefix
  change (LedgerPaths.fileName (root.sibling ledgerSuffix) >>= _) = _
  rw [fileName_sibling]
  rfl

theorem Temp.ours (temp : root.Temp path) : root.Ours path := by
  obtain ⟨suffix, rfl, begins⟩ := temp
  exact Or.inl ⟨suffix, rfl, List.IsPrefix.trans (by decide) begins⟩

theorem Residue.ours (residue : root.Residue path) : root.Ours path := by
  obtain ⟨name, target, rfl, found, fits⟩ := residue
  exact Or.inr ⟨name, rfl, Or.inr (Or.inr ⟨target, found, fits⟩)⟩

theorem ours_started : root.Ours (root.started name) ↔ StartedName name := by
  constructor
  · rintro (⟨suffix, same, _⟩ | ⟨other, same, fits⟩)
    · exact absurd same.symm sibling_ne_started
    · exact started_inj.mp same ▸ fits
  · exact fun fits => Or.inr ⟨name, rfl, fits⟩

theorem ours_sibling : root.Ours (root.sibling suffix) ↔ ".run-ledger.".toList <+: suffix.toList := by
  constructor
  · rintro (⟨other, same, begins⟩ | ⟨name, same, _⟩)
    · exact sibling_inj.mp same ▸ begins
    · exact absurd same sibling_ne_started
  · exact fun begins => Or.inl ⟨suffix, rfl, begins⟩

/-- The folder of the start records is no path of ours, nor on the way to it. -/
theorem Ours.not_above (ours : root.Ours path) : ¬ path <+: root.paths.startedDir := by
  intro above
  rcases ours with ⟨suffix, rfl, begins⟩ | ⟨name, rfl, _⟩
  · have same : root.sibling suffix = root.sibling startedSuffix :=
      above.eq_of_length (by simp [paths, length_sibling])
    rw [sibling_inj] at same
    subst same
    exact absurd begins (by decide)
  · have := above.length_le
    simp [length_started, paths, length_sibling] at this

/-- The four files that say how far the ledger is. -/
inductive Place where
  | ledger
  | pair
  | adopting
  | creating
  deriving DecidableEq

def place (root : RealRoot) : Place → DiskPath
  | .ledger => root.paths.ledger
  | .pair => root.paths.pair
  | .adopting => root.paths.adopting
  | .creating => root.paths.creating

variable {spot rival : Place}

theorem place_pair : root.place .pair = root.started pairName := rfl

theorem place_ours (root : RealRoot) (spot : Place) : root.Ours (root.place spot) := by
  cases spot with
  | pair => exact ours_started.mpr (Or.inl rfl)
  | ledger => exact ours_sibling.mpr (by decide)
  | adopting => exact ours_sibling.mpr (by decide)
  | creating => exact ours_sibling.mpr (by decide)

theorem place_inj : root.place spot = root.place rival ↔ spot = rival := by
  have pair_ne (suffix : String) : root.sibling suffix ≠ root.place .pair := place_pair ▸ sibling_ne_started
  refine ⟨fun same => ?_, fun same => congrArg _ same⟩
  cases spot <;> cases rival <;>
    first
    | rfl
    | exact absurd same (pair_ne _)
    | exact absurd same.symm (pair_ne _)
    | exact absurd (sibling_inj.mp same) (by decide)

theorem place_not_temp : ¬ root.Temp (root.place spot) := by
  rintro ⟨suffix, same, begins⟩
  cases spot with
  | pair => exact sibling_ne_started same.symm
  | ledger => exact absurd (sibling_inj.mp same ▸ begins) (by decide)
  | adopting => exact absurd (sibling_inj.mp same ▸ begins) (by decide)
  | creating => exact absurd (sibling_inj.mp same ▸ begins) (by decide)

theorem place_not_residue : ¬ root.Residue (root.place spot) := by
  rintro ⟨name, target, same, found, _⟩
  cases spot with
  | pair =>
      rw [place_pair, started_inj] at same
      rw [← same, residueTarget_pair] at found
      cases found
  | ledger => exact sibling_ne_started same
  | adopting => exact sibling_ne_started same
  | creating => exact sibling_ne_started same

/-- A start record is no left-over, no temporary ledger and at none of the places. -/
theorem record_spared (record : isRecordName name = true) :
    ¬ root.Temp (root.started name) ∧ ¬ root.Residue (root.started name) ∧ root.started name ≠ root.place spot := by
  refine ⟨fun ⟨_, same, _⟩ => sibling_ne_started same.symm, ?_, ?_⟩
  · rintro ⟨other, target, same, found, _⟩
    rw [started_inj] at same
    rw [← same, residueTarget_of_isRecordName record] at found
    cases found
  · intro same
    cases spot with
    | pair =>
        rw [place_pair, started_inj] at same
        rw [same, pair_not_record] at record
        cases record
    | ledger => exact sibling_ne_started same.symm
    | adopting => exact sibling_ne_started same.symm
    | creating => exact sibling_ne_started same.symm

end RealRoot

open RealRoot

section Frames

variable {root : RealRoot} {May Also : DiskPath → Prop} {asked : FileQuestion} {tree later : FileTree}
  {path : DiskPath} {α : Type} {dialogue : LinkedDialogue α} {plain : FileDialogue α}

/-- The step makes folders on the way to the start records, or touches only such paths, and removes no folder. -/
def Step (root : RealRoot) (May : DiskPath → Prop) (asked : FileQuestion) : Prop :=
  ((∃ made, asked = .createFolders made ∧ made <+: root.paths.startedDir) ∨ ∀ path, asked.Changes path → May path) ∧
    ∀ path, asked ≠ .removeFolder path

/-- And gives a second name only to the ledger. -/
def LinkedStep (root : RealRoot) (May : DiskPath → Prop) : LinkedQuestion → Prop :=
  Sum.elim (Step root May) fun | .link _ target => target = root.place .ledger

theorem Step.mono (step : Step root May asked) (implies : ∀ path, May path → Also path) : Step root Also asked :=
  ⟨step.1.imp id fun touches path changes => implies path (touches path changes), step.2⟩

theorem asks_step_mono (asks : plain.Asks (Step root May)) (implies : ∀ path, May path → Also path) :
    plain.Asks (Step root Also) :=
  Asks.mono asks fun _ step => step.mono implies

theorem step_reads (reads : asked.Reads) : Step root May asked :=
  ⟨Or.inr (touches_reads reads).1, (@touches_reads May _ reads).2⟩

theorem asks_touches (asks : plain.Asks (Touches May)) : plain.Asks (Step root May) :=
  Asks.mono asks fun _ touches => ⟨Or.inr touches.1, touches.2⟩

theorem asks_reads (asks : plain.Asks FileQuestion.Reads) : plain.Asks (Step root May) :=
  Asks.mono asks fun _ => step_reads

theorem asks_onLinked (asks : plain.Asks (Step root May)) : plain.onLinked.Asks (LinkedStep root May) :=
  asks_lift asks

theorem linkedStep_mono (asks : dialogue.Asks (LinkedStep root May)) (implies : ∀ path, May path → Also path) :
    dialogue.Asks (LinkedStep root Also) := by
  refine Asks.mono asks fun asked step => ?_
  rcases asked with asked | ⟨source, target⟩
  · exact Step.mono step implies
  · exact step

theorem Step.unchanged (step : Step root May asked) (spared : ¬ May path) (off : ¬ path <+: root.paths.startedDir) :
    ¬ asked.Changes path := by
  intro changes
  rcases step.1 with ⟨made, rfl, way⟩ | touches
  · exact off (List.IsPrefix.trans changes way)
  · exact spared (touches path changes)

/-- Nothing else is touched, wherever the program is stopped. -/
theorem kept (asks : plain.Asks (Step root May)) (spared : ¬ May path) (off : ¬ path <+: root.paths.startedDir)
    (reached : tree.Reaches plain later) : later.kindAt path = tree.kindAt path :=
  kindAt_reaches (Asks.mono asks fun _ step => step.unchanged spared off) reached

theorem linkedKept (asks : dialogue.Asks (LinkedStep root May)) (spared : ¬ May path)
    (off : ¬ path <+: root.paths.startedDir) (unlinked : path ≠ root.place .ledger)
    (reached : tree.LinkedReaches dialogue later) : later.kindAt path = tree.kindAt path := by
  refine kindAt_linkedReaches (Asks.mono asks fun asked step changes => ?_) reached
  rcases asked with asked | ⟨source, target⟩
  · exact Step.unchanged step spared off changes
  · exact unlinked (Eq.trans changes step)

/-- A ledger that is there stays as it is. -/
theorem ledgerKept {content : List UInt8} (asks : dialogue.Asks (LinkedStep root May))
    (spared : ¬ May (root.place .ledger)) (reached : tree.LinkedReaches dialogue later)
    (there : tree.kindAt (root.place .ledger) = some (.file content)) :
    later.kindAt (root.place .ledger) = some (.file content) := by
  have off := (place_ours root .ledger).not_above
  induction reached with
  | stop => exact there
  | @ask state later asked answered next said rest ih =>
      refine ih (asks.2 _) ?_
      have step := asks.1
      rcases asked with asked | ⟨source, target⟩
      · exact (@kindAt_linkedEffect _ _ (.inl asked) answered (Step.unchanged step spared off)).trans there
      · cases answered with
        | error failure => exact there
        | ok done =>
            rcases said with same | ⟨why, no⟩
            · have absent := (mayLink_eq_ok.mp same.symm).2.1
              rw [show target = root.place .ledger from step, there] at absent
              cases absent
            · cases no

end Frames

section Neat

variable {root : RealRoot} {tree later : FileTree} {path : DiskPath} {α : Type} {dialogue : LinkedDialogue α}
  {plain : FileDialogue α}

/-- The folders stand, files have the names of files, and nothing else is among the start records. -/
structure Neat (root : RealRoot) (tree : FileTree) : Prop where
  above : ∀ path, path <+: root.parent → tree.kindAt path = some .folder
  started : tree.kindAt root.paths.startedDir = none ∨ tree.kindAt root.paths.startedDir = some .folder
  files : ∀ path, root.Ours path → tree.kindAt path ≠ some .folder
  names : ∀ name, (tree.kindAt (root.started name)).isSome → StartedName name

theorem startedDir_not_ours : ¬ root.Ours root.paths.startedDir := fun ours => ours.not_above (List.prefix_refl _)

/-- No step puts a file where folders are made. -/
theorem startedDir_linkedEffect {asked : LinkedQuestion} (answered : asked.Answer)
    (step : LinkedStep root root.Ours asked)
    (started : tree.kindAt root.paths.startedDir = none ∨ tree.kindAt root.paths.startedDir = some .folder) :
    (tree.linkedEffect ⟨asked, answered⟩).kindAt root.paths.startedDir = none ∨
      (tree.linkedEffect ⟨asked, answered⟩).kindAt root.paths.startedDir = some .folder := by
  rcases asked with asked | ⟨source, target⟩
  · rcases step.1 with ⟨made, rfl, way⟩ | touches
    · cases answered with
      | error failure => exact started
      | ok done =>
          rcases putFolders_or made.inits with same | folder
          · exact started.imp same.trans same.trans
          · exact Or.inr folder
    · rw [kindAt_linkedEffect answered fun changes => startedDir_not_ours (touches _ changes)]
      exact started
  · have away : root.paths.startedDir ≠ target := fun same =>
      startedDir_not_ours (same.trans step ▸ place_ours root .ledger)
    rw [kindAt_linkedEffect answered away]
    exact started

theorem linkedStep_makes {asked : LinkedQuestion} {made : DiskPath} (step : LinkedStep root root.Ours asked)
    (makes : asked = .inl (.createFolders made)) : made <+: root.paths.startedDir := by
  subst makes
  rcases step.1 with ⟨other, same, way⟩ | touches
  · cases same
    exact way
  · exact absurd (List.nil_prefix) (touches [] List.nil_prefix).not_above

theorem linkedStep_keeps {May : DiskPath → Prop} {asked : LinkedQuestion} (step : LinkedStep root May asked) :
    asked ≠ .inl (.removeFolder path) := by
  rintro rfl
  exact step.2 path rfl

/-- Such a program leaves the files neat, wherever it is stopped. -/
theorem Neat.linkedReaches (neat : Neat root tree) (asks : dialogue.Asks (LinkedStep root root.Ours))
    (reached : tree.LinkedReaches dialogue later) : Neat root later where
  above := fun path inside =>
    folder_linkedReaches (Asks.mono asks fun _ step => linkedStep_keeps step) reached (neat.above path inside)
  started := by
    refine @Asks.reaches_keeps _ _ _ _ _ linkedEffect _ _ _ _
      (fun first later => (first.kindAt root.paths.startedDir = none ∨
        first.kindAt root.paths.startedDir = some .folder) → later.kindAt root.paths.startedDir = none ∨
        later.kindAt root.paths.startedDir = some .folder) (fun _ same => same)
      (fun _ _ _ answered step kept first => startedDir_linkedEffect answered step (kept first)) asks reached neat.started
  files := by
    intro path ours there
    rcases @folder_of_linkedReaches _ _ _ _ _ (fun made => made <+: root.paths.startedDir)
      (Asks.mono asks fun _ step made makes => linkedStep_makes step makes) reached there with before | ⟨made, way, inside⟩
    · exact neat.files path ours before
    · exact ours.not_above (List.IsPrefix.trans inside way)
  names := by
    intro name there
    by_contra unknown
    have off : ¬ root.started name <+: root.paths.startedDir := fun above => by
      have := above.length_le
      simp [length_started, paths, length_sibling] at this
    have unlinked : root.started name ≠ root.place .ledger := fun same =>
      unknown (ours_started.mp (same ▸ place_ours root .ledger))
    rw [linkedKept asks (fun ours => unknown (ours_started.mp ours)) off unlinked reached] at there
    exact unknown (neat.names name there)

theorem Neat.reaches (neat : Neat root tree) (asks : plain.Asks (Step root root.Ours))
    (reached : tree.Reaches plain later) : Neat root later :=
  neat.linkedReaches (asks_onLinked asks) (linkedReaches_onLinked.mpr reached)

theorem Neat.isFile (neat : Neat root tree) (ours : root.Ours path) :
    tree.kindAt path = none ∨ ∃ content, tree.kindAt path = some (.file content) := by
  cases there : tree.kindAt path with
  | none => exact Or.inl rfl
  | some entry =>
      cases entry with
      | folder => exact absurd there (neat.files path ours)
      | file content => exact Or.inr ⟨content, rfl⟩

end Neat

end Gputeer.Agent
