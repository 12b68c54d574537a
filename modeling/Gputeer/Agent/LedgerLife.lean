import Gputeer.Agent.LedgerReopening
import Mathlib.Data.Countable.Basic
import Mathlib.Logic.Equiv.List
import Mathlib.Logic.Relation

/-! The life of a node: its programs, each stopped anywhere, and what becomes of the run ledger and its rows. -/

namespace Gputeer.Agent

open Checkpoint Dialogue FileTree Text Bytes RealRoot

variable {blake3 : List UInt8 → Vector UInt8 32} {engine : LedgerEngine} {root : RealRoot} {tree later : FileTree}
  {generation id : String} {marker rival : Place}

section Recording

variable {other : String} {spot : Place}

/-- The ledger has a row of this attempt. -/
def HasRow (engine : LedgerEngine) (root : RealRoot) (tree : FileTree) (id : String) : Prop :=
  ∃ content file row, tree.kindAt (root.place .ledger) = some (.file content) ∧ engine.read content = .ok file ∧
    file.row id = .ok (some row)

/-- The node has never had a ledger, nor begun one. -/
def NeverEnabled (root : RealRoot) (tree : FileTree) : Prop := ∀ spot, tree.kindAt (root.place spot) = none

theorem mem_of_hasRow {typed : TypedLedger} {file : LedgerFile} {content : List UInt8}
    (has : HasRow engine root tree id) (there : tree.kindAt (root.place .ledger) = some (.file content))
    (read : engine.read content = .ok file) (mirrors : Mirrors file typed) : id ∈ typed := by
  obtain ⟨_, _, row, again, reads, found⟩ := has
  rw [there, Option.some.injEq, DiskEntry.file.injEq] at again
  rw [← again, read] at reads
  cases reads
  rw [row_of_mirrors mirrors, Except.ok.injEq] at found
  exact Std.ExtTreeMap.mem_iff_isSome_getElem?.mpr (by rw [found]; rfl)

/-- One more attempt is recorded that has its row. -/
theorem Phase.recorded (phase : Phase blake3 engine root tree marker rival generation)
    (same : ∀ spot, later.kindAt (root.place spot) = tree.kindAt (root.place spot)) (has : HasRow engine root tree id)
    (records : ∀ other, Recorded blake3 root later other → Recorded blake3 root tree other ∨ other = id) :
    Phase blake3 engine root later marker rival generation where
  formed := phase.formed
  alone := (same rival).trans phase.alone
  stage := by
    rcases phase.stage with ⟨_, absent⟩ | ⟨marked, paired, content, ⟨file, typed, read, sound, rows⟩, there⟩
    · obtain ⟨_, _, _, there, _⟩ := has
      rw [absent] at there
      cases there
    · refine Or.inr ⟨?_, (same .pair).trans paired, content, ⟨file, typed, read, sound, fun other recorded => ?_⟩,
        (same .ledger).trans there⟩
      · rw [same]
        exact marked
      · rcases records other recorded with before | rfl
        · exact rows other before
        · exact mem_of_hasRow has there read sound.mirrors

/-- An attempt is recorded that has its row, or on a node that has no ledger. -/
theorem Node.records (node : Node blake3 engine root tree) (named : RecordId id)
    (backed : HasRow engine root tree id ∨ NeverEnabled root tree)
    (reached : tree.Reaches (recordAttemptStartedHere blake3 root.paths id) later) : Node blake3 engine root later := by
  obtain ⟨valid, _, records, placed⟩ := reaches_record node.neat node.valid named reached
  have same (spot : Place) : later.kindAt (root.place spot) = tree.kindAt (root.place spot) :=
    kept record_step touched_record_place (place_ours root spot).not_above reached
  refine ⟨node.neat.reaches (asks_step_mono record_step fun _ => touched_started (Or.inr isRecordName_started)) reached,
    valid, fun absent other recorded => ?_, ?_⟩
  · rcases placed with unchanged | folder
    · refine node.housed ?_ other ((recorded_iff unchanged).mp recorded)
      rcases node.neat.started with none_ | there
      · exact none_
      · rw [folder_reaches (Asks.mono record_step fun _ step => step.2 _) reached there] at absent
        cases absent
    · rw [folder] at absent
      cases absent
  · rcases backed with has | never
    · rcases node.phase with ⟨generation, phase, _⟩ | ⟨generation, phase⟩
      · refine Or.inl ⟨generation, phase.recorded same has records, fun absent => ?_⟩
        obtain ⟨_, _, _, there, _⟩ := has
        rw [same, there] at absent
        cases absent
      · exact Or.inr ⟨generation, phase.recorded same has records⟩
    · have formed : ∃ generation, isGeneration generation = true :=
        node.phase.elim (fun ⟨generation, phase, _⟩ => ⟨generation, phase.formed⟩)
          fun ⟨generation, phase⟩ => ⟨generation, phase.formed⟩
      obtain ⟨generation, formed⟩ := formed
      have unmade (spot : Place) : later.kindAt (root.place spot) = none := (same spot).trans (never spot)
      exact Or.inr ⟨generation, formed, unmade .creating,
        Or.inl ⟨Or.inl ⟨unmade .adopting, unmade .pair⟩, unmade .ledger⟩⟩

end Recording

section Calling

variable {made : LedgerCall × Bool}

/-- A call on the ledger, whose transaction is committed or not. -/
structure Called (engine : LedgerEngine) (root : RealRoot) (made : LedgerCall × Bool) (tree later : FileTree) :
    Prop where
  others : ∀ path, path ≠ root.place .ledger → later.kindAt path = tree.kindAt path
  wrote : ∃ content file image, tree.kindAt (root.place .ledger) = some (.file content) ∧
    engine.read content = .ok file ∧ later.kindAt (root.place .ledger) = some (.file image) ∧
      engine.read image = .ok (ledgerStep file made)

theorem mem_meantStep {typed : TypedLedger} (there : id ∈ typed) : id ∈ meantStep typed made := by
  obtain ⟨row, found⟩ := Option.isSome_iff_exists.mp (Std.ExtTreeMap.mem_iff_isSome_getElem?.mp there)
  obtain ⟨later, still, _⟩ := meantStep_becomes typed made found
  exact Std.ExtTreeMap.mem_iff_isSome_getElem?.mpr (by rw [still]; rfl)

theorem Phase.called (phase : Phase blake3 engine root tree marker rival generation) (apart : marker ≠ .ledger)
    (other : rival ≠ .ledger) (fromNew : made.1.FromNewActive) (called : Called engine root made tree later)
    (records : ∀ id, Recorded blake3 root later id → Recorded blake3 root tree id) :
    Phase blake3 engine root later marker rival generation where
  formed := phase.formed
  alone := (called.others _ fun same => other (place_inj.mp same)).trans phase.alone
  stage := by
    have keeps (spot : Place) (away : spot ≠ .ledger) : later.kindAt (root.place spot) = tree.kindAt (root.place spot) :=
      called.others _ fun same => away (place_inj.mp same)
    obtain ⟨content, file, image, there, read, written, reads⟩ := called.wrote
    rcases phase.stage with ⟨_, absent⟩ | ⟨marked, paired, before, ⟨file', typed, read', sound, rows⟩, stands⟩
    · rw [absent] at there
      cases there
    · rw [there, Option.some.injEq, DiskEntry.file.injEq] at stands
      rw [← stands, read] at read'
      cases read'
      refine Or.inr ⟨?_, (keeps .pair (by simp)).trans paired, image,
        ⟨_, _, reads, sound.step fromNew, fun id recorded => mem_meantStep (rows id (records id recorded))⟩, written⟩
      rw [keeps marker apart]
      exact marked

theorem Node.calls (node : Node blake3 engine root tree) (fromNew : made.1.FromNewActive)
    (called : Called engine root made tree later) : Node blake3 engine root later := by
  have started (name : String) (record : isRecordName name = true) :
      later.kindAt (root.started name) = tree.kindAt (root.started name) :=
    called.others _ (@record_spared _ _ .ledger record).2.2
  have housing : later.kindAt root.paths.startedDir = tree.kindAt root.paths.startedDir :=
    called.others _ fun same => startedDir_not_ours (same ▸ place_ours root .ledger)
  have records (id : String) := @recorded_iff blake3 _ _ _ id started
  obtain ⟨_, _, image, there, _, written, _⟩ := called.wrote
  refine ⟨⟨fun path inside => ?_, ?_, fun path ours folder => ?_, fun name there => ?_⟩,
    fun name content record there => ?_, fun absent id recorded => ?_, ?_⟩
  · refine (called.others path fun same => ?_).trans (node.neat.above path inside)
    have := (same ▸ inside).length_le
    simp [place, paths, length_sibling] at this
  · rw [housing]
    exact node.neat.started
  · by_cases mine : path = root.place .ledger
    · rw [mine, written] at folder
      cases folder
    · exact node.neat.files path ours (called.others path mine ▸ folder)
  · refine node.neat.names name ?_
    rw [← called.others]
    · exact there
    · exact fun same => sibling_ne_started same.symm
  · exact node.valid name content record (started name record ▸ there)
  · exact node.housed (housing.symm.trans absent) id ((records id).mp recorded)
  · rcases node.phase with ⟨generation, phase, fresh⟩ | ⟨generation, phase⟩
    · refine Or.inl ⟨generation, phase.called (by simp) (by simp) fromNew called fun id => (records id).mp,
        fun absent => ?_⟩
      rw [written] at absent
      cases absent
    · exact Or.inr ⟨generation, phase.called (by simp) (by simp) fromNew called fun id => (records id).mp⟩

end Calling

section Life

/-- What happens on a node: a program, stopped anywhere or not, or a call on the ledger. -/
inductive LifeStep (blake3 : List UInt8 → Vector UInt8 32) (engine : LedgerEngine) (root : RealRoot)
    (tree later : FileTree) : Prop
  | opens (random : Except String (Vector UInt8 16))
      (reached : tree.LinkedReaches (openForAgent blake3 engine root.paths random) later)
  | adopts (random : Except String (Vector UInt8 16)) (attested : Bool)
      (reached : tree.LinkedReaches (adoptLegacyFiles blake3 engine root.paths random attested) later)
  | clears (reached : tree.Reaches (openForClear blake3 engine root.paths) later)
  | calls (made : LedgerCall × Bool) (fromNew : made.1.FromNewActive) (called : Called engine root made tree later)
  | records (id : String) (named : RecordId id) (backed : HasRow engine root tree id ∨ NeverEnabled root tree)
      (reached : tree.Reaches (recordAttemptStartedHere blake3 root.paths id) later)

abbrev Life (blake3 : List UInt8 → Vector UInt8 32) (engine : LedgerEngine) (root : RealRoot) :
    FileTree → FileTree → Prop := Relation.ReflTransGen (LifeStep blake3 engine root)

theorem Node.step (node : Node blake3 engine root tree) (step : LifeStep blake3 engine root tree later) :
    Node blake3 engine root later := by
  cases step with
  | opens random reached => exact node.opens reached
  | adopts random attested reached => exact node.adopts reached
  | clears reached => exact node.clears reached
  | calls made fromNew called => exact node.calls fromNew called
  | records id named backed reached => exact node.records named backed reached

theorem Node.life (node : Node blake3 engine root tree) (life : Life blake3 engine root tree later) :
    Node blake3 engine root later := by
  induction life with
  | refl => exact node
  | tail _ step ih => exact ih.step step

/-- A new node, or one that has run without a ledger: there are start records at most. -/
structure UntouchedRoot (blake3 : List UInt8 → Vector UInt8 32) (root : RealRoot) (tree : FileTree) : Prop where
  neat : Neat root tree
  valid : Valid blake3 root tree
  housed : tree.kindAt root.paths.startedDir = none → ∀ id, ¬ Recorded blake3 root tree id
  never : NeverEnabled root tree

theorem UntouchedRoot.node (untouched : UntouchedRoot blake3 root tree) : Node blake3 engine root tree where
  neat := untouched.neat
  valid := untouched.valid
  housed := untouched.housed
  phase := by
    have made : newGeneration (.ok (Vector.replicate 16 0)) = .ok (toHex (Vector.replicate 16 0).toList) := rfl
    exact Or.inr ⟨_, isGeneration_new made, untouched.never _,
      Or.inl ⟨Or.inl ⟨untouched.never _, untouched.never _⟩, untouched.never _⟩⟩

end Life

section Image

instance countableChar : Countable Char := Function.Injective.countable fun _ _ same => Char.toNat_inj.mp same

instance countableString : Countable String := Function.Injective.countable fun _ _ same => String.toList_inj.mp same

/-- The columns by their types. -/
def RawRow.parts (row : RawRow) : List String × List (Option String) × List (Option Int) :=
  ([row.attemptId, row.origin, row.executor, row.state],
    [row.jobId, row.nodeId, row.runtimeProgram, row.runtimeKind, row.containerName, row.containerId, row.cgroupPath,
      row.reason],
    [row.rowFormatVersion, row.fenceEpoch, row.stopped, row.logsComplete, row.containerLeft, row.containerRemoved])

theorem parts_injective : Function.Injective RawRow.parts := by
  rintro ⟨⟩ ⟨⟩ same
  simp only [RawRow.parts, Prod.mk.injEq, List.cons.injEq, Option.some.injEq, and_true] at same
  grind

instance : Countable RawRow := parts_injective.countable

instance {α : Type} [Countable α] : Countable (Table String α) :=
  Function.Injective.countable fun (first second : Table String α) (same : first.toList = second.toList) =>
    Std.ExtTreeMap.ext_toList (same ▸ List.Perm.refl _)

instance : Countable LedgerFile :=
  Function.Injective.countable fun (first second : LedgerFile)
    (same : (first.metaRows, first.attempts) = (second.metaRows, second.attempts)) => by
      obtain ⟨metaRows, attempts⟩ := first
      cases same
      rfl

/-- The bytes of a ledger, in some form. -/
noncomputable def ledgerImage (file : LedgerFile) : List UInt8 :=
  List.replicate (Classical.choose (exists_injective_nat LedgerFile) file) 0

theorem ledgerImage_injective : Function.Injective ledgerImage := by
  intro first second same
  refine Classical.choose_spec (exists_injective_nat LedgerFile) ?_
  have lengths := congrArg List.length same
  rwa [ledgerImage, ledgerImage, List.length_replicate, List.length_replicate] at lengths

open Classical in
noncomputable def readImage (content : List UInt8) : Except String LedgerFile :=
  if there : ∃ file, ledgerImage file = content then .ok there.choose else .error "file is not a database"

theorem readImage_ledgerImage (file : LedgerFile) : readImage (ledgerImage file) = .ok file := by
  have there : ∃ other, ledgerImage other = ledgerImage file := ⟨file, rfl⟩
  rw [readImage, dif_pos there, ledgerImage_injective there.choose_spec]

/-- The engine that writes a ledger as one image. -/
noncomputable def imageEngine : LedgerEngine where
  fill folder name body :=
    match body with
    | .error why => pure (.error why)
    | .ok file => Except.mapError CheckpointError.display <$> writeTemporary (folder ++ [name]) (ledgerImage file)
  read := readImage
  fill_steps := by
    intro folder name body
    cases body with
    | error why => exact asks_pure _
    | ok file =>
        refine Asks.map (Asks.andThen (Asks.map (asks_question ?_)) fun _ =>
          Asks.andThen (Asks.map (asks_question ?_)) fun _ => Asks.map (asks_question (Or.inl trivial)))
        · exact Or.inr ⟨name, Or.inl rfl, Or.inl rfl⟩
        · exact Or.inr ⟨name, Or.inl rfl, Or.inr (Or.inl ⟨_, rfl⟩)⟩
  fill_committed := by
    intro tree later folder name body ended
    cases body with
    | error why => cases (Finishes.of_pure ended).2
    | ok file =>
        obtain ⟨_, kinds⟩ := finishes_writeTemporary (Finishes.of_mapError ended)
        exact ⟨file, _, rfl, (kinds _).trans (if_pos rfl), readImage_ledgerImage file⟩
  fill_new := by
    intro tree habits folder name file there absent _
    exact ⟨_, serve_mapError (serve_writeTemporary (mayPut_of_absent List.dropLast_concat there absent))⟩

def sampleRoot : RealRoot := ⟨[], "ckpt", ⟨by decide, by decide, by decide, by decide⟩⟩

def sampleHash (_ : List UInt8) : Vector UInt8 32 := Vector.replicate 32 7

def sampleBytes : Vector UInt8 16 := Vector.replicate 16 1

theorem kindAt_sample (path : DiskPath) (below : path ≠ []) : (∅ : FileTree).kindAt path = none := by
  cases path with
  | nil => exact absurd rfl below
  | cons name rest => simp [kindAt]

theorem started_sample (name : String) : (∅ : FileTree).kindAt (sampleRoot.started name) = none :=
  kindAt_sample _ (by simp [RealRoot.started])

theorem untouched_empty : UntouchedRoot sampleHash sampleRoot ∅ := by
  refine ⟨⟨fun path inside => ?_, Or.inl (kindAt_sample _ (by simp [paths, sibling])), fun path ours folder => ?_,
    fun name there => ?_⟩, fun name content _ there => ?_, fun _ id recorded => ?_, fun spot => kindAt_sample _ ?_⟩
  · rw [List.prefix_nil.mp inside]
    rfl
  · rw [kindAt_sample path fun same => ours.not_above (same ▸ List.nil_prefix)] at folder
    cases folder
  · rw [started_sample] at there
    cases there
  · rw [started_sample] at there
    cases there
  · have there := recorded.there
    rw [started_sample] at there
    cases there
  · exact fun same => (place_ours sampleRoot spot).not_above (same ▸ List.nil_prefix)

/-- An attempt was started here before there was a ledger. -/
def oneRecorded : FileTree :=
  ((∅ : FileTree).serve Habits.quiet (recordAttemptStartedHere sampleHash sampleRoot.paths "old")).1

theorem recorded_old : Recorded sampleHash sampleRoot oneRecorded "old" ∧
    (∅ : FileTree).Reaches (recordAttemptStartedHere sampleHash sampleRoot.paths "old") oneRecorded := by
  obtain ⟨later, served⟩ := @serve_record sampleHash _ _ "old" Habits.quiet untouched_empty.neat
    (fun _ => rfl) (started_sample _)
  have same : oneRecorded = later := by rw [oneRecorded, served]
  rw [same]
  exact ⟨recorded_of_finishes ⟨by decide, by decide⟩ (finishes_served served), (finishes_served served).reaches⟩

theorem life_oneRecorded : Life sampleHash imageEngine sampleRoot ∅ oneRecorded :=
  .single (.records "old" recorded_old.1.valid (Or.inr untouched_empty.never) recorded_old.2)

theorem ledger_of_oneRecorded : oneRecorded.kindAt (sampleRoot.place .ledger) = none :=
  (kept record_step touched_record_place (place_ours sampleRoot .ledger).not_above recorded_old.2).trans
    (untouched_empty.never _)

end Image

section Recovery

variable {habits : Habits} {bytes fresh : Vector UInt8 16} {attested : Bool}

/-- Nothing is left to the command: no adoption is begun, and a ledger is there unless nothing was recorded. -/
def ForAgent (blake3 : List UInt8 → Vector UInt8 32) (root : RealRoot) (tree : FileTree) : Prop :=
  tree.kindAt (root.place .adopting) = none ∧
    (tree.kindAt (root.place .ledger) = none → ∀ id, ¬ Recorded blake3 root tree id)

/-- On this disk an Agent gets its ledger, with a row for each attempt that was recorded. -/
def AgentOpens (blake3 : List UInt8 → Vector UInt8 32) (engine : LedgerEngine) (root : RealRoot) (habits : Habits)
    (bytes : Vector UInt8 16) (tree : FileTree) : Prop :=
  ∃ opened ledger, tree.linkedServe habits (openForAgent blake3 engine root.paths (.ok bytes)) = (opened, .ok ledger) ∧
    Opened blake3 engine root opened ledger ∧ ∀ id, Recorded blake3 root opened id ↔ Recorded blake3 root tree id

theorem Node.agentOpens (node : Node blake3 engine root tree) (unheld : ∀ path, habits.locked path = false)
    (ready : ForAgent blake3 root tree) : AgentOpens blake3 engine root habits bytes tree := by
  have phase : ∃ generation, Phase blake3 engine root tree .creating .adopting generation :=
    node.phase.elim (fun ⟨generation, phase, _⟩ => ⟨generation, phase⟩)
      fun ⟨generation, phase⟩ => ⟨generation, phase.swap ready.1⟩
  obtain ⟨generation, phase⟩ := phase
  obtain ⟨opened, ledger, served⟩ := @serve_openForAgent _ _ _ _ _ habits bytes node unheld phase ready.2
  have ended := linkedFinishes_served served
  exact ⟨opened, ledger, served, finishes_openForAgent node.housed ended,
    fun id => recorded_iff fun name record => record_kept openForAgent_step record ended.reaches⟩

end Recovery

section Losing

variable {random : Except String (Vector UInt8 16)} {attested : Bool}

/-- A ledger was in use, and is gone. -/
structure Lost (root : RealRoot) (tree : FileTree) : Prop where
  ledger : tree.kindAt (root.place .ledger) = none
  pair : tree.kindAt (root.place .pair) ≠ none
  unmarked : tree.kindAt (root.place .adopting) = none ∧ tree.kindAt (root.place .creating) = none

/-- One of the programs, stopped anywhere or not. -/
inductive Handles (blake3 : List UInt8 → Vector UInt8 32) (engine : LedgerEngine) (root : RealRoot)
    (tree later : FileTree) : Prop
  | opens (random : Except String (Vector UInt8 16))
      (reached : tree.LinkedReaches (openForAgent blake3 engine root.paths random) later)
  | adopts (random : Except String (Vector UInt8 16)) (attested : Bool)
      (reached : tree.LinkedReaches (adoptLegacyFiles blake3 engine root.paths random attested) later)
  | clears (reached : tree.Reaches (openForClear blake3 engine root.paths) later)

structure LostPresence (presence : Presence) : Prop where
  ledger : presence.ledger = false
  pair : presence.pair = true
  adopting : presence.adopting = false
  creating : presence.creating = false

theorem Lost.presence {presence : Presence} (lost : Lost root tree)
    (seen : ∀ spot, presence.has spot = (tree.kindAt (root.place spot)).isSome) : LostPresence presence where
  ledger := absent_of_none seen lost.ledger
  pair := (seen .pair).trans (Option.isSome_iff_ne_none.mpr lost.pair)
  adopting := absent_of_none seen lost.unmarked.1
  creating := absent_of_none seen lost.unmarked.2

theorem Lost.same (lost : Lost root tree)
    (same : ∀ spot, later.kindAt (root.place spot) = tree.kindAt (root.place spot)) : Lost root later where
  ledger := (same _).trans lost.ledger
  pair := same .pair ▸ lost.pair
  unmarked := ⟨(same _).trans lost.unmarked.1, (same _).trans lost.unmarked.2⟩

theorem createForAgent_lost {presence : Presence} {records : AttemptIds} (lost : LostPresence presence) :
    ∃ error, createForAgent engine root.paths random presence records = pure (.error error) := by
  unfold createForAgent
  rw [lost.ledger, lost.pair, lost.creating]
  cases records.isEmpty with
  | false => exact ⟨_, rfl⟩
  | true => exact ⟨_, rfl⟩

theorem adoptRecords_lost {presence : Presence} {records : AttemptIds} (lost : LostPresence presence) :
    ∃ error, adoptRecords engine root.paths random presence attested records = pure (.error error) := by
  unfold adoptRecords
  rw [lost.pair, lost.adopting]
  exact ⟨_, rfl⟩

theorem Lost.openForAgent_places (lost : Lost root tree)
    (reached : tree.LinkedReaches (openForAgent blake3 engine root.paths random) later) (spot : Place) :
    later.kindAt (root.place spot) = tree.kindAt (root.place spot) := by
  rcases Reaches.of_andThen reached with looking | ⟨looked, presence, looking, rest⟩
  · rw [reaches_reads (detect_reads _) (linkedReaches_onLinked.mp looking)]
  · obtain ⟨rfl, seen⟩ := finishes_detect (linkedFinishes_onLinked.mp looking)
    have gone := lost.presence seen
    rw [gone.adopting, if_neg (by simp)] at rest
    rcases Reaches.of_andThen rest with scanning | ⟨scanned, records, scanning, creating⟩
    · exact scan_keeps spot (linkedReaches_onLinked.mp scanning)
    · obtain ⟨error, refused⟩ := @createForAgent_lost engine root random presence records gone
      rw [refused] at creating
      cases creating with
      | stop => exact scan_keeps spot (linkedFinishes_onLinked.mp scanning).reaches

theorem Lost.openForAgent_fails {ledger : RunLedger} (lost : Lost root tree) :
    ¬ tree.LinkedFinishes (openForAgent blake3 engine root.paths random) later (.ok ledger) := by
  intro ended
  obtain ⟨looked, presence, looking, rest⟩ := Finishes.of_andThen ended
  obtain ⟨rfl, seen⟩ := finishes_detect (linkedFinishes_onLinked.mp looking)
  have gone := lost.presence seen
  rw [gone.adopting, if_neg (by simp)] at rest
  obtain ⟨scanned, records, scanning, creating⟩ := Finishes.of_andThen rest
  obtain ⟨error, refused⟩ := @createForAgent_lost engine root random presence records gone
  rw [refused] at creating
  obtain ⟨_, _, made, _⟩ := Finishes.of_andThen creating
  cases (Finishes.of_pure made).2

theorem Lost.adoptLegacyFiles_places (lost : Lost root tree)
    (reached : tree.LinkedReaches (adoptLegacyFiles blake3 engine root.paths random attested) later) (spot : Place) :
    later.kindAt (root.place spot) = tree.kindAt (root.place spot) := by
  rcases Reaches.of_andThen reached with looking | ⟨looked, presence, looking, rest⟩
  · rw [reaches_reads (detect_reads _) (linkedReaches_onLinked.mp looking)]
  · obtain ⟨rfl, seen⟩ := finishes_detect (linkedFinishes_onLinked.mp looking)
    have gone := lost.presence seen
    rw [gone.adopting, gone.ledger, gone.creating, if_neg (by simp), if_neg (by simp), if_neg (by simp)] at rest
    rcases Reaches.of_andThen rest with scanning | ⟨scanned, records, scanning, adopting⟩
    · exact scan_keeps spot (linkedReaches_onLinked.mp scanning)
    · obtain ⟨error, refused⟩ := @adoptRecords_lost engine root random attested presence records gone
      rw [refused] at adopting
      cases adopting with
      | stop => exact scan_keeps spot (linkedFinishes_onLinked.mp scanning).reaches

theorem Lost.adoptLegacyFiles_fails {outcome : AdoptOutcome} (lost : Lost root tree) :
    ¬ tree.LinkedFinishes (adoptLegacyFiles blake3 engine root.paths random attested) later (.ok outcome) := by
  intro ended
  obtain ⟨looked, presence, looking, rest⟩ := Finishes.of_andThen ended
  obtain ⟨rfl, seen⟩ := finishes_detect (linkedFinishes_onLinked.mp looking)
  have gone := lost.presence seen
  rw [gone.adopting, gone.ledger, gone.creating, if_neg (by simp), if_neg (by simp), if_neg (by simp)] at rest
  obtain ⟨scanned, records, scanning, adopting⟩ := Finishes.of_andThen rest
  obtain ⟨error, refused⟩ := @adoptRecords_lost engine root random attested presence records gone
  rw [refused] at adopting
  cases (Finishes.of_pure adopting).2

theorem Lost.openForClear_fails {opened : Option RunLedger} (lost : Lost root tree) :
    ¬ tree.Finishes (openForClear blake3 engine root.paths) later (.ok opened) := by
  intro ended
  obtain ⟨looked, presence, looking, rest⟩ := Finishes.of_andThen ended
  obtain ⟨rfl, seen⟩ := finishes_detect looking
  have gone := lost.presence seen
  have enabled : presence.neverEnabled = false := by
    unfold Presence.neverEnabled
    rw [gone.pair]
    simp
  rw [enabled, gone.adopting, gone.ledger, if_neg (by simp), if_neg (by simp), if_pos rfl] at rest
  cases (Finishes.of_pure rest).2

theorem Lost.handled (lost : Lost root tree) (handles : Handles blake3 engine root tree later) : Lost root later := by
  cases handles with
  | opens random reached => exact lost.same (lost.openForAgent_places reached)
  | adopts random attested reached => exact lost.same (lost.adoptLegacyFiles_places reached)
  | clears reached =>
      exact lost.same fun spot =>
        kept openForClear_step place_not_residue (place_ours root spot).not_above reached

theorem ledger_handled {content : List UInt8} (handles : Handles blake3 engine root tree later)
    (there : tree.kindAt (root.place .ledger) = some (.file content)) :
    later.kindAt (root.place .ledger) = some (.file content) := by
  cases handles with
  | opens random reached => exact ledger_unused .creating openForAgent_step reached there
  | adopts random attested reached => exact ledger_unused .adopting adoptLegacyFiles_step reached there
  | clears reached =>
      rw [kept openForClear_step place_not_residue (place_ours root .ledger).not_above reached, there]

/-- Whatever the files are: however often the programs are run, and wherever they are stopped, a ledger that is there
keeps its bytes; and where a ledger that was in use is gone, none is made, no marker is left, and no program succeeds. -/
theorem ledger_is_never_remade (handled : Relation.ReflTransGen (Handles blake3 engine root) tree later) :
    (∀ content, tree.kindAt (root.place .ledger) = some (.file content) →
      later.kindAt (root.place .ledger) = some (.file content)) ∧
    (Lost root tree → Lost root later ∧ (∀ random ended ledger,
        ¬ later.LinkedFinishes (openForAgent blake3 engine root.paths random) ended (.ok ledger)) ∧
      (∀ random attested ended outcome,
        ¬ later.LinkedFinishes (adoptLegacyFiles blake3 engine root.paths random attested) ended (.ok outcome)) ∧
      ∀ ended opened, ¬ later.Finishes (openForClear blake3 engine root.paths) ended (.ok opened)) := by
  refine ⟨fun content there => ?_, fun lost => ?_⟩
  · induction handled with
    | refl => exact there
    | tail _ handles ih => exact ledger_handled handles ih
  · have still : Lost root later := by
      induction handled with
      | refl => exact lost
      | tail _ handles ih => exact ih.handled handles
    exact ⟨still, fun _ _ _ => still.openForAgent_fails, fun _ _ _ _ => still.adoptLegacyFiles_fails,
      fun _ _ => still.openForClear_fails⟩

/-- Only the pair is left. -/
def pairLeft : FileTree :=
  (∅ : FileTree).insert sampleRoot.paths.pair (.file (utf8 sampleGeneration))

theorem lost_pairLeft : Lost sampleRoot pairLeft := by
  have below (spot : Place) : sampleRoot.place spot ≠ [] := fun same =>
    (place_ours sampleRoot spot).not_above (same ▸ List.nil_prefix)
  have others (spot : Place) (apart : spot ≠ .pair) : pairLeft.kindAt (sampleRoot.place spot) = none := by
    have away : sampleRoot.place spot ≠ sampleRoot.place .pair := fun same => apart (place_inj.mp same)
    exact (kindAt_insert (below .pair)).trans ((if_neg away).trans (kindAt_sample _ (below spot)))
  refine ⟨others .ledger (by simp), ?_, others .adopting (by simp), others .creating (by simp)⟩
  have there : pairLeft.kindAt (sampleRoot.place .pair) = some (.file (utf8 sampleGeneration)) :=
    (kindAt_insert (below .pair)).trans (if_pos rfl)
  rw [there]
  simp

theorem pair_left_not_remade : ¬ ∃ ended ledger,
    pairLeft.LinkedFinishes (openForAgent sampleHash imageEngine sampleRoot.paths (.ok sampleBytes)) ended (.ok ledger) :=
  fun ⟨_, _, opens⟩ => ((@ledger_is_never_remade sampleHash imageEngine sampleRoot pairLeft pairLeft
    (.single (.clears .stop))).2 lost_pairLeft).2.1 _ _ _ opens

end Losing

section Surviving

variable {between : FileTree} {content : List UInt8} {typed next : TypedLedger}

theorem becomes_trans {first second third : RowState} (before : first.Becomes second = true)
    (after : second.Becomes third = true) : first.Becomes third = true := by
  cases first <;> cases second <;> cases third <;> first | rfl | exact before | exact after

/-- The rows are there still, and have only gone forward. -/
def RowsGoOn (typed next : TypedLedger) : Prop :=
  ∀ (id : String) (row : AttemptRow), typed[id]? = some row →
    ∃ later : AttemptRow, next[id]? = some later ∧ row.state.Becomes later.state = true

/-- The ledger holds these rows under this generation. -/
def Holds (engine : LedgerEngine) (root : RealRoot) (tree : FileTree) (generation : String) (typed : TypedLedger) : Prop :=
  ∃ content file, tree.kindAt (root.place .ledger) = some (.file content) ∧ engine.read content = .ok file ∧
    Sound generation file typed

theorem Holds.step (holds : Holds engine root tree generation typed) (step : LifeStep blake3 engine root tree later) :
    ∃ next, Holds engine root later generation next ∧ RowsGoOn typed next := by
  obtain ⟨content, file, there, read, sound⟩ := holds
  have stays (still : later.kindAt (root.place .ledger) = some (.file content)) :
      ∃ next, Holds engine root later generation next ∧ RowsGoOn typed next :=
    ⟨typed, ⟨content, file, still, read, sound⟩, fun id row found => ⟨row, found, becomes_refl _⟩⟩
  cases step with
  | opens random reached => exact stays (ledger_handled (.opens random reached) there)
  | adopts random attested reached => exact stays (ledger_handled (.adopts random attested reached) there)
  | clears reached => exact stays (@ledger_handled blake3 _ _ _ _ _ (.clears reached) there)
  | calls made fromNew called =>
      obtain ⟨before, found, image, stands, reads, written, readable⟩ := called.wrote
      rw [there, Option.some.injEq, DiskEntry.file.injEq] at stands
      rw [← stands, read] at reads
      cases reads
      exact ⟨_, ⟨image, _, written, readable, sound.step fromNew⟩, fun id row => meantStep_becomes typed made⟩
  | records id named backed reached =>
      exact stays ((kept record_step touched_record_place (place_ours root .ledger).not_above reached).trans there)

theorem Holds.life (holds : Holds engine root tree generation typed) (life : Life blake3 engine root tree later) :
    ∃ next, Holds engine root later generation next ∧ RowsGoOn typed next := by
  induction life with
  | refl => exact ⟨typed, holds, fun id row found => ⟨row, found, becomes_refl _⟩⟩
  | tail _ step ih =>
      obtain ⟨middle, held, onward⟩ := ih
      obtain ⟨next, holds, further⟩ := held.step step
      refine ⟨next, holds, fun id row found => ?_⟩
      obtain ⟨some_, there, before⟩ := onward id row found
      obtain ⟨last, still, after⟩ := further id some_ there
      exact ⟨last, still, becomes_trans before after⟩

/-- What was recorded stays so. -/
theorem Recorded.step {id : String} (node : Node blake3 engine root tree) (recorded : Recorded blake3 root tree id)
    (step : LifeStep blake3 engine root tree later) : Recorded blake3 root later id := by
  cases step with
  | opens random reached =>
      exact (recorded_iff fun name record => record_kept openForAgent_step record reached).mpr recorded
  | adopts random attested reached =>
      exact (recorded_iff fun name record => record_kept adoptLegacyFiles_step record reached).mpr recorded
  | clears reached =>
      refine (recorded_iff fun name record => ?_).mpr recorded
      exact kept openForClear_step (@record_spared _ _ .ledger record).2.1 record_off reached
  | calls made fromNew called =>
      exact (recorded_iff fun name record => called.others _ (record_spared record).2.2).mpr recorded
  | records other named backed reached => exact (reaches_record node.neat node.valid named reached).2.1 id recorded

end Surviving

end Gputeer.Agent
