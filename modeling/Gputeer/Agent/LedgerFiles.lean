import Gputeer.Agent.RunLedger
import Gputeer.Checkpoint.Atomic
import Gputeer.Lib.LinkedDisk

/-! The files of the run ledger: the ledger itself and its markers beside the checkpoint root, the generation among
the start records. An Agent makes the ledger of a new node, a command that of a node that has run before; each
leaves a marker until it is done. -/

namespace Gputeer.Agent

open Checkpoint Dialogue Text Bytes

section Paths

def ledgerSuffix : String := ".run-ledger.sqlite3"

def adoptingSuffix : String := ".run-ledger.adopting"

def creatingSuffix : String := ".run-ledger.creating"

def startedSuffix : String := ".started-attempts"

def pairName : String := ".run-ledger-generation"

/-- A path beside the checkpoint root. -/
def checkpointRootSibling (root : DiskPath) (suffix : String) : Except String DiskPath :=
  match root.getLast? with
  | some name => .ok (root.dropLast ++ [name ++ suffix])
  | none => .error (s!"checkpoint root 가 파일시스템 루트라 {suffix} 디렉터리를 밖에 둘 수 없다(\"/\") " ++
      "— 하위 디렉터리를 지정하라")

structure LedgerPaths where
  ledger : DiskPath
  adopting : DiskPath
  creating : DiskPath
  startedDir : DiskPath

namespace LedgerPaths

def forRoot (realRoot : DiskPath) : Except String LedgerPaths := do
  let ledger ← checkpointRootSibling realRoot ledgerSuffix
  let adopting ← checkpointRootSibling realRoot adoptingSuffix
  let creating ← checkpointRootSibling realRoot creatingSuffix
  let startedDir ← checkpointRootSibling realRoot startedSuffix
  .ok { ledger, adopting, creating, startedDir }

variable (paths : LedgerPaths)

def pair : DiskPath := paths.startedDir ++ [pairName]

def parentDir : Except String DiskPath :=
  let shown := pathText paths.ledger
  if paths.ledger = [] then .error s!"RUN_LEDGER: 원장 경로에 부모가 없다({shown})"
  else .ok paths.ledger.dropLast

def fileName (path : DiskPath) : Except String String :=
  let shown := pathText path
  Except.ofOption s!"RUN_LEDGER: 경로 이름을 읽지 못했다({shown})" path.getLast?

/-- How the names of temporary ledgers begin. -/
def tempPrefix : Except String String := do
  let name ← fileName paths.ledger
  .ok (name ++ ".tmp-")

end LedgerPaths

end Paths

section Presence

structure Presence where
  ledger : Bool
  pair : Bool
  adopting : Bool
  creating : Bool
  deriving DecidableEq

def Presence.neverEnabled (presence : Presence) : Bool :=
  !presence.ledger && !presence.pair && !presence.adopting && !presence.creating

def existsStrict (path : DiskPath) : FileDialogue (Except String Bool) := do
  let shown := pathText path
  match ← (FileQuestion.kind path).ask with
  | .ok .file => pure (.ok true)
  | .ok .folder => pure (.error s!"RUN_LEDGER: 일반 파일이 아니다({shown}) — 모르면 받지 않는다")
  | .error .notFound => pure (.ok false)
  | .error (.other why) => pure (.error s!"RUN_LEDGER: 확인하지 못했다({shown}): {why}")

def detect (paths : LedgerPaths) : FileDialogue (Except String Presence) :=
  (existsStrict paths.ledger).andThen fun ledger =>
    (existsStrict paths.pair).andThen fun pair =>
      (existsStrict paths.adopting).andThen fun adopting =>
        (existsStrict paths.creating).andThen fun creating =>
          pure (.ok { ledger, pair, adopting, creating })

end Presence

section Records

def strStripPrefix (head text : String) : Option String :=
  if head.toList <+: text.toList then some (String.ofList (text.toList.drop head.length)) else none

def strStripSuffix (last text : String) : Option String :=
  if endsWith last text then some (String.ofList (text.toList.take (text.length - last.length))) else none

/-- 64 lower-case hexadecimal digits. -/
def isRecordName (name : String) : Bool :=
  name.utf8ByteSize = 64 &&
    name.toList.all fun c => ('0' ≤ c && c ≤ '9') || ('a' ≤ c && c ≤ 'f')

variable (blake3 : List UInt8 → Vector UInt8 32)

def startedAttemptName (attemptId : String) : String := toHex (blake3 (utf8 attemptId)).toList

/-- The whole of a start record. -/
def startRecord (attemptId : String) : String := "attempt_id=" ++ attemptId ++ "\n"

/-- The attempt that a start record is about. -/
def recordedAttempt (text : String) : Option String :=
  ((strStripPrefix "attempt_id=" text).bind (strStripSuffix "\n")).filter fun id => id ≠ "" && !id.toList.contains '\n'

/-- The file that a left-over lock or temporary file of `write_once` was made for. -/
def residueTarget (name : String) : Option String :=
  (strStripSuffix ".write_once.lock" name).orElse fun _ => strStripSuffix ".tmp" name

inductive StartEntry where
  | pair
  | residue (path : DiskPath)
  | record (attemptId : String)

def readRecord (path : DiskPath) (name : String) (body : List UInt8) : Except String String := do
  let shown := pathText path
  let text ← Except.ofOption s!"RUN_LEDGER: 시작 기록이 UTF-8 이 아니다({shown})" (String.fromUTF8? ⟨body.toArray⟩)
  let id ← Except.ofOption s!"RUN_LEDGER: 시작 기록 내용이 깨졌다({shown})" (recordedAttempt text)
  Except.ensure (startedAttemptName blake3 id = name)
    s!"RUN_LEDGER: 시작 기록의 이름과 attempt_id 해시가 다르다({shown})"
  .ok id

def scanEntry (startedDir : DiskPath) (name : String) : FileDialogue (Except String StartEntry) := do
  let path := startedDir ++ [name]
  let shown := pathText path
  match ← (FileQuestion.kind path).ask with
  | .error failure =>
      let why := failure.why
      pure (.error s!"RUN_LEDGER: 확인하지 못했다({shown}): {why}")
  | .ok .folder =>
      pure (.error s!"RUN_LEDGER: 시작 기록 폴더에 일반 파일이 아닌 것이 있다({shown}) — 모르면 받지 않는다")
  | .ok .file =>
      if name = pairName then pure (.ok .pair)
      else match residueTarget name with
        | some target =>
            if target = pairName ∨ isRecordName target then pure (.ok (.residue path))
            else pure (.error s!"RUN_LEDGER: 대상이 규칙에 맞지 않는 부산물이다({shown})")
        | none =>
            if ¬ isRecordName name then
              pure (.error s!"RUN_LEDGER: 시작 기록 폴더에 모르는 파일이 있다({shown}) — 모르면 받지 않는다")
            else match ← (FileQuestion.read path).ask with
              | .error failure =>
                  let why := failure.why
                  pure (.error s!"RUN_LEDGER: 시작 기록을 읽지 못했다({shown}): {why}")
              | .ok body => pure (.record <$> readRecord blake3 path name body)

def scanEntries (startedDir : DiskPath) : List String → FileDialogue (Except String (List StartEntry))
  | [] => pure (.ok [])
  | name :: names =>
      (scanEntry blake3 startedDir name).andThen fun entry =>
        (scanEntries startedDir names).andThen fun entries => pure (.ok (entry :: entries))

def removeResidue : List DiskPath → FileDialogue (Except String Unit)
  | [] => pure (.ok ())
  | path :: rest => do
      match ← (FileQuestion.remove path).ask with
      | .ok () | .error .notFound => removeResidue rest
      | .error (.other why) =>
          let shown := pathText path
          pure (.error s!"RUN_LEDGER: 부산물을 지우지 못했다({shown}): {why}")

/-- A `BTreeSet` of texts. -/
abbrev AttemptIds := Table String Unit

def StartEntry.recordedId : StartEntry → Option String
  | record attemptId => some attemptId
  | pair | residue _ => none

def StartEntry.residuePath : StartEntry → Option DiskPath
  | residue path => some path
  | pair | record _ => none

def idsOf (entries : List StartEntry) : AttemptIds :=
  (entries.filterMap StartEntry.recordedId).foldl (fun ids id => ids.insert id ()) ∅

/-- `sync_dir`, with the error as a text. -/
def syncFolder (what : String) (dir : DiskPath) : FileDialogue (Except String Unit) :=
  Except.mapError (fun error : CheckpointError =>
    let why := error.display
    s!"RUN_LEDGER: {what}: {why}") <$> syncDir dir

def scanStartRecords (startedDir : DiskPath) (removes : Bool) : FileDialogue (Except String AttemptIds) := do
  match ← (FileQuestion.list startedDir).ask with
  | .error .notFound => pure (.ok ∅)
  | .error (.other why) =>
      let shown := pathText startedDir
      pure (.error s!"RUN_LEDGER: 시작 기록 폴더를 읽지 못했다({shown}): {why}")
  | .ok names =>
      (scanEntries blake3 startedDir names).andThen fun entries =>
        let residue := entries.filterMap StartEntry.residuePath
        if removes ∧ residue ≠ [] then
          (removeResidue residue).andThen fun _ =>
            (syncFolder "시작 기록 폴더를 sync 하지 못했다" startedDir).andThen fun _ => pure (.ok (idsOf entries))
        else pure (.ok (idsOf entries))

end Records

section Values

def readGenerationFile (path : DiskPath) : FileDialogue (Except String String) := do
  let shown := pathText path
  match ← (FileQuestion.read path).ask with
  | .error failure =>
      let why := failure.why
      pure (.error s!"RUN_LEDGER: 세대 값을 읽지 못했다({shown}): {why}")
  | .ok bytes => pure do
      let value ← Except.ofOption s!"RUN_LEDGER: 세대 값을 읽지 못했다({shown}): stream did not contain valid UTF-8"
        (String.fromUTF8? ⟨bytes.toArray⟩)
      Except.ensure (isGeneration value = true)
        s!"RUN_LEDGER: 세대 값의 형식이 틀렸다({shown}) — 32자 소문자 hex 여야 한다"
      .ok value

/-- Of what `getrandom` gives. -/
def newGeneration (random : Except String (Vector UInt8 16)) : Except String String := do
  let bytes ← random.mapError fun why => s!"RUN_LEDGER: 난수를 얻지 못했다: {why}"
  .ok (toHex bytes.toList)

/-- A file that is written once, in a folder that is made where it is missing. -/
def writeOnceIn (unmade : DiskFailure → String) (unwritten : CheckpointError → String) (dir : DiskPath) (name : String)
    (data : List UInt8) : FileDialogue (Except String Unit) :=
  (Except.mapError unmade <$> (FileQuestion.createFolders dir).ask).andThen fun _ =>
    Except.mapError unwritten <$> (Except.map (fun _ => ()) <$> writeOnce dir name data)

def writeOnceValue (dir : DiskPath) (name value : String) : FileDialogue (Except String Unit) :=
  writeOnceIn
    (fun failure =>
      let shown := pathText dir
      let why := failure.why
      s!"RUN_LEDGER: 폴더를 만들지 못했다({shown}): {why}")
    (fun error =>
      let why := error.display
      s!"RUN_LEDGER: {name} 를 쓰지 못했다: {why}") dir name (utf8 value)

end Values

section Database

/-- A step of the engine that makes a database file: on the file, or on its journal beside it. -/
def DatabaseStep (folder : DiskPath) (name : String) (asked : FileQuestion) : Prop :=
  asked.Reads ∨ ∃ file, (file = name ∨ file = name ++ "-journal") ∧
    (asked = .create (folder ++ [file]) ∨ (∃ content, asked = .writeAll (folder ++ [file]) content) ∨
      asked = .remove (folder ++ [file]))

/-- The database engine: it makes a new file in one transaction, of which the body may fail, and reads what is in
a file, unless that is no sound database. -/
structure LedgerEngine where
  fill : DiskPath → String → Except String LedgerFile → FileDialogue (Except String Unit)
  read : List UInt8 → Except String LedgerFile
  fill_steps : ∀ folder name body, (fill folder name body).Asks (DatabaseStep folder name)
  /-- What was committed can be read. -/
  fill_committed : ∀ (tree later : FileTree) folder name body,
    tree.Finishes (fill folder name body) later (.ok ()) → ∃ file content, body = .ok file ∧
      later.kindAt (folder ++ [name]) = some (.file content) ∧ read content = .ok file
  /-- On a disk that does not fail, where the file is new. -/
  fill_new : ∀ (tree : FileTree) (habits : FileTree.Habits) folder name file, tree.kindAt folder = some .folder →
    tree.kindAt (folder ++ [name]) = none → tree.kindAt (folder ++ [name ++ "-journal"]) = none →
      ∃ later, tree.serve habits (fill folder name (.ok file)) = (later, .ok ())

/-- An open ledger. -/
structure RunLedger where
  file : LedgerFile
  generation : String

variable (engine : LedgerEngine) (paths : LedgerPaths)

/-- What remains of the names, and whether something was removed yet. -/
def removeTemps (parent : DiskPath) (start : String) (removed : Bool) : List String →
    FileDialogue (Except String Bool)
  | [] => pure (.ok removed)
  | name :: names =>
      if start.toList <+: name.toList then
        (Except.mapError (fun failure : DiskFailure =>
          let why := failure.why
          s!"RUN_LEDGER: 옛 임시 원장을 지우지 못했다({name}): {why}") <$>
            (FileQuestion.remove (parent ++ [name])).ask).andThen fun _ => removeTemps parent start true names
      else removeTemps parent start removed names

def removeStaleTemps : FileDialogue (Except String Unit) :=
  (given paths.parentDir).andThen fun parent =>
    (given paths.tempPrefix).andThen fun start => do
      match ← (FileQuestion.list parent).ask with
      | .error failure =>
          let shown := pathText parent
          let why := failure.why
          pure (.error s!"RUN_LEDGER: 폴더를 읽지 못했다({shown}): {why}")
      | .ok names =>
          (removeTemps parent start false names).andThen fun removed =>
            if removed then syncFolder "폴더 sync 실패" parent else pure (.ok ())

def syncTemporary (parent : DiskPath) (temp : String) : FileDialogue (Except String Unit) :=
  Except.mapError (fun failure : DiskFailure =>
    let why := failure.why
    s!"RUN_LEDGER: 임시 원장을 fsync 하지 못했다: {why}") <$> (FileQuestion.sync (parent ++ [temp])).ask

def removeTemporary (parent : DiskPath) (temp : String) : FileDialogue (Except String Unit) :=
  (Except.mapError (fun failure : DiskFailure =>
    let why := failure.why
    s!"RUN_LEDGER: 임시 원장을 지우지 못했다: {why}") <$> (FileQuestion.remove (parent ++ [temp])).ask).andThen fun _ =>
      syncFolder "폴더 sync 실패" parent

/-- A full temporary ledger gets its name by a link, which fails where there is something, and loses its own. -/
def placeLedger (parent : DiskPath) (temp : String) : LinkedDialogue (Except String Unit) :=
  let shown := pathText paths.ledger
  (Except.mapError (fun failure : LinkFailure =>
    let why := failure.why
    s!"RUN_LEDGER: 원장을 제자리에 두지 못했다({shown}) — 이미 있으면 덮지 않는다: {why}") <$>
      hardLink (parent ++ [temp]) paths.ledger).andThen fun _ => (removeTemporary parent temp).onLinked

/-- `create_ledger_file` -/
def createLedgerOnDisk (generation : String) (rows : List AttemptRow) : LinkedDialogue (Except String Unit) :=
  (removeStaleTemps paths).onLinked.andThen fun _ =>
    (given paths.parentDir).andThen fun parent =>
      (given paths.tempPrefix).andThen fun start =>
        let temp := start ++ generation
        (engine.fill parent temp (createLedgerFile generation rows)).onLinked.andThen fun _ =>
          (syncTemporary parent temp).onLinked.andThen fun _ => placeLedger paths parent temp

/-- `RunLedger::open_existing` -/
def openLedger : FileDialogue (Except String RunLedger) := do
  let shown := pathText paths.ledger
  match ← (FileQuestion.read paths.ledger).ask with
  | .error failure =>
      let why := failure.why
      pure (.error s!"RUN_LEDGER: 원장을 열지 못했다({shown}): {why}")
  | .ok content => pure do
      let file ← engine.read content
      let generation ← file.openExisting
      .ok { file, generation }

/-- The marker is gone, and stays so. -/
def finishMarker (marker : DiskPath) : FileDialogue (Except String Unit) := do
  let shown := pathText marker
  match ← (FileQuestion.remove marker).ask with
  | .ok () | .error .notFound => (given paths.parentDir).andThen fun parent => syncFolder "폴더 sync 실패" parent
  | .error (.other why) => pure (.error s!"RUN_LEDGER: 표식을 지우지 못했다({shown}): {why}")

/-- The marker, then the pair. -/
def writeMarkers (marker : DiskPath) (generation : String) : FileDialogue (Except String Unit) :=
  (given paths.parentDir).andThen fun parent =>
    (given (LedgerPaths.fileName marker)).andThen fun name =>
      (writeOnceValue parent name generation).andThen fun _ => writeOnceValue paths.startedDir pairName generation

/-- The steps that an Agent and the command have in common: the marker stands until the ledger does. -/
def makeLedger (marker : DiskPath) (generation : String) (rows : List AttemptRow) :
    LinkedDialogue (Except String Unit) :=
  (writeMarkers paths marker generation).onLinked.andThen fun _ =>
    (createLedgerOnDisk engine paths generation rows).andThen fun _ => (finishMarker paths marker).onLinked

/-- The first recorded attempt without a row. -/
def RunLedger.missing (ledger : RunLedger) (records : AttemptIds) : Except String (Option String) := do
  let rows ← ledger.file.rows
  .ok (records.keys.find? fun id => !(rows.map AttemptRow.attemptId).contains id)

/-- The ledger, if each recorded attempt has its row. -/
def RunLedger.complete (ledger : RunLedger) (records : AttemptIds) (refused : String) : Except String RunLedger := do
  match ← ledger.missing records with
  | some id => .error s!"RUN_LEDGER_ROW_MISSING: 시작 기록은 있는데 원장에 행이 없다({id}) — {refused}"
  | none => .ok ledger

end Database

section Programs

variable (blake3 : List UInt8 → Vector UInt8 32) (engine : LedgerEngine) (paths : LedgerPaths)
  (random : Except String (Vector UInt8 16))

section Agent

variable (presence : Presence)

/-- A generation that was written down is used again. -/
def agentGeneration : FileDialogue (Except String String) :=
  if presence.creating then
    (readGenerationFile paths.creating).andThen fun generation =>
      if presence.pair then
        (readGenerationFile paths.pair).andThen fun pair =>
          if pair ≠ generation then
            pure (.error ("RUN_LEDGER_GENERATION_MISMATCH: \"만드는 중\" 표식과 세대 짝의 값이 다르다 — " ++
              "수동 복구가 필요하다"))
          else pure (.ok generation)
      else pure (.ok generation)
  else pure (newGeneration random)

/-- Only a new node gets a new ledger. -/
def createForAgent (records : AttemptIds) : LinkedDialogue (Except String Unit) :=
  if presence.ledger then
    if presence.pair then pure (.ok ())
    else pure (.error "RUN_LEDGER_PAIR_MISSING: 원장은 있는데 세대 짝이 없다 — 수동 복구가 필요하다")
  else if records.isEmpty = false then
    if presence.pair then
      pure (.error ("RUN_LEDGER_LOST: 쓰던 원장이 없다(세대 짝 · 시작 기록은 있다) — 자동으로 다시 만들지 않는다. " ++
        "수동 복구가 필요하다"))
    else
      pure (.error ("RUN_LEDGER_ADOPT_FIRST: 이 노드는 전에 실행한 기록이 있다 — Agent 를 멈추고 " ++
        "`gputeer run-ledger adopt-legacy` 를 먼저 돌린다"))
  else if presence.pair ∧ ¬ presence.creating then
    pure (.error ("RUN_LEDGER_LOST: 쓰던 원장이 없다(세대 짝은 있고 \"만드는 중\" 표식은 없다) — 자동으로 다시 만들지 " ++
      "않는다. 수동 복구가 필요하다"))
  else
    (agentGeneration paths random presence).onLinked.andThen fun generation =>
      makeLedger engine paths paths.creating generation []

/-- A marker that was left beside a full ledger. -/
def finishCreating (pair : String) : FileDialogue (Except String Unit) :=
  if presence.creating ∧ presence.ledger then
    (readGenerationFile paths.creating).andThen fun marker =>
      if marker ≠ pair then
        pure (.error ("RUN_LEDGER_GENERATION_MISMATCH: \"만드는 중\" 표식과 원장의 값이 다르다 — " ++
          "수동 복구가 필요하다"))
      else finishMarker paths paths.creating
  else pure (.ok ())

def checkForAgent (records : AttemptIds) : FileDialogue (Except String RunLedger) :=
  (removeStaleTemps paths).andThen fun _ =>
    (openLedger engine paths).andThen fun ledger =>
      (readGenerationFile paths.pair).andThen fun pair =>
        if pair ≠ ledger.generation then
          pure (.error "RUN_LEDGER_GENERATION_MISMATCH: 원장과 세대 짝의 값이 다르다 — 원장이 바뀌었다")
        else
          (finishCreating paths presence pair).andThen fun _ => pure (ledger.complete records "원장이 바뀌었다")

end Agent

/-- An Agent opens its ledger, and makes that of a new node. -/
def openForAgent : LinkedDialogue (Except String RunLedger) :=
  (detect paths).onLinked.andThen fun presence =>
    if presence.adopting then
      pure (.error ("RUN_LEDGER_ADOPT_UNFINISHED: 이관이 끝나지 않았다 — `gputeer run-ledger adopt-legacy` 를 " ++
        "다시 돌린다"))
    else
      (scanStartRecords blake3 paths.startedDir true).onLinked.andThen fun records =>
        (createForAgent engine paths random presence records).andThen fun _ =>
          (checkForAgent engine paths presence records).onLinked

inductive AdoptOutcome where
  | adopted (rows : Nat)
  | resumed
  deriving DecidableEq

section Adopt

variable (presence : Presence)

/-- The generation in this file, if there is one. -/
def writtenGeneration (there : Bool) (path : DiskPath) : FileDialogue (Except String (Option String)) :=
  if there then Except.map some <$> readGenerationFile path else pure (.ok none)

/-- The pair is believed first, then the marker. -/
def adoptGeneration : FileDialogue (Except String String) :=
  (writtenGeneration presence.pair paths.pair).andThen fun pair =>
    (writtenGeneration presence.adopting paths.adopting).andThen fun marker =>
      match pair, marker with
      | some pair, some marker =>
          if pair ≠ marker then
            pure (.error ("RUN_LEDGER_GENERATION_MISMATCH: 세대 짝과 이관 표식의 값이 다르다 — " ++
              "수동 복구가 필요하다"))
          else pure (.ok pair)
      | some pair, none => pure (.ok pair)
      | none, some marker => pure (.ok marker)
      | none, none => pure (newGeneration random)

/-- The ledger is there, and only its marker has to go. -/
def resumeAdopting : FileDialogue (Except String AdoptOutcome) :=
  (readGenerationFile paths.adopting).andThen fun marker =>
    if presence.pair = false then
      pure (.error "RUN_LEDGER_PAIR_MISSING: 원장은 있는데 세대 짝이 없다 — 수동 복구가 필요하다")
    else
      (readGenerationFile paths.pair).andThen fun pair =>
        (openLedger engine paths).andThen fun ledger =>
          if marker ≠ pair ∨ pair ≠ ledger.generation then
            pure (.error ("RUN_LEDGER_GENERATION_MISMATCH: 이관 표식 · 세대 짝 · 원장의 값이 다르다 — " ++
              "수동 복구가 필요하다"))
          else
            (scanStartRecords blake3 paths.startedDir true).andThen fun records =>
              (given (ledger.missing records)).andThen fun missing =>
                if missing.isSome then
                  pure (.error ("RUN_LEDGER_ROW_MISSING: 이관된 원장에 시작 기록의 행이 빠졌다 — " ++
                    "수동 복구가 필요하다"))
                else Except.map (fun _ => AdoptOutcome.resumed) <$> finishMarker paths paths.adopting

/-- One row for each attempt that was started before there was a ledger. -/
def adoptRecords (attested : Bool) (records : AttemptIds) : LinkedDialogue (Except String AdoptOutcome) :=
  if presence.pair ∧ ¬ presence.adopting then
    pure (.error ("RUN_LEDGER_LOST: 쓰던 원장이 없다(세대 짝은 있고 이관 표식은 없다) — 이관으로 다시 만들지 " ++
      "않는다"))
  else
    (adoptGeneration paths random presence).onLinked.andThen fun generation =>
      let origin := if attested then Origin.legacyAdoptAttested else Origin.legacyAdopt
      let rows := records.keys.map (AttemptRow.legacy · origin)
      Except.map (fun _ => AdoptOutcome.adopted rows.length) <$>
        makeLedger engine paths paths.adopting generation rows

end Adopt

/-- The file part of the command that makes the ledger of a node that has run before. -/
def adoptLegacyFiles (attested : Bool) : LinkedDialogue (Except String AdoptOutcome) :=
  (detect paths).onLinked.andThen fun presence =>
    if presence.adopting ∧ presence.ledger then (resumeAdopting blake3 engine paths presence).onLinked
    else if presence.ledger then
      pure (.error "RUN_LEDGER_EXISTS: 원장이 이미 있다 — 두 번 이관하지 않는다")
    else if presence.creating then
      pure (.error ("RUN_LEDGER_CREATE_UNFINISHED: Agent 가 새 원장을 만들다 끊겼다 — 이관하지 않는다. Agent 를 " ++
        "--run-ledger true 로 다시 띄워 마무리한다"))
    else
      (scanStartRecords blake3 paths.startedDir true).onLinked.andThen fun records =>
        adoptRecords engine paths random presence attested records

/-- For the command that clears a blocked attempt; nothing is cleared where the ledger does not fit. -/
def openForClear : FileDialogue (Except String (Option RunLedger)) :=
  (detect paths).andThen fun presence =>
    if presence.neverEnabled then pure (.ok none)
    else if presence.adopting then
      pure (.error "RUN_LEDGER_ADOPT_UNFINISHED: 이관이 끝나지 않았다 — 해제하지 않는다")
    else if presence.ledger = false then
      pure (.error ("RUN_LEDGER_LOST: 원장을 켰던 루트인데 원장이 없다 — 표식만 지우지 않는다. " ++
        "수동 복구가 필요하다"))
    else
      let mismatch := "RUN_LEDGER_GENERATION_MISMATCH: 원장과 세대 짝이 맞지 않는다 — 해제하지 않는다"
      (openLedger engine paths).andThen fun ledger =>
        (if presence.pair then
          (readGenerationFile paths.pair).andThen fun pair =>
            if pair ≠ ledger.generation then pure (.error mismatch) else pure (.ok ())
        else pure (.error mismatch)).andThen fun _ =>
          (scanStartRecords blake3 paths.startedDir true).andThen fun records =>
            pure (some <$> ledger.complete records "해제하지 않는다. 수동 복구가 필요하다")

/-- `record_attempt_started_here`, right before the attempt is started. -/
def recordAttemptStartedHere (attemptId : String) : FileDialogue (Except String Unit) :=
  writeOnceIn
    (fun failure =>
      let shown := pathText paths.startedDir
      let why := failure.why
      s!"ATTEMPT_START_JOURNAL: 폴더를 만들지 못했다({shown}): {why}")
    (fun error =>
      let why := error.display
      s!"ATTEMPT_START_JOURNAL: 시작 기록을 남기지 못했다: {why}")
    paths.startedDir (startedAttemptName blake3 attemptId) (utf8 (startRecord attemptId))

end Programs

end Gputeer.Agent
