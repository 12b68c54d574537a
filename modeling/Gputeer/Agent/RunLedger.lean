import Gputeer.Lib.Except
import Gputeer.Lib.Table
import Gputeer.Lib.Text

/-! The run ledger of a node: one row for each attempt, in a database file. A reader that finds one row it
does not know refuses the whole file. -/

namespace Gputeer.Agent

inductive RowState where
  | active
  | closed
  | localBlocked
  deriving DecidableEq

namespace RowState

def asStr : RowState → String
  | active => "ACTIVE"
  | closed => "CLOSED"
  | localBlocked => "LOCAL_BLOCKED"

def debugName : RowState → String
  | active => "Active"
  | closed => "Closed"
  | localBlocked => "LocalBlocked"

def parse (s : String) : Option RowState :=
  if s = "ACTIVE" then some active
  else if s = "CLOSED" then some closed
  else if s = "LOCAL_BLOCKED" then some localBlocked
  else none

theorem parse_asStr (state : RowState) : parse state.asStr = some state := by
  cases state <;> decide

end RowState

inductive Executor where
  | container
  | host
  | legacy
  deriving DecidableEq

namespace Executor

def asStr : Executor → String
  | container => "container"
  | host => "host"
  | legacy => "legacy"

def parse (s : String) : Option Executor :=
  if s = "container" then some container
  else if s = "host" then some host
  else if s = "legacy" then some legacy
  else none

theorem parse_asStr (executor : Executor) : parse executor.asStr = some executor := by
  cases executor <;> decide

end Executor

inductive Origin where
  | agent
  | legacyAdopt
  | legacyAdoptAttested
  deriving DecidableEq

namespace Origin

def asStr : Origin → String
  | agent => "agent"
  | legacyAdopt => "legacy_adopt"
  | legacyAdoptAttested => "legacy_adopt_attested"

def parse (s : String) : Option Origin :=
  if s = "agent" then some agent
  else if s = "legacy_adopt" then some legacyAdopt
  else if s = "legacy_adopt_attested" then some legacyAdoptAttested
  else none

theorem parse_asStr (origin : Origin) : parse origin.asStr = some origin := by
  cases origin <;> decide

end Origin

structure AttemptRow where
  attemptId : String
  origin : Origin
  jobId : Option String
  nodeId : Option String
  fenceEpoch : Option UInt64
  executor : Executor
  runtimeProgram : Option String
  runtimeKind : Option String
  containerName : Option String
  containerId : Option String
  cgroupPath : Option String
  state : RowState
  reason : Option String
  stopped : Option Bool
  logsComplete : Option Bool
  containerLeft : Option Bool
  containerRemoved : Option Bool
  deriving DecidableEq

def AttemptRow.newActive (attemptId jobId nodeId : String) (fenceEpoch : UInt64) (executor : Executor) :
    AttemptRow where
  attemptId := attemptId
  origin := .agent
  jobId := some jobId
  nodeId := some nodeId
  fenceEpoch := some fenceEpoch
  executor := executor
  runtimeProgram := none
  runtimeKind := none
  containerName := none
  containerId := none
  cgroupPath := none
  state := .active
  reason := none
  stopped := none
  logsComplete := none
  containerLeft := none
  containerRemoved := if executor = .container then some false else none

def AttemptRow.legacy (attemptId : String) (origin : Origin) : AttemptRow where
  attemptId := attemptId
  origin := origin
  jobId := none
  nodeId := none
  fenceEpoch := none
  executor := .legacy
  runtimeProgram := none
  runtimeKind := none
  containerName := none
  containerId := none
  cgroupPath := none
  state := .closed
  reason := some "legacy_adopt"
  stopped := none
  logsComplete := none
  containerLeft := none
  containerRemoved := none

def rowFormatVersion : Int := 1

def formatVersion : Int := 1

/-- The columns of a row, without the two times that nothing reads. An INTEGER has 64 bits and a sign. -/
structure RawRow where
  attemptId : String
  rowFormatVersion : Int
  origin : String
  jobId : Option String
  nodeId : Option String
  fenceEpoch : Option Int
  executor : String
  runtimeProgram : Option String
  runtimeKind : Option String
  containerName : Option String
  containerId : Option String
  cgroupPath : Option String
  state : String
  reason : Option String
  stopped : Option Int
  logsComplete : Option Int
  containerLeft : Option Int
  containerRemoved : Option Int

def flagColumn (value : Bool) : Int := if value then 1 else 0

def optBool (value : Option Bool) : Option Int := value.map flagColumn

/-- What does not fit an INTEGER is written as -1. -/
def epochColumn (epoch : UInt64) : Int := if epoch.toNat < 2 ^ 63 then epoch.toNat else -1

/-- The columns that `insert_row` writes. -/
def AttemptRow.columns (row : AttemptRow) : RawRow where
  attemptId := row.attemptId
  rowFormatVersion := Agent.rowFormatVersion
  origin := row.origin.asStr
  jobId := row.jobId
  nodeId := row.nodeId
  fenceEpoch := row.fenceEpoch.map epochColumn
  executor := row.executor.asStr
  runtimeProgram := row.runtimeProgram
  runtimeKind := row.runtimeKind
  containerName := row.containerName
  containerId := row.containerId
  cgroupPath := row.cgroupPath
  state := row.state.asStr
  reason := row.reason
  stopped := optBool row.stopped
  logsComplete := optBool row.logsComplete
  containerLeft := optBool row.containerLeft
  containerRemoved := optBool row.containerRemoved

section Validate

def flag (name id : String) : Option Int → Except String (Option Bool)
  | none => .ok none
  | some value =>
      if value = 0 then .ok (some false)
      else if value = 1 then .ok (some true)
      else .error s!"RUN_LEDGER: 행 {id} 의 {name} 값이 0 · 1 · 비어 있음이 아니다({value})"

def epochOfColumn (id : String) : Option Int → Except String (Option UInt64)
  | none => .ok none
  | some value =>
      if 0 ≤ value then .ok (some (UInt64.ofNat value.toNat))
      else .error s!"RUN_LEDGER: 행 {id} 의 fence_epoch 가 음수다"

/-- A container row says whether its container was removed, the others do not. -/
def removedFits : Executor → Option Bool → Bool
  | .container, some _ => true
  | .host, none | .legacy, none => true
  | _, _ => false

def RawRow.validate (raw : RawRow) : Except String AttemptRow := do
  let id := raw.attemptId
  let version := raw.rowFormatVersion
  let originText := raw.origin
  let executorText := raw.executor
  let stateText := raw.state
  Except.ensure (version = Agent.rowFormatVersion) s!"RUN_LEDGER: 행 {id} 의 형식 버전을 모른다({version})"
  let origin ← Except.ofOption s!"RUN_LEDGER: 행 {id} 의 출처를 모른다({originText})"
    (Origin.parse originText)
  let executor ← Except.ofOption s!"RUN_LEDGER: 행 {id} 의 실행기를 모른다({executorText})"
    (Executor.parse executorText)
  let state ← Except.ofOption s!"RUN_LEDGER: 행 {id} 의 상태를 모른다({stateText})"
    (RowState.parse stateText)
  let containerRemoved ← flag "container_removed" id raw.containerRemoved
  Except.ensure (removedFits executor containerRemoved = true)
    s!"RUN_LEDGER: 행 {id} 의 container_removed 가 실행기와 맞지 않는다"
  Except.ensure (executor = .legacy ↔ origin ≠ .agent)
    s!"RUN_LEDGER: 행 {id} 의 실행기와 출처가 맞지 않는다"
  Except.ensure (executor = .legacy → state = .closed)
    s!"RUN_LEDGER: legacy 행 {id} 가 CLOSED 가 아니다"
  let fenceEpoch ← epochOfColumn id raw.fenceEpoch
  let stopped ← flag "stopped" id raw.stopped
  let logsComplete ← flag "logs_complete" id raw.logsComplete
  let containerLeft ← flag "container_left" id raw.containerLeft
  .ok
    { attemptId := raw.attemptId, origin, jobId := raw.jobId, nodeId := raw.nodeId, fenceEpoch, executor,
      runtimeProgram := raw.runtimeProgram, runtimeKind := raw.runtimeKind,
      containerName := raw.containerName, containerId := raw.containerId, cgroupPath := raw.cgroupPath,
      state, reason := raw.reason, stopped, logsComplete, containerLeft, containerRemoved }

/-- What a row has to keep for the ledger to be read. -/
structure AttemptRow.WellFormed (row : AttemptRow) : Prop where
  removed : removedFits row.executor row.containerRemoved = true
  origin : row.executor = .legacy ↔ row.origin ≠ .agent
  legacyClosed : row.executor = .legacy → row.state = .closed
  epoch : ∀ epoch, row.fenceEpoch = some epoch → epoch.toNat < 2 ^ 63

theorem flag_optBool (name id : String) (value : Option Bool) :
    flag name id (optBool value) = .ok value := by
  rcases value with _ | _ | _ <;> rfl

theorem epochOfColumn_epochColumn (id : String) {value : Option UInt64}
    (fits : ∀ epoch, value = some epoch → epoch.toNat < 2 ^ 63) :
    epochOfColumn id (value.map epochColumn) = .ok value := by
  cases value with
  | none => rfl
  | some epoch =>
      have below := fits epoch rfl
      rw [Option.map_some, epochColumn, if_pos below, epochOfColumn,
        if_pos (Int.natCast_nonneg _), Int.toNat_natCast, UInt64.ofNat_toNat]

theorem AttemptRow.WellFormed.validate_columns {row : AttemptRow} (formed : row.WellFormed) :
    row.columns.validate = .ok row := by
  refine Except.bind_eq_ok.mpr ⟨(), if_pos rfl, ?_⟩
  refine Except.bind_eq_ok.mpr ⟨row.origin, Except.ofOption_eq_ok.mpr (Origin.parse_asStr _), ?_⟩
  refine Except.bind_eq_ok.mpr ⟨row.executor, Except.ofOption_eq_ok.mpr (Executor.parse_asStr _), ?_⟩
  refine Except.bind_eq_ok.mpr ⟨row.state, Except.ofOption_eq_ok.mpr (RowState.parse_asStr _), ?_⟩
  refine Except.bind_eq_ok.mpr ⟨row.containerRemoved, flag_optBool _ _ _, ?_⟩
  refine Except.bind_eq_ok.mpr ⟨(), if_pos formed.removed, ?_⟩
  refine Except.bind_eq_ok.mpr ⟨(), if_pos formed.origin, ?_⟩
  refine Except.bind_eq_ok.mpr ⟨(), if_pos formed.legacyClosed, ?_⟩
  refine Except.bind_eq_ok.mpr ⟨row.fenceEpoch, epochOfColumn_epochColumn _ formed.epoch, ?_⟩
  refine Except.bind_eq_ok.mpr ⟨row.stopped, flag_optBool _ _ _, ?_⟩
  refine Except.bind_eq_ok.mpr ⟨row.logsComplete, flag_optBool _ _ _, ?_⟩
  refine Except.bind_eq_ok.mpr ⟨row.containerLeft, flag_optBool _ _ _, ?_⟩
  rfl

end Validate

/-- The two tables of the ledger file. -/
structure LedgerFile where
  metaRows : Table String String
  attempts : Table String RawRow

section Open

/-- 32 lower-case hexadecimal digits. -/
def isGeneration (value : String) : Bool :=
  value.utf8ByteSize = 32 &&
    value.toList.all fun c => ('0' ≤ c && c ≤ '9') || ('a' ≤ c && c ≤ 'f')

/-- `INSERT INTO attempts`, which fails where the key is taken. -/
def insertRow (row : AttemptRow) (file : LedgerFile) : Except String LedgerFile :=
  if row.attemptId ∈ file.attempts then .error "UNIQUE constraint failed: attempts.attempt_id"
  else .ok { file with attempts := file.attempts.insert row.attemptId row.columns }

/-- The database that `create_ledger_file` fills before it gives it its name. -/
def createLedgerFile (generation : String) (rows : List AttemptRow) : Except String LedgerFile :=
  let empty : LedgerFile :=
    { metaRows := ((∅ : Table String String).insert "format_version" (toString formatVersion)).insert
        "generation" generation
      attempts := ∅ }
  rows.foldlM (fun file row => (insertRow row file).mapError fun fault =>
    let id := row.attemptId
    s!"RUN_LEDGER: 행을 쓰지 못했다({id}): {fault}") empty

namespace LedgerFile

/-- All the rows, by `attempt_id`; one bad row refuses them all. -/
def rows (file : LedgerFile) : Except String (List AttemptRow) := file.attempts.rows.mapM RawRow.validate

def row (file : LedgerFile) (attemptId : String) : Except String (Option AttemptRow) :=
  Except.onSome RawRow.validate file.attempts[attemptId]?

def metaValue (file : LedgerFile) (key : String) : Except String String :=
  Except.ofOption s!"RUN_LEDGER: meta 에 {key} 가 없다" file.metaRows[key]?

/-- `open_existing` of a file that is sound as a database: the generation of the ledger. -/
def openExisting (file : LedgerFile) : Except String String := do
  let version ← file.metaValue "format_version"
  Except.ensure (version = toString formatVersion) s!"RUN_LEDGER: 원장 형식 버전을 모른다({version})"
  let generation ← file.metaValue "generation"
  Except.ensure (isGeneration generation = true) "RUN_LEDGER: 원장의 세대 값 형식이 틀렸다"
  let _ ← file.rows
  .ok generation

def blocksNewWork (file : LedgerFile) : Except String Bool := do
  let rows ← file.rows
  .ok (rows.any fun row => row.state = .active ∨ row.state = .localBlocked)

end LedgerFile

end Open

section Calls

/-- A transaction that is rolled back unless its body ends well and the commit goes through. -/
def transaction (commits : Bool) (body : LedgerFile → Except String LedgerFile) (file : LedgerFile) :
    LedgerFile × Except String Unit :=
  match body file with
  | .ok next =>
      if commits then (next, .ok ()) else (file, .error "RUN_LEDGER: 커밋하지 못했다")
  | .error fault => (file, .error fault)

def insertActive (row : AttemptRow) (commits : Bool) (file : LedgerFile) :
    LedgerFile × Except String Unit :=
  let id := row.attemptId
  if row.state ≠ .active ∨ row.origin ≠ .agent ∨ row.executor = .legacy then
    (file, .error "RUN_LEDGER: 새 행은 이 Agent 의 ACTIVE 행이어야 한다")
  else if row.fenceEpoch.any fun epoch => 2 ^ 63 ≤ epoch.toNat then
    let epoch := row.fenceEpoch.getD 0
    (file, .error (s!"RUN_LEDGER: fence_epoch 가 원장이 담을 수 있는 범위(i64)를 넘는다(Some({epoch})) " ++
      "— 적지 않는다"))
  else transaction commits (fun file => (insertRow row file).mapError fun fault =>
    s!"RUN_LEDGER: ACTIVE 행을 쓰지 못했다({id}): {fault}") file

/-- The row is read and checked, the guard looks at it, and the columns are changed. -/
def updateRow (attemptId : String) (guard : AttemptRow → Except String Unit)
    (change : RawRow → RawRow) (file : LedgerFile) : Except String LedgerFile := do
  let raw ← Except.ofOption s!"RUN_LEDGER: 행이 없다({attemptId})" file.attempts[attemptId]?
  let current ← raw.validate
  guard current
  .ok { file with attempts := file.attempts.update attemptId change }

def updateState (attemptId : String) (guard : AttemptRow → Except String Unit)
    (change : RawRow → RawRow) (commits : Bool) : LedgerFile → LedgerFile × Except String Unit :=
  transaction commits (updateRow attemptId guard change)

inductive CloseReason where
  | notStarted
  | noSentinel
  | reportPersisted
  | hostRestart
  deriving DecidableEq

def CloseReason.asStr : CloseReason → String
  | notStarted => "not_started"
  | noSentinel => "no_sentinel"
  | reportPersisted => "report_persisted"
  | hostRestart => "host_restart"

/-- The three facts that are recorded of the end of a run. -/
structure ExitFacts where
  stopped : Option Bool
  logsComplete : Option Bool
  containerLeft : Option Bool

/-- The calls of a `RunLedger` that write. -/
inductive LedgerCall where
  | insertActive (row : AttemptRow)
  | recordFacts (attemptId : String) (facts : ExitFacts)
  | markContainerRemoved (attemptId : String) (containerId : Option String)
  | recordContainerExit (attemptId : String) (facts : ExitFacts) (removedConfirmed : Bool)
      (blockedReason : String)
  | markLocalBlocked (attemptId reason : String)
  | closeActive (attemptId : String) (reason : CloseReason)
  | clearLocalBlocked (attemptId : String)

variable (attemptId : String) (row : AttemptRow)

def guardFacts : Except String Unit :=
  Except.ensure (row.state = .active) s!"RUN_LEDGER: 판정 사실은 ACTIVE 행에만 적는다({attemptId})"

def guardRemoved : Except String Unit :=
  Except.ensure (row.executor = .container ∧ row.state = .active)
    s!"RUN_LEDGER: 부재 확인은 ACTIVE 컨테이너 행에만 적는다({attemptId})"

def guardExit : Except String Unit :=
  let state := row.state.debugName
  Except.ensure (row.executor = .container ∧ row.state = .active)
    s!"RUN_LEDGER: 컨테이너 종료 결과는 ACTIVE 컨테이너 행에만 적는다({attemptId} · {state})"

def guardBlocked : Except String Unit :=
  let state := row.state.debugName
  Except.ensure (row.state = .active)
    s!"RUN_LEDGER: LOCAL_BLOCKED 로는 ACTIVE 에서만 간다({attemptId} · {state})"

/-- Which rows may be closed for which reason. -/
def closeRule (reason : CloseReason) : Except String Unit :=
  match row.executor, reason with
  | .container, .reportPersisted =>
      Except.ensure (row.containerRemoved = some true)
        s!"RUN_LEDGER: 컨테이너 부재 확인 없이 닫지 않는다({attemptId})"
  | .container, .hostRestart =>
      .error s!"RUN_LEDGER: 컨테이너 행을 호스트 규칙으로 닫지 않는다({attemptId})"
  | .container, .notStarted | .container, .noSentinel => .ok ()
  | .host, _ => .ok ()
  | .legacy, _ => .error s!"RUN_LEDGER: legacy 행은 바꾸지 않는다({attemptId})"

def guardClose (reason : CloseReason) : Except String Unit := do
  let state := row.state.debugName
  Except.ensure (row.state = .active)
    s!"RUN_LEDGER: CLOSED 로는 ACTIVE 에서만 간다(해제는 따로 — {attemptId} · {state})"
  closeRule attemptId row reason

def guardClear : Except String Unit :=
  let state := row.state.debugName
  Except.ensure (row.state = .localBlocked)
    s!"RUN_LEDGER: 해제는 LOCAL_BLOCKED 에서만 된다({attemptId} · {state})"

/-- `SET stopped = ?, logs_complete = ?, container_left = ?` -/
def RawRow.setFacts (facts : ExitFacts) (raw : RawRow) : RawRow :=
  { raw with
    stopped := optBool facts.stopped
    logsComplete := optBool facts.logsComplete
    containerLeft := optBool facts.containerLeft }

/-- `SET container_removed = CASE …, state = CASE …, reason = CASE …` -/
def RawRow.setExit (removed : Int) (reason : String) (raw : RawRow) : RawRow :=
  { raw with
    containerRemoved := if removed = 1 then some 1 else raw.containerRemoved
    state := if removed = 1 then raw.state else "LOCAL_BLOCKED"
    reason := if removed = 1 then raw.reason else some reason }

/-- `SET state = ?, reason = ?` -/
def RawRow.setState (state reason : String) (raw : RawRow) : RawRow :=
  { raw with state, reason := some reason }

def LedgerCall.call (commits : Bool) : LedgerCall → LedgerFile → LedgerFile × Except String Unit
  | insertActive row => Agent.insertActive row commits
  | recordFacts id facts => updateState id (guardFacts id) (·.setFacts facts) commits
  | markContainerRemoved id containerId =>
      updateState id (guardRemoved id)
        (fun raw => { raw with containerRemoved := some 1, containerId := containerId <|> raw.containerId })
        commits
  | recordContainerExit id facts removedConfirmed blockedReason =>
      updateState id (guardExit id)
        (fun raw => (raw.setFacts facts).setExit (flagColumn removedConfirmed) blockedReason) commits
  | markLocalBlocked id reason =>
      updateState id (guardBlocked id) (·.setState "LOCAL_BLOCKED" reason) commits
  | closeActive id reason =>
      updateState id (guardClose id · reason) (·.setState "CLOSED" reason.asStr) commits
  | clearLocalBlocked id => updateState id (guardClear id) (·.setState "CLOSED" "cleared") commits

end Calls

end Gputeer.Agent
