import Gputeer.Agent.ContainerCreate
import Gputeer.Agent.ContainerSafety
import Gputeer.Agent.LedgerFiles
import Gputeer.Agent.RunLedgerSound
import Gputeer.Protocol.AttemptReportRules

/-! The runs of an Agent with a run ledger: what is written of an attempt before its workload is started and after
it has ended, what the next run makes of the rows that are left, and what the owner clears. -/

namespace Gputeer.Agent

open Dialogue Protocol

section Executions

/-- How a workload came not to end as it should. -/
inductive ExecutionError where
  | notOptedIn
  | unsupportedPlatform (detail : String)
  | limitNotApplied (detail : String)
  | spawnFailed (detail : String)
  | waitFailed (detail : String)
  | stopFailed (detail : String)
  | gpuRequirementUnmet (detail : String)
  | gpuUnverifiable (detail : String)
  | containerRefused (detail : String)
  | hostElevated (detail : String)

def ExecutionError.display : ExecutionError → String
  | notOptedIn => "EXEC_REFUSED:NOT_OPTED_IN: 실행이 명시적으로 켜지지 않았다"
  | unsupportedPlatform detail => s!"EXEC_REFUSED:UNSUPPORTED_PLATFORM: {detail}"
  | limitNotApplied detail =>
      s!"EXEC_REFUSED:LIMIT_NOT_APPLIED: 자원 상한을 걸지 못해 실행하지 않았다 — {detail}"
  | spawnFailed detail => s!"EXEC_FAILED:SPAWN: {detail}"
  | waitFailed detail => s!"EXEC_FAILED:WAIT: 종료를 관측하지 못했다(자식이 살아 있을 수 있다) — {detail}"
  | stopFailed detail => s!"OWNER_STOP_FAILED: 소유자의 정지 요청을 실행하지 못했다 — {detail}"
  | gpuRequirementUnmet detail =>
      s!"EXEC_REFUSED:GPU_REQUIREMENT_UNMET: 요구한 GPU 가 지금 이 노드에 없다 — {detail}"
  | gpuUnverifiable detail =>
      s!"EXEC_REFUSED:GPU_UNVERIFIABLE: GPU 를 확인하지 못했다(모자란 것이 아니다) — {detail}"
  | containerRefused detail => s!"EXEC_REFUSED:{detail}"
  | hostElevated detail =>
      "EXEC_REFUSED:HOST_ELEVATED: Agent 가 관리자(상승) 권한으로 돌고 있어 호스트 작업을 띄우지 않는다 — 작업이 " ++
        "관리자 권한을 물려받는다. 일반(상승 아님) 창 · 작업 스케줄러 /RL LIMITED 로 Agent 를 띄운다 — " ++ detail

def ExecutionError.workloadMayBeAlive : ExecutionError → Bool
  | waitFailed _ => true
  | _ => false

inductive ExitObserved where
  | code (code : UInt32)
  | noCode (detail : String)

structure ExecutionOutcome where
  exit : ExitObserved
  outputsIncomplete : Option String
  containerNeedsHuman : Bool

/-- What an execution is given; the folders and the environment are in `input`. -/
structure ExecutionPolicy where
  attemptId : String
  optedIn : Bool
  commitLimitBytes : UInt64
  requiresGpus : Bool
  allowElevatedHost : Bool
  container : ContainerDecision
  input : CreateInput
  stdoutPath : String
  stderrPath : String

def deriveContainerName (blake3 : List UInt8 → Vector UInt8 32) (attemptId : String) : String :=
  let hashed := blake3 (Bytes.utf8 "gputeer/v2/container-name" ++ Bytes.beBytes 8 (Bytes.utf8 attemptId).length ++
    Bytes.utf8 attemptId)
  "gputeer-" ++ String.ofList ((Checkpoint.toHex hashed.toList).toList.take 32)

end Executions

section Questions

/-- What else a run does on its way, by the name of the step: none of these touches the ledger, the start records
or the reports, and none starts a container. -/
inductive AgentStep where
  | claimRoot
  | lockRoot
  | outboxDir
  | ownerReclaimed
  | startupGc
  | openIncidents
  | probeIncidentDir
  | removeLeftovers
  | ownerPanel
  | fenceWatermark
  | flushOutbox
  | multiAgentSession
  | backoff
  | connect
  | resumeConnection
  | runFolder
  | removeRunFolder
  | grantAck
  | ackReceipt
  | leaseLeft
  | confirmStart
  | ownerMarker
  | reportsSent
  | restOfConnection
  | syncIncidents

/-- A call of the ledger, or a start record; one that failed may have been written all the same. -/
inductive Written where
  | done
  | failed (why : String) (applied : Bool)

def Written.result : Written → Except String Unit
  | done => .ok ()
  | failed why _ => .error why

def Written.applied : Written → Bool
  | done => true
  | failed _ applied => applied

/-- What a connection has verified before it looks at the workload: grant, lease and manifest. -/
structure HeldGrant where
  attemptId : String
  jobId : String
  fenceEpoch : UInt64
  workload : Option ExecutionPolicy

/-- What became of the outputs after the end. -/
structure Finalized where
  oversized : Bool
  failure : Option (FinalizationFailureStage × String)

inductive NodeQuestion where
  | step (step : AgentStep)
  | detect
  | openForAgent
  | openForClear
  | rows
  | row (attemptId : String)
  | blocksNewWork
  | call (call : LedgerCall)
  | scanStartRecords
  | attemptStartedHere (attemptId : String)
  | recordAttemptStartedHere (attemptId : String)
  | outbox
  | outboxTerminalReport (attemptId jobId nodeId : String) (fenceEpoch : UInt64)
  | incidentRecordedFor (name : String)
  | writeIncident (name kind detail : String)
  | clearIncidents (name : Option String)
  | grant
  | elevated
  | checkGpuRequirements
  | executionAttempted (attemptId : String)
  | container (attemptId : String) (asked : RunQuestion)
  | stillWatching
  | executeOnHost (attemptId : String)
  | finalizeOutputs

/-- The entries of the outbox are the files with the right ending, in the order of the folder; `none` is one that is
not accepted. Of an unmet GPU requirement it is told whether it is only unknown. -/
abbrev NodeQuestion.Answer : NodeQuestion → Type
  | step _ | openForAgent | writeIncident _ _ _ => Except String Unit
  | detect => Except String Presence
  | openForClear | blocksNewWork | attemptStartedHere _ | elevated => Except String Bool
  | rows => Except String (List AttemptRow)
  | row _ => Except String (Option AttemptRow)
  | call _ | recordAttemptStartedHere _ => Written
  | outboxTerminalReport _ _ _ _ => Written
  | scanStartRecords => Except String AttemptIds
  | outbox => Except String (List (Except String (Option AttemptReport)))
  | incidentRecordedFor _ => Bool
  | clearIncidents _ => Except String Nat
  | grant => Except String HeldGrant
  | checkGpuRequirements => Except (Bool × String) Unit
  | executionAttempted _ => Unit
  | container _ asked => asked.Answer
  | stillWatching => Empty
  | executeOnHost _ => Except ExecutionError ExecutionOutcome
  | finalizeOutputs => Finalized

abbrev NodeDialogue := Dialogue NodeQuestion NodeQuestion.Answer

abbrev takes (step : AgentStep) : NodeDialogue (Except String Unit) := question (NodeQuestion.step step)

abbrev calls (call : LedgerCall) : NodeDialogue (Except String Unit) :=
  Written.result <$> question (NodeQuestion.call call)

/-- A run of a container, within the run of the Agent. -/
def duringRun {α : Type} (attemptId : String) : ContainerDialogue α → NodeDialogue α
  | .done result => .done result
  | .ask asked next => .ask (.container attemptId asked) fun answered => duringRun attemptId (next answered)

/-- A step for each of them, until one fails. -/
def forEach {α : Type} (step : α → NodeDialogue (Except String Unit)) : List α → NodeDialogue (Except String Unit)
  | [] => pure (.ok ())
  | first :: rest => (step first).andThen fun _ => forEach step rest

end Questions

/-- The settings that the runs of an Agent depend on. -/
structure AgentSettings where
  agentDeviceId : String
  multiAgent : Bool
  runLedger : Bool
  checkpointRootIsDefault : Bool
  reportOverSession : Bool
  requireAckReceipt : Bool
  resumeProtocol : Bool
  renewDuringExecutionMs : UInt64
  reconnectEnabled : Bool
  maxReconnectAttempts : Nat
  recoverAmbiguousRenew : Bool
  containerRuntime : Option ContainerRuntime

variable (blake3 : List UInt8 → Vector UInt8 32) (settings : AgentSettings)

section Startup

/-- Whether one of the entries is the accepted report of this row. -/
def acceptedIn (row : AttemptRow) : List (Except String (Option AttemptReport)) → Except String Bool
  | [] => .ok false
  | .error error :: _ => .error s!"RUN_LEDGER: 보관함 항목을 읽지 못했다: {error}"
  | .ok none :: rest => acceptedIn row rest
  | .ok (some report) :: rest =>
      if report.attemptId = row.attemptId ∧ row.nodeId = some report.nodeId ∧ row.jobId = some report.jobId ∧
          row.fenceEpoch = some report.fenceEpoch then .ok true
      else acceptedIn row rest

def acceptedOutboxReportExists (row : AttemptRow) : NodeDialogue (Except String Bool) := do
  match ← question NodeQuestion.outbox with
  | .ok entries => pure (acceptedIn row entries)
  | .error error => pure (.error error)

/-- A row that a run before this one left active. -/
def resolveActiveRow (records : AttemptIds) (row : AttemptRow) : NodeDialogue (Except String Unit) :=
  let id := row.attemptId
  if row.state ≠ .active then pure (.ok ())
  else
    match row.executor with
    | .host => calls (.closeActive id (if id ∈ records then .hostRestart else .noSentinel))
    | .container =>
        if id ∉ records then calls (.closeActive id .noSentinel)
        else (acceptedOutboxReportExists row).andThen fun report =>
          if report ∧ row.containerRemoved = some true then calls (.closeActive id .reportPersisted)
          else
            let reason := if report then "report_without_removal" else "no_report"
            (calls (.markLocalBlocked id reason)).andThen fun _ => do
              let name := row.containerName.getD (deriveContainerName blake3 id)
              let _ ← question (NodeQuestion.writeIncident name "RUN_UNKNOWN"
                s!"노드 실행 원장 — 시작했지만 끝을 확인하지 못했다({reason}) · 확인 뒤 해제한다")
              pure (.ok ())
    | .legacy => pure (.error s!"RUN_LEDGER: legacy 행이 ACTIVE 다({id}) — 원장이 바뀌었다")

def resolveActiveLedgerRows : NodeDialogue (Except String Unit) :=
  (question NodeQuestion.scanStartRecords).andThen fun records =>
    (takes .outboxDir).andThen fun _ =>
      (question NodeQuestion.rows).andThen fun rows => forEach (resolveActiveRow blake3 records) rows

/-- Whether this run has a ledger. -/
def openRunLedgerAtStartup : NodeDialogue (Except String Bool) :=
  (question NodeQuestion.detect).andThen fun presence =>
    if !settings.runLedger then
      if presence.neverEnabled then pure (.ok false)
      else if presence.adopting then
        pure (.error ("RUN_LEDGER_ADOPT_UNFINISHED: 이관이 끝나지 않았다 — Agent 를 멈춘 채 `gputeer run-ledger " ++
          "adopt-legacy` 를 다시 돌린다(스위치와 무관)"))
      else
        let ledger := presence.ledger
        let pair := presence.pair
        let adopting := presence.adopting
        let creating := presence.creating
        pure (.error ("RUN_LEDGER_ENABLED_ROOT: 이 루트는 노드 실행 원장을 켰다" ++
          s!"(원장 {ledger} · 세대 짝 {pair} · 이관 표식 {adopting} · 만드는 중 표식 {creating}) — " ++
          "`--run-ledger true` 로 띄운다(켜기는 되돌리지 않는다)"))
    else if settings.checkpointRootIsDefault then
      pure (.error ("RUN_LEDGER_CONFIG_REFUSED: --run-ledger 는 고정 --checkpoint-root 가 있어야 한다 — 기본 루트는 " ++
        "기동마다 바뀌어 원장이 이전 기록을 못 본다"))
    else if !settings.reportOverSession then
      pure (.error ("RUN_LEDGER_CONFIG_REFUSED: --run-ledger 는 --report-over-session true 가 있어야 한다 — 종료 " ++
        "보고를 디스크에 남긴 뒤에만 CLOSED 를 적는다"))
    else if !settings.requireAckReceipt then
      pure (.error ("RUN_LEDGER_CONFIG_REFUSED: --run-ledger 는 --require-ack-receipt true 가 있어야 한다 — 시작 " ++
        "기록(sentinel)이 그 경로에서만 쓰인다"))
    else
      (question NodeQuestion.openForAgent).andThen fun _ =>
        (resolveActiveLedgerRows blake3).andThen fun _ =>
          (question NodeQuestion.blocksNewWork).andThen fun blocked =>
            if blocked then
              pure (.error ("RUN_LEDGER_BLOCKED: 원장에 막힌 시도(LOCAL_BLOCKED)가 있다 — 새 작업을 받지 않는다. " ++
                "컨테이너 · 작업 폴더를 확인한 뒤 `gputeer container-incidents --checkpoint-root <루트> --clear " ++
                "<이름>` 으로 해제한다"))
            else pure (.ok true)

end Startup

section Execute

def hostElevationGate : Except String Bool → Except ExecutionError Unit
  | .ok false => .ok ()
  | .ok true => .error (.hostElevated "토큰이 상승돼 있다(TokenElevation)")
  | .error why => .error (.hostElevated s!"상승 여부를 확인하지 못했다(모르면 띄우지 않는다): {why}")

/-- Only a workload on the host inherits the token of the Agent; one that is not elevated counts as seen. -/
def checkHostElevation (policy : ExecutionPolicy) : NodeDialogue (Except ExecutionError Unit) :=
  match policy.container with
  | .host =>
      if policy.allowElevatedHost then pure (.ok ()) else hostElevationGate <$> question NodeQuestion.elevated
  | .container _ | .refused _ => pure (.ok ())

def checkGpus (policy : ExecutionPolicy) : NodeDialogue (Except ExecutionError Unit) :=
  if policy.requiresGpus then do
    match ← question NodeQuestion.checkGpuRequirements with
    | .ok () => pure (.ok ())
    | .error (true, detail) => pure (.error (.gpuUnverifiable detail))
    | .error (false, detail) => pure (.error (.gpuRequirementUnmet detail))
  else pure (.ok ())

/-- What can be refused before anything is started. -/
def preflight (policy : ExecutionPolicy) : NodeDialogue (Except ExecutionError Unit) :=
  match policy.container with
  | .refused detail => pure (.error (.containerRefused detail))
  | .host | .container _ =>
      if !policy.optedIn then pure (.error .notOptedIn)
      else
        (checkHostElevation policy).andThen fun _ =>
          if policy.commitLimitBytes = 0 then pure (.error (.limitNotApplied "commit_limit_bytes 가 0 이다"))
          else checkGpus policy

def containerRun (policy : ExecutionPolicy) (execution : ContainerExecution) : ContainerRun :=
  let name := deriveContainerName blake3 policy.attemptId
  { name
    owner := execution.runtime.owner
    image := execution.pinnedImage
    passesAllGpus := execution.runtime.passGpu && execution.runtime.gpuRequest = .cdiAll
    create := createArgs execution { policy.input with name }
    stdoutPath := some policy.stdoutPath
    stderrPath := some policy.stderrPath
    incidentDir := execution.runtime.incidentDir }

/-- What the end of a container run is for the Agent. -/
def executionOfRun (name : String) : RunResult → Except ExecutionError ExecutionOutcome
  | .ok exit =>
      let code := exit.exitCode
      .ok
        { exit :=
            if 0 ≤ code ∧ code < 2 ^ 32 then .code (UInt32.ofNat code.toNat)
            else .noCode s!"컨테이너 종료 코드가 u32 범위 밖이다({code})"
          outputsIncomplete :=
            if exit.logsComplete then none
            else some s!"컨테이너 {name} 의 로그를 끝까지 받지 못했다(컨테이너를 남겼다)"
          containerNeedsHuman := exit.needsHuman }
  | .error (.notStarted detail container) =>
      if (ContainerRunError.notStarted detail container).needsHuman then
        .error (.waitFailed s!"작업은 시작하지 않았지만 같은 이름의 컨테이너가 남았다 — {detail}")
      else .error (.spawnFailed detail)
  | .error (.unobserved detail stopped logsComplete container) =>
      if !stopped then .error (.waitFailed detail)
      else
        .ok
          { exit := .noCode detail
            outputsIncomplete :=
              if logsComplete then none else some s!"컨테이너 로그를 끝까지 받지 못했다 — {detail}"
            containerNeedsHuman := (ContainerRunError.unobserved detail stopped logsComplete container).needsHuman }

/-- A container that runs longer than it is watched here is watched on. -/
def executeInContainer (polls : Nat) (policy : ExecutionPolicy) (execution : ContainerExecution) :
    NodeDialogue (Except ExecutionError ExecutionOutcome) := do
  match ← takes .runFolder with
  | .error why => pure (.error (.spawnFailed why))
  | .ok () =>
      let given := containerRun blake3 policy execution
      match ← duringRun policy.attemptId (runWithGpuCount given polls) with
      | some result => pure (executionOfRun given.name result)
      | none => .ask .stillWatching nofun

def executeWithControl (polls : Nat) (policy : ExecutionPolicy) :
    NodeDialogue (Except ExecutionError ExecutionOutcome) :=
  (preflight policy).andThen fun _ =>
    match policy.container with
    | .container execution => executeInContainer blake3 polls policy execution
    | .host | .refused _ => question (NodeQuestion.executeOnHost policy.attemptId)

/-- What the ledger has to know of an execution. -/
structure WorkloadLedgerFacts where
  notStarted : Bool
  containerRemoved : Option Bool
  stopped : Option Bool
  logsComplete : Option Bool

def WorkloadLedgerFacts.unknown : WorkloadLedgerFacts := ⟨false, none, none, none⟩

structure WorkloadReport where
  exit : ExitObserved
  finalizationFailure : Option (FinalizationFailureStage × String)

structure CapturedRun where
  report : Except String (Option WorkloadReport)
  facts : WorkloadLedgerFacts
  keepRunDir : Bool

/-- The facts of an execution, as far as it came. -/
def ledgerFacts : Except ExecutionError ExecutionOutcome → WorkloadLedgerFacts
  | .ok outcome =>
      { notStarted := false
        containerRemoved := some (!outcome.containerNeedsHuman)
        stopped := some true
        logsComplete := some outcome.outputsIncomplete.isNone }
  | .error (.waitFailed _) => { WorkloadLedgerFacts.unknown with stopped := some false, containerRemoved := some false }
  | .error .notOptedIn | .error (.spawnFailed _) | .error (.unsupportedPlatform _) | .error (.limitNotApplied _)
  | .error (.gpuRequirementUnmet _) | .error (.gpuUnverifiable _) | .error (.hostElevated _) =>
      { WorkloadLedgerFacts.unknown with notStarted := true }
  | .error (.stopFailed _) | .error (.containerRefused _) => .unknown

def runAndCaptureWorkload (polls : Nat) (policy : ExecutionPolicy) : NodeDialogue CapturedRun := do
  let executed ← executeWithControl blake3 polls policy
  match executed with
  | .error .notOptedIn => pure ⟨.ok none, ledgerFacts executed, false⟩
  | .error error => pure ⟨.error error.display, ledgerFacts executed, error.workloadMayBeAlive⟩
  | .ok outcome => do
      let finalized ← question NodeQuestion.finalizeOutputs
      pure ⟨.ok (some ⟨outcome.exit, finalized.failure⟩), ledgerFacts executed,
        outcome.containerNeedsHuman || finalized.oversized || finalized.failure.isSome⟩

end Execute

section Attempt

/-- The folder is removed, and the error goes on. -/
def failAfterCleanup {α : Type} (primary : String) : NodeDialogue (Except String α) := do
  match ← takes .removeRunFolder with
  | .ok () => pure (.error primary)
  | .error cleanup => pure (.error s!"{primary} / 그리고 {cleanup}")

/-- A step whose error goes on after the folder is removed. -/
def orCleanUp {α β : Type} (step : NodeDialogue (Except String α)) (worded : String → String)
    (next : α → NodeDialogue (Except String β)) : NodeDialogue (Except String β) := do
  match ← step with
  | .ok value => next value
  | .error error => failAfterCleanup (worded error)

def runLedgerFatal (detail : String) : String := s!"RUN_LEDGER_FATAL: {detail}"

/-- The row of an attempt that is about to be started. -/
def newRow (held : HeldGrant) (policy : ExecutionPolicy) : AttemptRow :=
  match policy.container with
  | .container _ =>
      { AttemptRow.newActive held.attemptId held.jobId settings.agentDeviceId held.fenceEpoch .container with
        containerName := some (deriveContainerName blake3 held.attemptId)
        runtimeProgram := settings.containerRuntime.map (·.program)
        runtimeKind := settings.containerRuntime.map fun runtime =>
          match runtime.flavor with
          | .podman => "podman"
          | .docker => "docker" }
  | .host | .refused _ =>
      AttemptRow.newActive held.attemptId held.jobId settings.agentDeviceId held.fenceEpoch .host

/-- First the row, then the start record; without it the row is closed again. -/
def recordStart (ledgerOn : Bool) (held : HeldGrant) (policy : ExecutionPolicy) :
    NodeDialogue (Except String Unit) :=
  let inserted := if ledgerOn then calls (.insertActive (newRow blake3 settings held policy)) else pure (.ok ())
  orCleanUp inserted (fun error => s!"RUN_LEDGER_ROW_NOT_WRITTEN: 원장에 시작을 적지 못해 실행하지 않는다 — {error}")
    fun _ => do
      match (← question (NodeQuestion.recordAttemptStartedHere held.attemptId)).result with
      | .ok () => pure (.ok ())
      | .error error =>
          match ← (if ledgerOn then calls (.closeActive held.attemptId .notStarted) else pure (.ok ())) with
          | .ok () => failAfterCleanup error
          | .error closeError =>
              failAfterCleanup (runLedgerFatal
                s!"시작 기록 실패 뒤 원장 행을 닫지 못했다: {closeError} · {error}")

/-- An attempt that was started here is not taken again. -/
def refuseStarted (held : HeldGrant) (refused : NodeDialogue (Except String Unit)) :
    NodeDialogue (Except String Unit) :=
  (question (NodeQuestion.attemptStartedHere held.attemptId)).andThen fun started =>
    if started then refused else pure (.ok ())

/-- Everything before the workload is started: whether it will be. -/
def prepareAttempt (ledgerOn : Bool) (held : HeldGrant) (policy : ExecutionPolicy) :
    NodeDialogue (Except String Bool) :=
  let id := held.attemptId
  let early : NodeDialogue (Except String Unit) :=
    if settings.requireAckReceipt then
      refuseStarted held (pure (.error (s!"ATTEMPT_ALREADY_STARTED_HERE: 시도 {id} 는 이 노드에서 이미 시작했다 — " ++
        "다시 받지 않는다(두 번 돌지 않게) · 이전 작업 폴더는 지우지 않았다")))
    else pure (.ok ())
  early.andThen fun _ =>
    (takes .runFolder).andThen fun _ => do
      match ← preflight policy with
      | .error .notOptedIn => acknowledge false
      | .error refused => failAfterCleanup refused.display
      | .ok () => acknowledge true
where
  /-- The acceptance is sent before the workload is started. -/
  acknowledge (willExecute : Bool) : NodeDialogue (Except String Bool) :=
    let again : NodeDialogue (Except String Unit) :=
      if settings.requireAckReceipt && willExecute then
        let id := held.attemptId
        refuseStarted held (failAfterCleanup
          (s!"ATTEMPT_ALREADY_STARTED_HERE: 시도 {id} 는 이 노드에서 이미 시작했다 — 다시 받지 않는다(두 번 돌지 않게)"))
      else pure (.ok ())
    again.andThen fun _ =>
      orCleanUp (takes .grantAck) id fun _ =>
        if settings.requireAckReceipt then
          orCleanUp (takes .ackReceipt) id fun _ =>
            if willExecute then
              orCleanUp (takes .leaseLeft) id fun _ =>
                (recordStart blake3 settings ledgerOn held policy).andThen fun _ =>
                  if 0 < settings.renewDuringExecutionMs then
                    orCleanUp (takes .confirmStart) id fun _ => pure (.ok true)
                  else pure (.ok true)
            else pure (.ok false)
        else pure (.ok willExecute)

/-- What the run came to is written before its report is kept. -/
def recordEnd (held : HeldGrant) (policy : ExecutionPolicy) (facts : WorkloadLedgerFacts) (incidentOpen : Bool) :
    NodeDialogue (Except String Unit) :=
  if facts.notStarted then calls (.closeActive held.attemptId .notStarted)
  else
    match policy.container with
    | .container _ =>
        calls (.recordContainerExit held.attemptId
          ⟨facts.stopped, facts.logsComplete, facts.containerRemoved.map fun removed => !removed || incidentOpen⟩
          (facts.containerRemoved = some true && !incidentOpen) "container_not_confirmed_removed")
    | .host | .refused _ => pure (.ok ())

/-- A row that is still active is closed once its report is kept. -/
def closeReported (held : HeldGrant) : NodeDialogue (Except String Unit) :=
  (question (NodeQuestion.row held.attemptId)).andThen fun found =>
    match found with
    | some row => if row.state = .active then calls (.closeActive held.attemptId .reportPersisted) else pure (.ok ())
    | none => pure (.ok ())

def mapFault {α : Type} (worded : String → String) (step : NodeDialogue (Except String α)) :
    NodeDialogue (Except String α) := Except.mapError worded <$> step

def mergeRunAndCleanup {α : Type} : Except String α → Except String Unit → Except String (α × Option String)
  | .ok value, .ok () => .ok (value, none)
  | .ok value, .error cleanup => .ok (value, some cleanup)
  | .error run, .ok () => .error run
  | .error run, .error cleanup => .error s!"{run} / 그리고 {cleanup}"

/-- What is left of a connection. That the folder could not be removed is told once the reports are sent. -/
def afterwards (cleanupFailure : Option String) : NodeDialogue (Except String Unit) :=
  (takes .reportsSent).andThen fun _ =>
    match cleanupFailure with
    | some error => pure (.error s!"WORKLOAD_CLEANUP_FAILED: 작업 디렉터리를 지우지 못했다: {error}")
    | none => takes .restOfConnection

def outboxTerminalReport (held : HeldGrant) : NodeDialogue (Except String Unit) :=
  Written.result <$> question (NodeQuestion.outboxTerminalReport held.attemptId held.jobId settings.agentDeviceId
    held.fenceEpoch)

/-- The execution, and everything after it in the connection. `rowWritten` is whether the attempt has a row. -/
def executeAttempt (polls : Nat) (rowWritten : Bool) (held : HeldGrant) (policy : ExecutionPolicy) :
    NodeDialogue (Except String Unit) := do
  let ran ← runAndCaptureWorkload blake3 polls policy
  let incidentOpen ← incidentRecorded
  let ended := if rowWritten then recordEnd held policy ran.facts incidentOpen else pure (.ok ())
  (mapFault (fun error => runLedgerFatal
      s!"종료 뒤 원장에 컨테이너 처리 결과를 적지 못했다 — 보고를 보관하지 않는다: {error}") ended).andThen fun _ => do
    match mergeRunAndCleanup ran.report (← cleanUp (ran.keepRunDir || incidentOpen)) with
    | .error error => pure (.error error)
    | .ok (observed, cleanupFailure) =>
        (markOwner observed).andThen fun _ =>
          (keepReport observed).andThen fun kept => (closed kept).andThen fun _ => afterwards cleanupFailure
where
  incidentRecorded : NodeDialogue Bool :=
    if settings.containerRuntime.any (·.incidentDir.isSome) then
      question (NodeQuestion.incidentRecordedFor (deriveContainerName blake3 held.attemptId))
    else pure false
  cleanUp (keepRunDir : Bool) : NodeDialogue (Except String Unit) :=
    if keepRunDir then pure (.ok ()) else takes .removeRunFolder
  markOwner (observed : Option WorkloadReport) : NodeDialogue (Except String Unit) :=
    if observed.isSome then takes .ownerMarker else pure (.ok ())
  /-- Whether a report is in the outbox. -/
  keepReport (observed : Option WorkloadReport) : NodeDialogue (Except String Bool) :=
    if settings.reportOverSession && observed.isSome then
      (outboxTerminalReport settings held).andThen fun _ => pure (.ok true)
    else pure (.ok false)
  closed (kept : Bool) : NodeDialogue (Except String Unit) :=
    if rowWritten && kept then
      mapFault (fun error => runLedgerFatal s!"보고를 보관한 뒤 원장 CLOSED 를 적지 못했다 — 전송하지 않는다: {error}")
        (closeReported held)
    else pure (.ok ())

end Attempt

section Connections

/-- One connection: whether it came to try an execution, and its result. -/
def runOneConnectionInner (polls : Nat) (ledgerOn : Bool) : NodeDialogue (Bool × Except String Unit) :=
  if settings.resumeProtocol then (false, ·) <$> takes .resumeConnection
  else do
    match ← question NodeQuestion.grant with
    | .error error => pure (false, .error error)
    | .ok held =>
        match held.workload with
        | none => (false, ·) <$> (takes .grantAck).andThen fun _ => afterwards none
        | some loaded =>
            let policy := { loaded with attemptId := held.attemptId }
            match ← prepareAttempt blake3 settings ledgerOn held policy with
            | .error error => pure (false, .error error)
            | .ok false => (false, ·) <$> executeAttempt blake3 settings polls false held policy
            | .ok true => do
                question (NodeQuestion.executionAttempted held.attemptId)
                (true, ·) <$> executeAttempt blake3 settings polls
                  (ledgerOn && settings.requireAckReceipt) held policy

def retryableMark : String := "RETRYABLE_"

def ambiguousMark : String := "AMBIGUOUS_RENEW"

def workloadAttempted : String :=
  "WORKLOAD_EXECUTION_ATTEMPTED: 이 연결에서 워크로드 실행을 시도했다" ++ "(기동 성공 여부와 무관) — 재접속하면 같은 Grant 로 " ++
    "다시 실행할 수 있으므로 재시도하지 않는다: "

/-- No mark that the reconnecting looks for is left in the error. -/
def notRetriedAfterWorkload (error : String) : String :=
  workloadAttempted ++
    Text.replace ambiguousMark "AMBIGUOUS(억제)_RENEW" (Text.replace retryableMark "RETRYABLE(억제)_" error)

def runOneConnection (polls : Nat) (ledgerOn : Bool) : NodeDialogue (Except String Unit) := do
  let (attempted, result) ← runOneConnectionInner blake3 settings polls ledgerOn
  pure (result.mapError fun error => if attempted then notRetriedAfterWorkload error else error)

/-- What the error of a connection means for the next one. -/
inductive ConnectionFault where
  | retryable
  | fatal
  | ambiguousRenew
  deriving DecidableEq

def ConnectionFault.ofText (error : String) : ConnectionFault :=
  if Text.occurs "RETRYABLE_CONNECTION" error ∨ Text.occurs "RETRYABLE_RESUME" error then .retryable
  else if Text.occurs ambiguousMark error then .ambiguousRenew
  else .fatal

/-- The connections that are left, the next of which has this number. -/
def reconnect (polls : Nat) (ledgerOn : Bool) : Nat → Nat → NodeDialogue (Except String Unit)
  | 0, _ => pure (.error "ReconnectExhausted: no attempts configured")
  | left + 1, attempt =>
      (if 0 < attempt then takes .backoff else pure (.ok ())).andThen fun _ => do
        match ← (takes .connect).andThen fun _ => runOneConnection blake3 settings polls ledgerOn with
        | .ok () => pure (.ok ())
        | .error error =>
            match ConnectionFault.ofText error with
            | .fatal => pure (.error error)
            | .retryable =>
                if left = 0 then pure (.error s!"ReconnectExhausted: {error}")
                else reconnect polls ledgerOn left (attempt + 1)
            | .ambiguousRenew =>
                if !settings.recoverAmbiguousRenew then
                  pure (.error ("AMBIGUOUS_RENEW_RECOVERY_DISABLED: durable Lease recovery was not enabled: " ++ error))
                else if left = 0 then pure (.error s!"ReconnectExhausted: {error}")
                else reconnect polls ledgerOn left (attempt + 1)

/-- What stands between the ledger and the first connection, in its order. -/
def gates : List AgentStep :=
  [AgentStep.ownerReclaimed, AgentStep.startupGc] ++
    (if settings.containerRuntime.isSome then
      [AgentStep.openIncidents, AgentStep.probeIncidentDir, AgentStep.removeLeftovers] else []) ++
    [AgentStep.ownerPanel, AgentStep.fenceWatermark] ++
    (if settings.reportOverSession then [AgentStep.flushOutbox] else [])

/-- One run of the Agent. -/
def agentRun (polls : Nat) : NodeDialogue (Except String Unit) :=
  if settings.multiAgent then
    if settings.runLedger then
      pure (.error "RUN_LEDGER_CONFIG_REFUSED: multi-agent lane 은 노드 실행 원장을 지원하지 않는다")
    else
      (question NodeQuestion.detect).andThen fun presence =>
        if !presence.neverEnabled then
          pure (.error ("RUN_LEDGER_ENABLED_ROOT: 이 루트는 노드 실행 원장을 켰다 — multi-agent lane 으로 쓰지 않는다"))
        else takes .multiAgentSession
  else
    (takes .claimRoot).andThen fun _ =>
      (openRunLedgerAtStartup blake3 settings).andThen fun ledgerOn =>
        (forEach takes (gates settings)).andThen fun _ =>
          if settings.reconnectEnabled then reconnect blake3 settings polls ledgerOn settings.maxReconnectAttempts 0
          else (takes .connect).andThen fun _ => runOneConnection blake3 settings polls ledgerOn

end Connections

section Clearing

/-- Whether the owner means this row. -/
def namedRow (name : Option String) (row : AttemptRow) : Bool :=
  name.all fun name => row.containerName = some name

def clearRow (name : Option String) (row : AttemptRow) : NodeDialogue (Except String Unit) :=
  if row.state = .localBlocked ∧ namedRow name row then calls (.clearLocalBlocked row.attemptId) else pure (.ok ())

/-- First the rows, then the incidents; how many of these were cleared. -/
def clearContainerIncidents (name : Option String) : NodeDialogue (Except String Nat) :=
  (mapFault (fun error => "CONTAINER_INCIDENTS_CLEAR_REFUSED: 루트 잠금을 잡지 못했다 — Agent(agent-loop)가 떠 있으면 멈춘 뒤 " ++
      s!"해제한다: {error}") (takes .lockRoot)).andThen fun _ =>
    (question NodeQuestion.detect).andThen fun presence =>
      if presence.neverEnabled then question (NodeQuestion.clearIncidents name)
      else
        (question NodeQuestion.openForClear).andThen fun opened =>
          if !opened then
            pure (.error ("RUN_LEDGER_CLEAR_REFUSED: 원장 흔적은 있는데 해제용으로 열 원장이 없다 — 수동 복구가 " ++
              "필요하다"))
          else
            (question NodeQuestion.rows).andThen fun rows =>
              (forEach (clearRow name) rows).andThen fun _ =>
                (question (NodeQuestion.clearIncidents name)).andThen fun cleared =>
                  if cleared = 0 then pure (.ok cleared)
                  else (takes .syncIncidents).andThen fun _ => pure (.ok cleared)

end Clearing

end Gputeer.Agent
