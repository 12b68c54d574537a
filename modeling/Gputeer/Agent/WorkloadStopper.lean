import Gputeer.Agent.Container
import Gputeer.Agent.OwnerPanel
import Gputeer.Lib.Interleaving

/-! The handle of a workload in a container, that freezes, thaws and ends it, and what the owner panel does
with it. Calls run at the same time; `pause_ops` is the lock that each holds while it commands the runtime. -/

namespace Gputeer.Agent

open Text

section Command

/-- A freeze or a thaw that was not confirmed; it may have been carried out. -/
structure PauseFailure where
  maybeApplied : Bool
  detail : String

def pauseVerb (paused : Bool) : String := if paused then "pause" else "unpause"

def upperPauseVerb (paused : Bool) : String := if paused then "PAUSE" else "UNPAUSE"

/-- What the runtime said of the command, for the one that reads the failure. -/
def pauseNote (paused : Bool) : CliReply → String
  | .ok output =>
      let verb := pauseVerb paused
      let status := output.status
      let stderr := trim output.stderr
      if output.success then s!"{verb} 접수" else s!"{verb} 실패 응답({status}): {stderr}"
  | .error failure =>
      let verb := pauseVerb paused
      let why := failure.why
      s!"{verb} 응답을 받지 못했다({why})"

def pauseWant (paused : Bool) : String := if paused then "true" else "false"

/-- What is made of the look at `State.Paused` that follows every command that was sent. -/
def confirmPaused (paused : Bool) (note : String) : CliReply → Except PauseFailure Unit
  | .ok output =>
      let verb := upperPauseVerb paused
      let want := pauseWant paused
      let stdout := debugQuoted (trim output.stdout)
      let stderr := debugQuoted (trim output.stderr)
      if output.success ∧ trim output.stdout = want then .ok ()
      else .error ⟨true, s!"CONTAINER_{verb}_UNCONFIRMED: State.Paused 가 {want} 가 아니다" ++
        s!"(stdout={stdout} stderr={stderr}) — {note}"⟩
  | .error failure =>
      let verb := upperPauseVerb paused
      let why := failure.why
      .error ⟨true, s!"CONTAINER_{verb}_UNCONFIRMED: 상태를 확인하지 못했다({why}) — {note}"⟩

def setPaused (paused : Bool) (sent inspected : CliReply) : Except PauseFailure Unit :=
  match sent with
  | .error (.notSpawned why) =>
      let verb := pauseVerb paused
      let upper := upperPauseVerb paused
      .error ⟨false, s!"CONTAINER_{upper}_NOT_SENT: {verb} 를 띄우지 못했다 — {why}"⟩
  | _ => confirmPaused paused (pauseNote paused sent) inspected

end Command

section Questions

/-- The calls that take `pause_ops`. -/
inductive PauseOperation where
  | pause
  | resume
  | stop
  deriving DecidableEq

/-- What a call does with the handle, the runtime and the panel, one at a time. -/
inductive PauseQuestion where
  | requestStop
  | lockPauseOps (operation : PauseOperation)
  | unlockPauseOps
  | stopRequested
  | pauseState
  | setPauseState (state : PauseState)
  | setPaused (paused : Bool)
  | stopContainer
  /-- The clock, and then the record of the connection. -/
  | connection
  | stopperOf
  | markDisconnectStopped

abbrev PauseQuestion.Answer : PauseQuestion → Type
  | requestStop | lockPauseOps _ | unlockPauseOps | setPauseState _ | markDisconnectStopped => Unit
  | stopRequested | stopperOf => Bool
  | pauseState => PauseState
  | setPaused _ => Except PauseFailure Unit
  | stopContainer => Except String Unit
  | connection => UInt64 × Option ConnectionWatch

abbrev PauseProgram := Dialogue PauseQuestion PauseQuestion.Answer

abbrev askPause (question : PauseQuestion) : PauseProgram question.Answer := Dialogue.question question

end Questions

namespace WorkloadStopper

/-- The lock is given back when the call is left. -/
def withPauseOps (operation : PauseOperation) (body : PauseProgram (Except String Unit)) :
    PauseProgram (Except String Unit) := do
  askPause (.lockPauseOps operation)
  let result ← body
  askPause .unlockPauseOps
  pure result

def apply (frozen : Bool) : PauseProgram (Except String Unit) := do
  match ← askPause (.setPaused frozen) with
  | .ok () =>
      askPause (.setPauseState (if frozen then .paused else .running))
      pure (.ok ())
  | .error failure =>
      if failure.maybeApplied then
        askPause (.setPauseState .unknown)
        pure (.error failure.detail)
      else pure (.error failure.detail)

/-- A container can always be frozen, so nothing is asked before the lock. -/
def pause : PauseProgram (Except String Unit) :=
  withPauseOps .pause do
    if ← askPause .stopRequested then pure (.error "멈추는 중이라 얼리지 않는다")
    else if (← askPause .pauseState) = .paused then pure (.ok ())
    else apply true

def resume : PauseProgram (Except String Unit) :=
  withPauseOps .resume do
    if ← askPause .stopRequested then pure (.error "멈추는 중이라 다시 시작하지 않는다")
    else if (← askPause .pauseState) = .running then pure (.ok ())
    else apply false

/-- `stop` thaws what is or may be frozen, and goes on where this fails: with the reason. -/
def thawToStop : PauseProgram (Option String) := do
  if (← askPause .pauseState) = .running then pure none
  else
    match ← askPause (.setPaused false) with
    | .ok () =>
        askPause (.setPauseState .running)
        pure none
    | .error failure => pure (some failure.detail)

def stopFailure (thawNote : Option String) (detail : String) : String :=
  match thawNote with
  | some why => s!"OWNER_STOP_FAILED: 소유자의 정지 요청을 실행하지 못했다 — {detail} (일시정지를 먼저 풀지 못했다 — {why})"
  | none => s!"OWNER_STOP_FAILED: 소유자의 정지 요청을 실행하지 못했다 — {detail}"

def stop : PauseProgram (Except String Unit) := do
  askPause .requestStop
  withPauseOps .stop do
    let thawNote ← thawToStop
    let stopped ← askPause .stopContainer
    pure (stopped.mapError (stopFailure thawNote))

end WorkloadStopper

section Panel

def noWatchReason : String :=
  "이 작업은 중개 서버 연결을 감시하지 않는다(실행 중 갱신이 꺼진 Agent) — Lease 가 살아 있는지 알 수 없어 " ++
    "다시 시작할 수 없으므로 일시정지를 받지 않는다. 비우려면 지금 멈춤이다"

/-- Whether a frozen workload may run again. -/
def resumeAllowed (nowUnixMs : UInt64) : Option ConnectionWatch → Except String Unit
  | none => .error noWatchReason
  | some watch =>
      if watch.refused then
        .error "Coordinator 가 이 작업을 다른 노드로 넘겼다 — 다시 시작할 수 없다(지금 멈춤으로 비운다)"
      else if watch.stopping || watch.selfStopped then
        .error "끊김 시한이 지나 멈추는 중이다(또는 멈췄다) — 다시 시작할 수 없다"
      else if watch.disconnected then
        .error "중개 서버와 끊겨 있다 — 다시 연결돼 갱신이 되면 풀 수 있다"
      else if watch.selfStopAtUnixMs ≤ nowUnixMs then
        .error "끊김 시한이 지났다 — 새 Lease 없이 다시 시작하지 않는다"
      else .ok ()

variable (attemptId : String)

def stopperOf : PauseProgram (Except String Unit) := do
  if ← askPause .stopperOf then pure (.ok ()) else pure (.error s!"그런 작업이 없다: {attemptId}")

def checkResumeAllowed : PauseProgram (Except String Unit) := do
  let (nowUnixMs, watch) ← askPause .connection
  pure (resumeAllowed nowUnixMs watch)

def panelPause : PauseProgram (Except String Unit) := do
  let (_, watch) ← askPause .connection
  if watch.isNone then pure (.error noWatchReason)
  else (stopperOf attemptId).andThen fun _ => WorkloadStopper.pause

/-- The workload runs though it may not, or may run: it is frozen again, and stopped where this fails. -/
def undoResume (why : String) : PauseProgram (Except String Unit) := do
  match ← WorkloadStopper.pause with
  | .ok () => pure (.error s!"다시 시작하는 사이 조건이 깨져 다시 얼렸다 — {why}")
  | .error freeze =>
      match ← WorkloadStopper.stop with
      | .ok () =>
          askPause .markDisconnectStopped
          pure (.error s!"다시 시작하는 사이 조건이 깨졌는데 다시 얼리지 못해 멈췄다({freeze}) — {why}")
      | .error stop =>
          pure (.error (s!"다시 시작하는 사이 조건이 깨졌는데 다시 얼리지도 멈추지도 못했다" ++
            s!"(얼리기: {freeze} · 멈추기: {stop}) — {why}"))

/-- What is done once the handle has answered `resumed`: it is looked again whether it was allowed. -/
def afterResume (resumed : Except String Unit) : PauseProgram (Except String Unit) := do
  match resumed, ← checkResumeAllowed with
  | resumed, .ok () => pure resumed
  | .error error, .error why =>
      if (← askPause .pauseState) = .paused then pure (.error error) else undoResume why
  | .ok (), .error why => undoResume why

def panelResume : PauseProgram (Except String Unit) :=
  checkResumeAllowed.andThen fun _ =>
    (stopperOf attemptId).andThen fun _ =>
      checkResumeAllowed.andThen fun _ => do
        let resumed ← WorkloadStopper.resume
        afterResume resumed

end Panel

section Calls

inductive PauseCall where
  | pause
  | resume
  | stop
  | panelPause
  | panelResume
  deriving DecidableEq

def PauseCall.program (attemptId : String) : PauseCall → PauseProgram (Except String Unit)
  | pause => WorkloadStopper.pause
  | resume => WorkloadStopper.resume
  | stop => WorkloadStopper.stop
  | panelPause => Agent.panelPause attemptId
  | panelResume => Agent.panelResume attemptId

/-- The container, the handle, and what the panel knows. Calls are numbered. -/
structure PauseShared where
  frozen : Bool
  ended : Bool
  pauseState : PauseState
  stopRequested : Bool
  pauseOps : Option Nat
  watch : Option ConnectionWatch
  registered : Bool
  disconnectStopped : Bool

/-- A new handle, of a container that runs. -/
def PauseShared.new (watch : Option ConnectionWatch) (registered : Bool) : PauseShared where
  frozen := false
  ended := false
  pauseState := .running
  stopRequested := false
  pauseOps := none
  watch := watch
  registered := registered
  disconnectStopped := false

abbrev PauseAction := Interleaving.Action PauseQuestion PauseQuestion.Answer PauseShared

/-- `inspect` says of a container that has not ended what is so. -/
def Truthful (inspected : CliReply) (frozen : Bool) : Prop :=
  ∀ output, inspected = .ok output → output.success →
    (trim output.stdout = "true" → frozen = true) ∧ (trim output.stdout = "false" → frozen = false)

/-- A command that was not spawned does nothing; another one is carried out, or is not. -/
def CarriedOut (paused : Bool) (sent inspected : CliReply) (before after : PauseShared) : Prop :=
  after = { before with frozen := after.frozen } ∧
  (after.frozen = before.frozen ∨ after.frozen = paused) ∧
  (∀ why, sent = .error (.notSpawned why) → after.frozen = before.frozen) ∧
  (before.ended = false → Truthful inspected after.frozen)

/-- One action of a call. -/
def PauseActs (call : Nat) : PauseAction → Prop
  | ⟨.requestStop, _, before, after⟩ => after = { before with stopRequested := true }
  | ⟨.lockPauseOps _, _, before, after⟩ =>
      before.pauseOps = none ∧ after = { before with pauseOps := some call }
  | ⟨.unlockPauseOps, _, before, after⟩ => after = { before with pauseOps := none }
  | ⟨.stopRequested, answer, before, after⟩ => answer = before.stopRequested ∧ after = before
  | ⟨.pauseState, answer, before, after⟩ => answer = before.pauseState ∧ after = before
  | ⟨.setPauseState state, _, before, after⟩ => after = { before with pauseState := state }
  | ⟨.setPaused paused, answer, before, after⟩ =>
      ∃ sent inspected, answer = setPaused paused sent inspected ∧
        CarriedOut paused sent inspected before after
  | ⟨.stopContainer, answer, before, after⟩ =>
      after = { before with ended := after.ended } ∧ (before.ended = true → after.ended = true) ∧
        (answer = .ok () → after.ended = true)
  | ⟨.connection, answer, before, after⟩ => answer.2 = before.watch ∧ after = before
  | ⟨.stopperOf, answer, before, after⟩ => answer = before.registered ∧ after = before
  | ⟨.markDisconnectStopped, _, before, after⟩ => after = { before with disconnectStopped := true }

/-- What happens without a call: the connection changes, the workload ends or is taken off the list. -/
def PauseChanges (before after : PauseShared) : Prop :=
  after = { before with watch := after.watch, registered := after.registered, ended := after.ended } ∧
  (before.ended = true → after.ended = true)

abbrev PausePool :=
  Interleaving.Pool PauseQuestion PauseQuestion.Answer PauseShared Nat (Except String Unit)

def startCalls (attemptId : String) (watch : Option ConnectionWatch) (registered : Bool)
    (calls : Nat → PauseCall) : PausePool :=
  .start (.new watch registered) fun call => (calls call).program attemptId

end Calls

end Gputeer.Agent
