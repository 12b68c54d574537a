import Gputeer.Lib.Word
import Gputeer.Lib.Except
import Gputeer.Protocol.Messages

/-! What the owner panel of an Agent knows about the connection of one running Attempt, and when the
Agent stops the Attempt by itself because the Coordinator is out of reach. -/

namespace Gputeer.Agent

open Protocol

section Deadlines

/-- The earlier of the end of the Lease and its length after the request was sent. -/
def leaseBase (lease : Lease) (requestSentAtUnixMs : UInt64) : UInt64 :=
  let length := lease.expiresAtUnixMs.saturatingSub lease.issuedAtUnixMs
  min (requestSentAtUnixMs.saturatingAdd length) lease.expiresAtUnixMs

def disconnectSelfStopAt (lease : Lease) (requestSentAtUnixMs marginMs : UInt64) : UInt64 :=
  let base := leaseBase lease requestSentAtUnixMs
  let window := base.saturatingSub requestSentAtUnixMs
  base.saturatingSub (min marginMs (window / 2))

/-- Where the total duration of the Lease ends. -/
def maxTotalEnd (lease : Lease) : UInt64 :=
  lease.issuedAtUnixMs.saturatingAdd
    (UInt64.saturatingMul lease.maxTotalDurationSeconds.toUInt64 1000)

def nearFinishStopAt (lease : Lease) (requestSentAtUnixMs marginMs : UInt64) : UInt64 :=
  let selfStop := disconnectSelfStopAt lease requestSentAtUnixMs marginMs
  let extra := min lease.reassignmentGraceMs ((maxTotalEnd lease).saturatingSub lease.expiresAtUnixMs)
  max (((leaseBase lease requestSentAtUnixMs).saturatingAdd extra).saturatingSub marginMs) selfStop

def leaseReachedMaxTotalDuration (lease : Lease) (nowUnixMs : UInt64) : Bool :=
  maxTotalEnd lease ≤ nowUnixMs

end Deadlines

section Progress

/-- What a workload says about itself. -/
structure WorkloadProgress where
  currentStep : UInt64
  totalSteps : Option UInt64
  etaSeconds : Option UInt64
  deriving DecidableEq

def nearFinishMultiplierPpm : Nat := 2210000

def nearFinishMinProgressPpm : Nat := 50000

def nearFinishProgressFreshMs : UInt64 := 30000

/-- An upper bound of when the workload is done, when there is ground for one. The products fit the 128
bits of the source, as one step of twenty at least is done. -/
def nearFinishExpectedBy (progress : WorkloadProgress) (startedAtUnixMs nowUnixMs : UInt64) :
    Option UInt64 := do
  let total ← progress.totalSteps
  let current := progress.currentStep
  if total = 0 ∨ current = 0 ∨ total < current then none
  else if current.toNat * 1000000 / total.toNat < nearFinishMinProgressPpm then none
  else if nowUnixMs < startedAtUnixMs then none
  else
    let elapsed := nowUnixMs.toNat - startedAtUnixMs.toNat
    let byRate := elapsed * (total.toNat - current.toNat) / current.toNat
    let byEta := (progress.etaSeconds.getD 0).toNat * 1000
    let padded := max byRate byEta * nearFinishMultiplierPpm / 1000000
    some (nowUnixMs.saturatingAdd (if padded < 2 ^ 64 then UInt64.ofNat padded else .maxValue))

end Progress

section Watch

inductive OwnerChoice where
  | auto
  | keepRunning
  deriving DecidableEq

/-- The connection of an Attempt to the Coordinator. -/
structure ConnectionWatch where
  lastRenewOkUnixMs : UInt64
  selfStopAtUnixMs : UInt64
  nearFinishStopAtUnixMs : UInt64
  nearFinishExpectedByUnixMs : Option UInt64
  disconnected : Bool
  refused : Bool
  keepRunningAllowed : Bool
  choice : OwnerChoice
  selfStopped : Bool
  stopping : Bool
  deriving DecidableEq

def watchConnection (selfStopAtUnixMs nearFinishStopAtUnixMs : UInt64) (keepRunningAllowed : Bool)
    (nowUnixMs : UInt64) : ConnectionWatch where
  lastRenewOkUnixMs := nowUnixMs
  selfStopAtUnixMs := selfStopAtUnixMs
  nearFinishStopAtUnixMs := max nearFinishStopAtUnixMs selfStopAtUnixMs
  nearFinishExpectedByUnixMs := none
  disconnected := false
  refused := false
  keepRunningAllowed := keepRunningAllowed
  choice := .auto
  selfStopped := false
  stopping := false

namespace ConnectionWatch

def renewSucceeded (watch : ConnectionWatch) (selfStopAtUnixMs nearFinishStopAtUnixMs nowUnixMs : UInt64) :
    ConnectionWatch :=
  { watch with
    lastRenewOkUnixMs := nowUnixMs
    selfStopAtUnixMs := selfStopAtUnixMs
    nearFinishStopAtUnixMs := max nearFinishStopAtUnixMs selfStopAtUnixMs
    nearFinishExpectedByUnixMs := none
    disconnected := false }

def renewFailed (watch : ConnectionWatch) : ConnectionWatch := { watch with disconnected := true }

def renewRefused (watch : ConnectionWatch) (nowUnixMs : UInt64) : ConnectionWatch :=
  { watch with refused := true, selfStopAtUnixMs := min watch.selfStopAtUnixMs nowUnixMs }

def keepRunning (watch : ConnectionWatch) : Except String ConnectionWatch :=
  if watch.refused then
    .error "Coordinator 가 이 작업을 다른 노드로 넘겼다 — 계속 돌릴 수 없다"
  else if watch.stopping || watch.selfStopped then
    .error "끊김 시한이 지나 이미 멈추는 중이다(또는 멈췄다) — 계속 돌릴 수 없다"
  else if !watch.keepRunningAllowed then
    .error ("부작용이 있거나 등급을 모르는 작업이다 — 두 번 실행을 막을 장치가 없어 " ++
      "계속 돌리기를 받지 않는다")
  else .ok { watch with choice := .keepRunning }

/-- The workload is nearly done, and is let go past the first deadline, up to the last one. -/
def holds (watch : ConnectionWatch) (nowUnixMs : UInt64) (expected : Option UInt64) : Bool :=
  watch.keepRunningAllowed && !watch.refused && watch.choice = .auto &&
    watch.selfStopAtUnixMs ≤ nowUnixMs && nowUnixMs < watch.nearFinishStopAtUnixMs &&
    expected.any (· < watch.nearFinishStopAtUnixMs)

def due (watch : ConnectionWatch) (nowUnixMs : UInt64) (expected : Option UInt64) : Bool :=
  !watch.selfStopped && !watch.stopping && !watch.holds nowUnixMs expected &&
    watch.selfStopAtUnixMs ≤ nowUnixMs && (watch.refused || watch.choice = .auto)

/-- What `self_stop_if_due` does to the record under its first lock. -/
def decided (watch : ConnectionWatch) (nowUnixMs : UInt64) (expected : Option UInt64) :
    ConnectionWatch :=
  { watch with
    nearFinishExpectedByUnixMs := if watch.holds nowUnixMs expected then expected else none
    stopping := watch.stopping || watch.due nowUnixMs expected }

/-- What it does once the handle has answered. -/
def answered (watch : ConnectionWatch) (stopped : Bool) : ConnectionWatch :=
  { watch with selfStopped := stopped, stopping := stopped }

end ConnectionWatch

end Watch

section Panel

inductive PauseState where
  | running
  | paused
  | unknown
  deriving DecidableEq

structure RunningWorkload where
  startedAtUnixMs : UInt64
  pauseState : PauseState

structure ProgressView where
  last : Option WorkloadProgress
  lastReadAtUnixMs : UInt64
  error : Option String

/-- What the panel holds of one Attempt while it is watched. -/
structure PanelEntry where
  workload : Option RunningWorkload
  connection : ConnectionWatch
  progress : Option ProgressView
  /-- The Attempt was stopped for a disconnect. -/
  disconnectStopped : Bool

namespace PanelEntry

/-- Progress is written down for a registered Attempt only. -/
def recordProgress (panel : PanelEntry) (read : Except String WorkloadProgress) (nowUnixMs : UInt64) :
    PanelEntry :=
  match panel.workload with
  | none => panel
  | some _ =>
      let view := panel.progress.getD ⟨none, 0, none⟩
      match read with
      | .ok progress => { panel with progress := some ⟨some progress, nowUnixMs, none⟩ }
      | .error why => { panel with progress := some { view with error := some why } }

/-- The first half of `near_finish_estimate`: a workload that is or may be frozen is not nearly done. -/
def runningSince (panel : PanelEntry) : Option UInt64 := do
  let workload ← panel.workload
  if workload.pauseState ≠ .running then none else some workload.startedAtUnixMs

/-- The second half, from a recent report without a fault. -/
def nearFinishEstimate (panel : PanelEntry) (startedAtUnixMs : Option UInt64) (nowUnixMs : UInt64) :
    Option UInt64 := do
  let startedAt ← startedAtUnixMs
  let view ← panel.progress
  if view.error.isSome ∨ nearFinishProgressFreshMs < nowUnixMs.saturatingSub view.lastReadAtUnixMs then
    none
  else
    let progress ← view.last
    nearFinishExpectedBy progress startedAt nowUnixMs

end PanelEntry

end Panel

end Gputeer.Agent
