import Gputeer.Agent.OwnerPanel
import Gputeer.Lib.Trace

/-! The renew thread and the watcher of one running Attempt, interleaved at every lock they take, with the
owner's requests in between. An Attempt that lost its Coordinator is stopped in time: before the Coordinator
may give its Job to another node. -/

namespace Gputeer.Agent

open Protocol

/-- How a renewal over a new connection ended: the prefixes of the error texts are constructors. -/
inductive RenewOutcome where
  | renewed (lease : Lease)
  | refused
  | locallyExpired
  | rejected
  | failed

/-- The renew thread ends at the first refusal or rejection. -/
inductive RenewThread where
  | running
  | ended
  | refused (atUnixMs : UInt64)

/-- Where the watcher is in `self_stop_if_due`, with what it has read so far. -/
inductive Watcher where
  | idle
  | polled (nowUnixMs : UInt64) (startedAtUnixMs : Option UInt64)
  | estimated (nowUnixMs : UInt64) (expected : Option UInt64)
  | stopping
  | answered (stopped : Bool)
  deriving DecidableEq

/-- A stop was decided, and is not written down yet. -/
def Watcher.Busy : Watcher → Bool
  | stopping | answered _ => true
  | idle | polled _ _ | estimated _ _ => false

structure WatchedAttempt where
  panel : PanelEntry
  /-- The Lease that the record was last made from, and when it was asked for. -/
  lease : Lease
  sentAtUnixMs : UInt64
  renewThread : RenewThread
  watcher : Watcher
  lastPollUnixMs : UInt64

/-- The watch is on only where the margin is not 0. -/
structure WatchConfig where
  marginMs : UInt64
  keepRunningAllowed : Bool
  margin_pos : 0 < marginMs

inductive WatchEvent where
  | registered (workload : RunningWorkload)
  | pauseChanged (state : PauseState)
  | progressRead (read : Except String WorkloadProgress) (nowUnixMs : UInt64)
  | renewEnded (outcome : RenewOutcome) (sentAtUnixMs nowUnixMs : UInt64)
  | keepRunningAsked
  | polled (nowUnixMs : UInt64)
  | estimated
  | decided
  | stopAnswered (stopped : Bool)
  | recorded

section Threads

variable (config : WatchConfig)

def startRenewDuringExecution (heldLease : Lease) (nowUnixMs : UInt64) : WatchedAttempt where
  panel :=
    { workload := none
      connection := watchConnection (disconnectSelfStopAt heldLease nowUnixMs config.marginMs)
        (nearFinishStopAt heldLease nowUnixMs config.marginMs) config.keepRunningAllowed nowUnixMs
      progress := none
      disconnectStopped := false }
  lease := heldLease
  sentAtUnixMs := nowUnixMs
  renewThread := .running
  watcher := .idle
  lastPollUnixMs := 0

namespace WatchedAttempt

def withConnection (watched : WatchedAttempt) (connection : ConnectionWatch) : WatchedAttempt :=
  { watched with panel := { watched.panel with connection } }

/-- What the renew thread does with the end of a renewal. An expiry it saw by itself counts as a refusal
where the Lease had reached its total duration. -/
def renewEnded (watched : WatchedAttempt) (outcome : RenewOutcome) (sentAtUnixMs nowUnixMs : UInt64) :
    WatchedAttempt :=
  let connection := watched.panel.connection
  let refused := { watched.withConnection (connection.renewRefused nowUnixMs) with
    renewThread := .refused nowUnixMs }
  let ended := { watched.withConnection connection.renewFailed with renewThread := .ended }
  match outcome with
  | .renewed lease =>
      { watched.withConnection (connection.renewSucceeded
          (disconnectSelfStopAt lease sentAtUnixMs config.marginMs)
          (nearFinishStopAt lease sentAtUnixMs config.marginMs) nowUnixMs) with
        lease, sentAtUnixMs }
  | .refused => refused
  | .locallyExpired =>
      if leaseReachedMaxTotalDuration watched.lease nowUnixMs then refused else ended
  | .rejected => ended
  | .failed => watched.withConnection connection.renewFailed

/-- The handle is asked to stop the workload, which fails where none is registered. -/
def stopAnswered (watched : WatchedAttempt) (stopped : Bool) : WatchedAttempt :=
  { watched with watcher := .answered (watched.panel.workload.isSome && stopped) }

def recorded (watched : WatchedAttempt) (stopped : Bool) : WatchedAttempt :=
  { watched with
    panel :=
      { watched.panel with
        connection := watched.panel.connection.answered stopped
        disconnectStopped := watched.panel.disconnectStopped || stopped }
    watcher := .idle }

def decided (watched : WatchedAttempt) (nowUnixMs : UInt64) (expected : Option UInt64) :
    WatchedAttempt :=
  let connection := watched.panel.connection
  { watched.withConnection (connection.decided nowUnixMs expected) with
    watcher := if connection.due nowUnixMs expected then .stopping else .idle }

end WatchedAttempt

/-- One lock taken by one of the threads. An event whose thread is elsewhere changes nothing. -/
def watchStep (watched : WatchedAttempt) : WatchEvent → WatchedAttempt
  | .registered workload => { watched with panel := { watched.panel with workload := some workload } }
  | .pauseChanged state =>
      { watched with panel :=
          { watched.panel with
            workload := watched.panel.workload.map fun workload => { workload with pauseState := state } } }
  | .progressRead read nowUnixMs =>
      { watched with panel := watched.panel.recordProgress read nowUnixMs }
  | .renewEnded outcome sentAtUnixMs nowUnixMs =>
      match watched.renewThread with
      | .running => watched.renewEnded config outcome sentAtUnixMs nowUnixMs
      | .ended | .refused _ => watched
  | .keepRunningAsked =>
      match watched.panel.connection.keepRunning with
      | .ok connection => watched.withConnection connection
      | .error _ => watched
  | .polled nowUnixMs =>
      if watched.watcher = .idle ∧ watched.lastPollUnixMs ≤ nowUnixMs then
        { watched with
          watcher := .polled nowUnixMs watched.panel.runningSince
          lastPollUnixMs := nowUnixMs }
      else watched
  | .estimated =>
      match watched.watcher with
      | .polled nowUnixMs startedAtUnixMs =>
          { watched with
            watcher := .estimated nowUnixMs
              (watched.panel.nearFinishEstimate startedAtUnixMs nowUnixMs) }
      | _ => watched
  | .decided =>
      match watched.watcher with
      | .estimated nowUnixMs expected => watched.decided nowUnixMs expected
      | _ => watched
  | .stopAnswered stopped =>
      match watched.watcher with
      | .stopping => watched.stopAnswered stopped
      | _ => watched
  | .recorded =>
      match watched.watcher with
      | .answered stopped => watched.recorded stopped
      | _ => watched

end Threads

section Deadlines

variable {lease : Lease} {sentAtUnixMs marginMs : UInt64}

/-- The first deadline `S` is not after the end of the Lease. The last one `H` is not before it, and beyond
it only by the margin before the end of the signed grace and of the total duration. -/
structure DeadlineBounds (lease : Lease) (sentAtUnixMs marginMs : UInt64) : Prop where
  selfStop : (disconnectSelfStopAt lease sentAtUnixMs marginMs) ≤ lease.expiresAtUnixMs
  ordered : disconnectSelfStopAt lease sentAtUnixMs marginMs ≤
    nearFinishStopAt lease sentAtUnixMs marginMs
  grace : (nearFinishStopAt lease sentAtUnixMs marginMs).toNat ≤
    max (disconnectSelfStopAt lease sentAtUnixMs marginMs).toNat
      (lease.expiresAtUnixMs.toNat + lease.reassignmentGraceMs.toNat - marginMs.toNat)
  total : (nearFinishStopAt lease sentAtUnixMs marginMs).toNat ≤
    max lease.expiresAtUnixMs.toNat
      (lease.issuedAtUnixMs.toNat + lease.maxTotalDurationSeconds.toNat * 1000 - marginMs.toNat)

variable (lease sentAtUnixMs marginMs)

theorem leaseBase_le : (leaseBase lease sentAtUnixMs).toNat ≤ lease.expiresAtUnixMs.toNat := by
  rw [leaseBase, UInt64.toNat_min]
  exact Nat.min_le_right _ _

theorem disconnectSelfStopAt_le :
    (disconnectSelfStopAt lease sentAtUnixMs marginMs).toNat ≤ lease.expiresAtUnixMs.toNat := by
  have base := leaseBase_le lease sentAtUnixMs
  rw [disconnectSelfStopAt, UInt64.toNat_saturatingSub]
  omega

theorem maxTotalEnd_le : (maxTotalEnd lease).toNat ≤
    lease.issuedAtUnixMs.toNat + lease.maxTotalDurationSeconds.toNat * 1000 := by
  rw [maxTotalEnd, UInt64.toNat_saturatingAdd, UInt64.toNat_saturatingMul, UInt32.toNat_toUInt64,
    show (1000 : UInt64).toNat = 1000 from rfl]
  omega

theorem toNat_nearFinishStopAt : (nearFinishStopAt lease sentAtUnixMs marginMs).toNat =
    max (min ((leaseBase lease sentAtUnixMs).toNat + min lease.reassignmentGraceMs.toNat
        ((maxTotalEnd lease).toNat - lease.expiresAtUnixMs.toNat)) (2 ^ 64 - 1) - marginMs.toNat)
      (disconnectSelfStopAt lease sentAtUnixMs marginMs).toNat := by
  simp only [nearFinishStopAt, UInt64.toNat_max, UInt64.toNat_saturatingSub, UInt64.toNat_saturatingAdd,
    UInt64.toNat_min]

theorem deadlineBounds : DeadlineBounds lease sentAtUnixMs marginMs := by
  have base := leaseBase_le lease sentAtUnixMs
  have first := disconnectSelfStopAt_le lease sentAtUnixMs marginMs
  have total := maxTotalEnd_le lease
  have last := toNat_nearFinishStopAt lease sentAtUnixMs marginMs
  constructor
  · exact UInt64.le_iff_toNat_le.mpr first
  · rw [UInt64.le_iff_toNat_le]
    omega
  · omega
  · omega

end Deadlines

section Soundness

variable (config : WatchConfig)

namespace WatchedAttempt

/-- The deadlines of the Lease that was recorded last. -/
def selfStopAt (watched : WatchedAttempt) : UInt64 :=
  disconnectSelfStopAt watched.lease watched.sentAtUnixMs config.marginMs

def nearFinishStopAt (watched : WatchedAttempt) : UInt64 :=
  Agent.nearFinishStopAt watched.lease watched.sentAtUnixMs config.marginMs

/-- The first deadline as the record has it: a refusal brings it forward. -/
def recordedSelfStopAt (watched : WatchedAttempt) : UInt64 :=
  match watched.renewThread with
  | .refused refusedAt => min (watched.selfStopAt config) refusedAt
  | .running | .ended => watched.selfStopAt config

/-- From here on nothing but the owner's choice keeps the Attempt running, and after a refusal not even
that. -/
def mustStopAt (watched : WatchedAttempt) : UInt64 :=
  match watched.renewThread with
  | .refused refusedAt => min (watched.selfStopAt config) refusedAt
  | .running | .ended => watched.nearFinishStopAt config

/-- What the record, the watcher and the renew thread know of each other. -/
structure Sound (watched : WatchedAttempt) : Prop where
  selfStopAt : watched.panel.connection.selfStopAtUnixMs = watched.recordedSelfStopAt config
  nearFinishStopAt : watched.panel.connection.nearFinishStopAtUnixMs = watched.nearFinishStopAt config
  refused : watched.panel.connection.refused = true ↔ ∃ refusedAt, watched.renewThread = .refused refusedAt
  busy : watched.watcher.Busy = true →
    watched.panel.connection.stopping = true ∧ watched.panel.connection.selfStopped = false
  atRest : watched.watcher.Busy = false →
    watched.panel.connection.stopping = watched.panel.connection.selfStopped
  stopped : watched.panel.disconnectStopped = watched.panel.connection.selfStopped
  chosen : watched.panel.connection.choice = .keepRunning →
    watched.panel.connection.refused = true ∨ watched.panel.connection.stopping = false

end WatchedAttempt

variable {config} {watched : WatchedAttempt}

theorem max_nearFinishStopAt {lease : Lease} {sentAtUnixMs marginMs : UInt64} :
    max (nearFinishStopAt lease sentAtUnixMs marginMs) (disconnectSelfStopAt lease sentAtUnixMs marginMs) =
      nearFinishStopAt lease sentAtUnixMs marginMs := by
  have ordered := UInt64.le_iff_toNat_le.mp
    (deadlineBounds lease sentAtUnixMs marginMs).ordered
  rw [← UInt64.toNat_inj, UInt64.toNat_max]
  omega

theorem sound_start (heldLease : Lease) (nowUnixMs : UInt64) :
    (startRenewDuringExecution config heldLease nowUnixMs).Sound config where
  selfStopAt := rfl
  nearFinishStopAt := max_nearFinishStopAt
  refused := ⟨fun refused => (by cases refused), fun ⟨_, thread⟩ => (by cases thread)⟩
  busy := fun busy => by cases busy
  atRest := fun _ => rfl
  stopped := rfl
  chosen := fun choice => by cases choice

namespace WatchedAttempt.Sound

/-- What a step leaves of the record, where it leaves the two threads as they are. -/
theorem of_workload (sound : watched.Sound config) (workload : Option RunningWorkload)
    (progress : Option ProgressView) :
    ({ watched with panel := { watched.panel with workload, progress } } : WatchedAttempt).Sound config :=
  ⟨sound.selfStopAt, sound.nearFinishStopAt, sound.refused, sound.busy, sound.atRest, sound.stopped,
    sound.chosen⟩

theorem recordProgress (sound : watched.Sound config) (read : Except String WorkloadProgress)
    (nowUnixMs : UInt64) :
    ({ watched with panel := watched.panel.recordProgress read nowUnixMs } : WatchedAttempt).Sound
      config := by
  unfold PanelEntry.recordProgress
  split
  · exact sound
  · split
    · exact sound.of_workload _ _
    · exact sound.of_workload _ _

/-- The watcher reads something and does not touch the record. -/
theorem look (sound : watched.Sound config) (atRest : watched.watcher.Busy = false) {watcher : Watcher}
    (looking : watcher.Busy = false) (lastPollUnixMs : UInt64) :
    ({ watched with watcher, lastPollUnixMs } : WatchedAttempt).Sound config :=
  ⟨sound.selfStopAt, sound.nearFinishStopAt, sound.refused,
    fun busy => absurd (looking.symm.trans busy) Bool.false_ne_true, fun _ => sound.atRest atRest,
    sound.stopped, sound.chosen⟩

theorem keepRunning (sound : watched.Sound config) {connection : ConnectionWatch}
    (accepted : watched.panel.connection.keepRunning = .ok connection) :
    (watched.withConnection connection).Sound config := by
  unfold ConnectionWatch.keepRunning at accepted
  split at accepted
  · cases accepted
  · split at accepted
    · cases accepted
    · next open_ =>
      split at accepted
      · cases accepted
      · cases accepted
        simp only [Bool.or_eq_true, not_or, Bool.not_eq_true] at open_
        exact ⟨sound.selfStopAt, sound.nearFinishStopAt, sound.refused, sound.busy, sound.atRest,
          sound.stopped, fun _ => Or.inr open_.1⟩

theorem renewEnded (sound : watched.Sound config) (running : watched.renewThread = .running)
    (outcome : RenewOutcome) (sentAtUnixMs nowUnixMs : UInt64) :
    (watched.renewEnded config outcome sentAtUnixMs nowUnixMs).Sound config := by
  have unrefused : watched.panel.connection.refused ≠ true := by
    intro refused
    obtain ⟨refusedAt, thread⟩ := sound.refused.mp refused
    rw [running] at thread
    cases thread
  have first : watched.panel.connection.selfStopAtUnixMs = watched.selfStopAt config := by
    rw [sound.selfStopAt, recordedSelfStopAt, running]
  have failed : (watched.withConnection watched.panel.connection.renewFailed).Sound config :=
    ⟨sound.selfStopAt, sound.nearFinishStopAt, sound.refused, sound.busy, sound.atRest, sound.stopped,
      sound.chosen⟩
  have ended : ({ watched.withConnection watched.panel.connection.renewFailed with
      renewThread := .ended } : WatchedAttempt).Sound config :=
    ⟨first, sound.nearFinishStopAt, ⟨fun refused => absurd refused unrefused, fun ⟨_, thread⟩ =>
      (by cases thread)⟩, sound.busy, sound.atRest, sound.stopped, sound.chosen⟩
  have refused : ({ watched.withConnection (watched.panel.connection.renewRefused nowUnixMs) with
      renewThread := .refused nowUnixMs } : WatchedAttempt).Sound config := by
    refine ⟨?_, sound.nearFinishStopAt, ⟨fun _ => ⟨nowUnixMs, rfl⟩, fun _ => rfl⟩, sound.busy,
      sound.atRest, sound.stopped, fun _ => Or.inl rfl⟩
    change min watched.panel.connection.selfStopAtUnixMs nowUnixMs = _
    rw [first]
    rfl
  cases outcome with
  | renewed lease =>
      refine ⟨?_, max_nearFinishStopAt, ?_, sound.busy, sound.atRest, sound.stopped, sound.chosen⟩
      · simp only [WatchedAttempt.renewEnded, recordedSelfStopAt, withConnection, running]
        rfl
      · exact sound.refused
  | refused => exact refused
  | locallyExpired =>
      unfold WatchedAttempt.renewEnded
      dsimp only
      split
      · exact refused
      · exact ended
  | rejected => exact ended
  | failed => exact failed

theorem decided (sound : watched.Sound config) (atRest : watched.watcher.Busy = false)
    (nowUnixMs : UInt64) (expected : Option UInt64) :
    (watched.decided nowUnixMs expected).Sound config := by
  have rest := sound.atRest atRest
  cases due : watched.panel.connection.due nowUnixMs expected with
  | false =>
      refine ⟨sound.selfStopAt, sound.nearFinishStopAt, sound.refused, ?_, ?_, sound.stopped, ?_⟩
      all_goals
        simp only [WatchedAttempt.decided, due, withConnection, ConnectionWatch.decided, Bool.or_false]
      · intro busy
        cases busy
      · exact fun _ => rest
      · exact sound.chosen
  | true =>
      have open_ : watched.panel.connection.selfStopped = false ∧
          (watched.panel.connection.refused = true ∨ watched.panel.connection.choice = .auto) := by
        simp only [ConnectionWatch.due, Bool.and_eq_true, Bool.not_eq_true', Bool.or_eq_true,
          decide_eq_true_eq] at due
        exact ⟨due.1.1.1.1, due.2⟩
      refine ⟨sound.selfStopAt, sound.nearFinishStopAt, sound.refused, ?_, ?_, sound.stopped, ?_⟩
      all_goals
        simp only [WatchedAttempt.decided, due, withConnection, ConnectionWatch.decided, Bool.or_true]
      · exact fun _ => ⟨trivial, open_.1⟩
      · intro idle
        cases idle
      · intro keeps
        rcases open_.2 with refused | auto
        · exact Or.inl refused
        · rw [auto] at keeps
          cases keeps

theorem stopAnswered (sound : watched.Sound config) (stopping : watched.watcher = .stopping)
    (stopped : Bool) : (watched.stopAnswered stopped).Sound config :=
  ⟨sound.selfStopAt, sound.nearFinishStopAt, sound.refused,
    fun _ => sound.busy (by rw [stopping]; rfl), fun idle => (by cases idle), sound.stopped,
    sound.chosen⟩

theorem recorded (sound : watched.Sound config) {stopped : Bool}
    (answered : watched.watcher = .answered stopped) : (watched.recorded stopped).Sound config := by
  obtain ⟨stopping, before⟩ := sound.busy (by rw [answered]; rfl)
  have unstopped : watched.panel.disconnectStopped = false := sound.stopped.trans before
  refine ⟨sound.selfStopAt, sound.nearFinishStopAt, sound.refused, fun busy => (by cases busy),
    fun _ => rfl, ?_, fun keeps => ?_⟩
  · simp [WatchedAttempt.recorded, ConnectionWatch.answered, unstopped]
  · rcases sound.chosen keeps with refused | idle
    · exact Or.inl refused
    · rw [stopping] at idle
      cases idle

theorem step (sound : watched.Sound config) (event : WatchEvent) :
    (watchStep config watched event).Sound config := by
  cases event with
  | registered workload => exact sound.of_workload _ _
  | pauseChanged state => exact sound.of_workload _ _
  | progressRead read nowUnixMs => exact sound.recordProgress read nowUnixMs
  | renewEnded outcome sentAtUnixMs nowUnixMs =>
      simp only [watchStep]
      split
      · next running => exact sound.renewEnded running outcome sentAtUnixMs nowUnixMs
      · exact sound
      · exact sound
  | keepRunningAsked =>
      simp only [watchStep]
      split
      · next accepted => exact sound.keepRunning accepted
      · exact sound
  | polled nowUnixMs =>
      simp only [watchStep]
      split
      · next may => exact sound.look (by rw [may.1]; rfl) rfl nowUnixMs
      · exact sound
  | estimated =>
      simp only [watchStep]
      split
      · next polled => exact sound.look (by rw [polled]; rfl) rfl watched.lastPollUnixMs
      · exact sound
  | decided =>
      simp only [watchStep]
      split
      · next estimated => exact sound.decided (by rw [estimated]; rfl) _ _
      · exact sound
  | stopAnswered stopped =>
      simp only [watchStep]
      split
      · next stopping => exact sound.stopAnswered stopping stopped
      · exact sound
  | recorded =>
      simp only [watchStep]
      split
      · next answered => exact sound.recorded answered
      · exact sound

end WatchedAttempt.Sound

theorem sound_run (heldLease : Lease) (nowUnixMs : UInt64) (events : List WatchEvent) :
    (Trace.run (watchStep config) (startRenewDuringExecution config heldLease nowUnixMs) events).Sound
      config := by
  refine Trace.induction (fun _ watched => WatchedAttempt.Sound config watched) (sound_start heldLease nowUnixMs) ?_
    events
  intro _ event sound
  exact sound.step event

end Soundness

section Stops

variable {config : WatchConfig} {watched : WatchedAttempt}

theorem mustStopAt_le (watched : WatchedAttempt) :
    (watched.mustStopAt config).toNat ≤ (watched.nearFinishStopAt config).toNat := by
  have ordered := UInt64.le_iff_toNat_le.mp
    (deadlineBounds watched.lease watched.sentAtUnixMs config.marginMs).ordered
  unfold WatchedAttempt.mustStopAt
  split
  · rw [UInt64.toNat_min]
    exact le_trans (Nat.min_le_left _ _) ordered
  · exact le_rfl
  · exact le_rfl

theorem recordedSelfStopAt_le (watched : WatchedAttempt) :
    (watched.recordedSelfStopAt config).toNat ≤ (watched.mustStopAt config).toNat := by
  have ordered := UInt64.le_iff_toNat_le.mp
    (deadlineBounds watched.lease watched.sentAtUnixMs config.marginMs).ordered
  unfold WatchedAttempt.recordedSelfStopAt WatchedAttempt.mustStopAt
  split
  · exact le_rfl
  · exact ordered
  · exact ordered

/-- The exception for a workload that is nearly done ends at the last deadline. -/
theorem holds_eq_false {nowUnixMs : UInt64} {expected : Option UInt64} (sound : watched.Sound config)
    (late : watched.mustStopAt config ≤ nowUnixMs) :
    watched.panel.connection.holds nowUnixMs expected = false := by
  cases refused : watched.panel.connection.refused with
  | true => simp [ConnectionWatch.holds, refused]
  | false =>
      have last : watched.mustStopAt config = watched.nearFinishStopAt config := by
        unfold WatchedAttempt.mustStopAt
        split
        · next refusedAt thread =>
          rw [sound.refused.mpr ⟨refusedAt, thread⟩] at refused
          cases refused
        · rfl
        · rfl
      rw [last, ← sound.nearFinishStopAt] at late
      have past : ¬ nowUnixMs < watched.panel.connection.nearFinishStopAtUnixMs :=
        UInt64.not_lt.mpr late
      simp [ConnectionWatch.holds, past]

theorem due_of_late {nowUnixMs : UInt64} (expected : Option UInt64) (sound : watched.Sound config)
    (atRest : watched.watcher.Busy = false) (unstopped : watched.panel.connection.selfStopped = false)
    (late : watched.mustStopAt config ≤ nowUnixMs)
    (open_ : watched.panel.connection.refused = true ∨ watched.panel.connection.choice = .auto) :
    watched.panel.connection.due nowUnixMs expected = true := by
  have idle : watched.panel.connection.stopping = false := (sound.atRest atRest).trans unstopped
  have past : watched.panel.connection.selfStopAtUnixMs ≤ nowUnixMs := by
    rw [sound.selfStopAt, UInt64.le_iff_toNat_le]
    exact le_trans (recordedSelfStopAt_le watched) (UInt64.le_iff_toNat_le.mp late)
  simp [ConnectionWatch.due, unstopped, idle, holds_eq_false sound late, past, open_]

/-- The stop was decided and will be asked for, was answered, or is written down. -/
def Committed (watched : WatchedAttempt) : Prop :=
  (watched.watcher = .stopping ∧ watched.panel.workload.isSome = true) ∨
    watched.watcher = .answered true ∨ watched.panel.disconnectStopped = true

theorem Committed.of_same {next : WatchedAttempt} (committed : Committed watched)
    (watcher : next.watcher = watched.watcher)
    (workload : watched.panel.workload.isSome = true → next.panel.workload.isSome = true)
    (stopped : next.panel.disconnectStopped = watched.panel.disconnectStopped) : Committed next := by
  unfold Committed
  rw [watcher, stopped]
  exact committed.imp_left fun first => ⟨first.1, workload first.2⟩

theorem committed_recordProgress (committed : Committed watched) (read : Except String WorkloadProgress)
    (nowUnixMs : UInt64) :
    Committed { watched with panel := watched.panel.recordProgress read nowUnixMs } := by
  unfold PanelEntry.recordProgress
  split
  · exact committed
  · split
    · exact committed.of_same rfl id rfl
    · exact committed.of_same rfl id rfl

theorem committed_renewEnded (committed : Committed watched) (outcome : RenewOutcome)
    (sentAtUnixMs nowUnixMs : UInt64) :
    Committed (watched.renewEnded config outcome sentAtUnixMs nowUnixMs) := by
  cases outcome with
  | renewed lease => exact committed.of_same rfl id rfl
  | refused => exact committed.of_same rfl id rfl
  | locallyExpired =>
      unfold WatchedAttempt.renewEnded
      dsimp only
      split
      · exact committed.of_same rfl id rfl
      · exact committed.of_same rfl id rfl
  | rejected => exact committed.of_same rfl id rfl
  | failed => exact committed.of_same rfl id rfl

/-- As long as the handle does not fail, a stop that was decided is carried out. -/
theorem Committed.step (committed : Committed watched) {event : WatchEvent}
    (works : event ≠ .stopAnswered false) : Committed (watchStep config watched event) := by
  cases event with
  | registered workload => exact committed.of_same rfl (fun _ => rfl) rfl
  | pauseChanged state =>
      refine committed.of_same rfl (fun registered => ?_) rfl
      simpa [watchStep] using registered
  | progressRead read nowUnixMs => exact committed_recordProgress committed read nowUnixMs
  | renewEnded outcome sentAtUnixMs nowUnixMs =>
      simp only [watchStep]
      split
      · exact committed_renewEnded committed outcome sentAtUnixMs nowUnixMs
      · exact committed
      · exact committed
  | keepRunningAsked =>
      simp only [watchStep]
      split
      · exact committed.of_same rfl id rfl
      · exact committed
  | polled nowUnixMs =>
      simp only [watchStep]
      split
      · next may =>
        rcases committed with stopping | answered | done
        · exact absurd (may.1.symm.trans stopping.1) (by simp)
        · exact absurd (may.1.symm.trans answered) (by simp)
        · exact Or.inr (Or.inr done)
      · exact committed
  | estimated =>
      simp only [watchStep]
      split
      · next polled =>
        rcases committed with stopping | answered | done
        · exact absurd (polled.symm.trans stopping.1) (by simp)
        · exact absurd (polled.symm.trans answered) (by simp)
        · exact Or.inr (Or.inr done)
      · exact committed
  | decided =>
      simp only [watchStep]
      split
      · next estimated =>
        rcases committed with stopping | answered | done
        · exact absurd (estimated.symm.trans stopping.1) (by simp)
        · exact absurd (estimated.symm.trans answered) (by simp)
        · exact Or.inr (Or.inr done)
      · exact committed
  | stopAnswered stopped =>
      cases stopped with
      | false => exact absurd rfl works
      | true =>
          simp only [watchStep]
          split
          · next asked =>
            rcases committed with stopping | answered | done
            · refine Or.inr (Or.inl ?_)
              simp [WatchedAttempt.stopAnswered, stopping.2]
            · exact absurd (asked.symm.trans answered) (by simp)
            · exact Or.inr (Or.inr done)
          · exact committed
  | recorded =>
      simp only [watchStep]
      split
      · next stopped heard =>
        refine Or.inr (Or.inr ?_)
        rcases committed with stopping | answered | done
        · exact absurd (heard.symm.trans stopping.1) (by simp)
        · rw [heard, Watcher.answered.injEq] at answered
          simp [WatchedAttempt.recorded, answered]
        · simp [WatchedAttempt.recorded, done]
      · exact committed

theorem committed_run {events : List WatchEvent} (committed : Committed watched)
    (works : ∀ event ∈ events, event ≠ .stopAnswered false) :
    Committed (Trace.run (watchStep config) watched events) := by
  induction events generalizing watched with
  | nil => exact committed
  | cons event events ih =>
      rw [List.forall_mem_cons] at works
      exact ih (committed.step works.1) works.2

theorem committed_decided {pollAt : UInt64} {expected : Option UInt64} (sound : watched.Sound config)
    (registered : watched.panel.workload.isSome = true)
    (polled : watched.watcher = .estimated pollAt expected) (late : watched.mustStopAt config ≤ pollAt)
    (open_ : watched.panel.connection.refused = true ∨ watched.panel.connection.choice = .auto) :
    Committed (watchStep config watched .decided) := by
  simp only [watchStep, polled]
  cases stopped : watched.panel.connection.selfStopped with
  | true => exact Or.inr (Or.inr (sound.stopped.trans stopped))
  | false =>
      refine Or.inl ⟨?_, registered⟩
      have due := due_of_late expected sound (by rw [polled]; rfl) stopped late open_
      simp [WatchedAttempt.decided, due]

theorem selfStopAt_le_of_due {pollAt : UInt64} {expected : Option UInt64} (sound : watched.Sound config)
    (polled : watched.watcher = .estimated pollAt expected)
    (stops : (watchStep config watched .decided).watcher = .stopping) :
    watched.recordedSelfStopAt config ≤ pollAt := by
  cases due : watched.panel.connection.due pollAt expected with
  | false =>
      simp [watchStep, polled, WatchedAttempt.decided, due] at stops
  | true =>
      simp only [ConnectionWatch.due, Bool.and_eq_true, decide_eq_true_eq, sound.selfStopAt] at due
      exact due.1.2

/-- In every interleaving: the deadlines of the Lease recorded last lie where they should and are those of
the record, no poll stops the Attempt before the first of them, the owner's choice to keep it running is
kept until the Coordinator refuses, and a poll that decides from `mustStopAt` on has stopped it when it
returns, unless the handle failed. -/
theorem disconnect_watch_stops_in_time (config : WatchConfig) (heldLease : Lease) (nowUnixMs : UInt64)
    (before : List WatchEvent) (watched : WatchedAttempt) (reached : watched = Trace.run
      (watchStep config) (startRenewDuringExecution config heldLease nowUnixMs) before) :
    DeadlineBounds watched.lease watched.sentAtUnixMs config.marginMs ∧
    watched.mustStopAt config ≤ watched.nearFinishStopAt config ∧
    (watched.panel.connection.selfStopAtUnixMs = watched.recordedSelfStopAt config ∧
      watched.panel.connection.nearFinishStopAtUnixMs = watched.nearFinishStopAt config) ∧
    (watched.panel.connection.choice = .keepRunning → watched.panel.connection.refused = false →
      watched.watcher.Busy = false ∧ watched.panel.disconnectStopped = false) ∧
    ∀ pollAt expected, watched.watcher = .estimated pollAt expected →
      ((watchStep config watched .decided).watcher = .stopping →
        watched.recordedSelfStopAt config ≤ pollAt) ∧
      ∀ after, watched.panel.workload.isSome = true → watched.mustStopAt config ≤ pollAt →
        (watched.panel.connection.refused = true ∨ watched.panel.connection.choice = .auto) →
        (∀ event ∈ after, event ≠ .stopAnswered false) →
        (Trace.run (watchStep config) watched (.decided :: after)).watcher = .idle →
        (Trace.run (watchStep config) watched (.decided :: after)).panel.disconnectStopped = true := by
  have sound : watched.Sound config := reached ▸ sound_run heldLease nowUnixMs before
  refine ⟨deadlineBounds _ _ _, UInt64.le_iff_toNat_le.mpr (mustStopAt_le watched),
    ⟨sound.selfStopAt, sound.nearFinishStopAt⟩, ?_, ?_⟩
  · intro keeps unrefused
    have idle : watched.panel.connection.stopping = false := by
      rcases sound.chosen keeps with refused | idle
      · rw [unrefused] at refused
        cases refused
      · exact idle
    cases busy : watched.watcher.Busy with
    | true =>
        rw [(sound.busy busy).1] at idle
        cases idle
    | false => exact ⟨rfl, sound.stopped.trans ((sound.atRest busy).symm.trans idle)⟩
  · intro pollAt expected polled
    refine ⟨selfStopAt_le_of_due sound polled, ?_⟩
    intro after registered late open_ works returned
    have decided := committed_decided sound registered polled late open_
    have committed : Committed (Trace.run (watchStep config) (watchStep config watched .decided) after) :=
      committed_run decided works
    change Committed (Trace.run (watchStep config) watched (.decided :: after)) at committed
    rcases committed with stopping | answered | done
    · exact absurd (returned.symm.trans stopping.1) (by simp)
    · exact absurd (returned.symm.trans answered) (by simp)
    · exact done

/-- A Lease from 0 to 60 s with a grace of 20 s, of at most 100 s in all. -/
def minuteLease : Lease where
  schemaVersion := 1
  leaseId := "l"
  jobId := "j"
  attemptId := "a"
  fenceEpoch := 1
  coordinatorTerm := 1
  holderNodeId := "n"
  memberNodeIds := []
  issuingCoordinatorId := "c"
  issuedAtUnixMs := 0
  expiresAtUnixMs := 60000
  renewAfterUnixMs := 0
  maxTotalDurationSeconds := 100
  reassignmentGraceMs := 20000
  scope := none
  coordinatorSignature := []

def tenSecondMargin : WatchConfig where
  marginMs := 10000
  keepRunningAllowed := true
  margin_pos := by decide

/-- The renewals fail, and the workload says at 60 s that it is nearly done. -/
def lostCoordinator : List WatchEvent :=
  [.registered ⟨1000, .running⟩, .renewEnded .failed 30000 40000,
    .progressRead (.ok ⟨99, some 100, none⟩) 60000, .polled 60000, .estimated, .decided, .polled 70000,
    .estimated]

theorem lost_coordinator_stopped_at_seventy_seconds :
    (Trace.run (watchStep tenSecondMargin) (Trace.run (watchStep tenSecondMargin)
        (startRenewDuringExecution tenSecondMargin minuteLease 0) lostCoordinator)
      (.decided :: [.keepRunningAsked, .stopAnswered true, .recorded])).panel.disconnectStopped = true :=
  ((disconnect_watch_stops_in_time tenSecondMargin minuteLease 0 lostCoordinator _ rfl).2.2.2.2 70000
    (some 71538) (by decide +kernel)).2 [.keepRunningAsked, .stopAnswered true, .recorded]
    (by decide +kernel) (by decide +kernel) (by decide +kernel) (by simp) (by decide +kernel)

end Stops

end Gputeer.Agent
