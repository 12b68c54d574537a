import Gputeer.Coordinator.JobStore

/-! The moves a committed transaction makes on one job. Each keeps the row readable, walks along
the state table, keeps the time the job was queued at and counts its revision up. -/

namespace Gputeer.Coordinator

open Protocol Text

inductive JobMove where
  | planned
  | queued
  | queueFailed
  | staged
  | resumed
  | started
  | requeued
  | abandoned
  | paused
  | finished
  deriving DecidableEq

/-- `new` is `old` after the move, as the code that makes it writes the columns. -/
inductive JobEdge : JobMove → StoredJob → StoredJob → Prop
  | planned {job : StoredJob} {atUnixMs revision : UInt64} (before : job.state = .submitted)
      (counted : job.revision.checkedAdd 1 = some revision) :
      JobEdge .planned job
        { job with state := .planning, planningAtUnixMs := some atUnixMs, revision }
  | queued {job : StoredJob} {planId : String} {atUnixMs revision : UInt64}
      (before : job.state = .planning) (named : isBlank planId = false)
      (counted : job.revision.checkedAdd 1 = some revision) :
      JobEdge .queued job
        { job with
          state := .queued, queuedAtUnixMs := some atUnixMs, planId := some planId, revision }
  | queueFailed {job : StoredJob} {failure : QueueFailure} {atUnixMs revision : UInt64}
      (before : job.state = .queued)
      (explained : ∀ reason ∈ failure.detail, isBlank reason = false)
      (counted : job.revision.checkedAdd 1 = some revision) :
      JobEdge .queueFailed job
        { job with
          state := .failed, queueFailure := some failure, failedAtUnixMs := some atUnixMs,
          revision }
  | staged {job : StoredJob} {atUnixMs revision : UInt64} (before : job.state = .queued)
      (counted : job.revision.checkedAdd 1 = some revision) :
      JobEdge .staged job { job with state := .staging, stagingAtUnixMs := some atUnixMs, revision }
  | resumed {job : StoredJob} {atUnixMs revision : UInt64} (before : job.state = .paused)
      (counted : job.revision.checkedAdd 1 = some revision) :
      JobEdge .resumed job
        { job with
          state := .running, stagingAtUnixMs := some atUnixMs, runningAtUnixMs := some atUnixMs,
          revision }
  | started {job : StoredJob} {atUnixMs revision : UInt64} (before : job.state = .staging)
      (counted : job.revision.checkedAdd 1 = some revision) :
      JobEdge .started job { job with state := .running, runningAtUnixMs := some atUnixMs, revision }
  | requeued {job : StoredJob} {resume : Option (List UInt8)} {requeueCount revision : UInt64}
      (before : job.state = .staging ∨ job.state = .running ∧ resume.isSome)
      (filled : resume ≠ some []) (recounted : job.requeueCount.checkedAdd 1 = some requeueCount)
      (counted : job.revision.checkedAdd 1 = some revision) :
      JobEdge .requeued job
        { job with
          state := .queued, stagingAtUnixMs := none, runningAtUnixMs := none, requeueCount,
          resumeCheckpoint := resume.or job.resumeCheckpoint, revision }
  | abandoned {job : StoredJob} {finishedAtUnixMs revision : UInt64}
      (before : job.state = .running) (counted : job.revision.checkedAdd 1 = some revision) :
      JobEdge .abandoned job
        { job with
          state := .failed, runTerminal := some .noCommittedCheckpoint,
          workerReportedFinishedAtUnixMs := some finishedAtUnixMs, revision }
  | paused {job : StoredJob} {resume : Option (List UInt8)} {requeueCount revision : UInt64}
      (before : job.state = .running) (filled : resume ≠ some [])
      (recounted : job.requeueCount.checkedAdd 1 = some requeueCount)
      (counted : job.revision.checkedAdd 1 = some revision) :
      JobEdge .paused job
        { job with
          state := .paused, requeueCount,
          resumeCheckpoint := resume.or job.resumeCheckpoint, revision }
  | finished {job : StoredJob} {path : List JobState} {state : JobState} {terminal : RunTerminal}
      {finishedAtUnixMs revision : UInt64} (before : job.state = .staging ∨ job.state = .running)
      (walked : jobWalk job.state path = .ok state) (moved : path ≠ [])
      (outcome : state = .completed ∧ terminal = .attemptCompleted ∨
        state = .failed ∧ terminal ≠ .attemptCompleted)
      (counted : job.revision.checkedAdd 1 = some revision) :
      JobEdge .finished job
        { job with
          state, runTerminal := some terminal,
          workerReportedFinishedAtUnixMs := some finishedAtUnixMs, revision }

namespace JobEdge

variable {move : JobMove} {old new : StoredJob}

/-- The columns `update_job` leaves alone are the same. -/
theorem written_ofStored (edge : JobEdge move old new) :
    (RawJobRow.ofStored old).written new = RawJobRow.ofStored new := by
  cases edge <;> rfl

theorem jobId_eq (edge : JobEdge move old new) : new.jobId = old.jobId := by
  cases edge <;> rfl

theorem counted (edge : JobEdge move old new) : old.revision.checkedAdd 1 = some new.revision := by
  cases edge <;> assumption

theorem queuedAt_eq (edge : JobEdge move old new) (queue : move ≠ .queued) :
    new.queuedAtUnixMs = old.queuedAtUnixMs := by
  cases edge <;> first | rfl | exact absurd rfl queue

theorem shape (edge : JobEdge move old new) (shaped : old.WellShaped) :
    (RawJobRow.ofStored new).validShape new.state new.runTerminal new.queueFailure = true := by
  have shape := shaped.shape
  simp only [RawJobRow.ofStored, RawJobRow.ofSubmitted, RawJobRow.written] at shape ⊢
  cases edge with
  | planned before counted => simp_all [RawJobRow.validShape, RawJobRow.notRunYet]
  | queued before named counted => simp_all [RawJobRow.validShape, RawJobRow.notRunYet, hasPlan]
  | queueFailed before explained counted =>
      simp_all [RawJobRow.validShape, RawJobRow.notRunYet]
  | staged before counted => simp_all [RawJobRow.validShape, RawJobRow.notRunYet]
  | resumed before counted => simp_all [RawJobRow.validShape]
  | started before counted => simp_all [RawJobRow.validShape, RawJobRow.notRunYet]
  | requeued before filled recounted counted =>
      rcases before with before | ⟨before, _⟩ <;>
        simp_all [RawJobRow.validShape, RawJobRow.notRunYet]
  | abandoned before counted => simp_all [RawJobRow.validShape, RawJobRow.notRunYet]
  | paused before filled recounted counted => simp_all [RawJobRow.validShape]
  | finished before walked moved outcome counted =>
      rcases before with before | before <;> rcases outcome with ⟨rfl, rfl⟩ | ⟨rfl, other⟩ <;>
        simp_all [RawJobRow.validShape, RawJobRow.notRunYet]

/-- The point to resume from: the one just found, or the one found before. -/
theorem resumable_or {job : StoredJob} {resume : Option (List UInt8)} {requeueCount : UInt64}
    (shaped : job.WellShaped) (filled : resume ≠ some [])
    (recounted : job.requeueCount.checkedAdd 1 = some requeueCount) (body : List UInt8)
    (chosen : resume.or job.resumeCheckpoint = some body) : requeueCount ≠ 0 ∧ body ≠ [] := by
  have positive : requeueCount ≠ 0 := by
    rintro rfl
    have counted := UInt64.checkedAdd_eq_some.mp recounted
    simp at counted
  refine ⟨positive, ?_⟩
  rintro rfl
  rcases Option.or_eq_some_iff.mp chosen with found | ⟨_, kept⟩
  · exact filled found
  · exact (shaped.resumable [] kept).2 rfl

theorem resumable (edge : JobEdge move old new) (shaped : old.WellShaped) (body : List UInt8)
    (found : new.resumeCheckpoint = some body) : new.requeueCount ≠ 0 ∧ body ≠ [] := by
  cases edge with
  | requeued before filled recounted counted =>
      exact resumable_or shaped filled recounted body found
  | paused before filled recounted counted =>
      exact resumable_or shaped filled recounted body found
  | _ => exact shaped.resumable body found

theorem explained (edge : JobEdge move old new) (shaped : old.WellShaped) (reason : String)
    (found : new.queueFailure = some (.permanentlyInfeasible reason)) :
    isBlank reason = false := by
  cases edge with
  | queueFailed before explained counted =>
      obtain rfl := Option.some.inj found
      exact explained reason rfl
  | _ => exact shaped.explained reason found

/-- A move leaves a row that is accepted again. -/
theorem wellShaped (edge : JobEdge move old new) (shaped : old.WellShaped) : new.WellShaped where
  shape := edge.shape shaped
  resumable := edge.resumable shaped
  explained := edge.explained shaped

theorem walk (edge : JobEdge move old new) :
    ∃ path, path ≠ [] ∧ jobWalk old.state path = .ok new.state := by
  cases edge with
  | planned before counted => exact ⟨[.planning], by simp, by rw [before]; rfl⟩
  | queued before named counted => exact ⟨[.queued], by simp, by rw [before]; rfl⟩
  | queueFailed before explained counted => exact ⟨[.failed], by simp, by rw [before]; rfl⟩
  | staged before counted => exact ⟨[.staging], by simp, by rw [before]; rfl⟩
  | resumed before counted => exact ⟨[.running], by simp, by rw [before]; rfl⟩
  | started before counted => exact ⟨[.running], by simp, by rw [before]; rfl⟩
  | requeued before filled recounted counted =>
      rcases before with before | ⟨before, _⟩
      · exact ⟨[.queued], by simp, by rw [before]; rfl⟩
      · exact ⟨[.interrupted, .replanning, .queued], by simp, by rw [before]; rfl⟩
  | abandoned before counted => exact ⟨[.interrupted, .failed], by simp, by rw [before]; rfl⟩
  | paused before filled recounted counted => exact ⟨[.paused], by simp, by rw [before]; rfl⟩
  | finished before walked moved outcome counted => exact ⟨_, moved, walked⟩

theorem unfinished (edge : JobEdge move old new) :
    old.state ≠ .completed ∧ old.state ≠ .failed := by
  cases edge with
  | requeued before filled recounted counted =>
      rcases before with before | ⟨before, _⟩ <;> simp [before]
  | finished before walked moved outcome counted =>
      rcases before with before | before <;> simp [before]
  | _ => simp_all

theorem planning_of_queued (edge : JobEdge .queued old new) : old.state = .planning := by
  cases edge with
  | queued before named counted => exact before

/-- A job that is still being planned has no queue time. -/
theorem queuedAt_kept (edge : JobEdge move old new) (shaped : old.WellShaped) (atUnixMs : UInt64)
    (queued : old.queuedAtUnixMs = some atUnixMs) : new.queuedAtUnixMs = some atUnixMs := by
  by_cases queue : move = .queued
  · subst queue
    have shape := shaped.shape
    simp [edge.planning_of_queued, RawJobRow.validShape, RawJobRow.ofStored,
      RawJobRow.ofSubmitted, RawJobRow.written, queued] at shape
  · rw [edge.queuedAt_eq queue, queued]

theorem revision_lt (edge : JobEdge move old new) : old.revision < new.revision := by
  have counted := UInt64.checkedAdd_eq_some.mp edge.counted
  rw [UInt64.lt_iff_toNat_lt]
  simp only [UInt64.toNat_one] at counted
  omega

end JobEdge

/-- A committed change of a job follows the state machine. -/
structure JobFollows (old new : StoredJob) : Prop where
  written : (RawJobRow.ofStored old).written new = RawJobRow.ofStored new
  walk : ∃ path, path ≠ [] ∧ jobWalk old.state path = .ok new.state
  unfinished : old.state ≠ .completed ∧ old.state ≠ .failed
  queuedAt : ∀ atUnixMs, old.queuedAtUnixMs = some atUnixMs → new.queuedAtUnixMs = some atUnixMs
  revision : old.revision < new.revision

theorem JobFollows.trans {first second third : StoredJob} (there : JobFollows first second)
    (onward : JobFollows second third) : JobFollows first third where
  written := by
    calc (RawJobRow.ofStored first).written third
        = ((RawJobRow.ofStored first).written second).written third := rfl
      _ = (RawJobRow.ofStored second).written third := by rw [there.written]
      _ = RawJobRow.ofStored third := onward.written
  walk := by
    obtain ⟨path, nonempty, walked⟩ := there.walk
    obtain ⟨rest, _, further⟩ := onward.walk
    exact ⟨path ++ rest, by simp [nonempty], jobWalk_trans walked further⟩
  unfinished := there.unfinished
  queuedAt := fun atUnixMs queued => onward.queuedAt atUnixMs (there.queuedAt atUnixMs queued)
  revision := UInt64.lt_trans there.revision onward.revision

theorem JobEdge.follows {move : JobMove} {old new : StoredJob} (edge : JobEdge move old new)
    (shaped : old.WellShaped) : JobFollows old new where
  written := edge.written_ofStored
  walk := edge.walk
  unfinished := edge.unfinished
  queuedAt := edge.queuedAt_kept shaped
  revision := edge.revision_lt

/-- One more move, if any. -/
theorem JobFollows.onward {old middle new : StoredJob} (shaped : middle.WellShaped)
    (followed : middle = old ∨ JobFollows old middle)
    (moved : new = middle ∨ ∃ move, JobEdge move middle new) : new = old ∨ JobFollows old new := by
  rcases moved with rfl | ⟨move, edge⟩
  · exact followed
  · rcases followed with rfl | followed
    · exact Or.inr (edge.follows shaped)
    · exact Or.inr (followed.trans (edge.follows shaped))

end Gputeer.Coordinator
