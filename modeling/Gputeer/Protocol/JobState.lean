import Gputeer.Lib.Except

/-! The job state machine: the table of transitions with their triggers, and walks along it. -/

namespace Gputeer.Protocol

inductive JobState where
  | submitted
  | planning
  | queued
  | staging
  | running
  | interrupted
  | replanning
  | paused
  | reconciling
  | completed
  | failed
  | cancelled
  | archived
  deriving DecidableEq, Repr

namespace JobState

def tableName : JobState → String
  | .submitted => "SUBMITTED"
  | .planning => "PLANNING"
  | .queued => "QUEUED"
  | .staging => "STAGING"
  | .running => "RUNNING"
  | .interrupted => "INTERRUPTED"
  | .replanning => "REPLANNING"
  | .paused => "PAUSED"
  | .reconciling => "RECONCILING"
  | .completed => "COMPLETED"
  | .failed => "FAILED"
  | .cancelled => "CANCELLED"
  | .archived => "ARCHIVED"

/-- The name `Debug` prints. -/
def debugName : JobState → String
  | .submitted => "Submitted"
  | .planning => "Planning"
  | .queued => "Queued"
  | .staging => "Staging"
  | .running => "Running"
  | .interrupted => "Interrupted"
  | .replanning => "Replanning"
  | .paused => "Paused"
  | .reconciling => "Reconciling"
  | .completed => "Completed"
  | .failed => "Failed"
  | .cancelled => "Cancelled"
  | .archived => "Archived"

def transitionTriggers : JobState → JobState → List String
  | .submitted, .planning => ["PLANNING_STARTED"]
  | .submitted, .cancelled => ["USER_CANCELLED"]
  | .planning, .queued => ["PLAN_READY"]
  | .planning, .failed => ["NO_FEASIBLE_PLAN"]
  | .planning, .cancelled => ["USER_CANCELLED"]
  | .queued, .staging => ["RESOURCE_AVAILABLE"]
  | .queued, .planning => ["REPLAN_REQUIRED"]
  | .queued, .failed => ["DEADLINE_PASSED", "QUEUE_TIMEOUT", "PERMANENTLY_INFEASIBLE"]
  | .queued, .cancelled => ["USER_CANCELLED"]
  | .staging, .running => ["STAGING_COMPLETE"]
  | .staging, .failed => ["STAGING_FAILED"]
  | .staging, .queued => ["STAGING_NODE_LOST"]
  | .staging, .cancelled => ["USER_CANCELLED"]
  | .running, .completed => ["ATTEMPT_COMPLETED"]
  | .running, .interrupted => ["NODE_LOST"]
  | .running, .failed => ["UNRECOVERABLE_ERROR"]
  | .running, .paused => ["PARTITION_PAUSE", "OWNER_PREEMPT", "USER_PAUSED"]
  | .running, .reconciling => ["DUPLICATE_COMPLETION"]
  | .running, .cancelled => ["USER_CANCELLED"]
  | .interrupted, .replanning => ["FAILOVER_STARTED"]
  | .interrupted, .failed => ["NO_COMMITTED_CHECKPOINT"]
  | .interrupted, .cancelled => ["USER_CANCELLED"]
  | .replanning, .queued => ["REPLAN_READY"]
  | .replanning, .staging => ["REPLAN_DIRECT"]
  | .replanning, .failed => ["NO_FEASIBLE_PLAN"]
  | .replanning, .cancelled => ["USER_CANCELLED"]
  | .paused, .running => ["RESUMED"]
  | .paused, .failed => ["PAUSE_TIMEOUT"]
  | .paused, .cancelled => ["USER_CANCELLED"]
  | .reconciling, .completed => ["CANONICAL_CHOSEN"]
  | .reconciling, .failed => ["ALL_ATTEMPTS_INVALID"]
  | .reconciling, .reconciling => ["TIE_UNRESOLVED"]
  | .completed, .archived => ["RETENTION_EXPIRED"]
  | _, _ => []

end JobState

open JobState

structure JobTransitionRejected where
  source : JobState
  target : JobState
  deriving DecidableEq, Repr

def jobTransition (source target : JobState) : Except JobTransitionRejected JobState :=
  if transitionTriggers source target ≠ [] then .ok target else .error ⟨source, target⟩

/-- The transition must carry the trigger of its own row. -/
def jobTransitionVia (source target : JobState) (trigger : String) :
    Except JobTransitionRejected JobState :=
  if trigger ∈ transitionTriggers source target then .ok target else .error ⟨source, target⟩

def jobWalk : JobState → List JobState → Except JobTransitionRejected JobState
  | current, [] => .ok current
  | current, step :: path => jobTransition current step >>= fun next => jobWalk next path

theorem jobTransition_eq_ok {source target reached : JobState} :
    jobTransition source target = .ok reached ↔
      reached = target ∧ transitionTriggers source target ≠ [] := by
  unfold jobTransition
  by_cases listed : transitionTriggers source target = []
  · simp [listed]
  · simp [listed, eq_comm]

/-- A transition under a trigger is a transition. -/
theorem jobTransition_of_via {source target reached : JobState} {trigger : String}
    (moved : jobTransitionVia source target trigger = .ok reached) :
    jobTransition source target = .ok reached := by
  unfold jobTransitionVia at moved
  by_cases listed : trigger ∈ transitionTriggers source target
  · rw [if_pos listed, Except.ok.injEq] at moved
    exact jobTransition_eq_ok.mpr ⟨moved.symm, List.ne_nil_of_mem listed⟩
  · rw [if_neg listed] at moved
    exact absurd moved (by simp)

theorem jobWalk_append {source : JobState} {first second : List JobState} :
    jobWalk source (first ++ second) = jobWalk source first >>= fun mid => jobWalk mid second := by
  induction first generalizing source with
  | nil => rfl
  | cons step path ih =>
      simp only [List.cons_append, jobWalk]
      cases moved : jobTransition source step with
      | error rejected => rfl
      | ok next => exact ih

/-- A walk ends where its path ends. -/
theorem jobWalk_end {source reached : JobState} {path : List JobState}
    (walked : jobWalk source path = .ok reached) : reached = path.getLast?.getD source := by
  induction path generalizing source with
  | nil => exact (Except.ok.inj walked).symm
  | cons step rest ih =>
      cases moved : jobTransition source step with
      | error rejected => simp [jobWalk, moved, bind, Except.bind] at walked
      | ok next =>
          obtain ⟨rfl, _⟩ := jobTransition_eq_ok.mp moved
          simp only [jobWalk, moved, bind, Except.bind] at walked
          rw [ih walked, List.getLast?_cons]
          rfl

/-- Walks compose. -/
theorem jobWalk_trans {source mid target : JobState} {first second : List JobState}
    (there : jobWalk source first = .ok mid) (onward : jobWalk mid second = .ok target) :
    jobWalk source (first ++ second) = .ok target := by
  rw [jobWalk_append, there]
  exact onward

end Gputeer.Protocol
