import Gputeer.Lib.Except

/-! The attempt state machine. -/

namespace Gputeer.Protocol

inductive AttemptState where
  | created
  | starting
  | running
  | paused
  | stale
  | completed
  | failed
  | cancelled
  | reconciling
  | canonical
  | superseded
  | runUnknown
  deriving DecidableEq, Repr

namespace AttemptState

/-- The name `Debug` prints. -/
def debugName : AttemptState → String
  | .created => "Created"
  | .starting => "Starting"
  | .running => "Running"
  | .paused => "Paused"
  | .stale => "Stale"
  | .completed => "Completed"
  | .failed => "Failed"
  | .cancelled => "Cancelled"
  | .reconciling => "Reconciling"
  | .canonical => "Canonical"
  | .superseded => "Superseded"
  | .runUnknown => "RunUnknown"

def transitionTriggers : AttemptState → AttemptState → List String
  | .created, .starting => ["GRANT_ACCEPTED"]
  | .created, .cancelled => ["GRANT_REJECTED", "JOB_CANCELLED"]
  | .starting, .running => ["PROCESS_STARTED"]
  | .starting, .failed => ["START_FAILED"]
  | .starting, .runUnknown => ["START_UNCONFIRMED"]
  | .running, .completed => ["WORKLOAD_EXITED_OK"]
  | .running, .failed =>
      ["WORKLOAD_EXITED_ERROR", "WATCHDOG_KILLED", "OUTPUT_FINALIZATION_FAILED",
        "EXITED_WITHOUT_CODE"]
  | .running, .runUnknown => ["EXIT_UNOBSERVED"]
  | .running, .paused => ["PAUSE_REQUESTED"]
  | .running, .stale => ["LEASE_EXPIRED"]
  | .paused, .running => ["RESUME_REQUESTED"]
  | .paused, .cancelled => ["JOB_CANCELLED"]
  | .paused, .runUnknown => ["PAUSE_STOP_UNCONFIRMED"]
  | .stale, .running => ["LEASE_RENEWED"]
  | .stale, .completed => ["STALE_WORKLOAD_FINISHED"]
  | .stale, .failed => ["STALE_WORKLOAD_FAILED"]
  | .stale, .reconciling => ["RECONNECTED_WITH_RESULT"]
  | .completed, .reconciling => ["DUPLICATE_DETECTED"]
  | .reconciling, .canonical => ["SELECTED"]
  | .reconciling, .superseded => ["NOT_SELECTED"]
  | .reconciling, .failed => ["VALIDITY_FILTER_REJECTED"]
  | .runUnknown, .failed => ["STOP_CONFIRMED"]
  | _, _ => []

end AttemptState

structure AttemptTransitionRejected where
  source : AttemptState
  target : AttemptState
  deriving DecidableEq, Repr

def attemptTransition (source target : AttemptState) :
    Except AttemptTransitionRejected AttemptState :=
  if AttemptState.transitionTriggers source target ≠ [] then .ok target
  else .error ⟨source, target⟩

def attemptWalk : AttemptState → List AttemptState →
    Except AttemptTransitionRejected AttemptState
  | current, [] => .ok current
  | current, step :: path => attemptTransition current step >>= fun next => attemptWalk next path

theorem attemptTransition_eq_ok {source target reached : AttemptState} :
    attemptTransition source target = .ok reached ↔
      reached = target ∧ AttemptState.transitionTriggers source target ≠ [] := by
  unfold attemptTransition
  by_cases listed : AttemptState.transitionTriggers source target = []
  · simp [listed]
  · simp [listed, eq_comm]

/-- A walk ends where its path ends. -/
theorem attemptWalk_end {source reached : AttemptState} {path : List AttemptState}
    (walked : attemptWalk source path = .ok reached) : reached = path.getLast?.getD source := by
  induction path generalizing source with
  | nil => exact (Except.ok.inj walked).symm
  | cons step rest ih =>
      cases moved : attemptTransition source step with
      | error rejected => simp [attemptWalk, moved, bind, Except.bind] at walked
      | ok next =>
          obtain ⟨rfl, _⟩ := attemptTransition_eq_ok.mp moved
          simp only [attemptWalk, moved, bind, Except.bind] at walked
          rw [ih walked, List.getLast?_cons]
          rfl

end Gputeer.Protocol
