import Gputeer.Coordinator.JobMachine
import Gputeer.Coordinator.LeaseStore

/-! What the control database is for: which attempt of a job may run, on which lease and on which
node. A ledger is the database read through its keys, with the tables that only serve replies left
out, and a step is the effect of a commit on it. -/

namespace Gputeer.Coordinator

open Protocol Text

@[ext] structure Ledger where
  job : String → Option StoredJob
  attempt : String → Option StoredAttempt
  lease : String → Option StoredLease
  reservation : String → Option StoredNodeReservation
  counter : UInt64
  /-- The stored reports: the attempt and the body. -/
  reported : Set (String × List UInt8)
  operation : List UInt8 → Option StoredOperation
  manifested : Set String

/-- What no write changes once the attempt is there: everything but its state. -/
def StoredAttempt.assignment (attempt : StoredAttempt) : StoredAttempt :=
  { attempt with state := .created }

namespace StoredAttempt

variable {attempt other : StoredAttempt} (same : attempt.assignment = other.assignment)

include same

theorem attemptId_of_assignment : attempt.attemptId = other.attemptId :=
  congrArg (fun assigned => assigned.attemptId) same

theorem jobId_of_assignment : attempt.jobId = other.jobId :=
  congrArg (fun assigned => assigned.jobId) same

theorem nodeIds_of_assignment : attempt.nodeIds = other.nodeIds :=
  congrArg (fun assigned => assigned.nodeIds) same

theorem fenceEpoch_of_assignment : attempt.fenceEpoch = other.fenceEpoch :=
  congrArg (fun assigned => assigned.fenceEpoch) same

theorem leaseId_of_assignment : attempt.leaseId = other.leaseId :=
  congrArg (fun assigned => assigned.leaseId) same

end StoredAttempt

attribute [grind →] StoredAttempt.attemptId_of_assignment StoredAttempt.jobId_of_assignment
  StoredAttempt.nodeIds_of_assignment StoredAttempt.fenceEpoch_of_assignment
  StoredAttempt.leaseId_of_assignment

/-- The states in which a report leaves an attempt. -/
def AttemptState.ended : AttemptState → Bool
  | .completed | .failed | .cancelled => true
  | _ => false

/-- What no write changes as long as the reservation is there. -/
def StoredNodeReservation.unmarked (reservation : StoredNodeReservation) :
    StoredNodeReservation :=
  { reservation with expiredAtUnixMs := none }

theorem StoredNodeReservation.attemptId_of_unmarked {kept reservation : StoredNodeReservation}
    (same : kept.unmarked = reservation.unmarked) : kept.attemptId = reservation.attemptId := by
  simp only [unmarked, StoredNodeReservation.mk.injEq] at same
  exact same.2.2.1

theorem StoredNodeReservation.eq_of_unmarked {kept reservation : StoredNodeReservation}
    (same : kept.unmarked = reservation.unmarked) :
    kept = { reservation with expiredAtUnixMs := kept.expiredAtUnixMs } := by
  rcases kept with ⟨⟩
  simp only [unmarked, StoredNodeReservation.mk.injEq] at same ⊢
  tauto

/-- What no write changes once the lease is there: everything but its term, its grace and its
revocation. -/
def StoredLease.identity (lease : StoredLease) : StoredLease :=
  { lease with
    expiresAtUnixMs := 0, renewAfterUnixMs := 0, revokedAtUnixMs := none,
    reassignmentGraceMs := 0 }

theorem StoredLease.leaseId_of_identity {lease other : StoredLease}
    (same : lease.identity = other.identity) : lease.leaseId = other.leaseId :=
  congrArg (fun identity => identity.leaseId) same

theorem StoredLease.fenceEpoch_of_identity {lease other : StoredLease}
    (same : lease.identity = other.identity) : lease.fenceEpoch = other.fenceEpoch :=
  congrArg (fun identity => identity.fenceEpoch) same

theorem StoredLease.attemptId_of_identity {lease other : StoredLease}
    (same : lease.identity = other.identity) : lease.attemptId = other.attemptId :=
  congrArg (fun identity => identity.attemptId) same

theorem StoredLease.issuedAt_of_identity {lease other : StoredLease}
    (same : lease.identity = other.identity) : lease.issuedAtUnixMs = other.issuedAtUnixMs :=
  congrArg (fun identity => identity.issuedAtUnixMs) same

theorem StoredLease.maxTotal_of_identity {lease other : StoredLease}
    (same : lease.identity = other.identity) :
    lease.maxTotalDurationSeconds = other.maxTotalDurationSeconds :=
  congrArg (fun identity => identity.maxTotalDurationSeconds) same

/-- The lease runs out after it was issued, and within the total duration it was issued for. -/
structure StoredLease.Termed (lease : StoredLease) : Prop where
  lasts : lease.issuedAtUnixMs < lease.expiresAtUnixMs
  ends : lease.expiresAtUnixMs.toNat ≤
    lease.issuedAtUnixMs.toNat + 1000 * lease.maxTotalDurationSeconds.toNat

/-- The lease was issued for this attempt and its only node. -/
structure StoredLease.Covers (lease : StoredLease) (attempt : StoredAttempt) : Prop where
  leaseId : lease.leaseId = attempt.leaseId
  jobId : lease.jobId = attempt.jobId
  attemptId : lease.attemptId = attempt.attemptId
  holder : attempt.nodeIds = [lease.holderNodeId]
  fenceEpoch : lease.fenceEpoch = attempt.fenceEpoch

theorem StoredLease.Covers.congr {lease changed : StoredLease} {attempt moved : StoredAttempt}
    (covers : lease.Covers attempt) (sameLease : changed.identity = lease.identity)
    (sameAttempt : moved.assignment = attempt.assignment) : changed.Covers moved := by
  simp only [StoredLease.identity, StoredLease.mk.injEq] at sameLease
  simp only [StoredAttempt.assignment, StoredAttempt.mk.injEq] at sameAttempt
  obtain ⟨leaseId, leaseJob, leaseAttempt, holder, leaseEpoch, _⟩ := sameLease
  obtain ⟨attemptId, jobId, _, nodeIds, epoch, attemptLease, _⟩ := sameAttempt
  constructor
  · rw [leaseId, attemptLease, covers.leaseId]
  · rw [leaseJob, jobId, covers.jobId]
  · rw [leaseAttempt, attemptId, covers.attemptId]
  · rw [nodeIds, holder, covers.holder]
  · rw [leaseEpoch, epoch, covers.fenceEpoch]

@[simp, grind =] theorem StoredLease.revokedAt_leaseId (lease : StoredLease) (atUnixMs : UInt64) :
    (lease.revokedAt atUnixMs).leaseId = lease.leaseId := rfl

@[grind =] theorem StoredLease.revokedAt_identity (lease : StoredLease) (atUnixMs : UInt64) :
    (lease.revokedAt atUnixMs).identity = lease.identity := rfl

@[grind =] theorem StoredLease.revokedAt_grace (lease : StoredLease) (atUnixMs : UInt64) :
    (lease.revokedAt atUnixMs).reassignmentGraceMs = lease.reassignmentGraceMs := rfl

@[grind =] theorem StoredLease.revokedAt_expires (lease : StoredLease) (atUnixMs : UInt64) :
    (lease.revokedAt atUnixMs).expiresAtUnixMs = lease.expiresAtUnixMs := rfl

@[grind! .] theorem StoredLease.revokedAt_revoked (lease : StoredLease) (atUnixMs : UInt64) :
    (lease.revokedAt atUnixMs).revokedAtUnixMs ≠ none := by
  simp [StoredLease.revokedAt]

@[grind =] theorem StoredLease.revokedAt_of_revoked {lease : StoredLease} (atUnixMs : UInt64)
    (revoked : lease.revokedAtUnixMs ≠ none) : lease.revokedAt atUnixMs = lease := by
  obtain ⟨first, found⟩ := Option.ne_none_iff_exists'.mp revoked
  have stands : some (lease.revokedAtUnixMs.getD atUnixMs) = lease.revokedAtUnixMs := by
    simp [found]
  simp only [StoredLease.revokedAt, stands]

namespace Ledger

def setJob (ledger : Ledger) (job : StoredJob) : Ledger :=
  { ledger with job := Function.update ledger.job job.jobId (some job) }

def setAttempt (ledger : Ledger) (attempt : StoredAttempt) : Ledger :=
  { ledger with attempt := Function.update ledger.attempt attempt.attemptId (some attempt) }

def setLease (ledger : Ledger) (lease : StoredLease) : Ledger :=
  { ledger with lease := Function.update ledger.lease lease.leaseId (some lease) }

def setReservation (ledger : Ledger) (nodeId : String)
    (reservation : Option StoredNodeReservation) : Ledger :=
  { ledger with reservation := Function.update ledger.reservation nodeId reservation }

section Fields

variable (ledger : Ledger) (job : StoredJob) (attempt : StoredAttempt) (lease : StoredLease)
  (nodeId id : String) (reservation : Option StoredNodeReservation)

@[simp, grind =] theorem setJob_job :
    (ledger.setJob job).job id = if id = job.jobId then some job else ledger.job id := by
  simp [setJob, Function.update_apply]

@[simp, grind =] theorem setJob_attempt : (ledger.setJob job).attempt id = ledger.attempt id := rfl

@[simp, grind =] theorem setJob_lease : (ledger.setJob job).lease id = ledger.lease id := rfl

@[simp, grind =] theorem setJob_reservation :
    (ledger.setJob job).reservation id = ledger.reservation id := rfl

@[simp, grind =] theorem setJob_counter : (ledger.setJob job).counter = ledger.counter := rfl

@[simp, grind =] theorem setJob_reported : (ledger.setJob job).reported = ledger.reported := rfl

@[simp, grind =] theorem setJob_operation (key : List UInt8) :
    (ledger.setJob job).operation key = ledger.operation key := rfl

@[simp, grind =] theorem setJob_manifested :
    (ledger.setJob job).manifested = ledger.manifested := rfl

@[simp, grind =] theorem setAttempt_attempt : (ledger.setAttempt attempt).attempt id =
    if id = attempt.attemptId then some attempt else ledger.attempt id := by
  simp [setAttempt, Function.update_apply]

@[simp, grind =] theorem setAttempt_job : (ledger.setAttempt attempt).job id = ledger.job id := rfl

@[simp, grind =] theorem setAttempt_lease :
    (ledger.setAttempt attempt).lease id = ledger.lease id := rfl

@[simp, grind =] theorem setAttempt_reservation :
    (ledger.setAttempt attempt).reservation id = ledger.reservation id := rfl

@[simp, grind =] theorem setAttempt_counter :
    (ledger.setAttempt attempt).counter = ledger.counter := rfl

@[simp, grind =] theorem setAttempt_reported :
    (ledger.setAttempt attempt).reported = ledger.reported := rfl

@[simp, grind =] theorem setAttempt_operation (key : List UInt8) :
    (ledger.setAttempt attempt).operation key = ledger.operation key := rfl

@[simp, grind =] theorem setAttempt_manifested :
    (ledger.setAttempt attempt).manifested = ledger.manifested := rfl

@[simp, grind =] theorem setLease_lease : (ledger.setLease lease).lease id =
    if id = lease.leaseId then some lease else ledger.lease id := by
  simp [setLease, Function.update_apply]

@[simp, grind =] theorem setLease_job : (ledger.setLease lease).job id = ledger.job id := rfl

@[simp, grind =] theorem setLease_attempt :
    (ledger.setLease lease).attempt id = ledger.attempt id := rfl

@[simp, grind =] theorem setLease_reservation :
    (ledger.setLease lease).reservation id = ledger.reservation id := rfl

@[simp, grind =] theorem setLease_counter : (ledger.setLease lease).counter = ledger.counter := rfl

@[simp, grind =] theorem setLease_reported :
    (ledger.setLease lease).reported = ledger.reported := rfl

@[simp, grind =] theorem setLease_operation (key : List UInt8) :
    (ledger.setLease lease).operation key = ledger.operation key := rfl

@[simp, grind =] theorem setLease_manifested :
    (ledger.setLease lease).manifested = ledger.manifested := rfl

@[simp, grind =] theorem setReservation_reservation :
    (ledger.setReservation nodeId reservation).reservation id =
      if id = nodeId then reservation else ledger.reservation id := by
  simp [setReservation, Function.update_apply]

@[simp, grind =] theorem setReservation_job :
    (ledger.setReservation nodeId reservation).job id = ledger.job id := rfl

@[simp, grind =] theorem setReservation_attempt :
    (ledger.setReservation nodeId reservation).attempt id = ledger.attempt id := rfl

@[simp, grind =] theorem setReservation_lease :
    (ledger.setReservation nodeId reservation).lease id = ledger.lease id := rfl

@[simp, grind =] theorem setReservation_counter :
    (ledger.setReservation nodeId reservation).counter = ledger.counter := rfl

@[simp, grind =] theorem setReservation_reported :
    (ledger.setReservation nodeId reservation).reported = ledger.reported := rfl

@[simp, grind =] theorem setReservation_operation (key : List UInt8) :
    (ledger.setReservation nodeId reservation).operation key = ledger.operation key := rfl

@[simp, grind =] theorem setReservation_manifested :
    (ledger.setReservation nodeId reservation).manifested = ledger.manifested := rfl

end Fields

/-- The attempt with the greatest fence epoch of its job. -/
structure Latest (ledger : Ledger) (attempt : StoredAttempt) : Prop where
  present : ledger.attempt attempt.attemptId = some attempt
  greatest : ∀ (id : String) (other : StoredAttempt), ledger.attempt id = some other →
    other.jobId = attempt.jobId → other.fenceEpoch ≤ attempt.fenceEpoch

/-- Which attempt is the latest does not depend on the states of the attempts. -/
theorem latest_setAttempt {ledger : Ledger} {attempt : StoredAttempt} {state : AttemptState}
    (present : ledger.attempt attempt.attemptId = some attempt) :
    (ledger.setAttempt { attempt with state }).Latest { attempt with state } ↔
      ledger.Latest attempt := by
  constructor
  · intro latest
    refine ⟨present, fun id other found ofJob => ?_⟩
    by_cases same : id = attempt.attemptId
    · subst same
      obtain rfl : attempt = other := Option.some.inj (present.symm.trans found)
      exact UInt64.le_refl _
    · exact latest.greatest id other (by simpa [same] using found) ofJob
  · intro latest
    refine ⟨by simp, fun id other found ofJob => ?_⟩
    by_cases same : id = attempt.attemptId
    · rw [setAttempt_attempt, if_pos same, Option.some.injEq] at found
      rw [← found]
      exact UInt64.le_refl _
    · exact latest.greatest id other (by simpa [same] using found) ofJob

/-- The attempt its job is staged for or runs on. -/
def Current (ledger : Ledger) (attemptId : String) : Prop :=
  ∃ attempt job, ledger.Latest attempt ∧ attempt.attemptId = attemptId ∧
    ledger.job attempt.jobId = some job ∧ (job.state = .staging ∨ job.state = .running)

theorem current_setAttempt {ledger : Ledger} {attempt : StoredAttempt} {state : AttemptState}
    (present : ledger.attempt attempt.attemptId = some attempt)
    (current : ledger.Current attempt.attemptId) :
    (ledger.setAttempt { attempt with state }).Current attempt.attemptId := by
  obtain ⟨last, job, latest, key, found, runs⟩ := current
  have itself := latest.present
  rw [key, present, Option.some.injEq] at itself
  subst itself
  exact ⟨{ attempt with state }, job, (latest_setAttempt present).mpr latest, rfl, found, runs⟩

/-- A terminal report of the attempt is stored. -/
def Reported (ledger : Ledger) (attemptId : String) : Prop :=
  ∃ body, (attemptId, body) ∈ ledger.reported

/-- As long as the attempt is current and nothing was reported about it, its node is reserved. -/
def Holds (ledger : Ledger) (reservation : StoredNodeReservation) : Prop :=
  (∃ attempt, ledger.attempt reservation.attemptId = some attempt) ∧
    (ledger.Current reservation.attemptId → ¬ ledger.Reported reservation.attemptId →
      ∃ kept, ledger.reservation reservation.nodeId = some kept ∧
        kept.unmarked = reservation.unmarked)

end Ledger

/-- The moves a job makes without a change of its attempts and leases. -/
def JobMove.alone : JobMove → Bool
  | .planned | .queued | .queueFailed => true
  | _ => false

/-- The moves that take the job away from its latest attempt. -/
def JobMove.handsBack : JobMove → Bool
  | .requeued | .abandoned | .paused => true
  | _ => false

open Ledger

/-- What sets transactions apart: the attempts whose reservation they may delete, the expiry they
may give to a lease, the reports they store, whether an accepted grant moves the job, the attempts
they stage for a paused job, whether they follow up on reports stored earlier, and whether they issue
leases of the caller's making. -/
structure Allowance where
  frees : Set String
  renews : Set (String × UInt64)
  reports : Set (String × List UInt8)
  acks : Prop
  resumes : Set String
  backfills : Prop
  issues : Prop

/-- One commit, or a part of it that stands for itself. -/
inductive Step (allowed : Allowance) : Ledger → Ledger → Prop
  | submitted {ledger : Ledger} {job : StoredJob} (fresh : ledger.job job.jobId = none)
      (named : isBlank job.jobId = false) (start : job.state = .submitted)
      (shaped : job.WellShaped) : Step allowed ledger (ledger.setJob job)
  | manifested {ledger : Ledger} {jobId : String} :
      Step allowed ledger { ledger with manifested := insert jobId ledger.manifested }
  | moved {ledger : Ledger} {move : JobMove} {old new : StoredJob}
      (found : ledger.job old.jobId = some old) (edge : JobEdge move old new)
      (alone : move.alone) : Step allowed ledger (ledger.setJob new)
  | started {ledger : Ledger} {old new : StoredJob} {attempt : StoredAttempt}
      (found : ledger.job old.jobId = some old) (edge : JobEdge .started old new)
      (latest : ledger.Latest attempt) (ofJob : attempt.jobId = old.jobId)
      (shown : attempt.state = .running ∨ allowed.acks) : Step allowed ledger (ledger.setJob new)
  | attemptMoved {ledger : Ledger} {attempt : StoredAttempt} {state : AttemptState}
      (found : ledger.attempt attempt.attemptId = some attempt)
      (progress : attempt.state = .created ∧ state = .starting ∨
        attempt.state = .starting ∧ state = .running) :
      Step allowed ledger (ledger.setAttempt { attempt with state })
  | attemptEnded {ledger : Ledger} {attempt : StoredAttempt} {state : AttemptState}
      (found : ledger.attempt attempt.attemptId = some attempt)
      (live : AttemptState.ended attempt.state = false) (ended : AttemptState.ended state = true)
      (replaced : ¬ ledger.Current attempt.attemptId ∨ allowed.backfills) :
      Step allowed ledger (ledger.setAttempt { attempt with state })
  | finished {ledger : Ledger} {old new : StoredJob} {attempt : StoredAttempt}
      {state : AttemptState} (found : ledger.job old.jobId = some old)
      (edge : JobEdge .finished old new) (latest : ledger.Latest attempt)
      (ofJob : attempt.jobId = old.jobId) (ended : AttemptState.ended state = true)
      (outcome : new.state = .completed → state = .completed) :
      Step allowed ledger ((ledger.setAttempt { attempt with state }).setJob new)
  | staged {ledger : Ledger} {move : JobMove} {old new : StoredJob} {attempt : StoredAttempt}
      {lease : StoredLease} {key : List UInt8} {operation : StoredOperation}
      (found : ledger.job old.jobId = some old)
      (edge : JobEdge move old new) (starts : move = .staged ∨ move = .resumed)
      (resumes : move = .resumed ↔ attempt.attemptId ∈ allowed.resumes)
      (freshAttempt : ledger.attempt attempt.attemptId = none)
      (freshLease : ledger.lease lease.leaseId = none)
      (freshKey : ledger.operation key = none) (ofJob : attempt.jobId = old.jobId)
      (unstarted : attempt.state = .created)
      (covers : lease.Covers attempt) (termed : lease.Termed)
      (above : ledger.counter < attempt.fenceEpoch)
      (aboveLeases : ∀ (id : String) (other : StoredLease), ledger.lease id = some other →
        other.fenceEpoch < attempt.fenceEpoch) :
      Step allowed ledger
        { ((ledger.setJob new).setAttempt attempt).setLease lease with
          counter := attempt.fenceEpoch
          operation := Function.update ledger.operation key (some operation) }
  | reserved {ledger : Ledger} {attempt : StoredAttempt} {reservation : StoredNodeReservation}
      (free : ledger.reservation reservation.nodeId = none)
      (found : ledger.attempt reservation.attemptId = some attempt)
      (ofJob : attempt.jobId = reservation.jobId)
      (onNode : attempt.nodeIds = [reservation.nodeId]) :
      Step allowed ledger (ledger.setReservation reservation.nodeId (some reservation))
  | leaseIssued {ledger : Ledger} {lease : StoredLease}
      (fresh : ledger.lease lease.leaseId = none) (issues : allowed.issues) :
      Step allowed ledger (ledger.setLease lease)
  | leaseChanged {ledger : Ledger} {old new : StoredLease}
      (found : ledger.lease old.leaseId = some old) (live : old.revokedAtUnixMs = none)
      (same : new.identity = old.identity)
      (grace : old.reassignmentGraceMs ≤ new.reassignmentGraceMs)
      (term : new.expiresAtUnixMs = old.expiresAtUnixMs ∨
        (old.leaseId, new.expiresAtUnixMs) ∈ allowed.renews) :
      Step allowed ledger (ledger.setLease new)
  | reported {ledger : Ledger} {report : String × List UInt8} (given : report ∈ allowed.reports) :
      Step allowed ledger { ledger with reported := insert report ledger.reported }
  | released {ledger : Ledger} {nodeId : String} {reservation : StoredNodeReservation}
      (found : ledger.reservation nodeId = some reservation)
      (freed : reservation.attemptId ∈ allowed.frees)
      (ended : ledger.Reported reservation.attemptId ∨
        ¬ ledger.Current reservation.attemptId) :
      Step allowed ledger (ledger.setReservation nodeId none)
  | suspected {ledger : Ledger} {nodeId : String} {reservation : StoredNodeReservation}
      {expiredAtUnixMs : Option UInt64} (found : ledger.reservation nodeId = some reservation) :
      Step allowed ledger
        (ledger.setReservation nodeId (some { reservation with expiredAtUnixMs }))
  | handedBack {ledger : Ledger} {move : JobMove} {old new : StoredJob} {attempt : StoredAttempt}
      {lease : StoredLease} {atUnixMs : UInt64} (found : ledger.job old.jobId = some old)
      (edge : JobEdge move old new) (handsBack : move.handsBack)
      (latest : ledger.Latest attempt) (ofJob : attempt.jobId = old.jobId)
      (leased : ledger.lease lease.leaseId = some lease) (covers : lease.Covers attempt) :
      Step allowed ledger ((ledger.setJob new).setLease (lease.revokedAt atUnixMs))

/-- The rows of a ledger agree with each other. -/
structure Sound (ledger : Ledger) : Prop where
  job : ∀ {id : String} {job : StoredJob}, ledger.job id = some job →
    job.jobId = id ∧ isBlank id = false ∧ job.WellShaped
  attemptKey : ∀ {id : String} {attempt : StoredAttempt}, ledger.attempt id = some attempt →
    attempt.attemptId = id
  leaseKey : ∀ {id : String} {lease : StoredLease}, ledger.lease id = some lease →
    lease.leaseId = id
  covered : ∀ {id : String} {attempt : StoredAttempt}, ledger.attempt id = some attempt →
    ∃ lease, ledger.lease attempt.leaseId = some lease ∧ lease.Covers attempt
  placed : ∀ {id : String} {attempt : StoredAttempt}, ledger.attempt id = some attempt →
    ∃ job, ledger.job attempt.jobId = some job ∧ job.state ≠ .submitted ∧ job.state ≠ .planning
  counted : ∀ {id : String} {attempt : StoredAttempt}, ledger.attempt id = some attempt →
    attempt.fenceEpoch ≤ ledger.counter
  numbered : ∀ {id : String} {attempt : StoredAttempt}, ledger.attempt id = some attempt →
    0 < attempt.fenceEpoch
  distinct : ∀ {id other : String} {attempt rival : StoredAttempt},
    ledger.attempt id = some attempt → ledger.attempt other = some rival →
    attempt.fenceEpoch = rival.fenceEpoch → id = other
  superseded : ∀ {id other : String} {attempt rival : StoredAttempt} {lease : StoredLease},
    ledger.attempt id = some attempt → ledger.attempt other = some rival →
    attempt.jobId = rival.jobId → attempt.fenceEpoch < rival.fenceEpoch →
    ledger.lease attempt.leaseId = some lease → lease.revokedAtUnixMs ≠ none
  waiting : ∀ {id : String} {attempt : StoredAttempt} {job : StoredJob} {lease : StoredLease},
    ledger.attempt id = some attempt → ledger.job attempt.jobId = some job →
    job.state = .queued ∨ job.state = .paused → ledger.lease attempt.leaseId = some lease →
    lease.revokedAtUnixMs ≠ none
  reserved : ∀ {nodeId : String} {reservation : StoredNodeReservation},
    ledger.reservation nodeId = some reservation → reservation.nodeId = nodeId ∧
      ∃ attempt, ledger.attempt reservation.attemptId = some attempt ∧
        attempt.jobId = reservation.jobId ∧ attempt.nodeIds = [nodeId]

end Gputeer.Coordinator
