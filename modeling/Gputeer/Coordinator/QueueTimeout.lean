import Gputeer.Coordinator.QueueTime

/-! How long a job was queued, all its stays in the queue together, beside the wait that a queue timeout measures
from the first of them. -/

namespace Gputeer.Coordinator

open ControlDb

variable {codec : Codec} {db next : ControlDb} {allowed : Allowance}

section Watch

/-- The time a call reads, if it reads one. -/
def Operation.now : Operation → Option UInt64
  | .submitAccepted _ at_ => some at_
  | .submitVerifiedManifest _ _ at_ => some at_
  | .startPlanning _ at_ => some at_
  | .enqueue _ _ at_ => some at_
  | .planAndEnqueue _ _ at_ => some at_
  | .failQueued _ _ at_ => some at_
  | .recordInventory .. => none
  | .stageQueuedWithLease request => some request.issuedAtUnixMs
  | .reserveAndStage request .. => some request.issuedAtUnixMs
  | .recordGrantAccepted _ now _ => some now
  | .recordProcessStarted _ now => some now
  | .getOrIssue _ now => some now
  | .renewExisting .. => none
  | .renewExistingWithinDuration _ now _ _ => some now
  | .raiseReassignmentGrace .. => none
  | .markRevoked _ revokedAt => some revokedAt
  | .storeVerifiedTerminalReport _ release ownerPreempt =>
      (release.map (·.2)).or (ownerPreempt.map (·.nowUnixMs))
  | .releaseForVerifiedTerminalReport _ _ releasedAt => some releasedAt
  | .openReportStore => none
  | .pauseForOwnerPreempt _ _ _ _ now => some now
  | .failoverJob _ _ now => some now
  | .failoverLostAttempts _ now => some now
  | .releaseLostNodeByOperator _ _ now => some now
  | .markReservationExpired _ expiredAt => some expiredAt

/-- A watch over one job, kept beside the database, which does not keep it: the time of the last call, since when
the job is queued if it is, and how long its earlier stays in the queue were. -/
structure QueueClock where
  now : UInt64
  since : Option UInt64
  waited : Nat

namespace QueueClock

def atRest : QueueClock where
  now := 0
  since := none
  waited := 0

/-- The watch after a call at `now` that leaves the job queued or not. -/
def watch (clock : QueueClock) (queued : Bool) (now : UInt64) : QueueClock :=
  match clock.since, queued with
  | none, true => { clock with now, since := some now }
  | some since, false =>
      { now, since := none, waited := clock.waited + (now.toNat - since.toNat) }
  | _, _ => { clock with now }

/-- The time in the queue up to `now`, the present stay included. -/
def total (clock : QueueClock) (now : UInt64) : Nat :=
  clock.waited + clock.since.elim 0 (fun since => now.toNat - since.toNat)

end QueueClock

def ControlDb.isQueued (db : ControlDb) (jobId : String) : Bool :=
  (db.ledger.job jobId).any (·.state = .queued)

def watchStep (codec : Codec) (jobId : String) (watched : ControlDb × QueueClock) (operation : Operation) :
    ControlDb × QueueClock :=
  let next := step codec watched.1 operation
  (next, watched.2.watch (next.isQueued jobId) (operation.now.getD watched.2.now))

/-- The database and the watch after a run. -/
def watchRun (codec : Codec) (jobId : String) (operations : List Operation) : ControlDb × QueueClock :=
  Trace.run (watchStep codec jobId) (ControlDb.empty, .atRest) operations

/-- How long the job has been queued when a run is over and the clock shows `now`. -/
def queuedTime (codec : Codec) (operations : List Operation) (jobId : String) (now : UInt64) : Nat :=
  (watchRun codec jobId operations).2.total now

end Watch

/-- A job that was never requeued and is not queued yet, or has not left the queue since it was first queued: what a
commit makes of it tells what it was before. -/
structure Unrequeued (before : Option StoredJob) (new : StoredJob) : Prop where
  unqueued : new.queuedAtUnixMs = none → ∀ old ∈ before, old.requeueCount = 0 ∧ old.queuedAtUnixMs = none
  queued : new.state = .queued → ∀ old ∈ before, old.requeueCount = 0 ∧
    (old.queuedAtUnixMs = none ∨ old.state = .queued ∧ old.queuedAtUnixMs = new.queuedAtUnixMs)

section Steps

variable {ledger last : Ledger}

namespace StoredJob.WellShaped

variable {job : StoredJob}

theorem not_queuedAt (shaped : job.WellShaped) (state : job.state = .planning) : job.queuedAtUnixMs = none := by
  have shape := shaped.shape
  simp only [RawJobRow.ofStored, RawJobRow.ofSubmitted, RawJobRow.written, state, RawJobRow.validShape,
    Bool.and_eq_true, Option.isNone_iff_eq_none, Option.map_eq_none_iff] at shape
  tauto

theorem queuedAt_isSome (shaped : job.WellShaped) (state : job.state = .queued) :
    job.queuedAtUnixMs ≠ none := by
  have shape := shaped.shape
  simp only [RawJobRow.ofStored, RawJobRow.ofSubmitted, RawJobRow.written, state, RawJobRow.validShape,
    Bool.and_eq_true, Option.isSome_map] at shape
  grind

end StoredJob.WellShaped

theorem JobEdge.unrequeued {move : JobMove} {old new : StoredJob} (edge : JobEdge move old new)
    (never : new.requeueCount = 0) : old.requeueCount = 0 ∧ move ≠ .requeued ∧ move ≠ .paused := by
  have counted {count : UInt64} (recounted : old.requeueCount.checkedAdd 1 = some count) : count ≠ 0 := by
    rintro rfl
    have := UInt64.checkedAdd_eq_some.mp recounted
    simp at this
  cases edge with
  | requeued before filled recounted _ => exact absurd never (counted recounted)
  | paused before filled recounted _ => exact absurd never (counted recounted)
  | _ => exact ⟨never, by simp, by simp⟩

theorem JobEdge.queued_of_queued {move : JobMove} {old new : StoredJob} (edge : JobEdge move old new)
    (never : new.requeueCount = 0) (state : new.state = .queued) : old.state = .planning := by
  have moves := edge.unrequeued never
  cases edge with
  | queued before named counted => exact before
  | requeued before filled recounted counted => exact absurd rfl moves.2.1
  | finished before walked moved outcome counted => 
      rcases outcome with ⟨rfl, _⟩ | ⟨rfl, _⟩ <;> cases state
  | _ => cases state

theorem Unrequeued.onward {before : Option StoredJob} {move : JobMove} {old new : StoredJob}
    (shaped : old.WellShaped) (never : new.requeueCount = 0) (edge : JobEdge move old new)
    (kept : old.requeueCount = 0 → Unrequeued before old) : Unrequeued before new := by
  have earlier := kept (edge.unrequeued never).1
  constructor
  · intro unqueued
    refine earlier.unqueued ?_
    by_cases queue : move = .queued
    · subst queue
      cases edge
      cases unqueued
    · exact (edge.queuedAt_eq queue).symm.trans unqueued
  · intro state there found
    have planning := edge.queued_of_queued never state
    obtain ⟨count, none⟩ := earlier.unqueued (shaped.not_queuedAt planning) there found
    exact ⟨count, Or.inl none⟩

theorem Steps.unrequeued (steps : Steps allowed ledger last) (sound : Sound ledger) {id : String} {new : StoredJob}
    (found : last.job id = some new) (never : new.requeueCount = 0) : Unrequeued (ledger.job id) new := by
  have history := steps.relate (fun last => (last.job id = none → ledger.job id = none) ∧
    ∀ later, last.job id = some later → later.requeueCount = 0 → Unrequeued (ledger.job id) later) ?_ ?_ sound
  · exact history.1.2 new found never
  · refine ⟨fun absent => absent, fun job there count => ?_⟩
    constructor <;> grind
  · rintro middle last soundMiddle ⟨absent, earlier⟩ step
    refine ⟨fun gone => absent ?_, fun newer now count => ?_⟩
    · by_contra there
      obtain ⟨old, there⟩ := Option.ne_none_iff_exists'.mp there
      obtain ⟨moved, nowMoved, _⟩ := step.job_kept soundMiddle there
      exact absurd (gone.symm.trans nowMoved) (by simp)
    · cases there : middle.job id with
      | none =>
          rw [absent there]
          constructor <;> simp
      | some old =>
          obtain ⟨moved, nowMoved, moves⟩ := step.job_kept soundMiddle there
          obtain rfl : moved = newer := Option.some.inj (nowMoved.symm.trans now)
          rcases moves with rfl | ⟨move, edge⟩
          · exact earlier moved there count
          · exact Unrequeued.onward (soundMiddle.job there).2.2 count edge (earlier old there)

end Steps

section Enqueued

/-- A commit that leaves a queue time as it was, or writes `at_`. -/
def ControlDb.QueuesAt (at_ : UInt64) (db next : ControlDb) : Prop :=
  ∀ jobId, next.queuedAt jobId = db.queuedAt jobId ∨ next.queuedAt jobId = some at_

theorem ControlDb.Intact.queuesAt (intact : db.Intact) {old new : StoredJob} {planId : String} {at_ : UInt64}
    (found : db.ledger.job old.jobId = some old) (named : Text.isBlank planId = false)
    (queues : queueJob old planId at_ = .ok new) (written : updateJob db new = .ok next) :
    QueuesAt at_ db next := by
  have edge := queueJob_edge named queues
  obtain rfl := intact.readable.updateJob_eq_ok found edge written
  intro jobId
  simp only [queuedAt, withJob_ledger (edge.wellShaped (intact.sound.job found).2.2), Ledger.setJob_job]
  split
  · simp only [queueJob, Except.bind_eq_ok, Except.ok.injEq] at queues
    obtain ⟨_, _, _, _, _, _, _, _, rfl⟩ := queues
    exact Or.inr rfl
  · exact Or.inl rfl

theorem enqueue_queuesAt (intact : db.Intact) {jobId planId : String} {at_ : UInt64} {job : StoredJob}
    (done : enqueue db jobId planId at_ = .ok (next, job)) : QueuesAt at_ db next := by
  simp only [enqueue, Except.ite_error_eq_ok, Bool.not_eq_true] at done
  obtain ⟨named, done⟩ := done
  obtain ⟨old, found, applied⟩ := intact.transition_eq_ok done
  split at applied
  · rw [alreadyQueued_eq_ok applied]
    exact fun _ => Or.inl rfl
  · simp only [Except.bind_eq_ok, commitJob_eq_ok] at applied
    obtain ⟨queued, queues, writes, _⟩ := applied
    exact intact.queuesAt found named queues writes

theorem planAndEnqueue_queuesAt (intact : db.Intact) {jobId planId : String} {at_ : UInt64} {job : StoredJob}
    (done : planAndEnqueue db jobId planId at_ = .ok (next, job)) : QueuesAt at_ db next := by
  simp only [planAndEnqueue, Except.ite_error_eq_ok, Bool.not_eq_true] at done
  obtain ⟨named, done⟩ := done
  obtain ⟨old, found, applied⟩ := intact.transition_eq_ok done
  split at applied
  · rw [alreadyQueued_eq_ok applied]
    exact fun _ => Or.inl rfl
  · split at applied
    · next before =>
      simp only [Except.bind_eq_ok, commitJob_eq_ok] at applied
      obtain ⟨planned, plans, moved, moves, queued, queues, writes, _⟩ := applied
      have edge := planJob_edge before plans
      have first : Refines ⟨∅, ∅, ∅, False, ∅, False, False⟩ db moved := intact.moved found edge rfl moves
      have there : moved.ledger.job planned.jobId = some planned := by
        rw [intact.readable.updateJob_eq_ok found edge moves,
          withJob_ledger (edge.wellShaped (intact.sound.job found).2.2)]
        simp
      intro id
      have second := (intact.after first).queuesAt there named queues writes id
      rwa [intact.edge_keeps found edge (by simp) moves id] at second
    · simp only [Except.bind_eq_ok, commitJob_eq_ok] at applied
      obtain ⟨queued, queues, writes, _⟩ := applied
      exact intact.queuesAt found named queues writes

theorem ControlDb.QueuesAt.commit {ε α : Type} {at_ : UInt64} {result : Except ε (ControlDb × α)}
    (queues : ∀ (next : ControlDb) (answer : α), result = .ok (next, answer) → QueuesAt at_ db next) :
    QueuesAt at_ db (Coordinator.commit db result) := by
  cases result with
  | error fault => exact fun _ => Or.inl rfl
  | ok answer => exact queues answer.1 answer.2 rfl

/-- A call writes the time it reads as the time a job was first queued. -/
theorem step_queuesAt (intact : db.Intact) (operation : Operation) (jobId : String) :
    (step codec db operation).queuedAt jobId = db.queuedAt jobId ∨
      ∃ at_, operation.now = some at_ ∧ (step codec db operation).queuedAt jobId = some at_ := by
  cases enqueues : operation.enqueues with
  | false => exact Or.inl (step_queueTimes intact operation enqueues jobId)
  | true =>
      cases operation with
      | enqueue id planId at_ =>
          have queues : QueuesAt at_ db (step codec db (.enqueue id planId at_)) :=
            .commit fun _ _ => enqueue_queuesAt intact
          exact (queues jobId).imp_right fun written => ⟨at_, rfl, written⟩
      | planAndEnqueue id planId at_ =>
          have queues : QueuesAt at_ db (step codec db (.planAndEnqueue id planId at_)) :=
            .commit fun _ _ => planAndEnqueue_queuesAt intact
          exact (queues jobId).imp_right fun written => ⟨at_, rfl, written⟩
      | _ => cases enqueues

end Enqueued

section Runs

/-- The watch over a job agrees with its row as long as it was never requeued: no time in the queue before it is
queued, and one stay since the time the row keeps. -/
structure Agrees (jobId : String) (db : ControlDb) (clock : QueueClock) : Prop where
  queued : clock.since.isSome = db.isQueued jobId
  absent : db.ledger.job jobId = none → clock.waited = 0
  unqueued : ∀ job, db.ledger.job jobId = some job → job.requeueCount = 0 → job.queuedAtUnixMs = none →
    clock.waited = 0
  stay : ∀ job, db.ledger.job jobId = some job → job.requeueCount = 0 → job.state = .queued →
    clock.since = job.queuedAtUnixMs ∧ clock.waited = 0

namespace QueueClock

variable {clock : QueueClock} {queued : Bool} {now : UInt64}

@[simp] theorem watch_since_isSome : (clock.watch queued now).since.isSome = queued := by
  obtain ⟨_, since, _⟩ := clock
  cases since <;> cases queued <;> rfl

theorem watch_waited_of_none (rest : clock.since = none) : (clock.watch queued now).waited = clock.waited := by
  obtain ⟨_, since, _⟩ := clock
  cases rest
  cases queued <;> rfl

theorem watch_enters (rest : clock.since = none) :
    (clock.watch true now).since = some now := by
  obtain ⟨_, since, _⟩ := clock
  cases rest
  rfl

theorem watch_stays {since : UInt64} (there : clock.since = some since) :
    (clock.watch true now).since = some since ∧ (clock.watch true now).waited = clock.waited := by
  obtain ⟨_, _, _⟩ := clock
  cases there
  exact ⟨rfl, rfl⟩

end QueueClock

theorem watchRun_fst (jobId : String) (operations : List Operation) :
    (watchRun codec jobId operations).1 = run codec operations := by
  induction operations using List.reverseRecOn with
  | nil => rfl
  | append_singleton operations operation ih =>
      simp only [watchRun, run, Trace.run_snoc] at ih ⊢
      rw [← ih]
      rfl

namespace Agrees

variable {jobId : String} {clock : QueueClock}

/-- A job that was never queued is not queued. -/
theorem resting (intact : db.Intact) (agrees : Agrees jobId db clock) (never : db.queuedAt jobId = none) :
    clock.since = none := by
  rw [← Option.not_isSome_iff_eq_none, agrees.queued, isQueued]
  cases found : db.ledger.job jobId with
  | none => simp
  | some old =>
      simp only [queuedAt, found, Option.bind_some] at never
      have shaped := (intact.sound.job found).2.2
      simp only [Option.any_some, decide_eq_true_eq]
      exact fun state => shaped.queuedAt_isSome state never

/-- No time was spent in the queue by a job that is not there, or that was never queued. -/
theorem unwaited (agrees : Agrees jobId db clock)
    (early : ∀ old ∈ db.ledger.job jobId, old.requeueCount = 0 ∧ old.queuedAtUnixMs = none) :
    db.queuedAt jobId = none ∧ clock.waited = 0 := by
  cases found : db.ledger.job jobId with
  | none => exact ⟨by simp [queuedAt, found], agrees.absent found⟩
  | some old =>
      obtain ⟨count, never⟩ := early old found
      exact ⟨by simp [queuedAt, found, never], agrees.unqueued old found count never⟩

theorem stepped (intact : db.Intact) (agrees : Agrees jobId db clock) (operation : Operation) :
    Agrees jobId (step codec db operation)
      (clock.watch ((step codec db operation).isQueued jobId) (operation.now.getD clock.now)) := by
  have refines := step_refines codec intact operation
  have written := @step_queuesAt codec db intact operation jobId
  generalize step codec db operation = next at refines written ⊢
  have soundNext := (intact.after refines).sound
  have stays_zero (never : db.queuedAt jobId = none) (zero : clock.waited = 0) {queued : Bool} {now : UInt64} :
      (clock.watch queued now).waited = 0 :=
    (QueueClock.watch_waited_of_none (agrees.resting intact never)).trans zero
  constructor
  · exact QueueClock.watch_since_isSome
  · intro gone
    have absent : db.ledger.job jobId = none := by
      by_contra there
      obtain ⟨old, there⟩ := Option.ne_none_iff_exists'.mp there
      obtain ⟨moved, nowMoved, _⟩ := refines.steps.job_kept intact.sound there
      exact absurd (gone.symm.trans nowMoved) (by simp)
    exact stays_zero (by simp [queuedAt, absent]) (agrees.absent absent)
  · intro new found never unqueued
    have early := (refines.steps.unrequeued intact.sound found never).unqueued unqueued
    obtain ⟨before, zero⟩ := agrees.unwaited early
    exact stays_zero before zero
  · intro new found never state
    have earlier := (refines.steps.unrequeued intact.sound found never).queued state
    have here : next.isQueued jobId = true := by simp [isQueued, found, state]
    have known := (soundNext.job found).2.2.queuedAt_isSome state
    have reads : next.queuedAt jobId = new.queuedAtUnixMs := by simp [queuedAt, found]
    rw [here]
    by_cases early : ∀ old ∈ db.ledger.job jobId, old.requeueCount = 0 ∧ old.queuedAtUnixMs = none
    · -- the job enters the queue, at the time the call writes
      obtain ⟨before, zero⟩ := agrees.unwaited early
      refine ⟨?_, stays_zero before zero⟩
      rw [QueueClock.watch_enters (agrees.resting intact before)]
      rcases written with same | ⟨at_, reads_now, writes⟩
      · exact absurd (reads.symm.trans (same.trans before)) known
      · rw [reads_now, Option.getD_some, ← writes, reads]
    · -- the job was in the queue, since the time its row has kept
      push Not at early
      obtain ⟨old, there, queuedBefore⟩ := early
      obtain ⟨count, unqueued | ⟨queued, same⟩⟩ := earlier old there
      · exact absurd unqueued (queuedBefore count)
      · obtain ⟨since, zero⟩ := agrees.stay old there count queued
        obtain ⟨time, sinceTime⟩ := Option.ne_none_iff_exists'.mp (same ▸ known)
        obtain ⟨still, waits⟩ := @QueueClock.watch_stays clock (operation.now.getD clock.now) time (since.trans sinceTime)
        exact ⟨still.trans (sinceTime.symm.trans same), waits.trans zero⟩

end Agrees

theorem run_agrees (codec : Codec) (jobId : String) (operations : List Operation) :
    Agrees jobId (run codec operations) (watchRun codec jobId operations).2 := by
  induction operations using List.reverseRecOn with
  | nil => exact ⟨rfl, fun _ => rfl, fun _ _ _ _ => rfl, fun _ never => by cases never⟩
  | append_singleton operations operation ih =>
      have stepped := @Agrees.stepped codec _ jobId _ (run_intact codec operations) ih operation
      have database := @watchRun_fst codec jobId operations
      simp only [watchRun, run, Trace.run_snoc, watchStep] at stepped database ⊢
      rw [database]
      exact stepped

/-- A job that is queued for the first time has been queued since the time its row keeps. -/
theorem queuedTime_of_unrequeued (codec : Codec) (operations : List Operation) {jobId : String} {job : StoredJob}
    {queuedAt now : UInt64} (found : (run codec operations).ledger.job jobId = some job)
    (queued : job.state = .queued) (never : job.requeueCount = 0) (at_ : job.queuedAtUnixMs = some queuedAt) :
    queuedTime codec operations jobId now = now.toNat - queuedAt.toNat := by
  obtain ⟨since, zero⟩ := (run_agrees codec jobId operations).stay job found never queued
  simp [queuedTime, QueueClock.total, since, at_, zero]

theorem checkQueueFailure_queueTimeout {job : StoredJob} {queuedAt now : UInt64} {done : Unit}
    (checked : checkQueueFailure job .queueTimeout queuedAt now = .ok done) :
    ∃ limit, job.maxQueueDurationMs = some limit ∧ limit.toNat < now.toNat - queuedAt.toNat := by
  simp only [checkQueueFailure, Except.bind_eq_ok, Except.ofOption_eq_ok, Except.ensure_eq_ok,
    UInt64.checkedSub_eq_some] at checked
  obtain ⟨limit, bound, elapsed, ⟨later, waited⟩, exceeds⟩ := checked
  refine ⟨limit, bound, ?_⟩
  rw [waited]
  exact UInt64.lt_iff_toNat_lt.mp (UInt64.not_le.mp exceeds)

/-- What a call that moves a queued job to `FAILED` has checked. -/
theorem ControlDb.Readable.failQueued_eq_ok (readable : db.Readable) {jobId : String} {failure : QueueFailure}
    {now : UInt64} {job failed : StoredJob} (found : db.ledger.job jobId = some job) (queued : job.state = .queued)
    (done : failQueued db jobId failure now = .ok (next, failed)) :
    ∃ queuedAt, job.queuedAtUnixMs = some queuedAt ∧ checkQueueFailure job failure queuedAt now = .ok () := by
  simp only [failQueued, transition, readable.fetchJob_eq, Except.bind_eq_ok, Except.ok.injEq,
    Except.ofOption_eq_ok] at done
  obtain ⟨_, _, _, rfl, there, read, done⟩ := done
  obtain rfl : job = there := Option.some.inj (found.symm.trans read)
  simp only [queued, reduceCtorEq, false_and, ↓reduceIte, ne_eq, not_true_eq_false, Except.bind_eq_ok,
    Except.ofOption_eq_ok] at done
  obtain ⟨queuedAt, at_, _, _, ⟨⟩, checked, _⟩ := done
  exact ⟨queuedAt, at_, checked⟩

/-- A queue timeout of a job that is queued and was never requeued comes after more time in the queue than the job
allows. -/
theorem queueTimeout_of_unrequeued (codec : Codec) (before : List Operation) {jobId : String} {now : UInt64}
    {job failed : StoredJob} {next : ControlDb} (found : fetchJob (run codec before) jobId = .ok (some job))
    (queued : job.state = .queued) (never : job.requeueCount = 0)
    (done : failQueued (run codec before) jobId .queueTimeout now = .ok (next, failed)) :
    ∃ limit, job.maxQueueDurationMs = some limit ∧
      limit.toNat < queuedTime codec before jobId now := by
  have readable := (run_intact codec before).readable
  rw [readable.fetchJob_eq, Except.ok.injEq] at found
  obtain ⟨queuedAt, at_, checked⟩ := readable.failQueued_eq_ok found queued done
  obtain ⟨limit, bound, exceeds⟩ := checkQueueFailure_queueTimeout checked
  rw [queuedTime_of_unrequeued codec before found queued never at_]
  exact ⟨limit, bound, exceeds⟩

/-- A submission of a job with a limit on its time in the queue. -/
def submitLimited (limitMs : UInt64) : Operation :=
  .submitAccepted
    { idempotencyKey := Vector.replicate 16 1, jobId := "job", submitterDeviceId := "laptop",
      manifestHash := Vector.replicate 32 7, deadlineUnixMs := none, maxQueueDurationMs := some limitMs } 10

/-- A job that waits its limit out. -/
theorem queueTimeout_of_waiting :
    ∃ job, fetchJob (run plainCodec [submitLimited 500, .planAndEnqueue "job" "plan" 20]) "job" = .ok (some job) ∧
      ∃ limit, job.maxQueueDurationMs = some limit ∧
        limit.toNat < queuedTime plainCodec [submitLimited 500, .planAndEnqueue "job" "plan" 20] "job" 521 := by
  have reads : ∃ job ∈ (fetchJob (run plainCodec [submitLimited 500, .planAndEnqueue "job" "plan" 20])
      "job").toOption.join, job.state = .queued ∧ job.requeueCount = 0 := by
    decide +kernel
  have fails : (failQueued (run plainCodec [submitLimited 500, .planAndEnqueue "job" "plan" 20])
      "job" .queueTimeout 521).toOption.isSome := by
    decide +kernel
  obtain ⟨job, read, queued, never⟩ := reads
  obtain ⟨⟨next, failed⟩, done⟩ := Option.isSome_iff_exists.mp fails
  have found := Except.eq_ok_of_toOption (Option.join_eq_some_iff.mp read)
  exact ⟨job, found, queueTimeout_of_unrequeued _ _ found queued never (Except.eq_ok_of_toOption done)⟩

/-- The job is staged after 80 ms, its node is lost, and it is failed for its wait as soon as it is queued again: of
the 500 ms it may wait it was queued for 81. -/
theorem requeued_job_times_out_early :
    ¬ ∀ (codec : Codec) (before : List Operation) (jobId : String) (now : UInt64) (job failed : StoredJob)
      (next : ControlDb), fetchJob (run codec before) jobId = .ok (some job) → job.state = .queued →
      failQueued (run codec before) jobId .queueTimeout now = .ok (next, failed) →
      ∃ limit, job.maxQueueDurationMs = some limit ∧ limit.toNat < queuedTime codec before jobId now := by
  intro counts
  have reads : ∃ job ∈ (fetchJob (run plainCodec [submitLimited 500, .planAndEnqueue "job" "plan" 20,
      .stageQueuedWithLease (stageRequest "job" "attempt" "lease" "node" 1), .failoverLostAttempts plainPolicy 5000])
      "job").toOption.join, job.state = .queued ∧ job.maxQueueDurationMs = some 500 := by
    decide +kernel
  have fails : (failQueued (run plainCodec [submitLimited 500, .planAndEnqueue "job" "plan" 20,
      .stageQueuedWithLease (stageRequest "job" "attempt" "lease" "node" 1), .failoverLostAttempts plainPolicy 5000])
      "job" .queueTimeout 5001).toOption.isSome := by
    decide +kernel
  have waited : queuedTime plainCodec [submitLimited 500, .planAndEnqueue "job" "plan" 20,
      .stageQueuedWithLease (stageRequest "job" "attempt" "lease" "node" 1), .failoverLostAttempts plainPolicy 5000]
      "job" 5001 = 81 := by
    decide +kernel
  obtain ⟨job, read, queued, limited⟩ := reads
  obtain ⟨⟨next, failed⟩, done⟩ := Option.isSome_iff_exists.mp fails
  have found := Except.eq_ok_of_toOption (Option.join_eq_some_iff.mp read)
  obtain ⟨limit, bound, exceeds⟩ := counts _ _ _ _ _ _ _ found queued (Except.eq_ok_of_toOption done)
  rw [limited, Option.some.injEq] at bound
  subst bound
  rw [waited] at exceeds
  exact absurd exceeds (by decide)

end Runs

end Gputeer.Coordinator
