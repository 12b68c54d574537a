import Gputeer.Coordinator.Ledger

/-! Every step keeps the rows of a ledger in agreement. A new attempt gets a lease only after the
job was queued again or paused, which revoked the lease of the attempt before it. -/

namespace Gputeer.Coordinator

open Protocol Text Ledger

namespace JobEdge

variable {move : JobMove} {old new : StoredJob}

theorem states_of_alone (edge : JobEdge move old new) (alone : move.alone) :
    old.state = .submitted ∧ new.state = .planning ∨ old.state = .planning ∧ new.state = .queued ∨
      old.state = .queued ∧ new.state = .failed := by
  cases edge <;> simp_all [JobMove.alone]

theorem states_of_started (edge : JobEdge .started old new) :
    old.state = .staging ∧ new.state = .running := by
  cases edge with
  | started before counted => exact ⟨before, rfl⟩

theorem states_of_finished (edge : JobEdge .finished old new) :
    (old.state = .staging ∨ old.state = .running) ∧
      (new.state = .completed ∨ new.state = .failed) := by
  cases edge with
  | finished before walked moved outcome counted =>
      exact ⟨before, outcome.imp And.left And.left⟩

theorem states_of_handsBack (edge : JobEdge move old new) (handsBack : move.handsBack) :
    (old.state = .staging ∨ old.state = .running) ∧
      (new.state = .queued ∨ new.state = .paused ∨ new.state = .failed) := by
  cases edge with
  | requeued before filled recounted counted =>
      rcases before with before | ⟨before, _⟩ <;> simp [before]
  | _ => simp_all [JobMove.handsBack]

theorem states_of_starts (edge : JobEdge move old new)
    (starts : move = .staged ∨ move = .resumed) :
    (old.state = .queued ∨ old.state = .paused) ∧
      (new.state = .staging ∨ new.state = .running) := by
  cases edge <;> simp_all

/-- A job that has been queued is never planned again. -/
theorem entered (edge : JobEdge move old new)
    (placed : old.state ≠ .submitted ∧ old.state ≠ .planning) :
    new.state ≠ .submitted ∧ new.state ≠ .planning := by
  cases edge with
  | finished before walked moved outcome counted =>
      rcases outcome with ⟨completed, _⟩ | ⟨failed, _⟩ <;> simp_all
  | _ => simp_all

end JobEdge

attribute [grind →] JobEdge.jobId_eq JobEdge.wellShaped

/-- What may become of a lease: it keeps its identity, a revoked one does not change at all, the grace
is never lowered, and the expiry is the old one or one that the transaction gives. -/
structure StoredLease.Kept (allowed : Allowance) (lease changed : StoredLease) : Prop where
  identity : changed.identity = lease.identity
  frozen : lease.revokedAtUnixMs ≠ none → changed = lease
  grace : lease.reassignmentGraceMs ≤ changed.reassignmentGraceMs
  term : changed.expiresAtUnixMs = lease.expiresAtUnixMs ∨
    (lease.leaseId, changed.expiresAtUnixMs) ∈ allowed.renews

namespace StoredLease.Kept

variable {allowed : Allowance} {lease changed later : StoredLease}

theorem refl (allowed : Allowance) (lease : StoredLease) : lease.Kept allowed lease where
  identity := rfl
  frozen := fun _ => rfl
  grace := UInt64.le_refl _
  term := Or.inl rfl

theorem trans (first : lease.Kept allowed changed) (second : changed.Kept allowed later) :
    lease.Kept allowed later where
  identity := second.identity.trans first.identity
  frozen := by
    intro revoked
    obtain rfl := first.frozen revoked
    exact second.frozen revoked
  grace := UInt64.le_trans first.grace second.grace
  term := by
    have sameId := StoredLease.leaseId_of_identity first.identity
    rcases second.term with same | given
    · exact same ▸ first.term
    · exact Or.inr (sameId ▸ given)

theorem revokedAt (allowed : Allowance) (lease : StoredLease) (atUnixMs : UInt64) :
    lease.Kept allowed (lease.revokedAt atUnixMs) where
  identity := rfl
  frozen := lease.revokedAt_of_revoked atUnixMs
  grace := UInt64.le_refl _
  term := Or.inl rfl

end StoredLease.Kept

/-- An attempt that the step staged: the only new one, above every epoch given out before, with a
lease of its own, for a job that was waiting. -/
structure StagedNow (ledger next : Ledger) (id : String) (attempt : StoredAttempt) : Prop where
  fresh : ledger.attempt id = none
  key : attempt.attemptId = id
  unstarted : attempt.state = .created
  freshLease : ledger.lease attempt.leaseId = none
  above : ledger.counter < attempt.fenceEpoch
  counter : next.counter = attempt.fenceEpoch
  aboveLeases : ∀ {leaseId : String} {other : StoredLease}, ledger.lease leaseId = some other →
    other.fenceEpoch < attempt.fenceEpoch
  covered : ∃ lease, next.lease attempt.leaseId = some lease ∧ lease.Covers attempt
  waited : ∃ old, ledger.job attempt.jobId = some old ∧
    (old.state = .queued ∨ old.state = .paused)
  started : ∃ new, next.job attempt.jobId = some new ∧
    (new.state = .staging ∨ new.state = .running)
  only : ∀ {other : String} {rival : StoredAttempt}, ledger.attempt other = none →
    next.attempt other = some rival → other = id

namespace Step

variable {allowed : Allowance} {ledger next : Ledger}

section Frame

/-- A job that is there stays, and changes along an edge only. -/
theorem job_kept (sound : Sound ledger) (step : Step allowed ledger next) {id : String}
    {old : StoredJob} (found : ledger.job id = some old) :
    ∃ new, next.job id = some new ∧ (new = old ∨ ∃ move, JobEdge move old new) := by
  have key := (sound.job found).1
  cases step with
  | submitted fresh named start shaped => grind
  | moved found edge alone => grind
  | started found edge latest ofJob shown => grind
  | finished found edge latest ofJob ended outcome => grind
  | staged found edge starts resumes freshAttempt freshLease freshKey ofJob unstarted covers termed above _ =>
      grind
  | handedBack found edge handsBack latest ofJob leased covers => grind
  | _ => exact ⟨old, found, Or.inl rfl⟩

/-- A job that was not there has just been submitted. -/
theorem job_new (sound : Sound ledger) (step : Step allowed ledger next) {id : String}
    {job : StoredJob} (fresh : ledger.job id = none) (found : next.job id = some job) :
    job.state = .submitted := by
  have key := fun {id : String} {job : StoredJob} => @sound.job id job
  cases step with
  | submitted free named start shaped => grind
  | moved before edge alone => grind
  | started before edge latest ofJob shown => grind
  | finished before edge latest ofJob ended outcome => grind
  | staged before edge starts resumes freshAttempt freshLease freshKey ofJob unstarted covers termed above _ =>
      grind
  | handedBack before edge handsBack latest ofJob leased covers => grind
  | _ => exact absurd (fresh.symm.trans found) (by simp)

/-- An attempt that is there stays, and changes its state only. -/
theorem attempt_kept (step : Step allowed ledger next) {id : String} {attempt : StoredAttempt}
    (found : ledger.attempt id = some attempt) :
    ∃ moved, next.attempt id = some moved ∧ moved.assignment = attempt.assignment := by
  cases step with
  | attemptMoved there progress => grind [StoredAttempt.assignment]
  | attemptEnded there live ended replaced => grind [StoredAttempt.assignment]
  | finished there edge latest ofJob ended outcome =>
      have present := latest.present
      grind [StoredAttempt.assignment]
  | staged there edge starts resumes freshAttempt freshLease freshKey ofJob unstarted covers termed above _ =>
      grind
  | _ => exact ⟨attempt, found, rfl⟩

theorem lease_kept (sound : Sound ledger) (step : Step allowed ledger next) {id : String}
    {lease : StoredLease} (found : ledger.lease id = some lease) :
    ∃ changed, next.lease id = some changed ∧ lease.Kept allowed changed := by
  have key := sound.leaseKey found
  have itself := StoredLease.Kept.refl allowed lease
  cases step with
  | leaseIssued fresh issues => grind
  | @leaseChanged old new before live same grace term =>
      have changes : old.Kept allowed new :=
        ⟨same, fun revoked => absurd live revoked, grace, term⟩
      have sameId := StoredLease.leaseId_of_identity same
      grind
  | staged before edge starts resumes freshAttempt freshLease freshKey ofJob unstarted covers termed above _ =>
      grind
  | @handedBack _ _ _ _ held atUnixMs before edge handsBack latest ofJob leased covers =>
      have revokes := StoredLease.Kept.revokedAt allowed held atUnixMs
      grind
  | _ => exact ⟨lease, found, itself⟩

theorem counter_le (step : Step allowed ledger next) : ledger.counter ≤ next.counter := by
  cases step with
  | staged found edge starts resumes freshAttempt freshLease freshKey ofJob unstarted covers termed above _ =>
      exact UInt64.le_of_lt above
  | _ => exact UInt64.le_refl _

/-- Where an attempt comes from. -/
theorem attempt_origin (step : Step allowed ledger next) {id : String} {attempt : StoredAttempt}
    (found : next.attempt id = some attempt) :
    (∃ before, ledger.attempt id = some before ∧ attempt.assignment = before.assignment) ∨
      StagedNow ledger next id attempt := by
  cases step with
  | attemptMoved there progress => grind [StoredAttempt.assignment]
  | attemptEnded there live ended replaced => grind [StoredAttempt.assignment]
  | finished there edge latest ofJob ended outcome =>
      have present := latest.present
      grind [StoredAttempt.assignment]
  | staged started edge starts resumes freshAttempt freshLease freshKey ofJob unstarted covers termed above
      aboveLeases =>
      have states := edge.states_of_starts starts
      have key := covers.leaseId
      by_cases new : ledger.attempt id = none
      · right
        constructor <;> grind
      · grind
  | _ => exact Or.inl ⟨attempt, found, rfl⟩

end Frame

section Kept

variable (sound : Sound ledger) (step : Step allowed ledger next)

include sound step

theorem job_sound {id : String} {job : StoredJob} (found : next.job id = some job) :
    job.jobId = id ∧ isBlank id = false ∧ job.WellShaped := by
  have kept := fun {id : String} {job : StoredJob} => @sound.job id job
  cases step with
  | submitted fresh named start shaped => grind
  | moved before edge alone => grind
  | started before edge latest ofJob shown => grind
  | finished before edge latest ofJob ended outcome => grind
  | staged before edge starts resumes freshAttempt freshLease freshKey ofJob unstarted covers termed above _ =>
      grind
  | handedBack before edge handsBack latest ofJob leased covers => grind
  | _ => exact kept found

theorem leaseKey_sound {id : String} {lease : StoredLease} (found : next.lease id = some lease) :
    lease.leaseId = id := by
  have kept := fun {id : String} {lease : StoredLease} => @sound.leaseKey id lease
  cases step with
  | leaseIssued fresh issues => grind
  | leaseChanged before live same grace term => grind [StoredLease.identity]
  | staged before edge starts resumes freshAttempt freshLease freshKey ofJob unstarted covers termed above _ =>
      grind
  | handedBack before edge handsBack latest ofJob leased covers => grind
  | _ => exact kept found

theorem attemptKey_sound {id : String} {attempt : StoredAttempt}
    (found : next.attempt id = some attempt) : attempt.attemptId = id := by
  rcases step.attempt_origin found with ⟨before, there, same⟩ | new
  · rw [← sound.attemptKey there]
    exact StoredAttempt.attemptId_of_assignment same
  · exact new.key

theorem covered_sound {id : String} {attempt : StoredAttempt}
    (found : next.attempt id = some attempt) :
    ∃ lease, next.lease attempt.leaseId = some lease ∧ lease.Covers attempt := by
  rcases step.attempt_origin found with ⟨before, there, same⟩ | new
  · obtain ⟨lease, leased, covers⟩ := sound.covered there
    obtain ⟨changed, now, kept⟩ := step.lease_kept sound leased
    have named := StoredAttempt.leaseId_of_assignment same
    exact ⟨changed, named ▸ now, covers.congr kept.identity same⟩
  · exact new.covered

theorem placed_sound {id : String} {attempt : StoredAttempt}
    (found : next.attempt id = some attempt) :
    ∃ job, next.job attempt.jobId = some job ∧ job.state ≠ .submitted ∧
      job.state ≠ .planning := by
  rcases step.attempt_origin found with ⟨before, there, same⟩ | staged
  · obtain ⟨old, oldJob, entered⟩ := sound.placed there
    obtain ⟨new, newJob, moved⟩ := step.job_kept sound oldJob
    have ofJob := StoredAttempt.jobId_of_assignment same
    refine ⟨new, ofJob ▸ newJob, ?_⟩
    rcases moved with rfl | ⟨move, edge⟩
    · exact entered
    · exact edge.entered entered
  · obtain ⟨new, now, state⟩ := staged.started
    refine ⟨new, now, ?_⟩
    rcases state with state | state <;> simp [state]

theorem counted_sound {id : String} {attempt : StoredAttempt}
    (found : next.attempt id = some attempt) : attempt.fenceEpoch ≤ next.counter := by
  rcases step.attempt_origin found with ⟨before, there, same⟩ | new
  · rw [StoredAttempt.fenceEpoch_of_assignment same]
    exact UInt64.le_trans (sound.counted there) step.counter_le
  · exact UInt64.le_of_eq new.counter.symm

theorem numbered_sound {id : String} {attempt : StoredAttempt}
    (found : next.attempt id = some attempt) : 0 < attempt.fenceEpoch := by
  rcases step.attempt_origin found with ⟨before, there, same⟩ | new
  · rw [StoredAttempt.fenceEpoch_of_assignment same]
    exact sound.numbered there
  · exact UInt64.lt_of_le_of_lt (UInt64.zero_le) new.above

theorem distinct_sound {id other : String} {attempt rival : StoredAttempt}
    (found : next.attempt id = some attempt) (foundRival : next.attempt other = some rival)
    (same : attempt.fenceEpoch = rival.fenceEpoch) : id = other := by
  rcases step.attempt_origin found with ⟨before, there, kept⟩ | new <;>
    rcases step.attempt_origin foundRival with ⟨rivalBefore, rivalThere, rivalKept⟩ | rivalNew
  · refine sound.distinct there rivalThere ?_
    rw [← StoredAttempt.fenceEpoch_of_assignment kept,
      ← StoredAttempt.fenceEpoch_of_assignment rivalKept, same]
  · have low := sound.counted there
    have high := rivalNew.above
    rw [← StoredAttempt.fenceEpoch_of_assignment kept] at low
    grind
  · have low := sound.counted rivalThere
    have high := new.above
    rw [← StoredAttempt.fenceEpoch_of_assignment rivalKept] at low
    grind
  · exact rivalNew.only new.fresh found

/-- The lease of an attempt that was revoked before is the same afterwards. -/
theorem revoked_kept {id : String} {before attempt : StoredAttempt} {lease : StoredLease}
    (there : ledger.attempt id = some before)
    (same : attempt.assignment = before.assignment)
    (revoked : ∀ {old : StoredLease}, ledger.lease before.leaseId = some old →
      old.revokedAtUnixMs ≠ none)
    (found : next.lease attempt.leaseId = some lease) : lease.revokedAtUnixMs ≠ none := by
  obtain ⟨old, leased, _⟩ := sound.covered there
  obtain ⟨changed, now, kept⟩ := step.lease_kept sound leased
  rw [StoredAttempt.leaseId_of_assignment same, now, Option.some.injEq] at found
  rw [← found, kept.frozen (revoked leased)]
  exact revoked leased

theorem superseded_sound {id other : String} {attempt rival : StoredAttempt}
    {lease : StoredLease} (found : next.attempt id = some attempt)
    (foundRival : next.attempt other = some rival) (ofJob : attempt.jobId = rival.jobId)
    (later : attempt.fenceEpoch < rival.fenceEpoch)
    (leased : next.lease attempt.leaseId = some lease) : lease.revokedAtUnixMs ≠ none := by
  rcases step.attempt_origin found with ⟨before, there, kept⟩ | new <;>
    rcases step.attempt_origin foundRival with ⟨rivalBefore, rivalThere, rivalKept⟩ | rivalNew
  · refine step.revoked_kept sound there kept (fun old => ?_) leased
    refine sound.superseded there rivalThere ?_ ?_ old
    · grind
    · grind
  -- the rival was staged just now, so the job of both was waiting
  · refine step.revoked_kept sound there kept (fun old => ?_) leased
    obtain ⟨job, waited, state⟩ := rivalNew.waited
    refine sound.waiting there ?_ state old
    rw [← StoredAttempt.jobId_of_assignment kept, ofJob, waited]
  · have low := sound.counted rivalThere
    have high := new.above
    rw [← StoredAttempt.fenceEpoch_of_assignment rivalKept] at low
    grind
  · have same := new.counter.symm.trans rivalNew.counter
    grind

theorem waiting_sound {id : String} {attempt : StoredAttempt} {job : StoredJob}
    {lease : StoredLease} (found : next.attempt id = some attempt)
    (ofJob : next.job attempt.jobId = some job) (state : job.state = .queued ∨ job.state = .paused)
    (leased : next.lease attempt.leaseId = some lease) : lease.revokedAtUnixMs ≠ none := by
  rcases step.attempt_origin found with ⟨before, there, kept⟩ | new
  · have sameJob := StoredAttempt.jobId_of_assignment kept
    obtain ⟨old, oldJob, entered⟩ := sound.placed there
    have unmoved : old = job → lease.revokedAtUnixMs ≠ none := by
      rintro rfl
      exact step.revoked_kept sound there kept (sound.waiting there oldJob state) leased
    have key := (sound.job oldJob).1
    have superseded : ∀ {other : String} {rival : StoredAttempt},
        ledger.attempt other = some rival → before.jobId = rival.jobId →
        before.fenceEpoch < rival.fenceEpoch → lease.revokedAtUnixMs ≠ none :=
      fun present same later => step.revoked_kept sound there kept
        (sound.superseded there present same later) leased
    cases step with
    | submitted fresh named start shaped => grind
    | moved started edge alone =>
        have states := edge.states_of_alone alone
        grind
    | started before edge latest ofJob shown =>
        have states := edge.states_of_started
        grind
    | finished before edge latest ofJob ended outcome =>
        have states := edge.states_of_finished
        grind
    | staged started edge starts resumes freshAttempt freshLease freshKey ofJob unstarted covers
        above aboveLeases =>
        have states := edge.states_of_starts starts
        grind
    | @handedBack _ _ _ last held _ started edge handsBack latest lastJob covered covers =>
        by_cases other : before.jobId = last.jobId
        · rcases UInt64.lt_or_eq_of_le (latest.greatest id before there other) with later | same
          · exact superseded latest.present other later
          -- the attempt is the latest one, whose lease the step revokes
          · have itself : id = last.attemptId := sound.distinct there latest.present same
            have present := latest.present
            have named := covers.leaseId
            grind
        · grind
    | _ => grind
  · obtain ⟨started, now, running⟩ := new.started
    rw [now, Option.some.injEq] at ofJob
    grind

theorem reserved_sound {nodeId : String} {reservation : StoredNodeReservation}
    (found : next.reservation nodeId = some reservation) : reservation.nodeId = nodeId ∧
      ∃ attempt, next.attempt reservation.attemptId = some attempt ∧
        attempt.jobId = reservation.jobId ∧ attempt.nodeIds = [nodeId] := by
  have there : (∃ before, ledger.reservation nodeId = some before ∧
      before.nodeId = reservation.nodeId ∧ before.attemptId = reservation.attemptId ∧
      before.jobId = reservation.jobId) ∨
    reservation.nodeId = nodeId ∧ ∃ attempt, ledger.attempt reservation.attemptId = some attempt ∧
        attempt.jobId = reservation.jobId ∧ attempt.nodeIds = [nodeId] := by
    cases step with
    | reserved free bound ofJob onNode => grind
    | released before freed ended => grind
    | suspected before => grind
    | _ => exact Or.inl ⟨reservation, found, rfl, rfl, rfl⟩
  have named : reservation.nodeId = nodeId ∧
      ∃ attempt, ledger.attempt reservation.attemptId = some attempt ∧
        attempt.jobId = reservation.jobId ∧ attempt.nodeIds = [nodeId] := by
    rcases there with ⟨before, old, sameNode, sameAttempt, sameJob⟩ | new
    · rw [← sameNode, ← sameAttempt, ← sameJob]
      exact sound.reserved old
    · exact new
  obtain ⟨key, attempt, bound, ofJob, onNode⟩ := named
  obtain ⟨moved, now, same⟩ := step.attempt_kept bound
  refine ⟨key, moved, now, ?_, ?_⟩
  · rw [StoredAttempt.jobId_of_assignment same, ofJob]
  · rw [StoredAttempt.nodeIds_of_assignment same, onNode]

theorem sound_next : Sound next where
  job := step.job_sound sound
  attemptKey := step.attemptKey_sound sound
  leaseKey := step.leaseKey_sound sound
  covered := step.covered_sound sound
  placed := step.placed_sound sound
  counted := step.counted_sound sound
  numbered := step.numbered_sound sound
  distinct := step.distinct_sound sound
  superseded := step.superseded_sound sound
  waiting := step.waiting_sound sound
  reserved := step.reserved_sound sound

end Kept

section Reservations

/-- A reservation stays, but for the mark, unless the transaction may delete it and its attempt has
ended. -/
theorem reservation_kept (step : Step allowed ledger next) {nodeId : String}
    {reservation : StoredNodeReservation} (found : ledger.reservation nodeId = some reservation)
    (held : reservation.attemptId ∉ allowed.frees ∨
      ¬ ledger.Reported reservation.attemptId ∧ ledger.Current reservation.attemptId) :
    ∃ kept, next.reservation nodeId = some kept ∧ kept.unmarked = reservation.unmarked := by
  cases step with
  | reserved free bound ofJob onNode => grind
  | released before freed ended => grind
  | suspected before => grind [StoredNodeReservation.unmarked]
  | _ => exact ⟨reservation, found, rfl⟩

theorem reported_kept (step : Step allowed ledger next) {id : String}
    (reported : ledger.Reported id) : next.Reported id := by
  obtain ⟨body, stored⟩ := reported
  cases step with
  | reported given => exact ⟨body, Set.mem_insert_of_mem _ stored⟩
  | _ => exact ⟨body, stored⟩

/-- An attempt never becomes current again. -/
theorem current_before (sound : Sound ledger) (step : Step allowed ledger next) {id : String}
    {attempt : StoredAttempt} (there : ledger.attempt id = some attempt)
    (current : next.Current id) : ledger.Current id := by
  obtain ⟨last, job, latest, key, ofJob, state⟩ := current
  have itself : ledger.attempt last.attemptId = some attempt := key ▸ there
  obtain ⟨moved, now, same⟩ := step.attempt_kept itself
  obtain rfl : moved = last := Option.some.inj (now.symm.trans latest.present)
  have sameJob := StoredAttempt.jobId_of_assignment same
  have named := sound.attemptKey itself
  have greatest : ∀ (other : String) (rival : StoredAttempt), ledger.attempt other = some rival →
      rival.jobId = attempt.jobId → rival.fenceEpoch ≤ attempt.fenceEpoch := by
    intro other rival present ofSameJob
    obtain ⟨later, presentLater, sameRival⟩ := step.attempt_kept present
    have bound := latest.greatest other later presentLater
    grind
  have running : ∀ old : StoredJob, ledger.job attempt.jobId = some old →
      old.state = .staging ∨ old.state = .running → ledger.Current id := by
    intro old oldJob oldState
    exact ⟨attempt, old, ⟨named ▸ itself, greatest⟩, named.trans key, oldJob, oldState⟩
  obtain ⟨old, oldJob, _⟩ := sound.placed itself
  have oldKey := (sound.job oldJob).1
  cases step with
  | submitted fresh named start shaped => grind
  | moved started edge alone =>
      have states := edge.states_of_alone alone
      grind
  | started before edge latest ofJob shown =>
      have states := edge.states_of_started
      grind
  | finished before edge latest ofJob ended outcome =>
      have states := edge.states_of_finished
      grind
  | @staged _ _ _ fresh _ _ _ started edge starts _ freshAttempt _ _ ofJob _ covers termed above _ =>
      have bound := latest.greatest fresh.attemptId fresh (by simp)
      have low := sound.counted itself
      grind
  | handedBack started edge handsBack lastBefore lastJob leased covers =>
      have states := edge.states_of_handsBack handsBack
      grind
  | _ => grind

theorem holds (sound : Sound ledger) (step : Step allowed ledger next)
    {reservation : StoredNodeReservation} (held : ledger.Holds reservation) :
    next.Holds reservation := by
  obtain ⟨⟨attempt, present⟩, kept⟩ := held
  obtain ⟨moved, presentAfter, _⟩ := step.attempt_kept present
  refine ⟨⟨moved, presentAfter⟩, fun current unreported => ?_⟩
  have currentBefore := step.current_before sound present current
  have unreportedBefore : ¬ ledger.Reported reservation.attemptId :=
    fun reported => unreported (step.reported_kept reported)
  obtain ⟨before, there, same⟩ := kept currentBefore unreportedBefore
  rw [← StoredNodeReservation.attemptId_of_unmarked same] at unreportedBefore currentBefore
  obtain ⟨after, now, sameAfter⟩ :=
    step.reservation_kept there (Or.inr ⟨unreportedBefore, currentBefore⟩)
  exact ⟨after, now, sameAfter.trans same⟩

end Reservations

end Step

/-- The steps of one transaction, or of several. -/
abbrev Steps (allowed : Allowance) : Ledger → Ledger → Prop :=
  Relation.ReflTransGen (Step allowed)

namespace Steps

variable {allowed : Allowance} {ledger next : Ledger}

/-- A relation between ledgers holds along all steps when it is reflexive and each step of a sound
ledger carries it on. -/
theorem relate (Related : Ledger → Prop) (start : Related ledger)
    (onward : ∀ {middle last : Ledger}, Sound middle → Related middle → Step allowed middle last →
      Related last)
    (sound : Sound ledger) (steps : Steps allowed ledger next) : Related next ∧ Sound next := by
  induction steps with
  | refl => exact ⟨start, sound⟩
  | tail _ step ih => exact ⟨onward ih.2 ih.1 step, step.sound_next ih.2⟩

theorem sound_next (steps : Steps allowed ledger next) (sound : Sound ledger) : Sound next :=
  (steps.relate (fun _ => True) trivial (fun _ _ _ => trivial) sound).2

theorem job_kept (steps : Steps allowed ledger next) (sound : Sound ledger) {id : String}
    {old : StoredJob} (found : ledger.job id = some old) :
    ∃ new, next.job id = some new ∧ (new = old ∨ JobFollows old new) := by
  refine (steps.relate
    (fun last => ∃ new, last.job id = some new ∧ (new = old ∨ JobFollows old new))
    ⟨old, found, Or.inl rfl⟩ ?_ sound).1
  rintro middle last soundMiddle ⟨new, there, followed⟩ step
  obtain ⟨newer, now, moved⟩ := step.job_kept soundMiddle there
  exact ⟨newer, now, JobFollows.onward (soundMiddle.job there).2.2 followed moved⟩

/-- A job that was not there is one that was submitted, moved on since or not. -/
theorem job_origin (steps : Steps allowed ledger next) (sound : Sound ledger) {id : String}
    {job : StoredJob} (fresh : ledger.job id = none) (found : next.job id = some job) :
    ∃ start, start.state = .submitted ∧ (job = start ∨ JobFollows start job) := by
  have history := steps.relate (fun last => ∀ later, last.job id = some later →
    ∃ start, start.state = .submitted ∧ (later = start ∨ JobFollows start later))
    (fun later there => absurd (fresh.symm.trans there) (by simp)) ?_ sound
  · exact history.1 job found
  intro middle last soundMiddle origin step newer now
  cases there : middle.job id with
  | none => exact ⟨newer, step.job_new soundMiddle there now, Or.inl rfl⟩
  | some old =>
      obtain ⟨start, submitted, followed⟩ := origin old there
      obtain ⟨moved, nowMoved, moves⟩ := step.job_kept soundMiddle there
      obtain rfl : moved = newer := Option.some.inj (nowMoved.symm.trans now)
      exact ⟨start, submitted, JobFollows.onward (soundMiddle.job there).2.2 followed moves⟩

theorem attempt_kept (steps : Steps allowed ledger next) (sound : Sound ledger) {id : String}
    {attempt : StoredAttempt} (found : ledger.attempt id = some attempt) :
    ∃ moved, next.attempt id = some moved ∧ moved.assignment = attempt.assignment := by
  refine (steps.relate
    (fun last => ∃ moved, last.attempt id = some moved ∧ moved.assignment = attempt.assignment)
    ⟨attempt, found, rfl⟩ ?_ sound).1
  rintro middle last _ ⟨moved, there, same⟩ step
  obtain ⟨later, now, sameLater⟩ := step.attempt_kept there
  exact ⟨later, now, sameLater.trans same⟩

theorem lease_kept (steps : Steps allowed ledger next) (sound : Sound ledger) {id : String}
    {lease : StoredLease} (found : ledger.lease id = some lease) :
    ∃ changed, next.lease id = some changed ∧ lease.Kept allowed changed := by
  refine (steps.relate
    (fun last => ∃ changed, last.lease id = some changed ∧ lease.Kept allowed changed)
    ⟨lease, found, StoredLease.Kept.refl allowed lease⟩ ?_ sound).1
  rintro middle last soundMiddle ⟨changed, there, kept⟩ step
  obtain ⟨later, now, keptLater⟩ := step.lease_kept soundMiddle there
  exact ⟨later, now, kept.trans keptLater⟩

/-- An attempt that was not there got an epoch above the counter and above every lease. -/
theorem attempt_new (steps : Steps allowed ledger next) (sound : Sound ledger) {id : String}
    {attempt : StoredAttempt} (fresh : ledger.attempt id = none)
    (found : next.attempt id = some attempt) :
    ledger.counter < attempt.fenceEpoch ∧
      ∀ (leaseId : String) (lease : StoredLease), ledger.lease leaseId = some lease →
        lease.fenceEpoch < attempt.fenceEpoch := by
  have history := steps.relate (fun last => ledger.counter ≤ last.counter ∧
    (∀ (leaseId : String) (lease : StoredLease), ledger.lease leaseId = some lease →
      ∃ changed, last.lease leaseId = some changed ∧ changed.fenceEpoch = lease.fenceEpoch) ∧
    ∀ staged, last.attempt id = some staged → ledger.counter < staged.fenceEpoch ∧
      ∀ (leaseId : String) (lease : StoredLease), ledger.lease leaseId = some lease →
        lease.fenceEpoch < staged.fenceEpoch)
    ⟨UInt64.le_refl _, fun _ lease there => ⟨lease, there, rfl⟩,
      fun staged there => absurd (fresh.symm.trans there) (by simp)⟩ ?_ sound
  · exact history.1.2.2 attempt found
  rintro middle last soundMiddle ⟨counter, leases, staged⟩ step
  refine ⟨UInt64.le_trans counter step.counter_le, ?_, ?_⟩
  · intro leaseId lease there
    obtain ⟨changed, now, same⟩ := leases leaseId lease there
    obtain ⟨later, nowLater, kept⟩ := step.lease_kept soundMiddle now
    have epoch := StoredLease.fenceEpoch_of_identity kept.identity
    exact ⟨later, nowLater, epoch.trans same⟩
  · intro newer there
    rcases step.attempt_origin there with ⟨before, thereBefore, same⟩ | new
    · rw [StoredAttempt.fenceEpoch_of_assignment same]
      exact staged before thereBefore
    · refine ⟨UInt64.lt_of_le_of_lt counter new.above, fun leaseId lease present => ?_⟩
      obtain ⟨changed, now, same⟩ := leases leaseId lease present
      exact same ▸ new.aboveLeases now

theorem reservation_kept (steps : Steps allowed ledger next) (sound : Sound ledger)
    {nodeId : String} {reservation : StoredNodeReservation}
    (found : ledger.reservation nodeId = some reservation)
    (held : reservation.attemptId ∉ allowed.frees) :
    ∃ kept, next.reservation nodeId = some kept ∧ kept.unmarked = reservation.unmarked := by
  refine (steps.relate (fun last => ∃ kept, last.reservation nodeId = some kept ∧
    kept.unmarked = reservation.unmarked) ⟨reservation, found, rfl⟩ ?_ sound).1
  rintro middle last _ ⟨kept, there, same⟩ step
  have sameAttempt : kept.attemptId = reservation.attemptId :=
    StoredNodeReservation.attemptId_of_unmarked same
  obtain ⟨later, now, sameLater⟩ := step.reservation_kept there (Or.inl (sameAttempt ▸ held))
  exact ⟨later, now, sameLater.trans same⟩

theorem holds (steps : Steps allowed ledger next) (sound : Sound ledger)
    {reservation : StoredNodeReservation} (held : ledger.Holds reservation) :
    next.Holds reservation :=
  (steps.relate (fun last => last.Holds reservation) held
    (fun soundMiddle heldMiddle step => step.holds soundMiddle heldMiddle) sound).1

end Steps

end Gputeer.Coordinator
