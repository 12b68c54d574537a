import Gputeer.Coordinator.LedgerSound

/-! How far attempts have come, and how their jobs follow them. Opening the store of reports can move
attempts that the other transactions have left behind, so these results are about the others. -/

namespace Gputeer.Coordinator

open Protocol Ledger

/-- A job that is staged or runs has a latest attempt that has not ended, and the latest attempt of a
completed job has completed. -/
structure Followed (ledger : Ledger) : Prop where
  live : ∀ {id : String} {job : StoredJob}, ledger.job id = some job →
    job.state = .staging ∨ job.state = .running →
    ∃ attempt, ledger.Latest attempt ∧ attempt.jobId = id ∧
      AttemptState.ended attempt.state = false
  completed : ∀ {id : String} {job : StoredJob}, ledger.job id = some job →
    job.state = .completed →
    ∃ attempt, ledger.Latest attempt ∧ attempt.jobId = id ∧ attempt.state = .completed

/-- A job has one latest attempt. -/
theorem Sound.latest_unique {ledger : Ledger} (sound : Sound ledger) {attempt rival : StoredAttempt}
    (latest : ledger.Latest attempt) (latestRival : ledger.Latest rival)
    (sameJob : attempt.jobId = rival.jobId) : attempt = rival := by
  have below := latestRival.greatest _ _ latest.present sameJob
  have above := latest.greatest _ _ latestRival.present sameJob.symm
  have sameId := sound.distinct latest.present latestRival.present (UInt64.le_antisymm below above)
  exact Option.some.inj (latest.present.symm.trans (sameId ▸ latestRival.present))

namespace Step

variable {allowed : Allowance} {ledger next : Ledger}

/-- The state of an attempt stays, makes progress, or ends; it ends together with its job, or when
its job is not its own any more. -/
theorem attempt_state (sound : Sound ledger) (step : Step allowed ledger next) {id : String}
    {attempt moved : StoredAttempt} (there : ledger.attempt id = some attempt)
    (now : next.attempt id = some moved) :
    moved.state = attempt.state ∨
      attempt.state = .created ∧ moved.state = .starting ∨
      attempt.state = .starting ∧ moved.state = .running ∨
      AttemptState.ended moved.state = true ∧
        (AttemptState.ended attempt.state = false ∧ (¬ ledger.Current id ∨ allowed.backfills) ∨
          ∃ job, next.job attempt.jobId = some job ∧
            (job.state = .completed ∧ moved.state = .completed ∨ job.state = .failed)) := by
  have key := sound.attemptKey there
  cases step with
  | attemptMoved found progress => grind
  | attemptEnded found live ended replaced => grind
  | finished found edge latest ofJob ended outcome =>
      have present := latest.present
      have states := edge.states_of_finished
      have named := edge.jobId_eq
      grind
  | staged found edge starts resumes freshAttempt freshLease freshKey ofJob unstarted covers termed above _ =>
      grind
  | _ => exact Or.inl (congrArg StoredAttempt.state (Option.some.inj (now.symm.trans there)))

/-- The latest attempt stays the latest as long as its job does not wait for a new one. -/
theorem latest_kept (step : Step allowed ledger next)
    {attempt : StoredAttempt} (latest : ledger.Latest attempt)
    (busy : ∀ job, ledger.job attempt.jobId = some job →
      job.state ≠ .queued ∧ job.state ≠ .paused) :
    ∃ moved, next.Latest moved ∧ moved.assignment = attempt.assignment := by
  obtain ⟨moved, now, same⟩ := step.attempt_kept latest.present
  have sameId := StoredAttempt.attemptId_of_assignment same
  refine ⟨moved, ⟨sameId ▸ now, fun id other found ofJob => ?_⟩, same⟩
  rw [StoredAttempt.jobId_of_assignment same] at ofJob
  rw [StoredAttempt.fenceEpoch_of_assignment same]
  rcases step.attempt_origin found with ⟨before, there, kept⟩ | new
  · rw [StoredAttempt.fenceEpoch_of_assignment kept]
    refine latest.greatest id before there ?_
    rw [← StoredAttempt.jobId_of_assignment kept, ofJob]
  · obtain ⟨old, waited, state⟩ := new.waited
    rw [ofJob] at waited
    have := busy old waited
    tauto

/-- An attempt that was staged just now is the latest one of its job. -/
theorem latest_new (sound : Sound ledger) (step : Step allowed ledger next) {id : String}
    {attempt : StoredAttempt} (found : next.attempt id = some attempt)
    (new : StagedNow ledger next id attempt) : next.Latest attempt := by
  refine ⟨new.key.symm ▸ found, fun other rival present _ => ?_⟩
  rw [← new.counter]
  exact (step.counted_sound sound present)

/-- A job comes into a run state together with a new attempt only. -/
theorem job_runs (step : Step allowed ledger next) {id : String}
    {job : StoredJob} (now : next.job id = some job)
    (runs : job.state = .staging ∨ job.state = .running) :
    (∃ old, ledger.job id = some old ∧ (old.state = .staging ∨ old.state = .running)) ∨
      ∃ attemptId attempt, ledger.attempt attemptId = none ∧
        next.attempt attemptId = some attempt ∧ attempt.jobId = id := by
  cases step with
  | submitted fresh named start shaped => grind
  | moved found edge alone =>
      have states := edge.states_of_alone alone
      grind
  | started found edge latest ofJob shown =>
      have states := edge.states_of_started
      grind
  | finished found edge latest ofJob ended outcome =>
      have states := edge.states_of_finished
      grind
  | @staged move old new attempt lease key operation found edge starts resumes freshAttempt freshLease
      freshKey ofJob unstarted covers termed above aboveLeases =>
      have sameJob := edge.jobId_eq
      by_cases same : id = new.jobId
      · right
        exact ⟨attempt.attemptId, attempt, freshAttempt, by simp, by rw [ofJob, same, sameJob]⟩
      · left
        exact ⟨job, by simpa [same] using now, runs⟩
  | handedBack found edge handsBack latest ofJob leased covers =>
      have states := edge.states_of_handsBack handsBack
      grind
  | _ => exact Or.inl ⟨job, now, runs⟩

/-- A job completes together with its latest attempt only. -/
theorem job_completes (step : Step allowed ledger next) {id : String} {job : StoredJob}
    (now : next.job id = some job) (completed : job.state = .completed) :
    ledger.job id = some job ∨
      ∃ attempt, next.Latest attempt ∧ attempt.jobId = id ∧ attempt.state = .completed := by
  cases step with
  | submitted fresh named start shaped => grind
  | moved found edge alone =>
      have states := edge.states_of_alone alone
      grind
  | started found edge latest ofJob shown =>
      have states := edge.states_of_started
      grind
  | @finished old new attempt state found edge latest ofJob ended outcome =>
      have sameJob := edge.jobId_eq
      by_cases same : id = new.jobId
      · right
        rw [setJob_job, if_pos same, Option.some.injEq] at now
        subst now
        refine ⟨{ attempt with state }, ?_, ?_, outcome completed⟩
        · have moved := (@latest_setAttempt _ _ state latest.present).mpr latest
          exact ⟨moved.present, moved.greatest⟩
        · rw [same, sameJob, ← ofJob]
      · left
        simpa [same] using now
  | staged found edge starts resumes freshAttempt freshLease freshKey ofJob unstarted covers termed above _ =>
      have states := edge.states_of_starts starts
      grind
  | handedBack found edge handsBack latest ofJob leased covers =>
      have states := edge.states_of_handsBack handsBack
      grind
  | _ => exact Or.inl now

theorem followed_next (sound : Sound ledger) (followed : Followed ledger)
    (step : Step allowed ledger next) (ahead : ¬ allowed.backfills) : Followed next where
  live := by
    intro id job now runs
    rcases step.job_runs now runs with ⟨old, there, ran⟩ | ⟨_, attempt, fresh, found, ofJob⟩
    · obtain ⟨attempt, latest, rfl, live⟩ := followed.live there ran
      have current : ledger.Current attempt.attemptId := ⟨attempt, old, latest, rfl, there, ran⟩
      obtain ⟨moved, latestAfter, same⟩ := step.latest_kept latest (fun found present => by
        obtain rfl : old = found := Option.some.inj (there.symm.trans present)
        rcases ran with ran | ran <;> simp [ran])
      have sameJob := StoredAttempt.jobId_of_assignment same
      have sameId := StoredAttempt.attemptId_of_assignment same
      refine ⟨moved, latestAfter, sameJob, ?_⟩
      rcases step.attempt_state sound latest.present (sameId ▸ latestAfter.present) with
        kept | ⟨_, starting⟩ | ⟨_, running⟩ | ⟨_, ⟨_, left⟩ | ⟨final, finalJob, finished⟩⟩
      · rw [kept, live]
      · rw [starting]
        rfl
      · rw [running]
        rfl
      · exact absurd current (left.resolve_right ahead)
      · obtain rfl : job = final := Option.some.inj (now.symm.trans finalJob)
        grind
    · have new := (step.attempt_origin found).resolve_left (by simp [fresh])
      refine ⟨attempt, step.latest_new sound found new, ofJob, ?_⟩
      rw [new.unstarted]
      rfl
  completed := by
    intro id job now completed
    rcases step.job_completes now completed with there | found
    · obtain ⟨attempt, latest, rfl, ended⟩ := followed.completed there completed
      obtain ⟨moved, latestAfter, same⟩ := step.latest_kept latest (fun found present => by
        obtain rfl : job = found := Option.some.inj (there.symm.trans present)
        simp [completed])
      have sameId := StoredAttempt.attemptId_of_assignment same
      refine ⟨moved, latestAfter, StoredAttempt.jobId_of_assignment same, ?_⟩
      rcases step.attempt_state sound latest.present (sameId ▸ latestAfter.present) with
        kept | ⟨created, _⟩ | ⟨starting, _⟩ | ⟨_, ⟨live, _⟩ | ⟨final, finalJob, finished⟩⟩
      · rw [kept, ended]
      · exact absurd (created.symm.trans ended) (by simp)
      · exact absurd (starting.symm.trans ended) (by simp)
      · rw [ended] at live
        exact absurd live (by simp [AttemptState.ended])
      · obtain rfl : job = final := Option.some.inj (now.symm.trans finalJob)
        grind
    · exact found

section Kept

variable (step : Step allowed ledger next)

include step

theorem operation_kept {key : List UInt8} {operation : StoredOperation}
    (found : ledger.operation key = some operation) : next.operation key = some operation := by
  cases step with
  | @staged move old new attempt lease fresh other found' edge starts resumes freshAttempt freshLease
      freshKey ofJob unstarted covers termed above aboveLeases =>
      have different : key ≠ fresh := by
        rintro rfl
        exact absurd (freshKey.symm.trans found) (by simp)
      simpa [Function.update_apply, different] using found
  | _ => exact found

theorem manifested_kept {jobId : String} (found : jobId ∈ ledger.manifested) :
    jobId ∈ next.manifested := by
  cases step with
  | manifested => exact Set.mem_insert_of_mem _ found
  | _ => exact found

theorem reported_origin {report : String × List UInt8} (stored : report ∈ next.reported) :
    report ∈ ledger.reported ∨ report ∈ allowed.reports := by
  cases step with
  | reported given =>
      rcases stored with rfl | before
      · exact Or.inr given
      · exact Or.inl before
  | _ => exact Or.inl stored

end Kept

/-- A lease that was not there was staged with its attempt, unless the caller made it. -/
theorem lease_origin (sound : Sound ledger) (step : Step allowed ledger next) {id : String}
    {lease : StoredLease} (now : next.lease id = some lease) :
    (∃ before, ledger.lease id = some before ∧ before.Kept allowed lease) ∨ allowed.issues ∨
      lease.Termed ∧ ∃ attempt, next.attempt attempt.attemptId = some attempt ∧
        lease.Covers attempt := by
  cases there : ledger.lease id with
  | some before =>
      obtain ⟨changed, found, kept⟩ := step.lease_kept sound there
      obtain rfl : changed = lease := Option.some.inj (found.symm.trans now)
      exact Or.inl ⟨before, rfl, kept⟩
  | none =>
      right
      cases step with
      | @staged _ _ _ attempt fresh _ _ found edge starts resumes freshAttempt freshLease freshKey ofJob
          unstarted covers termed above aboveLeases =>
          right
          by_cases same : id = fresh.leaseId
          · obtain rfl : fresh = lease := by
              simpa [same] using now
            exact ⟨termed, attempt, by simp, covers⟩
          · simp [same, there] at now
      | leaseIssued fresh issues => exact Or.inl issues
      | leaseChanged found live same grace term =>
          have sameId := StoredLease.leaseId_of_identity same
          grind
      | handedBack found edge handsBack latest ofJob leased covers => grind
      | _ => exact absurd (there.symm.trans now) (by simp)

/-- An attempt that is the latest after the step, and was there before, was the latest then. -/
theorem latest_before (sound : Sound ledger) (step : Step allowed ledger next)
    {attempt before : StoredAttempt} (latest : next.Latest attempt)
    (there : ledger.attempt attempt.attemptId = some before) :
    ledger.Latest before ∧ attempt.assignment = before.assignment := by
  obtain ⟨moved, now, same⟩ := step.attempt_kept there
  obtain rfl : moved = attempt := Option.some.inj (now.symm.trans latest.present)
  have key := sound.attemptKey there
  refine ⟨⟨key.symm ▸ there, fun id other found ofJob => ?_⟩, same⟩
  obtain ⟨later, nowLater, sameLater⟩ := step.attempt_kept found
  have bound := latest.greatest id later nowLater
  grind

end Step

/-- A job runs on an attempt that has not shown progress yet only where the attempt was staged for it
while it was paused, and such an attempt never leaves its job in staging. -/
structure Shown (resumed : Set String) (ledger : Ledger) : Prop where
  running : ∀ {attempt : StoredAttempt} {job : StoredJob}, ledger.Latest attempt →
    ledger.job attempt.jobId = some job → job.state = .running → attempt.state ≠ .running →
    AttemptState.ended attempt.state = false → attempt.attemptId ∈ resumed
  resumed : ∀ {attempt : StoredAttempt} {job : StoredJob}, ledger.Latest attempt →
    ledger.job attempt.jobId = some job → attempt.attemptId ∈ resumed → job.state ≠ .staging

namespace Step

variable {allowed : Allowance} {ledger next : Ledger} {resumed : Set String}

/-- The job of an attempt that was there before: in a run state it was in the same one, or the
attempt has just shown progress. -/
theorem job_before (sound : Sound ledger) (step : Step allowed ledger next) (pool : ¬ allowed.acks)
    {attempt before : StoredAttempt} {job : StoredJob} (latest : next.Latest attempt)
    (there : ledger.attempt attempt.attemptId = some before)
    (now : next.job attempt.jobId = some job)
    (runs : job.state = .staging ∨ job.state = .running) :
    ∃ old, ledger.job attempt.jobId = some old ∧
      (old.state = job.state ∨ job.state = .running ∧ attempt.state = .running) := by
  obtain ⟨latestBefore, same⟩ := step.latest_before sound latest there
  have sameJob := StoredAttempt.jobId_of_assignment same
  obtain ⟨old, oldJob, _⟩ := sound.placed there
  rw [← sameJob] at oldJob
  have key := (sound.job oldJob).1
  refine ⟨old, oldJob, ?_⟩
  cases step with
  | submitted fresh named start shaped => grind
  | moved found edge alone =>
      have states := edge.states_of_alone alone
      grind
  | @started running started last found edge latestThen ofJob shown =>
      have states := edge.states_of_started
      have named := edge.jobId_eq
      by_cases ownJob : attempt.jobId = running.jobId
      · right
        obtain rfl : attempt = before := Option.some.inj (latest.present.symm.trans there)
        obtain rfl : attempt = last :=
          sound.latest_unique latestBefore latestThen (ownJob.trans ofJob.symm)
        rw [setJob_job, if_pos (ownJob.trans named.symm), Option.some.injEq] at now
        exact ⟨now ▸ states.2, shown.resolve_right pool⟩
      · left
        grind
  | finished found edge latestThen ofJob ended outcome =>
      have states := edge.states_of_finished
      grind
  | @staged _ _ _ fresh _ _ _ found edge starts _ freshAttempt _ _ ofJob _ covers termed above _ =>
      have bound := latest.greatest fresh.attemptId fresh (by simp)
      have low := sound.counted there
      have named := edge.jobId_eq
      grind
  | handedBack found edge handsBack latestThen ofJob leased covers =>
      have states := edge.states_of_handsBack handsBack
      grind
  | _ => grind

/-- The attempt that is the latest and was not there before has just been staged. -/
theorem job_started (step : Step allowed ledger next)
    {attempt : StoredAttempt} {job : StoredJob} (latest : next.Latest attempt)
    (fresh : ledger.attempt attempt.attemptId = none)
    (now : next.job attempt.jobId = some job) :
    job.state = .staging ∧ attempt.attemptId ∉ allowed.resumes ∨
      job.state = .running ∧ attempt.attemptId ∈ allowed.resumes := by
  have present := latest.present
  cases step with
  | attemptMoved found progress => grind
  | attemptEnded found live ended replaced => grind
  | finished found edge latestThen ofJob ended outcome =>
      have presentThen := latestThen.present
      grind
  | staged found edge starts resumes freshAttempt freshLease freshKey ofJob unstarted covers termed above _ =>
      have named := edge.jobId_eq
      rcases starts with rfl | rfl
      · have state : job.state = .staging := by
          cases edge with
          | staged before counted => grind
        grind
      · have state : job.state = .running := by
          cases edge with
          | resumed before counted => grind
        grind
  | _ => exact absurd (fresh.symm.trans present) (by simp)

theorem shown_next (sound : Sound ledger) (shown : Shown resumed ledger)
    (step : Step allowed ledger next) (pool : ¬ allowed.acks)
    (settled : ∀ id, ledger.attempt id = none → (id ∈ resumed ↔ id ∈ allowed.resumes)) :
    Shown resumed next where
  running := by
    intro attempt job latest now running unshown live
    cases there : ledger.attempt attempt.attemptId with
    | none =>
        rcases step.job_started latest there now with ⟨staging, _⟩ | ⟨_, resumes⟩
        · exact absurd (staging.symm.trans running) (by simp)
        · exact (settled _ there).mpr resumes
    | some before =>
        obtain ⟨old, oldJob, same | ⟨_, shows⟩⟩ :=
          step.job_before sound pool latest there now (Or.inr running)
        · obtain ⟨latestBefore, assigned⟩ := step.latest_before sound latest there
          have sameId := StoredAttempt.attemptId_of_assignment assigned
          rw [StoredAttempt.jobId_of_assignment assigned] at oldJob
          rw [sameId]
          have states := step.attempt_state sound there latest.present
          refine shown.running latestBefore oldJob (same.trans running) ?_ ?_
          · rintro ran
            rcases states with kept | ⟨created, _⟩ | ⟨starting, _⟩ | ⟨ended, _⟩
            · exact unshown (kept.trans ran)
            · exact absurd (created.symm.trans ran) (by simp)
            · exact absurd (starting.symm.trans ran) (by simp)
            · exact absurd (ended.symm.trans live) (by simp)
          · rcases states with kept | ⟨created, _⟩ | ⟨starting, _⟩ | ⟨ended, _⟩
            · rw [← kept, live]
            · rw [created]
              rfl
            · rw [starting]
              rfl
            · exact absurd (ended.symm.trans live) (by simp)
        · exact absurd shows unshown
  resumed := by
    intro attempt job latest now resumes staging
    cases there : ledger.attempt attempt.attemptId with
    | none =>
        rcases step.job_started latest there now with ⟨_, other⟩ | ⟨running, _⟩
        · exact other ((settled _ there).mp resumes)
        · exact absurd (staging.symm.trans running) (by simp)
    | some before =>
        obtain ⟨old, oldJob, same | ⟨running, _⟩⟩ :=
          step.job_before sound pool latest there now (Or.inl staging)
        · obtain ⟨latestBefore, assigned⟩ := step.latest_before sound latest there
          rw [StoredAttempt.jobId_of_assignment assigned] at oldJob
          rw [StoredAttempt.attemptId_of_assignment assigned] at resumes
          exact shown.resumed latestBefore oldJob resumes (same.trans staging)
        · exact absurd (staging.symm.trans running) (by simp)

end Step

namespace Steps

variable {allowed : Allowance} {ledger next : Ledger} {resumed : Set String}

theorem followed (steps : Steps allowed ledger next) (sound : Sound ledger)
    (follows : Followed ledger) (ahead : ¬ allowed.backfills) : Followed next :=
  (steps.relate Followed follows
    (fun soundMiddle followsMiddle step => step.followed_next soundMiddle followsMiddle ahead)
    sound).1

theorem operation_kept (steps : Steps allowed ledger next) (sound : Sound ledger)
    {key : List UInt8} {operation : StoredOperation}
    (found : ledger.operation key = some operation) : next.operation key = some operation :=
  (steps.relate (fun last => last.operation key = some operation) found
    (fun _ there step => step.operation_kept there) sound).1

theorem manifested_kept (steps : Steps allowed ledger next) (sound : Sound ledger)
    {jobId : String} (found : jobId ∈ ledger.manifested) : jobId ∈ next.manifested :=
  (steps.relate (fun last => jobId ∈ last.manifested) found
    (fun _ there step => step.manifested_kept there) sound).1

theorem reported_origin (steps : Steps allowed ledger next) (sound : Sound ledger)
    {report : String × List UInt8} (stored : report ∈ next.reported) :
    report ∈ ledger.reported ∨ report ∈ allowed.reports := by
  refine (steps.relate (fun last => report ∈ last.reported →
    report ∈ ledger.reported ∨ report ∈ allowed.reports) Or.inl ?_ sound).1 stored
  intro middle last _ origin step after
  exact (step.reported_origin after).elim origin Or.inr

theorem lease_origin (steps : Steps allowed ledger next) (sound : Sound ledger) {id : String}
    {lease : StoredLease} (now : next.lease id = some lease) (staging : ¬ allowed.issues) :
    (∃ before, ledger.lease id = some before ∧ before.Kept allowed lease) ∨
      ∃ staged : StoredLease, staged.Termed ∧ staged.Kept allowed lease ∧
        ∃ attempt, next.attempt attempt.attemptId = some attempt ∧ lease.Covers attempt := by
  refine (steps.relate (fun last => ∀ lease, last.lease id = some lease →
    (∃ before, ledger.lease id = some before ∧ before.Kept allowed lease) ∨
      ∃ staged : StoredLease, staged.Termed ∧ staged.Kept allowed lease ∧
        ∃ attempt, last.attempt attempt.attemptId = some attempt ∧ lease.Covers attempt)
    (fun lease there => Or.inl ⟨lease, there, StoredLease.Kept.refl _ _⟩) ?_ sound).1 lease now
  intro middle last soundMiddle origin step lease found
  rcases step.lease_origin soundMiddle found with ⟨before, there, kept⟩ | issues | ⟨termed, staged⟩
  · rcases origin before there with
      ⟨first, present, keptFirst⟩ | ⟨staged, termed, keptStaged, attempt, placed, covers⟩
    · exact Or.inl ⟨first, present, keptFirst.trans kept⟩
    · obtain ⟨moved, now, same⟩ := step.attempt_kept placed
      refine Or.inr ⟨staged, termed, keptStaged.trans kept, moved, ?_, covers.congr kept.identity same⟩
      rw [StoredAttempt.attemptId_of_assignment same]
      exact now
  · exact absurd issues staging
  · exact Or.inr ⟨lease, termed, StoredLease.Kept.refl _ _, staged⟩

/-- An attempt never goes back to the state it was created in. -/
theorem created_before (steps : Steps allowed ledger next) (sound : Sound ledger) {id : String}
    {before attempt : StoredAttempt} (there : ledger.attempt id = some before)
    (now : next.attempt id = some attempt) (created : attempt.state = .created) :
    before.state = .created := by
  have history := (steps.relate (fun last => ∃ later, last.attempt id = some later ∧
    (later.state = .created → before.state = .created)) ⟨before, there, fun same => same⟩ ?_ sound).1
  · obtain ⟨later, nowLater, kept⟩ := history
    obtain rfl : later = attempt := Option.some.inj (nowLater.symm.trans now)
    exact kept created
  · rintro middle last soundMiddle ⟨later, present, kept⟩ step
    obtain ⟨moved, nowMoved, _⟩ := step.attempt_kept present
    refine ⟨moved, nowMoved, fun same => kept ?_⟩
    rcases step.attempt_state soundMiddle present nowMoved with
      stays | ⟨_, starting⟩ | ⟨_, running⟩ | ⟨ended, _⟩
    · exact stays.symm.trans same
    · exact absurd (same.symm.trans starting) (by simp)
    · exact absurd (same.symm.trans running) (by simp)
    · rw [same] at ended
      exact absurd ended (by simp [AttemptState.ended])

theorem shown (steps : Steps allowed ledger next) (sound : Sound ledger)
    (shows : Shown resumed ledger) (pool : ¬ allowed.acks)
    (settled : ∀ id, ledger.attempt id = none → (id ∈ resumed ↔ id ∈ allowed.resumes)) :
    Shown resumed next := by
  refine (steps.relate (fun last => Shown resumed last ∧ ∀ id, last.attempt id = none →
    (id ∈ resumed ↔ id ∈ allowed.resumes)) ⟨shows, settled⟩ ?_ sound).1.1
  rintro middle last soundMiddle ⟨showsMiddle, settledMiddle⟩ step
  refine ⟨step.shown_next soundMiddle showsMiddle pool settledMiddle, fun id absent => ?_⟩
  cases there : middle.attempt id with
  | none => exact settledMiddle id there
  | some before =>
      obtain ⟨_, now, _⟩ := step.attempt_kept there
      exact absurd (absent.symm.trans now) (by simp)

end Steps

end Gputeer.Coordinator
