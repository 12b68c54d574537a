import Gputeer.Coordinator.StagingRefinement
import Gputeer.Coordinator.ReportStore

/-! The transactions that end, take over, pause or release an attempt are steps of the ledger. -/

namespace Gputeer.Coordinator

open Protocol Text ControlDb

variable {codec : Codec} {db next : ControlDb} {allowed : Allowance}

section Release

theorem fetchNodeReservation_eq_ok {nodeId : String} {reservation : StoredNodeReservation}
    (found : fetchNodeReservation db nodeId = .ok (some reservation)) :
    db.ledger.reservation nodeId = some reservation := by
  unfold fetchNodeReservation at found
  change db.nodeReservations[nodeId]? = some reservation
  cases row : db.nodeReservations[nodeId]? with
  | none => simp [row, Except.onSome] at found
  | some stored =>
      simp only [row, Except.onSome, Except.map_eq_ok, readReservation, Except.bind_eq_ok,
        Except.ok.injEq, Option.some.injEq] at found
      obtain ⟨_, ⟨_, _, _, _, _, _, rfl⟩, rfl⟩ := found
      rfl

theorem fetchReportBinding_reported {attemptId nodeId : String}
    {binding : StoredAttemptReportBinding}
    (found : fetchReportBinding codec db attemptId nodeId = .ok (some binding)) :
    db.ledger.Reported attemptId := by
  unfold fetchReportBinding fetchReportRow at found
  cases row : db.attemptReports.find?
      (fun row => row.attemptId = attemptId ∧ row.nodeId = nodeId) with
  | none =>
      rw [row] at found
      simp [Except.onSome] at found
  | some stored =>
      have matched := List.find?_some row
      simp only [decide_eq_true_eq] at matched
      exact ⟨stored.reportBody, stored, List.mem_of_find?_eq_some row,
        congrArg (fun id => (id, stored.reportBody)) matched.1⟩

theorem deleteReservation_eq_some {nodeId attemptId : String}
    (done : deleteReservation db nodeId attemptId = some next) :
    next = { db with nodeReservations := db.nodeReservations.erase nodeId } := by
  unfold deleteReservation at done
  split at done
  · split at done
    · exact (Option.some.inj done).symm
    · cases done
  · cases done

theorem erase_ledger (db : ControlDb) (nodeId : String) :
    { db with nodeReservations := db.nodeReservations.erase nodeId : ControlDb }.ledger =
      db.ledger.setReservation nodeId none := by
  ext1
  case reservation =>
    funext id
    by_cases same : nodeId = id
    · simp [ledger, same]
    · have other : ¬ id = nodeId := fun equal => same equal.symm
      simp [ledger, Table.lookup_erase, same, other]
  all_goals rfl

/-- A reservation is deleted, with what else is recorded about it. -/
theorem ControlDb.Intact.released (intact : db.Intact) {nodeId attemptId : String}
    {deleted : ControlDb} {reservation : StoredNodeReservation}
    (found : db.ledger.reservation nodeId = some reservation)
    (freed : reservation.attemptId ∈ allowed.frees)
    (ended : db.ledger.Reported reservation.attemptId ∨
      ¬ db.ledger.Current reservation.attemptId)
    (deletes : deleteReservation db nodeId attemptId = some deleted)
    (jobs : next.jobs = deleted.jobs) (same : next.ledger = deleted.ledger) :
    Refines allowed db next := by
  obtain rfl := deleteReservation_eq_some deletes
  refine intact.single jobs ?_
  rw [same, erase_ledger]
  exact Step.released found freed ended

theorem releaseNew_refines (intact : db.Intact) {verified : Verified AttemptReport}
    {reportHash : ManifestHash} {releasedAtUnixMs : UInt64} {outcome : ReleaseOutcome}
    (freed : verified.inner.attemptId ∈ allowed.frees)
    (done : releaseNew codec db verified reportHash releasedAtUnixMs = .ok (next, outcome)) :
    Refines allowed db next := by
  simp only [releaseNew, checkReservationOwner, Except.bind_eq_ok, Except.mapError_eq_ok,
    Except.ofOption_eq_ok, Except.ensure_eq_ok, Except.ok.injEq, Prod.mk.injEq] at done
  obtain ⟨_, evidence, binding, rfl, _, _, _, reserved, reservation, rfl, _, ⟨_, owner, _⟩,
    deleted, deletes, rfl, _⟩ := done
  have reported := fetchReportBinding_reported evidence
  refine intact.released (fetchNodeReservation_eq_ok reserved) ?_ ?_ deletes rfl rfl
  · rw [owner]
    exact freed
  · rw [owner]
    exact Or.inl reported

theorem releaseWithinTransaction_refines (intact : db.Intact) {verified : Verified AttemptReport}
    {authorization : ReleaseAuthorization} {releasedAtUnixMs : UInt64} {outcome : ReleaseOutcome}
    (freed : verified.inner.attemptId ∈ allowed.frees)
    (done : releaseWithinTransaction codec db verified authorization releasedAtUnixMs =
      .ok (next, outcome)) : Refines allowed db next := by
  simp only [releaseWithinTransaction, Except.bind_eq_ok] at done
  obtain ⟨_, _, _, _, _, _, _, _, done⟩ := done
  cases existing : db.reservationReleases[verified.inner.attemptId]? with
  | some release =>
      simp only [existing, Except.bind_eq_ok, Except.ok.injEq, Prod.mk.injEq] at done
      obtain ⟨_, _, rfl, _⟩ := done
      exact intact.refl
  | none =>
      simp only [existing] at done
      exact releaseNew_refines intact freed done

end Release

section ResumePoint

/-- An empty body is the default manifest, which names no job. -/
theorem trustedPoint_body {policy : FailoverPolicy} {root : SharedRoot}
    {jobId checkpointId : String} {body : List UInt8} {nowUnixMs : UInt64} {point : ResumePoint}
    (named : jobId ≠ "")
    (found : trustedPoint codec db policy root jobId checkpointId body nowUnixMs =
      .ok (some point)) : point.body ≠ [] := by
  unfold trustedPoint at found
  split at found
  · simp at found
  · next manifest decoded =>
    dsimp only at found
    rcases ite_eq_iff.mp found with ⟨_, nothing⟩ | ⟨skipped, found⟩
    · simp at nothing
    · simp only [Except.bind_eq_ok] at found
      obtain ⟨attempt, _, found⟩ := found
      rcases attempt with _ | attempt
      · simp at found
      · rcases ite_eq_iff.mp found with ⟨_, nothing⟩ | ⟨_, found⟩
        · simp at nothing
        · rcases ite_eq_iff.mp found with ⟨_, nothing⟩ | ⟨_, found⟩
          · simp at nothing
          · obtain rfl := Option.some.inj (Except.ok.inj found)
            rintro rfl
            rw [codec.decodeCheckpointManifest_nil, Option.some.injEq] at decoded
            subst decoded
            exact skipped (Or.inr (Or.inr fun same => named same.symm))

theorem betterPoint_body {best : Option ResumePoint} {point chosen : ResumePoint}
    (filled : ∀ held ∈ best, held.body ≠ []) (new : point.body ≠ [])
    (better : betterPoint best point = some chosen) : chosen.body ≠ [] := by
  unfold betterPoint at better
  split at better
  · obtain rfl := Option.some.inj better
    exact new
  · next held =>
    split at better
    · obtain rfl := Option.some.inj better
      exact new
    · obtain rfl := Option.some.inj better
      exact filled held rfl

theorem bestPoint_body {policy : FailoverPolicy} {root : SharedRoot} {jobId : String}
    {nowUnixMs : UInt64} (named : jobId ≠ "") (listed : List (String × List UInt8))
    {best : Option ResumePoint} {point : ResumePoint} (filled : ∀ held ∈ best, held.body ≠ [])
    (found : bestPoint codec db policy root jobId nowUnixMs best listed = .ok (some point)) :
    point.body ≠ [] := by
  induction listed generalizing best with
  | nil =>
      obtain rfl := Except.ok.inj found
      exact filled point rfl
  | cons entry rest ih =>
      obtain ⟨checkpointId, body⟩ := entry
      simp only [bestPoint, Except.bind_eq_ok] at found
      obtain ⟨trusted, read, found⟩ := found
      cases trusted with
      | none => exact ih filled found
      | some candidate =>
          refine ih ?_ found
          intro held chosen
          exact betterPoint_body filled (trustedPoint_body named read) chosen

theorem findResumePoint_body {policy : FailoverPolicy} {jobId : String} {nowUnixMs : UInt64}
    {listErrorAsNone : Bool} {resume : Option ResumePoint} (named : jobId ≠ "")
    (found : findResumePoint codec db policy jobId nowUnixMs listErrorAsNone = .ok resume) :
    resume.map (·.body) ≠ some [] := by
  cases resume with
  | none => simp
  | some point =>
      have filled : point.body ≠ [] := by
        unfold findResumePoint at found
        split at found
        · simp at found
        · split at found
          · split at found <;> simp at found
          · exact bestPoint_body named _ (by simp) found
      simpa using filled

end ResumePoint

section HandBack

theorem requeueAfterNodeLost_edge {job updated : StoredJob} {resume : Option (List UInt8)}
    {nowUnixMs : UInt64} (filled : resume ≠ some [])
    (done : requeueAfterNodeLost db job resume nowUnixMs = .ok (next, updated)) :
    ∃ move, JobEdge move job updated ∧ move.handsBack ∧ updateJob db updated = .ok next := by
  simp only [requeueAfterNodeLost, Except.bind_eq_ok, Except.mapError_eq_ok] at done
  obtain ⟨path, lost, state, walked, done⟩ := done
  have source : (job.state = .staging ∧ state = .queued) ∨
      (job.state = .running ∧ resume.isSome ∧ state = .queued) ∨
      (job.state = .running ∧ state = .failed) := by
    unfold nodeLostPath at lost
    split at lost
    · next before =>
      obtain rfl := Except.ok.inj lost
      rw [before] at walked
      exact Or.inl ⟨before, (Except.ok.inj walked).symm⟩
    · next before present =>
      obtain rfl := Except.ok.inj lost
      rw [before] at walked
      exact Or.inr (Or.inl ⟨before, present, (Except.ok.inj walked).symm⟩)
    · next before absent =>
      obtain rfl := Except.ok.inj lost
      rw [before] at walked
      exact Or.inr (Or.inr ⟨before, (Except.ok.inj walked).symm⟩)
    · cases lost
  split at done
  · next queued =>
    subst queued
    simp only [Except.bind_eq_ok, countUp_eq_ok, commitJob_eq_ok] at done
    obtain ⟨requeueCount, recounted, revision, counted, writes, rfl⟩ := done
    refine ⟨.requeued, JobEdge.requeued ?_ filled recounted counted, rfl, writes⟩
    grind
  · simp only [Except.bind_eq_ok, countUp_eq_ok, commitJob_eq_ok] at done
    obtain ⟨revision, counted, writes, rfl⟩ := done
    obtain ⟨before, rfl⟩ : job.state = .running ∧ state = .failed := by grind
    exact ⟨.abandoned, JobEdge.abandoned before counted, rfl, writes⟩

theorem pauseJobForOwnerPreempt_edge {job updated : StoredJob} {resume : Option (List UInt8)}
    (running : job.state = .running) (filled : resume ≠ some [])
    (done : pauseJobForOwnerPreempt db job resume = .ok (next, updated)) :
    JobEdge .paused job updated ∧ updateJob db updated = .ok next := by
  simp only [pauseJobForOwnerPreempt, Except.bind_eq_ok, Except.mapError_eq_ok,
    jobTransition_eq_ok, countUp_eq_ok, commitJob_eq_ok] at done
  obtain ⟨state, ⟨rfl, _⟩, requeueCount, recounted, revision, counted, writes, rfl⟩ := done
  exact ⟨JobEdge.paused running filled recounted counted, writes⟩

/-- The job leaves its latest attempt, whose lease is revoked in the same commit. -/
theorem ControlDb.Intact.handedBack (intact : db.Intact) {move : JobMove} {old new : StoredJob}
    {attempt : StoredAttempt} {atUnixMs : UInt64} {moved revoked : ControlDb}
    (found : db.ledger.job old.jobId = some old) (edge : JobEdge move old new)
    (handsBack : move.handsBack) (latest : db.ledger.Latest attempt)
    (ofJob : attempt.jobId = old.jobId) (writes : updateJob db new = .ok moved)
    (revokes : revokeWithin moved attempt.leaseId atUnixMs = .ok revoked)
    (jobs : next.jobs = revoked.jobs) (same : next.ledger = revoked.ledger) :
    Refines allowed db next := by
  have shaped := edge.wellShaped (intact.sound.job found).2.2
  obtain rfl := intact.readable.updateJob_eq_ok found edge writes
  obtain ⟨lease, leased, covers⟩ := intact.sound.covered latest.present
  simp only [revokeWithin, Except.bind_eq_ok, Except.ofOption_eq_ok, Except.ok.injEq] at revokes
  obtain ⟨stored, read, rfl⟩ := revokes
  obtain rfl : stored = lease := Option.some.inj (read.symm.trans leased)
  have named : attempt.leaseId = (stored.revokedAt atUnixMs).leaseId := covers.leaseId.symm
  constructor
  · intro id row there
    rw [jobs] at there
    exact intact.readable.withJob shaped id row there
  · refine Relation.ReflTransGen.single ?_
    rw [same, named, writeLease_ledger, withJob_ledger shaped]
    exact Step.handedBack found edge handsBack latest ofJob (covers.leaseId ▸ leased) covers

/-- The attempt the query names, read from its row. -/
theorem ControlDb.Intact.latest_of_fetch (intact : db.Intact) {jobId attemptId : String}
    {attempt : StoredAttempt} (query : latestAttemptForJob db jobId = some attemptId)
    (found : fetchAttempt db attemptId = .ok (some attempt)) :
    db.ledger.Latest attempt ∧ attempt.jobId = jobId := by
  obtain ⟨last, latest, rfl, ofJob⟩ := intact.latestAttemptForJob_iff.mp query
  obtain rfl : last = attempt :=
    Option.some.inj (latest.present.symm.trans (fetchAttempt_eq_ok found))
  exact ⟨latest, ofJob⟩

end HandBack

section Failover

theorem takeOver_refines (intact : db.Intact) {policy : FailoverPolicy} {job : StoredJob}
    {attempt : StoredAttempt} {nowUnixMs : UInt64} {outcome : FailoverOutcome}
    (found : db.ledger.job job.jobId = some job) (latest : db.ledger.Latest attempt)
    (ofJob : attempt.jobId = job.jobId)
    (done : takeOver codec db policy job attempt nowUnixMs = .ok (next, outcome)) :
    Refines allowed db next := by
  have named := ne_empty_of_not_isBlank (intact.sound.job found).2.1
  simp only [takeOver, Except.bind_eq_ok, Except.mapError_eq_ok, Except.ok.injEq,
    Prod.mk.injEq] at done
  obtain ⟨resume, resumes, ⟨moved, updated⟩, requeues, revoked, revokes, rfl, _⟩ := done
  have filled : resume.map (·.body) ≠ some [] := by
    unfold lostResumePoint at resumes
    split at resumes
    · exact findResumePoint_body named resumes
    · obtain rfl := Except.ok.inj resumes
      simp
  obtain ⟨move, edge, handsBack, writes⟩ := requeueAfterNodeLost_edge filled requeues
  have first : Refines allowed db revoked :=
    intact.handedBack found edge handsBack latest ofJob writes revokes rfl rfl
  split
  · exact first
  · exact first.trans (markReservationExpired_refines (intact.after first) _ _)

theorem failoverJob_refines (intact : db.Intact) {policy : FailoverPolicy} {jobId : String}
    {nowUnixMs : UInt64} {outcome : Option FailoverOutcome}
    (done : failoverJob codec db policy jobId nowUnixMs = .ok (next, outcome)) :
    Refines allowed db next := by
  simp only [failoverJob, intact.readable.fetchJob_eq, Except.bind_eq_ok,
    Except.mapError_eq_ok, Except.ok.injEq] at done
  obtain ⟨_, rfl, done⟩ := done
  cases found : db.ledger.job jobId with
  | none =>
      simp only [found, Except.ok.injEq, Prod.mk.injEq] at done
      exact done.1 ▸ intact.refl
  | some job =>
      obtain rfl := (intact.sound.job found).1
      simp only [found] at done
      split at done
      · exact (Prod.mk.inj (Except.ok.inj done)).1 ▸ intact.refl
      · split at done
        · exact (Prod.mk.inj (Except.ok.inj done)).1 ▸ intact.refl
        · next attemptId query =>
          simp only [Except.bind_eq_ok, Except.mapError_eq_ok, Except.ofOption_eq_ok] at done
          obtain ⟨_, read, attempt, rfl, lost, _, done⟩ := done
          cases lost with
          | none => exact (Prod.mk.inj (Except.ok.inj done)).1 ▸ intact.refl
          | some lease =>
              simp only [Except.bind_eq_ok, Except.ok.injEq, Prod.mk.injEq] at done
              obtain ⟨⟨moved, _⟩, takes, rfl, _⟩ := done
              obtain ⟨latest, ofJob⟩ := intact.latest_of_fetch query read
              exact takeOver_refines intact found latest ofJob takes

/-- Every transaction of the loop is a sequence of steps, whether the loop ends early or not. -/
theorem failoverEach_refines {policy : FailoverPolicy} {nowUnixMs : UInt64}
    (listed : List StoredJob) (intact : db.Intact) :
    Refines allowed db (failoverEach codec policy nowUnixMs db listed).1 := by
  induction listed generalizing db with
  | nil => exact intact.refl
  | cons job rest ih =>
      unfold failoverEach
      split
      · exact intact.refl
      · next next outcome done =>
        have first : Refines allowed db next := failoverJob_refines intact done
        exact first.trans (ih (intact.after first))

theorem failoverLostAttempts_refines (intact : db.Intact) {policy : FailoverPolicy}
    {nowUnixMs : UInt64} : Refines allowed db (failoverLostAttempts codec db policy nowUnixMs).1 := by
  unfold failoverLostAttempts
  split
  · exact intact.refl
  · exact failoverEach_refines _ intact

/-- The attempt of a reservation that an operator may release is not the current one. -/
theorem ControlDb.Intact.not_current_of_mayReleaseLost (intact : db.Intact) {nodeId : String}
    {reservation : StoredNodeReservation} {job : StoredJob}
    (reserved : db.ledger.reservation nodeId = some reservation)
    (ofJob : db.ledger.job reservation.jobId = some job)
    (may : mayReleaseLost db reservation job = true) :
    ¬ db.ledger.Current reservation.attemptId := by
  rintro ⟨attempt, running, latest, key, found, state⟩
  obtain ⟨_, bound, there, sameJob, _⟩ := intact.sound.reserved reserved
  rw [← key] at there
  obtain rfl : attempt = bound := Option.some.inj (latest.present.symm.trans there)
  have query := intact.latestAttemptForJob_iff.mpr ⟨attempt, latest, key, sameJob⟩
  rw [sameJob, ofJob, Option.some.injEq] at found
  subst found
  simp only [mayReleaseLost, query, decide_eq_true_eq] at may
  grind

theorem releaseLostNodeByOperator_refines (intact : db.Intact)
    {nodeId operatorStatement : String} {nowUnixMs : UInt64} {release : OperatorRelease}
    (freed : release.attemptId ∈ allowed.frees)
    (done : releaseLostNodeByOperator db nodeId operatorStatement nowUnixMs =
      .ok (next, release)) : Refines allowed db next := by
  simp only [releaseLostNodeByOperator, intact.readable.fetchJob_eq, insertOperatorRelease,
    Except.bind_eq_ok, Except.mapError_eq_ok, Except.ofOption_eq_ok, Except.ensure_eq_ok,
    Except.ok.injEq, Prod.mk.injEq] at done
  obtain ⟨_, _, _, read, reservation, rfl, _, rfl, job, ofJob, _, may, deleted, deletes, recorded,
    ⟨_, _, rfl⟩, rfl, rfl⟩ := done
  have reserved := fetchNodeReservation_eq_ok read
  exact intact.released reserved freed
    (Or.inr (intact.not_current_of_mayReleaseLost reserved ofJob may)) deletes rfl rfl

theorem pauseForOwnerPreemptWithin_refines (intact : db.Intact)
    {jobId attemptId nodeId : String} {policy : FailoverPolicy} {nowUnixMs : UInt64}
    {line : Option String}
    (done : pauseForOwnerPreemptWithin codec db jobId attemptId nodeId policy nowUnixMs =
      .ok (next, line)) : Refines allowed db next := by
  simp only [pauseForOwnerPreemptWithin, intact.readable.fetchJob_eq, Except.bind_eq_ok,
    Except.mapError_eq_ok, Except.ok.injEq] at done
  obtain ⟨_, rfl, done⟩ := done
  cases found : db.ledger.job jobId with
  | none =>
      simp only [found, Except.ok.injEq, Prod.mk.injEq] at done
      exact done.1 ▸ intact.refl
  | some job =>
      obtain ⟨rfl, filledId, _⟩ := intact.sound.job found
      simp only [found] at done
      split at done
      · exact (Prod.mk.inj (Except.ok.inj done)).1 ▸ intact.refl
      · next running =>
        split at done
        · exact (Prod.mk.inj (Except.ok.inj done)).1 ▸ intact.refl
        · next query =>
          simp only [Except.bind_eq_ok, Except.ok.injEq, Prod.mk.injEq, preempt,
            Except.mapError_eq_ok, Except.ofOption_eq_ok] at done
          obtain ⟨resume, resumes, preempted, ⟨⟨paused, updated⟩, pauses, _, read, attempt, rfl,
            revoked, revokes, rfl⟩, rfl, _⟩ := done
          have filled := findResumePoint_body (ne_empty_of_not_isBlank filledId) resumes
          obtain ⟨edge, writes⟩ := pauseJobForOwnerPreempt_edge (not_not.mp running) filled pauses
          have written := intact.readable.updateJob_eq_ok found edge writes
          have readBefore : fetchAttempt db attemptId = .ok (some attempt) := by
            rw [written] at read
            exact read
          obtain ⟨latest, ofJob⟩ := intact.latest_of_fetch (not_not.mp query) readBefore
          exact intact.handedBack found edge rfl latest ofJob writes revokes rfl rfl

end Failover

section Reports

theorem terminalOf_outcome {lastFrom finalTo : JobState} {terminal : RunTerminal}
    (decided : terminalOf lastFrom finalTo = .ok terminal) :
    finalTo = .completed ∧ terminal = .attemptCompleted ∨
      finalTo = .failed ∧ terminal ≠ .attemptCompleted := by
  unfold terminalOf at decided
  split at decided
  · obtain rfl := Except.ok.inj decided
    exact Or.inl ⟨rfl, rfl⟩
  · obtain rfl := Except.ok.inj decided
    exact Or.inr ⟨rfl, by simp⟩
  · obtain rfl := Except.ok.inj decided
    exact Or.inr ⟨rfl, by simp⟩
  · cases decided

/-- The end of an attempt either leaves the job alone, because the attempt is not the current one,
or finishes it. -/
theorem ControlDb.Intact.followAttemptTerminal_eq_ok (intact : db.Intact)
    {jobId attemptId : String} {attemptFinal : AttemptState} {attemptRan : Bool}
    {finishedAtUnixMs : UInt64} {moved : Option StoredJob}
    (ended : AttemptState.ended attemptFinal = true)
    (done : followAttemptTerminal db jobId attemptId attemptFinal attemptRan finishedAtUnixMs =
      .ok (next, moved)) :
    fetchCurrentJob db jobId attemptId = .ok none ∧ next = db ∨
      ∃ job new, fetchCurrentJob db jobId attemptId = .ok (some job) ∧
        JobEdge .finished job new ∧ (new.state = .completed → attemptFinal = .completed) ∧
        updateJob db new = .ok next := by
  simp only [followAttemptTerminal, Except.bind_eq_ok] at done
  obtain ⟨current, found, done⟩ := done
  cases current with
  | none => exact Or.inl ⟨found, (Prod.mk.inj (Except.ok.inj done)).1.symm⟩
  | some job =>
      obtain ⟨there, runs, _⟩ := intact.fetchCurrentJob_eq_ok found
      right
      dsimp only at done
      obtain ⟨path, follows, final⟩ : ∃ path, terminalPath attemptFinal attemptRan = some path ∧
          (path = [.running, .completed] ∧ attemptFinal = .completed ∨
            path = [.running, .failed] ∨ path = [.failed]) := by
        cases attemptFinal <;> simp_all [AttemptState.ended] <;> cases attemptRan <;>
          simp [terminalPath]
      simp only [follows] at done
      obtain ⟨remaining, shortened, last⟩ : ∃ remaining,
          (if job.state = .running ∧ path.head? = some .running then path.tail else path) =
            remaining ∧
          (remaining.getLast? = some .completed ∧ attemptFinal = .completed ∨
            remaining.getLast? = some .failed) := by
        refine ⟨_, rfl, ?_⟩
        rcases final with ⟨rfl, completed⟩ | rfl | rfl <;> split <;> simp_all
      rw [shortened] at done
      obtain ⟨finalTo, lastIs⟩ : ∃ finalTo, remaining.getLast? = some finalTo := by
        rcases last with ⟨last, _⟩ | last <;> exact ⟨_, last⟩
      simp only [lastIs, Except.bind_eq_ok, Except.mapError_eq_ok, countUp_eq_ok, Except.ok.injEq,
        Prod.mk.injEq] at done
      obtain ⟨terminal, decided, reached, walked, state, landedVia, revision, counted, written,
        writes, rfl, _⟩ := done
      have landed := jobTransition_of_via landedVia
      rw [← jobWalk_end walked] at landed
      have whole : jobWalk job.state (remaining.dropLast ++ [finalTo]) = .ok state :=
        jobWalk_trans walked (by rw [jobWalk, landed]; rfl)
      obtain ⟨rfl, _⟩ := jobTransition_eq_ok.mp landed
      refine ⟨job, _, found,
        JobEdge.finished runs whole (by simp) (terminalOf_outcome decided) counted, ?_, writes⟩
      intro completed
      rcases last with ⟨_, same⟩ | failed
      · exact same
      · rw [lastIs, Option.some.injEq] at failed
        exact absurd (failed.symm.trans completed) (by simp)

/-- Where no job is found for the attempt, it is not the current one. -/
theorem ControlDb.Intact.not_current_of_fetchCurrentJob (intact : db.Intact)
    {jobId attemptId : String} {attempt : StoredAttempt}
    (present : db.ledger.attempt attemptId = some attempt) (ofJob : attempt.jobId = jobId)
    (absent : fetchCurrentJob db jobId attemptId = .ok none) :
    ¬ db.ledger.Current attemptId := by
  rintro ⟨last, job, latest, rfl, found, state⟩
  obtain rfl : last = attempt := Option.some.inj (latest.present.symm.trans present)
  subst ofJob
  have query := intact.latestAttemptForJob_iff.mpr ⟨last, latest, rfl, rfl⟩
  simp only [fetchCurrentJob, intact.readable.fetchJob_eq, found, Except.bind_eq_ok,
    Except.ok.injEq, Except.ofOption_eq_ok] at absent
  obtain ⟨_, rfl, current, same, absent⟩ := absent
  obtain rfl := Option.some.inj same
  rw [if_neg (by tauto), if_neg (by simp [query])] at absent
  simp at absent

theorem ended_of_terminalStateFor {report : AttemptReport} {target : AttemptState}
    (proves : terminalStateFor report = some target) : AttemptState.ended target = true := by
  unfold terminalStateFor at proves
  split at proves
  · obtain rfl := Option.some.inj proves
    rfl
  · obtain rfl := Option.some.inj proves
    rfl
  · obtain rfl := Option.some.inj proves
    rfl
  · obtain rfl := Option.some.inj proves
    rfl
  · obtain rfl := Option.some.inj proves
    rfl
  · cases proves

/-- No path leads out of the states in which a report leaves an attempt. -/
theorem normativePath_ended {source target : AttemptState} {observed : Bool}
    {path : List AttemptState} (ended : AttemptState.ended target = true)
    (found : normativePath source target observed = some path) :
    AttemptState.ended source = false ∧ attemptWalk source path = .ok target := by
  have listed := List.mem_of_find?_eq_some found
  have admissible := List.find?_some found
  simp only [admissiblePath, Bool.and_eq_true] at admissible
  obtain ⟨_, walks⟩ := admissible
  obtain ⟨reached, walked⟩ : ∃ reached, attemptWalk source path = .ok reached := by
    cases walk : attemptWalk source path with
    | error refusal => simp [walk] at walks
    | ok reached => exact ⟨reached, rfl⟩
  have last : reached = target := by
    rw [attemptWalk_end walked]
    simp only [List.mem_cons, List.not_mem_nil, or_false] at listed
    rcases listed with rfl | rfl | rfl | rfl <;> rfl
  subst last
  refine ⟨?_, walked⟩
  obtain ⟨first, rest, rfl, starts⟩ : ∃ first rest, path = first :: rest ∧
      (first = reached ∨ first = .starting ∨ first = .running) := by
    simp only [List.mem_cons, List.not_mem_nil, or_false] at listed
    rcases listed with rfl | rfl | rfl | rfl <;> simp
  simp only [attemptWalk, Except.bind_eq_ok, attemptTransition_eq_ok] at walked
  obtain ⟨_, ⟨_, allowed⟩, _⟩ := walked
  cases source <;> first | rfl | rcases starts with rfl | rfl | rfl <;>
    simp_all [AttemptState.transitionTriggers]
  all_goals cases first <;> simp_all [AttemptState.ended]

theorem endAttempt_eq_ok (intact : db.Intact) {report : AttemptReport} {attempt : StoredAttempt}
    {target : AttemptState} (ended : AttemptState.ended target = true)
    (present : db.ledger.attempt report.attemptId = some attempt)
    (done : endAttempt db report attempt target = .ok next) :
    next = db.withAttempt { attempt with state := target } ∧
      (attempt.state = target ∨ AttemptState.ended attempt.state = false) := by
  have key := intact.sound.attemptKey present
  unfold endAttempt at done
  split at done
  · next same =>
    obtain rfl := Except.ok.inj done
    subst same
    rw [← key] at present
    exact ⟨(withAttempt_self present).symm, Or.inl rfl⟩
  · split at done
    · cases done
    · next path found =>
      rw [Except.mapError_eq_ok] at done
      obtain ⟨read, reached, there, _, _, walked, rfl⟩ :=
        intact.transitionAttemptStateAlong_eq_ok done
      obtain rfl : read = attempt := Option.some.inj (there.symm.trans present)
      obtain ⟨live, lands⟩ := normativePath_ended ended found
      obtain rfl : reached = target := Except.ok.inj (walked.symm.trans lands)
      exact ⟨rfl, Or.inr live⟩

/-- Between the two writes of a report the rows agree, but need not follow each other. -/
theorem ControlDb.Intact.withEnded (intact : db.Intact) {attempt : StoredAttempt}
    {target : AttemptState} (present : db.ledger.attempt attempt.attemptId = some attempt)
    (past : AttemptState.ended target = true)
    (source : attempt.state = target ∨ AttemptState.ended attempt.state = false) :
    (db.withAttempt { attempt with state := target }).Intact := by
  rcases source with rfl | live
  · rw [show db.withAttempt { attempt with state := attempt.state } = db from
      withAttempt_self present]
    exact intact
  · exact intact.after (intact.attemptMoved (@Step.attemptEnded ⟨∅, ∅, ∅, True, ∅, True, False⟩ _ _ _
      present live past (Or.inr trivial)))

/-- How a report ends its run: it proves no state, or the attempt is in the state it proves and the job
follows. -/
theorem endRun_eq_ok (intact : db.Intact) {report : AttemptReport} {attempt : StoredAttempt}
    (present : db.ledger.attempt report.attemptId = some attempt)
    (done : endRun db report attempt = .ok next) :
    (terminalStateFor report = none ∧ next = db) ∨
    ∃ target note, AttemptState.ended target = true ∧
      (attempt.state = target ∨ AttemptState.ended attempt.state = false) ∧
      (db.withAttempt { attempt with state := target }).Intact ∧
      followAttemptTerminal (db.withAttempt { attempt with state := target }) report.jobId report.attemptId
        target (attemptRan report attempt target) report.finishedAtUnixMs = .ok (next, note) := by
  unfold endRun at done
  split at done
  · next silent => exact Or.inl ⟨silent, (Except.ok.inj done).symm⟩
  · next target proves =>
    simp only [Except.bind_eq_ok, Except.mapError_eq_ok, Except.ok.injEq] at done
    obtain ⟨ended, ends, ⟨followed, note⟩, follows, rfl⟩ := done
    have past := ended_of_terminalStateFor proves
    have key := intact.sound.attemptKey present
    obtain ⟨rfl, source⟩ := endAttempt_eq_ok intact past present ends
    exact Or.inr ⟨target, note, past, source, intact.withEnded (key.symm ▸ present) past source, follows⟩

theorem endRun_refines (intact : db.Intact) {report : AttemptReport} {attempt : StoredAttempt}
    (present : db.ledger.attempt report.attemptId = some attempt)
    (ofJob : report.jobId = attempt.jobId) (done : endRun db report attempt = .ok next) :
    Refines allowed db next := by
  rcases endRun_eq_ok intact present done with ⟨_, rfl⟩ | ⟨target, _, past, source, between, follows⟩
  · exact intact.refl
  · have key := intact.sound.attemptKey present
    rw [← key] at present
    have unmoved : attempt.state = target → db.withAttempt { attempt with state := target } = db := by
      rintro rfl
      exact withAttempt_self present
    have written := withAttempt_ledger db { attempt with state := target }
    rcases between.followAttemptTerminal_eq_ok past follows with
      ⟨absent, rfl⟩ | ⟨job, new, current, edge, outcome, writes⟩
    · rcases source with same | live
      · rw [unmoved same]
        exact intact.refl
      · refine intact.attemptMoved (Step.attemptEnded present live past (Or.inl fun current => ?_))
        have now : (db.withAttempt { attempt with state := target }).ledger.attempt
            report.attemptId = some { attempt with state := target } := by
          rw [written, ← key]
          simp
        refine between.not_current_of_fetchCurrentJob now ofJob.symm absent ?_
        rw [written, ← key]
        exact Ledger.current_setAttempt present current
    · obtain ⟨there, _, last, latest, lastKey, lastJob⟩ := between.fetchCurrentJob_eq_ok current
      have shaped := edge.wellShaped (between.sound.job there).2.2
      obtain rfl := between.readable.updateJob_eq_ok there edge writes
      have present' := latest.present
      rw [written] at latest there present'
      rw [Ledger.setAttempt_attempt, if_pos (lastKey.trans key.symm), Option.some.injEq] at present'
      subst present'
      refine ⟨between.readable.withJob shaped, Relation.ReflTransGen.single ?_⟩
      rw [withJob_ledger shaped, written]
      exact Step.finished there edge ((Ledger.latest_setAttempt present).mp latest) lastJob past
        outcome

theorem insertReport_refines (intact : db.Intact) (report : AttemptReport) (signerId : String)
    (boundVia : ReportBindingSource)
    (given : (report.attemptId, codec.encodeAttemptReport report) ∈ allowed.reports) :
    Refines allowed db (insertReport codec db report signerId boundVia) := by
  refine intact.single rfl ?_
  have inserted : (insertReport codec db report signerId boundVia).ledger =
      { db.ledger with
        reported := insert (report.attemptId, codec.encodeAttemptReport report)
          db.ledger.reported } := by
    ext1
    case reported =>
      ext stored
      simp only [ledger, insertReport, List.mem_append, List.mem_singleton, Set.mem_ofPred_eq,
        Set.mem_insert_iff]
      constructor
      · rintro ⟨row, listed | rfl, rfl⟩
        · exact Or.inr ⟨row, listed, rfl⟩
        · exact Or.inl rfl
      · rintro (rfl | ⟨row, listed, rfl⟩)
        · exact ⟨_, Or.inr rfl, rfl⟩
        · exact ⟨row, Or.inl listed, rfl⟩
    all_goals rfl
  rw [inserted]
  exact Step.reported given

theorem storeNewReport_refines (intact : db.Intact) {report : AttemptReport} {signerId : String}
    {binding : StoredAttemptReportBinding}
    (given : (report.attemptId, codec.encodeAttemptReport report) ∈ allowed.reports)
    (done : storeNewReport codec db report signerId = .ok (next, binding)) :
    Refines allowed db next := by
  simp only [storeNewReport, bindAttempt, Except.bind_eq_ok, Except.mapError_eq_ok,
    Except.ofOption_eq_ok, Except.ensure_eq_ok, Except.ok.injEq, Prod.mk.injEq] at done
  obtain ⟨_, read, attempt, rfl, _, ⟨_, ofJob, _⟩, boundVia, _, ended, ends, rfl, _⟩ := done
  have first : Refines allowed db (insertReport codec db report signerId boundVia) :=
    insertReport_refines intact report signerId boundVia given
  have present : (insertReport codec db report signerId boundVia).ledger.attempt report.attemptId =
    some attempt := fetchAttempt_eq_ok read
  exact first.trans (endRun_refines (intact.after first) present ofJob ends)

theorem afterReport_refines (intact : db.Intact) {verified : Verified AttemptReport}
    {release : Option (ReleaseAuthorization × UInt64)}
    {ownerPreempt : Option OwnerPreemptRequest} {notes : List String}
    (freed : verified.inner.attemptId ∈ allowed.frees)
    (done : afterReport codec db verified release ownerPreempt = .ok (next, notes)) :
    Refines allowed db next := by
  simp only [afterReport, Except.bind_eq_ok, Except.ok.injEq, Prod.mk.injEq] at done
  obtain ⟨⟨released, _⟩, releases, ⟨paused, _⟩, pauses, rfl, _⟩ := done
  have first : Refines allowed db released := by
    unfold releaseAfterReport at releases
    split at releases
    · exact (Prod.mk.inj (Except.ok.inj releases)).1 ▸ intact.refl
    · simp only [Except.bind_eq_ok, Except.mapError_eq_ok, Except.ok.injEq,
        Prod.mk.injEq] at releases
      obtain ⟨⟨freedDb, _⟩, frees, rfl, _⟩ := releases
      exact releaseWithinTransaction_refines intact freed frees
  refine first.trans ?_
  unfold preemptAfterReport at pauses
  split at pauses
  · exact (Prod.mk.inj (Except.ok.inj pauses)).1 ▸ (intact.after first).refl
  · split at pauses
    · simp only [Except.bind_eq_ok, Except.mapError_eq_ok, Except.ok.injEq,
        Prod.mk.injEq] at pauses
      obtain ⟨⟨preempted, _⟩, preempts, rfl, _⟩ := pauses
      exact pauseForOwnerPreemptWithin_refines (intact.after first) preempts
    · exact (Prod.mk.inj (Except.ok.inj pauses)).1 ▸ (intact.after first).refl

/-- What follows a report begins where the report was stored before, or where it is stored now. -/
theorem storeVerifiedTerminalReport_eq_ok {verified : Verified AttemptReport}
    {release : Option (ReleaseAuthorization × UInt64)} {ownerPreempt : Option OwnerPreemptRequest}
    {result : StoreAttemptReportResult}
    (done : storeVerifiedTerminalReport codec db verified release ownerPreempt = .ok (next, result)) :
    (∃ notes, afterReport codec db verified release ownerPreempt = .ok (next, notes)) ∨
    ∃ ended binding notes, storeNewReport codec db verified.inner verified.signerId = .ok (ended, binding) ∧
      afterReport codec ended verified release ownerPreempt = .ok (next, notes) := by
  simp only [storeVerifiedTerminalReport, Except.bind_eq_ok, Except.mapError_eq_ok] at done
  obtain ⟨_, _, stored, _, done⟩ := done
  cases stored with
  | some binding =>
      simp only [Except.bind_eq_ok, Except.ok.injEq, Prod.mk.injEq] at done
      obtain ⟨_, _, ⟨after, _⟩, follows, rfl, _⟩ := done
      exact Or.inl ⟨_, follows⟩
  | none =>
      simp only [Except.bind_eq_ok, Except.mapError_eq_ok, Except.ok.injEq,
        Prod.mk.injEq] at done
      obtain ⟨⟨ended, binding⟩, ends, ⟨after, _⟩, follows, rfl, _⟩ := done
      exact Or.inr ⟨ended, binding, _, ends, follows⟩

theorem storeVerifiedTerminalReport_refines (intact : db.Intact)
    {verified : Verified AttemptReport} {release : Option (ReleaseAuthorization × UInt64)}
    {ownerPreempt : Option OwnerPreemptRequest} {result : StoreAttemptReportResult}
    (freed : verified.inner.attemptId ∈ allowed.frees)
    (given : (verified.inner.attemptId, codec.encodeAttemptReport verified.inner) ∈ allowed.reports)
    (done : storeVerifiedTerminalReport codec db verified release ownerPreempt =
      .ok (next, result)) : Refines allowed db next := by
  rcases storeVerifiedTerminalReport_eq_ok done with ⟨_, follows⟩ | ⟨ended, _, _, ends, follows⟩
  · exact afterReport_refines intact freed follows
  · have first : Refines allowed db ended := storeNewReport_refines intact given ends
    exact first.trans (afterReport_refines (intact.after first) freed follows)

theorem backfillTerminalStates_refines (rows : List ReportRow) (intact : db.Intact)
    (backfills : allowed.backfills)
    (done : backfillTerminalStates codec db rows = .ok next) : Refines allowed db next := by
  induction rows generalizing db with
  | nil => exact Except.ok.inj done ▸ intact.refl
  | cons row rest ih =>
      unfold backfillTerminalStates at done
      dsimp only at done
      split at done
      · exact ih intact done
      · next path found =>
        simp only [Except.bind_eq_ok] at done
        obtain ⟨moved, moves, done⟩ := done
        have first : Refines allowed db moved := by
          simp only [Option.bind_eq_bind, Option.bind_eq_some_iff] at found
          obtain ⟨report, _, target, proves, leads⟩ := found
          have past := ended_of_terminalStateFor proves
          obtain ⟨attempt, reached, present, key, created, walked, rfl⟩ :=
            intact.transitionAttemptStateAlong_eq_ok moves
          obtain ⟨live, lands⟩ := normativePath_ended past leads
          obtain rfl : reached = target := Except.ok.inj (walked.symm.trans lands)
          exact intact.attemptMoved (Step.attemptEnded (key ▸ present) (created ▸ live) past
            (Or.inr backfills))
        exact first.trans (ih (intact.after first) done)

end Reports

end Gputeer.Coordinator
