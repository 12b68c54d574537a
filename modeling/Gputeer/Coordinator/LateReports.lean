import Gputeer.Coordinator.LedgerProgress
import Gputeer.Coordinator.StagingReplay

/-! Reports of attempts that their jobs have left behind, and how jobs and their latest attempts end
together. -/

namespace Gputeer.Coordinator

open Protocol ControlDb

variable {codec : Codec} {db next : ControlDb}

/-- What a transaction about one attempt leaves as it was: all jobs and leases, the other attempts,
the attempt itself but for its state, and the reservations of the others. -/
structure TouchesOnly (attemptId : String) (db next : ControlDb) : Prop where
  jobs : next.jobs = db.jobs
  leases : next.leases = db.leases
  attempts : ∀ id, id ≠ attemptId → next.attempts[id]? = db.attempts[id]?
  own : next.attempts[attemptId]?.map (·.assignment) = db.attempts[attemptId]?.map (·.assignment)
  reservations : ∀ (nodeId : String) (reservation : StoredNodeReservation),
    db.nodeReservations[nodeId]? = some reservation → reservation.attemptId ≠ attemptId →
    next.nodeReservations[nodeId]? = some reservation

namespace TouchesOnly

variable {attemptId : String} {last : ControlDb}

theorem refl (attemptId : String) (db : ControlDb) : TouchesOnly attemptId db db where
  jobs := rfl
  leases := rfl
  attempts := fun _ _ => rfl
  own := rfl
  reservations := fun _ _ found _ => found

theorem trans (first : TouchesOnly attemptId db next) (second : TouchesOnly attemptId next last) :
    TouchesOnly attemptId db last where
  jobs := second.jobs.trans first.jobs
  leases := second.leases.trans first.leases
  attempts := fun id other => (second.attempts id other).trans (first.attempts id other)
  own := second.own.trans first.own
  reservations := fun nodeId reservation found other =>
    second.reservations nodeId reservation (first.reservations nodeId reservation found other) other

theorem assignments (touches : TouchesOnly attemptId db next) (id : String) :
    next.attempts[id]?.map (·.assignment) = db.attempts[id]?.map (·.assignment) := by
  by_cases same : id = attemptId
  · rw [same]
    exact touches.own
  · rw [touches.attempts id same]

/-- Which attempt is current is not touched. -/
theorem current_before (touches : TouchesOnly attemptId db next) {id : String}
    (current : next.ledger.Current id) : db.ledger.Current id := by
  obtain ⟨last, job, latest, key, found, runs⟩ := current
  have same := touches.assignments last.attemptId
  rw [show next.attempts[last.attemptId]? = some last from latest.present, Option.map_some] at same
  obtain ⟨before, there, kept⟩ := Option.map_eq_some_iff.mp same.symm
  have sameId := StoredAttempt.attemptId_of_assignment kept
  have sameJob := StoredAttempt.jobId_of_assignment kept
  refine ⟨before, job, ⟨sameId ▸ there, fun otherId other present ofJob => ?_⟩, sameId.trans key,
    ?_, runs⟩
  · have later := touches.assignments otherId
    rw [show db.attempts[otherId]? = some other from present, Option.map_some] at later
    obtain ⟨moved, now, movedSame⟩ := Option.map_eq_some_iff.mp later
    rw [← StoredAttempt.fenceEpoch_of_assignment movedSame,
      StoredAttempt.fenceEpoch_of_assignment kept]
    refine latest.greatest otherId moved now ?_
    rw [StoredAttempt.jobId_of_assignment movedSame, ofJob, sameJob]
  · rw [sameJob]
    simpa [ledger, touches.jobs] using found

end TouchesOnly

section Late

theorem withAttempt_touchesOnly {attempt : StoredAttempt}
    (present : db.attempts[attempt.attemptId]? = some attempt) (state : AttemptState) :
    TouchesOnly attempt.attemptId db (db.withAttempt { attempt with state }) where
  jobs := rfl
  leases := rfl
  attempts := by
    intro id other
    exact Table.lookup_insert_ne (Ne.symm other)
  own := by
    simp [withAttempt, present, StoredAttempt.assignment]
  reservations := fun _ _ found _ => found

theorem releaseWithinTransaction_touchesOnly {verified : Verified AttemptReport}
    {authorization : ReleaseAuthorization} {releasedAtUnixMs : UInt64} {outcome : ReleaseOutcome}
    (done : releaseWithinTransaction codec db verified authorization releasedAtUnixMs =
      .ok (next, outcome)) : TouchesOnly verified.inner.attemptId db next := by
  simp only [releaseWithinTransaction, Except.bind_eq_ok] at done
  obtain ⟨_, _, _, _, _, _, _, _, done⟩ := done
  cases existing : db.reservationReleases[verified.inner.attemptId]? with
  | some release =>
      simp only [existing, Except.bind_eq_ok, Except.ok.injEq, Prod.mk.injEq] at done
      obtain ⟨_, _, rfl, _⟩ := done
      exact TouchesOnly.refl _ _
  | none =>
      simp only [existing, releaseNew, checkReservationOwner, Except.bind_eq_ok,
        Except.mapError_eq_ok, Except.ofOption_eq_ok, Except.ensure_eq_ok, Except.ok.injEq,
        Prod.mk.injEq] at done
      obtain ⟨_, _, _, rfl, _, _, _, read, reservation, rfl, _, ⟨_, owner, _⟩, deleted, deletes, rfl,
        _⟩ := done
      have reserved := fetchNodeReservation_eq_ok read
      obtain rfl := deleteReservation_eq_some deletes
      refine ⟨rfl, rfl, fun _ _ => rfl, rfl, fun nodeId kept found other => ?_⟩
      have elsewhere : verified.inner.nodeId ≠ nodeId := by
        rintro rfl
        obtain rfl : reservation = kept := Option.some.inj (reserved.symm.trans found)
        exact other owner
      simpa [Table.lookup_erase, elsewhere] using found

/-- The job of an attempt that is not current is not taken from it. -/
theorem pauseForOwnerPreemptWithin_late (intact : db.Intact) {jobId attemptId nodeId : String}
    {policy : FailoverPolicy} {nowUnixMs : UInt64} {line : Option String}
    (late : ¬ db.ledger.Current attemptId)
    (done : pauseForOwnerPreemptWithin codec db jobId attemptId nodeId policy nowUnixMs =
      .ok (next, line)) : next = db := by
  simp only [pauseForOwnerPreemptWithin, intact.readable.fetchJob_eq, Except.bind_eq_ok,
    Except.mapError_eq_ok, Except.ok.injEq] at done
  obtain ⟨_, rfl, done⟩ := done
  cases found : db.ledger.job jobId with
  | none =>
      simp only [found, Except.ok.injEq, Prod.mk.injEq] at done
      exact done.1.symm
  | some job =>
      simp only [found] at done
      split at done
      · exact (Prod.mk.inj (Except.ok.inj done)).1.symm
      · next running =>
        split at done
        · exact (Prod.mk.inj (Except.ok.inj done)).1.symm
        · next query =>
          obtain ⟨attempt, latest, key, ofJob⟩ :=
            intact.latestAttemptForJob_iff.mp (not_not.mp query)
          exact absurd ⟨attempt, job, latest, key, ofJob ▸ found, Or.inr (not_not.mp running)⟩ late

theorem afterReport_late (intact : db.Intact) {verified : Verified AttemptReport}
    {release : Option (ReleaseAuthorization × UInt64)}
    {ownerPreempt : Option OwnerPreemptRequest} {notes : List String}
    (late : ¬ db.ledger.Current verified.inner.attemptId)
    (done : afterReport codec db verified release ownerPreempt = .ok (next, notes)) :
    TouchesOnly verified.inner.attemptId db next := by
  simp only [afterReport, Except.bind_eq_ok, Except.ok.injEq, Prod.mk.injEq] at done
  obtain ⟨⟨released, _⟩, releases, ⟨paused, _⟩, pauses, rfl, _⟩ := done
  have first : TouchesOnly verified.inner.attemptId db released ∧ released.Intact := by
    unfold releaseAfterReport at releases
    split at releases
    · obtain rfl := (Prod.mk.inj (Except.ok.inj releases)).1
      exact ⟨TouchesOnly.refl _ _, intact⟩
    · simp only [Except.bind_eq_ok, Except.mapError_eq_ok, Except.ok.injEq,
        Prod.mk.injEq] at releases
      obtain ⟨⟨freedDb, _⟩, frees, rfl, _⟩ := releases
      have refines : Refines ⟨Set.univ, ∅, ∅, False, ∅, False, False⟩ db freedDb :=
        releaseWithinTransaction_refines intact (Set.mem_univ _) frees
      exact ⟨releaseWithinTransaction_touchesOnly frees, intact.after refines⟩
  have still : ¬ released.ledger.Current verified.inner.attemptId :=
    fun current => late (first.1.current_before current)
  unfold preemptAfterReport at pauses
  split at pauses
  · exact (Prod.mk.inj (Except.ok.inj pauses)).1 ▸ first.1
  · split at pauses
    · simp only [Except.bind_eq_ok, Except.mapError_eq_ok, Except.ok.injEq,
        Prod.mk.injEq] at pauses
      obtain ⟨⟨preempted, _⟩, preempts, rfl, _⟩ := pauses
      obtain rfl := pauseForOwnerPreemptWithin_late first.2 still preempts
      exact first.1
    · exact (Prod.mk.inj (Except.ok.inj pauses)).1 ▸ first.1

theorem endRun_late (intact : db.Intact) {report : AttemptReport} {attempt : StoredAttempt}
    (present : db.ledger.attempt report.attemptId = some attempt)
    (late : ¬ db.ledger.Current report.attemptId)
    (done : endRun db report attempt = .ok next) : TouchesOnly report.attemptId db next := by
  rcases endRun_eq_ok intact present done with ⟨_, rfl⟩ | ⟨target, _, past, source, between, follows⟩
  · exact TouchesOnly.refl _ _
  · have key := intact.sound.attemptKey present
    rw [← key] at present
    have touches := withAttempt_touchesOnly present target
    rw [← key] at late ⊢
    rcases between.followAttemptTerminal_eq_ok past follows with
      ⟨_, rfl⟩ | ⟨job, _, current, _⟩
    · exact touches
    · obtain ⟨there, runs, last, latest, lastKey, lastJob⟩ := between.fetchCurrentJob_eq_ok current
      rw [← lastJob] at there
      exact absurd (touches.current_before ⟨last, job, latest, lastKey.trans key.symm, there, runs⟩)
        late

theorem storeNewReport_late (intact : db.Intact) {report : AttemptReport} {signerId : String}
    {binding : StoredAttemptReportBinding} (late : ¬ db.ledger.Current report.attemptId)
    (done : storeNewReport codec db report signerId = .ok (next, binding)) :
    TouchesOnly report.attemptId db next ∧ next.Intact := by
  have refines : Refines ⟨∅, ∅, Set.univ, False, ∅, False, False⟩ db next :=
    storeNewReport_refines intact (Set.mem_univ _) done
  refine ⟨?_, intact.after refines⟩
  simp only [storeNewReport, bindAttempt, Except.bind_eq_ok, Except.mapError_eq_ok,
    Except.ofOption_eq_ok, Except.ok.injEq, Prod.mk.injEq] at done
  obtain ⟨_, read, attempt, rfl, _, _, boundVia, _, ended, ends, rfl, _⟩ := done
  have inserts : TouchesOnly report.attemptId db
      (insertReport codec db report signerId boundVia) :=
    ⟨rfl, rfl, fun _ _ => rfl, rfl, fun _ _ found _ => found⟩
  have inserted : Refines ⟨∅, ∅, Set.univ, False, ∅, False, False⟩ db
      (insertReport codec db report signerId boundVia) :=
    insertReport_refines intact report signerId boundVia (Set.mem_univ _)
  have present : (insertReport codec db report signerId boundVia).ledger.attempt report.attemptId =
    some attempt := fetchAttempt_eq_ok read
  exact inserts.trans (endRun_late (intact.after inserted) present
    (fun current => late (inserts.current_before current)) ends)

/-- A report of an attempt that is not current touches nothing of the others. -/
theorem storeVerifiedTerminalReport_late (intact : db.Intact) {verified : Verified AttemptReport}
    {release : Option (ReleaseAuthorization × UInt64)}
    {ownerPreempt : Option OwnerPreemptRequest} {result : StoreAttemptReportResult}
    (late : ¬ db.ledger.Current verified.inner.attemptId)
    (done : storeVerifiedTerminalReport codec db verified release ownerPreempt =
      .ok (next, result)) : TouchesOnly verified.inner.attemptId db next := by
  rcases storeVerifiedTerminalReport_eq_ok done with ⟨_, follows⟩ | ⟨ended, _, _, ends, follows⟩
  · exact afterReport_late intact late follows
  · obtain ⟨touches, intactAfter⟩ := storeNewReport_late intact late ends
    exact touches.trans (afterReport_late intactAfter
      (fun current => late (touches.current_before current)) follows)

end Late

section Reports

/-- The attempt of a stored report is there, and it has left its first state if the stored body proves
how it ended. -/
def Answered (codec : Codec) (ledger : Ledger) (stored : String × List UInt8) : Prop :=
  ∃ attempt, ledger.attempt stored.1 = some attempt ∧
    (attempt.state = .created → ∀ report, codec.decodeAttemptReport stored.2 = some report →
      terminalStateFor report = none)

/-- Jobs follow their attempts, and nothing is left to do for the reports that are stored. -/
structure Settled (codec : Codec) (ledger : Ledger) : Prop where
  followed : Followed ledger
  answered : ∀ stored ∈ ledger.reported, Answered codec ledger stored

variable {allowed : Allowance}

theorem Answered.kept (intact : db.Intact) (refines : Refines allowed db next)
    {stored : String × List UInt8} (answered : Answered codec db.ledger stored) :
    Answered codec next.ledger stored := by
  obtain ⟨attempt, there, silent⟩ := answered
  obtain ⟨moved, now, _⟩ := refines.steps.attempt_kept intact.sound there
  exact ⟨moved, now, fun created =>
    silent (refines.steps.created_before intact.sound there now created)⟩

/-- A transaction that does not open the store leaves everything settled if it answers the report
it stores. -/
theorem Settled.after (intact : db.Intact) (settled : Settled codec db.ledger)
    (refines : Refines allowed db next) (ahead : ¬ allowed.backfills)
    (answers : ∀ stored ∈ allowed.reports, stored ∈ next.ledger.reported →
      Answered codec next.ledger stored) : Settled codec next.ledger where
  followed := refines.steps.followed intact.sound settled.followed ahead
  answered := by
    intro stored now
    rcases refines.steps.reported_origin intact.sound now with before | new
    · exact (settled.answered stored before).kept intact refines
    · exact answers stored new now

/-- Whatever the report says, the attempt is in the state that it proves. -/
theorem endRun_answered (intact : db.Intact) {report : AttemptReport} {attempt : StoredAttempt}
    {body : List UInt8} (present : db.ledger.attempt report.attemptId = some attempt)
    (decodes : codec.decodeAttemptReport body = some report)
    (done : endRun db report attempt = .ok next) :
    Answered codec next.ledger (report.attemptId, body) := by
  rcases endRun_eq_ok intact present done with ⟨silent, rfl⟩ | ⟨target, _, past, source, between, follows⟩
  · refine ⟨attempt, present, fun _ read readBack => ?_⟩
    obtain rfl : report = read := Option.some.inj (decodes.symm.trans readBack)
    exact silent
  · have key := intact.sound.attemptKey present
    have left : target ≠ .created := by
      rintro rfl
      exact absurd past (by simp [AttemptState.ended])
    have now : (db.withAttempt { attempt with state := target }).ledger.attempt report.attemptId =
        some { attempt with state := target } := by
      rw [withAttempt_ledger, ← key]
      simp
    refine ⟨{ attempt with state := target }, ?_, fun created => absurd created left⟩
    rcases between.followAttemptTerminal_eq_ok past follows with
      ⟨_, rfl⟩ | ⟨job, new, current, edge, _, writes⟩
    · exact now
    · obtain ⟨there, _⟩ := between.fetchCurrentJob_eq_ok current
      obtain rfl := between.readable.updateJob_eq_ok there edge writes
      exact now

theorem storeVerifiedTerminalReport_settled (intact : db.Intact) (settled : Settled codec db.ledger)
    {verified : Verified AttemptReport} {release : Option (ReleaseAuthorization × UInt64)}
    {ownerPreempt : Option OwnerPreemptRequest} {result : StoreAttemptReportResult}
    (decodes : codec.decodeAttemptReport (codec.encodeAttemptReport verified.inner) =
      some verified.inner)
    (done : storeVerifiedTerminalReport codec db verified release ownerPreempt =
      .ok (next, result)) : Settled codec next.ledger := by
  rcases storeVerifiedTerminalReport_eq_ok done with ⟨_, follows⟩ | ⟨ended, _, _, ends, follows⟩
  · have refines : Refines ⟨Set.univ, ∅, ∅, False, ∅, False, False⟩ db next :=
      afterReport_refines intact (Set.mem_univ _) follows
    exact settled.after intact refines not_false (fun _ none => absurd none (Set.notMem_empty _))
  · have stores : Refines ⟨∅, ∅,
        {(verified.inner.attemptId, codec.encodeAttemptReport verified.inner)}, False, ∅, False, False⟩
        db ended := storeNewReport_refines intact (Set.mem_singleton _) ends
    have intactAfter := intact.after stores
    have between : Settled codec ended.ledger := by
      refine settled.after intact stores not_false (fun stored new _ => ?_)
      obtain rfl := Set.mem_singleton_iff.mp new
      simp only [storeNewReport, bindAttempt, Except.bind_eq_ok, Except.mapError_eq_ok,
        Except.ofOption_eq_ok, Except.ok.injEq, Prod.mk.injEq] at ends
      obtain ⟨_, read, attempt, rfl, _, _, boundVia, _, _, ends, rfl, _⟩ := ends
      have inserts : Refines ⟨∅, ∅, Set.univ, False, ∅, False, False⟩ db
          (insertReport codec db verified.inner verified.signerId boundVia) :=
        insertReport_refines intact _ _ boundVia (Set.mem_univ _)
      exact endRun_answered (intact.after inserts) (fetchAttempt_eq_ok read) decodes ends
    have refines : Refines ⟨Set.univ, ∅, ∅, False, ∅, False, False⟩ ended next :=
      afterReport_refines intactAfter (Set.mem_univ _) follows
    exact between.after intactAfter refines not_false
      (fun _ none => absurd none (Set.notMem_empty _))

/-- There is nothing to follow up on when the store is opened. -/
theorem Settled.openReportStore_eq (settled : Settled codec db.ledger) :
    openReportStore codec db = .ok db := by
  have idle : ∀ rows : List ReportRow, (∀ row ∈ rows, row ∈ db.attemptReports ∧
      db.attempts[row.attemptId]?.any (·.state = .created) = true) →
      backfillTerminalStates codec db rows = .ok db := by
    intro rows listed
    induction rows with
    | nil => rfl
    | cons row rest ih =>
        obtain ⟨stored, created⟩ := listed row List.mem_cons_self
        obtain ⟨attempt, there, silent⟩ :=
          settled.answered (row.attemptId, row.reportBody) ⟨row, stored, rfl⟩
        rw [show db.attempts[row.attemptId]? = some attempt from there] at created
        have quiet := silent (by simpa using created)
        unfold backfillTerminalStates
        cases decoded : codec.decodeAttemptReport row.reportBody with
        | none => exact ih (fun later listedLater => listed later (List.mem_cons_of_mem _ listedLater))
        | some report =>
            simp only [quiet report decoded, Option.bind_eq_bind, Option.bind_some, Option.bind_none]
            exact ih (fun later listedLater => listed later (List.mem_cons_of_mem _ listedLater))
  refine idle _ (fun row listed => ?_)
  exact List.mem_filter.mp listed

/-- The bodies of the reports that a run stores decode to what was encoded. -/
def ReportsDecode (codec : Codec) (operations : List Operation) : Prop :=
  ∀ (verified : Verified AttemptReport) (release : Option (ReleaseAuthorization × UInt64))
    (ownerPreempt : Option OwnerPreemptRequest),
    .storeVerifiedTerminalReport verified release ownerPreempt ∈ operations →
    codec.decodeAttemptReport (codec.encodeAttemptReport verified.inner) = some verified.inner

theorem step_settled (intact : db.Intact) (settled : Settled codec db.ledger)
    (operation : Operation) (decodes : ReportsDecode codec [operation]) :
    Settled codec (step codec db operation).ledger := by
  cases operation with
  | storeVerifiedTerminalReport verified release ownerPreempt =>
      have roundTrip := decodes verified release ownerPreempt (List.mem_singleton_self _)
      change Settled codec (commit db _).ledger
      cases done : storeVerifiedTerminalReport codec db verified release ownerPreempt with
      | error fault => exact settled
      | ok answer => exact storeVerifiedTerminalReport_settled intact settled roundTrip done
  | openReportStore =>
      change Settled codec ((openReportStore codec db).toOption.getD db).ledger
      rw [settled.openReportStore_eq]
      exact settled
  | _ =>
      exact settled.after intact (step_refines codec intact _) not_false
        (fun _ none => absurd none (Set.notMem_empty _))

theorem run_settled (operations : List Operation) (decodes : ReportsDecode codec operations) :
    Settled codec (run codec operations).ledger := by
  revert decodes
  refine Trace.induction (fun operations (db : ControlDb) => ReportsDecode codec operations →
    Settled codec db.ledger) (fun _ => ?_) (fun earlier operation holds decodes => ?_) operations
  · constructor
    · constructor <;> intros <;> simp_all [ControlDb.empty, ledger]
    · rintro stored ⟨row, listed, _⟩
      simp [ControlDb.empty] at listed
  · refine step_settled (run_intact codec earlier) (holds fun verified release preempt listed =>
      decodes verified release preempt (List.mem_append_left _ listed)) operation ?_
    exact fun verified release preempt listed =>
      decodes verified release preempt (List.mem_append_right _ listed)

end Reports

/-- A report of an attempt that was replaced, or whose job is not staged or running, changes no job,
no lease, no other attempt and no reservation of another attempt. In every state the latest attempt of
a completed job has completed, and the latest attempt of a staged or running job has not ended. -/
theorem late_reports_isolated (codec : Codec) (operations : List Operation)
    (decodes : ReportsDecode codec operations) :
    (∀ (verified : Verified AttemptReport) (release : Option (ReleaseAuthorization × UInt64))
        (ownerPreempt : Option OwnerPreemptRequest) (next : ControlDb)
        (result : StoreAttemptReportResult) (attempt : StoredAttempt) (job : StoredJob),
      storeVerifiedTerminalReport codec (run codec operations) verified release ownerPreempt =
        .ok (next, result) →
      (run codec operations).attempts[verified.inner.attemptId]? = some attempt →
      fetchJob (run codec operations) attempt.jobId = .ok (some job) →
      ¬ (run codec operations).ledger.Latest attempt ∨
        job.state ≠ .staging ∧ job.state ≠ .running →
      TouchesOnly verified.inner.attemptId (run codec operations) next) ∧
    (∀ (jobId : String) (job : StoredJob),
      fetchJob (run codec operations) jobId = .ok (some job) → job.state = .completed →
      ∃ attempt, (run codec operations).ledger.Latest attempt ∧ attempt.jobId = jobId ∧
        attempt.state = .completed) ∧
    ∀ (jobId : String) (job : StoredJob),
      fetchJob (run codec operations) jobId = .ok (some job) →
      job.state = .staging ∨ job.state = .running →
      ∃ attempt, (run codec operations).ledger.Latest attempt ∧ attempt.jobId = jobId ∧
        attempt.state ∉ [AttemptState.completed, .failed, .cancelled] := by
  have intact := run_intact codec operations
  have settled := run_settled operations decodes
  simp only [intact.readable.fetchJob_eq, Except.ok.injEq]
  refine ⟨?_, ?_, ?_⟩
  · intro verified release ownerPreempt next result attempt job done there ofJob left
    refine storeVerifiedTerminalReport_late intact ?_ done
    rintro ⟨last, current, latest, key, found, runs⟩
    have present := latest.present
    rw [key] at present
    obtain rfl : last = attempt := Option.some.inj (present.symm.trans there)
    obtain rfl : current = job := Option.some.inj (found.symm.trans ofJob)
    tauto
  · intro jobId job found completed
    exact settled.followed.completed found completed
  · intro jobId job found runs
    obtain ⟨attempt, latest, ofJob, live⟩ := settled.followed.live found runs
    refine ⟨attempt, latest, ofJob, fun ended => ?_⟩
    simp only [List.mem_cons, List.not_mem_nil, or_false] at ended
    rcases ended with ended | ended | ended <;> simp [ended, AttemptState.ended] at live

section Completed

/-- The encoding of one report, with its digest. -/
def reportCodec (report : AttemptReport) (reportBody : List UInt8) (digest : ManifestHash) : Codec :=
  { plainCodec with
    encodeAttemptReport := fun other => if other = report then reportBody else []
    decodeAttemptReport := fun body => if body = reportBody then some report else none
    blake3 := fun body => if body = reportBody then digest else Vector.replicate 32 0 }

def completedReport : AttemptReport where
  schemaVersion := 2
  jobId := "job"
  attemptId := "attempt"
  nodeId := "node"
  fenceEpoch := 1
  outcome := 1
  finalStep := 10
  startedAtUnixMs := 200
  finishedAtUnixMs := 300
  exitObservation := 2
  exitCode := 0
  finalizationFailureStage := 0
  artifacts := []
  finalCheckpoint := none
  metrics := []
  issuedAtUnixMs := 300
  nodeSignature := List.replicate 64 5

def completedReportBody : List UInt8 :=
  [8, 2, 18, 3, 106, 111, 98, 26, 7, 97, 116, 116, 101, 109, 112, 116, 34, 4, 110, 111, 100, 101,
    40, 1, 80, 1, 88, 10, 96, 200, 1, 104, 172, 2, 112, 2, 192, 2, 172, 2, 210, 5, 64] ++
    List.replicate 64 5

def completedCodec : Codec :=
  reportCodec completedReport completedReportBody
    #v[206, 98, 88, 125, 167, 149, 123, 242, 131, 180, 235, 64, 137, 52, 34, 250,
      115, 177, 61, 254, 222, 239, 208, 229, 82, 200, 173, 32, 97, 142, 190, 67]

def completedRun : List Operation :=
  [submitJob "job" 1, .planAndEnqueue "job" "plan" 20,
    .stageQueuedWithLease (stageRequest "job" "attempt" "lease" "node" 1),
    .storeVerifiedTerminalReport ⟨completedReport, "node", .notApplicable⟩ none none,
    .openReportStore]

theorem completed_job_has_completed_attempt :
    ReportsDecode completedCodec completedRun ∧
    (∃ job, fetchJob (run completedCodec completedRun) "job" = .ok (some job) ∧
      job.state = .completed) ∧
    ∃ attempt, (run completedCodec completedRun).ledger.Latest attempt ∧ attempt.jobId = "job" ∧
      attempt.state = .completed := by
  have decodes : ReportsDecode completedCodec completedRun := by
    intro verified release ownerPreempt listed
    simp only [completedRun, submitJob, List.mem_cons, List.not_mem_nil, or_false, reduceCtorEq,
      false_or, Operation.storeVerifiedTerminalReport.injEq] at listed
    obtain ⟨rfl, _⟩ := listed
    decide +kernel
  have read : (fetchJob (run completedCodec completedRun) "job").toOption.join.map (·.state) =
      some .completed := by
    decide +kernel
  obtain ⟨job, found, completed⟩ := Option.map_eq_some_iff.mp read
  have fetched : fetchJob (run completedCodec completedRun) "job" = .ok (some job) := by
    cases fetch : fetchJob (run completedCodec completedRun) "job" with
    | error fault => simp [fetch, Except.toOption] at found
    | ok stored =>
        simp only [fetch, Except.toOption, Option.join_some] at found
        rw [found]
  exact ⟨decodes, ⟨job, fetched, completed⟩,
    (late_reports_isolated completedCodec completedRun decodes).2.1 "job" job fetched completed⟩

end Completed

end Gputeer.Coordinator
