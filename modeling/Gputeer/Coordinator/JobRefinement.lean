import Gputeer.Coordinator.LedgerView

/-! The transactions of the job store and of the lease store are steps of the ledger. -/

namespace Gputeer.Coordinator

open Protocol Text ControlDb

theorem countUp_eq_ok {count next : UInt64} {overflow : String} :
    countUp count overflow = .ok next ↔ count.checkedAdd 1 = some next :=
  Except.ofOption_eq_ok

theorem commitJob_eq_ok {db next : ControlDb} {job returned : StoredJob} :
    commitJob db job = .ok (next, returned) ↔ updateJob db job = .ok next ∧ returned = job := by
  simp only [commitJob, Except.bind_eq_ok, Except.ok.injEq, Prod.mk.injEq]
  constructor
  · rintro ⟨written, done, rfl, rfl⟩
    exact ⟨done, rfl⟩
  · rintro ⟨done, rfl⟩
    exact ⟨next, done, rfl, rfl⟩

section Moves

theorem planJob_edge {job planned : StoredJob} {atUnixMs : UInt64} (before : job.state = .submitted)
    (done : planJob job atUnixMs = .ok planned) : JobEdge .planned job planned := by
  simp only [planJob, Except.bind_eq_ok, countUp_eq_ok, Except.ok.injEq] at done
  obtain ⟨_, _, revision, counted, rfl⟩ := done
  exact JobEdge.planned before counted

theorem queueJob_edge {job queued : StoredJob} {planId : String} {atUnixMs : UInt64}
    (named : isBlank planId = false) (done : queueJob job planId atUnixMs = .ok queued) :
    JobEdge .queued job queued := by
  simp only [queueJob, Except.bind_eq_ok, countUp_eq_ok, Except.ok.injEq,
    Except.ensure_eq_ok] at done
  obtain ⟨_, before, _, _, _, _, revision, counted, rfl⟩ := done
  exact JobEdge.queued before named counted

theorem AcceptedJobSubmission.toJob_wellShaped (submission : AcceptedJobSubmission)
    (atUnixMs : UInt64) : (submission.toJob atUnixMs).WellShaped where
  shape := rfl
  resumable := by simp [AcceptedJobSubmission.toJob]
  explained := by simp [AcceptedJobSubmission.toJob]

end Moves

variable {db next : ControlDb} {allowed : Allowance}

section Submission

theorem insertJob_toJob (db : ControlDb) (submission : AcceptedJobSubmission)
    (atUnixMs : UInt64) :
    insertJob db (submission.toJob atUnixMs) = db.withJob (submission.toJob atUnixMs) := rfl

theorem ControlDb.Intact.ensureNewJob (intact : db.Intact) {jobId : String} {done : Unit}
    (new : ensureNewJob db jobId = .ok done) : db.ledger.job jobId = none := by
  simp only [Coordinator.ensureNewJob, intact.readable.fetchJob_eq, Except.bind_eq_ok, Except.ok.injEq,
    Except.ensure_eq_ok] at new
  obtain ⟨found, rfl, absent⟩ := new
  exact absent

/-- A new job, with what else the submission stores. -/
theorem ControlDb.Intact.submitted (intact : db.Intact) {submission : AcceptedJobSubmission}
    {atUnixMs : UInt64} {done checked : Unit} (valid : validateSubmission submission = .ok checked)
    (new : Coordinator.ensureNewJob db submission.jobId = .ok done)
    (jobs : next.jobs = (insertJob db (submission.toJob atUnixMs)).jobs)
    (same : next.ledger = (insertJob db (submission.toJob atUnixMs)).ledger) :
    Refines allowed db next := by
  have shaped := submission.toJob_wellShaped atUnixMs
  simp only [validateSubmission, Except.bind_eq_ok, Except.ensure_eq_ok] at valid
  obtain ⟨_, named, _⟩ := valid
  constructor
  · intro id row found
    rw [jobs] at found
    exact intact.readable.withJob shaped id row found
  · rw [same, insertJob_toJob, withJob_ledger shaped]
    exact Relation.ReflTransGen.single
      (Step.submitted (intact.ensureNewJob new) named rfl shaped)

theorem submitAccepted_refines (intact : db.Intact) {submission : AcceptedJobSubmission}
    {atUnixMs : UInt64} {result : SubmitResult}
    (done : submitAccepted db submission atUnixMs = .ok (next, result)) :
    Refines allowed db next := by
  simp only [submitAccepted, Except.bind_eq_ok] at done
  obtain ⟨_, valid, done⟩ := done
  cases bound : db.jobSubmissions[submission.idempotencyKey.toList]? with
  | some storedJobId =>
      simp only [bound, Except.bind_eq_ok, Except.ok.injEq, Prod.mk.injEq] at done
      obtain ⟨_, _, rfl, _⟩ := done
      exact intact.refl
  | none =>
      simp only [bound, Except.bind_eq_ok, Except.ok.injEq, Prod.mk.injEq] at done
      obtain ⟨_, new, rfl, _⟩ := done
      exact intact.submitted valid new rfl rfl

theorem insertManifest_ledger (db : ControlDb) (jobId : String) (row : ManifestRow) :
    { db with jobManifests := db.jobManifests.insert jobId row : ControlDb }.ledger =
      { db.ledger with manifested := insert jobId db.ledger.manifested } := by
  ext1
  case manifested =>
    ext id
    by_cases same : jobId = id
    · simp [ledger, same]
    · have other : ¬ id = jobId := fun equal => same equal.symm
      simp [ledger, Table.lookup_insert, same, other]
  all_goals rfl

theorem submitVerifiedManifest_refines {codec : Codec} (intact : db.Intact)
    {submission : AcceptedJobSubmission} {verified : Verified JobManifest} {atUnixMs : UInt64}
    {result : ManifestBoundSubmitResult}
    (done : submitVerifiedManifest codec db submission verified atUnixMs = .ok (next, result)) :
    Refines allowed db next := by
  simp only [submitVerifiedManifest, Except.bind_eq_ok] at done
  obtain ⟨_, valid, _, _, _, _, done⟩ := done
  cases bound : db.jobSubmissions[submission.idempotencyKey.toList]? with
  | some storedJobId =>
      simp only [bound, Except.bind_eq_ok, Except.ok.injEq, Prod.mk.injEq] at done
      obtain ⟨_, _, _, _, _, _, rfl, _⟩ := done
      exact intact.refl
  | none =>
      simp only [bound, Except.bind_eq_ok, Except.ok.injEq, Prod.mk.injEq] at done
      obtain ⟨_, new, rfl, _⟩ := done
      have first : Refines allowed db (insertJob db (submission.toJob atUnixMs)) :=
        intact.submitted valid new rfl rfl
      have second : Step allowed (insertJob db (submission.toJob atUnixMs)).ledger _ :=
        @Step.manifested allowed _ (submission.toJob atUnixMs).jobId
      rw [← insertManifest_ledger _ _
        ⟨verified.signerId, codec.encodeJobManifest verified.inner⟩] at second
      exact first.trans ((intact.after first).single rfl second)

end Submission

section Queue

theorem ControlDb.Intact.transition_eq_ok (intact : db.Intact) {jobId : String}
    {apply : StoredJob → Except JobStoreError (ControlDb × StoredJob)}
    {result : ControlDb × StoredJob} (done : transition db jobId apply = .ok result) :
    ∃ job, db.ledger.job job.jobId = some job ∧ apply job = .ok result := by
  simp only [transition, intact.readable.fetchJob_eq, Except.bind_eq_ok, Except.ok.injEq,
    Except.ofOption_eq_ok] at done
  obtain ⟨_, rfl, job, found, applied⟩ := done
  rw [← (intact.sound.job found).1] at found
  exact ⟨job, found, applied⟩

theorem ControlDb.Intact.committed (intact : db.Intact) {move : JobMove}
    {old new returned : StoredJob} (found : db.ledger.job old.jobId = some old) (edge : JobEdge move old new)
    (alone : move.alone) (done : commitJob db new = .ok (next, returned)) :
    Refines allowed db next :=
  intact.moved found edge alone (commitJob_eq_ok.mp done).1

theorem startPlanning_refines (intact : db.Intact) {jobId : String} {atUnixMs : UInt64}
    {job : StoredJob} (done : startPlanning db jobId atUnixMs = .ok (next, job)) :
    Refines allowed db next := by
  obtain ⟨old, found, applied⟩ := intact.transition_eq_ok done
  split at applied
  · obtain ⟨rfl, _⟩ := Prod.mk.inj (Except.ok.inj applied)
    exact intact.refl
  · split at applied
    · cases applied
    · next before =>
      simp only [Except.bind_eq_ok] at applied
      obtain ⟨planned, plans, commits⟩ := applied
      exact intact.committed found (planJob_edge (not_not.mp before) plans) rfl commits

theorem alreadyQueued_eq_ok {job returned : StoredJob} {planId : String}
    (done : alreadyQueued db job planId = .ok (next, returned)) : next = db := by
  unfold alreadyQueued at done
  split at done
  · exact (Prod.mk.inj (Except.ok.inj done)).1.symm
  · cases done

theorem enqueue_refines (intact : db.Intact) {jobId planId : String} {atUnixMs : UInt64}
    {job : StoredJob} (done : enqueue db jobId planId atUnixMs = .ok (next, job)) :
    Refines allowed db next := by
  simp only [enqueue, Except.ite_error_eq_ok, Bool.not_eq_true] at done
  obtain ⟨named, done⟩ := done
  obtain ⟨old, found, applied⟩ := intact.transition_eq_ok done
  split at applied
  · rw [alreadyQueued_eq_ok applied]
    exact intact.refl
  · simp only [Except.bind_eq_ok] at applied
    obtain ⟨queued, queues, commits⟩ := applied
    exact intact.committed found (queueJob_edge named queues) rfl commits

theorem planAndEnqueue_refines (intact : db.Intact) {jobId planId : String} {atUnixMs : UInt64}
    {job : StoredJob} (done : planAndEnqueue db jobId planId atUnixMs = .ok (next, job)) :
    Refines allowed db next := by
  simp only [planAndEnqueue, Except.ite_error_eq_ok, Bool.not_eq_true] at done
  obtain ⟨named, done⟩ := done
  obtain ⟨old, found, applied⟩ := intact.transition_eq_ok done
  split at applied
  · rw [alreadyQueued_eq_ok applied]
    exact intact.refl
  · split at applied
    · next before =>
      simp only [Except.bind_eq_ok] at applied
      obtain ⟨planned, plans, written, writes, queued, queues, commits⟩ := applied
      have edge := planJob_edge before plans
      have first : Refines allowed db written := intact.moved found edge rfl writes
      have there : written.ledger.job planned.jobId = some planned := by
        rw [intact.readable.updateJob_eq_ok found edge writes,
          withJob_ledger (edge.wellShaped (intact.sound.job found).2.2)]
        simp
      exact first.trans
        ((intact.after first).committed there (queueJob_edge named queues) rfl commits)
    · simp only [Except.bind_eq_ok] at applied
      obtain ⟨queued, queues, commits⟩ := applied
      exact intact.committed found (queueJob_edge named queues) rfl commits

theorem failQueued_refines (intact : db.Intact) {jobId : String} {failure : QueueFailure}
    {atUnixMs : UInt64} {job : StoredJob}
    (done : failQueued db jobId failure atUnixMs = .ok (next, job)) : Refines allowed db next := by
  simp only [failQueued, Except.bind_eq_ok, Except.ensure_eq_ok] at done
  obtain ⟨_, explained, done⟩ := done
  obtain ⟨old, found, applied⟩ := intact.transition_eq_ok done
  split at applied
  · obtain ⟨rfl, _⟩ := Prod.mk.inj (Except.ok.inj applied)
    exact intact.refl
  · split at applied
    · cases applied
    · next before =>
      simp only [Except.bind_eq_ok, countUp_eq_ok] at applied
      obtain ⟨_, _, _, _, _, _, revision, counted, commits⟩ := applied
      exact intact.committed found
        (JobEdge.queueFailed (not_not.mp before) explained counted) rfl commits

end Queue

section Leases

/-- A live lease is written over with one of the same identity. -/
theorem ControlDb.Intact.leaseChanged (intact : db.Intact) {leaseId : String}
    {stored changed : StoredLease} (found : fetchLease db leaseId = some stored)
    (live : stored.revokedAtUnixMs = none) (same : changed.identity = stored.identity)
    (grace : stored.reassignmentGraceMs ≤ changed.reassignmentGraceMs)
    (term : changed.expiresAtUnixMs = stored.expiresAtUnixMs ∨
      (leaseId, changed.expiresAtUnixMs) ∈ allowed.renews) :
    Refines allowed db (writeLease db leaseId changed) := by
  have key := intact.sound.leaseKey (show db.ledger.lease leaseId = some stored from found)
  have named : leaseId = changed.leaseId := by
    rw [← key]
    exact (StoredLease.leaseId_of_identity same).symm
  refine intact.single rfl ?_
  rw [named, writeLease_ledger]
  exact @Step.leaseChanged allowed db.ledger stored changed (key ▸ found) live same grace
    (key ▸ term)

theorem getOrIssue_refines (intact : db.Intact) {candidate lease : StoredLease}
    {nowUnixMs : UInt64} (issues : allowed.issues)
    (done : getOrIssue db candidate nowUnixMs = .ok (next, lease)) : Refines allowed db next := by
  unfold getOrIssue at done
  cases found : fetchLease db candidate.leaseId with
  | some stored =>
      simp only [found, Except.bind_eq_ok, Except.ok.injEq, Prod.mk.injEq] at done
      obtain ⟨_, _, _, _, _, _, rfl, _⟩ := done
      exact intact.refl
  | none =>
      simp only [found, Except.ok.injEq, Prod.mk.injEq] at done
      obtain ⟨rfl, _⟩ := done
      refine intact.single rfl ?_
      rw [insertLease, show candidate.leaseId =
        { candidate with revokedAtUnixMs := none : StoredLease }.leaseId from rfl,
        writeLease_ledger]
      exact Step.leaseIssued found issues

theorem markRevoked_refines (intact : db.Intact) {leaseId : String} {revokedAtUnixMs : UInt64}
    {lease : StoredLease} (done : markRevoked db leaseId revokedAtUnixMs = .ok (next, lease)) :
    Refines allowed db next := by
  simp only [markRevoked, Except.bind_eq_ok, Except.ofOption_eq_ok] at done
  obtain ⟨stored, found, done⟩ := done
  split at done
  · next live =>
    obtain ⟨rfl, _⟩ := Prod.mk.inj (Except.ok.inj done)
    exact intact.leaseChanged found live (stored.revokedAt_identity revokedAtUnixMs)
      (UInt64.le_refl _) (Or.inl rfl)
  · obtain ⟨rfl, _⟩ := Prod.mk.inj (Except.ok.inj done)
    exact intact.refl

theorem StoredLease.raisedGrace_spec (lease : StoredLease) (atLeastMs : UInt64) :
    (lease.raisedGrace atLeastMs).identity = lease.identity ∧
      lease.reassignmentGraceMs ≤ (lease.raisedGrace atLeastMs).reassignmentGraceMs ∧
      (lease.raisedGrace atLeastMs).expiresAtUnixMs = lease.expiresAtUnixMs := by
  unfold StoredLease.raisedGrace
  split
  · next raised => exact ⟨rfl, UInt64.le_of_lt raised.2, rfl⟩
  · exact ⟨rfl, UInt64.le_refl _, rfl⟩

theorem raiseReassignmentGrace_refines (intact : db.Intact) {leaseId : String}
    {atLeastMs : UInt64} {lease : StoredLease}
    (done : raiseReassignmentGrace db leaseId atLeastMs = .ok (next, lease)) :
    Refines allowed db next := by
  simp only [raiseReassignmentGrace, Except.bind_eq_ok, Except.ofOption_eq_ok, Except.ok.injEq,
    Prod.mk.injEq] at done
  obtain ⟨raised, read, _, live, rfl, _⟩ := done
  simp only [fetchLease, Table.lookup_update, if_true, Option.map_eq_some_iff] at read
  obtain ⟨stored, found, rfl⟩ := read
  have liveBefore : stored.revokedAtUnixMs = none := by
    rw [ensureNotRevoked_eq_ok] at live
    unfold StoredLease.raisedGrace at live
    split at live <;> exact live
  have written : db.leases.update leaseId (·.raisedGrace atLeastMs) =
      db.leases.insert leaseId (stored.raisedGrace atLeastMs) := by
    simp only [Table.update, found]
  rw [written]
  obtain ⟨identity, higher, term⟩ := stored.raisedGrace_spec atLeastMs
  exact intact.leaseChanged found liveBefore identity higher (Or.inl term)

theorem renewExisting_refines (intact : db.Intact) {leaseId : String}
    {expiresAtUnixMs renewAfterUnixMs : UInt64} {lease : StoredLease}
    (renews : (leaseId, expiresAtUnixMs) ∈ allowed.renews)
    (done : renewExisting db leaseId expiresAtUnixMs renewAfterUnixMs = .ok (next, lease)) :
    Refines allowed db next := by
  simp only [renewExisting, Except.bind_eq_ok, Except.ofOption_eq_ok, ensureNotRevoked_eq_ok,
    Except.ok.injEq, Prod.mk.injEq] at done
  obtain ⟨stored, found, _, live, rfl, _⟩ := done
  exact intact.leaseChanged found live rfl (UInt64.le_refl _) (Or.inr renews)

theorem renewExistingWithinDuration_refines (intact : db.Intact) {leaseId : String}
    {nowUnixMs expiresAtUnixMs renewAfterUnixMs : UInt64} {decision : RenewDecision}
    (renews : (leaseId, expiresAtUnixMs) ∈ allowed.renews)
    (done : renewExistingWithinDuration db leaseId nowUnixMs expiresAtUnixMs renewAfterUnixMs =
      .ok (next, decision)) : Refines allowed db next := by
  simp only [renewExistingWithinDuration, Except.bind_eq_ok, Except.ofOption_eq_ok,
    ensureNotRevoked_eq_ok] at done
  obtain ⟨stored, found, _, live, _, _, done⟩ := done
  split at done
  · obtain ⟨rfl, _⟩ := Prod.mk.inj (Except.ok.inj done)
    exact intact.refl
  · obtain ⟨rfl, _⟩ := Prod.mk.inj (Except.ok.inj done)
    exact intact.leaseChanged found live rfl (UInt64.le_refl _) (Or.inr renews)

end Leases

end Gputeer.Coordinator
