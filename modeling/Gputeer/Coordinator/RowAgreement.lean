import Gputeer.Coordinator.ControlSafety
import Gputeer.Coordinator.GrantFromStored
import Gputeer.Coordinator.StagingReplay

/-! Attempt, lease and reservation rows agree in every state a run can reach, and which of the
refusals that compare them a grant request can still meet. -/

namespace Gputeer.Coordinator

open Protocol ControlDb

/-- The refusals that find two rows in disagreement. -/
def GrantRefusal.mismatch : GrantRefusal → Bool
  | .rowsDiffer _ _ _ | .fenceDiffers _ _ | .attemptOfOtherJob _ _ | .noReservation _
  | .reservedByOther _ _ _ => true
  | _ => false

variable {codec : Codec} {db : ControlDb} {request : StoredGrantRequest}
  {submitters : SignatureVerifier} {refusal : GrantRefusal}

theorem checkLease_refuses {lease : StoredLease}
    (refused : checkLease request lease = .error (.refused refusal)) : refusal.mismatch = false := by
  unfold checkLease at refused
  split at refused
  · cases refused
    rfl
  · simp only [Except.bind_eq_error, Except.ensure_eq_error, StoredGrantError.refused.injEq] at refused
    rcases refused with ⟨_, rfl⟩ | ⟨_, _, _, rfl⟩ <;> rfl

theorem checkManifest_refuses
    (refused : checkManifest codec db request submitters = .error (.refused refusal)) :
    refusal.mismatch = false := by
  simp only [checkManifest, Except.bind_eq_error, Except.ensure_eq_error, Except.mapError_eq_error,
    Except.ofOption_eq_error, StoredGrantError.refused.injEq] at refused
  rcases refused with ⟨fault, _, read⟩ | ⟨_, _, ⟨_, rfl⟩ | ⟨_, _, ⟨_, _, rfl⟩ | ⟨_, _, ⟨_, rfl⟩ |
    ⟨_, _, none⟩⟩⟩⟩
  · split at read
    · cases read
      rfl
    · cases read
  · rfl
  · rfl
  · rfl
  · cases none

theorem raiseForGrant_refuses {lease : StoredLease}
    (refused : raiseForGrant db request lease = .error (.refused refusal)) :
    refusal.mismatch = false := by
  unfold raiseForGrant at refused
  split at refused
  · cases refused
  · rw [Except.mapError_eq_error] at refused
    obtain ⟨fault, _, read⟩ := refused
    split at read
    · cases read
      rfl
    · cases read

theorem buildGrant_refuses {key : SigningKey} {poolModeDeclared : Bool} {facts : StoredGrantFacts}
    {stored : StoredLease}
    (refused : buildGrant codec request key poolModeDeclared facts stored =
      .error (.refused refusal)) : refusal.mismatch = false := by
  simp only [buildGrant, readResumePoint, verifyOwnOutput, Except.bind_eq_error,
    Except.mapError_eq_error, StoredGrantError.refused.injEq] at refused
  rcases refused with ⟨_, _, none⟩ | ⟨_, _, read | ⟨_, _, (⟨_, _, rfl⟩ | ⟨_, _, ⟨_, _, rfl⟩ |
    ⟨_, _, none⟩⟩) | ⟨_, _, none⟩⟩⟩
  · cases none
  · cases body : facts.job.resumeCheckpoint with
    | none => simp [body, Except.onSome] at read
    | some bytes =>
        cases decoded : codec.decodeCheckpointManifest bytes <;>
          simp [body, Except.onSome, decoded, Except.ofOption, Functor.map, Except.map] at read
  · rfl
  · rfl
  · cases none
  · cases none

/-- The rows are compared right after they were read. -/
theorem checkStoredGrant_mismatch (mismatch : refusal.mismatch = true)
    (refused : checkStoredGrant codec db request submitters = .error (.refused refusal)) :
    ∃ job attempt lease, fetchJob db request.jobId = .ok (some job) ∧
      (job.state = .staging ∨ job.state = .running) ∧
      fetchAttempt db request.attemptId = .ok (some attempt) ∧
      fetchLease db request.leaseId = some lease ∧
      (checkAttempt db request attempt lease = .error (.refused refusal) ∨
        checkAttempt db request attempt lease = .ok () ∧
          checkReservation db request lease = .error (.refused refusal)) := by
  simp only [checkStoredGrant, Except.bind_eq_error, Except.ensure_eq_error,
    Except.mapError_eq_error, Except.mapError_eq_ok, Except.ofOption_eq_error,
    Except.ofOption_eq_ok, Except.ensure_eq_ok, StoredGrantError.refused.injEq] at refused
  rcases refused with ⟨_, rfl⟩ | ⟨_, _, ⟨_, _, none⟩ | ⟨_, readJob, ⟨_, rfl⟩ | ⟨job, rfl, refused⟩⟩⟩
  · cases mismatch
  · cases none
  · cases mismatch
  rcases refused with ⟨_, rfl⟩ | ⟨_, runs, ⟨_, _, none⟩ | ⟨_, readAttempt, ⟨_, rfl⟩ |
    ⟨attempt, rfl, ⟨_, rfl⟩ | ⟨lease, readLease, refused⟩⟩⟩⟩
  · cases mismatch
  · cases none
  · cases mismatch
  · cases mismatch
  refine ⟨job, attempt, lease, readJob, runs, readAttempt, readLease, ?_⟩
  rcases refused with refused | ⟨_, passed, refused | ⟨_, _, refused | ⟨_, _, refused | ⟨_, _, none⟩⟩⟩⟩
  · exact Or.inl refused
  · exact Or.inr ⟨passed, refused⟩
  · exact absurd ((checkLease_refuses refused).symm.trans mismatch) (by simp)
  · exact absurd ((checkManifest_refuses refused).symm.trans mismatch) (by simp)
  · cases none

theorem signedGrantFromStored_mismatch {key : SigningKey} {poolModeDeclared : Bool}
    (mismatch : refusal.mismatch = true)
    (refused : (signedGrantFromStored codec db request key submitters poolModeDeclared).2 =
      .error (.refused refusal)) :
    checkStoredGrant codec db request submitters = .error (.refused refusal) := by
  unfold signedGrantFromStored at refused
  split at refused
  · next fault failed =>
    rw [failed, Except.error.inj refused]
  · split at refused
    · next fault failed =>
      rw [Except.error.inj refused] at failed
      exact absurd ((raiseForGrant_refuses failed).symm.trans mismatch) (by simp)
    · exact absurd ((buildGrant_refuses refused).symm.trans mismatch) (by simp)

section Rows

variable {attempt : StoredAttempt} {lease : StoredLease}

/-- Two rows of the same ids have the same fence, since each lease was issued for one attempt. -/
theorem ControlDb.Intact.fence_eq (intact : db.Intact) {leaseId : String}
    (found : db.ledger.attempt attempt.attemptId = some attempt)
    (leased : db.ledger.lease leaseId = some lease) (sameLease : attempt.leaseId = lease.leaseId) :
    lease.Covers attempt := by
  have key := intact.sound.leaseKey leased
  obtain ⟨own, ownLeased, covers⟩ := intact.sound.covered found
  rw [sameLease, key] at ownLeased
  obtain rfl : own = lease := Option.some.inj (ownLeased.symm.trans leased)
  exact covers

theorem checkAttempt_refuses (intact : db.Intact) {leaseId : String}
    (found : db.ledger.attempt attempt.attemptId = some attempt)
    (leased : db.ledger.lease leaseId = some lease)
    (refused : checkAttempt db request attempt lease = .error (.refused refusal)) :
    (∀ attemptEpoch leaseEpoch, refusal ≠ .fenceDiffers attemptEpoch leaseEpoch) ∧
      (attempt.jobId = request.jobId → attempt.leaseId = lease.leaseId →
        refusal.mismatch = false) := by
  simp only [checkAttempt, checkRowIds, Except.bind_eq_error, Except.ensure_eq_error,
    Except.bind_eq_ok, Except.ensure_eq_ok, StoredGrantError.refused.injEq] at refused
  have covers := fun sameLease => intact.fence_eq found leased sameLease
  rcases refused with (⟨other, rfl⟩ | ⟨_, _, ⟨other, rfl⟩ | ⟨_, _, other, rfl⟩⟩) |
    ⟨_, ⟨_, _, _, _, sameLease⟩, ⟨other, rfl⟩ | ⟨_, _, ⟨other, rfl⟩ | ⟨_, _, refused⟩⟩⟩
  · exact ⟨by simp, fun _ sameLease => absurd (covers sameLease).jobId.symm other⟩
  · exact ⟨by simp, fun _ sameLease => absurd (covers sameLease).attemptId.symm other⟩
  · exact ⟨by simp, fun _ sameLease => absurd sameLease other⟩
  · exact absurd (covers sameLease).fenceEpoch.symm other
  · exact ⟨by simp, fun ofJob _ => absurd ofJob other⟩
  · rcases refused with ⟨_, rfl⟩ | ⟨_, _, _, rfl⟩
    · exact ⟨by simp, fun _ _ => rfl⟩
    · exact ⟨by simp, fun _ _ => rfl⟩

theorem checkAttempt_eq_ok {done : Unit} (passed : checkAttempt db request attempt lease = .ok done) :
    latestAttemptForJob db request.jobId = some request.attemptId := by
  simp only [checkAttempt, Except.bind_eq_ok, Except.ensure_eq_ok] at passed
  obtain ⟨_, _, _, _, _, _, _, _, latest⟩ := passed
  exact latest

theorem checkReservation_refuses
    (refused : checkReservation db request lease = .error (.refused refusal)) :
    (∀ attemptEpoch leaseEpoch, refusal ≠ .fenceDiffers attemptEpoch leaseEpoch) ∧
      ∀ reservation, fetchNodeReservation db lease.holderNodeId = .ok (some reservation) →
        reservation.jobId = request.jobId → reservation.attemptId = request.attemptId → False := by
  simp only [checkReservation, Except.bind_eq_error, Except.ensure_eq_error,
    Except.mapError_eq_error, Except.mapError_eq_ok, Except.ofOption_eq_error,
    Except.ofOption_eq_ok, StoredGrantError.refused.injEq] at refused
  rcases refused with ⟨_, _, none⟩ | ⟨_, read, ⟨rfl, rfl⟩ | ⟨found, rfl, other, rfl⟩⟩
  · cases none
  · refine ⟨by simp, fun reservation there => ?_⟩
    rw [read] at there
    simp at there
  · refine ⟨by simp, fun reservation there ofJob ofAttempt => ?_⟩
    obtain rfl : found = reservation := Option.some.inj (Except.ok.inj (read.symm.trans there))
    exact other ⟨ofJob, ofAttempt⟩

end Rows

/-- A request that names a reserved attempt as it was staged, before anything was reported about it,
meets no disagreement between its rows. -/
theorem StagedReserving.no_mismatch {operations : List Operation} {staged : StageQueuedRequest}
    {inventoryRevision : UInt64}
    (stagedHere : StagedReserving codec operations staged inventoryRevision)
    (ofJob : request.jobId = staged.jobId) (ofAttempt : request.attemptId = staged.attemptId)
    (ofLease : request.leaseId = staged.leaseId)
    (unreported : ¬ (run codec operations).ledger.Reported staged.attemptId)
    (refused : checkStoredGrant codec (run codec operations) request submitters =
      .error (.refused refusal)) : refusal.mismatch = false := by
  by_contra mismatch
  rw [Bool.not_eq_false] at mismatch
  have intact := run_intact codec operations
  obtain ⟨job, attempt, lease, readJob, runs, readAttempt, readLease, compared⟩ :=
    checkStoredGrant_mismatch mismatch refused
  have held := stagedHere.holds.1
  obtain ⟨before, requireManifest, next, result, took, done, _⟩ := stagedHere
  obtain ⟨keeps, stagedAs, _, ⟨checked, valid⟩, canonical, _⟩ := reserveAndStage_keeps took done
  have there := fetchAttempt_eq_ok readAttempt
  rw [← intact.sound.attemptKey there] at there
  obtain ⟨kept, keptThere, same⟩ := keeps.attempt
  have key := intact.sound.attemptKey (fetchAttempt_eq_ok readAttempt)
  rw [← ofAttempt, ← key] at keptThere
  obtain rfl : kept = attempt := Option.some.inj (keptThere.symm.trans there)
  have leaseKey := intact.sound.leaseKey
    (show (run codec operations).ledger.lease request.leaseId = some lease from readLease)
  have sameLease : kept.leaseId = lease.leaseId := by
    rw [StoredAttempt.leaseId_of_assignment same, stagedAs.leaseId, leaseKey, ofLease]
  have sameJob : kept.jobId = request.jobId := by
    rw [StoredAttempt.jobId_of_assignment same, stagedAs.jobId, ofJob]
  rcases compared with refusedAttempt | ⟨passed, refusedNode⟩
  · have fits := (checkAttempt_refuses intact there readLease refusedAttempt).2 sameJob sameLease
    exact absurd (fits.symm.trans mismatch) (by simp)
  · obtain ⟨last, latest, lastKey, lastJob⟩ :=
      intact.latestAttemptForJob_iff.mp (checkAttempt_eq_ok passed)
    rw [intact.readable.fetchJob_eq, Except.ok.injEq] at readJob
    have current : (run codec operations).ledger.Current staged.attemptId :=
      ⟨last, job, latest, lastKey.trans ofAttempt, lastJob ▸ readJob, runs⟩
    obtain ⟨reservation, reserved, unmarked⟩ := held.2 current unreported
    have still : StillReserved (run codec operations) staged inventoryRevision :=
      ⟨reservation, reserved, unmarked⟩
    obtain ⟨found, read, own⟩ := still.fetch valid canonical
    have covers := intact.fence_eq there readLease sameLease
    have holder : lease.holderNodeId = staged.nodeId := by
      have nodes := covers.holder
      rw [StoredAttempt.nodeIds_of_assignment same, stagedAs.nodeIds] at nodes
      exact (List.singleton_inj.mp nodes).symm
    have marked := StoredNodeReservation.eq_of_unmarked
      (own.trans (show _ = (staged.toReservation inventoryRevision).unmarked from rfl))
    refine (checkReservation_refuses refusedNode).2 found (holder ▸ read) ?_ ?_
    · rw [marked, ofJob]
      rfl
    · rw [marked, ofAttempt]
      rfl

/-- The rows of an attempt agree in every state, whatever leases were issued beside it, and a new
attempt gets an epoch above all that were given out. So a grant is never refused because the fences
of an attempt and its lease differ, and a request for a reserved attempt under its own ids meets no
disagreement at all until a report of the attempt is stored. -/
theorem rows_agree (codec : Codec) (operations : List Operation) :
    (∀ (id : String) (attempt : StoredAttempt),
      (run codec operations).attempts[id]? = some attempt → attempt.attemptId = id ∧
      ∃ lease, (run codec operations).leases[attempt.leaseId]? = some lease ∧
        lease.Covers attempt ∧
        ∀ (key : String) (other : StoredLease), (run codec operations).leases[key]? = some other →
          other.leaseId = attempt.leaseId → other = lease) ∧
    (∀ (nodeId : String) (reservation : StoredNodeReservation),
      (run codec operations).nodeReservations[nodeId]? = some reservation →
      reservation.nodeId = nodeId ∧ ∃ attempt,
        (run codec operations).attempts[reservation.attemptId]? = some attempt ∧
        attempt.jobId = reservation.jobId ∧ attempt.nodeIds = [nodeId]) ∧
    (∀ (id other : String) (attempt rival : StoredAttempt),
      (run codec operations).attempts[id]? = some attempt →
      (run codec operations).attempts[other]? = some rival → id ≠ other →
      attempt.fenceEpoch ≠ rival.fenceEpoch) ∧
    (∀ (id : String) (attempt : StoredAttempt),
      (run codec operations).attempts[id]? = some attempt →
      ∃ counter, (run codec operations).maxIssuedEpoch = some counter ∧
        attempt.fenceEpoch ≤ counter) ∧
    (∀ (operation : Operation) (id : String) (attempt : StoredAttempt),
      (run codec operations).attempts[id]? = none →
      (step codec (run codec operations) operation).attempts[id]? = some attempt →
      (run codec operations).maxIssuedEpoch.getD 0 < attempt.fenceEpoch ∧
        ∀ (leaseId : String) (lease : StoredLease),
          (run codec operations).leases[leaseId]? = some lease →
          lease.fenceEpoch < attempt.fenceEpoch) ∧
    (∀ (request : StoredGrantRequest) (key : SigningKey) (submitters : SignatureVerifier)
        (poolModeDeclared : Bool) (attemptEpoch leaseEpoch : UInt64),
      (signedGrantFromStored codec (run codec operations) request key submitters
        poolModeDeclared).2 ≠ .error (.refused (.fenceDiffers attemptEpoch leaseEpoch))) ∧
    ∀ (staged : StageQueuedRequest) (inventoryRevision : UInt64) (request : StoredGrantRequest)
        (key : SigningKey) (submitters : SignatureVerifier) (poolModeDeclared : Bool)
        (refusal : GrantRefusal),
      StagedReserving codec operations staged inventoryRevision →
      request.jobId = staged.jobId → request.attemptId = staged.attemptId →
      request.leaseId = staged.leaseId →
      (∀ row ∈ (run codec operations).attemptReports, row.attemptId ≠ staged.attemptId) →
      (signedGrantFromStored codec (run codec operations) request key submitters
        poolModeDeclared).2 = .error (.refused refusal) →
      refusal.mismatch = false := by
  have intact := run_intact codec operations
  refine ⟨?_, ?_, ?_, ?_, ?_, ?_, ?_⟩
  · intro id attempt found
    obtain ⟨lease, leased, covers⟩ := intact.sound.covered
      (show (run codec operations).ledger.attempt id = some attempt from found)
    refine ⟨intact.sound.attemptKey found, lease, leased, covers, fun key other there named => ?_⟩
    have otherKey := intact.sound.leaseKey
      (show (run codec operations).ledger.lease key = some other from there)
    rw [← otherKey, named] at there
    exact Option.some.inj (there.symm.trans leased)
  · intro nodeId reservation found
    exact intact.sound.reserved found
  · intro id other attempt rival found foundRival different same
    exact different (intact.sound.distinct found foundRival same)
  · intro id attempt found
    exact intact.issued found
  · intro operation id attempt fresh found
    exact (step_refines codec intact operation).steps.attempt_new intact.sound fresh found
  · intro request key submitters poolModeDeclared attemptEpoch leaseEpoch refused
    obtain ⟨job, attempt, lease, _, _, readAttempt, readLease, compared⟩ :=
      checkStoredGrant_mismatch rfl (signedGrantFromStored_mismatch rfl refused)
    have there := fetchAttempt_eq_ok readAttempt
    rw [← intact.sound.attemptKey there] at there
    rcases compared with refusedAttempt | ⟨_, refusedNode⟩
    · exact (checkAttempt_refuses intact there readLease refusedAttempt).1 _ _ rfl
    · exact (checkReservation_refuses refusedNode).1 _ _ rfl
  · intro staged inventoryRevision request key submitters poolModeDeclared refusal stagedHere ofJob
      ofAttempt ofLease unreported refused
    by_contra mismatch
    rw [Bool.not_eq_false] at mismatch
    have fits := stagedHere.no_mismatch ofJob ofAttempt ofLease
      (fun ⟨_, row, listed, named⟩ => unreported row listed (Prod.mk.inj named).1)
      (signedGrantFromStored_mismatch mismatch refused)
    exact absurd (fits.symm.trans mismatch) (by simp)

section Reachable

/-- An attempt staged without a reservation, and beside it a lease that no attempt has. -/
def strayLeaseRun : List Operation :=
  [submitJob "job" 1, .planAndEnqueue "job" "plan" 20,
    .stageQueuedWithLease (stageRequest "job" "attempt" "lease" "node" 1),
    .getOrIssue
      ((stageRequest "other" "other-attempt" "stray" "node" 2).toLease 9) 50]

def grantRequest (leaseId : String) : StoredGrantRequest where
  jobId := "job"
  attemptId := "attempt"
  leaseId := leaseId
  grantId := "grant"
  issuedAtUnixMs := 200
  expiresAtUnixMs := 900
  nonce := List.replicate 16 3
  poolMode := false
  signedReassignmentGraceMs := 0

/-- Rows that disagree are met without any corruption: by a request that names a lease of its own
choice, and by one for an attempt that was staged without a reservation. -/
theorem mismatch_reached_without_corruption :
    (signedGrantFromStored plainCodec (run plainCodec strayLeaseRun) (grantRequest "stray")
        ⟨fun _ => [], fun _ _ => false⟩ (fun _ _ _ => .error .unknownSigner) false).2.map
        (fun _ => ()) =
      .error (.refused (.rowsDiffer "job_id" "job" "other")) ∧
    (signedGrantFromStored plainCodec (run plainCodec strayLeaseRun) (grantRequest "lease")
        ⟨fun _ => [], fun _ _ => false⟩ (fun _ _ _ => .error .unknownSigner) false).2.map
        (fun _ => ()) =
      .error (.refused (.noReservation "node")) := by
  decide +kernel

end Reachable

end Gputeer.Coordinator
