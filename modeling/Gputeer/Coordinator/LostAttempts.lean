import Gputeer.Coordinator.LateReports

/-! What a failover does to the jobs of lost nodes, and to everything else. -/

namespace Gputeer.Coordinator

open Protocol ControlDb

variable {codec : Codec} {db next : ControlDb} {policy : FailoverPolicy} {nowUnixMs : UInt64}

/-- The node that runs the latest attempt of this job is taken for lost. -/
structure Lost (db : ControlDb) (policy : FailoverPolicy) (nowUnixMs : UInt64) (job : StoredJob)
    (attempt : StoredAttempt) (lease : StoredLease) : Prop where
  found : fetchJob db job.jobId = .ok (some job)
  runs : job.state = .staging ∨ job.state = .running
  latest : db.ledger.Latest attempt
  ofJob : attempt.jobId = job.jobId
  unfinished : attempt.state ∉ [AttemptState.completed, .failed, .cancelled, .canonical, .superseded]
  leased : db.leases[attempt.leaseId]? = some lease
  overdue : lease.expiresAtUnixMs.toNat +
    (max policy.graceMs lease.reassignmentGraceMs).toNat < nowUnixMs.toNat

/-- A listed manifest that passes every check: its name, the signature of its producer, its job,
the fence and the node of the attempt that made it, and its files. -/
structure TrustedManifest (codec : Codec) (db : ControlDb) (policy : FailoverPolicy)
    (nowUnixMs : UInt64) (jobId : String) (body : List UInt8) (manifest : CheckpointManifest) :
    Prop where
  listed : ∃ root entries, policy.sharedCheckpointRoot = some root ∧
    root.listSignedManifests jobId = .ok entries ∧ (manifest.checkpointId, body) ∈ entries ∧
    root.verifyOnDisk manifest = .ok ()
  decoded : codec.decodeCheckpointManifest body = some manifest
  signed : checkMessage (fun bytes => (codec.blake3 bytes).toList) manifest 1 policy.verifier
    nowUnixMs = .ok ()
  ofJob : manifest.jobId = jobId
  made : ∃ attempt, db.attempts[manifest.attemptId]? = some attempt ∧ attempt.jobId = jobId ∧
    attempt.fenceEpoch = manifest.fenceEpoch ∧ manifest.producerNodeId ∈ attempt.nodeIds

/-- The order in which checkpoints are preferred. -/
def CheckpointManifest.rank (manifest : CheckpointManifest) : Lex (Nat × Nat) :=
  toLex (manifest.fenceEpoch.toNat, manifest.step.toNat)

/-- How a lost job goes on. -/
structure GoesOn (codec : Codec) (db : ControlDb) (policy : FailoverPolicy) (nowUnixMs : UInt64)
    (job updated : StoredJob) : Prop where
  staging : job.state = .staging →
    updated.state = .queued ∧ updated.resumeCheckpoint = job.resumeCheckpoint
  requeued : job.state = .running → (updated.state = .queued ↔
    ∃ body manifest, TrustedManifest codec db policy nowUnixMs job.jobId body manifest)
  resumes : job.state = .running → updated.state = .queued →
    ∃ body manifest, updated.resumeCheckpoint = some body ∧
      TrustedManifest codec db policy nowUnixMs job.jobId body manifest ∧
      ∀ otherBody other, TrustedManifest codec db policy nowUnixMs job.jobId otherBody other →
        CheckpointManifest.rank other ≤ CheckpointManifest.rank manifest
  abandoned : job.state = .running → updated.state ≠ .queued →
    updated.state = .failed ∧ updated.runTerminal = some .noCommittedCheckpoint

section ResumePoint

def ResumePoint.rank (point : ResumePoint) : Lex (Nat × Nat) :=
  toLex (point.fenceEpoch.toNat, point.step.toNat)

variable {root : SharedRoot} {jobId : String}

theorem betterPoint_eq (best : Option ResumePoint) (point : ResumePoint) :
    ∃ chosen, betterPoint best point = some chosen ∧ (chosen = point ∨ best = some chosen) ∧
      point.rank ≤ chosen.rank ∧ ∀ held ∈ best, held.rank ≤ chosen.rank := by
  cases best with
  | none => exact ⟨point, rfl, Or.inl rfl, le_refl _, by simp⟩
  | some held =>
      have ranks : held.rank < point.rank ↔ held.fenceEpoch < point.fenceEpoch ∨
          held.fenceEpoch = point.fenceEpoch ∧ held.step < point.step := by
        simp [ResumePoint.rank, Prod.Lex.toLex_lt_toLex, UInt64.lt_iff_toNat_lt, UInt64.toNat_inj]
      unfold betterPoint
      by_cases later : held.rank < point.rank
      · refine ⟨point, if_pos (ranks.mp later), Or.inl rfl, le_refl _, ?_⟩
        rintro _ ⟨rfl⟩
        exact le_of_lt later
      · refine ⟨held, if_neg (fun below => later (ranks.mpr below)), Or.inr rfl,
          not_lt.mp later, ?_⟩
        rintro _ ⟨rfl⟩
        exact le_refl _

/-- The fold over the listing keeps a greatest one of the trusted points. -/
theorem bestPoint_eq_ok (listed : List (String × List UInt8)) {best result : Option ResumePoint}
    (found : bestPoint codec db policy root jobId nowUnixMs best listed = .ok result) :
    (∀ checkpointId body, (checkpointId, body) ∈ listed → ∃ trusted,
      trustedPoint codec db policy root jobId checkpointId body nowUnixMs = .ok trusted ∧
      ∀ point ∈ trusted, ∃ chosen ∈ result, point.rank ≤ chosen.rank) ∧
    (∀ held ∈ best, ∃ chosen ∈ result, held.rank ≤ chosen.rank) ∧
    ∀ chosen ∈ result, chosen ∈ best ∨ ∃ checkpointId body, (checkpointId, body) ∈ listed ∧
      trustedPoint codec db policy root jobId checkpointId body nowUnixMs = .ok (some chosen) := by
  induction listed generalizing best with
  | nil =>
      obtain rfl := Except.ok.inj found
      exact ⟨by simp, fun held there => ⟨held, there, le_refl _⟩, fun chosen there => Or.inl there⟩
  | cons entry rest ih =>
      obtain ⟨firstId, firstBody⟩ := entry
      simp only [bestPoint, Except.bind_eq_ok] at found
      obtain ⟨trusted, read, found⟩ := found
      cases trusted with
      | none =>
          obtain ⟨greatest, above, origin⟩ := ih found
          refine ⟨?_, above, ?_⟩
          · intro checkpointId body listed
            rcases List.mem_cons.mp listed with first | later
            · obtain ⟨rfl, rfl⟩ := Prod.mk.inj first
              exact ⟨none, read, by simp⟩
            · exact greatest checkpointId body later
          · intro chosen there
            rcases origin chosen there with held | ⟨checkpointId, body, later, point⟩
            · exact Or.inl held
            · exact Or.inr ⟨checkpointId, body, List.mem_cons_of_mem _ later, point⟩
      | some point =>
          obtain ⟨better, betters, comes, abovePoint, aboveBest⟩ := betterPoint_eq best point
          obtain ⟨greatest, above, origin⟩ := ih found
          obtain ⟨final, there, aboveBetter⟩ := above better betters
          refine ⟨?_, ?_, ?_⟩
          · intro checkpointId body listed
            rcases List.mem_cons.mp listed with first | later
            · obtain ⟨rfl, rfl⟩ := Prod.mk.inj first
              refine ⟨some point, read, ?_⟩
              rintro _ ⟨rfl⟩
              exact ⟨final, there, abovePoint.trans aboveBetter⟩
            · exact greatest checkpointId body later
          · intro held inBest
            exact ⟨final, there, (aboveBest held inBest).trans aboveBetter⟩
          · intro chosen inResult
            rcases origin chosen inResult with held | ⟨checkpointId, body, later, trusted⟩
            · obtain rfl : better = chosen := Option.some.inj (betters.symm.trans held)
              rcases comes with rfl | old
              · exact Or.inr ⟨firstId, firstBody, List.mem_cons_self, read⟩
              · exact Or.inl old
            · exact Or.inr ⟨checkpointId, body, List.mem_cons_of_mem _ later, trusted⟩

/-- What the checks on a listed manifest come down to. -/
theorem trustedPoint_eq_ok {checkpointId : String} {body : List UInt8}
    {trusted : Option ResumePoint} {entries : List (String × List UInt8)}
    (shared : policy.sharedCheckpointRoot = some root)
    (lists : root.listSignedManifests jobId = .ok entries)
    (listed : (checkpointId, body) ∈ entries)
    (read : trustedPoint codec db policy root jobId checkpointId body nowUnixMs = .ok trusted) :
    (∀ point ∈ trusted, ∃ manifest,
      TrustedManifest codec db policy nowUnixMs jobId body manifest ∧
      point.rank = CheckpointManifest.rank manifest ∧ point.body = body) ∧
    ∀ manifest, manifest.checkpointId = checkpointId →
      TrustedManifest codec db policy nowUnixMs jobId body manifest →
      ∃ point ∈ trusted, point.rank = CheckpointManifest.rank manifest ∧ point.body = body := by
  unfold trustedPoint at read
  cases decoded : codec.decodeCheckpointManifest body with
  | none =>
      simp only [decoded, Except.ok.injEq] at read
      subst read
      refine ⟨by simp, fun manifest _ holds => ?_⟩
      exact absurd (decoded.symm.trans holds.decoded) (by simp)
  | some manifest =>
      have only : ∀ other, TrustedManifest codec db policy nowUnixMs jobId body other →
          manifest = other := fun _ holds => Option.some.inj (decoded.symm.trans holds.decoded)
      simp only [decoded] at read
      rcases ite_eq_iff.mp read with ⟨skipped, nothing⟩ | ⟨passed, read⟩
      · obtain rfl := Except.ok.inj nothing
        refine ⟨by simp, fun other named holds => ?_⟩
        obtain rfl := only other holds
        simp [named, holds.signed, holds.ofJob] at skipped
      · obtain ⟨named, signed, ofJob⟩ : manifest.checkpointId = checkpointId ∧
            checkMessage (fun bytes => (codec.blake3 bytes).toList) manifest 1 policy.verifier
              nowUnixMs = .ok () ∧ manifest.jobId = jobId := by
          cases checked : checkMessage (fun bytes => (codec.blake3 bytes).toList) manifest 1
              policy.verifier nowUnixMs with
          | error fault => simp [checked] at passed
          | ok done =>
              simp only [checked, not_or, not_not] at passed
              exact ⟨passed.1, rfl, passed.2.2⟩
        simp only [Except.bind_eq_ok, Except.mapError_eq_ok] at read
        obtain ⟨found, fetched, read⟩ := read
        cases found with
        | none =>
            obtain rfl := Except.ok.inj read
            refine ⟨by simp, fun other _ holds => ?_⟩
            obtain rfl := only other holds
            obtain ⟨attempt, there, _⟩ := holds.made
            exact absurd (there.symm.trans (fetchAttempt_eq_none fetched)) (by simp)
        | some attempt =>
            have there := fetchAttempt_eq_ok fetched
            rcases ite_eq_iff.mp read with ⟨foreign, nothing⟩ | ⟨own, read⟩
            · obtain rfl := Except.ok.inj nothing
              refine ⟨by simp, fun other _ holds => ?_⟩
              obtain rfl := only other holds
              obtain ⟨maker, present, made⟩ := holds.made
              obtain rfl : attempt = maker := Option.some.inj (there.symm.trans present)
              tauto
            · simp only [not_or, not_not] at own
              cases disk : root.verifyOnDisk manifest with
              | error fault =>
                  simp only [disk, Bool.false_eq_true, not_false_eq_true, if_true,
                    Except.ok.injEq] at read
                  subst read
                  refine ⟨by simp, fun other _ holds => ?_⟩
                  obtain rfl := only other holds
                  obtain ⟨otherRoot, _, sameRoot, _, _, whole⟩ := holds.listed
                  obtain rfl : root = otherRoot := Option.some.inj (shared.symm.trans sameRoot)
                  exact absurd (disk.symm.trans whole) (by simp)
              | ok done =>
                  simp only [disk, not_true_eq_false, if_false, Except.ok.injEq] at read
                  subst read
                  refine ⟨?_, fun other _ holds => ?_⟩
                  · rintro _ ⟨rfl⟩
                    exact ⟨manifest, ⟨⟨root, entries, shared, lists, named ▸ listed, disk⟩, decoded,
                      signed, ofJob, attempt, there, own⟩, rfl, rfl⟩
                  · obtain rfl := only other holds
                    exact ⟨_, rfl, rfl, rfl⟩

/-- The search for a point to resume from finds a trusted one that no other trusted one comes
after, or there is none. -/
theorem findResumePoint_eq_ok {resume : Option ResumePoint}
    (found : findResumePoint codec db policy jobId nowUnixMs false = .ok resume) :
    (resume.isSome ↔
      ∃ body manifest, TrustedManifest codec db policy nowUnixMs jobId body manifest) ∧
    ∀ point ∈ resume, ∃ manifest,
      TrustedManifest codec db policy nowUnixMs jobId point.body manifest ∧
      ∀ otherBody other, TrustedManifest codec db policy nowUnixMs jobId otherBody other →
        CheckpointManifest.rank other ≤ CheckpointManifest.rank manifest := by
  unfold findResumePoint at found
  cases shared : policy.sharedCheckpointRoot with
  | none =>
      simp only [shared, Except.ok.injEq] at found
      subst found
      refine ⟨⟨by simp, ?_⟩, by simp⟩
      rintro ⟨body, manifest, holds⟩
      obtain ⟨root, _, there, _⟩ := holds.listed
      exact absurd (shared.symm.trans there) (by simp)
  | some root =>
      simp only [shared] at found
      cases lists : root.listSignedManifests jobId with
      | error fault => simp [lists] at found
      | ok entries =>
          simp only [lists] at found
          obtain ⟨greatest, _, origin⟩ := bestPoint_eq_ok entries found
          have above : ∀ body manifest, TrustedManifest codec db policy nowUnixMs jobId body manifest →
              ∃ chosen ∈ resume, CheckpointManifest.rank manifest ≤ chosen.rank := by
            intro body manifest holds
            obtain ⟨otherRoot, otherEntries, sameRoot, sameEntries, listed, _⟩ := holds.listed
            obtain rfl : root = otherRoot := Option.some.inj (shared.symm.trans sameRoot)
            obtain rfl : entries = otherEntries := Except.ok.inj (lists.symm.trans sameEntries)
            obtain ⟨trusted, read, below⟩ := greatest _ _ listed
            obtain ⟨point, inTrusted, rank, _⟩ :=
              (trustedPoint_eq_ok shared lists listed read).2 manifest rfl holds
            exact rank ▸ below point inTrusted
          have made : ∀ chosen ∈ resume, ∃ manifest,
              TrustedManifest codec db policy nowUnixMs jobId chosen.body manifest ∧
              chosen.rank = CheckpointManifest.rank manifest := by
            intro chosen there
            obtain ⟨checkpointId, body, listed, read⟩ := (origin chosen there).resolve_left (by simp)
            obtain ⟨manifest, holds, rank, rfl⟩ :=
              (trustedPoint_eq_ok shared lists listed read).1 chosen rfl
            exact ⟨manifest, holds, rank⟩
          refine ⟨⟨fun some => ?_, ?_⟩, fun chosen there => ?_⟩
          · obtain ⟨chosen, there⟩ := Option.isSome_iff_exists.mp some
            obtain ⟨manifest, holds, _⟩ := made chosen there
            exact ⟨chosen.body, manifest, holds⟩
          · rintro ⟨body, manifest, holds⟩
            obtain ⟨chosen, there, _⟩ := above body manifest holds
            exact Option.isSome_iff_exists.mpr ⟨chosen, there⟩
          · obtain ⟨manifest, holds, rank⟩ := made chosen there
            refine ⟨manifest, holds, fun otherBody other trusts => ?_⟩
            obtain ⟨rival, inResume, below⟩ := above otherBody other trusts
            obtain rfl : rival = chosen := Option.some.inj (inResume.symm.trans there)
            exact rank ▸ below

end ResumePoint

section TakeOver

/-- What one transaction of the loop leaves behind where it took a job over. -/
structure TakesOver (codec : Codec) (policy : FailoverPolicy) (nowUnixMs : UInt64)
    (db next : ControlDb) (job : StoredJob) (attempt : StoredAttempt) (lease : StoredLease)
    (updated : StoredJob) : Prop where
  lost : Lost db policy nowUnixMs job attempt lease
  goesOn : GoesOn codec db policy nowUnixMs job updated
  shaped : updated.WellShaped
  jobs : next.jobs = db.jobs.insert job.jobId (RawJobRow.ofStored updated)
  attempts : next.attempts = db.attempts
  leases : next.leases = db.leases.insert attempt.leaseId (lease.revokedAt nowUnixMs)
  reservations : ∀ nodeId, attempt.nodeIds = [nodeId] →
    next.nodeReservations = (markReservationExpired db nodeId nowUnixMs).nodeReservations

theorem lostLease_eq_ok {attempt : StoredAttempt} {lost : Option StoredLease}
    (read : lostLease db policy attempt nowUnixMs = .ok lost) (lease : StoredLease) :
    lost = some lease ↔
      attempt.state ∉ [AttemptState.completed, .failed, .cancelled, .canonical, .superseded] ∧
        db.leases[attempt.leaseId]? = some lease ∧
        lease.expiresAtUnixMs.toNat + (max policy.graceMs lease.reassignmentGraceMs).toNat <
          nowUnixMs.toNat := by
  unfold lostLease at read
  split at read
  · next finished =>
    obtain rfl := Except.ok.inj read
    refine ⟨by simp, fun stays => absurd ?_ stays.1⟩
    simpa [AttemptState.isOver] using finished
  · next unfinished =>
    have unended : attempt.state ∉
        [AttemptState.completed, .failed, .cancelled, .canonical, .superseded] := by
      simpa [AttemptState.isOver] using unfinished
    simp only [Except.bind_eq_ok, Except.ofOption_eq_ok] at read
    obtain ⟨stored, there, read⟩ := read
    have bound := nowUnixMs.toNat_lt
    -- the saturated sum is past only where the exact one is
    have past : ¬ nowUnixMs ≤ stored.expiresAtUnixMs.saturatingAdd
        (max policy.graceMs stored.reassignmentGraceMs) ↔
        stored.expiresAtUnixMs.toNat + (max policy.graceMs stored.reassignmentGraceMs).toNat <
          nowUnixMs.toNat := by
      rw [UInt64.le_iff_toNat_le, UInt64.toNat_saturatingAdd]
      omega
    have stored_iff : db.leases[attempt.leaseId]? = some lease ↔ stored = lease := by
      rw [show db.leases[attempt.leaseId]? = some stored from there, Option.some.injEq]
    rw [stored_iff]
    split at read
    · next early =>
      obtain rfl := Except.ok.inj read
      refine ⟨by simp, ?_⟩
      rintro ⟨_, rfl, late⟩
      exact absurd early (past.mpr late)
    · next late =>
      obtain rfl := Except.ok.inj read
      rw [Option.some.injEq]
      refine ⟨fun same => ⟨unended, same, ?_⟩, fun found => found.2.1⟩
      exact same ▸ past.mp late

theorem requeueAfterNodeLost_goesOn {job updated : StoredJob} {resume : Option ResumePoint}
    (resumes : lostResumePoint codec db policy job nowUnixMs = .ok resume)
    (done : requeueAfterNodeLost db job (resume.map (·.body)) nowUnixMs = .ok (next, updated)) :
    GoesOn codec db policy nowUnixMs job updated := by
  simp only [requeueAfterNodeLost, Except.bind_eq_ok, Except.mapError_eq_ok] at done
  obtain ⟨path, lost, state, walked, done⟩ := done
  unfold lostResumePoint at resumes
  unfold nodeLostPath at lost
  split at lost
  · next staging =>
    rw [if_neg (by simp [staging])] at resumes
    obtain rfl := Except.ok.inj resumes
    obtain rfl := Except.ok.inj lost
    rw [staging] at walked
    obtain rfl := Except.ok.inj walked
    simp only [if_true, Except.bind_eq_ok, commitJob_eq_ok] at done
    obtain ⟨_, _, _, _, _, rfl⟩ := done
    constructor <;> intro running <;> simp_all
  · next running present =>
    rw [if_pos running] at resumes
    obtain ⟨trusts, best⟩ := findResumePoint_eq_ok resumes
    obtain rfl := Except.ok.inj lost
    rw [running] at walked
    obtain rfl := Except.ok.inj walked
    simp only [if_true, Except.bind_eq_ok, commitJob_eq_ok] at done
    obtain ⟨_, _, _, _, _, rfl⟩ := done
    obtain ⟨point, rfl⟩ := Option.isSome_iff_exists.mp (by simpa using present)
    obtain ⟨manifest, holds, greatest⟩ := best point rfl
    constructor
    · intro staging
      simp [running] at staging
    · intro _
      exact ⟨fun _ => ⟨point.body, manifest, holds⟩, fun _ => rfl⟩
    · intro _ _
      exact ⟨point.body, manifest, rfl, holds, greatest⟩
    · intro _ left
      exact absurd rfl left
  · next running absent =>
    rw [if_pos running] at resumes
    obtain ⟨trusts, _⟩ := findResumePoint_eq_ok resumes
    obtain rfl := Except.ok.inj lost
    rw [running] at walked
    obtain rfl := Except.ok.inj walked
    simp only [reduceCtorEq, if_false, Except.bind_eq_ok, commitJob_eq_ok] at done
    obtain ⟨_, _, _, rfl⟩ := done
    have none : ¬ ∃ body manifest, TrustedManifest codec db policy nowUnixMs job.jobId body manifest := by
      rw [← trusts]
      simpa using absent
    constructor
    · intro staging
      simp [running] at staging
    · intro _
      exact ⟨fun queued => (by cases queued), fun found => absurd found none⟩
    · intro _ queued
      cases queued
    · intro _ _
      exact ⟨rfl, rfl⟩
  · cases lost

theorem takeOver_eq_ok (intact : db.Intact) {job : StoredJob} {attempt : StoredAttempt}
    {lease : StoredLease} {outcome : FailoverOutcome}
    (lost : Lost db policy nowUnixMs job attempt lease)
    (named : ∀ nodeId, attempt.nodeIds = [nodeId] → nodeId ≠ "")
    (done : takeOver codec db policy job attempt nowUnixMs = .ok (next, outcome)) :
    ∃ updated, TakesOver codec policy nowUnixMs db next job attempt lease updated := by
  have found := lost.found
  rw [intact.readable.fetchJob_eq, Except.ok.injEq] at found
  simp only [takeOver, revokeWithin, Except.bind_eq_ok, Except.mapError_eq_ok,
    Except.ofOption_eq_ok, Except.ok.injEq, Prod.mk.injEq] at done
  obtain ⟨resume, resumes, ⟨moved, updated⟩, requeues, revoked, ⟨stored, leased, rfl⟩, rfl, _⟩ := done
  have filled : resume.map (·.body) ≠ some [] := by
    unfold lostResumePoint at resumes
    split at resumes
    · exact findResumePoint_body
        (Text.ne_empty_of_not_isBlank (intact.sound.job found).2.1) resumes
    · obtain rfl := Except.ok.inj resumes
      simp
  obtain ⟨move, edge, _, writes⟩ := requeueAfterNodeLost_edge filled requeues
  obtain rfl := intact.readable.updateJob_eq_ok found edge writes
  obtain rfl : stored = lease := Option.some.inj (Eq.trans leased.symm lost.leased)
  refine ⟨updated, lost, requeueAfterNodeLost_goesOn resumes requeues,
    edge.wellShaped (intact.sound.job found).2.2, ?_, ?_, ?_, ?_⟩
  · rw [← edge.jobId_eq]
    split <;> rfl
  · split <;> rfl
  · split <;> rfl
  · intro nodeId nodes
    rw [nodes, List.head?_cons, Option.getD_some, if_neg (named nodeId nodes)]
    rfl

theorem fetchAttempt_named {attemptId nodeId : String} {attempt : StoredAttempt}
    (read : fetchAttempt db attemptId = .ok (some attempt)) (nodes : attempt.nodeIds = [nodeId]) :
    nodeId ≠ "" := by
  unfold fetchAttempt at read
  cases row : db.attempts[attemptId]? with
  | none => simp [row, Except.onSome] at read
  | some stored =>
      simp only [row, Except.onSome, Except.map_eq_ok, Except.ite_error_eq_ok, Except.ok.injEq,
        Option.some.injEq] at read
      obtain ⟨_, ⟨shape, rfl⟩, rfl⟩ := read
      refine Text.ne_empty_of_not_isBlank ?_
      simp only [not_or, nodes, List.any_cons, List.any_nil, Bool.or_false] at shape
      simpa using shape.2

/-- A transaction of the loop changes nothing, because the job is not lost, or takes it over. -/
theorem failoverJob_eq_ok (intact : db.Intact) {jobId : String} {outcome : Option FailoverOutcome}
    (done : failoverJob codec db policy jobId nowUnixMs = .ok (next, outcome)) :
    next = db ∧ (∀ job attempt lease, job.jobId = jobId →
        ¬ Lost db policy nowUnixMs job attempt lease) ∨
      ∃ job attempt lease updated, job.jobId = jobId ∧
        TakesOver codec policy nowUnixMs db next job attempt lease updated := by
  simp only [failoverJob, intact.readable.fetchJob_eq, Except.bind_eq_ok,
    Except.mapError_eq_ok, Except.ok.injEq] at done
  obtain ⟨_, rfl, done⟩ := done
  have stored : ∀ {job : StoredJob} {attempt : StoredAttempt} {lease : StoredLease},
      Lost db policy nowUnixMs job attempt lease → db.ledger.job job.jobId = some job := by
    intro job attempt lease lost
    have found := lost.found
    rwa [intact.readable.fetchJob_eq, Except.ok.injEq] at found
  cases found : db.ledger.job jobId with
  | none =>
      simp only [found, Except.ok.injEq, Prod.mk.injEq] at done
      refine Or.inl ⟨done.1.symm, fun job attempt lease same lost => ?_⟩
      rw [← same, stored lost] at found
      cases found
  | some job =>
      obtain rfl := (intact.sound.job found).1
      have only : ∀ {other : StoredJob} {attempt : StoredAttempt} {lease : StoredLease},
          other.jobId = job.jobId → Lost db policy nowUnixMs other attempt lease → other = job := by
        intro other attempt lease same lost
        exact Option.some.inj ((same ▸ stored lost).symm.trans found)
      simp only [found] at done
      split at done
      · next idle =>
        refine Or.inl ⟨(Prod.mk.inj (Except.ok.inj done)).1.symm, fun other attempt lease same lost => ?_⟩
        obtain rfl := only same lost
        have := lost.runs
        tauto
      · next runs =>
        split at done
        · next absent =>
          refine Or.inl ⟨(Prod.mk.inj (Except.ok.inj done)).1.symm,
            fun other attempt lease same lost => ?_⟩
          have query := intact.latestAttemptForJob_iff.mpr
            ⟨attempt, lost.latest, rfl, lost.ofJob.trans same⟩
          exact absurd (absent.symm.trans query) (by simp)
        · next attemptId query =>
          simp only [Except.bind_eq_ok, Except.mapError_eq_ok, Except.ofOption_eq_ok] at done
          obtain ⟨_, read, attempt, rfl, lostly, leases, done⟩ := done
          obtain ⟨latest, ofJob⟩ := intact.latest_of_fetch query read
          have late := lostLease_eq_ok leases
          cases lostly with
          | none =>
              refine Or.inl ⟨(Prod.mk.inj (Except.ok.inj done)).1.symm,
                fun other rival lease same lost => ?_⟩
              obtain rfl := intact.sound.latest_unique lost.latest latest
                (lost.ofJob.trans (same.trans ofJob.symm))
              exact absurd ((late lease).mpr ⟨lost.unfinished, lost.leased, lost.overdue⟩) (by simp)
          | some lease =>
              simp only [Except.bind_eq_ok, Except.ok.injEq, Prod.mk.injEq] at done
              obtain ⟨⟨moved, _⟩, takes, rfl, _⟩ := done
              obtain ⟨unfinished, leased, overdue⟩ := (late lease).mp rfl
              have lost : Lost db policy nowUnixMs job attempt lease := by
                refine ⟨?_, by tauto, latest, ofJob, unfinished, leased, overdue⟩
                rw [intact.readable.fetchJob_eq, found]
              obtain ⟨updated, taken⟩ := takeOver_eq_ok intact lost
                (fun nodeId nodes => fetchAttempt_named read nodes) takes
              exact Or.inr ⟨job, attempt, lease, updated, rfl, taken⟩

end TakeOver

section Others

/-- What the mark makes of a reservation: the first suspicion stands. -/
def StoredNodeReservation.suspectedAt (reservation : StoredNodeReservation)
    (atUnixMs : UInt64) : StoredNodeReservation :=
  if reservation.expiredAtUnixMs = none then
    { reservation with expiredAtUnixMs := some atUnixMs }
  else reservation

theorem StoredNodeReservation.suspectedAt_twice (reservation : StoredNodeReservation)
    (atUnixMs : UInt64) :
    (reservation.suspectedAt atUnixMs).suspectedAt atUnixMs = reservation.suspectedAt atUnixMs := by
  by_cases free : reservation.expiredAtUnixMs = none <;> simp [suspectedAt, free]

theorem markReservationExpired_lookup (db : ControlDb) (nodeId other : String)
    (atUnixMs : UInt64) :
    (markReservationExpired db nodeId atUnixMs).nodeReservations[other]? =
      if nodeId = other then db.nodeReservations[other]?.map (·.suspectedAt atUnixMs)
      else db.nodeReservations[other]? :=
  Table.lookup_update

theorem TrustedManifest.congr {jobId : String} {body : List UInt8} {manifest : CheckpointManifest}
    (same : next.attempts = db.attempts) :
    TrustedManifest codec next policy nowUnixMs jobId body manifest ↔
      TrustedManifest codec db policy nowUnixMs jobId body manifest := by
  constructor
  · intro holds
    exact ⟨holds.listed, holds.decoded, holds.signed, holds.ofJob, same ▸ holds.made⟩
  · intro holds
    exact ⟨holds.listed, holds.decoded, holds.signed, holds.ofJob, same.symm ▸ holds.made⟩

theorem GoesOn.congr {job updated : StoredJob} (same : next.attempts = db.attempts)
    (goesOn : GoesOn codec next policy nowUnixMs job updated) :
    GoesOn codec db policy nowUnixMs job updated where
  staging := goesOn.staging
  requeued := by
    simpa only [TrustedManifest.congr same] using goesOn.requeued
  resumes := by
    simpa only [TrustedManifest.congr same] using goesOn.resumes
  abandoned := goesOn.abandoned

namespace TakesOver

variable {job : StoredJob} {attempt : StoredAttempt} {lease : StoredLease} {updated : StoredJob}

/-- Another job is lost before and after the transaction, or neither. -/
theorem lost_other (intact : db.Intact)
    (takes : TakesOver codec policy nowUnixMs db next job attempt lease updated) {other : StoredJob}
    {rival : StoredAttempt} {rivalLease : StoredLease} (different : other.jobId ≠ job.jobId) :
    Lost next policy nowUnixMs other rival rivalLease ↔
      Lost db policy nowUnixMs other rival rivalLease := by
  have sameJob : fetchJob next other.jobId = fetchJob db other.jobId := by
    simp only [fetchJob, takes.jobs, Table.lookup_insert_ne (Ne.symm different)]
  have sameAttempt : next.ledger.attempt = db.ledger.attempt := by
    simp only [ledger, takes.attempts]
  have sameLatest : next.ledger.Latest rival ↔ db.ledger.Latest rival := by
    constructor <;> intro latest <;> constructor
    · exact sameAttempt ▸ latest.present
    · exact sameAttempt ▸ latest.greatest
    · exact sameAttempt.symm ▸ latest.present
    · exact sameAttempt.symm ▸ latest.greatest
  have sameLease : db.ledger.Latest rival → rival.jobId = other.jobId →
      next.leases[rival.leaseId]? = db.leases[rival.leaseId]? := by
    intro latest ofJob
    rw [takes.leases, Table.lookup_insert_ne]
    intro shared
    -- a lease covers one attempt
    obtain ⟨held, there, covers⟩ := intact.sound.covered takes.lost.latest.present
    obtain ⟨heldToo, thereToo, coversToo⟩ := intact.sound.covered latest.present
    rw [← shared] at thereToo
    obtain rfl : held = heldToo := Option.some.inj (there.symm.trans thereToo)
    have present := latest.present
    rw [← coversToo.attemptId, covers.attemptId, takes.lost.latest.present,
      Option.some.injEq] at present
    exact different (ofJob.symm.trans (present ▸ takes.lost.ofJob))
  constructor
  · intro lost
    have latest := sameLatest.mp lost.latest
    exact ⟨sameJob ▸ lost.found, lost.runs, latest, lost.ofJob, lost.unfinished,
      sameLease latest lost.ofJob ▸ lost.leased, lost.overdue⟩
  · intro lost
    exact ⟨sameJob ▸ lost.found, lost.runs, sameLatest.mpr lost.latest, lost.ofJob,
      lost.unfinished, (sameLease lost.latest lost.ofJob).trans lost.leased, lost.overdue⟩

theorem job_next (takes : TakesOver codec policy nowUnixMs db next job attempt lease updated) :
    next.jobs[job.jobId]? = some (RawJobRow.ofStored updated) := by
  simp [takes.jobs]

theorem job_other (takes : TakesOver codec policy nowUnixMs db next job attempt lease updated)
    {id : String} (different : id ≠ job.jobId) : next.jobs[id]? = db.jobs[id]? := by
  rw [takes.jobs, Table.lookup_insert_ne (Ne.symm different)]

theorem fetch_final (takes : TakesOver codec policy nowUnixMs db next job attempt lease updated)
    {final : ControlDb} (same : final.jobs[job.jobId]? = next.jobs[job.jobId]?) :
    fetchJob final job.jobId = .ok (some updated) := by
  simp [fetchJob, same, takes.job_next, Except.onSome, RawJobRow.intoStored_ofStored takes.shaped,
    Functor.map, Except.map]

/-- A job is taken over once. -/
theorem not_lost_next (takes : TakesOver codec policy nowUnixMs db next job attempt lease updated)
    {other : StoredJob} {rival : StoredAttempt} {rivalLease : StoredLease}
    (same : other.jobId = job.jobId) : ¬ Lost next policy nowUnixMs other rival rivalLease := by
  intro lost
  have found := lost.found
  rw [same, takes.fetch_final rfl] at found
  obtain rfl : updated = other := Option.some.inj (Except.ok.inj found)
  have left : updated.state = .queued ∨ updated.state = .failed := by
    rcases takes.lost.runs with staging | running
    · exact Or.inl (takes.goesOn.staging staging).1
    · by_cases queued : updated.state = .queued
      · exact Or.inl queued
      · exact Or.inr (takes.goesOn.abandoned running queued).1
  have runs := lost.runs
  rcases left with queued | failed
  · simp [queued] at runs
  · simp [failed] at runs

/-- The node whose reservation the transaction marks. -/
theorem onNode (intact : db.Intact)
    (takes : TakesOver codec policy nowUnixMs db next job attempt lease updated) :
    ∃ nodeId, attempt.nodeIds = [nodeId] ∧ ∀ other, next.nodeReservations[other]? =
      if nodeId = other then db.nodeReservations[other]?.map (·.suspectedAt nowUnixMs)
      else db.nodeReservations[other]? := by
  obtain ⟨_, _, covers⟩ := intact.sound.covered takes.lost.latest.present
  refine ⟨_, covers.holder, fun other => ?_⟩
  rw [takes.reservations _ covers.holder, markReservationExpired_lookup]

end TakesOver

end Others

section Loop

/-- The job was taken over. -/
def MovedOn (codec : Codec) (db final : ControlDb) (policy : FailoverPolicy) (nowUnixMs : UInt64)
    (job : StoredJob) : Prop :=
  ∃ updated, fetchJob final job.jobId = .ok (some updated) ∧
    GoesOn codec db policy nowUnixMs job updated

/-- What the loop over some jobs leaves behind, whether it ends early or not. -/
structure LoopLeaves (codec : Codec) (policy : FailoverPolicy) (nowUnixMs : UInt64)
    (listed : List StoredJob) (db final : ControlDb) : Prop where
  attempts : final.attempts = db.attempts
  jobs : ∀ id, final.jobs[id]? = db.jobs[id]? ∨ ∃ job attempt lease, job.jobId = id ∧
    id ∈ listed.map (·.jobId) ∧ Lost db policy nowUnixMs job attempt lease ∧
    MovedOn codec db final policy nowUnixMs job
  reservations : ∀ nodeId, final.nodeReservations[nodeId]? = db.nodeReservations[nodeId]? ∨
    (∃ job attempt lease, Lost db policy nowUnixMs job attempt lease ∧
      attempt.nodeIds = [nodeId]) ∧
    final.nodeReservations[nodeId]? =
      db.nodeReservations[nodeId]?.map (·.suspectedAt nowUnixMs)

/-- What it leaves behind where no transaction failed. -/
structure LoopCompletes (codec : Codec) (policy : FailoverPolicy) (nowUnixMs : UInt64)
    (listed : List StoredJob) (db final : ControlDb) : Prop where
  jobs : ∀ job attempt lease, job.jobId ∈ listed.map (·.jobId) →
    Lost db policy nowUnixMs job attempt lease → MovedOn codec db final policy nowUnixMs job
  reservations : ∀ job attempt lease nodeId, job.jobId ∈ listed.map (·.jobId) →
    Lost db policy nowUnixMs job attempt lease → attempt.nodeIds = [nodeId] →
    final.nodeReservations[nodeId]? =
      db.nodeReservations[nodeId]?.map (·.suspectedAt nowUnixMs)

section Cons

variable {listed : List StoredJob} {first : StoredJob} {final : ControlDb}

theorem MovedOn.congr {job : StoredJob} (same : next.attempts = db.attempts)
    (moved : MovedOn codec next final policy nowUnixMs job) :
    MovedOn codec db final policy nowUnixMs job := by
  obtain ⟨updated, found, goesOn⟩ := moved
  exact ⟨updated, found, goesOn.congr same⟩

theorem LoopLeaves.cons_kept (leaves : LoopLeaves codec policy nowUnixMs listed db final) :
    LoopLeaves codec policy nowUnixMs (first :: listed) db final where
  attempts := leaves.attempts
  jobs := by
    intro id
    rcases leaves.jobs id with same | ⟨job, attempt, lease, named, later, changed⟩
    · exact Or.inl same
    · exact Or.inr ⟨job, attempt, lease, named, List.mem_cons_of_mem _ later, changed⟩
  reservations := leaves.reservations

theorem LoopCompletes.cons_kept (completes : LoopCompletes codec policy nowUnixMs listed db final)
    (kept : ∀ job attempt lease, job.jobId = first.jobId →
      ¬ Lost db policy nowUnixMs job attempt lease) :
    LoopCompletes codec policy nowUnixMs (first :: listed) db final where
  jobs := by
    intro job attempt lease among lost
    rcases List.mem_cons.mp among with same | later
    · exact absurd lost (kept job attempt lease same)
    · exact completes.jobs job attempt lease later lost
  reservations := by
    intro job attempt lease nodeId among lost
    rcases List.mem_cons.mp among with same | later
    · exact absurd lost (kept job attempt lease same)
    · exact completes.reservations job attempt lease nodeId later lost

variable {job : StoredJob} {attempt : StoredAttempt} {lease : StoredLease} {updated : StoredJob}
  (intact : db.Intact) (named : job.jobId = first.jobId)
  (takes : TakesOver codec policy nowUnixMs db next job attempt lease updated)

include intact named takes

theorem LoopLeaves.cons_taken (leaves : LoopLeaves codec policy nowUnixMs listed next final)
    (fresh : ∀ id ∈ listed.map (·.jobId), id ≠ job.jobId) :
    LoopLeaves codec policy nowUnixMs (first :: listed) db final where
  attempts := leaves.attempts.trans takes.attempts
  jobs := by
    intro id
    rcases leaves.jobs id with same | ⟨other, rival, rivalLease, rfl, later, lost, moved⟩
    · by_cases own : id = job.jobId
      · subst own
        exact Or.inr ⟨job, attempt, lease, rfl, named ▸ List.mem_cons_self, takes.lost, updated,
          takes.fetch_final same, takes.goesOn⟩
      · exact Or.inl (same.trans (takes.job_other own))
    · exact Or.inr ⟨other, rival, rivalLease, rfl, List.mem_cons_of_mem _ later,
        (takes.lost_other intact (fresh _ later)).mp lost, moved.congr takes.attempts⟩
  reservations := by
    intro nodeId
    obtain ⟨ownNode, nodes, marks⟩ := takes.onNode intact
    rcases leaves.reservations nodeId with same | ⟨⟨other, rival, rivalLease, lost, onIt⟩, marked⟩
    · rw [same, marks]
      by_cases own : ownNode = nodeId
      · rw [if_pos own]
        exact Or.inr ⟨⟨job, attempt, lease, takes.lost, own ▸ nodes⟩, rfl⟩
      · rw [if_neg own]
        exact Or.inl rfl
    · have different : other.jobId ≠ job.jobId := fun same => takes.not_lost_next same lost
      refine Or.inr ⟨⟨other, rival, rivalLease, (takes.lost_other intact different).mp lost, onIt⟩, ?_⟩
      rw [marked, marks]
      split
      · simp [Option.map_map, Function.comp_def, StoredNodeReservation.suspectedAt_twice]
      · rfl

theorem LoopCompletes.cons_taken (completes : LoopCompletes codec policy nowUnixMs listed next final)
    (leaves : LoopLeaves codec policy nowUnixMs listed next final)
    (fresh : ∀ id ∈ listed.map (·.jobId), id ≠ job.jobId) :
    LoopCompletes codec policy nowUnixMs (first :: listed) db final where
  jobs := by
    intro other rival rivalLease among lost
    by_cases own : other.jobId = job.jobId
    · have found := lost.found
      rw [own, takes.lost.found, Except.ok.injEq, Option.some.injEq] at found
      subst found
      rcases leaves.jobs job.jobId with same | ⟨_, _, _, _, later, _⟩
      · exact ⟨updated, takes.fetch_final same, takes.goesOn⟩
      · exact absurd rfl (fresh _ later)
    · have later := (List.mem_cons.mp among).resolve_left (fun same => own (same.trans named.symm))
      exact (completes.jobs other rival rivalLease later
        ((takes.lost_other intact own).mpr lost)).congr takes.attempts
  reservations := by
    intro other rival rivalLease nodeId among lost onIt
    obtain ⟨ownNode, nodes, marks⟩ := takes.onNode intact
    by_cases own : other.jobId = job.jobId
    · have sameAttempt := intact.sound.latest_unique lost.latest takes.lost.latest
        (lost.ofJob.trans (own.trans takes.lost.ofJob.symm))
      rw [sameAttempt, nodes] at onIt
      obtain rfl := List.singleton_inj.mp onIt
      have next := marks ownNode
      rw [if_pos rfl] at next
      rcases leaves.reservations ownNode with same | ⟨_, marked⟩
      · exact same.trans next
      · rw [marked, next]
        simp [Option.map_map, Function.comp_def, StoredNodeReservation.suspectedAt_twice]
    · have later := (List.mem_cons.mp among).resolve_left (fun same => own (same.trans named.symm))
      rw [completes.reservations other rival rivalLease nodeId later
        ((takes.lost_other intact own).mpr lost) onIt, marks]
      split
      · simp [Option.map_map, Function.comp_def, StoredNodeReservation.suspectedAt_twice]
      · rfl

end Cons

theorem failoverEach_leaves (listed : List StoredJob) (intact : db.Intact)
    (distinct : (listed.map (·.jobId)).Nodup) :
    LoopLeaves codec policy nowUnixMs listed db
        (failoverEach codec policy nowUnixMs db listed).1 ∧
      ∀ outcomes, (failoverEach codec policy nowUnixMs db listed).2 = .ok outcomes →
        LoopCompletes codec policy nowUnixMs listed db
          (failoverEach codec policy nowUnixMs db listed).1 := by
  induction listed generalizing db with
  | nil =>
      refine ⟨⟨rfl, fun _ => Or.inl rfl, fun _ => Or.inl rfl⟩, fun _ _ => ⟨?_, ?_⟩⟩
      · intro job attempt lease listed
        simp at listed
      · intro job attempt lease nodeId listed
        simp at listed
  | cons first rest ih =>
      simp only [List.map_cons, List.nodup_cons] at distinct
      unfold failoverEach
      cases done : failoverJob codec db policy first.jobId nowUnixMs with
      | error fault =>
          refine ⟨⟨rfl, fun _ => Or.inl rfl, fun _ => Or.inl rfl⟩, fun _ failed => ?_⟩
          cases failed
      | ok answer =>
          obtain ⟨next, outcome⟩ := answer
          have refines : Refines ⟨∅, ∅, ∅, False, ∅, False, False⟩ db next := failoverJob_refines intact done
          obtain ⟨leaves, completes⟩ := ih (intact.after refines) distinct.2
          dsimp only
          have completed : ∀ outcomes, (outcome.toList ++ ·) <$>
              (failoverEach codec policy nowUnixMs next rest).2 = .ok outcomes →
              LoopCompletes codec policy nowUnixMs rest next
                (failoverEach codec policy nowUnixMs next rest).1 := by
            intro outcomes whole
            obtain ⟨later, finished, _⟩ := Except.map_eq_ok.mp whole
            exact completes later finished
          rcases failoverJob_eq_ok intact done with
            ⟨rfl, kept⟩ | ⟨job, attempt, lease, updated, named, takes⟩
          · exact ⟨leaves.cons_kept, fun outcomes whole => (completed outcomes whole).cons_kept kept⟩
          · have fresh : ∀ id ∈ rest.map (·.jobId), id ≠ job.jobId := by
              rintro id listed rfl
              exact distinct.1 (named ▸ listed)
            exact ⟨leaves.cons_taken intact named takes fresh, fun outcomes whole =>
              (completed outcomes whole).cons_taken intact named takes leaves fresh⟩

theorem mapM_intoStored {rows : List RawJobRow} {listed : List StoredJob}
    (readable : ∀ row ∈ rows, ∃ job : StoredJob, job.WellShaped ∧ row = RawJobRow.ofStored job)
    (read : rows.mapM RawJobRow.intoStored = .ok listed) :
    listed.map (·.jobId) = rows.map (·.jobId) := by
  induction rows generalizing listed with
  | nil =>
      obtain rfl := Except.ok.inj read
      rfl
  | cons row rest ih =>
      obtain ⟨job, shaped, rfl⟩ := readable row List.mem_cons_self
      simp only [List.mapM_cons, RawJobRow.intoStored_ofStored shaped, Except.bind_eq_ok,
        Except.pure_eq_ok] at read
      obtain ⟨_, same, later, reads, rfl⟩ := read
      obtain rfl := Except.ok.inj same
      simp only [List.map_cons, ih (fun row among => readable row (List.mem_cons_of_mem _ among)) reads]
      rfl

/-- The failover looks at every job that is staged or runs, once. -/
theorem listInRunStates_eq_ok (policy : FailoverPolicy) (nowUnixMs : UInt64) (intact : db.Intact)
    {listed : List StoredJob}
    (read : listInRunStates db = .ok listed) :
    (listed.map (·.jobId)).Nodup ∧ ∀ job attempt lease,
      Lost db policy nowUnixMs job attempt lease → job.jobId ∈ listed.map (·.jobId) := by
  have keyed : ∀ id row, db.jobs[id]? = some row → ∃ job : StoredJob, job.WellShaped ∧
      row = RawJobRow.ofStored job ∧ row.jobId = id := by
    intro id row there
    obtain ⟨job, shaped, named, rfl⟩ := intact.readable id row there
    exact ⟨job, shaped, rfl, named⟩
  have ids := mapM_intoStored (fun row among => by
    obtain ⟨id, there⟩ := Table.mem_rows.mp (List.mem_filter.mp among).1
    obtain ⟨job, shaped, same, _⟩ := keyed id row there
    exact ⟨job, shaped, same⟩) read
  rw [ids]
  constructor
  · refine List.Nodup.sublist (List.filter_sublist.map _) ?_
    rw [Table.rows, List.map_map, List.Nodup, List.pairwise_map]
    refine List.Pairwise.imp_of_mem ?_ Std.ExtTreeMap.distinct_keys_toList
    intro first second inFirst inSecond different same
    obtain ⟨_, _, _, firstKey⟩ := keyed _ _ (Table.mem_toList.mp inFirst)
    obtain ⟨_, _, _, secondKey⟩ := keyed _ _ (Table.mem_toList.mp inSecond)
    refine different (Std.LawfulEqCmp.compare_eq_iff_eq.mpr ?_)
    rw [← firstKey, ← secondKey]
    exact same
  · intro job attempt lease lost
    have found := lost.found
    rw [intact.readable.fetchJob_eq, Except.ok.injEq] at found
    have row := (intact.readable.of_job found).2
    refine List.mem_map.mpr ⟨RawJobRow.ofStored job, List.mem_filter.mpr ⟨?_, ?_⟩, rfl⟩
    · exact Table.mem_rows.mpr ⟨_, row⟩
    · have column : (RawJobRow.ofStored job).state = job.state.tableName := rfl
      rcases lost.runs with staging | running
      · simp [column, staging, JobState.tableName]
      · simp [column, running, JobState.tableName]

theorem failoverLostAttempts_leaves (codec : Codec) (policy : FailoverPolicy) (nowUnixMs : UInt64)
    (intact : db.Intact) :
    LoopLeaves codec policy nowUnixMs ((listInRunStates db).toOption.getD []) db
        (failoverLostAttempts codec db policy nowUnixMs).1 ∧
      ∀ outcomes, (failoverLostAttempts codec db policy nowUnixMs).2 = .ok outcomes →
        LoopCompletes codec policy nowUnixMs ((listInRunStates db).toOption.getD []) db
          (failoverLostAttempts codec db policy nowUnixMs).1 := by
  unfold failoverLostAttempts
  cases read : listInRunStates db with
  | error fault =>
      refine ⟨⟨rfl, fun _ => Or.inl rfl, fun _ => Or.inl rfl⟩, fun _ failed => ?_⟩
      cases failed
  | ok listed =>
      have distinct := (listInRunStates_eq_ok policy nowUnixMs intact read).1
      exact failoverEach_leaves listed intact distinct

end Loop

/-- A lost job is taken over if its row changed or the call succeeded. -/
theorem failoverLostAttempts_moves (intact : db.Intact) {job : StoredJob} {attempt : StoredAttempt}
    {lease : StoredLease} (lost : Lost db policy nowUnixMs job attempt lease)
    (handled : (failoverLostAttempts codec db policy nowUnixMs).1.jobs[job.jobId]? ≠
        db.jobs[job.jobId]? ∨
      ∃ outcomes, (failoverLostAttempts codec db policy nowUnixMs).2 = .ok outcomes) :
    MovedOn codec db (failoverLostAttempts codec db policy nowUnixMs).1 policy nowUnixMs job := by
  obtain ⟨leaves, completes⟩ :=
    failoverLostAttempts_leaves codec policy nowUnixMs intact
  rcases handled with changed | ⟨outcomes, whole⟩
  · obtain ⟨other, _, _, named, _, otherLost, moved⟩ := (leaves.jobs job.jobId).resolve_left changed
    have found := otherLost.found
    rw [named, lost.found, Except.ok.injEq, Option.some.injEq] at found
    exact found ▸ moved
  · refine (completes outcomes whole).jobs job attempt lease ?_ lost
    cases read : listInRunStates db with
    | error fault => simp [failoverLostAttempts, read] at whole
    | ok listed => exact (listInRunStates_eq_ok policy nowUnixMs intact read).2 job attempt lease lost

section Marks

/-- The call changes no reservation but by the mark, and marks those of lost attempts only. -/
def MarksOnlyLost (db final : ControlDb) (policy : FailoverPolicy) (nowUnixMs : UInt64) : Prop :=
  ∀ (nodeId : String) (reservation : StoredNodeReservation),
    db.nodeReservations[nodeId]? = some reservation →
    final.nodeReservations[nodeId]? ≠ some reservation →
    final.nodeReservations[nodeId]? =
        some { reservation with expiredAtUnixMs := some nowUnixMs } ∧
      ∃ job attempt lease, Lost db policy nowUnixMs job attempt lease ∧
        attempt.attemptId = reservation.attemptId

/-- A reservation without a mark on the node of a lost attempt is that of a lost attempt. -/
def LostNodesOwn (db : ControlDb) (policy : FailoverPolicy) (nowUnixMs : UInt64) : Prop :=
  ∀ (job : StoredJob) (attempt : StoredAttempt) (lease : StoredLease) (nodeId : String)
    (reservation : StoredNodeReservation),
    Lost db policy nowUnixMs job attempt lease → attempt.nodeIds = [nodeId] →
    db.nodeReservations[nodeId]? = some reservation → reservation.expiredAtUnixMs = none →
    ∃ ownJob owner ownLease, Lost db policy nowUnixMs ownJob owner ownLease ∧
      owner.attemptId = reservation.attemptId

theorem marksOnlyLost_of_nodesOwn {listed : List StoredJob} {final : ControlDb}
    (leaves : LoopLeaves codec policy nowUnixMs listed db final)
    (own : LostNodesOwn db policy nowUnixMs) : MarksOnlyLost db final policy nowUnixMs := by
  intro nodeId reservation reserved changed
  rcases leaves.reservations nodeId with same | ⟨⟨job, attempt, lease, lost, nodes⟩, marked⟩
  · exact absurd (same.trans reserved) changed
  · rw [reserved, Option.map_some] at marked
    have free : reservation.expiredAtUnixMs = none := by
      by_contra already
      rw [StoredNodeReservation.suspectedAt, if_neg already] at marked
      exact changed marked
    rw [StoredNodeReservation.suspectedAt, if_pos free] at marked
    exact ⟨marked, own job attempt lease nodeId reservation lost nodes reserved free⟩

theorem nodesOwn_of_marksOnlyLost {listed : List StoredJob} {final : ControlDb}
    (completes : LoopCompletes codec policy nowUnixMs listed db final)
    (all : ∀ job attempt lease, Lost db policy nowUnixMs job attempt lease →
      job.jobId ∈ listed.map (·.jobId))
    (marks : MarksOnlyLost db final policy nowUnixMs) : LostNodesOwn db policy nowUnixMs := by
  intro job attempt lease nodeId reservation lost nodes reserved free
  have marked := completes.reservations job attempt lease nodeId (all job attempt lease lost) lost nodes
  rw [reserved, Option.map_some, StoredNodeReservation.suspectedAt, if_pos free] at marked
  refine (marks nodeId reservation reserved ?_).2
  rw [marked, Ne, Option.some.injEq]
  intro same
  have := congrArg StoredNodeReservation.expiredAtUnixMs same
  rw [free] at this
  cases this

end Marks

/-- A failover changes the jobs of lost attempts only, and moves each of them on from its stored
state and the best trusted checkpoint. It marks by node, so it marks the reservations of lost attempts
only exactly as long as no other attempt holds an unmarked reservation on the node of a lost one. -/
theorem failover_marks_lost_iff_nodes_own (codec : Codec) (operations : List Operation)
    (policy : FailoverPolicy) (nowUnixMs : UInt64) :
    (∀ jobId, (failoverLostAttempts codec (run codec operations) policy nowUnixMs).1.jobs[jobId]? ≠
        (run codec operations).jobs[jobId]? →
      ∃ job attempt lease, job.jobId = jobId ∧
        Lost (run codec operations) policy nowUnixMs job attempt lease ∧
        MovedOn codec (run codec operations)
          (failoverLostAttempts codec (run codec operations) policy nowUnixMs).1 policy nowUnixMs
          job) ∧
    (∀ outcomes,
      (failoverLostAttempts codec (run codec operations) policy nowUnixMs).2 = .ok outcomes →
      ∀ job attempt lease, Lost (run codec operations) policy nowUnixMs job attempt lease →
        MovedOn codec (run codec operations)
          (failoverLostAttempts codec (run codec operations) policy nowUnixMs).1 policy nowUnixMs
          job) ∧
    (LostNodesOwn (run codec operations) policy nowUnixMs →
      MarksOnlyLost (run codec operations)
        (failoverLostAttempts codec (run codec operations) policy nowUnixMs).1 policy nowUnixMs) ∧
    ∀ outcomes,
      (failoverLostAttempts codec (run codec operations) policy nowUnixMs).2 = .ok outcomes →
      (MarksOnlyLost (run codec operations)
          (failoverLostAttempts codec (run codec operations) policy nowUnixMs).1 policy nowUnixMs ↔
        LostNodesOwn (run codec operations) policy nowUnixMs) := by
  have intact := run_intact codec operations
  obtain ⟨leaves, completes⟩ :=
    failoverLostAttempts_leaves codec policy nowUnixMs intact
  have all : ∀ outcomes,
      (failoverLostAttempts codec (run codec operations) policy nowUnixMs).2 = .ok outcomes →
      ∀ job attempt lease, Lost (run codec operations) policy nowUnixMs job attempt lease →
        job.jobId ∈
          ((listInRunStates (run codec operations)).toOption.getD []).map (·.jobId) := by
    intro outcomes whole job attempt lease lost
    cases read : listInRunStates (run codec operations) with
    | error fault => simp [failoverLostAttempts, read] at whole
    | ok listed => exact (listInRunStates_eq_ok policy nowUnixMs intact read).2 job attempt lease lost
  refine ⟨fun jobId changed => ?_, ?_, marksOnlyLost_of_nodesOwn leaves, ?_⟩
  · obtain ⟨job, attempt, lease, named, _, lost, moved⟩ := (leaves.jobs jobId).resolve_left changed
    exact ⟨job, attempt, lease, named, lost, moved⟩
  · intro outcomes whole job attempt lease lost
    exact failoverLostAttempts_moves intact lost (Or.inr ⟨outcomes, whole⟩)
  · intro outcomes whole
    exact ⟨nodesOwn_of_marksOnlyLost (completes outcomes whole) (all outcomes whole),
      marksOnlyLost_of_nodesOwn leaves⟩

section NodeTakenOver

def interruptedReport : AttemptReport :=
  { completedReport with outcome := 3, finalStep := 0, exitCode := 1 }

def interruptedCodec : Codec :=
  reportCodec interruptedReport
    ([8, 2, 18, 3, 106, 111, 98, 26, 7, 97, 116, 116, 101, 109, 112, 116, 34, 4, 110, 111, 100, 101,
      40, 1, 80, 3, 96, 200, 1, 104, 172, 2, 112, 2, 120, 1, 192, 2, 172, 2, 210, 5, 64] ++
      List.replicate 64 5)
    #v[10, 66, 35, 95, 139, 232, 100, 141, 220, 51, 179, 129, 154, 244, 48, 126,
      117, 60, 143, 222, 250, 96, 131, 138, 110, 213, 1, 9, 81, 170, 154, 85]

/-- A node reports, before the first renewal, that its run was interrupted, and is released; then it
is reserved for another job. -/
def takenOverRun : List Operation :=
  [submitJob "job" 1, .planAndEnqueue "job" "plan" 20, .recordInventory "node" ⟨1, ["gpu-0"]⟩,
    .reserveAndStage (stageRequest "job" "attempt" "lease" "node" 1) 1 false,
    .storeVerifiedTerminalReport ⟨interruptedReport, "node", .notApplicable⟩
      (some (⟨.observedExitInSignedReport, .authoritativeDirectoryVerifiedByCaller,
        .notApplicableNonCompleted⟩, 400)) (some ⟨plainPolicy, 400⟩),
    submitJob "next-job" 2, .planAndEnqueue "next-job" "plan" 500,
    .reserveAndStage
      { stageRequest "next-job" "next-attempt" "next-lease" "node" 2 with
        issuedAtUnixMs := 2000, renewAfterUnixMs := 2500, expiresAtUnixMs := 3000 } 1 false]

/-- The failover of the first job marks the reservation of the second, whose lease still runs. -/
theorem failover_marks_live_reservation :
    ¬ MarksOnlyLost (run interruptedCodec takenOverRun)
      (failoverLostAttempts interruptedCodec (run interruptedCodec takenOverRun) plainPolicy
        2600).1 plainPolicy 2600 := by
  intro marks
  have reserved : ((run interruptedCodec takenOverRun).nodeReservations["node"]?.map
      fun reservation => (reservation.attemptId, reservation.expiredAtUnixMs)) =
      some ("next-attempt", none) := by
    decide +kernel
  have marked : ((failoverLostAttempts interruptedCodec (run interruptedCodec takenOverRun)
      plainPolicy 2600).1.nodeReservations["node"]?.map
      fun reservation => (reservation.attemptId, reservation.expiredAtUnixMs)) =
      some ("next-attempt", some 2600) := by
    decide +kernel
  have held : ((run interruptedCodec takenOverRun).attempts["next-attempt"]?.map (·.leaseId)) =
      some "next-lease" := by
    decide +kernel
  have runs : ((run interruptedCodec takenOverRun).leases["next-lease"]?.map
      (·.expiresAtUnixMs)) = some 3000 := by
    decide +kernel
  obtain ⟨reservation, there, fields⟩ := Option.map_eq_some_iff.mp reserved
  obtain ⟨owner, free⟩ := Prod.mk.inj fields
  have changed : (failoverLostAttempts interruptedCodec (run interruptedCodec takenOverRun)
      plainPolicy 2600).1.nodeReservations["node"]? ≠ some reservation := by
    intro same
    rw [same, Option.map_some, free] at marked
    simp at marked
  obtain ⟨_, job, attempt, lease, lost, named⟩ := marks "node" reservation there changed
  have present := lost.latest.present
  rw [named, owner] at present
  rw [show (run interruptedCodec takenOverRun).attempts["next-attempt"]? = some attempt from present,
    Option.map_some, Option.some.injEq] at held
  have leased := lost.leased
  rw [held] at leased
  rw [leased, Option.map_some, Option.some.injEq] at runs
  have overdue := lost.overdue
  rw [runs] at overdue
  exact absurd overdue (by simp; omega)

end NodeTakenOver

end Gputeer.Coordinator
