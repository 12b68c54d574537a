import Gputeer.Coordinator.SessionRuns

/-! The leases that were signed and sent, against the row that a failover waits for. A node acts on
any lease it was sent, also where the answer to a later renewal never reached it. -/

namespace Gputeer.Coordinator

open Protocol ControlDb

variable {codec : Codec} {world after : World}

/-- A renewal does not bring the expiry of its lease forward. -/
def KeepsTerm (world : World) : SessionEvent → Prop
  | .renew plan => ∀ stored, Renews world plan stored →
      stored.expiresAtUnixMs ≤ plan.nowUnixMs + plan.extensionMs
  | _ => True

/-- The stored row promises at least as much as this one. -/
structure Outlasted (db : ControlDb) (lease : StoredLease) : Prop where
  row : ∃ stored, db.leases[lease.leaseId]? = some stored ∧ stored.identity = lease.identity ∧
    lease.expiresAtUnixMs ≤ stored.expiresAtUnixMs ∧
    lease.reassignmentGraceMs ≤ stored.reassignmentGraceMs

/-- The signed lease makes the promise of this row. -/
structure SignedFrom (signed : Lease) (lease : StoredLease) : Prop where
  attemptId : signed.attemptId = lease.attemptId
  expires : signed.expiresAtUnixMs = lease.expiresAtUnixMs
  grace : signed.reassignmentGraceMs = lease.reassignmentGraceMs

/-- The invariant: what is on its way to a signature and what was sent is outlasted by the table. -/
structure Promised (world : World) : Prop where
  covered : ∀ {id : String} {lease : StoredLease}, world.db.leases[id]? = some lease →
    ∃ attempt, world.db.attempts[attempt.attemptId]? = some attempt ∧ lease.Covers attempt
  renewed : ∀ lease ∈ world.renewed, Outlasted world.db lease
  checked : ∀ pair ∈ world.checked, Outlasted world.db pair.2.lease
  sent : ∀ signed ∈ world.sent, ∃ lease, Outlasted world.db lease ∧ SignedFrom signed lease

theorem Outlasted.stored {db : ControlDb} {lease : StoredLease}
    (found : db.leases[lease.leaseId]? = some lease) : Outlasted db lease :=
  ⟨lease, found, rfl, UInt64.le_refl _, UInt64.le_refl _⟩

theorem Outlasted.next {lease : StoredLease} (outlasted : Outlasted world.db lease)
    {event : SessionEvent} (takes : Takes codec world event after) (intact : world.db.Intact)
    (keeps : KeepsTerm world event) : Outlasted after.db lease := by
  obtain ⟨stored, found, same, term, grace⟩ := outlasted.row
  obtain ⟨changed, now, kept, raised, extended⟩ := takes.lease_kept intact found
  refine ⟨changed, now, kept.trans same, ?_, UInt64.le_trans grace raised⟩
  rcases extended with unmoved | ⟨plan, rfl, renews, given⟩
  · exact unmoved ▸ term
  · exact given ▸ UInt64.le_trans term (keeps stored renews)

theorem storedToSignedLease_from {key : SigningKey} {lease : StoredLease} {signed : Lease}
    (signs : storedToSignedLease key lease = .ok signed) : SignedFrom signed lease := by
  simp only [storedToSignedLease, unsignedLeaseFromStored, Except.bind_eq_ok, Except.ok.injEq] at signs
  obtain ⟨_, ⟨_, _, rfl⟩, rfl⟩ := signs
  exact ⟨rfl, rfl, rfl⟩

theorem raiseReassignmentGrace_stored {db next : ControlDb} {leaseId : String} {atLeastMs : UInt64}
    {resolved : StoredLease} (intact : next.Intact)
    (raised : raiseReassignmentGrace db leaseId atLeastMs = .ok (next, resolved)) :
    Outlasted next resolved := by
  simp only [raiseReassignmentGrace, Except.bind_eq_ok, Except.ofOption_eq_ok, Except.ok.injEq,
    Prod.mk.injEq] at raised
  obtain ⟨stored, found, _, _, rfl, rfl⟩ := raised
  exact Outlasted.stored ((intact.sound.leaseKey found).symm ▸ found)

theorem withSignedReassignmentGrace_outlasted {config : RenewConfig} {db next : ControlDb}
    {lease resolved : StoredLease} (intact : next.Intact) (outlasted : Outlasted db lease)
    (raised : withSignedReassignmentGrace config db lease = .ok (next, resolved)) :
    Outlasted next resolved := by
  unfold withSignedReassignmentGrace at raised
  split at raised
  · obtain ⟨rfl, rfl⟩ := Prod.mk.inj (Except.ok.inj raised)
    exact outlasted
  · exact raiseReassignmentGrace_stored intact raised

theorem raiseForGrant_outlasted {request : StoredGrantRequest} {db next : ControlDb}
    {lease resolved : StoredLease} (intact : next.Intact) (outlasted : Outlasted db lease)
    (raised : raiseForGrant db request lease = .ok (next, resolved)) : Outlasted next resolved := by
  unfold raiseForGrant at raised
  split at raised
  · obtain ⟨rfl, rfl⟩ := Prod.mk.inj (Except.ok.inj raised)
    exact outlasted
  · rw [Except.mapError_eq_ok] at raised
    exact raiseReassignmentGrace_stored intact raised

theorem checkStoredGrant_stored {db : ControlDb} {request : StoredGrantRequest}
    {submitters : SignatureVerifier} {facts : StoredGrantFacts} (intact : db.Intact)
    (passes : checkStoredGrant codec db request submitters = .ok facts) :
    Outlasted db facts.lease := by
  simp only [checkStoredGrant, Except.bind_eq_ok, Except.ofOption_eq_ok, Except.ok.injEq] at passes
  obtain ⟨_, _, _, _, _, _, _, _, _, _, _, _, lease, found, _, _, _, _, _, _, _, _, rfl⟩ := passes
  exact Outlasted.stored ((intact.sound.leaseKey found).symm ▸ found)

theorem buildGrant_carries {request : StoredGrantRequest} {key : SigningKey}
    {poolModeDeclared : Bool} {facts : StoredGrantFacts} {stored : StoredLease}
    {grant : ExecutionGrant} {signed : Lease}
    (builds : buildGrant codec request key poolModeDeclared facts stored = .ok grant)
    (carries : grant.lease = some signed) : SignedFrom signed stored := by
  simp only [buildGrant, Except.bind_eq_ok, Except.mapError_eq_ok, Except.ok.injEq] at builds
  obtain ⟨lease, signs, _, _, _, _, rfl⟩ := builds
  obtain rfl := Option.some.inj carries
  exact storedToSignedLease_from signs

theorem Promised.covered_next (promised : Promised world) {event : SessionEvent}
    (takes : Takes codec world event after) (intact : world.db.Intact) {id : String}
    {lease : StoredLease} (now : after.db.leases[id]? = some lease) :
    ∃ attempt, after.db.attempts[attempt.attemptId]? = some attempt ∧ lease.Covers attempt := by
  have carried : ∀ {before : StoredLease}, world.db.leases[id]? = some before →
      before.identity = lease.identity →
      ∃ attempt, after.db.attempts[attempt.attemptId]? = some attempt ∧ lease.Covers attempt := by
    intro before there same
    obtain ⟨attempt, placed, covers⟩ := promised.covered there
    obtain ⟨allowed, _, _, refines⟩ := takes.refines intact
    obtain ⟨moved, present, kept⟩ := refines.steps.attempt_kept intact.sound placed
    refine ⟨moved, ?_, covers.congr same.symm kept⟩
    rw [StoredAttempt.attemptId_of_assignment kept]
    exact present
  rcases takes.lease_cases intact now with
    ⟨plan, stored, _, renews, rfl, rfl⟩ | ⟨before, there, same, _⟩ | ⟨_, _, _, _, staged⟩
  · exact carried renews.found rfl
  · exact carried there same
  · exact staged

/-- What was outlasted stays outlasted, and what an event adds is read from the table it leaves. -/
theorem Promised.next (promised : Promised world) {event : SessionEvent}
    (takes : Takes codec world event after) (intact : world.db.Intact)
    (keeps : KeepsTerm world event) : Promised after := by
  have later : ∀ {lease : StoredLease}, Outlasted world.db lease → Outlasted after.db lease :=
    fun outlasted => outlasted.next takes intact keeps
  obtain ⟨_, _, _, refines⟩ := takes.refines intact
  have intactAfter := intact.after refines
  have sentLater : ∀ signed ∈ world.sent, ∃ lease, Outlasted after.db lease ∧
      SignedFrom signed lease := by
    intro signed sent
    obtain ⟨lease, outlasted, signedFrom⟩ := promised.sent signed sent
    exact ⟨lease, later outlasted, signedFrom⟩
  refine ⟨promised.covered_next takes intact, ?_, ?_, ?_⟩
  · intro lease waiting
    cases takes with
    | @renewed plan next wrote planned written =>
        rcases waiting with rfl | earlier
        · obtain ⟨stored, found, _, _, _, rfl, rfl⟩ := renewPlanned_eq_ok written
          have sameId : stored.leaseId = plan.leaseId := intact.sound.leaseKey found
          refine Outlasted.stored ?_
          change (world.db.leases.insert plan.leaseId (plan.renewed stored))[stored.leaseId]? = _
          rw [Table.lookup_insert, if_pos sameId.symm]
        · exact later (promised.renewed lease earlier)
    | _ => exact later (promised.renewed lease waiting)
  · intro pair waiting
    cases takes with
    | checked passes =>
        rcases waiting with rfl | earlier
        · exact checkStoredGrant_stored intact passes
        · exact later (promised.checked pair earlier)
    | _ => exact later (promised.checked pair waiting)
  · intro signed sent
    cases takes with
    | signedRenewed waiting raised signs =>
        rcases sent with rfl | earlier
        · exact ⟨_, withSignedReassignmentGrace_outlasted intactAfter
            (promised.renewed _ waiting) raised, storedToSignedLease_from signs⟩
        · exact sentLater signed earlier
    | signedGrant waiting raised builds carries =>
        rcases sent with rfl | earlier
        · exact ⟨_, raiseForGrant_outlasted intactAfter (promised.checked _ waiting) raised,
            buildGrant_carries builds carries⟩
        · exact sentLater signed earlier
    | _ => exact sentLater signed sent

theorem Reached.promised (reached : Reached codec KeepsTerm world) : Promised world := by
  induction reached with
  | start =>
      refine ⟨fun found => ?_, fun _ none => none.elim, fun _ none => none.elim,
        fun _ none => none.elim⟩
      simp [World.empty, ControlDb.empty] at found
  | next reached keeps takes ih => exact ih.next takes reached.intact keeps

/-- A failover requeues or fails the job: in a transaction of its loop, or in the whole loop. -/
def FailsOver (codec : Codec) (db : ControlDb) (policy : FailoverPolicy) (jobId : String)
    (nowUnixMs : UInt64) : Prop :=
  (∃ next outcome, failoverJob codec db policy jobId nowUnixMs = .ok (next, outcome) ∧
    next.jobs[jobId]? ≠ db.jobs[jobId]?) ∨
  (failoverLostAttempts codec db policy nowUnixMs).1.jobs[jobId]? ≠ db.jobs[jobId]?

theorem FailsOver.lost {db : ControlDb} {policy : FailoverPolicy} {jobId : String}
    {nowUnixMs : UInt64} (failsOver : FailsOver codec db policy jobId nowUnixMs)
    (intact : db.Intact) :
    ∃ job attempt lease, job.jobId = jobId ∧ Lost db policy nowUnixMs job attempt lease := by
  rcases failsOver with ⟨next, outcome, done, changed⟩ | changed
  · rcases failoverJob_eq_ok intact done with ⟨rfl, _⟩ | ⟨job, attempt, lease, _, named, takes⟩
    · exact absurd rfl changed
    · exact ⟨job, attempt, lease, named, takes.lost⟩
  · obtain ⟨leaves, _⟩ := failoverLostAttempts_leaves codec policy nowUnixMs intact
    obtain ⟨job, attempt, lease, named, _, lost, _⟩ := (leaves.jobs jobId).resolve_left changed
    exact ⟨job, attempt, lease, named, lost⟩

/-- No job is handed over before every lease sent for its attempt has run out, with its grace. -/
def PromisesRunOut (codec : Codec) (world : World) : Prop :=
  ∀ policy jobId nowUnixMs, FailsOver codec world.db policy jobId nowUnixMs →
    ∀ attempt, world.db.ledger.Latest attempt → attempt.jobId = jobId →
      ∀ signed ∈ world.sent, signed.attemptId = attempt.attemptId →
        signed.expiresAtUnixMs.toNat + signed.reassignmentGraceMs.toNat < nowUnixMs.toNat

/-- The lease of a promise is the one the failover looks at. -/
theorem Promised.runOut (promised : Promised world) (intact : world.db.Intact) :
    PromisesRunOut codec world := by
  intro policy jobId nowUnixMs failsOver attempt latest ofJob signed sent sameAttempt
  obtain ⟨job, last, lease, named, lost⟩ := failsOver.lost intact
  obtain rfl : last = attempt :=
    intact.sound.latest_unique lost.latest latest (lost.ofJob.trans (named.trans ofJob.symm))
  obtain ⟨promise, outlasted, signedFrom⟩ := promised.sent signed sent
  obtain ⟨stored, found, same, term, grace⟩ := outlasted.row
  obtain ⟨covered, placed, covers⟩ := promised.covered found
  have owner : covered.attemptId = last.attemptId := by
    rw [← covers.attemptId, StoredLease.attemptId_of_identity same, ← signedFrom.attemptId,
      sameAttempt]
  have present : world.db.attempts[last.attemptId]? = some last := latest.present
  obtain rfl : covered = last := Option.some.inj ((owner ▸ placed).symm.trans present)
  have leased := lost.leased
  rw [← covers.leaseId, StoredLease.leaseId_of_identity same, found, Option.some.injEq] at leased
  obtain rfl := leased
  have overdue := lost.overdue
  rw [UInt64.le_iff_toNat_le] at term grace
  rw [signedFrom.expires, signedFrom.grace]
  rw [UInt64.toNat_max] at overdue
  omega

theorem no_handover_before_promises_run_out (codec : Codec) (world : World)
    (reached : Reached codec KeepsTerm world) : PromisesRunOut codec world :=
  reached.promised.runOut reached.intact

theorem keepsTerm_onRenewals : OnRenewals KeepsTerm := by
  intro world event other
  cases event with
  | renew plan => exact absurd rfl (other plan)
  | _ => trivial

section Sessions

def plainKey : SigningKey where
  sign := fun _ => []
  verifies := fun _ _ => true

/-- What a session leaves, and the expiry of the lease it sends. -/
def sessionAt (config : RenewConfig) (db : ControlDb) (unreachableUntilUnixMs nowUnixMs : UInt64) :
    ControlDb × Except RenewSessionError RenewLeaseResult :=
  serveRenewSession config plainKey db (renewRequest unreachableUntilUnixMs) nowUnixMs

/-- At 200 an outage until 100000 is announced; at 300 the node asks again without one. -/
def announcedThenPlain : ControlDb :=
  (sessionAt (sessionConfig 600 10000000) (sessionAt (sessionConfig 600 10000000) stagedWorld.db
    100000 200).1 0 300).1

/-- The failover at 5000 does not wait for the lease that was sent at 200. -/
theorem announced_promise_outlives_failover :
    ∃ world, Reached plainCodec Always world ∧ world.db = announcedThenPlain ∧
      ¬ PromisesRunOut plainCodec world := by
  have staged : Reached plainCodec Always stagedWorld := stagedWorld_reached fun _ _ => trivial
  obtain ⟨announced, first, firstDb, _, firstSent⟩ := serveRenewSession_reaches always_onRenewals
    staged (sessionConfig 600 10000000) plainKey (renewRequest 100000) 200 fun _ _ => trivial
  obtain ⟨world, reached, sameDb, more, _⟩ := serveRenewSession_reaches always_onRenewals first
    (sessionConfig 600 10000000) plainKey (renewRequest 0) 300 fun _ _ => trivial
  rw [firstDb] at sameDb
  change world.db = announcedThenPlain at sameDb
  have answered : (sessionAt (sessionConfig 600 10000000) stagedWorld.db 100000 200).2.map
      (fun result => result.lease.map fun signed =>
        (signed.attemptId, signed.expiresAtUnixMs, signed.reassignmentGraceMs)) =
      .ok (some ("attempt", 100000, 0)) := by
    decide +kernel
  obtain ⟨result, served, fields⟩ := Except.map_eq_ok.mp answered
  obtain ⟨signed, carries, values⟩ := Option.map_eq_some_iff.mp fields
  simp only [Prod.mk.injEq] at values
  obtain ⟨ofAttempt, expires, grace⟩ := values
  have sent : signed ∈ world.sent := more (firstSent result signed served carries)
  have before : announcedThenPlain.jobs["job"]?.map (·.state) = some "STAGING" := by
    decide +kernel
  have after : (failoverLostAttempts plainCodec announcedThenPlain plainPolicy
      5000).1.jobs["job"]?.map (·.state) = some "QUEUED" := by
    decide +kernel
  have failsOver : FailsOver plainCodec world.db plainPolicy "job" 5000 := by
    rw [sameDb]
    refine Or.inr fun same => ?_
    rw [same, before] at after
    exact absurd after (by decide)
  have query : latestAttemptForJob world.db "job" = some "attempt" := by
    rw [sameDb]
    decide +kernel
  obtain ⟨attempt, latest, key, ofJob⟩ := reached.intact.latestAttemptForJob_iff.mp query
  refine ⟨world, reached, sameDb, fun runOut => ?_⟩
  have late := runOut plainPolicy "job" 5000 failsOver attempt latest ofJob signed sent
    (ofAttempt.trans key.symm)
  rw [expires, grace] at late
  exact absurd late (by decide)

/-- A session that extends its lease, and a failover after it. -/
theorem extended_promise_runs_out :
    ∃ world signed, Reached plainCodec KeepsTerm world ∧ signed ∈ world.sent ∧
      FailsOver plainCodec world.db plainPolicy "job" 5000 ∧ PromisesRunOut plainCodec world := by
  have staged : Reached plainCodec KeepsTerm stagedWorld := stagedWorld_reached fun _ _ => trivial
  have leased : (stagedWorld.db.leases["lease"]?.map (·.expiresAtUnixMs)) = some 1100 := by
    decide +kernel
  have decides : planRenewal (sessionConfig 1000 0) stagedWorld.db (renewRequest 0) 200 =
      .ok (.renew ⟨"lease", 200, 1000⟩) := by
    decide +kernel
  obtain ⟨world, reached, sameDb, _, answers⟩ := serveRenewSession_reaches keepsTerm_onRenewals
    staged (sessionConfig 1000 0) plainKey (renewRequest 0) 200 (by
      intro plan decided stored renews
      obtain rfl := RenewDecided.renew.inj (Except.ok.inj (decides.symm.trans decided))
      have found : stagedWorld.db.leases["lease"]? = some stored := renews.found
      rw [found, Option.map_some, Option.some.injEq] at leased
      rw [leased]
      decide)
  have answered : (sessionAt (sessionConfig 1000 0) stagedWorld.db 0 200).2.map
      (·.lease.isSome) = .ok true := by
    decide +kernel
  obtain ⟨result, served, present⟩ := Except.map_eq_ok.mp answered
  obtain ⟨signed, carries⟩ := Option.isSome_iff_exists.mp present
  have before : (sessionAt (sessionConfig 1000 0) stagedWorld.db 0 200).1.jobs["job"]?.map
      (·.state) = some "STAGING" := by
    decide +kernel
  have after : (failoverLostAttempts plainCodec (sessionAt (sessionConfig 1000 0) stagedWorld.db
      0 200).1 plainPolicy 5000).1.jobs["job"]?.map (·.state) = some "QUEUED" := by
    decide +kernel
  change world.db = (sessionAt (sessionConfig 1000 0) stagedWorld.db 0 200).1 at sameDb
  have failsOver : FailsOver plainCodec world.db plainPolicy "job" 5000 := by
    rw [sameDb]
    refine Or.inr fun same => ?_
    rw [same, before] at after
    exact absurd after (by decide)
  exact ⟨world, signed, reached, answers result signed served carries, failsOver,
    no_handover_before_promises_run_out plainCodec world reached⟩

end Sessions

end Gputeer.Coordinator
