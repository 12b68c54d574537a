import Gputeer.Coordinator.LostAttempts
import Gputeer.Coordinator.RenewSession

/-! Sessions and grants beside the other calls on one control database. Each of their transactions
may come at any time after the one before it, with anything in between. -/

namespace Gputeer.Coordinator

open Protocol ControlDb

/-- The control database, what sessions and grants have read or written on the way to a signature,
and the leases that were signed and sent. -/
structure World where
  db : ControlDb
  planned : Set RenewalPlan
  renewed : Set StoredLease
  checked : Set (StoredGrantRequest × StoredGrantFacts)
  sent : Set Lease

def World.empty : World := ⟨ControlDb.empty, ∅, ∅, ∅, ∅⟩

/-- The call neither issues a lease of the caller's making nor renews one. -/
def Operation.leavesTerms : Operation → Prop
  | .getOrIssue _ _ | .renewExisting _ _ _ | .renewExistingWithinDuration _ _ _ _ => False
  | _ => True

inductive SessionEvent where
  | call (operation : Operation)
  | read (config : RenewConfig) (request : RenewLeaseRequest) (nowUnixMs : UInt64)
  | renew (plan : RenewalPlan)
  | signRenewed (config : RenewConfig) (key : SigningKey) (lease : StoredLease)
  | checkGrant (request : StoredGrantRequest) (submitters : SignatureVerifier)
  | signGrant (request : StoredGrantRequest) (facts : StoredGrantFacts) (key : SigningKey)
      (poolModeDeclared : Bool)

/-- What an event makes of a world. -/
inductive Takes (codec : Codec) (world : World) : SessionEvent → World → Prop
  | call {operation : Operation} (leaves : operation.leavesTerms) :
      Takes codec world (.call operation) { world with db := step codec world.db operation }
  | planned {config : RenewConfig} {request : RenewLeaseRequest} {nowUnixMs : UInt64}
      {plan : RenewalPlan} (decided : planRenewal config world.db request nowUnixMs =
        .ok (.renew plan)) :
      Takes codec world (.read config request nowUnixMs)
        { world with planned := insert plan world.planned }
  | renewed {plan : RenewalPlan} {next : ControlDb} {lease : StoredLease}
      (waiting : plan ∈ world.planned)
      (written : renewPlanned world.db plan = .ok (next, .renewed lease)) :
      Takes codec world (.renew plan) { world with db := next, renewed := insert lease world.renewed }
  | signedRenewed {config : RenewConfig} {key : SigningKey} {lease resolved : StoredLease}
      {next : ControlDb} {signed : Lease} (waiting : lease ∈ world.renewed)
      (raised : withSignedReassignmentGrace config world.db lease = .ok (next, resolved))
      (signs : storedToSignedLease key resolved = .ok signed) :
      Takes codec world (.signRenewed config key lease)
        { world with db := next, sent := insert signed world.sent }
  | checked {request : StoredGrantRequest} {submitters : SignatureVerifier}
      {facts : StoredGrantFacts}
      (passes : checkStoredGrant codec world.db request submitters = .ok facts) :
      Takes codec world (.checkGrant request submitters)
        { world with checked := insert (request, facts) world.checked }
  | signedGrant {request : StoredGrantRequest} {facts : StoredGrantFacts} {key : SigningKey}
      {poolModeDeclared : Bool} {next : ControlDb} {resolved : StoredLease} {grant : ExecutionGrant}
      {signed : Lease} (waiting : (request, facts) ∈ world.checked)
      (raised : raiseForGrant world.db request facts.lease = .ok (next, resolved))
      (builds : buildGrant codec request key poolModeDeclared facts resolved = .ok grant)
      (carries : grant.lease = some signed) :
      Takes codec world (.signGrant request facts key poolModeDeclared)
        { world with db := next, sent := insert signed world.sent }

/-- A world after some events, each of which met a condition on the world before it. -/
inductive Reached (codec : Codec) (Meets : World → SessionEvent → Prop) : World → Prop
  | start : Reached codec Meets World.empty
  | next {world after : World} {event : SessionEvent} (reached : Reached codec Meets world)
      (meets : Meets world event) (takes : Takes codec world event after) :
      Reached codec Meets after

variable {codec : Codec} {Meets : World → SessionEvent → Prop} {world after : World}

/-- The row that a renewal leaves. -/
def RenewalPlan.renewed (plan : RenewalPlan) (stored : StoredLease) : StoredLease :=
  stored.renewedTo (plan.nowUnixMs + plan.extensionMs) (plan.nowUnixMs + plan.extensionMs / 2)

section Rows

variable {db next : ControlDb}

/-- What a renewal that was not refused found and wrote. -/
theorem renewPlanned_eq_ok {plan : RenewalPlan} {lease : StoredLease}
    (written : renewPlanned db plan = .ok (next, .renewed lease)) :
    ∃ stored, db.leases[plan.leaseId]? = some stored ∧ stored.revokedAtUnixMs = none ∧
      plan.nowUnixMs < stored.expiresAtUnixMs ∧
      stored.isMaxDurationExceeded plan.nowUnixMs = false ∧
      lease = plan.renewed stored ∧ next = writeLease db plan.leaseId lease := by
  simp only [renewPlanned, renewExistingWithinDuration, ensureNotExpired, Except.bind_eq_ok,
    Except.ofOption_eq_ok, ensureNotRevoked_eq_ok, Except.ensure_eq_ok, UInt64.not_le] at written
  obtain ⟨stored, found, _, live, _, running, written⟩ := written
  split at written
  · cases written
  · next within =>
    obtain ⟨rfl, same⟩ := Prod.mk.inj (Except.ok.inj written)
    obtain rfl := RenewDecision.renewed.inj same
    exact ⟨stored, found, live, running, by simpa using within, rfl, rfl⟩

/-- A renewal that nothing stands against is written. -/
theorem renewPlanned_writes {plan : RenewalPlan} {stored : StoredLease}
    (found : db.leases[plan.leaseId]? = some stored) (live : stored.revokedAtUnixMs = none)
    (running : plan.nowUnixMs < stored.expiresAtUnixMs)
    (under : stored.isMaxDurationExceeded plan.nowUnixMs = false) :
    renewPlanned db plan = .ok (writeLease db plan.leaseId (plan.renewed stored),
      .renewed (plan.renewed stored)) := by
  have notRevoked : ensureNotRevoked stored = .ok () := ensureNotRevoked_eq_ok.mpr live
  have notExpired : ensureNotExpired stored plan.nowUnixMs = .ok () :=
    Except.ensure_eq_ok.mpr (UInt64.not_le.mpr running)
  simp [renewPlanned, renewExistingWithinDuration, fetchLease, found, Except.ofOption, notRevoked,
    notExpired, under, Except.bind, bind, RenewalPlan.renewed]

theorem renewPlanned_keeps {plan : RenewalPlan} {lease : StoredLease}
    (kept : renewPlanned db plan = .ok (next, .maxDurationExceeded lease)) : next = db := by
  simp only [renewPlanned, renewExistingWithinDuration, Except.bind_eq_ok] at kept
  obtain ⟨stored, _, _, _, _, _, kept⟩ := kept
  split at kept
  · exact (Prod.mk.inj (Except.ok.inj kept)).1.symm
  · cases (Prod.mk.inj (Except.ok.inj kept)).2

end Rows

/-- The expiry an event may give to a lease. -/
def SessionEvent.renews : SessionEvent → Set (String × UInt64)
  | .renew plan => {(plan.leaseId, plan.nowUnixMs + plan.extensionMs)}
  | _ => ∅

theorem withSignedReassignmentGrace_refines {allowed : Allowance} {db next : ControlDb}
    (intact : db.Intact) {config : RenewConfig} {lease resolved : StoredLease}
    (raised : withSignedReassignmentGrace config db lease = .ok (next, resolved)) :
    Refines allowed db next := by
  unfold withSignedReassignmentGrace at raised
  split at raised
  · exact (Prod.mk.inj (Except.ok.inj raised)).1 ▸ intact.refl
  · exact raiseReassignmentGrace_refines intact raised

theorem raiseForGrant_refines {allowed : Allowance} {db next : ControlDb} (intact : db.Intact)
    {request : StoredGrantRequest} {lease resolved : StoredLease}
    (raised : raiseForGrant db request lease = .ok (next, resolved)) : Refines allowed db next := by
  unfold raiseForGrant at raised
  split at raised
  · exact (Prod.mk.inj (Except.ok.inj raised)).1 ▸ intact.refl
  · rw [Except.mapError_eq_ok] at raised
    exact raiseReassignmentGrace_refines intact raised

/-- Every event is a sequence of steps of the ledger that issues no lease but by staging. -/
theorem Takes.refines {event : SessionEvent} (takes : Takes codec world event after)
    (intact : world.db.Intact) :
    ∃ allowed : Allowance, allowed.renews = event.renews ∧ ¬ allowed.issues ∧
      Refines allowed world.db after.db := by
  cases takes with
  | @call operation leaves =>
      refine ⟨operation.allowance codec world.db, ?_, ?_, step_refines codec intact operation⟩
      · cases operation <;> first | rfl | cases leaves
      · cases operation <;> first | exact not_false | cases leaves
  | planned decided =>
      exact ⟨⟨∅, ∅, ∅, False, ∅, False, False⟩, rfl, not_false, intact.refl⟩
  | @renewed plan next lease waiting written =>
      refine ⟨⟨∅, {(plan.leaseId, plan.nowUnixMs + plan.extensionMs)}, ∅, False, ∅, False, False⟩, rfl,
        not_false, ?_⟩
      exact renewExistingWithinDuration_refines intact (Set.mem_singleton _) written
  | signedRenewed waiting raised signs =>
      exact ⟨⟨∅, ∅, ∅, False, ∅, False, False⟩, rfl, not_false,
        withSignedReassignmentGrace_refines intact raised⟩
  | checked passes =>
      exact ⟨⟨∅, ∅, ∅, False, ∅, False, False⟩, rfl, not_false, intact.refl⟩
  | signedGrant waiting raised builds carries =>
      exact ⟨⟨∅, ∅, ∅, False, ∅, False, False⟩, rfl, not_false, raiseForGrant_refines intact raised⟩

theorem Reached.intact (reached : Reached codec Meets world) : world.db.Intact := by
  induction reached with
  | start => exact ControlDb.empty_intact
  | next reached meets takes ih =>
      obtain ⟨_, _, _, refines⟩ := takes.refines ih
      exact ih.after refines

/-- What a renewal may be written over. -/
structure Renews (world : World) (plan : RenewalPlan) (stored : StoredLease) : Prop where
  waiting : plan ∈ world.planned
  found : world.db.leases[plan.leaseId]? = some stored
  live : stored.revokedAtUnixMs = none
  running : plan.nowUnixMs < stored.expiresAtUnixMs
  under : stored.isMaxDurationExceeded plan.nowUnixMs = false

theorem Takes.renews_of_mem {event : SessionEvent} (takes : Takes codec world event after)
    {leaseId : String} {expiresAtUnixMs : UInt64} (given : (leaseId, expiresAtUnixMs) ∈ event.renews) :
    ∃ plan stored, event = .renew plan ∧ plan.leaseId = leaseId ∧
      expiresAtUnixMs = plan.nowUnixMs + plan.extensionMs ∧ Renews world plan stored := by
  cases takes with
  | @renewed plan next lease waiting written =>
      obtain ⟨stored, found, live, running, under, _⟩ := renewPlanned_eq_ok written
      obtain ⟨rfl, rfl⟩ := Prod.mk.inj (Set.mem_singleton_iff.mp given)
      exact ⟨plan, stored, rfl, rfl, rfl, waiting, found, live, running, under⟩
  | _ => exact given.elim

/-- No lease disappears, and only a renewal gives it another expiry. -/
theorem Takes.lease_kept {event : SessionEvent} (takes : Takes codec world event after)
    (intact : world.db.Intact) {id : String} {lease : StoredLease}
    (there : world.db.leases[id]? = some lease) :
    ∃ changed, after.db.leases[id]? = some changed ∧ changed.identity = lease.identity ∧
      lease.reassignmentGraceMs ≤ changed.reassignmentGraceMs ∧
      (changed.expiresAtUnixMs = lease.expiresAtUnixMs ∨ ∃ plan, event = .renew plan ∧
        Renews world plan lease ∧
        changed.expiresAtUnixMs = plan.nowUnixMs + plan.extensionMs) := by
  obtain ⟨allowed, renews, _, refines⟩ := takes.refines intact
  obtain ⟨changed, now, kept⟩ := refines.steps.lease_kept intact.sound there
  refine ⟨changed, now, kept.identity, kept.grace, kept.term.imp_right fun given => ?_⟩
  obtain ⟨plan, stored, rfl, named, term, renewed⟩ := takes.renews_of_mem (renews ▸ given)
  have found := renewed.found
  rw [named, intact.sound.leaseKey there, there, Option.some.injEq] at found
  exact ⟨plan, rfl, found ▸ renewed, term⟩

/-- The term of a lease is one that a session wrote, one it had before, or one it was staged with. -/
theorem Takes.lease_cases {event : SessionEvent} (takes : Takes codec world event after)
    (intact : world.db.Intact) {id : String} {lease : StoredLease}
    (now : after.db.leases[id]? = some lease) :
    (∃ plan stored, event = .renew plan ∧ Renews world plan stored ∧ id = plan.leaseId ∧
      lease = plan.renewed stored) ∨
    (∃ before, world.db.leases[id]? = some before ∧ before.identity = lease.identity ∧
      before.expiresAtUnixMs = lease.expiresAtUnixMs) ∨
    ∃ staged : StoredLease, staged.Termed ∧ staged.identity = lease.identity ∧
      staged.expiresAtUnixMs = lease.expiresAtUnixMs ∧ ∃ attempt,
        after.db.attempts[attempt.attemptId]? = some attempt ∧ lease.Covers attempt := by
  by_cases still : event.renews = ∅
  · obtain ⟨allowed, renews, staging, refines⟩ := takes.refines intact
    have unmoved : ∀ {first last : StoredLease}, first.Kept allowed last →
        first.expiresAtUnixMs = last.expiresAtUnixMs := by
      intro first last kept
      exact (kept.term.resolve_right (by simp [renews, still])).symm
    right
    rcases refines.steps.lease_origin intact.sound now staging with
      ⟨before, there, kept⟩ | ⟨staged, termed, kept, covered⟩
    · exact Or.inl ⟨before, there, kept.identity.symm, unmoved kept⟩
    · exact Or.inr ⟨staged, termed, kept.identity.symm, unmoved kept, covered⟩
  · cases takes with
    | @renewed plan next lease waiting written =>
        obtain ⟨stored, found, live, running, under, rfl, rfl⟩ := renewPlanned_eq_ok written
        change (world.db.leases.insert plan.leaseId (plan.renewed stored))[id]? = some lease at now
        rw [Table.lookup_insert] at now
        split at now
        · next same =>
          exact Or.inl ⟨plan, stored, rfl, ⟨waiting, found, live, running, under⟩, same.symm,
            (Option.some.inj now).symm⟩
        · exact Or.inr (Or.inl ⟨lease, now, rfl, rfl⟩)
    | _ => exact absurd rfl still

theorem Takes.planned_cases {event : SessionEvent} (takes : Takes codec world event after)
    {plan : RenewalPlan} (waiting : plan ∈ after.planned) :
    plan ∈ world.planned ∨ ∃ config request nowUnixMs, event = .read config request nowUnixMs ∧
      planRenewal config world.db request nowUnixMs = .ok (.renew plan) := by
  cases takes with
  | @planned config request nowUnixMs _ decided =>
      rcases waiting with rfl | earlier
      · exact Or.inr ⟨config, request, nowUnixMs, rfl, decided⟩
      · exact Or.inl earlier
  | _ => exact Or.inl waiting

/-- Whatever the calls of a run may be in, they reach a world without sessions. -/
theorem run_reached (operations : List Operation)
    (leaves : ∀ operation ∈ operations, operation.leavesTerms)
    (free : ∀ world operation, Meets world (.call operation)) :
    Reached codec Meets { World.empty with db := run codec operations } := by
  revert leaves
  refine Trace.induction (fun operations (db : ControlDb) =>
    (∀ operation ∈ operations, operation.leavesTerms) →
    Reached codec Meets { World.empty with db }) (fun _ => .start)
    (fun earlier operation holds leaves => ?_) operations
  have before := holds fun one among => leaves one (List.mem_append_left _ among)
  exact before.next (free _ operation)
    (.call (leaves operation (List.mem_append_right _ (List.mem_singleton_self _))))

section Whole

variable {config : RenewConfig} {key : SigningKey} {request : RenewLeaseRequest} {nowUnixMs : UInt64}

/-- Every condition is met. -/
def Always (_ : World) (_ : SessionEvent) : Prop := True

/-- Only renewals are held to the condition. -/
def OnRenewals (Meets : World → SessionEvent → Prop) : Prop :=
  ∀ world event, (∀ plan, event ≠ .renew plan) → Meets world event

theorem always_onRenewals : OnRenewals Always := fun _ _ _ => trivial

theorem OnRenewals.next (free : OnRenewals Meets) {event : SessionEvent}
    (reached : Reached codec Meets world) (takes : Takes codec world event after)
    (other : ∀ plan, event ≠ .renew plan) : Reached codec Meets after :=
  reached.next (free world event other) takes

theorem recordRenewed_reaches (free : OnRenewals Meets) (reached : Reached codec Meets world)
    (config : RenewConfig) (request : RenewLeaseRequest) (nowUnixMs : UInt64)
    (result : RenewLeaseResult) :
    Reached codec Meets
      { world with db := (recordRenewed config world.db request nowUnixMs result).1 } := by
  unfold recordRenewed
  split
  · have called := free.next reached
      (@Takes.call codec world (.recordProcessStarted request.leaseId nowUnixMs) trivial) nofun
    cases done : recordProcessStarted world.db request.leaseId nowUnixMs with
    | error fault => exact reached
    | ok answer =>
        simpa only [step, done, commit] using called
  · exact reached

theorem recordRenewed_answer {db : ControlDb} {result answer : RenewLeaseResult}
    (answered : (recordRenewed config db request nowUnixMs result).2 = .ok answer) :
    answer = result := by
  unfold recordRenewed at answered
  split at answered
  · split at answered
    · exact (Except.ok.inj answered).symm
    · cases answered
  · exact (Except.ok.inj answered).symm

theorem renewedLeaseResult_eq_ok {requestNonce : List UInt8} {resolved : StoredLease}
    {result : RenewLeaseResult}
    (answered : renewedLeaseResult config key nowUnixMs requestNonce resolved = .ok result) :
    ∃ signed, storedToSignedLease key resolved = .ok signed ∧ result.lease = some signed := by
  simp only [renewedLeaseResult, Except.bind_eq_ok, Except.ok.injEq] at answered
  obtain ⟨signed, signs, rfl⟩ := answered
  exact ⟨signed, signs, rfl⟩

theorem overriddenRenewResult_lease {db : ControlDb} {plan : RenewalPlan}
    {requestNonce : List UInt8} {outcome : Int32} {result : RenewLeaseResult}
    (answered : overriddenRenewResult config key db plan requestNonce outcome = .ok result) :
    result.lease = none := by
  simp only [overriddenRenewResult, Except.bind_eq_ok] at answered
  obtain ⟨stored, _, answered⟩ := answered
  split at answered
  · exact (Except.ok.inj answered) ▸ rfl
  · obtain ⟨_, _, answered⟩ := Except.bind_eq_ok.mp answered
    split at answered <;> exact (Except.ok.inj answered) ▸ rfl

/-- A world a session may end in: what it answers has been sent. -/
def Ends (codec : Codec) (Meets : World → SessionEvent → Prop) (world : World) (db : ControlDb)
    (answer : Except String RenewLeaseResult) : Prop :=
  ∃ later, Reached codec Meets later ∧ later.db = db ∧ world.sent ⊆ later.sent ∧
    ∀ result signed, answer = .ok result → result.lease = some signed → signed ∈ later.sent

theorem Ends.idle (reached : Reached codec Meets world) {answer : Except String RenewLeaseResult}
    (bare : ∀ result, answer = .ok result → result.lease = none) :
    Ends codec Meets world world.db answer := by
  refine ⟨world, reached, rfl, subset_rfl, fun result signed answered carries => ?_⟩
  exact absurd ((bare result answered).symm.trans carries) (by simp)

theorem Ends.since {between : World} {db : ControlDb} {answer : Except String RenewLeaseResult}
    (ends : Ends codec Meets between db answer) (more : world.sent ⊆ between.sent) :
    Ends codec Meets world db answer := by
  obtain ⟨later, reached, same, sent, answers⟩ := ends
  exact ⟨later, reached, same, more.trans sent, answers⟩

/-- The third part of a session, from the world after the second. -/
theorem signRenewed_ends (free : OnRenewals Meets) (reached : Reached codec Meets world)
    {lease resolved : StoredLease} (waiting : lease ∈ world.renewed) {raised : ControlDb}
    (raises : withSignedReassignmentGrace config world.db lease = .ok (raised, resolved))
    (requestNonce : List UInt8) :
    Ends codec Meets world raised (renewedLeaseResult config key nowUnixMs requestNonce resolved) := by
  cases signs : storedToSignedLease key resolved with
  | ok signed =>
      have sent := free.next reached (.signedRenewed waiting raises signs) nofun
      refine ⟨_, sent, rfl, Set.subset_insert _ _, fun result other answered carries => ?_⟩
      obtain ⟨made, same, carried⟩ := renewedLeaseResult_eq_ok answered
      obtain rfl := Except.ok.inj (signs.symm.trans same)
      obtain rfl := Option.some.inj (carried.symm.trans carries)
      exact Set.mem_insert _ _
  | error fault =>
      have bare : ∀ result,
          renewedLeaseResult config key nowUnixMs requestNonce resolved = .ok result →
          result.lease = none := by
        intro result answered
        obtain ⟨made, same, _⟩ := renewedLeaseResult_eq_ok answered
        cases signs.symm.trans same
      unfold withSignedReassignmentGrace at raises
      split at raises
      · obtain ⟨rfl, _⟩ := Prod.mk.inj (Except.ok.inj raises)
        exact Ends.idle reached bare
      · have called := free.next reached (@Takes.call codec world
          (.raiseReassignmentGrace lease.leaseId config.signedReassignmentGraceMs) trivial) nofun
        simp only [step, raises, commit] at called
        exact (Ends.idle called bare).since subset_rfl

theorem buildRenewResult_ends (free : OnRenewals Meets) (reached : Reached codec Meets world)
    (config : RenewConfig) (key : SigningKey) {plan : RenewalPlan}
    (waiting : plan ∈ world.planned) (meets : Meets world (.renew plan))
    (requestNonce : List UInt8) :
    Ends codec Meets world (buildRenewResult config key world.db plan requestNonce).1
      (buildRenewResult config key world.db plan requestNonce).2 := by
  unfold buildRenewResult
  split
  · exact Ends.idle reached fun result answered => overriddenRenewResult_lease answered
  · split
    · exact Ends.idle reached fun result answered => (Except.ok.inj answered) ▸ rfl
    · exact Ends.idle reached fun result answered => nomatch answered
    · exact Ends.idle reached fun result answered => nomatch answered
    · next same stored kept =>
      obtain rfl := renewPlanned_keeps kept
      exact Ends.idle reached fun result answered => (Except.ok.inj answered) ▸ rfl
    · next renewed lease written =>
      have wrote := reached.next meets (.renewed waiting written)
      split
      · next raised resolved raises =>
        exact (signRenewed_ends free wrote (Set.mem_insert _ _) raises requestNonce).since subset_rfl
      · exact Ends.since (Ends.idle wrote fun result answered => (Except.ok.inj answered) ▸ rfl)
          subset_rfl
      · exact Ends.since (Ends.idle wrote fun result answered => nomatch answered) subset_rfl

/-- A whole session reaches a world in which it has sent what it answers. -/
theorem serveRenewSession_reaches (free : OnRenewals Meets) (reached : Reached codec Meets world)
    (config : RenewConfig) (key : SigningKey) (request : RenewLeaseRequest) (nowUnixMs : UInt64)
    (meets : ∀ plan, planRenewal config world.db request nowUnixMs = .ok (.renew plan) →
      Meets { world with planned := insert plan world.planned } (.renew plan)) :
    ∃ later, Reached codec Meets later ∧
      later.db = (serveRenewSession config key world.db request nowUnixMs).1 ∧
      world.sent ⊆ later.sent ∧
      ∀ result signed, (serveRenewSession config key world.db request nowUnixMs).2 = .ok result →
        result.lease = some signed → signed ∈ later.sent := by
  unfold serveRenewSession
  split
  · exact ⟨world, reached, rfl, subset_rfl, fun _ _ answered => nomatch answered⟩
  · have recorded := recordRenewed_reaches free reached config request nowUnixMs
      (policyRenewResult config key nowUnixMs request.nonce 2 "a higher fence epoch already exists")
    refine ⟨_, recorded, rfl, subset_rfl, fun result signed answered carries => ?_⟩
    rw [recordRenewed_answer answered] at carries
    cases carries
  · next plan decided =>
    obtain ⟨later, done, same, more, answers⟩ := buildRenewResult_ends free
      (free.next reached (.planned decided) nofun) config key (Set.mem_insert plan _)
      (meets plan decided) request.nonce
    dsimp only at same answers
    split
    · next written message built =>
      rw [built] at same
      exact ⟨later, done, same, more, fun _ _ answered => nomatch answered⟩
    · next written result built =>
      rw [built] at same answers
      subst same
      refine ⟨_, recordRenewed_reaches free done config request nowUnixMs result, rfl, more, ?_⟩
      intro other signed answered carries
      rw [recordRenewed_answer answered] at carries
      exact answers result signed rfl carries

end Whole

section Staged

/-- A job staged on a node, without any session yet. -/
def stagedWorld : World :=
  { World.empty with
    db := run plainCodec
      [submitJob "job" 1, .planAndEnqueue "job" "plan" 20,
        .stageQueuedWithLease (stageRequest "job" "attempt" "lease" "node" 1)] }

def sessionConfig (renewExtensionMs plannedUnreachableMaxMs : UInt64) : RenewConfig where
  coordinatorDeviceId := "coordinator"
  agentDeviceId := "node"
  renewExtensionMs := renewExtensionMs
  plannedUnreachableMaxMs := plannedUnreachableMaxMs
  signedReassignmentGraceMs := 0
  renewOutcomeOverride := none
  grantFromControlDb := true

/-- The request of the node, with the time until which it will not be reachable. -/
def renewRequest (unreachableUntilUnixMs : UInt64) : RenewLeaseRequest where
  schemaVersion := 2
  leaseId := "lease"
  fenceEpoch := 1
  nodeId := "node"
  progress := none
  issuedAtUnixMs := 100
  nonce := []
  unreachableUntilUnixMs := unreachableUntilUnixMs
  nodeSignature := []

theorem stagedWorld_reached (free : ∀ world operation, Meets world (.call operation)) :
    Reached plainCodec Meets stagedWorld := by
  refine run_reached _ (fun operation listed => ?_) free
  simp only [submitJob, List.mem_cons, List.not_mem_nil, or_false] at listed
  rcases listed with rfl | rfl | rfl <;> trivial

end Staged

end Gputeer.Coordinator
