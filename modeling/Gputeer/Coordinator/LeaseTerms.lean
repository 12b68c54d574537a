import Gputeer.Coordinator.SessionRuns

/-! The terms of leases, through staging and any number of renewals at any clock. -/

namespace Gputeer.Coordinator

open Protocol ControlDb

variable {codec : Codec} {world after : World}

/-- A session that reads a lease extends it by something where no outage was announced. -/
def SessionEvent.extends : SessionEvent → Prop
  | .read config _ _ => config.renewExtensionMs ≠ 0
  | _ => True

/-- The term of a lease lies within its total duration, and is not empty if every session extends. -/
structure StoredLease.Within (strict : Prop) (lease : StoredLease) : Prop where
  ordered : lease.issuedAtUnixMs ≤ lease.expiresAtUnixMs
  lasts : strict → lease.issuedAtUnixMs < lease.expiresAtUnixMs
  ends : lease.expiresAtUnixMs.toNat ≤
    lease.issuedAtUnixMs.toNat + 1000 * lease.maxTotalDurationSeconds.toNat

/-- What a session plans does not go past the end of the lease as it was when the session read it. -/
structure RenewalPlan.Fits (strict : Prop) (plan : RenewalPlan) (stored : StoredLease) : Prop where
  clipped : plan.extensionMs ≤ stored.maxEndUnixMs.saturatingSub plan.nowUnixMs
  extends_ : strict → plan.nowUnixMs < stored.maxEndUnixMs → 0 < plan.extensionMs

theorem StoredLease.Termed.within {lease : StoredLease} (termed : lease.Termed) (strict : Prop) :
    lease.Within strict where
  ordered := UInt64.le_of_lt termed.lasts
  lasts := fun _ => termed.lasts
  ends := termed.ends

theorem StoredLease.maxEnd_of_identity {lease other : StoredLease}
    (same : lease.identity = other.identity) : lease.maxEndUnixMs = other.maxEndUnixMs := by
  simp only [maxEndUnixMs, issuedAt_of_identity same, maxTotal_of_identity same]

theorem StoredLease.Within.of_same {strict : Prop} {lease changed : StoredLease}
    (within : lease.Within strict) (same : lease.identity = changed.identity)
    (term : lease.expiresAtUnixMs = changed.expiresAtUnixMs) : changed.Within strict := by
  have issued := issuedAt_of_identity same
  have longest := maxTotal_of_identity same
  exact ⟨issued ▸ term ▸ within.ordered, fun strictly => issued ▸ term ▸ within.lasts strictly,
    issued ▸ term ▸ longest ▸ within.ends⟩

/-- A renewal that is not refused comes before the end of the total duration. -/
theorem lt_maxEnd_of_not_exceeded {lease : StoredLease} {nowUnixMs : UInt64}
    (running : nowUnixMs < lease.expiresAtUnixMs)
    (within : lease.isMaxDurationExceeded nowUnixMs = false) :
    lease.issuedAtUnixMs ≤ nowUnixMs ∧ nowUnixMs < lease.maxEndUnixMs ∧
      nowUnixMs.toNat <
        lease.issuedAtUnixMs.toNat + 1000 * lease.maxTotalDurationSeconds.toNat := by
  unfold StoredLease.isMaxDurationExceeded at within
  split at within
  · next elapsed subtracted =>
    obtain ⟨order, span⟩ := UInt64.checkedSub_eq_some.mp subtracted
    have short : elapsed < lease.maxTotalDurationSeconds.saturatingMul 1000 := by
      simpa [UInt64.not_le] using within
    have bound := lease.expiresAtUnixMs.toNat_lt
    have thousand : (1000 : UInt64).toNat = 1000 := rfl
    rw [UInt64.lt_iff_toNat_lt, UInt64.toNat_saturatingMul, thousand] at short
    rw [UInt64.lt_iff_toNat_lt] at running
    rw [UInt64.le_iff_toNat_le, UInt64.lt_iff_toNat_lt, StoredLease.maxEndUnixMs,
      UInt64.toNat_saturatingAdd, UInt64.toNat_saturatingMul, thousand]
    omega
  · cases within

theorem maxEnd_le (lease : StoredLease) : lease.maxEndUnixMs.toNat ≤
    lease.issuedAtUnixMs.toNat + 1000 * lease.maxTotalDurationSeconds.toNat := by
  rw [StoredLease.maxEndUnixMs, UInt64.toNat_saturatingAdd, UInt64.toNat_saturatingMul,
    show (1000 : UInt64).toNat = 1000 from rfl]
  omega

/-- The sum of a clock and an extension that fits does not wrap. -/
theorem RenewalPlan.Fits.no_wrap {strict : Prop} {plan : RenewalPlan} {stored : StoredLease}
    (fits : plan.Fits strict stored) :
    plan.nowUnixMs.toNat + plan.extensionMs.toNat < 2 ^ 64 ∧
      (plan.nowUnixMs < stored.maxEndUnixMs →
        (plan.nowUnixMs + plan.extensionMs).toNat ≤ stored.maxEndUnixMs.toNat) := by
  have clipped := fits.clipped
  rw [UInt64.le_iff_toNat_le, UInt64.toNat_saturatingSub] at clipped
  have nowBound := plan.nowUnixMs.toNat_lt
  have endBound := stored.maxEndUnixMs.toNat_lt
  refine ⟨by omega, fun before => ?_⟩
  rw [UInt64.lt_iff_toNat_lt] at before
  rw [UInt64.toNat_add, Nat.mod_eq_of_lt (by omega)]
  omega

/-- What a renewal writes lies within the total duration. -/
theorem renewedTo_within {strict : Prop} {plan : RenewalPlan} {stored : StoredLease}
    (fits : plan.Fits strict stored) (running : plan.nowUnixMs < stored.expiresAtUnixMs)
    (under : stored.isMaxDurationExceeded plan.nowUnixMs = false) (renewAfterUnixMs : UInt64) :
    (stored.renewedTo (plan.nowUnixMs + plan.extensionMs) renewAfterUnixMs).Within strict := by
  obtain ⟨issued, before, _⟩ := lt_maxEnd_of_not_exceeded running under
  obtain ⟨room, ends⟩ := fits.no_wrap
  have sum : (plan.nowUnixMs + plan.extensionMs).toNat =
      plan.nowUnixMs.toNat + plan.extensionMs.toNat := by
    rw [UInt64.toNat_add, Nat.mod_eq_of_lt room]
  rw [UInt64.le_iff_toNat_le] at issued
  constructor
  · change stored.issuedAtUnixMs ≤ plan.nowUnixMs + plan.extensionMs
    rw [UInt64.le_iff_toNat_le]
    omega
  · intro strictly
    have positive := fits.extends_ strictly before
    rw [UInt64.lt_iff_toNat_lt, UInt64.toNat_zero] at positive
    change stored.issuedAtUnixMs < plan.nowUnixMs + plan.extensionMs
    rw [UInt64.lt_iff_toNat_lt]
    omega
  · have last := maxEnd_le stored
    have within := ends before
    change (plan.nowUnixMs + plan.extensionMs).toNat ≤
      stored.issuedAtUnixMs.toNat + 1000 * stored.maxTotalDurationSeconds.toNat
    omega

theorem announcedRenewExtensionMs_le (normalMs capMs unreachableUntilUnixMs nowUnixMs
    maxEndUnixMs : UInt64) :
    announcedRenewExtensionMs normalMs capMs unreachableUntilUnixMs nowUnixMs maxEndUnixMs ≤
      maxEndUnixMs.saturatingSub nowUnixMs := by
  rw [announcedRenewExtensionMs, UInt64.le_iff_toNat_le, UInt64.toNat_min]
  omega

theorem announcedRenewExtensionMs_pos {normalMs capMs unreachableUntilUnixMs nowUnixMs
    maxEndUnixMs : UInt64} (normal : normalMs ≠ 0) (before : nowUnixMs < maxEndUnixMs) :
    0 < announcedRenewExtensionMs normalMs capMs unreachableUntilUnixMs nowUnixMs maxEndUnixMs := by
  have positive : 0 < normalMs.toNat := by
    rw [Nat.pos_iff_ne_zero, Ne, ← UInt64.toNat_zero, UInt64.toNat_inj]
    exact normal
  rw [UInt64.lt_iff_toNat_lt] at before
  rw [announcedRenewExtensionMs, UInt64.lt_iff_toNat_lt, UInt64.toNat_zero, UInt64.toNat_min,
    UInt64.toNat_saturatingSub]
  split
  · omega
  · rw [UInt64.toNat_max]
    omega

theorem planRenewal_fits {strict : Prop} {db : ControlDb} {config : RenewConfig}
    {request : RenewLeaseRequest} {nowUnixMs : UInt64} {plan : RenewalPlan}
    (more : strict → config.renewExtensionMs ≠ 0)
    (decided : planRenewal config db request nowUnixMs = .ok (.renew plan)) :
    ∃ stored, db.leases[plan.leaseId]? = some stored ∧ plan.Fits strict stored := by
  simp only [planRenewal, Except.bind_eq_ok, Except.ofOption_eq_ok] at decided
  obtain ⟨_, _, _, _, stored, found, _, _, _, _, decided⟩ := decided
  split at decided
  · cases decided
  · split at decided
    · cases decided
    · split at decided
      · cases decided
      · obtain rfl := RenewDecided.renew.inj (Except.ok.inj decided)
        refine ⟨stored, found, announcedRenewExtensionMs_le _ _ _ _ _, fun strictly before => ?_⟩
        exact announcedRenewExtensionMs_pos (more strictly) before

/-- The invariant: every lease is within its term, and every plan fits the lease it is for. -/
structure Timely (strict : Prop) (world : World) : Prop where
  leases : ∀ {id : String} {lease : StoredLease}, world.db.leases[id]? = some lease →
    lease.Within strict
  plans : ∀ plan ∈ world.planned, ∃ stored, world.db.leases[plan.leaseId]? = some stored ∧
    plan.Fits strict stored

/-- A plan still fits after a step: the end of the total duration does not move. -/
theorem Timely.plans_kept {strict : Prop} (timely : Timely strict world) {event : SessionEvent}
    (takes : Takes codec world event after) (intact : world.db.Intact) {plan : RenewalPlan}
    (waiting : plan ∈ world.planned) :
    ∃ stored, after.db.leases[plan.leaseId]? = some stored ∧ plan.Fits strict stored := by
  obtain ⟨stored, found, fits⟩ := timely.plans plan waiting
  obtain ⟨changed, now, same, _⟩ := takes.lease_kept intact found
  have ends := StoredLease.maxEnd_of_identity same
  exact ⟨changed, now, ends ▸ fits.clipped, fun strictly before =>
    fits.extends_ strictly (ends ▸ before)⟩

theorem Timely.next {strict : Prop} (timely : Timely strict world) {event : SessionEvent}
    (takes : Takes codec world event after) (intact : world.db.Intact)
    (more : strict → event.extends) : Timely strict after where
  leases := by
    intro id lease now
    rcases takes.lease_cases intact now with
      ⟨plan, stored, rfl, renews, rfl, rfl⟩ | ⟨before, there, same, term⟩ |
      ⟨staged, termed, same, term, _⟩
    · obtain ⟨planned, found, fits⟩ := timely.plans plan renews.waiting
      obtain rfl := Option.some.inj (found.symm.trans renews.found)
      exact renewedTo_within fits renews.running renews.under _
    · exact (timely.leases there).of_same same term
    · exact (termed.within strict).of_same same term
  plans := by
    intro plan waiting
    rcases takes.planned_cases waiting with earlier | ⟨config, request, nowUnixMs, rfl, decided⟩
    · exact timely.plans_kept takes intact earlier
    · obtain ⟨stored, found, fits⟩ := planRenewal_fits more decided
      cases takes
      exact ⟨stored, found, fits⟩

theorem Reached.timely {Meets : World → SessionEvent → Prop} {strict : Prop}
    (reached : Reached codec Meets world)
    (more : ∀ {world : World} {event : SessionEvent}, Meets world event → strict → event.extends) :
    Timely strict world := by
  induction reached with
  | start => exact ⟨fun found => by simp [World.empty, ControlDb.empty] at found, fun _ none => none.elim⟩
  | next reached meets takes ih => exact ih.next takes reached.intact (more meets)

section Refused

variable {db next : ControlDb} {config : RenewConfig} {key : SigningKey}
  {request : RenewLeaseRequest} {nowUnixMs : UInt64}

theorem updateJob_leases {job : StoredJob} (written : updateJob db job = .ok next) :
    next.leases = db.leases := by
  unfold updateJob at written
  split at written
  · exact (Except.ok.inj written) ▸ rfl
  · cases written

theorem recordStagingComplete_leases {jobId attemptId : String} {moved : Bool}
    (done : recordStagingComplete db jobId attemptId nowUnixMs = .ok (next, moved)) :
    next.leases = db.leases := by
  unfold recordStagingComplete at done
  obtain ⟨current, _, done⟩ := Except.bind_eq_ok.mp done
  split at done
  · exact (Prod.mk.inj (Except.ok.inj done)).1 ▸ rfl
  · split at done
    · exact (Prod.mk.inj (Except.ok.inj done)).1 ▸ rfl
    · simp only [Except.bind_eq_ok, Except.ok.injEq, Prod.mk.injEq] at done
      obtain ⟨_, _, _, _, _, _, written, wrote, rfl, _⟩ := done
      exact updateJob_leases wrote

theorem startJob_leases {attempt : StoredAttempt} {moved : Bool}
    (done : startJob db attempt nowUnixMs = .ok (next, moved)) : next.leases = db.leases := by
  unfold startJob at done
  split at done
  · split at done
    · next result recorded =>
      obtain rfl := Except.ok.inj done
      exact recordStagingComplete_leases recorded
    · split at done
      · exact (Prod.mk.inj (Except.ok.inj done)).1 ▸ rfl
      · cases done
  · exact (Prod.mk.inj (Except.ok.inj done)).1 ▸ rfl

theorem transitionAttemptStateAlong_leases {attemptId : String} {source : AttemptState}
    {path : List AttemptState}
    (done : transitionAttemptStateAlong db attemptId source path = .ok next) :
    next.leases = db.leases := by
  unfold transitionAttemptStateAlong at done
  obtain ⟨target, _, done⟩ := Except.bind_eq_ok.mp done
  split at done
  · split at done
    · exact (Except.ok.inj done) ▸ rfl
    · cases done
  · cases done

theorem recordProcessStarted_leases {leaseId : String} {recorded : ProcessStartedRecord}
    (done : recordProcessStarted db leaseId nowUnixMs = .ok (next, recorded)) :
    next.leases = db.leases := by
  unfold recordProcessStarted at done
  split at done
  · exact (Prod.mk.inj (Except.ok.inj done)).1 ▸ rfl
  · simp only [Except.bind_eq_ok] at done
    obtain ⟨found, _, attempt, _, done⟩ := done
    split at done
    · obtain ⟨moved, walked, done⟩ := Except.bind_eq_ok.mp done
      obtain ⟨⟨started, jobMoved⟩, starts, done⟩ := Except.bind_eq_ok.mp done
      obtain ⟨rfl, _⟩ := Prod.mk.inj (Except.ok.inj done)
      exact (startJob_leases starts).trans (transitionAttemptStateAlong_leases walked)
    · obtain ⟨⟨started, _⟩, starts, done⟩ := Except.bind_eq_ok.mp done
      obtain ⟨rfl, _⟩ := Prod.mk.inj (Except.ok.inj done)
      exact startJob_leases starts

theorem recordRenewed_leases (result : RenewLeaseResult) :
    (recordRenewed config db request nowUnixMs result).1.leases = db.leases := by
  unfold recordRenewed
  split
  · split
    · next started recorded done => exact recordProcessStarted_leases done
    · rfl
  · rfl

/-- The session renews: it is not refused, and no answer is put in the place of a renewal. -/
def SessionRenews (config : RenewConfig) (db : ControlDb) (request : RenewLeaseRequest)
    (nowUnixMs : UInt64) : Prop :=
  config.renewOutcomeOverride = none ∧ ∃ plan renewed lease,
    planRenewal config db request nowUnixMs = .ok (.renew plan) ∧
      renewPlanned db plan = .ok (renewed, .renewed lease)

theorem buildRenewResult_refused {plan : RenewalPlan} {requestNonce : List UInt8}
    (refused : config.renewOutcomeOverride = none → ∀ renewed lease,
      renewPlanned db plan ≠ .ok (renewed, .renewed lease)) :
    (buildRenewResult config key db plan requestNonce).1 = db := by
  unfold buildRenewResult
  split
  · rfl
  · next plain =>
    split
    · rfl
    · rfl
    · rfl
    · next kept => exact renewPlanned_keeps kept
    · next renewed lease written => exact absurd written (refused plain renewed lease)

/-- A session that does not renew leaves every lease as it is. -/
theorem serveRenewSession_refused (refused : ¬ SessionRenews config db request nowUnixMs) :
    (serveRenewSession config key db request nowUnixMs).1.leases = db.leases := by
  unfold serveRenewSession
  split
  · rfl
  · exact recordRenewed_leases _
  · next plan decided =>
    have same := @buildRenewResult_refused _ config key _ request.nonce
      fun plain renewed lease written => refused ⟨plain, plan, renewed, lease, decided, written⟩
    split
    · next built => exact congrArg ControlDb.leases (by simpa [built] using same)
    · next built =>
      rw [recordRenewed_leases]
      exact congrArg ControlDb.leases (by simpa [built] using same)

end Refused

/-- Staging and any number of sessions, at any clock and with any outage announced, keep every lease
within its total duration. Its term is not empty where the usual extension is not. -/
theorem lease_terms_capped (codec : Codec) :
    (∀ world, Reached codec Always world →
      (∀ (id : String) (lease : StoredLease), world.db.leases[id]? = some lease →
        lease.issuedAtUnixMs ≤ lease.expiresAtUnixMs ∧ lease.expiresAtUnixMs.toNat ≤
          lease.issuedAtUnixMs.toNat + 1000 * lease.maxTotalDurationSeconds.toNat) ∧
      (∀ plan ∈ world.planned, plan.nowUnixMs.toNat + plan.extensionMs.toNat < 2 ^ 64) ∧
      ∀ config key request nowUnixMs, ¬ SessionRenews config world.db request nowUnixMs →
        (serveRenewSession config key world.db request nowUnixMs).1.leases = world.db.leases) ∧
    ∀ world, Reached codec (fun _ event => event.extends) world →
      ∀ (id : String) (lease : StoredLease), world.db.leases[id]? = some lease →
        lease.issuedAtUnixMs < lease.expiresAtUnixMs := by
  refine ⟨fun world reached => ⟨fun id lease found => ?_, fun plan waiting => ?_, ?_⟩, ?_⟩
  · have timely : Timely False world := reached.timely fun _ never => never.elim
    exact ⟨(timely.leases found).ordered, (timely.leases found).ends⟩
  · have timely : Timely False world := reached.timely fun _ never => never.elim
    obtain ⟨stored, _, fits⟩ := timely.plans plan waiting
    exact fits.no_wrap.1
  · intro config key request nowUnixMs refused
    exact serveRenewSession_refused refused
  · intro world reached id lease found
    have timely : Timely True world := reached.timely fun extended _ => extended
    exact (timely.leases found).lasts trivial

/-- A session whose usual extension is nothing, at the time of issue. -/
theorem renewal_may_leave_no_term :
    ¬ ∀ world, Reached plainCodec Always world → ∀ (id : String) (lease : StoredLease),
      world.db.leases[id]? = some lease →
        lease.issuedAtUnixMs < lease.expiresAtUnixMs ∧ lease.expiresAtUnixMs.toNat ≤
          lease.issuedAtUnixMs.toNat + 1000 * lease.maxTotalDurationSeconds.toNat := by
  intro lasts
  have fields : (stagedWorld.db.leases["lease"]?.map fun lease => (lease.issuedAtUnixMs,
      lease.expiresAtUnixMs, lease.revokedAtUnixMs, lease.isMaxDurationExceeded 100)) =
      some (100, 1100, none, false) := by
    decide +kernel
  obtain ⟨stored, found, values⟩ := Option.map_eq_some_iff.mp fields
  simp only [Prod.mk.injEq] at values
  obtain ⟨issued, expires, live, under⟩ := values
  have decided : planRenewal (sessionConfig 0 0) stagedWorld.db (renewRequest 0) 100 =
      .ok (.renew ⟨"lease", 100, 0⟩) := by
    decide +kernel
  have staged : Reached plainCodec Always stagedWorld := stagedWorld_reached fun _ _ => trivial
  have planned := staged.next trivial (.planned decided)
  have running : (100 : UInt64) < stored.expiresAtUnixMs := by
    rw [expires]
    decide
  have renewed := planned.next trivial (.renewed (Set.mem_insert _ _)
    (renewPlanned_writes found live running under))
  have term := (lasts _ renewed "lease" _ (Table.lookup_insert.trans (if_pos rfl))).1
  have same : stored.issuedAtUnixMs < 100 + 0 := term
  rw [issued] at same
  exact absurd same (by decide)

end Gputeer.Coordinator
