import Gputeer.Coordinator.ControlDb

/-! The lease store: issue, renewal, the signed reassignment grace and revocation. -/

namespace Gputeer.Coordinator

inductive LeaseStoreError where
  | notFound
  | identityConflict (field stored requested : String)
  | revoked (revokedAtUnixMs : UInt64)
  | expired (expiresAtUnixMs : UInt64)
  deriving DecidableEq

def LeaseStoreError.display : LeaseStoreError → String
  | .notFound => "lease_id 가 저장소에 없다"
  | .identityConflict field stored requested =>
      "identity 충돌: " ++ field ++ " 저장값=" ++ stored ++ " 요청값=" ++ requested
  | .revoked revokedAt => s!"lease revoked at unix ms: {revokedAt}"
  | .expired expiresAt => s!"lease expired at unix ms: {expiresAt}"

inductive RenewDecision where
  | renewed (lease : StoredLease)
  | maxDurationExceeded (lease : StoredLease)
  deriving DecidableEq

/-- A clock behind the time of issue counts as exceeded. -/
def StoredLease.isMaxDurationExceeded (lease : StoredLease) (nowUnixMs : UInt64) : Bool :=
  match nowUnixMs.checkedSub lease.issuedAtUnixMs with
  | some elapsedMs => lease.maxTotalDurationSeconds.saturatingMul 1000 ≤ elapsedMs
  | none => true

def writeLease (db : ControlDb) (leaseId : String) (lease : StoredLease) : ControlDb :=
  { db with leases := db.leases.insert leaseId lease }

/-- A new row never carries a revocation. -/
def insertLease (db : ControlDb) (candidate : StoredLease) : ControlDb :=
  writeLease db candidate.leaseId { candidate with revokedAtUnixMs := none }

def checkIdentityConflict (stored candidate : StoredLease) : Except LeaseStoreError Unit := do
  Except.ensure (stored.jobId = candidate.jobId)
    (.identityConflict "job_id" stored.jobId candidate.jobId)
  Except.ensure (stored.attemptId = candidate.attemptId)
    (.identityConflict "attempt_id" stored.attemptId candidate.attemptId)
  Except.ensure (stored.holderNodeId = candidate.holderNodeId)
    (.identityConflict "holder_node_id" stored.holderNodeId candidate.holderNodeId)
  Except.ensure (stored.issuingCoordinatorId = candidate.issuingCoordinatorId)
    (.identityConflict "issuing_coordinator_id" stored.issuingCoordinatorId
      candidate.issuingCoordinatorId)

def ensureNotRevoked (lease : StoredLease) : Except LeaseStoreError Unit :=
  match lease.revokedAtUnixMs with
  | some revokedAtUnixMs => .error (.revoked revokedAtUnixMs)
  | none => .ok ()

def ensureNotExpired (lease : StoredLease) (nowUnixMs : UInt64) : Except LeaseStoreError Unit :=
  Except.ensure (¬ lease.expiresAtUnixMs ≤ nowUnixMs) (.expired lease.expiresAtUnixMs)

def getOrIssue (db : ControlDb) (candidate : StoredLease) (nowUnixMs : UInt64) :
    Except LeaseStoreError (ControlDb × StoredLease) :=
  match fetchLease db candidate.leaseId with
  | some stored => do
      checkIdentityConflict stored candidate
      ensureNotRevoked stored
      ensureNotExpired stored nowUnixMs
      .ok (db, stored)
  | none => .ok (insertLease db candidate, candidate)

/-- The first revocation stands. -/
def StoredLease.revokedAt (lease : StoredLease) (revokedAtUnixMs : UInt64) : StoredLease :=
  { lease with revokedAtUnixMs := some (lease.revokedAtUnixMs.getD revokedAtUnixMs) }

def markRevoked (db : ControlDb) (leaseId : String) (revokedAtUnixMs : UInt64) :
    Except LeaseStoreError (ControlDb × StoredLease) := do
  let stored ← Except.ofOption .notFound (fetchLease db leaseId)
  let revoked := stored.revokedAt revokedAtUnixMs
  if stored.revokedAtUnixMs = none then .ok (writeLease db leaseId revoked, revoked)
  else .ok (db, revoked)

/-- Revocation inside a caller's transaction. -/
def revokeWithin (db : ControlDb) (leaseId : String) (revokedAtUnixMs : UInt64) :
    Except LeaseStoreError ControlDb := do
  let stored ← Except.ofOption .notFound (fetchLease db leaseId)
  .ok (writeLease db leaseId (stored.revokedAt revokedAtUnixMs))

def StoredLease.raisedGrace (lease : StoredLease) (atLeastMs : UInt64) : StoredLease :=
  if lease.revokedAtUnixMs = none ∧ lease.reassignmentGraceMs < atLeastMs then
    { lease with reassignmentGraceMs := atLeastMs }
  else lease

/-- The row is written first and read back; a revoked lease is refused and left alone. -/
def raiseReassignmentGrace (db : ControlDb) (leaseId : String) (atLeastMs : UInt64) :
    Except LeaseStoreError (ControlDb × StoredLease) := do
  let written := { db with leases := db.leases.update leaseId (·.raisedGrace atLeastMs) }
  let stored ← Except.ofOption .notFound (fetchLease written leaseId)
  ensureNotRevoked stored
  .ok (written, stored)

def StoredLease.renewedTo (lease : StoredLease) (expiresAtUnixMs renewAfterUnixMs : UInt64) :
    StoredLease :=
  { lease with expiresAtUnixMs, renewAfterUnixMs }

def renewExisting (db : ControlDb) (leaseId : String)
    (newExpiresAtUnixMs newRenewAfterUnixMs : UInt64) :
    Except LeaseStoreError (ControlDb × StoredLease) := do
  let stored ← Except.ofOption .notFound (fetchLease db leaseId)
  ensureNotRevoked stored
  let renewed := stored.renewedTo newExpiresAtUnixMs newRenewAfterUnixMs
  .ok (writeLease db leaseId renewed, renewed)

/-- Nothing is written once the total duration is used up. -/
def renewExistingWithinDuration (db : ControlDb) (leaseId : String) (nowUnixMs : UInt64)
    (newExpiresAtUnixMs newRenewAfterUnixMs : UInt64) :
    Except LeaseStoreError (ControlDb × RenewDecision) := do
  let stored ← Except.ofOption .notFound (fetchLease db leaseId)
  ensureNotRevoked stored
  ensureNotExpired stored nowUnixMs
  if stored.isMaxDurationExceeded nowUnixMs then .ok (db, .maxDurationExceeded stored)
  else
    let renewed := stored.renewedTo newExpiresAtUnixMs newRenewAfterUnixMs
    .ok (writeLease db leaseId renewed, .renewed renewed)

@[simp] theorem ensureNotRevoked_eq_ok {lease : StoredLease} {done : Unit} :
    ensureNotRevoked lease = .ok done ↔ lease.revokedAtUnixMs = none := by
  unfold ensureNotRevoked
  split <;> simp_all

end Gputeer.Coordinator
