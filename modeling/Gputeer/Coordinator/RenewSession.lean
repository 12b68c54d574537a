import Gputeer.Coordinator.GrantFromStored

/-! A RENEW session: a node asks on a connection of its own for more time on a stored lease. The
row is read, written and read again for the signature in separate transactions. -/

namespace Gputeer.Coordinator

open Protocol Text

/-- What a session uses of the configuration of its coordinator. -/
structure RenewConfig where
  coordinatorDeviceId : String
  agentDeviceId : String
  renewExtensionMs : UInt64
  plannedUnreachableMaxMs : UInt64
  signedReassignmentGraceMs : UInt64
  renewOutcomeOverride : Option Int32
  grantFromControlDb : Bool

inductive RenewSessionError where
  | nodeIdMismatch (expected : String)
  | announcedInV1
  | unknownLease
  | otherIssuer (coordinatorDeviceId : String)
  | otherHolder
  | fenceAhead (storedEpoch : UInt64)
  | expired
  | storage (label message : String)
  deriving DecidableEq

/-- The extension of one renewal. An announced outage gets more time than usual, up to the cap of the
operator, and nothing goes past the end of the total duration. -/
def announcedRenewExtensionMs (normalMs capMs unreachableUntilUnixMs nowUnixMs maxEndUnixMs : UInt64) :
    UInt64 :=
  let toMaxEnd := maxEndUnixMs.saturatingSub nowUnixMs
  let wanted :=
    if capMs = 0 ∨ unreachableUntilUnixMs ≤ nowUnixMs then normalMs
    else max (min (unreachableUntilUnixMs - nowUnixMs) capMs) normalMs
  min wanted toMaxEnd

/-- The end of the total duration of a lease. -/
def StoredLease.maxEndUnixMs (lease : StoredLease) : UInt64 :=
  lease.issuedAtUnixMs.saturatingAdd (lease.maxTotalDurationSeconds.saturatingMul 1000)

/-- What a session is going to ask of the lease store. -/
structure RenewalPlan where
  leaseId : String
  nowUnixMs : UInt64
  extensionMs : UInt64
  deriving DecidableEq

inductive RenewDecided where
  | superseded
  | renew (plan : RenewalPlan)
  deriving DecidableEq

section Session

variable (config : RenewConfig)

/-- The first part of a session: the request is compared with the stored lease. -/
def planRenewal (db : ControlDb) (request : RenewLeaseRequest) (nowUnixMs : UInt64) :
    Except RenewSessionError RenewDecided := do
  Except.ensure (request.nodeId = config.agentDeviceId) (.nodeIdMismatch config.agentDeviceId)
  Except.ensure (¬ (request.unreachableUntilUnixMs ≠ 0 ∧ request.schemaVersion < 2)) .announcedInV1
  let stored ← Except.ofOption .unknownLease (fetchLease db request.leaseId)
  Except.ensure (stored.issuingCoordinatorId = config.coordinatorDeviceId)
    (.otherIssuer config.coordinatorDeviceId)
  Except.ensure (stored.holderNodeId = request.nodeId) .otherHolder
  if request.fenceEpoch < stored.fenceEpoch then .ok .superseded
  else if stored.fenceEpoch < request.fenceEpoch then .error (.fenceAhead stored.fenceEpoch)
  else if stored.revokedAtUnixMs = none ∧ stored.expiresAtUnixMs ≤ nowUnixMs then .error .expired
  else
    .ok (.renew
      { leaseId := request.leaseId
        nowUnixMs
        extensionMs := announcedRenewExtensionMs config.renewExtensionMs
          config.plannedUnreachableMaxMs request.unreachableUntilUnixMs nowUnixMs
          stored.maxEndUnixMs })

/-- The second part: the transaction that writes the new term. -/
def renewPlanned (db : ControlDb) (plan : RenewalPlan) :
    Except LeaseStoreError (ControlDb × RenewDecision) :=
  renewExistingWithinDuration db plan.leaseId plan.nowUnixMs (plan.nowUnixMs + plan.extensionMs)
    (plan.nowUnixMs + plan.extensionMs / 2)

/-- The third part: what is signed carries the grace that was stored before. -/
def withSignedReassignmentGrace (db : ControlDb) (resolved : StoredLease) :
    Except LeaseStoreError (ControlDb × StoredLease) :=
  if config.signedReassignmentGraceMs = 0 then .ok (db, resolved)
  else raiseReassignmentGrace db resolved.leaseId config.signedReassignmentGraceMs

section Answer

variable (key : SigningKey) (nowUnixMs : UInt64) (requestNonce : List UInt8)

/-- An answer without a lease. -/
def policyRenewResult (outcome : Int32) (detail : String) : RenewLeaseResult :=
  let result : RenewLeaseResult :=
    { outcome, lease := none, detail, retryAfterMs := 0, schemaVersion := 1,
      coordinatorId := config.coordinatorDeviceId, issuedAtUnixMs := nowUnixMs, requestNonce,
      coordinatorSignature := [] }
  { result with coordinatorSignature := key.sign (signingInput result) }

def revokedRenewResult (revokedAtUnixMs : UInt64) : RenewLeaseResult :=
  policyRenewResult config key nowUnixMs requestNonce 8
    s!"lease revoked at unix ms: {revokedAtUnixMs}"

def renewedLeaseResult (resolved : StoredLease) : Except String RenewLeaseResult := do
  let lease ← storedToSignedLease key resolved
  let result : RenewLeaseResult :=
    { outcome := 1, lease := some lease, detail := "ok", retryAfterMs := 0, schemaVersion := 1,
      coordinatorId := config.coordinatorDeviceId, issuedAtUnixMs := nowUnixMs, requestNonce,
      coordinatorSignature := [] }
  .ok { result with coordinatorSignature := key.sign (signingInput result) }

end Answer

/-- An override of the outcome leaves the row alone, and does not hide why a renewal is refused. -/
def overriddenRenewResult (key : SigningKey) (db : ControlDb) (plan : RenewalPlan)
    (requestNonce : List UInt8) (outcome : Int32) : Except String RenewLeaseResult := do
  let stored ← Except.ofOption
    ("lease store 에 RenewLeaseRequest.lease_id(" ++ plan.leaseId ++
      ") 가 없다 — 발급한 Lease 를 다른 저장소에서 찾는 구성 문제다(결함 100)")
    (fetchLease db plan.leaseId)
  match stored.revokedAtUnixMs with
  | some revokedAt => .ok (revokedRenewResult config key plan.nowUnixMs requestNonce revokedAt)
  | none =>
      Except.ensure (¬ stored.expiresAtUnixMs ≤ plan.nowUnixMs)
        ("LEASE_POLICY_REFUSED: lease store expired during renewal: " ++
          (LeaseStoreError.expired stored.expiresAtUnixMs).display)
      if stored.isMaxDurationExceeded plan.nowUnixMs then
        .ok (policyRenewResult config key plan.nowUnixMs requestNonce 6
          "max total duration exceeded")
      else .ok (policyRenewResult config key plan.nowUnixMs requestNonce outcome "policy override")

/-- What a renewal committed stays, also if no answer can be made of it. -/
def buildRenewResult (key : SigningKey) (db : ControlDb) (plan : RenewalPlan)
    (requestNonce : List UInt8) : ControlDb × Except String RenewLeaseResult :=
  match config.renewOutcomeOverride with
  | some outcome => (db, overriddenRenewResult config key db plan requestNonce outcome)
  | none =>
      match renewPlanned db plan with
      | .error (.revoked revokedAt) =>
          (db, .ok (revokedRenewResult config key plan.nowUnixMs requestNonce revokedAt))
      | .error (.expired expiresAt) =>
          (db, .error ("LEASE_POLICY_REFUSED: lease store expired during renewal: " ++
            (LeaseStoreError.expired expiresAt).display))
      | .error fault => (db, .error ("lease store 갱신 실패: " ++ fault.display))
      | .ok (same, .maxDurationExceeded _) =>
          (same, .ok (policyRenewResult config key plan.nowUnixMs requestNonce 6
            "max total duration exceeded"))
      | .ok (renewed, .renewed lease) =>
          match withSignedReassignmentGrace config renewed lease with
          | .ok (raised, resolved) =>
              (raised, renewedLeaseResult config key plan.nowUnixMs requestNonce resolved)
          | .error (.revoked revokedAt) =>
              (renewed, .ok (revokedRenewResult config key plan.nowUnixMs requestNonce revokedAt))
          | .error fault => (renewed, .error ("lease store 유예 저장 실패: " ++ fault.display))

/-- The first progress of a run is recorded before the renewal is answered. -/
def recordRenewed (db : ControlDb) (request : RenewLeaseRequest) (nowUnixMs : UInt64)
    (result : RenewLeaseResult) : ControlDb × Except RenewSessionError RenewLeaseResult :=
  if result.outcome = 1 ∧ config.grantFromControlDb then
    match recordProcessStarted db request.leaseId nowUnixMs with
    | .ok (started, _) => (started, .ok result)
    | .error fault => (db, .error (.storage "process started" fault.display))
  else (db, .ok result)

/-- A whole session over a request whose signature and nonce were checked. -/
def serveRenewSession (key : SigningKey) (db : ControlDb) (request : RenewLeaseRequest)
    (nowUnixMs : UInt64) : ControlDb × Except RenewSessionError RenewLeaseResult :=
  match planRenewal config db request nowUnixMs with
  | .error refusal => (db, .error refusal)
  | .ok .superseded =>
      recordRenewed config db request nowUnixMs
        (policyRenewResult config key nowUnixMs request.nonce 2 "a higher fence epoch already exists")
  | .ok (.renew plan) =>
      match buildRenewResult config key db plan request.nonce with
      | (written, .error message) => (written, .error (.storage "lease store renew" message))
      | (written, .ok result) => recordRenewed config written request nowUnixMs result

end Session

end Gputeer.Coordinator
