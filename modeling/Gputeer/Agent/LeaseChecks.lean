import Gputeer.Protocol.Signable
import Gputeer.RuntimePolicy.LeaseScope

/-! What an Agent asks of the Lease in a grant, and of the one in the answer to a renewal, before it holds it.
Both move the watermark of the Job, which all Attempts of the Job share. -/

namespace Gputeer.Agent

open Protocol RuntimePolicy

section Keys

/-- The check of a signature with one public key. -/
abbrev VerifyingKey := List UInt8 → List UInt8 → Bool

structure InMemoryKeyring where
  keys : Table String VerifyingKey

namespace InMemoryKeyring

def new : InMemoryKeyring := ⟨∅⟩

def insert (keyring : InMemoryKeyring) (signerId : String) (key : VerifyingKey) : InMemoryKeyring :=
  ⟨keyring.keys.insert signerId key⟩

end InMemoryKeyring

/-- A keyring in memory has no retired keys. -/
def ed25519Verifier (keyring : InMemoryKeyring) : SignatureVerifier := fun signerId message signature =>
  if signature.length ≠ 64 then .error .invalidSignature
  else
    match keyring.keys[signerId]? with
    | none => .error .unknownSigner
    | some key => if key message signature then .ok () else .error .invalidSignature

structure AgentConfig where
  coordinatorDeviceId : String
  coordinatorVerifyingKey : VerifyingKey
  agentDeviceId : String

/-- The keyring that every connection is opened with. -/
def coordinatorKeys (config : AgentConfig) : InMemoryKeyring :=
  InMemoryKeyring.new.insert config.coordinatorDeviceId config.coordinatorVerifyingKey

end Keys

section Fence

/-- The database reports a failure. What was begun is then undone, or was written all the same. -/
structure SqlFault where
  error : DurableFenceError
  written : Bool
  deriving DecidableEq

def checkAndAdvanceOn (fence : DurableFenceWatermark) (resource : String) (epoch : UInt64) :
    Option SqlFault → Except DurableFenceError Unit × DurableFenceWatermark
  | none => fence.checkAndAdvance resource epoch
  | some fault =>
      (.error fault.error, if fault.written then (fence.checkAndAdvance resource epoch).2 else fence)

def fenceErrorMessage (label : String) : DurableFenceError → String
  | .stale violation => s!"{label}: fence_epoch 검사 실패(정책 거부) — {violation.display}"
  | other => s!"{label}: FENCE_STORAGE_ERROR: fence watermark 저장소 오류 — {other.display}"

/-- The last step of both checks. -/
def recordEpoch (label : String) (lease : Lease) (fence : DurableFenceWatermark)
    (fault : Option SqlFault) : Except String Lease × DurableFenceWatermark :=
  let advanced := checkAndAdvanceOn fence lease.jobId lease.fenceEpoch fault
  ((advanced.1.map fun _ => lease).mapError (fenceErrorMessage label), advanced.2)

end Fence

def leaseMaxSchemaVersion : UInt32 := 2

def leaseReassignmentGraceMinSchemaVersion : UInt32 := 2

def refuseMisplacedReassignmentGrace (lease : Lease) : Except String Unit :=
  Except.ensure (¬ (lease.reassignmentGraceMs ≠ 0 ∧
      lease.schemaVersion < leaseReassignmentGraceMinSchemaVersion))
    s!"schema_version {lease.schemaVersion} 인 Lease 에 재배치 유예(reassignment_grace_ms={lease.reassignmentGraceMs})가 있다 — v2 에서만 실을 수 있다"

section Checks

variable {Guard : Type} [ReplayGuard Guard]

/-- The hash of derived fields, and how a failed verification is written. -/
structure Tools where
  blake3 : Blake3
  debug : VerifyError → String

variable (tools : Tools) (config : AgentConfig)

def verifyLease (lease : Lease) (coordinatorKeys : InMemoryKeyring) (nowUnixMs : UInt64) (replay : Guard) :
    Except VerifyError (Verified Lease) :=
  (verify tools.blake3 lease leaseMaxSchemaVersion (ed25519Verifier coordinatorKeys) nowUnixMs replay).1

/-- All that is asked of the Lease of a grant but for its epoch. A Lease is no short-lived message, so that
its verification leaves the replay guard as it was. -/
def checkGrantedLease (grant : ExecutionGrant) (coordinatorKeys : InMemoryKeyring) (nowUnixMs : UInt64)
    (replay : Guard) : Except String Lease := do
  let lease ← Except.ofOption "LEASE_REJECTED: Grant 에 Lease 가 없다" grant.lease
  let verified ← (verifyLease tools lease coordinatorKeys nowUnixMs replay).mapError fun fault =>
    s!"LEASE_REJECTED: Lease 서명 검증 실패: {tools.debug fault}"
  let lease := verified.inner
  (refuseMisplacedReassignmentGrace lease).mapError fun why => s!"LEASE_REJECTED: {why}"
  Except.ensure (lease.attemptId = grant.attemptId) "LEASE_REJECTED: attempt_id 가 Grant 와 다르다"
  Except.ensure (lease.issuingCoordinatorId = grant.coordinatorDeviceId)
    "LEASE_REJECTED: issuing_coordinator_id 가 Grant 와 다르다"
  Except.ensure (lease.holderNodeId = config.agentDeviceId)
    "LEASE_REJECTED: holder_node_id 가 이 Agent 가 아니다"
  Except.ensure (lease.jobId ≠ "") "LEASE_REJECTED: job_id 가 비어 있다"
  .ok lease

def verifyAndRecordLease (grant : ExecutionGrant) (coordinatorKeys : InMemoryKeyring)
    (nowUnixMs : UInt64) (replay : Guard) (watermark : DurableFenceWatermark) (fault : Option SqlFault) :
    Except String Lease × DurableFenceWatermark :=
  match checkGrantedLease tools config grant coordinatorKeys nowUnixMs replay with
  | .error why => (.error why, watermark)
  | .ok lease => recordEpoch "LEASE_REJECTED" lease watermark fault

def renewRefusal (outcome : Int32) : String :=
  if outcome = 2 then "RENEW_REFUSED:SUPERSEDED"
  else if outcome = 3 then "RENEW_REFUSED:QUARANTINED"
  else if outcome = 6 then "RENEW_REFUSED:MAX_DURATION_EXCEEDED"
  else if outcome = 8 then "RENEW_REFUSED:REVOKED"
  else s!"RENEW_REJECTED: 알 수 없는 outcome {outcome}"

/-- All that is asked of the answer to a renewal but for the watermark. -/
def checkRenewedLease (result : RenewLeaseResult) (requestNonce : List UInt8) (heldLease : Lease)
    (coordinatorKeys : InMemoryKeyring) (nowUnixMs : UInt64) (replay : Guard) : Except String Lease := do
  Except.ensure (result.requestNonce = requestNonce)
    "RENEW_REJECTED: request_nonce 가 우리가 보낸 요청과 다르다"
  Except.ensure (result.coordinatorId = config.coordinatorDeviceId)
    s!"RENEW_REJECTED: coordinator_id 불일치: 기대값 {config.coordinatorDeviceId} != {result.coordinatorId}"
  Except.ensure (result.outcome = 1) (renewRefusal result.outcome)
  let newLease ← Except.ofOption "RENEW_REJECTED: outcome=RENEWED 인데 Lease 가 없다" result.lease
  let verified ← (verifyLease tools newLease coordinatorKeys nowUnixMs replay).mapError fun fault =>
    s!"RENEW_REJECTED: 갱신된 Lease 서명 검증 실패: {tools.debug fault}"
  let newLease := verified.inner
  (refuseMisplacedReassignmentGrace newLease).mapError fun why => s!"RENEW_REJECTED: {why}"
  Except.ensure (newLease.leaseId = heldLease.leaseId)
    "RENEW_REJECTED: 갱신된 Lease.lease_id 가 기존과 다르다"
  Except.ensure (newLease.jobId = heldLease.jobId)
    "RENEW_REJECTED: 갱신된 Lease.job_id 가 기존과 다르다"
  Except.ensure (newLease.attemptId = heldLease.attemptId)
    "RENEW_REJECTED: 갱신된 Lease.attempt_id 가 기존과 다르다"
  Except.ensure (newLease.issuingCoordinatorId = config.coordinatorDeviceId)
    "RENEW_REJECTED: 갱신된 Lease.issuing_coordinator_id 가 기대값과 다르다"
  Except.ensure (newLease.holderNodeId = config.agentDeviceId)
    "RENEW_REJECTED: 갱신된 Lease.holder_node_id 가 이 Agent 가 아니다"
  Except.ensure (¬ heldLease.fenceEpoch < newLease.fenceEpoch)
    s!"RENEW_REJECTED: 갱신된 Lease.fence_epoch({newLease.fenceEpoch}) 이 기존({heldLease.fenceEpoch}) 보다 높다 — epoch 상승은 이 조각의 범위 밖이라 정책상 거부한다"
  .ok newLease

def verifyRenewResult (result : RenewLeaseResult) (requestNonce : List UInt8) (heldLease : Lease)
    (coordinatorKeys : InMemoryKeyring) (nowUnixMs : UInt64) (replay : Guard)
    (fenceWatermark : DurableFenceWatermark) (fault : Option SqlFault) :
    Except String Lease × DurableFenceWatermark :=
  match checkRenewedLease tools config result requestNonce heldLease coordinatorKeys nowUnixMs replay with
  | .error why => (.error why, fenceWatermark)
  | .ok newLease => recordEpoch "RENEW_REJECTED" newLease fenceWatermark fault

end Checks

end Gputeer.Agent
