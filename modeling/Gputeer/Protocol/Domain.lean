import Gputeer.Lib.Bytes

/-! The domains that separate signatures of different purposes. -/

namespace Gputeer.Protocol

def domainTagLen : Nat := 32

inductive Domain where
  | manifest
  | grant
  | lease
  | leaseRenew
  | leaseRevoke
  | checkpoint
  | replicaAck
  | artifact
  | attemptReport
  | canonical
  | genesis
  | memberAdd
  | memberRemove
  | deviceApprove
  | deviceRevoke
  | coordinatorSet
  | ownerKeyRotate
  | policyUpdate
  | quarantineDevice
  | quarantineRelease
  | audit
  | release
  | invite
  | grantAck
  | leaseRenewResult
  | sessionHello
  | leaseResume
  | leaseResumeResult
  | nodeHeartbeat
  | neighborUnreachableReport
  | attemptReportAck
  | grantAckReceipt
  deriving DecidableEq

namespace Domain

def asStr : Domain → String
  | manifest => "gputeer/v1/manifest"
  | grant => "gputeer/v2/grant"
  | lease => "gputeer/v1/lease"
  | leaseRenew => "gputeer/v1/lease-renew"
  | leaseRevoke => "gputeer/v1/lease-revoke"
  | checkpoint => "gputeer/v1/checkpoint"
  | replicaAck => "gputeer/v1/replica-ack"
  | artifact => "gputeer/v1/artifact"
  | attemptReport => "gputeer/v1/attempt-report"
  | canonical => "gputeer/v1/canonical"
  | genesis => "gputeer/v1/genesis"
  | memberAdd => "gputeer/v1/member-add"
  | memberRemove => "gputeer/v1/member-remove"
  | deviceApprove => "gputeer/v1/device-approve"
  | deviceRevoke => "gputeer/v1/device-revoke"
  | coordinatorSet => "gputeer/v1/coordinator-set"
  | ownerKeyRotate => "gputeer/v1/owner-key-rotate"
  | policyUpdate => "gputeer/v1/policy-update"
  | quarantineDevice => "gputeer/v1/quarantine-device"
  | quarantineRelease => "gputeer/v1/quarantine-release"
  | audit => "gputeer/v1/audit"
  | release => "gputeer/v1/release"
  | invite => "gputeer/v1/invite"
  | grantAck => "gputeer/v1/grant-ack"
  | leaseRenewResult => "gputeer/v1/lease-renew-result"
  | sessionHello => "gputeer/v1/session-hello"
  | leaseResume => "gputeer/v1/lease-resume"
  | leaseResumeResult => "gputeer/v1/lease-resume-result"
  | nodeHeartbeat => "gputeer/v1/node-heartbeat"
  | neighborUnreachableReport => "gputeer/v1/neighbor-unreachable"
  | attemptReportAck => "gputeer/v1/attempt-report-ack"
  | grantAckReceipt => "gputeer/v1/grant-ack-receipt"

def all : List Domain :=
  [manifest, grant, lease, leaseRenew, leaseRevoke, checkpoint,
   replicaAck, artifact, attemptReport, canonical, genesis, memberAdd,
   memberRemove, deviceApprove, deviceRevoke, coordinatorSet, ownerKeyRotate, policyUpdate,
   quarantineDevice, quarantineRelease, audit, release, invite, grantAck,
   leaseRenewResult, sessionHello, leaseResume, leaseResumeResult, nodeHeartbeat, neighborUnreachableReport,
   attemptReportAck, grantAckReceipt]

/-- The tag text in 32 bytes, padded with zeros on the right. -/
def tagBytes (domain : Domain) : List UInt8 :=
  Bytes.utf8 domain.asStr ++ List.replicate (domainTagLen - (Bytes.utf8 domain.asStr).length) 0

theorem find_tag (domain : Domain) :
    all.find? (fun other => other.tagBytes == domain.tagBytes) = some domain := by
  cases domain <;> decide

theorem tagBytes_injective {first second : Domain} (same : first.tagBytes = second.tagBytes) :
    first = second := by
  have found := find_tag first
  rw [same, find_tag second] at found
  exact (Option.some.inj found).symm

theorem asStr_injective {first second : Domain} (same : first.asStr = second.asStr) :
    first = second := by
  apply tagBytes_injective
  rw [tagBytes, tagBytes, same]

theorem length_tagBytes (domain : Domain) : domain.tagBytes.length = domainTagLen := by
  cases domain <;> decide

end Domain

end Gputeer.Protocol

/-! What a replay guard answers, and the interface the verifier uses. -/

namespace Gputeer.Protocol

/-- Length of a nonce in bytes. -/
def nonceLen : Nat := 16

inductive ReplayDecision where
  | fresh
  | duplicate
  deriving DecidableEq

inductive ReplayStoreError where
  | io (detail : String)
  | lockTimeout
  | cacheFull
  | invalidNonce (len : Nat)
  | signerQuotaExceeded (signerId : String) (quota : Nat)
  deriving DecidableEq

/-- A store of seen nonces. `checkAndRecord` answers and returns the store afterwards. -/
class ReplayGuard (Guard : Type) where
  checkAndRecord (guard : Guard) (signerId : String) (domain : Domain) (nonce : List UInt8)
    (retainUntilMs : UInt64) : Except ReplayStoreError ReplayDecision × Guard
  isEffective : Guard → Bool

/-- No replay check: every nonce passes, and the answer says so. -/
structure NoReplayCheck where

instance : ReplayGuard NoReplayCheck where
  checkAndRecord guard _ _ _ _ := (.ok .fresh, guard)
  isEffective _ := false

end Gputeer.Protocol
