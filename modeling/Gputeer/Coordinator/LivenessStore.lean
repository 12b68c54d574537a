import Gputeer.Coordinator.JobRow
import Gputeer.Lib.Trace
import Gputeer.Lib.Transaction
import Gputeer.Protocol.Signable
import Gputeer.Scheduler.Liveness

/-! The last heartbeat of every node, kept beyond a restart. Only the newest is kept; another device is not
taken for a node unless an operator said which one is to come. What SQLite itself may fail with is left out. -/

namespace Gputeer.Protocol

deriving instance DecidableEq, Inhabited for NodeHeartbeat

end Gputeer.Protocol

namespace Gputeer.Coordinator.LivenessStore

open Protocol Text Scheduler Transaction Body

/-- The encoding of the message and the hash of the bodies, which lie outside. -/
structure HeartbeatCodec where
  encode : NodeHeartbeat → List UInt8
  decode : List UInt8 → Option NodeHeartbeat
  blake3 : List UInt8 → ManifestHash
  decode_nil : decode [] = some default

inductive LivenessCorruption where
  | emptyBody | undecodableBody | hashEncoding | hashMismatch | nodeIdMismatch | deviceIdMismatch
  | issuedAtMismatch | fenceEpochMismatch | runningAttemptsMismatch
  deriving DecidableEq

inductive NodeLivenessStoreError where
  | invalidHeartbeat (detail : String)
  | signerIsNotTheDevice (signer device : String)
  | corrupt (kind : LivenessCorruption)
  | deviceChanged (nodeId stored incoming : String)
  deriving DecidableEq

structure StoredNodeLiveness where
  heartbeat : NodeHeartbeat
  heartbeatHash : ManifestHash
  signerIdAtObservation : String
  nodeId : String
  deviceId : String
  lastHeartbeatUnixMs : UInt64
  fenceEpoch : UInt64
  runningAttempts : UInt32

structure ObserveResult where
  stored : StoredNodeLiveness
  /-- The observation is newer than what was there. -/
  advanced : Bool

/-- A row of `coordinator_node_liveness`; its numbers are signed. -/
structure LivenessRow where
  deviceId : String
  lastHeartbeatUnixMs : Int
  fenceEpoch : Int
  runningAttempts : Int
  signerIdAtObservation : String
  heartbeatBody : List UInt8
  heartbeatHash : List UInt8
  deriving DecidableEq

structure LivenessDb where
  nodeLiveness : Table String LivenessRow
  /-- The device that is to come for a node. -/
  pendingRebind : Table String String

def LivenessDb.empty : LivenessDb := ⟨∅, ∅⟩

section Columns

def u64OfColumn (kind : LivenessCorruption) (value : Int) : Except NodeLivenessStoreError UInt64 :=
  if 0 ≤ value then .ok (UInt64.ofNat value.toNat) else .error (.corrupt kind)

def u32OfColumn (kind : LivenessCorruption) (value : Int) : Except NodeLivenessStoreError UInt32 :=
  if 0 ≤ value ∧ value < 2 ^ 32 then .ok (UInt32.ofNat value.toNat) else .error (.corrupt kind)

def i64OfField (detail : String) (value : UInt64) : Except NodeLivenessStoreError Int :=
  if value.toNat < 2 ^ 63 then .ok value.toNat else .error (.invalidHeartbeat detail)

def hashOfColumn (bytes : List UInt8) : Except NodeLivenessStoreError ManifestHash :=
  (decodeHash bytes).mapError fun _ => .corrupt .hashEncoding

/-- `(issued_at, fence_epoch, running_attempts)`, compared from the left. -/
structure Rank where
  issuedAtUnixMs : UInt64
  fenceEpoch : UInt64
  runningAttempts : UInt32

def Rank.AtMost (incoming stored : Rank) : Prop :=
  incoming.issuedAtUnixMs < stored.issuedAtUnixMs ∨ incoming.issuedAtUnixMs = stored.issuedAtUnixMs ∧
    (incoming.fenceEpoch < stored.fenceEpoch ∨ incoming.fenceEpoch = stored.fenceEpoch ∧
      incoming.runningAttempts ≤ stored.runningAttempts)

instance (incoming stored : Rank) : Decidable (incoming.AtMost stored) := by
  unfold Rank.AtMost
  infer_instance

def LivenessRow.rank (row : LivenessRow) : Except NodeLivenessStoreError Rank := do
  let issuedAtUnixMs ← u64OfColumn .issuedAtMismatch row.lastHeartbeatUnixMs
  let fenceEpoch ← u64OfColumn .fenceEpochMismatch row.fenceEpoch
  let runningAttempts ← u32OfColumn .runningAttemptsMismatch row.runningAttempts
  .ok { issuedAtUnixMs, fenceEpoch, runningAttempts }

def rankOf (heartbeat : NodeHeartbeat) : Rank where
  issuedAtUnixMs := heartbeat.issuedAtUnixMs
  fenceEpoch := heartbeat.fenceEpoch
  runningAttempts := heartbeat.runningAttempts

end Columns

variable (codec : HeartbeatCodec)

/-- A row is checked against its body whenever it is read. -/
def decodeLivenessRow (nodeId : String) (row : LivenessRow) :
    Except NodeLivenessStoreError StoredNodeLiveness := do
  Except.ensure (row.heartbeatBody ≠ []) (.corrupt .emptyBody)
  let heartbeat ← Except.ofOption (.corrupt .undecodableBody) (codec.decode row.heartbeatBody)
  let heartbeatHash ← hashOfColumn row.heartbeatHash
  Except.ensure (codec.blake3 row.heartbeatBody = heartbeatHash) (.corrupt .hashMismatch)
  Except.ensure (heartbeat.nodeId = nodeId) (.corrupt .nodeIdMismatch)
  Except.ensure (heartbeat.deviceId = row.deviceId ∧ heartbeat.deviceId = row.signerIdAtObservation)
    (.corrupt .deviceIdMismatch)
  let storedAt ← u64OfColumn .issuedAtMismatch row.lastHeartbeatUnixMs
  Except.ensure (heartbeat.issuedAtUnixMs = storedAt) (.corrupt .issuedAtMismatch)
  let storedEpoch ← u64OfColumn .fenceEpochMismatch row.fenceEpoch
  Except.ensure (heartbeat.fenceEpoch = storedEpoch) (.corrupt .fenceEpochMismatch)
  let storedAttempts ← u32OfColumn .runningAttemptsMismatch row.runningAttempts
  Except.ensure (heartbeat.runningAttempts = storedAttempts) (.corrupt .runningAttemptsMismatch)
  .ok { heartbeat, heartbeatHash, signerIdAtObservation := row.signerIdAtObservation, nodeId
        deviceId := row.deviceId
        lastHeartbeatUnixMs := storedAt
        fenceEpoch := storedEpoch
        runningAttempts := storedAttempts }

abbrev LivenessBody := Body LivenessDb NodeLivenessStoreError

section Observe

/-- What can be said against a heartbeat before the lock is taken. -/
def checkHeartbeat (verified : Verified NodeHeartbeat) : Except NodeLivenessStoreError Unit := do
  let heartbeat := verified.inner
  Except.ensure (isBlank heartbeat.nodeId = false) (.invalidHeartbeat "node_id 가 비었다")
  Except.ensure (isBlank heartbeat.deviceId = false) (.invalidHeartbeat "device_id 가 비었다")
  Except.ensure (heartbeat.issuedAtUnixMs ≠ 0)
    (.invalidHeartbeat "issued_at_unix_ms 가 0 이다 — 시각 없는 관측은 판정에 쓸 수 없다")
  Except.ensure (verified.signerId = heartbeat.deviceId)
    (.signerIsNotTheDevice verified.signerId heartbeat.deviceId)

variable (heartbeat : NodeHeartbeat)

/-- Nobody claimed the node yet, or the device that it waits for. -/
def admitFirst : LivenessBody Unit := do
  let db ← get
  match db.pendingRebind[heartbeat.nodeId]? with
  | some expected =>
      Body.ofExcept (Except.ensure (expected = heartbeat.deviceId)
        (.deviceChanged heartbeat.nodeId s!"(rebind 대기: {expected})" heartbeat.deviceId))
      set { db with pendingRebind := db.pendingRebind.erase heartbeat.nodeId }
  | none => pure ()

/-- The columns of a heartbeat, if its numbers are within the signed range. -/
def livenessRow : Except NodeLivenessStoreError LivenessRow := do
  let lastHeartbeatUnixMs ← i64OfField "issued_at_unix_ms 가 i64 범위를 넘는다" heartbeat.issuedAtUnixMs
  let fenceEpoch ← i64OfField "fence_epoch 이 i64 범위를 넘는다" heartbeat.fenceEpoch
  .ok { deviceId := heartbeat.deviceId
        lastHeartbeatUnixMs, fenceEpoch
        runningAttempts := heartbeat.runningAttempts.toNat
        signerIdAtObservation := heartbeat.deviceId
        heartbeatBody := codec.encode heartbeat
        heartbeatHash := (codec.blake3 (codec.encode heartbeat)).toList }

def upsertLiveness : LivenessBody ObserveResult := do
  let row ← Body.ofExcept (livenessRow codec heartbeat)
  modify fun db => { db with nodeLiveness := db.nodeLiveness.insert heartbeat.nodeId row }
  return { stored :=
             { heartbeat
               heartbeatHash := codec.blake3 (codec.encode heartbeat)
               signerIdAtObservation := heartbeat.deviceId
               nodeId := heartbeat.nodeId
               deviceId := heartbeat.deviceId
               lastHeartbeatUnixMs := heartbeat.issuedAtUnixMs
               fenceEpoch := heartbeat.fenceEpoch
               runningAttempts := heartbeat.runningAttempts }
           advanced := true }

/-- An observation that is not newer changes nothing. -/
def observeInTx : LivenessBody ObserveResult := do
  let db ← get
  match db.nodeLiveness[heartbeat.nodeId]? with
  | none => do
      admitFirst heartbeat
      upsertLiveness codec heartbeat
  | some row => do
      Body.ofExcept (Except.ensure (row.deviceId = heartbeat.deviceId)
        (.deviceChanged heartbeat.nodeId row.deviceId heartbeat.deviceId))
      let stored ← Body.ofExcept row.rank
      if (rankOf heartbeat).AtMost stored then do
        let stored ← Body.ofExcept (decodeLivenessRow codec heartbeat.nodeId row)
        return ⟨stored, false⟩
      else upsertLiveness codec heartbeat

def observe (verified : Verified NodeHeartbeat) : LivenessBody ObserveResult := do
  Body.ofExcept (checkHeartbeat verified)
  (observeInTx codec verified.inner).immediate

end Observe

section Rebind

variable (nodeId : String)

/-- The device that is recorded for the node, else the one it waits for. -/
def boundDevice (db : LivenessDb) : Option String :=
  (db.nodeLiveness[nodeId]?.map (·.deviceId)).or db.pendingRebind[nodeId]?

def rebindInTx (newDeviceId : String) : LivenessBody Unit := do
  let db ← get
  let previous ← Body.ofExcept (Except.ofOption
    (.invalidHeartbeat s!"{nodeId} 에 대한 기록도 대기도 없다 — rebind 할 대상이 없다") (boundDevice nodeId db))
  Body.ofExcept (Except.ensure (previous ≠ newDeviceId)
    (.invalidHeartbeat s!"{nodeId} 는 이미 {newDeviceId} 다 — 바꿀 것이 없다"))
  set { db with
    nodeLiveness := db.nodeLiveness.erase nodeId
    pendingRebind := db.pendingRebind.insert nodeId newDeviceId }

/-- An operator says which device is to come for the node. -/
def rebindDevice (newDeviceId : String) : LivenessBody Unit := do
  Body.ofExcept (Except.ensure (isBlank nodeId = false ∧ isBlank newDeviceId = false)
    (.invalidHeartbeat "rebind 에 빈 식별자를 줄 수 없다"))
  (rebindInTx nodeId newDeviceId).immediate

/-- One statement, which is a transaction of its own. -/
def cancelRebind : LivenessBody Unit := immediate do
  let db ← get
  Body.ofExcept (Except.ensure (db.pendingRebind[nodeId]? ≠ none)
    (.invalidHeartbeat s!"{nodeId} 에 대기 중인 rebind 가 없다"))
  set { db with pendingRebind := db.pendingRebind.erase nodeId }

end Rebind

def loadAll (db : LivenessDb) : Except NodeLivenessStoreError (List StoredNodeLiveness) :=
  db.nodeLiveness.toList.mapM fun row => decodeLivenessRow codec row.1 row.2

/-- What the kernel is told of a row. -/
def StoredNodeLiveness.toObservation (stored : StoredNodeLiveness) : HeartbeatObservation where
  nodeId := stored.nodeId
  deviceId := stored.deviceId
  issuedAtUnixMs := stored.lastHeartbeatUnixMs
  fenceEpoch := stored.fenceEpoch
  runningAttempts := stored.runningAttempts

/-- What the kernel is told of a heartbeat. -/
def observationOf (heartbeat : NodeHeartbeat) : HeartbeatObservation where
  nodeId := heartbeat.nodeId
  deviceId := heartbeat.deviceId
  issuedAtUnixMs := heartbeat.issuedAtUnixMs
  fenceEpoch := heartbeat.fenceEpoch
  runningAttempts := heartbeat.runningAttempts

section Calls

inductive LivenessCall where
  | observe (verified : Verified NodeHeartbeat)
  | rebindDevice (nodeId newDeviceId : String)
  | cancelRebind (nodeId : String)

/-- The store after a call, whatever is answered. -/
def call (db : LivenessDb) : LivenessCall → LivenessDb
  | .observe verified => ((observe codec verified).on db).2
  | .rebindDevice nodeId newDeviceId => ((rebindDevice nodeId newDeviceId).on db).2
  | .cancelRebind nodeId => ((cancelRebind nodeId).on db).2

def runCalls (calls : List LivenessCall) : LivenessDb := Trace.run (call codec) .empty calls

end Calls

end Gputeer.Coordinator.LivenessStore
