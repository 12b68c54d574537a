import Gputeer.Lib.Bytes
import Gputeer.Lib.FileTree
import Gputeer.Lib.Text

/-! The manifest of a checkpoint, and the states of its durability. A manifest is the last file that is
written: the files of a checkpoint without one are partial. -/

namespace Gputeer.Checkpoint

inductive DurabilityState where
  | writing
  | partial_
  | localWritten
  | hashVerified
  | replicating
  | replicated
  | committed
  | committedDegraded
  deriving DecidableEq

namespace DurabilityState

def canTransitionTo : DurabilityState → DurabilityState → Bool
  | writing, localWritten | writing, partial_ => true
  | localWritten, hashVerified | localWritten, partial_ => true
  | hashVerified, replicating | hashVerified, committed => true
  | replicating, replicated | replicating, hashVerified => true
  | replicated, committed | replicated, replicating => true
  | committed, committedDegraded | committedDegraded, committed => true
  | _, _ => false

def debugName : DurabilityState → String
  | writing => "Writing"
  | partial_ => "Partial"
  | localWritten => "LocalWritten"
  | hashVerified => "HashVerified"
  | replicating => "Replicating"
  | replicated => "Replicated"
  | committed => "Committed"
  | committedDegraded => "CommittedDegraded"

/-- `state_marker_name` -/
def markerName : DurabilityState → String
  | writing => ".durability.writing"
  | partial_ => ".durability.partial"
  | localWritten => ".durability.local-written"
  | hashVerified => ".durability.hash-verified"
  | replicating => ".durability.replicating"
  | replicated => ".durability.replicated"
  | committed => ".durability.committed"
  | committedDegraded => ".durability.committed-degraded"

end DurabilityState

inductive CheckpointError where
  | io (why : String)
  | rename (source target : DiskPath) (why : String)
  | replaceExhausted (path : DiskPath) (attempts : Nat) (why : String)
  | contentMismatch (path : DiskPath) (existingLen incomingLen : Nat)
  | writeInProgress (path : DiskPath)
  | invalidRetryPolicy
  | unsafePath (name reason : String)
  | hashMismatch (path : DiskPath) (expected actual : String)
  | invalidTransition (source target : DurabilityState)
  | manifest (why : String)

/-- What a fallible function returns. -/
abbrev Checked (α : Type) := Except CheckpointError α

def pathText (path : DiskPath) : String := Text.debugQuoted (String.intercalate "/" path)

def CheckpointError.display : CheckpointError → String
  | io why => s!"io: {why}"
  | rename source target why =>
      let source := pathText source
      let target := pathText target
      s!"rename 실패 {source} -> {target}: {why}"
  | replaceExhausted path attempts why =>
      let path := pathText path
      s!"replace 재시도 {attempts}회 소진 {path}: {why}"
  | contentMismatch path existingLen incomingLen =>
      let path := pathText path
      s!"write-once 내용 불일치 {path}: 기존 {existingLen}B, 새 {incomingLen}B — " ++
        "같은 이름에 다른 내용을 쓰려 했다. 앞선 writer 가 중단됐을 수 있다"
  | writeInProgress path =>
      let path := pathText path
      s!"write-once 진행 중 {path}: 다른 호출자가 이미 같은 파일을 쓰고 있다"
  | invalidRetryPolicy => "RetryPolicy.max_attempts 가 0이다 — 최소 1회는 시도해야 한다 (ADR-026)"
  | unsafePath name reason =>
      let name := Text.debugQuoted name
      s!"안전하지 않은 경로 {name}: {reason}"
  | hashMismatch path expected actual =>
      let path := pathText path
      s!"해시 불일치 {path}: 기대 {expected}, 실제 {actual}"
  | invalidTransition source target =>
      let source := source.debugName
      let target := target.debugName
      s!"허용되지 않는 상태 전이: {source} -> {target} (state-machines.md §4)"
  | manifest why => s!"매니페스트 파싱: {why}"

def DurabilityState.transition (source target : DurabilityState) : Checked DurabilityState :=
  if source.canTransitionTo target then .ok target else .error (.invalidTransition source target)

structure CheckpointFile where
  path : String
  /-- In hexadecimal. -/
  digest : String
  sizeBytes : UInt64
  deriving DecidableEq

structure CheckpointManifest where
  schemaVersion : UInt32
  checkpointId : String
  jobId : String
  attemptId : String
  step : UInt64
  files : List CheckpointFile
  rootDigest : String
  totalBytes : UInt64
  createdAtUnixMs : UInt64
  producerNodeId : String
  fenceEpoch : UInt64
  deriving DecidableEq

def manifestFilename : String := "manifest.json"

/-- `serde_json` and `blake3`. -/
structure CheckpointCodec where
  toJson : CheckpointManifest → Except String (List UInt8)
  fromJson : List UInt8 → Except String CheckpointManifest
  blake3 : List UInt8 → Vector UInt8 32

def hexDigits (byte : UInt8) : List Char :=
  [Nat.digitChar (byte.toNat / 16), Nat.digitChar (byte.toNat % 16)]

/-- Two small digits for each byte. -/
def toHex (bytes : List UInt8) : String := String.ofList (bytes.flatMap hexDigits)

def CheckpointCodec.hash (codec : CheckpointCodec) (data : List UInt8) : String :=
  toHex (codec.blake3 data).toList

end Gputeer.Checkpoint
