import Gputeer.Coordinator.JobRow
import Gputeer.Lib.DerivedOrder
import Gputeer.Lib.Table
import Gputeer.Protocol.Signable

/-! The store of neighbour reports: of each machine and each node that it cannot reach, the last observation.
What a neighbour says is kept as said; nothing is concluded from it. -/

namespace Gputeer.Protocol

deriving instance DecidableEq, Inhabited for NeighborUnreachableReport

end Gputeer.Protocol

namespace Gputeer.Coordinator.NeighborReportStore

open Protocol Text

/-- How many rows one reporting device may have. -/
def maxRowsPerReporterDevice : Nat := 64

structure ReportKey where
  reporterNodeId : String
  unreachableNodeId : String
  deriving DecidableEq, Ord

namespace ReportKey

theorem compare_eq (left right : ReportKey) : compare left right =
    compareLex (compareOn reporterNodeId) (compareOn unreachableNodeId) left right := by
  change instOrdReportKey.ord left right = _
  simp only [instOrdReportKey.ord, Ordering.then_eq]
  rfl

instance : Std.TransOrd ReportKey := DerivedOrder.transOrd_of_eq compare_eq

instance : Std.LawfulEqOrd ReportKey where
  eq_of_compare {left right} same := by
    rw [compare_eq] at same
    simp only [compareLex, compareOn, Ordering.then_eq_eq] at same
    cases left
    cases right
    rw [mk.injEq]
    exact ⟨Std.LawfulEqCmp.eq_of_compare same.1, Std.LawfulEqCmp.eq_of_compare same.2⟩

end ReportKey

/-- The columns beside the key. -/
structure NeighborRow where
  reporterDeviceId : String
  observedAtUnixMs : List UInt8
  reportHash : List UInt8
  reportBody : List UInt8
  deriving DecidableEq

abbrev NeighborTable := Table ReportKey NeighborRow

structure StoredNeighborReport where
  reporterNodeId : String
  reporterDeviceId : String
  unreachableNodeId : String
  observedAtUnixMs : UInt64
  reportHash : ManifestHash
  report : NeighborUnreachableReport
  deriving DecidableEq

def StoredNeighborReport.key (row : StoredNeighborReport) : ReportKey :=
  ⟨row.reporterNodeId, row.unreachableNodeId⟩

/-- What was driven out is handed over whole, the oldest first. -/
inductive RecordOutcome where
  | recorded (stored : StoredNeighborReport) (evicted : List StoredNeighborReport)
  | notNewer (stored : StoredNeighborReport)
  deriving DecidableEq

inductive NeighborReportCorruption where
  | emptyBody
  | undecodableBody
  | hashEncoding
  | hashMismatch
  | observedAtEncoding
  | reporterNodeMismatch
  | reporterDeviceMismatch
  | unreachableNodeMismatch
  deriving DecidableEq

inductive NeighborReportStoreError where
  | invalidInput (field : String)
  | addressedToAnotherCoordinator (addressed ours : String)
  | signerIsNotTheReporterDevice (signerId reporterDeviceId : String)
  | conflictingReporterDevice (reporterNodeId storedDeviceId incomingDeviceId : String)
  | reporterDeviceQuotaExhausted (reporterDeviceId : String) (storedRows limit : Nat)
      (blockingObservedAtUnixMs : UInt64)
  | corrupt (reporterNodeId unreachableNodeId : String) (kind : NeighborReportCorruption)
  | storage (message : String)
  deriving DecidableEq

/-- The encoding of the message and the hash of the bodies, which lie outside. -/
structure NeighborReportCodec where
  encode : NeighborUnreachableReport → List UInt8
  decode : List UInt8 → Option NeighborUnreachableReport
  blake3 : List UInt8 → ManifestHash
  decode_nil : decode [] = some default

def validateInput (report : NeighborUnreachableReport) : Except NeighborReportStoreError Unit := do
  Except.ensure (isBlank report.reporterNodeId = false) (.invalidInput "reporter_node_id")
  Except.ensure (isBlank report.reporterDeviceId = false) (.invalidInput "reporter_device_id")
  Except.ensure (isBlank report.unreachableNodeId = false) (.invalidInput "unreachable_node_id")
  Except.ensure (isBlank report.coordinatorDeviceId = false) (.invalidInput "coordinator_device_id")
  Except.ensure (report.reporterNodeId ≠ report.unreachableNodeId)
    (.invalidInput "reporter_node_id == unreachable_node_id")

-- The store belongs to the coordinator that opened it.
variable (codec : NeighborReportCodec) (ours : String)

section Reads

/-- A row is checked against its body whenever it is read, and so is the coordinator it was sent to. -/
def decodeRow (key : ReportKey) (row : NeighborRow) :
    Except NeighborReportStoreError StoredNeighborReport := do
  let corrupt := NeighborReportStoreError.corrupt key.reporterNodeId key.unreachableNodeId
  Except.ensure (row.reportBody ≠ []) (corrupt .emptyBody)
  let reportHash ← (decodeHash row.reportHash).mapError fun _ => corrupt .hashEncoding
  Except.ensure (codec.blake3 row.reportBody = reportHash) (corrupt .hashMismatch)
  let report ← Except.ofOption (corrupt .undecodableBody) (codec.decode row.reportBody)
  let observedAtUnixMs ← (decodeU64 row.observedAtUnixMs "observed_at_unix_ms").mapError
    fun _ => corrupt .observedAtEncoding
  Except.ensure (report.reporterNodeId = key.reporterNodeId) (corrupt .reporterNodeMismatch)
  Except.ensure (report.reporterDeviceId = row.reporterDeviceId) (corrupt .reporterDeviceMismatch)
  Except.ensure (report.unreachableNodeId = key.unreachableNodeId) (corrupt .unreachableNodeMismatch)
  Except.ensure (report.observedAtUnixMs = observedAtUnixMs) (corrupt .observedAtEncoding)
  Except.ensure (report.coordinatorDeviceId = ours)
    (.addressedToAnotherCoordinator report.coordinatorDeviceId ours)
  .ok { reporterNodeId := key.reporterNodeId, reporterDeviceId := row.reporterDeviceId,
        unreachableNodeId := key.unreachableNodeId, observedAtUnixMs, reportHash, report }

variable (table : NeighborTable)

def fetchReport (key : ReportKey) :
    Except NeighborReportStoreError (Option StoredNeighborReport) :=
  Except.onSome (decodeRow codec ours key) table[key]?

/-- A row whose key was listed a moment ago. -/
def readBack (missing : String) (key : ReportKey) :
    Except NeighborReportStoreError StoredNeighborReport := do
  Except.ofOption (.storage missing) (← fetchReport codec ours table key)

/-- What is known about one node, by the machines that reported it. -/
def reportsAbout (unreachableNodeId : String) :
    Except NeighborReportStoreError (List StoredNeighborReport) := do
  Except.ensure (isBlank unreachableNodeId = false) (.invalidInput "unreachable_node_id")
  (table.toList.filter fun entry => entry.1.unreachableNodeId = unreachableNodeId).mapM
    fun entry => decodeRow codec ours entry.1 entry.2

end Reads

section Writes

def rowOf (report : NeighborUnreachableReport) : NeighborRow where
  reporterDeviceId := report.reporterDeviceId
  observedAtUnixMs := encodeU64 report.observedAtUnixMs
  reportHash := (codec.blake3 (codec.encode report)).toList
  reportBody := codec.encode report

def storedOf (report : NeighborUnreachableReport) : StoredNeighborReport where
  reporterNodeId := report.reporterNodeId
  reporterDeviceId := report.reporterDeviceId
  unreachableNodeId := report.unreachableNodeId
  observedAtUnixMs := report.observedAtUnixMs
  reportHash := codec.blake3 (codec.encode report)
  report

variable (table : NeighborTable) (report : NeighborUnreachableReport)

def machineKeys : List String :=
  (table.toList.filter fun entry => entry.1.reporterNodeId = report.reporterNodeId).map
    fun entry => entry.1.unreachableNodeId

/-- All rows of the machine are looked at, so that it belongs to one device whatever it reports. -/
def lookAt (existing : Option StoredNeighborReport) (target : String) :
    Except NeighborReportStoreError (Option StoredNeighborReport) := do
  let row ← readBack codec ours table "이 기계의 기존 행을 다시 읽지 못했다"
    ⟨report.reporterNodeId, target⟩
  Except.ensure (row.reporterDeviceId = report.reporterDeviceId)
    (.conflictingReporterDevice report.reporterNodeId row.reporterDeviceId report.reporterDeviceId)
  .ok (if target = report.unreachableNodeId then some row else existing)

def findExisting : Except NeighborReportStoreError (Option StoredNeighborReport) :=
  (machineKeys table report).foldlM (lookAt codec ours table report) none

def deviceKeys : List ReportKey :=
  (table.toList.filter fun entry => entry.2.reporterDeviceId = report.reporterDeviceId).map Prod.fst

/-- The oldest first; rows of one time are told apart by their keys. -/
def byAge : StoredNeighborReport → StoredNeighborReport → Ordering :=
  compareLex (compareOn (·.observedAtUnixMs))
    (compareLex (compareOn (·.reporterNodeId)) (compareOn (·.unreachableNodeId)))

def deleteRow (table : NeighborTable) (victim : StoredNeighborReport) :
    Except NeighborReportStoreError NeighborTable :=
  if table[victim.key]?.any (·.reporterDeviceId = report.reporterDeviceId) then
    .ok (table.erase victim.key)
  else .error (.storage "축출이 0 행을 지웠다 — 정확히 1 이어야 한다")

/-- The oldest rows of a device that is at its limit give way, but only to what is newer than all of them. -/
def evictOldest (storedRows : Nat) :
    Except NeighborReportStoreError (NeighborTable × List StoredNeighborReport) := do
  let candidates ← (deviceKeys table report).mapM
    (readBack codec ours table "축출 후보를 다시 읽지 못했다")
  let ordered := candidates.mergeSort fun left right => (byAge left right).isLE
  let toEvict := storedRows - maxRowsPerReporterDevice + 1
  Except.ensure (toEvict ≤ ordered.length)
    (.storage (s!"저장 상한 계산과 실제 행이 어긋났다 (셈 {storedRows}, 읽은 행 {ordered.length}, " ++
      s!"밀어낼 수 {toEvict})"))
  let doomed := ordered.take toEvict
  -- The source panics here; at least one row is doomed.
  let newestDoomed ← Except.ofOption (.storage "to_evict >= 1 이므로 비어 있지 않다") doomed.getLast?
  Except.ensure (newestDoomed.observedAtUnixMs < report.observedAtUnixMs)
    (.reporterDeviceQuotaExhausted report.reporterDeviceId storedRows maxRowsPerReporterDevice
      newestDoomed.observedAtUnixMs)
  let left ← doomed.foldlM (deleteRow report) table
  .ok (left, doomed)

/-- Only a new row makes the store grow. -/
def makeRoom : Except NeighborReportStoreError (NeighborTable × List StoredNeighborReport) :=
  let storedRows := (deviceKeys table report).length
  if maxRowsPerReporterDevice ≤ storedRows then evictOldest codec ours table report storedRows
  else .ok (table, [])

def insertReport : NeighborTable :=
  table.insert ⟨report.reporterNodeId, report.unreachableNodeId⟩ (rowOf codec report)

/-- What happens inside the transaction. -/
def recordWithin : Except NeighborReportStoreError (NeighborTable × RecordOutcome) := do
  match ← findExisting codec ours table report with
  | some existing =>
      if report.observedAtUnixMs ≤ existing.observedAtUnixMs then .ok (table, .notNewer existing)
      else .ok (insertReport codec table report, .recorded (storedOf codec report) [])
  | none => do
      let (left, evicted) ← makeRoom codec ours table report
      .ok (insertReport codec left report, .recorded (storedOf codec report) evicted)

/-- The transaction commits whole or not at all: `sqlFailure` is the failure of any of its statements. -/
def recordVerifiedReport (verified : Verified NeighborUnreachableReport) (sqlFailure : Option String) :
    Except NeighborReportStoreError (NeighborTable × RecordOutcome) := do
  let report := verified.inner
  validateInput report
  Except.ensure (verified.signerId = report.reporterDeviceId)
    (.signerIsNotTheReporterDevice verified.signerId report.reporterDeviceId)
  Except.ensure (report.coordinatorDeviceId = ours)
    (.addressedToAnotherCoordinator report.coordinatorDeviceId ours)
  match sqlFailure with
  | some message => .error (.storage message)
  | none => recordWithin codec ours table report

end Writes

end Gputeer.Coordinator.NeighborReportStore
