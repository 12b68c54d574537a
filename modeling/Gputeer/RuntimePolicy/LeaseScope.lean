import Gputeer.Lib.Table
import Gputeer.Lib.Bytes
import Gputeer.Lib.Except
import Gputeer.Lib.Trace

/-! The highest fence epoch that each resource was used with. A lower one comes from a stale lease; the
same one is a lease that was renewed. -/

namespace Gputeer.RuntimePolicy

inductive LeaseScopeViolation where
  | staleEpoch (resource : String) (incoming watermark : UInt64)
  deriving DecidableEq

def LeaseScopeViolation.display : LeaseScopeViolation → String
  | .staleEpoch resource incoming watermark =>
      s!"{resource}: fence_epoch {incoming} 은 기록된 watermark {watermark} 보다 낮다 — stale lease"

/-- The watermarks in memory; a restart loses them. -/
structure FenceWatermark where
  seen : Table String UInt64

namespace FenceWatermark

def new : FenceWatermark := ⟨∅⟩

/-- The watermark of a resource; one that was never seen starts at zero. -/
def watermark (fence : FenceWatermark) (resource : String) : UInt64 := fence.seen[resource]?.getD 0

def checkAndAdvance (fence : FenceWatermark) (resource : String) (epoch : UInt64) :
    Except LeaseScopeViolation Unit × FenceWatermark :=
  let watermark := fence.watermark resource
  if epoch < watermark then (.error (.staleEpoch resource epoch watermark), fence)
  else (.ok (), ⟨fence.seen.insert resource epoch⟩)

variable {fence : FenceWatermark} {resource other : String} {epoch : UInt64}

theorem checkAndAdvance_stale (below : epoch < fence.watermark resource) :
    fence.checkAndAdvance resource epoch =
      (.error (.staleEpoch resource epoch (fence.watermark resource)), fence) :=
  if_pos below

theorem checkAndAdvance_advanced (above : ¬ epoch < fence.watermark resource) :
    fence.checkAndAdvance resource epoch = (.ok (), ⟨fence.seen.insert resource epoch⟩) :=
  if_neg above

theorem checkAndAdvance_eq_ok {done : Unit} :
    (fence.checkAndAdvance resource epoch).1 = .ok done ↔ fence.watermark resource ≤ epoch := by
  by_cases below : epoch < fence.watermark resource
  · simp [checkAndAdvance_stale below, UInt64.not_le.mpr below]
  · simp [checkAndAdvance_advanced below, UInt64.not_lt.mp below]

/-- An accepted epoch becomes the watermark of its resource; nothing else changes. -/
theorem watermark_checkAndAdvance :
    (fence.checkAndAdvance resource epoch).2.watermark other =
      if resource = other ∧ fence.watermark resource ≤ epoch then epoch
      else fence.watermark other := by
  by_cases below : epoch < fence.watermark resource
  · rw [checkAndAdvance_stale below, if_neg fun both => UInt64.not_le.mpr below both.2]
  · rw [checkAndAdvance_advanced below]
    have above := UInt64.not_lt.mp below
    by_cases same : resource = other
    · subst same
      rw [if_pos ⟨rfl, above⟩]
      simp [watermark]
    · simp [watermark, Table.lookup_insert_ne same, same]

theorem watermark_of_accepted (above : fence.watermark resource ≤ epoch) :
    (fence.checkAndAdvance resource epoch).2.watermark resource = epoch :=
  watermark_checkAndAdvance.trans (if_pos ⟨rfl, above⟩)

/-- No call takes a watermark back. -/
theorem watermark_le_checkAndAdvance :
    fence.watermark other ≤ (fence.checkAndAdvance resource epoch).2.watermark other := by
  rw [watermark_checkAndAdvance]
  split
  · next advanced =>
    rw [← advanced.1]
    exact advanced.2
  · exact UInt64.le_refl _

end FenceWatermark

end Gputeer.RuntimePolicy

/-! The watermarks in a SQLite file, which a restart keeps. An epoch is stored as eight bytes, because
an integer column is signed. Failures of the database itself are left out. -/

namespace Gputeer.RuntimePolicy

open Bytes

inductive DurableFenceError where
  | stale (violation : LeaseScopeViolation)
  | io (message : String)
  | lockTimeout
  deriving DecidableEq

def DurableFenceError.display : DurableFenceError → String
  | .stale violation => violation.display
  | .io message => s!"fence watermark 저장소 I/O 오류: {message}"
  | .lockTimeout => "fence watermark 저장소 락 획득 시간 초과"

/-- The file: its one table is there once it was opened. -/
abbrev FenceFile := Option (Table String (List UInt8))

structure DurableFenceWatermark where
  fenceWatermarks : Table String (List UInt8)

def encodeWatermark (epoch : UInt64) : List UInt8 := beBytes 8 epoch.toNat

def decodeWatermark (bytes : List UInt8) : Except DurableFenceError UInt64 :=
  if bytes.length = 8 then .ok (UInt64.ofNat (beNat bytes))
  else .error (.io
    s!"fence_watermarks.watermark 이 8바이트가 아니다 (실제 {bytes.length}바이트) — 저장소 손상")

theorem decodeWatermark_encodeWatermark (epoch : UInt64) :
    decodeWatermark (encodeWatermark epoch) = .ok epoch := by
  have fits : epoch.toNat < 256 ^ 8 := epoch.toNat_lt
  rw [decodeWatermark, encodeWatermark, if_pos (length_beBytes 8 _), beNat_beBytes fits,
    UInt64.ofNat_toNat]

namespace DurableFenceWatermark

/-- `CREATE TABLE IF NOT EXISTS`. -/
def openFile (file : FenceFile) : DurableFenceWatermark := ⟨file.getD ∅⟩

/-- What is left in the file when the connection is dropped. -/
def close (fence : DurableFenceWatermark) : FenceFile := some fence.fenceWatermarks

/-- A transaction that fails writes nothing. -/
def checkAndAdvance (fence : DurableFenceWatermark) (resource : String) (epoch : UInt64) :
    Except DurableFenceError Unit × DurableFenceWatermark :=
  let current := match fence.fenceWatermarks[resource]? with
    | some bytes => decodeWatermark bytes
    | none => .ok 0
  match current with
  | .error fault => (.error fault, fence)
  | .ok watermark =>
      if epoch < watermark then (.error (.stale (.staleEpoch resource epoch watermark)), fence)
      else (.ok (), ⟨fence.fenceWatermarks.insert resource (encodeWatermark epoch)⟩)

/-- Every row is the encoding of a watermark that the memory has, and of no other. -/
def Stores (fence : DurableFenceWatermark) (memory : FenceWatermark) : Prop :=
  ∀ resource : String,
    fence.fenceWatermarks[resource]? = memory.seen[resource]?.map encodeWatermark

variable {fence : DurableFenceWatermark} {memory : FenceWatermark} {resource : String} {epoch : UInt64}

theorem checkAndAdvance_of_stores (stores : fence.Stores memory) :
    fence.checkAndAdvance resource epoch =
      if epoch < memory.watermark resource then
        (.error (.stale (.staleEpoch resource epoch (memory.watermark resource))), fence)
      else (.ok (), ⟨fence.fenceWatermarks.insert resource (encodeWatermark epoch)⟩) := by
  unfold checkAndAdvance FenceWatermark.watermark
  rw [stores resource]
  cases memory.seen[resource]? with
  | none => rfl
  | some watermark =>
      simp only [Option.map_some, decodeWatermark_encodeWatermark]
      rfl

/-- Both answer alike and stay alike. -/
theorem checkAndAdvance_refines (stores : fence.Stores memory) :
    (fence.checkAndAdvance resource epoch).1 =
        (memory.checkAndAdvance resource epoch).1.mapError .stale ∧
      (fence.checkAndAdvance resource epoch).2.Stores (memory.checkAndAdvance resource epoch).2 := by
  rw [checkAndAdvance_of_stores stores]
  by_cases below : epoch < memory.watermark resource
  · rw [if_pos below, FenceWatermark.checkAndAdvance_stale below]
    exact ⟨rfl, stores⟩
  · rw [if_neg below, FenceWatermark.checkAndAdvance_advanced below]
    refine ⟨rfl, fun other => ?_⟩
    simp only [Table.lookup_insert, stores other]
    split <;> rfl

theorem Stores.reopen (stores : fence.Stores memory) :
    (openFile fence.close).Stores memory := stores

end DurableFenceWatermark

/-- What happens to a fence: an epoch comes in for a resource, or the store is closed and opened. -/
inductive FenceEvent where
  | observe (resource : String) (epoch : UInt64)
  | reopen
  deriving DecidableEq

/-- A reopened store has no meaning for the memory, which is never dropped. -/
def FenceWatermark.after (fence : FenceWatermark) : FenceEvent → FenceWatermark
  | .observe resource epoch => (fence.checkAndAdvance resource epoch).2
  | .reopen => fence

def DurableFenceWatermark.after (fence : DurableFenceWatermark) : FenceEvent → DurableFenceWatermark
  | .observe resource epoch => (fence.checkAndAdvance resource epoch).2
  | .reopen => .openFile fence.close

section Runs

variable (events : List FenceEvent)

def inMemory : FenceWatermark := Trace.run .after .new events

/-- From a new file on. -/
def onDisk : DurableFenceWatermark := Trace.run .after (.openFile none) events

end Runs

section Agreement

variable {events : List FenceEvent} {resource : String} {epoch : UInt64}

/-- An epoch was accepted for a resource right after these events. -/
def AcceptedAt (events before : List FenceEvent) (resource : String) (epoch : UInt64) : Prop :=
  Trace.Took events before (.observe resource epoch) ∧
    ((onDisk before).checkAndAdvance resource epoch).1 = .ok ()

theorem onDisk_stores (events : List FenceEvent) : (onDisk events).Stores (inMemory events) := by
  induction events using List.reverseRecOn with
  | nil =>
      intro resource
      simp [onDisk, inMemory, DurableFenceWatermark.openFile, FenceWatermark.new]
  | append_singleton events event ih =>
      simp only [onDisk, inMemory, Trace.run_snoc]
      cases event with
      | observe resource epoch => exact (DurableFenceWatermark.checkAndAdvance_refines ih).2
      | reopen => exact ih.reopen

theorem onDisk_eq_ok {done : Unit} :
    ((onDisk events).checkAndAdvance resource epoch).1 = .ok done ↔
      (inMemory events).watermark resource ≤ epoch := by
  rw [(DurableFenceWatermark.checkAndAdvance_refines (onDisk_stores events)).1,
    Except.mapError_eq_ok, FenceWatermark.checkAndAdvance_eq_ok]

theorem watermark_le_after (fence : FenceWatermark) (event : FenceEvent) (resource : String) :
    fence.watermark resource ≤ (fence.after event).watermark resource := by
  cases event with
  | observe other epoch => exact FenceWatermark.watermark_le_checkAndAdvance
  | reopen => exact UInt64.le_refl _

/-- An accepted epoch is below no watermark after it. -/
theorem AcceptedAt.le_watermark {before : List FenceEvent}
    (accepted : AcceptedAt events before resource epoch) :
    epoch ≤ (inMemory events).watermark resource := by
  obtain ⟨took, accepts⟩ := accepted
  refine Trace.kept_since (fun fence : FenceWatermark => epoch ≤ fence.watermark resource) took ?_ ?_
  · have raised := FenceWatermark.watermark_of_accepted (onDisk_eq_ok.mp accepts)
    exact UInt64.le_of_eq raised.symm
  · intro _ event kept
    exact UInt64.le_trans kept (watermark_le_after _ event resource)

/-- At every point of every run the store on disk answers as the memory does; what is accepted is at or
above everything that was accepted for the resource before; and a stale epoch changes nothing. -/
theorem durable_fence_refines_memory (events : List FenceEvent) (resource : String) (epoch : UInt64) :
    ((onDisk events).checkAndAdvance resource epoch).1 =
        ((inMemory events).checkAndAdvance resource epoch).1.mapError .stale ∧
    (((onDisk events).checkAndAdvance resource epoch).1 = .ok () →
      ∀ before earlier, AcceptedAt events before resource earlier → earlier ≤ epoch) ∧
    (((onDisk events).checkAndAdvance resource epoch).1 ≠ .ok () →
      (onDisk (events ++ [.observe resource epoch])) = onDisk events ∧
      (inMemory (events ++ [.observe resource epoch])) = inMemory events) := by
  refine ⟨(DurableFenceWatermark.checkAndAdvance_refines (onDisk_stores events)).1, ?_, ?_⟩
  · intro accepts before earlier accepted
    exact UInt64.le_trans accepted.le_watermark (onDisk_eq_ok.mp accepts)
  · intro refused
    have below : epoch < (inMemory events).watermark resource :=
      UInt64.not_le.mp fun above => refused (onDisk_eq_ok.mpr above)
    simp only [onDisk, inMemory, Trace.run_snoc]
    constructor
    · exact congrArg Prod.snd ((DurableFenceWatermark.checkAndAdvance_of_stores
        (onDisk_stores events)).trans (if_pos below))
    · exact congrArg Prod.snd (FenceWatermark.checkAndAdvance_stale below)

/-- A restart does not let an older epoch through. -/
example : ((onDisk [.observe "cas://jobs/1" 10, .reopen]).checkAndAdvance "cas://jobs/1" 3).1 =
    .error (.stale (.staleEpoch "cas://jobs/1" 3 10)) := by
  decide +kernel

end Agreement

end Gputeer.RuntimePolicy
