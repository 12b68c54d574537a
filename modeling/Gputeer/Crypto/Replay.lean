import Mathlib
import Gputeer.Lib.Word
import Gputeer.Protocol.Domain
import Gputeer.Lib.Trace

/-! The in-memory replay guard: a table of seen nonces with a count per signer. -/

namespace Gputeer.Replay

open Protocol

/-- How far one collection may move the guard's clock. -/
def maxGcAdvanceMs : UInt64 := 5 * 60 * 1000

structure Key where
  signerId : String
  domain : Domain
  nonce : List UInt8
  deriving DecidableEq

structure InMemoryReplayGuard where
  seen : List (Key × UInt64)
  capacity : Nat
  perSigner : Std.ExtTreeMap String Nat
  perSignerCapacity : Nat
  lastSeenMs : UInt64
  clockRollbacks : Nat
  clockJumps : Nat

/-- The time a collection works with: the first one takes the caller's clock, a later one
moves at most `maxGcAdvanceMs` past the last. -/
def gcEffective (lastSeenMs nowUnixMs : UInt64) : UInt64 :=
  if lastSeenMs = 0 then nowUnixMs
  else if lastSeenMs.saturatingAdd maxGcAdvanceMs < nowUnixMs then
    lastSeenMs.saturatingAdd maxGcAdvanceMs
  else nowUnixMs

def isClockJump (lastSeenMs nowUnixMs : UInt64) : Bool :=
  lastSeenMs ≠ 0 ∧ lastSeenMs.saturatingAdd maxGcAdvanceMs < nowUnixMs

namespace InMemoryReplayGuard

def tryWithCapacities (capacity perSignerCapacity : Nat) :
    Except ReplayStoreError InMemoryReplayGuard :=
  if capacity = 0 ∨ perSignerCapacity = 0 then
    .error (.io "replay 캐시 상한은 1 이상이어야 한다")
  else
    .ok { seen := [], capacity, perSigner := ∅, perSignerCapacity, lastSeenMs := 0,
          clockRollbacks := 0, clockJumps := 0 }

def signerUsage (guard : InMemoryReplayGuard) (signerId : String) : Nat :=
  guard.perSigner[signerId]?.getD 0

/-- One removed entry gives its signer a place back. -/
def releaseSigner (perSigner : Std.ExtTreeMap String Nat) (signerId : String) :
    Std.ExtTreeMap String Nat :=
  match perSigner[signerId]? with
  | none => perSigner
  | some used => if used - 1 = 0 then perSigner.erase signerId else perSigner.insert signerId (used - 1)

def gc (guard : InMemoryReplayGuard) (nowUnixMs : UInt64) : InMemoryReplayGuard × Nat :=
  if nowUnixMs < guard.lastSeenMs then
    ({ guard with clockRollbacks := guard.clockRollbacks + 1 }, 0)
  else
    let effective := gcEffective guard.lastSeenMs nowUnixMs
    let kept := guard.seen.filter (fun entry => effective < entry.2)
    let removed := (guard.seen.filter (fun entry => ¬ effective < entry.2)).map (·.1.signerId)
    ({ guard with
        seen := kept
        perSigner := removed.foldl releaseSigner guard.perSigner
        lastSeenMs := effective
        clockJumps := guard.clockJumps +
          if isClockJump guard.lastSeenMs nowUnixMs then 1 else 0 },
      guard.seen.length - kept.length)

def contains (guard : InMemoryReplayGuard) (key : Key) : Bool :=
  guard.seen.any (·.1 == key)

def checkAndRecord (guard : InMemoryReplayGuard) (signerId : String) (domain : Domain)
    (nonce : List UInt8) (retainUntilMs : UInt64) :
    Except ReplayStoreError ReplayDecision × InMemoryReplayGuard :=
  if nonce.length ≠ nonceLen then (.error (.invalidNonce nonce.length), guard)
  else if guard.contains ⟨signerId, domain, nonce⟩ then (.ok .duplicate, guard)
  else if guard.signerUsage signerId ≥ guard.perSignerCapacity then
    (.error (.signerQuotaExceeded signerId guard.perSignerCapacity), guard)
  else if guard.seen.length ≥ guard.capacity then (.error .cacheFull, guard)
  else
    (.ok .fresh,
      { guard with
          seen := guard.seen ++ [(⟨signerId, domain, nonce⟩, retainUntilMs)]
          perSigner := guard.perSigner.insert signerId (guard.signerUsage signerId + 1) })

instance : ReplayGuard InMemoryReplayGuard where
  checkAndRecord := checkAndRecord
  isEffective _ := true

end InMemoryReplayGuard

end Gputeer.Replay

/-! The replay guard on SQLite. Integer columns are signed 64-bit; a failed transaction leaves
the tables as they were. Failures of the database itself are left out. -/

namespace Gputeer.Replay

open Protocol

def i64Max : Nat := 2 ^ 63 - 1

def toSqlI64 (value : UInt64) (field : String) : Except ReplayStoreError Int :=
  if value.toNat ≤ i64Max then .ok value.toNat
  else .error (.io (field ++ " 값이 SQLite INTEGER 범위를 넘었다"))

def fromSqlI64 (value : Int) (field : String) : Except ReplayStoreError UInt64 :=
  if 0 ≤ value then .ok (UInt64.ofNat value.toNat)
  else .error (.io (field ++ " 값이 음수여서 저장소 상태가 잘못되었다"))

/-- `i64::try_from(value).unwrap_or(i64::MAX)`. -/
def clampSqlI64 (value : UInt64) : Int := min value.toNat i64Max

structure SqlKey where
  senderDeviceId : String
  domainTag : String
  nonce : List UInt8
  deriving DecidableEq

def Key.toSql (key : Key) : SqlKey := ⟨key.signerId, key.domain.asStr, key.nonce⟩

structure DurableReplayGuard where
  replayEntries : List (SqlKey × Int)
  lastSeenMs : Int
  clockRollbacks : Int
  clockJumps : Int
  capacity : Nat
  perSignerCapacity : Nat

namespace DurableReplayGuard

def openWithCapacities (capacity perSignerCapacity : Nat) :
    Except ReplayStoreError DurableReplayGuard :=
  if capacity = 0 then .error (.io "replay 전역 상한은 0일 수 없다")
  else if perSignerCapacity = 0 then .error (.io "replay 서명자별 상한은 0일 수 없다")
  else
    .ok { replayEntries := [], lastSeenMs := 0, clockRollbacks := 0, clockJumps := 0, capacity,
          perSignerCapacity }

def signerUsage (guard : DurableReplayGuard) (signerId : String) : Nat :=
  (guard.replayEntries.filter (·.1.senderDeviceId = signerId)).length

def gc (guard : DurableReplayGuard) (nowUnixMs : UInt64) :
    Except ReplayStoreError Nat × DurableReplayGuard :=
  match fromSqlI64 guard.lastSeenMs "last_seen_ms" with
  | .error fault => (.error fault, guard)
  | .ok lastSeen =>
      if nowUnixMs < lastSeen then
        (.ok 0, { guard with clockRollbacks := guard.clockRollbacks + 1 })
      else
        let effective := gcEffective lastSeen nowUnixMs
        -- the deletion compares with a clamped value, the clock is written unclamped
        let deleted := guard.replayEntries.filter (fun entry => entry.2 ≤ clampSqlI64 effective)
        let kept := guard.replayEntries.filter (fun entry => ¬ entry.2 ≤ clampSqlI64 effective)
        match toSqlI64 effective "last_seen_ms" with
        | .error fault => (.error fault, guard)
        | .ok stored =>
            (.ok deleted.length,
              { guard with
                  replayEntries := kept
                  lastSeenMs := stored
                  clockJumps := guard.clockJumps +
                    if isClockJump lastSeen nowUnixMs then 1 else 0 })

def checkAndRecord (guard : DurableReplayGuard) (signerId : String) (domain : Domain)
    (nonce : List UInt8) (retainUntilMs : UInt64) :
    Except ReplayStoreError ReplayDecision × DurableReplayGuard :=
  if nonce.length ≠ nonceLen then (.error (.invalidNonce nonce.length), guard)
  else if guard.replayEntries.any (·.1 == ⟨signerId, domain.asStr, nonce⟩) then
    (.ok .duplicate, guard)
  else if guard.signerUsage signerId ≥ guard.perSignerCapacity then
    (.error (.signerQuotaExceeded signerId guard.perSignerCapacity), guard)
  else if guard.replayEntries.length ≥ guard.capacity then (.error .cacheFull, guard)
  else
    (.ok .fresh,
      { guard with
          replayEntries := guard.replayEntries ++
            [(⟨signerId, domain.asStr, nonce⟩, clampSqlI64 retainUntilMs)] })

instance : ReplayGuard DurableReplayGuard where
  checkAndRecord := checkAndRecord
  isEffective _ := true

end DurableReplayGuard

end Gputeer.Replay
