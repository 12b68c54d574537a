import Gputeer.Lib.Trace
import Gputeer.Crypto.Replay
import Gputeer.Protocol.Signable

/-! Verifications and collections on one in-memory replay guard, in any order. A recorded nonce
leaves the guard only in a collection at or after its retention time, and by then the message it
came with has expired for every clock within the allowed skew. -/

namespace Gputeer.Replay

open Protocol Signable

/-- A message of any signable type. -/
abbrev AnyMessage := (type : SignableType) × type.Message

namespace AnyMessage

def lifetime (message : AnyMessage) : Lifetime := Signable.lifetime message.1.Message

def expiresAt (message : AnyMessage) : UInt64 := expiresAtUnixMs message.2

def signer (message : AnyMessage) : String := signerId message.2

def domain (message : AnyMessage) : Domain := Signable.domain message.1.Message

def nonce (message : AnyMessage) : Option (List UInt8) := replayNonce message.2

end AnyMessage

structure VerifyCall where
  message : AnyMessage
  maxSupportedSchemaVersion : UInt32
  verifier : SignatureVerifier
  nowUnixMs : UInt64

inductive Event where
  | verify (call : VerifyCall)
  | gc (nowUnixMs : UInt64)

section

variable (blake3 : Blake3)

def VerifyCall.answer (call : VerifyCall) (guard : InMemoryReplayGuard) :
    Except VerifyError (Verified call.message.1.Message) × InMemoryReplayGuard :=
  Protocol.verify blake3 call.message.2 call.maxSupportedSchemaVersion call.verifier
    call.nowUnixMs guard

def VerifyCall.Reported (call : VerifyCall) (guard : InMemoryReplayGuard) : Prop :=
  ∃ verified, (call.answer blake3 guard).1 = .ok verified

def step (guard : InMemoryReplayGuard) : Event → InMemoryReplayGuard
  | .verify call => (call.answer blake3 guard).2
  | .gc nowUnixMs => (guard.gc nowUnixMs).1

abbrev runEvents (guard : InMemoryReplayGuard) (events : List Event) : InMemoryReplayGuard :=
  Trace.run (step blake3) guard events

end

/-- No verification runs on a clock that lags an earlier collection's by more than the skew. -/
def ClockKept : Event → Event → Prop
  | .gc collected, .verify call =>
      collected.toNat ≤ call.nowUnixMs.toNat + clockSkewToleranceMs.toNat
  | _, _ => True

def ClocksKept (events : List Event) : Prop := events.Pairwise ClockKept

def ExpiryFits : Event → Prop
  | .verify call =>
      call.message.lifetime = .shortLived →
        call.message.expiresAt.toNat + clockSkewToleranceMs.toNat < 2 ^ 64
  | .gc _ => True

variable {blake3 : Blake3}

theorem checkAndRecord_error {guard : InMemoryReplayGuard} {signer : String} {domain : Domain}
    {nonce : List UInt8} {retain : UInt64}
    (notFresh : (guard.checkAndRecord signer domain nonce retain).1 ≠ .ok .fresh) :
    (guard.checkAndRecord signer domain nonce retain).2 = guard := by
  simp only [InMemoryReplayGuard.checkAndRecord] at notFresh ⊢
  split
  · rfl
  split
  · rfl
  split
  · rfl
  split
  · rfl
  · rename_i wrongLength seen overQuota full
    rw [if_neg wrongLength, if_neg seen, if_neg overQuota, if_neg full] at notFresh
    exact (notFresh rfl).elim

theorem checkAndRecord_fresh {guard : InMemoryReplayGuard} {signer : String} {domain : Domain}
    {nonce : List UInt8} {retain : UInt64}
    (fresh : (guard.checkAndRecord signer domain nonce retain).1 = .ok .fresh) :
    guard.contains ⟨signer, domain, nonce⟩ = false ∧
      (guard.checkAndRecord signer domain nonce retain).2.seen =
        guard.seen ++ [(⟨signer, domain, nonce⟩, retain)] := by
  simp only [InMemoryReplayGuard.checkAndRecord] at fresh ⊢
  split at fresh
  · cases fresh
  split at fresh
  · cases fresh
  split at fresh
  · cases fresh
  split at fresh
  · cases fresh
  · rename_i wrongLength seen overQuota full
    rw [if_neg wrongLength, if_neg seen, if_neg overQuota, if_neg full]
    exact ⟨by simpa using seen, rfl⟩

/-- Asking the guard either records the nonce of a message or changes nothing. -/
theorem checkReplay_cases {M : Type} [Signable M] (msg : M) (guard : InMemoryReplayGuard) :
    (∃ status nonce, (checkReplay msg guard).1 = .ok status ∧ replayNonce msg = some nonce ∧
      guard.contains ⟨signerId msg, Signable.domain M, nonce⟩ = false ∧
      (checkReplay msg guard).2.seen =
        guard.seen ++ [(⟨signerId msg, Signable.domain M, nonce⟩, retainUntil msg)]) ∨
    ((∃ fault, (checkReplay msg guard).1 = .error fault) ∧ (checkReplay msg guard).2 = guard) := by
  simp only [checkReplay]
  cases found : checkNonce msg with
  | error fault => exact Or.inr ⟨⟨fault, rfl⟩, rfl⟩
  | ok nonce =>
      have isNonce : replayNonce msg = some nonce := by
        simp only [checkNonce] at found
        split at found
        · cases found
        · split at found
          · cases found
          · split at found
            · cases found
            · rename_i named _ _
              rw [named, Except.ok.inj found]
      simp only [ReplayGuard.checkAndRecord]
      cases answer : (guard.checkAndRecord (signerId msg) (Signable.domain M) nonce
          (retainUntil msg)).1 with
      | error fault =>
          refine Or.inr ⟨⟨_, rfl⟩, checkAndRecord_error ?_⟩
          rw [answer]
          simp
      | ok decision =>
          cases decision with
          | duplicate =>
              refine Or.inr ⟨⟨_, rfl⟩, checkAndRecord_error ?_⟩
              rw [answer]
              simp
          | fresh =>
              rcases checkAndRecord_fresh answer with ⟨unseen, recorded⟩
              exact Or.inl ⟨_, nonce, rfl, isNonce, unseen, recorded⟩

theorem now_lt_of_checkMessage {M : Type} [Signable M] {msg : M}
    {maxSupportedSchemaVersion : UInt32} {verifier : SignatureVerifier} {nowUnixMs : UInt64}
    (short : Signable.lifetime M = .shortLived)
    (passed : checkMessage blake3 msg maxSupportedSchemaVersion verifier nowUnixMs = .ok ()) :
    nowUnixMs < expiresAtUnixMs msg := by
  simp only [checkMessage, Except.bind_eq_ok] at passed
  rcases passed with ⟨_, _, _, _, _, _, timely⟩
  rw [checkTime, short] at timely
  simp only at timely
  split at timely
  · cases timely
  · rename_i live
    exact UInt64.not_le.mp live

/-- A short-lived message that is reported has not expired and its nonce was new; the nonce is
now recorded. -/
theorem reported_shortLived {call : VerifyCall} {guard : InMemoryReplayGuard}
    (short : call.message.lifetime = .shortLived) (reported : call.Reported blake3 guard) :
    call.nowUnixMs < call.message.expiresAt ∧
    ∃ nonce, call.message.nonce = some nonce ∧
      guard.contains ⟨call.message.signer, call.message.domain, nonce⟩ = false ∧
      (call.answer blake3 guard).2.seen =
        guard.seen ++ [(⟨call.message.signer, call.message.domain, nonce⟩,
          retainUntil call.message.2)] := by
  rcases reported with ⟨verified, isOk⟩
  simp only [VerifyCall.answer, Protocol.verify] at isOk ⊢
  rw [AnyMessage.lifetime] at short
  cases passed : checkMessage blake3 call.message.2 call.maxSupportedSchemaVersion call.verifier
      call.nowUnixMs with
  | error fault =>
      rw [passed] at isOk
      cases isOk
  | ok done =>
      rw [passed] at isOk
      simp only [short] at isOk ⊢
      refine ⟨now_lt_of_checkMessage short passed, ?_⟩
      rcases checkReplay_cases call.message.2 guard with
        ⟨_, nonce, _, named, unseen, recorded⟩ | ⟨⟨fault, refused⟩, _⟩
      · exact ⟨nonce, named, unseen, recorded⟩
      · rw [refused] at isOk
        cases isOk

/-- A verification that fails leaves the guard as it was. -/
theorem answer_error {call : VerifyCall} {guard : InMemoryReplayGuard} {fault : VerifyError}
    (failed : (call.answer blake3 guard).1 = .error fault) :
    (call.answer blake3 guard).2 = guard := by
  simp only [VerifyCall.answer, Protocol.verify] at failed ⊢
  split
  · rfl
  · rename_i passed
    rw [passed] at failed
    split
    · rename_i short
      simp only [short] at failed
      rcases checkReplay_cases call.message.2 guard with
        ⟨status, _, accepted, _⟩ | ⟨_, unchanged⟩
      · rw [accepted] at failed
        cases failed
      · exact unchanged
    · rfl

theorem answer_seen_subset (call : VerifyCall) (guard : InMemoryReplayGuard) :
    guard.seen ⊆ (call.answer blake3 guard).2.seen := by
  simp only [VerifyCall.answer, Protocol.verify]
  split
  · exact List.Subset.refl _
  · split
    · rcases checkReplay_cases call.message.2 guard with
        ⟨_, _, _, _, _, recorded⟩ | ⟨_, unchanged⟩
      · rw [recorded]
        exact List.subset_append_left _ _
      · rw [unchanged]
        exact List.Subset.refl _
    · exact List.Subset.refl _

theorem gcEffective_le (lastSeenMs nowUnixMs : UInt64) :
    (gcEffective lastSeenMs nowUnixMs).toNat ≤ nowUnixMs.toNat := by
  rw [gcEffective]
  split
  · exact le_refl _
  · split
    · rename_i jump
      exact le_of_lt (UInt64.lt_iff_toNat_lt.mp jump)
    · exact le_refl _

/-- A collection drops only entries whose retention time the caller's clock has reached. -/
theorem gc_keeps {guard : InMemoryReplayGuard} {nowUnixMs : UInt64} {entry : Key × UInt64}
    (member : entry ∈ guard.seen) :
    entry ∈ (guard.gc nowUnixMs).1.seen ∨ entry.2.toNat ≤ nowUnixMs.toNat := by
  simp only [InMemoryReplayGuard.gc]
  split
  · exact Or.inl member
  · by_cases kept : gcEffective guard.lastSeenMs nowUnixMs < entry.2
    · exact Or.inl (by simp [member, kept])
    · apply Or.inr
      rw [UInt64.lt_iff_toNat_lt] at kept
      have reached := gcEffective_le guard.lastSeenMs nowUnixMs
      omega

/-- The nonce of every short-lived message reported so far is still recorded, or some collection
has reached its retention time. -/
def Retained (blake3 : Blake3) (start : InMemoryReplayGuard) (events : List Event)
    (guard : InMemoryReplayGuard) : Prop :=
  ∀ before call nonce, Trace.Took events before (.verify call) →
    call.message.lifetime = .shortLived → call.Reported blake3 (runEvents blake3 start before) →
    call.message.nonce = some nonce →
    (⟨call.message.signer, call.message.domain, nonce⟩, retainUntil call.message.2) ∈ guard.seen ∨
    ∃ collected, .gc collected ∈ events ∧
      (retainUntil call.message.2).toNat ≤ collected.toNat

theorem retained_run (start : InMemoryReplayGuard) (events : List Event) :
    Retained blake3 start events (runEvents blake3 start events) := by
  refine Trace.induction (Retained blake3 start) ?_ ?_ events
  · intro before call nonce took
    exact (Trace.not_took_nil took).elim
  · intro events event retained before call nonce took short reported named
    rcases Trace.took_snoc.mp took with earlier | ⟨isBefore, isEvent⟩
    · rcases retained before call nonce earlier short reported named with
        member | ⟨collected, inEvents, reached⟩
      · cases event with
        | verify other =>
            rw [step]
            exact Or.inl (answer_seen_subset other _ member)
        | gc collected =>
            rcases gc_keeps member with kept | reached
            · exact Or.inl kept
            · simp only at reached
              exact Or.inr ⟨collected, by simp, reached⟩
      · exact Or.inr ⟨collected, by simp [inEvents], reached⟩
    · rw [isBefore] at reported
      rcases (reported_shortLived short reported).2 with ⟨other, isOther, _, recorded⟩
      have sameNonce : other = nonce := Option.some.inj (isOther.symm.trans named)
      rw [← isEvent, step, recorded, sameNonce]
      exact Or.inl (by simp)

theorem toNat_retainUntil {call : VerifyCall} (short : call.message.lifetime = .shortLived)
    (fits : ExpiryFits (.verify call)) :
    (retainUntil call.message.2).toNat =
      call.message.expiresAt.toNat + clockSkewToleranceMs.toNat := by
  have bound := fits short
  rw [retainUntil, UInt64.toNat_saturatingAdd, ← AnyMessage.expiresAt]
  omega

/-- Two reports for one signer, domain and nonce: when the second is made, the first message has
expired. -/
theorem expired_of_reported_twice {start : InMemoryReplayGuard} {before between : List Event}
    {first second : VerifyCall} {nonce : List UInt8}
    (clocks : ClocksKept (before ++ .verify first :: between ++ [.verify second]))
    (fits : ExpiryFits (.verify first))
    (firstShort : first.message.lifetime = .shortLived)
    (secondShort : second.message.lifetime = .shortLived)
    (firstReported : first.Reported blake3 (runEvents blake3 start before))
    (secondReported : second.Reported blake3
      (runEvents blake3 start (before ++ .verify first :: between)))
    (signers : first.message.signer = second.message.signer)
    (domains : first.message.domain = second.message.domain)
    (firstNonce : first.message.nonce = some nonce)
    (secondNonce : second.message.nonce = some nonce) :
    first.message.expiresAt.toNat ≤ second.nowUnixMs.toNat := by
  rcases (reported_shortLived secondShort secondReported).2 with ⟨other, isOther, unseen, _⟩
  have sameNonce : other = nonce := Option.some.inj (isOther.symm.trans secondNonce)
  rcases retained_run start (before ++ .verify first :: between) before first nonce
    ⟨between, rfl⟩ firstShort firstReported firstNonce with member | ⟨collected, inEvents, reached⟩
  · rw [sameNonce, ← signers, ← domains] at unseen
    simp only [InMemoryReplayGuard.contains, List.any_eq_false] at unseen
    exact (unseen _ member (by simp)).elim
  · have ordered := (List.pairwise_append.mp clocks).2.2 _ inEvents (.verify second) (by simp)
    rw [toNat_retainUntil firstShort fits] at reached
    rw [ClockKept] at ordered
    omega

/-- Over every run of verifications and collections, a short-lived message is reported at most
once, and its nonce is accepted again from its signer for its domain only when it has expired, for
a message that expires later; a failed verification leaves the guard as it was. -/
theorem shortLived_reported_once (blake3 : Blake3) (start : InMemoryReplayGuard)
    (events : List Event) (clocks : ClocksKept events) (fits : ∀ event ∈ events, ExpiryFits event) :
    (∀ (before between after : List Event) (first second : VerifyCall),
      events = before ++ .verify first :: between ++ .verify second :: after →
      first.message.lifetime = .shortLived → second.message.lifetime = .shortLived →
      first.Reported blake3 (runEvents blake3 start before) →
      second.Reported blake3 (runEvents blake3 start (before ++ .verify first :: between)) →
      first.message ≠ second.message ∧
      (first.message.signer = second.message.signer →
        first.message.domain = second.message.domain →
        first.message.nonce = second.message.nonce →
        first.message.expiresAt ≤ second.nowUnixMs ∧
          first.message.expiresAt < second.message.expiresAt)) ∧
    ∀ (before : List Event) (call : VerifyCall) (fault : VerifyError),
      Trace.Took events before (.verify call) →
      (call.answer blake3 (runEvents blake3 start before)).1 = .error fault →
      runEvents blake3 start (before ++ [.verify call]) = runEvents blake3 start before := by
  constructor
  · intro before between after first second isRun firstShort secondShort firstReported
      secondReported
    have reuse : first.message.signer = second.message.signer →
        first.message.domain = second.message.domain →
        first.message.nonce = second.message.nonce →
        first.message.expiresAt ≤ second.nowUnixMs ∧
          first.message.expiresAt < second.message.expiresAt := by
      intro signers domains nonces
      rcases reported_shortLived firstShort firstReported with ⟨_, nonce, firstNonce, _, _⟩
      have live := (reported_shortLived secondShort secondReported).1
      have upToSecond : ClocksKept (before ++ .verify first :: between ++ [.verify second]) := by
        apply List.Pairwise.sublist _ clocks
        rw [isRun]
        exact (List.Sublist.refl _).append (List.Sublist.cons_cons _ (List.nil_sublist _))
      have expired := expired_of_reported_twice upToSecond
        (fits (.verify first) (by simp [isRun])) firstShort secondShort firstReported
        secondReported signers domains firstNonce (nonces.symm.trans firstNonce)
      rw [UInt64.le_iff_toNat_le, UInt64.lt_iff_toNat_lt]
      rw [UInt64.lt_iff_toNat_lt] at live
      omega
    refine ⟨?_, reuse⟩
    intro same
    have later := (reuse (by rw [same]) (by rw [same]) (by rw [same])).2
    rw [same] at later
    exact UInt64.lt_irrefl _ later
  · intro before call fault _ failed
    rw [runEvents, Trace.run_snoc, step]
    exact answer_error failed

def acceptAll : SignatureVerifier := fun _ _ _ => .ok ()

def noHash : Blake3 := fun _ => []

def heartbeatAt (issuedAtUnixMs : UInt64) : AnyMessage :=
  ⟨.nodeHeartbeat,
    { schemaVersion := 1, nodeId := "node", deviceId := "node", coordinatorDeviceId := "home",
      issuedAtUnixMs, fenceEpoch := 1, runningAttempts := 1,
      requestNonce := List.replicate 16 7, nodeSignature := [] }⟩

def renewAt (issuedAtUnixMs : UInt64) : AnyMessage :=
  ⟨.renewLeaseRequest,
    { schemaVersion := 1, leaseId := "lease", fenceEpoch := 1, nodeId := "node", progress := none,
      issuedAtUnixMs, nonce := List.replicate 16 7, unreachableUntilUnixMs := 0,
      nodeSignature := [] }⟩

def verifyAt (message : AnyMessage) (nowUnixMs : UInt64) : VerifyCall :=
  ⟨message, 4, acceptAll, nowUnixMs⟩

def emptyGuard : InMemoryReplayGuard :=
  { seen := [], capacity := 4, perSigner := ∅, perSignerCapacity := 4, lastSeenMs := 0,
    clockRollbacks := 0, clockJumps := 0 }

def nonceReused : List Event :=
  [.verify (verifyAt (heartbeatAt 1000) 1000), .gc 200000,
   .verify (verifyAt (heartbeatAt 200000) 200000)]

def nonceShared : List Event :=
  [.verify (verifyAt (heartbeatAt 1000) 1000), .verify (verifyAt (renewAt 1000) 1000)]

theorem nonceReused_kept : ClocksKept nonceReused ∧ ∀ event ∈ nonceReused, ExpiryFits event := by
  constructor
  · simp [ClocksKept, nonceReused, ClockKept, verifyAt]
  · intro event member
    simp only [nonceReused, List.mem_cons, List.not_mem_nil, or_false] at member
    rcases member with isEvent | isEvent | isEvent
    · rw [isEvent]
      intro _
      decide
    · rw [isEvent]
      trivial
    · rw [isEvent]
      intro _
      decide

theorem nonceShared_kept : ClocksKept nonceShared ∧ ∀ event ∈ nonceShared, ExpiryFits event := by
  constructor
  · simp [ClocksKept, nonceShared, ClockKept]
  · intro event member
    simp only [nonceShared, List.mem_cons, List.not_mem_nil, or_false] at member
    rcases member with isEvent | isEvent
    · rw [isEvent]
      intro _
      decide
    · rw [isEvent]
      intro _
      decide

theorem reported_of_isOk {call : VerifyCall} {guard : InMemoryReplayGuard}
    (isOk : (call.answer blake3 guard).1.isOk = true) : call.Reported blake3 guard := by
  cases answer : (call.answer blake3 guard).1 with
  | ok verified => exact ⟨verified, answer⟩
  | error fault =>
      rw [answer] at isOk
      cases isOk

theorem heartbeat_reported :
    (verifyAt (heartbeatAt 1000) 1000).Reported noHash (runEvents noHash emptyGuard []) :=
  reported_of_isOk (by decide +kernel)

theorem renew_reported : (verifyAt (renewAt 1000) 1000).Reported noHash
    (runEvents noHash emptyGuard [.verify (verifyAt (heartbeatAt 1000) 1000)]) :=
  reported_of_isOk (by decide +kernel)

theorem reused_reported : (verifyAt (heartbeatAt 200000) 200000).Reported noHash
    (runEvents noHash emptyGuard [.verify (verifyAt (heartbeatAt 1000) 1000), .gc 200000]) :=
  reported_of_isOk (by decide +kernel)

theorem nonceReused_reported_once :
    heartbeatAt 1000 ≠ heartbeatAt 200000 ∧
    (heartbeatAt 1000).expiresAt ≤ 200000 ∧
    (heartbeatAt 1000).expiresAt < (heartbeatAt 200000).expiresAt :=
  have once := (shortLived_reported_once noHash emptyGuard nonceReused nonceReused_kept.1
    nonceReused_kept.2).1 [] [.gc 200000] [] (verifyAt (heartbeatAt 1000) 1000)
    (verifyAt (heartbeatAt 200000) 200000) rfl rfl rfl heartbeat_reported reused_reported
  ⟨once.1, once.2 rfl rfl rfl⟩

/-- A run on kept clocks in which one signer's nonce is accepted in two short-lived messages. -/
def AcceptsNonceTwice (blake3 : Blake3) (start : InMemoryReplayGuard) (events : List Event) :
    Prop :=
  ClocksKept events ∧ (∀ event ∈ events, ExpiryFits event) ∧
  ∃ (before between after : List Event) (first second : VerifyCall),
    events = before ++ .verify first :: between ++ .verify second :: after ∧
    first.message.lifetime = .shortLived ∧ second.message.lifetime = .shortLived ∧
    first.Reported blake3 (runEvents blake3 start before) ∧
    second.Reported blake3 (runEvents blake3 start (before ++ .verify first :: between)) ∧
    first.message.signer = second.message.signer ∧
    first.message.nonce = second.message.nonce

/-- The nonces of two domains are apart, and a nonce may come back once its message has
expired. -/
theorem nonce_accepted_twice :
    InMemoryReplayGuard.tryWithCapacities 4 4 = .ok emptyGuard ∧
    AcceptsNonceTwice noHash emptyGuard nonceShared ∧
    AcceptsNonceTwice noHash emptyGuard nonceReused :=
  ⟨rfl,
    ⟨nonceShared_kept.1, nonceShared_kept.2, [], [], [], verifyAt (heartbeatAt 1000) 1000,
      verifyAt (renewAt 1000) 1000, rfl, rfl, rfl, heartbeat_reported, renew_reported, rfl, rfl⟩,
    ⟨nonceReused_kept.1, nonceReused_kept.2, [], [.gc 200000], [],
      verifyAt (heartbeatAt 1000) 1000, verifyAt (heartbeatAt 200000) 200000, rfl, rfl, rfl,
      heartbeat_reported, reused_reported,
      rfl, rfl⟩⟩

end Gputeer.Replay
