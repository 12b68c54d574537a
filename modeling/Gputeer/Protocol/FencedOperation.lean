import Gputeer.Lib.Bytes
import Gputeer.Lib.Except
import Gputeer.Lib.Trace
import Gputeer.Lib.Word
import Gputeer.Protocol.Messages

/-! Operations that carry the fence they were sent under. One that was seen before is not taken again, and none
is taken when a later fence was seen. -/

namespace Gputeer.Protocol

structure FencedOperation where
  fenceEpoch : UInt64
  operationId : Option Digest
  operationSeq : UInt64
  deriving DecidableEq

structure FencedOperationKey where
  fenceEpoch : UInt64
  operationId : Vector UInt8 32
  deriving DecidableEq

inductive InvalidFencedOperation where
  | missingJobId
  | missingAttemptId
  | invalidJobIdLength (actual : Nat)
  | invalidAttemptIdLength (actual : Nat)
  | missingOperationId
  | invalidOperationIdAlgorithm (actual : Int32)
  | invalidOperationIdLength (actual : Nat)
  | operationIdMismatch
  deriving DecidableEq

inductive FencedOperationDecision where
  | accept (key : FencedOperationKey)
  | idempotentRetransmission (key : FencedOperationKey)
  | staleFence (receivedFenceEpoch maxSeenFenceEpoch : UInt64)
  | invalid (reason : InvalidFencedOperation)
  deriving DecidableEq

def ulidLen : Nat := 26

variable (blake3 : List UInt8 → Vector UInt8 32)

/-- Without separators: the two ids are of a fixed length. -/
def deriveOperationId (jobId attemptId : String) (operationSeq : UInt64) : Vector UInt8 32 :=
  blake3 (Bytes.utf8 jobId ++ Bytes.utf8 attemptId ++ Bytes.beBytes 8 operationSeq.toNat)

/-- The key of an operation whose id is the one that is derived for it. -/
def fencedOperationKey (jobId attemptId : String) (operation : FencedOperation) :
    Except InvalidFencedOperation FencedOperationKey := do
  Except.ensure (jobId ≠ "") .missingJobId
  Except.ensure (attemptId ≠ "") .missingAttemptId
  Except.ensure (jobId.length = ulidLen) (.invalidJobIdLength jobId.length)
  Except.ensure (attemptId.length = ulidLen) (.invalidAttemptIdLength attemptId.length)
  let digest ← Except.ofOption .missingOperationId operation.operationId
  Except.ensure (digest.algo = 1) (.invalidOperationIdAlgorithm digest.algo)
  Except.ensure (digest.value.length = 32) (.invalidOperationIdLength digest.value.length)
  let derived := deriveOperationId blake3 jobId attemptId operation.operationSeq
  Except.ensure (digest.value = derived.toList) .operationIdMismatch
  .ok ⟨operation.fenceEpoch, derived⟩

def unlessSeen (key : FencedOperationKey) (previouslyObserved : List FencedOperationKey) :
    FencedOperationDecision :=
  if key ∈ previouslyObserved then .idempotentRetransmission key else .accept key

/-- A later fence goes before a repetition. -/
def decideFenced (key : FencedOperationKey) (previouslyObserved : List FencedOperationKey) :
    FencedOperationDecision :=
  match (previouslyObserved.map (·.fenceEpoch)).max? with
  | some maxSeenFenceEpoch =>
      if key.fenceEpoch < maxSeenFenceEpoch then .staleFence key.fenceEpoch maxSeenFenceEpoch
      else unlessSeen key previouslyObserved
  | none => unlessSeen key previouslyObserved

def evaluateFencedOperation (jobId attemptId : String) (operation : FencedOperation)
    (previouslyObserved : List FencedOperationKey) : FencedOperationDecision :=
  match fencedOperationKey blake3 jobId attemptId operation with
  | .error reason => .invalid reason
  | .ok key => decideFenced key previouslyObserved

section Decisions

variable {key found : FencedOperationKey} {previouslyObserved others : List FencedOperationKey}

/-- Nothing of a later fence was seen. -/
def Newest (key : FencedOperationKey) (previouslyObserved : List FencedOperationKey) : Prop :=
  ∀ other ∈ previouslyObserved, other.fenceEpoch ≤ key.fenceEpoch

theorem max_fence_le_iff {maxSeenFenceEpoch : UInt64}
    (seen : (previouslyObserved.map (·.fenceEpoch)).max? = some maxSeenFenceEpoch) :
    maxSeenFenceEpoch ≤ key.fenceEpoch ↔ Newest key previouslyObserved := by
  rw [UInt64.max?_le_iff seen, Newest]
  simp

theorem decideFenced_newest (newest : Newest key previouslyObserved) :
    decideFenced key previouslyObserved = unlessSeen key previouslyObserved := by
  unfold decideFenced
  split
  · next maxSeen seen => rw [if_neg (UInt64.not_lt.mpr ((max_fence_le_iff seen).mpr newest))]
  · rfl

theorem decideFenced_stale (stale : ¬ Newest key previouslyObserved) : ∃ maxSeenFenceEpoch,
    decideFenced key previouslyObserved = .staleFence key.fenceEpoch maxSeenFenceEpoch := by
  unfold decideFenced
  split
  · next maxSeen seen =>
    rw [← max_fence_le_iff seen, UInt64.not_le] at stale
    exact ⟨maxSeen, if_pos stale⟩
  · next none_ =>
    rw [List.max?_eq_none_iff, List.map_eq_nil_iff] at none_
    exact absurd (by simp [Newest, none_]) stale

theorem decideFenced_eq_accept : decideFenced key previouslyObserved = .accept found ↔
    key = found ∧ Newest key previouslyObserved ∧ key ∉ previouslyObserved := by
  by_cases newest : Newest key previouslyObserved
  · rw [decideFenced_newest newest, unlessSeen]
    by_cases seen : key ∈ previouslyObserved
    · simp [seen]
    · simp [seen, newest]
  · obtain ⟨maxSeen, stale⟩ := decideFenced_stale newest
    simp [stale, newest]

theorem decideFenced_eq_retransmission : decideFenced key previouslyObserved = .idempotentRetransmission found ↔
    key = found ∧ Newest key previouslyObserved ∧ key ∈ previouslyObserved := by
  by_cases newest : Newest key previouslyObserved
  · rw [decideFenced_newest newest, unlessSeen]
    by_cases seen : key ∈ previouslyObserved
    · simp [seen, newest]
    · simp [seen]
  · obtain ⟨maxSeen, stale⟩ := decideFenced_stale newest
    simp [stale, newest]

theorem decideFenced_eq_of_mem_iff (same : ∀ other, other ∈ previouslyObserved ↔ other ∈ others) :
    decideFenced key previouslyObserved = decideFenced key others := by
  have largest : (previouslyObserved.map (·.fenceEpoch)).max? = (others.map (·.fenceEpoch)).max? :=
    UInt64.max?_eq_of_mem_iff fun fenceEpoch => by simp [same]
  simp only [decideFenced, unlessSeen, largest, same]

end Decisions

section Runs

/-- One operation, and what is said to have been seen before it. -/
structure FencedEvaluation where
  jobId : String
  attemptId : String
  operation : FencedOperation
  previouslyObserved : List FencedOperationKey

def FencedEvaluation.key (evaluation : FencedEvaluation) : Except InvalidFencedOperation FencedOperationKey :=
  fencedOperationKey blake3 evaluation.jobId evaluation.attemptId evaluation.operation

def FencedEvaluation.decision (evaluation : FencedEvaluation) : FencedOperationDecision :=
  evaluateFencedOperation blake3 evaluation.jobId evaluation.attemptId evaluation.operation
    evaluation.previouslyObserved

def FencedOperationDecision.accepted : FencedOperationDecision → Option FencedOperationKey
  | .accept key => some key
  | _ => none

/-- The keys of the operations that were accepted, in their order. -/
def acceptedKeys (run : List FencedEvaluation) : List FencedOperationKey :=
  run.filterMap fun evaluation => (evaluation.decision blake3).accepted

/-- Each operation is shown the keys that were accepted before it, in any order and any number of times. -/
def ShownAccepted (run : List FencedEvaluation) : Prop :=
  ∀ before evaluation, Trace.Took run before evaluation → ∀ key,
    key ∈ evaluation.previouslyObserved ↔ key ∈ acceptedKeys blake3 before

variable {blake3} {run : List FencedEvaluation} {evaluation : FencedEvaluation} {key : FencedOperationKey}

theorem decision_of_key (derived : evaluation.key blake3 = .ok key) :
    evaluation.decision blake3 = decideFenced key evaluation.previouslyObserved := by
  unfold FencedEvaluation.decision evaluateFencedOperation
  rw [show fencedOperationKey blake3 evaluation.jobId evaluation.attemptId evaluation.operation = .ok key
    from derived]

theorem decision_of_invalid {reason : InvalidFencedOperation} (refused : evaluation.key blake3 = .error reason) :
    evaluation.decision blake3 = .invalid reason := by
  unfold FencedEvaluation.decision evaluateFencedOperation
  rw [show fencedOperationKey blake3 evaluation.jobId evaluation.attemptId evaluation.operation = .error reason
    from refused]

theorem decision_eq_accept : evaluation.decision blake3 = .accept key ↔
    evaluation.key blake3 = .ok key ∧ Newest key evaluation.previouslyObserved ∧
      key ∉ evaluation.previouslyObserved := by
  cases derived : evaluation.key blake3 with
  | error reason => simp [decision_of_invalid derived]
  | ok own =>
      rw [decision_of_key derived, decideFenced_eq_accept, Except.ok.injEq]
      refine and_congr_right ?_
      rintro rfl
      rfl

theorem decision_eq_retransmission : evaluation.decision blake3 = .idempotentRetransmission key ↔
    evaluation.key blake3 = .ok key ∧ Newest key evaluation.previouslyObserved ∧
      key ∈ evaluation.previouslyObserved := by
  cases derived : evaluation.key blake3 with
  | error reason => simp [decision_of_invalid derived]
  | ok own =>
      rw [decision_of_key derived, decideFenced_eq_retransmission, Except.ok.injEq]
      refine and_congr_right ?_
      rintro rfl
      rfl

theorem accepted_eq_some {decision : FencedOperationDecision} :
    decision.accepted = some key ↔ decision = .accept key := by
  cases decision <;> simp [FencedOperationDecision.accepted]

/-- One more operation adds its key when it is accepted. -/
theorem acceptedKeys_snoc : acceptedKeys blake3 (run ++ [evaluation]) =
    acceptedKeys blake3 run ++ (evaluation.decision blake3).accepted.toList := by
  rw [acceptedKeys, List.filterMap_append]
  congr 1

theorem ShownAccepted.before (shown : ShownAccepted blake3 (run ++ [evaluation])) : ShownAccepted blake3 run :=
  fun before earlier took => shown before earlier (Trace.took_snoc.mpr (Or.inl took))

theorem ShownAccepted.last (shown : ShownAccepted blake3 (run ++ [evaluation])) :
    key ∈ evaluation.previouslyObserved ↔ key ∈ acceptedKeys blake3 run :=
  shown run evaluation (Trace.took_snoc.mpr (Or.inr ⟨rfl, rfl⟩)) key

theorem acceptedKeys_ordered (shown : ShownAccepted blake3 run) :
    (acceptedKeys blake3 run).Pairwise fun earlier later =>
      earlier.fenceEpoch ≤ later.fenceEpoch ∧ earlier ≠ later := by
  induction run using List.reverseRecOn with
  | nil => exact List.Pairwise.nil
  | append_singleton run last ih =>
      rw [acceptedKeys_snoc]
      cases decided : (last.decision blake3).accepted with
      | none => simpa using ih shown.before
      | some key =>
          obtain ⟨_, newest, unseen⟩ := decision_eq_accept.mp (accepted_eq_some.mp decided)
          refine List.pairwise_append.mpr ⟨ih shown.before, List.pairwise_singleton _ _, ?_⟩
          intro earlier accepted later isLast
          obtain rfl : later = key := by simpa using isLast
          refine ⟨newest earlier (shown.last.mpr accepted), ?_⟩
          rintro rfl
          exact unseen (shown.last.mpr accepted)

/-- In whatever order and however often the earlier keys are shown. -/
theorem fenced_operations_run_once (shown : ShownAccepted blake3 run) :
    (acceptedKeys blake3 run).Nodup ∧
    (acceptedKeys blake3 run).Pairwise (fun earlier later => earlier.fenceEpoch ≤ later.fenceEpoch) ∧
    (∀ before evaluation, Trace.Took run before evaluation → ∀ key,
      evaluation.decision blake3 = .idempotentRetransmission key ↔
        evaluation.key blake3 = .ok key ∧ key ∈ acceptedKeys blake3 before ∧
          ∀ other ∈ acceptedKeys blake3 before, other.fenceEpoch ≤ key.fenceEpoch) ∧
    ∀ jobId attemptId operation previouslyObserved others,
      (∀ key : FencedOperationKey, key ∈ previouslyObserved ↔ key ∈ others) →
      evaluateFencedOperation blake3 jobId attemptId operation previouslyObserved =
        evaluateFencedOperation blake3 jobId attemptId operation others := by
  have ordered := acceptedKeys_ordered shown
  refine ⟨ordered.imp And.right, ordered.imp And.left, fun before evaluation took key => ?_, ?_⟩
  · have same := shown before evaluation took
    rw [decision_eq_retransmission, same key]
    simp only [Newest, same]
    exact and_congr_right fun _ => and_comm
  · intro jobId attemptId operation previouslyObserved others same
    unfold evaluateFencedOperation
    cases fencedOperationKey blake3 jobId attemptId operation with
    | error reason => rfl
    | ok key => exact decideFenced_eq_of_mem_iff same

def derivedOnce : Vector UInt8 32 := #v[
  0xae, 0x91, 0x51, 0x77, 0x93, 0xe9, 0x86, 0xf9, 0xd1, 0x9d, 0x8e, 0x89, 0x20, 0x2c, 0x51, 0xae,
  0x82, 0x60, 0xfd, 0x03, 0x58, 0xd2, 0xbd, 0x78, 0x19, 0x47, 0x2f, 0xd6, 0x93, 0xe1, 0x13, 0x1f]

/-- The first operation of an attempt, under fence 7. -/
def sentOnce (previouslyObserved : List FencedOperationKey) : FencedEvaluation :=
  ⟨"01JQ8Z5V7N4M3K2H1G0FEDCBA9", "01JQ8Z5V7N4M3K2H1G0FEDCBA8", ⟨7, some ⟨1, derivedOnce.toList⟩, 1⟩,
    previouslyObserved⟩

theorem sentOnce_shown :
    ShownAccepted (fun _ => derivedOnce) ([sentOnce []] ++ [sentOnce [⟨7, derivedOnce⟩, ⟨7, derivedOnce⟩]]) := by
  intro before evaluation took key
  rcases Trace.took_snoc.mp took with first | ⟨rfl, rfl⟩
  · rcases (@Trace.took_snoc _ [] _ _ _).mp first with earlier | ⟨rfl, rfl⟩
    · exact absurd earlier Trace.not_took_nil
    · exact Iff.rfl
  · have accepted : acceptedKeys (fun _ => derivedOnce) [sentOnce []] = [⟨7, derivedOnce⟩] := by decide +kernel
    rw [accepted]
    simp [sentOnce]

theorem sentOnce_accepted_once :
    (acceptedKeys (fun _ => derivedOnce)
      ([sentOnce []] ++ [sentOnce [⟨7, derivedOnce⟩, ⟨7, derivedOnce⟩]])).Nodup :=
  (fenced_operations_run_once sentOnce_shown).1

end Runs

end Gputeer.Protocol
