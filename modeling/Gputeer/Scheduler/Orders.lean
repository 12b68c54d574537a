import Gputeer.Lib.DerivedOrder
import Gputeer.Lib.Sorting
import Gputeer.Scheduler.Concerns

/-! The orders in which reasons and candidates are reported are lawful, so that a report does not show in
which order they were found. -/

namespace Gputeer.Scheduler

open DerivedOrder

section Enumerations

instance : Std.TransOrd NodeState := inferInstanceAs (Std.TransCmp (compareOn NodeState.ctorIdx))

instance : Std.TransOrd RiskState := inferInstanceAs (Std.TransCmp (compareOn RiskState.ctorIdx))

instance : Std.TransOrd SecurityTier := inferInstanceAs (Std.TransCmp (compareOn SecurityTier.ctorIdx))

instance : Std.TransOrd IsolationClass :=
  inferInstanceAs (Std.TransCmp (compareOn IsolationClass.ctorIdx))

instance : Std.TransOrd KeyProtection := inferInstanceAs (Std.TransCmp (compareOn KeyProtection.ctorIdx))

instance : Std.TransOrd WorkloadClass := inferInstanceAs (Std.TransCmp (compareOn WorkloadClass.ctorIdx))

instance : Std.TransOrd SideEffectClass :=
  inferInstanceAs (Std.TransCmp (compareOn SideEffectClass.ctorIdx))

instance : Std.LawfulEqOrd NodeState where
  eq_of_compare {left right} same := by
    cases left <;> cases right <;> first | rfl | cases same

instance : Std.LawfulEqOrd RiskState where
  eq_of_compare {left right} same := by
    cases left <;> cases right <;> first | rfl | cases same

instance : Std.LawfulEqOrd SecurityTier where
  eq_of_compare {left right} same := by
    cases left <;> cases right <;> first | rfl | cases same

instance : Std.LawfulEqOrd IsolationClass where
  eq_of_compare {left right} same := by
    cases left <;> cases right <;> first | rfl | cases same

instance : Std.LawfulEqOrd KeyProtection where
  eq_of_compare {left right} same := by
    cases left <;> cases right <;> first | rfl | cases same

instance : Std.LawfulEqOrd WorkloadClass where
  eq_of_compare {left right} same := by
    cases left <;> cases right <;> first | rfl | cases same

instance : Std.LawfulEqOrd SideEffectClass where
  eq_of_compare {left right} same := by
    cases left <;> cases right <;> first | rfl | cases same

end Enumerations
namespace MissingFact

def fields : MissingFact → List Field
  | .gpuHealth gpuId | .gpuVram gpuId | .gpuModel gpuId => [.text gpuId]
  | _ => []

theorem compare_fields (left right : MissingFact) :
    compare left right = (compare left.ctorIdx right.ctorIdx).then
      (List.compareLex Field.order left.fields right.fields) := by
  change instOrdMissingFact.ord left right = _
  unfold instOrdMissingFact.ord
  split
  · next form =>
    rw [form]
    rfl
  · next form =>
    rw [form]
    rfl
  · split <;>
      simp [MissingFact.ctorIdx, fields, List.compareLex_cons_cons, List.compareLex_nil_nil]

instance : Std.TransOrd MissingFact := transOrd_of_fields compare_fields

instance : Std.LawfulEqOrd MissingFact where
  eq_of_compare {left right} same := by
    change instOrdMissingFact.ord left right = _ at same
    unfold instOrdMissingFact.ord at same
    split at same
    · cases same
    · cases same
    · split at same <;> simp_all

end MissingFact

namespace RejectionReason

def fields : RejectionReason → List Field
  | .missingFact fact => .number fact.ctorIdx :: fact.fields
  | .notLiveEnough last silentAfter => [.wordOption last, .word silentAfter]
  | .alreadyReserved attemptId expiredAt => [.text attemptId, .wordOption expiredAt]
  | .nodeNotOnline actual => [.number actual.ctorIdx]
  | .riskNotNormal actual => [.number actual.ctorIdx]
  | .snapshotNotFresh observedAt evaluatedAt maximumAge =>
      [.word observedAt, .word evaluatedAt, .word maximumAge]
  | .gpuObservationMismatch mismatchAt => [.word mismatchAt]
  | .securityTierTooLow available required => [.number available.ctorIdx, .number required.ctorIdx]
  | .isolationClassTooLow available required => [.number available.ctorIdx, .number required.ctorIdx]
  | .keyProtectionTooLow available required => [.number available.ctorIdx, .number required.ctorIdx]
  | .gpuCountInsufficient available required | .healthyGpuCountInsufficient available required
  | .cpuInsufficient available required => [.halfWord available, .halfWord required]
  | .gpuModelMismatch matching required allowed =>
      [.halfWord matching, .halfWord required, .textList allowed]
  | .gpuVramInsufficient matching required minimumBytes =>
      [.halfWord matching, .halfWord required, .word minimumBytes]
  | .ramInsufficient available required | .workspaceInsufficient available required =>
      [.word available, .word required]
  | .workloadClassNotAllowed workloadClass => [.number workloadClass.ctorIdx]
  | .thirdPartyJobMustBePureOnRestrictedIsolation actual => [.number actual.ctorIdx]
  | .thirdPartyJobForbiddenOnS0 | .thirdPartyOptInRequiredOnRestrictedIsolation
  | .thirdPartySensitiveDataForbiddenOnRestrictedIsolation => []

theorem compare_fields (left right : RejectionReason) :
    compare left right = (compare left.ctorIdx right.ctorIdx).then
      (List.compareLex Field.order left.fields right.fields) := by
  change instOrdRejectionReason.ord left right = _
  unfold instOrdRejectionReason.ord
  split
  · next form =>
    rw [form]
    rfl
  · next form =>
    rw [form]
    rfl
  · split <;>
      simp only [RejectionReason.ctorIdx, fields, List.compareLex_cons_cons, List.compareLex_nil_nil,
        MissingFact.compare_fields, Field.order_number, Field.order_text, Field.order_textList,
        Field.order_word, Field.order_halfWord, Field.order_wordOption, Ordering.then_eq,
        Std.compare_self, Ordering.eq_then] <;>
      rfl

instance : Std.TransOrd RejectionReason := transOrd_of_fields compare_fields

instance : Std.LawfulEqOrd RejectionReason where
  eq_of_compare {left right} same := by
    change instOrdRejectionReason.ord left right = _ at same
    unfold instOrdRejectionReason.ord at same
    split at same
    · cases same
    · cases same
    · split at same <;> simp_all

end RejectionReason

section Candidates

instance : Std.TransOrd EligibleCandidate :=
  transOrd_of_eq fun left right =>
    show (compare left.nodeId right.nodeId).then .eq = compareOn EligibleCandidate.nodeId left right from
      Ordering.then_eq

instance : Std.LawfulEqOrd EligibleCandidate where
  eq_of_compare {left right} same := by
    change (compare left.nodeId right.nodeId).then .eq = .eq at same
    rw [Ordering.then_eq] at same
    cases left
    cases right
    exact congrArg EligibleCandidate.mk (Std.LawfulEqCmp.eq_of_compare same)

instance : Std.TransOrd RejectedCandidate :=
  transOrd_of_eq fun left right =>
    show (compare left.nodeId right.nodeId).then ((compare left.reasons right.reasons).then .eq) =
        compareLex (compareOn RejectedCandidate.nodeId) (compareOn RejectedCandidate.reasons) left right by
      rw [Ordering.then_eq]
      rfl

instance : Std.LawfulEqOrd RejectedCandidate where
  eq_of_compare {left right} same := by
    change (compare left.nodeId right.nodeId).then ((compare left.reasons right.reasons).then .eq) =
      .eq at same
    rw [Ordering.then_eq, Ordering.then_eq_eq] at same
    cases left
    cases right
    exact congrArg₂ RejectedCandidate.mk (Std.LawfulEqCmp.eq_of_compare same.1)
      (Std.LawfulEqCmp.eq_of_compare same.2)

end Candidates

section Sorting

variable {α : Type} [Ord α] [Std.TransOrd α] [Std.LawfulEqOrd α] {items others : List α}

theorem sorted_eq_of_perm (same : items.Perm others) : sorted items = sorted others :=
  same.mergeSort_isLE

/-- What is sorted and without repetition is told by its members. -/
theorem sortedDedup_eq_of_mem_iff [DecidableEq α] (same : ∀ item, item ∈ items ↔ item ∈ others) :
    sortedDedup items = sortedDedup others := by
  refine List.eq_of_mem_iff_of_lt (List.pairwise_eraseReps List.pairwise_mergeSort_isLE)
    (List.pairwise_eraseReps List.pairwise_mergeSort_isLE) fun item => ?_
  exact mem_sortedDedup.trans ((same item).trans mem_sortedDedup.symm)

theorem pairwise_sortedDedup [DecidableEq α] :
    (sortedDedup items).Pairwise fun left right => compare left right = .lt :=
  List.pairwise_eraseReps List.pairwise_mergeSort_isLE

end Sorting

end Gputeer.Scheduler
