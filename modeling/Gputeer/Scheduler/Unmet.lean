import Gputeer.Lib.Alike
import Gputeer.Scheduler.Orders
import Gputeer.Scheduler.ReassignmentChain

/-! The gate names everything that is not met and nothing else, and neither its answer nor its refusal to
answer hangs on how the reports came or how often. -/

namespace Gputeer.Scheduler

open DerivedOrder

section Orders

instance : Std.TransOrd NeighborReportResolution :=
  inferInstanceAs (Std.TransCmp (compareOn NeighborReportResolution.ctorIdx))

instance : Std.LawfulEqOrd NeighborReportResolution where
  eq_of_compare {left right} same := by
    cases left <;> cases right <;> first | rfl | cases same

namespace NeighborUnreachableReport

theorem compare_eq (left right : NeighborUnreachableReport) :
    compare left right = compareLex (compareOn reporterNodeId) (compareLex (compareOn reporterMemberId)
      (compareLex (compareOn unreachableNodeId) (compareLex (compareOn observedAtUnixMs)
        (compareOn resolution)))) left right := by
  change instOrdNeighborUnreachableReport.ord left right = _
  simp only [instOrdNeighborUnreachableReport.ord, Ordering.then_eq]
  rfl

instance : Std.TransOrd NeighborUnreachableReport := transOrd_of_eq compare_eq

instance : Std.LawfulEqOrd NeighborUnreachableReport where
  eq_of_compare {left right} same := by
    rw [compare_eq] at same
    simp only [compareLex, compareOn, Ordering.then_eq_eq] at same
    obtain ⟨node, member, unreachable, observed, resolved⟩ := same
    cases left
    cases right
    rw [mk.injEq]
    exact ⟨Std.LawfulEqCmp.eq_of_compare node, Std.LawfulEqCmp.eq_of_compare member,
      Std.LawfulEqCmp.eq_of_compare unreachable, Std.LawfulEqCmp.eq_of_compare observed,
      Std.LawfulEqCmp.eq_of_compare resolved⟩

end NeighborUnreachableReport

namespace UnmetCondition

def fields : UnmetCondition → List Field
  | .brokerSilenceTooShort first second | .originalLeaseStillValid first second
  | .fenceEpochNotAboveHighestSeen first second => [.word first, .word second]
  | .notEnoughNeighborReports distinct required => [.halfWord distinct, .halfWord required]
  | .fenceEpochOutsideReservedRange proposed first last => [.word proposed, .word first, .word last]
  | .fenceEpochAlreadyUsed proposed => [.word proposed]
  | .partitionPauseNotEnforced | .receivingNodeDidNotConsent | .auditRecordNotCommitted
  | .publicPoolReassignmentDisabled => []

theorem compare_fields (left right : UnmetCondition) :
    compare left right = (compare left.ctorIdx right.ctorIdx).then
      (List.compareLex Field.order left.fields right.fields) := by
  change instOrdUnmetCondition.ord left right = _
  unfold instOrdUnmetCondition.ord
  split
  · next form =>
    rw [form]
    rfl
  · next form =>
    rw [form]
    rfl
  · split <;>
      simp only [UnmetCondition.ctorIdx, fields, List.compareLex_cons_cons, List.compareLex_nil_nil,
        Field.order_word, Field.order_halfWord, Ordering.then_eq, Std.compare_self, Ordering.eq_then]

instance : Std.TransOrd UnmetCondition := transOrd_of_fields compare_fields

instance : Std.LawfulEqOrd UnmetCondition where
  eq_of_compare {left right} same := by
    change instOrdUnmetCondition.ord left right = _ at same
    unfold instOrdUnmetCondition.ord at same
    split at same
    · cases same
    · cases same
    · split at same <;> simp_all

end UnmetCondition

end Orders

section Reports

variable {request : ReassignmentRequest} {policy : ReassignmentPolicy} {tally other next : ReportTally}
  {report : NeighborUnreachableReport} {owners others : List (String × String)}

theorem checkOwner_append :
    checkOwner report (owners ++ others) =
      checkOwner report owners >>= fun _ => checkOwner report others := by
  induction owners with
  | nil => rfl
  | cons owner rest ih =>
      obtain ⟨node, member⟩ := owner
      simp only [List.cons_append, checkOwner]
      split
      · exact ih
      · cases compareIdentity member report.reporterMemberId with
        | same => exact ih
        | ambiguous => rfl
        | different => rfl

/-- The same machines, and no report that the owners of the one would let pass and those of the other not. -/
structure SameTally (tally other : ReportTally) : Prop where
  counted : tally.distinctReporterNodes = other.distinctReporterNodes
  owners : ∀ report, checkOwner report tally.nodeOwner = checkOwner report other.nodeOwner

theorem SameTally.tallyReport (same : SameTally tally other) (report : NeighborUnreachableReport) :
    Except.Alike SameTally (tallyReport request tally report) (tallyReport request other report) := by
  simp only [Scheduler.tallyReport, same.counted, same.owners]
  cases checkReport request report with
  | error fault => exact .error fault
  | ok _ =>
      cases refuseAlike report.reporterNodeId other.distinctReporterNodes.toList with
      | error fault => exact .error fault
      | ok _ =>
          cases checkOwner report other.nodeOwner with
          | error fault => exact .error fault
          | ok _ =>
              refine .ok ⟨rfl, fun later => ?_⟩
              rw [checkOwner_append, checkOwner_append, same.owners]

/-- A report that is there twice counts once. -/
theorem tallyReport_again (tallied : tallyReport request tally report = .ok next) :
    Except.Alike SameTally (tallyReport request next report) (.ok next) := by
  simp only [tallyReport, Except.bind_eq_ok, Except.ok.injEq] at tallied
  obtain ⟨_, checked, _, unlike, _, owned, rfl⟩ := tallied
  have stillUnlike : refuseAlike report.reporterNodeId
      (tally.distinctReporterNodes.insert report.reporterNodeId).toList = .ok () := by
    rw [refuseAlike_eq_ok] at unlike ⊢
    intro previous member different
    rw [Std.ExtTreeSet.mem_toList, Std.ExtTreeSet.mem_insert, compare_eq_iff_eq] at member
    rcases member with same | before
    · exact absurd same.symm different
    · exact unlike previous (Std.ExtTreeSet.mem_toList.mpr before) different
  have itself : checkOwner report [(report.reporterNodeId, report.reporterMemberId)] = .ok () := by
    simp [checkOwner, compareIdentity]
  have stillOwned : checkOwner report
      (tally.nodeOwner ++ [(report.reporterNodeId, report.reporterMemberId)]) = .ok () := by
    rw [checkOwner_append, owned]
    exact itself
  rw [tallyReport, checked, stillUnlike, stillOwned]
  refine .ok ⟨?_, fun later => ?_⟩
  · apply Std.ExtTreeSet.ext_mem
    simp
  · rw [checkOwner_append]
    rw [checkOwner_append]
    cases checkOwner later tally.nodeOwner with
    | error fault => rfl
    | ok _ =>
        change (checkOwner later _ >>= fun _ => checkOwner later _) = checkOwner later _
        cases checkOwner later [(report.reporterNodeId, report.reporterMemberId)] <;> rfl

namespace SameTally

theorem refl (tally : ReportTally) : SameTally tally tally := ⟨rfl, fun _ => rfl⟩

theorem symm (tally other : ReportTally) (same : SameTally tally other) : SameTally other tally :=
  ⟨same.counted.symm, fun report => (same.owners report).symm⟩

theorem trans (tally other next : ReportTally) (same : SameTally tally other)
    (alsoSame : SameTally other next) : SameTally tally next :=
  ⟨same.counted.trans alsoSame.counted, fun report => (same.owners report).trans (alsoSame.owners report)⟩

end SameTally

theorem tallyReports_sortedDedup :
    Except.Alike SameTally (tallyReports request)
      ((sortedDedup request.neighborReports).foldlM (tallyReport request) ⟨∅, []⟩) :=
  .foldlM_eraseReps SameTally.refl SameTally.trans (fun _ _ report same => same.tallyReport report)
    fun _ _ _ => tallyReport_again

/-- The reports as a set decide what is tallied, and why it is not. -/
theorem tallyReports_alike {reports : List NeighborUnreachableReport}
    (same : ∀ report, report ∈ reports ↔ report ∈ request.neighborReports) :
    Except.Alike SameTally (tallyReports { request with neighborReports := reports })
      (tallyReports request) := by
  have once := @tallyReports_sortedDedup { request with neighborReports := reports }
  rw [sortedDedup_eq_of_mem_iff same] at once
  exact once.trans SameTally.trans (tallyReports_sortedDedup.symm SameTally.symm)

/-- Neither the order of the reports nor a report that came twice changes the answer or the error. -/
theorem evaluateReassignment_eq_of_mem_iff {reports : List NeighborUnreachableReport}
    (same : ∀ report, report ∈ reports ↔ report ∈ request.neighborReports) :
    evaluateReassignment { request with neighborReports := reports } policy =
      evaluateReassignment request policy := by
  unfold evaluateReassignment
  refine bind_congr fun _ => bind_congr fun _ => bind_congr fun _ => bind_congr fun _ => ?_
  refine (tallyReports_alike same).bind_eq fun tally other tallied => ?_
  rw [tallied.counted]
  rfl

end Reports

section Conditions

variable {request : ReassignmentRequest} {policy : ReassignmentPolicy} {condition : UnmetCondition}

/-- How many machines reported, each of them once. -/
def distinctReporters (request : ReassignmentRequest) : Nat :=
  (request.neighborReports.map (·.reporterNodeId)).toFinset.card

/-- The numbers that were seen: the original one, and those used since. -/
def seenEpochs (request : ReassignmentRequest) : Set UInt64 :=
  { epoch | epoch = request.originalFenceEpoch ∨ epoch ∈ request.reservedFenceRange.alreadyUsed }

/-- What has to be so for a job to be moved. -/
structure Warranted (request : ReassignmentRequest) (policy : ReassignmentPolicy) : Prop where
  brokerSilent : policy.brokerSilenceThresholdMs < request.brokerSilentForMs
  leaseExpired : request.originalLeaseExpiresAtUnixMs ≤ request.nowUnixMs
  pauseEnforced : request.partitionPause = .enforcedByCaller
  enoughReporters : (requiredReports policy request.model).toNat ≤ distinctReporters request
  consent : request.receivingConsent = .granted
  insideRange : request.reservedFenceRange.first ≤ request.proposedFenceEpoch ∧
    request.proposedFenceEpoch ≤ request.reservedFenceRange.last
  unused : request.proposedFenceEpoch ∉ request.reservedFenceRange.alreadyUsed
  aboveSeen : ∀ epoch ∈ seenEpochs request, epoch < request.proposedFenceEpoch
  recorded : request.auditRecord ≠ .notRecorded
  modelOpen : request.model = .privateTeam ∨ policy.publicPoolEnabled = true

/-- The entry says what failed, and with which values. -/
def Fails (request : ReassignmentRequest) (policy : ReassignmentPolicy) : UnmetCondition → Prop
  | .brokerSilenceTooShort observedMs requiredMs =>
      observedMs = request.brokerSilentForMs ∧ requiredMs = policy.brokerSilenceThresholdMs ∧
        observedMs ≤ requiredMs
  | .originalLeaseStillValid expiresAtUnixMs nowUnixMs =>
      expiresAtUnixMs = request.originalLeaseExpiresAtUnixMs ∧ nowUnixMs = request.nowUnixMs ∧
        nowUnixMs < expiresAtUnixMs
  | .partitionPauseNotEnforced => request.partitionPause = .notEnforcedYet
  | .notEnoughNeighborReports distinct required =>
      distinct = saturatingU32 (distinctReporters request) ∧
        required = requiredReports policy request.model ∧ distinctReporters request < required.toNat
  | .receivingNodeDidNotConsent => request.receivingConsent = .withheld
  | .fenceEpochOutsideReservedRange proposed first last =>
      proposed = request.proposedFenceEpoch ∧ first = request.reservedFenceRange.first ∧
        last = request.reservedFenceRange.last ∧ (proposed < first ∨ last < proposed)
  | .fenceEpochAlreadyUsed proposed =>
      proposed = request.proposedFenceEpoch ∧ proposed ∈ request.reservedFenceRange.alreadyUsed
  | .fenceEpochNotAboveHighestSeen proposed mustExceed =>
      proposed = request.proposedFenceEpoch ∧ IsGreatest (seenEpochs request) mustExceed ∧
        proposed ≤ mustExceed
  | .auditRecordNotCommitted => request.auditRecord = .notRecorded
  | .publicPoolReassignmentDisabled => request.model = .publicPool ∧ policy.publicPoolEnabled = false

theorem isGreatest_seenEpochs {epoch : UInt64} :
    IsGreatest (seenEpochs request) epoch ↔ epoch = highestSeen request := by
  have greatest : IsGreatest (seenEpochs request) (highestSeen request) := by
    obtain ⟨original, used⟩ := UInt64.le_foldl_max request.reservedFenceRange.alreadyUsed.toList
      request.originalFenceEpoch
    constructor
    · exact (UInt64.foldl_max_mem _ _).imp_right Std.ExtTreeSet.mem_toList.mp
    · rintro seen (rfl | member)
      · exact original
      · exact used seen (Std.ExtTreeSet.mem_toList.mpr member)
  constructor
  · intro other
    exact UInt64.le_antisymm (greatest.2 other.1) (other.2 greatest.1)
  · rintro rfl
    exact greatest

theorem mem_unmetIf {fails : Prop} [Decidable fails] {entry : UnmetCondition} :
    condition ∈ unmetIf fails entry ↔ condition = entry ∧ fails := by
  unfold unmetIf
  split
  · next holds => simp [holds]
  · next holds => simp [holds]

theorem mem_unmetConditions :
    condition ∈ unmetConditions request policy (distinctReporters request) ↔
      Fails request policy condition := by
  simp only [unmetConditions, List.mem_append, mem_unmetIf]
  cases condition <;>
    simp only [Fails, isGreatest_seenEpochs, reduceCtorEq, false_and, or_false, false_or, true_and,
      UnmetCondition.brokerSilenceTooShort.injEq, UnmetCondition.originalLeaseStillValid.injEq,
      UnmetCondition.notEnoughNeighborReports.injEq,
      UnmetCondition.fenceEpochOutsideReservedRange.injEq, UnmetCondition.fenceEpochAlreadyUsed.injEq,
      UnmetCondition.fenceEpochNotAboveHighestSeen.injEq]
  case publicPoolReassignmentDisabled =>
    cases request.model <;> simp [ParticipationModel.assumesMutualTrust]
  all_goals grind

/-- A condition fails in one way. -/
theorem Fails.eq_of_ctorIdx {other : UnmetCondition} (one : Fails request policy condition)
    (another : Fails request policy other) (same : condition.ctorIdx = other.ctorIdx) :
    condition = other := by
  cases condition <;> cases other <;> cases same
  all_goals simp only [Fails, isGreatest_seenEpochs] at one another
  all_goals simp [one, another]

theorem unmetConditions_eq_nil :
    unmetConditions request policy (distinctReporters request) = [] ↔ Warranted request policy := by
  have above : highestSeen request < request.proposedFenceEpoch ↔
      ∀ epoch ∈ seenEpochs request, epoch < request.proposedFenceEpoch := by
    obtain ⟨highest, bound⟩ := isGreatest_seenEpochs.mpr (rfl : highestSeen request = _)
    exact ⟨fun exceeds epoch seen => UInt64.lt_of_le_of_lt (bound seen) exceeds,
      fun exceeds => exceeds _ highest⟩
  have pause : ¬ request.partitionPause = .notEnforcedYet ↔ request.partitionPause = .enforcedByCaller := by
    cases request.partitionPause <;> simp
  have consent : ¬ request.receivingConsent = .withheld ↔ request.receivingConsent = .granted := by
    cases request.receivingConsent <;> simp
  have gate : ¬ (request.model.assumesMutualTrust = false ∧ policy.publicPoolEnabled = false) ↔
      request.model = .privateTeam ∨ policy.publicPoolEnabled = true := by
    cases request.model <;> simp [ParticipationModel.assumesMutualTrust]
  simp only [unmetConditions, List.append_eq_nil_iff, unmetIf_eq_nil, pause, consent, gate, not_or,
    UInt64.not_lt, not_lt, UInt64.not_le, above]
  constructor
  · rintro ⟨⟨⟨⟨⟨⟨⟨⟨⟨silent, expired⟩, paused⟩, enough⟩, granted⟩, inside⟩, unused⟩, aboveSeen⟩,
      recorded⟩, isOpen⟩
    exact ⟨silent, expired, paused, enough, granted, inside, unused, aboveSeen, recorded, isOpen⟩
  · rintro ⟨silent, expired, paused, enough, granted, inside, unused, aboveSeen, recorded, isOpen⟩
    exact ⟨⟨⟨⟨⟨⟨⟨⟨⟨silent, expired⟩, paused⟩, enough⟩, granted⟩, inside⟩, unused⟩, aboveSeen⟩,
      recorded⟩, isOpen⟩

theorem size_distinctReporterNodes {tally : ReportTally} (tallied : tallyReports request = .ok tally) :
    tally.distinctReporterNodes.size = distinctReporters request := by
  have counts := (TallyOf.empty request).foldlM tallied
  rw [List.nil_append] at counts
  have distinct : tally.distinctReporterNodes.toList.Nodup :=
    Std.ExtTreeSet.distinct_toList.imp fun different => by simpa using different
  rw [distinctReporters, ← Std.ExtTreeSet.length_toList, ← List.toFinset_card_of_nodup distinct]
  congr 1
  ext node
  simp [counts.counted, mem_sorted]

/-- The reports count as a set. When the gate judges, it allows the move exactly when all of the conditions
are met, and else it names every one that is not, each of them once and in order. -/
theorem reassignment_names_all_unmet :
    (∀ reports, (∀ report, report ∈ reports ↔ report ∈ request.neighborReports) →
      evaluateReassignment { request with neighborReports := reports } policy =
        evaluateReassignment request policy) ∧
    ∀ decision, evaluateReassignment request policy = .ok decision →
      (decision = .allowed request.proposedFenceEpoch ↔ Warranted request policy) ∧
      (¬ Warranted request policy → ∃ unmet, decision = .refused unmet ∧
        (∀ condition, condition ∈ unmet ↔ Fails request policy condition) ∧
        unmet.Pairwise (fun left right => compare left right = .lt) ∧
        (unmet.map (·.ctorIdx)).Nodup) := by
  refine ⟨fun reports same => evaluateReassignment_eq_of_mem_iff same, fun decision decided => ?_⟩
  simp only [evaluateReassignment, Except.bind_eq_ok] at decided
  obtain ⟨_, _, _, _, _, _, _, _, tally, tallied, decided⟩ := decided
  rw [size_distinctReporterNodes tallied] at decided
  split at decided
  · next met =>
    obtain rfl := Except.ok.inj decided
    have warranted := unmetConditions_eq_nil.mp met
    exact ⟨iff_of_true rfl warranted, fun unwarranted => absurd warranted unwarranted⟩
  · next unmet =>
    obtain rfl := Except.ok.inj decided
    have unwarranted : ¬ Warranted request policy := fun warranted =>
      unmet (unmetConditions_eq_nil.mpr warranted)
    refine ⟨iff_of_false (by simp) unwarranted, fun _ => ⟨_, rfl, fun condition => ?_,
      pairwise_sortedDedup, ?_⟩⟩
    · rw [mem_sortedDedup, mem_unmetConditions]
    · have distinct : (sortedDedup (unmetConditions request policy (distinctReporters request))).Nodup :=
        pairwise_sortedDedup.nodup_of_lt
      refine distinct.map_on fun condition member other alsoMember same => ?_
      rw [mem_sortedDedup, mem_unmetConditions] at member alsoMember
      exact member.eq_of_ctorIdx alsoMember same

end Conditions

end Gputeer.Scheduler
