import Gputeer.Scheduler.Concerns
import Gputeer.Scheduler.Reassignment

/-! What a grant of the gate rests on, and a chain of grants of which each knows of the one before it:
a quorum of machines that nobody can take for one another, and numbers that only go up. -/

namespace Gputeer.Scheduler

section Identity

variable {left right value other field : String} {same : ReassignmentInputError} {done : Unit}

theorem eqIgnoreAsciiCase_refl (value : String) : eqIgnoreAsciiCase value value = true := by
  simp [eqIgnoreAsciiCase]

theorem compareIdentity_eq_different :
    compareIdentity left right = .different ↔ eqIgnoreAsciiCase left right = false := by
  unfold compareIdentity
  split
  · next equal => simp [equal, eqIgnoreAsciiCase_refl]
  · split
    · next alike => simp [alike]
    · next unlike => simpa using unlike

theorem compareIdentity_eq_same : compareIdentity left right = .same ↔ left = right := by
  unfold compareIdentity
  split
  · next equal => simp [equal]
  · next unequal => split <;> simp [unequal]

theorem requireDifferent_eq_ok :
    requireDifferent value other field same = .ok done ↔ eqIgnoreAsciiCase value other = false := by
  rw [← compareIdentity_eq_different, requireDifferent]
  cases compareIdentity value other <;> simp

theorem requireSame_eq_ok :
    requireSame value other field same = .ok done ↔ value = other := by
  rw [← compareIdentity_eq_same, requireSame]
  cases compareIdentity value other <;> simp

theorem refuseAlike_eq_ok {seen : List String} :
    refuseAlike value seen = .ok done ↔
      ∀ previous ∈ seen, previous ≠ value → eqIgnoreAsciiCase previous value = false := by
  have decided : ∀ previous : String, compareIdentity previous value ≠ .ambiguous ↔
      (previous ≠ value → eqIgnoreAsciiCase previous value = false) := by
    intro previous
    unfold compareIdentity
    split
    · next equal => simp [equal]
    · next unequal => split <;> simp_all
  unfold refuseAlike
  split
  · next previous found =>
    have member := List.mem_of_find?_eq_some found
    have ambiguous : compareIdentity previous value = .ambiguous := by
      simpa using List.find?_some found
    simp only [reduceCtorEq, false_iff]
    exact fun apart => (decided _).mpr (apart _ member) ambiguous
  · next none =>
    rw [List.find?_eq_none] at none
    simpa [decided] using none

end Identity

section Tally

variable {request : ReassignmentRequest} {tally next : ReportTally}
  {report : NeighborUnreachableReport} {seen reports : List NeighborUnreachableReport}

/-- A report about the stranded node, of a machine and a member that gain nothing by it. -/
structure HonestReport (request : ReassignmentRequest) (report : NeighborUnreachableReport) : Prop where
  resolved : report.resolution = .signatureAndMembershipVerifiedByCaller
  target : report.unreachableNodeId = request.strandedNodeId
  past : report.observedAtUnixMs ≤ request.nowUnixMs
  notReceivingMember : eqIgnoreAsciiCase report.reporterMemberId request.receivingMemberId = false
  notStrandedMember : eqIgnoreAsciiCase report.reporterMemberId request.strandedMemberId = false
  notStrandedNode : eqIgnoreAsciiCase report.reporterNodeId request.strandedNodeId = false
  notReceivingNode : eqIgnoreAsciiCase report.reporterNodeId request.receivingNodeId = false

theorem checkReport_eq_ok {done : Unit} (checked : checkReport request report = .ok done) :
    HonestReport request report := by
  simp only [checkReport, Except.bind_eq_ok, Except.ensure_eq_ok, requireDifferent_eq_ok,
    requireSame_eq_ok] at checked
  obtain ⟨_, _, _, _, _, _, _, resolved, _, target, _, past, _, receivingMember, _, strandedMember, _,
    strandedNode, receivingNode⟩ := checked
  refine ⟨?_, target, past, receivingMember, strandedMember, strandedNode, receivingNode⟩
  cases resolution : report.resolution with
  | unresolved => exact absurd resolution resolved
  | signatureAndMembershipVerifiedByCaller => rfl

theorem checkOwner_eq_ok {owners : List (String × String)} {done : Unit}
    (checked : checkOwner report owners = .ok done) :
    ∀ member, (report.reporterNodeId, member) ∈ owners → member = report.reporterMemberId := by
  induction owners with
  | nil => simp
  | cons owner rest ih =>
      rcases owner with ⟨node, owner⟩
      intro member listed
      unfold checkOwner at checked
      rcases List.mem_cons.mp listed with first | later
      · obtain ⟨rfl, rfl⟩ := Prod.mk.inj first
        rw [if_neg (not_not_intro rfl)] at checked
        split at checked
        · next same => exact compareIdentity_eq_same.mp same
        · cases checked
        · cases checked
      · split at checked
        · exact ih checked member later
        · split at checked
          · exact ih checked member later
          · cases checked
          · cases checked

/-- What the tally says of the reports it was made of. -/
structure TallyOf (request : ReassignmentRequest) (seen : List NeighborUnreachableReport)
    (tally : ReportTally) : Prop where
  honest : ∀ report ∈ seen, HonestReport request report
  counted : ∀ node, node ∈ tally.distinctReporterNodes ↔
    ∃ report ∈ seen, report.reporterNodeId = node
  owners : ∀ node member, (node, member) ∈ tally.nodeOwner ↔
    ∃ report ∈ seen, report.reporterNodeId = node ∧ report.reporterMemberId = member
  apart : ∀ node ∈ tally.distinctReporterNodes, ∀ other ∈ tally.distinctReporterNodes,
    node ≠ other → eqIgnoreAsciiCase node other = false
  oneOwner : ∀ report ∈ seen, ∀ other ∈ seen, report.reporterNodeId = other.reporterNodeId →
    report.reporterMemberId = other.reporterMemberId

theorem TallyOf.empty (request : ReassignmentRequest) : TallyOf request [] ⟨∅, []⟩ := by
  constructor <;> simp

theorem eqIgnoreAsciiCase_comm (left right : String) :
    eqIgnoreAsciiCase left right = eqIgnoreAsciiCase right left := by
  simp [eqIgnoreAsciiCase, eq_comm]

theorem TallyOf.tallyReport (tallied : TallyOf request seen tally)
    (done : Scheduler.tallyReport request tally report = .ok next) :
    TallyOf request (seen ++ [report]) next := by
  simp only [Scheduler.tallyReport, Except.bind_eq_ok, Except.ok.injEq] at done
  obtain ⟨_, checked, _, unlike, _, owned, rfl⟩ := done
  rw [refuseAlike_eq_ok] at unlike
  have unlikeSeen : ∀ node ∈ tally.distinctReporterNodes, node ≠ report.reporterNodeId →
      eqIgnoreAsciiCase node report.reporterNodeId = false := fun node member =>
    unlike node (Std.ExtTreeSet.mem_toList.mpr member)
  have sameOwner : ∀ other ∈ seen, other.reporterNodeId = report.reporterNodeId →
      other.reporterMemberId = report.reporterMemberId := fun other member same =>
    checkOwner_eq_ok owned _ ((tallied.owners _ _).mpr ⟨other, member, same, rfl⟩)
  constructor
  case honest =>
    intro other member
    rcases List.mem_append.mp member with before | last
    · exact tallied.honest other before
    · obtain rfl := List.mem_singleton.mp last
      exact checkReport_eq_ok checked
  case counted =>
    intro node
    simp [tallied.counted, or_and_right, exists_or, or_comm]
  case owners =>
    intro node member
    simp [tallied.owners, or_and_right, exists_or, eq_comm]
  case apart =>
    intro node member other otherMember different
    simp only [Std.ExtTreeSet.mem_insert, compare_eq_iff_eq] at member otherMember
    rcases member with rfl | before
    · rcases otherMember with same | otherBefore
      · exact absurd same different
      · rw [eqIgnoreAsciiCase_comm]
        exact unlikeSeen other otherBefore different.symm
    · rcases otherMember with rfl | otherBefore
      · exact unlikeSeen node before different
      · exact tallied.apart node before other otherBefore different
  case oneOwner =>
    intro first member second otherMember same
    rcases List.mem_append.mp member with before | last
    · rcases List.mem_append.mp otherMember with otherBefore | otherLast
      · exact tallied.oneOwner first before second otherBefore same
      · obtain rfl := List.mem_singleton.mp otherLast
        exact sameOwner first before same
    · obtain rfl := List.mem_singleton.mp last
      rcases List.mem_append.mp otherMember with otherBefore | otherLast
      · exact (sameOwner second otherBefore same.symm).symm
      · rw [List.mem_singleton.mp otherLast]

theorem TallyOf.foldlM (tallied : TallyOf request seen tally)
    (done : reports.foldlM (Scheduler.tallyReport request) tally = .ok next) :
    TallyOf request (seen ++ reports) next := by
  induction reports generalizing seen tally with
  | nil =>
      obtain rfl := Except.pure_eq_ok.mp done
      simpa using tallied
  | cons report rest ih =>
      rw [List.foldlM_cons, Except.bind_eq_ok] at done
      obtain ⟨after, first, others⟩ := done
      have whole := ih (tallied.tallyReport first) others
      rwa [List.append_assoc, List.singleton_append] at whole

end Tally

/-- Enough machines that said so, that nobody can take for one another and that gain nothing by it. -/
structure Quorum (request : ReassignmentRequest) (required : Nat) (nodes : List String) : Prop where
  enough : required ≤ nodes.length
  apart : nodes.Pairwise fun node other => eqIgnoreAsciiCase node other = false
  reported : ∀ node ∈ nodes, ∃ report ∈ request.neighborReports, report.reporterNodeId = node
  honest : ∀ report ∈ request.neighborReports, HonestReport request report
  oneOwner : ∀ report ∈ request.neighborReports, ∀ other ∈ request.neighborReports,
    report.reporterNodeId = other.reporterNodeId → report.reporterMemberId = other.reporterMemberId

section Grant

variable {request : ReassignmentRequest} {policy : ReassignmentPolicy} {fenceEpoch : UInt64}

theorem unmetIf_eq_nil {fails : Prop} [Decidable fails] {condition : UnmetCondition} :
    unmetIf fails condition = [] ↔ ¬ fails := by
  unfold unmetIf
  split <;> simp_all

/-- A number above all that were seen is above the original one and above each that was used. -/
theorem highestSeen_lt (above : highestSeen request < fenceEpoch) :
    request.originalFenceEpoch < fenceEpoch ∧
      ∀ used ∈ request.reservedFenceRange.alreadyUsed, used < fenceEpoch := by
  obtain ⟨original, others⟩ := UInt64.le_foldl_max request.reservedFenceRange.alreadyUsed.toList
    request.originalFenceEpoch
  exact ⟨UInt64.lt_of_le_of_lt original above, fun used member =>
    UInt64.lt_of_le_of_lt (others used (Std.ExtTreeSet.mem_toList.mpr member)) above⟩

/-- What is granted is the number that was asked for: inside the range, and above every number that was
seen. -/
theorem evaluateReassignment_eq_allowed
    (granted : evaluateReassignment request policy = .ok (.allowed fenceEpoch)) :
    (request.reservedFenceRange.first ≤ fenceEpoch ∧ fenceEpoch ≤ request.reservedFenceRange.last) ∧
    request.originalFenceEpoch < fenceEpoch ∧
    (∀ used ∈ request.reservedFenceRange.alreadyUsed, used < fenceEpoch) ∧
    ∃ nodes, Quorum request (requiredReports policy request.model).toNat nodes := by
  simp only [evaluateReassignment, Except.bind_eq_ok] at granted
  obtain ⟨_, _, _, _, _, _, _, _, tally, tallied, granted⟩ := granted
  split at granted
  case h_2 => cases granted
  next met =>
  obtain rfl := ReassignmentDecision.allowed.inj (Except.ok.inj granted)
  simp only [unmetConditions, List.append_eq_nil_iff, unmetIf_eq_nil, not_or, UInt64.not_lt, not_lt,
    UInt64.not_le] at met
  obtain ⟨⟨⟨⟨⟨⟨⟨_, enough⟩, _⟩, inside⟩, _⟩, above⟩, _⟩, _⟩ := met
  have counts := (TallyOf.empty request).foldlM tallied
  rw [List.nil_append] at counts
  refine ⟨inside, (highestSeen_lt above).1, (highestSeen_lt above).2,
    tally.distinctReporterNodes.toList, ?_⟩
  constructor
  case enough => rwa [Std.ExtTreeSet.length_toList]
  case apart =>
    refine Std.ExtTreeSet.distinct_toList.imp_of_mem fun member otherMember different => ?_
    exact counts.apart _ (Std.ExtTreeSet.mem_toList.mp member) _
      (Std.ExtTreeSet.mem_toList.mp otherMember) (by simpa using different)
  case reported =>
    intro node member
    obtain ⟨report, listed, same⟩ := (counts.counted node).mp (Std.ExtTreeSet.mem_toList.mp member)
    exact ⟨report, mem_sorted.mp listed, same⟩
  case honest => exact fun report listed => counts.honest report (mem_sorted.mpr listed)
  case oneOwner =>
    exact fun report listed other otherListed =>
      counts.oneOwner report (mem_sorted.mpr listed) other (mem_sorted.mpr otherListed)

end Grant

/-- A request that the gate allowed, and the number it granted. -/
structure Grant where
  request : ReassignmentRequest
  policy : ReassignmentPolicy
  fenceEpoch : UInt64
  allowed : evaluateReassignment request policy = .ok (.allowed fenceEpoch)

/-- A later request knows of a grant: it counts the number among those used, or starts above it. -/
def Grant.KnownTo (earlier later : Grant) : Prop :=
  earlier.fenceEpoch ∈ later.request.reservedFenceRange.alreadyUsed ∨
    earlier.fenceEpoch ≤ later.request.originalFenceEpoch

theorem Grant.KnownTo.lt {earlier later : Grant} (known : earlier.KnownTo later) :
    earlier.fenceEpoch < later.fenceEpoch := by
  obtain ⟨_, aboveOriginal, aboveUsed, _⟩ := evaluateReassignment_eq_allowed later.allowed
  rcases known with used | original
  · exact aboveUsed earlier.fenceEpoch used
  · exact UInt64.lt_of_le_of_lt original aboveOriginal

/-- Along a chain of grants, each known to the next, the numbers strictly increase, so none is used
twice; each lies in its range and rests on a quorum. -/
theorem grants_increase (grants : List Grant) (chained : grants.IsChain Grant.KnownTo) :
    (grants.map (·.fenceEpoch)).Pairwise (· < ·) ∧ (grants.map (·.fenceEpoch)).Nodup ∧
    ∀ grant ∈ grants,
      (grant.request.reservedFenceRange.first ≤ grant.fenceEpoch ∧
        grant.fenceEpoch ≤ grant.request.reservedFenceRange.last) ∧
      grant.fenceEpoch ∉ grant.request.reservedFenceRange.alreadyUsed ∧
      grant.request.originalFenceEpoch < grant.fenceEpoch ∧
      ∃ nodes, Quorum grant.request
        (requiredReports grant.policy grant.request.model).toNat nodes := by
  have increasing : (grants.map (·.fenceEpoch)).Pairwise (· < ·) := by
    have transitive : IsTrans UInt64 (· < ·) := ⟨fun _ _ _ => UInt64.lt_trans⟩
    rw [← List.isChain_iff_pairwise, List.isChain_map]
    exact chained.imp fun _ _ known => known.lt
  refine ⟨increasing, increasing.imp fun less => ?_, fun grant _ => ?_⟩
  · exact UInt64.ne_of_lt less
  · obtain ⟨inside, original, used, quorum⟩ := evaluateReassignment_eq_allowed grant.allowed
    exact ⟨inside, fun member => UInt64.lt_irrefl _ (used _ member), original, quorum⟩

section Samples

/-- One neighbour cannot reach the stranded node. -/
def failoverRequest (alreadyUsed : List UInt64) (proposedFenceEpoch : UInt64) : ReassignmentRequest where
  jobId := "01ARZ3NDEKTSV4RRFFQ69G5FAJ"
  attemptId := "01ARZ3NDEKTSV4RRFFQ69G5FAA"
  strandedNodeId := "node-a"
  strandedMemberId := "member-a"
  receivingNodeId := "node-b"
  receivingMemberId := "member-b"
  brokerSilentForMs := 61
  originalLeaseExpiresAtUnixMs := 90
  partitionPause := .enforcedByCaller
  neighborReports :=
    [⟨"node-c", "member-c", "node-a", 95, .signatureAndMembershipVerifiedByCaller⟩]
  receivingConsent := .granted
  originalFenceEpoch := 100
  proposedFenceEpoch := proposedFenceEpoch
  reservedFenceRange :=
    { first := 101, last := 110, alreadyUsed := Std.ExtTreeSet.ofList alreadyUsed compare,
      issuance := .brokerPreSignedVerifiedByCaller,
      issuedForJobId := "01ARZ3NDEKTSV4RRFFQ69G5FAJ",
      issuedForAttemptId := "01ARZ3NDEKTSV4RRFFQ69G5FAA" }
  auditRecord := .committed "record" "01ARZ3NDEKTSV4RRFFQ69G5FAJ" "01ARZ3NDEKTSV4RRFFQ69G5FAA"
    proposedFenceEpoch
  model := .privateTeam
  nowUnixMs := 100

def failoverPolicy : ReassignmentPolicy := ⟨60, 1, 2, false⟩

def firstGrant : Grant where
  request := failoverRequest [] 103
  policy := failoverPolicy
  fenceEpoch := 103
  allowed := by decide +kernel

def secondGrant : Grant where
  request := failoverRequest [103] 104
  policy := failoverPolicy
  fenceEpoch := 104
  allowed := by decide +kernel

/-- Two grants of one range, the second after the first. -/
theorem second_grant_is_above :
    firstGrant.fenceEpoch < secondGrant.fenceEpoch ∧
    ∃ nodes, Quorum secondGrant.request 1 nodes := by
  have known : firstGrant.KnownTo secondGrant := Or.inl (by decide +kernel)
  have chained : [firstGrant, secondGrant].IsChain Grant.KnownTo := by
    simpa using known
  obtain ⟨increasing, _, grants⟩ := grants_increase _ chained
  refine ⟨?_, (grants secondGrant (by simp)).2.2.2⟩
  simpa using increasing

example : evaluateReassignment (failoverRequest [105] 104) failoverPolicy =
    .ok (.refused [.fenceEpochNotAboveHighestSeen 104 105]) := by
  decide +kernel

end Samples

end Gputeer.Scheduler
