import Gputeer.Lib.Sorting
import Gputeer.Lib.DerivedOrder
import Gputeer.Scheduler.Liveness

/-! The news of the nodes does not hang on the order in which heartbeats came, and no node becomes fresher as
time goes by. -/

namespace Gputeer.Scheduler

open Text

variable {observations : List HeartbeatObservation} {knownNodes : List String} {policy : LivenessPolicy}
  {nowUnixMs : UInt64}

section Order

namespace HeartbeatObservation

theorem order_eq : HeartbeatObservation.order = compareLex (compareOn nodeId)
    (compareLex (compareOn deviceId) (compareLex (compareOn issuedAtUnixMs)
      (compareLex (compareOn fenceEpoch) (compareOn runningAttempts)))) := rfl

instance : Std.TransCmp order := by
  rw [order_eq]
  infer_instance

instance : Std.LawfulEqCmp order where
  compare_self := Std.ReflCmp.compare_self
  eq_of_compare {left right} same := by
    simp only [order, Ordering.then_eq_eq] at same
    obtain ⟨node, device, issued, epoch, attempts⟩ := same
    cases left
    cases right
    rw [mk.injEq]
    exact ⟨Std.LawfulEqCmp.eq_of_compare node, Std.LawfulEqCmp.eq_of_compare device,
      Std.LawfulEqCmp.eq_of_compare issued, Std.LawfulEqCmp.eq_of_compare epoch,
      Std.LawfulEqCmp.eq_of_compare attempts⟩

end HeartbeatObservation

variable {otherObservations : List HeartbeatObservation} {otherNodes : List String}

/-- What is reported is the same, and so is the error. -/
theorem classifyNodeLiveness_eq_of_perm (same : observations.Perm otherObservations)
    (sameNodes : knownNodes.Perm otherNodes) :
    classifyNodeLiveness otherObservations otherNodes policy nowUnixMs =
      classifyNodeLiveness observations knownNodes policy nowUnixMs := by
  have sorted : (otherObservations.mergeSort fun left right => (left.order right).isLE) =
      observations.mergeSort fun left right => (left.order right).isLE :=
    same.symm.mergeSort_isLE
  have all : ∀ heard : List String, Std.ExtTreeSet.ofList (heard ++ otherNodes) compare =
      Std.ExtTreeSet.ofList (heard ++ knownNodes) compare := by
    intro heard
    apply Std.ExtTreeSet.ext_mem
    intro nodeId
    simp [sameNodes.mem_iff]
  have filled : (∀ nodeId ∈ otherNodes, isBlank nodeId = false) ↔
      ∀ nodeId ∈ knownNodes, isBlank nodeId = false := by
    simp only [sameNodes.mem_iff]
  simp only [classifyNodeLiveness, sorted, all, filled]

end Order

section Reports

variable {later : UInt64} {reports : List NodeLivenessReport}

/-- No observation of the node ranks above the one that is selected for it. -/
def Newest (observations : List HeartbeatObservation) (nodeId : String) :
    Option HeartbeatObservation → Prop
  | none => ∀ observation ∈ observations, observation.nodeId ≠ nodeId
  | some newest => newest ∈ observations ∧ newest.nodeId = nodeId ∧
      ∀ observation ∈ observations, observation.nodeId = nodeId → ¬ newest.RanksBelow observation

theorem SelectsLatest.newest {selected : Table String HeartbeatObservation}
    (latest : SelectsLatest selected observations) (nodeId : String) :
    Newest observations nodeId selected[nodeId]? := by
  cases found : selected[nodeId]? with
  | none =>
      rintro observation member rfl
      obtain ⟨_, there, _⟩ := latest.latest observation member
      simp [found] at there
  | some newest =>
      obtain ⟨member, same⟩ := latest.origin nodeId newest found
      refine ⟨member, same, ?_⟩
      rintro observation listed rfl
      obtain ⟨other, there, above⟩ := latest.latest observation listed
      obtain rfl := Option.some.inj (found.symm.trans there)
      exact above

/-- The nodes in their order, with what is selected for each, whatever the time is. -/
structure Classified (observations : List HeartbeatObservation) (knownNodes nodeIds : List String)
    (selected : Table String HeartbeatObservation) : Prop where
  latest : SelectsLatest selected observations
  ascending : nodeIds.Pairwise (· < ·)
  listed : ∀ nodeId : String, nodeId ∈ nodeIds ↔ selected[nodeId]? ≠ none ∨ nodeId ∈ knownNodes

/-- Only the bands hang on the time. -/
theorem classifyNodeLiveness_eq_map
    (classified : classifyNodeLiveness observations knownNodes policy nowUnixMs = .ok reports) :
    ∃ nodeIds selected, Classified observations knownNodes nodeIds selected ∧
      ∀ time, classifyNodeLiveness observations knownNodes policy time =
        .ok (nodeIds.map fun nodeId => reportOf policy time nodeId selected[nodeId]?) := by
  simp only [classifyNodeLiveness, Except.bind_eq_ok, Except.ensure_eq_ok, Except.ok.injEq] at classified
  obtain ⟨_, ordered, selected, selects, _, filled, rfl⟩ := classified
  refine ⟨_, selected, ⟨selectLatest_sorted selects, ?_, fun _ => mem_heardOrKnown⟩, fun time => ?_⟩
  · exact Std.ExtTreeSet.ordered_toList.imp fun below =>
      (DerivedOrder.compare_eq_lt_text _ _).mp below
  · simp only [classifyNodeLiveness, Except.bind_eq_ok, Except.ensure_eq_ok]
    exact ⟨(), ordered, selected, selects, (), filled, rfl⟩

/-- A node is not fresher after a longer silence. -/
theorem bandOf_le {silence longer : UInt64} (grows : silence ≤ longer) :
    (compare (bandOf policy silence) (bandOf policy longer)).isLE := by
  by_cases live : silence ≤ policy.liveWithinMs
  · rw [bandOf, if_pos live]
    cases bandOf policy longer <;> rfl
  · have late : ¬ longer ≤ policy.liveWithinMs := fun early => live (UInt64.le_trans grows early)
    by_cases suspect : silence < policy.silentAfterMs
    · rw [bandOf, if_neg live, if_pos suspect, bandOf, if_neg late]
      split <;> rfl
    · have silent : ¬ longer < policy.silentAfterMs := fun early =>
        suspect (UInt64.lt_of_le_of_lt grows early)
      rw [bandOf, if_neg live, if_neg suspect, bandOf, if_neg late, if_neg silent]
      rfl

/-- The same node with the same observation, and no fresher. -/
structure NoFresher (report laterReport : NodeLivenessReport) : Prop where
  nodeId : laterReport.nodeId = report.nodeId
  selected : laterReport.selected = report.selected
  liveness : (compare report.liveness laterReport.liveness).isLE

theorem reportOf_noFresher {nodeId : String} {selected : Option HeartbeatObservation}
    (passes : nowUnixMs ≤ later) :
    NoFresher (reportOf policy nowUnixMs nodeId selected) (reportOf policy later nodeId selected) := by
  cases selected with
  | none => exact ⟨rfl, rfl, rfl⟩
  | some observation =>
      refine ⟨rfl, rfl, bandOf_le ?_⟩
      rw [UInt64.le_iff_toNat_le] at passes ⊢
      rw [UInt64.toNat_saturatingSub, UInt64.toNat_saturatingSub]
      omega

/-- No listing of the heartbeats or of the known nodes changes the report or the error. Every node that is
known or was heard is reported once, in the order of the nodes, with the newest that was heard of it, and is no
fresher at a later time. -/
theorem node_liveness_is_order_free_and_monotone :
    (∀ otherObservations otherNodes, observations.Perm otherObservations → knownNodes.Perm otherNodes →
      classifyNodeLiveness otherObservations otherNodes policy nowUnixMs =
        classifyNodeLiveness observations knownNodes policy nowUnixMs) ∧
    ∀ reports, classifyNodeLiveness observations knownNodes policy nowUnixMs = .ok reports →
      (reports.map (·.nodeId)).Pairwise (· < ·) ∧
      (∀ nodeId, nodeId ∈ reports.map (·.nodeId) ↔
        (∃ observation ∈ observations, observation.nodeId = nodeId) ∨ nodeId ∈ knownNodes) ∧
      (∀ report ∈ reports, Newest observations report.nodeId report.selected) ∧
      ∀ later laterReports, nowUnixMs ≤ later →
        classifyNodeLiveness observations knownNodes policy later = .ok laterReports →
        List.Forall₂ NoFresher reports laterReports := by
  refine ⟨fun _ _ => classifyNodeLiveness_eq_of_perm, fun reports classified => ?_⟩
  obtain ⟨nodeIds, selected, found, always⟩ := classifyNodeLiveness_eq_map classified
  obtain rfl := Except.ok.inj (classified.symm.trans (always nowUnixMs))
  have named : ∀ time nodeId, (reportOf policy time nodeId selected[nodeId]?).nodeId = nodeId ∧
      (reportOf policy time nodeId selected[nodeId]?).selected = selected[nodeId]? := by
    intro time nodeId
    cases selected[nodeId]? <;> exact ⟨rfl, rfl⟩
  have ids : (nodeIds.map fun nodeId => reportOf policy nowUnixMs nodeId selected[nodeId]?).map
      (·.nodeId) = nodeIds := by
    rw [List.map_map]
    exact List.map_id'' (fun nodeId => (named nowUnixMs nodeId).1) nodeIds
  refine ⟨?_, fun nodeId => ?_, ?_, ?_⟩
  · rw [ids]
    exact found.ascending
  · rw [ids, found.listed]
    refine or_congr_left ?_
    have newest := found.latest.newest nodeId
    cases heard : selected[nodeId]? with
    | none =>
        rw [heard] at newest
        simpa [Newest] using newest
    | some last =>
        rw [heard] at newest
        simpa using ⟨last, newest.1, newest.2.1⟩
  · rintro report member
    obtain ⟨nodeId, _, rfl⟩ := List.mem_map.mp member
    obtain ⟨sameNode, sameSelected⟩ := named nowUnixMs nodeId
    rw [sameNode, sameSelected]
    exact found.latest.newest nodeId
  · intro later laterReports passes afterwards
    obtain rfl := Except.ok.inj (afterwards.symm.trans (always later))
    rw [List.forall₂_map_left_iff, List.forall₂_map_right_iff, List.forall₂_same]
    exact fun nodeId _ => reportOf_noFresher passes

end Reports

end Gputeer.Scheduler
