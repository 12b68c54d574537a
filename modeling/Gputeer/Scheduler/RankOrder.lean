import Gputeer.Scheduler.LeastWaste

/-! Best fit ranks by a strict total order, and the ranking does not show how anything was listed. -/

namespace Gputeer.Scheduler

open DerivedOrder

variable {policy : BestFitPolicy} {pool other : PoolSnapshot} {report otherReport : EligibilityReport}

section Comparison

/-- What two candidates leave over on one axis. -/
def axisOrder (axis : FitAxis) (left right : RankedCandidate) : Ordering :=
  compareAxis left.fitKey right.fitKey axis

theorem axisOrder_transCmp (axis : FitAxis) : Std.TransCmp (axisOrder axis) := by
  cases axis with
  | vram =>
      exact inferInstanceAs (Std.TransCmp
        (compareOn fun ranked : RankedCandidate => ranked.fitKey.vramRemainingBytes))
  | gpuCount =>
      exact inferInstanceAs (Std.TransCmp
        (compareOn fun ranked : RankedCandidate => ranked.fitKey.gpuCountRemaining))
  | cpu =>
      exact inferInstanceAs (Std.TransCmp
        (compareOn fun ranked : RankedCandidate => ranked.fitKey.cpuCoresRemaining))
  | ram =>
      exact inferInstanceAs (Std.TransCmp
        (compareOn fun ranked : RankedCandidate => ranked.fitKey.ramRemainingBytes))
  | workspace =>
      exact inferInstanceAs (Std.TransCmp
        (compareOn fun ranked : RankedCandidate => ranked.fitKey.workspaceRemainingBytes))

theorem compareRanked_eq : compareRanked policy =
    compareLex (inTurn (policy.axisOrder.toList.map axisOrder)) (compareOn RankedCandidate.nodeId) := by
  funext left right
  rw [compareLex, inTurn, List.map_map]
  rfl

instance : Std.TransCmp (compareRanked policy) := by
  have axes : Std.TransCmp (inTurn (policy.axisOrder.toList.map axisOrder)) := by
    refine inTurn_transCmp fun cmp listed => ?_
    obtain ⟨axis, _, rfl⟩ := List.mem_map.mp listed
    exact axisOrder_transCmp axis
  rw [compareRanked_eq]
  infer_instance

/-- Only one node can be where another is. -/
theorem nodeId_eq_of_compareRanked {left right : RankedCandidate}
    (same : compareRanked policy left right = .eq) : left.nodeId = right.nodeId := by
  rw [compareRanked, Ordering.then_eq_eq] at same
  exact Std.LawfulEqCmp.eq_of_compare same.2

end Comparison

section Sets

theorem checkNodeIds_eq_ok {duplicate : String → RankingError} {seen ids : List String} {done : Unit} :
    checkNodeIds duplicate seen ids = .ok done ↔
      (∀ nodeId ∈ ids, nodeId ≠ "" ∧ nodeId ∉ seen) ∧ ids.Nodup := by
  induction ids generalizing seen with
  | nil => simp [checkNodeIds]
  | cons nodeId rest ih =>
      simp only [checkNodeIds, Except.bind_eq_ok, Except.ensure_eq_ok, ih, List.nodup_cons]
      constructor
      · rintro ⟨_, filled, _, unseen, others, distinct⟩
        refine ⟨List.forall_mem_cons.mpr ⟨⟨filled, unseen⟩, fun next member => ?_⟩, fun again => ?_,
          distinct⟩
        · exact ⟨(others next member).1, fun earlier =>
            (others next member).2 (List.mem_cons_of_mem _ earlier)⟩
        · exact (others nodeId again).2 List.mem_cons_self
      · rintro ⟨all, fresh, distinct⟩
        obtain ⟨⟨filled, unseen⟩, others⟩ := List.forall_mem_cons.mp all
        refine ⟨(), filled, (), unseen, fun next member => ⟨(others next member).1, fun earlier => ?_⟩,
          distinct⟩
        rcases List.mem_cons.mp earlier with rfl | before
        · exact fresh member
        · exact (others next member).2 before

def poolIds (pool : PoolSnapshot) : List String := pool.candidates.map (·.nodeId)

def reportIds (report : EligibilityReport) : List String :=
  report.eligible.map (·.nodeId) ++ report.rejected.map (·.nodeId)

/-- The pool and the report name the same nodes, each of them once. -/
structure SetsMatch (pool : PoolSnapshot) (report : EligibilityReport) : Prop where
  poolFilled : ∀ nodeId ∈ poolIds pool, nodeId ≠ ""
  poolDistinct : (poolIds pool).Nodup
  reportDistinct : (reportIds report).Nodup
  same : ∀ nodeId, nodeId ∈ poolIds pool ↔ nodeId ∈ reportIds report

theorem validateCandidateSets_eq_ok {done : Unit} :
    validateCandidateSets pool report = .ok done ↔ SetsMatch pool report := by
  change (checkNodeIds .duplicatePoolNodeId [] (poolIds pool) >>= fun _ =>
    checkNodeIds .duplicateReportNodeId [] (reportIds report) >>= fun _ => _) = .ok () ↔ _
  simp only [Except.bind_eq_ok, checkNodeIds_eq_ok, List.not_mem_nil, not_false_eq_true, and_true,
    exists_const]
  have inPool : (sorted (reportIds report)).find? (· ∉ poolIds pool) = none ↔
      ∀ nodeId ∈ reportIds report, nodeId ∈ poolIds pool := by
    simp [List.find?_eq_none]
  have inReport : (sorted (poolIds pool)).find? (· ∉ reportIds report) = none ↔
      ∀ nodeId ∈ poolIds pool, nodeId ∈ reportIds report := by
    simp [List.find?_eq_none]
  constructor
  · rintro ⟨⟨poolFilled, poolDistinct⟩, ⟨_, reportDistinct⟩, found⟩
    split at found
    · cases found
    · next reported =>
      split at found
      · cases found
      · next pooled =>
        exact ⟨poolFilled, poolDistinct, reportDistinct, fun nodeId =>
          ⟨inReport.mp pooled nodeId, inPool.mp reported nodeId⟩⟩
  · intro sets
    refine ⟨⟨sets.poolFilled, sets.poolDistinct⟩, ⟨fun nodeId member => ?_, sets.reportDistinct⟩, ?_⟩
    · exact sets.poolFilled nodeId ((sets.same nodeId).mpr member)
    · have reported := inPool.mpr fun nodeId => (sets.same nodeId).mpr
      have pooled := inReport.mpr fun nodeId => (sets.same nodeId).mp
      unfold poolIds reportIds at reported pooled
      rw [reported, pooled]

/-- The same report, with its candidates listed in another order. -/
structure SameReport (one other : EligibilityReport) : Prop where
  eligible : one.eligible.Perm other.eligible
  rejected : one.rejected.Perm other.rejected
  resolution : other.resolution = one.resolution

theorem SamePool.poolIds (same : SamePool pool other) : (poolIds pool).Perm (poolIds other) := by
  obtain ⟨ordered, permuted, paired⟩ := same.candidates
  refine (permuted.map _).trans (List.Perm.of_eq (paired.map_eq fun one two same => ?_))
  rw [same.rest]

theorem SameReport.reportIds (same : SameReport report otherReport) :
    (reportIds report).Perm (reportIds otherReport) :=
  (same.eligible.map _).append (same.rejected.map _)

theorem SetsMatch.of_same (sets : SetsMatch pool report) (samePool : SamePool pool other)
    (sameReport : SameReport report otherReport) : SetsMatch other otherReport where
  poolFilled nodeId member := sets.poolFilled nodeId (samePool.poolIds.mem_iff.mpr member)
  poolDistinct := samePool.poolIds.nodup_iff.mp sets.poolDistinct
  reportDistinct := sameReport.reportIds.nodup_iff.mp sets.reportDistinct
  same nodeId := samePool.poolIds.mem_iff.symm.trans
    ((sets.same nodeId).trans sameReport.reportIds.mem_iff)

end Sets

section Ranking

variable {job : JobRequirements} {ranking : BestFitRanking}

theorem rankCandidate_eq_ok {eligible : EligibleCandidate} {ranked : RankedCandidate} :
    rankCandidate pool job eligible = .ok ranked ↔
      ∃ candidate, pool.candidates.find? (·.nodeId = eligible.nodeId) = some candidate ∧
        resourceFit candidate job = .ok ⟨ranked.fitKey, ranked.selectedGpuIds⟩ ∧
        ranked.nodeId = eligible.nodeId := by
  simp only [rankCandidate, Except.bind_eq_ok, Except.ofOption_eq_ok, Except.ok.injEq]
  constructor
  · rintro ⟨candidate, found, fit, fits, rfl⟩
    exact ⟨candidate, found, fits, rfl⟩
  · rintro ⟨candidate, found, fits, same⟩
    exact ⟨candidate, found, _, fits, by rw [← same]⟩

theorem nodeId_of_find {nodeId : String} {candidate : CandidateSnapshot}
    (found : pool.candidates.find? (·.nodeId = nodeId) = some candidate) : candidate.nodeId = nodeId := by
  simpa using List.find?_some found

/-- Ids that are distinct find the one candidate that has them. -/
theorem find_candidate {candidate : CandidateSnapshot} (distinct : (poolIds pool).Nodup)
    (listed : candidate ∈ pool.candidates) :
    pool.candidates.find? (·.nodeId = candidate.nodeId) = some candidate := by
  cases found : pool.candidates.find? (·.nodeId = candidate.nodeId) with
  | none => exact absurd (decide_eq_true rfl) (List.find?_eq_none.mp found candidate listed)
  | some first =>
      rw [List.inj_on_of_nodup_map distinct (List.mem_of_find?_eq_some found) listed
        (nodeId_of_find found)]

theorem rankCandidate_of_same {eligible : EligibleCandidate} {ranked : RankedCandidate}
    (samePool : SamePool pool other) (distinct : (poolIds pool).Nodup)
    (done : rankCandidate pool job eligible = .ok ranked) :
    rankCandidate other job eligible = .ok ranked := by
  obtain ⟨candidate, found, fits, ofNode⟩ := rankCandidate_eq_ok.mp done
  obtain ⟨ordered, permuted, paired⟩ := samePool.candidates
  have listed := permuted.mem_iff.mp (List.mem_of_find?_eq_some found)
  obtain ⟨otherCandidate, there, same⟩ := paired.exists_right listed
  have sameId : otherCandidate.nodeId = eligible.nodeId := by
    have ofCandidate : otherCandidate.nodeId = candidate.nodeId := by rw [same.rest]
    exact ofCandidate.trans (nodeId_of_find found)
  have otherDistinct := samePool.poolIds.nodup_iff.mp distinct
  refine rankCandidate_eq_ok.mpr ⟨otherCandidate, ?_, resourceFit_of_same same fits, ofNode⟩
  rw [← sameId]
  exact find_candidate otherDistinct there

/-- The candidates from the best fit to the worst. -/
def ordered (policy : BestFitPolicy) (fits : List RankedCandidate) : List RankedCandidate :=
  fits.mergeSort fun left right => (compareRanked policy left right).isLE

theorem rankBestFit_eq_ok : rankBestFit pool job report policy = .ok ranking ↔
    policy.axisOrder.toList.Nodup ∧ report.resolution = .rankingRequired ∧
    2 ≤ report.eligible.length ∧ SetsMatch pool report ∧
    ∃ fits, report.eligible.mapM (rankCandidate pool job) = .ok fits ∧
      ranking.ranked = ordered policy fits ∧ ranking.ranked.head? = some ranking.winner := by
  simp only [rankBestFit, validatePolicy, Except.bind_eq_ok, Except.ensure_eq_ok, not_lt, exists_const,
    validateCandidateSets_eq_ok]
  refine and_congr_right fun _ => and_congr_right fun _ => and_congr_right fun _ => ?_
  refine and_congr_right fun _ => exists_congr fun fits => and_congr_right fun _ => ?_
  unfold ordered
  obtain ⟨winner, ranked⟩ := ranking
  cases fits.mergeSort fun left right => (compareRanked policy left right).isLE with
  | nil =>
      simp only [reduceCtorEq, false_iff, not_and]
      rintro rfl
      simp
  | cons best others =>
      simp only [Except.ok.injEq, BestFitRanking.mk.injEq]
      constructor
      · rintro ⟨rfl, rfl⟩
        exact ⟨rfl, rfl⟩
      · rintro ⟨rfl, isBest⟩
        exact ⟨Option.some.inj isBest, rfl⟩

theorem nodeIds_of_mapM {eligible : List EligibleCandidate} {fits : List RankedCandidate}
    (done : eligible.mapM (rankCandidate pool job) = .ok fits) :
    fits.map (·.nodeId) = eligible.map (·.nodeId) := by
  have paired := Except.mapM_eq_ok.mp done
  clear done
  induction paired with
  | nil => rfl
  | cons ranked _ ih =>
      obtain ⟨_, _, _, same⟩ := rankCandidate_eq_ok.mp ranked
      rw [List.map_cons, List.map_cons, ih, same]

theorem mapM_of_same {eligible others : List EligibleCandidate} {fits : List RankedCandidate}
    (samePool : SamePool pool other) (distinct : (poolIds pool).Nodup) (same : eligible.Perm others)
    (done : eligible.mapM (rankCandidate pool job) = .ok fits) :
    ∃ otherFits, others.mapM (rankCandidate other job) = .ok otherFits ∧ otherFits.Perm fits := by
  have paired : List.Forall₂ (fun eligible ranked => rankCandidate other job eligible = .ok ranked)
      eligible fits :=
    (Except.mapM_eq_ok.mp done).imp fun _ _ ranked => rankCandidate_of_same samePool distinct ranked
  obtain ⟨otherFits, otherPaired, permuted⟩ := List.perm_comp_forall₂ same.symm paired
  exact ⟨otherFits, Except.mapM_eq_ok.mpr otherPaired, permuted⟩

/-- Candidates that differ in their nodes have one order. -/
theorem ordered_eq_of_perm {fits others : List RankedCandidate} (same : fits.Perm others)
    (distinct : (fits.map (·.nodeId)).Nodup) : ordered policy fits = ordered policy others :=
  same.mergeSort_isLE_of_mem fun _ leftIn _ rightIn equal =>
    List.inj_on_of_nodup_map distinct leftIn rightIn (nodeId_eq_of_compareRanked equal)

theorem pairwise_ordered {fits : List RankedCandidate} (distinct : (fits.map (·.nodeId)).Nodup) :
    (ordered policy fits).Pairwise fun left right => compareRanked policy left right = .lt := by
  have ascending : (ordered policy fits).Pairwise fun left right =>
      (compareRanked policy left right).isLE := List.pairwise_mergeSort_isLE
  have different : ((ordered policy fits).map (·.nodeId)).Nodup :=
    ((List.mergeSort_perm _ _).map _).nodup_iff.mpr distinct
  rw [List.nodup_iff_pairwise_ne, List.pairwise_map] at different
  refine ascending.imp₂ (fun left right below apart => ?_) different
  cases compared : compareRanked policy left right with
  | lt => rfl
  | eq => exact absurd (nodeId_eq_of_compareRanked compared) apart
  | gt =>
      rw [compared] at below
      cases below

end Ranking

/-- The ranking lists the eligible nodes, each with its own fit, in a strict total order of which the winner
is the least, and no listing of the pool, of the report or of a node's GPUs changes it. -/
theorem best_fit_is_a_strict_total_order {pool : PoolSnapshot} {job : JobRequirements}
    {report : EligibilityReport} {policy : BestFitPolicy} {ranking : BestFitRanking}
    (done : rankBestFit pool job report policy = .ok ranking) :
    (ranking.ranked.map (·.nodeId)).Perm (report.eligible.map (·.nodeId)) ∧
    (∀ ranked ∈ ranking.ranked, ∃ candidate ∈ pool.candidates, candidate.nodeId = ranked.nodeId ∧
      resourceFit candidate job = .ok ⟨ranked.fitKey, ranked.selectedGpuIds⟩) ∧
    ranking.ranked.Pairwise (fun left right => compareRanked policy left right = .lt) ∧
    (ranking.winner ∈ ranking.ranked ∧ ∀ ranked ∈ ranking.ranked, ranked = ranking.winner ∨
      compareRanked policy ranking.winner ranked = .lt) ∧
    (∀ left right, compareRanked policy left right = (compareRanked policy right left).swap) ∧
    (∀ first second third, compareRanked policy first second = .lt →
      compareRanked policy second third = .lt → compareRanked policy first third = .lt) ∧
    (∀ left right, left.nodeId ≠ right.nodeId → compareRanked policy left right ≠ .eq) ∧
    ∀ other otherReport, SamePool pool other → SameReport report otherReport →
      rankBestFit other job otherReport policy = .ok ranking := by
  obtain ⟨axes, resolution, several, sets, fits, fitted, listed, isBest⟩ := rankBestFit_eq_ok.mp done
  have sameIds := nodeIds_of_mapM fitted
  have distinct : (fits.map (·.nodeId)).Nodup := by
    rw [sameIds]
    exact (List.nodup_append.mp sets.reportDistinct).1
  have permuted : ranking.ranked.Perm fits := by
    rw [listed]
    exact List.mergeSort_perm _ _
  have ascending : ranking.ranked.Pairwise fun left right => compareRanked policy left right = .lt := by
    rw [listed]
    exact pairwise_ordered distinct
  refine ⟨sameIds ▸ permuted.map _, ?_, ascending, ?_, fun _ _ => Std.OrientedCmp.eq_swap,
    fun _ _ _ => Std.TransCmp.lt_trans, fun _ _ apart equal => apart (nodeId_eq_of_compareRanked equal),
    ?_⟩
  · intro ranked member
    obtain ⟨eligible, _, given⟩ :=
      (Except.mapM_eq_ok.mp fitted).exists_left (permuted.mem_iff.mp member)
    obtain ⟨candidate, found, fit, same⟩ := rankCandidate_eq_ok.mp given
    exact ⟨candidate, List.mem_of_find?_eq_some found, (nodeId_of_find found).trans same.symm, fit⟩
  · obtain ⟨others, split⟩ := List.head?_eq_some_iff.mp isBest
    rw [split] at ascending ⊢
    refine ⟨List.mem_cons_self, fun ranked member => ?_⟩
    exact (List.mem_cons.mp member).imp_right ((List.pairwise_cons.mp ascending).1 ranked)
  · intro other otherReport samePool sameReport
    obtain ⟨otherFits, otherFitted, otherPermuted⟩ :=
      mapM_of_same samePool sets.poolDistinct sameReport.eligible fitted
    refine rankBestFit_eq_ok.mpr ⟨axes, sameReport.resolution.trans resolution, ?_,
      sets.of_same samePool sameReport, otherFits, otherFitted, ?_, isBest⟩
    · rwa [← sameReport.eligible.length_eq]
    · rw [listed]
      exact ordered_eq_of_perm otherPermuted.symm distinct

def twoNodes : PoolSnapshot :=
  ⟨100, [{ nodeWith [healthyGpu "gpu-0" 40] 4 with nodeId := "node-b" },
    { nodeWith [healthyGpu "gpu-0" 12] 4 with nodeId := "node-a" }]⟩

def twoEligible : EligibilityReport := ⟨[⟨"node-a"⟩, ⟨"node-b"⟩], [], .rankingRequired⟩

def memoryFirst : BestFitPolicy := ⟨#v[.vram, .ram, .gpuCount, .cpu, .workspace]⟩

/-- The node whose GPU is the tighter wins, in whatever order the two are listed. -/
theorem tighter_node_wins :
    ∃ ranking, ranking.winner.nodeId = "node-a" ∧
      rankBestFit twoNodes (jobOn 1 8) twoEligible memoryFirst = .ok ranking ∧
      ∀ other otherReport, SamePool twoNodes other → SameReport twoEligible otherReport →
        rankBestFit other (jobOn 1 8) otherReport memoryFirst = .ok ranking := by
  have fitted : twoEligible.eligible.mapM (rankCandidate twoNodes (jobOn 1 8)) =
      .ok [⟨"node-a", ⟨4, 0, 2, 8, 8⟩, ["gpu-0"]⟩, ⟨"node-b", ⟨32, 0, 2, 8, 8⟩, ["gpu-0"]⟩] := by
    decide +kernel
  have inOrder : ordered memoryFirst
      [⟨"node-a", ⟨4, 0, 2, 8, 8⟩, ["gpu-0"]⟩, ⟨"node-b", ⟨32, 0, 2, 8, 8⟩, ["gpu-0"]⟩] =
        [⟨"node-a", ⟨4, 0, 2, 8, 8⟩, ["gpu-0"]⟩, ⟨"node-b", ⟨32, 0, 2, 8, 8⟩, ["gpu-0"]⟩] :=
    List.mergeSort_of_pairwise (by decide +kernel)
  have sets : SetsMatch twoNodes twoEligible :=
    { poolFilled := by decide
      poolDistinct := by decide
      reportDistinct := by decide
      same := fun nodeId => List.Perm.mem_iff (by decide) }
  have done : rankBestFit twoNodes (jobOn 1 8) twoEligible memoryFirst =
      .ok ⟨⟨"node-a", ⟨4, 0, 2, 8, 8⟩, ["gpu-0"]⟩,
        [⟨"node-a", ⟨4, 0, 2, 8, 8⟩, ["gpu-0"]⟩, ⟨"node-b", ⟨32, 0, 2, 8, 8⟩, ["gpu-0"]⟩]⟩ :=
    rankBestFit_eq_ok.mpr ⟨by decide, rfl, by decide, sets, _, fitted, inOrder.symm, rfl⟩
  obtain ⟨_, _, _, _, _, _, _, free⟩ := best_fit_is_a_strict_total_order done
  exact ⟨_, rfl, done, free⟩

end Gputeer.Scheduler
