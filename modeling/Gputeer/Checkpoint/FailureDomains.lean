import Gputeer.Checkpoint.Replicas
import Gputeer.Lib.Sorting

/-! A report on replicas counts the failure domains of the observations that nothing speaks against. It is a
partition of the observations, and hangs on nothing but which they are. -/

namespace Gputeer.Checkpoint

open DerivedOrder

section Orders

instance : Std.TransOrd ReplicaKind := inferInstanceAs (Std.TransCmp (compareOn ReplicaKind.ctorIdx))

instance : Std.TransOrd HolderValidation :=
  inferInstanceAs (Std.TransCmp (compareOn HolderValidation.ctorIdx))

instance : Std.LawfulEqOrd ReplicaKind where
  eq_of_compare {left right} same := by
    cases left <;> cases right <;> first | rfl | cases same

instance : Std.LawfulEqOrd HolderValidation where
  eq_of_compare {left right} same := by
    cases left <;> cases right <;> first | rfl | cases same

namespace FactResolution

variable {α : Type} [Ord α]

def values : FactResolution α → List α
  | .resolved value => [value]
  | .unresolved | .ambiguous => []

theorem compare_eq (left right : FactResolution α) :
    compare left right =
      compareLex (compareOn FactResolution.ctorIdx) (compareOn (@values α)) left right := by
  cases left <;> cases right <;> first
    | rfl
    | exact Ordering.then_eq.trans (Field.compare_single _ _).symm

instance [Std.TransOrd α] : Std.TransOrd (FactResolution α) := transOrd_of_eq compare_eq

instance [Std.LawfulEqOrd α] : Std.LawfulEqOrd (FactResolution α) where
  compare_self {fact} := by
    cases fact with
    | resolved value => exact Ordering.then_eq.trans Std.ReflCmp.compare_self
    | unresolved => rfl
    | ambiguous => rfl
  eq_of_compare {left right} same := by
    cases left <;> cases right <;> first
      | rfl
      | cases same
      | exact congrArg resolved (Std.LawfulEqCmp.eq_of_compare (Ordering.then_eq.symm.trans same))

end FactResolution

namespace ResolvedHolderObservation

theorem compare_eq (left right : ResolvedHolderObservation) :
    compare left right = compareLex (compareOn checkpointId) (compareLex (compareOn rootDigest)
      (compareLex (compareOn holderDeviceId) (compareLex (compareOn ackedAtUnixMs)
        (compareLex (compareOn kind) (compareLex (compareOn selected)
          (compareLex (compareOn holderValidation) (compareLex (compareOn isEphemeral)
            (compareOn failureDomain)))))))) left right := by
  change instOrdResolvedHolderObservation.ord left right = _
  simp only [instOrdResolvedHolderObservation.ord, Ordering.then_eq]
  rfl

instance : Std.TransOrd ResolvedHolderObservation := transOrd_of_eq compare_eq

instance : Std.LawfulEqOrd ResolvedHolderObservation where
  eq_of_compare {left right} same := by
    rw [compare_eq] at same
    simp only [compareLex, compareOn, Ordering.then_eq_eq] at same
    obtain ⟨checkpoint, root, holder, acked, kind, selected, validation, ephemeral, domain⟩ := same
    cases left
    cases right
    rw [mk.injEq]
    exact ⟨Std.LawfulEqCmp.eq_of_compare checkpoint, Std.LawfulEqCmp.eq_of_compare root,
      Std.LawfulEqCmp.eq_of_compare holder, Std.LawfulEqCmp.eq_of_compare acked,
      Std.LawfulEqCmp.eq_of_compare kind, Std.LawfulEqCmp.eq_of_compare selected,
      Std.LawfulEqCmp.eq_of_compare validation, Std.LawfulEqCmp.eq_of_compare ephemeral,
      Std.LawfulEqCmp.eq_of_compare domain⟩

end ResolvedHolderObservation

end Orders

section Validation

variable {observations others : List ResolvedHolderObservation}

theorem inOrder_eq_of_perm {α : Type} [Ord α] [Std.TransOrd α] [Std.LawfulEqOrd α] {items others : List α}
    (same : items.Perm others) : inOrder items = inOrder others :=
  same.mergeSort_isLE

theorem inOrder_perm {α : Type} [Ord α] (items : List α) : (inOrder items).Perm items :=
  List.mergeSort_perm _ _

instance : Std.TransCmp orderHolderTime := inferInstanceAs (Std.TransCmp (compareLex _ _))

instance : Std.LawfulEqCmp orderHolderTime where
  compare_self := Std.ReflCmp.compare_self
  eq_of_compare {left right} same := by
    simp only [orderHolderTime, compareLex, compareOn, Ordering.then_eq_eq] at same
    exact Prod.ext (Std.LawfulEqCmp.eq_of_compare same.1) (Std.LawfulEqCmp.eq_of_compare same.2)

theorem selectedByHolder_eq_of_perm (same : observations.Perm others) :
    selectedByHolder observations = selectedByHolder others :=
  ((same.filter _).map _).foldl_eq _

theorem validateObservations_eq_of_perm (same : observations.Perm others) :
    validateObservations observations = validateObservations others := by
  have domains : ((observations.filterMap emptyDomain).mergeSort fun left right =>
        (orderHolderTime left right).isLE) =
      (others.filterMap emptyDomain).mergeSort fun left right => (orderHolderTime left right).isLE :=
    (same.filterMap emptyDomain).mergeSort_isLE
  have scopes : Std.ExtTreeSet.ofList (observations.map (·.scope)) compare =
      Std.ExtTreeSet.ofList (others.map (·.scope)) compare := by
    apply Std.ExtTreeSet.ext_mem
    intro scope
    simp [same.mem_iff]
  simp only [validateObservations, same.any_eq, domains, scopes, selectedByHolder_eq_of_perm same]

/-- Valid observations are of one scope. -/
theorem scope_eq_of_validated {done : Unit} (validated : validateObservations observations = .ok done)
    {one other : ResolvedHolderObservation} (listed : one ∈ observations) (alsoListed : other ∈ observations) :
    one.scope = other.scope := by
  simp only [validateObservations, Except.bind_eq_ok] at validated
  obtain ⟨_, _, _, _, _, _, validated⟩ := validated
  split at validated
  · cases validated
  · simp only [Except.bind_eq_ok, Except.ensure_eq_ok] at validated
    obtain ⟨_, single, _⟩ := validated
    rw [← Std.ExtTreeSet.length_toList, not_lt] at single
    have among : ∀ observation ∈ observations, observation.scope ∈
        (Std.ExtTreeSet.ofList (observations.map (·.scope)) compare).toList := by
      intro observation member
      simpa using ⟨observation, member, rfl⟩
    generalize (Std.ExtTreeSet.ofList (observations.map (·.scope)) compare).toList = scopes at single among
    cases scopes with
    | nil => exact absurd (among one listed) List.not_mem_nil
    | cons first rest =>
        obtain rfl : rest = [] := by simpa using single
        exact (List.mem_singleton.mp (among one listed)).trans
          (List.mem_singleton.mp (among other alsoListed)).symm

/-- The first observation speaks for all. -/
theorem head?_scope_eq_of_perm {done : Unit} (validated : validateObservations observations = .ok done)
    (same : observations.Perm others) :
    observations.head?.map (·.scope) = others.head?.map (·.scope) := by
  cases observations with
  | nil => rw [List.nil_perm.mp same]
  | cons one rest =>
      cases others with
      | nil => exact absurd same.length_eq (Nat.succ_ne_zero _)
      | cons other others =>
          have alsoListed : other ∈ one :: rest := same.mem_iff.mpr List.mem_cons_self
          exact congrArg some (scope_eq_of_validated validated List.mem_cons_self alsoListed)

end Validation

section Report

variable {observations others : List ResolvedHolderObservation} {required : Durability}

/-- The report, or the error, does not hang on the order of the observations. -/
theorem evaluateEffectiveReplicas_eq_of_perm (same : observations.Perm others) :
    evaluateEffectiveReplicas others required = evaluateEffectiveReplicas observations required := by
  have selected : inOrder (others.filter (·.selected)) = inOrder (observations.filter (·.selected)) :=
    inOrder_eq_of_perm (same.symm.filter _)
  have superseded : inOrder (others.filter fun observation => ¬ observation.selected) =
      inOrder (observations.filter fun observation => ¬ observation.selected) :=
    inOrder_eq_of_perm (same.symm.filter _)
  unfold evaluateEffectiveReplicas
  rw [selected, superseded, ← validateObservations_eq_of_perm same]
  cases validated : validateObservations observations with
  | error fault => rfl
  | ok done => rw [head?_scope_eq_of_perm validated same]

/-- The failure domain of an observation that nothing speaks against. -/
def effectiveDomain (observation : ResolvedHolderObservation) : Option String :=
  if observation.selected ∧ exclusionReasons observation = [] then
    match observation.failureDomain with
    | .resolved failureDomain => some failureDomain
    | _ => none
  else none

/-- The failure domains of the selected observations that nothing speaks against. -/
def effectiveDomains (observations : List ResolvedHolderObservation) : Finset String :=
  (observations.filterMap effectiveDomain).toFinset

/-- An observation with its failure domain, if nothing speaks against it. -/
def candidateOf (observation : ResolvedHolderObservation) :
    Option (String × ResolvedHolderObservation) :=
  (effectiveDomain observation).map fun failureDomain => (failureDomain, observation)

theorem reasons_eq_nil {observation : ResolvedHolderObservation} :
    (inOrder (exclusionReasons observation)).eraseReps = [] ↔ exclusionReasons observation = [] := by
  rw [List.eraseReps_eq_destutter, List.destutter_eq_nil, ← List.length_eq_zero_iff,
    (inOrder_perm _).length_eq, List.length_eq_zero_iff]

/-- An observation that nothing speaks against has a failure domain. -/
theorem resolved_of_reasons_eq_nil {observation : ResolvedHolderObservation}
    (free : exclusionReasons observation = []) :
    ∃ failureDomain, observation.failureDomain = .resolved failureDomain := by
  rw [exclusionReasons, List.append_eq_nil_iff] at free
  cases domain : observation.failureDomain with
  | resolved failureDomain => exact ⟨failureDomain, rfl⟩
  | unresolved => simp [domainReasons, domain] at free
  | ambiguous => simp [domainReasons, domain] at free

/-- What the first loop has found in the observations so far. -/
structure Sorts (found : Candidates) (seen : List ResolvedHolderObservation) : Prop where
  groups : Table.Groups found.byDomain (seen.filterMap candidateOf)
  excluded : found.excluded.map (·.observation) =
    seen.filter fun observation => (effectiveDomain observation).isNone

theorem Sorts.sortCandidate {found : Candidates} {seen : List ResolvedHolderObservation}
    {observation : ResolvedHolderObservation} (sorts : Sorts found seen)
    (isSelected : observation.selected = true) :
    ∃ next, Checkpoint.sortCandidate found observation = .ok next ∧ Sorts next (seen ++ [observation]) := by
  by_cases free : exclusionReasons observation = []
  · obtain ⟨failureDomain, domain⟩ := resolved_of_reasons_eq_nil free
    have effective : effectiveDomain observation = some failureDomain := by
      rw [effectiveDomain, if_pos ⟨isSelected, free⟩, domain]
    refine ⟨{ found with byDomain := found.byDomain.push failureDomain observation }, ?_, ?_⟩
    · rw [Checkpoint.sortCandidate, reasons_eq_nil.mpr free, domain]
    · constructor
      · rw [List.filterMap_append]
        have single : [observation].filterMap candidateOf = [(failureDomain, observation)] := by
          simp [candidateOf, effective]
        rw [single]
        exact sorts.groups.push
      · rw [List.filter_append, ← sorts.excluded]
        simp [effective]
  · have ineffective : effectiveDomain observation = none := by
      rw [effectiveDomain, if_neg fun both => free both.2]
    have reasons := mt reasons_eq_nil.mp free
    refine ⟨{ found with excluded := found.excluded ++
      [⟨observation, (inOrder (exclusionReasons observation)).eraseReps⟩] }, ?_, ?_⟩
    · unfold Checkpoint.sortCandidate
      split
      · next none => exact absurd none reasons
      · rfl
    · constructor
      · rw [List.filterMap_append]
        have none : [observation].filterMap candidateOf = [] := by simp [candidateOf, ineffective]
        rw [none, List.append_nil]
        exact sorts.groups
      · rw [List.filter_append, ← sorts.excluded]
        simp [ineffective]

theorem Sorts.foldlM {found : Candidates} {seen rest : List ResolvedHolderObservation}
    (sorts : Sorts found seen) (selected : ∀ observation ∈ rest, observation.selected = true) :
    ∃ next, rest.foldlM Checkpoint.sortCandidate found = .ok next ∧ Sorts next (seen ++ rest) := by
  induction rest generalizing found seen with
  | nil => exact ⟨found, rfl, by rwa [List.append_nil]⟩
  | cons observation rest ih =>
      rw [List.forall_mem_cons] at selected
      obtain ⟨next, done, nextSorts⟩ := sorts.sortCandidate selected.1
      obtain ⟨last, others, lastSorts⟩ := ih nextSorts selected.2
      refine ⟨last, ?_, ?_⟩
      · rw [List.foldlM_cons, done]
        exact others
      · rwa [List.append_assoc, List.singleton_append] at lastSorts

theorem countDomain_of_filled {entry : String × List ResolvedHolderObservation} (filled : entry.2 ≠ []) :
    ∃ counted duplicates, countDomain entry = .ok (counted, duplicates) ∧
      counted.failureDomain = entry.1 ∧
      (counted.observation :: duplicates.map (·.observation)).Perm entry.2 := by
  have permuted := inOrder_perm entry.2
  unfold countDomain
  cases ordered : inOrder entry.2 with
  | nil =>
      rw [ordered] at permuted
      exact absurd (List.nil_perm.mp permuted) filled
  | cons counted duplicates =>
      rw [ordered] at permuted
      refine ⟨_, _, rfl, rfl, ?_⟩
      have same : ∀ excluded : List ReplicaExclusionReason,
          (duplicates.map fun observation => ExcludedReplica.mk observation excluded).map
            (·.observation) = duplicates := by
        intro excluded
        rw [List.map_map]
        exact List.map_id' duplicates
      rwa [same]

/-- One observation of each domain counts, and the others of it are excluded. -/
theorem mapM_countDomain {entries : List (String × List ResolvedHolderObservation)}
    (filled : ∀ entry ∈ entries, entry.2 ≠ []) :
    ∃ domains, entries.mapM countDomain = .ok domains ∧
      (domains.map Prod.fst).map (·.failureDomain) = entries.map Prod.fst ∧
      ((domains.map Prod.fst).map (·.observation) ++
        (domains.flatMap Prod.snd).map (·.observation)).Perm (entries.flatMap Prod.snd) := by
  induction entries with
  | nil => exact ⟨[], rfl, rfl, .nil⟩
  | cons entry rest ih =>
      rw [List.forall_mem_cons] at filled
      obtain ⟨counted, duplicates, done, domain, permuted⟩ := countDomain_of_filled filled.1
      obtain ⟨domains, others, sameDomains, restPermuted⟩ := ih filled.2
      refine ⟨(counted, duplicates) :: domains, ?_, ?_, ?_⟩
      · rw [List.mapM_cons, done, others]
        rfl
      · simp only [List.map_cons, sameDomains, domain]
      · have swapped := List.perm_append_comm_assoc ((domains.map Prod.fst).map (·.observation))
          (duplicates.map (·.observation)) ((domains.flatMap Prod.snd).map (·.observation))
        simp only [List.map_cons, List.flatMap_cons, List.map_append, List.cons_append]
        refine (swapped.cons _).trans ?_
        rw [← List.cons_append]
        exact permuted.append restPermuted

/-- The observations in three parts, with each domain that counts counted once. -/
structure Partitions (report : EffectiveReplicaReport) (observations : List ResolvedHolderObservation) :
    Prop where
  whole : (report.counted.map (·.observation) ++ report.excluded.map (·.observation) ++
    report.superseded).Perm observations
  distinct : (report.counted.map (·.failureDomain)).Nodup
  domains : ∀ domain, domain ∈ report.counted.map (·.failureDomain) ↔
    domain ∈ effectiveDomains observations
  count : report.effectiveReplicaCount.toNat = report.counted.length

theorem filterMap_candidateOf_snd (observations : List ResolvedHolderObservation) :
    (observations.filterMap candidateOf).map Prod.snd =
      observations.filter fun observation => (effectiveDomain observation).isSome := by
  induction observations with
  | nil => rfl
  | cons observation rest ih =>
      cases effective : effectiveDomain observation with
      | none => simp [candidateOf, effective, ih]
      | some failureDomain => simp [candidateOf, effective, ih]

theorem filterMap_candidateOf_fst (observations : List ResolvedHolderObservation) :
    (observations.filterMap candidateOf).map Prod.fst = observations.filterMap effectiveDomain := by
  induction observations with
  | nil => rfl
  | cons observation rest ih =>
      cases effective : effectiveDomain observation with
      | none => simp [candidateOf, effective, ih]
      | some failureDomain => simp [candidateOf, effective, ih]

/-- The two loops always come to their end, and part the selected observations. -/
theorem loops_part (observations : List ResolvedHolderObservation) :
    ∃ found domains, (inOrder (observations.filter (·.selected))).foldlM sortCandidate ⟨∅, []⟩ = .ok found ∧
      found.byDomain.toList.mapM countDomain = .ok domains ∧
      ((domains.map Prod.fst).map (·.failureDomain)).Nodup ∧
      (∀ domain, domain ∈ (domains.map Prod.fst).map (·.failureDomain) ↔
        domain ∈ effectiveDomains observations) ∧
      ((domains.map Prod.fst).map (·.observation) ++
        (found.excluded ++ domains.flatMap Prod.snd).map (·.observation)).Perm
          (observations.filter (·.selected)) := by
  have permuted := inOrder_perm (observations.filter (·.selected))
  have isSelected : ∀ observation ∈ inOrder (observations.filter (·.selected)),
      observation.selected = true := fun observation member =>
    List.of_mem_filter (permuted.mem_iff.mp member)
  have start : Sorts ⟨∅, []⟩ [] := ⟨.empty, rfl⟩
  obtain ⟨found, sorted, sorts⟩ := start.foldlM isSelected
  rw [List.nil_append] at sorts
  obtain ⟨domains, counted, sameDomains, parts⟩ :=
    mapM_countDomain fun entry listed => (sorts.groups.rows_of_mem listed).2
  rw [Std.ExtTreeMap.map_fst_toList_eq_keys] at sameDomains
  refine ⟨found, domains, sorted, counted, ?_, fun domain => ?_, ?_⟩
  · rw [sameDomains]
    exact Std.ExtTreeMap.nodup_keys
  · rw [sameDomains, sorts.groups.mem_keys, filterMap_candidateOf_fst, effectiveDomains,
      List.mem_toFinset, List.mem_filterMap, List.mem_filterMap]
    simp only [permuted.mem_iff, List.mem_filter]
    constructor
    · rintro ⟨observation, ⟨listed, _⟩, effective⟩
      exact ⟨observation, listed, effective⟩
    · rintro ⟨observation, listed, effective⟩
      refine ⟨observation, ⟨listed, ?_⟩, effective⟩
      by_contra unselected
      simp [effectiveDomain, unselected] at effective
  · have gathered := parts.trans sorts.groups.flatMap_perm
    rw [filterMap_candidateOf_snd] at gathered
    rw [List.map_append, sorts.excluded]
    refine (List.perm_append_comm_assoc _ _ _).trans ((gathered.append_left _).trans ?_)
    refine List.perm_append_comm.trans (List.Perm.trans ?_ permuted)
    simpa using List.filter_append_perm (fun observation => (effectiveDomain observation).isSome)
      (inOrder (observations.filter (·.selected)))

/-- A report has the observations in three parts, and counts each domain once. -/
theorem partitions_of_ok {report : EffectiveReplicaReport}
    (evaluated : evaluateEffectiveReplicas observations required = .ok report) :
    Partitions report observations := by
  obtain ⟨found, domains, sorted, counted, distinct, all, parts⟩ := loops_part observations
  simp only [evaluateEffectiveReplicas, Except.bind_eq_ok, sorted, counted, Except.ok.injEq,
    exists_eq_left', Except.ensure_eq_ok] at evaluated
  obtain ⟨_, _, _, few, rfl⟩ := evaluated
  refine ⟨?_, distinct, all, ?_⟩
  · have excluded := (List.mergeSort_perm (found.excluded ++ domains.flatMap Prod.snd)
      fun left right => (orderExcluded left right).isLE).map (·.observation)
    have superseded := inOrder_perm (observations.filter fun observation => ¬ observation.selected)
    refine (((excluded.append_left _).trans parts).append superseded).trans ?_
    simpa using List.filter_append_perm (·.selected) observations
  · exact UInt32.toNat_ofNat_of_lt' few

/-- The branches that the source takes to be unreachable are never taken. -/
theorem evaluateEffectiveReplicas_ne_unreachable :
    evaluateEffectiveReplicas observations required ≠ .error .unreachable := by
  obtain ⟨found, domains, sorted, counted, _⟩ := loops_part observations
  intro panics
  simp [evaluateEffectiveReplicas, Except.bind_eq_error, sorted, counted] at panics

theorem effectiveDomains_mono {extra : ResolvedHolderObservation}
    (more : others.Perm (extra :: observations)) : effectiveDomains observations ⊆ effectiveDomains others := by
  intro domain
  simp only [effectiveDomains, List.mem_toFinset, List.mem_filterMap, more.mem_iff]
  rintro ⟨observation, listed, effective⟩
  exact ⟨observation, List.mem_cons_of_mem extra listed, effective⟩

theorem Partitions.card {report : EffectiveReplicaReport} (partitions : Partitions report observations) :
    report.effectiveReplicaCount.toNat = (effectiveDomains observations).card := by
  have same : (report.counted.map (·.failureDomain)).toFinset = effectiveDomains observations := by
    ext domain
    rw [List.mem_toFinset, partitions.domains]
  rw [← same, List.toFinset_card_of_nodup partitions.distinct, List.length_map, partitions.count]

/-- No order of the observations changes the report or the error, and no branch panics. A report counts the
failure domains of the selected observations that nothing speaks against, parts the observations in three, and
does not count less when there is one observation more. -/
theorem effective_replicas_count_failure_domains :
    (∀ others, observations.Perm others →
      evaluateEffectiveReplicas others required = evaluateEffectiveReplicas observations required) ∧
    evaluateEffectiveReplicas observations required ≠ .error .unreachable ∧
    ∀ report, evaluateEffectiveReplicas observations required = .ok report →
      report.effectiveReplicaCount.toNat = (effectiveDomains observations).card ∧
      (report.counted.map (·.observation) ++ report.excluded.map (·.observation) ++
        report.superseded).Perm observations ∧
      (report.counted.map (·.failureDomain)).Nodup ∧
      (∀ domain, domain ∈ report.counted.map (·.failureDomain) ↔
        domain ∈ effectiveDomains observations) ∧
      ∀ extra others larger, others.Perm (extra :: observations) →
        evaluateEffectiveReplicas others required = .ok larger →
        report.effectiveReplicaCount ≤ larger.effectiveReplicaCount := by
  refine ⟨fun _ => evaluateEffectiveReplicas_eq_of_perm, evaluateEffectiveReplicas_ne_unreachable, ?_⟩
  intro report evaluated
  have partitions := partitions_of_ok evaluated
  refine ⟨partitions.card, partitions.whole, partitions.distinct, partitions.domains, ?_⟩
  intro extra others larger more evaluatedMore
  rw [UInt32.le_iff_toNat_le, partitions.card, (partitions_of_ok evaluatedMore).card]
  exact Finset.card_le_card (effectiveDomains_mono more)

end Report

end Gputeer.Checkpoint
