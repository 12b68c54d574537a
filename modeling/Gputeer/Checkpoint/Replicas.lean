import Gputeer.Lib.DerivedOrder
import Gputeer.Lib.Except
import Gputeer.Lib.Grouping
import Gputeer.Lib.Text

/-! How many replicas of a checkpoint count: at most one for each failure domain, and none of which the
holder, its kind or its domain is in doubt. What does not count is reported with the reasons. -/

namespace Gputeer.Checkpoint

open Text

inductive ReplicaKind where
  | workerLocal | submitterMirror | hub | trustedPeer | externalObjectStore
  deriving DecidableEq, Ord

/-- What an authority says about a fact that it has to resolve. -/
inductive FactResolution (α : Type) where
  | resolved (value : α)
  | unresolved | ambiguous
  deriving DecidableEq, Ord

inductive HolderValidation where
  | valid | invalidSignature | notApproved | membershipUnresolved | membershipAmbiguous
  deriving DecidableEq, Ord

structure ResolvedHolderObservation where
  checkpointId : String
  rootDigest : String
  holderDeviceId : String
  ackedAtUnixMs : UInt64
  kind : ReplicaKind
  selected : Bool
  holderValidation : HolderValidation
  isEphemeral : FactResolution Bool
  failureDomain : FactResolution String
  deriving DecidableEq, Ord

structure ReplicaEvaluationScope where
  checkpointId : String
  rootDigest : String
  deriving DecidableEq, Ord

namespace ReplicaEvaluationScope

theorem compare_eq (left right : ReplicaEvaluationScope) :
    compare left right = compareLex (compareOn checkpointId) (compareOn rootDigest) left right := by
  change instOrdReplicaEvaluationScope.ord left right = _
  simp only [instOrdReplicaEvaluationScope.ord, Ordering.then_eq]
  rfl

instance : Std.TransOrd ReplicaEvaluationScope := DerivedOrder.transOrd_of_eq compare_eq

instance : Std.LawfulEqOrd ReplicaEvaluationScope where
  eq_of_compare {left right} same := by
    rw [compare_eq] at same
    simp only [compareLex, compareOn, Ordering.then_eq_eq] at same
    cases left
    cases right
    exact congrArg₂ mk (Std.LawfulEqCmp.eq_of_compare same.1) (Std.LawfulEqCmp.eq_of_compare same.2)

end ReplicaEvaluationScope

inductive ReplicaExclusionReason where
  | invalidSignature | holderNotApproved | membershipUnresolved | membershipAmbiguous
  | ephemeralStatusUnresolved | ephemeralStatusAmbiguous
  | failureDomainUnresolved | failureDomainAmbiguous
  | ephemeralWorkerLocal
  | duplicateFailureDomain (countedHolderDeviceId : String)
  deriving DecidableEq, Ord

structure CountedReplica where
  observation : ResolvedHolderObservation
  failureDomain : String
  deriving DecidableEq

structure ExcludedReplica where
  observation : ResolvedHolderObservation
  reasons : List ReplicaExclusionReason
  deriving DecidableEq

/-- What a job demands of a checkpoint that is to be committed. -/
inductive Durability where
  | «local» | mirrored | replicated
  deriving DecidableEq

def Durability.requiredReplicas : Durability → UInt32
  | .local => 0
  | .mirrored => 1
  | .replicated => 2

structure EffectiveReplicaReport where
  scope : Option ReplicaEvaluationScope
  required : Durability
  requiredReplicaCount : UInt32
  effectiveReplicaCount : UInt32
  requirementMet : Bool
  counted : List CountedReplica
  excluded : List ExcludedReplica
  superseded : List ResolvedHolderObservation
  deriving DecidableEq

inductive ReplicaEvaluationError where
  | emptyCheckpointId | emptyRootDigest | emptyHolderDeviceId
  | emptyFailureDomain (holderDeviceId : String) (ackedAtUnixMs : UInt64)
  | mixedEvaluationScope (scopes : List ReplicaEvaluationScope)
  | multipleSelectedObservations (holderDeviceId : String) (selected : Nat)
  | replicaCountOverflow
  deriving DecidableEq

/-- An error that is returned, or a panic. -/
inductive ReplicaEvaluationFault where
  | error (error : ReplicaEvaluationError)
  | unreachable
  deriving DecidableEq

section Sorting

def inOrder {α : Type} [Ord α] (items : List α) : List α :=
  items.mergeSort fun left right => (compare left right).isLE

end Sorting

section Validation

def ResolvedHolderObservation.scope (observation : ResolvedHolderObservation) : ReplicaEvaluationScope :=
  ⟨observation.checkpointId, observation.rootDigest⟩

/-- The holder and the time of an observation that names a blank domain. -/
def emptyDomain (observation : ResolvedHolderObservation) : Option (String × UInt64) :=
  match observation.failureDomain with
  | .resolved domain =>
      if isBlank domain then some (observation.holderDeviceId, observation.ackedAtUnixMs) else none
  | _ => none

def orderHolderTime : String × UInt64 → String × UInt64 → Ordering :=
  compareLex (compareOn Prod.fst) (compareOn Prod.snd)

/-- How many observations are selected for each holder. -/
def selectedByHolder (observations : List ResolvedHolderObservation) : Table String Nat :=
  ((observations.filter (·.selected)).map (·.holderDeviceId)).foldl Table.bump ∅

def validateObservations (observations : List ResolvedHolderObservation) :
    Except ReplicaEvaluationError Unit := do
  Except.ensure (observations.any (isBlank ·.checkpointId) = false) .emptyCheckpointId
  Except.ensure (observations.any (isBlank ·.rootDigest) = false) .emptyRootDigest
  Except.ensure (observations.any (isBlank ·.holderDeviceId) = false) .emptyHolderDeviceId
  match ((observations.filterMap emptyDomain).mergeSort fun left right =>
      (orderHolderTime left right).isLE).head? with
  | some (holderDeviceId, ackedAtUnixMs) => .error (.emptyFailureDomain holderDeviceId ackedAtUnixMs)
  | none =>
      let scopes := Std.ExtTreeSet.ofList (observations.map (·.scope)) compare
      Except.ensure (¬ 1 < scopes.size) (.mixedEvaluationScope scopes.toList)
      match (selectedByHolder observations).toList.find? (1 < ·.2) with
      | some (holderDeviceId, selected) =>
          .error (.multipleSelectedObservations holderDeviceId selected)
      | none => .ok ()

end Validation

section Exclusion

variable (observation : ResolvedHolderObservation)

def holderReasons : List ReplicaExclusionReason :=
  match observation.holderValidation with
  | .valid => []
  | .invalidSignature => [.invalidSignature]
  | .notApproved => [.holderNotApproved]
  | .membershipUnresolved => [.membershipUnresolved]
  | .membershipAmbiguous => [.membershipAmbiguous]

def ephemeralReasons : List ReplicaExclusionReason :=
  if observation.kind = .workerLocal then
    match observation.isEphemeral with
    | .resolved true => [.ephemeralWorkerLocal]
    | .resolved false => []
    | .unresolved => [.ephemeralStatusUnresolved]
    | .ambiguous => [.ephemeralStatusAmbiguous]
  else []

def domainReasons : List ReplicaExclusionReason :=
  match observation.failureDomain with
  | .resolved _ => []
  | .unresolved => [.failureDomainUnresolved]
  | .ambiguous => [.failureDomainAmbiguous]

def exclusionReasons : List ReplicaExclusionReason :=
  holderReasons observation ++ ephemeralReasons observation ++ domainReasons observation

end Exclusion

/-- The candidates of each domain, and what is excluded so far. -/
structure Candidates where
  byDomain : Table String (List ResolvedHolderObservation)
  excluded : List ExcludedReplica

/-- One round of the loop over the selected observations. -/
def sortCandidate (found : Candidates) (observation : ResolvedHolderObservation) :
    Except ReplicaEvaluationFault Candidates :=
  match (inOrder (exclusionReasons observation)).eraseReps with
  | [] =>
      match observation.failureDomain with
      | .resolved failureDomain =>
          .ok { found with byDomain := found.byDomain.push failureDomain observation }
      | _ => .error .unreachable
  | reasons => .ok { found with excluded := found.excluded ++ [{ observation, reasons }] }

/-- One round of the loop over the domains: the first candidate counts, and the others are duplicates. -/
def countDomain (entry : String × List ResolvedHolderObservation) :
    Except ReplicaEvaluationFault (CountedReplica × List ExcludedReplica) :=
  match inOrder entry.2 with
  | [] => .error .unreachable
  | counted :: duplicates =>
      .ok ({ observation := counted, failureDomain := entry.1 },
        duplicates.map fun observation =>
          { observation, reasons := [.duplicateFailureDomain counted.holderDeviceId] })

def orderExcluded : ExcludedReplica → ExcludedReplica → Ordering :=
  compareLex (compareOn (·.observation)) (compareOn (·.reasons))

def evaluateEffectiveReplicas (observations : List ResolvedHolderObservation) (required : Durability) :
    Except ReplicaEvaluationFault EffectiveReplicaReport := do
  (validateObservations observations).mapError .error
  let scope := observations.head?.map (·.scope)
  let selected := inOrder (observations.filter (·.selected))
  let superseded := inOrder (observations.filter fun observation => ¬ observation.selected)
  let found ← selected.foldlM sortCandidate ⟨∅, []⟩
  let domains ← found.byDomain.toList.mapM countDomain
  let counted := domains.map Prod.fst
  let excluded := (found.excluded ++ domains.flatMap Prod.snd).mergeSort fun left right =>
    (orderExcluded left right).isLE
  Except.ensure (counted.length < UInt32.size) (.error .replicaCountOverflow)
  let effectiveReplicaCount := UInt32.ofNat counted.length
  let requiredReplicaCount := required.requiredReplicas
  .ok { scope, required, requiredReplicaCount, effectiveReplicaCount,
        requirementMet := requiredReplicaCount ≤ effectiveReplicaCount, counted, excluded, superseded }

end Gputeer.Checkpoint
