import Gputeer.Lib.Except
import Gputeer.Lib.Table
import Gputeer.Lib.Text
import Gputeer.Lib.Word

/-! How fresh the news of each node is, judged by what the node itself last sent. Silence is not death:
there is no verdict that says so. -/

namespace Gputeer.Scheduler

open Text

structure HeartbeatObservation where
  nodeId : String
  deviceId : String
  issuedAtUnixMs : UInt64
  fenceEpoch : UInt64
  runningAttempts : UInt32
  deriving DecidableEq

structure LivenessPolicy where
  liveWithinMs : UInt64
  silentAfterMs : UInt64
  deriving DecidableEq

inductive NodeLiveness where
  | live | suspect | silent | noObservation
  deriving DecidableEq, Ord

inductive LivenessError where
  | policyInverted (liveWithinMs silentAfterMs : UInt64)
  | blankIdentity (field : String)
  | conflictingDevice (nodeId first second : String)
  deriving DecidableEq

structure NodeLivenessReport where
  nodeId : String
  liveness : NodeLiveness
  selected : Option HeartbeatObservation
  silenceMs : Option UInt64
  deriving DecidableEq

namespace HeartbeatObservation

/-- The order in which observations are looked at, so that an error does not hang on how they came. -/
def order (left right : HeartbeatObservation) : Ordering :=
  (compare left.nodeId right.nodeId).then <| (compare left.deviceId right.deviceId).then <|
    (compare left.issuedAtUnixMs right.issuedAtUnixMs).then <|
      (compare left.fenceEpoch right.fenceEpoch).then
        (compare left.runningAttempts right.runningAttempts)

/-- `rank(left) < rank(right)`: issued later, else of a later epoch, else with more attempts. -/
def RanksBelow (left right : HeartbeatObservation) : Prop :=
  left.issuedAtUnixMs < right.issuedAtUnixMs ∨ left.issuedAtUnixMs = right.issuedAtUnixMs ∧
    (left.fenceEpoch < right.fenceEpoch ∨ left.fenceEpoch = right.fenceEpoch ∧
      left.runningAttempts < right.runningAttempts)

instance (left right : HeartbeatObservation) : Decidable (left.RanksBelow right) := by
  unfold RanksBelow
  infer_instance

end HeartbeatObservation

/-- The loop over the sorted observations, with what is selected so far. -/
def selectLatest (selected : Table String HeartbeatObservation) :
    List HeartbeatObservation → Except LivenessError (Table String HeartbeatObservation)
  | [] => .ok selected
  | observation :: rest => do
      Except.ensure (isBlank observation.nodeId = false) (.blankIdentity "node_id")
      Except.ensure (isBlank observation.deviceId = false) (.blankIdentity "device_id")
      match selected[observation.nodeId]? with
      | none => selectLatest (selected.insert observation.nodeId observation) rest
      | some existing =>
          Except.ensure (existing.deviceId = observation.deviceId)
            (.conflictingDevice observation.nodeId existing.deviceId observation.deviceId)
          if existing.RanksBelow observation then
            selectLatest (selected.insert observation.nodeId observation) rest
          else selectLatest selected rest

def bandOf (policy : LivenessPolicy) (silence : UInt64) : NodeLiveness :=
  if silence ≤ policy.liveWithinMs then .live
  else if silence < policy.silentAfterMs then .suspect
  else .silent

def reportOf (policy : LivenessPolicy) (nowUnixMs : UInt64) (nodeId : String) :
    Option HeartbeatObservation → NodeLivenessReport
  | none => { nodeId, liveness := .noObservation, selected := none, silenceMs := none }
  | some observation =>
      let silence := nowUnixMs.saturatingSub observation.issuedAtUnixMs
      { nodeId, liveness := bandOf policy silence, selected := some observation,
        silenceMs := some silence }

/-- A node that is known and was never heard is reported too. -/
def classifyNodeLiveness (observations : List HeartbeatObservation) (knownNodes : List String)
    (policy : LivenessPolicy) (nowUnixMs : UInt64) :
    Except LivenessError (List NodeLivenessReport) := do
  Except.ensure (¬ policy.silentAfterMs ≤ policy.liveWithinMs)
    (.policyInverted policy.liveWithinMs policy.silentAfterMs)
  let sorted := observations.mergeSort fun left right => (left.order right).isLE
  let selected ← selectLatest ∅ sorted
  Except.ensure (∀ nodeId ∈ knownNodes, isBlank nodeId = false) (.blankIdentity "known node_id")
  let all := Std.ExtTreeSet.ofList (selected.keys ++ knownNodes) compare
  .ok (all.toList.map fun nodeId => reportOf policy nowUnixMs nodeId selected[nodeId]?)

/-- The time of the last heartbeat of a node among some observations. -/
def LastHeard (observations : List HeartbeatObservation) (nodeId : String) : Option UInt64 → Prop
  | none => ∀ observation ∈ observations, observation.nodeId ≠ nodeId
  | some last =>
      (∃ observation ∈ observations, observation.nodeId = nodeId ∧
        observation.issuedAtUnixMs = last) ∧
      ∀ observation ∈ observations, observation.nodeId = nodeId → observation.issuedAtUnixMs ≤ last

/-- One observation of each node that was heard, and none of it ranks above that one. -/
structure SelectsLatest (selected : Table String HeartbeatObservation)
    (heard : List HeartbeatObservation) : Prop where
  origin : ∀ (nodeId : String) (latest : HeartbeatObservation), selected[nodeId]? = some latest →
    latest ∈ heard ∧ latest.nodeId = nodeId
  latest : ∀ observation ∈ heard, ∃ latest, selected[observation.nodeId]? = some latest ∧
    ¬ latest.RanksBelow observation

namespace SelectsLatest

variable {selected next : Table String HeartbeatObservation} {heard : List HeartbeatObservation}
  {observation existing : HeartbeatObservation}

theorem empty : SelectsLatest ∅ [] :=
  ⟨fun _ _ found => by simp at found, fun _ listed => by simp at listed⟩

theorem not_ranksBelow_trans {first second third : HeartbeatObservation}
    (above : ¬ second.RanksBelow first) (raised : second.RanksBelow third) :
    ¬ third.RanksBelow first := by
  simp only [HeartbeatObservation.RanksBelow, UInt64.lt_iff_toNat_lt, UInt32.lt_iff_toNat_lt,
    ← UInt64.toNat_inj] at *
  omega

theorem not_ranksBelow_self (observation : HeartbeatObservation) :
    ¬ observation.RanksBelow observation := by
  simp [HeartbeatObservation.RanksBelow]

/-- The new observation is selected when nothing of its node ranks at or above it. -/
theorem raise (latest : SelectsLatest selected heard)
    (raised : ∀ existing ∈ selected[observation.nodeId]?, existing.RanksBelow observation) :
    SelectsLatest (selected.insert observation.nodeId observation) (observation :: heard) := by
  constructor
  · intro nodeId found lookup
    rw [Table.lookup_insert] at lookup
    split at lookup
    · next same =>
      obtain rfl := Option.some.inj lookup
      exact ⟨List.mem_cons_self, same⟩
    · obtain ⟨member, same⟩ := latest.origin nodeId found lookup
      exact ⟨List.mem_cons_of_mem observation member, same⟩
  · intro other member
    rw [Table.lookup_insert]
    rcases List.mem_cons.mp member with rfl | earlier
    · exact ⟨other, if_pos rfl, not_ranksBelow_self other⟩
    · obtain ⟨existing, found, above⟩ := latest.latest other earlier
      split
      · next same =>
        rw [same] at raised
        exact ⟨observation, rfl, not_ranksBelow_trans above (raised existing found)⟩
      · exact ⟨existing, found, above⟩

theorem keep (latest : SelectsLatest selected heard)
    (found : selected[observation.nodeId]? = some existing)
    (above : ¬ existing.RanksBelow observation) : SelectsLatest selected (observation :: heard) := by
  constructor
  · intro nodeId other lookup
    obtain ⟨member, same⟩ := latest.origin nodeId other lookup
    exact ⟨List.mem_cons_of_mem observation member, same⟩
  · intro other member
    rcases List.mem_cons.mp member with rfl | earlier
    · exact ⟨existing, found, above⟩
    · exact latest.latest other earlier

theorem selectLatest {observations : List HeartbeatObservation}
    (latest : SelectsLatest selected heard)
    (done : Scheduler.selectLatest selected observations = .ok next) :
    SelectsLatest next (observations.reverse ++ heard) := by
  induction observations generalizing selected heard with
  | nil =>
      obtain rfl : selected = next := by simpa [Scheduler.selectLatest] using done
      exact latest
  | cons observation rest ih =>
      simp only [Scheduler.selectLatest, Except.bind_eq_ok] at done
      obtain ⟨_, _, _, _, done⟩ := done
      rw [List.reverse_cons, List.append_assoc]
      split at done
      · next absent => exact ih (latest.raise (by simp [absent])) done
      · next existing found =>
        simp only [Except.bind_eq_ok] at done
        obtain ⟨_, _, done⟩ := done
        split at done
        · next below =>
          exact ih (latest.raise (by simpa [found] using below)) done
        · next above => exact ih (latest.keep found above) done

theorem of_perm {others : List HeartbeatObservation} (latest : SelectsLatest selected heard)
    (same : heard.Perm others) : SelectsLatest selected others := by
  constructor
  · intro nodeId found lookup
    obtain ⟨member, ofNode⟩ := latest.origin nodeId found lookup
    exact ⟨same.mem_iff.mp member, ofNode⟩
  · intro observation member
    exact latest.latest observation (same.mem_iff.mpr member)

theorem lastHeard (latest : SelectsLatest selected heard) (nodeId : String) :
    LastHeard heard nodeId (selected[nodeId]?.map (·.issuedAtUnixMs)) := by
  cases found : selected[nodeId]? with
  | none =>
      rintro observation member rfl
      obtain ⟨_, there, _⟩ := latest.latest observation member
      simp [found] at there
  | some last =>
      obtain ⟨member, same⟩ := latest.origin nodeId last found
      refine ⟨⟨last, member, same, rfl⟩, ?_⟩
      rintro observation listed rfl
      obtain ⟨other, there, above⟩ := latest.latest observation listed
      obtain rfl := Option.some.inj (found.symm.trans there)
      exact UInt64.not_lt.mp fun below => above (Or.inl below)

end SelectsLatest

section Reports

variable {observations : List HeartbeatObservation} {knownNodes : List String}
  {policy : LivenessPolicy} {nowUnixMs : UInt64} {reports : List NodeLivenessReport}

theorem LastHeard.unique {nodeId : String} {first second : Option UInt64}
    (one : LastHeard observations nodeId first) (other : LastHeard observations nodeId second) :
    first = second := by
  cases first with
  | none =>
      cases second with
      | none => rfl
      | some last =>
          obtain ⟨⟨observation, member, same, _⟩, _⟩ := other
          exact absurd same (one observation member)
  | some last =>
      obtain ⟨⟨observation, member, same, rfl⟩, bound⟩ := one
      cases second with
      | none => exact absurd same (other observation member)
      | some last =>
          obtain ⟨⟨newest, listed, ofNode, rfl⟩, boundOther⟩ := other
          have below := bound newest listed ofNode
          have above := boundOther observation member same
          rw [UInt64.le_antisymm above below]

theorem selectLatest_sorted {selected : Table String HeartbeatObservation}
    (selects : selectLatest ∅ (observations.mergeSort fun left right => (left.order right).isLE) =
      .ok selected) : SelectsLatest selected observations := by
  have latest := SelectsLatest.empty.selectLatest selects
  rw [List.append_nil] at latest
  exact latest.of_perm ((List.reverse_perm _).trans (List.mergeSort_perm _ _))

theorem mem_heardOrKnown {selected : Table String HeartbeatObservation} {nodeId : String} :
    nodeId ∈ (Std.ExtTreeSet.ofList (selected.keys ++ knownNodes) compare).toList ↔
      selected[nodeId]? ≠ none ∨ nodeId ∈ knownNodes := by
  simp

/-- What is reported: the band of the last heartbeat, for every node that is known or was heard. -/
theorem classifyNodeLiveness_eq_ok
    (classified : classifyNodeLiveness observations knownNodes policy nowUnixMs = .ok reports) :
    policy.liveWithinMs < policy.silentAfterMs ∧
      ∃ selected, SelectsLatest selected observations ∧
        ∀ report, report ∈ reports ↔ ∃ nodeId,
          (selected[nodeId]? ≠ none ∨ nodeId ∈ knownNodes) ∧
          report = reportOf policy nowUnixMs nodeId selected[nodeId]? := by
  simp only [classifyNodeLiveness, Except.bind_eq_ok, Except.ensure_eq_ok, Except.ok.injEq] at classified
  obtain ⟨_, ordered, selected, selects, _, _, rfl⟩ := classified
  refine ⟨UInt64.not_le.mp ordered, selected, selectLatest_sorted selects, fun report => ?_⟩
  simp only [List.mem_map, mem_heardOrKnown, eq_comm]

end Reports

end Gputeer.Scheduler
