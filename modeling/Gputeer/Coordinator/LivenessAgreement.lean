import Gputeer.Coordinator.LivenessSteps
import Gputeer.Lib.Lists
import Gputeer.Scheduler.LivenessOrder

/-! The store keeps of each node what the kernel would select, so that a verdict on the rows is a verdict on
every heartbeat; and a node changes its device only by way of an operator. -/

namespace Gputeer.Scheduler

open Text

section Newest

variable {observations newest : List HeartbeatObservation} {selected other : Table String HeartbeatObservation}

/-- Nothing stands in the way when every id is filled and every node has one device. -/
theorem selectLatest_succeeds
    (filled : ∀ observation ∈ observations, isBlank observation.nodeId = false ∧ isBlank observation.deviceId = false)
    (agrees : ∀ observation ∈ observations, ∀ existing ∈ selected[observation.nodeId]?,
      existing.deviceId = observation.deviceId)
    (oneDevice : ∀ first ∈ observations, ∀ second ∈ observations, first.nodeId = second.nodeId →
      first.deviceId = second.deviceId) : ∃ next, selectLatest selected observations = .ok next := by
  induction observations generalizing selected with
  | nil => exact ⟨selected, rfl⟩
  | cons observation rest ih =>
      obtain ⟨node, device⟩ := filled observation List.mem_cons_self
      have inserted : ∀ later ∈ rest,
          ∀ existing ∈ (selected.insert observation.nodeId observation)[later.nodeId]?,
            existing.deviceId = later.deviceId := by
        intro later listed existing found
        rw [Option.mem_def, Table.lookup_insert] at found
        split at found
        · next same =>
          obtain rfl := Option.some.inj found
          exact oneDevice _ List.mem_cons_self later (List.mem_cons_of_mem _ listed) same
        · exact agrees later (List.mem_cons_of_mem _ listed) existing found
      have goesOn := @ih (selected.insert observation.nodeId observation)
        (fun later listed => filled later (List.mem_cons_of_mem _ listed)) inserted
        (fun first listed second there => oneDevice first (List.mem_cons_of_mem _ listed) second
          (List.mem_cons_of_mem _ there))
      have stays := @ih selected
        (fun later listed => filled later (List.mem_cons_of_mem _ listed))
        (fun later listed => agrees later (List.mem_cons_of_mem _ listed))
        (fun first listed second there => oneDevice first (List.mem_cons_of_mem _ listed) second
          (List.mem_cons_of_mem _ there))
      simp only [selectLatest, Except.bind_eq_ok, Except.ensure_eq_ok]
      cases found : selected[observation.nodeId]? with
      | none =>
          obtain ⟨next, done⟩ := goesOn
          exact ⟨next, (), node, (), device, done⟩
      | some existing =>
          have same := agrees observation List.mem_cons_self existing found
          by_cases below : existing.RanksBelow observation
          · obtain ⟨next, done⟩ := goesOn
            refine ⟨next, (), node, (), device, ?_⟩
            simp only [Except.bind_eq_ok, Except.ensure_eq_ok, if_pos below]
            exact ⟨(), same, done⟩
          · obtain ⟨next, done⟩ := stays
            refine ⟨next, (), node, (), device, ?_⟩
            simp only [Except.bind_eq_ok, Except.ensure_eq_ok, if_neg below]
            exact ⟨(), same, done⟩

theorem not_ranksBelow_of_le {first second third : HeartbeatObservation} (above : ¬ first.RanksBelow second)
    (aboveToo : ¬ second.RanksBelow third) : ¬ first.RanksBelow third := by
  simp only [HeartbeatObservation.RanksBelow, UInt64.lt_iff_toNat_lt, UInt32.lt_iff_toNat_lt,
    ← UInt64.toNat_inj] at *
  omega

/-- Of one node and device, neither ranks below the other. -/
theorem eq_of_not_ranksBelow {first second : HeartbeatObservation} (nodeId : first.nodeId = second.nodeId)
    (deviceId : first.deviceId = second.deviceId) (above : ¬ first.RanksBelow second)
    (below : ¬ second.RanksBelow first) : first = second := by
  simp only [HeartbeatObservation.RanksBelow, UInt64.lt_iff_toNat_lt, UInt32.lt_iff_toNat_lt,
    ← UInt64.toNat_inj] at above below
  cases first
  cases second
  simp only [HeartbeatObservation.mk.injEq, ← UInt64.toNat_inj, ← UInt32.toNat_inj] at *
  refine ⟨nodeId, deviceId, ?_, ?_, ?_⟩
  · omega
  · omega
  · omega

/-- A part of the observations that has of each node one that none of the others ranks above. -/
structure HoldsNewest (newest observations : List HeartbeatObservation) : Prop where
  part : ∀ observation ∈ newest, observation ∈ observations
  covers : ∀ observation ∈ observations, ∃ kept ∈ newest, kept.nodeId = observation.nodeId ∧
    ¬ kept.RanksBelow observation

theorem SelectsLatest.eq_of_holdsNewest (latest : SelectsLatest selected newest)
    (latestToo : SelectsLatest other observations) (holds : HoldsNewest newest observations)
    (oneDevice : ∀ first ∈ observations, ∀ second ∈ observations, first.nodeId = second.nodeId →
      first.deviceId = second.deviceId) : selected = other := by
  apply Std.ExtTreeMap.ext_getElem?
  intro nodeId
  have newestOf := latest.newest nodeId
  have newestToo := latestToo.newest nodeId
  cases found : selected[nodeId]? with
  | none =>
      rw [found] at newestOf
      cases there : other[nodeId]? with
      | none => rfl
      | some last =>
          rw [there] at newestToo
          obtain ⟨kept, listed, same, _⟩ := holds.covers last newestToo.1
          exact absurd (same.trans newestToo.2.1) (newestOf kept listed)
  | some first =>
      rw [found] at newestOf
      obtain ⟨listed, ofNode, above⟩ := newestOf
      cases there : other[nodeId]? with
      | none =>
          rw [there] at newestToo
          exact absurd ofNode (newestToo first (holds.part first listed))
      | some last =>
          rw [there] at newestToo
          obtain ⟨member, sameNode, aboveToo⟩ := newestToo
          obtain ⟨kept, keptListed, keptNode, keptAbove⟩ := holds.covers last member
          have below : ¬ last.RanksBelow first := aboveToo first (holds.part first listed) ofNode
          have level : ¬ first.RanksBelow last :=
            not_ranksBelow_of_le (above kept keptListed (keptNode.trans sameNode)) keptAbove
          congr 1
          exact eq_of_not_ranksBelow (ofNode.trans sameNode.symm)
            (oneDevice first (holds.part first listed) last member (ofNode.trans sameNode.symm)) level below

/-- The verdicts, and a refusal, are those on all observations. -/
theorem classifyNodeLiveness_of_holdsNewest (holds : HoldsNewest newest observations)
    (filled : ∀ observation ∈ observations, isBlank observation.nodeId = false ∧ isBlank observation.deviceId = false)
    (oneDevice : ∀ first ∈ observations, ∀ second ∈ observations, first.nodeId = second.nodeId →
      first.deviceId = second.deviceId) (knownNodes : List String) (policy : LivenessPolicy) (nowUnixMs : UInt64) :
    classifyNodeLiveness newest knownNodes policy nowUnixMs =
      classifyNodeLiveness observations knownNodes policy nowUnixMs := by
  have selects {listed : List HeartbeatObservation} (part : ∀ observation ∈ listed, observation ∈ observations) :
      ∃ next, selectLatest ∅ (listed.mergeSort fun left right => (left.order right).isLE) = .ok next := by
    refine selectLatest_succeeds (fun observation sorted => filled observation (part _ (List.mem_mergeSort.mp sorted)))
      (fun _ _ _ found => by simp at found) ?_
    intro first sorted second sortedToo
    exact oneDevice first (part _ (List.mem_mergeSort.mp sorted)) second (part _ (List.mem_mergeSort.mp sortedToo))
  obtain ⟨selected, done⟩ := selects holds.part
  obtain ⟨other, doneToo⟩ := selects (fun _ listed => listed)
  obtain rfl := (selectLatest_sorted done).eq_of_holdsNewest (selectLatest_sorted doneToo) holds oneDevice
  simp only [classifyNodeLiveness, done, doneToo]

end Newest

end Gputeer.Scheduler

namespace Gputeer.Coordinator.LivenessStore

open Protocol Text Scheduler Transaction Body

variable {codec : HeartbeatCodec} {db later : LivenessDb} {heartbeat : NodeHeartbeat} {nodeId : String}

section Agreement

theorem atMost_iff {incoming stored : NodeHeartbeat} :
    (rankOf incoming).AtMost (rankOf stored) ↔ ¬ (observationOf stored).RanksBelow (observationOf incoming) := by
  simp only [Rank.AtMost, rankOf, observationOf, HeartbeatObservation.RanksBelow, UInt64.lt_iff_toNat_lt,
    UInt32.lt_iff_toNat_lt, UInt32.le_iff_toNat_le, ← UInt64.toNat_inj]
  omega

/-- The check of the signature handed the heartbeat out. -/
def CameVerified (verified : Verified NodeHeartbeat) : Prop :=
  ∃ (Guard : Type) (_ : ReplayGuard Guard) (blake3 : Blake3) (maxSupportedSchemaVersion : UInt32)
    (verifier : SignatureVerifier) (nowUnixMs : UInt64) (replay : Guard),
    (verify blake3 verified.inner maxSupportedSchemaVersion verifier nowUnixMs replay).1 = .ok verified

/-- A signature is checked with the key of the device that the heartbeat names. -/
theorem CameVerified.signer {verified : Verified NodeHeartbeat} (came : CameVerified verified) :
    verified.signerId = verified.inner.deviceId := by
  obtain ⟨Guard, _, blake3, version, verifier, nowUnixMs, replay, done⟩ := came
  unfold verify at done
  split at done
  · cases done
  · obtain ⟨status, _, same⟩ := Except.map_eq_ok.mp done
    exact (congrArg Verified.signerId same).symm

/-- What a store can keep of a heartbeat and judge by it. -/
structure Usable (heartbeat : NodeHeartbeat) : Prop where
  nodeId : isBlank heartbeat.nodeId = false
  deviceId : isBlank heartbeat.deviceId = false
  issued : heartbeat.issuedAtUnixMs ≠ 0

theorem checkHeartbeat_ok {verified : Verified NodeHeartbeat} (came : CameVerified verified)
    (usable : Usable verified.inner) : checkHeartbeat verified = .ok () := by
  simp only [checkHeartbeat, Except.bind_eq_ok, Except.ensure_eq_ok]
  exact ⟨(), usable.nodeId, (), usable.deviceId, (), usable.issued, came.signer⟩

/-- Of every node that was heard the row is that of a heartbeat that none of the others ranks above. -/
structure Heard (codec : HeartbeatCodec) (db : LivenessDb) (heard : List NodeHeartbeat) : Prop where
  free : ∀ nodeId : String, db.pendingRebind[nodeId]? = none
  rows : ∀ (nodeId : String) (row : LivenessRow), db.nodeLiveness[nodeId]? = some row →
    ∃ kept ∈ heard, kept.nodeId = nodeId ∧ row = rowOf codec kept
  covers : ∀ heartbeat ∈ heard, ∃ kept ∈ heard, db.nodeLiveness[heartbeat.nodeId]? = some (rowOf codec kept) ∧
    kept.nodeId = heartbeat.nodeId ∧ ¬ (observationOf kept).RanksBelow (observationOf heartbeat)

variable {heard : List NodeHeartbeat} {verified : Verified NodeHeartbeat}

/-- A heartbeat that ranks above the row of its node, if it has one, takes its place. -/
theorem Heard.insert {pendingRebind : Table String String} (holds : Heard codec db heard)
    (free : ∀ nodeId : String, pendingRebind[nodeId]? = none)
    (newest : ∀ kept ∈ heard, db.nodeLiveness[heartbeat.nodeId]? = some (rowOf codec kept) →
      ¬ (observationOf heartbeat).RanksBelow (observationOf kept)) :
    Heard codec ⟨db.nodeLiveness.insert heartbeat.nodeId (rowOf codec heartbeat), pendingRebind⟩
      (heartbeat :: heard) := by
  constructor
  · exact free
  · intro nodeId row found
    rw [Table.lookup_insert] at found
    split at found
    · next same => exact ⟨heartbeat, List.mem_cons_self, same, (Option.some.inj found).symm⟩
    · obtain ⟨kept, listed, same⟩ := holds.rows nodeId row found
      exact ⟨kept, List.mem_cons_of_mem _ listed, same⟩
  · intro other listed
    rw [Table.lookup_insert]
    rcases List.mem_cons.mp listed with rfl | earlier
    · exact ⟨other, List.mem_cons_self, if_pos rfl, rfl, SelectsLatest.not_ranksBelow_self _⟩
    · obtain ⟨kept, there, found, same, above⟩ := holds.covers other earlier
      split
      · next own =>
        rw [← own] at found
        exact ⟨heartbeat, List.mem_cons_self, rfl, own, not_ranksBelow_of_le (newest kept there found) above⟩
      · exact ⟨kept, List.mem_cons_of_mem _ there, found, same, above⟩

/-- A heartbeat that ranks no higher than the row of its node is covered by it. -/
theorem Heard.keep {kept : NodeHeartbeat} (holds : Heard codec db heard) (listed : kept ∈ heard)
    (found : db.nodeLiveness[heartbeat.nodeId]? = some (rowOf codec kept)) (sameNode : kept.nodeId = heartbeat.nodeId)
    (above : ¬ (observationOf kept).RanksBelow (observationOf heartbeat)) : Heard codec db (heartbeat :: heard) := by
  constructor
  · exact holds.free
  · intro nodeId row there
    obtain ⟨other, otherListed, same⟩ := holds.rows nodeId row there
    exact ⟨other, List.mem_cons_of_mem _ otherListed, same⟩
  · intro other there
    rcases List.mem_cons.mp there with rfl | earlier
    · exact ⟨kept, List.mem_cons_of_mem _ listed, found, sameNode, above⟩
    · obtain ⟨last, lastListed, covered⟩ := holds.covers other earlier
      exact ⟨last, List.mem_cons_of_mem _ lastListed, covered⟩

theorem call_observe_eq {result : ObserveResult} (done : Does (observe codec verified) db result later) :
    call codec db (.observe verified) = later := congrArg Prod.snd done

/-- Nothing is written by a heartbeat that is not newer, whatever is answered. -/
theorem call_observe_stale {kept : NodeHeartbeat}
    (found : db.nodeLiveness[verified.inner.nodeId]? = some (rowOf codec kept))
    (below : (rankOf verified.inner).AtMost (rankOf kept)) : call codec db (.observe verified) = db := by
  rcases call_cases codec db (.observe verified) with same | called
  · exact same
  · generalize call codec db (.observe verified) = later at called
    cases called with
    | observed taken =>
        cases taken with
        | first free =>
            rw [found] at free
            cases free
        | newer there _ ranked above =>
            obtain rfl := Option.some.inj (found.symm.trans there)
            obtain rfl := Except.ok.inj (rank_rowOf.symm.trans ranked)
            exact absurd below above
        | stale => rfl

theorem Heard.observe (holds : Heard codec db heard) (came : CameVerified verified) (usable : Usable verified.inner)
    (inRange : InRange verified.inner)
    (oneDevice : ∀ other ∈ heard, other.nodeId = verified.inner.nodeId → other.deviceId = verified.inner.deviceId) :
    Heard codec (call codec db (.observe verified)) (verified.inner :: heard) := by
  have checked := checkHeartbeat_ok came usable
  cases found : db.nodeLiveness[verified.inner.nodeId]? with
  | none =>
      have done : Does (observeInTx codec verified.inner) db _ _ :=
        (observeInTx_first found).mpr ⟨by simp [holds.free], inRange, rfl, rfl⟩
      rw [call_observe_eq (observe_does.mpr ⟨checked, done⟩)]
      refine holds.insert (fun nodeId => ?_) (fun _ _ there => by rw [found] at there; cases there)
      rw [Table.lookup_erase, holds.free, ite_self]
  | some row =>
      obtain ⟨kept, listed, sameNode, rfl⟩ := holds.rows _ row found
      by_cases below : (rankOf verified.inner).AtMost (rankOf kept)
      · rw [call_observe_stale found below]
        exact holds.keep listed found sameNode (atMost_iff.mp below)
      · have done : Does (observeInTx codec verified.inner) db _ _ :=
          observeInTx_newer found (oneDevice kept listed sameNode) rank_rowOf below inRange
        rw [call_observe_eq (observe_does.mpr ⟨checked, done⟩)]
        refine holds.insert holds.free fun other _ there => ?_
        have ranks : rankOf kept = rankOf other := by
          have same := Option.some.inj (found.symm.trans there)
          exact Except.ok.inj (rank_rowOf.symm.trans ((congrArg LivenessRow.rank same).trans rank_rowOf))
        rw [ranks, atMost_iff, not_not] at below
        exact SelectsLatest.not_ranksBelow_trans (SelectsLatest.not_ranksBelow_self _) below

/-- Every node is reported by one device. -/
def OneDevicePerNode (heartbeats : List NodeHeartbeat) : Prop :=
  ∀ first ∈ heartbeats, ∀ second ∈ heartbeats, first.nodeId = second.nodeId → first.deviceId = second.deviceId

/-- Verified heartbeats, of one device for each node, with numbers in the range of a column. -/
structure Reported (heartbeats : List (Verified NodeHeartbeat)) : Prop where
  came : ∀ verified ∈ heartbeats, CameVerified verified
  inRange : ∀ verified ∈ heartbeats, InRange verified.inner
  oneDevice : OneDevicePerNode (heartbeats.map (·.inner))

theorem Reported.subset {heartbeats others : List (Verified NodeHeartbeat)} (reported : Reported heartbeats)
    (part : ∀ verified ∈ others, verified ∈ heartbeats) : Reported others := by
  have inner : ∀ heartbeat ∈ others.map (·.inner), heartbeat ∈ heartbeats.map (·.inner) := by
    intro heartbeat listed
    obtain ⟨verified, there, rfl⟩ := List.mem_map.mp listed
    exact List.mem_map_of_mem (part verified there)
  constructor
  · exact fun verified listed => reported.came verified (part verified listed)
  · exact fun verified listed => reported.inRange verified (part verified listed)
  · exact fun first listed second there => reported.oneDevice first (inner first listed) second (inner second there)

theorem Reported.isHeard {observed : List (Verified NodeHeartbeat)} (reported : Reported observed)
    (usable : ∀ verified ∈ observed, Usable verified.inner) :
    Heard codec (runCalls codec (observed.map .observe)) (observed.map (·.inner)).reverse := by
  induction observed using List.reverseRecOn with
  | nil => constructor <;> simp [runCalls, LivenessDb.empty]
  | append_singleton observed verified ih =>
      have last : verified ∈ observed ++ [verified] := by simp
      have earlier : ∀ each ∈ observed, each ∈ observed ++ [verified] := fun each => List.mem_append_left _
      have holds := ih (reported.subset earlier) (fun each listed => usable each (earlier each listed))
      rw [List.map_append, List.map_append, List.reverse_append, runCalls, List.map_singleton, Trace.run_snoc]
      refine holds.observe (reported.came _ last) (usable _ last) (reported.inRange _ last) ?_
      intro other listed sameNode
      obtain ⟨each, there, rfl⟩ := List.mem_map.mp (List.mem_reverse.mp listed)
      exact reported.oneDevice _ (List.mem_map_of_mem (earlier each there)) _ (List.mem_map_of_mem last) sameNode

/-- The rows are read back, and hold of each node one heartbeat that none of the others ranks above. -/
theorem Heard.loadAll (holds : Heard codec db heard)
    (decodes : ∀ heartbeat ∈ heard, codec.decode (codec.encode heartbeat) = some heartbeat)
    (filled : ∀ heartbeat ∈ heard, isBlank heartbeat.nodeId = false) :
    ∃ stored, LivenessStore.loadAll codec db = .ok stored ∧
      HoldsNewest (stored.map (·.toObservation)) (heard.map observationOf) := by
  have decoded : ∀ row ∈ db.nodeLiveness.toList, ∃ kept ∈ heard, kept.nodeId = row.1 ∧ row.2 = rowOf codec kept ∧
      decodeLivenessRow codec row.1 row.2 = .ok (storedOf codec kept) := by
    rintro ⟨nodeId, row⟩ listed
    obtain ⟨kept, there, rfl, rfl⟩ := holds.rows nodeId row (Table.mem_toList.mp listed)
    exact ⟨kept, there, rfl, rfl, decodeLivenessRow_rowOf (decodes kept there) (filled kept there)⟩
  obtain ⟨stored, each⟩ : ∃ stored, List.Forall₂
      (fun row stored => decodeLivenessRow codec row.1 row.2 = .ok stored) db.nodeLiveness.toList stored := by
    refine List.exists_forall₂ fun row listed => ?_
    obtain ⟨kept, _, _, _, done⟩ := decoded row listed
    exact ⟨_, done⟩
  refine ⟨stored, Except.mapM_eq_ok.mpr each, ?_⟩
  constructor
  · intro observation listed
    obtain ⟨answer, answered, rfl⟩ := List.mem_map.mp listed
    obtain ⟨row, there, done⟩ := each.exists_left answered
    obtain ⟨kept, keptListed, _, _, readBack⟩ := decoded row there
    obtain rfl := Except.ok.inj (readBack.symm.trans done)
    exact List.mem_map.mpr ⟨kept, keptListed, rfl⟩
  · intro observation listed
    obtain ⟨heartbeat, there, rfl⟩ := List.mem_map.mp listed
    obtain ⟨kept, keptListed, found, same, above⟩ := holds.covers heartbeat there
    obtain ⟨answer, answered, done⟩ := each.exists_right (Table.mem_toList.mpr found)
    have readBack := decodeLivenessRow_rowOf (decodes kept keptListed) (filled kept keptListed)
    rw [same] at readBack
    obtain rfl := Except.ok.inj (readBack.symm.trans done)
    exact ⟨_, List.mem_map_of_mem answered, same, above⟩

/-- What is kept of a heartbeat is read back as it was. -/
def HeartbeatsDecode (codec : HeartbeatCodec) (heartbeats : List (Verified NodeHeartbeat)) : Prop :=
  ∀ verified ∈ heartbeats, codec.decode (codec.encode verified.inner) = some verified.inner

/-- Whatever order the heartbeats came in, a verdict on the rows is a verdict on all of them. -/
def RowsStandForAll (codec : HeartbeatCodec) (heartbeats : List (Verified NodeHeartbeat)) : Prop :=
  ∀ observed : List (Verified NodeHeartbeat), observed.Perm heartbeats → ∃ stored,
    loadAll codec (runCalls codec (observed.map .observe)) = .ok stored ∧
    ∀ knownNodes policy nowUnixMs,
      classifyNodeLiveness (stored.map (·.toObservation)) knownNodes policy nowUnixMs =
        classifyNodeLiveness (heartbeats.map fun verified => observationOf verified.inner) knownNodes policy nowUnixMs

theorem Reported.rowsStandForAll {heartbeats : List (Verified NodeHeartbeat)} (reported : Reported heartbeats)
    (usable : ∀ verified ∈ heartbeats, Usable verified.inner) (decodes : HeartbeatsDecode codec heartbeats) :
    RowsStandForAll codec heartbeats := by
  intro observed same
  have part : ∀ verified ∈ observed, verified ∈ heartbeats := fun verified => same.mem_iff.mp
  have holds : Heard codec _ _ := (reported.subset part).isHeard fun verified listed => usable verified (part _ listed)
  have listed {heartbeat : NodeHeartbeat} (there : heartbeat ∈ (observed.map (·.inner)).reverse) :
      ∃ verified ∈ heartbeats, verified.inner = heartbeat := by
    obtain ⟨verified, member, rfl⟩ := List.mem_map.mp (List.mem_reverse.mp there)
    exact ⟨verified, part verified member, rfl⟩
  obtain ⟨stored, readBack, newest⟩ := holds.loadAll
    (fun heartbeat there => by
      obtain ⟨verified, member, rfl⟩ := listed there
      exact decodes verified member)
    (fun heartbeat there => by
      obtain ⟨verified, member, rfl⟩ := listed there
      exact (usable verified member).nodeId)
  refine ⟨stored, readBack, fun knownNodes policy nowUnixMs => ?_⟩
  have observations : ((observed.map (·.inner)).reverse.map observationOf).Perm
      (heartbeats.map fun verified => observationOf verified.inner) := by
    rw [← List.map_reverse, List.map_map]
    exact ((List.reverse_perm observed).trans same).map _
  rw [classifyNodeLiveness_of_holdsNewest newest]
  · exact classifyNodeLiveness_eq_of_perm observations.symm (.refl _)
  · intro observation there
    obtain ⟨heartbeat, member, rfl⟩ := List.mem_map.mp there
    obtain ⟨verified, isReported, rfl⟩ := listed member
    exact ⟨(usable verified isReported).nodeId, (usable verified isReported).deviceId⟩
  · intro first there second thereToo sameNode
    obtain ⟨heartbeat, member, rfl⟩ := List.mem_map.mp there
    obtain ⟨other, memberToo, rfl⟩ := List.mem_map.mp thereToo
    obtain ⟨verified, isReported, rfl⟩ := listed member
    obtain ⟨another, isReportedToo, rfl⟩ := listed memberToo
    exact reported.oneDevice _ (List.mem_map_of_mem isReported) _ (List.mem_map_of_mem isReportedToo) sameNode

end Agreement

section Runs

/-- What is recorded of a node ranks no lower later, unless the node was rebound. -/
def RanksOnlyRise (codec : HeartbeatCodec) : Prop :=
  ∀ (before calls : List LivenessCall) (nodeId : String) (row : LivenessRow),
    (runCalls codec before).nodeLiveness[nodeId]? = some row →
    (∀ earlier made, Trace.Took calls earlier made → ¬ Rebinds (runCalls codec (before ++ earlier)) nodeId made) →
    ∃ low, row.rank = .ok low ∧ HasAtLeast (runCalls codec (before ++ calls)) nodeId low

/-- Once a node was rebound, only the device that the operator named is recorded for it, unless the operator
named another one or cancelled. -/
def OnlyNamedDevice (codec : HeartbeatCodec) : Prop :=
  ∀ (before calls : List LivenessCall) (nodeId device : String),
    (∃ later, Does (rebindDevice nodeId device) (runCalls codec before) () later) →
    (∀ earlier made, Trace.Took calls earlier made →
      ¬ Rebinds (runCalls codec (before ++ .rebindDevice nodeId device :: earlier)) nodeId made ∧
      ¬ Cancels (runCalls codec (before ++ .rebindDevice nodeId device :: earlier)) nodeId made) →
    ∀ row ∈ (runCalls codec (before ++ .rebindDevice nodeId device :: calls)).nodeLiveness[nodeId]?,
      row.deviceId = device

theorem ranksOnlyRise (codec : HeartbeatCodec) : RanksOnlyRise codec := by
  intro before calls nodeId row found stays
  obtain ⟨heartbeat, _, rfl⟩ := runCalls_rows codec before nodeId row found
  refine ⟨rankOf heartbeat, rank_rowOf, ?_⟩
  refine Trace.kept_through (HasAtLeast · nodeId (rankOf heartbeat)) ⟨_, _, found, rank_rowOf, .refl _⟩ ?_
  exact fun earlier made took has => has.step (stays earlier made took)

theorem onlyNamedDevice (codec : HeartbeatCodec) : OnlyNamedDevice codec := by
  intro before calls nodeId device ⟨later, done⟩ stays
  have rebound : runCalls codec (before ++ [.rebindDevice nodeId device]) = later := by
    rw [runCalls, Trace.run_snoc]
    exact congrArg Prod.snd done
  have split (rest : List LivenessCall) : before ++ .rebindDevice nodeId device :: rest =
      (before ++ [.rebindDevice nodeId device]) ++ rest := by simp
  have starts : Awaits (runCalls codec (before ++ [.rebindDevice nodeId device])) nodeId device := by
    rw [rebound]
    exact .rebound done
  rw [split]
  refine Awaits.recorded (Trace.kept_through (Awaits · nodeId device) starts ?_)
  intro earlier made took awaits
  have stays := stays earlier made took
  rw [split] at stays
  exact awaits.step stays.1 stays.2

/-- Store and kernel agree on which heartbeat is the last one, and neither time nor device goes back by itself. -/
theorem store_and_kernel_agree (codec : HeartbeatCodec) :
    (∀ heartbeats, Reported heartbeats → (∀ verified ∈ heartbeats, Usable verified.inner) →
      HeartbeatsDecode codec heartbeats → RowsStandForAll codec heartbeats) ∧
    RanksOnlyRise codec ∧ OnlyNamedDevice codec :=
  ⟨fun _ reported usable decodes => reported.rowsStandForAll usable decodes, ranksOnlyRise codec,
    onlyNamedDevice codec⟩

end Runs

section Refused

variable {codec : HeartbeatCodec} {verified : Verified NodeHeartbeat}

/-- A heartbeat that is refused leaves no row, and the kernel is told of it all the same. -/
theorem not_rowsStandForAll (refused : checkHeartbeat verified ≠ .ok ()) : ¬ RowsStandForAll codec [verified] := by
  intro stands
  obtain ⟨stored, readBack, agree⟩ := stands [verified] (.refl _)
  have empty : runCalls codec ([verified].map .observe) = .empty := by
    rcases on_cases (ofExcept_bind_atomic fun _ => immediate_atomic _ : Atomic (observe codec verified)) .empty with
      same | ⟨_, done⟩
    · exact same
    · exact absurd (observe_does.mp done).1 refused
  rw [empty] at readBack
  obtain rfl : [] = stored := Except.ok.inj readBack
  have told := agree [] ⟨0, 1⟩ 0
  have nothing : classifyNodeLiveness [] [] ⟨0, 1⟩ 0 = .ok [] := by decide +kernel
  obtain ⟨_, selected, latest, reports⟩ := classifyNodeLiveness_eq_ok (told.symm.trans nothing)
  obtain ⟨last, found, _⟩ := latest.latest _ List.mem_cons_self
  have reported := (reports (reportOf ⟨0, 1⟩ 0 _ _)).mpr
    ⟨verified.inner.nodeId, .inl (Option.ne_none_iff_exists'.mpr ⟨last, found⟩), rfl⟩
  cases reported

def heartbeatOf (nodeId deviceId : String) (issuedAtUnixMs : UInt64) (mark : UInt8) : NodeHeartbeat where
  schemaVersion := 1
  nodeId
  deviceId
  coordinatorDeviceId := "coordinator"
  issuedAtUnixMs
  fenceEpoch := 7
  runningAttempts := 1
  requestNonce := List.replicate 16 7
  nodeSignature := List.replicate 64 mark

def verifiedOf (nodeId deviceId : String) (issuedAtUnixMs : UInt64) (mark : UInt8) : Verified NodeHeartbeat :=
  ⟨heartbeatOf nodeId deviceId issuedAtUnixMs mark, deviceId, .ineffective⟩

/-- The encoding of such a heartbeat; a blank text and a time that is 0 are left out of it. -/
def heartbeatBody (nodeField deviceField timeField : List UInt8) (mark : UInt8) : List UInt8 :=
  [8, 1] ++ nodeField ++ deviceField ++ [34, 11, 99, 111, 111, 114, 100, 105, 110, 97, 116, 111, 114] ++ timeField ++
    [48, 7, 56, 1, 66, 16] ++ List.replicate 16 7 ++ [210, 5, 64] ++ List.replicate 64 mark

def nodeAField : List UInt8 := [18, 6, 110, 111, 100, 101, 45, 97]

def deviceAField : List UInt8 := [26, 8, 100, 101, 118, 105, 99, 101, 45, 97]

def deviceBField : List UInt8 := [26, 8, 100, 101, 118, 105, 99, 101, 45, 98]

/-- Some heartbeats with their encodings and the digests of these. -/
def encodedHeartbeats : List (NodeHeartbeat × List UInt8 × ManifestHash) :=
  [(heartbeatOf "node-a" "device-a" 1000 1, heartbeatBody nodeAField deviceAField [40, 232, 7] 1,
      #v[252, 240, 110, 198, 198, 113, 81, 160, 26, 58, 15, 179, 39, 166, 223, 246,
        38, 64, 126, 1, 235, 197, 251, 232, 227, 105, 146, 105, 98, 76, 17, 249]),
    (heartbeatOf "node-a" "device-a" 2000 2, heartbeatBody nodeAField deviceAField [40, 208, 15] 2,
      #v[205, 219, 167, 143, 243, 145, 77, 35, 21, 241, 14, 112, 19, 225, 148, 27,
        10, 62, 91, 212, 84, 246, 18, 189, 126, 150, 15, 48, 236, 7, 138, 144]),
    (heartbeatOf "node-a" "device-b" 1500 3, heartbeatBody nodeAField deviceBField [40, 220, 11] 3,
      #v[115, 13, 233, 92, 147, 101, 51, 216, 91, 136, 198, 198, 21, 169, 71, 149,
        44, 9, 82, 72, 201, 110, 111, 178, 153, 118, 182, 35, 74, 232, 160, 54]),
    (heartbeatOf "node-a" "device-a" 0 4, heartbeatBody nodeAField deviceAField [] 4,
      #v[57, 198, 110, 108, 80, 54, 53, 141, 139, 166, 76, 8, 41, 33, 186, 37,
        251, 30, 167, 135, 59, 71, 67, 209, 4, 163, 141, 213, 96, 250, 131, 102]),
    (heartbeatOf "" "device-a" 1000 5, heartbeatBody [] deviceAField [40, 232, 7] 5,
      #v[116, 199, 129, 95, 169, 122, 13, 24, 8, 2, 152, 5, 80, 51, 221, 173,
        11, 69, 41, 56, 94, 10, 113, 164, 210, 217, 159, 211, 127, 97, 164, 162]),
    (heartbeatOf "node-a" "" 1000 6, heartbeatBody nodeAField [] [40, 232, 7] 6,
      #v[104, 94, 86, 224, 3, 16, 56, 157, 90, 223, 58, 0, 10, 196, 147, 74,
        242, 102, 196, 230, 176, 25, 21, 2, 246, 221, 199, 39, 50, 135, 148, 207])]

def listedCodec : HeartbeatCodec where
  encode := fun heartbeat => ((encodedHeartbeats.find? (·.1 = heartbeat)).map (·.2.1)).getD []
  decode := fun body => if body = [] then some default else (encodedHeartbeats.find? (·.2.1 = body)).map (·.1)
  blake3 := fun body => ((encodedHeartbeats.find? (·.2.1 = body)).map (·.2.2)).getD (Vector.replicate 32 0)
  decode_nil := rfl

def earlierHeartbeat : Verified NodeHeartbeat := verifiedOf "node-a" "device-a" 1000 1

def laterHeartbeat : Verified NodeHeartbeat := verifiedOf "node-a" "device-a" 2000 2

def replacedHeartbeat : Verified NodeHeartbeat := verifiedOf "node-a" "device-b" 1500 3

/-- Without a time, without a node, without a device. -/
def unusableHeartbeats : List (Verified NodeHeartbeat) :=
  [verifiedOf "node-a" "device-a" 0 4, verifiedOf "" "device-a" 1000 5, verifiedOf "node-a" "" 1000 6]

theorem listed_came : ∀ verified ∈ [earlierHeartbeat, laterHeartbeat, replacedHeartbeat] ++ unusableHeartbeats,
    CameVerified verified := by
  have came (verified : Verified NodeHeartbeat)
      (done : (verify (fun _ => []) verified.inner 1 (fun _ _ _ => .ok ()) verified.inner.issuedAtUnixMs
        (⟨⟩ : NoReplayCheck)).1 = .ok verified) : CameVerified verified :=
    ⟨NoReplayCheck, inferInstance, fun _ => [], 1, fun _ _ _ => .ok (), verified.inner.issuedAtUnixMs, ⟨⟩, done⟩
  simp only [unusableHeartbeats, List.cons_append, List.nil_append, List.forall_mem_cons]
  exact ⟨came _ rfl, came _ rfl, came _ rfl, came _ rfl, came _ rfl, came _ rfl, by simp⟩

theorem unusable_heartbeats_are_not_judged :
    (¬ ∀ codec heartbeats, Reported heartbeats → HeartbeatsDecode codec heartbeats →
      RowsStandForAll codec heartbeats) ∧
    ∀ verified ∈ unusableHeartbeats,
      Reported [verified] ∧ HeartbeatsDecode listedCodec [verified] ∧ ¬ RowsStandForAll listedCodec [verified] := by
  have each : ∀ verified ∈ unusableHeartbeats,
      Reported [verified] ∧ HeartbeatsDecode listedCodec [verified] ∧ ¬ RowsStandForAll listedCodec [verified] := by
    intro verified listed
    have inRange : ∀ verified ∈ unusableHeartbeats, InRange verified.inner :=
      List.forall_mem_of_all (by decide +kernel)
    have decodes : ∀ verified ∈ unusableHeartbeats,
        listedCodec.decode (listedCodec.encode verified.inner) = some verified.inner :=
      List.forall_mem_of_all (by decide +kernel)
    have refused : ∀ verified ∈ unusableHeartbeats, checkHeartbeat verified ≠ .ok () :=
      List.forall_mem_of_all (by decide +kernel)
    refine ⟨⟨?_, ?_, ?_⟩, ?_, not_rowsStandForAll (refused verified listed)⟩
    · simpa using listed_came verified (List.mem_append_right _ listed)
    · simpa using inRange verified listed
    · intro first there second thereToo _
      rw [List.mem_singleton.mp there, List.mem_singleton.mp thereToo]
    · simpa [HeartbeatsDecode] using decodes verified listed
  refine ⟨fun stands => ?_, each⟩
  obtain ⟨reported, decodes, fails⟩ := each (verifiedOf "node-a" "device-a" 0 4) (by simp [unusableHeartbeats])
  exact fails (stands _ _ reported decodes)

/-- A late heartbeat changes nothing, and after a rebind the old device is not heard any more. -/
theorem listed_store_agrees :
    RowsStandForAll listedCodec [laterHeartbeat, earlierHeartbeat] ∧
    HasAtLeast (runCalls listedCodec [.observe laterHeartbeat, .observe earlierHeartbeat]) "node-a"
      (rankOf laterHeartbeat.inner) ∧
    (runCalls listedCodec [.observe laterHeartbeat, .rebindDevice "node-a" "device-b", .observe earlierHeartbeat,
      .observe replacedHeartbeat]).nodeLiveness["node-a"]? = some (rowOf listedCodec replacedHeartbeat.inner) ∧
    ∀ row ∈ (runCalls listedCodec [.observe laterHeartbeat, .rebindDevice "node-a" "device-b",
      .observe earlierHeartbeat, .observe replacedHeartbeat]).nodeLiveness["node-a"]?, row.deviceId = "device-b" := by
  obtain ⟨agrees, rises, named⟩ := store_and_kernel_agree listedCodec
  refine ⟨agrees _ ⟨?_, ?_, ?_⟩ ?_ ?_, ?_, by decide +kernel, ?_⟩
  · exact fun verified listed => listed_came verified (by simp at listed ⊢; tauto)
  · exact List.forall_mem_of_all (by decide +kernel)
  · intro first there second thereToo _
    simp only [List.map_cons, List.map_nil, List.mem_cons, List.not_mem_nil, or_false] at there thereToo
    rcases there with rfl | rfl <;> rcases thereToo with rfl | rfl <;> rfl
  · simp only [List.forall_mem_cons]
    exact ⟨⟨by decide, by decide, by decide⟩, ⟨by decide, by decide, by decide⟩, by simp⟩
  · unfold HeartbeatsDecode
    exact List.forall_mem_of_all (by decide +kernel)
  · obtain ⟨low, ranked, has⟩ := rises [.observe laterHeartbeat] [.observe earlierHeartbeat] "node-a"
      (rowOf listedCodec laterHeartbeat.inner) (by decide +kernel)
      (Trace.forall_took_cons (fun rebinds => rebinds) Trace.forall_took_nil)
    obtain rfl := Except.ok.inj (rank_rowOf.symm.trans ranked)
    exact has
  · refine named [.observe laterHeartbeat] [.observe earlierHeartbeat, .observe replacedHeartbeat] "node-a" "device-b"
      ⟨_, rebindDevice_does.mpr ⟨by decide, ⟨"device-a", by decide +kernel, by decide⟩, rfl⟩⟩ ?_
    exact Trace.forall_took_cons ⟨fun rebinds => rebinds, fun cancels => cancels⟩
      (Trace.forall_took_cons ⟨fun rebinds => rebinds, fun cancels => cancels⟩ Trace.forall_took_nil)

end Refused

end Gputeer.Coordinator.LivenessStore
