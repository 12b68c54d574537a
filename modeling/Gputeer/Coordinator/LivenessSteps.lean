import Gputeer.Coordinator.LivenessStore

/-! What each call does to the store of the last heartbeats: the row that a heartbeat is kept as, and when. -/

namespace Gputeer.Coordinator.LivenessStore

open Protocol Text Scheduler Transaction Body

variable {codec : HeartbeatCodec} {db later : LivenessDb} {heartbeat : NodeHeartbeat} {nodeId : String}

section Rows

def rowOf (codec : HeartbeatCodec) (heartbeat : NodeHeartbeat) : LivenessRow where
  deviceId := heartbeat.deviceId
  lastHeartbeatUnixMs := heartbeat.issuedAtUnixMs.toNat
  fenceEpoch := heartbeat.fenceEpoch.toNat
  runningAttempts := heartbeat.runningAttempts.toNat
  signerIdAtObservation := heartbeat.deviceId
  heartbeatBody := codec.encode heartbeat
  heartbeatHash := (codec.blake3 (codec.encode heartbeat)).toList

def storedOf (codec : HeartbeatCodec) (heartbeat : NodeHeartbeat) : StoredNodeLiveness where
  heartbeat := heartbeat
  heartbeatHash := codec.blake3 (codec.encode heartbeat)
  signerIdAtObservation := heartbeat.deviceId
  nodeId := heartbeat.nodeId
  deviceId := heartbeat.deviceId
  lastHeartbeatUnixMs := heartbeat.issuedAtUnixMs
  fenceEpoch := heartbeat.fenceEpoch
  runningAttempts := heartbeat.runningAttempts

/-- The times and epochs that a signed column takes. -/
def InRange (heartbeat : NodeHeartbeat) : Prop :=
  heartbeat.issuedAtUnixMs.toNat < 2 ^ 63 ∧ heartbeat.fenceEpoch.toNat < 2 ^ 63

instance (heartbeat : NodeHeartbeat) : Decidable (InRange heartbeat) := inferInstanceAs (Decidable (_ ∧ _))

theorem livenessRow_eq_ok {row : LivenessRow} :
    livenessRow codec heartbeat = .ok row ↔ InRange heartbeat ∧ row = rowOf codec heartbeat := by
  have column {detail : String} {value : UInt64} {written : Int} :
      i64OfField detail value = .ok written ↔ value.toNat < 2 ^ 63 ∧ written = value.toNat := by
    unfold i64OfField
    split <;> simp_all [eq_comm]
  simp only [livenessRow, Except.bind_eq_ok, column, Except.ok.injEq, InRange]
  constructor
  · rintro ⟨_, ⟨issued, rfl⟩, _, ⟨epoch, rfl⟩, rfl⟩
    exact ⟨⟨issued, epoch⟩, rfl⟩
  · rintro ⟨⟨issued, epoch⟩, rfl⟩
    exact ⟨_, ⟨issued, rfl⟩, _, ⟨epoch, rfl⟩, rfl⟩

@[simp] theorem u64OfColumn_toNat (kind : LivenessCorruption) (value : UInt64) :
    u64OfColumn kind value.toNat = .ok value := by
  simp [u64OfColumn]

@[simp] theorem u32OfColumn_toNat (kind : LivenessCorruption) (value : UInt32) :
    u32OfColumn kind value.toNat = .ok value := by
  have small := value.toNat_lt
  rw [u32OfColumn, if_pos (by omega)]
  simp

theorem rank_rowOf : (rowOf codec heartbeat).rank = .ok (rankOf heartbeat) := by
  simp only [LivenessRow.rank, rowOf, u64OfColumn_toNat, u32OfColumn_toNat, Except.bind_eq_ok]
  exact ⟨_, rfl, _, rfl, _, rfl, rfl⟩

/-- Only a message of defaults has an empty body, and it names no node. -/
theorem encode_ne_nil (decodes : codec.decode (codec.encode heartbeat) = some heartbeat)
    (filled : isBlank heartbeat.nodeId = false) : codec.encode heartbeat ≠ [] := by
  intro empty
  rw [empty, codec.decode_nil] at decodes
  obtain rfl := Option.some.inj decodes
  cases filled

theorem decodeLivenessRow_rowOf (decodes : codec.decode (codec.encode heartbeat) = some heartbeat)
    (filled : isBlank heartbeat.nodeId = false) :
    decodeLivenessRow codec heartbeat.nodeId (rowOf codec heartbeat) = .ok (storedOf codec heartbeat) := by
  have body := encode_ne_nil decodes filled
  simp only [decodeLivenessRow, rowOf, hashOfColumn, decodeHash_toList, u64OfColumn_toNat, u32OfColumn_toNat,
    decodes, Except.bind_eq_ok, Except.ensure_eq_ok, Except.ofOption_eq_ok, Except.mapError_eq_ok]
  exact ⟨(), Except.ensure_eq_ok.mpr body, heartbeat, rfl, _, rfl, (), Except.ensure_eq_ok.mpr rfl, (), rfl, (),
    Except.ensure_eq_ok.mpr ⟨rfl, rfl⟩, _, rfl, (), rfl, _, rfl, (), rfl, _, rfl, (), rfl, rfl⟩

end Rows

section Steps

/-- What an observation that is taken does to the store. -/
inductive Observed (codec : HeartbeatCodec) (db : LivenessDb) (heartbeat : NodeHeartbeat) : LivenessDb → Prop where
  | first (free : db.nodeLiveness[heartbeat.nodeId]? = none)
      (expected : ∀ device ∈ db.pendingRebind[heartbeat.nodeId]?, device = heartbeat.deviceId)
      (inRange : InRange heartbeat) :
      Observed codec db heartbeat
        { nodeLiveness := db.nodeLiveness.insert heartbeat.nodeId (rowOf codec heartbeat)
          pendingRebind := db.pendingRebind.erase heartbeat.nodeId }
  | newer {row : LivenessRow} {stored : Rank} (found : db.nodeLiveness[heartbeat.nodeId]? = some row)
      (device : row.deviceId = heartbeat.deviceId) (ranked : row.rank = .ok stored)
      (above : ¬ (rankOf heartbeat).AtMost stored) (inRange : InRange heartbeat) :
      Observed codec db heartbeat
        { db with nodeLiveness := db.nodeLiveness.insert heartbeat.nodeId (rowOf codec heartbeat) }
  | stale {row : LivenessRow} {stored : Rank} (found : db.nodeLiveness[heartbeat.nodeId]? = some row)
      (device : row.deviceId = heartbeat.deviceId) (ranked : row.rank = .ok stored)
      (below : (rankOf heartbeat).AtMost stored) : Observed codec db heartbeat db

theorem upsertLiveness_does {result : ObserveResult} :
    Does (upsertLiveness codec heartbeat) db result later ↔ InRange heartbeat ∧
      result = ⟨storedOf codec heartbeat, true⟩ ∧
      later = { db with nodeLiveness := db.nodeLiveness.insert heartbeat.nodeId (rowOf codec heartbeat) } := by
  simp only [upsertLiveness, does_bind, does_ofExcept, does_modify, does_pure, livenessRow_eq_ok]
  constructor
  · rintro ⟨_, _, ⟨⟨inRange, rfl⟩, rfl⟩, _, _, rfl, rfl, rfl⟩
    exact ⟨inRange, rfl, rfl⟩
  · rintro ⟨inRange, rfl, rfl⟩
    exact ⟨_, db, ⟨⟨inRange, rfl⟩, rfl⟩, ⟨⟩, _, rfl, rfl, rfl⟩

theorem erase_absent {table : Table String String} {key : String} (absent : table[key]? = none) :
    table.erase key = table := by
  apply Std.ExtTreeMap.ext_getElem?
  intro each
  rw [Table.lookup_erase]
  split
  · next same => rw [← same, absent]
  · rfl

theorem admitFirst_does {done : Unit} : Does (admitFirst heartbeat) db done later ↔
    (∀ device ∈ db.pendingRebind[heartbeat.nodeId]?, device = heartbeat.deviceId) ∧
      later = { db with pendingRebind := db.pendingRebind.erase heartbeat.nodeId } := by
  simp only [admitFirst, does_bind, does_get]
  cases waits : db.pendingRebind[heartbeat.nodeId]? with
  | none =>
      constructor
      · rintro ⟨_, _, ⟨rfl, rfl⟩, rest⟩
        rw [waits] at rest
        obtain ⟨_, rfl⟩ := does_pure.mp rest
        exact ⟨by simp, by rw [erase_absent waits]⟩
      · rintro ⟨_, rfl⟩
        refine ⟨db, db, ⟨rfl, rfl⟩, ?_⟩
        rw [waits]
        exact does_pure.mpr ⟨rfl, by rw [erase_absent waits]⟩
  | some expected =>
      constructor
      · rintro ⟨_, _, ⟨rfl, rfl⟩, rest⟩
        rw [waits] at rest
        simp only [does_bind, does_ofExcept, does_set, Except.ensure_eq_ok] at rest
        obtain ⟨_, _, ⟨same, rfl⟩, rfl⟩ := rest
        exact ⟨by simpa using same, rfl⟩
      · rintro ⟨same, rfl⟩
        refine ⟨db, db, ⟨rfl, rfl⟩, ?_⟩
        rw [waits]
        simp only [does_bind, does_ofExcept, does_set, Except.ensure_eq_ok]
        exact ⟨(), db, ⟨same expected rfl, rfl⟩, trivial⟩

theorem observeInTx_first (free : db.nodeLiveness[heartbeat.nodeId]? = none) {result : ObserveResult} :
    Does (observeInTx codec heartbeat) db result later ↔
      (∀ device ∈ db.pendingRebind[heartbeat.nodeId]?, device = heartbeat.deviceId) ∧ InRange heartbeat ∧
      result = ⟨storedOf codec heartbeat, true⟩ ∧
      later = { nodeLiveness := db.nodeLiveness.insert heartbeat.nodeId (rowOf codec heartbeat)
                pendingRebind := db.pendingRebind.erase heartbeat.nodeId } := by
  simp only [observeInTx, does_bind, does_get]
  constructor
  · rintro ⟨_, _, ⟨rfl, rfl⟩, rest⟩
    rw [free] at rest
    simp only [does_bind, admitFirst_does, upsertLiveness_does] at rest
    obtain ⟨_, _, ⟨expected, rfl⟩, inRange, rfl, rfl⟩ := rest
    exact ⟨expected, inRange, rfl, rfl⟩
  · rintro ⟨expected, inRange, rfl, rfl⟩
    refine ⟨db, db, ⟨rfl, rfl⟩, ?_⟩
    rw [free]
    simp only [does_bind, admitFirst_does, upsertLiveness_does]
    exact ⟨(), _, ⟨expected, rfl⟩, inRange, trivial, rfl⟩

theorem observeInTx_newer {row : LivenessRow} {stored : Rank}
    (found : db.nodeLiveness[heartbeat.nodeId]? = some row) (device : row.deviceId = heartbeat.deviceId)
    (ranked : row.rank = .ok stored) (above : ¬ (rankOf heartbeat).AtMost stored) (inRange : InRange heartbeat) :
    Does (observeInTx codec heartbeat) db ⟨storedOf codec heartbeat, true⟩
      { db with nodeLiveness := db.nodeLiveness.insert heartbeat.nodeId (rowOf codec heartbeat) } := by
  simp only [observeInTx, does_bind, does_get]
  refine ⟨db, db, ⟨rfl, rfl⟩, ?_⟩
  rw [found]
  simp only [does_bind, does_ofExcept, Except.ensure_eq_ok]
  refine ⟨(), db, ⟨device, rfl⟩, stored, db, ⟨ranked, rfl⟩, ?_⟩
  rw [if_neg above]
  exact upsertLiveness_does.mpr ⟨inRange, rfl, rfl⟩

theorem observed_of_does {result : ObserveResult} (done : Does (observeInTx codec heartbeat) db result later) :
    Observed codec db heartbeat later := by
  cases found : db.nodeLiveness[heartbeat.nodeId]? with
  | none =>
      obtain ⟨expected, inRange, _, rfl⟩ := (observeInTx_first found).mp done
      exact .first found expected inRange
  | some row =>
      simp only [observeInTx, does_bind, does_get] at done
      obtain ⟨_, _, ⟨rfl, rfl⟩, rest⟩ := done
      rw [found] at rest
      simp only [does_bind, does_ofExcept, Except.ensure_eq_ok] at rest
      obtain ⟨_, _, ⟨device, rfl⟩, stored, _, ⟨ranked, rfl⟩, rest⟩ := rest
      split at rest
      · next below =>
        simp only [does_bind, does_ofExcept, does_pure] at rest
        obtain ⟨_, _, ⟨_, rfl⟩, _, rfl⟩ := rest
        exact .stale found device ranked below
      · next above =>
        obtain ⟨inRange, _, rfl⟩ := upsertLiveness_does.mp rest
        exact .newer found device ranked above inRange

theorem observe_does {verified : Verified NodeHeartbeat} {result : ObserveResult} :
    Does (observe codec verified) db result later ↔
      checkHeartbeat verified = .ok () ∧ Does (observeInTx codec verified.inner) db result later := by
  simp only [observe, does_bind, does_ofExcept, does_immediate]
  constructor
  · rintro ⟨_, _, ⟨checked, rfl⟩, rest⟩
    exact ⟨checked, rest⟩
  · rintro ⟨checked, rest⟩
    exact ⟨(), db, ⟨checked, rfl⟩, rest⟩

theorem rebindDevice_does {newDeviceId : String} {done : Unit} :
    Does (rebindDevice nodeId newDeviceId) db done later ↔
      (isBlank nodeId = false ∧ isBlank newDeviceId = false) ∧
      (∃ previous, boundDevice nodeId db = some previous ∧ previous ≠ newDeviceId) ∧
      later = { nodeLiveness := db.nodeLiveness.erase nodeId
                pendingRebind := db.pendingRebind.insert nodeId newDeviceId } := by
  simp only [rebindDevice, rebindInTx, does_bind, does_ofExcept, does_immediate, does_get, does_set,
    Except.ensure_eq_ok, Except.ofOption_eq_ok]
  constructor
  · rintro ⟨_, _, ⟨filled, rfl⟩, _, _, ⟨rfl, rfl⟩, previous, _, ⟨bound, rfl⟩, _, _, ⟨different, rfl⟩, rfl⟩
    exact ⟨filled, ⟨previous, bound, different⟩, rfl⟩
  · rintro ⟨filled, ⟨previous, bound, different⟩, rfl⟩
    exact ⟨(), db, ⟨filled, rfl⟩, db, db, ⟨rfl, rfl⟩, previous, db, ⟨bound, rfl⟩, (), db, ⟨different, rfl⟩, rfl⟩

theorem cancelRebind_does {done : Unit} : Does (cancelRebind nodeId) db done later ↔
    db.pendingRebind[nodeId]? ≠ none ∧ later = { db with pendingRebind := db.pendingRebind.erase nodeId } := by
  simp only [cancelRebind, does_immediate, does_bind, does_get, does_ofExcept, does_set, Except.ensure_eq_ok]
  constructor
  · rintro ⟨_, _, ⟨rfl, rfl⟩, _, _, ⟨waits, rfl⟩, rfl⟩
    exact ⟨waits, rfl⟩
  · rintro ⟨waits, rfl⟩
    exact ⟨db, db, ⟨rfl, rfl⟩, (), db, ⟨waits, rfl⟩, rfl⟩

/-- What a call does that is not refused. -/
inductive Called (codec : HeartbeatCodec) (db : LivenessDb) : LivenessCall → LivenessDb → Prop where
  | observed {verified : Verified NodeHeartbeat} {later : LivenessDb}
      (taken : Observed codec db verified.inner later) : Called codec db (.observe verified) later
  | rebound {nodeId newDeviceId : String} {later : LivenessDb}
      (done : Does (rebindDevice nodeId newDeviceId) db () later) :
      Called codec db (.rebindDevice nodeId newDeviceId) later
  | cancelled {nodeId : String} {later : LivenessDb} (done : Does (cancelRebind nodeId) db () later) :
      Called codec db (.cancelRebind nodeId) later

/-- A call that fails leaves no trace. -/
theorem on_cases {α : Type} {body : LivenessBody α} (atomic : Atomic body) (db : LivenessDb) :
    (body.on db).2 = db ∨ ∃ answer, Does body db answer (body.on db).2 := by
  rcases ran : body.on db with ⟨fault | answer, later⟩
  · exact .inl (atomic ran)
  · exact .inr ⟨answer, ran⟩

theorem call_cases (codec : HeartbeatCodec) (db : LivenessDb) (made : LivenessCall) :
    call codec db made = db ∨ Called codec db made (call codec db made) := by
  cases made with
  | observe verified =>
      rcases on_cases (ofExcept_bind_atomic fun _ => immediate_atomic _ : Atomic (observe codec verified)) db with
        same | ⟨_, done⟩
      · exact .inl same
      · exact .inr (.observed (observed_of_does (observe_does.mp done).2))
  | rebindDevice nodeId newDeviceId =>
      rcases on_cases (ofExcept_bind_atomic fun _ => immediate_atomic _ : Atomic (rebindDevice nodeId newDeviceId)) db
        with same | ⟨_, done⟩
      · exact .inl same
      · exact .inr (.rebound done)
  | cancelRebind nodeId =>
      rcases on_cases (immediate_atomic _ : Atomic (cancelRebind nodeId)) db with same | ⟨_, done⟩
      · exact .inl same
      · exact .inr (.cancelled done)

end Steps

section Kept

variable {made : LivenessCall} {calls before : List LivenessCall} {device : String}

/-- The call has the node wait for another device. -/
def Rebinds (db : LivenessDb) (nodeId : String) : LivenessCall → Prop
  | .rebindDevice named newDeviceId => named = nodeId ∧ ∃ later, Does (rebindDevice named newDeviceId) db () later
  | _ => False

/-- The call ends the waiting for a device. -/
def Cancels (db : LivenessDb) (nodeId : String) : LivenessCall → Prop
  | .cancelRebind named => named = nodeId ∧ ∃ later, Does (cancelRebind named) db () later
  | _ => False

theorem Rank.AtMost.refl (rank : Rank) : rank.AtMost rank := .inr ⟨rfl, .inr ⟨rfl, UInt32.le_refl _⟩⟩

theorem Rank.AtMost.trans {first second third : Rank} (low : first.AtMost second) (high : second.AtMost third) :
    first.AtMost third := by
  simp only [Rank.AtMost, UInt64.lt_iff_toNat_lt, UInt32.le_iff_toNat_le, ← UInt64.toNat_inj] at *
  omega

theorem Rank.AtMost.of_not {first second : Rank} (above : ¬ first.AtMost second) : second.AtMost first := by
  simp only [Rank.AtMost, UInt64.lt_iff_toNat_lt, UInt32.le_iff_toNat_le, ← UInt64.toNat_inj] at *
  omega

/-- The node has a row that ranks no lower. -/
def HasAtLeast (db : LivenessDb) (nodeId : String) (low : Rank) : Prop :=
  ∃ row rank, db.nodeLiveness[nodeId]? = some row ∧ row.rank = .ok rank ∧ low.AtMost rank

/-- A row goes only when its node is rebound, and is replaced only by one that ranks above it. -/
theorem HasAtLeast.step {low : Rank} (has : HasAtLeast db nodeId low) (stays : ¬ Rebinds db nodeId made) :
    HasAtLeast (call codec db made) nodeId low := by
  rcases call_cases codec db made with same | called
  · rw [same]
    exact has
  · obtain ⟨row, rank, found, ranked, lower⟩ := has
    generalize call codec db made = later at called ⊢
    cases called with
    | @observed verified _ taken =>
        cases taken with
        | first free expected inRange =>
            refine ⟨row, rank, ?_, ranked, lower⟩
            rw [Table.lookup_insert_ne, found]
            rintro rfl
            rw [found] at free
            cases free
        | newer there isDevice rankedToo above inRange =>
            by_cases own : verified.inner.nodeId = nodeId
            · subst own
              obtain rfl := Option.some.inj (found.symm.trans there)
              obtain rfl := Except.ok.inj (ranked.symm.trans rankedToo)
              refine ⟨rowOf codec _, _, ?_, rank_rowOf, lower.trans (.of_not above)⟩
              rw [Table.lookup_insert, if_pos rfl]
            · refine ⟨row, rank, ?_, ranked, lower⟩
              rw [Table.lookup_insert_ne own, found]
        | stale => exact ⟨row, rank, found, ranked, lower⟩
    | rebound done =>
        have other : _ ≠ nodeId := fun own => stays ⟨own, _, done⟩
        obtain ⟨_, _, rfl⟩ := rebindDevice_does.mp done
        refine ⟨row, rank, ?_, ranked, lower⟩
        rw [Table.lookup_erase, if_neg other, found]
    | cancelled done =>
        obtain ⟨_, rfl⟩ := cancelRebind_does.mp done
        exact ⟨row, rank, found, ranked, lower⟩

/-- The node is the device's, or waits for it. -/
structure Awaits (db : LivenessDb) (nodeId device : String) : Prop where
  recorded : ∀ row ∈ db.nodeLiveness[nodeId]?, row.deviceId = device
  pending : db.nodeLiveness[nodeId]? = none → db.pendingRebind[nodeId]? = some device

theorem Awaits.rebound {newDeviceId : String} (done : Does (rebindDevice nodeId newDeviceId) db () later) :
    Awaits later nodeId newDeviceId := by
  obtain ⟨_, _, rfl⟩ := rebindDevice_does.mp done
  constructor
  · intro row found
    rw [Option.mem_def, Table.lookup_erase, if_pos rfl] at found
    cases found
  · intro _
    rw [Table.lookup_insert, if_pos rfl]

theorem Awaits.insert {pendingRebind : Table String String} (awaits : Awaits db nodeId device)
    (own : heartbeat.nodeId = nodeId → heartbeat.deviceId = device)
    (others : heartbeat.nodeId ≠ nodeId → pendingRebind[nodeId]? = db.pendingRebind[nodeId]?) :
    Awaits ⟨db.nodeLiveness.insert heartbeat.nodeId (rowOf codec heartbeat), pendingRebind⟩ nodeId device := by
  by_cases same : heartbeat.nodeId = nodeId
  · constructor
    · intro row found
      rw [Option.mem_def, Table.lookup_insert, if_pos same] at found
      obtain rfl := Option.some.inj found
      exact own same
    · intro absent
      rw [Table.lookup_insert, if_pos same] at absent
      cases absent
  · constructor
    · rw [Table.lookup_insert_ne same]
      exact awaits.recorded
    · rw [Table.lookup_insert_ne same, others same]
      exact awaits.pending

theorem Awaits.step (awaits : Awaits db nodeId device) (stays : ¬ Rebinds db nodeId made)
    (waits : ¬ Cancels db nodeId made) : Awaits (call codec db made) nodeId device := by
  rcases call_cases codec db made with same | called
  · rw [same]
    exact awaits
  · generalize call codec db made = later at called ⊢
    cases called with
    | observed taken =>
        cases taken with
        | first free expected inRange =>
            refine awaits.insert (fun own => ?_) (fun other => by rw [Table.lookup_erase, if_neg other])
            rw [own] at free expected
            exact (expected device (awaits.pending free)).symm
        | newer there isDevice ranked above inRange =>
            refine awaits.insert (fun own => ?_) (fun _ => rfl)
            rw [own] at there
            exact isDevice.symm.trans (awaits.recorded _ there)
        | stale => exact awaits
    | rebound done =>
        have other : _ ≠ nodeId := fun own => stays ⟨own, _, done⟩
        obtain ⟨_, _, rfl⟩ := rebindDevice_does.mp done
        constructor
        · rw [Table.lookup_erase, if_neg other]
          exact awaits.recorded
        · rw [Table.lookup_erase, if_neg other, Table.lookup_insert_ne other]
          exact awaits.pending
    | cancelled done =>
        have other : _ ≠ nodeId := fun own => waits ⟨own, _, done⟩
        obtain ⟨_, rfl⟩ := cancelRebind_does.mp done
        refine ⟨awaits.recorded, ?_⟩
        rw [Table.lookup_erase, if_neg other]
        exact awaits.pending

/-- Every row is the row of a heartbeat. -/
def RowsOfHeartbeats (codec : HeartbeatCodec) (db : LivenessDb) : Prop :=
  ∀ (nodeId : String) (row : LivenessRow), db.nodeLiveness[nodeId]? = some row →
    ∃ heartbeat : NodeHeartbeat, heartbeat.nodeId = nodeId ∧ row = rowOf codec heartbeat

theorem RowsOfHeartbeats.insert (rows : RowsOfHeartbeats codec db) (heartbeat : NodeHeartbeat)
    (pendingRebind : Table String String) : RowsOfHeartbeats codec
      ⟨db.nodeLiveness.insert heartbeat.nodeId (rowOf codec heartbeat), pendingRebind⟩ := by
  intro nodeId row found
  rw [Table.lookup_insert] at found
  split at found
  · next own => exact ⟨heartbeat, own, (Option.some.inj found).symm⟩
  · exact rows nodeId row found

theorem runCalls_rows (codec : HeartbeatCodec) (calls : List LivenessCall) :
    RowsOfHeartbeats codec (runCalls codec calls) := by
  refine Trace.invariant (RowsOfHeartbeats codec) (fun _ _ found => by simp [LivenessDb.empty] at found) ?_ calls
  intro db made rows
  rcases call_cases codec db made with same | called
  · rw [same]
    exact rows
  · generalize call codec db made = later at called ⊢
    cases called with
    | observed taken =>
        cases taken with
        | first => exact rows.insert _ _
        | newer => exact rows.insert _ _
        | stale => exact rows
    | rebound done =>
        obtain ⟨_, _, rfl⟩ := rebindDevice_does.mp done
        intro nodeId row found
        rw [Table.lookup_erase] at found
        split at found
        · cases found
        · exact rows nodeId row found
    | cancelled done =>
        obtain ⟨_, rfl⟩ := cancelRebind_does.mp done
        exact rows

end Kept

end Gputeer.Coordinator.LivenessStore
