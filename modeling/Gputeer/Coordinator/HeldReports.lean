import Gputeer.Coordinator.NeighborReports
import Gputeer.Lib.Holding
import Gputeer.Lib.Sorting

/-! The store of neighbour reports as a set of reports, one of each pair: what a call finds in it, and what it
leaves. -/

namespace Gputeer.Coordinator.NeighborReportStore

open Protocol Text

variable {codec : NeighborReportCodec} {ours : String} {table : NeighborTable}
  {report old : NeighborUnreachableReport} {held : Finset NeighborUnreachableReport}

def pairOf (report : NeighborUnreachableReport) : ReportKey :=
  ⟨report.reporterNodeId, report.unreachableNodeId⟩

/-- The reports that one device signed. -/
def ofDevice (held : Finset NeighborUnreachableReport) (device : String) :
    Finset NeighborUnreachableReport :=
  held.filter (·.reporterDeviceId = device)

theorem mem_ofDevice {device : String} : report ∈ ofDevice held device ↔
    report ∈ held ∧ report.reporterDeviceId = device :=
  Finset.mem_filter

/-- What the store may hold. -/
structure Admissible (codec : NeighborReportCodec) (ours : String) (report : NeighborUnreachableReport) :
    Prop where
  valid : validateInput report = .ok ()
  addressed : report.coordinatorDeviceId = ours
  decodes : codec.decode (codec.encode report) = some report

/-- What is held is well formed: the machines have one device each, and no device has too many rows. -/
structure WellHeld (codec : NeighborReportCodec) (ours : String) (held : Finset NeighborUnreachableReport) :
    Prop where
  admissible : ∀ report ∈ held, Admissible codec ours report
  oneDevice : ∀ report ∈ held, ∀ other ∈ held, report.reporterNodeId = other.reporterNodeId →
    report.reporterDeviceId = other.reporterDeviceId
  bound : ∀ device, (ofDevice held device).card ≤ maxRowsPerReporterDevice

/-- The table and the reports it is made of. -/
structure Stands (codec : NeighborReportCodec) (ours : String) (table : NeighborTable)
    (held : Finset NeighborUnreachableReport) : Prop where
  shown : table.Holds pairOf (rowOf codec) held
  kept : WellHeld codec ours held

section Reads

theorem Admissible.decodeRow_eq (admissible : Admissible codec ours report) :
    decodeRow codec ours (pairOf report) (rowOf codec report) = .ok (storedOf codec report) := by
  have written : codec.encode report ≠ [] := by
    intro empty
    have blank := admissible.decodes
    rw [empty, codec.decode_nil, Option.some.injEq] at blank
    have valid := admissible.valid
    rw [← blank] at valid
    exact absurd valid (by decide)
  simp only [decodeRow, Except.bind_eq_ok, Except.ensure_eq_ok, Except.mapError_eq_ok,
    Except.ofOption_eq_ok, Except.ok.injEq]
  exact ⟨(), written, _, decodeHash_toList _, (), rfl, _, admissible.decodes, _, decodeU64_encodeU64 _ _,
    (), rfl, (), rfl, (), rfl, (), rfl, (), admissible.addressed, rfl⟩

namespace Stands

variable {missing : String}

theorem fetchReport_eq (stands : Stands codec ours table held) (member : report ∈ held) :
    fetchReport codec ours table (pairOf report) = .ok (some (storedOf codec report)) := by
  rw [fetchReport, stands.shown.lookup member, Except.onSome,
    (stands.kept.admissible report member).decodeRow_eq]
  rfl

theorem readBack_eq (stands : Stands codec ours table held) (member : report ∈ held) :
    readBack codec ours table missing (pairOf report) = .ok (storedOf codec report) := by
  rw [readBack, stands.fetchReport_eq member]
  rfl

/-- No read of the whole store fails. -/
theorem reportsAbout_eq (stands : Stands codec ours table held) {nodeId : String}
    (named : isBlank nodeId = false) : ∃ stored, reportsAbout codec ours table nodeId = .ok stored := by
  obtain ⟨listed, -, members, scan⟩ := stands.shown.exists_listed
  refine ⟨(listed.filter fun item => item.unreachableNodeId = nodeId).map (storedOf codec), ?_⟩
  simp only [reportsAbout, Except.bind_eq_ok, Except.ensure_eq_ok, scan, List.filter_map]
  refine ⟨(), named, Except.mapM_eq_ok.mpr ?_⟩
  rw [List.forall₂_map_left_iff, List.forall₂_map_right_iff]
  refine List.forall₂_same.mpr fun item member => ?_
  rw [List.mem_filter, members] at member
  exact (stands.kept.admissible item member.1).decodeRow_eq

end Stands

end Reads

section Machine

variable {items : List NeighborUnreachableReport}

/-- Going through the rows of a machine finds another device, or the row of the pair if there is one. -/
theorem foldlM_lookAt (stands : Stands codec ours table held)
    (each : ∀ item ∈ items, item ∈ held ∧ item.reporterNodeId = report.reporterNodeId)
    (start : Option StoredNeighborReport) :
    (∃ fault, (items.map (·.unreachableNodeId)).foldlM (lookAt codec ours table report) start =
        .error fault ∧ ∃ item ∈ items, item.reporterDeviceId ≠ report.reporterDeviceId) ∨
      ∃ found, (items.map (·.unreachableNodeId)).foldlM (lookAt codec ours table report) start =
          .ok found ∧ (∀ item ∈ items, item.reporterDeviceId = report.reporterDeviceId) ∧
        ((found = start ∧ ∀ item ∈ items, pairOf item ≠ pairOf report) ∨
          ∃ item ∈ items, pairOf item = pairOf report ∧ found = some (storedOf codec item)) := by
  induction items generalizing start with
  | nil => exact Or.inr ⟨start, rfl, by simp, Or.inl ⟨rfl, by simp⟩⟩
  | cons item rest ih =>
      rw [List.forall_mem_cons] at each
      obtain ⟨⟨member, machine⟩, later⟩ := each
      have read : readBack codec ours table "이 기계의 기존 행을 다시 읽지 못했다"
          ⟨report.reporterNodeId, item.unreachableNodeId⟩ = .ok (storedOf codec item) := by
        rw [← machine]
        exact stands.readBack_eq member
      rw [List.map_cons, List.foldlM_cons, lookAt, read]
      by_cases device : item.reporterDeviceId = report.reporterDeviceId
      · have looked : (Except.ensure ((storedOf codec item).reporterDeviceId = report.reporterDeviceId)
            (.conflictingReporterDevice report.reporterNodeId (storedOf codec item).reporterDeviceId
              report.reporterDeviceId) : Except NeighborReportStoreError Unit) = .ok () :=
          Except.ensure_eq_ok.mpr device
        simp only [bind, Except.bind, looked] at ih ⊢
        rcases ih later (if item.unreachableNodeId = report.unreachableNodeId
            then some (storedOf codec item) else start) with
          ⟨fault, failed, other, listed, foreign⟩ | ⟨found, done, all, which⟩
        · exact Or.inl ⟨fault, failed, other, List.mem_cons_of_mem _ listed, foreign⟩
        · refine Or.inr ⟨found, done, List.forall_mem_cons.mpr ⟨device, all⟩, ?_⟩
          rcases which with ⟨rfl, apart⟩ | ⟨other, listed, same, rfl⟩
          · by_cases target : item.unreachableNodeId = report.unreachableNodeId
            · refine Or.inr ⟨item, List.mem_cons_self, ?_, if_pos target⟩
              rw [pairOf, pairOf, machine, target]
            · refine Or.inl ⟨if_neg target, List.forall_mem_cons.mpr ⟨fun same => target ?_, apart⟩⟩
              exact congrArg ReportKey.unreachableNodeId same
          · exact Or.inr ⟨other, List.mem_cons_of_mem _ listed, same, rfl⟩
      · refine Or.inl ⟨.conflictingReporterDevice report.reporterNodeId item.reporterDeviceId
          report.reporterDeviceId, ?_, item, List.mem_cons_self, device⟩
        have refused : (storedOf codec item).reporterDeviceId ≠ report.reporterDeviceId := device
        simp only [bind, Except.bind, Except.ensure, if_neg refused]
        rfl

/-- What a call finds of the machine that reported. -/
inductive Found (codec : NeighborReportCodec) (held : Finset NeighborUnreachableReport)
    (report : NeighborUnreachableReport) :
    Except NeighborReportStoreError (Option StoredNeighborReport) → Prop where
  | conflict {other : NeighborUnreachableReport} (fault : NeighborReportStoreError) (member : other ∈ held)
      (machine : other.reporterNodeId = report.reporterNodeId)
      (foreign : other.reporterDeviceId ≠ report.reporterDeviceId) : Found codec held report (.error fault)
  | nothing (device : ∀ item ∈ held, item.reporterNodeId = report.reporterNodeId →
        item.reporterDeviceId = report.reporterDeviceId)
      (absent : ∀ item ∈ held, pairOf item ≠ pairOf report) : Found codec held report (.ok none)
  | row {old : NeighborUnreachableReport} (device : ∀ item ∈ held,
        item.reporterNodeId = report.reporterNodeId → item.reporterDeviceId = report.reporterDeviceId)
      (member : old ∈ held) (same : pairOf old = pairOf report) :
      Found codec held report (.ok (some (storedOf codec old)))

theorem findExisting_found (stands : Stands codec ours table held) :
    Found codec held report (findExisting codec ours table report) := by
  obtain ⟨listed, -, members, scan⟩ := stands.shown.exists_listed
  have keys : machineKeys table report =
      (listed.filter (·.reporterNodeId = report.reporterNodeId)).map (·.unreachableNodeId) := by
    rw [machineKeys, scan, List.filter_map, List.map_map]
    rfl
  have ofMachine : ∀ item, item ∈ listed.filter (·.reporterNodeId = report.reporterNodeId) ↔
      item ∈ held ∧ item.reporterNodeId = report.reporterNodeId := by
    intro item
    rw [List.mem_filter, members, decide_eq_true_iff]
  have pairMachine : ∀ item, pairOf item = pairOf report → item.reporterNodeId = report.reporterNodeId :=
    fun item => congrArg ReportKey.reporterNodeId
  rw [findExisting, keys]
  rcases foldlM_lookAt stands (fun item => (ofMachine item).mp) none with
    ⟨fault, failed, item, there, foreign⟩ | ⟨found, done, all, which⟩
  · rw [failed]
    obtain ⟨member, machine⟩ := (ofMachine item).mp there
    exact .conflict fault member machine foreign
  · rw [done]
    have device : ∀ item ∈ held, item.reporterNodeId = report.reporterNodeId →
        item.reporterDeviceId = report.reporterDeviceId :=
      fun item member machine => all item ((ofMachine item).mpr ⟨member, machine⟩)
    rcases which with ⟨rfl, apart⟩ | ⟨item, there, same, rfl⟩
    · exact .nothing device fun item member same =>
        apart item ((ofMachine item).mpr ⟨member, pairMachine item same⟩) same
    · exact .row device ((ofMachine item).mp there).1 same

end Machine

section Room

instance : Std.TransCmp byAge := by
  unfold byAge
  infer_instance

theorem time_le_of_byAge {left right : StoredNeighborReport} (below : (byAge left right).isLE) :
    left.observedAtUnixMs ≤ right.observedAtUnixMs := by
  rw [UInt64.le_iff_toNat_le]
  by_contra later
  have above : compare left.observedAtUnixMs right.observedAtUnixMs = .gt := by
    rw [← DerivedOrder.Field.compare_toNat, Nat.compare_eq_gt]
    omega
  simp [byAge, compareLex, compareOn, above] at below

/-- How room is made for a new row of a device. -/
inductive Room (codec : NeighborReportCodec) (table : NeighborTable)
    (held : Finset NeighborUnreachableReport) (report : NeighborUnreachableReport) :
    Except NeighborReportStoreError (NeighborTable × List StoredNeighborReport) → Prop where
  | free (room : (ofDevice held report.reporterDeviceId).card < maxRowsPerReporterDevice) :
      Room codec table held report (.ok (table, []))
  | refused (fault : NeighborReportStoreError)
      (full : (ofDevice held report.reporterDeviceId).card = maxRowsPerReporterDevice)
      (older : ∀ item ∈ ofDevice held report.reporterDeviceId,
        report.observedAtUnixMs ≤ item.observedAtUnixMs) : Room codec table held report (.error fault)
  | evicted {oldest : NeighborUnreachableReport}
      (full : (ofDevice held report.reporterDeviceId).card = maxRowsPerReporterDevice)
      (member : oldest ∈ ofDevice held report.reporterDeviceId)
      (least : ∀ item ∈ ofDevice held report.reporterDeviceId,
        oldest.observedAtUnixMs ≤ item.observedAtUnixMs)
      (newer : oldest.observedAtUnixMs < report.observedAtUnixMs) :
      Room codec table held report (.ok (table.erase (pairOf oldest), [storedOf codec oldest]))

theorem deleteRow_eq (stands : Stands codec ours table held)
    (member : old ∈ ofDevice held report.reporterDeviceId) :
    deleteRow report table (storedOf codec old) = .ok (table.erase (pairOf old)) := by
  obtain ⟨inside, device⟩ := mem_ofDevice.mp member
  have found : table[(storedOf codec old).key]? = some (rowOf codec old) := stands.shown.lookup inside
  rw [deleteRow, found, if_pos]
  · rfl
  · simpa [rowOf] using device

/-- A device that is at its limit: its oldest row gives way or the report is refused. -/
theorem evictOldest_room (stands : Stands codec ours table held) {listed : List NeighborUnreachableReport}
    (keys : deviceKeys table report = listed.map pairOf)
    (members : ∀ item, item ∈ listed ↔ item ∈ ofDevice held report.reporterDeviceId)
    (count : listed.length = maxRowsPerReporterDevice)
    (full : (ofDevice held report.reporterDeviceId).card = maxRowsPerReporterDevice) :
    Room codec table held report
      (evictOldest codec ours table report maxRowsPerReporterDevice) := by
  have read : (deviceKeys table report).mapM
      (readBack codec ours table "축출 후보를 다시 읽지 못했다") = .ok (listed.map (storedOf codec)) := by
    rw [keys, Except.mapM_eq_ok, List.forall₂_map_left_iff, List.forall₂_map_right_iff,
      List.forall₂_same]
    exact fun item there => stands.readBack_eq (mem_ofDevice.mp ((members item).mp there)).1
  obtain ⟨first, rest, sorted⟩ : ∃ first rest, (listed.map (storedOf codec)).mergeSort
      (fun left right => (byAge left right).isLE) = first :: rest := by
    refine List.exists_cons_of_length_pos ?_
    rw [List.length_mergeSort, List.length_map, count]
    decide
  have sortedLength : (first :: rest).length = maxRowsPerReporterDevice := by
    rw [← sorted, List.length_mergeSort, List.length_map, count]
  have ascending : ((listed.map (storedOf codec)).mergeSort fun left right =>
      (byAge left right).isLE).Pairwise fun left right => (byAge left right).isLE :=
    List.pairwise_mergeSort_isLE
  rw [sorted, List.pairwise_cons] at ascending
  have among : ∀ stored, stored ∈ first :: rest ↔ ∃ item ∈ listed, storedOf codec item = stored := by
    intro stored
    rw [← sorted, List.mem_mergeSort, List.mem_map]
  obtain ⟨oldest, there, rfl⟩ := (among first).mp List.mem_cons_self
  have member := (members oldest).mp there
  have least : ∀ item ∈ ofDevice held report.reporterDeviceId,
      oldest.observedAtUnixMs ≤ item.observedAtUnixMs := by
    intro item inside
    rcases List.mem_cons.mp ((among _).mpr ⟨item, (members item).mpr inside, rfl⟩) with same | later
    · have times : item.observedAtUnixMs = oldest.observedAtUnixMs :=
        congrArg StoredNeighborReport.observedAtUnixMs same
      exact times ▸ UInt64.le_refl _
    · exact time_le_of_byAge (ascending.1 _ later)
  simp only [evictOldest, read, bind, Except.bind, sorted, sortedLength, Nat.sub_self, Nat.zero_add,
    List.take_succ_cons, List.take_zero, List.getLast?_singleton, Except.ofOption]
  rw [Except.ensure, if_pos (by decide)]
  by_cases newer : oldest.observedAtUnixMs < report.observedAtUnixMs
  · have admitted : (storedOf codec oldest).observedAtUnixMs < report.observedAtUnixMs := newer
    rw [Except.ensure, if_pos admitted]
    simp only [List.foldlM_cons, List.foldlM_nil, deleteRow_eq stands member, bind, Except.bind, pure,
      Except.pure]
    exact .evicted full member least newer
  · have held : ¬ (storedOf codec oldest).observedAtUnixMs < report.observedAtUnixMs := newer
    rw [Except.ensure, if_neg held]
    exact .refused _ full fun item inside =>
      UInt64.le_trans (UInt64.not_lt.mp newer) (least item inside)

theorem makeRoom_room (stands : Stands codec ours table held) :
    Room codec table held report (makeRoom codec ours table report) := by
  obtain ⟨listed, distinct, members, scan⟩ := stands.shown.exists_listed
  have keys : deviceKeys table report =
      (listed.filter (·.reporterDeviceId = report.reporterDeviceId)).map pairOf := by
    rw [deviceKeys, scan, List.filter_map, List.map_map]
    rfl
  have devices : ∀ item, item ∈ listed.filter (·.reporterDeviceId = report.reporterDeviceId) ↔
      item ∈ ofDevice held report.reporterDeviceId := by
    intro item
    rw [List.mem_filter, members, mem_ofDevice, decide_eq_true_iff]
  have count : (listed.filter (·.reporterDeviceId = report.reporterDeviceId)).length =
      (ofDevice held report.reporterDeviceId).card := by
    rw [← List.toFinset_card_of_nodup (distinct.filter _)]
    congr 1
    ext item
    rw [List.mem_toFinset, devices]
  have bound := stands.kept.bound report.reporterDeviceId
  rw [makeRoom, keys, List.length_map, count]
  split
  · next reached =>
    have full := Nat.le_antisymm bound reached
    rw [full]
    exact evictOldest_room stands keys devices (count.trans full) full
  · next below => exact .free (Nat.not_le.mp below)

end Room

end Gputeer.Coordinator.NeighborReportStore
