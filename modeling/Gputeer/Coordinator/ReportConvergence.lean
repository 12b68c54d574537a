import Gputeer.Coordinator.NeighborReportRuns

/-! What holds after any run of calls, and what a device's rows are in the end. -/

namespace Gputeer.Coordinator.NeighborReportStore

open Protocol Text Freshest

variable {codec : NeighborReportCodec} {ours device : String} {table next : NeighborTable}
  {report : NeighborUnreachableReport} {held after seen : Finset NeighborUnreachableReport}
  {result : Except NeighborReportStoreError (NeighborTable × RecordOutcome)}
  {deliveries : List Delivery} {delivery : Delivery}

def observedAt (report : NeighborUnreachableReport) : Nat := report.observedAtUnixMs.toNat

/-- The newest reports of the pairs of a device: as many as it may have rows. -/
def newestReports (seen : Finset NeighborUnreachableReport) : Finset NeighborUnreachableReport :=
  latest observedAt maxRowsPerReporterDevice (newest pairOf observedAt seen)

/-- The device's reports have times of their own, and no other device speaks for its machines. -/
structure Undisputed (ours : String) (deliveries : List Delivery) (device : String) : Prop where
  distinct : Distinct observedAt (ofDevice (arrived ours deliveries) device)
  alone : ∀ report ∈ ofDevice (arrived ours deliveries) device, ∀ other ∈ arrived ours deliveries,
    other.reporterNodeId = report.reporterNodeId → other.reporterDeviceId = device

section Step

theorem Shelving.keeps (shelving : Shelving codec table held report result after)
    (keeps : Keeps pairOf observedAt maxRowsPerReporterDevice seen
      (ofDevice held report.reporterDeviceId))
    (distinct : Distinct observedAt (insert report seen)) (alone : SameDevice held report) :
    Keeps pairOf observedAt maxRowsPerReporterDevice (insert report seen)
      (ofDevice after report.reporterDeviceId) := by
  have apart : NewPair held report → ∀ item ∈ ofDevice held report.reporterDeviceId,
      pairOf item ≠ pairOf report :=
    fun absent item inside => absent item (mem_ofDevice.mp inside).1
  cases shelving with
  | conflict fault member machine foreign => exact absurd (alone _ member machine) foreign
  | notNewer sameDevice member same older =>
      exact keeps.ignore distinct (mem_ofDevice_of_same sameDevice member same) same
        (UInt64.le_iff_toNat_le.mp older)
  | refused fault sameDevice absent full older =>
      exact keeps.refuse distinct full (apart absent) fun item inside =>
        UInt64.le_iff_toNat_le.mp (older item inside)
  | renewed sameDevice member same newer =>
      rw [ofDevice_insert, ofDevice_erase]
      exact keeps.replace distinct (mem_ofDevice_of_same sameDevice member same) same
        (UInt64.lt_iff_toNat_lt.mp newer)
  | added sameDevice absent room =>
      rw [ofDevice_insert]
      exact keeps.add room (apart absent)
  | evicted sameDevice absent full member least newer =>
      rw [ofDevice_insert, ofDevice_erase]
      exact keeps.evict distinct full (apart absent) member
        (fun item inside => UInt64.le_iff_toNat_le.mp (least item inside))
        (UInt64.lt_iff_toNat_lt.mp newer)

theorem Undisputed.earlier (undisputed : Undisputed ours (deliveries ++ [delivery]) device) :
    Undisputed ours deliveries device := by
  by_cases delivered : Delivered ours delivery
  · have grows : arrived ours deliveries ⊆ arrived ours (deliveries ++ [delivery]) :=
      arrived_snoc delivered ▸ Finset.subset_insert _ _
    have ofGrows := Finset.filter_subset_filter (·.reporterDeviceId = device) grows
    exact ⟨fun item inside other otherInside =>
        undisputed.distinct item (ofGrows inside) other (ofGrows otherInside),
      fun item inside other otherInside =>
        undisputed.alone item (ofGrows inside) other (grows otherInside)⟩
  · have same : arrived ours (deliveries ++ [delivery]) = arrived ours deliveries :=
      arrived_snoc_of_not delivered
    exact ⟨same ▸ undisputed.distinct, same ▸ undisputed.alone⟩

end Step

section Runs

/-- What the reports that are held tell about the calls so far. -/
structure Tracks (codec : NeighborReportCodec) (ours : String) (deliveries : List Delivery)
    (held : Finset NeighborUnreachableReport) : Prop where
  stands : Stands codec ours (run codec ours deliveries) held
  among : held ⊆ arrived ours deliveries
  past : ∀ before delivery, Trace.Took deliveries before delivery → Records codec ours before delivery →
    Superseded (ofDevice held delivery.verified.inner.reporterDeviceId) delivery.verified.inner
  keeps : ∀ device, Undisputed ours deliveries device →
    Keeps pairOf observedAt maxRowsPerReporterDevice (ofDevice (arrived ours deliveries) device)
      (ofDevice held device)

theorem run_snoc : run codec ours (deliveries ++ [delivery]) =
    committed (run codec ours deliveries) (answer codec ours (run codec ours deliveries) delivery) :=
  Trace.run_snoc _ _

theorem Tracks.empty : Tracks codec ours [] ∅ where
  stands := ⟨Table.Holds.empty, ⟨by simp, by simp, by simp [ofDevice]⟩⟩
  among := Finset.empty_subset _
  past := fun before delivery took => absurd took Trace.not_took_nil
  keeps := by
    intro device _
    exact Keeps.empty

/-- A call that is not delivered leaves everything as it was. -/
theorem Tracks.missed (tracks : Tracks codec ours deliveries held) (missed : ¬ Delivered ours delivery) :
    Tracks codec ours (deliveries ++ [delivery]) held := by
  obtain ⟨fault, failed⟩ := answer_of_not_delivered codec (run codec ours deliveries) missed
  have same : arrived ours (deliveries ++ [delivery]) = arrived ours deliveries :=
    arrived_snoc_of_not missed
  constructor
  · rw [run_snoc, failed]
    exact tracks.stands
  · exact same ▸ tracks.among
  · intro before last took records
    rcases Trace.took_snoc.mp took with earlier | ⟨rfl, rfl⟩
    · exact tracks.past before last earlier records
    · obtain ⟨_, _, _, recorded⟩ := records
      rw [failed] at recorded
      cases recorded
  · intro device undisputed
    rw [same]
    exact tracks.keeps device undisputed.earlier

theorem Tracks.delivered (tracks : Tracks codec ours deliveries held) (delivered : Delivered ours delivery)
    (shelving : Shelving codec (run codec ours deliveries) held delivery.verified.inner
      (answer codec ours (run codec ours deliveries) delivery) after)
    (admissible : Admissible codec ours delivery.verified.inner) :
    Tracks codec ours (deliveries ++ [delivery]) after := by
  have grown : arrived ours (deliveries ++ [delivery]) =
      insert delivery.verified.inner (arrived ours deliveries) := arrived_snoc delivered
  constructor
  case stands =>
    rw [run_snoc]
    exact shelving.stands tracks.stands admissible
  case among =>
    rw [grown]
    exact shelving.after_subset.trans (Finset.insert_subset_insert _ tracks.among)
  case past =>
    intro before last took records
    rcases Trace.took_snoc.mp took with earlier | ⟨rfl, rfl⟩
    · exact shelving.superseded tracks.stands (tracks.past before last earlier records)
    · obtain ⟨_, _, _, recorded⟩ := records
      rw [recorded] at shelving
      exact shelving.superseded_of_recorded
  case keeps =>
    intro device undisputed
    have keeps := tracks.keeps device undisputed.earlier
    by_cases own : delivery.verified.inner.reporterDeviceId = device
    · subst own
      have distinct := undisputed.distinct
      rw [grown, ofDevice_insert] at distinct ⊢
      refine shelving.keeps keeps distinct fun item inside machine => ?_
      refine undisputed.alone delivery.verified.inner ?_ item ?_ machine
      · exact mem_ofDevice.mpr ⟨grown ▸ Finset.mem_insert_self _ _, rfl⟩
      · exact grown ▸ Finset.mem_insert_of_mem (tracks.among inside)
    · rw [grown, ofDevice_insert_ne own, shelving.ofDevice_eq own]
      exact keeps

/-- The messages survive their encoding. -/
def ReportsDecode (codec : NeighborReportCodec) (deliveries : List Delivery) : Prop :=
  ∀ delivery ∈ deliveries,
    codec.decode (codec.encode delivery.verified.inner) = some delivery.verified.inner

theorem exists_tracks (decodes : ReportsDecode codec deliveries) :
    ∃ held, Tracks codec ours deliveries held := by
  induction deliveries using List.reverseRecOn with
  | nil => exact ⟨∅, Tracks.empty⟩
  | append_singleton deliveries delivery ih =>
      obtain ⟨held, tracks⟩ := ih fun other listed => decodes other (List.mem_append_left _ listed)
      by_cases delivered : Delivered ours delivery
      · obtain ⟨after, shelving⟩ : ∃ after, Shelving codec (run codec ours deliveries) held
            delivery.verified.inner _ after := recordWithin_shelving tracks.stands
        rw [← answer_of_delivered delivered] at shelving
        exact ⟨after, tracks.delivered delivered shelving ⟨delivered.valid, delivered.addressed,
          decodes delivery (List.mem_append_right _ (List.mem_singleton_self _))⟩⟩
      · exact ⟨held, tracks.missed delivered⟩

end Runs

section Promises

/-- What every table is like. -/
structure Sound (codec : NeighborReportCodec) (ours : String) (table : NeighborTable) : Prop where
  readable : ∀ (key : ReportKey) (row : NeighborRow), table[key]? = some row → ∃ stored,
    fetchReport codec ours table key = .ok (some stored) ∧ stored.key = key ∧
    stored.reporterDeviceId = row.reporterDeviceId ∧ stored.report.coordinatorDeviceId = ours
  listable : ∀ nodeId, isBlank nodeId = false →
    ∃ stored, reportsAbout codec ours table nodeId = .ok stored
  oneDevice : ∀ (key other : ReportKey) (row otherRow : NeighborRow), table[key]? = some row →
    table[other]? = some otherRow → key.reporterNodeId = other.reporterNodeId →
    row.reporterDeviceId = otherRow.reporterDeviceId
  bound : ∀ device, (table.toList.filter fun entry => entry.2.reporterDeviceId = device).length ≤
    maxRowsPerReporterDevice

/-- What a call does to the table is what it answers. -/
def Accounted (codec : NeighborReportCodec) (ours : String) (table next : NeighborTable)
    (report : NeighborUnreachableReport) :
    Except NeighborReportStoreError (NeighborTable × RecordOutcome) → Prop
  | .error _ => next = table
  | .ok (_, .notNewer stored) =>
      next = table ∧ fetchReport codec ours table (pairOf report) = .ok (some stored)
  | .ok (_, .recorded stored evicted) =>
      stored = storedOf codec report ∧ next[pairOf report]? = some (rowOf codec report) ∧
      next[pairOf report]? ≠ table[pairOf report]? ∧
      (∀ row ∈ evicted, row.key ≠ pairOf report ∧
        fetchReport codec ours table row.key = .ok (some row)) ∧
      ∀ key, key ≠ pairOf report →
        next[key]? = if key ∈ evicted.map (·.key) then none else table[key]?

/-- The rows of a device are those of its newest reports. -/
def RowsAreNewest (codec : NeighborReportCodec) (table : NeighborTable) (device : String)
    (seen : Finset NeighborUnreachableReport) : Prop :=
  ∀ (key : ReportKey) (row : NeighborRow),
    table[key]? = some row ∧ row.reporterDeviceId = device ↔
      ∃ report ∈ newestReports seen, pairOf report = key ∧ rowOf codec report = row

structure Converges (codec : NeighborReportCodec) (ours : String) (deliveries : List Delivery) : Prop where
  sound : Sound codec ours (run codec ours deliveries)
  accounted : ∀ before delivery, Trace.Took deliveries before delivery →
    Accounted codec ours (run codec ours before) (run codec ours (before ++ [delivery]))
      delivery.verified.inner (answer codec ours (run codec ours before) delivery)
  /-- Of the calls that put one pair of one device on record, the later has the later time. -/
  increasing : ∀ before first between second,
    Trace.Took deliveries (before ++ first :: between) second → Records codec ours before first →
    Records codec ours (before ++ first :: between) second →
    first.verified.inner.reporterDeviceId = second.verified.inner.reporterDeviceId →
    pairOf first.verified.inner = pairOf second.verified.inner →
    first.verified.inner.observedAtUnixMs < second.verified.inner.observedAtUnixMs
  newest : ∀ device, Undisputed ours deliveries device →
    RowsAreNewest codec (run codec ours deliveries) device (ofDevice (arrived ours deliveries) device)

theorem Stands.sound (stands : Stands codec ours table held) : Sound codec ours table where
  readable := by
    intro key row found
    obtain ⟨report, member, rfl, rfl⟩ := (stands.shown.rows key row).mp found
    exact ⟨storedOf codec report, stands.fetchReport_eq member, rfl, rfl,
      (stands.kept.admissible report member).addressed⟩
  listable := fun nodeId named => stands.reportsAbout_eq named
  oneDevice := by
    intro key other row otherRow found otherFound machine
    obtain ⟨report, member, rfl, rfl⟩ := (stands.shown.rows key row).mp found
    obtain ⟨second, otherMember, rfl, rfl⟩ := (stands.shown.rows other otherRow).mp otherFound
    exact stands.kept.oneDevice report member second otherMember machine
  bound := by
    intro device
    obtain ⟨listed, distinct, members, scan⟩ := stands.shown.exists_listed
    rw [scan, List.filter_map, List.length_map, ← List.toFinset_card_of_nodup (distinct.filter _)]
    refine (Finset.card_le_card fun item inside => ?_).trans (stands.kept.bound device)
    rw [List.mem_toFinset, List.mem_filter, members] at inside
    exact mem_ofDevice.mpr ⟨inside.1, of_decide_eq_true inside.2⟩

theorem Shelving.accounted (shelving : Shelving codec table held report result after)
    (stands : Stands codec ours table held) :
    Accounted codec ours table (committed table result) report result := by
  have written : ∀ (left : NeighborTable) (key : ReportKey), (insertReport codec left report)[key]? =
      if pairOf report = key then some (rowOf codec report) else left[key]? :=
    fun left key => Table.lookup_insert
  cases shelving with
  | conflict => rfl
  | refused => rfl
  | notNewer sameDevice member same older => exact ⟨rfl, same ▸ stands.fetchReport_eq member⟩
  | renewed sameDevice member same newer =>
      rename_i old
      refine ⟨rfl, by rw [committed, written, if_pos rfl], ?_, by simp, fun key other => ?_⟩
      · rw [committed, written, if_pos rfl, ← same, stands.shown.lookup member]
        intro equal
        have times := congrArg NeighborRow.observedAtUnixMs (Option.some.inj equal)
        exact absurd newer (encodeU64_injective times ▸ UInt64.lt_irrefl _)
      · rw [committed, written, if_neg other.symm]
        rfl
  | added sameDevice absent room =>
      refine ⟨rfl, by rw [committed, written, if_pos rfl], ?_, by simp, fun key other => ?_⟩
      · rw [committed, written, if_pos rfl, stands.shown.lookup_eq_none absent]
        exact Option.some_ne_none _
      · rw [committed, written, if_neg other.symm]
        rfl
  | evicted sameDevice absent full member least newer =>
      rename_i oldest
      have inside := (mem_ofDevice.mp member).1
      refine ⟨rfl, by rw [committed, written, if_pos rfl], ?_, ?_, fun key other => ?_⟩
      · rw [committed, written, if_pos rfl, stands.shown.lookup_eq_none absent]
        exact Option.some_ne_none _
      · rw [List.forall_mem_singleton]
        exact ⟨absent oldest inside, stands.fetchReport_eq inside⟩
      · rw [committed, written, if_neg other.symm, Table.lookup_erase, List.map_singleton]
        exact if_congr (eq_comm.trans List.mem_singleton.symm) rfl rfl

theorem Tracks.rowsAreNewest (tracks : Tracks codec ours deliveries held)
    (undisputed : Undisputed ours deliveries device) :
    RowsAreNewest codec (run codec ours deliveries) device (ofDevice (arrived ours deliveries) device) := by
  intro key row
  rw [newestReports, ← (tracks.keeps device undisputed).eq_latest, tracks.stands.shown.rows]
  constructor
  · rintro ⟨⟨report, member, rfl, rfl⟩, own⟩
    exact ⟨report, mem_ofDevice.mpr ⟨member, own⟩, rfl, rfl⟩
  · rintro ⟨report, inside, rfl, rfl⟩
    obtain ⟨member, own⟩ := mem_ofDevice.mp inside
    exact ⟨⟨report, member, rfl, rfl⟩, own⟩

theorem ReportsDecode.took {before : List Delivery} (decodes : ReportsDecode codec deliveries)
    (took : Trace.Took deliveries before delivery) :
    ReportsDecode codec before ∧
      codec.decode (codec.encode delivery.verified.inner) = some delivery.verified.inner := by
  obtain ⟨rest, rfl⟩ := took
  exact ⟨fun other listed => decodes other (List.mem_append_left _ listed),
    decodes delivery (List.mem_append_right _ List.mem_cons_self)⟩

theorem accounted_of_took {before : List Delivery} (decodes : ReportsDecode codec deliveries)
    (took : Trace.Took deliveries before delivery) :
    Accounted codec ours (run codec ours before) (run codec ours (before ++ [delivery]))
      delivery.verified.inner (answer codec ours (run codec ours before) delivery) := by
  obtain ⟨held, tracks⟩ : ∃ held, Tracks codec ours before held := exists_tracks (decodes.took took).1
  rw [run_snoc]
  by_cases delivered : Delivered ours delivery
  · obtain ⟨after, shelving⟩ : ∃ after, Shelving codec (run codec ours before) held
        delivery.verified.inner _ after := recordWithin_shelving tracks.stands
    rw [← answer_of_delivered delivered] at shelving
    exact shelving.accounted tracks.stands
  · obtain ⟨fault, failed⟩ := answer_of_not_delivered codec (run codec ours before) delivered
    rw [failed]
    rfl

theorem increasing_of_took {before between : List Delivery} {first second : Delivery}
    (decodes : ReportsDecode codec deliveries)
    (later : Trace.Took deliveries (before ++ first :: between) second)
    (records : Records codec ours before first)
    (recordsLater : Records codec ours (before ++ first :: between) second)
    (sameDevice : first.verified.inner.reporterDeviceId = second.verified.inner.reporterDeviceId)
    (samePair : pairOf first.verified.inner = pairOf second.verified.inner) :
    first.verified.inner.observedAtUnixMs < second.verified.inner.observedAtUnixMs := by
  obtain ⟨held, tracks⟩ : ∃ held, Tracks codec ours (before ++ first :: between) held :=
    exists_tracks (decodes.took later).1
  have superseded := tracks.past before first ⟨between, rfl⟩ records
  obtain ⟨next, stored, evicted, answered⟩ := recordsLater
  have delivered : Delivered ours second := by
    by_contra missed
    obtain ⟨fault, failed⟩ := answer_of_not_delivered codec
      (run codec ours (before ++ first :: between)) missed
    rw [failed] at answered
    cases answered
  obtain ⟨after, shelving⟩ : ∃ after, Shelving codec (run codec ours (before ++ first :: between)) held
      second.verified.inner _ after := recordWithin_shelving tracks.stands
  rw [← answer_of_delivered delivered, answered] at shelving
  exact shelving.newer_of_recorded tracks.stands (sameDevice ▸ superseded) samePair

/-- Reports may come in any order and as often as they like, from any devices, and calls may fail. -/
theorem neighbor_reports_converge (decodes : ReportsDecode codec deliveries) :
    Converges codec ours deliveries := by
  obtain ⟨held, tracks⟩ : ∃ held, Tracks codec ours deliveries held := exists_tracks decodes
  constructor
  case sound => exact tracks.stands.sound
  case accounted => exact fun before delivery took => accounted_of_took decodes took
  case increasing =>
    intro before first between second later records recordsLater sameDevice samePair
    exact increasing_of_took decodes later records recordsLater sameDevice samePair
  case newest => exact fun device undisputed => tracks.rowsAreNewest undisputed

end Promises

section Late

def unreachableReport (observedAtUnixMs : UInt64) (mark : UInt8) : NeighborUnreachableReport where
  schemaVersion := 4
  reporterNodeId := "node-a"
  reporterDeviceId := "device-a"
  unreachableNodeId := "node-b"
  coordinatorDeviceId := "coordinator"
  observedAtUnixMs
  requestNonce := List.replicate 16 mark
  reporterSignature := List.replicate 64 (mark + 4)

def unreachableReportBody (observedAt : List UInt8) (mark : UInt8) : List UInt8 :=
  [8, 4, 18, 6, 110, 111, 100, 101, 45, 97, 26, 8, 100, 101, 118, 105, 99, 101, 45, 97, 34, 6, 110, 111,
    100, 101, 45, 98, 42, 11, 99, 111, 111, 114, 100, 105, 110, 97, 116, 111, 114, 48] ++ observedAt ++
    [58, 16] ++ List.replicate 16 mark ++ [210, 5, 64] ++ List.replicate 64 (mark + 4)

def earlierReport : NeighborUnreachableReport := unreachableReport 100 1

def laterReport : NeighborUnreachableReport := unreachableReport 200 2

def earlierBody : List UInt8 := unreachableReportBody [100] 1

def laterBody : List UInt8 := unreachableReportBody [200, 1] 2

/-- The encoding of the two reports, with their digests. -/
def twoReportCodec : NeighborReportCodec where
  encode := fun report =>
    if report = earlierReport then earlierBody else if report = laterReport then laterBody else []
  decode := fun body =>
    if body = [] then some default
    else if body = earlierBody then some earlierReport
    else if body = laterBody then some laterReport else none
  blake3 := fun body =>
    if body = earlierBody then
      #v[72, 80, 73, 232, 232, 45, 217, 217, 217, 237, 146, 254, 228, 74, 156, 191,
        70, 36, 182, 174, 243, 93, 32, 225, 61, 48, 40, 173, 187, 189, 130, 216]
    else if body = laterBody then
      #v[183, 181, 50, 212, 56, 169, 18, 36, 113, 174, 124, 62, 121, 250, 212, 211,
        172, 126, 179, 188, 192, 161, 18, 82, 198, 235, 220, 102, 35, 33, 77, 201]
    else Vector.replicate 32 0
  decode_nil := rfl

/-- The later report overtakes the earlier one, which comes twice, the first time in vain. -/
def overtakenDeliveries : List Delivery :=
  [⟨⟨earlierReport, "device-a", .checked⟩, some "database is locked"⟩,
    ⟨⟨laterReport, "device-a", .checked⟩, none⟩, ⟨⟨earlierReport, "device-a", .checked⟩, none⟩]

theorem overtaken_report_is_not_kept : Converges twoReportCodec "coordinator" overtakenDeliveries ∧
    (run twoReportCodec "coordinator" overtakenDeliveries).toList =
      [(⟨"node-a", "node-b"⟩, rowOf twoReportCodec laterReport)] :=
  ⟨neighbor_reports_converge (by unfold ReportsDecode; decide +kernel), by decide +kernel⟩

end Late

end Gputeer.Coordinator.NeighborReportStore
