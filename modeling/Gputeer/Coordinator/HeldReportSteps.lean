import Gputeer.Coordinator.HeldReports

/-! What one call leaves of the reports that are held: it puts the new one in the place of an older one of its
pair, or beside the others, or in the place of the oldest of its device, or it changes nothing. -/

namespace Gputeer.Coordinator.NeighborReportStore

open Protocol

variable {codec : NeighborReportCodec} {ours device : String} {table : NeighborTable}
  {report old past : NeighborUnreachableReport} {held after : Finset NeighborUnreachableReport}
  {result : Except NeighborReportStoreError (NeighborTable × RecordOutcome)}

section Devices

theorem ofDevice_insert : ofDevice (insert report held) report.reporterDeviceId =
    insert report (ofDevice held report.reporterDeviceId) := by
  rw [ofDevice, Finset.filter_insert, if_pos rfl]
  rfl

theorem ofDevice_insert_ne (foreign : report.reporterDeviceId ≠ device) :
    ofDevice (insert report held) device = ofDevice held device := by
  rw [ofDevice, Finset.filter_insert, if_neg foreign]
  rfl

theorem ofDevice_erase : ofDevice (held.erase old) device = (ofDevice held device).erase old :=
  Finset.filter_erase _ _ _

theorem ofDevice_erase_ne (foreign : old.reporterDeviceId ≠ device) :
    ofDevice (held.erase old) device = ofDevice held device := by
  rw [ofDevice_erase, Finset.erase_eq_of_notMem fun member => foreign (mem_ofDevice.mp member).2]

theorem card_swap (member : old ∈ held) (absent : report ∉ held) :
    (insert report (held.erase old)).card = held.card := by
  rw [Finset.card_insert_of_notMem fun inside => absent (Finset.mem_of_mem_erase inside),
    Finset.card_erase_of_mem member]
  have some := Finset.card_pos.mpr ⟨old, member⟩
  omega

end Devices

/-- All that is held of the machine is from the device that reports. -/
def SameDevice (held : Finset NeighborUnreachableReport) (report : NeighborUnreachableReport) : Prop :=
  ∀ item ∈ held, item.reporterNodeId = report.reporterNodeId →
    item.reporterDeviceId = report.reporterDeviceId

/-- Nothing is held of the pair. -/
def NewPair (held : Finset NeighborUnreachableReport) (report : NeighborUnreachableReport) : Prop :=
  ∀ item ∈ held, pairOf item ≠ pairOf report

/-- What the transaction answers, and what is held then. -/
inductive Shelving (codec : NeighborReportCodec) (table : NeighborTable)
    (held : Finset NeighborUnreachableReport) (report : NeighborUnreachableReport) :
    Except NeighborReportStoreError (NeighborTable × RecordOutcome) →
    Finset NeighborUnreachableReport → Prop where
  | conflict {other : NeighborUnreachableReport} (fault : NeighborReportStoreError) (member : other ∈ held)
      (machine : other.reporterNodeId = report.reporterNodeId)
      (foreign : other.reporterDeviceId ≠ report.reporterDeviceId) :
      Shelving codec table held report (.error fault) held
  | notNewer {old : NeighborUnreachableReport} (device : SameDevice held report) (member : old ∈ held)
      (same : pairOf old = pairOf report) (older : report.observedAtUnixMs ≤ old.observedAtUnixMs) :
      Shelving codec table held report (.ok (table, .notNewer (storedOf codec old))) held
  | refused (fault : NeighborReportStoreError) (device : SameDevice held report)
      (absent : NewPair held report)
      (full : (ofDevice held report.reporterDeviceId).card = maxRowsPerReporterDevice)
      (older : ∀ item ∈ ofDevice held report.reporterDeviceId,
        report.observedAtUnixMs ≤ item.observedAtUnixMs) :
      Shelving codec table held report (.error fault) held
  | renewed {old : NeighborUnreachableReport} (device : SameDevice held report) (member : old ∈ held)
      (same : pairOf old = pairOf report) (newer : old.observedAtUnixMs < report.observedAtUnixMs) :
      Shelving codec table held report
        (.ok (insertReport codec table report, .recorded (storedOf codec report) []))
        (insert report (held.erase old))
  | added (device : SameDevice held report) (absent : NewPair held report)
      (room : (ofDevice held report.reporterDeviceId).card < maxRowsPerReporterDevice) :
      Shelving codec table held report
        (.ok (insertReport codec table report, .recorded (storedOf codec report) []))
        (insert report held)
  | evicted {oldest : NeighborUnreachableReport} (device : SameDevice held report)
      (absent : NewPair held report)
      (full : (ofDevice held report.reporterDeviceId).card = maxRowsPerReporterDevice)
      (member : oldest ∈ ofDevice held report.reporterDeviceId)
      (least : ∀ item ∈ ofDevice held report.reporterDeviceId,
        oldest.observedAtUnixMs ≤ item.observedAtUnixMs)
      (newer : oldest.observedAtUnixMs < report.observedAtUnixMs) :
      Shelving codec table held report
        (.ok (insertReport codec (table.erase (pairOf oldest)) report,
          .recorded (storedOf codec report) [storedOf codec oldest]))
        (insert report (held.erase oldest))

theorem recordWithin_shelving (stands : Stands codec ours table held) :
    ∃ after, Shelving codec table held report (recordWithin codec ours table report) after := by
  have found : Found codec held report (findExisting codec ours table report) :=
    findExisting_found stands
  rw [recordWithin]
  generalize findExisting codec ours table report = existing at found
  cases found with
  | conflict fault member machine foreign => exact ⟨held, .conflict fault member machine foreign⟩
  | row device member same =>
      rename_i old
      simp only [bind, Except.bind]
      by_cases older : report.observedAtUnixMs ≤ old.observedAtUnixMs
      · have shown : report.observedAtUnixMs ≤ (storedOf codec old).observedAtUnixMs := older
        rw [if_pos shown]
        exact ⟨held, .notNewer device member same older⟩
      · have shown : ¬ report.observedAtUnixMs ≤ (storedOf codec old).observedAtUnixMs := older
        rw [if_neg shown]
        exact ⟨_, .renewed device member same (UInt64.not_le.mp older)⟩
  | nothing device absent =>
      have room : Room codec table held report (makeRoom codec ours table report) :=
        makeRoom_room stands
      simp only [bind, Except.bind]
      generalize makeRoom codec ours table report = made at room
      cases room with
      | free room => exact ⟨_, .added device absent room⟩
      | refused fault full older => exact ⟨held, .refused fault device absent full older⟩
      | evicted full member least newer => exact ⟨_, .evicted device absent full member least newer⟩

/-- The table after a transaction: an error rolls it back. -/
def committed (table : NeighborTable) :
    Except NeighborReportStoreError (NeighborTable × RecordOutcome) → NeighborTable
  | .ok (next, _) => next
  | .error _ => table

namespace WellHeld

theorem put (kept : WellHeld codec ours held) (admissible : Admissible codec ours report)
    (sameDevice : SameDevice held report)
    (room : (ofDevice held report.reporterDeviceId).card < maxRowsPerReporterDevice) :
    WellHeld codec ours (insert report held) where
  admissible := Finset.forall_mem_insert _ _ _ |>.mpr ⟨admissible, kept.admissible⟩
  oneDevice := by
    intro item inside other otherInside machine
    rcases Finset.mem_insert.mp inside with rfl | member <;>
      rcases Finset.mem_insert.mp otherInside with rfl | otherMember
    · rfl
    · exact (sameDevice other otherMember machine.symm).symm
    · exact sameDevice item member machine
    · exact kept.oneDevice item member other otherMember machine
  bound := by
    intro device
    by_cases own : report.reporterDeviceId = device
    · rw [← own, ofDevice_insert]
      exact (Finset.card_insert_le _ _).trans room
    · rw [ofDevice_insert_ne own]
      exact kept.bound device

theorem drop (kept : WellHeld codec ours held) : WellHeld codec ours (held.erase old) where
  admissible := fun item inside => kept.admissible item (Finset.mem_of_mem_erase inside)
  oneDevice := fun item inside other otherInside =>
    kept.oneDevice item (Finset.mem_of_mem_erase inside) other (Finset.mem_of_mem_erase otherInside)
  bound := fun device =>
    (Finset.card_le_card (Finset.filter_subset_filter _ (Finset.erase_subset old held))).trans
      (kept.bound device)

/-- A report takes the place of another of its device. -/
theorem swap (kept : WellHeld codec ours held) (admissible : Admissible codec ours report)
    (sameDevice : SameDevice held report) (member : old ∈ ofDevice held report.reporterDeviceId) :
    WellHeld codec ours (insert report (held.erase old)) := by
  refine kept.drop.put admissible (fun item inside => sameDevice item (Finset.mem_of_mem_erase inside)) ?_
  rw [ofDevice_erase]
  exact (Finset.card_erase_lt_of_mem member).trans_le (kept.bound _)

end WellHeld

namespace Shelving

theorem mem_ofDevice_of_same (sameDevice : SameDevice held report) (member : old ∈ held)
    (same : pairOf old = pairOf report) : old ∈ ofDevice held report.reporterDeviceId :=
  mem_ofDevice.mpr ⟨member, sameDevice old member (congrArg ReportKey.reporterNodeId same)⟩

theorem stands (shelving : Shelving codec table held report result after)
    (stands : Stands codec ours table held) (admissible : Admissible codec ours report) :
    Stands codec ours (committed table result) after := by
  cases shelving with
  | conflict => exact stands
  | notNewer => exact stands
  | refused => exact stands
  | renewed sameDevice member same newer =>
      exact ⟨stands.shown.renew member same,
        stands.kept.swap admissible sameDevice (mem_ofDevice_of_same sameDevice member same)⟩
  | added sameDevice absent room =>
      exact ⟨stands.shown.put absent, stands.kept.put admissible sameDevice room⟩
  | evicted sameDevice absent full member least newer =>
      refine ⟨?_, stands.kept.swap admissible sameDevice member⟩
      exact (stands.shown.drop (mem_ofDevice.mp member).1).put fun item inside =>
        absent item (Finset.mem_of_mem_erase inside)

/-- Nothing is held that was not held before, but for the report itself. -/
theorem after_subset (shelving : Shelving codec table held report result after) :
    after ⊆ insert report held := by
  cases shelving with
  | conflict => exact Finset.subset_insert _ _
  | notNewer => exact Finset.subset_insert _ _
  | refused => exact Finset.subset_insert _ _
  | renewed => exact Finset.insert_subset_insert _ (Finset.erase_subset _ _)
  | added => exact subset_rfl
  | evicted => exact Finset.insert_subset_insert _ (Finset.erase_subset _ _)

/-- The reports of the other devices stay. -/
theorem ofDevice_eq (shelving : Shelving codec table held report result after)
    (foreign : report.reporterDeviceId ≠ device) : ofDevice after device = ofDevice held device := by
  cases shelving with
  | conflict => rfl
  | notNewer => rfl
  | refused => rfl
  | renewed sameDevice member same newer =>
      have own := (mem_ofDevice.mp (mem_ofDevice_of_same sameDevice member same)).2
      rw [ofDevice_insert_ne foreign, ofDevice_erase_ne (own ▸ foreign)]
  | added => exact ofDevice_insert_ne foreign
  | evicted sameDevice absent full member least newer =>
      have own := (mem_ofDevice.mp member).2
      rw [ofDevice_insert_ne foreign, ofDevice_erase_ne (own ▸ foreign)]

end Shelving

end Gputeer.Coordinator.NeighborReportStore
