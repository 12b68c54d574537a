import Gputeer.Coordinator.HeldReportSteps
import Gputeer.Lib.Freshest
import Gputeer.Lib.Trace

/-! Reports that come again, late and in any order: the store never goes back, and what it holds of a device
whose reports have times of their own does not hang on how they came. -/

namespace Gputeer.Coordinator.NeighborReportStore

open Protocol Text

structure Delivery where
  verified : Verified NeighborUnreachableReport
  /-- A statement of the transaction that fails. -/
  sqlFailure : Option String

/-- The report reaches the transaction, and the transaction is not cut short. -/
structure Delivered (ours : String) (delivery : Delivery) : Prop where
  valid : validateInput delivery.verified.inner = .ok ()
  signed : delivery.verified.signerId = delivery.verified.inner.reporterDeviceId
  addressed : delivery.verified.inner.coordinatorDeviceId = ours
  written : delivery.sqlFailure = none

instance (ours : String) (delivery : Delivery) : Decidable (Delivered ours delivery) :=
  decidable_of_iff ((validateInput delivery.verified.inner).toBool = true ∧
      delivery.verified.signerId = delivery.verified.inner.reporterDeviceId ∧
      delivery.verified.inner.coordinatorDeviceId = ours ∧ delivery.sqlFailure = none) <| by
    constructor
    · rintro ⟨valid, signed, addressed, written⟩
      refine ⟨?_, signed, addressed, written⟩
      cases read : validateInput delivery.verified.inner with
      | ok done => rfl
      | error fault => simp [read, Except.toBool] at valid
    · rintro ⟨valid, signed, addressed, written⟩
      exact ⟨by rw [valid]; rfl, signed, addressed, written⟩

/-- The reports that were delivered. -/
def arrived (ours : String) (deliveries : List Delivery) : Finset NeighborUnreachableReport :=
  ((deliveries.filter (Delivered ours ·)).map (·.verified.inner)).toFinset

section Calls

variable (codec : NeighborReportCodec) (ours : String)

def answer (table : NeighborTable) (delivery : Delivery) :
    Except NeighborReportStoreError (NeighborTable × RecordOutcome) :=
  recordVerifiedReport codec ours table delivery.verified delivery.sqlFailure

def deliver (table : NeighborTable) (delivery : Delivery) : NeighborTable :=
  committed table (answer codec ours table delivery)

/-- What an empty store has become. -/
def run (deliveries : List Delivery) : NeighborTable := Trace.run (deliver codec ours) ∅ deliveries

/-- The call after `before` put `report` on record. -/
def Records (before : List Delivery) (delivery : Delivery) : Prop :=
  ∃ next stored evicted,
    answer codec ours (run codec ours before) delivery = .ok (next, .recorded stored evicted)

variable (table : NeighborTable) {codec ours} {delivery : Delivery}

variable {table} in
theorem answer_of_delivered (delivered : Delivered ours delivery) :
    answer codec ours table delivery = recordWithin codec ours table delivery.verified.inner := by
  obtain ⟨valid, signed, addressed, written⟩ := delivered
  simp only [answer, recordVerifiedReport, valid, Except.ensure, if_pos signed, if_pos addressed, written]
  rfl

variable (codec) in
theorem answer_of_not_delivered (missed : ¬ Delivered ours delivery) :
    ∃ fault, answer codec ours table delivery = .error fault := by
  cases answered : answer codec ours table delivery with
  | error fault => exact ⟨fault, rfl⟩
  | ok done =>
      simp only [answer, recordVerifiedReport, Except.bind_eq_ok, Except.ensure_eq_ok] at answered
      obtain ⟨_, valid, _, signed, _, addressed, within⟩ := answered
      refine absurd ⟨valid, signed, addressed, ?_⟩ missed
      cases failure : delivery.sqlFailure with
      | none => rfl
      | some message =>
          rw [failure] at within
          cases within

end Calls

section Arrived

variable {ours : String} {deliveries : List Delivery} {delivery : Delivery}

theorem mem_arrived {report : NeighborUnreachableReport} : report ∈ arrived ours deliveries ↔
    ∃ delivery ∈ deliveries, Delivered ours delivery ∧ delivery.verified.inner = report := by
  simp [arrived, and_assoc]

theorem arrived_snoc (delivered : Delivered ours delivery) :
    arrived ours (deliveries ++ [delivery]) =
      insert delivery.verified.inner (arrived ours deliveries) := by
  ext report
  rw [Finset.mem_insert, mem_arrived, mem_arrived]
  constructor
  · rintro ⟨other, listed, arrives, rfl⟩
    rcases List.mem_append.mp listed with before | last
    · exact Or.inr ⟨other, before, arrives, rfl⟩
    · exact Or.inl (List.mem_singleton.mp last ▸ rfl)
  · rintro (rfl | ⟨other, listed, arrives, rfl⟩)
    · exact ⟨delivery, List.mem_append_right _ (List.mem_singleton_self _), delivered, rfl⟩
    · exact ⟨other, List.mem_append_left _ listed, arrives, rfl⟩

theorem arrived_snoc_of_not (missed : ¬ Delivered ours delivery) :
    arrived ours (deliveries ++ [delivery]) = arrived ours deliveries := by
  rw [arrived, List.filter_append, List.filter_singleton, decide_eq_false missed]
  simp [arrived]

end Arrived

section Superseded

variable {codec : NeighborReportCodec} {ours : String} {table next : NeighborTable}
  {report past stored : NeighborUnreachableReport} {held after : Finset NeighborUnreachableReport}
  {result : Except NeighborReportStoreError (NeighborTable × RecordOutcome)}

/-- No report of the pair that is not later than `past` is put on record any more: the row of the pair is as
late, or the device has no room and all its rows are as late. -/
def Superseded (shelf : Finset NeighborUnreachableReport) (past : NeighborUnreachableReport) : Prop :=
  (∃ item ∈ shelf, pairOf item = pairOf past ∧ past.observedAtUnixMs ≤ item.observedAtUnixMs) ∨
    (shelf.card = maxRowsPerReporterDevice ∧
      ∀ item ∈ shelf, past.observedAtUnixMs ≤ item.observedAtUnixMs)

namespace Superseded

variable {shelf : Finset NeighborUnreachableReport} {old : NeighborUnreachableReport}

theorem insert (superseded : Superseded shelf past) (room : shelf.card < maxRowsPerReporterDevice) :
    Superseded (insert report shelf) past := by
  rcases superseded with ⟨item, member, same, later⟩ | ⟨full, _⟩
  · exact Or.inl ⟨item, Finset.mem_insert_of_mem member, same, later⟩
  · exact absurd full room.ne

theorem renew (superseded : Superseded shelf past) (member : old ∈ shelf) (absent : report ∉ shelf)
    (samePair : pairOf old = pairOf report) (newer : old.observedAtUnixMs < report.observedAtUnixMs) :
    Superseded (Insert.insert report (shelf.erase old)) past := by
  have upTo : past.observedAtUnixMs ≤ old.observedAtUnixMs →
      past.observedAtUnixMs ≤ report.observedAtUnixMs :=
    fun earlier => UInt64.le_trans earlier (UInt64.le_of_lt newer)
  rcases superseded with ⟨item, inside, same, later⟩ | ⟨full, later⟩
  · left
    by_cases replaced : item = old
    · subst replaced
      exact ⟨report, Finset.mem_insert_self _ _, samePair.symm.trans same, upTo later⟩
    · exact ⟨item, Finset.mem_insert_of_mem (Finset.mem_erase.mpr ⟨replaced, inside⟩), same, later⟩
  · refine Or.inr ⟨(card_swap member absent).trans full, ?_⟩
    exact Finset.forall_mem_insert _ _ _ |>.mpr ⟨upTo (later old member),
      fun item inside => later item (Finset.mem_of_mem_erase inside)⟩

theorem evict (superseded : Superseded shelf past) (member : old ∈ shelf) (absent : report ∉ shelf)
    (full : shelf.card = maxRowsPerReporterDevice)
    (least : ∀ item ∈ shelf, old.observedAtUnixMs ≤ item.observedAtUnixMs)
    (newer : old.observedAtUnixMs < report.observedAtUnixMs) :
    Superseded (Insert.insert report (shelf.erase old)) past := by
  have crowded : past.observedAtUnixMs ≤ old.observedAtUnixMs →
      Superseded (Insert.insert report (shelf.erase old)) past := by
    intro earlier
    refine Or.inr ⟨(card_swap member absent).trans full, ?_⟩
    refine Finset.forall_mem_insert _ _ _ |>.mpr ⟨?_, fun item inside => ?_⟩
    · exact UInt64.le_trans earlier (UInt64.le_of_lt newer)
    · exact UInt64.le_trans earlier (least item (Finset.mem_of_mem_erase inside))
  rcases superseded with ⟨item, inside, same, later⟩ | ⟨_, later⟩
  · by_cases replaced : item = old
    · exact crowded (replaced ▸ later)
    · exact Or.inl ⟨item, Finset.mem_insert_of_mem (Finset.mem_erase.mpr ⟨replaced, inside⟩), same, later⟩
  · exact crowded (later old member)

end Superseded

namespace Shelving

theorem not_mem_of_newer (stands : Stands codec ours table held) {old : NeighborUnreachableReport}
    (member : old ∈ held) (same : pairOf old = pairOf report)
    (newer : old.observedAtUnixMs < report.observedAtUnixMs) : report ∉ held := by
  intro inside
  have equal := stands.shown.apart old member report inside same
  exact absurd newer (equal ▸ UInt64.lt_irrefl _)

theorem superseded (shelving : Shelving codec table held report result after)
    (stands : Stands codec ours table held)
    (before : Superseded (ofDevice held past.reporterDeviceId) past) :
    Superseded (ofDevice after past.reporterDeviceId) past := by
  by_cases own : report.reporterDeviceId = past.reporterDeviceId
  · rw [← own] at before ⊢
    have outside : report ∉ held → report ∉ ofDevice held report.reporterDeviceId :=
      fun absent inside => absent (mem_ofDevice.mp inside).1
    cases shelving with
    | conflict => exact before
    | notNewer => exact before
    | refused => exact before
    | renewed sameDevice member same newer =>
        rw [ofDevice_insert, ofDevice_erase]
        exact before.renew (mem_ofDevice_of_same sameDevice member same)
          (outside (not_mem_of_newer stands member same newer)) same newer
    | added sameDevice absent room =>
        rw [ofDevice_insert]
        exact before.insert room
    | evicted sameDevice absent full member least newer =>
        rw [ofDevice_insert, ofDevice_erase]
        exact before.evict member (outside fun inside => absent report inside rfl) full least newer
  · rw [shelving.ofDevice_eq own]
    exact before

variable {stored : StoredNeighborReport} {evicted : List StoredNeighborReport}

theorem superseded_of_recorded
    (shelving : Shelving codec table held report (.ok (next, .recorded stored evicted)) after) :
    Superseded (ofDevice after report.reporterDeviceId) report := by
  refine Or.inl ⟨report, mem_ofDevice.mpr ⟨?_, rfl⟩, rfl, UInt64.le_refl _⟩
  cases shelving <;> exact Finset.mem_insert_self _ _

/-- A pair goes on record only with a later time than it ever had there. -/
theorem newer_of_recorded
    (shelving : Shelving codec table held report (.ok (next, .recorded stored evicted)) after)
    (stands : Stands codec ours table held)
    (before : Superseded (ofDevice held report.reporterDeviceId) past)
    (samePair : pairOf past = pairOf report) : past.observedAtUnixMs < report.observedAtUnixMs := by
  cases shelving with
  | renewed sameDevice member same newer =>
      rename_i old
      refine UInt64.lt_of_le_of_lt ?_ newer
      rcases before with ⟨item, inside, itemPair, later⟩ | ⟨_, later⟩
      · have equal := stands.shown.apart item (mem_ofDevice.mp inside).1 old member
          ((itemPair.trans samePair).trans same.symm)
        exact equal ▸ later
      · exact later old (mem_ofDevice_of_same sameDevice member same)
  | added sameDevice absent room =>
      rcases before with ⟨item, inside, itemPair, _⟩ | ⟨full, _⟩
      · exact absurd (itemPair.trans samePair) (absent item (mem_ofDevice.mp inside).1)
      · exact absurd full room.ne
  | evicted sameDevice absent full member least newer =>
      rcases before with ⟨item, inside, itemPair, _⟩ | ⟨_, later⟩
      · exact absurd (itemPair.trans samePair) (absent item (mem_ofDevice.mp inside).1)
      · exact UInt64.lt_of_le_of_lt (later _ member) newer

end Shelving

end Superseded

end Gputeer.Coordinator.NeighborReportStore
