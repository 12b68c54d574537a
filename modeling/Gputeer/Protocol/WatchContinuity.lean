import Gputeer.Lib.Word
import Mathlib.Tactic.Common

/-! The subscriber's side of a control-plane watch stream: which received events may extend a cursor
that was accepted before. -/

namespace Gputeer.Protocol

structure Cursor where
  index : UInt64
  term : UInt64
  deriving DecidableEq, Repr

namespace WatchEvent

inductive Kind
  | event
  | reset
  deriving DecidableEq, Repr

end WatchEvent

structure WatchEvent where
  kind : Option WatchEvent.Kind
  cursor : Option Cursor
  deriving DecidableEq, Repr

inductive CursorRegression
  | duplicateIndex
  | indexRegression
  | termRegression
  deriving DecidableEq, Repr

inductive IndeterminateReason
  | missingEventKind
  | missingCursor
  | termAdvanced
  deriving DecidableEq, Repr

inductive WatchDiscontinuity
  | gap (previous received : Cursor)
  | duplicateOrRegression (previous received : Cursor) (kind : CursorRegression)
  | watchReset
  | indeterminate (previous received : Option Cursor) (reason : IndeterminateReason)
  deriving DecidableEq, Repr

inductive WatchContinuityOutcome
  | continuous (acceptedCursor : Option Cursor)
  | resynchronize (cause : WatchDiscontinuity)
  deriving DecidableEq, Repr

structure WatchContinuityReport where
  outcome : WatchContinuityOutcome
  deriving DecidableEq, Repr

def resynchronize (cause : WatchDiscontinuity) : WatchContinuityReport := ⟨.resynchronize cause⟩

def compareCursors (previous received : Cursor) : Option WatchDiscontinuity :=
  if received.term < previous.term then
    some (.duplicateOrRegression previous received .termRegression)
  else if previous.term < received.term then
    some (.indeterminate (some previous) (some received) .termAdvanced)
  else if received.index < previous.index then
    some (.duplicateOrRegression previous received .indexRegression)
  else if received.index = previous.index then
    some (.duplicateOrRegression previous received .duplicateIndex)
  else if previous.index.checkedAdd 1 = some received.index then
    none
  else
    some (.gap previous received)

/-- The loop over the received events. -/
def acceptEvents (accepted : Option Cursor) : List WatchEvent → WatchContinuityReport
  | [] => ⟨.continuous accepted⟩
  | event :: events =>
      match event.kind, event.cursor with
      | none, cursor => resynchronize (.indeterminate accepted cursor .missingEventKind)
      | some .event, none => resynchronize (.indeterminate accepted none .missingCursor)
      | some .event, some received =>
          match accepted.bind (compareCursors · received) with
          | some cause => resynchronize cause
          | none => acceptEvents (some received) events
      | some .reset, _ => resynchronize .watchReset

/-- A reset is looked for in the whole input before any event is taken. -/
def evaluateWatchContinuity (previous : Option Cursor) (events : List WatchEvent) : WatchContinuityReport :=
  if events.any (·.kind = some .reset) then resynchronize .watchReset else acceptEvents previous events

/-- A subscriber that is given its events in batches, each evaluated from the cursor it accepted last. -/
def evaluateBatches (previous : Option Cursor) : List (List WatchEvent) → WatchContinuityReport
  | [] => ⟨.continuous previous⟩
  | batch :: batches =>
      match (evaluateWatchContinuity previous batch).outcome with
      | .continuous accepted => evaluateBatches accepted batches
      | .resynchronize cause => resynchronize cause

/-! ### What a continuous stream is -/

/-- No control event lies between the two. -/
def Cursor.Succeeds (received previous : Cursor) : Prop :=
  received.term = previous.term ∧ received.index.toNat = previous.index.toNat + 1

/-- The events lead a subscriber from one cursor to another with nothing missing between them. -/
inductive Leads : Option Cursor → List WatchEvent → Option Cursor → Prop
  | stays (cursor : Option Cursor) : Leads cursor [] cursor
  | takes {accepted last : Option Cursor} {received : Cursor} {events : List WatchEvent}
      (next : ∀ previous ∈ accepted, received.Succeeds previous) (rest : Leads (some received) events last) :
      Leads accepted (⟨some .event, some received⟩ :: events) last

variable {previous received : Cursor} {accepted last : Option Cursor} {events : List WatchEvent}

theorem compareCursors_eq_none : compareCursors previous received = none ↔ received.Succeeds previous := by
  unfold compareCursors Cursor.Succeeds
  simp only [UInt64.lt_iff_toNat_lt, ← UInt64.toNat_inj, UInt64.checkedAdd_eq_some, UInt64.toNat_one]
  split_ifs with earlier later before same next <;> simp only [true_iff, false_iff] <;> omega

namespace Leads

theorem append {mid : Option Cursor} {more : List WatchEvent} (first : Leads accepted events mid)
    (second : Leads mid more last) : Leads accepted (events ++ more) last := by
  induction first with
  | stays cursor => exact second
  | takes next rest ih => exact .takes next (ih second)

theorem of_append {more : List WatchEvent} (whole : Leads accepted (events ++ more) last) :
    ∃ mid, Leads accepted events mid ∧ Leads mid more last := by
  induction events generalizing accepted with
  | nil => exact ⟨accepted, .stays accepted, whole⟩
  | cons event events ih =>
      cases whole with
      | takes next rest =>
          obtain ⟨mid, first, second⟩ := ih rest
          exact ⟨mid, .takes next first, second⟩

theorem flatten_cons {batch : List WatchEvent} {batches : List (List WatchEvent)} :
    Leads accepted (batch :: batches).flatten last ↔
      ∃ mid, Leads accepted batch mid ∧ Leads mid batches.flatten last := by
  rw [List.flatten_cons]
  constructor
  · exact of_append
  · rintro ⟨mid, first, second⟩
    exact first.append second

/-- An event that is not the plain kind with a cursor leads nowhere. -/
theorem plain (leads : Leads accepted events last) :
    ∀ event ∈ events, ∃ received, event = ⟨some .event, some received⟩ := by
  induction leads with
  | stays cursor => simp
  | takes next rest ih => exact List.forall_mem_cons.mpr ⟨⟨_, rfl⟩, ih⟩

/-- From a known cursor the `i`-th event is the `i`-th after it: the sum is one of numbers, not of words. -/
theorem counts (leads : Leads (some previous) events last) (i : Nat) (inside : i < events.length) :
    ∃ received : Cursor, events[i] = ⟨some .event, some received⟩ ∧ received.term = previous.term ∧
      received.index.toNat = previous.index.toNat + (i + 1) := by
  generalize known : some previous = start at leads
  induction leads generalizing previous i with
  | stays cursor => cases inside
  | @takes _ _ received events next rest ih =>
      obtain ⟨sameTerm, successive⟩ := next previous known.symm
      cases i with
      | zero => exact ⟨received, rfl, sameTerm, successive⟩
      | succ i =>
          obtain ⟨later, here, term, index⟩ := ih i (by simpa using inside) rfl
          exact ⟨later, here, term.trans sameTerm, by omega⟩

theorem ends (leads : Leads (some previous) events last) :
    ∃ final : Cursor, last = some final ∧ final.term = previous.term ∧
      final.index.toNat = previous.index.toNat + events.length := by
  generalize known : some previous = start at leads
  induction leads generalizing previous with
  | stays cursor => exact ⟨previous, known.symm, rfl, rfl⟩
  | @takes _ _ received events next rest ih =>
      obtain ⟨sameTerm, successive⟩ := next previous known.symm
      obtain ⟨final, here, term, index⟩ := ih rfl
      refine ⟨final, here, term.trans sameTerm, ?_⟩
      rw [index, successive, List.length_cons]
      omega

end Leads

/-! ### The code decides it -/

theorem acceptEvents_eq_continuous :
    acceptEvents accepted events = ⟨.continuous last⟩ ↔ Leads accepted events last := by
  induction events generalizing accepted with
  | nil =>
      simp only [acceptEvents, WatchContinuityReport.mk.injEq, WatchContinuityOutcome.continuous.injEq]
      constructor
      · rintro rfl
        exact .stays _
      · rintro ⟨⟩
        rfl
  | cons event events ih =>
      obtain ⟨kind, cursor⟩ := event
      constructor
      · intro ended
        unfold acceptEvents at ended
        split at ended
        · cases ended
        · cases ended
        · rename_i received plain carried
          split at ended
          · cases ended
          · rename_i compared
            obtain rfl : kind = some .event := plain
            obtain rfl : cursor = some received := carried
            refine .takes ?_ (ih.mp ended)
            intro previous known
            rw [Option.mem_def.mp known, Option.bind_some] at compared
            exact compareCursors_eq_none.mp compared
        · cases ended
      · rintro ⟨⟩
        rename_i received next rest
        have compared : accepted.bind (compareCursors · received) = none :=
          Option.bind_eq_none_iff.mpr fun previous known =>
            compareCursors_eq_none.mpr (next previous (Option.mem_def.mpr known))
        simp only [acceptEvents, compared]
        exact ih.mpr rest

theorem evaluateWatchContinuity_eq_continuous :
    (evaluateWatchContinuity accepted events).outcome = .continuous last ↔ Leads accepted events last := by
  rw [← acceptEvents_eq_continuous, evaluateWatchContinuity]
  split
  · -- a stream with a reset in it leads nowhere, wherever the reset stands
    rename_i reset
    obtain ⟨event, listed, isReset⟩ := List.any_eq_true.mp reset
    rw [acceptEvents_eq_continuous]
    constructor
    · intro ended
      cases ended
    · intro leads
      obtain ⟨received, rfl⟩ := leads.plain event listed
      simp at isReset
  · constructor
    · intro ended
      exact congrArg WatchContinuityReport.mk ended
    · intro ended
      rw [ended]

theorem evaluateBatches_eq_continuous {batches : List (List WatchEvent)} :
    (evaluateBatches accepted batches).outcome = .continuous last ↔ Leads accepted batches.flatten last := by
  induction batches generalizing accepted with
  | nil =>
      rw [List.flatten_nil, ← evaluateWatchContinuity_eq_continuous]
      rfl
  | cons batch batches ih =>
      rw [Leads.flatten_cons]
      unfold evaluateBatches
      constructor
      · intro ended
        split at ended
        · rename_i mid first
          exact ⟨mid, evaluateWatchContinuity_eq_continuous.mp first, ih.mp ended⟩
        · cases ended
      · rintro ⟨mid, first, second⟩
        rw [evaluateWatchContinuity_eq_continuous.mpr first]
        exact ih.mpr second

/-- Where the batches end does not matter, and a stream that is continuous from a known cursor is the run
of plain events right after it. -/
theorem batches_agree_with_the_stream (accepted last : Option Cursor) (batches : List (List WatchEvent)) :
    ((evaluateBatches accepted batches).outcome = .continuous last ↔
      (evaluateWatchContinuity accepted batches.flatten).outcome = .continuous last) ∧
    ∀ previous events, (evaluateWatchContinuity (some previous) events).outcome = .continuous last →
      (∀ event ∈ events, event.kind ≠ some .reset ∧ event.kind.isSome ∧ event.cursor.isSome) ∧
      (∀ (i : Nat) (inside : i < events.length), ∃ received : Cursor, events[i].cursor = some received ∧
        received.term = previous.term ∧ received.index.toNat = previous.index.toNat + (i + 1)) ∧
      ∃ final : Cursor, last = some final ∧ final.term = previous.term ∧
        final.index.toNat = previous.index.toNat + events.length := by
  constructor
  · rw [evaluateBatches_eq_continuous, evaluateWatchContinuity_eq_continuous]
  · intro previous events continuous
    have leads := evaluateWatchContinuity_eq_continuous.mp continuous
    refine ⟨?_, ?_, leads.ends⟩
    · intro event listed
      obtain ⟨received, rfl⟩ := leads.plain event listed
      exact ⟨by simp, rfl, rfl⟩
    · intro i inside
      obtain ⟨received, here, term, index⟩ := leads.counts i inside
      exact ⟨received, by rw [here], term, index⟩

/-- Two batches up to the largest index. -/
theorem two_batches_reach_the_largest_index :
    (evaluateBatches (some ⟨UInt64.maxValue - 2, 7⟩) [[⟨some .event, some ⟨UInt64.maxValue - 1, 7⟩⟩],
      [⟨some .event, some ⟨UInt64.maxValue, 7⟩⟩]]).outcome = .continuous (some ⟨UInt64.maxValue, 7⟩) ∧
    ∃ final : Cursor, some ⟨UInt64.maxValue, 7⟩ = some final ∧ final.term = 7 ∧
      final.index.toNat = (UInt64.maxValue - 2).toNat + 2 := by
  obtain ⟨agree, counted⟩ := batches_agree_with_the_stream (some ⟨UInt64.maxValue - 2, 7⟩)
    (some ⟨UInt64.maxValue, 7⟩) [[⟨some .event, some ⟨UInt64.maxValue - 1, 7⟩⟩],
      [⟨some .event, some ⟨UInt64.maxValue, 7⟩⟩]]
  have whole : (evaluateWatchContinuity (some ⟨UInt64.maxValue - 2, 7⟩)
      [⟨some .event, some ⟨UInt64.maxValue - 1, 7⟩⟩, ⟨some .event, some ⟨UInt64.maxValue, 7⟩⟩]).outcome =
        .continuous (some ⟨UInt64.maxValue, 7⟩) := by decide
  exact ⟨agree.mpr whole, (counted _ _ whole).2.2⟩

/-- At the largest index no event can follow. -/
example : evaluateWatchContinuity (some ⟨UInt64.maxValue, 7⟩) [⟨some .event, some ⟨0, 7⟩⟩] =
    resynchronize (.duplicateOrRegression ⟨UInt64.maxValue, 7⟩ ⟨0, 7⟩ .indexRegression) := by decide

end Gputeer.Protocol
