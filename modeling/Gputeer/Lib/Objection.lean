import Mathlib

/-! Confirmations and objections that carry a time and arrive in any order, any number of times. Two
registers are kept: the last confirmation and the objection that stands. At equal times the objection
stands. -/

namespace Objection

inductive Word (Time : Type) where
  | confirm (time : Time)
  | object (time : Time)

structure Record (Time : Type) where
  confirmed : Option Time
  objected : Option Time

section Heard

variable {Time : Type} (heard : Set (Word Time))

def objections : Set Time := {time | .object time ∈ heard}

def confirmations : Set Time := {time | .confirm time ∈ heard}

variable {heard : Set (Word Time)}

@[simp] theorem objections_insert_object (time : Time) :
    objections (insert (.object time) heard) = insert time (objections heard) := by
  ext other
  simp [objections]

@[simp] theorem objections_insert_confirm (time : Time) :
    objections (insert (.confirm time) heard) = objections heard := by
  ext other
  simp [objections]

@[simp] theorem confirmations_insert_confirm (time : Time) :
    confirmations (insert (.confirm time) heard) = insert time (confirmations heard) := by
  ext other
  simp [confirmations]

@[simp] theorem confirmations_insert_object (time : Time) :
    confirmations (insert (.object time) heard) = confirmations heard := by
  ext other
  simp [confirmations]

end Heard

variable {Time : Type} [LinearOrder Time]

def later (old : Option Time) (time : Time) : Time :=
  match old with
  | none => time
  | some old => max old time

/-- An objection before the last confirmation is dropped, and so is a confirmation that is not after
the objection. -/
def Record.hear (record : Record Time) : Word Time → Record Time
  | .object time =>
      if record.confirmed.all (· ≤ time) then
        { record with objected := some (later record.objected time) }
      else record
  | .confirm time =>
      if record.objected.any (time ≤ ·) then record
      else ⟨some (later record.confirmed time), none⟩

theorem all_le_iff {last : Option Time} {time : Time} :
    last.all (· ≤ time) = true ↔ ∀ earlier ∈ last, earlier ≤ time := by
  cases last <;> simp

/-- The greatest of some times, if there are any. -/
def IsLatest (times : Set Time) : Option Time → Prop
  | none => times = ∅
  | some time => IsGreatest times time

namespace IsLatest

variable {times : Set Time} {last : Option Time}

theorem insert (latest : IsLatest times last) (time : Time) :
    IsGreatest (insert time times) (later last time) := by
  cases last with
  | none =>
      obtain rfl : times = ∅ := latest
      simp [later]
  | some old =>
      rw [later, max_comm]
      exact IsGreatest.insert time latest

theorem mem (latest : IsLatest times last) : ∀ time ∈ last, time ∈ times := by
  rintro time rfl
  exact latest.1

theorem le (latest : IsLatest times last) {bound : Time} (below : ∀ time ∈ last, time ≤ bound) :
    bound ∈ upperBounds times := by
  cases last with
  | none =>
      obtain rfl : times = ∅ := latest
      simp
  | some old => exact fun time member => (latest.2 member).trans (below old rfl)

theorem unique {other : Option Time} (latest : IsLatest times last)
    (latestOther : IsLatest times other) : last = other := by
  cases last with
  | none =>
      obtain rfl : times = ∅ := latest
      cases other with
      | none => rfl
      | some time => exact absurd latestOther.1 (Set.notMem_empty time)
  | some time =>
      cases other with
      | none =>
          obtain rfl : times = ∅ := latestOther
          exact absurd latest.1 (Set.notMem_empty time)
      | some other => rw [latest.unique latestOther]

end IsLatest

/-- The registers say what was heard: an objection that no confirmation is after, or that every
objection was answered. -/
inductive Record.Judges (record : Record Time) (heard : Set (Word Time)) : Prop
  | standing {time : Time} (objected : record.objected = some time)
      (last : IsGreatest (objections heard) time)
      (unanswered : time ∈ upperBounds (confirmations heard))
      (known : ∀ earlier ∈ record.confirmed, earlier ∈ confirmations heard)
  | silent (objected : record.objected = none)
      (last : IsLatest (confirmations heard) record.confirmed)
      (answered : ∀ objection ∈ objections heard, ∃ confirmation ∈ confirmations heard,
        objection < confirmation)

/-- No confirmation that is written down is after the objection. -/
def Record.Settled (record : Record Time) : Prop :=
  ∀ confirmed ∈ record.confirmed, ∀ objected ∈ record.objected, confirmed ≤ objected

/-- The words that a record stands for by itself. -/
def Record.words (record : Record Time) : Set (Word Time) :=
  {word | match word with
    | .confirm time => time ∈ record.confirmed
    | .object time => time ∈ record.objected}

theorem Record.Settled.judges {record : Record Time} (settled : record.Settled) :
    record.Judges record.words := by
  rcases record with ⟨confirmed, objected | stands⟩
  · refine .silent rfl ?_ (by simp [words, objections])
    cases confirmed with
    | none => simp [IsLatest, words, confirmations]
    | some last => simp [IsLatest, words, confirmations]
  · refine .standing rfl ?_ ?_ ?_
    · simp [words, objections]
    · intro confirmation member
      exact settled confirmation member stands rfl
    · simp [words, confirmations]

namespace Record.Judges

variable {record : Record Time} {heard : Set (Word Time)}

theorem hear_object (judges : record.Judges heard) (time : Time) :
    (record.hear (.object time)).Judges (insert (.object time) heard) := by
  by_cases below : ∀ earlier ∈ record.confirmed, earlier ≤ time
  · rw [hear, if_pos (all_le_iff.mpr below)]
    cases judges with
    | @standing stands objected last unanswered known =>
        refine .standing rfl ?_ ?_ ?_
        · rw [objected, later, max_comm, objections_insert_object]
          exact last.insert time
        · rw [objected, confirmations_insert_object]
          exact fun earlier member => (unanswered member).trans (le_max_left stands time)
        · simpa using known
    | silent objected last answered =>
        have bound := last.le below
        refine .standing rfl ?_ ?_ ?_
        · rw [objected, later, objections_insert_object]
          refine ⟨Set.mem_insert time _, ?_⟩
          rintro objection (rfl | member)
          · exact le_rfl
          · obtain ⟨confirmation, confirmed, before⟩ := answered objection member
            exact before.le.trans (bound confirmed)
        · rw [objected, confirmations_insert_object]
          exact bound
        · simpa using last.mem
  · rw [hear, if_neg (all_le_iff.not.mpr below)]
    push Not at below
    obtain ⟨confirmed, found, before⟩ := below
    cases judges with
    | @standing stands objected last unanswered known =>
        refine .standing objected ?_ ?_ ?_
        · rw [objections_insert_object]
          refine ⟨Set.mem_insert_of_mem time last.1, ?_⟩
          rintro objection (rfl | member)
          · exact before.le.trans (unanswered (known confirmed found))
          · exact last.2 member
        · simpa using unanswered
        · simpa using known
    | silent objected last answered =>
        refine .silent objected (by simpa using last) ?_
        rw [objections_insert_object, confirmations_insert_object]
        rintro objection (rfl | member)
        · exact ⟨confirmed, last.mem confirmed found, before⟩
        · exact answered objection member

theorem hear_confirm (judges : record.Judges heard) (time : Time) :
    (record.hear (.confirm time)).Judges (insert (.confirm time) heard) := by
  cases judges with
  | @standing stands objected last unanswered known =>
      by_cases late : time ≤ stands
      · rw [hear, if_pos (by simpa [objected] using late)]
        refine .standing objected (by simpa using last) ?_ ?_
        · rw [confirmations_insert_confirm]
          rintro confirmation (rfl | member)
          · exact late
          · exact unanswered member
        · intro earlier found
          rw [confirmations_insert_confirm]
          exact Set.mem_insert_of_mem time (known earlier found)
      · have before : stands < time := not_le.mp late
        have newest : later record.confirmed time = time := by
          cases confirmed : record.confirmed with
          | none => rfl
          | some earlier =>
              have below := unanswered (known earlier confirmed)
              exact max_eq_right (below.trans before.le)
        rw [hear, if_neg (by simpa [objected] using before), newest]
        refine .silent rfl ?_ ?_
        · rw [confirmations_insert_confirm]
          refine ⟨Set.mem_insert time _, ?_⟩
          rintro confirmation (rfl | member)
          · exact le_rfl
          · exact (unanswered member).trans before.le
        · rw [objections_insert_confirm, confirmations_insert_confirm]
          intro objection member
          exact ⟨time, Set.mem_insert time _, (last.2 member).trans_lt before⟩
  | silent objected last answered =>
      rw [hear, if_neg (by simp [objected])]
      refine .silent rfl ?_ ?_
      · rw [confirmations_insert_confirm]
        exact last.insert time
      · rw [objections_insert_confirm, confirmations_insert_confirm]
        intro objection member
        obtain ⟨confirmation, confirmed, before⟩ := answered objection member
        exact ⟨confirmation, Set.mem_insert_of_mem time confirmed, before⟩

theorem hear (judges : record.Judges heard) (word : Word Time) :
    (record.hear word).Judges (insert word heard) := by
  cases word with
  | confirm time => exact judges.hear_confirm time
  | object time => exact judges.hear_object time

/-- The order of the words and their repetitions leave no trace in what is judged. -/
theorem hearAll (judges : record.Judges heard) (words : List (Word Time)) :
    (words.foldl Record.hear record).Judges (heard ∪ {word | word ∈ words}) := by
  induction words generalizing record heard with
  | nil => simpa using judges
  | cons word words ih =>
      have rest := ih (judges.hear word)
      have same : insert word heard ∪ {other | other ∈ words} =
          heard ∪ {other | other ∈ word :: words} := by
        ext other
        simp [or_left_comm, or_assoc]
      rw [same] at rest
      exact rest

theorem objected_iff (judges : record.Judges heard) :
    record.objected ≠ none ↔ ∃ objection ∈ objections heard,
      objection ∈ upperBounds (confirmations heard) := by
  cases judges with
  | @standing time objected last unanswered known =>
      simp only [objected, ne_eq, reduceCtorEq, not_false_eq_true, true_iff]
      exact ⟨time, last.1, unanswered⟩
  | silent objected last answered =>
      simp only [objected, ne_eq, not_true_eq_false, false_iff]
      rintro ⟨objection, member, bound⟩
      obtain ⟨confirmation, confirmed, before⟩ := answered objection member
      exact absurd (bound confirmed) (not_le.mpr before)

theorem last_confirmed (judges : record.Judges heard) (silent : record.objected = none) :
    IsLatest (confirmations heard) record.confirmed := by
  cases judges with
  | standing objected last unanswered known => simp [silent] at objected
  | silent objected last answered => exact last

/-- What was heard decides on the objection, and on the confirmation while none stands. -/
theorem unique {other : Record Time} (judges : record.Judges heard) (judgesOther : other.Judges heard) :
    record.objected = other.objected ∧ (record.objected = none → record = other) := by
  have stands := judges.objected_iff.trans judgesOther.objected_iff.symm
  cases judges with
  | @standing time objected last unanswered known =>
      cases judgesOther with
      | @standing time' objectedOther lastOther unansweredOther knownOther =>
          rw [objected, objectedOther, last.unique lastOther]
          exact ⟨rfl, fun silent => by cases silent⟩
      | silent objectedOther lastOther answeredOther => simp [objected, objectedOther] at stands
  | silent objected last answered =>
      cases judgesOther with
      | standing objectedOther lastOther unansweredOther knownOther =>
          simp [objected, objectedOther] at stands
      | silent objectedOther lastOther answeredOther =>
          have confirmed := last.unique lastOther
          rcases record with ⟨_, _⟩
          rcases other with ⟨_, _⟩
          simp_all

end Record.Judges

theorem Record.Settled.hear {record : Record Time} (settled : record.Settled) (word : Word Time) :
    (record.hear word).Settled := by
  cases settled.judges.hear word with
  | standing objected last unanswered known =>
      intro confirmed found stands there
      obtain rfl := Option.some.inj (objected.symm.trans there)
      exact unanswered (known confirmed found)
  | silent objected last answered =>
      intro confirmed found stands there
      simp [objected] at there

end Objection
