import Mathlib.Data.List.Basic
import Mathlib.Tactic.Common

/-! A sequence cut at a mark. -/

/-- What stands before a mark, or behind the last one. -/
structure Line (α : Type) where
  content : List α
  ended : Bool

namespace Lines

variable {α : Type} [DecidableEq α]

def whole (mark : α) (line : Line α) : List α := line.content ++ if line.ended then [mark] else []

/-- The lines of what is to come, with what was read of the first one already. -/
def linesFrom (mark : α) : List α → List α → List (Line α)
  | [], [] => []
  | seen@(_ :: _), [] => [⟨seen, false⟩]
  | seen, next :: rest =>
      if next = mark then ⟨seen, true⟩ :: linesFrom mark [] rest else linesFrom mark (seen ++ [next]) rest

def lines (mark : α) (sequence : List α) : List (Line α) := linesFrom mark [] sequence

variable {mark : α} {seen content rest : List α}

omit [DecidableEq α] in
@[simp] theorem whole_ended (mark : α) (content : List α) : whole mark ⟨content, true⟩ = content ++ [mark] := rfl

omit [DecidableEq α] in
@[simp] theorem whole_unended (mark : α) (content : List α) : whole mark ⟨content, false⟩ = content :=
  List.append_nil content

theorem linesFrom_cons (next : α) : linesFrom mark seen (next :: rest) =
    if next = mark then ⟨seen, true⟩ :: linesFrom mark [] rest else linesFrom mark (seen ++ [next]) rest := by
  cases seen <;> rfl

theorem linesFrom_nil (isSome : seen ≠ []) : linesFrom mark seen [] = [⟨seen, false⟩] := by
  cases seen with
  | nil => exact absurd rfl isSome
  | cons first seen => rfl

theorem linesFrom_append (unmarked : mark ∉ content) :
    linesFrom mark seen (content ++ rest) = linesFrom mark (seen ++ content) rest := by
  induction content generalizing seen with
  | nil => rw [List.nil_append, List.append_nil]
  | cons next content ih =>
      rw [List.mem_cons, not_or] at unmarked
      rw [List.cons_append, linesFrom_cons, if_neg (Ne.symm unmarked.1), ih unmarked.2, List.append_assoc,
        List.singleton_append]

/-- The first line ends at the first mark. -/
theorem lines_ended (unmarked : mark ∉ content) :
    lines mark (content ++ mark :: rest) = ⟨content, true⟩ :: lines mark rest := by
  rw [lines, linesFrom_append unmarked, List.nil_append, linesFrom_cons, if_pos rfl]
  rfl

theorem lines_unended (unmarked : mark ∉ content) (isSome : content ≠ []) :
    lines mark content = [⟨content, false⟩] := by
  have behind : linesFrom mark [] (content ++ []) = linesFrom mark ([] ++ content) [] := linesFrom_append unmarked
  rw [List.append_nil, List.nil_append] at behind
  rw [lines, behind, linesFrom_nil isSome]

/-- A sequence has its first mark somewhere, or none. -/
theorem exists_first_mark (mark : α) (sequence : List α) :
    mark ∉ sequence ∨ ∃ content rest, mark ∉ content ∧ sequence = content ++ mark :: rest := by
  by_cases marked : mark ∈ sequence
  · obtain ⟨content, rest, isSplit, first⟩ := List.eq_append_cons_of_mem marked
    exact .inr ⟨content, rest, first, isSplit⟩
  · exact .inl marked

/-- The first mark stands in one place. -/
theorem first_mark_unique {other otherRest : List α} (unmarked : mark ∉ content) (otherUnmarked : mark ∉ other)
    (same : content ++ mark :: rest = other ++ mark :: otherRest) : content = other ∧ rest = otherRest := by
  have cut : lines mark (content ++ mark :: rest) = lines mark (other ++ mark :: otherRest) := by rw [same]
  rw [lines_ended unmarked, lines_ended otherUnmarked] at cut
  have contents : content = other := (Line.mk.inj (List.cons.inj cut).1).1
  rw [contents] at same
  exact ⟨contents, (List.cons.inj (List.append_cancel_left same)).2⟩

omit [DecidableEq α] in
/-- A beginning without a mark ends before the first one. -/
theorem unmarked_before_first {first more : List α} (unmarked : mark ∉ first)
    (same : first ++ more = content ++ mark :: rest) : ∃ left, content = first ++ left ∧ more = left ++ mark :: rest := by
  rcases List.append_eq_append_iff.mp same with ⟨left, isContent, isMore⟩ | ⟨left, isFirst, isRest⟩
  · exact ⟨left, isContent, isMore⟩
  · cases left with
    | nil => exact ⟨[], by simpa using isFirst.symm, by simpa using isRest.symm⟩
    | cons next left =>
        rw [List.cons_append] at isRest
        rw [isFirst, ← (List.cons.inj isRest).1] at unmarked
        exact absurd (List.mem_append_right content List.mem_cons_self) unmarked

/-- Nothing is lost and nothing added. -/
theorem flatMap_whole_linesFrom (mark : α) (seen sequence : List α) :
    (linesFrom mark seen sequence).flatMap (whole mark) = seen ++ sequence := by
  induction sequence generalizing seen with
  | nil =>
      cases seen with
      | nil => rfl
      | cons first seen => simp [linesFrom, whole]
  | cons next rest ih =>
      rw [linesFrom_cons]
      split
      · next same => rw [List.flatMap_cons, ih, same]; simp [whole]
      · rw [ih, List.append_assoc, List.singleton_append]

theorem unmarked_linesFrom (unmarked : mark ∉ seen) (sequence : List α) :
    ∀ line ∈ linesFrom mark seen sequence, mark ∉ line.content := by
  induction sequence generalizing seen with
  | nil =>
      intro line listed
      cases seen with
      | nil => cases listed
      | cons first seen =>
          rw [linesFrom, List.mem_singleton] at listed
          rw [listed]
          exact unmarked
  | cons next rest ih =>
      intro line listed
      rw [linesFrom_cons] at listed
      split at listed
      · rcases List.mem_cons.mp listed with rfl | listed
        · exact unmarked
        · exact ih List.not_mem_nil line listed
      · next apart =>
        refine ih ?_ line listed
        rw [List.mem_append, List.mem_singleton, not_or]
        exact ⟨unmarked, Ne.symm apart⟩

/-- No line goes past a mark. -/
theorem unmarked_lines (mark : α) (sequence : List α) : ∀ line ∈ lines mark sequence, mark ∉ line.content :=
  unmarked_linesFrom List.not_mem_nil sequence

theorem flatMap_whole_lines (mark : α) (sequence : List α) :
    (lines mark sequence).flatMap (whole mark) = sequence :=
  flatMap_whole_linesFrom mark [] sequence

end Lines
