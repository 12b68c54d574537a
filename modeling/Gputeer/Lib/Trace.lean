import Mathlib.Data.List.Induction
import Mathlib.Tactic.Common

/-! Runs of a deterministic machine: a list of inputs folded over a start state. -/

namespace Trace

variable {State Input : Type}

def run (step : State → Input → State) (start : State) (inputs : List Input) : State :=
  inputs.foldl step start

/-- `input` was taken in `inputs` right after `before`. -/
def Took (inputs before : List Input) (input : Input) : Prop :=
  ∃ after, inputs = before ++ input :: after

variable {step : State → Input → State} {start : State}

@[simp] theorem run_nil : run step start [] = start := rfl

@[simp] theorem run_snoc (inputs : List Input) (input : Input) :
    run step start (inputs ++ [input]) = step (run step start inputs) input := by
  simp [run]

theorem not_took_nil {before : List Input} {input : Input} : ¬ Took [] before input := by
  rintro ⟨after, same⟩
  simp at same

theorem took_snoc {inputs before : List Input} {last input : Input} :
    Took (inputs ++ [last]) before input ↔
      Took inputs before input ∨ (before = inputs ∧ input = last) := by
  constructor
  · rintro ⟨after, same⟩
    rcases List.eq_nil_or_concat after with rfl | ⟨rest, tail, rfl⟩
    · obtain ⟨rfl, same⟩ := List.append_inj' same rfl
      exact Or.inr ⟨rfl, by simpa using same.symm⟩
    · have reassociated : inputs ++ [last] = (before ++ input :: rest) ++ [tail] := by
        simpa using same
      obtain ⟨rfl, -⟩ := List.append_inj' reassociated rfl
      exact Or.inl ⟨rest, rfl⟩
  · rintro (⟨after, rfl⟩ | ⟨rfl, rfl⟩)
    · exact ⟨after ++ [last], by simp⟩
    · exact ⟨[], rfl⟩

theorem took_append {before after rest : List Input} {input : Input} :
    Took (before ++ input :: after ++ rest) before input :=
  ⟨after ++ rest, by simp⟩

theorem forall_took_nil {Property : List Input → Input → Prop} :
    ∀ before input, Took [] before input → Property before input :=
  fun _ _ took => (not_took_nil took).elim

/-- What holds of each input and what was before it, input by input. -/
theorem forall_took_cons {Property : List Input → Input → Prop} {first : Input} {rest : List Input}
    (atFirst : Property [] first)
    (later : ∀ before input, Took rest before input → Property (first :: before) input) :
    ∀ before input, Took (first :: rest) before input → Property before input := by
  intro before input took
  obtain ⟨after, same⟩ := took
  cases before with
  | nil =>
      obtain ⟨rfl, rfl⟩ := List.cons.inj same
      exact atFirst
  | cons head before =>
      obtain ⟨rfl, isRest⟩ := List.cons.inj same
      exact later before input ⟨after, isRest⟩

/-- A property of the history and the state reached holds of every run when it holds at the
start and one more input keeps it. -/
theorem induction (Property : List Input → State → Prop) (atStart : Property [] start)
    (kept : ∀ inputs input, Property inputs (run step start inputs) →
      Property (inputs ++ [input]) (step (run step start inputs) input))
    (inputs : List Input) : Property inputs (run step start inputs) := by
  induction inputs using List.reverseRecOn with
  | nil => exact atStart
  | append_singleton inputs input ih =>
      rw [run_snoc]
      exact kept inputs input ih

/-- What holds right after an input was taken, and is kept by every later one, holds in the end. -/
theorem kept_since (Kept : State → Prop) {inputs before : List Input} {input : Input}
    (took : Took inputs before input) (starts : Kept (step (run step start before) input))
    (kept : ∀ earlier later, Kept (run step start earlier) →
      Kept (step (run step start earlier) later)) : Kept (run step start inputs) := by
  obtain ⟨after, rfl⟩ := took
  induction after using List.reverseRecOn with
  | nil =>
      rw [run_snoc]
      exact starts
  | append_singleton after last ih =>
      rw [show before ++ input :: (after ++ [last]) = (before ++ input :: after) ++ [last] by simp,
        run_snoc]
      exact kept _ _ ih

/-- What holds at some time still holds when every input since then kept it. -/
theorem kept_through (Kept : State → Prop) {inputs rest : List Input} (starts : Kept (run step start inputs))
    (kept : ∀ before input, Took rest before input → Kept (run step start (inputs ++ before)) →
      Kept (step (run step start (inputs ++ before)) input)) : Kept (run step start (inputs ++ rest)) := by
  induction rest using List.reverseRecOn with
  | nil =>
      rw [List.append_nil]
      exact starts
  | append_singleton rest last ih =>
      rw [← List.append_assoc, run_snoc]
      have holds := ih fun before input took => kept before input (took_snoc.mpr (Or.inl took))
      exact kept rest last (took_snoc.mpr (Or.inr ⟨rfl, rfl⟩)) holds

/-- A state invariant holds after every run. -/
theorem invariant (Invariant : State → Prop) (atStart : Invariant start)
    (kept : ∀ state input, Invariant state → Invariant (step state input))
    (inputs : List Input) : Invariant (run step start inputs) :=
  induction (fun _ state => Invariant state) atStart
    (fun _ _ holds => kept _ _ holds) inputs

end Trace
