import Gputeer.Lib.Sorting

/-! Two computations are alike when they fail for one reason, or succeed with values that are told apart by
nothing that matters. A step that is taken again at once makes no difference then. -/

namespace Except

variable {ε α σ : Type}

/-- The same failure, or related values. -/
inductive Alike (related : σ → σ → Prop) : Except ε σ → Except ε σ → Prop
  | error (fault : ε) : Alike related (.error fault) (.error fault)
  | ok {one other : σ} (same : related one other) : Alike related (.ok one) (.ok other)

namespace Alike

variable {related : σ → σ → Prop} {one other third : Except ε σ} {step : σ → α → Except ε σ}

theorem trans (transitive : ∀ s t u, related s t → related t u → related s u)
    (first : Alike related one other) (second : Alike related other third) :
    Alike related one third := by
  cases first with
  | error fault => exact second
  | ok same =>
      cases second with
      | ok next => exact .ok (transitive _ _ _ same next)

theorem symm (symmetric : ∀ s t, related s t → related t s) (alike : Alike related one other) :
    Alike related other one := by
  cases alike with
  | error fault => exact .error fault
  | ok same => exact .ok (symmetric _ _ same)

theorem bind {next others : σ → Except ε σ} (first : Alike related one other)
    (rest : ∀ s t, related s t → Alike related (next s) (others t)) :
    Alike related (one >>= next) (other >>= others) := by
  cases first with
  | error fault => exact .error fault
  | ok same => exact rest _ _ same

theorem bind_eq {β : Type} {next others : σ → Except ε β} (first : Alike related one other)
    (rest : ∀ s t, related s t → next s = others t) : one >>= next = other >>= others := by
  cases first with
  | error fault => rfl
  | ok same => exact rest _ _ same

/-- A loop keeps what each of its steps keeps. -/
theorem foldlM (steps : ∀ s t a, related s t → Alike related (step s a) (step t a)) {items : List α}
    {s t : σ} (same : related s t) : Alike related (items.foldlM step s) (items.foldlM step t) := by
  induction items generalizing s t with
  | nil => exact .ok same
  | cons item rest ih =>
      rw [List.foldlM_cons, List.foldlM_cons]
      exact (steps s t item same).bind fun _ _ next => ih next

variable [DecidableEq α]

/-- When a step that is repeated at once makes no difference, a loop may skip the repetitions. -/
theorem foldlM_eraseReps (reflexive : ∀ s, related s s)
    (transitive : ∀ s t u, related s t → related t u → related s u)
    (steps : ∀ s t a, related s t → Alike related (step s a) (step t a))
    (repeated : ∀ s a next, step s a = .ok next → Alike related (step next a) (.ok next))
    {items : List α} {s : σ} :
    Alike related (items.foldlM step s) (items.eraseReps.foldlM step s) := by
  rw [List.eraseReps_eq_destutter]
  cases items with
  | nil => exact .ok (reflexive s)
  | cons first rest =>
      rw [List.destutter]
      induction rest generalizing first s with
      | nil => exact foldlM steps (reflexive s)
      | cons second rest ih =>
          by_cases same : first = second
          · -- the second of two equal steps is skipped
            subst same
            rw [List.destutter'_cons_neg _ (not_not_intro rfl)]
            refine trans transitive ?_ (ih first)
            rw [List.foldlM_cons, List.foldlM_cons]
            cases done : step s first with
            | error fault => exact .error fault
            | ok next =>
                exact (repeated s first next done).bind fun _ _ same => foldlM steps same
          · rw [List.destutter'_cons_pos _ same]
            rw [List.foldlM_cons, List.foldlM_cons]
            exact (steps s s first (reflexive s)).bind fun t u next =>
              trans transitive (foldlM steps next) (ih second)

end Alike

end Except
