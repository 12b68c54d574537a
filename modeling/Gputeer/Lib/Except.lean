import Mathlib.Data.List.Forall2
import Mathlib.Tactic.Common

/-! When a fallible computation succeeds. -/

namespace Except

variable {ε α β : Type}

theorem bind_eq_ok {first : Except ε α} {next : α → Except ε β} {b : β} :
    first >>= next = .ok b ↔ ∃ a, first = .ok a ∧ next a = .ok b := by
  cases first with
  | error fault => simp [bind, Except.bind]
  | ok a => simp [bind, Except.bind]

theorem map_eq_ok {f : α → β} {first : Except ε α} {b : β} :
    f <$> first = .ok b ↔ ∃ a, first = .ok a ∧ f a = b := by
  cases first with
  | error fault => simp [Functor.map, Except.map]
  | ok a => simp [Functor.map, Except.map]

@[simp] theorem pure_eq_ok {a b : α} : (pure a : Except ε α) = .ok b ↔ a = b := by
  simp [pure, Except.pure]

@[simp] theorem throw_ne_ok {fault : ε} {a : α} : (throw fault : Except ε α) ≠ .ok a := by
  simp [throw, throwThe, MonadExceptOf.throw]

/-- A refusal that was not taken. -/
theorem ite_error_eq_ok {c : Prop} [Decidable c] {fault : ε} {rest : Except ε α} {a : α} :
    (if c then .error fault else rest) = .ok a ↔ ¬ c ∧ rest = .ok a := by
  by_cases h : c <;> simp [h]

/-- Succeed when the condition holds. -/
def ensure (holds : Prop) [Decidable holds] (fault : ε) : Except ε Unit :=
  if holds then .ok () else .error fault

/-- A value that has to be there. -/
def ofOption (fault : ε) : Option α → Except ε α
  | some a => .ok a
  | none => .error fault

/-- Run on the value, if there is one. -/
def onSome (f : α → Except ε β) : Option α → Except ε (Option β)
  | some a => some <$> f a
  | none => .ok none

@[simp] theorem ensure_eq_ok {holds : Prop} [Decidable holds] {fault : ε} {done : Unit} :
    ensure holds fault = .ok done ↔ holds := by
  by_cases h : holds <;> simp [ensure, h]

@[simp] theorem ofOption_eq_ok {fault : ε} {found : Option α} {a : α} :
    ofOption fault found = .ok a ↔ found = some a := by
  cases found <;> simp [ofOption]

@[simp] theorem mapError_eq_ok {δ : Type} {f : ε → δ} {first : Except ε α} {a : α} :
    first.mapError f = .ok a ↔ first = .ok a := by
  cases first <;> simp [Except.mapError]

theorem forM_eq_ok {f : α → Except ε Unit} {xs : List α} {done : Unit} :
    xs.forM f = .ok done ↔ ∀ x ∈ xs, f x = .ok () := by
  induction xs with
  | nil => simp
  | cons x xs ih =>
      simp only [List.forM_eq_forM, List.forM_cons, bind_eq_ok, List.forall_mem_cons, ← ih]
      exact ⟨fun both => both.elim fun _ => id, fun both => ⟨(), both⟩⟩

section Failure

variable {fault other : ε}

theorem bind_eq_error {first : Except ε α} {next : α → Except ε β} :
    first >>= next = .error fault ↔
      first = .error fault ∨ ∃ a, first = .ok a ∧ next a = .error fault := by
  cases first with
  | error other => simp [bind, Except.bind]
  | ok a => simp [bind, Except.bind]

@[simp] theorem ensure_eq_error {holds : Prop} [Decidable holds] :
    ensure holds fault = .error other ↔ ¬ holds ∧ fault = other := by
  by_cases h : holds <;> simp [ensure, h]

@[simp] theorem ofOption_eq_error {found : Option α} :
    ofOption fault found = .error other ↔ found = none ∧ fault = other := by
  cases found <;> simp [ofOption]

@[simp] theorem mapError_eq_error {δ : Type} {f : ε → δ} {first : Except ε α} {mapped : δ} :
    first.mapError f = .error mapped ↔ ∃ fault, first = .error fault ∧ f fault = mapped := by
  cases first <;> simp [Except.mapError]

end Failure

theorem eq_ok_of_toOption {result : Except ε α} {value : α} (found : result.toOption = some value) :
    result = .ok value := by
  cases result with
  | ok other => exact congrArg Except.ok (Option.some.inj found)
  | error failure => cases found

/-- A traversal succeeds with what each element gives. -/
theorem mapM_eq_ok {f : α → Except ε β} {xs : List α} {ys : List β} :
    xs.mapM f = .ok ys ↔ List.Forall₂ (fun x y => f x = .ok y) xs ys := by
  induction xs generalizing ys with
  | nil => cases ys <;> simp
  | cons x xs ih =>
      simp only [List.mapM_cons, bind_eq_ok, pure_eq_ok, List.forall₂_cons_left_iff, ih]
      constructor
      · rintro ⟨y, first, rest, others, rfl⟩
        exact ⟨y, rest, first, others, rfl⟩
      · rintro ⟨y, rest, first, others, rfl⟩
        exact ⟨y, first, rest, others, rfl⟩

theorem mapM_range_isOk {f : Nat → Except ε β} {n : Nat} :
    (∃ bs, (List.range n).mapM f = .ok bs) ↔ ∀ i < n, ∃ b, f i = .ok b := by
  constructor
  · rintro ⟨bs, done⟩ i inside
    have each := mapM_eq_ok.mp done
    clear done
    have listed := List.mem_range.mpr inside
    revert listed
    generalize List.range n = xs at each
    intro listed
    induction each with
    | nil => cases listed
    | cons gives _ ih =>
        rcases List.mem_cons.mp listed with rfl | later
        · exact ⟨_, gives⟩
        · exact ih later
  · intro each
    induction n with
    | zero => exact ⟨[], rfl⟩
    | succ n ih =>
        obtain ⟨bs, done⟩ := ih fun i inside => each i (Nat.lt_succ_of_lt inside)
        obtain ⟨b, last⟩ := each n (Nat.lt_succ_self n)
        refine ⟨bs ++ [b], ?_⟩
        simp only [List.range_succ, List.mapM_append, bind_eq_ok, List.mapM_cons, List.mapM_nil, pure_eq_ok]
        exact ⟨bs, done, [b], ⟨b, last, [], rfl, rfl⟩, rfl⟩

/-- A traversal of the first numbers fails with the first failure. -/
theorem mapM_range_eq_error {f : Nat → Except ε β} {n : Nat} {fault : ε} :
    (List.range n).mapM f = .error fault ↔ ∃ i < n, (∀ j < i, ∃ b, f j = .ok b) ∧ f i = .error fault := by
  induction n with
  | zero => simp [pure, Except.pure]
  | succ n ih =>
      have whole : (List.range (n + 1)).mapM f = .error fault ↔ (List.range n).mapM f = .error fault ∨
          (∃ bs, (List.range n).mapM f = .ok bs) ∧ f n = .error fault := by
        rw [List.range_succ, List.mapM_append, bind_eq_error]
        simp [bind_eq_error, pure, Except.pure]
      rw [whole, ih, mapM_range_isOk]
      constructor
      · rintro (⟨i, inside, before, failed⟩ | ⟨before, failed⟩)
        · exact ⟨i, Nat.lt_succ_of_lt inside, before, failed⟩
        · exact ⟨n, Nat.lt_succ_self n, before, failed⟩
      · rintro ⟨i, inside, before, failed⟩
        rcases Nat.lt_succ_iff_lt_or_eq.mp inside with earlier | rfl
        · exact .inl ⟨i, earlier, before, failed⟩
        · exact .inr ⟨before, failed⟩

/-- What a traversal gives comes from an element. -/
theorem mem_of_mapM_eq_ok {f : α → Except ε β} {xs : List α} {ys : List β} {y : β}
    (done : xs.mapM f = .ok ys) (member : y ∈ ys) : ∃ x ∈ xs, f x = .ok y := by
  have each := mapM_eq_ok.mp done
  clear done
  induction each with
  | nil => simp at member
  | @cons x _ xs _ first rest ih =>
      rcases List.mem_cons.mp member with rfl | later
      · exact ⟨x, List.mem_cons_self, first⟩
      · obtain ⟨other, listed, gives⟩ := ih later
        exact ⟨other, List.mem_cons_of_mem x listed, gives⟩

/-- A partial inverse stays one under `Option`. -/
theorem onSome_map {f : α → Except ε β} {g : β → α} (inverse : ∀ b, f (g b) = .ok b)
    (value : Option β) : onSome f (value.map g) = .ok value := by
  cases value with
  | none => rfl
  | some b => simp [onSome, inverse, Functor.map, Except.map]

end Except
