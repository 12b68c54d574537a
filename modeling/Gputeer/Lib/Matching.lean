import Mathlib.Data.Fintype.EquivFin
import Mathlib.Data.Set.Insert
import Mathlib.Logic.Function.Basic
import Mathlib.Tactic.Common

/-! Matchings between two sides, which grow along augmenting paths, and what stands in the way of a larger
one. -/

namespace Matching

section Paths

variable {α β : Type} {R : α → β → Prop} {owner moved : β → Option α} {seen fewer : Finset β}
  {lefts : Set α} {i k : α} {j : β}

/-- Outside `seen`, each of `lefts` and nobody else is the owner of exactly one place, one that it may have. -/
structure Serves (R : α → β → Prop) (owner : β → Option α) (seen : Finset β) (lefts : Set α) : Prop where
  allowed : ∀ j ∉ seen, ∀ k, owner j = some k → R k j
  distinct : ∀ j ∉ seen, ∀ other ∉ seen, ∀ k, owner j = some k → owner other = some k → j = other
  served : ∀ k, k ∈ lefts ↔ ∃ j ∉ seen, owner j = some k

/-- Nothing that was looked at leads on: all of it is owned, and its owners may only have what was looked
at. -/
def DeadEnd (R : α → β → Prop) (owner : β → Option α) (start seen : Finset β) : Prop :=
  ∀ j ∈ seen, j ∉ start → ∃ k, owner j = some k ∧ ∀ other, R k other → other ∈ seen

/-- A dead end for one who is not served: whoever is served, and that one, do not all find a place. -/
theorem Serves.no_assignment (serves : Serves R owner ∅ lefts) (unserved : i ∉ lefts)
    (deadEnd : DeadEnd R owner ∅ seen) (looked : ∀ j, R i j → j ∈ seen) :
    ¬ ∃ assignment : α → β, Set.InjOn assignment (insert i lefts) ∧ ∀ k ∈ insert i lefts, R k (assignment k) := by
  rintro ⟨assignment, distinct, allowed⟩
  choose holder holds leads using fun j : seen => deadEnd j j.2 (Finset.notMem_empty _)
  have holderServed (j : seen) : holder j ∈ lefts :=
    (serves.served _).mpr ⟨j, Finset.notMem_empty _, holds j⟩
  -- Each place goes to the one that its owner is assigned to, and none of them is that of `i`.
  let next (j : seen) : seen := ⟨assignment (holder j), leads j _ (allowed _ (Or.inr (holderServed j)))⟩
  have injective : Function.Injective next := by
    intro one other same
    have sameHolder : holder one = holder other :=
      distinct (Or.inr (holderServed one)) (Or.inr (holderServed other)) (congrArg Subtype.val same)
    exact Subtype.ext (serves.distinct one (Finset.notMem_empty _) other (Finset.notMem_empty _) _ (holds one)
      (sameHolder ▸ holds other))
  obtain ⟨j, reached⟩ := Finite.surjective_of_injective injective
    ⟨assignment i, looked _ (allowed i (Or.inl rfl))⟩
  have same : holder j = i :=
    distinct (Or.inr (holderServed j)) (Or.inl rfl) (congrArg Subtype.val reached)
  exact unserved (same ▸ holderServed j)

variable [DecidableEq β]

theorem Serves.skip (serves : Serves R owner seen lefts) (isFree : owner j = none) :
    Serves R owner (insert j seen) lefts where
  allowed := fun other unseen => serves.allowed other fun inside => unseen (Finset.mem_insert_of_mem inside)
  distinct := fun one unseen other alsoUnseen =>
    serves.distinct one (fun inside => unseen (Finset.mem_insert_of_mem inside)) other fun inside =>
      alsoUnseen (Finset.mem_insert_of_mem inside)
  served := by
    intro k
    rw [serves.served]
    refine exists_congr fun other => and_congr_left fun owns => ?_
    have different : other ≠ j := by
      rintro rfl
      simp [isFree] at owns
    simp [different]

/-- The owner of a place gives it up. -/
theorem Serves.leave (serves : Serves R owner seen lefts) (unseen : j ∉ seen) (held : owner j = some k) :
    Serves R owner (insert j seen) (lefts \ {k}) where
  allowed := fun other unseen => serves.allowed other fun inside => unseen (Finset.mem_insert_of_mem inside)
  distinct := fun one unseen other alsoUnseen =>
    serves.distinct one (fun inside => unseen (Finset.mem_insert_of_mem inside)) other fun inside =>
      alsoUnseen (Finset.mem_insert_of_mem inside)
  served := by
    intro left
    rw [Set.mem_sdiff, serves.served, Set.mem_singleton_iff]
    constructor
    · rintro ⟨⟨other, unseenOther, owns⟩, different⟩
      refine ⟨other, ?_, owns⟩
      rw [Finset.mem_insert, not_or]
      refine ⟨?_, unseenOther⟩
      rintro rfl
      exact different (Option.some.inj (owns.symm.trans held))
    · rintro ⟨other, unseenOther, owns⟩
      rw [Finset.mem_insert, not_or] at unseenOther
      refine ⟨⟨other, unseenOther.2, owns⟩, ?_⟩
      rintro rfl
      exact unseenOther.1 (serves.distinct other unseenOther.2 j unseen left owns held)

/-- A place that nobody is served at is given to one who was not served. -/
theorem Serves.assign (serves : Serves R owner (insert j seen) lefts) (unseen : j ∉ seen) (allowed : R i j)
    (unserved : i ∉ lefts) : Serves R (Function.update owner j (some i)) seen (insert i lefts) := by
  have here {k : α} (owns : Function.update owner j (some i) j = some k) : i = k := by simpa using owns
  have there {other : β} (different : other ≠ j) : Function.update owner j (some i) other = owner other :=
    Function.update_of_ne different _ _
  have outside {other : β} (unseenOther : other ∉ seen) (different : other ≠ j) : other ∉ insert j seen := by
    simp [unseenOther, different]
  have served {other : β} {k : α} (unseenOther : other ∉ seen) (different : other ≠ j)
      (owns : Function.update owner j (some i) other = some k) : k ∈ lefts :=
    (serves.served k).mpr ⟨other, outside unseenOther different, (there different).symm.trans owns⟩
  constructor
  · intro other unseenOther k owns
    by_cases same : other = j
    · subst same
      exact here owns ▸ allowed
    · exact serves.allowed other (outside unseenOther same) k ((there same).symm.trans owns)
  · intro one unseenOne other unseenOther k owns alsoOwns
    by_cases same : one = j
    · subst same
      obtain rfl := here owns
      by_contra different
      exact unserved (served unseenOther (Ne.symm different) alsoOwns)
    · by_cases alsoSame : other = j
      · subst alsoSame
        obtain rfl := here alsoOwns
        exact absurd (served unseenOne same owns) unserved
      · exact serves.distinct one (outside unseenOne same) other (outside unseenOther alsoSame) k
          ((there same).symm.trans owns) ((there alsoSame).symm.trans alsoOwns)
  · intro k
    rw [Set.mem_insert_iff]
    constructor
    · rintro (rfl | before)
      · exact ⟨j, unseen, Function.update_self _ _ _⟩
      · obtain ⟨other, unseenOther, owns⟩ := (serves.served k).mp before
        rw [Finset.mem_insert, not_or] at unseenOther
        exact ⟨other, unseenOther.2, (there unseenOther.1).trans owns⟩
    · rintro ⟨other, unseenOther, owns⟩
      by_cases same : other = j
      · subst same
        exact Or.inl (here owns).symm
      · exact Or.inr (served unseenOther same owns)

variable (R) in
/-- A path for `i` through places that were not seen: the place that it takes is free, or the owner of that
place moves on along the rest of the path. -/
inductive Augments : (β → Option α) → Finset β → α → (β → Option α) → Prop
  | free {owner : β → Option α} {seen : Finset β} {i : α} {j : β} (unseen : j ∉ seen) (allowed : R i j)
      (isFree : owner j = none) : Augments owner seen i (Function.update owner j (some i))
  | move {owner moved : β → Option α} {seen : Finset β} {i k : α} {j : β} (unseen : j ∉ seen) (allowed : R i j)
      (held : owner j = some k) (path : Augments owner (insert j seen) k moved) :
      Augments owner seen i (Function.update moved j (some i))

theorem Augments.of_subset (path : Augments R owner seen i moved) (among : fewer ⊆ seen) :
    Augments R owner fewer i moved := by
  induction path generalizing fewer with
  | free unseen allowed isFree => exact .free (fun inside => unseen (among inside)) allowed isFree
  | move unseen allowed held _ ih =>
      exact .move (fun inside => unseen (among inside)) allowed held (ih (Finset.insert_subset_insert _ among))

/-- One more is served, and nobody is left out. -/
theorem Augments.serves (path : Augments R owner seen i moved) (serves : Serves R owner seen lefts)
    (unserved : i ∉ lefts) : Serves R moved seen (insert i lefts) := by
  induction path generalizing lefts with
  | free unseen allowed isFree => exact (serves.skip isFree).assign unseen allowed unserved
  | @move moved seen _ k j unseen allowed held path ih =>
      have before : k ∈ lefts := (serves.served k).mpr ⟨j, unseen, held⟩
      have rest := ih (serves.leave unseen held) fun inside => inside.2 rfl
      rw [Set.insert_sdiff_singleton, Set.insert_eq_of_mem before] at rest
      exact rest.assign unseen allowed unserved

end Paths

section Lists

variable {α β : Type} {R : α → β → Prop} {firsts others : List α} {seconds places : List β}

/-- A different one of the second list for each of the first. -/
def Assignable (R : α → β → Prop) (firsts : List α) (seconds : List β) : Prop :=
  ∃ assignment : Fin firsts.length → Fin seconds.length, Function.Injective assignment ∧
    ∀ i, R firsts[i] seconds[assignment i]

/-- Where each item of a list is in another order of it. -/
theorem exists_position (same : firsts.Perm others) : ∃ position : Fin firsts.length → Fin others.length,
    Function.Injective position ∧ ∀ i, firsts[i] = others[position i] := by
  induction same with
  | nil => exact ⟨id, Function.injective_id, fun _ => rfl⟩
  | cons item _ ih =>
      obtain ⟨position, distinct, same⟩ := ih
      refine ⟨Fin.cons 0 fun i => (position i).succ, ?_, ?_⟩
      · rw [Fin.cons_injective_iff]
        refine ⟨?_, (Fin.succ_injective _).comp distinct⟩
        rintro ⟨i, zero⟩
        exact Fin.succ_ne_zero _ zero
      · intro i
        cases i using Fin.cases with
        | zero => rfl
        | succ i => exact same i
  | swap first second rest =>
      refine ⟨Equiv.swap 0 1, (Equiv.swap _ _).injective, ?_⟩
      intro i
      cases i using Fin.cases with
      | zero => simp
      | succ i =>
          cases i using Fin.cases with
          | zero => simp
          | succ i =>
              have fixed : Equiv.swap 0 1 i.succ.succ = i.succ.succ :=
                Equiv.swap_apply_of_ne_of_ne (Fin.succ_ne_zero _) (by simp [Fin.ext_iff])
              simp only [fixed]
              rfl
  | trans _ _ ih ihNext =>
      obtain ⟨position, distinct, same⟩ := ih
      obtain ⟨next, distinctNext, sameNext⟩ := ihNext
      exact ⟨next ∘ position, distinctNext.comp distinct, fun i => (same i).trans (sameNext _)⟩

/-- Whether there is an assignment does not hang on the order of either list. -/
theorem Assignable.of_perm (assignable : Assignable R firsts seconds) (same : firsts.Perm others)
    (samePlaces : seconds.Perm places) : Assignable R others places := by
  obtain ⟨assignment, distinct, allowed⟩ := assignable
  obtain ⟨back, distinctBack, sameBack⟩ := exists_position same.symm
  obtain ⟨position, distinctPosition, samePosition⟩ := exists_position samePlaces
  refine ⟨position ∘ assignment ∘ back, distinctPosition.comp (distinct.comp distinctBack), fun i => ?_⟩
  have there := allowed (back i)
  rwa [← sameBack, samePosition] at there

end Lists

end Matching
