import Gputeer.Lib.Lists
import Mathlib.Algebra.GroupWithZero.Nat
import Mathlib.Data.List.Destutter
import Mathlib.Data.List.Perm.Subperm
import Mathlib.Data.List.Sort
import Mathlib.Algebra.Order.BigOperators.Group.List

/-! Sorting by a comparison that tells all values apart leaves no trace of the order in which they came. The
first ones of an ascending list weigh least. -/

namespace List

section Compared

variable {α : Type} {cmp : α → α → Ordering} [Std.TransCmp cmp] {items others : List α}

variable (cmp) in
/-- Values may be compared by what a function makes of them. -/
theorem transCmp_comap {β : Type} (f : β → α) :
    Std.TransCmp fun left right : β => cmp (f left) (f right) where
  eq_swap := Std.OrientedCmp.eq_swap
  isLE_trans := Std.TransCmp.isLE_trans

theorem pairwise_mergeSort_isLE :
    (items.mergeSort fun left right => (cmp left right).isLE).Pairwise
      fun left right => (cmp left right).isLE := by
  refine pairwise_mergeSort (fun _ _ _ => Std.TransCmp.isLE_trans) (fun left right => ?_) items
  have swapped : cmp left right = (cmp right left).swap := Std.OrientedCmp.eq_swap
  rw [swapped]
  cases cmp right left <;> rfl

/-- It is enough that the comparison tells the values of the one list apart. -/
theorem Perm.mergeSort_isLE_of_mem (same : items.Perm others)
    (told : ∀ left ∈ items, ∀ right ∈ items, cmp left right = .eq → left = right) :
    (items.mergeSort fun left right => (cmp left right).isLE) =
      others.mergeSort fun left right => (cmp left right).isLE := by
  refine Perm.eq_of_pairwise (fun left right leftIn rightIn below above => ?_) pairwise_mergeSort_isLE
    pairwise_mergeSort_isLE ((mergeSort_perm _ _).trans (same.trans (mergeSort_perm _ _).symm))
  exact told left (mem_mergeSort.mp leftIn) right (same.mem_iff.mpr (mem_mergeSort.mp rightIn))
    (Std.OrientedCmp.isLE_antisymm below above)

variable [Std.LawfulEqCmp cmp]

theorem eq_of_isLE (left right : α) (below : (cmp left right).isLE) (above : (cmp right left).isLE) :
    left = right :=
  Std.LawfulEqCmp.eq_of_compare (Std.OrientedCmp.isLE_antisymm below above)

omit [Std.TransCmp cmp] in
theorem lt_of_isLE {left right : α} (below : (cmp left right).isLE) (different : left ≠ right) :
    cmp left right = .lt := by
  cases compared : cmp left right with
  | lt => rfl
  | eq => exact absurd (Std.LawfulEqCmp.eq_of_compare compared) different
  | gt =>
      rw [compared] at below
      cases below

theorem Perm.eq_of_isLE (same : items.Perm others)
    (ascending : items.Pairwise fun left right => (cmp left right).isLE)
    (alsoAscending : others.Pairwise fun left right => (cmp left right).isLE) : items = others :=
  Perm.eq_of_pairwise (fun left right _ _ => List.eq_of_isLE left right) ascending alsoAscending same

theorem Perm.mergeSort_isLE (same : items.Perm others) :
    (items.mergeSort fun left right => (cmp left right).isLE) =
      others.mergeSort fun left right => (cmp left right).isLE :=
  same.mergeSort_isLE_of_mem fun _ _ _ _ => Std.LawfulEqCmp.eq_of_compare

omit [Std.TransCmp cmp] in
/-- Values without repetition ascend strictly. -/
theorem Pairwise.lt_of_nodup (ascending : items.Pairwise fun left right => (cmp left right).isLE)
    (distinct : items.Nodup) : items.Pairwise fun left right => cmp left right = .lt :=
  ascending.imp₂ (fun _ _ below different => lt_of_isLE below different) distinct

omit [Std.LawfulEqCmp cmp] in
theorem Pairwise.nodup_of_lt (ascending : items.Pairwise fun left right => cmp left right = .lt) :
    items.Nodup := by
  refine ascending.imp fun {left right} below same => ?_
  have equal : cmp left left = .eq := Std.ReflCmp.compare_self
  rw [← same, equal] at below
  cases below

omit [Std.TransCmp cmp] [Std.LawfulEqCmp cmp] in
theorem Pairwise.isLE_of_lt (ascending : items.Pairwise fun left right => cmp left right = .lt) :
    items.Pairwise fun left right => (cmp left right).isLE :=
  ascending.imp fun below => by rw [below]; rfl

/-- What ascends strictly is told by its members. -/
theorem eq_of_mem_iff_of_lt (ascending : items.Pairwise fun left right => cmp left right = .lt)
    (alsoAscending : others.Pairwise fun left right => cmp left right = .lt)
    (same : ∀ item, item ∈ items ↔ item ∈ others) : items = others :=
  Perm.eq_of_isLE ((perm_ext_iff_of_nodup ascending.nodup_of_lt alsoAscending.nodup_of_lt).mpr same)
    ascending.isLE_of_lt alsoAscending.isLE_of_lt

end Compared

section Repeated

variable {α : Type} [DecidableEq α] {items : List α}

theorem eraseRepsBy_loop {last : α} {rest done : List α} :
    eraseRepsBy.loop (· == ·) last rest done = done.reverse ++ rest.destutter' (· ≠ ·) last := by
  induction rest generalizing last done with
  | nil => simp [eraseRepsBy.loop]
  | cons next rest ih =>
      unfold eraseRepsBy.loop
      by_cases same : last = next
      · rw [beq_iff_eq.mpr same, destutter'_cons_neg _ (not_not_intro same)]
        exact ih
      · rw [beq_eq_false_iff_ne.mpr same, destutter'_cons_pos _ same]
        simp only [ih, reverse_cons, append_assoc, singleton_append]

theorem eraseReps_eq_destutter : items.eraseReps = items.destutter (· ≠ ·) := by
  cases items with
  | nil => rfl
  | cons first rest => exact eraseRepsBy_loop

/-- Equal values that ascend stand side by side, so that one of them is left. -/
theorem pairwise_eraseReps {cmp : α → α → Ordering} [Std.TransCmp cmp] [Std.LawfulEqCmp cmp]
    (ascending : items.Pairwise fun left right => (cmp left right).isLE) :
    items.eraseReps.Pairwise fun left right => cmp left right = .lt := by
  rw [eraseReps_eq_destutter]
  have below := ascending.sublist (destutter_sublist (· ≠ ·) items)
  have strict : (items.destutter (· ≠ ·)).IsChain fun left right => cmp left right = .lt :=
    isChain_iff_getElem.mpr fun i inside =>
      lt_of_isLE (below.isChain.getElem i inside) ((isChain_destutter (· ≠ ·) items).getElem i inside)
  have : IsTrans α fun left right => cmp left right = .lt := ⟨fun _ _ _ => Std.TransCmp.lt_trans⟩
  exact isChain_iff_pairwise.mp strict

end Repeated

theorem Perm.min?_eq {α : Type} [LinearOrder α] {items others : List α} (same : items.Perm others) :
    items.min? = others.min? := by
  refine Option.ext fun least => ?_
  rw [min?_eq_some_iff, min?_eq_some_iff]
  simp only [same.mem_iff]

section Weighed

variable {α : Type} {weight : α → ℕ} {items chosen : List α}

/-- No other choice of as many items weighs less than the first ones of an ascending list. -/
theorem sum_take_le_of_subperm
    (ascending : items.Pairwise fun left right => weight left ≤ weight right)
    (among : chosen.Subperm items) :
    ((items.take chosen.length).map weight).sum ≤ (chosen.map weight).sum := by
  classical
  induction items generalizing chosen with
  | nil => simp
  | cons first rest ih =>
      rw [pairwise_cons] at ascending
      cases chosen with
      | nil => simp
      | cons one others =>
          by_cases taken : first ∈ one :: others
          · have left : ((one :: others).erase first).Subperm rest := by
              simpa using among.erase first
            have least := ih ascending.2 left
            have whole := (perm_cons_erase taken).map weight |>.sum_eq
            rw [length_erase_of_mem taken] at least
            simp only [length_cons, Nat.add_sub_cancel, take_succ_cons, map_cons, sum_cons] at *
            omega
          · have inside : (one :: others).Subperm rest := by
              have erased := among.erase first
              rwa [erase_of_not_mem taken, erase_cons_head] at erased
            have least := ih ascending.2 ((sublist_cons_self one others).subperm.trans inside)
            have heavier := ascending.1 one (inside.subset mem_cons_self)
            simp only [length_cons, take_succ_cons, map_cons, sum_cons]
            omega

end Weighed

end List
