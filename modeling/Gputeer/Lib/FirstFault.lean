import Mathlib.Data.List.Nodup
import Mathlib.Data.List.Perm.Basic
import Mathlib.Tactic.Common

/-! A check that walks a list and stops at its first fault: an item that is bad in itself, named by its
position, or an item that stood in the list before, named by its label. -/

namespace FirstFault

variable {α γ ε : Type} [DecidableEq α]

def check (bad : α → Bool) (label : α → γ) (atIndex : Nat → ε) (repeated : γ → ε) :
    Nat → List α → List α → Except ε Unit
  | _, _, [] => .ok ()
  | index, seen, item :: items =>
      if bad item then .error (atIndex index)
      else if item ∈ seen then .error (repeated (label item))
      else check bad label atIndex repeated (index + 1) (item :: seen) items

/-- Which fault is found does not depend on where the items stand. -/
structure Settled (bad : α → Bool) (label : α → γ) (items : List α) : Prop where
  all_bad : (∃ item ∈ items, bad item) → ∀ item ∈ items, bad item
  one_label : (∀ item ∈ items, bad item = false) →
    ∀ first second, 2 ≤ items.count first → 2 ≤ items.count second → label first = label second

variable {bad : α → Bool} {label : α → γ} {atIndex : Nat → ε} {repeated : γ → ε}
  {index : Nat} {seen items others : List α}

theorem check_eq_ok : check bad label atIndex repeated index seen items = .ok () ↔
    (∀ item ∈ items, bad item = false ∧ item ∉ seen) ∧ items.Nodup := by
  induction items generalizing index seen with
  | nil => simp [check]
  | cons item items ih =>
      unfold check
      split
      · rename_i isBad
        simp [isBad]
      · rename_i good
        split
        · rename_i before
          simp [before]
        · rename_i new
          rw [ih, List.forall_mem_cons, List.nodup_cons]
          constructor
          · rintro ⟨apart, distinct⟩
            refine ⟨⟨⟨by simpa using good, new⟩, fun other listed => ?_⟩, fun listed => ?_, distinct⟩
            · exact ⟨(apart other listed).1, fun before => (apart other listed).2 (List.mem_cons_of_mem _ before)⟩
            · exact (apart item listed).2 List.mem_cons_self
          · rintro ⟨⟨-, apart⟩, notLater, distinct⟩
            refine ⟨fun other listed => ⟨(apart other listed).1, fun before => ?_⟩, distinct⟩
            rcases List.mem_cons.mp before with rfl | before
            · exact notLater listed
            · exact (apart other listed).2 before

/-- A position that is named is one that the walk had still before it. -/
theorem le_of_check_eq_atIndex (injective : Function.Injective atIndex)
    (apart : ∀ position named, atIndex position ≠ repeated named) {position : Nat}
    (found : check bad label atIndex repeated index seen items = .error (atIndex position)) : index ≤ position := by
  induction items generalizing index seen with
  | nil => cases found
  | cons item items ih =>
      unfold check at found
      split at found
      · exact Nat.le_of_eq (injective (Except.error.inj found))
      · split at found
        · exact absurd (Except.error.inj found).symm (apart _ _)
        · exact Nat.le_of_succ_le (ih found)

/-- Without bad items the fault is the label of an item that stands there twice, or stood there before. -/
theorem label_of_check_eq_error (good : ∀ item ∈ items, bad item = false) {fault : ε}
    (found : check bad label atIndex repeated index seen items = .error fault) :
    ∃ item ∈ items, (item ∈ seen ∨ 2 ≤ items.count item) ∧ fault = repeated (label item) := by
  induction items generalizing index seen with
  | nil => cases found
  | cons item items ih =>
      obtain ⟨goodItem, goodItems⟩ := List.forall_mem_cons.mp good
      unfold check at found
      rw [if_neg (by simp [goodItem])] at found
      split at found
      · rename_i before
        exact ⟨item, List.mem_cons_self, .inl before, (Except.error.inj found).symm⟩
      · obtain ⟨other, listed, twice, named⟩ := ih goodItems found
        refine ⟨other, List.mem_cons_of_mem _ listed, ?_, named⟩
        rcases twice with before | twice
        · rcases List.mem_cons.mp before with rfl | before
          · right
            have once : 1 ≤ items.count other := List.one_le_count_iff.mpr listed
            rw [List.count_cons_self]
            omega
          · exact .inl before
        · exact .inr (Nat.le_trans twice List.count_le_count_cons)

theorem check_bad_head {item : α} (isBad : bad item) :
    check bad label atIndex repeated index seen (item :: items) = .error (atIndex index) := by
  rw [check, if_pos isBad]

theorem check_repeated_head {item : α} (good : bad item = false) :
    check bad label atIndex repeated index [] (item :: item :: items) = .error (repeated (label item)) := by
  simp [check, good]

theorem exists_perm_twice {item : α} (twice : 2 ≤ items.count item) :
    ∃ rest, (item :: item :: rest).Perm items := by
  have listed : item ∈ items := List.one_le_count_iff.mp (by omega)
  have again : item ∈ items.erase item := by
    rw [← List.one_le_count_iff, List.count_erase_self]
    omega
  exact ⟨_, ((List.perm_cons_erase again).symm.cons item).trans (List.perm_cons_erase listed).symm⟩

theorem check_all_bad (someBad : ∃ item ∈ items, bad item) (allBad : ∀ item ∈ items, bad item) :
    check bad label atIndex repeated index seen items = .error (atIndex index) := by
  cases items with
  | nil =>
      obtain ⟨item, listed, -⟩ := someBad
      cases listed
  | cons item items => exact check_bad_head (allBad item List.mem_cons_self)

theorem Settled.check_eq (settled : Settled bad label items) (same : others.Perm items) :
    check bad label atIndex repeated 0 [] others = check bad label atIndex repeated 0 [] items := by
  by_cases someBad : ∃ item ∈ items, bad item
  · have allBad := settled.all_bad someBad
    have someBadOther : ∃ item ∈ others, bad item := by
      obtain ⟨item, listed, isBad⟩ := someBad
      exact ⟨item, same.symm.subset listed, isBad⟩
    rw [check_all_bad someBad allBad,
      check_all_bad someBadOther fun item listed => allBad item (same.subset listed)]
  · have good : ∀ item ∈ items, bad item = false := by
      intro item listed
      by_contra isBad
      exact someBad ⟨item, listed, by simpa using isBad⟩
    have goodOthers : ∀ item ∈ others, bad item = false := fun item listed => good item (same.subset listed)
    cases first : check bad label atIndex repeated 0 [] others with
    | ok done =>
        have distinct := same.nodup_iff.mp (check_eq_ok.mp first).2
        exact (check_eq_ok.mpr ⟨fun item listed => ⟨good item listed, List.not_mem_nil⟩, distinct⟩).symm
    | error firstFault =>
        cases second : check bad label atIndex repeated 0 [] items with
        | ok done =>
            have distinct := same.nodup_iff.mpr (check_eq_ok.mp second).2
            rw [check_eq_ok.mpr ⟨fun item listed => ⟨goodOthers item listed, List.not_mem_nil⟩, distinct⟩] at first
            cases first
        | error secondFault =>
            obtain ⟨one, -, oneTwice, rfl⟩ := label_of_check_eq_error goodOthers first
            obtain ⟨two, -, twoTwice, rfl⟩ := label_of_check_eq_error good second
            replace oneTwice := oneTwice.resolve_left List.not_mem_nil
            replace twoTwice := twoTwice.resolve_left List.not_mem_nil
            rw [same.count_eq] at oneTwice
            rw [settled.one_label good one two oneTwice twoTwice]

/-- The answer is the same for every order exactly for the settled lists. -/
theorem check_perm_iff (injective : Function.Injective atIndex) (injectiveLabel : Function.Injective repeated)
    (apart : ∀ position named, atIndex position ≠ repeated named) :
    (∀ others : List α, others.Perm items →
      check bad label atIndex repeated 0 [] others = check bad label atIndex repeated 0 [] items) ↔
    Settled bad label items := by
  constructor
  · intro same
    have agree {first second : List α} (one : first.Perm items) (two : second.Perm items) :
        check bad label atIndex repeated 0 [] first = check bad label atIndex repeated 0 [] second :=
      (same first one).trans (same second two).symm
    constructor
    · -- a bad item moved to the front is found at position 0, a good one moved there is not
      rintro ⟨item, listed, isBad⟩ other listedOther
      by_contra good
      have both := agree (List.perm_cons_erase listed).symm (List.perm_cons_erase listedOther).symm
      rw [check_bad_head isBad, check, if_neg good, if_neg List.not_mem_nil] at both
      exact absurd (le_of_check_eq_atIndex injective apart both.symm) (by omega)
    · intro good first second firstTwice secondTwice
      obtain ⟨restFirst, one⟩ := exists_perm_twice firstTwice
      obtain ⟨restSecond, two⟩ := exists_perm_twice secondTwice
      have both := agree one two
      rw [check_repeated_head (good first (List.one_le_count_iff.mp (by omega))),
        check_repeated_head (good second (List.one_le_count_iff.mp (by omega)))] at both
      exact injectiveLabel (Except.error.inj both)
  · intro settled others same
    exact settled.check_eq same

end FirstFault
