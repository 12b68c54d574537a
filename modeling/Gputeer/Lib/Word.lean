import Mathlib.Data.UInt
import Mathlib.Order.Basic
import Mathlib.Tactic.Common

/-! Checked and saturating arithmetic on unsigned 64-bit words. -/

namespace UInt64

/-- The largest word. -/
def maxValue : UInt64 := 18446744073709551615

def saturatingAdd (a b : UInt64) : UInt64 :=
  if a.toNat + b.toNat < 2 ^ 64 then a + b else maxValue

def saturatingSub (a b : UInt64) : UInt64 :=
  if b ≤ a then a - b else 0

def saturatingMul (a b : UInt64) : UInt64 :=
  if a.toNat * b.toNat < 2 ^ 64 then a * b else maxValue

def checkedAdd (a b : UInt64) : Option UInt64 :=
  if a.toNat + b.toNat < 2 ^ 64 then some (a + b) else none

def checkedSub (a b : UInt64) : Option UInt64 :=
  if b ≤ a then some (a - b) else none

def checkedMul (a b : UInt64) : Option UInt64 :=
  if a.toNat * b.toNat < 2 ^ 64 then some (a * b) else none

def absDiff (a b : UInt64) : UInt64 :=
  if b ≤ a then a - b else b - a

@[simp] theorem toNat_maxValue : maxValue.toNat = 2 ^ 64 - 1 := rfl

theorem toNat_le_maxValue (a : UInt64) : a.toNat ≤ 2 ^ 64 - 1 := by
  have bound := a.toNat_lt
  omega

theorem le_maxValue (a : UInt64) : a ≤ maxValue := by
  rw [UInt64.le_iff_toNat_le, toNat_maxValue]
  exact a.toNat_le_maxValue

theorem eq_maxValue_of_not_lt {a : UInt64} (h : ¬ a < maxValue) : a = maxValue := by
  have bound := a.le_maxValue
  exact UInt64.le_antisymm bound (UInt64.not_lt.mp h)

@[simp] theorem toNat_saturatingAdd (a b : UInt64) :
    (a.saturatingAdd b).toNat = min (a.toNat + b.toNat) (2 ^ 64 - 1) := by
  unfold saturatingAdd
  split
  · rw [UInt64.toNat_add, Nat.mod_eq_of_lt (by assumption)]
    omega
  · rw [toNat_maxValue]
    omega

/-- A length that stays within a bound is added as it is. -/
theorem toNat_saturatingAdd_length {used cap : UInt64} {data : List α}
    (fits : used.toNat + data.length ≤ cap.toNat) :
    (used.saturatingAdd (UInt64.ofNat data.length)).toNat = used.toNat + data.length := by
  have bound := cap.toNat_lt
  rw [toNat_saturatingAdd, UInt64.toNat_ofNat_of_lt' (by change data.length < 2 ^ 64; omega)]
  omega

@[simp] theorem toNat_saturatingSub (a b : UInt64) :
    (a.saturatingSub b).toNat = a.toNat - b.toNat := by
  unfold saturatingSub
  split
  · rw [UInt64.toNat_sub_of_le _ _ (by assumption)]
  · have above := UInt64.not_le.mp (by assumption)
    rw [UInt64.lt_iff_toNat_lt] at above
    simp only [UInt64.toNat_zero]
    omega

theorem checkedAdd_eq_some {a b c : UInt64} :
    a.checkedAdd b = some c ↔ a.toNat + b.toNat = c.toNat := by
  unfold checkedAdd
  split
  · rename_i fits
    rw [Option.some_inj, ← UInt64.toNat_inj, UInt64.toNat_add, Nat.mod_eq_of_lt fits]
  · have bound := c.toNat_lt
    simp only [reduceCtorEq, false_iff]
    omega

theorem checkedSub_eq_some {a b c : UInt64} :
    a.checkedSub b = some c ↔ b.toNat ≤ a.toNat ∧ a.toNat - b.toNat = c.toNat := by
  unfold checkedSub
  split
  · rename_i below
    rw [Option.some_inj, ← UInt64.toNat_inj, UInt64.toNat_sub_of_le _ _ below]
    rw [UInt64.le_iff_toNat_le] at below
    simp [below]
  · rename_i above
    rw [UInt64.le_iff_toNat_le] at above
    simp [above]

theorem checkedMul_eq_some {a b c : UInt64} :
    a.checkedMul b = some c ↔ a.toNat * b.toNat = c.toNat := by
  unfold checkedMul
  by_cases fits : a.toNat * b.toNat < 2 ^ 64
  · rw [if_pos fits, Option.some.injEq, ← UInt64.toNat_inj, UInt64.toNat_mul, Nat.mod_eq_of_lt fits]
  · rw [if_neg fits]
    have bound := c.toNat_lt
    constructor
    · intro none
      cases none
    · intro same
      omega

@[simp] theorem toNat_saturatingMul (a b : UInt64) :
    (a.saturatingMul b).toNat = min (a.toNat * b.toNat) (2 ^ 64 - 1) := by
  unfold saturatingMul
  split
  · rw [UInt64.toNat_mul, Nat.mod_eq_of_lt (by assumption)]
    omega
  · rw [toNat_maxValue]
    omega

theorem lt_saturatingAdd {a b : UInt64} (room : a < maxValue) (positive : 0 < b) :
    a < a.saturatingAdd b := by
  rw [UInt64.lt_iff_toNat_lt] at *
  rw [toNat_maxValue] at room
  rw [UInt64.toNat_zero] at positive
  rw [toNat_saturatingAdd]
  omega

/-- The maximum of a list, from a start value on. -/
theorem le_foldl_max (values : List UInt64) (start : UInt64) :
    start ≤ values.foldl max start ∧ ∀ value ∈ values, value ≤ values.foldl max start := by
  induction values generalizing start with
  | nil => exact ⟨UInt64.le_refl start, by simp⟩
  | cons first rest ih =>
      have larger : start ≤ max start first ∧ first ≤ max start first := by
        change start ≤ (if start ≤ first then first else start) ∧
          first ≤ if start ≤ first then first else start
        split
        · next below => exact ⟨below, UInt64.le_refl first⟩
        · next above => exact ⟨UInt64.le_refl start, UInt64.le_of_lt (UInt64.not_le.mp above)⟩
      obtain ⟨head, tail⟩ := ih (max start first)
      refine ⟨UInt64.le_trans larger.1 head, fun value listed => ?_⟩
      rcases List.mem_cons.mp listed with rfl | inRest
      · exact UInt64.le_trans larger.2 head
      · exact tail value inRest

theorem foldl_max_mem (values : List UInt64) (start : UInt64) :
    values.foldl max start = start ∨ values.foldl max start ∈ values := by
  induction values generalizing start with
  | nil => exact Or.inl rfl
  | cons first rest ih =>
      have larger : max start first = start ∨ max start first = first := by
        change (if start ≤ first then first else start) = start ∨
          (if start ≤ first then first else start) = first
        split
        · exact Or.inr rfl
        · exact Or.inl rfl
      rw [List.foldl_cons, List.mem_cons]
      rcases ih (max start first) with same | inRest
      · rw [same]
        exact larger.imp_right Or.inl
      · exact Or.inr (Or.inr inRest)

section Largest

variable {values others : List UInt64} {largest bound : UInt64}

theorem max?_eq_some (found : values.max? = some largest) :
    largest ∈ values ∧ ∀ value ∈ values, value ≤ largest := by
  cases values with
  | nil => cases found
  | cons first rest =>
      rw [List.max?_cons', Option.some.injEq] at found
      subst found
      obtain ⟨head, tail⟩ := le_foldl_max rest first
      refine ⟨List.mem_cons.mpr (foldl_max_mem rest first), fun value listed => ?_⟩
      rcases List.mem_cons.mp listed with rfl | inRest
      · exact head
      · exact tail value inRest

theorem max?_le_iff (found : values.max? = some largest) :
    largest ≤ bound ↔ ∀ value ∈ values, value ≤ bound := by
  obtain ⟨member, above⟩ := max?_eq_some found
  exact ⟨fun small value listed => UInt64.le_trans (above value listed) small, fun all => all largest member⟩

/-- Neither order nor repetition tells in a maximum. -/
theorem max?_eq_of_mem_iff (same : ∀ value, value ∈ values ↔ value ∈ others) : values.max? = others.max? := by
  cases found : values.max? with
  | none =>
      rw [List.max?_eq_none_iff] at found
      have empty : others = [] := List.eq_nil_iff_forall_not_mem.mpr fun value listed => by
        simpa [found] using (same value).mpr listed
      rw [empty]
      rfl
  | some largest =>
      obtain ⟨member, above⟩ := max?_eq_some found
      cases there : others.max? with
      | none =>
          rw [List.max?_eq_none_iff] at there
          simpa [there] using (same largest).mp member
      | some other =>
          obtain ⟨otherMember, otherAbove⟩ := max?_eq_some there
          rw [UInt64.le_antisymm (otherAbove largest ((same largest).mp member))
            (above other ((same other).mpr otherMember))]

end Largest

end UInt64
