import Gputeer.Lib.Table

/-! Rows that are gathered under their keys: nothing is lost, and there is one group for each key. -/

namespace List

variable {α κ : Type} [DecidableEq κ]

/-- The rows of some keys, key after key. -/
theorem flatMap_filter_perm {keys : List κ} (pairs : List (κ × α)) (distinct : keys.Nodup) :
    (keys.flatMap fun key => pairs.filter (·.1 = key)).Perm (pairs.filter (·.1 ∈ keys)) := by
  induction keys with
  | nil => simp
  | cons key rest ih =>
      rw [nodup_cons] at distinct
      rw [flatMap_cons]
      refine ((ih distinct.2).append_left _).trans ?_
      rw [← Multiset.coe_eq_coe, ← Multiset.coe_add]
      have apart : (pairs : Multiset (κ × α)).filter (fun pair => pair.1 = key ∧ pair.1 ∈ rest) = 0 := by
        refine Multiset.filter_eq_nil.mpr ?_
        rintro pair _ ⟨same, later⟩
        exact distinct.1 (same ▸ later)
      have either := Multiset.filter_add_filter (fun pair : κ × α => pair.1 = key)
        (fun pair => pair.1 ∈ rest) (pairs : Multiset (κ × α))
      rw [apart, add_zero] at either
      simpa using either

end List

namespace Table

variable {Key Row : Type} [Ord Key] [Std.TransOrd Key] [Std.LawfulEqOrd Key]

/-- `table.entry(key).or_default().push(row)` -/
def push (table : Table Key (List Row)) (key : Key) (row : Row) : Table Key (List Row) :=
  table.insert key (table[key]?.getD [] ++ [row])

/-- `*table.entry(key).or_default() += 1` -/
def bump (table : Table Key Nat) (key : Key) : Table Key Nat :=
  table.insert key (table[key]?.getD 0 + 1)

variable [DecidableEq Key] {table : Table Key (List Row)} {pairs : List (Key × Row)} {key : Key} {row : Row}

instance : RightCommutative (bump : Table Key Nat → Key → Table Key Nat) where
  right_comm counts first second := by
    by_cases same : first = second
    · rw [same]
    · apply Std.ExtTreeMap.ext_getElem?
      intro key
      simp only [bump, lookup_insert, if_neg same, if_neg (Ne.symm same)]
      split
      · next isSecond =>
        rw [if_neg fun isFirst => same (isFirst.trans isSecond.symm)]
      · rfl

/-- Every pair is in the group of its key, in the order in which they came, and no group is empty. -/
structure Groups (table : Table Key (List Row)) (pairs : List (Key × Row)) : Prop where
  rows : ∀ key : Key, table[key]?.getD [] = (pairs.filter (·.1 = key)).map Prod.snd
  filled : ∀ key : Key, table[key]? ≠ some []

namespace Groups

omit [Std.LawfulEqOrd Key] in
theorem empty : Groups (∅ : Table Key (List Row)) [] :=
  ⟨fun _ => by simp, fun _ => by simp⟩

theorem push (groups : Groups table pairs) : Groups (table.push key row) (pairs ++ [(key, row)]) := by
  constructor
  · intro other
    rw [Table.push, lookup_insert, List.filter_append, List.map_append, ← groups.rows other]
    split
    · next same =>
      subst same
      simp
    · next different => simp [different]
  · intro other
    rw [Table.push, lookup_insert]
    split
    · simp
    · exact groups.filled other

theorem rows_of_mem (groups : Groups table pairs) {rows : List Row} (listed : (key, rows) ∈ table.toList) :
    rows = (pairs.filter (·.1 = key)).map Prod.snd ∧ rows ≠ [] := by
  rw [mem_toList] at listed
  have same := groups.rows key
  have filled := groups.filled key
  rw [listed] at same filled
  exact ⟨same, fun none => filled (none ▸ rfl)⟩

theorem mem_keys (groups : Groups table pairs) : key ∈ table.keys ↔ key ∈ pairs.map Prod.fst := by
  have same := groups.rows key
  have filled := groups.filled key
  rw [Std.ExtTreeMap.mem_keys, ← Std.ExtTreeMap.isSome_getElem?_iff_mem]
  cases found : table[key]? with
  | none =>
      rw [found, Option.getD_none, eq_comm, List.map_eq_nil_iff, List.filter_eq_nil_iff] at same
      simpa using fun row member => same (key, row) member
  | some rows =>
      rw [found, Option.getD_some] at same
      have there : pairs.filter (·.1 = key) ≠ [] := by
        rintro none
        rw [none] at same
        exact filled (found.trans (congrArg some same))
      obtain ⟨pair, member⟩ := List.exists_mem_of_ne_nil _ there
      rw [List.mem_filter, decide_eq_true_eq] at member
      simpa using ⟨pair.2, member.2 ▸ member.1⟩

theorem flatMap_perm (groups : Groups table pairs) :
    (table.toList.flatMap Prod.snd).Perm (pairs.map Prod.snd) := by
  have listed : table.toList.flatMap Prod.snd =
      (table.keys.flatMap fun key => pairs.filter (·.1 = key)).map Prod.snd := by
    rw [← Std.ExtTreeMap.map_fst_toList_eq_keys, List.map_flatMap, List.flatMap_map]
    exact List.flatMap_congr fun entry member => (groups.rows_of_mem member).1
  have all : pairs.filter (·.1 ∈ table.keys) = pairs :=
    List.filter_eq_self.mpr fun pair member => by
      simpa using Std.ExtTreeMap.mem_keys.mp (groups.mem_keys.mpr (List.mem_map_of_mem member))
  rw [listed]
  refine ((List.flatMap_filter_perm pairs Std.ExtTreeMap.nodup_keys).map _).trans ?_
  rw [all]

end Groups

end Table
