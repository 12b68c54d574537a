import Mathlib

/-! Tables with a primary key: ordered maps, with the lookups of the SQL statements that read and
write them. -/

/-- Rows under a primary key. -/
abbrev Table (Key Row : Type) [Ord Key] := Std.ExtTreeMap Key Row compare

namespace Table

variable {Key Row : Type} [Ord Key] [Std.TransOrd Key] [Std.LawfulEqOrd Key]

/-- `UPDATE … WHERE key = ?`: no row is written when the key is missing. -/
def update (table : Table Key Row) (key : Key) (change : Row → Row) : Table Key Row :=
  match table[key]? with
  | some row => table.insert key (change row)
  | none => table

variable {table : Table Key Row} {key other : Key} {row : Row}

theorem mem_toList : (key, row) ∈ table.toList ↔ table[key]? = some row :=
  Std.ExtTreeMap.mem_toList_iff_getElem?_eq_some

/-- The rows of a full scan. -/
def rows (table : Table Key Row) : List Row := table.toList.map Prod.snd

theorem mem_rows : row ∈ table.rows ↔ ∃ key : Key, table[key]? = some row := by
  simp [rows]

variable [DecidableEq Key]

theorem lookup_insert : (table.insert key row)[other]? = if key = other then some row
    else table[other]? := by
  simp [Std.ExtTreeMap.getElem?_insert]

theorem lookup_insert_ne (different : key ≠ other) :
    (table.insert key row)[other]? = table[other]? := by
  rw [lookup_insert, if_neg different]

theorem insert_self (found : table[key]? = some row) : table.insert key row = table := by
  apply Std.ExtTreeMap.ext_getElem?
  intro other
  rw [lookup_insert]
  split
  · next same =>
    rw [← same, found]
  · rfl

theorem lookup_erase : (table.erase key)[other]? = if key = other then none
    else table[other]? := by
  simp [Std.ExtTreeMap.getElem?_erase]

theorem lookup_update {change : Row → Row} :
    (table.update key change)[other]? =
      if key = other then table[other]?.map change else table[other]? := by
  unfold update
  cases found : table[key]? with
  | some stored =>
      by_cases same : key = other
      · subst same
        simp [found]
      · simp [lookup_insert, same]
  | none =>
      by_cases same : key = other
      · subst same
        simp [found]
      · simp [same]

end Table

/-! Ordered maps rebuilt from their own listing, and listings in ascending order. -/

namespace OrderedMap

variable {α β : Type} [Ord α] [Std.LawfulEqOrd α]

theorem pairwise_of_nodup {entries : List (α × β)} (distinct : (entries.map Prod.fst).Nodup) :
    entries.Pairwise (fun a b => ¬ compare a.1 b.1 = .eq) := by
  rw [List.nodup_iff_pairwise_ne, List.pairwise_map] at distinct
  exact distinct.imp (fun different same => different (Std.compare_eq_iff_eq.mp same))

variable [Std.TransOrd α]

theorem nodup_keys_toList (map : Std.ExtTreeMap α β) : (map.toList.map Prod.fst).Nodup := by
  rw [List.nodup_iff_pairwise_ne, List.pairwise_map]
  exact map.distinct_keys_toList.imp
    (fun different same => different (Std.compare_eq_iff_eq.mpr same))

variable [DecidableEq α]

theorem mem_toList_insertMany {entries : List (α × β)}
    (distinct : (entries.map Prod.fst).Nodup) {entry : α × β} :
    entry ∈ ((∅ : Std.ExtTreeMap α β).insertMany entries).toList ↔ entry ∈ entries := by
  rcases entry with ⟨key, value⟩
  rw [Std.ExtTreeMap.mem_toList_iff_getElem?_eq_some]
  constructor
  · intro found
    by_cases listed : key ∈ entries.map Prod.fst
    · rcases List.mem_map.mp listed with ⟨⟨other, stored⟩, member, rfl⟩
      have lookup := Std.ExtTreeMap.getElem?_insertMany_list_of_mem
        (t := (∅ : Std.ExtTreeMap α β)) (Std.compare_eq_iff_eq.mpr rfl)
        (pairwise_of_nodup distinct) member
      rw [lookup, Option.some.injEq] at found
      rw [← found]
      exact member
    · have missing : (entries.map Prod.fst).contains key = false := by simpa using listed
      rw [Std.ExtTreeMap.getElem?_insertMany_list_of_contains_eq_false missing] at found
      simp at found
  · intro member
    exact Std.ExtTreeMap.getElem?_insertMany_list_of_mem (Std.compare_eq_iff_eq.mpr rfl)
      (pairwise_of_nodup distinct) member

theorem insertMany_toList (map : Std.ExtTreeMap α β) :
    (∅ : Std.ExtTreeMap α β).insertMany map.toList = map := by
  apply Std.ExtTreeMap.ext_getElem?
  intro key
  apply Option.ext
  intro value
  rw [← Std.ExtTreeMap.mem_toList_iff_getElem?_eq_some,
    ← Std.ExtTreeMap.mem_toList_iff_getElem?_eq_some,
    mem_toList_insertMany (nodup_keys_toList map)]

/-- A map lists its entries in the order they were given exactly when that order is ascending. -/
theorem toList_insertMany_eq_iff {entries : List (α × β)}
    (distinct : (entries.map Prod.fst).Nodup) :
    ((∅ : Std.ExtTreeMap α β).insertMany entries).toList = entries ↔
      entries.Pairwise (fun a b => compare a.1 b.1 = .lt) := by
  constructor
  · intro same
    rw [← same]
    exact Std.ExtTreeMap.ordered_keys_toList
  · intro ascending
    have listed := nodup_keys_toList ((∅ : Std.ExtTreeMap α β).insertMany entries)
    have permuted : List.Perm ((∅ : Std.ExtTreeMap α β).insertMany entries).toList entries := by
      rw [List.perm_ext_iff_of_nodup (List.Nodup.of_map _ listed) (List.Nodup.of_map _ distinct)]
      intro entry
      exact mem_toList_insertMany distinct
    refine permuted.eq_of_pairwise ?_ Std.ExtTreeMap.ordered_keys_toList ascending
    intro a b _ _ below above
    exact absurd above (Std.OrientedCmp.not_lt_of_lt below)

end OrderedMap
