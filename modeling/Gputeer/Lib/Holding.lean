import Gputeer.Lib.Lists
import Gputeer.Lib.Table

/-! A table whose rows are those of a set of items, each under its own key. -/

namespace Table

variable {α Key Row : Type} [Ord Key] [Std.TransOrd Key] {keyOf : α → Key} {rowOf : α → Row}

structure Holds (table : Table Key Row) (keyOf : α → Key) (rowOf : α → Row) (items : Finset α) : Prop where
  apart : ∀ item ∈ items, ∀ other ∈ items, keyOf item = keyOf other → item = other
  rows : ∀ (key : Key) (row : Row), table[key]? = some row ↔
    ∃ item ∈ items, keyOf item = key ∧ rowOf item = row

namespace Holds

variable {table : Table Key Row} {items : Finset α}
  {item old : α} {key : Key}

theorem empty : Holds (∅ : Table Key Row) keyOf rowOf ∅ := by
  constructor
  · intro item member
    simp at member
  · intro key row
    simp

theorem lookup (holds : Holds table keyOf rowOf items) (member : item ∈ items) :
    table[keyOf item]? = some (rowOf item) :=
  (holds.rows _ _).mpr ⟨item, member, rfl, rfl⟩

theorem lookup_eq_none (holds : Holds table keyOf rowOf items) (absent : ∀ item ∈ items, keyOf item ≠ key) :
    table[key]? = none := by
  rw [Option.eq_none_iff_forall_ne_some]
  intro row found
  obtain ⟨item, member, same, _⟩ := (holds.rows key row).mp found
  exact absent item member same

variable [Std.LawfulEqOrd Key]

/-- The rows of a full scan, item by item. -/
theorem exists_listed (holds : Holds table keyOf rowOf items) :
    ∃ listed : List α, listed.Nodup ∧ (∀ item, item ∈ listed ↔ item ∈ items) ∧
      table.toList = listed.map fun item => (keyOf item, rowOf item) := by
  have each : ∀ entry ∈ table.toList, ∃ item ∈ items, (keyOf item, rowOf item) = entry := by
    rintro ⟨key, row⟩ listed
    obtain ⟨item, member, rfl, rfl⟩ := (holds.rows key row).mp (mem_toList.mp listed)
    exact ⟨item, member, rfl⟩
  obtain ⟨listed, inside, same⟩ := List.exists_map_eq each
  refine ⟨listed, ?_, fun item => ⟨inside item, fun member => ?_⟩, same.symm⟩
  · have keys : (listed.map keyOf).Pairwise fun left right => ¬ compare left right = .eq := by
      have distinct := Std.ExtTreeMap.distinct_keys_toList (t := table)
      rw [← same, List.pairwise_map] at distinct
      exact List.pairwise_map.mpr distinct
    refine List.Nodup.of_map keyOf (keys.imp fun different equal => different ?_)
    rw [equal]
    exact Std.ReflCmp.compare_self
  · have shown : (keyOf item, rowOf item) ∈ table.toList := mem_toList.mpr (holds.lookup member)
    rw [← same, List.mem_map] at shown
    obtain ⟨other, there, equal⟩ := shown
    exact holds.apart other (inside other there) item member (Prod.mk.inj equal).1 ▸ there

variable [DecidableEq Key] [DecidableEq α]

theorem put (holds : Holds table keyOf rowOf items) (absent : ∀ other ∈ items, keyOf other ≠ keyOf item) :
    Holds (table.insert (keyOf item) (rowOf item)) keyOf rowOf (insert item items) := by
  constructor
  · rw [Finset.forall_mem_insert]
    refine ⟨?_, fun other member => ?_⟩
    · exact Finset.forall_mem_insert _ _ _ |>.mpr
        ⟨fun _ => rfl, fun other member same => absurd same.symm (absent other member)⟩
    · exact Finset.forall_mem_insert _ _ _ |>.mpr
        ⟨fun same => absurd same (absent other member), holds.apart other member⟩
  · intro key row
    rw [lookup_insert, Finset.exists_mem_insert]
    split
    · next same =>
      subst same
      rw [Option.some.injEq]
      refine ⟨fun equal => Or.inl ⟨rfl, equal⟩, ?_⟩
      rintro (⟨_, equal⟩ | ⟨other, member, same, _⟩)
      · exact equal
      · exact absurd same (absent other member)
    · next different =>
      rw [holds.rows]
      exact ⟨Or.inr, fun shown => shown.resolve_left fun own => different own.1⟩

theorem drop (holds : Holds table keyOf rowOf items) (member : old ∈ items) :
    Holds (table.erase (keyOf old)) keyOf rowOf (items.erase old) := by
  constructor
  · intro item inside other otherInside
    exact holds.apart item (Finset.mem_of_mem_erase inside) other (Finset.mem_of_mem_erase otherInside)
  · intro key row
    rw [lookup_erase]
    split
    · next same =>
      refine ⟨fun found => absurd found (by simp), ?_⟩
      rintro ⟨item, inside, sameKey, _⟩
      obtain ⟨different, before⟩ := Finset.mem_erase.mp inside
      exact absurd (holds.apart item before old member (sameKey.trans same.symm)) different
    · next different =>
      rw [holds.rows]
      constructor
      · rintro ⟨item, inside, rfl, rfl⟩
        refine ⟨item, Finset.mem_erase.mpr ⟨?_, inside⟩, rfl, rfl⟩
        rintro rfl
        exact different rfl
      · rintro ⟨item, inside, sameKey, sameRow⟩
        exact ⟨item, Finset.mem_of_mem_erase inside, sameKey, sameRow⟩

/-- An item in the place of another of its key. -/
theorem renew (holds : Holds table keyOf rowOf items) (member : old ∈ items) (same : keyOf old = keyOf item) :
    Holds (table.insert (keyOf item) (rowOf item)) keyOf rowOf (insert item (items.erase old)) := by
  have written : table.insert (keyOf item) (rowOf item) =
      (table.erase (keyOf old)).insert (keyOf item) (rowOf item) := by
    apply Std.ExtTreeMap.ext_getElem?
    intro key
    rw [lookup_insert, lookup_insert, lookup_erase, same]
    split <;> rfl
  rw [written]
  refine (holds.drop member).put fun other inside sameKey => ?_
  obtain ⟨different, before⟩ := Finset.mem_erase.mp inside
  exact different (holds.apart other before old member (sameKey.trans same.symm))

end Holds

end Table
