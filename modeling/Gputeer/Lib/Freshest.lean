import Mathlib.Data.Finset.Card
import Mathlib.Data.Finset.Lattice.Fold
import Mathlib.Data.Finset.Max
import Mathlib.Order.Basic
import Mathlib.Tactic.Common

/-! A store with a limit that keeps, of everything it has seen, the newest of each key, and of these the ones
with the latest times. When no two things share a time, what it keeps does not hang on the order in which it
saw them. -/

namespace Freshest

variable {α κ τ : Type} [DecidableEq κ] [LinearOrder τ] {key : α → κ} {time : α → τ}

/-- What is not older than anything else of its key. -/
def newest (key : α → κ) (time : α → τ) (seen : Finset α) : Finset α :=
  seen.filter fun item => ∀ other ∈ seen, key other = key item → time other ≤ time item

/-- The latest ones: fewer than `limit` of the others are later. -/
def latest (time : α → τ) (limit : Nat) (items : Finset α) : Finset α :=
  items.filter fun item => (items.filter fun other => time item < time other).card < limit

/-- No two things share a time. -/
def Distinct (time : α → τ) (seen : Finset α) : Prop :=
  ∀ item ∈ seen, ∀ other ∈ seen, time item = time other → item = other

section Newest

variable {seen : Finset α} {item other added : α}

theorem mem_newest : item ∈ newest key time seen ↔
    item ∈ seen ∧ ∀ other ∈ seen, key other = key item → time other ≤ time item :=
  Finset.mem_filter

/-- Everything that was seen has a newest one of its key. -/
theorem exists_newest (member : item ∈ seen) :
    ∃ last ∈ newest key time seen, key last = key item ∧ time item ≤ time last := by
  have there : item ∈ seen.filter (key · = key item) := Finset.mem_filter.mpr ⟨member, rfl⟩
  obtain ⟨last, among, greatest⟩ := Finset.exists_max_image _ time ⟨item, there⟩
  rw [Finset.mem_filter] at among
  refine ⟨last, mem_newest.mpr ⟨among.1, fun other listed same => ?_⟩, among.2, greatest item there⟩
  exact greatest other (Finset.mem_filter.mpr ⟨listed, same.trans among.2⟩)

theorem newest_inj (distinct : Distinct time seen) (isNewest : item ∈ newest key time seen)
    (alsoNewest : other ∈ newest key time seen) (same : key item = key other) : item = other := by
  rw [mem_newest] at isNewest alsoNewest
  refine distinct item isNewest.1 other alsoNewest.1 (le_antisymm ?_ ?_)
  · exact alsoNewest.2 item isNewest.1 same
  · exact isNewest.2 other alsoNewest.1 same.symm

/-- What is later than the newest of its key that are not held is later than everything of its key, when none
of them is held. -/
theorem newer_of_absent {held : Finset α} (absent : ∀ other ∈ held, key other ≠ key added)
    (beyond : ∀ other ∈ newest key time seen, other ∉ held → time other < time added) :
    ∀ item ∈ seen, key item = key added → time item < time added := by
  intro item listed same
  obtain ⟨last, isNewest, lastKey, upTo⟩ : ∃ last ∈ newest key time seen, _ := exists_newest listed
  have left : last ∉ held := fun isHeld => absent last isHeld (lastKey.trans same)
  exact upTo.trans_lt (beyond last isNewest left)

variable [DecidableEq α]

/-- What is not newer than something of its key makes no difference. -/
theorem newest_insert_of_le (distinct : Distinct time (insert added seen)) (member : item ∈ seen)
    (same : key item = key added) (older : time added ≤ time item) :
    newest key time (insert added seen) = newest key time seen := by
  ext candidate
  rw [mem_newest, mem_newest, Finset.forall_mem_insert, Finset.mem_insert]
  constructor
  · rintro ⟨rfl | listed, ⟨_, above⟩⟩
    · have equal := distinct candidate (Finset.mem_insert_self _ _) item
        (Finset.mem_insert_of_mem member) (le_antisymm older (above item member same))
      exact ⟨equal ▸ member, above⟩
    · exact ⟨listed, above⟩
  · rintro ⟨listed, above⟩
    refine ⟨Or.inr listed, fun sameKey => ?_, above⟩
    exact older.trans (above item member (same.trans sameKey))

/-- What is newer than everything of its key takes its place. -/
theorem mem_newest_insert_of_lt (newer : ∀ item ∈ seen, key item = key added → time item < time added) :
    item ∈ newest key time (insert added seen) ↔
      item = added ∨ (item ∈ newest key time seen ∧ key item ≠ key added) := by
  rw [mem_newest, mem_newest, Finset.forall_mem_insert, Finset.mem_insert]
  constructor
  · rintro ⟨rfl | listed, aboveAdded, above⟩
    · exact Or.inl rfl
    · refine Or.inr ⟨⟨listed, above⟩, fun same => ?_⟩
      exact absurd (aboveAdded same.symm) (not_le.mpr (newer item listed same))
  · rintro (rfl | ⟨⟨listed, above⟩, different⟩)
    · exact ⟨Or.inl rfl, fun _ => le_rfl, fun other listed same => (newer other listed same).le⟩
    · exact ⟨Or.inr listed, fun same => absurd same.symm different, above⟩

end Newest

/-- What is held: the newest of each key as long as there is room, and else those that are later than all that
are not held. -/
structure Keeps (key : α → κ) (time : α → τ) (limit : Nat) (seen held : Finset α) : Prop where
  among : held ⊆ newest key time seen
  bound : held.card ≤ limit
  full : held = newest key time seen ∨ held.card = limit
  above : ∀ item ∈ held, ∀ other ∈ newest key time seen, other ∉ held → time other < time item

namespace Keeps

variable {limit : Nat} {seen held : Finset α} {item added oldest : α}

theorem empty : Keeps key time limit ∅ ∅ := by
  constructor <;> simp [newest]

variable [DecidableEq α]

/-- What is held is told by what was seen. -/
theorem eq_latest (keeps : Keeps key time limit seen held) :
    held = latest time limit (newest key time seen) := by
  ext candidate
  rw [latest, Finset.mem_filter]
  constructor
  · intro isHeld
    refine ⟨keeps.among isHeld, ?_⟩
    have later : (newest key time seen).filter (fun other => time candidate < time other) ⊆
        held.erase candidate := by
      intro other member
      rw [Finset.mem_filter] at member
      refine Finset.mem_erase.mpr ⟨fun same => ?_, ?_⟩
      · exact absurd (same ▸ member.2) (lt_irrefl _)
      · by_contra left
        exact absurd member.2 (keeps.above candidate isHeld other member.1 left).not_gt
    calc
      _ ≤ (held.erase candidate).card := Finset.card_le_card later
      _ < held.card := Finset.card_erase_lt_of_mem isHeld
      _ ≤ limit := keeps.bound
  · rintro ⟨isNewest, few⟩
    by_contra left
    rcases keeps.full with all | full
    · exact left (all ▸ isNewest)
    · have later : held ⊆ (newest key time seen).filter fun other => time candidate < time other :=
        fun other isHeld => Finset.mem_filter.mpr
          ⟨keeps.among isHeld, keeps.above other isHeld candidate isNewest left⟩
      exact absurd (Finset.card_le_card later) (by omega)

/-- Something that is not newer than what is held of its key. -/
theorem ignore (keeps : Keeps key time limit seen held) (distinct : Distinct time (insert added seen))
    (isHeld : item ∈ held) (same : key item = key added) (older : time added ≤ time item) :
    Keeps key time limit (insert added seen) held := by
  have listed := (mem_newest.mp (keeps.among isHeld)).1
  have unchanged := newest_insert_of_le distinct listed same older
  exact ⟨unchanged ▸ keeps.among, keeps.bound, unchanged ▸ keeps.full, unchanged ▸ keeps.above⟩

/-- Something newer than what is held of its key. -/
theorem replace (keeps : Keeps key time limit seen held) (distinct : Distinct time (insert added seen))
    (isHeld : item ∈ held) (same : key item = key added) (newer : time item < time added) :
    Keeps key time limit (insert added seen) (insert added (held.erase item)) := by
  have isNewest := keeps.among isHeld
  have seenDistinct : Distinct time seen := fun one listed other otherListed =>
    distinct one (Finset.mem_insert_of_mem listed) other (Finset.mem_insert_of_mem otherListed)
  have all : ∀ other ∈ seen, key other = key added → time other < time added :=
    fun other listed sameKey =>
      ((mem_newest.mp isNewest).2 other listed (sameKey.trans same.symm)).trans_lt newer
  have absent : added ∉ held := by
    intro already
    have equal := newest_inj seenDistinct isNewest (keeps.among already) same
    exact absurd newer (equal ▸ lt_irrefl _)
  have apart : ∀ other ∈ newest key time seen, other ≠ item → key other ≠ key added :=
    fun other listed different sameKey =>
      different (newest_inj seenDistinct listed isNewest (sameKey.trans same.symm))
  have count : (insert added (held.erase item)).card = held.card := by
    rw [Finset.card_insert_of_notMem fun inside => absent (Finset.mem_of_mem_erase inside),
      Finset.card_erase_of_mem isHeld]
    have some := Finset.card_pos.mpr ⟨item, isHeld⟩
    omega
  constructor
  case among =>
    intro candidate member
    rw [mem_newest_insert_of_lt all]
    rcases Finset.mem_insert.mp member with rfl | kept
    · exact Or.inl rfl
    · obtain ⟨different, before⟩ := Finset.mem_erase.mp kept
      exact Or.inr ⟨keeps.among before, apart candidate (keeps.among before) different⟩
  case bound => exact count ▸ keeps.bound
  case full =>
    rcases keeps.full with whole | full
    · left
      ext candidate
      rw [mem_newest_insert_of_lt all, Finset.mem_insert, Finset.mem_erase, whole]
      refine or_congr_right ⟨fun both => ⟨both.2, apart candidate both.2 both.1⟩, fun both => ⟨?_, both.1⟩⟩
      rintro rfl
      exact both.2 same
    · exact Or.inr (count.trans full)
  case above =>
    intro candidate member other otherNewest left
    rw [mem_newest_insert_of_lt all] at otherNewest
    rw [Finset.mem_insert, Finset.mem_erase, not_or] at left
    rcases otherNewest with rfl | ⟨otherNewest, otherKey⟩
    · exact absurd rfl left.1
    · have notHeld : other ∉ held := fun before => left.2 ⟨fun isItem => otherKey (isItem ▸ same), before⟩
      rcases Finset.mem_insert.mp member with rfl | kept
      · exact (keeps.above item isHeld other otherNewest notHeld).trans newer
      · exact keeps.above candidate (Finset.mem_of_mem_erase kept) other otherNewest notHeld

/-- Something of a key that is not held, while there is room. -/
theorem add (keeps : Keeps key time limit seen held) (room : held.card < limit)
    (absent : ∀ other ∈ held, key other ≠ key added) :
    Keeps key time limit (insert added seen) (insert added held) := by
  have whole : held = newest key time seen := keeps.full.resolve_right room.ne
  have newer := newer_of_absent absent fun other isNewest left => absurd (whole ▸ isNewest) left
  have grown : insert added held = newest key time (insert added seen) := by
    ext candidate
    rw [mem_newest_insert_of_lt newer, Finset.mem_insert, whole]
    exact or_congr_right ⟨fun isNewest => ⟨isNewest, absent candidate (whole ▸ isNewest)⟩, And.left⟩
  constructor
  · exact grown.subset
  · exact (Finset.card_insert_le _ _).trans room
  · exact Or.inl grown
  · exact fun item isHeld other isNewest left => absurd (grown ▸ isNewest) left

/-- Something of a key that is not held and not later than anything held, when there is no room. -/
theorem refuse (keeps : Keeps key time limit seen held) (distinct : Distinct time (insert added seen))
    (full : held.card = limit) (absent : ∀ other ∈ held, key other ≠ key added)
    (older : ∀ other ∈ held, time added ≤ time other) : Keeps key time limit (insert added seen) held := by
  by_cases stale : ∃ item ∈ seen, key item = key added ∧ time added ≤ time item
  · obtain ⟨item, listed, same, later⟩ := stale
    have unchanged := newest_insert_of_le distinct listed same later
    exact ⟨unchanged ▸ keeps.among, keeps.bound, unchanged ▸ keeps.full, unchanged ▸ keeps.above⟩
  · have newer : ∀ item ∈ seen, key item = key added → time item < time added :=
      fun item listed same => not_le.mp fun later => stale ⟨item, listed, same, later⟩
    constructor
    · intro item isHeld
      exact (mem_newest_insert_of_lt newer).mpr (Or.inr ⟨keeps.among isHeld, absent item isHeld⟩)
    · exact keeps.bound
    · exact Or.inr full
    · intro item isHeld other isNewest left
      rcases (mem_newest_insert_of_lt newer).mp isNewest with rfl | ⟨isNewest, _⟩
      · refine (older item isHeld).lt_of_ne fun atOnce => absent item isHeld ?_
        have listed := (mem_newest.mp (keeps.among isHeld)).1
        rw [distinct other (Finset.mem_insert_self _ _) item (Finset.mem_insert_of_mem listed) atOnce]
      · exact keeps.above item isHeld other isNewest left

/-- Something of a key that is not held, when there is no room but for what it drives out. -/
theorem evict (keeps : Keeps key time limit seen held) (distinct : Distinct time (insert added seen))
    (full : held.card = limit) (absent : ∀ other ∈ held, key other ≠ key added)
    (isHeld : oldest ∈ held) (least : ∀ other ∈ held, time oldest ≤ time other)
    (later : time oldest < time added) :
    Keeps key time limit (insert added seen) (insert added (held.erase oldest)) := by
  have newer := newer_of_absent absent fun other isNewest left =>
    (keeps.above oldest isHeld other isNewest left).trans later
  have seenOf : ∀ item ∈ held, item ∈ insert added seen := fun item there =>
    Finset.mem_insert_of_mem (mem_newest.mp (keeps.among there)).1
  have outside : added ∉ held.erase oldest := fun inside =>
    absent added (Finset.mem_of_mem_erase inside) rfl
  have count : (insert added (held.erase oldest)).card = limit := by
    rw [Finset.card_insert_of_notMem outside, Finset.card_erase_of_mem isHeld, ← full]
    have some := Finset.card_pos.mpr ⟨oldest, isHeld⟩
    omega
  -- What stays is later than what is driven out: their times are not the same.
  have above : ∀ item ∈ insert added (held.erase oldest), time oldest < time item := by
    intro item member
    rcases Finset.mem_insert.mp member with rfl | kept
    · exact later
    · obtain ⟨different, before⟩ := Finset.mem_erase.mp kept
      refine (least item before).lt_of_ne fun atOnce => different ?_
      exact distinct item (seenOf item before) oldest (seenOf oldest isHeld) atOnce.symm
  constructor
  case among =>
    intro item member
    rw [mem_newest_insert_of_lt newer]
    rcases Finset.mem_insert.mp member with rfl | kept
    · exact Or.inl rfl
    · have before := Finset.mem_of_mem_erase kept
      exact Or.inr ⟨keeps.among before, absent item before⟩
  case bound => exact count.le
  case full => exact Or.inr count
  case above =>
    intro item member other isNewest left
    rw [mem_newest_insert_of_lt newer] at isNewest
    rw [Finset.mem_insert, Finset.mem_erase, not_or] at left
    rcases isNewest with rfl | ⟨isNewest, _⟩
    · exact absurd rfl left.1
    · by_cases driven : other = oldest
      · exact driven ▸ above item member
      · have notHeld : other ∉ held := fun before => left.2 ⟨driven, before⟩
        exact (keeps.above oldest isHeld other isNewest notHeld).trans (above item member)

end Keeps

end Freshest
