import Gputeer.Lib.Table

/-! A directory on a disk that may lose power. What a program sees is not yet what lasts: the content of
a file lasts once the file is synced, the names once the directory is. A crash keeps any part of the
changes to the names since then, and puts anything into a file that was not synced. -/

/-- A file, and whether its content is on the disk. -/
structure Stored (Content : Type) where
  content : Content
  synced : Bool

inductive DirChange (Name Content : Type) where
  | put (name : Name) (file : Stored Content)
  | move (source target : Name) (file : Stored Content)
  | drop (name : Name)

/-- The changes of which a crash keeps each that is marked. -/
def DirChange.survivors {Name Content : Type} (kept : List Bool)
    (pending : List (DirChange Name Content)) : List (DirChange Name Content) :=
  ((pending.zip kept).filter Prod.snd).map Prod.fst

theorem DirChange.mem_of_mem_survivors {Name Content : Type} {kept : List Bool}
    {pending : List (DirChange Name Content)} {change : DirChange Name Content}
    (member : change ∈ survivors kept pending) : change ∈ pending := by
  obtain ⟨⟨_, _⟩, listed, rfl⟩ := List.mem_map.mp member
  exact (List.of_mem_zip (List.mem_of_mem_filter listed)).1

structure Disk (Name Content : Type) [Ord Name] where
  visible : Table Name (Stored Content)
  durable : Table Name (Stored Content)
  /-- The changes since the directory was synced. -/
  pending : List (DirChange Name Content)

variable {Name Content : Type} [Ord Name] [Std.TransOrd Name] [Std.LawfulEqOrd Name]
  [DecidableEq Name]

namespace DirChange

def apply (table : Table Name (Stored Content)) : DirChange Name Content → Table Name (Stored Content)
  | put name file => table.insert name file
  | move source target file => (table.erase source).insert target file
  | drop name => table.erase name

/-- The change leaves this file under this name, or puts it there. -/
def Keeps (name : Name) (file : Stored Content) : DirChange Name Content → Prop
  | put other written => other = name → written = file
  | move source target moved => source ≠ name ∧ (target = name → moved = file)
  | drop other => other ≠ name

variable {table : Table Name (Stored Content)} {name : Name} {file : Stored Content}
  {change : DirChange Name Content} {changes : List (DirChange Name Content)}

theorem Keeps.apply (keeps : change.Keeps name file) (there : table[name]? = some file) :
    (change.apply table)[name]? = some file := by
  cases change with
  | put other written =>
      rw [DirChange.apply, Table.lookup_insert]
      split
      · next same => rw [keeps same]
      · exact there
  | move source target moved =>
      rw [DirChange.apply, Table.lookup_insert]
      split
      · next same => rw [keeps.2 same]
      · rw [Table.lookup_erase, if_neg keeps.1]
        exact there
  | drop other =>
      rw [DirChange.apply, Table.lookup_erase, if_neg keeps]
      exact there

theorem Keeps.applyAll (keeps : ∀ change ∈ changes, change.Keeps name file)
    (there : table[name]? = some file) : (changes.foldl DirChange.apply table)[name]? = some file := by
  induction changes generalizing table with
  | nil => exact there
  | cons change changes ih =>
      rw [List.forall_mem_cons] at keeps
      exact ih keeps.2 (keeps.1.apply there)

end DirChange

namespace Disk

/-- A change that is seen at once, and lasts when the directory is synced. -/
def change (disk : Disk Name Content) (made : DirChange Name Content) : Disk Name Content :=
  { disk with visible := made.apply disk.visible, pending := disk.pending ++ [made] }

/-- Create the file or truncate it, and write this. -/
def write (disk : Disk Name Content) (name : Name) (content : Content) : Disk Name Content :=
  disk.change (.put name ⟨content, false⟩)

def sync (disk : Disk Name Content) (name : Name) : Disk Name Content :=
  match disk.visible[name]? with
  | some file => disk.change (.put name ⟨file.content, true⟩)
  | none => disk

def rename (disk : Disk Name Content) (source target : Name) : Disk Name Content :=
  match disk.visible[source]? with
  | some file => disk.change (.move source target file)
  | none => disk

def remove (disk : Disk Name Content) (name : Name) : Disk Name Content := disk.change (.drop name)

def syncDir (disk : Disk Name Content) : Disk Name Content :=
  { disk with durable := disk.visible, pending := [] }

/-- The changes that a crash keeps, and what it leaves in a file that was not synced. -/
structure Crash (Name Content : Type) where
  kept : List Bool
  garbled : Name → Content

def crash (disk : Disk Name Content) (crashed : Crash Name Content) : Disk Name Content :=
  let left := (DirChange.survivors crashed.kept disk.pending).foldl DirChange.apply disk.durable
  let files := left.map fun name file =>
    if file.synced then file else ⟨crashed.garbled name, true⟩
  { visible := files, durable := files, pending := [] }

/-- The file is there with this content, and stays there whatever a crash does. -/
structure Anchored (disk : Disk Name Content) (name : Name) (content : Content) : Prop where
  visible : disk.visible[name]? = some ⟨content, true⟩
  durable : disk.durable[name]? = some ⟨content, true⟩
  pending : ∀ change ∈ disk.pending, change.Keeps name ⟨content, true⟩

variable {disk : Disk Name Content} {name other source target : Name} {content written : Content}

namespace Anchored

theorem change {made : DirChange Name Content} (anchored : disk.Anchored name content)
    (keeps : made.Keeps name ⟨content, true⟩) : (disk.change made).Anchored name content where
  visible := keeps.apply anchored.visible
  durable := anchored.durable
  pending := by
    intro change member
    rcases List.mem_append.mp member with before | last
    · exact anchored.pending change before
    · rw [List.mem_singleton.mp last]
      exact keeps

theorem write (anchored : disk.Anchored name content) (away : other ≠ name) :
    (disk.write other written).Anchored name content :=
  anchored.change fun same => absurd same away

theorem sync (anchored : disk.Anchored name content) (away : other ≠ name) :
    (disk.sync other).Anchored name content := by
  unfold Disk.sync
  split
  · exact anchored.change fun same => absurd same away
  · exact anchored

theorem remove (anchored : disk.Anchored name content) (away : other ≠ name) :
    (disk.remove other).Anchored name content :=
  anchored.change away

/-- Another file may be moved here if it holds the very content, safely on the disk. -/
theorem rename (anchored : disk.Anchored name content) (away : source ≠ name)
    (same : target = name → disk.visible[source]? = some ⟨content, true⟩) :
    (disk.rename source target).Anchored name content := by
  unfold Disk.rename
  split
  · next file found =>
    refine anchored.change ⟨away, fun here => ?_⟩
    exact Option.some.inj (found.symm.trans (same here))
  · exact anchored

omit [Std.LawfulEqOrd Name] [DecidableEq Name] in
theorem syncDir (anchored : disk.Anchored name content) : disk.syncDir.Anchored name content where
  visible := anchored.visible
  durable := anchored.visible
  pending := by simp [Disk.syncDir]

theorem crash (anchored : disk.Anchored name content) (crashed : Crash Name Content) :
    (disk.crash crashed).Anchored name content := by
  have survive : ∀ change ∈ DirChange.survivors crashed.kept disk.pending,
      change.Keeps name ⟨content, true⟩ := fun change member =>
    anchored.pending change (DirChange.mem_of_mem_survivors member)
  have left := DirChange.Keeps.applyAll survive anchored.durable
  have there : (disk.crash crashed).visible[name]? = some ⟨content, true⟩ := by
    simp [Disk.crash, left]
  exact ⟨there, there, by simp [Disk.crash]⟩

end Anchored

omit [DecidableEq Name] in
/-- Write a temporary file, sync it, give it its name and sync the directory. -/
theorem replaced_anchored :
    ((((disk.write source content).sync source).rename source target).syncDir).Anchored target
      content := by
  have written : (disk.write source content).visible[source]? = some ⟨content, false⟩ := by
    simp [Disk.write, Disk.change, DirChange.apply]
  have synced : ((disk.write source content).sync source).visible[source]? =
      some ⟨content, true⟩ := by
    simp [Disk.sync, written, Disk.change, DirChange.apply]
  have renamed : (((disk.write source content).sync source).rename source target).visible[target]? =
      some ⟨content, true⟩ := by
    simp [Disk.rename, synced, Disk.change, DirChange.apply]
  exact ⟨renamed, renamed, by simp [Disk.syncDir]⟩

end Disk
