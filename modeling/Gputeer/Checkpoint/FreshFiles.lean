import Gputeer.Checkpoint.Atomic

/-! Files that are written for the first time, on a disk that answers by what is on it. -/

namespace Gputeer.Checkpoint

open Dialogue Text FileTree

variable {habits : Habits} {tree : FileTree} {dir path target : DiskPath} {name : String}
  {data content : List UInt8}

section Steps

/-- A lock is a file, made if it is not there. -/
theorem serve_takeLock (may : tree.mayPut path = .ok ()) (free : habits.locked path = false) :
    tree.serve habits (takeLock path target) =
      ((if tree.kindAt path = none then tree.putFile path [] else tree), .ok ()) := by
  unfold takeLock FileTree.serve
  rw [serve_map, serve_question]
  simp [answer, may, free, effect, Except.mapError]

theorem serve_writeTemporary (may : tree.mayPut path = .ok ()) :
    tree.serve habits (writeTemporary path data) = ((tree.putFile path []).putFile path data, .ok ()) := by
  have again : (tree.putFile path []).mayPut path = .ok () := mayPut_putFile may
  unfold writeTemporary create writeAll syncAll FileTree.serve
  rw [serve_andThen, serve_map, serve_question]
  simp only [answer, may, Except.mapError, effect]
  rw [serve_andThen, serve_map, serve_question]
  simp only [answer, again, Except.mapError, effect]
  rfl

theorem serve_renameTemporary (there : tree.kindAt path = some (.file content))
    (may : tree.mayPut target = .ok ()) :
    tree.serve habits (renameTemporary path target) = (tree.moveFile path target, .ok ()) := by
  unfold renameTemporary FileTree.serve
  rw [serve_bind, serve_question]
  simp only [answer, there, may, effect]
  rfl

theorem serve_removeAnyway (there : tree.kindAt path = some (.file content)) :
    tree.serve habits (removeAnyway path) = (tree.removeFile path, ()) := by
  unfold removeAnyway FileTree.serve
  rw [serve_bind, serve_question]
  simp only [answer, there, effect]
  rfl

theorem serve_syncDir : tree.serve habits (syncDir path) = (tree, .ok ()) := rfl

theorem serve_fileExists : tree.serve habits (fileExists path) = (tree, (tree.kindAt path).isSome) := rfl

theorem serve_cleanupLock {result : Bool} (there : tree.kindAt path = some (.file content)) :
    tree.serve habits (cleanupLock path result) = (tree.removeFile path, .ok result) := by
  unfold cleanupLock
  rw [serve_then (serve_removeAnyway there)]
  rfl

end Steps

section New

variable {finalPath tmpPath lockPath : DiskPath}

theorem mayPut_of_absent (above : path.dropLast = dir) (folder : tree.kindAt dir = some .folder)
    (absent : tree.kindAt path = none) : tree.mayPut path = .ok () := by
  refine mayPut_eq_ok.mpr ⟨?_, ?_⟩
  · rw [absent]
    simp
  · rw [above, folder]

/-- The lock is held. Whatever file is at the temporary path is lost. -/
theorem serve_writeNew {above : DiskPath} (folder : tree.kindAt above = some .folder)
    (final : finalPath.dropLast = above) (tmp : tmpPath.dropLast = above) (noFinal : tree.kindAt finalPath = none)
    (noFolder : tree.kindAt tmpPath ≠ some .folder) (lock : tree.kindAt lockPath = some (.file content))
    (apart : finalPath ≠ tmpPath) (noTmpLock : lockPath ≠ tmpPath) :
    ∃ later, tree.serve habits (writeNew dir finalPath tmpPath lockPath data) = (later, .ok true) ∧
      ∀ other, later.kindAt other = if other = lockPath then none
        else if other = finalPath then some (.file data) else if other = tmpPath then none
        else tree.kindAt other := by
  have mayTmp : tree.mayPut tmpPath = .ok () := mayPut_eq_ok.mpr ⟨noFolder, by rw [tmp, folder]⟩
  let written := (tree.putFile tmpPath []).putFile tmpPath data
  have kindWritten (other : DiskPath) :
      written.kindAt other = if other = tmpPath then some (.file data) else tree.kindAt other := by
    rw [kindAt_putFile_of_mayPut (mayPut_putFile mayTmp), kindAt_putFile_of_mayPut mayTmp]
    split
    · rfl
    · rfl
  have noFinalLock : lockPath ≠ finalPath := by
    rintro rfl
    rw [noFinal] at lock
    cases lock
  have noDir : above ≠ tmpPath := by
    rintro rfl
    exact noFolder folder
  have stillNoFinal : written.kindAt finalPath = none := by
    rw [kindWritten, if_neg apart, noFinal]
  have mayFinal : written.mayPut finalPath = .ok () := by
    refine mayPut_of_absent final ?_ stillNoFinal
    rw [kindWritten, if_neg noDir, folder]
  have atTmp : written.kindAt tmpPath = some (.file data) := by
    rw [kindWritten, if_pos rfl]
  have stillLock : (written.moveFile tmpPath finalPath).kindAt lockPath = some (.file content) := by
    rw [kindAt_moved atTmp mayFinal, if_neg noFinalLock, if_neg noTmpLock, kindWritten, if_neg noTmpLock, lock]
  refine ⟨(written.moveFile tmpPath finalPath).removeFile lockPath, ?_, fun other => ?_⟩
  · unfold writeNew
    rw [serve_ok (serve_writeTemporary mayTmp), serve_then serve_fileExists, stillNoFinal]
    dsimp only [Option.isSome]
    rw [if_neg (by simp), serve_ok (serve_renameTemporary atTmp mayFinal), serve_ok serve_syncDir,
      serve_cleanupLock stillLock]
  · rw [kindAt_removeFile, stillLock, kindAt_moved atTmp mayFinal, kindWritten]
    by_cases same : other = tmpPath
    · simp [same]
    · simp [same]

end New

section Once

/-- A name that can be written once: with its lock and its temporary file one name each below the folder. -/
structure OnceName (name : String) : Prop where
  relative : validateRelativeName name = .ok ()
  final : normalNames (pathComponents name) = [name]
  tmp : normalNames (pathComponents (name ++ ".tmp")) = [name ++ ".tmp"]
  lock : normalNames (pathComponents (name ++ ".write_once.lock")) = [name ++ ".write_once.lock"]

theorem append_ne_self {name suffix : String} (filled : suffix ≠ "") : name ++ suffix ≠ name := by
  intro same
  have := congrArg String.toList same
  rw [String.toList_append, List.append_right_eq_self] at this
  exact filled (String.toList_inj.mp this)

/-- The folder has the file then, and is else as it was. -/
theorem serve_writeOnce (once : OnceName name) (folder : tree.kindAt dir = some .folder)
    (noFinal : tree.kindAt (dir ++ [name]) = none) (noTmp : tree.kindAt (dir ++ [name ++ ".tmp"]) = none)
    (noLock : tree.kindAt (dir ++ [name ++ ".write_once.lock"]) = none)
    (free : habits.locked (dir ++ [name ++ ".write_once.lock"]) = false) :
    ∃ later, tree.serve habits (writeOnce dir name data) = (later, .ok true) ∧
      ∀ other, later.kindAt other =
        if other = dir ++ [name] then some (.file data) else tree.kindAt other := by
  have apart {first second : String} (different : first ≠ second) : dir ++ [first] ≠ dir ++ [second] := by
    simpa using different
  have above (name : String) : (dir ++ [name]).dropLast = dir := List.dropLast_concat
  have tmpLock : name ++ ".tmp" ≠ name ++ ".write_once.lock" := by
    intro same
    have := congrArg String.toList same
    rw [String.toList_append, String.toList_append, List.append_cancel_left_eq] at this
    exact absurd this (by decide)
  have mayLock := mayPut_of_absent (above (name ++ ".write_once.lock")) folder noLock
  let locked := tree.putFile (dir ++ [name ++ ".write_once.lock"]) []
  have takesLock : tree.serve habits (takeLock (dir ++ [name ++ ".write_once.lock"]) (dir ++ [name])) =
      (locked, .ok ()) := by
    rw [serve_takeLock mayLock free, if_pos noLock]
  have kindLocked (other : DiskPath) : locked.kindAt other =
      if other = dir ++ [name ++ ".write_once.lock"] then some (.file []) else tree.kindAt other :=
    kindAt_putFile_of_mayPut mayLock
  have stillFolder : locked.kindAt dir = some .folder := folder_putFile folder
  have stillNoFinal : locked.kindAt (dir ++ [name]) = none := by
    rw [kindLocked, if_neg (apart (append_ne_self (by decide)).symm), noFinal]
  have stillNoTmp : locked.kindAt (dir ++ [name ++ ".tmp"]) = none := by
    rw [kindLocked, if_neg (apart tmpLock), noTmp]
  have lock : locked.kindAt (dir ++ [name ++ ".write_once.lock"]) = some (.file []) := by
    rw [kindLocked, if_pos rfl]
  obtain ⟨later, ran, kinds⟩ := @serve_writeNew habits locked dir data [] _ _ _ dir stillFolder (above name)
    (above (name ++ ".tmp")) stillNoFinal (by simp [stillNoTmp]) lock (apart (append_ne_self (by decide)).symm)
    (apart tmpLock.symm)
  refine ⟨later, ?_, fun other => ?_⟩
  · unfold writeOnce joinName
    rw [once.relative, once.final, once.tmp, once.lock]
    dsimp only
    rw [serve_ok takesLock, serve_then serve_fileExists]
    change FileTree.serve habits locked (if (locked.kindAt (dir ++ [name])).isSome = true then _ else _) = _
    rw [stillNoFinal, if_neg (by simp), ran]
  · rw [kinds, kindLocked]
    by_cases same : other = dir ++ [name ++ ".write_once.lock"]
    · have noSame : other ≠ dir ++ [name] := same ▸ apart (append_ne_self (by decide))
      rw [if_pos same, if_neg noSame, same, noLock]
    · rw [if_neg same, if_neg same]
      by_cases tmp : other = dir ++ [name ++ ".tmp"]
      · rw [if_pos tmp, tmp, noTmp]
      · rw [if_neg tmp]

end Once

end Gputeer.Checkpoint
