import Gputeer.Checkpoint.FreshFiles
import Gputeer.Lib.Except
import Gputeer.Lib.FaultyDisk

/-! Calls that each write one file once, one after the other in a folder: which entries a call touches, and when
what was written stays. -/

namespace Gputeer.Checkpoint

open Dialogue Text FileTree

section Names

/-- The name that a part of a path stands for. -/
def nameOf (part : List Char) : Option String :=
  if part = [] ∨ part = ['.'] ∨ part = ['.', '.'] then none else some (String.ofList part)

theorem normalNames_filterMap (parts : List (List Char)) :
    normalNames (parts.filterMap componentOf) = parts.filterMap nameOf := by
  induction parts with
  | nil => rfl
  | cons part parts ih =>
      rw [List.filterMap_cons, List.filterMap_cons, ← ih]
      by_cases empty : part = []
      · simp [componentOf, nameOf, empty]
      · by_cases dot : part = ['.']
        · simp [componentOf, nameOf, dot]
        · by_cases up : part = ['.', '.']
          · simp [componentOf, nameOf, up, normalNames]
          · simp [componentOf, nameOf, empty, dot, up, normalNames]

theorem normalNames_pathComponents (path : String) :
    normalNames (pathComponents path) = (path.toList.splitOn '/').filterMap nameOf := by
  unfold pathComponents
  split
  · next parts => rw [parts]; rfl
  · next first rest parts =>
    rw [parts]
    split
    · next absolute =>
      rw [List.filterMap_cons, absolute.1, ← normalNames_filterMap]
      rfl
    · split
      · next dot =>
        rw [List.filterMap_cons, dot, ← normalNames_filterMap]
        rfl
      · exact normalNames_filterMap _

/-- What is put after a path changes its last part only. -/
theorem exists_lastPart (path : List Char) :
    ∃ (before : List (List Char)) (last : List Char), last <:+ path ∧ path.splitOn '/' = before ++ [last] ∧
      ∀ suffix, '/' ∉ suffix → (path ++ suffix).splitOn '/' = before ++ [last ++ suffix] := by
  by_cases slash : '/' ∈ path
  · obtain ⟨after, before, reversed, flat⟩ := List.eq_append_cons_of_mem (List.mem_reverse.mpr slash)
    have whole : path = before.reverse ++ '/' :: after.reverse := by
      rw [← List.reverse_reverse path, reversed]
      simp
    have flatLast : '/' ∉ after.reverse := by simpa using flat
    refine ⟨before.reverse.splitOn '/', after.reverse, ?_, ?_, fun suffix flatSuffix => ?_⟩
    · rw [whole, List.append_cons]
      exact List.suffix_append _ _
    · rw [whole, List.splitOn_append_cons_self, List.splitOn_eq_singleton flatLast]
    · have flatWhole : '/' ∉ after.reverse ++ suffix := by simp [flatSuffix, flat]
      rw [whole, List.append_assoc, List.cons_append, List.splitOn_append_cons_self,
        List.splitOn_eq_singleton flatWhole]
  · refine ⟨[], path, List.suffix_refl _, List.splitOn_eq_singleton slash, fun suffix flatSuffix => ?_⟩
    exact List.splitOn_eq_singleton (by simp [slash, flatSuffix])

theorem nameOf_long {part : List Char} (long : 2 < part.length) : nameOf part = some (String.ofList part) := by
  unfold nameOf
  rw [if_neg]
  rintro (rfl | rfl | rfl) <;> simp at long

/-- The three paths of a call: the lock and the temporary file are in one folder, in which the file itself is,
unless the name is one of that folder. -/
theorem exists_onceFolder (dir : DiskPath) (name : String) :
    ∃ folder last, last <:+ name.toList ∧
      (joinName dir name = folder ∨ joinName dir name = folder ++ [String.ofList last]) ∧
      joinName dir (name ++ ".tmp") = folder ++ [String.ofList (last ++ ".tmp".toList)] ∧
      joinName dir (name ++ ".write_once.lock") = folder ++ [String.ofList (last ++ ".write_once.lock".toList)] := by
  obtain ⟨before, last, ends, whole, longer⟩ := exists_lastPart name.toList
  have joined {suffix : String} (flat : '/' ∉ suffix.toList) (long : 2 < suffix.toList.length) :
      joinName dir (name ++ suffix) = dir ++ before.filterMap nameOf ++ [String.ofList (last ++ suffix.toList)] := by
    unfold joinName
    rw [normalNames_pathComponents, String.toList_append, longer _ flat, List.filterMap_append, List.append_assoc,
      List.filterMap_cons_some (nameOf_long (by rw [List.length_append]; omega)), List.filterMap_nil]
  refine ⟨dir ++ before.filterMap nameOf, last, ends, ?_, joined (by decide) (by decide),
    joined (by decide) (by decide)⟩
  unfold joinName
  rw [normalNames_pathComponents, whole, List.filterMap_append]
  by_cases named : nameOf last = none
  · exact Or.inl (by simp [named])
  · obtain ⟨shown, same⟩ := Option.ne_none_iff_exists'.mp named
    have text : shown = String.ofList last := by
      unfold nameOf at same
      split at same
      · cases same
      · exact (Option.some.inj same).symm
    exact Or.inr (by simp [same, text])

/-- A name that is accepted is none of a lock. -/
theorem validateRelativeName_lock {name : String} (lock : ".write_once.lock".toList <:+ name.toList) :
    validateRelativeName name ≠ .ok () := by
  obtain ⟨before, whole⟩ := lock
  have stays : name.toList.rdropWhile (fun c => c = '.' || c = ' ') = name.toList := by
    have filled : name.toList ≠ [] := by simp [← whole]
    refine List.rdropWhile_eq_self_iff.mpr fun _ => ?_
    have last : name.toList.getLast filled = 'k' := by simp [← whole]
    rw [last]
    decide
  have reserved : endsWith ".write_once.lock" (asciiLowercase name) = true := by
    have lower : ".write_once.lock".toList.map Char.toLower = ".write_once.lock".toList := by decide
    refine decide_eq_true ⟨before.map Char.toLower, ?_⟩
    unfold asciiLowercase
    rw [← whole, List.map_append, lower]
    exact String.toList_ofList.symm
  unfold validateRelativeName
  rw [stays, String.ofList_toList]
  split
  · simp
  · rw [if_pos reserved]
    simp

end Names

section Once

variable {habits : Habits} {tree : FileTree} {final tmp lock : DiskPath} {data : List UInt8}

/-- What a call may come to, with the paths of its file, its temporary file and its lock. -/
inductive Once (tree : FileTree) (final tmp lock : DiskPath) (data : List UInt8) : FileTree → Checked Bool → Prop
  | unlocked {why : String} (may : tree.mayPut lock ≠ .ok ()) : Once tree final tmp lock data tree (.error (.io why))
  | same {later : FileTree} (may : tree.mayPut lock = .ok ()) (there : tree.kindAt final = some (.file data))
      (kinds : ∀ other, later.kindAt other = if other = lock then none else tree.kindAt other) :
      Once tree final tmp lock data later (.ok false)
  | different {later : FileTree} {content : List UInt8} (may : tree.mayPut lock = .ok ())
      (there : tree.kindAt final = some (.file content)) (differs : content ≠ data)
      (kinds : ∀ other, other ≠ lock → later.kindAt other = tree.kindAt other) :
      Once tree final tmp lock data later (.error (.contentMismatch final content.length data.length))
  | blocked {later : FileTree} {error : CheckpointError} (may : tree.mayPut lock = .ok ())
      (folder : tree.kindAt final = some .folder ∨ tree.kindAt final = none ∧ tree.kindAt tmp = some .folder)
      (kinds : ∀ other, other ≠ lock → later.kindAt other = tree.kindAt other) :
      Once tree final tmp lock data later (.error error)
  | written {later : FileTree} (may : tree.mayPut lock = .ok ()) (absent : tree.kindAt final = none)
      (free : tree.kindAt tmp ≠ some .folder)
      (kinds : ∀ other, later.kindAt other = if other = lock then none
        else if other = final then some (.file data) else if other = tmp then none else tree.kindAt other) :
      Once tree final tmp lock data later (.ok true)

theorem serve_failed {α β Error : Type} {later : FileTree} {step : FileDialogue (Except Error α)}
    {next : α → FileDialogue (Except Error β)} {error : Error}
    (failed : tree.serve habits step = (later, .error error)) :
    tree.serve habits (step.andThen next) = (later, .error error) := by
  unfold FileTree.serve at failed ⊢
  rw [serve_andThen, failed]

/-- The lock is held, and the file is there. -/
theorem serve_existing {content held : List UInt8} (there : tree.kindAt final = some (.file content))
    (locked : tree.kindAt lock = some (.file held)) :
    tree.serve habits ((readExisting final data).andThen fun existing => keepExisting final lock data existing) =
      if content = data then (tree.removeFile lock, .ok false)
      else (tree, .error (.contentMismatch final content.length data.length)) := by
  have length : tree.serve habits (fileLength final) = (tree, .ok content.length) := by
    refine serve_mapError (serve_asked trivial ?_)
    simp only [answer, there]
  have read : tree.serve habits (readFile final) = (tree, .ok content) := by
    refine serve_mapError (serve_asked trivial ?_)
    simp only [answer, there]
  by_cases long : content.length = data.length
  · have found : tree.serve habits (readExisting final data) = (tree, .ok content) := by
      unfold readExisting
      rw [serve_ok length, if_neg (not_not.mpr long), read]
    rw [serve_ok found]
    unfold keepExisting
    split
    · exact serve_cleanupLock locked
    · rfl
  · have apart : content ≠ data := fun same => long (congrArg List.length same)
    have mismatch : tree.serve habits (readExisting final data) =
        (tree, .error (.contentMismatch final content.length data.length)) := by
      unfold readExisting
      rw [serve_ok length, if_pos long]
      rfl
    rw [if_neg apart, serve_failed mismatch]

/-- The three paths of a call are three. -/
structure ApartPaths (final tmp lock : DiskPath) : Prop where
  finalTmp : final ≠ tmp
  finalLock : final ≠ lock
  lockTmp : lock ≠ tmp

theorem joinName_apart (dir : DiskPath) (name : String) :
    ApartPaths (joinName dir name) (joinName dir (name ++ ".tmp")) (joinName dir (name ++ ".write_once.lock")) := by
  obtain ⟨folder, last, _, final, tmp, lock⟩ := exists_onceFolder dir name
  have longer {suffix : List Char} (filled : suffix ≠ []) : joinName dir name ≠ folder ++ [String.ofList (last ++ suffix)] := by
    intro same
    rcases final with here | here
    · rw [here] at same
      simpa using congrArg List.length same
    · rw [here, List.append_cancel_left_eq, List.cons.injEq, String.ofList_inj] at same
      exact filled (List.self_eq_append_right.mp same.1)
  rw [tmp, lock]
  refine ⟨longer (by decide), longer (by decide), fun same => ?_⟩
  rw [List.append_cancel_left_eq, List.cons.injEq, String.ofList_inj, List.append_cancel_left_eq] at same
  exact absurd same.1 (by decide)

/-- What a call comes to. -/
theorem writeOnce_once {dir : DiskPath} {name : String} (accepted : validateRelativeName name = .ok ())
    (unheld : habits.locked (joinName dir (name ++ ".write_once.lock")) = false) :
    Once tree (joinName dir name) (joinName dir (name ++ ".tmp")) (joinName dir (name ++ ".write_once.lock")) data
      (tree.serve habits (writeOnce dir name data)).1 (tree.serve habits (writeOnce dir name data)).2 := by
  obtain ⟨apart, apartLock, lockTmp⟩ := joinName_apart dir name
  obtain ⟨folder, last, _, inFolder, tmpPath, lockPath⟩ := exists_onceFolder dir name
  have above {path : DiskPath} {part : String} (same : path = folder ++ [part]) : path.dropLast = folder := by
    rw [same, List.dropLast_concat]
  have tmpAbove := above tmpPath
  have lockAbove := above lockPath
  unfold writeOnce
  rw [accepted]
  dsimp only
  generalize joinName dir name = final at *
  generalize joinName dir (name ++ ".tmp") = tmp at *
  generalize joinName dir (name ++ ".write_once.lock") = lock at *
  by_cases may : tree.mayPut lock = .ok ()
  · have folderThere : tree.kindAt folder = some .folder := lockAbove ▸ (mayPut_eq_ok.mp may).2
    let locked := if tree.kindAt lock = none then tree.putFile lock [] else tree
    have kindLocked (other : DiskPath) (away : other ≠ lock) : locked.kindAt other = tree.kindAt other := by
      dsimp only [locked]
      split
      · rw [kindAt_putFile_of_mayPut may, if_neg away]
      · rfl
    have held : ∃ content, locked.kindAt lock = some (.file content) := by
      dsimp only [locked]
      split
      · exact ⟨[], by rw [kindAt_putFile_of_mayPut may, if_pos rfl]⟩
      · next there =>
        obtain ⟨entry, there⟩ := Option.ne_none_iff_exists'.mp there
        cases entry with
        | file content => exact ⟨content, there⟩
        | folder => exact absurd there (mayPut_eq_ok.mp may).1
    obtain ⟨content, held⟩ := held
    rw [serve_ok (serve_takeLock may unheld), serve_then serve_fileExists]
    change Once tree final tmp lock data (locked.serve habits (if (locked.kindAt final).isSome = true then _ else _)).1
      (locked.serve habits (if (locked.kindAt final).isSome = true then _ else _)).2
    rw [kindLocked final apartLock]
    cases there : tree.kindAt final with
    | some entry =>
        rw [if_pos (by simp)]
        have stillThere : locked.kindAt final = some entry := (kindLocked final apartLock).trans there
        cases entry with
        | file before =>
            rw [serve_existing stillThere held]
            split
            · next equal =>
              refine .same may (equal ▸ there) fun other => ?_
              rw [kindAt_removeFile, held]
              by_cases here : other = lock
              · simp [here]
              · simp [here, kindLocked other here]
            · next differs => exact .different may there differs kindLocked
        | folder =>
            have blocked : locked.serve habits (readExisting final data) =
                (locked, .error (.io "Is a directory (os error 21)")) := by
              have asked : locked.serve habits (FileQuestion.length final).ask =
                  (locked, .error (.other "Is a directory (os error 21)")) := by
                refine serve_asked trivial ?_
                simp only [answer, stillThere]
              unfold readExisting
              exact serve_failed (serve_mapped asked)
            rw [serve_failed blocked]
            exact .blocked may (Or.inl there) kindLocked
    | none =>
        rw [if_neg (by simp)]
        have stillAbsent : locked.kindAt final = none := (kindLocked final apartLock).trans there
        have stillFolder : locked.kindAt folder = some .folder := by
          refine (kindLocked folder ?_).trans folderThere
          rintro rfl
          exact (mayPut_eq_ok.mp may).1 folderThere
        by_cases free : tree.kindAt tmp = some .folder
        · have blocked : locked.serve habits (writeTemporary tmp data) =
              (locked, .error (.io "Is a directory (os error 21)")) := by
            have stillFree : locked.kindAt tmp = some .folder := (kindLocked tmp lockTmp.symm).trans free
            have asked : locked.serve habits (FileQuestion.create tmp).ask =
                (locked, .error (.other "Is a directory (os error 21)")) := by
              unfold FileTree.serve
              rw [serve_question]
              simp only [answer, mayPut, stillFree, effect]
            unfold writeTemporary
            exact serve_failed (serve_mapped asked)
          unfold writeNew
          rw [serve_failed blocked]
          exact .blocked may (Or.inr ⟨there, free⟩) kindLocked
        · have finalAbove : final.dropLast = folder := by
            rcases inFolder with here | here
            · rw [here, folderThere] at there
              cases there
            · exact above here
          have noFolder : locked.kindAt tmp ≠ some .folder := by rwa [kindLocked tmp lockTmp.symm]
          obtain ⟨later, ran, kinds⟩ := @serve_writeNew habits locked dir data content _ _ _ folder stillFolder finalAbove
            tmpAbove stillAbsent noFolder held apart lockTmp
          rw [ran]
          refine .written may there free fun other => (kinds other).trans ?_
          by_cases here : other = lock
          · simp [here]
          · rw [kindLocked other here]
  · have refused : ∃ why, tree.serve habits (takeLock lock final) = (tree, .error (.io why)) := by
      cases failed : tree.mayPut lock with
      | ok done => exact absurd failed may
      | error failure =>
          refine ⟨failure.why, ?_⟩
          have asked : tree.serve habits (FileQuestion.lock lock).ask = (tree, .error (.failed failure)) := by
            unfold FileTree.serve
            rw [serve_question]
            simp only [answer, failed, effect]
          unfold takeLock
          exact serve_mapped asked
    obtain ⟨why, refused⟩ := refused
    rw [serve_failed refused]
    exact .unlocked may

/-- What a call leaves that ends well. -/
structure Wrote (tree : FileTree) (final tmp lock : DiskPath) (data : List UInt8) (later : FileTree) : Prop where
  place : tree.kindAt lock.dropLast = some .folder
  before : tree.kindAt final = none ∨ tree.kindAt final = some (.file data)
  file : later.kindAt final = some (.file data)
  elsewhere : ∀ other, other ≠ lock → (other = tmp → (tree.kindAt final).isSome) → other ≠ final →
    later.kindAt other = tree.kindAt other

section Steps

variable {later : FileTree} {path target : DiskPath}

theorem finishes_takeLock (taken : tree.Finishes (takeLock lock target) later (.ok ())) :
    tree.mayPut lock = .ok () ∧ ∀ other, other ≠ lock → later.kindAt other = tree.kindAt other := by
  obtain ⟨said, rfl⟩ := Finishes.of_question (Finishes.of_mapError taken)
  have may := Honest.lock said
  refine ⟨may, fun other away => ?_⟩
  change (if tree.kindAt lock = none then tree.putFile lock [] else tree).kindAt other = _
  split
  · rw [kindAt_putFile_of_mayPut may, if_neg away]
  · rfl

theorem finishes_fileExists {there : Bool} (asked : tree.Finishes (fileExists path) later there) :
    later = tree ∧ there = (tree.kindAt path).isSome := by
  obtain ⟨said, rfl⟩ := Finishes.of_question asked
  exact ⟨rfl, Honest.isThere said⟩

theorem finishes_readExisting {existing : List UInt8}
    (read : tree.Finishes (readExisting final data) later (.ok existing)) :
    later = tree ∧ tree.kindAt final = some (.file existing) := by
  obtain ⟨measured, length, first, second⟩ := Finishes.of_andThen read
  obtain ⟨_, rfl⟩ := Finishes.of_question (Finishes.of_mapError first)
  split at second
  · cases (Finishes.of_pure second).2
  · obtain ⟨said, rfl⟩ := Finishes.of_question (Finishes.of_mapError second)
    exact ⟨rfl, Honest.read said⟩

/-- Whether the lock is removed or not. -/
theorem finishes_cleanupLock {result : Bool} {outcome : Checked Bool}
    (cleaned : tree.Finishes (cleanupLock lock result) later outcome) :
    ∀ other, other ≠ lock → later.kindAt other = tree.kindAt other := by
  intro other away
  refine kindAt_reaches ?_ cleaned.reaches
  refine Asks.bind (Asks.bind (asks_question ?_) fun _ => asks_pure _) fun _ => asks_pure _
  exact away

theorem finishes_keepExisting {existing : List UInt8} {wrote : Bool}
    (kept : tree.Finishes (keepExisting final lock data existing) later (.ok wrote)) :
    existing = data ∧ ∀ other, other ≠ lock → later.kindAt other = tree.kindAt other := by
  unfold keepExisting at kept
  split at kept
  · next same => exact ⟨same, finishes_cleanupLock kept⟩
  · cases (Finishes.of_pure kept).2

theorem finishes_writeTemporary (written : tree.Finishes (writeTemporary tmp data) later (.ok ())) :
    tree.mayPut tmp = .ok () ∧
      ∀ other, later.kindAt other = if other = tmp then some (.file data) else tree.kindAt other := by
  obtain ⟨created, _, creating, rest⟩ := Finishes.of_andThen written
  obtain ⟨said, rfl⟩ := Finishes.of_question (Finishes.of_mapError creating)
  obtain ⟨filled, _, filling, syncing⟩ := Finishes.of_andThen rest
  obtain ⟨_, rfl⟩ := Finishes.of_question (Finishes.of_mapError filling)
  obtain ⟨_, rfl⟩ := Finishes.of_question (Finishes.of_mapError syncing)
  have may := Honest.create said
  refine ⟨may, fun other => ?_⟩
  change ((tree.putFile tmp []).putFile tmp data).kindAt other = _
  rw [kindAt_putFile_of_mayPut (mayPut_putFile may), kindAt_putFile_of_mayPut may]
  split
  · rfl
  · rfl

theorem finishes_renameTemporary (renamed : tree.Finishes (renameTemporary path target) later (.ok ())) :
    ∃ content, tree.kindAt path = some (.file content) ∧ ∀ other, later.kindAt other =
      if other = target then some (.file content) else if other = path then none else tree.kindAt other := by
  obtain ⟨moved, outcome, moving, rest⟩ := Finishes.of_bind renamed
  obtain ⟨said, rfl⟩ := Finishes.of_question moving
  cases outcome with
  | ok done =>
      obtain ⟨rfl, _⟩ := Finishes.of_pure rest
      obtain ⟨⟨content, there⟩, may⟩ := Honest.rename said
      exact ⟨content, there, fun other => kindAt_moved there may⟩
  | error failure =>
      obtain ⟨between, _, _, last⟩ := Finishes.of_bind rest
      cases (Finishes.of_pure last).2

/-- A file that is not there yet. -/
theorem finishes_writeNew {dir : DiskPath} {wrote : Bool} (absent : tree.kindAt final = none)
    (apart : ApartPaths final tmp lock) (written : tree.Finishes (writeNew dir final tmp lock data) later (.ok wrote)) :
    ∀ other, other ≠ lock → later.kindAt other =
      if other = final then some (.file data) else if other = tmp then none else tree.kindAt other := by
  obtain ⟨filled, _, filling, rest⟩ := Finishes.of_andThen written
  obtain ⟨_, kinds⟩ := finishes_writeTemporary filling
  obtain ⟨asked, there, asking, further⟩ := Finishes.of_bind rest
  obtain ⟨rfl, same⟩ := finishes_fileExists asking
  rw [kinds, if_neg apart.finalTmp, absent] at same
  rw [same, if_neg (by simp)] at further
  obtain ⟨moved, _, moving, ending⟩ := Finishes.of_andThen further
  obtain ⟨content, temporary, movedKinds⟩ := finishes_renameTemporary moving
  obtain ⟨synced, _, syncing, cleaning⟩ := Finishes.of_andThen ending
  obtain ⟨_, rfl⟩ := Finishes.of_question (Finishes.of_mapError syncing)
  rw [kinds, if_pos rfl, Option.some.injEq, DiskEntry.file.injEq] at temporary
  subst temporary
  intro other away
  rw [finishes_cleanupLock cleaning other away]
  refine (movedKinds other).trans ?_
  split
  · rfl
  · split
    · rfl
    · next notTmp => rw [kinds, if_neg notTmp]

end Steps

/-- However the disk fails. -/
theorem finishes_writeOnce {dir : DiskPath} {name : String} {later : FileTree} {wrote : Bool}
    (ended : tree.Finishes (writeOnce dir name data) later (.ok wrote)) :
    validateRelativeName name = .ok () ∧ Wrote tree (joinName dir name) (joinName dir (name ++ ".tmp"))
      (joinName dir (name ++ ".write_once.lock")) data later := by
  have apart := joinName_apart dir name
  unfold writeOnce at ended
  split at ended
  · cases (Finishes.of_pure ended).2
  · next accepted =>
    refine ⟨accepted, ?_⟩
    generalize joinName dir name = final at *
    generalize joinName dir (name ++ ".tmp") = tmp at *
    generalize joinName dir (name ++ ".write_once.lock") = lock at *
    obtain ⟨locked, _, locking, rest⟩ := Finishes.of_andThen ended
    obtain ⟨may, kindLocked⟩ := finishes_takeLock locking
    obtain ⟨asked, there, asking, further⟩ := Finishes.of_bind rest
    obtain ⟨rfl, same⟩ := finishes_fileExists asking
    have place := (mayPut_eq_ok.mp may).2
    rw [kindLocked _ apart.finalLock] at same
    cases before : tree.kindAt final with
    | some entry =>
        rw [before] at same
        rw [same, if_pos (by rfl)] at further
        obtain ⟨read, existing, reading, keeping⟩ := Finishes.of_andThen further
        obtain ⟨rfl, found⟩ := finishes_readExisting reading
        obtain ⟨rfl, kinds⟩ := finishes_keepExisting keeping
        rw [kindLocked _ apart.finalLock] at found
        refine ⟨place, Or.inr found, ?_, fun other away _ _ => ?_⟩
        · rw [kinds _ apart.finalLock, kindLocked _ apart.finalLock, found]
        · rw [kinds other away, kindLocked other away]
    | none =>
        rw [before] at same
        rw [same, if_neg (by simp)] at further
        have absent := (kindLocked _ apart.finalLock).trans before
        have kinds := finishes_writeNew absent apart further
        refine ⟨place, Or.inl before, by rw [kinds _ apart.finalLock, if_pos rfl], fun other away clear away_ => ?_⟩
        have notTmp : other ≠ tmp := by
          intro same
          have there := clear same
          rw [before] at there
          cases there
        rw [kinds other away, if_neg away_, if_neg notTmp, kindLocked other away]

/-- A call in this folder that ended well. -/
abbrev WroteOnce (tree : FileTree) (dir : DiskPath) (name : String) (data : List UInt8) (later : FileTree) : Prop :=
  Wrote tree (joinName dir name) (joinName dir (name ++ ".tmp")) (joinName dir (name ++ ".write_once.lock")) data later

namespace Wrote

variable {later : FileTree} {path : DiskPath} {content : List UInt8}

/-- A file that is there stays, unless it is in the way of a new one. -/
theorem keeps (wrote : Wrote tree final tmp lock data later) (there : tree.kindAt path = some (.file content))
    (notLock : path ≠ lock) (clear : path = tmp → (tree.kindAt final).isSome) :
    later.kindAt path = some (.file content) := by
  by_cases own : path = final
  · subst own
    rcases wrote.before with absent | same
    · rw [absent] at there
      cases there
    · rw [wrote.file, ← same, there]
  · rw [wrote.elsewhere path notLock clear own, there]

/-- What was written is at no path of a lock. -/
theorem ne_lockPath {dir : DiskPath} {name : String}
    (wrote : Wrote tree (joinName dir name) tmp (joinName dir (name ++ ".write_once.lock")) data later)
    (accepted : validateRelativeName name = .ok ()) (other : String) :
    joinName dir name ≠ joinName dir (other ++ ".write_once.lock") := by
  intro same
  obtain ⟨folder, last, ends, inFolder, _, lock⟩ := exists_onceFolder dir name
  obtain ⟨rivalFolder, rivalLast, _, _, _, rivalLock⟩ := exists_onceFolder dir other
  have above : tree.kindAt folder = some .folder := by
    have place := wrote.place
    rwa [lock, List.dropLast_concat] at place
  have noFolder : joinName dir name ≠ folder := by
    intro here
    have before := wrote.before
    rw [here, above] at before
    rcases before with absent | file
    · cases absent
    · cases file
  have whole := (inFolder.resolve_left noFolder).symm.trans (same.trans rivalLock)
  have parts := (List.append_inj' whole rfl).2
  rw [List.cons.injEq, String.ofList_inj] at parts
  refine validateRelativeName_lock ?_ accepted
  exact (List.suffix_append rivalLast _).trans (parts.1 ▸ ends)

end Wrote

end Once

section Calls

/-- A call with a name that is accepted. -/
structure WriteCall where
  name : String
  data : List UInt8
  accepted : validateRelativeName name = .ok ()

variable (dir : DiskPath)

namespace WriteCall

def path (call : WriteCall) : DiskPath := joinName dir call.name

def tmpPath (call : WriteCall) : DiskPath := joinName dir (call.name ++ ".tmp")

def lockPath (call : WriteCall) : DiskPath := joinName dir (call.name ++ ".write_once.lock")

/-- What is left by a call that no other overlaps. -/
def after (tree : FileTree) (call : WriteCall) : FileTree :=
  (tree.serve .quiet (writeOnce dir call.name call.data)).1

def answer (tree : FileTree) (call : WriteCall) : Checked Bool :=
  (tree.serve .quiet (writeOnce dir call.name call.data)).2

/-- The file of this name is there already. A name that ends in a separator is one of a folder. -/
def Exists (tree : FileTree) (call : WriteCall) (content : List UInt8) : Prop :=
  endsWith "/" call.name = false ∧ endsWith "/." call.name = false ∧ tree.kindAt (call.path dir) = some (.file content)

/-- A call that compares with what is there, and touches no entry but its own file and its own lock, which is gone
when the call ends well. -/
structure Local (tree : FileTree) (call : WriteCall) : Prop where
  compared : ∀ content, call.Exists dir tree content → call.answer dir tree =
    if content = call.data then .ok false
    else .error (.contentMismatch (call.path dir) content.length call.data.length)
  elsewhere : ∀ path, path ≠ call.path dir → path ≠ call.lockPath dir →
    (call.after dir tree).kindAt path = tree.kindAt path
  unlocked : ∀ wrote, call.answer dir tree = .ok wrote → (call.after dir tree).kindAt (call.lockPath dir) = none

/-- No file is in the place of the temporary file, unless nothing is to be written; and the lock of a file that is
there can be taken. -/
structure Clear (tree : FileTree) (call : WriteCall) : Prop where
  temporary : ∀ content, tree.kindAt (call.tmpPath dir) = some (.file content) →
    (tree.kindAt (call.path dir)).isSome ∨ tree.mayPut (call.lockPath dir) ≠ .ok ()
  lockable : ∀ content, call.Exists dir tree content → tree.mayPut (call.lockPath dir) = .ok ()

variable {dir} {tree : FileTree} {call : WriteCall}

theorem once (call : WriteCall) : Once tree (call.path dir) (call.tmpPath dir) (call.lockPath dir) call.data
    (call.after dir tree) (call.answer dir tree) :=
  writeOnce_once call.accepted rfl

theorem apart (call : WriteCall) : ApartPaths (call.path dir) (call.tmpPath dir) (call.lockPath dir) :=
  joinName_apart dir call.name

theorem local_of_clear (clear : call.Clear dir tree) : call.Local dir tree := by
  have once := @once dir tree call
  have apart := @apart dir call
  have entered {content : List UInt8} (there : call.Exists dir tree content) :
      tree.kindAt (call.path dir) = some (.file content) := there.2.2
  suffices own : (∀ content, call.Exists dir tree content → call.answer dir tree =
        if content = call.data then .ok false
        else .error (.contentMismatch (call.path dir) content.length call.data.length)) ∧
      (∀ path, path ≠ call.path dir → path ≠ call.lockPath dir →
        (call.after dir tree).kindAt path = tree.kindAt path) ∧
      ∀ wrote, call.answer dir tree = .ok wrote → (call.after dir tree).kindAt (call.lockPath dir) = none from
    ⟨own.1, own.2.1, own.2.2⟩
  generalize call.after dir tree = later at once ⊢
  generalize call.answer dir tree = outcome at once ⊢
  cases once with
  | unlocked may =>
      refine ⟨fun content there => absurd (clear.lockable content there) may, fun _ _ _ => rfl, ?_⟩
      rintro wrote (ended | _)
  | same may there kinds =>
      refine ⟨fun content exists_ => ?_, fun path _ away => by rw [kinds, if_neg away], fun _ _ => by
        rw [kinds, if_pos rfl]⟩
      have equal := (entered exists_).symm.trans there
      simp only [Option.some.injEq, DiskEntry.file.injEq] at equal
      rw [if_pos equal]
  | @different _ found may there differs kinds =>
      refine ⟨fun content exists_ => ?_, fun path _ away => kinds path away, ?_⟩
      · have equal := (entered exists_).symm.trans there
        simp only [Option.some.injEq, DiskEntry.file.injEq] at equal
        rw [equal, if_neg differs]
      · rintro wrote (ended | _)
  | blocked may folder kinds =>
      refine ⟨fun content exists_ => ?_, fun path _ away => kinds path away, ?_⟩
      · rcases folder with folder | ⟨absent, _⟩
        · exact absurd ((entered exists_).symm.trans folder) (by simp)
        · exact absurd ((entered exists_).symm.trans absent) (by simp)
      · rintro wrote (ended | _)
  | written may absent free kinds =>
      refine ⟨fun content exists_ => ?_, fun path other away => ?_, fun _ _ => by rw [kinds, if_pos rfl]⟩
      · exact absurd ((entered exists_).symm.trans absent) (by simp)
      · rw [kinds, if_neg away, if_neg other]
        split
        · next temporary =>
          -- nothing was at the temporary path
          subst temporary
          cases there : tree.kindAt (call.tmpPath dir) with
          | none => rfl
          | some entry =>
              cases entry with
              | folder => exact absurd there free
              | file content =>
                  rcases clear.temporary content there with final | refused
                  · rw [absent] at final
                    cases final
                  · exact absurd may refused
        · rfl

theorem clear_of_local (own : call.Local dir tree) : call.Clear dir tree := by
  have once := @once dir tree call
  have apart := @apart dir call
  have compared := own.compared
  have elsewhere := own.elsewhere (call.tmpPath dir) apart.finalTmp.symm apart.lockTmp.symm
  suffices clear : (∀ content, tree.kindAt (call.tmpPath dir) = some (.file content) →
        (tree.kindAt (call.path dir)).isSome ∨ tree.mayPut (call.lockPath dir) ≠ .ok ()) ∧
      ∀ content, call.Exists dir tree content → tree.mayPut (call.lockPath dir) = .ok () from ⟨clear.1, clear.2⟩
  generalize call.after dir tree = later at once elsewhere
  generalize call.answer dir tree = outcome at once compared
  cases once with
  | unlocked may =>
      refine ⟨fun _ _ => Or.inr may, fun content exists_ => ?_⟩
      have told := compared content exists_
      split at told <;> cases told
  | same may there kinds => exact ⟨fun _ _ => Or.inl (by simp [there]), fun _ _ => may⟩
  | different may there differs kinds => exact ⟨fun _ _ => Or.inl (by simp [there]), fun _ _ => may⟩
  | blocked may folder kinds =>
      refine ⟨fun content temporary => ?_, fun _ _ => may⟩
      rcases folder with folder | ⟨_, folder⟩
      · exact Or.inl (by simp [folder])
      · exact absurd (temporary.symm.trans folder) (by simp)
  | written may absent free kinds =>
      refine ⟨fun content temporary => ?_, fun _ _ => may⟩
      -- the file there would be gone
      rw [kinds, if_neg apart.lockTmp.symm, if_neg apart.finalTmp.symm, if_pos rfl, temporary] at elsewhere
      cases elsewhere

/-- A file that is there stays through a call that names it. -/
theorem keeps_own {content : List UInt8} (there : tree.kindAt (call.path dir) = some (.file content)) :
    (call.after dir tree).kindAt (call.path dir) = some (.file content) := by
  have once := @once dir tree call
  have apart := @apart dir call
  generalize call.after dir tree = later at once ⊢
  generalize call.answer dir tree = outcome at once
  cases once with
  | unlocked may => exact there
  | same may same kinds => rw [kinds, if_neg apart.finalLock, there]
  | different may same differs kinds => rw [kinds _ apart.finalLock, there]
  | blocked may folder kinds => rw [kinds _ apart.finalLock, there]
  | written may absent free kinds => exact absurd (there.symm.trans absent) (by simp)

/-- What a call that ends well has confirmed. -/
theorem confirmed {wrote : Bool} (ended : call.answer dir tree = .ok wrote) :
    (call.after dir tree).kindAt (call.path dir) = some (.file call.data) ∧
      tree.mayPut (call.lockPath dir) = .ok () := by
  have once := @once dir tree call
  have apart := @apart dir call
  generalize call.after dir tree = later at once ⊢
  generalize call.answer dir tree = outcome at once ended
  cases once with
  | unlocked may => cases ended
  | same may there kinds => exact ⟨by rw [kinds, if_neg apart.finalLock, there], may⟩
  | different may there differs kinds => cases ended
  | blocked may folder kinds => cases ended
  | written may absent free kinds => exact ⟨by rw [kinds, if_neg apart.finalLock, if_pos rfl], may⟩

/-- What was confirmed is at no path of a lock. -/
theorem path_ne_lockPath {wrote : Bool} (ended : call.answer dir tree = .ok wrote) (other : WriteCall) :
    call.path dir ≠ other.lockPath dir := by
  have ran : tree.serve .quiet (writeOnce dir call.name call.data) = (call.after dir tree, .ok wrote) :=
    Prod.ext rfl ended
  exact (finishes_writeOnce (finishes_served ran)).2.ne_lockPath call.accepted other.name

/-- A confirmed file stays through any call that is local. -/
theorem keeps_confirmed {before : FileTree} {wrote : Bool} {other : WriteCall}
    (ended : call.answer dir before = .ok wrote) (own : other.Local dir tree)
    (there : tree.kindAt (call.path dir) = some (.file call.data)) :
    (other.after dir tree).kindAt (call.path dir) = some (.file call.data) := by
  by_cases same : call.path dir = other.path dir
  · rw [same] at there ⊢
    exact keeps_own there
  · rw [own.elsewhere _ same (path_ne_lockPath ended other), there]

end WriteCall

/-- The folder after calls that came one after the other. -/
def afterCalls (tree : FileTree) (calls : List WriteCall) : FileTree :=
  Trace.run (fun tree call => call.after dir tree) tree calls

/-- Calls one after the other are local, and what they confirm stays, exactly if each finds its way clear. -/
theorem writeOnce_immutable_iff (tree : FileTree) (calls : List WriteCall) :
    ((∀ before call, Trace.Took calls before call → call.Local dir (afterCalls dir tree before)) ∧
      ∀ before call between rest wrote, calls = before ++ call :: between ++ rest →
        call.answer dir (afterCalls dir tree before) = .ok wrote →
        (afterCalls dir tree (before ++ call :: between)).kindAt (call.path dir) = some (.file call.data)) ↔
    ∀ before call, Trace.Took calls before call → call.Clear dir (afterCalls dir tree before) := by
  constructor
  · rintro ⟨each, _⟩ before call took
    exact WriteCall.clear_of_local (each before call took)
  · intro clear
    have each : ∀ before call, Trace.Took calls before call → call.Local dir (afterCalls dir tree before) :=
      fun before call took => WriteCall.local_of_clear (clear before call took)
    refine ⟨each, fun before call between rest wrote whole ended => ?_⟩
    induction between using List.reverseRecOn generalizing rest with
    | nil =>
        unfold afterCalls at ended ⊢
        rw [Trace.run_snoc]
        exact (WriteCall.confirmed ended).1
    | append_singleton between other ih =>
        have split : calls = before ++ call :: between ++ other :: rest := by
          rw [whole]
          simp
        have there := ih (other :: rest) split
        have own := each (before ++ call :: between) other ⟨rest, split⟩
        have kept := WriteCall.keeps_confirmed ended own there
        unfold afterCalls at kept ⊢
        rw [show before ++ call :: (between ++ [other]) = before ++ call :: between ++ [other] by simp,
          Trace.run_snoc]
        exact kept

section TemporaryName

def firstCall : WriteCall where
  name := "shard.tmp"
  data := [1]
  accepted := Except.eq_ok_of_toOption (by decide +kernel)

def secondCall : WriteCall where
  name := "shard"
  data := [2]
  accepted := Except.eq_ok_of_toOption (by decide +kernel)

/-- A file with the name of the temporary file of another is gone when the other is written. -/
theorem confirmed_file_lost :
    ¬ ∀ (dir : DiskPath) (tree : FileTree) (calls : List WriteCall),
      (∀ before call, Trace.Took calls before call → call.Local dir (afterCalls dir tree before)) ∧
      ∀ before call between rest wrote, calls = before ++ call :: between ++ rest →
        call.answer dir (afterCalls dir tree before) = .ok wrote →
        (afterCalls dir tree (before ++ call :: between)).kindAt (call.path dir) = some (.file call.data) := by
  intro immutable
  have confirms : firstCall.answer [] (afterCalls [] ∅ []) = .ok true := Except.eq_ok_of_toOption (by decide +kernel)
  have gone : (afterCalls [] ∅ [firstCall, secondCall]).kindAt (firstCall.path []) = none := by decide +kernel
  have kept := (immutable [] ∅ [firstCall, secondCall]).2 [] firstCall [secondCall] [] true rfl confirms
  exact absurd (gone.symm.trans kept) (by simp)

end TemporaryName

end Calls

end Gputeer.Checkpoint
