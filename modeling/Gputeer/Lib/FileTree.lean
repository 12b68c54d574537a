import Gputeer.Lib.Dialogue
import Gputeer.Lib.Table

/-! Files in folders, and the steps of a program that works on them. A step may fail, and a program may stop
after any step: what it has done so far stays. -/

/-- The names on the way to a file or a folder. -/
abbrev DiskPath := List String

inductive DiskEntry where
  | file (content : List UInt8)
  | folder
  deriving DecidableEq

abbrev FileTree := Table DiskPath DiskEntry

inductive DiskFailure where
  | notFound
  | other (why : String)

def DiskFailure.why : DiskFailure → String
  | notFound => "No such file or directory (os error 2)"
  | other why => why

inductive LockFailure where
  | wouldBlock
  | failed (failure : DiskFailure)

/-- So many bytes were written when it failed. -/
structure WriteFailure where
  written : Nat
  why : String

inductive DiskKind where
  | file
  | folder
  deriving DecidableEq

inductive FileQuestion where
  | createFolders (path : DiskPath)
  /-- Open a file, which is made if it is missing, and take its lock. -/
  | lock (path : DiskPath)
  /-- Open a file that is there, and take its lock. -/
  | tryLock (path : DiskPath)
  | isThere (path : DiskPath)
  | kind (path : DiskPath)
  | length (path : DiskPath)
  | read (path : DiskPath)
  | list (path : DiskPath)
  /-- Make a file, or empty the one that is there. -/
  | create (path : DiskPath)
  /-- Write into a file that was just created. -/
  | writeAll (path : DiskPath) (content : List UInt8)
  | sync (path : DiskPath)
  | rename (source target : DiskPath)
  | remove (path : DiskPath)
  | removeFolder (path : DiskPath)

namespace FileQuestion

abbrev Answer : FileQuestion → Type
  | createFolders _ | create _ | sync _ | rename _ _ | remove _ | removeFolder _ => Except DiskFailure Unit
  | lock _ | tryLock _ => Except LockFailure Unit
  | isThere _ => Bool
  | kind _ => Except DiskFailure DiskKind
  | length _ => Except DiskFailure Nat
  | read _ => Except DiskFailure (List UInt8)
  | list _ => Except DiskFailure (List String)
  | writeAll _ _ => Except WriteFailure Unit

/-- The steps that only look. -/
def Reads : FileQuestion → Prop
  | tryLock _ | isThere _ | kind _ | length _ | read _ | list _ | sync _ => True
  | _ => False

/-- The paths that the step may change. -/
def Changes : FileQuestion → DiskPath → Prop
  | createFolders path, changed => changed <+: path
  | lock path, changed | create path, changed | writeAll path _, changed => changed = path
  | remove path, changed | removeFolder path, changed => changed = path
  | rename source target, changed => changed = source ∨ changed = target
  | _, _ => False

theorem Reads.changes_nothing {asked : FileQuestion} {path : DiskPath} (reads : asked.Reads) :
    ¬ asked.Changes path := by
  intro changes
  cases asked with
  | tryLock file => exact changes
  | isThere file => exact changes
  | kind file => exact changes
  | length file => exact changes
  | read file => exact changes
  | list file => exact changes
  | sync file => exact changes
  | _ => exact reads

end FileQuestion

abbrev FileDialogue := Dialogue FileQuestion FileQuestion.Answer

abbrev FileQuestion.ask (asked : FileQuestion) : FileDialogue asked.Answer := Dialogue.question asked

abbrev FileExchange := Dialogue.Exchange FileQuestion FileQuestion.Answer

namespace FileTree

/-- The root is a folder. -/
def kindAt (tree : FileTree) : DiskPath → Option DiskEntry
  | [] => some .folder
  | path => tree[path]?

/-- A file is put here; never in the place of a folder. -/
def putFile (tree : FileTree) (path : DiskPath) (content : List UInt8) : FileTree :=
  match tree.kindAt path with
  | some .folder => tree
  | some (.file _) | none => tree.insert path (.file content)

def putFolder (tree : FileTree) (path : DiskPath) : FileTree :=
  match tree.kindAt path with
  | some _ => tree
  | none => tree.insert path .folder

def removeFile (tree : FileTree) (path : DiskPath) : FileTree :=
  match tree.kindAt path with
  | some (.file _) => tree.erase path
  | some .folder | none => tree

def moveFile (tree : FileTree) (source target : DiskPath) : FileTree :=
  match tree.kindAt source, tree.kindAt target with
  | some (.file _), some .folder => tree
  | some (.file content), some (.file _) | some (.file content), none =>
      (tree.erase source).insert target (.file content)
  | some .folder, _ | none, _ => tree

/-- The names in a folder. -/
def childNames (tree : FileTree) (path : DiskPath) : List String :=
  tree.keys.filterMap fun key => if key.dropLast = path then key.getLast? else none

def removeEmptyFolder (tree : FileTree) (path : DiskPath) : FileTree :=
  if path ≠ [] ∧ tree.kindAt path = some .folder ∧ tree.childNames path = [] then tree.erase path else tree

/-- What the step leaves behind, by its answer. -/
def effect (tree : FileTree) : FileExchange → FileTree
  | ⟨.createFolders path, .ok ()⟩ => path.inits.foldl putFolder tree
  | ⟨.lock path, .ok ()⟩ | ⟨.lock path, .error .wouldBlock⟩ =>
      if tree.kindAt path = none then tree.putFile path [] else tree
  | ⟨.create path, .ok ()⟩ => tree.putFile path []
  | ⟨.writeAll path content, .ok ()⟩ => tree.putFile path content
  | ⟨.writeAll path content, .error failure⟩ => tree.putFile path (content.take failure.written)
  | ⟨.rename source target, .ok ()⟩ => tree.moveFile source target
  | ⟨.remove path, .ok ()⟩ => tree.removeFile path
  | ⟨.removeFolder path, .ok ()⟩ => tree.removeEmptyFolder path
  | _ => tree

/-- How a disk answers beyond what is on it: which files others have locked, and in which order it lists a
folder. -/
structure Habits where
  locked : DiskPath → Bool
  shuffle : List String → List String
  shuffle_perm : ∀ names, (shuffle names).Perm names

/-- No one else has files locked, and folders are listed in order. -/
def Habits.quiet : Habits := ⟨fun _ => false, fun names => names, fun names => List.Perm.refl names⟩

variable (habits : Habits)

def mayPut (tree : FileTree) (path : DiskPath) : Except DiskFailure Unit :=
  match tree.kindAt path, tree.kindAt path.dropLast with
  | some .folder, _ => .error (.other "Is a directory (os error 21)")
  | _, none => .error .notFound
  | _, some (.file _) => .error (.other "Not a directory (os error 20)")
  | _, some .folder => .ok ()

/-- A disk that fails only where the step cannot be done. -/
def answer (tree : FileTree) : (asked : FileQuestion) → asked.Answer
  | .createFolders path =>
      if path.inits.any fun part => match tree.kindAt part with
        | some (.file _) => true
        | some .folder | none => false
      then .error (.other "Not a directory (os error 20)") else .ok ()
  | .lock path =>
      match tree.mayPut path with
      | .error failure => .error (.failed failure)
      | .ok () => if habits.locked path then .error .wouldBlock else .ok ()
  | .tryLock path =>
      match tree.kindAt path with
      | some (.file _) => if habits.locked path then .error .wouldBlock else .ok ()
      | some .folder => .error (.failed (.other "Is a directory (os error 21)"))
      | none => .error (.failed .notFound)
  | .isThere path => (tree.kindAt path).isSome
  | .kind path =>
      match tree.kindAt path with
      | some (.file _) => .ok .file
      | some .folder => .ok .folder
      | none => .error .notFound
  | .length path =>
      match tree.kindAt path with
      | some (.file content) => .ok content.length
      | some .folder => .error (.other "Is a directory (os error 21)")
      | none => .error .notFound
  | .read path =>
      match tree.kindAt path with
      | some (.file content) => .ok content
      | some .folder => .error (.other "Is a directory (os error 21)")
      | none => .error .notFound
  | .list path =>
      match tree.kindAt path with
      | some (.file _) => .error (.other "Not a directory (os error 20)")
      | some .folder => .ok (habits.shuffle (tree.childNames path))
      | none => .error .notFound
  | .create path => tree.mayPut path
  | .writeAll path _ => match tree.mayPut path with
      | .error _ => .error ⟨0, "Bad file descriptor (os error 9)"⟩
      | .ok () => .ok ()
  | .sync _ => .ok ()
  | .rename source target =>
      match tree.kindAt source with
      | some (.file _) => tree.mayPut target
      | some .folder => .error (.other "Is a directory (os error 21)")
      | none => .error .notFound
  | .remove path =>
      match tree.kindAt path with
      | some (.file _) => .ok ()
      | some .folder => .error (.other "Is a directory (os error 21)")
      | none => .error .notFound
  | .removeFolder path =>
      match tree.kindAt path with
      | some (.file _) => .error (.other "Not a directory (os error 20)")
      | some .folder =>
          if tree.childNames path = [] then .ok () else .error (.other "Directory not empty (os error 39)")
      | none => .error .notFound

/-- The program runs to its end on such a disk. -/
abbrev serve {α : Type} (tree : FileTree) (dialogue : FileDialogue α) : FileTree × α :=
  Dialogue.serve (answer habits) effect tree dialogue

variable {tree : FileTree} {path other : DiskPath} {content : List UInt8}

@[simp] theorem kindAt_nil : tree.kindAt [] = some .folder := rfl

theorem kindAt_of_ne (below : path ≠ []) : tree.kindAt path = tree[path]? := by
  cases path with
  | nil => exact absurd rfl below
  | cons name rest => rfl

theorem kindAt_insert {entry : DiskEntry} (below : path ≠ []) :
    kindAt (tree.insert path entry) other =
      if other = path then some entry else tree.kindAt other := by
  cases other with
  | nil => rw [kindAt_nil, kindAt_nil, if_neg (Ne.symm below)]
  | cons name rest =>
      have below : name :: rest ≠ [] := by simp
      rw [kindAt_of_ne below, kindAt_of_ne below, Table.lookup_insert]
      exact if_congr eq_comm rfl rfl

theorem kindAt_erase (below : path ≠ []) :
    kindAt (tree.erase path) other = if other = path then none else tree.kindAt other := by
  cases other with
  | nil => rw [kindAt_nil, kindAt_nil, if_neg (Ne.symm below)]
  | cons name rest =>
      have below : name :: rest ≠ [] := by simp
      rw [kindAt_of_ne below, kindAt_of_ne below, Table.lookup_erase]
      exact if_congr eq_comm rfl rfl

theorem ne_nil_of_kindAt {entry : Option DiskEntry} (there : tree.kindAt path = entry)
    (noFolder : entry ≠ some .folder) : path ≠ [] := by
  rintro rfl
  exact noFolder there.symm

theorem kindAt_putFile : (tree.putFile path content).kindAt other =
    if other = path ∧ tree.kindAt path ≠ some .folder then some (.file content)
    else tree.kindAt other := by
  unfold putFile
  split
  · next there => simp [there]
  · next before there =>
    rw [kindAt_insert (ne_nil_of_kindAt there (by simp))]
    simp [there]
  · next there =>
    rw [kindAt_insert (ne_nil_of_kindAt there (by simp))]
    simp [there]

theorem kindAt_putFolder : (tree.putFolder path).kindAt other =
    if other = path ∧ tree.kindAt path = none then some .folder else tree.kindAt other := by
  unfold putFolder
  split
  · next entry there => simp [there]
  · next there =>
    rw [kindAt_insert (ne_nil_of_kindAt there (by simp))]
    simp [there]

theorem kindAt_removeFile : (tree.removeFile path).kindAt other =
    if other = path ∧ tree.kindAt path ≠ some .folder then none else tree.kindAt other := by
  unfold removeFile
  split
  · next before there =>
    rw [kindAt_erase (ne_nil_of_kindAt there (by simp))]
    simp [there]
  · next there => simp [there]
  · next there =>
    split
    · next same => rw [same.1, there]
    · rfl

/-- What is not moved is left alone. -/
theorem kindAt_moveFile {source target : DiskPath} (away : other ≠ source) (apart : other ≠ target) :
    (tree.moveFile source target).kindAt other = tree.kindAt other := by
  have moved {before : List UInt8} (there : tree.kindAt source = some (.file before))
      (free : tree.kindAt target ≠ some .folder) :
      kindAt ((tree.erase source).insert target (.file before)) other = tree.kindAt other := by
    rw [kindAt_insert (ne_nil_of_kindAt rfl free), if_neg apart,
      kindAt_erase (ne_nil_of_kindAt there (by simp)), if_neg away]
  unfold moveFile
  split
  · rfl
  · next there free => exact moved there (by simp [free])
  · next there free => exact moved there (by simp [free])
  · rfl
  · rfl

theorem kindAt_moveFile_target {source target : DiskPath} (there : tree.kindAt source = some (.file content))
    (free : tree.kindAt target ≠ some .folder) :
    tree.moveFile source target = (tree.erase source).insert target (.file content) := by
  unfold moveFile
  rw [there]
  cases found : tree.kindAt target with
  | none => rfl
  | some entry =>
      cases entry with
      | file before => rfl
      | folder => exact absurd found free

theorem kindAt_putFolders (parts : List DiskPath) (away : other ∉ parts) :
    (parts.foldl putFolder tree).kindAt other = tree.kindAt other := by
  induction parts generalizing tree with
  | nil => rfl
  | cons part parts ih =>
      rw [List.mem_cons, not_or] at away
      rw [List.foldl_cons, ih away.2, kindAt_putFolder, if_neg fun same => away.1 same.1]

theorem folder_putFolders (parts : List DiskPath) (there : tree.kindAt path = some .folder) :
    (parts.foldl putFolder tree).kindAt path = some .folder := by
  induction parts generalizing tree with
  | nil => exact there
  | cons part parts ih =>
      refine ih ?_
      rw [kindAt_putFolder, there]
      split
      · rfl
      · rfl

/-- Folders are made where nothing is. -/
theorem kindAt_madeFolders (parts : List DiskPath)
    (free : ∀ part ∈ parts, tree.kindAt part = none ∨ tree.kindAt part = some .folder) :
    (parts.foldl putFolder tree).kindAt path = if path ∈ parts then some .folder else tree.kindAt path := by
  induction parts generalizing tree with
  | nil => rfl
  | cons part parts ih =>
      rw [List.forall_mem_cons] at free
      have later : ∀ other ∈ parts, (tree.putFolder part).kindAt other = none ∨
          (tree.putFolder part).kindAt other = some .folder := by
        intro other listed
        rw [kindAt_putFolder]
        split
        · exact Or.inr rfl
        · exact free.2 other listed
      rw [List.foldl_cons, ih later]
      by_cases listed : path ∈ parts
      · simp [listed]
      · rw [if_neg listed, kindAt_putFolder]
        by_cases same : path = part
        · subst same
          rcases free.1 with none_ | folder
          · simp [none_]
          · simp [folder]
        · simp [same, listed]

theorem nodup_childNames : (tree.childNames path).Nodup := by
  have distinct : tree.keys.Nodup := tree.nodup_keys
  refine List.Nodup.filterMap (fun first second name ofFirst ofSecond => ?_) distinct
  simp only [Option.mem_def] at ofFirst ofSecond
  split at ofFirst
  · next here =>
    split at ofSecond
    · next there =>
      rw [← List.dropLast_append_getLast? name ofFirst, ← List.dropLast_append_getLast? name ofSecond, here,
        there]
    · cases ofSecond
  · cases ofFirst

theorem mem_childNames {name : String} :
    name ∈ tree.childNames path ↔ (tree.kindAt (path ++ [name])).isSome := by
  rw [kindAt_of_ne (by simp)]
  simp only [childNames, List.mem_filterMap]
  constructor
  · rintro ⟨key, listed, named⟩
    split at named
    · next inside =>
      have same : key = path ++ [name] := by
        rw [← inside]
        exact (List.dropLast_append_getLast? name named).symm
      rw [← same]
      simpa using listed
    · cases named
  · intro there
    exact ⟨path ++ [name], by simpa using there, by simp⟩

/-- A step changes only what it is about. -/
theorem kindAt_effect {asked : FileQuestion} (answered : asked.Answer) (away : ¬ asked.Changes path) :
    (tree.effect ⟨asked, answered⟩).kindAt path = tree.kindAt path := by
  cases asked with
  | createFolders folder =>
      cases answered with
      | error failure => rfl
      | ok done => exact kindAt_putFolders _ fun listed => away ((List.mem_inits _ _).mp listed)
  | lock file =>
      have put : ((if tree.kindAt file = none then tree.putFile file [] else tree)).kindAt path =
          tree.kindAt path := by
        split
        · rw [kindAt_putFile, if_neg fun same => away same.1]
        · rfl
      cases answered with
      | ok done => exact put
      | error failure =>
          cases failure with
          | wouldBlock => exact put
          | failed why => rfl
  | create file =>
      cases answered with
      | error failure => rfl
      | ok done =>
          change (tree.putFile file []).kindAt path = _
          rw [kindAt_putFile, if_neg fun same => away same.1]
  | writeAll file written =>
      cases answered with
      | ok done =>
          change (tree.putFile file written).kindAt path = _
          rw [kindAt_putFile, if_neg fun same => away same.1]
      | error failure =>
          change (tree.putFile file (written.take failure.written)).kindAt path = _
          rw [kindAt_putFile, if_neg fun same => away same.1]
  | rename source target =>
      cases answered with
      | error failure => rfl
      | ok done => exact kindAt_moveFile (fun same => away (Or.inl same)) fun same => away (Or.inr same)
  | remove file =>
      cases answered with
      | error failure => rfl
      | ok done =>
          change (tree.removeFile file).kindAt path = _
          rw [kindAt_removeFile, if_neg fun same => away same.1]
  | removeFolder folder =>
      cases answered with
      | error failure => rfl
      | ok done =>
          change (tree.removeEmptyFolder folder).kindAt path = _
          unfold removeEmptyFolder
          split
          · next empty =>
            have apart : path ≠ folder := away
            rw [kindAt_erase empty.1, if_neg apart]
          · rfl
  | tryLock file => rfl
  | isThere file => rfl
  | kind file => rfl
  | length file => rfl
  | read file => rfl
  | list folder => rfl
  | sync file => rfl

theorem folder_putFile (there : tree.kindAt path = some .folder) :
    (tree.putFile other content).kindAt path = some .folder := by
  rw [kindAt_putFile]
  split
  · next put => exact absurd (put.1 ▸ there) put.2
  · exact there

theorem folder_moveFile {source target : DiskPath} (there : tree.kindAt path = some .folder) :
    (tree.moveFile source target).kindAt path = some .folder := by
  by_cases same : tree.moveFile source target = tree
  · rw [same, there]
  have away : path ≠ source := by
    rintro rfl
    exact same (by simp [moveFile, there])
  have apart : path ≠ target := by
    rintro rfl
    refine same ?_
    unfold moveFile
    cases found : tree.kindAt source with
    | none => rfl
    | some entry => cases entry <;> simp [there]
  rw [kindAt_moveFile away apart, there]

/-- A folder stays a folder until it is removed. -/
theorem folder_effect {asked : FileQuestion} (answered : asked.Answer) (stays : asked ≠ .removeFolder path)
    (there : tree.kindAt path = some .folder) :
    (tree.effect ⟨asked, answered⟩).kindAt path = some .folder := by
  by_cases away : asked.Changes path
  · cases asked with
    | createFolders folder =>
        cases answered with
        | error failure => exact there
        | ok done => exact folder_putFolders _ there
    | lock file =>
        have put : ((if tree.kindAt file = none then tree.putFile file [] else tree)).kindAt path =
            some .folder := by
          split
          · exact folder_putFile there
          · exact there
        cases answered with
        | ok done => exact put
        | error failure =>
            cases failure with
            | wouldBlock => exact put
            | failed why => exact there
    | create file =>
        cases answered with
        | error failure => exact there
        | ok done => exact folder_putFile there
    | writeAll file written =>
        cases answered with
        | ok done => exact folder_putFile there
        | error failure => exact folder_putFile there
    | rename source target =>
        cases answered with
        | error failure => exact there
        | ok done => exact folder_moveFile there
    | remove file =>
        cases answered with
        | error failure => exact there
        | ok done =>
            change (tree.removeFile file).kindAt path = _
            rw [kindAt_removeFile]
            split
            · next gone => exact absurd (gone.1 ▸ there) gone.2
            · exact there
    | removeFolder folder => exact absurd (congrArg FileQuestion.removeFolder away.symm) stays
    | tryLock file => exact there
    | isThere file => exact there
    | kind file => exact there
    | length file => exact there
    | read file => exact there
    | list folder => exact there
    | sync file => exact there
  · rw [kindAt_effect answered away, there]

section Making

theorem folder_of_putFile (there : (tree.putFile other content).kindAt path = some .folder) :
    tree.kindAt path = some .folder := by
  rw [kindAt_putFile] at there
  split at there
  · cases there
  · exact there

theorem folder_of_moveFile {source target : DiskPath} (there : (tree.moveFile source target).kindAt path = some .folder) :
    tree.kindAt path = some .folder := by
  by_cases apart : path = target
  · subst apart
    by_contra before
    cases found : tree.kindAt source with
    | none => exact before (by simpa [moveFile, found] using there)
    | some entry =>
        cases entry with
        | folder => exact before (by simpa [moveFile, found] using there)
        | file moved =>
            rw [kindAt_moveFile_target found before, kindAt_insert (ne_nil_of_kindAt rfl before), if_pos rfl] at there
            cases there
  · by_cases away : path = source
    · subst away
      cases found : tree.kindAt path with
      | none => simp [moveFile, found] at there
      | some entry =>
          cases entry with
          | folder => rfl
          | file moved =>
              by_cases before : tree.kindAt target = some .folder
              · simp [moveFile, found, before] at there
              · rw [kindAt_moveFile_target found before, kindAt_insert (ne_nil_of_kindAt rfl before), if_neg apart,
                  kindAt_erase (ne_nil_of_kindAt found (by simp)), if_pos rfl] at there
                cases there
    · rwa [kindAt_moveFile away apart] at there

/-- Only one step makes folders. -/
theorem folder_of_effect {asked : FileQuestion} {answered : asked.Answer}
    (there : (tree.effect ⟨asked, answered⟩).kindAt path = some .folder) :
    tree.kindAt path = some .folder ∨ ∃ made, asked = .createFolders made ∧ path <+: made := by
  by_cases away : asked.Changes path
  · cases asked with
    | createFolders made => exact Or.inr ⟨made, rfl, away⟩
    | lock file =>
        have put (there : ((if tree.kindAt file = none then tree.putFile file [] else tree)).kindAt path =
            some .folder) : tree.kindAt path = some .folder := by
          split at there
          · exact folder_of_putFile there
          · exact there
        cases answered with
        | ok done => exact Or.inl (put there)
        | error failure =>
            cases failure with
            | wouldBlock => exact Or.inl (put there)
            | failed why => exact Or.inl there
    | create file =>
        cases answered with
        | error failure => exact Or.inl there
        | ok done => exact Or.inl (folder_of_putFile there)
    | writeAll file written =>
        cases answered with
        | ok done => exact Or.inl (folder_of_putFile there)
        | error failure => exact Or.inl (folder_of_putFile there)
    | rename source target =>
        cases answered with
        | error failure => exact Or.inl there
        | ok done => exact Or.inl (folder_of_moveFile there)
    | remove file =>
        cases answered with
        | error failure => exact Or.inl there
        | ok done =>
            change (tree.removeFile file).kindAt path = _ at there
            rw [kindAt_removeFile] at there
            split at there
            · cases there
            · exact Or.inl there
    | removeFolder folder =>
        cases answered with
        | error failure => exact Or.inl there
        | ok done =>
            change (tree.removeEmptyFolder folder).kindAt path = _ at there
            unfold removeEmptyFolder at there
            split at there
            · next empty =>
              rw [kindAt_erase empty.1, if_pos (show path = folder from away)] at there
              cases there
            · exact Or.inl there
    | tryLock file => exact Or.inl there
    | isThere file => exact Or.inl there
    | kind file => exact Or.inl there
    | length file => exact Or.inl there
    | read file => exact Or.inl there
    | list folder => exact Or.inl there
    | sync file => exact Or.inl there
  · rw [kindAt_effect answered away] at there
    exact Or.inl there

end Making

section Putting

variable {habits : Habits}

theorem mayPut_eq_ok :
    tree.mayPut path = .ok () ↔ tree.kindAt path ≠ some .folder ∧ tree.kindAt path.dropLast = some .folder := by
  unfold mayPut
  cases there : tree.kindAt path with
  | none =>
      cases above : tree.kindAt path.dropLast with
      | none => simp
      | some entry => cases entry <;> simp
  | some entry =>
      cases entry with
      | folder => simp
      | file before =>
          cases above : tree.kindAt path.dropLast with
          | none => simp
          | some entry => cases entry <;> simp

theorem kindAt_putFile_of_mayPut (may : tree.mayPut path = .ok ()) :
    (tree.putFile path content).kindAt other =
      if other = path then some (.file content) else tree.kindAt other := by
  rw [kindAt_putFile]
  exact if_congr (and_iff_left (mayPut_eq_ok.mp may).1) rfl rfl

/-- A file that was put can be put again. -/
theorem mayPut_putFile (may : tree.mayPut path = .ok ()) : (tree.putFile path content).mayPut path = .ok () := by
  obtain ⟨_, above⟩ := mayPut_eq_ok.mp may
  refine mayPut_eq_ok.mpr ⟨?_, folder_putFile above⟩
  rw [kindAt_putFile_of_mayPut may, if_pos rfl]
  simp

/-- What is moved is at its target then. -/
theorem kindAt_moved {target : DiskPath} (there : tree.kindAt path = some (.file content))
    (may : tree.mayPut target = .ok ()) :
    (tree.moveFile path target).kindAt other =
      if other = target then some (.file content) else if other = path then none else tree.kindAt other := by
  have free := (mayPut_eq_ok.mp may).1
  rw [kindAt_moveFile_target there free, kindAt_insert (ne_nil_of_kindAt rfl free),
    kindAt_erase (ne_nil_of_kindAt there (by simp))]

end Putting

section Steps

variable {habits : Habits} {later : FileTree} {α β Error : Type}

/-- The rule of sequence. -/
theorem serve_then {step : FileDialogue α} {next : α → FileDialogue β} {value : α}
    (first : tree.serve habits step = (later, value)) :
    tree.serve habits (step >>= next) = later.serve habits (next value) := by
  unfold serve at first ⊢
  rw [Dialogue.serve_bind, first]

theorem serve_ok {step : FileDialogue (Except Error α)} {next : α → FileDialogue (Except Error β)} {value : α}
    (first : tree.serve habits step = (later, .ok value)) :
    tree.serve habits (step.andThen next) = later.serve habits (next value) := by
  unfold serve at first ⊢
  rw [Dialogue.serve_andThen, first]

theorem serve_mapped {step : FileDialogue α} {f : α → β} {value : α}
    (first : tree.serve habits step = (later, value)) :
    tree.serve habits (f <$> step) = (later, f value) := by
  unfold serve at first ⊢
  rw [Dialogue.serve_map, first]

theorem serve_mapError {Failure : Type} {step : FileDialogue (Except Error α)} {f : Error → Failure} {value : α}
    (first : tree.serve habits step = (later, .ok value)) :
    tree.serve habits (Except.mapError f <$> step) = (later, .ok value) :=
  serve_mapped first

/-- A sequence that ends well did so in each step. -/
theorem of_serve_ok {step : FileDialogue (Except Error α)} {next : α → FileDialogue (Except Error β)} {result : β}
    (ended : tree.serve habits (step.andThen next) = (later, .ok result)) :
    ∃ between value, tree.serve habits step = (between, .ok value) ∧
      between.serve habits (next value) = (later, .ok result) := by
  unfold serve at ended ⊢
  rw [Dialogue.serve_andThen] at ended
  cases first : Dialogue.serve (answer habits) effect tree step with
  | mk between outcome =>
      rw [first] at ended
      cases outcome with
      | ok value => exact ⟨between, value, rfl, ended⟩
      | error error => cases ended

theorem of_serve_mapError {Failure : Type} {step : FileDialogue (Except Error α)} {f : Error → Failure} {value : α}
    (ended : tree.serve habits (Except.mapError f <$> step) = (later, .ok value)) :
    tree.serve habits step = (later, .ok value) := by
  unfold serve at ended ⊢
  rw [Dialogue.serve_map] at ended
  cases first : Dialogue.serve (answer habits) effect tree step with
  | mk between outcome =>
      rw [first] at ended
      cases outcome with
      | ok value =>
          cases ended
          rfl
      | error error => cases ended

theorem serve_createFolders
    (free : ∀ part ∈ path.inits, tree.kindAt part = none ∨ tree.kindAt part = some .folder) :
    tree.serve habits (FileQuestion.createFolders path).ask = (path.inits.foldl putFolder tree, .ok ()) := by
  have answered : answer habits tree (.createFolders path) = .ok () := by
    simp only [answer]
    rw [if_neg]
    intro blocked
    obtain ⟨part, listed, file⟩ := List.any_eq_true.mp blocked
    rcases free part listed with none_ | folder
    · simp [none_] at file
    · simp [folder] at file
  unfold serve
  rw [Dialogue.serve_question, answered]
  rfl

end Steps

section Keeping

variable {habits : Habits} {α : Type} {dialogue : FileDialogue α}

/-- What no step of a run changes. -/
theorem kindAt_run {said : List FileExchange} (away : ∀ exchange ∈ said, ¬ exchange.1.Changes path) :
    (Trace.run effect tree said).kindAt path = tree.kindAt path := by
  induction said generalizing tree with
  | nil => rfl
  | cons exchange said ih =>
      rw [List.forall_mem_cons] at away
      exact (ih away.2).trans (kindAt_effect exchange.2 away.1)

theorem folder_run {said : List FileExchange} (stays : ∀ exchange ∈ said, exchange.1 ≠ .removeFolder path)
    (there : tree.kindAt path = some .folder) :
    (Trace.run effect tree said).kindAt path = some .folder := by
  induction said generalizing tree with
  | nil => exact there
  | cons exchange said ih =>
      rw [List.forall_mem_cons] at stays
      exact ih stays.2 (folder_effect exchange.2 stays.1 there)

theorem kindAt_serve (asks : dialogue.Asks fun asked => ¬ asked.Changes path) :
    (tree.serve habits dialogue).1.kindAt path = tree.kindAt path :=
  @Dialogue.Asks.serve_keeps _ _ _ _ _ _ _ effect (fun first later => later.kindAt path = first.kindAt path)
    (fun _ => rfl) (fun _ _ _ answered away same => (kindAt_effect answered away).trans same) _ asks

/-- Folders are made only on the way to those that are asked for. -/
theorem folder_of_run {Made : DiskPath → Prop} {said : List FileExchange}
    (asked : ∀ exchange ∈ said, ∀ made, exchange.1 = .createFolders made → Made made)
    (there : (Trace.run effect tree said).kindAt path = some .folder) :
    tree.kindAt path = some .folder ∨ ∃ made, Made made ∧ path <+: made := by
  induction said generalizing tree with
  | nil => exact Or.inl there
  | cons exchange said ih =>
      rw [List.forall_mem_cons] at asked
      rcases ih asked.2 there with before | made
      · rcases folder_of_effect before with earlier | ⟨made, same, inside⟩
        · exact Or.inl earlier
        · exact Or.inr ⟨made, asked.1 made same, inside⟩
      · exact Or.inr made

end Keeping

section Looking

variable {habits : Habits} {α β : Type} {dialogue : FileDialogue α}

theorem effect_reads {asked : FileQuestion} (answered : asked.Answer) (reads : asked.Reads) :
    tree.effect ⟨asked, answered⟩ = tree := by
  cases asked with
  | tryLock file => rfl
  | isThere file => rfl
  | kind file => rfl
  | length file => rfl
  | read file => rfl
  | list folder => rfl
  | sync file => rfl
  | _ => cases reads

/-- A program that only looks leaves everything as it is. -/
theorem serve_reads (asks : dialogue.Asks FileQuestion.Reads) : (tree.serve habits dialogue).1 = tree :=
  @Dialogue.Asks.serve_keeps _ _ _ _ _ _ _ effect (fun first later => later = first) (fun _ => rfl)
    (fun _ _ _ answered reads same => (effect_reads answered reads).trans same) _ asks

/-- What a program finds that only looks. -/
def look (habits : Habits) (tree : FileTree) (dialogue : FileDialogue α) : α := (tree.serve habits dialogue).2

theorem look_bind {next : α → FileDialogue β} (asks : dialogue.Asks FileQuestion.Reads) :
    look habits tree (dialogue >>= next) = look habits tree (next (look habits tree dialogue)) := by
  unfold look serve
  rw [Dialogue.serve_bind]
  exact congrArg (fun between => (Dialogue.serve (answer habits) effect between _).2) (serve_reads asks)

@[simp] theorem look_pure (result : α) : look habits tree (pure result : FileDialogue α) = result := rfl

@[simp] theorem look_map (f : α → β) : look habits tree (f <$> dialogue) = f (look habits tree dialogue) := by
  simp [look]

/-- A question that only looks, and what follows its answer. -/
theorem serve_ask (asked : FileQuestion) {next : asked.Answer → FileDialogue β} (reads : asked.Reads) :
    tree.serve habits (asked.ask >>= next) = tree.serve habits (next (answer habits tree asked)) := by
  unfold serve
  rw [Dialogue.serve_bind, Dialogue.serve_question, effect_reads _ reads]

theorem serve_andThen_reads {Error : Type} {step : FileDialogue (Except Error α)}
    {next : α → FileDialogue (Except Error β)} (asks : step.Asks FileQuestion.Reads) :
    tree.serve habits (step.andThen next) =
      match look habits tree step with
      | .ok value => tree.serve habits (next value)
      | .error error => (tree, .error error) := by
  have same : (tree.serve habits step).1 = tree := serve_reads asks
  unfold look
  rw [serve, Dialogue.serve_andThen]
  change (match (tree.serve habits step).2 with
    | .ok value => Dialogue.serve (answer habits) effect (tree.serve habits step).1 (next value)
    | .error error => ((tree.serve habits step).1, .error error)) = _
  rw [same]

theorem look_andThen {Error : Type} {step : FileDialogue (Except Error α)}
    {next : α → FileDialogue (Except Error β)} (asks : step.Asks FileQuestion.Reads) :
    look habits tree (step.andThen next) =
      match look habits tree step with
      | .ok value => look habits tree (next value)
      | .error error => .error error := by
  unfold look
  rw [serve_andThen_reads asks]
  unfold look
  cases (tree.serve habits step).2 with
  | ok value => rfl
  | error error => rfl

theorem serve_asked {asked : FileQuestion} {reply : asked.Answer} (reads : asked.Reads)
    (answered : answer habits tree asked = reply) : tree.serve habits asked.ask = (tree, reply) := by
  unfold serve
  rw [Dialogue.serve_question, answered, effect_reads _ reads]

theorem serve_of_look {result : α} (asks : dialogue.Asks FileQuestion.Reads)
    (found : look habits tree dialogue = result) : tree.serve habits dialogue = (tree, result) :=
  Prod.ext (serve_reads asks) found

end Looking

end FileTree
