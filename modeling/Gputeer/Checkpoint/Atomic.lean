import Gputeer.Checkpoint.Manifest

/-! Files that are written once: into a temporary file, which is renamed when its content is on the disk. What
is there already is never written over, except for the one small file that points to the latest checkpoint. -/

namespace Gputeer.Checkpoint

open Dialogue Text

section Steps

def ioError (failure : DiskFailure) : CheckpointError := .io failure.why

def create (path : DiskPath) : FileDialogue (Checked Unit) :=
  Except.mapError ioError <$> (FileQuestion.create path).ask

def writeAll (path : DiskPath) (data : List UInt8) : FileDialogue (Checked Unit) :=
  Except.mapError (fun failure => CheckpointError.io failure.why) <$> (FileQuestion.writeAll path data).ask

def syncAll (path : DiskPath) : FileDialogue (Checked Unit) :=
  Except.mapError ioError <$> (FileQuestion.sync path).ask

/-- `sync_dir` -/
def syncDir (dir : DiskPath) : FileDialogue (Checked Unit) :=
  Except.mapError ioError <$> (FileQuestion.sync dir).ask

def createDirAll (dir : DiskPath) : FileDialogue (Checked Unit) :=
  Except.mapError ioError <$> (FileQuestion.createFolders dir).ask

def fileLength (path : DiskPath) : FileDialogue (Checked Nat) :=
  Except.mapError ioError <$> (FileQuestion.length path).ask

def readFile (path : DiskPath) : FileDialogue (Checked (List UInt8)) :=
  Except.mapError ioError <$> (FileQuestion.read path).ask

def fileExists (path : DiskPath) : FileDialogue Bool := (FileQuestion.isThere path).ask

/-- Whether it works does not matter. -/
def removeAnyway (path : DiskPath) : FileDialogue Unit := do
  let _ ← (FileQuestion.remove path).ask
  pure ()

end Steps

section Names

def badComponent : PathComponent → Option String
  | .normal _ | .curDir => none
  | .parentDir => some "상위 디렉터리 성분(..) — 체크포인트 밖으로 나간다"
  | .rootDir => some "절대 경로 — 상대 경로여야 한다"

def validateRelativeName (name : String) : Except CheckpointError Unit :=
  let normalized := asciiLowercase (String.ofList (name.toList.rdropWhile fun c => c = '.' || c = ' '))
  if name = "" then .error (.unsafePath name "빈 이름")
  else if endsWith ".write_once.lock" normalized then
    .error (.unsafePath name ("'.write_once.lock' 접미사(대소문자·후행 점/공백 무관)는 write_once() " ++
      "자신의 락 파일 전용으로 예약돼 있다"))
  else
    match (pathComponents name).findSome? badComponent with
    | some reason => .error (.unsafePath name reason)
    | none => .ok ()

/-- `Path::join` of a name that stays in the directory. -/
def joinName (dir : DiskPath) (name : String) : DiskPath := dir ++ normalNames (pathComponents name)

end Names

section Reading

inductive ReadFailure where
  | notFound
  | fileTooLarge (why : String)
  | other (why : String)
  deriving DecidableEq

def ReadFailure.why : ReadFailure → String
  | notFound => "No such file or directory (os error 2)"
  | fileTooLarge why | other why => why

def ReadFailure.toError (failure : ReadFailure) : CheckpointError := .io failure.why

def readFailureOf : DiskFailure → ReadFailure
  | .notFound => .notFound
  | .other why => .other why

def componentName : PathComponent → String
  | .rootDir => "RootDir"
  | .curDir => "CurDir"
  | .parentDir => "ParentDir"
  | .normal name => s!"Normal({name})"

def irregularPath (component : PathComponent) : ReadFailure :=
  let shown := componentName component
  .other s!"허용되지 않는 상대 경로 구성요소: {shown}"

/-- The names of a relative path of a file. A path that ends in a separator is one of a directory. -/
def openBeneath (relative : String) : Except ReadFailure DiskPath :=
  match (pathComponents relative).find? (!isNormal ·) with
  | some component => .error (irregularPath component)
  | none =>
      if pathComponents relative = [] then .error (.other "상대 경로가 비어 있다")
      else if endsWith "/" relative || endsWith "/." relative then
        .error (.other "Not a directory (os error 20)")
      else .ok (normalNames (pathComponents relative))

def readBeneath (root : DiskPath) (relative : String) : FileDialogue (Except ReadFailure (List UInt8)) :=
  match openBeneath relative with
  | .error failure => pure (.error failure)
  | .ok names => Except.mapError readFailureOf <$> (FileQuestion.read (root ++ names)).ask

/-- `read_capped`, of a file that does not grow. -/
def readCapped (relative : String) (maxBytes : Nat) (data : List UInt8) :
    Except ReadFailure (List UInt8) :=
  let length := data.length
  if maxBytes < length then
    .error (.fileTooLarge
      s!"{relative} 가 {length} 바이트 이상이라 상한({maxBytes})을 넘어 메모리에 올리지 않는다")
  else .ok data

def readBeneathCapped (root : DiskPath) (relative : String) (maxBytes : UInt64) :
    FileDialogue (Except ReadFailure (List UInt8)) :=
  (readBeneath root relative).andThen fun data => pure (readCapped relative maxBytes.toNat data)

end Reading

section WriteOnce

/-- What is there, to be compared; a file of another size is not read. -/
def readExisting (finalPath : DiskPath) (data : List UInt8) :
    FileDialogue (Checked (List UInt8)) :=
  (fileLength finalPath).andThen fun existingLen =>
    if existingLen ≠ data.length then
      pure (.error (.contentMismatch finalPath existingLen data.length))
    else readFile finalPath

/-- The lock was released before: it is only in the way of a collection. -/
def cleanupLock (lockPath : DiskPath) (result : Bool) : FileDialogue (Checked Bool) := do
  removeAnyway lockPath
  pure (.ok result)

def keepExisting (finalPath lockPath : DiskPath) (data existing : List UInt8) : FileDialogue (Checked Bool) :=
  if existing = data then cleanupLock lockPath false
  else pure (.error (.contentMismatch finalPath existing.length data.length))

/-- Someone may have written the file in the meantime. -/
def loseRace (finalPath tmpPath lockPath : DiskPath) (data : List UInt8) : FileDialogue (Checked Bool) :=
  (readExisting finalPath data).andThen fun winner => do
    removeAnyway tmpPath
    keepExisting finalPath lockPath data winner

def renameTemporary (tmpPath finalPath : DiskPath) : FileDialogue (Checked Unit) := do
  match ← (FileQuestion.rename tmpPath finalPath).ask with
  | .ok () => pure (.ok ())
  | .error failure =>
      removeAnyway tmpPath
      pure (.error (.rename tmpPath finalPath (failure.why)))

def writeTemporary (tmpPath : DiskPath) (data : List UInt8) : FileDialogue (Checked Unit) :=
  (create tmpPath).andThen fun _ => (writeAll tmpPath data).andThen fun _ => syncAll tmpPath

def writeNew (dir finalPath tmpPath lockPath : DiskPath) (data : List UInt8) : FileDialogue (Checked Bool) :=
  (writeTemporary tmpPath data).andThen fun _ => do
    if ← fileExists finalPath then loseRace finalPath tmpPath lockPath data
    else
      (renameTemporary tmpPath finalPath).andThen fun _ =>
        (syncDir dir).andThen fun _ => cleanupLock lockPath true

def takeLock (lockPath finalPath : DiskPath) : FileDialogue (Checked Unit) :=
  Except.mapError (fun failure => match failure with
    | .wouldBlock => .writeInProgress finalPath
    | .failed failure => ioError failure) <$> (FileQuestion.lock lockPath).ask

/-- Whether the file is new; the same content may be there already. -/
def writeOnce (dir : DiskPath) (name : String) (data : List UInt8) : FileDialogue (Checked Bool) :=
  match validateRelativeName name with
  | .error error => pure (.error error)
  | .ok () =>
      let finalPath := joinName dir name
      let lockPath := joinName dir (name ++ ".write_once.lock")
      (takeLock lockPath finalPath).andThen fun _ => do
        if ← fileExists finalPath then
          (readExisting finalPath data).andThen fun existing =>
            keepExisting finalPath lockPath data existing
        else writeNew dir finalPath (joinName dir (name ++ ".tmp")) lockPath data

end WriteOnce

section Replace

/-- The tries that are left; how long each waits changes nothing here. -/
def retryRename (dir tmpPath finalPath : DiskPath) (attempts : Nat) (lastWhy : String) :
    Nat → FileDialogue (Checked Unit)
  | 0 => do
      removeAnyway tmpPath
      pure (.error (.replaceExhausted finalPath attempts lastWhy))
  | left + 1 => do
      match ← (FileQuestion.rename tmpPath finalPath).ask with
      | .ok () => syncDir dir
      | .error failure => retryRename dir tmpPath finalPath attempts (failure.why) left

/-- Only for the pointer. -/
def replaceWithRetry (dir : DiskPath) (name : String) (data : List UInt8) (maxAttempts : Nat) :
    FileDialogue (Checked Unit) :=
  match validateRelativeName name with
  | .error error => pure (.error error)
  | .ok () =>
      if maxAttempts = 0 then pure (.error .invalidRetryPolicy)
      else
        let finalPath := joinName dir name
        let tmpPath := joinName dir (name ++ ".tmp")
        (writeTemporary tmpPath data).andThen fun _ =>
          retryRename dir tmpPath finalPath maxAttempts "" maxAttempts

end Replace

section Collection

variable (codec : CheckpointCodec)

/-- What is gone is no error here. -/
def tolerateGone {α : Type} (answer : Except DiskFailure α) : Except CheckpointError (Option α) :=
  match answer with
  | .ok value => .ok (some value)
  | .error .notFound => .ok none
  | .error (.other why) => .error (.io why)

def removeTolerant (path : DiskPath) : FileDialogue (Checked Unit) :=
  (fun answer => (tolerateGone answer).map fun _ => ()) <$> (FileQuestion.remove path).ask

/-- The manifest of a directory, if it has one. -/
def readManifest (dir : DiskPath) (manifestName : String) : FileDialogue (Checked (Option (List UInt8))) := do
  match ← readBeneath dir manifestName with
  | .ok data => pure (.ok (some data))
  | .error .notFound => pure (.ok none)
  | .error failure => pure (.error failure.toError)

/-- The paths of a manifest that can be read. -/
def registeredIn (manifestData : Option (List UInt8)) : List String :=
  match manifestData with
  | none => []
  | some data =>
      match codec.fromJson data with
      | .ok manifest => manifest.files.map CheckpointFile.path
      | .error _ => []

/-- A lock that someone holds is left alone. -/
def collectLock (path : DiskPath) : FileDialogue (Checked (List DiskPath)) := do
  match ← (FileQuestion.tryLock path).ask with
  | .ok () => Except.map (fun _ => [path]) <$> removeTolerant path
  | .error .wouldBlock | .error (.failed .notFound) => pure (.ok [])
  | .error (.failed (.other why)) => pure (.error (.io why))

/-- What is to become of a file of this name. -/
def collectFile (manifestExists : Bool) (registered : List String) (path : DiskPath) (name : String) :
    FileDialogue (Checked (List DiskPath)) :=
  let isRegistered := registered.contains name
  if endsWith ".write_once.lock" name then
    if manifestExists && isRegistered then pure (.ok []) else collectLock path
  else if !manifestExists || (endsWith ".tmp" name && !isRegistered) then
    Except.map (fun _ => [path]) <$> removeTolerant path
  else pure (.ok [])

def collectEntry (manifestExists : Bool) (registered : List String) (dir : DiskPath) (name : String) :
    FileDialogue (Checked (List DiskPath)) := do
  match tolerateGone (← (FileQuestion.kind (dir ++ [name])).ask) with
  | .error error => pure (.error error)
  | .ok none | .ok (some .folder) => pure (.ok [])
  | .ok (some .file) => collectFile manifestExists registered (dir ++ [name]) name

def collectEntries (manifestExists : Bool) (registered : List String) (dir : DiskPath) :
    List String → FileDialogue (Checked (List DiskPath))
  | [] => pure (.ok [])
  | name :: rest =>
      (collectEntry manifestExists registered dir name).andThen fun removed =>
        Except.map (removed ++ ·) <$> collectEntries manifestExists registered dir rest

def collectListed (dir : DiskPath) (manifestData : Option (List UInt8)) : FileDialogue (Checked (List DiskPath)) := do
  match tolerateGone (← (FileQuestion.list dir).ask) with
  | .error error => pure (.error error)
  | .ok none => pure (.ok [])
  | .ok (some names) => collectEntries manifestData.isSome (registeredIn codec manifestData) dir names

/-- Without a manifest every file is removed, and with one what the writing left behind. -/
def gcPartial (checkpointDir : DiskPath) (manifestName : String) : FileDialogue (Checked (List DiskPath)) := do
  match tolerateGone (← (FileQuestion.kind checkpointDir).ask) with
  | .error error => pure (.error error)
  | .ok none | .ok (some .file) => pure (.ok [])
  | .ok (some .folder) =>
      (readManifest checkpointDir manifestName).andThen fun manifestData =>
        collectListed codec checkpointDir manifestData

end Collection

end Gputeer.Checkpoint
