import Gputeer.Checkpoint.Atomic

/-! A checkpoint is written into a directory of its own, with its manifest last, and found again by the
manifests that agree with their files. -/

namespace Gputeer.Checkpoint

open Dialogue Text

section Markers

def publicationFailedMarker : String := ".publication-failed"

def publicationFailedText : List UInt8 := Bytes.utf8 "checkpoint publication failed\n"

def recordInitialState (dir : DiskPath) : FileDialogue (Checked Unit) :=
  Except.map (fun _ => ()) <$> writeOnce dir DurabilityState.writing.markerName (Bytes.utf8 "Writing\n")

/-- The state that is reached, as a file of its own. -/
def recordStateTransition (dir : DiskPath) (source target : DurabilityState) :
    FileDialogue (Checked Unit) :=
  match source.transition target with
  | .error error => pure (.error error)
  | .ok reached =>
      Except.map (fun _ => ()) <$>
        writeOnce dir reached.markerName (Bytes.utf8 (reached.debugName ++ "\n"))

def recordPublicationFailure (dir : DiskPath) : FileDialogue (Checked Unit) :=
  Except.map (fun _ => ()) <$> writeOnce dir publicationFailedMarker publicationFailedText

def publicationFailed (dir : DiskPath) : FileDialogue (Checked Bool) := do
  match ← readBeneath dir publicationFailedMarker with
  | .ok actual => pure (.ok (actual = publicationFailedText))
  | .error .notFound => pure (.ok false)
  | .error failure => pure (.error failure.toError)

end Markers

section Verification

variable (codec : CheckpointCodec)

def verifyFile (dir : DiskPath) (file : CheckpointFile) : FileDialogue (Checked Unit) :=
  (Except.mapError ReadFailure.toError <$> readBeneathCapped dir file.path file.sizeBytes).andThen fun data =>
    if codec.hash data ≠ file.digest then
      pure (.error (.hashMismatch (joinName dir file.path) file.digest (codec.hash data)))
    else pure (.ok ())

/-- The hashes of all files are computed again. -/
def verifyFiles (dir : DiskPath) : List CheckpointFile → FileDialogue (Checked Unit)
  | [] => pure (.ok ())
  | file :: rest => (verifyFile codec dir file).andThen fun _ => verifyFiles dir rest

def loadValidManifest (dir : DiskPath) : FileDialogue (Option CheckpointManifest) := do
  match ← readBeneath dir manifestFilename with
  | .error _ => pure none
  | .ok data =>
      match codec.fromJson data with
      | .error _ => pure none
      | .ok manifest => do
          let verified ← verifyFiles codec dir manifest.files
          pure (if verified.isOk then some manifest else none)

end Verification

section Writing

variable (codec : CheckpointCodec)

def maxLogicalNameLen : Nat := 120

/-- One name below a directory. -/
def validateComponent (value : String) (lenLimit : Nat) : Except String Unit :=
  if value = "" then .error "빈 이름"
  else if lenLimit < value.utf8ByteSize then .error "이름이 너무 길다 — 저장 이름에 해시 접미사가 더 붙는다"
  else if '/' ∈ value.toList ∨ '\\' ∈ value.toList then
    .error "경로 구분자 — 이 절차는 체크포인트 디렉터리 바로 아래 평평한 이름만 쓴다"
  else if value = "." ∨ value = ".." then .error "상위/현재 디렉터리 성분 — 체크포인트 밖으로 나간다"
  else if value.toList.head? = some '.' then
    .error ("'.' 로 시작하는 이름은 상태 사이드카(.durability.* · .publication-failed) 전용으로 " ++
      "예약돼 있다")
  else if value.toList.getLast? = some '.' ∨ value.toList.getLast? = some ' ' then
    .error "후행 점/공백 — Win32 가 조용히 잘라내 다른 파일을 가리킨다"
  else if Char.ofNat 0 ∈ value.toList then .error "NUL 문자"
  else .ok ()

def pointerFilename : String := "LATEST"

def retryAttempts : Nat := 5

/-- A checkpoint whose publication failed is not resumed from; that it failed is written down. -/
def failAfterMaterialization (dir : DiskPath) (original : CheckpointError) : FileDialogue CheckpointError := do
  match ← recordPublicationFailure dir with
  | .ok () => pure original
  | .error markerError =>
      let original := original.display
      let markerError := markerError.display
      pure (.io (s!"체크포인트 공개 실패: {original}; 실패 마커 기록도 실패하여 재개 배제를 보장할 수 없다: " ++
        markerError))

/-- A failure after the manifest was written. -/
def orFailed (dir : DiskPath) (step : FileDialogue (Except CheckpointError Unit)) :
    FileDialogue (Checked Unit) := do
  match ← step with
  | .ok () => pure (.ok ())
  | .error error => .error <$> failAfterMaterialization dir error

def writeDataFiles (dir : DiskPath) : List (String × List UInt8) → FileDialogue (Checked Unit)
  | [] => pure (.ok ())
  | (name, data) :: rest => (writeOnce dir name data).andThen fun _ => writeDataFiles dir rest

def publish (root dir : DiskPath) (manifest : CheckpointManifest) :
    FileDialogue (Checked Unit) :=
  (orFailed dir (recordStateTransition dir .localWritten .hashVerified)).andThen fun _ =>
    (orFailed dir (replaceWithRetry root pointerFilename (Bytes.utf8 manifest.checkpointId)
      retryAttempts)).andThen fun _ =>
        orFailed dir (recordStateTransition dir .hashVerified .committed)

def storeAndVerify (dir : DiskPath) (manifest : CheckpointManifest) (files : List (String × List UInt8)) :
    FileDialogue (Checked Unit) :=
  (recordInitialState dir).andThen fun _ =>
    (writeDataFiles dir files).andThen fun _ =>
      (recordStateTransition dir .writing .localWritten).andThen fun _ =>
        match codec.toJson manifest with
        | .error why => pure (.error (.manifest why))
        | .ok json =>
            (writeOnce dir manifestFilename json).andThen fun _ =>
              orFailed dir (verifyFiles codec dir manifest.files)

/-- How far it came: to a verified checkpoint, or not. -/
inductive WritePhase where
  | storeAndVerify
  | publish
  deriving DecidableEq

def inPhase {α : Type} (phase : WritePhase) (step : FileDialogue (Checked α)) :
    FileDialogue (Except (WritePhase × CheckpointError) α) :=
  Except.mapError (fun error => (phase, error)) <$> step

def writeCheckpointPhased (root : DiskPath) (manifest : CheckpointManifest)
    (files : List (String × List UInt8)) :
    FileDialogue (Except (WritePhase × CheckpointError) DiskPath) :=
  match validateComponent manifest.checkpointId maxLogicalNameLen with
  | .error reason => pure (.error (.storeAndVerify, .unsafePath manifest.checkpointId reason))
  | .ok () =>
      let dir := root ++ [manifest.checkpointId]
      (inPhase .storeAndVerify ((createDirAll dir).andThen fun _ =>
        storeAndVerify codec dir manifest files)).andThen fun _ =>
          Except.map (fun _ => dir) <$> inPhase .publish (publish root dir manifest)

def writeCheckpoint (root : DiskPath) (manifest : CheckpointManifest)
    (files : List (String × List UInt8)) : FileDialogue (Checked DiskPath) :=
  Except.mapError Prod.snd <$> writeCheckpointPhased codec root manifest files

end Writing

section Resuming

variable (codec : CheckpointCodec)

/-- The pointer is read, and does not decide anything. -/
def readPointer (root : DiskPath) : FileDialogue (Except ReadFailure (List UInt8)) :=
  readBeneath root pointerFilename

def isDir (path : DiskPath) : FileDialogue Bool := do
  match ← (FileQuestion.kind path).ask with
  | .ok .folder => pure true
  | .ok .file | .error _ => pure false

def fitsRequest (jobId attemptId name : String) (manifest : CheckpointManifest) : Bool :=
  manifest.jobId = jobId && manifest.attemptId = attemptId && !manifest.files.isEmpty &&
    manifest.checkpointId = name

/-- The checkpoint in the directory of this name, if it can be resumed from. -/
def resumeCandidate (root : DiskPath) (jobId attemptId name : String) :
    FileDialogue (Checked (Option CheckpointManifest)) := do
  if ← isDir (root ++ [name]) then
    match ← loadValidManifest codec (root ++ [name]) with
    | none => pure (.ok none)
    | some manifest =>
        if fitsRequest jobId attemptId name manifest then
          Except.map (fun failed => if failed then none else some manifest) <$>
            publicationFailed (root ++ [name])
        else pure (.ok none)
  else pure (.ok none)

def resumeCandidates (root : DiskPath) (jobId attemptId : String) :
    List String → FileDialogue (Checked (List CheckpointManifest))
  | [] => pure (.ok [])
  | name :: rest =>
      (resumeCandidate codec root jobId attemptId name).andThen fun candidate =>
        Except.map (candidate.toList ++ ·) <$> resumeCandidates root jobId attemptId rest

/-- The last of those with the highest step. -/
def latestStep (candidates : List CheckpointManifest) : Option CheckpointManifest :=
  (candidates.mergeSort fun first second => first.step ≤ second.step).getLast?

def listNames (root : DiskPath) : FileDialogue (Checked (List String)) := do
  match tolerateGone (← (FileQuestion.list root).ask) with
  | .error error => pure (.error error)
  | .ok none => pure (.ok [])
  | .ok (some names) => pure (.ok names)

def findResumePointFor (root : DiskPath) (jobId attemptId : String) :
    FileDialogue (Checked (Option CheckpointManifest)) := do
  let _ ← readPointer root
  if ← isDir root then
    (listNames root).andThen fun names =>
      Except.map latestStep <$> resumeCandidates codec root jobId attemptId names
  else pure (.ok none)

/-- What a search without a request asks of a manifest. -/
def fitsAny (name : String) (manifest : CheckpointManifest) : Bool :=
  !manifest.files.isEmpty && manifest.checkpointId = name

/-- Both searches, up to what they ask of a manifest. -/
def resumeCandidateBy (fits : String → CheckpointManifest → Bool) (root : DiskPath) (name : String) :
    FileDialogue (Checked (Option CheckpointManifest)) := do
  if ← isDir (root ++ [name]) then
    match ← loadValidManifest codec (root ++ [name]) with
    | none => pure (.ok none)
    | some manifest =>
        if fits name manifest then
          Except.map (fun failed => if failed then none else some manifest) <$>
            publicationFailed (root ++ [name])
        else pure (.ok none)
  else pure (.ok none)

def resumeCandidatesBy (fits : String → CheckpointManifest → Bool) (root : DiskPath) :
    List String → FileDialogue (Checked (List CheckpointManifest))
  | [] => pure (.ok [])
  | name :: rest =>
      (resumeCandidateBy codec fits root name).andThen fun candidate =>
        Except.map (candidate.toList ++ ·) <$> resumeCandidatesBy fits root rest

def findResumePointBy (fits : String → CheckpointManifest → Bool) (root : DiskPath) :
    FileDialogue (Checked (Option CheckpointManifest)) := do
  let _ ← readPointer root
  if ← isDir root then
    (listNames root).andThen fun names =>
      Except.map latestStep <$> resumeCandidatesBy codec fits root names
  else pure (.ok none)

/-- The checkpoint of any job. -/
def findResumePoint (root : DiskPath) : FileDialogue (Checked (Option CheckpointManifest)) :=
  findResumePointBy codec fitsAny root

theorem resumeCandidates_eq (root : DiskPath) (jobId attemptId : String) (names : List String) :
    resumeCandidates codec root jobId attemptId names =
      resumeCandidatesBy codec (fitsRequest jobId attemptId) root names := by
  induction names with
  | nil => rfl
  | cons name names ih =>
      unfold resumeCandidates resumeCandidatesBy
      rw [ih]
      rfl

theorem findResumePointFor_eq (root : DiskPath) (jobId attemptId : String) :
    findResumePointFor codec root jobId attemptId =
      findResumePointBy codec (fitsRequest jobId attemptId) root := by
  unfold findResumePointFor findResumePointBy
  simp only [resumeCandidates_eq]

end Resuming

section StartupCollection

variable (codec : CheckpointCodec)

/-- A directory that was emptied is removed. -/
def removeIfEmpty (dir : DiskPath) : FileDialogue (Checked Unit) := do
  match tolerateGone (← (FileQuestion.list dir).ask) with
  | .error error => pure (.error error)
  | .ok none | .ok (some (_ :: _)) => pure (.ok ())
  | .ok (some []) =>
      (fun answer => (tolerateGone answer).map fun _ => ()) <$> (FileQuestion.removeFolder dir).ask

/-- The number of directories, and of files that were removed. -/
def collectDirectory (root : DiskPath) (name : String) : FileDialogue (Checked (Nat × Nat)) := do
  match tolerateGone (← (FileQuestion.kind (root ++ [name])).ask) with
  | .error error => pure (.error error)
  | .ok none | .ok (some .file) => pure (.ok (0, 0))
  | .ok (some .folder) =>
      (gcPartial codec (root ++ [name]) manifestFilename).andThen fun removed =>
        Except.map (fun _ => (1, removed.length)) <$> removeIfEmpty (root ++ [name])

def collectDirectories (root : DiskPath) :
    List String → FileDialogue (Checked (Nat × Nat))
  | [] => pure (.ok (0, 0))
  | name :: rest =>
      (collectDirectory codec root name).andThen fun first =>
        Except.map (fun others => (first.1 + others.1, first.2 + others.2)) <$>
          collectDirectories root rest

/-- What is done when an agent starts, before anything is written. -/
def startupGc (root : DiskPath) : FileDialogue (Checked (Nat × Nat)) :=
  (listNames root).andThen fun names => collectDirectories codec root names

end StartupCollection

end Gputeer.Checkpoint
