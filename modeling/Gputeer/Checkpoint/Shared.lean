import Gputeer.Checkpoint.Commit
import Gputeer.Lib.Word
import Gputeer.Protocol.Messages

/-! Checkpoints on a storage that machines share: one publishes the files of a folder, another verifies and
restores them. The disks have no links. -/

namespace Gputeer.Checkpoint

open Dialogue Text

def maxInMemoryCheckpointBytes : UInt64 := 1073741824

inductive SharedError where
  | text (message : String)
  | beginning (error : CommitError)
  | staging (name : String) (error : CommitError)
  | committing (error : CommitError)
  | signing (error : CheckpointError)

def tooLargeMessage (what : String) (failure : ReadFailure) : SharedError :=
  let shown := failure.why
  match failure with
  | .fileTooLarge _ => .text s!"SHARED_CHECKPOINT_TOO_LARGE: {what}: {shown}"
  | .notFound | .other _ => .text s!"{what}: {shown}"

section Names

/-- The code points of the category Cc. -/
def isControl (c : Char) : Bool := c.val < 0x20 || (0x7F ≤ c.val && c.val ≤ 0x9F)

def safeComponent (value what : String) : Except SharedError Unit :=
  if value = "" ∨ value = "." ∨ value = ".." ∨
      ('/' ∈ value.toList ∨ '\\' ∈ value.toList ∨ ':' ∈ value.toList) ∨ value.toList.any isControl then
    let shown := debugQuoted value
    .error (.text s!"SHARED_CHECKPOINT_UNSAFE_NAME: {what} 가 경로 한 칸으로 안전하지 않다: {shown}")
  else .ok ()

def ensureNotLink (path : DiskPath) : FileDialogue (Except SharedError Unit) := do
  let shown := pathText path
  match ← (FileQuestion.kind path).ask with
  | .ok _ | .error .notFound => pure (.ok ())
  | .error (.other why) => pure (.error (.text s!"SHARED_CHECKPOINT_LINK: {shown}: {why}"))

/-- Where the checkpoints of a job are. -/
def jobRoot (sharedRoot : DiskPath) (jobId : String) : FileDialogue (Except SharedError DiskPath) :=
  match safeComponent jobId "job_id" with
  | .error error => pure (.error error)
  | .ok () => (ensureNotLink (sharedRoot ++ [jobId])).andThen fun _ => pure (.ok (sharedRoot ++ [jobId]))

end Names

section Publishing

variable (codec : CheckpointCodec)

/-- A file of the source folder, read below the folder that the source folder is in. -/
def readSourceFile (sourceDir : DiskPath) (name : String) (budget : UInt64) :
    FileDialogue (Except SharedError (List UInt8)) :=
  let shown := pathText sourceDir
  match sourceDir.getLast? with
  | none => pure (.error (.text s!"SHARED_CHECKPOINT_SOURCE: {shown} 의 부모 · 이름을 알 수 없다"))
  | some dirName =>
      Except.mapError (tooLargeMessage s!"SHARED_CHECKPOINT_READ: {shown}/{name}") <$>
        readBeneathCapped sourceDir.dropLast (dirName ++ "/" ++ name) budget

def sourceError (why : String) : SharedError := .text s!"SHARED_CHECKPOINT_SOURCE: {why}"

/-- The sum of the sizes, with the file of this name. -/
def declareSource (sourceDir : DiskPath) (cap declared : UInt64) (name : String) :
    FileDialogue (Except SharedError UInt64) :=
  let path := sourceDir ++ [name]
  (Except.mapError (fun failure => sourceError failure.why) <$> (FileQuestion.kind path).ask).andThen fun kind =>
    match kind with
    | .folder =>
        pure (.error (.text
          s!"SHARED_CHECKPOINT_SUBDIR: {name} 는 폴더다 — 체크포인트 폴더에는 파일만 둔다"))
    | .file =>
        (Except.mapError (fun failure => sourceError (name ++ ": " ++ failure.why)) <$>
          (FileQuestion.length path).ask).andThen fun length =>
            let declared := declared.saturatingAdd (UInt64.ofNat length)
            let shown := pathText sourceDir
            if cap < declared then
              pure (.error (.text (s!"SHARED_CHECKPOINT_TOO_LARGE: {shown} 의 파일 크기 합이 {declared} 바이트 이상으로 " ++
                s!"상한({cap})을 넘는다 — 게시하지 않는다(통째 읽기라 메모리에 올릴 수 없다)")))
            else pure (.ok declared)

/-- All sizes are looked at before anything is written. -/
def declareSources (sourceDir : DiskPath) (cap : UInt64) :
    UInt64 → List String → FileDialogue (Except SharedError Unit)
  | _, [] => pure (.ok ())
  | declared, name :: rest =>
      (declareSource sourceDir cap declared name).andThen fun declared =>
        declareSources sourceDir cap declared rest

def listSource (sourceDir : DiskPath) : FileDialogue (Except SharedError (List String)) :=
  let shown := pathText sourceDir
  Except.mapError (fun failure =>
    let why := failure.why
    .text s!"SHARED_CHECKPOINT_SOURCE: {shown} 를 읽지 못했다: {why}") <$> (FileQuestion.list sourceDir).ask

/-- No more than what is left of the cap is read of each file. -/
def stageWithinBudget (sourceDir : DiskPath) (cap : UInt64) :
    UInt64 → StagedCheckpoint → List String → FileDialogue (Except SharedError StagedCheckpoint)
  | _, staged, [] => pure (.ok staged)
  | used, staged, name :: rest =>
      (readSourceFile sourceDir name (cap.saturatingSub used)).andThen fun data =>
        (Except.mapError (SharedError.staging name) <$> staged.stage codec name data).andThen fun staged =>
          stageWithinBudget sourceDir cap (used.saturatingAdd (UInt64.ofNat data.length)) staged rest

/-- In the order of their names: the root digest depends on it. -/
def sortNames (names : List String) : List String := names.mergeSort fun first second => first ≤ second

def stageAndCommit (root : DiskPath) (checkpointId : String) (sourceDir : DiskPath) (about : ManifestMeta)
    (cap : UInt64) (names : List String) : FileDialogue (Except SharedError CommittedCheckpoint) :=
  (Except.mapError SharedError.beginning <$> StagedCheckpoint.begin root checkpointId).andThen fun begun =>
    (stageWithinBudget codec sourceDir cap 0 begun (sortNames names)).andThen fun staged =>
      Except.mapError SharedError.committing <$> staged.commit codec about

def publishDirectoryCapped (sharedRoot : DiskPath) (jobId checkpointId : String) (sourceDir : DiskPath)
    (about : ManifestMeta) (cap : UInt64) : FileDialogue (Except SharedError CommittedCheckpoint) :=
  match safeComponent checkpointId "checkpoint_id" with
  | .error error => pure (.error error)
  | .ok () =>
      (jobRoot sharedRoot jobId).andThen fun root =>
        (ensureNotLink (root ++ [checkpointId])).andThen fun _ =>
          (listSource sourceDir).andThen fun names =>
            (declareSources sourceDir cap 0 names).andThen fun _ =>
              let shown := pathText sourceDir
              if names = [] then pure (.error (.text s!"SHARED_CHECKPOINT_EMPTY: {shown} 에 파일이 없다"))
              else stageAndCommit codec root checkpointId sourceDir about cap names

end Publishing

section Encoding

/-- `char::to_digit`, of a byte. -/
def hexDigit (digit : UInt8) : Option Nat :=
  if 48 ≤ digit ∧ digit ≤ 57 then some (digit.toNat - 48)
  else if 97 ≤ digit ∧ digit ≤ 102 then some (digit.toNat - 87)
  else if 65 ≤ digit ∧ digit ≤ 70 then some (digit.toNat - 55)
  else none

/-- `u8::from_str_radix` of two characters: the first may be a sign. -/
def hexByte (first second : UInt8) : Option UInt8 :=
  match hexDigit first, hexDigit second with
  | some high, some low => some (UInt8.ofNat (16 * high + low))
  | none, some low => if first = 43 then some (UInt8.ofNat low) else none
  | _, none => none

def hexBytes : List UInt8 → Option (List UInt8)
  | first :: second :: rest => do
      let byte ← hexByte first second
      let bytes ← hexBytes rest
      pure (byte :: bytes)
  | _ => some []

/-- A cut inside of a character, which would panic, is an error here. -/
def hex32 (hex what : String) : Except SharedError (List UInt8) :=
  if hex.utf8ByteSize ≠ 64 then .error (.text s!"{what} 가 32바이트 hex 가 아니다")
  else
    match hexBytes (Bytes.utf8 hex) with
    | some bytes => .ok bytes
    | none => .error (.text s!"{what} 가 hex 가 아니다")

def fileToPb (file : CheckpointFile) : Except SharedError Protocol.CheckpointFile :=
  (hex32 file.digest "file digest").map fun value => ⟨file.path, some ⟨1, value⟩, file.sizeBytes, [], 0⟩

def filesToPb : List CheckpointFile → Except SharedError (List Protocol.CheckpointFile)
  | [] => .ok []
  | file :: rest => do
      let first ← fileToPb file
      let others ← filesToPb rest
      pure (first :: others)

/-- The manifest that is signed; the signature is filled in by the caller. -/
def toUnsignedPb (manifest : CheckpointManifest) : Except SharedError Protocol.CheckpointManifest := do
  let files ← filesToPb manifest.files
  let root ← hex32 manifest.rootDigest "root digest"
  pure {
    schemaVersion := 1
    checkpointId := manifest.checkpointId
    jobId := manifest.jobId
    attemptId := manifest.attemptId
    step := manifest.step
    epoch := 0
    files := files
    rootDigest := some ⟨1, root⟩
    totalBytes := manifest.totalBytes
    completeness := none
    createdAtUnixMs := manifest.createdAtUnixMs
    producerNodeId := manifest.producerNodeId
    fenceEpoch := manifest.fenceEpoch
    producerSignature := [] }

end Encoding

section Verifying

variable (codec : CheckpointCodec)

def verifyError (message : String) : SharedError := .text ("SHARED_CHECKPOINT_VERIFY: " ++ message)

/-- A digest of another algorithm is none. -/
def blake3Digest (digest : Option Protocol.Digest) : Option Protocol.Digest :=
  digest.filter fun digest => digest.algo = 1

def checkContent (file : Protocol.CheckpointFile) (data : List UInt8) : Except SharedError Unit :=
  let path := file.path
  let listed := file.sizeBytes
  let onDisk := data.length
  if UInt64.ofNat data.length ≠ file.sizeBytes then
    .error (verifyError s!"{path} 크기가 다르다(매니페스트 {listed} · 디스크 {onDisk})")
  else
    match blake3Digest file.digest with
    | none => .error (verifyError s!"{path} 의 digest 가 BLAKE3-256 이 아니다")
    | some digest =>
        if (codec.blake3 data).toList ≠ digest.value then
          .error (verifyError s!"{path} 내용이 매니페스트와 다르다")
        else if (rsplitOnce contentAddressMarker.toList file.path.toList).map Prod.snd ≠
            some (toHex digest.value).toList then
          .error (verifyError s!"{path} 의 이름 표식이 내용의 digest 와 다르다")
        else .ok ()

def verifySharedFile (dir : DiskPath) (file : Protocol.CheckpointFile) :
    FileDialogue (Except SharedError (String × List UInt8)) :=
  let path := file.path
  match logicalNameOf file.path with
  | none => pure (.error (verifyError s!"{path} 는 내용 주소 이름이 아니다"))
  | some logical =>
      (Except.mapError (tooLargeMessage s!"SHARED_CHECKPOINT_VERIFY: {path} 를 읽지 못했다") <$>
        readBeneathCapped dir file.path file.sizeBytes).andThen fun data =>
          pure ((checkContent codec file data).map fun _ => (logical, data))

def verifySharedFiles (dir : DiskPath) :
    List Protocol.CheckpointFile → FileDialogue (Except SharedError (List (String × List UInt8)))
  | [] => pure (.ok [])
  | file :: rest =>
      (verifySharedFile codec dir file).andThen fun content =>
        Except.map (content :: ·) <$> verifySharedFiles dir rest

def totalOf (sizes : List UInt64) : UInt64 := sizes.foldl UInt64.saturatingAdd 0

/-- What can be checked when all files were read. -/
def checkWhole (manifest : Protocol.CheckpointManifest) (contents : List (String × List UInt8)) :
    Except SharedError Unit :=
  let total := totalOf (contents.map fun content => UInt64.ofNat content.2.length)
  let listed := manifest.totalBytes
  if total ≠ manifest.totalBytes then
    .error (verifyError s!"전체 크기가 다르다(매니페스트 {listed} · 디스크 {total})")
  else
    match Protocol.merkleRoot codec.blake3 (contents.map Prod.snd) with
    | none => .error (verifyError "머클 루트를 계산할 수 없다")
    | some root =>
        match blake3Digest manifest.rootDigest with
        | none => .error (verifyError "root_digest 가 BLAKE3-256 이 아니다")
        | some expected =>
            if root.toList ≠ expected.value then .error (verifyError "머클 루트가 다르다") else .ok ()

/-- The logical names and contents, in the order of the manifest. -/
def verifyOnDiskCapped (sharedRoot : DiskPath) (manifest : Protocol.CheckpointManifest) (cap : UInt64) :
    FileDialogue (Except SharedError (List (String × List UInt8))) :=
  match safeComponent manifest.checkpointId "checkpoint_id" with
  | .error error => pure (.error error)
  | .ok () =>
      (jobRoot sharedRoot manifest.jobId).andThen fun root =>
        let dir := root ++ [manifest.checkpointId]
        (ensureNotLink dir).andThen fun _ =>
          let declared := max manifest.totalBytes (totalOf (manifest.files.map Protocol.CheckpointFile.sizeBytes))
          let id := manifest.checkpointId
          if manifest.files = [] then pure (.error (verifyError "파일이 없는 매니페스트다"))
          else if cap < declared then
            pure (.error (.text (s!"SHARED_CHECKPOINT_TOO_LARGE: {id} 의 크기가 {declared} 바이트로 상한({cap})을 넘는다" ++
              " — 읽지 않는다")))
          else
            (verifySharedFiles codec dir manifest.files).andThen fun contents =>
              pure ((checkWhole codec manifest contents).map fun _ => contents)

def verifyOnDisk (sharedRoot : DiskPath) (manifest : Protocol.CheckpointManifest) :
    FileDialogue (Except SharedError (List (String × List UInt8))) :=
  verifyOnDiskCapped codec sharedRoot manifest maxInMemoryCheckpointBytes

end Verifying

section Recovering

variable (codec : CheckpointCodec)

def recoverError (why : String) : SharedError := .text s!"SHARED_CHECKPOINT_RECOVER: {why}"

/-- The files of the source folder, in the order in which they are listed. -/
def readSource (sourceDir : DiskPath) (cap : UInt64) :
    UInt64 → List String → FileDialogue (Except SharedError (List (String × List UInt8)))
  | _, [] => pure (.ok [])
  | used, name :: rest =>
      (readSourceFile sourceDir name (cap.saturatingSub used)).andThen fun data =>
        Except.map ((name, data) :: ·) <$>
          readSource sourceDir cap (used.saturatingAdd (UInt64.ofNat data.length)) rest

/-- By names, then by contents. -/
def contentOrder : String × List UInt8 → String × List UInt8 → Ordering :=
  compareLex (compareOn Prod.fst) (compareOn Prod.snd)

def sortContents (contents : List (String × List UInt8)) : List (String × List UInt8) :=
  contents.mergeSort fun first second => (contentOrder first second).isLE

/-- The manifest is the one that is to be published. -/
def isRequested (checkpointId : String) (about : ManifestMeta) (manifest : CheckpointManifest) : Bool :=
  manifest.checkpointId = checkpointId && manifest.jobId = about.jobId && manifest.attemptId = about.attemptId &&
    manifest.step = about.step && manifest.fenceEpoch = about.fenceEpoch &&
    manifest.producerNodeId = about.producerNodeId

/-- The folder has what was committed before. -/
def compareSource (checkpointId : String) (sourceDir : DiskPath) (cap : UInt64) (manifest : CheckpointManifest)
    (onDisk : List (String × List UInt8)) : FileDialogue (Except SharedError CheckpointManifest) :=
  let shown := pathText sourceDir
  (Except.mapError (fun failure =>
    let why := failure.why
    recoverError s!"{shown}: {why}") <$> (FileQuestion.list sourceDir).ask).andThen fun names =>
      (readSource sourceDir cap 0 names).andThen fun source =>
        if sortContents source ≠ sortContents onDisk then
          pure (.error (recoverError s!"{checkpointId} 의 확정본이 지금 폴더 내용과 다르다 — 서명하지 않는다"))
        else pure (.ok manifest)

/-- What is committed already is only given back when it is what would be published now. -/
def recoverCommitted (sharedRoot : DiskPath) (jobId checkpointId : String) (sourceDir : DiskPath)
    (about : ManifestMeta) (cap : UInt64) : FileDialogue (Except SharedError CheckpointManifest) :=
  (jobRoot sharedRoot jobId).andThen fun root =>
    (Except.mapError (fun failure =>
      let why := failure.why
      recoverError s!"manifest.json 을 읽지 못했다: {why}") <$>
        readBeneath (root ++ [checkpointId]) manifestFilename).andThen fun json =>
          match codec.fromJson json with
          | .error why =>
              let shown := debugQuoted why
              pure (.error (recoverError s!"manifest.json 해석 실패: Manifest({shown})"))
          | .ok manifest =>
              if !isRequested checkpointId about manifest then
                pure (.error (recoverError s!"{checkpointId} 는 이미 **다른** 확정 체크포인트다 — 서명하지 않는다"))
              else
                match toUnsignedPb manifest with
                | .error error => pure (.error error)
                | .ok unsigned =>
                    (verifyOnDiskCapped codec sharedRoot unsigned cap).andThen fun onDisk =>
                      compareSource checkpointId sourceDir cap manifest onDisk

def publishOrRecoverCapped (sharedRoot : DiskPath) (jobId checkpointId : String) (sourceDir : DiskPath)
    (about : ManifestMeta) (cap : UInt64) : FileDialogue (Except SharedError CheckpointManifest) := do
  match ← publishDirectoryCapped codec sharedRoot jobId checkpointId sourceDir about cap with
  | .ok committed => pure (.ok committed.manifest)
  | .error (.beginning (.alreadyCommitted _)) =>
      recoverCommitted codec sharedRoot jobId checkpointId sourceDir about cap
  | .error error => pure (.error error)

def publishOrRecover (sharedRoot : DiskPath) (jobId checkpointId : String) (sourceDir : DiskPath)
    (about : ManifestMeta) : FileDialogue (Except SharedError CheckpointManifest) :=
  publishOrRecoverCapped codec sharedRoot jobId checkpointId sourceDir about maxInMemoryCheckpointBytes

def signedManifestSuffix : String := ".checkpoint.pb"

/-- The signed manifest, beside the directory of its checkpoint. -/
def writeSignedManifest (sharedRoot : DiskPath) (jobId checkpointId : String) (signedBody : List UInt8) :
    FileDialogue (Except SharedError Unit) :=
  match safeComponent checkpointId "checkpoint_id" with
  | .error error => pure (.error error)
  | .ok () =>
      (jobRoot sharedRoot jobId).andThen fun root =>
        (Except.mapError (fun failure =>
          let why := failure.why
          .text s!"SHARED_CHECKPOINT_ROOT: {why}") <$> (FileQuestion.createFolders root).ask).andThen fun _ =>
            (ensureNotLink (root ++ [checkpointId ++ signedManifestSuffix])).andThen fun _ =>
              Except.mapError SharedError.signing <$>
                (Except.map (fun _ => ()) <$> writeOnce root (checkpointId ++ signedManifestSuffix) signedBody)

end Recovering

section Restoring

variable (codec : CheckpointCodec)

def restoreError (why : String) : SharedError := .text s!"SHARED_CHECKPOINT_RESTORE: {why}"

/-- `fs::write`. -/
def writeFile (path : DiskPath) (data : List UInt8) (failed : String → SharedError) :
    FileDialogue (Except SharedError Unit) :=
  (Except.mapError (fun failure => failed failure.why) <$> (FileQuestion.create path).ask).andThen fun _ =>
    Except.mapError (fun failure => failed failure.why) <$> (FileQuestion.writeAll path data).ask

def restoreFile (dest : DiskPath) (logical : String) (data : List UInt8) :
    FileDialogue (Except SharedError Unit) :=
  match safeComponent logical "file name" with
  | .error error => pure (.error error)
  | .ok () => writeFile (joinName dest logical) data fun why => restoreError s!"{logical}: {why}"

def restoreFiles (dest : DiskPath) : List (String × List UInt8) → FileDialogue (Except SharedError Unit)
  | [] => pure (.ok ())
  | (logical, data) :: rest => (restoreFile dest logical data).andThen fun _ => restoreFiles dest rest

/-- The folder that is restored into is made, and must be empty. -/
def emptyDestination (dest : DiskPath) : FileDialogue (Except SharedError Unit) :=
  let shown := pathText dest
  (Except.mapError (fun failure => restoreError failure.why) <$> (FileQuestion.createFolders dest).ask).andThen
    fun _ => (Except.mapError (fun failure => restoreError failure.why) <$> (FileQuestion.list dest).ask).andThen
      fun names =>
        if names = [] then pure (.ok ())
        else pure (.error (restoreError s!"{shown} 가 비어 있지 않다 — 섞지 않는다"))

def restore (sharedRoot : DiskPath) (manifest : Protocol.CheckpointManifest) (dest : DiskPath) :
    FileDialogue (Except SharedError Unit) :=
  (verifyOnDisk codec sharedRoot manifest).andThen fun contents =>
    (emptyDestination dest).andThen fun _ => restoreFiles dest contents

end Restoring

end Gputeer.Checkpoint
