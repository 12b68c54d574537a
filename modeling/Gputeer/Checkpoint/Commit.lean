import Gputeer.Checkpoint.Writer
import Gputeer.Protocol.Merkle

/-! Checkpoints that are written file by file, under names that hold the hash of the content. The manifest
comes last, after every file was read again. -/

namespace Gputeer.Checkpoint

open Dialogue Text

def contentAddressMarker : String := ".b3-"

inductive CommitError where
  | unsafeCheckpointId (id reason : String)
  | unsafeLogicalName (name reason : String)
  | duplicateLogicalName (name stored : String)
  | dataFile (stored : String) (source : CheckpointError)
  | stagedFileUnreadable (stored : String) (source : ReadFailure)
  | stagedFileChanged (stored expected actual : String)
  | nothingStaged (checkpointId : String)
  | alreadyCommitted (checkpointId : String)
  | manifestWrite (source : CheckpointError)
  | marker (source : CheckpointError)
  | io (why : String)

structure StagedFile where
  logicalName : String
  storedName : String
  digest : String
  sizeBytes : UInt64
  /-- The same content was not there under this name. -/
  newlyWritten : Bool

structure ManifestMeta where
  jobId : String
  attemptId : String
  step : UInt64
  fenceEpoch : UInt64
  producerNodeId : String
  createdAtUnixMs : UInt64

structure CommittedCheckpoint where
  dir : DiskPath
  manifest : CheckpointManifest
  manifestNewlyWritten : Bool

section Names

/-- The parts before and after the last occurrence. -/
def rsplitOnce (part : List Char) : List Char → Option (List Char × List Char)
  | [] => if part = [] then some ([], []) else none
  | c :: rest =>
      match rsplitOnce part rest with
      | some (before, after) => some (c :: before, after)
      | none => if part <+: c :: rest then some ([], (c :: rest).drop part.length) else none

def isLowerHex (c : Char) : Bool := c.isDigit || ('a' ≤ c && c ≤ 'f')

/-- The name that a stored name was made of, if it was made here. -/
def logicalNameOf (storedName : String) : Option String :=
  match rsplitOnce contentAddressMarker.toList storedName.toList with
  | none => none
  | some (logical, digest) =>
      if logical = [] ∨ (String.ofList digest).utf8ByteSize ≠ 64 then none
      else if digest.all isLowerHex then some (String.ofList logical)
      else none

def validateLogicalName (name : String) : Except CommitError Unit :=
  match validateComponent name maxLogicalNameLen with
  | .error reason => .error (.unsafeLogicalName name reason)
  | .ok () =>
      if occurs contentAddressMarker name then
        .error (.unsafeLogicalName name ("'.b3-' 는 content-address 접미사 표식으로 예약돼 있다 — 논리 이름에 쓰면 " ++
          "저장 이름을 되돌릴 수 없다"))
      else .ok ()

def validateCheckpointId (id : String) : Except CommitError Unit :=
  (validateComponent id maxLogicalNameLen).mapError fun reason => .unsafeCheckpointId id reason

end Names

section Staging

variable (codec : CheckpointCodec)

/-- `StagedCheckpoint` -/
structure StagedCheckpoint where
  dir : DiskPath
  checkpointId : String
  staged : List StagedFile

def manifestPresent (dir : DiskPath) : FileDialogue (Except CommitError Bool) := do
  match ← readBeneath dir manifestFilename with
  | .ok _ => pure (.ok true)
  | .error .notFound => pure (.ok false)
  | .error failure => pure (.error (.io failure.why))

def marked (step : FileDialogue (Checked Unit)) : FileDialogue (Except CommitError Unit) :=
  Except.mapError CommitError.marker <$> step

def StagedCheckpoint.begin (root : DiskPath) (checkpointId : String) :
    FileDialogue (Except CommitError StagedCheckpoint) :=
  match validateCheckpointId checkpointId with
  | .error error => pure (.error error)
  | .ok () =>
      let dir := root ++ [checkpointId]
      (Except.mapError (fun failure => .io failure.why) <$> (FileQuestion.createFolders dir).ask).andThen
        fun _ => (manifestPresent dir).andThen fun present =>
          if present then pure (.error (.alreadyCommitted checkpointId))
          else (marked (recordInitialState dir)).andThen fun _ => pure (.ok ⟨dir, checkpointId, []⟩)

def storedName (logicalName : String) (data : List UInt8) : String :=
  logicalName ++ contentAddressMarker ++ codec.hash data

def StagedCheckpoint.stage (checkpoint : StagedCheckpoint) (logicalName : String) (data : List UInt8) :
    FileDialogue (Except CommitError StagedCheckpoint) :=
  match validateLogicalName logicalName with
  | .error error => pure (.error error)
  | .ok () =>
      match checkpoint.staged.find? fun file => file.logicalName = logicalName with
      | some previous => pure (.error (.duplicateLogicalName logicalName previous.storedName))
      | none =>
          let stored := storedName codec logicalName data
          (Except.mapError (CommitError.dataFile stored) <$>
            writeOnce checkpoint.dir stored data).andThen fun newlyWritten =>
              let file : StagedFile :=
                ⟨logicalName, stored, codec.hash data, UInt64.ofNat data.length, newlyWritten⟩
              pure (.ok { checkpoint with staged := checkpoint.staged ++ [file] })

/-- The staged files, read again; the hash of one that grew is taken without holding it. -/
def verifyStagedFile (dir : DiskPath) (file : StagedFile) :
    FileDialogue (Except CommitError (List UInt8)) := do
  let unreadable (failure : ReadFailure) : CommitError := .stagedFileUnreadable file.storedName failure
  let changed (actual : String) : CommitError := .stagedFileChanged file.storedName file.digest actual
  match ← readBeneathCapped dir file.storedName file.sizeBytes with
  | .error (.fileTooLarge _) =>
      (Except.mapError unreadable <$> readBeneath dir file.storedName).andThen fun data =>
        pure (.error (changed (codec.hash data)))
  | .error failure => pure (.error (unreadable failure))
  | .ok data =>
      pure (if codec.hash data ≠ file.digest then .error (changed (codec.hash data)) else .ok data)

def verifyStagedFiles (dir : DiskPath) : List StagedFile → FileDialogue (Except CommitError (List (List UInt8)))
  | [] => pure (.ok [])
  | file :: rest =>
      (verifyStagedFile codec dir file).andThen fun data =>
        Except.map (data :: ·) <$> verifyStagedFiles dir rest

def StagedFile.toManifestFile (file : StagedFile) : CheckpointFile :=
  ⟨file.storedName, file.digest, file.sizeBytes⟩

def rootDigestOf (contents : List (List UInt8)) : String :=
  match Protocol.merkleRoot codec.blake3 contents with
  | some root => toHex root.toList
  | none => ""

def StagedCheckpoint.buildManifest (checkpoint : StagedCheckpoint) (about : ManifestMeta)
    (contents : List (List UInt8)) : CheckpointManifest where
  schemaVersion := 1
  checkpointId := checkpoint.checkpointId
  jobId := about.jobId
  attemptId := about.attemptId
  step := about.step
  files := checkpoint.staged.map StagedFile.toManifestFile
  rootDigest := rootDigestOf codec contents
  totalBytes := (checkpoint.staged.map StagedFile.sizeBytes).sum
  createdAtUnixMs := about.createdAtUnixMs
  producerNodeId := about.producerNodeId
  fenceEpoch := about.fenceEpoch

def writeManifest (dir : DiskPath) (manifest : CheckpointManifest) : FileDialogue (Except CommitError Bool) :=
  match codec.toJson manifest with
  | .error why => pure (.error (.manifestWrite (.manifest why)))
  | .ok json => Except.mapError CommitError.manifestWrite <$> writeOnce dir manifestFilename json

def StagedCheckpoint.commit (checkpoint : StagedCheckpoint) (about : ManifestMeta) :
    FileDialogue (Except CommitError CommittedCheckpoint) :=
  if checkpoint.staged = [] then pure (.error (.nothingStaged checkpoint.checkpointId))
  else
    (marked (recordStateTransition checkpoint.dir .writing .localWritten)).andThen fun _ =>
      (verifyStagedFiles codec checkpoint.dir checkpoint.staged).andThen fun contents =>
        let manifest := checkpoint.buildManifest codec about contents
        (writeManifest codec checkpoint.dir manifest).andThen fun newlyWritten =>
          (marked (recordStateTransition checkpoint.dir .localWritten .hashVerified)).andThen fun _ =>
            pure (.ok ⟨checkpoint.dir, manifest, newlyWritten⟩)

/-- The calls of `stage` one after another; one that fails adds nothing. -/
def stageFiles (checkpoint : StagedCheckpoint) : List (String × List UInt8) → FileDialogue StagedCheckpoint
  | [] => pure checkpoint
  | (name, data) :: rest => do
      match ← checkpoint.stage codec name data with
      | .ok checkpoint => stageFiles checkpoint rest
      | .error _ => stageFiles checkpoint rest

end Staging

end Gputeer.Checkpoint
