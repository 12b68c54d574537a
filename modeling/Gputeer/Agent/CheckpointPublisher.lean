import Mathlib.Algebra.Order.Ring.Nat
import Mathlib.Data.Finset.Insert
import Mathlib.Data.List.Sort
import Gputeer.Lib.Text
import Gputeer.Lib.Trace

/-! The publisher of the checkpoints a workload leaves while it runs: scans of its output folder, the last tries when it
has ended, and what is reported as lost. -/

namespace Gputeer.CheckpointPublisher

structure PublishContext where
  jobId : String
  attemptId : String

/-- What follows `step-` in a name, if it is digits. -/
def stepDigits (name : String) : Option (List Char) :=
  if "step-".toList.isPrefixOf name.toList then
    let digits := name.toList.drop 5
    if digits = [] ∨ digits.all Char.isDigit = false then none else some digits
  else none

def stepOf (name : String) : Option Nat := (stepDigits name).bind (Text.parseBelow (2 ^ 64))

def checkpointIdFor (attemptId : String) (step : Nat) : String := s!"{attemptId}-step-{step}"

abbrev Files := List (String × List UInt8)

/-- Name, size and modification time of each file. -/
abbrev Fingerprint := List (String × Nat × Option Nat)

structure PublishState where
  published : Finset Nat
  seen : Nat → Option Fingerprint
  conflictsReported : Finset Nat

def PublishState.default : PublishState := ⟨∅, fun _ => none, ∅⟩

/-- A write that does not succeed may have been made all the same. -/
structure WriteFault where
  detail : String
  landed : Bool

/-- A place that is written once: what is there already may be written again, nothing else. -/
def writeOnce (there : Option Files) (content : Files) (refusal : String) (fault : Option WriteFault) :
    Except String Unit × Option Files :=
  match there, fault with
  | none, none => (.ok (), some content)
  | none, some fault => (.error fault.detail, if fault.landed then some content else none)
  | some old, none => (if old = content then .ok () else .error refusal, some old)
  | some old, some fault => (.error fault.detail, some old)

/-- The checkpoints of one attempt in the shared store by their number: what is committed, and what the signed manifest
restores to. -/
structure SharedStore where
  committed : Nat → Option Files
  signed : Nat → Option Files

structure DirEntry where
  name : String
  isDir : Bool

inductive ReadDirError where
  | notFound
  | other (detail : String)

/-- What reading the output folder gives; an entry, or its type, may be unreadable by itself. -/
abbrev Listing := Except ReadDirError (List (Except String DirEntry))

/-- A folder that is complete under its name. -/
structure Folder where
  name : String
  files : Files

/-- What one scan meets. -/
structure ScanReads where
  listing : Listing
  fingerprint : String → Option Fingerprint
  committing : Nat → Option WriteFault
  signing : Nat → Option WriteFault

/-- What the publisher prints. -/
inductive Report where
  | scanError (detail : String)
  | nameConflict (step : Nat)
  | published (checkpointId : String) (step : Nat)
  | publishFailed (step : Nat) (detail : String)
  | panicked
  | lost (step : Nat)
  | lostUnknown (detail : String)
  deriving DecidableEq

def finalTries : Nat := 6

/-- What a scan changes. -/
structure Scanner where
  state : PublishState
  store : SharedStore
  printed : List Report

def Scanner.say (scanner : Scanner) (reports : List Report) : Scanner :=
  { scanner with printed := scanner.printed ++ reports }

/-- The number and the name of an entry that is a folder of a step. -/
def listedStep : Except String DirEntry → Option (Nat × String)
  | .ok entry => if entry.isDir then (stepOf entry.name).map (·, entry.name) else none
  | .error _ => none

def listedSteps (listing : Listing) : List (Nat × String) :=
  match listing with
  | .ok entries => entries.filterMap listedStep
  | .error _ => []

section Scan

variable (ctx : PublishContext) (folders : List Folder) (reads : ScanReads)

def scanError : Except String DirEntry → Option Report
  | .ok _ => none
  | .error detail => some (.scanError detail)

def scanErrors (listing : Listing) : List Report :=
  match listing with
  | .ok entries => entries.filterMap scanError
  | .error _ => []

/-- Whether a number stands for one folder of the listing. -/
def isAlone (all : List (Nat × String)) (step : Nat) : Bool := all.countP (·.1 = step) ≤ 1

/-- A number that several folders have is reported once. -/
def reportConflict (all : List (Nat × String)) (scanner : Scanner) (entry : Nat × String) : Scanner :=
  if entry.1 ∈ scanner.state.published ∨ isAlone all entry.1 ∨ entry.1 ∈ scanner.state.conflictsReported then scanner
  else
    { scanner with
      state := { scanner.state with conflictsReported := insert entry.1 scanner.state.conflictsReported } }.say
      [.nameConflict entry.1]

/-- The folders that may be published, by their number. -/
def readySteps (all : List (Nat × String)) (published : Finset Nat) : List (Nat × String) :=
  (all.filter fun entry => entry.1 ∉ published ∧ isAlone all entry.1).insertionSort fun first second =>
    first.1 ≤ second.1

def filesOf (name : String) : Option Files := (folders.find? (·.name = name)).map (·.files)

/-- Commits the files of a folder, or finds them committed. -/
def publishOrRecover (step : Nat) (name : String) (store : SharedStore) : Except String Files × SharedStore :=
  match filesOf folders name with
  | none => (.error s!"SHARED_CHECKPOINT_SOURCE: {name}", store)
  | some files =>
      let commit := writeOnce (store.committed step) files
        s!"SHARED_CHECKPOINT_RECOVER: {checkpointIdFor ctx.attemptId step} 의 확정본이 지금 폴더 내용과 다르다 — 서명하지 않는다"
        (reads.committing step)
      (commit.1.map fun _ => files, { store with committed := Function.update store.committed step commit.2 })

/-- Signs what is committed. -/
def writeSignedManifest (step : Nat) (files : Files) (store : SharedStore) : Except String Unit × SharedStore :=
  let sign := writeOnce (store.signed step) files "SHARED_CHECKPOINT_SIGNED_MANIFEST: Conflict" (reads.signing step)
  (sign.1, { store with signed := Function.update store.signed step sign.2 })

def publishOne (step : Nat) (name : String) (store : SharedStore) : Except String String × SharedStore :=
  let commit := publishOrRecover ctx folders reads step name store
  match commit.1 with
  | .error error => (.error error, commit.2)
  | .ok files =>
      let sign := writeSignedManifest reads step files commit.2
      (sign.1.map fun _ => checkpointIdFor ctx.attemptId step, sign.2)

def publishStep (scanner : Scanner) (entry : Nat × String) : Scanner :=
  let result := publishOne ctx folders reads entry.1 entry.2 scanner.store
  match result.1 with
  | .ok checkpointId =>
      { scanner with
        store := result.2
        state := { scanner.state with
          published := insert entry.1 scanner.state.published
          seen := Function.update scanner.state.seen entry.1 none } }.say
        [.published checkpointId entry.1]
  | .error detail => { scanner with store := result.2 }.say [.publishFailed entry.1 detail]

/-- While the workload runs, a folder is published when it looks as it did when it was last looked at. -/
def offerStep (requireStable : Bool) (scanner : Scanner) (entry : Nat × String) : Scanner :=
  if requireStable then
    match reads.fingerprint entry.2 with
    | none => scanner
    | some now =>
        let looked := { scanner with
          state := { scanner.state with seen := Function.update scanner.state.seen entry.1 (some now) } }
        if scanner.state.seen entry.1 = some now then publishStep ctx folders reads looked entry else looked
  else publishStep ctx folders reads scanner entry

def publishReadySteps (requireStable : Bool) (scanner : Scanner) : Scanner :=
  let all := listedSteps reads.listing
  let reported := all.foldl (reportConflict all) (scanner.say (scanErrors reads.listing))
  (readySteps all scanner.state.published).foldl (offerStep ctx folders reads requireStable) reported

end Scan

/-- The numbers that are not published, or why that is not known. -/
def unpublishedSteps (listing : Listing) (state : PublishState) : Except String (List Nat) :=
  match listing with
  | .error .notFound => .ok []
  | .error (.other detail) => .error detail
  | .ok entries => do
      let entries ← entries.mapM id
      let left := (entries.filterMap fun entry => listedStep (.ok entry)).map Prod.fst
      return ((left.filter (· ∉ state.published)).insertionSort (· ≤ ·)).dedup

/-- Whether the last tries are over, and what is reported then. -/
def judgeTry (attempt : Nat) (left : Except String (List Nat)) : Bool × List Report :=
  match left with
  | .ok [] => (true, [])
  | .ok left => if attempt = finalTries then (true, left.map .lost) else (false, [])
  | .error detail => if attempt = finalTries then (true, [.lostUnknown detail]) else (false, [])

inductive Phase where
  | running
  /-- The number of the try, and whether its scan is done. -/
  | finishing (attempt : Nat) (scanned : Bool)
  | returned
  deriving DecidableEq

/-- The publisher of one attempt with the output folder it reads. -/
structure Publisher where
  folders : List Folder
  scanner : Scanner
  phase : Phase

def Publisher.start : Publisher :=
  { folders := [], scanner := ⟨.default, ⟨fun _ => none, fun _ => none⟩, []⟩, phase := .running }

inductive Event where
  | appear (folder : Folder)
  | scan (reads : ScanReads)
  | finish (panicked : Bool)
  | lastScan (reads : ScanReads)
  | lastListing (listing : Listing)

def step (ctx : PublishContext) (publisher : Publisher) (event : Event) : Publisher :=
  match event, publisher.phase with
  | .appear _, .returned => publisher
  | .appear folder, _ => { publisher with folders := publisher.folders ++ [folder] }
  | .scan reads, .running =>
      { publisher with scanner := publishReadySteps ctx publisher.folders reads true publisher.scanner }
  | .finish panicked, .running =>
      { publisher with
        phase := .finishing 1 false
        scanner := if panicked then { publisher.scanner with state := .default }.say [.panicked]
          else publisher.scanner }
  | .lastScan reads, .finishing attempt false =>
      { publisher with
        phase := .finishing attempt true
        scanner := publishReadySteps ctx publisher.folders reads false publisher.scanner }
  | .lastListing listing, .finishing attempt true =>
      let judged := judgeTry attempt (unpublishedSteps listing publisher.scanner.state)
      { publisher with
        phase := if judged.1 then .returned else .finishing (attempt + 1) false
        scanner := publisher.scanner.say judged.2 }
  | _, _ => publisher

abbrev run (ctx : PublishContext) (events : List Event) : Publisher :=
  Trace.run (step ctx) .start events

end Gputeer.CheckpointPublisher
