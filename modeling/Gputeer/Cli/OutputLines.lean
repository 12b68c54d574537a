import Gputeer.Lib.Lines
import Gputeer.Lib.LossyUtf8
import Gputeer.Lib.Text

/-! What an agent round prints is read a line at a time, each kept up to a limit, as it arrives. -/

namespace Gputeer.AgentLoop

open Lines LossyUtf8

def maxLineBytes : Nat := 64 * 1024

def incidentNotRecorded : String := "CONTAINER_INCIDENT_NOT_RECORDED"

def runLedgerFatal : String := "RUN_LEDGER_FATAL"

def forwardedPrefixes : List String :=
  [incidentNotRecorded, runLedgerFatal, "CONTAINER_INCIDENT_RECORDED", "CONTAINER_INCIDENT_OPEN",
    "CONTAINER_INCIDENT_UNKNOWN", "CONTAINER_NOT_REMOVED", "CONTAINER_KEPT_FOR_LOGS", "CONTAINER_LEFTOVER",
    "WORKLOAD_DIR_KEPT", "WORKLOAD_MAY_BE_RUNNING", "ACK_RECEIPT_VERIFIED", "OWNER_STOPPED", "RESUME_PREPARED",
    "CHECKPOINT_PUBLISHED", "CHECKPOINT_PUBLISH_FAILED", "ATTEMPT_REPORT_ACKNOWLEDGED", "RESUME_REFUSED"]

structure RoundLines where
  worked : Bool
  workloadResult : Option String
  incidentNotRecorded : Option String
  ledgerFatal : Option String
  lastNonempty : Option String
  cutLines : Nat
  deriving DecidableEq

def RoundLines.empty : RoundLines :=
  { worked := false, workloadResult := none, incidentNotRecorded := none, ledgerFatal := none, lastNonempty := none,
    cutLines := 0 }

def startsWith (line start : String) : Bool := start.toList.isPrefixOf line.toList

/-- The first line with a beginning is kept. -/
def keepFirst (kept : Option String) (line start : String) : Option String :=
  if kept.isNone && startsWith line start then some line else kept

/-- What one line changes, and what of it is forwarded. -/
def RoundLines.take (lines : RoundLines) (line : String) : RoundLines × List String :=
  ({ lines with
      worked := lines.worked || Text.occurs "WORKLOAD_RESULT" line
      workloadResult := keepFirst lines.workloadResult line "WORKLOAD_RESULT"
      incidentNotRecorded := keepFirst lines.incidentNotRecorded line AgentLoop.incidentNotRecorded
      ledgerFatal := keepFirst lines.ledgerFatal line runLedgerFatal
      lastNonempty := if Text.trim line ≠ "" then some line else lines.lastNonempty },
    if forwardedPrefixes.any (startsWith line ·) then [line] else [])

/-- What one reading of the source gives; an empty piece is its end. -/
inductive ReadEvent (ε : Type) where
  | piece (bytes : List UInt8)
  | interrupted
  | failed (error : ε)

/-- What a reader still hands out. The first piece is what is left in its buffer. -/
abbrev BufReader (ε : Type) := List (ReadEvent ε)

def newline : UInt8 := 10

section Reading

variable {ε : Type}

def consume (taken : Nat) (available : List UInt8) (rest : BufReader ε) : BufReader ε :=
  if available.drop taken = [] then rest else .piece (available.drop taken) :: rest

/-- What was read of a line: what is kept of it, how many bytes it had, and whether one of them was left out. -/
structure Partial where
  line : List UInt8
  consumed : Nat
  cut : Bool

def Partial.start : Partial := ⟨[], 0, false⟩

def Partial.extend (read : Partial) (available : List UInt8) (taken : Nat) : Partial :=
  let room := maxLineBytes - read.line.length
  { line := read.line ++ available.take (min taken room)
    consumed := read.consumed + taken
    cut := read.cut || decide (room < taken) }

def readLineCapped (read : Partial) : BufReader ε → Except ε (Partial × BufReader ε)
  | [] => .ok (read, [])
  | .interrupted :: rest => readLineCapped read rest
  | .failed error :: _ => .error error
  | .piece available :: rest =>
      if available = [] then .ok (read, rest)
      else
        match available.findIdx? (· = newline) with
        | some index => .ok (read.extend available (index + 1), consume (index + 1) available rest)
        | none => readLineCapped (read.extend available available.length) rest

/-- How much a reader can still give. -/
def unread : BufReader ε → Nat
  | [] => 0
  | .piece bytes :: rest => bytes.length + 1 + unread rest
  | .interrupted :: rest => 1 + unread rest
  | .failed _ :: rest => 1 + unread rest

theorem unread_consume (taken : Nat) (available : List UInt8) (rest : BufReader ε) :
    unread (consume taken available rest) ≤ available.length - taken + 1 + unread rest := by
  unfold consume
  split
  · omega
  · rw [unread, List.length_drop]

theorem unread_readLineCapped {read after : Partial} {reader rest : BufReader ε}
    (isRead : readLineCapped read reader = .ok (after, rest)) :
    unread rest ≤ unread reader ∧ (read.consumed < after.consumed → unread rest < unread reader) := by
  induction reader generalizing read with
  | nil =>
      obtain ⟨rfl, rfl⟩ := Prod.mk.inj (Except.ok.inj isRead)
      exact ⟨le_refl _, fun more => absurd more (lt_irrefl _)⟩
  | cons event events ih =>
      cases event with
      | interrupted =>
          have later := ih isRead
          simp only [unread]
          omega
      | failed error => cases isRead
      | piece available =>
          rw [readLineCapped] at isRead
          simp only [unread]
          split at isRead
          · obtain ⟨rfl, rfl⟩ := Prod.mk.inj (Except.ok.inj isRead)
            omega
          · split at isRead
            · next index found =>
              obtain ⟨rfl, rfl⟩ := Prod.mk.inj (Except.ok.inj isRead)
              have inside := (List.findIdx?_eq_some_iff_findIdx_eq.mp found).1
              have left := unread_consume (index + 1) available events
              omega
            · have later := ih isRead
              omega

def isLineEnd (c : Char) : Bool := c = '\n' || c = '\r'

/-- The text of the bytes kept of a line. -/
def lineText (line : List UInt8) : String := String.ofList ((fromUtf8Lossy line).rdropWhile isLineEnd)

/-- What one line that was read changes. -/
def takeLine (line : List UInt8) (cut : Bool) (state : RoundLines × List String) : RoundLines × List String :=
  let lines := if cut then { state.1 with cutLines := state.1.cutLines + 1 } else state.1
  let taken := lines.take (lineText line)
  (taken.1, state.2 ++ taken.2)

def scanLines (state : RoundLines × List String) (reader : BufReader ε) : Except ε Unit × RoundLines × List String :=
  match _isRead : readLineCapped .start reader with
  | .error error => (.error error, state)
  | .ok (read, rest) =>
      if _some : read.consumed = 0 then (.ok (), state)
      else scanLines (takeLine read.line read.cut state) rest
  termination_by unread reader
  decreasing_by exact (unread_readLineCapped _isRead).2 (Nat.pos_of_ne_zero _some)

end Reading

end Gputeer.AgentLoop
