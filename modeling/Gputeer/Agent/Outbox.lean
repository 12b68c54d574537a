import Gputeer.Lib.Disk
import Gputeer.Lib.Except
import Gputeer.Protocol.AttemptReportRules
import Gputeer.Protocol.Signable

/-! The outbox of an Agent: the report of a finished run is kept in a file until the Coordinator has
acknowledged it. The directory may be shared with Agents of other nodes. -/

namespace Gputeer.Agent

open Protocol

/-- The encoding of a report, and the hash its name is made of. -/
structure ReportCodec where
  encode : AttemptReport → List UInt8
  decode : List UInt8 → Option AttemptReport
  blake3 : Blake3
  length_blake3 : ∀ bytes, (blake3 bytes).length = 32

/-- Of the configuration of an Agent: whose reports it sends, with which key, to whom, how often. An Agent
that is to send no report at all does not start. -/
structure OutboxAgent where
  agentDeviceId : String
  verifies : List UInt8 → List UInt8 → Bool
  coordinatorDeviceId : String
  reportSessionAttempts : UInt32
  attempts_pos : 0 < reportSessionAttempts

abbrev Outbox := Disk String (List UInt8)

section Names

def hexBytes (bytes : List UInt8) : String :=
  String.ofList (bytes.flatMap fun byte =>
    [hexDigit (byte.toNat / 16), hexDigit (byte.toNat % 16)])

def attemptReportHash (codec : ReportCodec) (report : AttemptReport) : List UInt8 :=
  codec.blake3 (signingInput report)

def reportStem (codec : ReportCodec) (report : AttemptReport) : String :=
  hexBytes ((attemptReportHash codec report).take 16)

def reportExtension : String := ".report"

def reportPath (codec : ReportCodec) (report : AttemptReport) : String :=
  reportStem codec report ++ reportExtension

def temporaryPath (codec : ReportCodec) (report : AttemptReport) : String :=
  reportStem codec report ++ ".report.tmp"

/-- `path.extension()` is `report`: there is a name before it. -/
def hasReportExtension (path : String) : Bool :=
  reportExtension.toList.isSuffixOf path.toList ∧ reportExtension.length < path.length

/-- `path.with_extension("report.rejected")`, of a path with the extension. -/
def rejectedPath (path : String) : String := path ++ ".rejected"

end Names

section Persist

variable (codec : ReportCodec) (report : AttemptReport)

/-- The steps of `persist_report_to_outbox`: create, write, sync, rename, sync the directory. -/
def persistSteps : List (Outbox → Outbox) :=
  [(·.write (temporaryPath codec report) []),
    (·.write (temporaryPath codec report) (codec.encode report)),
    (·.sync (temporaryPath codec report)),
    (·.rename (temporaryPath codec report) (reportPath codec report)),
    (·.syncDir)]

/-- A call that returned its path. -/
def persistReportToOutbox (outbox : Outbox) : Outbox :=
  (persistSteps codec report).foldl (fun outbox step => step outbox) outbox

/-- A call that failed or died after some of its steps; a write that was cut off left this. -/
def persistStopped (steps : Nat) (torn : Option (List UInt8)) (outbox : Outbox) : Outbox :=
  let reached := ((persistSteps codec report).take (min steps 4)).foldl (fun outbox step => step outbox)
    outbox
  match torn with
  | some content => if steps = 1 then reached.write (temporaryPath codec report) content else reached
  | none => reached

end Persist

section Session

/-- What comes back in a session: nothing, a frame that is refused before it is read as an answer, or a
verified acknowledgement, with the nonce that the session had sent. -/
inductive SessionAnswer where
  | failed
  | refused
  | acknowledgement (sessionNonce : List UInt8) (ack : AttemptReportAck)

inductive SessionError where
  | sessionFailed
  | ackRejected (detail : String)
  deriving DecidableEq

variable (codec : ReportCodec) (agent : OutboxAgent) (report : AttemptReport)

def verifyReportAck (ack : AttemptReportAck) (sessionNonce : List UInt8) : Except SessionError Unit := do
  Except.ensure (ack.sessionNonce = sessionNonce) (.ackRejected
    "session_nonce 가 이 세션의 Hello 와 다르다 — 다른 세션의 응답이다")
  Except.ensure (ack.coordinatorId = agent.coordinatorDeviceId) (.ackRejected
    s!"coordinator_id 불일치 — 기대값 {agent.coordinatorDeviceId}")
  Except.ensure ((ack.jobId, ack.attemptId, ack.nodeId, ack.fenceEpoch) =
      (report.jobId, report.attemptId, report.nodeId, report.fenceEpoch))
    (.ackRejected "job · attempt · node · 세대가 보낸 보고와 다르다")
  Except.ensure (ack.reportHash = some ⟨1, attemptReportHash codec report⟩) (.ackRejected
    ("report_hash 가 보낸 보고에서 다시 계산한 BLAKE3-256 과 다르다 — " ++
      "저장된 것이 보낸 보고라는 증거가 아니다"))

def reportSessionOnce : SessionAnswer → Except SessionError AttemptReportAck
  | .failed => .error .sessionFailed
  | .refused => .error (.ackRejected "받았다 응답을 검증하지 못했다")
  | .acknowledgement sessionNonce ack => do
      verifyReportAck codec agent report ack sessionNonce
      .ok ack

/-- The sessions from this attempt on: the first acknowledgement, unless one was rejected before it. -/
def sessions (answers : Nat → SessionAnswer) : Nat → Nat → Option AttemptReportAck
  | _, 0 => none
  | attempt, left + 1 =>
      match reportSessionOnce codec agent report (answers attempt) with
      | .ok ack => some ack
      | .error (.ackRejected _) => none
      | .error .sessionFailed => sessions answers (attempt + 1) left

/-- What happens at one file: whether it can be read, what the sessions bring, and whether the file can
be removed or renamed. -/
structure PathOutcome where
  readable : Bool
  answers : Nat → SessionAnswer
  removed : Bool
  renamed : Bool

/-- The file goes only after an acknowledgement. -/
def deliverOutboxedReport (path : String) (outcome : PathOutcome) (outbox : Outbox) : Outbox :=
  match sessions codec agent report outcome.answers 0 agent.reportSessionAttempts.toNat with
  | some _ => if outcome.removed then outbox.remove path else outbox
  | none => outbox

end Session

section Flush

inductive ReopenError where
  | unreadable
  | undecodable
  | foreignNode
  | unverified (fault : VerifyError)
  | ruleBroken (rule : ReportRuleError)
  deriving DecidableEq

/-- The keyring holds the one key of this Agent. -/
def OutboxAgent.verifier (agent : OutboxAgent) : SignatureVerifier := fun signerId message signature =>
  if signerId = agent.agentDeviceId then
    if agent.verifies message signature then .ok () else .error .invalidSignature
  else .error .unknownSigner

variable (codec : ReportCodec) (agent : OutboxAgent) (nowUnixMs : UInt64)

/-- `content` is what was read of the file, if it could be read. -/
def reopenOutboxedReport (content : Option (List UInt8)) : Except ReopenError AttemptReport := do
  let bytes ← Except.ofOption .unreadable content
  let report ← Except.ofOption .undecodable (codec.decode bytes)
  Except.ensure (report.nodeId = agent.agentDeviceId) .foreignNode
  let _ ← (verify codec.blake3 report attemptReportMaxSchemaVersion agent.verifier nowUnixMs
    NoReplayCheck.mk).1.mapError .unverified
  (validateAttemptReportSemantics report).mapError .ruleBroken
  .ok report

def readPath (outcome : PathOutcome) (path : String) (outbox : Outbox) : Option (List UInt8) :=
  if outcome.readable then outbox.visible[path]?.map (·.content) else none

/-- One file of the outbox: the outbox after it, and the report that was offered. Whatever keeps it from
being opened again renames it, unless it is of another node. -/
def flushPath (outcome : PathOutcome) (path : String) (outbox : Outbox) :
    Outbox × Option AttemptReport :=
  match reopenOutboxedReport codec agent nowUnixMs (readPath outcome path outbox) with
  | .error .foreignNode => (outbox, none)
  | .error _ => (if outcome.renamed then outbox.rename path (rejectedPath path) else outbox, none)
  | .ok report => (deliverOutboxedReport codec agent report path outcome outbox, some report)

def flushPaths (outcomes : String → PathOutcome) : List String → Outbox → Outbox × List AttemptReport
  | [], outbox => (outbox, [])
  | path :: rest, outbox =>
      let (next, offered) := flushPath codec agent nowUnixMs (outcomes path) path outbox
      let (last, others) := flushPaths outcomes rest next
      (last, offered.toList ++ others)

/-- How a flush goes: whether the directory is read, which of its entries are, how many of the files are
come to, and what happens at each. -/
structure FlushScript where
  nowUnixMs : UInt64
  listed : Bool
  entries : String → Bool
  reached : Nat
  outcomes : String → PathOutcome

def reportPaths (outbox : Outbox) : List String := outbox.visible.keys.filter hasReportExtension

def flushReportOutbox (script : FlushScript) (outbox : Outbox) : Outbox × List AttemptReport :=
  if script.listed then
    flushPaths codec agent script.nowUnixMs script.outcomes
      (((reportPaths outbox).filter script.entries).take script.reached) outbox
  else (outbox, [])

end Flush

/-- What happens to an outbox. A restart by itself changes nothing in it. -/
inductive OutboxEvent where
  | persisted (report : AttemptReport)
  | persistStopped (report : AttemptReport) (steps : Nat) (torn : Option (List UInt8))
  | delivered (agent : OutboxAgent) (report : AttemptReport) (outcome : PathOutcome)
  | flushed (agent : OutboxAgent) (script : FlushScript)
  | crashed (crash : Disk.Crash String (List UInt8))

def OutboxEvent.apply (codec : ReportCodec) (outbox : Outbox) : OutboxEvent → Outbox
  | persisted report => persistReportToOutbox codec report outbox
  | persistStopped report steps torn => Agent.persistStopped codec report steps torn outbox
  | delivered agent report outcome =>
      deliverOutboxedReport codec agent report (reportPath codec report) outcome outbox
  | flushed agent script => (flushReportOutbox codec agent script outbox).1
  | crashed crash => outbox.crash crash

end Gputeer.Agent
