import Gputeer.Agent.Outbox
import Gputeer.Lib.Trace

/-! A report stays in the outbox until it was acknowledged, as long as every flush can read its file. A
file that cannot be read once is put aside like one that breaks the rules, and never sent again. -/

namespace Gputeer.Agent

open Protocol

variable {codec : ReportCodec} {report other : AttemptReport} {agent : OutboxAgent} {outbox : Outbox}
  {outcome : PathOutcome} {path : String}

section Names

theorem toList_getLast?_append {start ending : String} {c : Char}
    (last : ending.toList.getLast? = some c) : (start ++ ending).toList.getLast? = some c := by
  rw [String.toList_append, List.getLast?_append, last, Option.some_or]

theorem getLast?_reportPath : (reportPath codec report).toList.getLast? = some 't' :=
  toList_getLast?_append (by decide)

theorem temporaryPath_ne_reportPath : temporaryPath codec other ≠ reportPath codec report := by
  intro same
  have ending : (temporaryPath codec other).toList.getLast? = some 'p' :=
    toList_getLast?_append (by decide)
  rw [same, getLast?_reportPath] at ending
  exact absurd ending (by decide)

theorem rejectedPath_ne_reportPath {path : String} : rejectedPath path ≠ reportPath codec report := by
  intro same
  have ending : (rejectedPath path).toList.getLast? = some 'd' :=
    toList_getLast?_append (by decide)
  rw [same, getLast?_reportPath] at ending
  exact absurd ending (by decide)

theorem hasReportExtension_reportPath : hasReportExtension (reportPath codec report) = true := by
  have hash := codec.length_blake3 (signingInput report)
  have stem : 0 < (reportStem codec report).length := by
    simp [reportStem, hexBytes, attemptReportHash, hash]
  simp [hasReportExtension, reportPath, String.toList_append, String.length_append, stem]

end Names

section Sessions

variable {answers : Nat → SessionAnswer} {ack : AttemptReportAck}

/-- An acknowledgement of this very report, for this session, from the Coordinator of the Agent. -/
structure AckMatches (codec : ReportCodec) (agent : OutboxAgent) (report : AttemptReport)
    (sessionNonce : List UInt8) (ack : AttemptReportAck) : Prop where
  nonce : ack.sessionNonce = sessionNonce
  coordinator : ack.coordinatorId = agent.coordinatorDeviceId
  job : ack.jobId = report.jobId
  attempt : ack.attemptId = report.attemptId
  node : ack.nodeId = report.nodeId
  epoch : ack.fenceEpoch = report.fenceEpoch
  hash : ack.reportHash = some ⟨1, attemptReportHash codec report⟩

theorem verifyReportAck_eq_ok {sessionNonce : List UInt8} {done : Unit}
    (verified : verifyReportAck codec agent report ack sessionNonce = .ok done) :
    AckMatches codec agent report sessionNonce ack := by
  simp only [verifyReportAck, Except.bind_eq_ok, Except.ensure_eq_ok, Prod.mk.injEq] at verified
  obtain ⟨_, nonce, _, coordinator, _, ⟨job, attempt, node, epoch⟩, hash⟩ := verified
  exact ⟨nonce, coordinator, job, attempt, node, epoch, hash⟩

theorem verifyReportAck_error {sessionNonce : List UInt8} {fault : SessionError}
    (failed : verifyReportAck codec agent report ack sessionNonce = .error fault) :
    ∃ detail, fault = .ackRejected detail := by
  simp only [verifyReportAck, Except.bind_eq_error, Except.ensure_eq_error] at failed
  rcases failed with ⟨_, rfl⟩ | ⟨_, _, ⟨_, rfl⟩ | ⟨_, _, ⟨_, rfl⟩ | ⟨_, _, _, rfl⟩⟩⟩
  all_goals exact ⟨_, rfl⟩

/-- One of the sessions that were held brought an acknowledgement that matches. -/
def Acknowledged (codec : ReportCodec) (agent : OutboxAgent) (report : AttemptReport)
    (answers : Nat → SessionAnswer) : Prop :=
  ∃ attempt sessionNonce ack, attempt < agent.reportSessionAttempts.toNat ∧
    (∀ earlier < attempt, answers earlier = .failed) ∧
    answers attempt = .acknowledgement sessionNonce ack ∧
    AckMatches codec agent report sessionNonce ack

theorem sessions_eq_some {start left : Nat}
    (brought : sessions codec agent report answers start left = some ack) :
    ∃ attempt sessionNonce, start ≤ attempt ∧ attempt < start + left ∧
      (∀ earlier, start ≤ earlier → earlier < attempt → answers earlier = .failed) ∧
      answers attempt = .acknowledgement sessionNonce ack ∧
      AckMatches codec agent report sessionNonce ack := by
  induction left generalizing start with
  | zero => cases brought
  | succ left ih =>
      cases answer : answers start with
      | failed =>
          simp only [sessions, answer, reportSessionOnce] at brought
          obtain ⟨attempt, nonce, after, below, failed, brings, found⟩ := ih brought
          refine ⟨attempt, nonce, by omega, by omega, fun earlier from_start before => ?_, brings, found⟩
          rcases Nat.eq_or_lt_of_le from_start with rfl | later
          · exact answer
          · exact failed earlier later before
      | refused =>
          simp [sessions, answer, reportSessionOnce] at brought
      | acknowledgement nonce given =>
          simp only [sessions, answer, reportSessionOnce] at brought
          cases verified : verifyReportAck codec agent report given nonce with
          | error fault =>
              obtain ⟨detail, rfl⟩ := verifyReportAck_error verified
              simp [verified, bind, Except.bind] at brought
          | ok done =>
              simp only [verified, bind, Except.bind, Option.some.injEq] at brought
              subst brought
              exact ⟨start, nonce, le_rfl, by omega, fun earlier from_start before => by omega, answer,
                verifyReportAck_eq_ok verified⟩

theorem sessions_eq_none (unacknowledged : ¬ Acknowledged codec agent report answers) :
    sessions codec agent report answers 0 agent.reportSessionAttempts.toNat = none := by
  cases brought : sessions codec agent report answers 0 agent.reportSessionAttempts.toNat with
  | none => rfl
  | some ack =>
      obtain ⟨attempt, nonce, _, below, failed, brings, found⟩ := sessions_eq_some brought
      rw [Nat.zero_add] at below
      exact absurd ⟨attempt, nonce, ack, below, fun earlier => failed earlier (Nat.zero_le _), brings,
        found⟩ unacknowledged

end Sessions

section Reopen

/-- A report of this Agent, signed with its key, that keeps the rules and that its bytes give back. -/
structure OwnReport (codec : ReportCodec) (agent : OutboxAgent) (report : AttemptReport) : Prop where
  node : report.nodeId = agent.agentDeviceId
  signed : agent.verifies (signingInput report) report.nodeSignature = true
  rules : validateAttemptReportSemantics report = .ok ()
  readsBack : codec.decode (codec.encode report) = some report

theorem schemaVersion_of_rules (rules : validateAttemptReportSemantics report = .ok ()) :
    report.schemaVersion = 1 ∨ report.schemaVersion = attemptReportMaxSchemaVersion := by
  unfold validateAttemptReportSemantics at rules
  split at rules
  · cases rules
  · split at rules
    · cases rules
    · split at rules
      · cases rules
      · split at rules
        · cases rules
        · split at rules
          · next first => exact Or.inl first
          · split at rules
            · next second => exact Or.inr second
            · cases rules

/-- Such a report is opened again at any time. -/
theorem OwnReport.reopens (own : OwnReport codec agent report) (nowUnixMs : UInt64) :
    reopenOutboxedReport codec agent nowUnixMs (some (codec.encode report)) = .ok report := by
  have schema : checkSchema report attemptReportMaxSchemaVersion = .ok () := by
    refine if_neg ?_
    have version : Signable.schemaVersion report = report.schemaVersion := rfl
    rw [version]
    rcases schemaVersion_of_rules own.rules with first | second
    · rw [first]
      decide
    · rw [second]
      decide
  have signature : checkSignature agent.verifier report = .ok () := by
    have signer : Signable.signerId report = agent.agentDeviceId := own.node
    have bytes : Signable.signatureBytes report = report.nodeSignature := rfl
    simp [checkSignature, OutboxAgent.verifier, signer, bytes, own.signed, Except.mapError]
  have checked : checkMessage codec.blake3 report attemptReportMaxSchemaVersion agent.verifier
      nowUnixMs = .ok () := by
    simp only [checkMessage, schema, signature, bind, Except.bind]
    rfl
  have verified : (verify codec.blake3 report attemptReportMaxSchemaVersion agent.verifier nowUnixMs
      NoReplayCheck.mk).1 = .ok ⟨report, report.nodeId, .notApplicable⟩ := by
    simp only [verify, checked]
    rfl
  simp only [reopenOutboxedReport, own.readsBack, own.rules, verified, Except.ofOption, Except.ensure,
    own.node, if_true, Except.mapError, bind, Except.bind]

theorem reopens_foreign (readsBack : codec.decode (codec.encode report) = some report)
    (foreign : report.nodeId ≠ agent.agentDeviceId) (nowUnixMs : UInt64) :
    reopenOutboxedReport codec agent nowUnixMs (some (codec.encode report)) = .error .foreignNode := by
  simp only [reopenOutboxedReport, readsBack, Except.ofOption, Except.ensure, foreign, if_false, bind,
    Except.bind]

end Reopen

section Steps

/-- A call that returned has anchored its report. -/
theorem persisted_anchored (outbox : Outbox) : (persistReportToOutbox codec report outbox).Anchored
    (reportPath codec report) (codec.encode report) :=
  Disk.replaced_anchored

/-- What keeps a report in its place while something is done to the outbox. -/
abbrev Kept (codec : ReportCodec) (report : AttemptReport) (outbox : Outbox) : Prop :=
  outbox.Anchored (reportPath codec report) (codec.encode report)

/-- Each step of another call touches the temporary file, or gives its own report its name. -/
theorem persistStopped_kept (kept : Kept codec report outbox)
    (sameName : reportPath codec other = reportPath codec report → other = report) (steps : Nat)
    (torn : Option (List UInt8)) : Kept codec report (persistStopped codec other steps torn outbox) := by
  have away : temporaryPath codec other ≠ reportPath codec report := temporaryPath_ne_reportPath
  have created : Kept codec report (outbox.write (temporaryPath codec other) []) := kept.write away
  have written : Kept codec report ((outbox.write (temporaryPath codec other) []).write
      (temporaryPath codec other) (codec.encode other)) := created.write away
  have synced := written.sync away
  have renamed : Kept codec report ((((outbox.write (temporaryPath codec other) []).write
      (temporaryPath codec other) (codec.encode other)).sync (temporaryPath codec other)).rename
        (temporaryPath codec other) (reportPath codec other)) := by
    refine synced.rename away fun same => ?_
    rw [sameName same]
    simp [Disk.sync, Disk.write, Disk.change, DirChange.apply]
  have reached : Kept codec report (((persistSteps codec other).take (min steps 4)).foldl
      (fun outbox step => step outbox) outbox) := by
    have cases : min steps 4 = 0 ∨ min steps 4 = 1 ∨ min steps 4 = 2 ∨ min steps 4 = 3 ∨
        min steps 4 = 4 := by
      omega
    rcases cases with none | one | two | three | four <;> simp only [*]
    · exact kept
    · exact created
    · exact written
    · exact synced
    · exact renamed
  unfold persistStopped
  cases torn with
  | none => exact reached
  | some content =>
      dsimp only
      split
      · exact reached.write away
      · exact reached

theorem persisted_kept (kept : Kept codec report outbox)
    (sameName : reportPath codec other = reportPath codec report → other = report) :
    Kept codec report (persistReportToOutbox codec other outbox) :=
  (persistStopped_kept kept sameName 4 none).syncDir

theorem delivered_kept (kept : Kept codec report outbox)
    (unacknowledged : path = reportPath codec report →
      ¬ Acknowledged codec agent other outcome.answers) :
    Kept codec report (deliverOutboxedReport codec agent other path outcome outbox) := by
  unfold deliverOutboxedReport
  by_cases same : path = reportPath codec report
  · rw [sessions_eq_none (unacknowledged same)]
    exact kept
  · split
    · split
      · exact kept.remove same
      · exact kept
    · exact kept

end Steps

section Flush

variable {nowUnixMs : UInt64}

/-- How a flush by this Agent has to go at the file of the report: the file is read, or at least not put
aside; it was signed with the key of the Agent whose report it is; and no session acknowledges it. -/
structure LeavesReport (codec : ReportCodec) (report : AttemptReport) (agent : OutboxAgent)
    (outcome : PathOutcome) : Prop where
  readable : outcome.readable = true ∨ outcome.renamed = false
  signed : report.nodeId = agent.agentDeviceId →
    agent.verifies (signingInput report) report.nodeSignature = true
  unacknowledged : report.nodeId = agent.agentDeviceId →
    ¬ Acknowledged codec agent report outcome.answers

variable {outcomes : String → PathOutcome} {paths : List String}

theorem readPath_of_kept (kept : Kept codec report outbox) (readable : outcome.readable = true) :
    readPath outcome (reportPath codec report) outbox = some (codec.encode report) := by
  rw [readPath, if_pos readable, kept.visible, Option.map_some]

theorem flushPath_kept (kept : Kept codec report outbox)
    (readsBack : codec.decode (codec.encode report) = some report)
    (rules : validateAttemptReportSemantics report = .ok ())
    (leaves : path = reportPath codec report → LeavesReport codec report agent outcome) :
    Kept codec report (flushPath codec agent nowUnixMs outcome path outbox).1 := by
  by_cases same : path = reportPath codec report
  · obtain ⟨readable, signed, unacknowledged⟩ := leaves same
    subst same
    unfold flushPath
    by_cases read : outcome.readable = true
    · rw [readPath_of_kept kept read]
      by_cases own : report.nodeId = agent.agentDeviceId
      · rw [OwnReport.reopens ⟨own, signed own, rules, readsBack⟩]
        exact delivered_kept kept fun _ => unacknowledged own
      · rw [reopens_foreign readsBack own]
        exact kept
    · have unreadable : readPath outcome (reportPath codec report) outbox = none := if_neg read
      rw [unreadable, readable.resolve_left read]
      exact kept
  · unfold flushPath
    split
    · exact kept
    · split
      · exact kept.rename same fun here => absurd here rejectedPath_ne_reportPath
      · exact kept
    · exact delivered_kept kept fun here => absurd here same

theorem flushPaths_kept (kept : Kept codec report outbox)
    (readsBack : codec.decode (codec.encode report) = some report)
    (rules : validateAttemptReportSemantics report = .ok ())
    (leaves : LeavesReport codec report agent (outcomes (reportPath codec report))) :
    Kept codec report (flushPaths codec agent nowUnixMs outcomes paths outbox).1 := by
  induction paths generalizing outbox with
  | nil => exact kept
  | cons path rest ih =>
      refine ih (flushPath_kept kept readsBack rules fun same => ?_)
      rw [same]
      exact leaves

/-- The Agent whose report it is offers it when it comes to its file and can read it. -/
theorem flushPaths_offers (kept : Kept codec report outbox) (own : OwnReport codec agent report)
    (readable : (outcomes (reportPath codec report)).readable = true)
    (listed : reportPath codec report ∈ paths) :
    report ∈ (flushPaths codec agent nowUnixMs outcomes paths outbox).2 := by
  induction paths generalizing outbox with
  | nil => cases listed
  | cons path rest ih =>
      simp only [flushPaths, List.mem_append]
      by_cases same : path = reportPath codec report
      · left
        subst same
        rw [flushPath, readPath_of_kept kept readable, own.reopens]
        simp
      · right
        have later := (List.mem_cons.mp listed).resolve_left (Ne.symm same)
        exact ih (flushPath_kept kept own.readsBack own.rules fun here => absurd here same) later

theorem reportPath_listed (kept : Kept codec report outbox) :
    reportPath codec report ∈ reportPaths outbox := by
  have there : reportPath codec report ∈ outbox.visible := by
    rw [Std.ExtTreeMap.mem_iff_isSome_getElem?, kept.visible]
    rfl
  exact List.mem_filter.mpr ⟨Std.ExtTreeMap.mem_keys.mpr there, hasReportExtension_reportPath⟩

end Flush

section Runs

/-- Nothing else is given the name of the report, and no flush puts its file aside. -/
def OutboxEvent.Spares (codec : ReportCodec) (report : AttemptReport) : OutboxEvent → Prop
  | persisted other | persistStopped other _ _ | delivered _ other _ =>
      reportPath codec other = reportPath codec report → other = report
  | flushed agent script => script.listed = true →
      ((script.outcomes (reportPath codec report)).readable = true ∨
        (script.outcomes (reportPath codec report)).renamed = false) ∧
      (report.nodeId = agent.agentDeviceId →
        agent.verifies (signingInput report) report.nodeSignature = true)
  | crashed _ => True

/-- A session of this call brought an acknowledgement of the report. -/
def OutboxEvent.Acknowledges (codec : ReportCodec) (report : AttemptReport) : OutboxEvent → Prop
  | delivered agent other outcome => other = report ∧ Acknowledged codec agent report outcome.answers
  | flushed agent script => script.listed = true ∧ report.nodeId = agent.agentDeviceId ∧
      Acknowledged codec agent report (script.outcomes (reportPath codec report)).answers
  | persisted _ | persistStopped _ _ _ | crashed _ => False

theorem OutboxEvent.apply_kept {outbox : Outbox} {event : OutboxEvent} (kept : Kept codec report outbox)
    (own : OwnReport codec agent report) (spares : event.Spares codec report)
    (unacknowledged : ¬ event.Acknowledges codec report) :
    Kept codec report (event.apply codec outbox) := by
  cases event with
  | persisted other => exact persisted_kept kept spares
  | persistStopped other steps torn => exact persistStopped_kept kept spares steps torn
  | delivered sender other outcome =>
      refine delivered_kept kept fun same acknowledged => ?_
      obtain rfl := spares same
      exact unacknowledged ⟨rfl, acknowledged⟩
  | flushed sender script =>
      simp only [OutboxEvent.apply, flushReportOutbox]
      split
      · next listed =>
        obtain ⟨readable, signed⟩ := spares listed
        exact flushPaths_kept kept own.readsBack own.rules
          ⟨readable, signed, fun node acknowledged => unacknowledged ⟨listed, node, acknowledged⟩⟩
      · exact kept
  | crashed crash => exact kept.crash crash

/-- From the call that persisted a report on, in every run that spares it and as long as it was not
acknowledged, its file is there and every flush of its Agent that can read it offers it. -/
theorem outboxed_report_survives (own : OwnReport codec agent report) (start : Outbox)
    (before after : List OutboxEvent) (spared : ∀ event ∈ after, event.Spares codec report)
    (unacknowledged : ∀ event ∈ after, ¬ event.Acknowledges codec report) :
    (Trace.run (OutboxEvent.apply codec) start (before ++ .persisted report :: after)).visible[
        reportPath codec report]? = some ⟨codec.encode report, true⟩ ∧
    ∀ script : FlushScript, script.listed = true →
      script.entries (reportPath codec report) = true →
      (reportPaths (Trace.run (OutboxEvent.apply codec) start
        (before ++ .persisted report :: after))).length ≤ script.reached →
      (script.outcomes (reportPath codec report)).readable = true →
      report ∈ (flushReportOutbox codec agent script (Trace.run (OutboxEvent.apply codec) start
        (before ++ .persisted report :: after))).2 := by
  have kept : Kept codec report (Trace.run (OutboxEvent.apply codec) start
      (before ++ .persisted report :: after)) := by
    rw [Trace.run, List.foldl_append, List.foldl_cons]
    generalize at_persisted : OutboxEvent.apply codec (before.foldl (OutboxEvent.apply codec) start)
      (.persisted report) = outbox
    have anchored : Kept codec report outbox := at_persisted ▸ persisted_anchored _
    clear at_persisted
    induction after generalizing outbox with
    | nil => exact anchored
    | cons event after ih =>
        rw [List.forall_mem_cons] at spared unacknowledged
        exact ih spared.2 unacknowledged.2 _
          (OutboxEvent.apply_kept anchored own spared.1 unacknowledged.1)
  refine ⟨kept.visible, fun script listed entry reached readable => ?_⟩
  rw [flushReportOutbox, if_pos listed,
    List.take_of_length_le (le_trans (List.length_filter_le _ _) reached)]
  exact flushPaths_offers kept own readable (List.mem_filter.mpr ⟨reportPath_listed kept, entry⟩)

end Runs

/-- The report of a run that ended with code 0. -/
def finishedReport : AttemptReport where
  schemaVersion := 2
  jobId := "j"
  attemptId := "a"
  nodeId := "n"
  fenceEpoch := 3
  outcome := 1
  finalStep := 0
  startedAtUnixMs := 10
  finishedAtUnixMs := 20
  exitObservation := 2
  exitCode := 0
  finalizationFailureStage := 0
  artifacts := []
  finalCheckpoint := none
  metrics := []
  issuedAtUnixMs := 30
  nodeSignature := [7]

/-- Its fields on the wire, in the order of their numbers. -/
def finishedReportBytes : List UInt8 :=
  [0x08, 2, 0x12, 1, 0x6a, 0x1a, 1, 0x61, 0x22, 1, 0x6e, 0x28, 3, 0x50, 1, 0x60, 10, 0x68, 20, 0x70, 2,
    0xc0, 2, 30, 0xd2, 5, 1, 7]

/-- The encoding of the one report, and a hash with one value. -/
def finishedReportCodec : ReportCodec where
  encode report := if report = finishedReport then finishedReportBytes else []
  decode bytes := if bytes = finishedReportBytes then some finishedReport else none
  blake3 _ := List.replicate 32 7
  length_blake3 _ := List.length_replicate

def nodeAgent : OutboxAgent where
  agentDeviceId := "n"
  verifies _ signature := signature = [7]
  coordinatorDeviceId := "c"
  reportSessionAttempts := 3
  attempts_pos := by decide

def emptyOutbox : Outbox := ⟨∅, ∅, []⟩

/-- No session comes about, and each file is read or not. -/
def unansweredFlush (readable : Bool) : FlushScript where
  nowUnixMs := 40
  listed := true
  entries _ := true
  reached := 1
  outcomes _ := ⟨readable, fun _ => .failed, true, true⟩

/-- A crash that takes every change since the last sync of the directory. -/
def harshCrash : Disk.Crash String (List UInt8) := ⟨[], fun _ => []⟩

theorem finishedReport_own : OwnReport finishedReportCodec nodeAgent finishedReport where
  node := rfl
  signed := by decide
  rules := by decide
  readsBack := by decide

theorem failed_unacknowledged {codec : ReportCodec} {agent : OutboxAgent} {report : AttemptReport} :
    ¬ Acknowledged codec agent report fun _ => .failed := by
  rintro ⟨_, _, _, _, _, brought, _⟩
  cases brought

theorem finished_report_survives :
    finishedReport ∈ (flushReportOutbox finishedReportCodec nodeAgent (unansweredFlush true)
      (Trace.run (OutboxEvent.apply finishedReportCodec) emptyOutbox ([] ++ .persisted finishedReport ::
        [.flushed nodeAgent (unansweredFlush true), .crashed harshCrash]))).2 := by
  refine (outboxed_report_survives finishedReport_own emptyOutbox []
    [.flushed nodeAgent (unansweredFlush true), .crashed harshCrash] ?_ ?_).2 (unansweredFlush true) rfl
      rfl (by decide +kernel) rfl
  · simp only [List.forall_mem_cons]
    refine ⟨fun _ => ⟨Or.inl rfl, fun _ => by decide⟩, trivial, by simp⟩
  · simp only [List.forall_mem_cons]
    refine ⟨fun acknowledged => failed_unacknowledged acknowledged.2.2, fun acknowledged => acknowledged,
      by simp⟩

/-- One read that fails is enough to end it: the report is put aside, and the next flush, which could
read it, offers nothing, although no session was ever held. -/
theorem failed_read_buries_report :
    ¬ (OutboxEvent.flushed nodeAgent (unansweredFlush false)).Acknowledges finishedReportCodec
        finishedReport ∧
    (Trace.run (OutboxEvent.apply finishedReportCodec) emptyOutbox [.persisted finishedReport,
        .flushed nodeAgent (unansweredFlush false)]).visible[
          reportPath finishedReportCodec finishedReport]? = none ∧
    (flushReportOutbox finishedReportCodec nodeAgent (unansweredFlush true)
      (Trace.run (OutboxEvent.apply finishedReportCodec) emptyOutbox [.persisted finishedReport,
        .flushed nodeAgent (unansweredFlush false)])).2 = [] := by
  refine ⟨fun acknowledged => failed_unacknowledged acknowledged.2.2, ?_, ?_⟩
  · decide +kernel
  · decide +kernel

end Gputeer.Agent
