import Gputeer.Agent.AttemptStart

/-! The life of a node whose Agent keeps a run ledger: runs of the Agent stopped anywhere, the owner clearing what is
blocked, and time in between. No attempt is executed twice, and no two containers run at once but for what the
owner cleared. -/

namespace Gputeer.Agent

open Dialogue RunEvidence NodeWorld

variable {generation attemptId : String} {world later : NodeWorld} {blake3 : List UInt8 → Vector UInt8 32}
  {settings : AgentSettings} {held : HeldGrant} {policy : ExecutionPolicy}

section Executing

variable {facts : WorkloadLedgerFacts} {α : Type}

/-- An attempt whose execution was begun, and of which nothing was started. -/
structure Undertaken (generation attemptId : String) (policy : ExecutionPolicy) (world : NodeWorld) : Prop where
  calm : Calm generation world
  begun : attemptId ∈ world.begun
  idle : ∀ launch ∈ world.launches, launch.attemptId ≠ attemptId
  row : RowWritten attemptId policy world

theorem steady_undertaken : Steady generation (Undertaken generation attemptId policy) where
  alive := fun _ begun => begun.calm.alive
  becomes := fun world later becomes begun => by
    refine ⟨steady_calm.becomes _ _ becomes begun.calm, ?_, ?_, begun.row.of_file becomes.file⟩
    · rw [becomes.begun]
      exact begun.begun
    · rw [becomes.launches]
      exact begun.idle

theorem NodeWorld.Consistent.begins {ledger : TypedLedger} (consistent : world.Consistent generation ledger)
    (unbegun : attemptId ∉ world.begun) (recorded : attemptId ∈ world.started) :
    ({ world with begun := attemptId :: world.begun }).Consistent generation ledger where
  sound := consistent.sound
  once := List.nodup_cons.mpr ⟨unbegun, consistent.once⟩
  recorded := List.forall_mem_cons.mpr ⟨recorded, consistent.recorded⟩
  begun := fun launch listed => List.mem_cons_of_mem _ (consistent.begun launch listed)
  single := consistent.single
  rows := fun launch listed => by
    obtain ⟨row, found, attests⟩ := consistent.rows launch listed
    exact ⟨row, found, attests.mono id (fun _ => id) fun _ => id⟩
  alone := consistent.alone

theorem executionAttempted_secures (ready : Ready generation attemptId policy world) :
    Ensures generation (fun later _ => Undertaken generation attemptId policy later) world
      (question (NodeQuestion.executionAttempted attemptId)) := by
  refine secures_question fun answered later went => ?_
  obtain ⟨ledger, consistent⟩ := ready.entered.fresh.calm.alive
  have begins := consistent.begins ready.entered.fresh.unbegun ready.recorded
  have begun : Undertaken generation attemptId policy { world with begun := attemptId :: world.begun } :=
    ⟨⟨⟨ledger, begins⟩, ready.entered.fresh.calm.settled⟩, List.mem_cons_self, ready.entered.fresh.idle,
      ready.entered.row⟩
  have becomes : ({ world with begun := attemptId :: world.begun } : NodeWorld).Becomes later := by
    rw [went.rest]
    exact ⟨rfl, fun _ listed => listed, fun id quiet => quiet.drifts (went.moves id), rfl, rfl,
      fun _ listed => listed, rfl⟩
  have after := steady_undertaken.becomes _ _ becomes begun
  exact ⟨after.calm.alive, after⟩

/-- An execution that has come to its end. -/
structure Executed (generation attemptId : String) (facts : WorkloadLedgerFacts) (world : NodeWorld) : Prop where
  alive : world.Alive generation
  facts : FactsHold attemptId facts world

theorem steady_executed : Steady generation (Executed generation attemptId facts) where
  alive := fun _ executed => executed.alive
  becomes := fun world later becomes executed => by
    refine ⟨steady_alive.becomes _ _ becomes executed.alive, ?_, ?_⟩
    · rw [becomes.launches]
      exact executed.facts.notStarted
    · rw [becomes.launches]
      exact fun removed launch listed own => becomes.containers _ (executed.facts.removed removed launch listed own)

/-- Where nothing was started, every fact is so. -/
theorem Undertaken.executed (begun : Undertaken generation attemptId policy world) : Executed generation attemptId facts world :=
  ⟨begun.calm.alive, fun _ => begun.idle, fun _ launch listed own => absurd own (begun.idle launch listed)⟩

theorem Undertaken.running {execution : ContainerExecution} (begun : Undertaken generation attemptId policy world)
    (container : policy.container = .container execution) :
    ∃ ledger, Running generation attemptId .none ledger world := by
  obtain ⟨ledger, consistent⟩ := begun.calm.alive
  obtain ⟨row, read, isOpen⟩ := begun.row execution container
  rw [row_of_mirrors consistent.sound.mirrors, Except.ok.injEq] at read
  have unknown : ∀ id, ¬ RunEvidence.none.Knows id := fun id knows => by rcases knows with no | no <;> cases no
  exact ⟨ledger, consistent, begun.begun, ⟨row, read, isOpen⟩, fun launch listed _ => begun.calm.settled launch listed,
    fun launch listed own => absurd own (begun.idle launch listed), fun id knows => absurd knows (unknown id),
    fun id knows => absurd knows (unknown id)⟩

theorem executeInContainer_secures {execution : ContainerExecution} (polls : Nat)
    (begun : Undertaken generation policy.attemptId policy world) (container : policy.container = .container execution) :
    Ensures generation (fun later result => Executed generation policy.attemptId (ledgerFacts result) later) world
      (executeInContainer blake3 polls policy execution) := by
  refine (steady_undertaken.asks begun (asks_takes .runFolder)).bind fun between result begun => ?_
  cases result with
  | error why => exact secures_pure begun.executed
  | ok done =>
      obtain ⟨ledger, running⟩ := begun.running container
      refine (running.secures (run_once rfl rfl polls)).bind fun later result right => ?_
      obtain ⟨told, running, fits⟩ := right
      cases result with
      | none => exact fun answered => nomatch answered
      | some ended => exact secures_pure ⟨⟨ledger, running.consistent⟩, running.facts (fits ended rfl)⟩

theorem executeWithControl_secures (polls : Nat) (begun : Undertaken generation policy.attemptId policy world) :
    Ensures generation (fun later result => Executed generation policy.attemptId (ledgerFacts result) later) world
      (executeWithControl blake3 polls policy) := by
  refine (steady_undertaken.ends begun preflight_ends).andThen (fun _ _ right => right.1.executed) fun later _ right => ?_
  split
  · next container => exact executeInContainer_secures polls right.1 container
  all_goals
    exact (steady_undertaken.question right.1 (.executeOnHost policy.attemptId) trivial).mono
      fun last result right => right.1.executed

theorem runAndCaptureWorkload_secures (polls : Nat) (begun : Undertaken generation policy.attemptId policy world) :
    Ensures generation (fun later run => Executed generation policy.attemptId run.facts later) world
      (runAndCaptureWorkload blake3 polls policy) := by
  refine (executeWithControl_secures polls begun).bind fun later result executed => ?_
  cases result with
  | error error => cases error <;> exact secures_pure executed
  | ok outcome =>
      exact (steady_executed.question executed .finalizeOutputs trivial).bind fun _ _ right => secures_pure right.1

theorem alive_calls (call : LedgerCall) (alive : world.Alive generation) (fromNew : call.FromNewActive)
    (may : world.MayCall call) : Ensures generation (fun later _ => later.Alive generation) world (calls call) := by
  obtain ⟨ledger, consistent⟩ := alive
  have called := consistent.called fromNew may
  refine secures_calls consistent fromNew may (fun later _ becomes => ?_) fun later _ becomes => ?_
  · exact ⟨_, called.becomes becomes⟩
  · rcases becomes with after | before
    · exact ⟨_, called.becomes after⟩
    · exact ⟨_, consistent.becomes before⟩

/-- What is written of the end is so. -/
theorem recordEnd_secures (executed : Executed generation held.attemptId facts world) (incidentOpen : Bool) :
    Ensures generation (fun later _ => later.Alive generation) world (recordEnd held policy facts incidentOpen) := by
  unfold recordEnd
  split
  · next unstarted =>
    exact alive_calls (.closeActive _ .notStarted) executed.alive trivial (executed.facts.notStarted unstarted)
  · split
    · refine alive_calls (.recordContainerExit _ _ _ _) executed.alive trivial ?_
      cases removed : facts.containerRemoved = some true && !incidentOpen with
      | false => trivial
      | true =>
          rw [Bool.and_eq_true, decide_eq_true_eq] at removed
          exact executed.facts.removed removed.1
    · exact secures_pure executed.alive
    · exact secures_pure executed.alive

end Executing

section Faults

theorem breaks_retryable : Text.Breaks "RETRYABLE".toList "(억제)".toList "_".toList where
  begun := by simp
  marked := by simp
  ended := by simp
  apart := by simp
  bordered := by simp

theorem breaks_ambiguous : Text.Breaks "AMBIGUOUS".toList "(억제)".toList "_RENEW".toList where
  begun := by simp
  marked := by simp
  ended := by simp
  apart := by simp
  bordered := by simp

theorem not_mem_workloadAttempted : 'B' ∉ workloadAttempted.toList := by
  unfold workloadAttempted
  rw [String.toList_append, String.toList_append, List.mem_append, List.mem_append, not_or, not_or]
  exact ⟨⟨by simp, by simp⟩, by simp⟩

theorem getLast?_workloadAttempted : workloadAttempted.toList.getLast? = some ' ' := by
  have last : "다시 실행할 수 있으므로 재시도하지 않는다: ".toList.getLast? = some ' ' := by simp
  unfold workloadAttempted
  rw [String.toList_append, List.getLast?_append, last, Option.some_or]

/-- A mark is not in the words before the error. -/
theorem infix_of_notRetried {sought : List Char} {error : String} (unspaced : ' ' ∉ sought) (lettered : 'B' ∈ sought)
    (inside : sought <:+: (notRetriedAfterWorkload error).toList) :
    sought <:+: (Text.replace ambiguousMark "AMBIGUOUS(억제)_RENEW"
      (Text.replace retryableMark "RETRYABLE(억제)_" error)).toList := by
  rw [notRetriedAfterWorkload, String.toList_append] at inside
  rcases List.infix_append_iff.mp inside with before | after | ⟨l₁, l₂, rfl, ends, begins⟩
  · exact absurd (before.subset lettered) not_mem_workloadAttempted
  · exact after
  · rcases List.eq_nil_or_concat' l₁ with rfl | ⟨first, last, rfl⟩
    · exact begins.isInfix
    · obtain ⟨earlier, words⟩ := ends
      have spaced := getLast?_workloadAttempted
      rw [← words, ← List.append_assoc, List.getLast?_concat, Option.some.injEq] at spaced
      simp [spaced] at unspaced

theorem unretried {mark error : String} (unspaced : ' ' ∉ mark.toList) (lettered : 'B' ∈ mark.toList)
    (unmarked : ∀ c ∈ "(억제)".toList, c ∉ mark.toList) (retryable : retryableMark.toList <:+: mark.toList) :
    ¬ mark.toList <:+: (notRetriedAfterWorkload error).toList := by
  intro inside
  have left := infix_of_notRetried unspaced lettered inside
  rw [Text.replace, String.toList_ofList] at left
  have once := Text.infix_of_replaceFrom breaks_ambiguous unmarked
    (fun empty => by rw [empty] at lettered; cases lettered) left
  rw [Text.replace, String.toList_ofList, List.drop_zero] at once
  exact Text.not_infix_replaceFrom breaks_retryable (retryable.trans once)

/-- After an execution was tried there is no further connection, whatever the error. -/
theorem ofText_notRetried (error : String) : ConnectionFault.ofText (notRetriedAfterWorkload error) = .fatal := by
  have connection : ¬ "RETRYABLE_CONNECTION".toList <:+: (notRetriedAfterWorkload error).toList :=
    unretried (by simp) (by simp) (by simp) ⟨[], "CONNECTION".toList, by simp [retryableMark]⟩
  have resume : ¬ "RETRYABLE_RESUME".toList <:+: (notRetriedAfterWorkload error).toList :=
    unretried (by simp) (by simp) (by simp) ⟨[], "RESUME".toList, by simp [retryableMark]⟩
  have ambiguous : ¬ ambiguousMark.toList <:+: (notRetriedAfterWorkload error).toList := by
    intro inside
    have left := infix_of_notRetried (by simp [ambiguousMark]) (by simp [ambiguousMark]) inside
    rw [Text.replace, String.toList_ofList] at left
    exact Text.not_infix_replaceFrom breaks_ambiguous left
  have lacks {mark : String} (free : ¬ mark.toList <:+: (notRetriedAfterWorkload error).toList) :
      ¬ Text.occurs mark (notRetriedAfterWorkload error) = true := by
    rw [Text.occurs, decide_eq_true_eq]
    exact free
  rw [ConnectionFault.ofText, if_neg (not_or.mpr ⟨lacks connection, lacks resume⟩), if_neg (lacks ambiguous)]

end Faults

section Connecting

/-- While the report of an attempt is in the outbox. -/
structure Reported (generation attemptId : String) (world : NodeWorld) : Prop where
  alive : world.Alive generation
  persisted : attemptId ∈ world.persisted

theorem steady_reported : Steady generation (Reported generation attemptId) where
  alive := fun _ reported => reported.alive
  becomes := fun _ _ becomes reported =>
    ⟨steady_alive.becomes _ _ becomes reported.alive, becomes.persisted _ reported.persisted⟩

theorem keepReport_secures (alive : world.Alive generation) (observed : Option WorkloadReport) :
    Ensures generation (fun later result => later.Alive generation ∧
      (result = .ok true → Reported generation held.attemptId later)) world
      (executeAttempt.keepReport settings held observed) := by
  unfold executeAttempt.keepReport
  split
  · refine (steady_alive.question alive (.outboxTerminalReport held.attemptId held.jobId settings.agentDeviceId
      held.fenceEpoch) trivial).bind fun later answered right => ?_
    obtain ⟨after, before, _, went⟩ := right
    cases answered with
    | failed why applied => exact secures_pure ⟨after, fun no => by cases no⟩
    | done =>
        refine secures_pure ⟨after, fun _ => ⟨after, ?_⟩⟩
        rw [went.rest]
        exact List.mem_cons_self
  · exact secures_pure ⟨alive, fun no => by cases no⟩

theorem closeReported_secures (reported : Reported generation held.attemptId world) :
    Ensures generation (fun later _ => later.Alive generation) world (closeReported held) := by
  refine (steady_reported.question reported (.row held.attemptId) trivial).andThen (fun _ _ right => right.1.alive)
    fun later found right => ?_
  obtain ⟨reported, _⟩ := right
  cases found with
  | none => exact secures_pure reported.alive
  | some row =>
      dsimp only
      split
      · exact alive_calls (.closeActive _ .reportPersisted) reported.alive trivial fun _ => reported.persisted
      · exact secures_pure reported.alive

theorem asks_afterwards (cleanupFailure : Option String) : Asks Grows (afterwards cleanupFailure) := by
  refine (asks_takes _).andThen fun _ => ?_
  cases cleanupFailure with
  | none => exact asks_takes _
  | some error => exact asks_pure _

theorem mapFault_secures {α : Type} {P : NodeWorld → Prop} {worded : String → String}
    {step : NodeDialogue (Except String α)} (secures : Ensures generation (fun later _ => P later) world step) :
    Ensures generation (fun later _ => P later) world (mapFault worded step) := Secures.map secures

theorem asks_incidentRecorded : Asks Grows (executeAttempt.incidentRecorded blake3 settings held) := by
  unfold executeAttempt.incidentRecorded
  split
  · exact asks_question (show Grows (.incidentRecordedFor _) from trivial)
  · exact asks_pure _

theorem asks_cleanUp (keepRunDir : Bool) : Asks Grows (executeAttempt.cleanUp keepRunDir) := by
  cases keepRunDir with
  | true => exact asks_pure _
  | false => exact asks_takes _

theorem asks_markOwner (observed : Option WorkloadReport) : Asks Grows (executeAttempt.markOwner observed) := by
  cases observed with
  | none => exact asks_pure _
  | some report => exact asks_takes _

/-- The execution of an attempt that was begun, and what is written of it. -/
theorem executeAttempt_secures (polls : Nat) (named : policy.attemptId = held.attemptId)
    (begun : Undertaken generation held.attemptId policy world) :
    Ensures generation (fun later _ => later.Alive generation) world
      (executeAttempt blake3 settings polls true held policy) := by
  rw [← named] at begun
  refine (runAndCaptureWorkload_secures polls begun).bind fun later ran executed => ?_
  rw [named] at executed
  refine (steady_executed.asks executed asks_incidentRecorded).bind fun later incidentOpen executed => ?_
  refine (mapFault_secures (recordEnd_secures executed incidentOpen)).andThen (fun _ _ alive => alive)
    fun later _ alive => ?_
  refine (steady_alive.asks alive (asks_cleanUp _)).bind fun later cleanup alive => ?_
  generalize mergeRunAndCleanup ran.report cleanup = merged
  rcases merged with error | ⟨observed, cleanupFailure⟩
  · exact secures_pure alive
  · refine (steady_alive.asks alive (asks_markOwner observed)).andThen (fun _ _ alive => alive) fun later _ alive => ?_
    refine (keepReport_secures alive observed).andThen (fun _ _ right => right.1) fun later kept right => ?_
    have closed : Ensures generation (fun later _ => later.Alive generation) later
        (executeAttempt.closed true held kept) := by
      cases kept with
      | false => exact secures_pure right.1
      | true => exact mapFault_secures (closeReported_secures (right.2 rfl))
    exact closed.andThen (fun _ _ alive => alive) fun _ _ alive =>
      steady_alive.asks alive (asks_afterwards cleanupFailure)

theorem executeWithControl_optedOut (polls : Nat) (optedOut : policy.optedIn = false) :
    ∃ error, executeWithControl blake3 polls policy = pure (.error error) := by
  unfold executeWithControl preflight
  cases policy.container with
  | refused detail => exact ⟨_, rfl⟩
  | host =>
      rw [optedOut]
      exact ⟨_, rfl⟩
  | container execution =>
      rw [optedOut]
      exact ⟨_, rfl⟩

/-- What is not opted in is not executed, and nothing is written of it. -/
theorem asks_optedOut (polls : Nat) (optedOut : policy.optedIn = false) :
    Asks Grows (executeAttempt blake3 settings polls false held policy) := by
  have run : Asks Grows (runAndCaptureWorkload blake3 polls policy) := by
    obtain ⟨error, same⟩ := @executeWithControl_optedOut blake3 _ polls optedOut
    unfold runAndCaptureWorkload
    rw [same]
    cases error <;> exact asks_pure _
  refine run.bind fun ran => asks_incidentRecorded.bind fun incidentOpen => Asks.andThen (asks_pure _) fun _ => ?_
  refine (asks_cleanUp _).bind fun cleanup => ?_
  generalize mergeRunAndCleanup ran.report cleanup = merged
  rcases merged with error | ⟨observed, cleanupFailure⟩
  · exact asks_pure _
  · refine (asks_markOwner observed).andThen fun _ => Asks.andThen ?_ fun kept =>
      Asks.andThen (asks_pure _) fun _ => asks_afterwards cleanupFailure
    unfold executeAttempt.keepReport
    split
    · refine Asks.andThen (Asks.map ?_) fun _ => asks_pure _
      exact asks_question (show Grows (.outboxTerminalReport _ _ _ _) from trivial)
    · exact asks_pure _

/-- A connection that did not come to try an execution has started nothing. -/
theorem runOneConnectionInner_secures (polls : Nat) (required : settings.requireAckReceipt = true)
    (calm : Calm generation world) :
    Ensures generation (fun later result => later.Alive generation ∧ (result.1 = false → Calm generation later)) world
      (runOneConnectionInner blake3 settings polls true) := by
  have idle {dialogue : NodeDialogue (Except String Unit)} {world : NodeWorld} (calm : Calm generation world)
      (asks : Asks Grows dialogue) : Ensures (α := Bool × Except String Unit) generation
      (fun later result => later.Alive generation ∧ (result.1 = false → Calm generation later)) world
      ((false, ·) <$> dialogue) :=
    Secures.map ((steady_calm.asks calm asks).mono fun _ _ calm => ⟨calm.alive, fun _ => calm⟩)
  unfold runOneConnectionInner
  split
  · exact idle calm (asks_takes _)
  · refine (steady_calm.question calm .grant trivial).bind fun later answered right => ?_
    obtain ⟨calm, _⟩ := right
    cases answered with
    | error error => exact secures_pure ⟨calm.alive, fun _ => calm⟩
    | ok held =>
        dsimp only
        split
        · exact idle calm ((asks_takes _).andThen fun _ => asks_afterwards none)
        · refine (prepareAttempt_secures required calm).bind fun later result prepared => ?_
          rcases result with error | _ | _
          · exact secures_pure ⟨prepared.calm.alive, fun _ => prepared.calm⟩
          · exact idle prepared.calm (asks_optedOut polls (prepared.optedOut rfl))
          · refine (executionAttempted_secures (prepared.ready rfl)).bind fun begun _ after => ?_
            refine Secures.map ?_
            simp only [required, Bool.and_self]
            exact (executeAttempt_secures polls rfl after).mono fun _ _ alive => ⟨alive, fun no => by cases no⟩

theorem runOneConnection_secures (polls : Nat) (required : settings.requireAckReceipt = true)
    (calm : Calm generation world) :
    Ensures generation (fun later result => later.Alive generation ∧
      ∀ error, result = .error error → ConnectionFault.ofText error = .fatal ∨ Calm generation later) world
      (runOneConnection blake3 settings polls true) := by
  refine (runOneConnectionInner_secures polls required calm).bind fun later run right => ?_
  obtain ⟨attempted, result⟩ := run
  refine secures_pure ⟨right.1, fun error failed => ?_⟩
  cases attempted with
  | false => exact Or.inr (right.2 rfl)
  | true =>
      cases result with
      | ok done => cases failed
      | error why =>
          have same : notRetriedAfterWorkload why = error := Except.error.inj failed
          rw [← same]
          exact Or.inl (ofText_notRetried why)

/-- Only a connection that started nothing is followed by another. By induction on the connections that are left. -/
theorem reconnect_secures (polls : Nat) (required : settings.requireAckReceipt = true) (left attempt : Nat)
    (calm : Calm generation world) :
    Ensures generation (fun later _ => later.Alive generation) world
      (reconnect blake3 settings polls true left attempt) := by
  induction left generalizing attempt world with
  | zero => exact secures_pure calm.alive
  | succ left ih =>
      have backoff : Asks Grows (if 0 < attempt then takes .backoff else pure (.ok ())) := by
        split
        · exact asks_takes _
        · exact asks_pure _
      refine (steady_calm.asks calm backoff).andThen (fun _ _ calm => calm.alive) fun later _ calm => ?_
      have connected : Ensures generation (fun later result => later.Alive generation ∧
          ∀ error, result = .error error → ConnectionFault.ofText error = .fatal ∨ Calm generation later) later
          ((takes .connect).andThen fun _ => runOneConnection blake3 settings polls true) :=
        (steady_calm.asks calm (asks_takes .connect)).andThen (fun _ _ calm => ⟨calm.alive, fun _ _ => Or.inr calm⟩)
          fun _ _ calm => runOneConnection_secures polls required calm
      refine connected.bind fun later result right => ?_
      cases result with
      | ok done => exact secures_pure right.1
      | error error =>
          have again (other : ConnectionFault.ofText error ≠ .fatal) :
              Ensures generation (fun later _ => later.Alive generation) later
                (reconnect blake3 settings polls true left (attempt + 1)) :=
            ih (attempt + 1) ((right.2 error rfl).resolve_left other)
          dsimp only
          split
          · exact secures_pure right.1
          · next retryable =>
            split
            · exact secures_pure right.1
            · exact again (by rw [retryable]; decide)
          · next ambiguous =>
            split
            · exact secures_pure right.1
            · split
              · exact secures_pure right.1
              · exact again (by rw [ambiguous]; decide)

end Connecting

section Lives

/-- A run of the Agent, with whatever settings. -/
theorem agentRun_secures (settings : AgentSettings) (polls : Nat) (alive : world.Alive generation) :
    Ensures generation (fun later _ => later.Alive generation) world (agentRun blake3 settings polls) := by
  unfold agentRun
  split
  · split
    · exact secures_pure alive
    · refine (steady_alive.question alive .detect trivial).andThen (fun _ _ right => right.1)
        fun later presence right => ?_
      obtain ⟨alive, before, _, went⟩ := right
      have there : presence.ledger = true := went.told
      have enabled : presence.neverEnabled = false := by simp [Presence.neverEnabled, there]
      rw [enabled]
      exact secures_pure alive
  · refine (steady_alive.asks alive (asks_takes .claimRoot)).andThen (fun _ _ alive => alive) fun later _ alive => ?_
    refine (openRunLedgerAtStartup_secures alive).andThen (fun _ _ opened => opened.alive)
      fun later ledgerOn opened => ?_
    obtain ⟨rfl, required, calm⟩ := opened.opened ledgerOn rfl
    refine (steady_calm.asks calm (asks_forEach asks_takes _)).andThen (fun _ _ calm => calm.alive)
      fun later _ calm => ?_
    split
    · exact reconnect_secures polls required _ 0 calm
    · refine (steady_calm.asks calm (asks_takes .connect)).andThen (fun _ _ calm => calm.alive) fun _ _ calm => ?_
      exact (runOneConnection_secures polls required calm).mono fun _ _ right => right.1

/-- The owner clearing what is blocked. -/
theorem clearContainerIncidents_secures (name : Option String) (alive : world.Alive generation) :
    Ensures generation (fun later _ => later.Alive generation) world (clearContainerIncidents name) := by
  have clears : ∀ row : AttemptRow, ∀ world : NodeWorld, world.Alive generation →
      Ensures generation (fun later _ => later.Alive generation) world (clearRow name row) := by
    intro row world alive
    unfold clearRow
    split
    · exact alive_calls (.clearLocalBlocked _) alive trivial trivial
    · exact secures_pure alive
  unfold clearContainerIncidents
  refine (mapFault_secures (steady_alive.asks alive (asks_takes .lockRoot))).andThen (fun _ _ alive => alive)
    fun later _ alive => ?_
  refine (steady_alive.question alive .detect trivial).andThen (fun _ _ right => right.1) fun later presence right => ?_
  split
  · exact (steady_alive.question right.1 (.clearIncidents name) trivial).mono fun _ _ right => right.1
  · refine (steady_alive.question right.1 .openForClear trivial).andThen (fun _ _ right => right.1)
      fun later opened right => ?_
    split
    · exact secures_pure right.1
    · refine (steady_alive.question right.1 .rows trivial).andThen (fun _ _ right => right.1) fun later rows right => ?_
      refine (secures_forEach (fun row _ => clears row) right.1).andThen (fun _ _ alive => alive)
        fun later _ alive => ?_
      refine (steady_alive.question alive (.clearIncidents name) trivial).andThen (fun _ _ right => right.1)
        fun later cleared right => ?_
      split
      · exact secures_pure right.1
      · exact (steady_alive.asks right.1 (asks_takes _)).andThen (fun _ _ alive => alive)
          fun _ _ alive => secures_pure alive

/-- A run of the Agent or of the owner's clearing, stopped anywhere; or only time. -/
inductive NodeStep (blake3 : List UInt8 → Vector UInt8 32) : NodeWorld → NodeWorld → Prop where
  | runs {world later : NodeWorld} (settings : AgentSettings) (polls : Nat)
      (passes : Passes Happens world (agentRun blake3 settings polls) later) : NodeStep blake3 world later
  | clears {world later : NodeWorld} (name : Option String)
      (passes : Passes Happens world (clearContainerIncidents name) later) : NodeStep blake3 world later
  | time {world : NodeWorld} {containers : String → ContainerWorld}
      (drifts : ∀ id, (world.containers id).Drifts (containers id)) :
      NodeStep blake3 world { world with containers }

abbrev NodeLife (blake3 : List UInt8 → Vector UInt8 32) : NodeWorld → NodeWorld → Prop :=
  Relation.ReflTransGen (NodeStep blake3)

/-- A node whose ledger was just enabled: nothing was executed under it. -/
structure Enabled (generation : String) (world : NodeWorld) : Prop where
  sound : ∃ ledger, Sound generation world.file ledger
  begun : world.begun = []
  launches : world.launches = []

theorem Enabled.alive (enabled : Enabled generation world) : world.Alive generation := by
  obtain ⟨ledger, sound⟩ := enabled.sound
  refine ⟨ledger, sound, ?_, ?_, ?_, ?_, ?_, ?_⟩
  all_goals simp [enabled.begun, enabled.launches]

theorem NodeStep.alive (step : NodeStep blake3 world later) (alive : world.Alive generation) :
    later.Alive generation := by
  cases step with
  | runs settings polls passes => exact (agentRun_secures settings polls alive).passes alive passes
  | clears name passes => exact (clearContainerIncidents_secures name alive).passes alive passes
  | @time containers drifts =>
      have becomes : world.Becomes { world with containers } :=
        ⟨rfl, fun _ => id, fun id quiet => quiet.drifts (drifts id), rfl, rfl, fun _ => id, rfl⟩
      exact steady_alive.becomes _ _ becomes alive

theorem life_alive (enabled : Enabled generation world) (life : NodeLife blake3 world later) : later.Alive generation := by
  induction life with
  | refl => exact enabled.alive
  | tail _ step ih => exact step.alive ih

end Lives

section Samples

variable {containerId : String}

def noHash (_ : List UInt8) : Vector UInt8 32 := Vector.replicate 32 0

/-- A runtime that is well, until the container runs. -/
def startingRuntime (name containerId : String) : RuntimeCommand → Option CliReply
  | .inspectOwner _ => some (.ok ⟨false, "exit status: 1", "", "Error: no such object"⟩)
  | .create _ => some (.ok ⟨true, "exit status: 0", containerId, ""⟩)
  | .inspectName _ => some (.ok ⟨true, "exit status: 0", "/" ++ name, ""⟩)
  | .pull _ | .start _ => some (.ok ⟨true, "exit status: 0", "", ""⟩)
  | _ => Option.none

/-- A node that is given this grant; its answers end where the container runs. -/
def startingNode (held : HeldGrant) (containerId : String) (world : NodeWorld) :
    (asked : NodeQuestion) → Option asked.Answer
  | .step _ | .openForAgent | .writeIncident _ _ _ => some (.ok ())
  | .detect => some (.ok ⟨true, true, false, false⟩)
  | .openForClear => some (.ok true)
  | .rows => some world.file.rows
  | .row id => some (world.file.row id)
  | .blocksNewWork => some world.file.blocksNewWork
  | .call call =>
      match (call.call true world.file).2 with
      | .ok () => some .done
      | .error _ => Option.none
  | .scanStartRecords => some (.ok world.started)
  | .attemptStartedHere id => some (.ok (decide (id ∈ world.started)))
  | .recordAttemptStartedHere _ | .outboxTerminalReport _ _ _ _ => some .done
  | .outbox => some (.ok [])
  | .incidentRecordedFor _ => some false
  | .clearIncidents _ => some (.ok 0)
  | .grant => some (.ok held)
  | .elevated => some (.ok false)
  | .checkGpuRequirements => some (.ok ())
  | .executionAttempted _ => some ()
  | .container id (.cli command) =>
      if ∀ launch ∈ world.launches, launch.containerId ≠ Text.trim containerId then
        startingRuntime (deriveContainerName noHash id) containerId command
      else Option.none
  | .container _ (.startedWith _) => some ()
  | .container _ _ | .stillWatching | .executeOnHost _ | .finalizeOutputs => Option.none

def startedContainers (world : NodeWorld) : Exchange NodeQuestion NodeQuestion.Answer → String → ContainerWorld
  | ⟨.container _ asked, answered⟩, id =>
      if startedId ⟨asked, answered⟩ = some id then ⟨true, false⟩
      else if createdId ⟨asked, answered⟩ = some id then .fresh
      else world.containers id
  | _, id => world.containers id

def startingEffect (world : NodeWorld) (exchange : Exchange NodeQuestion NodeQuestion.Answer) : NodeWorld :=
  { world.after exchange with containers := startedContainers world exchange }

theorem ContainerWorld.Drifts.refl (world : ContainerWorld) : world.Drifts world := ⟨Or.inl, id⟩

/-- What such a node answers is so. -/
theorem startingNode_told (asked : NodeQuestion) (answered : asked.Answer)
    (said : startingNode held containerId world asked = some answered) : world.Told ⟨asked, answered⟩ := by
  cases asked with
  | call call =>
      simp only [startingNode] at said
      split at said
      · next done =>
        cases said
        exact done
      · cases said
  | container attemptId asked =>
      intro id created launch listed
      cases asked with
      | cli command =>
          simp only [startingNode] at said
          split at said
          · next new =>
            cases command with
            | create arguments =>
                cases said
                cases created
                exact new launch listed
            | _ => cases created
          · cases said
      | _ => cases created
  | detect =>
      cases said
      rfl
  | rows =>
      have same : world.file.rows = answered := Option.some.inj said
      cases answered with
      | error error => trivial
      | ok read => exact same
  | row id =>
      have same : world.file.row id = answered := Option.some.inj said
      cases answered with
      | error error => trivial
      | ok read => exact same
  | blocksNewWork =>
      have same : world.file.blocksNewWork = answered := Option.some.inj said
      cases answered with
      | error error => trivial
      | ok read => exact same
  | scanStartRecords =>
      cases said
      rfl
  | attemptStartedHere id =>
      cases said
      rfl
  | outbox =>
      cases said
      exact fun report listed => by cases listed
  | _ => trivial

theorem startingNode_happens (asked : NodeQuestion) (answered : asked.Answer)
    (said : startingNode held containerId world asked = some answered) :
    world.Happens ⟨asked, answered⟩ (startingEffect world ⟨asked, answered⟩) := by
  refine ⟨startingNode_told asked answered said, fun id => ?_, rfl⟩
  cases asked with
  | container attemptId asked =>
      cases asked with
      | cli command =>
          simp only [startingNode] at said
          split at said
          · cases command with
            | start target =>
                cases said
                refine ⟨?_, fun no => by cases no⟩
                by_cases same : target = id
                · simp [happens, startingEffect, startedContainers, startedId, same]
                · simp only [happens, if_neg same, startingEffect, startedContainers, startedId, createdId,
                    Option.some.injEq, reduceCtorEq, if_false]
                  exact ContainerWorld.Drifts.refl _
            | create arguments =>
                cases said
                refine ⟨?_, fun created => ?_⟩
                · simp only [happens, startingEffect, startedContainers, startedId, reduceCtorEq, if_false]
                  split
                  · exact ⟨fun no => (by cases no), fun no => (by cases no)⟩
                  · exact ContainerWorld.Drifts.refl _
                · simp only [startingEffect, startedContainers, startedId, reduceCtorEq, if_false, if_pos created]
            | inspectRunning target => cases said
            | inspectState target => cases said
            | _ => exact ⟨ContainerWorld.Drifts.refl _, fun no => by cases no⟩
          · cases said
      | _ => exact ⟨ContainerWorld.Drifts.refl _, fun no => by cases no⟩
  | _ => exact ContainerWorld.Drifts.refl _

/-- With the ledger, and containers only. -/
def sampleRuntime : ContainerRuntime := ⟨"podman", .podman, false, .cdiAll, true, "n", "o", Option.none⟩

def sampleSettings : AgentSettings :=
  { agentDeviceId := "n", multiAgent := false, runLedger := true, checkpointRootIsDefault := false,
    reportOverSession := true, requireAckReceipt := true, resumeProtocol := false, renewDuringExecutionMs := 0,
    reconnectEnabled := true, maxReconnectAttempts := 3, recoverAmbiguousRenew := false,
    containerRuntime := some sampleRuntime }

def sampleGrant (attemptId : String) : HeldGrant where
  attemptId
  jobId := "j"
  fenceEpoch := 1
  workload := some
    { attemptId, optedIn := true, commitLimitBytes := 1, requiresGpus := false, allowElevatedHost := false,
      container := .container ⟨sampleRuntime, "image@sha256:0", Option.none⟩,
      input := ⟨"", "run", [], [], [], 1, Option.none⟩, stdoutPath := "/o", stderrPath := "/e" }

def enabledNode : NodeWorld where
  file := ⟨((∅ : Table String String).insert "format_version" "1").insert "generation" sampleGeneration, ∅⟩
  started := ∅
  containers := fun _ => .fresh
  begun := []
  launches := []
  persisted := []
  cleared := []

def runFor (attemptId containerId : String) (world : NodeWorld) : NodeWorld :=
  serveWhile (startingNode (sampleGrant attemptId) containerId) startingEffect world (agentRun noHash sampleSettings 0)

def clearedBy (world : NodeWorld) : NodeWorld :=
  serveWhile (startingNode (sampleGrant "") "") startingEffect world (clearContainerIncidents Option.none)

/-- The Agent is stopped while the container of an attempt runs, the next run finds it blocked, the owner clears it
although it still runs, and the run after that starts another. -/
def clearedTooEarly : NodeWorld :=
  runFor "a2" "0123456789a2" (clearedBy (runFor "a2" "0123456789a2" (runFor "a1" "0123456789a1" enabledNode)))

theorem runFor_step (attemptId containerId : String) (world : NodeWorld) :
    NodeStep noHash world (runFor attemptId containerId world) :=
  .runs sampleSettings 0 (passes_serveWhile fun _ => startingNode_happens)

theorem clearedBy_step (world : NodeWorld) : NodeStep noHash world (clearedBy world) :=
  .clears Option.none (passes_serveWhile fun _ => startingNode_happens)

theorem clearedTooEarly_life : NodeLife noHash enabledNode clearedTooEarly :=
  .tail (.tail (.tail (.tail .refl (runFor_step _ _ _)) (runFor_step _ _ _)) (clearedBy_step _)) (runFor_step _ _ _)

theorem clearedTooEarly_runs :
    clearedTooEarly.launches = [⟨"a2", "0123456789a2"⟩, ⟨"a1", "0123456789a1"⟩] ∧
    clearedTooEarly.begun = ["a2", "a1"] ∧ (clearedTooEarly.containers "0123456789a1").running = true ∧
    (clearedTooEarly.containers "0123456789a2").running = true := by decide +kernel

theorem enabledNode_enabled : Enabled sampleGeneration enabledNode where
  sound := by
    have absent : ∀ {α : Type} (id : String), (∅ : Table String α)[id]? = Option.none := fun id => by simp
    refine ⟨∅, ⟨fun id => ?_, fun id row no => ?_, fun id row no => ?_⟩, by decide +kernel, by decide +kernel⟩
    · rw [show enabledNode.file.attempts = ∅ from rfl, absent, absent, Option.map_none]
    · rw [absent] at no
      cases no
    · rw [absent] at no
      cases no
  begun := rfl
  launches := rfl

end Samples

section Results

/-- Two containers that run at once are of attempts of which the owner cleared one. -/
theorem one_container_at_a_time (enabled : Enabled generation world) (life : NodeLife blake3 world later)
    {first second : Launch} (firstListed : first ∈ later.launches) (secondListed : second ∈ later.launches)
    (firstRuns : (later.containers first.containerId).running = true)
    (secondRuns : (later.containers second.containerId).running = true) :
    first.containerId = second.containerId ∨ first.attemptId ∈ later.cleared ∨ second.attemptId ∈ later.cleared := by
  obtain ⟨ledger, consistent⟩ := life_alive enabled life
  have runs {launch : Launch} (settled : later.Settled launch)
      (running : (later.containers launch.containerId).running = true) : launch.attemptId ∈ later.cleared := by
    rcases settled with cleared | quiet
    · exact cleared
    · rw [quiet.stopped] at running
      cases running
  exact (consistent.alone first firstListed second secondListed).imp_right
    (Or.imp (runs · firstRuns) (runs · secondRuns))

theorem cleared_container_still_runs :
    (clearedTooEarly.containers "0123456789a1").running = true ∧
    (clearedTooEarly.containers "0123456789a2").running = true ∧
    ("0123456789a2" = "0123456789a1" ∨ "a2" ∈ clearedTooEarly.cleared ∨ "a1" ∈ clearedTooEarly.cleared) := by
  have life := clearedTooEarly_life
  obtain ⟨launches, _, firstRuns, secondRuns⟩ := clearedTooEarly_runs
  generalize clearedTooEarly = later at *
  refine ⟨firstRuns, secondRuns, ?_⟩
  exact @one_container_at_a_time _ _ _ _ enabledNode_enabled life ⟨"a2", "0123456789a2"⟩
    ⟨"a1", "0123456789a1"⟩ (by simp [launches]) (by simp [launches]) secondRuns firstRuns

/-- The ledger that the next run reads has every container that was started, as one that is gone only if it has
stopped, and as closed only if the owner cleared it, or its report was kept and it has stopped. -/
theorem ledger_tells_of_containers (enabled : Enabled generation world) (life : NodeLife blake3 world later)
    {launch : Launch} (listed : launch ∈ later.launches) :
    ∃ row, later.file.row launch.attemptId = .ok (some row) ∧ row.executor = .container ∧
      (row.containerRemoved = some true → (later.containers launch.containerId).Quiet) ∧
      (row.state = .closed → launch.attemptId ∈ later.cleared ∨
        ((later.containers launch.containerId).Quiet ∧ launch.attemptId ∈ later.persisted)) := by
  obtain ⟨ledger, consistent⟩ := life_alive enabled life
  obtain ⟨row, found, attests⟩ := consistent.rows launch listed
  refine ⟨row, ?_, attests.container, attests.removed, fun closed => ?_⟩
  · rw [row_of_mirrors consistent.sound.mirrors, found]
  · exact (attests.closed closed).imp_right fun both => ⟨attests.removed both.1, both.2⟩

theorem ledger_tells_of_running : ∃ row, clearedTooEarly.file.row "a2" = .ok (some row) ∧
    row.executor = .container ∧ row.containerRemoved ≠ some true := by
  have life := clearedTooEarly_life
  obtain ⟨launches, _, _, runs⟩ := clearedTooEarly_runs
  generalize clearedTooEarly = later at *
  obtain ⟨row, found, container, gone, _⟩ := @ledger_tells_of_containers _ _ _ _ enabledNode_enabled
    life ⟨"a2", "0123456789a2"⟩ (by simp [launches])
  refine ⟨row, found, container, fun removed => ?_⟩
  rw [(gone removed).stopped] at runs
  cases runs

end Results

end Gputeer.Agent
