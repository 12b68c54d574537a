import Gputeer.Agent.AttemptWorld

/-! What an Agent secures before it starts a workload: that everything has stopped, as far as its ledger says, and that
the attempt has its row and its start record. -/

namespace Gputeer.Agent

open Dialogue RunEvidence NodeWorld

section Rules

variable {generation : String} {world : NodeWorld} {α β : Type} {P : NodeWorld → Prop}

theorem asks_takes (step : AgentStep) : Asks Grows (takes step) := asks_question trivial

theorem asks_forEach {step : α → NodeDialogue (Except String Unit)} (asks : ∀ item, Asks Grows (step item))
    (items : List α) : Asks Grows (forEach step items) := by
  induction items with
  | nil => exact asks_pure _
  | cons first rest ih => exact (asks first).andThen fun _ => ih

/-- A loop of steps that each keep it. -/
theorem secures_forEach {step : α → NodeDialogue (Except String Unit)} {items : List α}
    (each : ∀ item ∈ items, ∀ world, P world → Ensures generation (fun later _ => P later) world (step item))
    (holds : P world) : Ensures generation (fun later _ => P later) world (forEach step items) := by
  induction items generalizing world with
  | nil => exact secures_pure holds
  | cons first rest ih =>
      rw [List.forall_mem_cons] at each
      exact (each.1 world holds).andThen (fun _ _ after => after) fun later _ => ih each.2

theorem NodeWorld.Steady.ends {post : α → Prop} {dialogue : NodeDialogue α} (steady : Steady generation P)
    (holds : P world) (ends : Ends Grows post dialogue) :
    Ensures generation (fun later result => P later ∧ post result) world dialogue := by
  induction dialogue generalizing world with
  | done result => exact ⟨holds, ends⟩
  | ask asked next ih =>
      intro answered later went
      have after := steady.becomes _ _ (went.becomes ends.1) holds
      exact ⟨steady.alive _ after, ih answered after (ends.2 answered)⟩

theorem failAfterCleanup_ends (primary : String) :
    Ends Grows (fun result : Except String α => ∃ error, result = .error error) (failAfterCleanup primary) := by
  refine Asks.bind_ends (asks_takes _) fun removed => ?_
  cases removed with
  | ok done => exact holds_pure ⟨_, rfl⟩
  | error cleanup => exact holds_pure ⟨_, rfl⟩

/-- The rule of a step after whose failure the folder is removed. -/
theorem secures_orCleanUp {step : NodeDialogue (Except String α)} {worded : String → String}
    {next : α → NodeDialogue (Except String β)} {middle : NodeWorld → α → Prop}
    {post : NodeWorld → Except String β → Prop} (steady : Steady generation P)
    (first : Ensures generation (fun later result => P later ∧ ∀ value, result = .ok value → middle later value) world
      step)
    (failed : ∀ later error, P later → post later (.error error))
    (rest : ∀ later value, P later → middle later value → Ensures generation post later (next value)) :
    Ensures generation post world (orCleanUp step worded next) := by
  refine first.bind fun later result right => ?_
  cases result with
  | ok value => exact rest later value right.1 (right.2 value rfl)
  | error error =>
      refine (steady.ends right.1 (failAfterCleanup_ends (worded error))).mono fun last result after => ?_
      obtain ⟨kept, why, rfl⟩ := after
      exact failed last why kept

theorem secures_orCleanUp_takes {step : AgentStep} {worded : String → String}
    {next : Unit → NodeDialogue (Except String β)} {post : NodeWorld → Except String β → Prop}
    (steady : Steady generation P) (holds : P world) (failed : ∀ later error, P later → post later (.error error))
    (rest : ∀ later, P later → Ensures generation post later (next ())) :
    Ensures generation post world (orCleanUp (takes step) worded next) :=
  secures_orCleanUp steady ((steady.asks holds (asks_takes step)).mono fun _ _ after => ⟨after, fun _ _ => trivial⟩)
    failed fun later _ after _ => rest later after

/-- Whatever was started has stopped, as far as the node answers for it. -/
structure Calm (generation : String) (world : NodeWorld) : Prop where
  alive : world.Alive generation
  settled : ∀ launch ∈ world.launches, world.Settled launch

theorem steady_calm : Steady generation (Calm generation) where
  alive := fun _ calm => calm.alive
  becomes := fun world later becomes calm => by
    refine ⟨steady_alive.becomes _ _ becomes calm.alive, ?_⟩
    rw [becomes.launches]
    exact fun launch listed => becomes.settled (calm.settled launch listed)

end Rules

section Starting

variable {generation : String} {world later : NodeWorld} {blake3 : List UInt8 → Vector UInt8 32}
  {settings : AgentSettings} {records : AttemptIds} {rows : List AttemptRow} {row : AttemptRow}

/-- While the rows that are left are resolved. -/
structure Resolving (generation : String) (records : AttemptIds) (rows : List AttemptRow) (world : NodeWorld) :
    Prop where
  alive : world.Alive generation
  recorded : ∀ launch ∈ world.launches, launch.attemptId ∈ records
  hosts : ∀ row ∈ rows, row.executor ≠ .container → ∀ launch ∈ world.launches, launch.attemptId ≠ row.attemptId

theorem Resolving.of_launches (resolving : Resolving generation records rows world) (alive : later.Alive generation)
    (same : later.launches = world.launches) : Resolving generation records rows later :=
  ⟨alive, same ▸ resolving.recorded, same ▸ resolving.hosts⟩

theorem steady_resolving : Steady generation (Resolving generation records rows) where
  alive := fun _ resolving => resolving.alive
  becomes := fun _ _ becomes resolving =>
    resolving.of_launches (steady_alive.becomes _ _ becomes resolving.alive) becomes.launches

theorem Resolving.calls (resolving : Resolving generation records rows world) (call : LedgerCall)
    (fromNew : call.FromNewActive) (may : world.MayCall call) :
    Ensures generation (fun later _ => Resolving generation records rows later) world (calls call) := by
  obtain ⟨ledger, consistent⟩ := resolving.alive
  have called := consistent.called fromNew may
  refine secures_calls consistent fromNew may (fun later _ becomes => ?_) fun later _ becomes => ?_
  · exact resolving.of_launches ⟨_, called.becomes becomes⟩ becomes.launches
  · rcases becomes with after | before
    · exact resolving.of_launches ⟨_, called.becomes after⟩ after.launches
    · exact resolving.of_launches ⟨_, consistent.becomes before⟩ before.launches

theorem mem_of_acceptedIn {entries : List (Except String (Option Protocol.AttemptReport))}
    (accepted : acceptedIn row entries = .ok true) :
    ∃ report, .ok (some report) ∈ entries ∧ report.attemptId = row.attemptId := by
  induction entries with
  | nil => cases accepted
  | cons entry rest ih =>
      rcases entry with error | _ | report
      · cases accepted
      · obtain ⟨report, listed, same⟩ := ih accepted
        exact ⟨report, List.mem_cons_of_mem _ listed, same⟩
      · rw [acceptedIn] at accepted
        split at accepted
        · next own => exact ⟨report, List.mem_cons_self, own.1⟩
        · obtain ⟨report, listed, same⟩ := ih accepted
          exact ⟨report, List.mem_cons_of_mem _ listed, same⟩

/-- A row of which a report is accepted is of an attempt whose report was kept. -/
theorem acceptedOutboxReportExists_secures (resolving : Resolving generation records rows world) :
    Ensures generation (fun later accepted => Resolving generation records rows later ∧
      (accepted = .ok true → row.attemptId ∈ later.persisted)) world (acceptedOutboxReportExists row) := by
  refine (steady_resolving.question resolving .outbox trivial).bind fun later answered right => ?_
  obtain ⟨after, before, _, went⟩ := right
  cases answered with
  | error error => exact secures_pure ⟨after, fun no => by cases no⟩
  | ok entries =>
      refine secures_pure ⟨after, fun accepted => ?_⟩
      obtain ⟨report, listed, same⟩ := mem_of_acceptedIn accepted
      exact (went.becomes trivial).persisted _ (same ▸ went.told report listed)

theorem resolveActiveRow_secures (listed : row ∈ rows) (resolving : Resolving generation records rows world) :
    Ensures generation (fun later _ => Resolving generation records rows later) world
      (resolveActiveRow blake3 records row) := by
  unfold resolveActiveRow
  dsimp only
  split
  · exact secures_pure resolving
  · cases executor : row.executor with
    | legacy => exact secures_pure resolving
    | host =>
        have idle := resolving.hosts row listed (by rw [executor]; decide)
        refine resolving.calls _ trivial ?_
        split
        · exact idle
        · exact idle
    | container =>
        dsimp only
        split
        · next unrecorded =>
          exact resolving.calls _ trivial fun launch listed same => unrecorded (same ▸ resolving.recorded launch listed)
        · refine (acceptedOutboxReportExists_secures resolving).andThen (fun _ _ right => right.1)
            fun later accepted right => ?_
          split
          · next both =>
            refine right.1.calls _ trivial fun _ => right.2 ?_
            rw [both.1]
          · refine (right.1.calls (.markLocalBlocked _ _) trivial trivial).andThen
              (fun _ _ after => after) fun last _ after => ?_
            refine (steady_resolving.question after _ ?_).bind fun _ _ still => secures_pure still.1
            trivial

/-- The rows that are read say of the started containers that they are containers. -/
theorem hosts_of_rows (alive : world.Alive generation) (read : world.file.rows = .ok rows) (listed : row ∈ rows)
    (foreign : row.executor ≠ .container) {launch : Launch} (started : launch ∈ world.launches) :
    launch.attemptId ≠ row.attemptId := by
  obtain ⟨ledger, consistent⟩ := alive
  obtain ⟨stored, there, attests⟩ := consistent.rows launch started
  rw [rows_of_mirrors consistent.sound.mirrors, Except.ok.injEq] at read
  rw [← read] at listed
  obtain ⟨id, found⟩ := Table.mem_rows.mp listed
  intro same
  rw [same, consistent.sound.mirrors.named id row found, found, Option.some.injEq] at there
  exact foreign (there ▸ attests.container)

/-- Where no row is open, everything has stopped. -/
theorem calm_of_unblocked (alive : world.Alive generation) (read : world.file.blocksNewWork = .ok false) :
    Calm generation world := by
  refine ⟨alive, fun launch listed => ?_⟩
  obtain ⟨ledger, consistent⟩ := alive
  obtain ⟨row, found, attests⟩ := consistent.rows launch listed
  rw [blocksNewWork_of_mirrors consistent.sound.mirrors, Except.ok.injEq, List.any_eq_false] at read
  have closed : row.state = .closed := by simpa using read row (Table.mem_rows.mpr ⟨_, found⟩)
  exact (attests.closed closed).imp_right fun both => attests.removed both.1

theorem resolveActiveLedgerRows_secures (alive : world.Alive generation) :
    Ensures generation (fun later _ => later.Alive generation) world (resolveActiveLedgerRows blake3) := by
  refine (steady_alive.question alive .scanStartRecords trivial).andThen (fun _ _ right => right.1)
    fun later records right => ?_
  obtain ⟨after, before, ⟨ledger, consistent⟩, went⟩ := right
  have same : records = before.started := went.told
  have resolving : Resolving generation records [] later := by
    refine ⟨after, ?_, fun row listed => by cases listed⟩
    rw [(went.becomes trivial).launches, same]
    exact fun launch listed => consistent.recorded _ (consistent.begun launch listed)
  refine (steady_resolving.asks resolving (asks_takes _)).andThen (fun _ _ after => after.alive)
    fun between _ resolving => ?_
  refine (steady_resolving.question resolving .rows trivial).andThen (fun _ _ right => right.1.alive)
    fun last rows right => ?_
  obtain ⟨after, before, _, went⟩ := right
  have read : last.file.rows = .ok rows := by
    rw [(went.becomes trivial).file]
    exact went.told
  have held : Resolving generation records rows last :=
    ⟨after.alive, after.recorded, fun row listed foreign launch started =>
      hosts_of_rows after.alive read listed foreign started⟩
  exact (secures_forEach (fun row listed world held => resolveActiveRow_secures listed held) held).mono
    fun _ _ after => after.alive

/-- A run goes on only with its ledger, and where everything has stopped. -/
structure LedgerOpened (generation : String) (settings : AgentSettings) (world : NodeWorld) (result : Except String Bool) :
    Prop where
  alive : world.Alive generation
  opened : ∀ ledgerOn, result = .ok ledgerOn →
    ledgerOn = true ∧ settings.requireAckReceipt = true ∧ Calm generation world

theorem opened_error (alive : world.Alive generation) (error : String) :
    LedgerOpened generation settings world (.error error) := ⟨alive, fun _ no => by cases no⟩

theorem openRunLedgerAtStartup_secures (alive : world.Alive generation) :
    Ensures generation (LedgerOpened generation settings) world (openRunLedgerAtStartup blake3 settings) := by
  refine (steady_alive.question alive .detect trivial).andThen (fun _ error right => opened_error right.1 error)
    fun later presence right => ?_
  obtain ⟨alive, before, _, went⟩ := right
  have there : presence.ledger = true := went.told
  have enabled : presence.neverEnabled = false := by simp [Presence.neverEnabled, there]
  have refused (error : String) : Ensures (α := Except String Bool) generation (LedgerOpened generation settings)
      later (pure (.error error)) := secures_pure (opened_error alive error)
  rw [enabled]
  split
  · rw [if_neg Bool.false_ne_true]
    split
    · exact refused _
    · exact refused _
  · split
    · exact refused _
    · split
      · exact refused _
      · split
        · exact refused _
        · next required =>
          refine (steady_alive.question alive .openForAgent trivial).andThen
            (fun _ error right => opened_error right.1 error) fun opened _ right => ?_
          refine (resolveActiveLedgerRows_secures right.1).andThen (fun _ error alive => opened_error alive error)
            fun resolved _ alive => ?_
          refine (steady_alive.question alive .blocksNewWork trivial).andThen
            (fun _ error right => opened_error right.1 error) fun last blocked right => ?_
          obtain ⟨alive, before, _, went⟩ := right
          cases blocked with
          | true => exact secures_pure (opened_error alive _)
          | false =>
              refine secures_pure ⟨alive, fun ledgerOn same => ?_⟩
              cases same
              have read : last.file.blocksNewWork = .ok false := by
                rw [(went.becomes trivial).file]
                exact went.told
              exact ⟨rfl, by simpa using required, calm_of_unblocked alive read⟩

end Starting

section Entering

variable {generation attemptId : String} {world later : NodeWorld} {blake3 : List UInt8 → Vector UInt8 32}
  {settings : AgentSettings} {held : HeldGrant} {policy : ExecutionPolicy}

/-- Everything has stopped, and the execution of this attempt was not begun. -/
structure Fresh (generation attemptId : String) (world : NodeWorld) : Prop where
  calm : Calm generation world
  unbegun : attemptId ∉ world.begun

/-- Where a container is to run, the ledger has its row. -/
def RowWritten (attemptId : String) (policy : ExecutionPolicy) (world : NodeWorld) : Prop :=
  ∀ execution, policy.container = .container execution →
    ∃ row, world.file.row attemptId = .ok (some row) ∧ row.IsOpen

/-- An attempt that was not begun, and has its row. -/
structure Entered (generation attemptId : String) (policy : ExecutionPolicy) (world : NodeWorld) : Prop where
  fresh : Fresh generation attemptId world
  row : RowWritten attemptId policy world

/-- All that must be kept of an attempt before it is executed. -/
structure Ready (generation attemptId : String) (policy : ExecutionPolicy) (world : NodeWorld) : Prop where
  entered : Entered generation attemptId policy world
  recorded : attemptId ∈ world.started

theorem steady_fresh : Steady generation (Fresh generation attemptId) where
  alive := fun _ fresh => fresh.calm.alive
  becomes := fun _ _ becomes fresh =>
    ⟨steady_calm.becomes _ _ becomes fresh.calm, by
      rw [becomes.begun]
      exact fresh.unbegun⟩

theorem RowWritten.of_file (row : RowWritten attemptId policy world) (same : later.file = world.file) :
    RowWritten attemptId policy later := by
  unfold RowWritten
  rw [same]
  exact row

theorem steady_entered : Steady generation (Entered generation attemptId policy) where
  alive := fun _ entered => entered.fresh.calm.alive
  becomes := fun _ _ becomes entered =>
    ⟨steady_fresh.becomes _ _ becomes entered.fresh, entered.row.of_file becomes.file⟩

theorem steady_ready : Steady generation (Ready generation attemptId policy) where
  alive := fun _ ready => ready.entered.fresh.calm.alive
  becomes := fun _ _ becomes ready =>
    ⟨steady_entered.becomes _ _ becomes ready.entered, becomes.started _ ready.recorded⟩

/-- Nothing was started for an attempt that was not begun. -/
theorem Fresh.idle (fresh : Fresh generation attemptId world) :
    ∀ launch ∈ world.launches, launch.attemptId ≠ attemptId := by
  obtain ⟨ledger, consistent⟩ := fresh.calm.alive
  rintro launch listed rfl
  exact fresh.unbegun (consistent.begun launch listed)

theorem Calm.called {call : LedgerCall} (calm : Calm generation world) (fromNew : call.FromNewActive)
    (may : world.MayCall call) : Calm generation (world.called call) where
  alive := by
    obtain ⟨ledger, consistent⟩ := calm.alive
    exact ⟨_, consistent.called fromNew may⟩
  settled := fun launch listed => (calm.settled launch listed).imp_left mem_cleared_called

theorem Fresh.calls (fresh : Fresh generation attemptId world) (call : LedgerCall) (fromNew : call.FromNewActive)
    (may : world.MayCall call) :
    Ensures generation (fun later result => Fresh generation attemptId later ∧ (result = .ok () →
      (call.call true world.file).2 = .ok () ∧ later.file = (world.called call).file)) world (calls call) := by
  obtain ⟨ledger, consistent⟩ := fresh.calm.alive
  have called : Fresh generation attemptId (world.called call) := ⟨fresh.calm.called fromNew may, fresh.unbegun⟩
  refine secures_calls consistent fromNew may (fun later done becomes => ?_) fun later error becomes => ?_
  · exact ⟨steady_fresh.becomes _ _ becomes called, fun _ => ⟨done, becomes.file⟩⟩
  · refine ⟨?_, fun no => by cases no⟩
    rcases becomes with after | before
    · exact steady_fresh.becomes _ _ after called
    · exact steady_fresh.becomes _ _ before fresh

/-- A row that was written is read again. -/
theorem row_inserted {row : AttemptRow} (alive : world.Alive generation)
    (fromNew : (LedgerCall.insertActive row).FromNewActive)
    (done : ((LedgerCall.insertActive row).call true world.file).2 = .ok ()) :
    (world.called (.insertActive row)).file.row row.attemptId = .ok (some row) := by
  obtain ⟨ledger, consistent⟩ := alive
  have answers := answers_call consistent.sound.mirrors fromNew true
  cases meant : (LedgerCall.insertActive row).spec ledger with
  | none =>
      rw [meant] at answers
      exact absurd done answers.1
  | some next =>
      rw [meant] at answers
      rcases spec_eq_some meant with ⟨inserted, same, _, rfl⟩ | ⟨stored, there, allowed, _⟩
      · cases same
        have mirrors : Mirrors (world.called (.insertActive row)).file (ledger.insert row.attemptId row) := answers.2
        rw [row_of_mirrors mirrors, Table.lookup_insert, if_pos rfl]
      · cases allowed

theorem newRow_fromNew : (LedgerCall.insertActive (newRow blake3 settings held policy)).FromNewActive := by
  unfold newRow
  split
  · exact ⟨_, _, _, _, _, _, _, _, none, none, rfl⟩
  · exact ⟨_, _, _, _, _, none, none, none, none, none, rfl⟩
  · exact ⟨_, _, _, _, _, none, none, none, none, none, rfl⟩

theorem newRow_isOpen {execution : ContainerExecution} (container : policy.container = .container execution) :
    (newRow blake3 settings held policy).IsOpen := by
  unfold newRow
  rw [container]
  exact ⟨rfl, rfl, by simp [AttemptRow.newActive]⟩

theorem newRow_attemptId : (newRow blake3 settings held policy).attemptId = held.attemptId := by
  unfold newRow
  split <;> rfl

theorem NodeWorld.Happens.recorded {answered : Written}
    (went : world.Happens ⟨.recordAttemptStartedHere attemptId, answered⟩ later) (applied : answered.applied = true) :
    attemptId ∈ later.started := by
  rw [went.rest]
  simp only [NodeWorld.after, applied, if_true]
  exact Std.ExtTreeMap.mem_insert_self

/-- The row, and then the start record. -/
theorem recordStart_secures (fresh : Fresh generation held.attemptId world) :
    Ensures generation (fun later result => Calm generation later ∧
      (result = .ok () → Ready generation held.attemptId policy later)) world
      (recordStart blake3 settings true held policy) := by
  have inserted : Ensures generation (fun later result => Fresh generation held.attemptId later ∧
      ∀ value, result = .ok value → Entered generation held.attemptId policy later) world
      (calls (.insertActive (newRow blake3 settings held policy))) := by
    refine (fresh.calls _ newRow_fromNew trivial).mono fun later result right => ⟨right.1, fun value same => ?_⟩
    obtain ⟨done, file⟩ := right.2 same
    have inserted := row_inserted fresh.calm.alive newRow_fromNew done
    rw [newRow_attemptId, ← file] at inserted
    exact ⟨right.1, fun execution container => ⟨_, inserted, newRow_isOpen container⟩⟩
  have failed {later : NodeWorld} (fresh : Fresh generation held.attemptId later) (error : String) :
      Ensures (α := Except String Unit) generation (fun later result => Calm generation later ∧
        (result = .ok () → Ready generation held.attemptId policy later)) later (failAfterCleanup error) := by
    refine (steady_fresh.ends fresh (failAfterCleanup_ends error)).mono fun last result right => ?_
    obtain ⟨fresh, why, rfl⟩ := right
    exact ⟨fresh.calm, fun no => by cases no⟩
  refine secures_orCleanUp steady_fresh inserted (fun later error fresh => ⟨fresh.calm, fun no => by cases no⟩)
    fun later _ fresh entered => ?_
  refine (steady_entered.question entered (.recordAttemptStartedHere held.attemptId) trivial).bind
    fun last answered right => ?_
  obtain ⟨after, before, _, went⟩ := right
  cases answered with
  | done => exact secures_pure ⟨after.fresh.calm, fun _ => ⟨after, went.recorded rfl⟩⟩
  | failed why applied =>
      refine (after.fresh.calls (.closeActive _ .notStarted) trivial after.fresh.idle).bind fun closed result right => ?_
      cases result with
      | ok done => exact failed right.1 why
      | error error => exact failed right.1 _

/-- An execution is refused as not opted in where it is not. -/
theorem preflight_ends :
    Ends Grows (fun result => result = .error .notOptedIn → policy.optedIn = false) (preflight policy) := by
  have elevated : ∀ answered, hostElevationGate answered ≠ .error .notOptedIn := by
    intro answered
    rcases answered with why | _ | _ <;> simp [hostElevationGate]
  have gpus : Ends Grows (fun result => result = .error .notOptedIn → policy.optedIn = false) (checkGpus policy) := by
    unfold checkGpus
    split
    · refine holds_question_bind trivial fun answered => ?_
      rcases answered with ⟨unverifiable, detail⟩ | checked
      · cases unverifiable <;> exact holds_pure fun no => by cases no
      · exact holds_pure fun no => by cases no
    · exact holds_pure fun no => by cases no
  have checked : Ends Grows (fun result => result = .error .notOptedIn → policy.optedIn = false)
      ((checkHostElevation policy).andThen fun _ =>
        if policy.commitLimitBytes = 0 then pure (.error (.limitNotApplied "commit_limit_bytes 가 0 이다"))
        else checkGpus policy) := by
    have host : Ends Grows (fun result => result ≠ .error .notOptedIn) (checkHostElevation policy) := by
      unfold checkHostElevation
      split
      · split
        · exact holds_pure (by simp)
        · exact Holds.map (f := hostElevationGate) ⟨trivial, elevated⟩
      · exact holds_pure (by simp)
      · exact holds_pure (by simp)
    refine Ends.bind host fun result other => ?_
    cases result with
    | error error => exact holds_pure fun same => absurd same other
    | ok done =>
        dsimp only
        split
        · exact holds_pure fun no => by cases no
        · exact gpus
  unfold preflight
  split
  · exact holds_pure fun no => by cases no
  all_goals
    split
    · next refused =>
      exact holds_pure fun _ => by simpa using refused
    · exact checked

/-- An attempt that was started here is refused, and one that was not was never begun. -/
theorem refuseStarted_secures {refused : NodeDialogue (Except String Unit)} (calm : Calm generation world)
    (refuses : Ends Grows (fun result => ∃ error, result = .error error) refused) :
    Ensures generation (fun later result => Calm generation later ∧
      (result = .ok () → Fresh generation held.attemptId later)) world (refuseStarted held refused) := by
  refine (steady_calm.question calm (.attemptStartedHere held.attemptId) trivial).andThen
    (fun _ _ right => ⟨right.1, fun no => by cases no⟩) fun later started right => ?_
  obtain ⟨after, before, calm, went⟩ := right
  cases started with
  | true =>
      refine (steady_calm.ends after refuses).mono fun last result right => ?_
      obtain ⟨calm, error, rfl⟩ := right
      exact ⟨calm, fun no => by cases no⟩
  | false =>
      have unknown : false = decide (held.attemptId ∈ before.started) := went.told
      refine secures_pure ⟨after, fun _ => ⟨after, ?_⟩⟩
      rw [(went.becomes trivial).begun]
      obtain ⟨ledger, consistent⟩ := calm.alive
      exact fun begun => of_decide_eq_false unknown.symm (consistent.recorded _ begun)

/-- What was prepared when everything before the start is done. -/
structure Prepared (generation attemptId : String) (policy : ExecutionPolicy) (world : NodeWorld)
    (result : Except String Bool) : Prop where
  calm : Calm generation world
  ready : result = .ok true → Ready generation attemptId policy world
  optedOut : result = .ok false → policy.optedIn = false

theorem prepared_error (calm : Calm generation world) (error : String) :
    Prepared generation attemptId policy world (.error error) :=
  ⟨calm, fun no => (by cases no), fun no => (by cases no)⟩

theorem acknowledge_secures (required : settings.requireAckReceipt = true) {willExecute : Bool}
    (optedOut : willExecute = false → policy.optedIn = false) (calm : Calm generation world) :
    Ensures generation (Prepared generation held.attemptId policy) world
      (prepareAttempt.acknowledge blake3 settings true held policy willExecute) := by
  unfold prepareAttempt.acknowledge
  rw [required]
  cases willExecute with
  | false =>
      refine secures_orCleanUp_takes steady_calm calm (fun _ error calm => prepared_error calm error) fun _ calm => ?_
      refine secures_orCleanUp_takes steady_calm calm (fun _ error calm => prepared_error calm error) fun _ calm => ?_
      exact secures_pure ⟨calm, fun no => (by cases no), fun _ => optedOut rfl⟩
  | true =>
      refine (refuseStarted_secures calm (failAfterCleanup_ends _)).andThen
        (fun _ error right => prepared_error right.1 error) fun _ _ right => ?_
      have unstarted (later : NodeWorld) (error : String) (fresh : Fresh generation held.attemptId later) :
          Prepared generation held.attemptId policy later (.error error) := prepared_error fresh.calm error
      refine secures_orCleanUp_takes steady_fresh (right.2 rfl) unstarted fun _ fresh => ?_
      refine secures_orCleanUp_takes steady_fresh fresh unstarted fun _ fresh => ?_
      refine secures_orCleanUp_takes steady_fresh fresh unstarted fun _ fresh => ?_
      refine (recordStart_secures fresh).andThen (fun _ error right => prepared_error right.1 error) fun _ _ right => ?_
      have ready := right.2 rfl
      split
      · refine secures_orCleanUp_takes steady_ready ready
          (fun _ error ready => prepared_error ready.entered.fresh.calm error) fun _ ready => ?_
        exact secures_pure ⟨ready.entered.fresh.calm, fun _ => ready, fun no => by cases no⟩
      · exact secures_pure ⟨ready.entered.fresh.calm, fun _ => ready, fun no => by cases no⟩

/-- An attempt is executed only with its row and its start record, and where everything else has stopped. -/
theorem prepareAttempt_secures (required : settings.requireAckReceipt = true) (calm : Calm generation world) :
    Ensures generation (Prepared generation held.attemptId policy) world
      (prepareAttempt blake3 settings true held policy) := by
  unfold prepareAttempt
  rw [required]
  refine (refuseStarted_secures calm (holds_pure ⟨_, rfl⟩)).andThen (fun _ error right => prepared_error right.1 error)
    fun _ _ right => ?_
  refine (steady_calm.asks right.1 (asks_takes .runFolder)).andThen (fun _ error calm => prepared_error calm error)
    fun between _ calm => ?_
  refine (steady_calm.ends calm preflight_ends).bind fun later result right => ?_
  have refused (error : String) : Ensures generation (Prepared generation held.attemptId policy) later
      (failAfterCleanup error) := by
    refine (steady_calm.ends right.1 (failAfterCleanup_ends error)).mono fun last result right => ?_
    obtain ⟨calm, why, rfl⟩ := right
    exact prepared_error calm why
  cases result with
  | ok done => exact acknowledge_secures required (fun no => by cases no) right.1
  | error error =>
      cases error with
      | notOptedIn => exact acknowledge_secures required (fun _ => right.2 rfl) right.1
      | _ => exact refused _

end Entering

end Gputeer.Agent
