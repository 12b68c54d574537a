import Gputeer.Agent.AttemptRuns

/-! What a node with a run ledger keeps and what runs on it, and what may become of both at every question that a run
of the Agent asks. -/

namespace Gputeer.Agent

open Dialogue RunEvidence

section World

/-- A container that does not run, and will not by a start that is under way. -/
structure ContainerWorld.Quiet (world : ContainerWorld) : Prop where
  stopped : world.running = false
  settled : world.startPending = false

theorem ContainerWorld.Quiet.drifts {world later : ContainerWorld} (quiet : world.Quiet) (drifts : world.Drifts later) :
    later.Quiet where
  stopped := drifts.still quiet.stopped quiet.settled
  settled := by
    rw [Bool.eq_false_iff]
    intro waits
    have before := drifts.startPending waits
    rw [quiet.settled] at before
    cases before

/-- A container that a start was sent to, and the attempt it was for. -/
structure Launch where
  attemptId : String
  containerId : String
  deriving DecidableEq

/-- What a node keeps, the containers on it by their ids, and what has happened: the attempts whose execution was
begun, the containers a start was sent to, the attempts whose report was kept, and those that the owner cleared. -/
structure NodeWorld where
  file : LedgerFile
  started : AttemptIds
  containers : String → ContainerWorld
  begun : List String
  launches : List Launch
  persisted : List String
  cleared : List String

/-- The container that was created. -/
def createdId : Exchange RunQuestion RunQuestion.Answer → Option String
  | ⟨.cli (.create _), .ok output⟩ => if output.success then some (Text.trim output.stdout) else none
  | _ => none

/-- The container that a start was sent to. -/
def startedId : Exchange RunQuestion RunQuestion.Answer → Option String
  | ⟨.cli (.start _), .error (.notSpawned _)⟩ => none
  | ⟨.cli (.start target), _⟩ => some target
  | _ => none

namespace NodeWorld

/-- The world after a call that was carried out. -/
def called (world : NodeWorld) (call : LedgerCall) : NodeWorld :=
  { world with
    file := (call.call true world.file).1
    cleared :=
      match call, (call.call true world.file).2 with
      | .clearLocalBlocked id, .ok () => id :: world.cleared
      | _, _ => world.cleared }

/-- What an exchange changes, but for the containers. -/
def after (world : NodeWorld) : Exchange NodeQuestion NodeQuestion.Answer → NodeWorld
  | ⟨.call call, answered⟩ => if answered.applied then world.called call else world
  | ⟨.recordAttemptStartedHere id, answered⟩ =>
      if answered.applied then { world with started := world.started.insert id () } else world
  | ⟨.outboxTerminalReport id _ _ _, answered⟩ =>
      if answered.applied then { world with persisted := id :: world.persisted } else world
  | ⟨.executionAttempted id, _⟩ => { world with begun := id :: world.begun }
  | ⟨.container id asked, answered⟩ =>
      { world with launches := ((startedId ⟨asked, answered⟩).map (Launch.mk id)).toList ++ world.launches }
  | _ => world

/-- What is answered is so; a failure may say anything. A ledger that is there is seen, a report in the outbox was
kept there, and a new container has an id of its own. -/
def Told (world : NodeWorld) : Exchange NodeQuestion NodeQuestion.Answer → Prop
  | ⟨.detect, .ok presence⟩ => presence.ledger = true
  | ⟨.rows, .ok rows⟩ => world.file.rows = .ok rows
  | ⟨.row id, .ok row⟩ => world.file.row id = .ok row
  | ⟨.blocksNewWork, .ok blocked⟩ => world.file.blocksNewWork = .ok blocked
  | ⟨.call call, .done⟩ => (call.call true world.file).2 = .ok ()
  | ⟨.scanStartRecords, .ok records⟩ => records = world.started
  | ⟨.attemptStartedHere id, .ok started⟩ => started = decide (id ∈ world.started)
  | ⟨.outbox, .ok entries⟩ => ∀ report, .ok (some report) ∈ entries → report.attemptId ∈ world.persisted
  | ⟨.container _ asked, answered⟩ =>
      ∀ id, createdId ⟨asked, answered⟩ = some id → ∀ launch ∈ world.launches, launch.containerId ≠ id
  | _ => True

/-- What may become of the container with this id until the question is answered. -/
def Moves (id : String) (container : ContainerWorld) :
    Exchange NodeQuestion NodeQuestion.Answer → ContainerWorld → Prop
  | ⟨.container _ asked, answered⟩, later =>
      happens id container ⟨asked, answered⟩ later ∧ (createdId ⟨asked, answered⟩ = some id → later = .fresh)
  | _, later => container.Drifts later

/-- What may become of the node until the question is answered. -/
structure Happens (world : NodeWorld) (exchange : Exchange NodeQuestion NodeQuestion.Answer) (later : NodeWorld) :
    Prop where
  told : world.Told exchange
  moves : ∀ id, Moves id (world.containers id) exchange (later.containers id)
  rest : later = { world.after exchange with containers := later.containers }

def Stopped (world : NodeWorld) (launch : Launch) : Prop := (world.containers launch.containerId).Quiet

/-- Stopped, as far as the node answers for it. -/
def Settled (world : NodeWorld) (launch : Launch) : Prop := launch.attemptId ∈ world.cleared ∨ world.Stopped launch

/-- What the ledger says of a container that a start was sent to. -/
structure Attests (world : NodeWorld) (row : AttemptRow) (launch : Launch) : Prop where
  container : row.executor = .container
  removed : row.containerRemoved = some true → world.Stopped launch
  closed : row.state = .closed →
    launch.attemptId ∈ world.cleared ∨ (row.containerRemoved = some true ∧ launch.attemptId ∈ world.persisted)

/-- What holds at every moment of the life of a node, with the rows that its ledger has. -/
structure Consistent (generation : String) (ledger : TypedLedger) (world : NodeWorld) : Prop where
  sound : Sound generation world.file ledger
  once : world.begun.Nodup
  recorded : ∀ id ∈ world.begun, id ∈ world.started
  begun : ∀ launch ∈ world.launches, launch.attemptId ∈ world.begun
  single : (world.launches.map Launch.attemptId).Nodup
  rows : ∀ launch ∈ world.launches, ∃ row, ledger[launch.attemptId]? = some row ∧ world.Attests row launch
  alone : ∀ first ∈ world.launches, ∀ second ∈ world.launches,
    first.containerId = second.containerId ∨ world.Settled first ∨ world.Settled second

/-- As `later`, but for what grows and for containers that end. -/
structure Becomes (world later : NodeWorld) : Prop where
  file : later.file = world.file
  started : ∀ id ∈ world.started, id ∈ later.started
  containers : ∀ id, (world.containers id).Quiet → (later.containers id).Quiet
  begun : later.begun = world.begun
  launches : later.launches = world.launches
  persisted : ∀ id ∈ world.persisted, id ∈ later.persisted
  cleared : later.cleared = world.cleared

variable {generation : String} {ledger : TypedLedger} {world later : NodeWorld} {launch : Launch}

theorem Becomes.settled (becomes : world.Becomes later) (settled : world.Settled launch) : later.Settled launch :=
  settled.imp (fun cleared => becomes.cleared ▸ cleared) (becomes.containers _)

theorem Attests.mono {row : AttemptRow} (attests : world.Attests row launch)
    (containers : (world.containers launch.containerId).Quiet → (later.containers launch.containerId).Quiet)
    (persisted : ∀ id ∈ world.persisted, id ∈ later.persisted) (cleared : ∀ id ∈ world.cleared, id ∈ later.cleared) :
    later.Attests row launch where
  container := attests.container
  removed := fun removed => containers (attests.removed removed)
  closed := fun closed => (attests.closed closed).imp (cleared _) fun both => ⟨both.1, persisted _ both.2⟩

theorem Consistent.becomes (consistent : world.Consistent generation ledger) (becomes : world.Becomes later) :
    later.Consistent generation ledger where
  sound := by
    rw [becomes.file]
    exact consistent.sound
  once := by
    rw [becomes.begun]
    exact consistent.once
  recorded := by
    rw [becomes.begun]
    exact fun id listed => becomes.started id (consistent.recorded id listed)
  begun := by
    rw [becomes.begun, becomes.launches]
    exact consistent.begun
  single := by
    rw [becomes.launches]
    exact consistent.single
  rows := by
    rw [becomes.launches]
    intro launch listed
    obtain ⟨row, found, attests⟩ := consistent.rows launch listed
    exact ⟨row, found, attests.mono (becomes.containers _) becomes.persisted fun _ => by rw [becomes.cleared]; exact id⟩
  alone := by
    rw [becomes.launches]
    intro first listed second there
    exact (consistent.alone first listed second there).imp_right (Or.imp becomes.settled becomes.settled)

section Called

/-- What a call must be true of, besides what the ledger itself looks at. -/
def MayCall (world : NodeWorld) : LedgerCall → Prop
  | .closeActive id .reportPersisted => (∃ launch ∈ world.launches, launch.attemptId = id) → id ∈ world.persisted
  | .closeActive id _ => ∀ launch ∈ world.launches, launch.attemptId ≠ id
  | .recordContainerExit id _ true _ | .markContainerRemoved id _ =>
      ∀ launch ∈ world.launches, launch.attemptId = id → world.Stopped launch
  | _ => True

theorem mem_cleared_called {id : String} {call : LedgerCall} (listed : id ∈ world.cleared) :
    id ∈ (world.called call).cleared := by
  unfold called
  dsimp only
  split
  · exact List.mem_cons_of_mem _ listed
  · exact listed

/-- What an allowed call says of a container is so. -/
theorem Attests.called {call : LedgerCall} {row : AttemptRow} (attests : world.Attests row launch)
    (listed : launch ∈ world.launches) (same : call.attemptId = launch.attemptId) (allowed : call.Allowed row = true)
    (done : (call.call true world.file).2 = .ok ()) (may : world.MayCall call) :
    (world.called call).Attests (call.after row) launch := by
  have open_ {next : AttemptRow} (active : row.state = .active) (still : next.state = row.state)
      (closed : next.state = .closed) {P : Prop} : P := by
    rw [still, active] at closed
    cases closed
  cases call with
  | insertActive other => cases allowed
  | recordFacts id facts =>
      simp only [LedgerCall.Allowed, decide_eq_true_eq] at allowed
      exact ⟨attests.container, attests.removed, fun closed => open_ allowed rfl closed⟩
  | markContainerRemoved id containerId =>
      simp only [LedgerCall.Allowed, decide_eq_true_eq] at allowed
      exact ⟨attests.container, fun _ => may launch listed same.symm, fun closed => open_ allowed.2 rfl closed⟩
  | recordContainerExit id facts removedConfirmed reason =>
      simp only [LedgerCall.Allowed, decide_eq_true_eq] at allowed
      cases removedConfirmed with
      | true =>
          exact ⟨attests.container, fun _ => may launch listed same.symm, fun closed => open_ allowed.2 rfl closed⟩
      | false => exact ⟨attests.container, attests.removed, fun closed => by cases closed⟩
  | markLocalBlocked id reason => exact ⟨attests.container, attests.removed, fun closed => by cases closed⟩
  | closeActive id reason =>
      simp only [LedgerCall.Allowed, decide_eq_true_eq] at allowed
      refine ⟨attests.container, attests.removed, fun _ => Or.inr ?_⟩
      have fits := allowed.2
      cases reason with
      | reportPersisted =>
          simp only [CloseReason.Fits, attests.container, decide_eq_true_eq] at fits
          exact ⟨fits, same ▸ may ⟨launch, listed, same.symm⟩⟩
      | notStarted => exact absurd same.symm (may launch listed)
      | noSentinel => exact absurd same.symm (may launch listed)
      | hostRestart =>
          simp only [CloseReason.Fits, attests.container] at fits
          cases fits
  | clearLocalBlocked id =>
      refine ⟨attests.container, attests.removed, fun _ => Or.inl ?_⟩
      have here : id ∈ (world.called (.clearLocalBlocked id)).cleared := by simp [NodeWorld.called, done]
      exact same ▸ here

/-- Such a call leaves everything so. -/
theorem Consistent.called {call : LedgerCall} (consistent : world.Consistent generation ledger)
    (fromNew : call.FromNewActive) (may : world.MayCall call) :
    (world.called call).Consistent generation (meantStep ledger (call, true)) where
  sound := by
    have stepped : Sound generation (ledgerStep world.file (call, true)) (meantStep ledger (call, true)) :=
      consistent.sound.step fromNew
    exact stepped
  once := consistent.once
  recorded := consistent.recorded
  begun := consistent.begun
  single := consistent.single
  alone := fun first listed second there => (consistent.alone first listed second there).imp_right
    (Or.imp (Or.imp_left mem_cleared_called) (Or.imp_left mem_cleared_called))
  rows := by
    intro launch listed
    obtain ⟨row, found, attests⟩ := consistent.rows launch listed
    have kept : (world.called call).Attests row launch :=
      attests.mono id (fun _ => id) fun _ => mem_cleared_called
    have answers := answers_call consistent.sound.mirrors fromNew true
    cases meant : call.spec ledger with
    | none =>
        refine ⟨row, ?_, kept⟩
        rw [meantStep, if_pos rfl, meant, Option.getD_none]
        exact found
    | some next =>
        have step : meantStep ledger (call, true) = next := by rw [meantStep, if_pos rfl, meant, Option.getD_some]
        rw [step]
        rw [meant] at answers
        rcases spec_eq_some meant with ⟨fresh, _, unknown, rfl⟩ | ⟨stored, there, allowed, rfl⟩
        · have away : fresh.attemptId ≠ launch.attemptId := by
            rintro same
            rw [same] at unknown
            exact unknown (Std.ExtTreeMap.mem_iff_isSome_getElem?.mpr (by rw [found]; rfl))
          exact ⟨row, (Table.lookup_insert_ne away).trans found, kept⟩
        · by_cases same : call.attemptId = launch.attemptId
          · rw [same, found, Option.some.injEq] at there
            subst there
            exact ⟨call.after row, by rw [Table.lookup_insert, if_pos same],
              attests.called listed same allowed answers.1 may⟩
          · exact ⟨row, (Table.lookup_insert_ne same).trans found, kept⟩

end Called

section Steps

/-- Whether the question changes neither the ledger nor what was begun, and no container is asked to start. -/
def Grows : NodeQuestion → Prop
  | .call _ | .executionAttempted _ | .container _ _ => False
  | _ => True

theorem becomes_after {asked : NodeQuestion} {answered : asked.Answer} (grows : Grows asked)
    {containers : String → ContainerWorld}
    (quiet : ∀ id, (world.containers id).Quiet → (containers id).Quiet) :
    world.Becomes { world.after ⟨asked, answered⟩ with containers } := by
  have same : world.Becomes { world with containers } :=
    ⟨rfl, fun _ listed => listed, quiet, rfl, rfl, fun _ listed => listed, rfl⟩
  cases asked with
  | call call => exact grows.elim
  | executionAttempted id => exact grows.elim
  | container id asked => exact grows.elim
  | recordAttemptStartedHere id =>
      simp only [after]
      split
      · exact ⟨rfl, fun other listed => Std.ExtTreeMap.mem_insert.mpr (Or.inr listed), quiet, rfl, rfl,
          fun _ listed => listed, rfl⟩
      · exact same
  | outboxTerminalReport id jobId nodeId fenceEpoch =>
      simp only [after]
      split
      · exact ⟨rfl, fun _ listed => listed, quiet, rfl, rfl, fun _ listed => List.mem_cons_of_mem _ listed, rfl⟩
      · exact same
  | _ => exact same

theorem Happens.becomes {asked : NodeQuestion} {answered : asked.Answer} (went : world.Happens ⟨asked, answered⟩ later)
    (grows : Grows asked) : world.Becomes later := by
  rw [went.rest]
  refine becomes_after grows fun id quiet => ?_
  have move := went.moves id
  cases asked with
  | container id asked => exact grows.elim
  | _ => exact quiet.drifts move

theorem Happens.called {call : LedgerCall} {answered : Written}
    (went : world.Happens ⟨.call call, answered⟩ later) :
    (if answered.applied then world.called call else world).Becomes later := by
  rw [went.rest]
  have quiet : ∀ id, (world.containers id).Quiet → (later.containers id).Quiet := fun id quiet =>
    quiet.drifts (went.moves id)
  simp only [after]
  split
  · exact ⟨rfl, fun _ listed => listed, quiet, rfl, rfl, fun _ listed => listed, rfl⟩
  · exact ⟨rfl, fun _ listed => listed, quiet, rfl, rfl, fun _ listed => listed, rfl⟩

/-- What is known at every moment of a life. -/
def Alive (generation : String) (world : NodeWorld) : Prop := ∃ ledger, world.Consistent generation ledger

/-- What the world is while a program asks for nothing that would change it. -/
structure Steady (generation : String) (P : NodeWorld → Prop) : Prop where
  alive : ∀ world, P world → world.Alive generation
  becomes : ∀ world later, world.Becomes later → P world → P later

abbrev Ensures {α : Type} (generation : String) (post : NodeWorld → α → Prop) (world : NodeWorld)
    (dialogue : NodeDialogue α) : Prop :=
  Secures Happens (Alive generation) post world dialogue

theorem steady_alive : Steady generation (Alive generation) where
  alive := fun _ => id
  becomes := fun _ _ becomes ⟨ledger, consistent⟩ => ⟨ledger, consistent.becomes becomes⟩

variable {α β : Type} {P : NodeWorld → Prop} {dialogue : NodeDialogue α}

theorem Steady.question (steady : Steady generation P) (holds : P world) (asked : NodeQuestion) (grows : Grows asked) :
    Ensures generation (fun later answered => P later ∧ ∃ before, P before ∧ before.Happens ⟨asked, answered⟩ later)
      world (question asked) :=
  secures_question fun _ _ went =>
    have after := steady.becomes _ _ (went.becomes grows) holds
    ⟨steady.alive _ after, after, world, holds, went⟩

/-- A program that asks for no change. -/
theorem Steady.asks (steady : Steady generation P) (holds : P world) (asks : Asks Grows dialogue) :
    Ensures generation (fun later _ => P later) world dialogue := by
  induction dialogue generalizing world with
  | done result => exact holds
  | ask asked next ih =>
      intro answered later went
      have after := steady.becomes _ _ (went.becomes asks.1) holds
      exact ⟨steady.alive _ after, ih answered after (asks.2 answered)⟩

/-- A call that may be made, whether or not it is refused, and whatever is told of it. -/
theorem secures_calls {call : LedgerCall} {post : NodeWorld → Except String Unit → Prop} {ledger : TypedLedger}
    (consistent : world.Consistent generation ledger) (fromNew : call.FromNewActive) (may : world.MayCall call)
    (done : ∀ later, (call.call true world.file).2 = .ok () → (world.called call).Becomes later → post later (.ok ()))
    (failed : ∀ later error, (world.called call).Becomes later ∨ world.Becomes later → post later (.error error)) :
    Ensures generation post world (calls call) := by
  refine Secures.map (secures_question fun answered later went => ?_)
  have changed := went.called
  cases answered with
  | done => exact ⟨⟨_, (consistent.called fromNew may).becomes changed⟩, done later went.told changed⟩
  | failed why applied =>
      cases applied with
      | true => exact ⟨⟨_, (consistent.called fromNew may).becomes changed⟩, failed later why (Or.inl changed)⟩
      | false => exact ⟨⟨_, consistent.becomes changed⟩, failed later why (Or.inr changed)⟩

end Steps

end NodeWorld

end World

section Running

open NodeWorld

/-- Which containers a run has heard of. -/
def RunEvidence.Knows (seen : RunEvidence) (id : String) : Prop := seen.createdId = some id ∨ seen.boundId = some id

/-- A container attempt whose end is not in the ledger. -/
structure AttemptRow.IsOpen (row : AttemptRow) : Prop where
  container : row.executor = .container
  active : row.state = .active
  there : row.containerRemoved ≠ some true

/-- While the container of an attempt is run, by what was seen of it: it is the only one that was started for the
attempt, and the containers of the others have stopped, but for what was cleared. -/
structure Running (generation attemptId : String) (seen : RunEvidence) (ledger : TypedLedger) (world : NodeWorld) :
    Prop where
  consistent : world.Consistent generation ledger
  begun : attemptId ∈ world.begun
  row : ∃ row, ledger[attemptId]? = some row ∧ row.IsOpen
  others : ∀ launch ∈ world.launches, launch.attemptId ≠ attemptId → world.Settled launch
  mine : ∀ launch ∈ world.launches, launch.attemptId = attemptId →
    seen.start ≠ .never ∧ seen.boundId = some launch.containerId
  agrees : ∀ id, seen.Knows id → seen.Agrees id (world.containers id)
  apart : ∀ id, seen.Knows id → ∀ launch ∈ world.launches, launch.attemptId ≠ attemptId → launch.containerId ≠ id

variable {generation attemptId name id : String} {seen : RunEvidence} {ledger : TypedLedger}
  {world later : NodeWorld} {asked : RunQuestion} {answered : asked.Answer}

theorem agrees_fresh : seen.Agrees id .fresh := ⟨fun _ => rfl, fun _ => rfl, fun _ _ _ => rfl⟩

/-- Only the start of a container makes it run. -/
theorem quiet_moves {container next : ContainerWorld}
    (moves : Moves id container ⟨.container attemptId asked, answered⟩ next)
    (other : startedId ⟨asked, answered⟩ ≠ some id) (quiet : container.Quiet) : next.Quiet := by
  have went := moves.1
  cases asked with
  | cli command =>
      cases command with
      | start target =>
          cases answered with
          | ok output =>
              have apart : target ≠ id := fun same => other (congrArg some same)
              rw [happens, if_neg apart] at went
              exact quiet.drifts went
          | error failure =>
              cases failure with
              | notSpawned why => exact quiet.drifts went
              | afterSpawn why =>
                  exact quiet.drifts (went.resolve_left fun same => other (congrArg some same))
      | inspectRunning target => exact quiet.drifts went.1
      | inspectState target => exact quiet.drifts went.1
      | _ => exact quiet.drifts went
  | _ => exact quiet.drifts went

theorem ids_state (target : String) (reply : CliReply) :
    (seen.state target reply).createdId = seen.createdId ∧ (seen.state target reply).boundId = seen.boundId := by
  unfold state
  split <;> exact ⟨rfl, rfl⟩

/-- A run hears of a container by creating it. -/
theorem knows_observe (knows : (observe name seen ⟨asked, answered⟩).Knows id) :
    seen.Knows id ∨ createdId ⟨asked, answered⟩ = some id := by
  cases asked with
  | cli command =>
      cases command with
      | create arguments =>
          cases answered with
          | error failure => cases failure <;> exact Or.inl knows
          | ok output =>
              rcases knows with created | bound
              · simp only [observe, RunEvidence.created] at created
                split at created
                · next success =>
                  exact Or.inr ((if_pos success).trans created)
                · exact Or.inl (Or.inl created)
              · exact Or.inl (Or.inr bound)
      | inspectName target =>
          left
          simp only [observe, named] at knows
          split at knows
          · split at knows
            · next both =>
              rcases knows with created | bound
              · exact Or.inl created
              · cases bound
                exact Or.inl both.2
            · exact knows
          · exact knows
      | start target =>
          cases answered with
          | ok output => exact Or.inl knows
          | error failure => cases failure <;> exact Or.inl knows
      | inspectState target =>
          have same := @ids_state seen target answered
          exact Or.inl (knows.imp same.1.symm.trans same.2.symm.trans)
      | _ => exact Or.inl knows
  | _ => exact Or.inl knows

theorem boundId_observe (binding : NotBinding asked) :
    (observe name seen ⟨asked, answered⟩).boundId = seen.boundId := by
  cases asked with
  | cli command =>
      cases command with
      | create arguments => exact binding.elim
      | inspectName target => exact binding.elim
      | start target => exact binding.elim
      | inspectState target => exact ids_state target answered |>.2
      | _ => rfl
  | _ => rfl

theorem Running.agrees_next (running : Running generation attemptId seen ledger world)
    (went : world.Happens ⟨.container attemptId asked, answered⟩ later)
    (knows : (observe name seen ⟨asked, answered⟩).Knows id) :
    (observe name seen ⟨asked, answered⟩).Agrees id (later.containers id) := by
  rcases knows_observe knows with known | created
  · exact agrees_step (running.agrees id known) (went.moves id).1
  · rw [(went.moves id).2 created]
    exact agrees_fresh

theorem Running.apart_next (running : Running generation attemptId seen ledger world)
    (went : world.Happens ⟨.container attemptId asked, answered⟩ later)
    (knows : (observe name seen ⟨asked, answered⟩).Knows id) {launch : Launch} (listed : launch ∈ world.launches)
    (other : launch.attemptId ≠ attemptId) : launch.containerId ≠ id := by
  rcases knows_observe knows with known | created
  · exact running.apart id known launch listed other
  · exact went.told id created launch listed

/-- An exchange that starts nothing. -/
theorem Running.step_unstarted (running : Running generation attemptId seen ledger world) (may : MayOnce seen asked)
    (went : world.Happens ⟨.container attemptId asked, answered⟩ later)
    (unstarted : startedId ⟨asked, answered⟩ = Option.none) :
    Running generation attemptId (observe name seen ⟨asked, answered⟩) ledger later := by
  have becomes : world.Becomes later := by
    rw [went.rest]
    have quiet : ∀ id, (world.containers id).Quiet → (later.containers id).Quiet := fun id =>
      quiet_moves (went.moves id) (by simp [unstarted])
    refine ⟨rfl, fun _ listed => listed, quiet, rfl, ?_, fun _ listed => listed, rfl⟩
    simp only [after, unstarted, Option.map_none, Option.toList_none, List.nil_append]
  refine ⟨running.consistent.becomes becomes, becomes.begun ▸ running.begun, running.row, ?_, ?_,
    fun id => running.agrees_next went, ?_⟩
  · rw [becomes.launches]
    exact fun launch listed other => becomes.settled (running.others launch listed other)
  · rw [becomes.launches]
    intro launch listed own
    obtain ⟨known, bound⟩ := running.mine launch listed own
    have binding : NotBinding asked := by
      by_contra binds
      exact known (may.2 binds)
    exact ⟨fun never => known ((start_observe binding.notStart).symm.trans never),
      (boundId_observe binding).trans bound⟩
  · rw [becomes.launches]
    exact fun id knows launch listed other => running.apart_next went knows listed other

theorem startedId_eq_some {target : String} (sent : startedId ⟨asked, answered⟩ = some target) :
    asked = .cli (.start target) ∧ (observe name seen ⟨asked, answered⟩).start ≠ .never ∧
      (observe name seen ⟨asked, answered⟩).boundId = seen.boundId := by
  cases asked with
  | cli command =>
      cases command with
      | start other =>
          cases answered with
          | ok output =>
              cases sent
              refine ⟨rfl, ?_, rfl⟩
              simp only [observe, RunEvidence.started]
              split <;> simp
          | error failure =>
              cases failure with
              | notSpawned why => cases sent
              | afterSpawn why =>
                  cases sent
                  exact ⟨rfl, fun never => (by cases never), rfl⟩
      | _ => cases sent
  | _ => cases sent

/-- The start of the container of this attempt: all others have stopped. -/
theorem Running.step_started (running : Running generation attemptId seen ledger world) (may : MayOnce seen asked)
    (went : world.Happens ⟨.container attemptId asked, answered⟩ later) {target : String}
    (sent : startedId ⟨asked, answered⟩ = some target) :
    Running generation attemptId (observe name seen ⟨asked, answered⟩) ledger later := by
  obtain ⟨rfl, known, sameBound⟩ := @startedId_eq_some name seen _ answered target sent
  have bound : seen.boundId = some target := may.1
  have never : seen.start = .never := may.2 id
  have others : ∀ launch ∈ world.launches, launch.attemptId ≠ attemptId := fun launch listed own =>
    (running.mine launch listed own).1 never
  have launches : later.launches = ⟨attemptId, target⟩ :: world.launches := by
    rw [went.rest]
    simp only [after, sent, Option.map_some, Option.toList_some, List.cons_append, List.nil_append]
  have fields : later.file = world.file ∧ later.started = world.started ∧ later.begun = world.begun ∧
      later.persisted = world.persisted ∧ later.cleared = world.cleared := by
    rw [went.rest]
    exact ⟨rfl, rfl, rfl, rfl, rfl⟩
  obtain ⟨file, records, begun, persisted, cleared⟩ := fields
  have quiet (launch : Launch) (listed : launch ∈ world.launches)
      (stopped : (world.containers launch.containerId).Quiet) : (later.containers launch.containerId).Quiet := by
    refine quiet_moves (went.moves _) (fun same => ?_) stopped
    rw [sent] at same
    exact running.apart target (Or.inr bound) launch listed (others launch listed) (Option.some.inj same).symm
  have settled : ∀ launch ∈ world.launches, later.Settled launch := fun launch listed =>
    (running.others launch listed (others launch listed)).imp (fun was => cleared ▸ was) (quiet launch listed)
  obtain ⟨row, found, isOpen⟩ := running.row
  refine ⟨⟨?_, ?_, ?_, ?_, ?_, ?_, ?_⟩, ?_, ⟨row, found, isOpen⟩, ?_, ?_, fun id => running.agrees_next went, ?_⟩
  · rw [file]
    exact running.consistent.sound
  · rw [begun]
    exact running.consistent.once
  · rw [begun, records]
    exact running.consistent.recorded
  · rw [begun, launches, List.forall_mem_cons]
    exact ⟨running.begun, running.consistent.begun⟩
  · rw [launches, List.map_cons, List.nodup_cons]
    refine ⟨fun taken => ?_, running.consistent.single⟩
    obtain ⟨launch, listed, own⟩ := List.mem_map.mp taken
    exact others launch listed own
  · rw [launches, List.forall_mem_cons]
    refine ⟨⟨row, found, isOpen.container, fun gone => absurd gone isOpen.there, fun closed => ?_⟩,
      fun launch listed => ?_⟩
    · rw [isOpen.active] at closed
      cases closed
    · obtain ⟨stored, there, attests⟩ := running.consistent.rows launch listed
      exact ⟨stored, there, attests.mono (quiet launch listed) (fun _ was => persisted ▸ was)
        fun _ was => cleared ▸ was⟩
  · rw [launches]
    intro first listed second there
    rcases List.mem_cons.mp listed with rfl | before
    · rcases List.mem_cons.mp there with rfl | before
      · exact Or.inl rfl
      · exact Or.inr (Or.inr (settled second before))
    · exact Or.inr (Or.inl (settled first before))
  · rw [begun]
    exact running.begun
  · rw [launches, List.forall_mem_cons]
    exact ⟨fun other => absurd rfl other, fun launch listed _ => settled launch listed⟩
  · rw [launches, List.forall_mem_cons]
    exact ⟨fun _ => ⟨known, sameBound.trans bound⟩, fun launch listed own => absurd own (others launch listed)⟩
  · rw [launches]
    intro id knows
    rw [List.forall_mem_cons]
    exact ⟨fun other => absurd rfl other, fun launch listed other => running.apart_next went knows listed other⟩

theorem Running.step (running : Running generation attemptId seen ledger world) (may : MayOnce seen asked)
    (went : world.Happens ⟨.container attemptId asked, answered⟩ later) :
    Running generation attemptId (observe name seen ⟨asked, answered⟩) ledger later := by
  cases sent : startedId ⟨asked, answered⟩ with
  | none => exact running.step_unstarted may went sent
  | some target => exact running.step_started may went sent

/-- A run of a container, within that of the Agent. -/
theorem Running.secures {α : Type} {post : RunEvidence → α → Prop} {dialogue : ContainerDialogue α}
    (running : Running generation attemptId seen ledger world) (talks : TalksOnce name post seen dialogue) :
    Ensures generation (fun later result => ∃ told, Running generation attemptId told ledger later ∧ post told result)
      world (duringRun attemptId dialogue) := by
  induction dialogue generalizing seen world with
  | done result => exact ⟨seen, running, talks⟩
  | ask asked next ih =>
      intro answered later went
      have after : Running generation attemptId (observe name seen ⟨asked, answered⟩) ledger later :=
        running.step talks.1 went
      exact ⟨⟨ledger, after.consistent⟩, ih answered after (talks.2 answered)⟩

/-- What the ledger is told of an execution is so. -/
structure FactsHold (attemptId : String) (facts : WorkloadLedgerFacts) (world : NodeWorld) : Prop where
  notStarted : facts.notStarted = true → ∀ launch ∈ world.launches, launch.attemptId ≠ attemptId
  removed : facts.containerRemoved = some true → ∀ launch ∈ world.launches, launch.attemptId = attemptId →
    world.Stopped launch

theorem Running.stopped (running : Running generation attemptId seen ledger world) (answered : seen.start = .answered)
    (stopped : seen.stopSeen = true) {launch : Launch} (listed : launch ∈ world.launches)
    (own : launch.attemptId = attemptId) : world.Stopped launch := by
  have bound := (running.mine launch listed own).2
  have agrees := running.agrees _ (Or.inr bound)
  exact ⟨agrees.stopped bound answered stopped, agrees.pending (by rw [answered]; decide)⟩

/-- The facts that a run of a container comes to are what was seen. -/
theorem Running.facts (running : Running generation attemptId seen ledger world) {result : RunResult}
    (fits : result.Fits seen) : FactsHold attemptId (ledgerFacts (executionOfRun name result)) world := by
  cases result with
  | ok exit => exact ⟨fun no => (by cases no), fun _ _ => running.stopped fits.1 fits.2.1⟩
  | error error =>
      cases error with
      | notStarted detail container =>
          simp only [executionOfRun]
          split
          · exact ⟨fun no => (by cases no), fun no => (by cases no)⟩
          · exact ⟨fun _ launch listed own => (running.mine launch listed own).1 fits.1, fun no => (by cases no)⟩
      | unobserved detail stopped logsComplete container =>
          cases stopped with
          | false => exact ⟨fun no => (by cases no), fun no => (by cases no)⟩
          | true =>
              obtain ⟨answered, seenStopped⟩ := fits.2.1 rfl
              exact ⟨fun no => (by cases no), fun _ _ => running.stopped answered seenStopped⟩

end Running

end Gputeer.Agent
