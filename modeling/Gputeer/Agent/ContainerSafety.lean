import Gputeer.Agent.ContainerEvidence

/-! A run of a container against a runtime that answers as it likes. What the host really does is known only
in part: a container is not restarted by itself, an answered start does not take effect later, and an inspect
that is answered tells the truth. -/

namespace Gputeer.Agent

open Dialogue RunEvidence

section World

/-- The container with one id, as it is on the host. -/
structure ContainerWorld where
  running : Bool
  /-- A start without an answer may take effect yet. -/
  startPending : Bool

/-- Created, and not started. -/
def ContainerWorld.fresh : ContainerWorld := ⟨false, false⟩

/-- What becomes of a container that no one asks to start: it may end, be killed or be removed at any time,
and runs only by a start that was pending. -/
structure ContainerWorld.Drifts (world later : ContainerWorld) : Prop where
  running : later.running = true → world.running = true ∨ world.startPending = true
  startPending : later.startPending = true → world.startPending = true

/-- What may become of the container with this id until the question is answered. -/
def happens (id : String) (world : ContainerWorld) :
    Dialogue.Exchange RunQuestion RunQuestion.Answer → ContainerWorld → Prop
  | ⟨.cli (.start target), .ok _⟩, later =>
      if target = id then later.startPending = true → world.startPending = true else world.Drifts later
  | ⟨.cli (.start target), .error (.afterSpawn _)⟩, later => target = id ∨ world.Drifts later
  | ⟨.cli (.inspectRunning target), reply⟩, later =>
      world.Drifts later ∧
      (target = id → ∀ running, readRunning target reply = .ok running → later.running = running)
  | ⟨.cli (.inspectState target), reply⟩, later =>
      world.Drifts later ∧
      (target = id → ∀ exit, readState target reply = .ok exit → later.running = exit.isNone)
  | _, later => world.Drifts later

/-- What the exchanges are evidence of is true on the host. -/
structure RunEvidence.Agrees (id : String) (seen : RunEvidence) (world : ContainerWorld) : Prop where
  never : seen.start = .never → world.running = false
  pending : seen.start ≠ .unanswered → world.startPending = false
  stopped : seen.boundId = some id → seen.start = .answered → seen.stopSeen = true → world.running = false

variable {id name : String} {seen later : RunEvidence} {world next : ContainerWorld}

theorem ContainerWorld.Drifts.still (drifts : world.Drifts next) (stopped : world.running = false)
    (settled : world.startPending = false) : next.running = false := by
  rw [Bool.eq_false_iff]
  intro runs
  rcases drifts.running runs with ran | pending
  · simp [stopped] at ran
  · simp [settled] at pending

/-- What is known stays true while nothing is learnt. -/
theorem RunEvidence.Agrees.drifts (agrees : seen.Agrees id world) (drifts : world.Drifts next)
    (start : later.start = seen.start)
    (stopped : later.boundId = some id → later.stopSeen = true →
      (seen.boundId = some id ∧ seen.stopSeen = true) ∨ next.running = false) : later.Agrees id next where
  never := by
    rw [start]
    exact fun never => drifts.still (agrees.never never) (agrees.pending (by rw [never]; decide))
  pending := by
    rw [start]
    intro answered
    rw [Bool.eq_false_iff]
    intro waits
    have before := drifts.startPending waits
    rw [agrees.pending answered] at before
    cases before
  stopped := by
    rw [start]
    intro bound answered stop
    rcases stopped bound stop with old | seenNow
    · exact drifts.still (agrees.stopped old.1 answered old.2) (agrees.pending (by rw [answered]; decide))
    · exact seenNow

/-- One lemma for the exchanges that say nothing of whether it runs. -/
theorem RunEvidence.Agrees.unchanged (agrees : seen.Agrees id world) (drifts : world.Drifts next)
    (start : later.start = seen.start) (boundId : later.boundId = seen.boundId)
    (stopSeen : later.stopSeen = seen.stopSeen) : later.Agrees id next :=
  agrees.drifts drifts start fun bound stopped => Or.inl ⟨boundId.symm.trans bound, stopSeen.symm.trans stopped⟩

theorem agrees_created (agrees : seen.Agrees id world) (drifts : world.Drifts next) (reply : CliReply) :
    (seen.created reply).Agrees id next := by
  cases reply with
  | ok output => exact agrees.unchanged drifts rfl rfl rfl
  | error failure =>
      cases failure with
      | notSpawned why => exact agrees.unchanged drifts rfl rfl rfl
      | afterSpawn why => exact agrees.unchanged drifts rfl rfl rfl

theorem agrees_named (agrees : seen.Agrees id world) (drifts : world.Drifts next) (target : String)
    (reply : CliReply) : (seen.named name target reply).Agrees id next := by
  unfold named
  split
  · split
    · exact agrees.drifts drifts rfl fun _ stopped => by cases stopped
    · exact agrees.unchanged drifts rfl rfl rfl
  · exact agrees.unchanged drifts rfl rfl rfl

/-- A start without an answer leaves nothing known. -/
theorem agrees_unanswered (unanswered : seen.start = .unanswered) : seen.Agrees id world where
  never := by
    intro never
    rw [unanswered] at never
    cases never
  pending := fun settled => absurd unanswered settled
  stopped := by
    intro _ answered
    rw [unanswered] at answered
    cases answered

/-- An answered start leaves nothing pending that was not before. -/
theorem agrees_started (agrees : seen.Agrees id world) {target : String} {reply : CliReply}
    (went : happens id world ⟨.cli (.start target), reply⟩ next) : (seen.started reply).Agrees id next := by
  cases reply with
  | error failure =>
      cases failure with
      | notSpawned why => exact agrees.unchanged went rfl rfl rfl
      | afterSpawn why => exact agrees_unanswered rfl
  | ok output =>
      have settled : world.startPending = false → next.startPending = false := by
        intro settled
        rw [Bool.eq_false_iff]
        intro waits
        have before : world.startPending = true := by
          simp only [happens] at went
          split at went
          · exact went waits
          · exact went.startPending waits
        rw [settled] at before
        cases before
      by_cases lost : seen.start = .unanswered
      · exact agrees_unanswered (by simp [started, lost])
      · have answered : (seen.started (.ok output)).start = .answered := by simp [started, lost]
        refine ⟨fun never => ?_, fun _ => settled (agrees.pending lost), fun _ _ no => (by cases no)⟩
        rw [answered] at never
        cases never

theorem agrees_ran (agrees : seen.Agrees id world) (drifts : world.Drifts next) {target : String}
    {reply : CliReply}
    (truthful : target = id → ∀ running, readRunning target reply = .ok running → next.running = running) :
    (seen.ran target reply).Agrees id next := by
  refine agrees.drifts drifts rfl fun bound stopped => ?_
  by_cases old : seen.stopSeen = true
  · exact Or.inl ⟨bound, old⟩
  · right
    have bound : seen.boundId = some id := bound
    simp only [ran, old, Bool.false_or, Bool.and_eq_true, saysStopped, decide_eq_true_eq] at stopped
    obtain ⟨⟨here, _⟩, read⟩ := stopped
    have same : target = id := by
      rw [bound] at here
      exact (Option.some.inj here).symm
    cases answer : readRunning target reply with
    | error why => simp [answer] at read
    | ok running =>
        rw [truthful same running answer]
        simpa [answer] using read

theorem agrees_state (agrees : seen.Agrees id world) (drifts : world.Drifts next) {target : String}
    {reply : CliReply}
    (truthful : target = id → ∀ exit, readState target reply = .ok exit → next.running = exit.isNone) :
    (seen.state target reply).Agrees id next := by
  unfold state
  split
  · next exit answer =>
    refine agrees.drifts drifts rfl fun bound stopped => ?_
    by_cases old : seen.stopSeen = true
    · exact Or.inl ⟨bound, old⟩
    · right
      have bound : seen.boundId = some id := bound
      simp only [old, Bool.false_or, saysStopped, Bool.and_eq_true, decide_eq_true_eq] at stopped
      have same : target = id := by
        rw [bound] at stopped
        exact (Option.some.inj stopped.1).symm
      exact truthful same (some exit) answer
  · exact agrees.unchanged drifts rfl rfl rfl
  · exact agrees.unchanged drifts rfl rfl rfl

/-- Whatever is asked and answered, the evidence stays true. -/
theorem agrees_step (agrees : seen.Agrees id world)
    {exchange : Dialogue.Exchange RunQuestion RunQuestion.Answer} (went : happens id world exchange next) :
    (observe name seen exchange).Agrees id next := by
  obtain ⟨question, answer⟩ := exchange
  cases question with
  | cli command =>
      cases command with
      | create arguments => exact agrees_created agrees went answer
      | inspectName target => exact agrees_named agrees went target answer
      | start target => exact agrees_started agrees went
      | inspectRunning target => exact agrees_ran agrees went.1 went.2
      | inspectState target => exact agrees_state agrees went.1 went.2
      | pull image => exact agrees.unchanged went rfl rfl rfl
      | inspectOwner name => exact agrees.unchanged went rfl rfl rfl
      | kill target => exact agrees.unchanged went rfl rfl rfl
      | logs target => exact agrees.unchanged went rfl rfl rfl
      | remove target => exact agrees.unchanged went rfl rfl rfl
  | gpuCount => exact agrees.unchanged went rfl rfl rfl
  | createFile path => exact agrees.unchanged went rfl rfl rfl
  | removeFile path => exact agrees.unchanged went rfl rfl rfl
  | startedWith target => exact agrees.unchanged went rfl rfl rfl
  | writeIncident kind detail => exact agrees.unchanged went rfl rfl rfl

abbrev Said := List (Dialogue.Exchange RunQuestion RunQuestion.Answer)

/-- What a run for the attempt with this container name has been told so far. -/
def evidence (name : String) (said : Said) : RunEvidence := Trace.run (observe name) .none said

theorem agrees_unfolds {said : Said} (unfolds : Unfolds (happens id) .fresh said world) :
    (evidence name said).Agrees id world :=
  unfolds.agrees ⟨fun _ => rfl, fun _ => rfl, fun _ no => (by cases no)⟩
    fun _ _ _ _ agrees went => agrees_step agrees went

end World

section Told

variable {name : String} {seen : RunEvidence} {said : Said}

theorem state_start (target : String) (reply : CliReply) :
    (seen.state target reply).start = seen.start := by
  unfold state
  split
  · rfl
  · rfl
  · rfl

/-- Only a `start` that was spawned is evidence of a start. -/
theorem never_observed {exchange : Dialogue.Exchange RunQuestion RunQuestion.Answer}
    (never : (observe name seen exchange).start = .never) :
    seen.start = .never ∧ ∀ target reply, exchange = ⟨.cli (.start target), reply⟩ →
      ∃ why, reply = .error (.notSpawned why) := by
  obtain ⟨question, answer⟩ := exchange
  cases question with
  | cli command =>
      cases command with
      | start target =>
          cases answer with
          | ok output =>
              have answered : (seen.started (.ok output)).start = .never := never
              simp only [started] at answered
              split at answered
              · cases answered
              · cases answered
          | error failure =>
              cases failure with
              | notSpawned why =>
                  refine ⟨never, fun other reply same => ?_⟩
                  cases same
                  exact ⟨why, rfl⟩
              | afterSpawn why => cases never
      | create arguments => exact ⟨(start_created answer).symm.trans never, fun _ _ no => by cases no⟩
      | inspectName target => exact ⟨(named_start target answer).symm.trans never, fun _ _ no => by cases no⟩
      | inspectState target => exact ⟨(state_start target answer).symm.trans never, fun _ _ no => by cases no⟩
      | _ => exact ⟨never, fun _ _ no => by cases no⟩
  | _ => exact ⟨never, fun _ _ no => by cases no⟩

theorem never_spawned (never : (evidence name said).start = .never) {target : String} {reply : CliReply}
    (asked : ⟨.cli (.start target), reply⟩ ∈ said) : ∃ why, reply = .error (.notSpawned why) := by
  induction said using List.reverseRecOn with
  | nil => cases asked
  | append_singleton said last ih =>
      rw [evidence, Trace.run_snoc] at never
      obtain ⟨before, spawned⟩ := never_observed never
      rcases List.mem_append.mp asked with earlier | now
      · exact ih before earlier
      · exact spawned target reply (List.mem_singleton.mp now).symm

/-- An inspect answered that the container with this id does not run, or is not there. -/
def SaysStopped (id : String) : Dialogue.Exchange RunQuestion RunQuestion.Answer → Prop
  | ⟨.cli (.inspectRunning target), reply⟩ => target = id ∧ readRunning target reply = .ok false
  | ⟨.cli (.inspectState target), reply⟩ => target = id ∧ ∃ exit, readState target reply = .ok (some exit)
  | _ => False

theorem stop_observed {exchange : Dialogue.Exchange RunQuestion RunQuestion.Answer}
    (stopped : (observe name seen exchange).stopSeen = true) :
    seen.stopSeen = true ∨
      ∃ id, seen.boundId = some id ∧ seen.start = .answered ∧ SaysStopped id exchange := by
  by_cases old : seen.stopSeen = true
  · exact Or.inl old
  right
  obtain ⟨question, answer⟩ := exchange
  cases question with
  | cli command =>
      cases command with
      | inspectRunning target =>
          have told : (seen.ran target answer).stopSeen = true := stopped
          simp only [ran, old, Bool.false_or, Bool.and_eq_true, saysStopped, decide_eq_true_eq] at told
          obtain ⟨⟨bound, answered⟩, read⟩ := told
          refine ⟨target, bound, answered, rfl, ?_⟩
          cases found : readRunning target answer with
          | error why => simp [found] at read
          | ok running => simpa [found] using read
      | inspectState target =>
          have told : (seen.state target answer).stopSeen = true := stopped
          unfold state at told
          split at told
          · next exit found =>
            simp only [old, Bool.false_or, saysStopped, Bool.and_eq_true, decide_eq_true_eq] at told
            exact ⟨target, told.1, told.2, rfl, exit, found⟩
          · exact absurd told old
          · exact absurd told old
      | create arguments =>
          have told : (seen.created answer).stopSeen = true := stopped
          have same : (seen.created answer).stopSeen = seen.stopSeen := by
            cases answer with
            | ok output => rfl
            | error failure => cases failure <;> rfl
          exact absurd (same.symm.trans told) old
      | inspectName target =>
          have told : (seen.named name target answer).stopSeen = true := stopped
          unfold named at told
          split at told
          · split at told
            · cases told
            · exact absurd told old
          · exact absurd told old
      | start target =>
          cases answer with
          | ok output => cases stopped
          | error failure =>
              cases failure with
              | notSpawned why => exact absurd stopped old
              | afterSpawn why => cases stopped
      | _ => exact absurd stopped old
  | _ => exact absurd stopped old

/-- Where a stop was seen, an inspect of the started container told so. -/
theorem stop_told (stopped : (evidence name said).stopSeen = true) :
    ∃ before exchange id, Trace.Took said before exchange ∧ (evidence name before).boundId = some id ∧
      (evidence name before).start = .answered ∧ SaysStopped id exchange := by
  induction said using List.reverseRecOn with
  | nil => cases stopped
  | append_singleton said last ih =>
      rw [evidence, Trace.run_snoc] at stopped
      rcases stop_observed stopped with old | ⟨id, bound, answered, tells⟩
      · obtain ⟨before, exchange, id, took, right⟩ := ih old
        exact ⟨before, exchange, id, Trace.took_snoc.mpr (Or.inl took), right⟩
      · exact ⟨said, last, id, Trace.took_snoc.mpr (Or.inr ⟨rfl, rfl⟩), bound, answered, tells⟩

end Told

section Runs

/-- The result says that the container does not run. -/
def RunResult.SaysNotRunning : RunResult → Prop
  | .ok _ => True
  | .error (.notStarted ..) => True
  | .error (.unobserved _ stopped _ _) => stopped = true

theorem RunResult.Fits.notRunning {name id : String} {said : Said} {world : ContainerWorld}
    {result : RunResult} (fits : result.Fits (evidence name said)) (tells : result.SaysNotRunning)
    (bound : (evidence name said).boundId = some id) (unfolds : Unfolds (happens id) .fresh said world) :
    world.running = false := by
  have agrees : (evidence name said).Agrees id world := agrees_unfolds unfolds
  cases result with
  | ok exit => exact agrees.stopped bound fits.1 fits.2.1
  | error error =>
      cases error with
      | notStarted detail container => exact agrees.never fits.1
      | unobserved detail stopped logsComplete container =>
          obtain ⟨answered, seen⟩ := fits.2.1 tells
          exact agrees.stopped bound answered seen

theorem MayRemove.notRunning {name id : String} {said : Said} {world : ContainerWorld}
    (may : (evidence name said).MayRemove) (bound : (evidence name said).boundId = some id)
    (unfolds : Unfolds (happens id) .fresh said world) : world.running = false := by
  have agrees : (evidence name said).Agrees id world := agrees_unfolds unfolds
  rcases may with never | ⟨answered, stopped, _⟩
  · exact agrees.never never
  · exact agrees.stopped bound answered stopped

variable {given : ContainerRun} {stdoutPath stderrPath : String}

/-- What a run may have said, and may end with. -/
structure Honest (given : ContainerRun) (said : Said) (result : Option RunResult) : Prop where
  /-- Removed is only the created container with the name of this attempt, and only before its start, or with
  its logs saved after it was seen to have stopped. -/
  removes : ∀ before target reply, Trace.Took said before ⟨.cli (.remove target), reply⟩ →
    (evidence given.name before).boundId = some target ∧ (evidence given.name before).MayRemove ∧
    ∀ world, Unfolds (happens target) .fresh before world → world.running = false
  notStarted : ∀ detail container, result = some (.error (.notStarted detail container)) →
    ∀ target reply, ⟨.cli (.start target), reply⟩ ∈ said → ∃ why, reply = .error (.notSpawned why)
  /-- The parts of the result were seen. -/
  fits : ∀ ended ∈ result, ended.Fits (evidence given.name said)
  told : ∀ ended ∈ result, ended.SaysNotRunning → (∃ detail left, ended = .error (.notStarted detail left)) ∨
    ∃ before exchange id, Trace.Took said before exchange ∧
      (evidence given.name before).boundId = some id ∧ (evidence given.name before).start = .answered ∧
      SaysStopped id exchange
  notRunning : ∀ ended ∈ result, ended.SaysNotRunning → ∀ id world,
    (evidence given.name said).boundId = some id → Unfolds (happens id) .fresh said world →
    world.running = false

theorem honest_of {said : Said} {result : Option RunResult}
    (asked : ∀ before exchange, Trace.Took said before exchange →
      May (evidence given.name before) exchange.1)
    (fits : ∀ ended ∈ result, ended.Fits (evidence given.name said)) : Honest given said result where
  removes := by
    intro before target reply took
    obtain ⟨bound, may⟩ := asked before _ took
    exact ⟨bound, may, fun world unfolds => MayRemove.notRunning may bound unfolds⟩
  notStarted := by
    intro detail container ended target reply spawned
    exact never_spawned (fits _ ended).1 spawned
  fits := fits
  told := by
    intro ended listed tells
    have right := fits ended listed
    cases ended with
    | ok exit => exact Or.inr (stop_told right.2.1)
    | error error =>
        cases error with
        | notStarted detail container => exact Or.inl ⟨detail, container, rfl⟩
        | unobserved detail stopped logsComplete container => exact Or.inr (stop_told (right.2.1 tells).2)
  notRunning := fun ended listed tells _ _ bound unfolds => (fits ended listed).notRunning tells bound unfolds

/-- An incident that is written, or fails to be, changes nothing of what is returned. -/
theorem recordIncident_keeps {answers : Said → (question : RunQuestion) → question.Answer} (said : Said)
    (result : RunResult) :
    (Dialogue.run answers said (recordIncidentIfNeeded given result)).2 = result ∧
    (result.needsHuman = true → given.incidentDir.isSome = true →
      ∃ reply, ⟨.writeIncident (incidentKind result) (incidentDetail result), reply⟩ ∈
        (Dialogue.run answers said (recordIncidentIfNeeded given result)).1) := by
  unfold recordIncidentIfNeeded
  split
  · exact ⟨rfl, fun _ _ => ⟨_, List.mem_append_right said (List.mem_singleton.mpr rfl)⟩⟩
  · next quiet =>
    refine ⟨rfl, fun needs listed => absurd ?_ quiet⟩
    rw [listed, needs]
    rfl

theorem incident_recorded (polls : Nat) (answers : Said → (question : RunQuestion) → question.Answer) :
    (Dialogue.run answers [] (runWithGpuCount given polls)).2 =
      (Dialogue.run answers [] (runInner given polls)).2 ∧
    ∀ result ∈ (Dialogue.run answers [] (runInner given polls)).2, result.needsHuman = true →
      given.incidentDir.isSome = true →
      ∃ reply, ⟨.writeIncident (incidentKind result) (incidentDetail result), reply⟩ ∈
        (Dialogue.run answers [] (runWithGpuCount given polls)).1 := by
  unfold runWithGpuCount
  rw [Dialogue.run_bind]
  cases ended : (Dialogue.run answers [] (runInner given polls)).2 with
  | none => exact ⟨rfl, fun result listed => by cases listed⟩
  | some result =>
      have kept := @recordIncident_keeps given answers
        (Dialogue.run answers [] (runInner given polls)).1 result
      have mapped : some <$> recordIncidentIfNeeded given result =
          recordIncidentIfNeeded given result >>= fun final => pure (some final) := rfl
      dsimp only
      rw [mapped, Dialogue.run_bind]
      refine ⟨congrArg some kept.1, fun other listed => ?_⟩
      cases listed
      exact kept.2

/-- Whatever the runtime, the disk and the driver answer, and however long the run is watched. -/
theorem run_is_honest (stdout : given.stdoutPath = some stdoutPath)
    (stderr : given.stderrPath = some stderrPath) (polls : Nat)
    (answers : Said → (question : RunQuestion) → question.Answer) :
    Honest given (Dialogue.run answers [] (runInner given polls)).1
      (Dialogue.run answers [] (runInner given polls)).2 ∧
    (Dialogue.run answers [] (runWithGpuCount given polls)).2 =
      (Dialogue.run answers [] (runInner given polls)).2 := by
  have held : (∀ before exchange,
      Trace.Took (Dialogue.run answers [] (runInner given polls)).1 before exchange →
        May (evidence given.name before) exchange.1) ∧
      ∀ ended ∈ (Dialogue.run answers [] (runInner given polls)).2,
        ended.Fits (evidence given.name (Dialogue.run answers [] (runInner given polls)).1) :=
    Holds.run (runInner_talks stdout stderr polls) fun _ _ took => absurd took Trace.not_took_nil
  exact ⟨honest_of held.1 held.2, (incident_recorded polls answers).1⟩

/-- The runtime of a job that ends with exit code 3, after one poll that saw it run. -/
def endingJob : ContainerRun :=
  ⟨"gputeer-a1", "agent-1", "image@sha256:0", false, .ok ["create"], some "/out", some "/err", none⟩

def endingRuntime (said : Said) : (question : RunQuestion) → question.Answer
  | .cli (.inspectOwner _) => .ok ⟨false, "exit status: 1", "", "Error: no such object: gputeer-a1"⟩
  | .cli (.create _) => .ok ⟨true, "exit status: 0", "0123456789ab\n", ""⟩
  | .cli (.inspectName _) => .ok ⟨true, "exit status: 0", "/gputeer-a1\n", ""⟩
  | .cli (.inspectState _) =>
      .ok ⟨true, "exit status: 0",
        if said.length < 7 then "true 0 false 2026-10-01" else "false 3 false 2026-10-01", ""⟩
  | .cli (.inspectRunning _) => .ok ⟨false, "exit status: 1", "", "Error: No such container"⟩
  | .cli _ => .ok ⟨true, "exit status: 0", "", ""⟩
  | .gpuCount => .ok 1
  | .createFile _ | .removeFile _ | .writeIncident _ _ => .ok ()
  | .startedWith _ => ()

theorem ending_job_is_honest :
    ((Dialogue.run endingRuntime [] (runInner endingJob 4)).2.bind fun result =>
      result.toOption.map ContainerExit.exitCode) = some 3 ∧
    Honest endingJob (Dialogue.run endingRuntime [] (runInner endingJob 4)).1
      (Dialogue.run endingRuntime [] (runInner endingJob 4)).2 :=
  ⟨by decide +kernel, (@run_is_honest endingJob "/out" "/err" rfl rfl 4 endingRuntime).1⟩

end Runs

section OneStart

/-- Not the start of a container. -/
def NotStart : RunQuestion → Prop
  | .cli (.start _) => False
  | _ => True

/-- Neither the start of a container, nor anything that says which one it is. -/
def NotBinding : RunQuestion → Prop
  | .cli (.start _) | .cli (.create _) | .cli (.inspectName _) => False
  | _ => True

/-- Until the start a container may be made and found, and it is started at most once. -/
def Once (seen : RunEvidence) (asked : RunQuestion) : Prop := ¬ NotBinding asked → seen.start = .never

theorem NotBinding.notStart {asked : RunQuestion} (binding : NotBinding asked) : NotStart asked := by
  cases asked with
  | cli command =>
      cases command with
      | start target => exact binding
      | _ => trivial
  | _ => trivial

variable {name : String} {seen : RunEvidence} {α β : Type} {given : ContainerRun} {id target : String}

theorem start_observe {exchange : Dialogue.Exchange RunQuestion RunQuestion.Answer} (other : NotStart exchange.1) :
    (observe name seen exchange).start = seen.start := by
  obtain ⟨asked, answer⟩ := exchange
  cases asked with
  | cli command =>
      cases command with
      | create arguments => exact start_created answer
      | inspectName target => exact named_start target answer
      | start target => exact other.elim
      | inspectState target => exact state_start target answer
      | _ => rfl
  | _ => rfl

/-- What a run may ask, and when. -/
def MayOnce (seen : RunEvidence) (asked : RunQuestion) : Prop := May seen asked ∧ Once seen asked

abbrev TalksOnce (name : String) (post : RunEvidence → α → Prop) (seen : RunEvidence)
    (dialogue : ContainerDialogue α) : Prop :=
  Holds (observe name) MayOnce post seen dialogue

variable {post : RunEvidence → α → Prop} {dialogue : ContainerDialogue α}

/-- Before the start. -/
theorem talksOnce_before (talks : Talks name post seen dialogue) (asks : Asks NotStart dialogue)
    (never : seen.start = .never) : TalksOnce name (fun later result => post later result ∧ later.start = .never)
      seen dialogue := by
  induction dialogue generalizing seen with
  | done result => exact ⟨talks, never⟩
  | ask asked next ih =>
      exact ⟨⟨talks.1, fun _ => never⟩, fun answer => ih answer (talks.2 answer) (asks.2 answer)
        ((start_observe asks.1).trans never)⟩

/-- After it. -/
theorem talksOnce_after (talks : Talks name post seen dialogue) (asks : Asks NotBinding dialogue) :
    TalksOnce name post seen dialogue := by
  induction dialogue generalizing seen with
  | done result => exact talks
  | ask asked next ih =>
      exact ⟨⟨talks.1, fun binding => absurd asks.1 binding⟩, fun answer => ih answer (talks.2 answer) (asks.2 answer)⟩

theorem asks_cdiAllReady : Asks NotBinding (cdiAllReady given) := by
  unfold cdiAllReady
  split
  · refine (asks_question trivial).bind fun counted => ?_
    split <;> exact asks_pure _
  · exact asks_pure _

theorem asks_inspectRunning : Asks NotBinding (inspectRunning target) := (asks_question trivial).map

theorem asks_inspectExists : Asks NotBinding (inspectExists target) := (asks_question trivial).map

theorem asks_removeContainerFact : Asks NotBinding (removeContainerFact target) :=
  (asks_question trivial).bind fun _ => asks_inspectExists.bind fun _ => asks_pure _

theorem asks_confirmStopped (tries : Nat) (last : String) : Asks NotBinding (confirmStopped target tries last) := by
  induction tries generalizing last with
  | zero => exact asks_pure _
  | succ tries ih =>
      refine asks_inspectRunning.bind fun found => ?_
      rcases found with why | _ | _
      · exact asks_pure _
      · exact asks_pure _
      · exact ih _

theorem asks_stopAndConfirm : Asks NotBinding (stopAndConfirm target) := by
  have kill : Asks NotBinding (killAndConfirm target) :=
    (asks_question trivial).bind fun _ => (asks_confirmStopped _ _).bind fun _ => asks_pure _
  refine asks_inspectRunning.bind fun found => ?_
  rcases found with why | _ | _
  · exact kill
  · exact asks_pure _
  · exact kill

theorem asks_saveLogs (stdoutPath stderrPath : Option String) :
    Asks NotBinding (saveLogs target stdoutPath stderrPath) := by
  unfold saveLogs
  split
  · refine (asks_question trivial).bind fun opened => ?_
    split
    · exact asks_pure _
    · refine (asks_question trivial).bind fun opened => ?_
      split
      · exact asks_pure _
      · exact (asks_question trivial).map
  · exact asks_pure _

theorem asks_removeFiles (paths : List String) : Asks NotBinding (removeFiles paths) := by
  induction paths with
  | nil => exact asks_pure _
  | cons path paths ih =>
      refine (asks_question trivial).bind fun removed => ih.bind fun failed => ?_
      cases removed <;> exact asks_pure _

theorem asks_discard (stdoutPath stderrPath : Option String) :
    Asks NotBinding (discardPartialOutputs stdoutPath stderrPath) :=
  (asks_removeFiles _).bind fun _ => asks_pure _

theorem asks_startRefused (head : String) : Asks NotBinding (startRefused given id head) := by
  refine asks_stopAndConfirm.bind fun confirmed => ?_
  cases confirmed with
  | error stop => exact (asks_question trivial).bind fun _ => asks_pure _
  | ok done =>
      refine (asks_saveLogs _ _).bind fun saved => ?_
      cases saved with
      | error e => exact (asks_discard _ _).bind fun _ => asks_pure _
      | ok done => exact asks_removeContainerFact.bind fun _ => asks_pure _

theorem asks_notObserved (failures : Nat) (why : String) : Asks NotBinding (notObserved given id failures why) := by
  refine asks_stopAndConfirm.bind fun confirmed => (asks_saveLogs _ _).bind fun saved => ?_
  have discard : Asks NotBinding (discardUnlessSaved given saved) := by
    cases saved with
    | ok done => exact asks_pure _
    | error e => exact asks_discard _ _
  refine discard.bind fun _ => ?_
  dsimp only
  split
  · exact asks_pure _
  · exact asks_removeContainerFact.bind fun _ => asks_pure _

theorem asks_awaitExit (polls failures : Nat) : Asks NotBinding (awaitExit given id polls failures) := by
  induction polls generalizing failures with
  | zero => exact asks_pure _
  | succ polls ih =>
      have looked : Asks NotBinding (inspectState id) := (asks_question trivial).map
      refine looked.bind fun found => ?_
      rcases found with why | _ | exit
      · dsimp only
        split
        · exact (asks_notObserved _ _).map
        · exact ih _
      · exact ih 0
      · exact asks_pure _

theorem asks_finish (exit : ObservedExit) : Asks NotBinding (finish given id exit) := by
  refine (asks_saveLogs _ _).bind fun saved => ?_
  cases saved with
  | ok done => exact asks_removeContainerFact.bind fun _ => asks_pure _
  | error why => exact (asks_discard _ _).bind fun _ => asks_pure _

theorem asks_watchUntilExit (polls : Nat) : Asks NotBinding (watchUntilExit given id polls) := by
  refine (asks_question trivial).bind fun _ => (asks_awaitExit polls 0).bind fun ended => ?_
  rcases ended with _ | error | exit
  · exact asks_pure _
  · exact asks_pure _
  · exact (asks_finish exit).map

theorem Asks.unbound {dialogue : ContainerDialogue α} (asks : Asks NotBinding dialogue) : Asks NotStart dialogue :=
  asks.mono fun _ => NotBinding.notStart

theorem asks_prepare : Asks NotStart (prepare given) := by
  have pulled : Asks NotStart (pullImage given) := by
    unfold pullImage
    split
    · exact (asks_question trivial).map
    · exact asks_pure _
  refine pulled.bind fun answered => ?_
  split
  · exact asks_pure _
  · refine (Asks.unbound asks_cdiAllReady).bind fun ready => ?_
    split
    · exact asks_pure _
    · split
      · exact asks_pure _
      · have found : Asks NotStart (inspectOwner given.name) := (asks_question trivial).map
        exact found.bind fun _ => asks_pure _

theorem asks_createContainer (arguments : List String) : Asks NotStart (createContainer given arguments) := by
  have failed (why : String) : Asks NotStart (createFailed given why) :=
    (Asks.unbound asks_inspectExists).bind fun _ => asks_pure _
  refine (asks_question trivial).bind fun reply => ?_
  split
  · split
    · exact asks_pure _
    · exact (failed _).map
  · exact asks_pure _
  · exact (failed _).map

theorem asks_bindId : Asks NotStart (bindId given id) := by
  have bound : Asks NotStart (isBound given id) := by
    unfold isBound
    split
    · have looked : Asks NotStart (inspectName id) := (asks_question trivial).map
      exact looked.bind fun _ => asks_pure _
    · exact asks_pure _
  refine bound.bind fun found => ?_
  split <;> exact asks_pure _

theorem asks_recheckGpus : Asks NotStart (recheckGpus given id) := by
  refine (Asks.unbound asks_cdiAllReady).bind fun ready => ?_
  cases ready with
  | ok done => exact asks_pure _
  | error why => exact (Asks.unbound asks_removeContainerFact).bind fun _ => asks_pure _

/-- One rule for the steps of a run, whatever may be asked. -/
theorem orReturn_holds {may : RunEvidence → RunQuestion → Prop} {middle : RunEvidence → α → Prop}
    {step : ContainerDialogue (Except ContainerRunError α)} {next : α → ContainerDialogue (Option RunResult)}
    (first : Holds (observe name) may (fun later result => Passed middle later result) seen step)
    (rest : ∀ later value, middle later value →
      Holds (observe name) may (fun later result => ∀ ended ∈ result, RunResult.Fits later ended) later (next value)) :
    Holds (observe name) may (fun later result => ∀ ended ∈ result, RunResult.Fits later ended) seen
      (orReturn step next) := by
  refine first.bind fun later result passed => ?_
  cases result with
  | ok value => exact rest later value passed
  | error error =>
      refine holds_pure fun ended listed => ?_
      cases listed
      exact passed

variable {stdoutPath stderrPath : String}

theorem startContainer_once (stdout : given.stdoutPath = some stdoutPath)
    (stderr : given.stderrPath = some stderrPath) (bound : Bound seen id) :
    TalksOnce name (Passed fun later (_ : Unit) => Started later id) seen (startContainer given id) := by
  have rest := (@startContainer_talks name _ _ _ _ _ stdout stderr bound).2
  refine holds_question_bind ⟨bound.2, fun _ => bound.1⟩ fun reply => talksOnce_after (rest reply) ?_
  split
  · split
    · exact asks_pure _
    · exact (asks_startRefused _).map
  · exact asks_removeContainerFact.bind fun _ => asks_pure _
  · have unanswered (head : String) : Asks NotBinding (startUnanswered given id head) :=
      (asks_question trivial).bind fun _ => asks_pure _
    exact (unanswered _).map

/-- A run that starts its container at most once, and knows by then which one it is. -/
theorem run_once (stdout : given.stdoutPath = some stdoutPath) (stderr : given.stderrPath = some stderrPath)
    (polls : Nat) :
    TalksOnce given.name (fun later result => ∀ ended ∈ result, RunResult.Fits later ended) .none
      (runWithGpuCount given polls) := by
  have before {γ : Type} {middle : RunEvidence → γ → Prop} {seen : RunEvidence}
      {step : ContainerDialogue (Except ContainerRunError γ)} (talks : Talks given.name (Passed middle) seen step)
      (asks : Asks NotStart step) (never : seen.start = .never) :
      TalksOnce given.name (Passed middle) seen step :=
    (talksOnce_before talks asks never).mono fun _ _ both => both.1
  have inner : TalksOnce given.name (fun later result => ∀ ended ∈ result, RunResult.Fits later ended) .none
      (runInner given polls) :=
    orReturn_holds (before (prepare_talks ⟨rfl, rfl⟩) asks_prepare rfl) fun _ arguments untouched =>
      orReturn_holds (before (createContainer_talks untouched arguments) (asks_createContainer _) untouched.1)
        fun _ _ created =>
          orReturn_holds (before (bindId_talks created) asks_bindId created.1) fun _ _ bound =>
            orReturn_holds (before (recheckGpus_talks bound) asks_recheckGpus bound.1) fun _ _ bound =>
              orReturn_holds (startContainer_once stdout stderr bound) fun _ _ started =>
                talksOnce_after (watchUntilExit_talks stdout stderr started polls) (asks_watchUntilExit polls)
  refine inner.bind fun later result fits => ?_
  cases result with
  | none => exact holds_pure fits
  | some result =>
      refine Holds.map ?_
      unfold recordIncidentIfNeeded
      split
      · exact holds_question_bind ⟨trivial, fun binding => absurd trivial binding⟩ fun _ => holds_pure fits
      · exact holds_pure fits

end OneStart

end Gputeer.Agent
