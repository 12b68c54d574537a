import Gputeer.Agent.Container

/-! What a run of a container may say and do, by what it was told: the container is removed only where it
never started, or where it was seen not to run and its logs were saved after that; and a result says no more
than was observed. -/

namespace Gputeer.Agent

/-- What came of the `start` command. -/
inductive StartSent where
  | never
  | answered
  | unanswered
  deriving DecidableEq

/-- What the exchanges of a run so far are evidence of. -/
structure RunEvidence where
  createSpawned : Bool
  /-- The id that `create` returned. -/
  createdId : Option String
  /-- That id, once it was found to have the name of this attempt. -/
  boundId : Option String
  start : StartSent
  /-- After the answered start, an inspect answered that the container does not run, or is not there. -/
  stopSeen : Bool
  /-- After that, the logs were saved to their end into two fresh files, which are still there. -/
  logsSaved : Bool
  /-- The last inspect of this kind answered that there is no such container. -/
  gone : Bool
  exitSeen : Option ObservedExit

namespace RunEvidence

def none : RunEvidence := ⟨false, .none, .none, .never, false, false, false, .none⟩

def saysStopped (seen : RunEvidence) (target : String) : Bool :=
  seen.boundId = some target && seen.start = .answered

def created (seen : RunEvidence) : CliReply → RunEvidence
  | .error (.notSpawned _) => seen
  | .error (.afterSpawn _) => { seen with createSpawned := true }
  | .ok output =>
      { seen with
        createSpawned := true
        createdId := if output.success then some (Text.trim output.stdout) else seen.createdId }

def named (seen : RunEvidence) (name id : String) (reply : CliReply) : RunEvidence :=
  match readName id reply with
  | .ok found =>
      if found = name ∧ seen.createdId = some id then
        { seen with boundId := some id, stopSeen := false, logsSaved := false }
      else seen
  | .error _ => seen

def started (seen : RunEvidence) : CliReply → RunEvidence
  | .error (.notSpawned _) => seen
  | .error (.afterSpawn _) => { seen with start := .unanswered, stopSeen := false, logsSaved := false }
  | .ok _ =>
      { seen with
        start := if seen.start = .unanswered then .unanswered else .answered
        stopSeen := false
        logsSaved := false }

def ran (seen : RunEvidence) (target : String) (reply : CliReply) : RunEvidence :=
  { seen with
    gone := match readExists target reply with
      | .ok exists_ => !exists_
      | .error _ => false
    stopSeen := seen.stopSeen || (seen.saysStopped target &&
      match readRunning target reply with
      | .ok running => !running
      | .error _ => false) }

def state (seen : RunEvidence) (target : String) (reply : CliReply) : RunEvidence :=
  match readState target reply with
  | .ok (some exit) =>
      { seen with stopSeen := seen.stopSeen || seen.saysStopped target, exitSeen := some exit }
  | .ok .none | .error _ => seen

def saved (seen : RunEvidence) (target : String) (reply : CliReply) : RunEvidence :=
  { seen with
    logsSaved := seen.stopSeen && seen.boundId = some target &&
      match logsResult reply with
      | .ok () => true
      | .error _ => false }

/-- One exchange of a run for the attempt with this container name. -/
def observe (name : String) (seen : RunEvidence) :
    Dialogue.Exchange RunQuestion RunQuestion.Answer → RunEvidence
  | ⟨.cli (.create _), reply⟩ => seen.created reply
  | ⟨.cli (.inspectName id), reply⟩ => seen.named name id reply
  | ⟨.cli (.start _), reply⟩ => seen.started reply
  | ⟨.cli (.inspectRunning target), reply⟩ => seen.ran target reply
  | ⟨.cli (.inspectState target), reply⟩ => seen.state target reply
  | ⟨.cli (.logs target), reply⟩ => seen.saved target reply
  | ⟨.createFile _, _⟩ | ⟨.removeFile _, _⟩ => { seen with logsSaved := false }
  | _ => seen

/-- The container was never started, or has stopped with its logs saved. -/
def MayRemove (seen : RunEvidence) : Prop :=
  seen.start = .never ∨ (seen.start = .answered ∧ seen.stopSeen = true ∧ seen.logsSaved = true)

/-- Only the container of this attempt is started, killed, read and removed, and it is removed only when
nothing can be lost. -/
def May (seen : RunEvidence) : RunQuestion → Prop
  | .cli (.remove target) => seen.boundId = some target ∧ seen.MayRemove
  | .cli (.start target) | .cli (.kill target) | .cli (.logs target) => seen.boundId = some target
  | _ => True

end RunEvidence

/-- The result says no more than was observed. -/
def RunResult.Fits (seen : RunEvidence) : RunResult → Prop
  | .error (.notStarted _ container) =>
      seen.start = .never ∧ (container = .removed → seen.createSpawned = false ∨ seen.gone = true)
  | .error (.unobserved _ stopped logsComplete container) =>
      seen.start ≠ .never ∧
      (stopped = true → seen.start = .answered ∧ seen.stopSeen = true) ∧
      (logsComplete = true → seen.start = .answered ∧ seen.stopSeen = true ∧ seen.logsSaved = true) ∧
      (container = .removed → seen.gone = true)
  | .ok exit =>
      seen.start = .answered ∧ seen.stopSeen = true ∧
      seen.exitSeen = some ⟨exit.exitCode, exit.oomKilled⟩ ∧
      (exit.logsComplete = true → seen.logsSaved = true) ∧
      (exit.container = .removed → seen.gone = true)

section Specs

open Dialogue RunEvidence

variable {name : String} {seen : RunEvidence} {target : String}

/-- Of the evidence, what looking at the container and at the disk leaves alone. -/
structure SameRun (seen later : RunEvidence) : Prop where
  boundId : later.boundId = seen.boundId
  start : later.start = seen.start
  stopSeen : seen.stopSeen = true → later.stopSeen = true
  createSpawned : later.createSpawned = seen.createSpawned
  exitSeen : later.exitSeen = seen.exitSeen

theorem SameRun.refl (seen : RunEvidence) : SameRun seen seen := ⟨rfl, rfl, id, rfl, rfl⟩

theorem SameRun.trans {first second third : RunEvidence} (before : SameRun first second)
    (after : SameRun second third) : SameRun first third where
  boundId := after.boundId.trans before.boundId
  start := after.start.trans before.start
  stopSeen := after.stopSeen ∘ before.stopSeen
  createSpawned := after.createSpawned.trans before.createSpawned
  exitSeen := after.exitSeen.trans before.exitSeen

abbrev Talks {α : Type} (name : String) (post : RunEvidence → α → Prop) (seen : RunEvidence)
    (dialogue : ContainerDialogue α) : Prop :=
  Holds (observe name) May post seen dialogue

theorem sameRun_ran (reply : CliReply) : SameRun seen (seen.ran target reply) :=
  ⟨rfl, rfl, fun stopped => by simp [ran, stopped], rfl, rfl⟩

/-- After an answered start, an answer that it does not run is evidence that it stopped. -/
theorem stopSeen_ran {reply : CliReply} (bound : seen.boundId = some target)
    (answered : seen.start = .answered) (stopped : readRunning target reply = .ok false) :
    (seen.ran target reply).stopSeen = true := by
  simp [ran, saysStopped, bound, answered, stopped]

theorem inspectRunning_talks : Talks name (fun later result => SameRun seen later ∧
      (later.logsSaved = seen.logsSaved) ∧
      (seen.boundId = some target → seen.start = .answered → result = .ok false → later.stopSeen = true))
    seen (inspectRunning target) := by
  refine Holds.map (holds_question trivial fun reply => ⟨sameRun_ran reply, rfl, ?_⟩)
  exact fun bound answered stopped => stopSeen_ran bound answered stopped

theorem inspectExists_talks : Talks name (fun later result => SameRun seen later ∧
      (later.logsSaved = seen.logsSaved) ∧ (result = .ok false → later.gone = true))
    seen (inspectExists target) := by
  refine Holds.map (holds_question trivial fun reply => ⟨sameRun_ran reply, rfl, fun absent => ?_⟩)
  simp [observe, ran, absent]

theorem confirmStopped_talks (bound : seen.boundId = some target) (answered : seen.start = .answered)
    (tries : Nat) (last : String) : Talks name (fun later result => SameRun seen later ∧
      (result = .ok () → later.stopSeen = true)) seen (confirmStopped target tries last) := by
  induction tries generalizing seen last with
  | zero => exact holds_pure ⟨SameRun.refl seen, fun stopped => by cases stopped⟩
  | succ tries ih =>
      refine inspectRunning_talks.bind fun later running found => ?_
      obtain ⟨same, _, stopped⟩ := found
      cases running with
      | error why => exact holds_pure ⟨same, fun stopped => by cases stopped⟩
      | ok running =>
          cases running with
          | false => exact holds_pure ⟨same, fun _ => stopped bound answered rfl⟩
          | true =>
              refine (ih (same.boundId.trans bound) (same.start.trans answered) _).mono ?_
              exact fun final result right => ⟨same.trans right.1, right.2⟩

theorem stopAndConfirm_talks (bound : seen.boundId = some target) (answered : seen.start = .answered) :
    Talks name (fun later result => SameRun seen later ∧ (result.isOk = true → later.stopSeen = true))
      seen (stopAndConfirm target) := by
  have kill : ∀ later, SameRun seen later → Talks name (fun final result => SameRun seen final ∧
      (result.isOk = true → final.stopSeen = true)) later (killAndConfirm target) := by
    intro later same
    refine holds_question_bind (same.boundId.trans bound) fun reply => ?_
    refine (confirmStopped_talks (same.boundId.trans bound) (same.start.trans answered) _ _).bind ?_
    intro last confirmed right
    refine holds_pure ⟨same.trans right.1, fun ok => right.2 ?_⟩
    cases confirmed with
    | ok done => rfl
    | error why => cases ok
  refine inspectRunning_talks.bind fun later running found => ?_
  obtain ⟨same, _, stopped⟩ := found
  cases running with
  | error why => exact kill later same
  | ok running =>
      cases running with
      | false => exact holds_pure ⟨same, fun _ => stopped bound answered rfl⟩
      | true => exact kill later same

theorem removeFiles_talks (paths : List String) :
    Talks name (fun later _ => SameRun seen later) seen (removeFiles paths) := by
  induction paths generalizing seen with
  | nil => exact holds_pure (SameRun.refl seen)
  | cons path paths ih =>
      refine holds_question_bind trivial fun removed => ?_
      refine ih.bind fun final failed kept => ?_
      have same : SameRun seen final :=
        ⟨kept.boundId, kept.start, kept.stopSeen, kept.createSpawned, kept.exitSeen⟩
      cases removed with
      | ok done => exact holds_pure same
      | error error => exact holds_pure same

theorem discard_talks (stdoutPath stderrPath : Option String) :
    Talks name (fun later _ => SameRun seen later) seen (discardPartialOutputs stdoutPath stderrPath) :=
  (removeFiles_talks _).bind fun _ _ same => holds_pure same

/-- Logs that are saved after the container was seen to have stopped are all of its logs. -/
theorem saveLogs_talks (bound : seen.boundId = some target) (stdoutPath stderrPath : String) :
    Talks name (fun later result => SameRun seen later ∧
      (result.isOk = true → seen.stopSeen = true → later.logsSaved = true))
      seen (saveLogs target (some stdoutPath) (some stderrPath)) := by
  refine holds_question_bind trivial fun opened => ?_
  cases opened with
  | error error => exact holds_pure ⟨⟨rfl, rfl, id, rfl, rfl⟩, fun ok => by cases ok⟩
  | ok done =>
      refine holds_question_bind trivial fun opened => ?_
      cases opened with
      | error error => exact holds_pure ⟨⟨rfl, rfl, id, rfl, rfl⟩, fun ok => by cases ok⟩
      | ok done =>
          refine Holds.map (holds_question bound fun reply => ⟨⟨rfl, rfl, id, rfl, rfl⟩, ?_⟩)
          intro ok stopped
          cases result : logsResult reply with
          | error why =>
              rw [result] at ok
              cases ok
          | ok done => simp [observe, saved, result, bound, stopped]

/-- Removing is for a container that may be removed; that it is gone has to be seen. -/
theorem removeContainerFact_talks (bound : seen.boundId = some target) (may : seen.MayRemove) :
    Talks name (fun later result => SameRun seen later ∧ later.logsSaved = seen.logsSaved ∧
      (result.1 = .removed → later.gone = true)) seen (removeContainerFact target) := by
  refine holds_question_bind ⟨bound, may⟩ fun reply => ?_
  refine inspectExists_talks.bind fun later found right => ?_
  refine holds_pure ⟨right.1, right.2.1, fun removed => right.2.2 ?_⟩
  cases found with
  | error why =>
      cases done : (cliOkOf (.remove target) reply).map fun _ => () with
      | error why => simp [leftAfterRemove, done] at removed
      | ok done' => simp [leftAfterRemove, done] at removed
  | ok there =>
      cases there with
      | false => rfl
      | true =>
          cases done : (cliOkOf (.remove target) reply).map fun _ => () with
          | error why => simp [leftAfterRemove, done] at removed
          | ok done' => simp [leftAfterRemove, done] at removed

/-- A step that goes on, or ends the run with a result that fits. -/
def Passed {α : Type} (middle : RunEvidence → α → Prop) (later : RunEvidence) :
    Except ContainerRunError α → Prop
  | .ok value => middle later value
  | .error error => RunResult.Fits later (.error error)

theorem orReturn_talks {α : Type} {middle : RunEvidence → α → Prop}
    {step : ContainerDialogue (Except ContainerRunError α)} {next : α → ContainerDialogue (Option RunResult)}
    (first : Talks name (Passed middle) seen step)
    (rest : ∀ later value, middle later value →
      Talks name (fun later result => ∀ ended ∈ result, RunResult.Fits later ended) later (next value)) :
    Talks name (fun later result => ∀ ended ∈ result, RunResult.Fits later ended) seen
      (orReturn step next) := by
  refine first.bind fun later result passed => ?_
  cases result with
  | ok value => exact rest later value passed
  | error error =>
      refine holds_pure fun ended listed => ?_
      cases listed
      exact passed

theorem failed_talks {α : Type} {middle : RunEvidence → α → Prop}
    {step : ContainerDialogue ContainerRunError}
    (fits : Talks name (fun later error => RunResult.Fits later (.error error)) seen step) :
    Talks name (Passed middle) seen (Except.error <$> step) := Holds.map fits

variable {given : ContainerRun} {id : String}

/-- Before `create` was spawned. -/
def Untouched (seen : RunEvidence) : Prop := seen.start = .never ∧ seen.createSpawned = false

theorem passed_untouched {α : Type} {middle : RunEvidence → α → Prop} (untouched : Untouched seen)
    (detail : String) (container : ContainerLeft) :
    Passed middle seen (.error (.notStarted detail container)) :=
  ⟨untouched.1, fun _ => Or.inl untouched.2⟩

theorem cdiAllReady_talks : Talks name (fun later _ => later = seen) seen (cdiAllReady given) := by
  unfold cdiAllReady
  split
  · refine holds_question_bind trivial fun counted => ?_
    split
    · exact holds_pure rfl
    · exact holds_pure rfl
    · exact holds_pure rfl
  · exact holds_pure rfl

theorem prepare_talks (untouched : Untouched seen) :
    Talks given.name (Passed fun later _ => Untouched later) seen (prepare given) := by
  have pulled : Talks given.name (fun later _ => later = seen) seen (pullImage given) := by
    unfold pullImage
    split
    · exact Holds.map (holds_question trivial fun _ => rfl)
    · exact holds_pure rfl
  refine pulled.bind fun later answered same => ?_
  subst same
  cases answered with
  | error why => exact holds_pure (passed_untouched untouched _ _)
  | ok done =>
      refine cdiAllReady_talks.bind fun later ready same => ?_
      subst same
      cases ready with
      | error why => exact holds_pure (passed_untouched untouched _ _)
      | ok done =>
          cases given.create with
          | error why => exact holds_pure (passed_untouched untouched _ _)
          | ok arguments =>
              have found : Talks given.name (fun final _ => final = later) later
                  (inspectOwner given.name) := Holds.map (holds_question trivial fun _ => rfl)
              refine found.bind fun final owner same => ?_
              subst same
              refine holds_pure ?_
              unfold refuseTakenName
              cases owner with
              | error why => exact passed_untouched untouched _ _
              | ok taken =>
                  cases taken with
                  | none => exact untouched
                  | some both =>
                      dsimp only
                      split
                      · exact passed_untouched untouched _ _
                      · exact passed_untouched untouched _ _

theorem createFailed_talks (never : seen.start = .never) (why : String) :
    Talks name (fun later error => RunResult.Fits later (.error error)) seen (createFailed given why) := by
  refine inspectExists_talks.bind fun later found right => ?_
  refine holds_pure ⟨right.1.start.trans never, fun removed => Or.inr (right.2.2 ?_)⟩
  cases found with
  | error e => cases removed
  | ok there =>
      cases there with
      | false => rfl
      | true => cases removed

theorem start_created (reply : CliReply) : (seen.created reply).start = seen.start := by
  cases reply with
  | ok output => rfl
  | error failure => cases failure <;> rfl

/-- The id that `create` returned, of a container that was not started. -/
def Created (seen : RunEvidence) (id : String) : Prop := seen.start = .never ∧ seen.createdId = some id

theorem createContainer_talks (untouched : Untouched seen) (arguments : List String) :
    Talks given.name (Passed Created) seen (createContainer given arguments) := by
  refine holds_question_bind trivial fun reply => ?_
  have never : (seen.created reply).start = .never := (start_created reply).trans untouched.1
  cases reply with
  | ok output =>
      cases success : output.success with
      | true =>
          simp only [success, if_true]
          exact holds_pure ⟨untouched.1, by simp [observe, created, success]⟩
      | false =>
          simp only [success, Bool.false_eq_true, if_false]
          exact failed_talks (createFailed_talks never _)
  | error failure =>
      cases failure with
      | notSpawned why => exact holds_pure (passed_untouched untouched _ _)
      | afterSpawn why => exact failed_talks (createFailed_talks never why)

theorem named_start (id : String) (reply : CliReply) : (seen.named name id reply).start = seen.start := by
  unfold named
  split
  · split
    · rfl
    · rfl
  · rfl

/-- The container of this attempt, not started. -/
def Bound (seen : RunEvidence) (id : String) : Prop := seen.start = .never ∧ seen.boundId = some id

theorem bindId_talks (created : Created seen id) :
    Talks given.name (Passed fun later _ => Bound later id) seen (bindId given id) := by
  have bound : Talks given.name (fun later result => later.start = .never ∧
      (result = .ok true → later.boundId = some id)) seen (isBound given id) := by
    unfold isBound
    split
    · have looked : Talks given.name (fun later found => later.start = .never ∧
          (found = .ok given.name → later.boundId = some id)) seen (inspectName id) := by
        refine Holds.map (holds_question trivial fun reply => ⟨?_, fun found => ?_⟩)
        · exact (named_start id reply).trans created.1
        · change (seen.named given.name id reply).boundId = some id
          simp [named, found, created.2]
      refine looked.bind fun later found right => holds_pure ⟨right.1, fun same => right.2 ?_⟩
      cases found with
      | error why => cases same
      | ok named =>
          simp only [Except.map, Except.ok.injEq, decide_eq_true_eq] at same
          rw [same]
    · exact holds_pure ⟨created.1, fun bound => by cases bound⟩
  refine bound.bind fun later found right => ?_
  have refused (detail : String) : Passed (fun later (_ : Unit) => Bound later id) later
      (.error (.notStarted detail .unknown)) := ⟨right.1, fun removed => by cases removed⟩
  cases found with
  | error e => exact holds_pure (refused _)
  | ok same =>
      cases same with
      | true => exact holds_pure ⟨right.1, right.2 rfl⟩
      | false => exact holds_pure (refused _)

/-- Removed before its start. -/
theorem removeUnstarted_talks {α : Type} {middle : RunEvidence → α → Prop} (bound : Bound seen id)
    (detail : String → String) :
    Talks name (Passed middle) seen (do
      let (left, removed) ← removeContainerFact id
      pure (.error (.notStarted (detail removed) left))) :=
  (removeContainerFact_talks bound.2 (Or.inl bound.1)).bind fun _ _ right =>
    holds_pure ⟨right.1.start.trans bound.1, fun removed => Or.inr (right.2.2 removed)⟩

theorem recheckGpus_talks (bound : Bound seen id) :
    Talks given.name (Passed fun later _ => Bound later id) seen (recheckGpus given id) := by
  refine cdiAllReady_talks.bind fun later ready same => ?_
  subst same
  cases ready with
  | ok done => exact holds_pure bound
  | error why => exact removeUnstarted_talks bound fun removed => s!"create 뒤 다시 확인: {why} · {removed}"

/-- The container of this attempt, whose start was answered. -/
def Started (seen : RunEvidence) (id : String) : Prop :=
  seen.start = .answered ∧ seen.boundId = some id

theorem Started.known (started : Started seen id) : seen.start ≠ .never := by
  rw [started.1]
  decide

theorem Started.same {later : RunEvidence} (started : Started seen id) (same : SameRun seen later) :
    Started later id :=
  ⟨same.start.trans started.1, same.boundId.trans started.2⟩

/-- Nothing is said of a container that may run. -/
theorem fits_mayRun (known : seen.start ≠ .never) (detail : String) :
    RunResult.Fits seen (.error (.unobserved detail false false .kept)) :=
  ⟨known, fun no => (by cases no), fun no => (by cases no), fun no => (by cases no)⟩

theorem fits_withoutLogs (started : Started seen id) (stopped : seen.stopSeen = true) (detail : String) :
    RunResult.Fits seen (.error (.unobserved detail true false .kept)) :=
  ⟨started.known, fun _ => ⟨started.1, stopped⟩, fun no => (by cases no), fun no => (by cases no)⟩

/-- Stopped, with its logs: it is removed. -/
theorem removeStopped_talks (started : Started seen id) (stopped : seen.stopSeen = true)
    (logs : seen.logsSaved = true) (detail : String → String) :
    Talks name (fun later error => RunResult.Fits later (.error error)) seen (do
      let (left, removed) ← removeContainerFact id
      pure (.unobserved (detail removed) true true left)) := by
  refine (removeContainerFact_talks started.2 (Or.inr ⟨started.1, stopped, logs⟩)).bind ?_
  intro later result right
  have still : Started later id := started.same right.1
  have seenStopped : later.stopSeen = true := right.1.stopSeen stopped
  exact holds_pure ⟨still.known, fun _ => ⟨still.1, seenStopped⟩,
    fun _ => ⟨still.1, seenStopped, right.2.1.trans logs⟩, right.2.2⟩

variable {stdoutPath stderrPath : String}

theorem startRefused_talks (stdout : given.stdoutPath = some stdoutPath)
    (stderr : given.stderrPath = some stderrPath) (started : Started seen id) (head : String) :
    Talks name (fun later error => RunResult.Fits later (.error error)) seen
      (startRefused given id head) := by
  refine (stopAndConfirm_talks started.2 started.1).bind fun later confirmed stopped => ?_
  have here : Started later id := started.same stopped.1
  cases confirmed with
  | error stop => exact holds_question_bind trivial fun _ => holds_pure (fits_mayRun here.known _)
  | ok done =>
      have seenStopped : later.stopSeen = true := stopped.2 rfl
      rw [stdout, stderr]
      refine (saveLogs_talks here.2 stdoutPath stderrPath).bind fun after saved right => ?_
      have still : Started after id := here.same right.1
      have stops : after.stopSeen = true := right.1.stopSeen seenStopped
      cases saved with
      | error e =>
          refine (discard_talks _ _).bind fun final discard same => holds_pure ?_
          exact fits_withoutLogs (still.same same) (same.stopSeen stops) _
      | ok done =>
          exact removeStopped_talks still stops (right.2 rfl seenStopped)
            fun removed => s!"{head} · 멈췄다 · 로그 남김 · {removed}"

theorem startContainer_talks (stdout : given.stdoutPath = some stdoutPath)
    (stderr : given.stderrPath = some stderrPath) (bound : Bound seen id) :
    Talks name (Passed fun later (_ : Unit) => Started later id) seen (startContainer given id) := by
  refine holds_question_bind bound.2 fun reply => ?_
  cases reply with
  | ok output =>
      have started : Started (seen.started (.ok output)) id := by
        refine ⟨?_, bound.2⟩
        simp [RunEvidence.started, bound.1]
      dsimp only
      split
      · exact holds_pure started
      · exact failed_talks (startRefused_talks stdout stderr started _)
  | error failure =>
      cases failure with
      | notSpawned why =>
          exact removeUnstarted_talks bound fun removed =>
            s!"start 를 띄우지 못했다({why}) — 요청이 런타임에 닿지 않아 시작하지 " ++ s!"않았다 · {removed}"
      | afterSpawn why =>
          refine failed_talks (holds_question_bind trivial fun _ => holds_pure (fits_mayRun ?_ _))
          exact fun never => by cases never

theorem discardUnlessSaved_talks (saved : Except String Unit) :
    Talks name (fun later _ => SameRun seen later ∧ (saved.isOk = true → later = seen)) seen
      (discardUnlessSaved given saved) := by
  cases saved with
  | ok done => exact holds_pure ⟨SameRun.refl seen, fun _ => rfl⟩
  | error e => exact (discard_talks _ _).mono fun _ _ same => ⟨same, fun ok => by cases ok⟩

theorem notObserved_talks (stdout : given.stdoutPath = some stdoutPath)
    (stderr : given.stderrPath = some stderrPath) (started : Started seen id) (failures : Nat)
    (why : String) :
    Talks name (fun later error => RunResult.Fits later (.error error)) seen
      (notObserved given id failures why) := by
  refine (stopAndConfirm_talks started.2 started.1).bind fun later confirmed stopped => ?_
  have here : Started later id := started.same stopped.1
  rw [stdout, stderr]
  refine (saveLogs_talks here.2 stdoutPath stderrPath).bind fun after saved right => ?_
  have still : Started after id := here.same right.1
  refine (discardUnlessSaved_talks saved).bind fun final discard kept => ?_
  have last : Started final id := still.same kept.1
  have stops (ok : confirmed.isOk = true) : final.stopSeen = true :=
    kept.1.stopSeen (right.1.stopSeen (stopped.2 ok))
  have logs (ok : confirmed.isOk = true) (savedOk : saved.isOk = true) : final.logsSaved = true := by
    rw [kept.2 savedOk]
    exact right.2 savedOk (stopped.2 ok)
  dsimp only
  split
  · refine holds_pure ⟨last.known, fun ok => ⟨last.1, stops ok⟩, fun complete => ?_,
      fun no => (by cases no)⟩
    rw [Bool.and_eq_true] at complete
    exact ⟨last.1, stops complete.1, logs complete.1 complete.2⟩
  · next complete =>
    simp only [Bool.or_eq_true, Bool.not_eq_true', Bool.and_eq_false_iff, not_or,
      Bool.not_eq_false] at complete
    obtain ⟨ok, _, savedOk⟩ := complete
    exact removeStopped_talks last (stops ok) (logs ok savedOk) _

/-- An exit was seen of the started container. -/
def Exited (seen : RunEvidence) (id : String) (exit : ObservedExit) : Prop :=
  Started seen id ∧ seen.stopSeen = true ∧ seen.exitSeen = some exit

theorem state_seen (started : Started seen id) (reply : CliReply) : Started (seen.state id reply) id := by
  unfold state
  split
  · exact started
  · exact started
  · exact started

/-- By induction on the polls: a container that still runs, or does not answer for a while, stays one whose
start was answered. -/
theorem awaitExit_talks (stdout : given.stdoutPath = some stdoutPath)
    (stderr : given.stderrPath = some stderrPath) (started : Started seen id) (polls failures : Nat) :
    Talks name (fun later ended => ∀ result ∈ ended, Passed (fun later exit => Exited later id exit) later result)
      seen (awaitExit given id polls failures) := by
  induction polls generalizing seen failures with
  | zero => exact holds_pure fun result ended => by cases ended
  | succ polls ih =>
      have looked : Talks name (fun later result => Started later id ∧
          ∀ exit, result = .ok (some exit) → Exited later id exit) seen (inspectState id) := by
        refine Holds.map (holds_question trivial fun reply => ⟨state_seen started reply, ?_⟩)
        intro exit ended
        refine ⟨state_seen started reply, ?_⟩
        simp [observe, state, saysStopped, ended, started.1, started.2]
      refine looked.bind fun later result right => ?_
      cases result with
      | ok found =>
          cases found with
          | some exit =>
              refine holds_pure fun result ended => ?_
              cases ended
              exact right.2 exit rfl
          | none => exact ih right.1 0
      | error why =>
          dsimp only
          split
          · refine Holds.map ((notObserved_talks stdout stderr right.1 (failures + 1) why).mono ?_)
            intro final error fits result ended
            cases ended
            exact fits
          · exact ih right.1 (failures + 1)

theorem finish_talks (stdout : given.stdoutPath = some stdoutPath)
    (stderr : given.stderrPath = some stderrPath) {exit : ObservedExit} (exited : Exited seen id exit) :
    Talks name (fun later exit => RunResult.Fits later (.ok exit)) seen (finish given id exit) := by
  obtain ⟨started, stopped, seenExit⟩ := exited
  unfold finish
  rw [stdout, stderr]
  refine (saveLogs_talks started.2 stdoutPath stderrPath).bind fun later saved right => ?_
  have here : Started later id := started.same right.1
  have stops : later.stopSeen = true := right.1.stopSeen stopped
  cases saved with
  | error why =>
      refine (discard_talks _ _).bind fun final discard same => holds_pure ?_
      exact ⟨(here.same same).1, same.stopSeen stops, (same.exitSeen.trans right.1.exitSeen).trans seenExit,
        fun no => (by cases no), fun no => (by cases no)⟩
  | ok done =>
      have logs : later.logsSaved = true := right.2 rfl stopped
      refine (removeContainerFact_talks here.2 (Or.inr ⟨here.1, stops, logs⟩)).bind ?_
      intro final result gone
      exact holds_pure ⟨(here.same gone.1).1, gone.1.stopSeen stops,
        (gone.1.exitSeen.trans right.1.exitSeen).trans seenExit, fun _ => gone.2.1.trans logs, gone.2.2⟩

theorem watchUntilExit_talks (stdout : given.stdoutPath = some stdoutPath)
    (stderr : given.stderrPath = some stderrPath) (started : Started seen id) (polls : Nat) :
    Talks name (fun later result => ∀ ended ∈ result, RunResult.Fits later ended) seen
      (watchUntilExit given id polls) := by
  refine holds_question_bind trivial fun _ => ?_
  refine (awaitExit_talks stdout stderr started polls 0).bind fun later ended right => ?_
  cases ended with
  | none => exact holds_pure fun result listed => by cases listed
  | some result =>
      have passed := right result rfl
      cases result with
      | error error =>
          refine holds_pure fun result listed => ?_
          cases listed
          exact passed
      | ok exit =>
          refine Holds.map ((finish_talks stdout stderr passed).mono ?_)
          intro final exit fits result listed
          cases listed
          exact fits

/-- A run whose logs are kept in two files. -/
theorem runInner_talks (stdout : given.stdoutPath = some stdoutPath)
    (stderr : given.stderrPath = some stderrPath) (polls : Nat) :
    Talks given.name (fun later result => ∀ ended ∈ result, RunResult.Fits later ended) .none
      (runInner given polls) :=
  orReturn_talks (prepare_talks ⟨rfl, rfl⟩) fun _ arguments untouched =>
    orReturn_talks (createContainer_talks untouched arguments) fun _ _ created =>
      orReturn_talks (bindId_talks created) fun _ _ bound =>
        orReturn_talks (recheckGpus_talks bound) fun _ _ bound =>
          orReturn_talks (startContainer_talks stdout stderr bound) fun _ _ started =>
            watchUntilExit_talks stdout stderr started polls

end Specs

end Gputeer.Agent
