import Gputeer.Lib.Dialogue
import Gputeer.Lib.Text

/-! One run of a container: made, started, watched until it ends, its logs saved, removed. The program talks
with a runtime by commands that may fail in any way, and with the disk of the host. -/

namespace Gputeer.Agent

open Text

section Commands

/-- The commands of a run, with what they are about. -/
inductive RuntimeCommand where
  | pull (image : String)
  | inspectOwner (name : String)
  | create (arguments : List String)
  | inspectRunning (target : String)
  | inspectName (id : String)
  | inspectState (target : String)
  | start (target : String)
  | kill (target : String)
  | logs (target : String)
  | remove (target : String)

/-- The first argument. -/
def RuntimeCommand.first : RuntimeCommand → Option String
  | pull _ => some "pull"
  | inspectOwner _ | inspectRunning _ | inspectName _ | inspectState _ => some "inspect"
  | create arguments => arguments.head?
  | start _ => some "start"
  | kill _ => some "kill"
  | logs _ => some "logs"
  | remove _ => some "rm"

structure CliOutput where
  success : Bool
  status : String
  stdout : String
  stderr : String

/-- The command was not spawned; or it was, and no whole answer came. -/
inductive CliFailure where
  | notSpawned (why : String)
  | afterSpawn (why : String)

def CliFailure.why : CliFailure → String
  | notSpawned why | afterSpawn why => why

abbrev CliReply := Except CliFailure CliOutput

inductive RunQuestion where
  | cli (command : RuntimeCommand)
  | gpuCount
  | createFile (path : String)
  | removeFile (path : String)
  | startedWith (target : String)
  | writeIncident (kind detail : String)

/-- A file that is not there counts as removed. -/
abbrev RunQuestion.Answer : RunQuestion → Type
  | cli _ => CliReply
  | gpuCount => Except String Nat
  | createFile _ | removeFile _ | writeIncident _ _ => Except String Unit
  | startedWith _ => Unit

abbrev ContainerDialogue := Dialogue RunQuestion RunQuestion.Answer

abbrev runCli (command : RuntimeCommand) : ContainerDialogue CliReply :=
  Dialogue.question (RunQuestion.cli command)

abbrev gpuCount : ContainerDialogue (Except String Nat) := Dialogue.question RunQuestion.gpuCount

abbrev createFile (path : String) : ContainerDialogue (Except String Unit) :=
  Dialogue.question (RunQuestion.createFile path)

abbrev removeFile (path : String) : ContainerDialogue (Except String Unit) :=
  Dialogue.question (RunQuestion.removeFile path)

/-- The handle that stops this container is given to the owner. -/
abbrev onStarted (target : String) : ContainerDialogue Unit :=
  Dialogue.question (RunQuestion.startedWith target)

abbrev writeIncident (kind detail : String) : ContainerDialogue (Except String Unit) :=
  Dialogue.question (RunQuestion.writeIncident kind detail)

/-- `{:?} 실패({}): {}` -/
def failedText (command : RuntimeCommand) (output : CliOutput) : String :=
  let first := debugMaybe debugQuoted command.first
  let status := output.status
  let stderr := trim output.stderr
  s!"{first} 실패({status}): {stderr}"

def cliOkOf (command : RuntimeCommand) : CliReply → Except String CliOutput
  | .ok output => if output.success then .ok output else .error (failedText command output)
  | .error failure => .error failure.why

end Commands

section Readings

def saysNoSuchContainer (why : String) : Bool :=
  occurs "no such container" why.toLower || occurs "no such object" why.toLower

/-- Whether the container runs; one that is not there does not. -/
def readRunning (target : String) (reply : CliReply) : Except String Bool :=
  match cliOkOf (.inspectRunning target) reply with
  | .ok output =>
      let text := trim output.stdout
      let shown := debugQuoted text
      if text = "true" then .ok true
      else if text = "false" then .ok false
      else .error s!"State.Running 을 읽지 못했다({shown})"
  | .error why => if saysNoSuchContainer why then .ok false else .error why

/-- Whether there is such a container. -/
def readExists (target : String) (reply : CliReply) : Except String Bool :=
  match cliOkOf (.inspectRunning target) reply with
  | .ok _ => .ok true
  | .error why => if saysNoSuchContainer why then .ok false else .error why

/-- 12 to 64 hexadecimal digits. -/
def isContainerId (id : String) : Bool :=
  12 ≤ id.utf8ByteSize && id.utf8ByteSize ≤ 64 && id.toList.all fun c =>
    c.isDigit || ('a' ≤ c && c ≤ 'f') || ('A' ≤ c && c ≤ 'F')

/-- The id and the owner label of the container with this name, if there is one. -/
def readOwner (name : String) (reply : CliReply) : Except String (Option (String × String)) :=
  match cliOkOf (.inspectOwner name) reply with
  | .ok output =>
      let text := trim output.stdout
      let shown := debugQuoted text
      let (id, rest) := splitOnceWhiteSpace text
      let owner := trim rest
      if !isContainerId id then .error s!"inspect 가 컨테이너 ID 를 돌려주지 않았다({shown})"
      else .ok (some (id, if owner = "<no value>" then "" else owner))
  | .error why => if saysNoSuchContainer why then .ok none else .error why

def readName (id : String) (reply : CliReply) : Except String String :=
  match cliOkOf (.inspectName id) reply with
  | .ok output => .ok (String.ofList ((trim output.stdout).toList.dropWhile (· = '/')))
  | .error why => .error why

/-- An exit code, and whether the kernel killed the workload for its memory. -/
structure ObservedExit where
  exitCode : Int
  oomKilled : Bool
  deriving DecidableEq

def parseOomKilled (text : String) : Except String Bool :=
  let shown := debugQuoted text
  if text = "true" then .ok true
  else if text = "false" then .ok false
  else .error s!"OOMKilled 를 읽지 못했다({shown})"

/-- The exit of a container that does not run, and was started once. -/
def parseExit (code oom : String) (started : List String) : Except String ObservedExit :=
  let shownCode := debugQuoted code
  let startedAt := String.intercalate " " started
  let shownStart := debugQuoted startedAt
  match parseInt64 code with
  | .error error => .error s!"ExitCode 를 읽지 못했다({shownCode}): {error}"
  | .ok exitCode =>
      match parseOomKilled oom with
      | .error error => .error error
      | .ok oomKilled =>
          if startedAt = "" ∨ "0001-01-01".toList.isPrefixOf startedAt.toList then
            .error (s!"INSPECT_NEVER_STARTED: 멈춰 있지만 시작한 흔적이 없다(State.StartedAt={shownStart}) " ++
              "— 종료로 읽지 않는다")
          else .ok ⟨exitCode, oomKilled⟩

def parseInspectState (text : String) : Except String (Option ObservedExit) :=
  let shown := debugQuoted text
  match fields text with
  | running :: code :: oom :: started =>
      let shownRunning := debugQuoted running
      if running = "true" then .ok none
      else if running = "false" then some <$> parseExit code oom started
      else .error s!"State.Running 을 읽지 못했다({shownRunning})"
  | _ => .error s!"inspect 출력을 읽지 못했다({shown})"

def readState (target : String) (reply : CliReply) : Except String (Option ObservedExit) :=
  match cliOkOf (.inspectState target) reply with
  | .ok output => parseInspectState output.stdout
  | .error why => .error why

end Readings

section Steps

def inspectRunning (target : String) : ContainerDialogue (Except String Bool) :=
  readRunning target <$> runCli (.inspectRunning target)

def inspectExists (target : String) : ContainerDialogue (Except String Bool) :=
  readExists target <$> runCli (.inspectRunning target)

def inspectOwner (name : String) : ContainerDialogue (Except String (Option (String × String))) :=
  readOwner name <$> runCli (.inspectOwner name)

def inspectName (id : String) : ContainerDialogue (Except String String) :=
  readName id <$> runCli (.inspectName id)

def inspectState (target : String) : ContainerDialogue (Except String (Option ObservedExit)) :=
  readState target <$> runCli (.inspectState target)

def stopConfirmTries : Nat := 10

/-- Look again until it does not run; a runtime that does not answer ends this. -/
def confirmStopped (target : String) : Nat → String → ContainerDialogue (Except String Unit)
  | 0, last => pure (.error last)
  | tries + 1, _ => do
      match ← inspectRunning target with
      | .ok false => pure (.ok ())
      | .ok true => confirmStopped target tries "아직 돈다"
      | .error why => pure (.error s!"상태를 모른다({why})")

def killNote : CliReply → String
  | .ok output =>
      let status := output.status
      let stderr := trim output.stderr
      if output.success then "kill 접수" else s!"kill 실패({status}): {stderr}"
  | .error failure =>
      let why := failure.why
      s!"kill 실패: {why}"

def killAndConfirm (target : String) : ContainerDialogue (Except String Unit) := do
  let reply ← runCli (.kill target)
  let note := killNote reply
  let confirmed ← confirmStopped target stopConfirmTries ""
  pure (confirmed.mapError fun why => s!"{note} · {why}")

def stopAndConfirm (target : String) : ContainerDialogue (Except String Unit) := do
  match ← inspectRunning target with
  | .ok false => pure (.ok ())
  | .ok true | .error _ => killAndConfirm target

/-- Where the container object is left. -/
inductive ContainerLeft where
  | removed
  | kept
  | unknown
  deriving DecidableEq

def ContainerLeft.debugName : ContainerLeft → String
  | removed => "Removed"
  | kept => "Kept"
  | unknown => "Unknown"

def leftAfterRemove (removed : Except String Unit) (found : Except String Bool) :
    ContainerLeft × String :=
  match removed, found with
  | .ok (), .ok false => (.removed, "rm 성공 · 없음 확인")
  | .ok (), .ok true => (.unknown, "rm 이 성공이라 답했지만 컨테이너가 아직 있다")
  | .ok (), .error why => (.unknown, s!"rm 이 성공이라 답했지만 없어졌는지 확인하지 못했다({why})")
  | .error why, .ok false => (.removed, s!"rm 이 실패했지만 없음 확인({why})")
  | .error why, .ok true => (.unknown, s!"rm 실패 · 아직 있다({why})")
  | .error why, .error inspect => (.unknown, s!"rm 실패({why}) · 있는지도 모른다({inspect})")

/-- Only an answer that it is not there says that it was removed. -/
def removeContainerFact (target : String) : ContainerDialogue (ContainerLeft × String) := do
  let reply ← runCli (.remove target)
  let found ← inspectExists target
  pure (leftAfterRemove ((cliOkOf (.remove target) reply).map fun _ => ()) found)

def logsResult : CliReply → Except String Unit
  | .ok output =>
      let status := output.status
      if output.success then .ok () else .error s!"logs 실패({status})"
  | .error failure => .error failure.why

/-- The logs that the runtime has up to now, into two files. Without paths there is nothing to save. -/
def saveLogs (target : String) (stdoutPath stderrPath : Option String) :
    ContainerDialogue (Except String Unit) :=
  match stdoutPath, stderrPath with
  | some stdoutPath, some stderrPath => do
      match ← createFile stdoutPath with
      | .error error =>
          let shown := debugQuoted stdoutPath
          pure (.error s!"{shown} 열기 실패: {error}")
      | .ok () =>
          match ← createFile stderrPath with
          | .error error =>
              let shown := debugQuoted stderrPath
              pure (.error s!"{shown} 열기 실패: {error}")
          | .ok () => logsResult <$> runCli (.logs target)
  | _, _ => pure (.ok ())

/-- The files that could not be removed. -/
def removeFiles : List String → ContainerDialogue (List String)
  | [] => pure []
  | path :: rest => do
      let removed ← removeFile path
      let failed ← removeFiles rest
      let shown := debugQuoted path
      match removed with
      | .ok () => pure failed
      | .error error => pure (s!"{shown}: {error}" :: failed)

def discardPartialOutputs (stdoutPath stderrPath : Option String) : ContainerDialogue String := do
  let failed ← removeFiles (stdoutPath.toList ++ stderrPath.toList)
  let text := String.intercalate " · " failed
  pure (if failed.isEmpty then "" else s!" · 부분 파일을 지우지 못했다({text})")

end Steps

section Run

/-- What a run is given. `create` is what `create_args` made of the execution and its input. -/
structure ContainerRun where
  name : String
  owner : String
  image : String
  passesAllGpus : Bool
  create : Except String (List String)
  stdoutPath : Option String
  stderrPath : Option String
  incidentDir : Option String

structure ContainerExit where
  exitCode : Int
  oomKilled : Bool
  logsComplete : Bool
  container : ContainerLeft
  note : String

def ContainerExit.needsHuman (exit : ContainerExit) : Bool := exit.container ≠ .removed

inductive ContainerRunError where
  | notStarted (detail : String) (container : ContainerLeft)
  | unobserved (detail : String) (stopped logsComplete : Bool) (container : ContainerLeft)

def ContainerRunError.needsHuman : ContainerRunError → Bool
  | notStarted _ container => container ≠ .removed
  | unobserved _ stopped _ container => !stopped || container ≠ .removed

def ContainerRunError.detail : ContainerRunError → String
  | notStarted detail _ | unobserved detail _ _ _ => detail

variable (given : ContainerRun)

def notCreated (detail : String) : ContainerRunError := .notStarted detail .removed

/-- Where all GPUs are passed on, there must be exactly one. -/
def cdiAllReady : ContainerDialogue (Except String Unit) :=
  if given.passesAllGpus then do
    match ← gpuCount with
    | .ok 1 => pure (.ok ())
    | .ok count => pure (.error ("CONTAINER_GPU_ALL_NOT_PINNED: 컨테이너를 만들기 직전 NVML 이 " ++
        s!"GPU {count}장을 본다 — cdi-all 은 한 장일 때만 넘긴다"))
    | .error why => pure (.error ("CONTAINER_GPU_ALL_NOT_PINNED: 컨테이너를 만들기 직전 GPU 가 " ++
        s!"한 장임을 NVML 로 확인하지 못했다: {why}"))
  else pure (.ok ())

/-- The image is pulled before the GPUs are counted. -/
def pullImage : ContainerDialogue (Except String Unit) :=
  if given.passesAllGpus then do
    let reply ← runCli (.pull given.image)
    pure (((cliOkOf (.pull given.image) reply).map fun _ => ()).mapError fun why => s!"pull: {why}")
  else pure (.ok ())

/-- A container with this name is never removed here, whosever it is. -/
def refuseTakenName (found : Except String (Option (String × String))) :
    Except ContainerRunError Unit :=
  match found with
  | .ok none => .ok ()
  | .ok (some (id, owner)) =>
      let shown := debugQuoted owner
      if owner = given.owner then
        .error (.notStarted (s!"이 Agent 의 같은 이름 컨테이너(ID {id})가 남아 있다 — 만들기 직전에는 자동으로 " ++
          "지우지 않는다(멈춤 · 로그를 확인하지 않은 삭제가 된다) · 사람이 확인한 뒤 해제하면 다음 기동의 남은 " ++
          "컨테이너 정리가 치운다") .kept)
      else
        .error (.notStarted (s!"같은 이름의 컨테이너(ID {id})가 이 Agent 의 것이 아니다(owner 라벨 {shown}) — " ++
          "지우지도 만들지도 않았다(사람이 확인한다)") .unknown)
  | .error why =>
      .error (.notStarted ("같은 이름의 컨테이너가 있는지 · 누구의 것인지 확인하지 못했다(" ++
        s!"{why}) — 만들지 않았다") .unknown)

/-- Everything before `create`: its arguments. -/
def prepare : ContainerDialogue (Except ContainerRunError (List String)) := do
  match ← pullImage given with
  | .error why => pure (.error (notCreated why))
  | .ok () =>
      match ← cdiAllReady given with
      | .error why => pure (.error (notCreated why))
      | .ok () =>
          match given.create with
          | .error why => pure (.error (notCreated why))
          | .ok arguments => do
              let found ← inspectOwner given.name
              pure ((refuseTakenName given found).map fun _ => arguments)

def leftAfterFailedCreate (found : Except String Bool) : ContainerLeft × String :=
  match found with
  | .ok false => (.removed, "같은 이름의 컨테이너 없음 확인")
  | .ok true => (.unknown,
      "같은 이름의 컨테이너가 있다 — 이 시도가 반쯤 만든 것인지 다른 것인지 몰라 지우지 않았다")
  | .error e => (.unknown, s!"같은 이름의 컨테이너가 있는지 모른다({e})")

def createFailed (why : String) : ContainerDialogue ContainerRunError := do
  let found ← inspectExists given.name
  let (left, fact) := leftAfterFailedCreate found
  pure (.notStarted s!"create: {why} · {fact}" left)

/-- The id that `create` returned. -/
def createContainer (arguments : List String) :
    ContainerDialogue (Except ContainerRunError String) := do
  match ← runCli (.create arguments) with
  | .ok output =>
      if output.success then pure (.ok (trim output.stdout))
      else .error <$> createFailed given (failedText (.create arguments) output)
  | .error (.notSpawned why) =>
      pure (.error (.notStarted (s!"create 를 띄우지 못했다({why}) — 요청이 런타임에 닿지 않아 " ++
        "컨테이너를 만들지 않았다") .removed))
  | .error (.afterSpawn why) => .error <$> createFailed given why

/-- Whether the id names the container of this attempt. -/
def isBound (id : String) : ContainerDialogue (Except String Bool) :=
  if isContainerId id then do
    let found ← inspectName id
    pure (found.map fun name => name = given.name)
  else pure (.ok false)

def bindId (id : String) : ContainerDialogue (Except ContainerRunError Unit) := do
  let shown := debugQuoted id
  let name := given.name
  let refuse (why : String) : ContainerRunError :=
    .notStarted (s!"create 가 돌려준 ID({shown})를 이 시도의 컨테이너 {name} 로 확인하지 못했다({why}) — " ++
      "시작하지도 지우지도 않았다(사람이 확인한다)") .unknown
  match ← isBound given id with
  | .ok true => pure (.ok ())
  | .ok false => pure (.error (refuse "모양이 ID 가 아니거나 다른 컨테이너를 가리킨다"))
  | .error e => pure (.error (refuse s!"대조하지 못했다({e})"))

def recheckGpus (id : String) : ContainerDialogue (Except ContainerRunError Unit) := do
  match ← cdiAllReady given with
  | .ok () => pure (.ok ())
  | .error why =>
      let (left, removed) ← removeContainerFact id
      pure (.error (.notStarted s!"create 뒤 다시 확인: {why} · {removed}" left))

/-- A start that the runtime said had failed: the workload may have run all the same. -/
def startRefused (id head : String) : ContainerDialogue ContainerRunError := do
  let name := given.name
  match ← stopAndConfirm id with
  | .error stop =>
      onStarted id
      pure (.unobserved (s!"{head} · 멈춤을 확인하지 못했다({stop}) — 컨테이너 {name} (ID {id}) 를 " ++
        "남겼다(돌고 있을 수 있다 · 사람이 확인한다)") false false .kept)
  | .ok () =>
      match ← saveLogs id given.stdoutPath given.stderrPath with
      | .error e =>
          let discard ← discardPartialOutputs given.stdoutPath given.stderrPath
          pure (.unobserved (s!"{head} · 멈췄다 · 로그 못 남김({e}){discard} — 컨테이너를 남겼다(런타임에 " ++
            "로그가 남는다 · 사람이 확인한다)") true false .kept)
      | .ok () =>
          let (left, removed) ← removeContainerFact id
          pure (.unobserved s!"{head} · 멈췄다 · 로그 남김 · {removed}" true true left)

/-- A start without an answer may take effect later, so that nothing that is seen now is the end. -/
def startUnanswered (id head : String) : ContainerDialogue ContainerRunError := do
  let name := given.name
  onStarted id
  pure (.unobserved (s!"{head} · 접수된 start 가 뒤늦게 적용될 수 있어 멈춤을 확인할 수 없다 — " ++
    s!"컨테이너 {name} (ID {id}) 를 남겼다(사람이 확인한다)") false false .kept)

def startContainer (id : String) : ContainerDialogue (Except ContainerRunError Unit) := do
  match ← runCli (.start id) with
  | .ok output =>
      let status := output.status
      let stderr := trim output.stderr
      let head := s!"start 실패({status}): {stderr} — 시작했는지 모른다"
      if output.success then pure (.ok ()) else .error <$> startRefused given id head
  | .error (.notSpawned why) =>
      let (left, removed) ← removeContainerFact id
      pure (.error (.notStarted (s!"start 를 띄우지 못했다({why}) — 요청이 런타임에 닿지 않아 시작하지 " ++
        s!"않았다 · {removed}") left))
  | .error (.afterSpawn why) =>
      .error <$> startUnanswered given id s!"start 가 응답하지 않았다({why}) — 시작했는지 모른다"

def pollFailuresTolerated : Nat := 5

def savedText (saved : Except String Unit) (stopped : Bool) (discard : String) : String :=
  match saved with
  | .ok () =>
      if stopped then "로그 남김"
      else "지금까지의 로그만 남김(멈춤을 확인하지 못해 완결이 아니다)"
  | .error e => s!"로그 못 남김({e}){discard}"

def discardUnlessSaved (saved : Except String Unit) : ContainerDialogue String :=
  match saved with
  | .ok () => pure ""
  | .error _ => discardPartialOutputs given.stdoutPath given.stderrPath

def killedText (stopped : Except String Unit) : String :=
  match stopped with
  | .ok () => "멈춤 확인"
  | .error why => s!"멈춤을 확인하지 못했다({why})"

/-- The end was not seen, this many times in a row. -/
def notObserved (id : String) (failures : Nat) (why : String) : ContainerDialogue ContainerRunError := do
  let confirmed ← stopAndConfirm id
  let stopped := confirmed.isOk
  let killed := killedText confirmed
  let saved ← saveLogs id given.stdoutPath given.stderrPath
  let discard ← discardUnlessSaved given saved
  let logs := savedText saved stopped discard
  let logsComplete := stopped && saved.isOk
  let head := s!"종료를 {failures}번 연속 확인하지 못했다({why}) · {killed} · {logs}"
  if !stopped || !logsComplete then
    pure (.unobserved s!"{head} — 컨테이너를 남겼다(사람이 확인한다)" stopped logsComplete .kept)
  else
    let (left, removed) ← removeContainerFact id
    pure (.unobserved s!"{head} · {removed}" true true left)

/-- The polls, without a limit of time; `none` while it still runs after this many. -/
def awaitExit (id : String) : Nat → Nat →
    ContainerDialogue (Option (Except ContainerRunError ObservedExit))
  | 0, _ => pure none
  | polls + 1, failures => do
      match ← inspectState id with
      | .ok (some exit) => pure (some (.ok exit))
      | .ok none => awaitExit id polls 0
      | .error why =>
          if pollFailuresTolerated ≤ failures + 1 then
            (fun error => some (.error error)) <$> notObserved given id (failures + 1) why
          else awaitExit id polls (failures + 1)

/-- The logs first, and only with them the container. -/
def finish (id : String) (exit : ObservedExit) : ContainerDialogue ContainerExit := do
  match ← saveLogs id given.stdoutPath given.stderrPath with
  | .ok () =>
      let (left, removed) ← removeContainerFact id
      pure ⟨exit.exitCode, exit.oomKilled, true, left, s!"로그 받음 · {removed}"⟩
  | .error why =>
      let discard ← discardPartialOutputs given.stdoutPath given.stderrPath
      pure ⟨exit.exitCode, exit.oomKilled, false, .kept,
        s!"로그를 받지 못해 컨테이너를 남겼다({why}){discard}"⟩

abbrev RunResult := Except ContainerRunError ContainerExit

/-- The `?` of the source. -/
def orReturn {α : Type} (step : ContainerDialogue (Except ContainerRunError α))
    (next : α → ContainerDialogue (Option RunResult)) : ContainerDialogue (Option RunResult) := do
  match ← step with
  | .ok value => next value
  | .error error => pure (some (.error error))

def watchUntilExit (id : String) (polls : Nat) : ContainerDialogue (Option RunResult) := do
  onStarted id
  match ← awaitExit given id polls 0 with
  | none => pure none
  | some (.error error) => pure (some (.error error))
  | some (.ok exit) => (fun exit => some (.ok exit)) <$> finish given id exit

def runInner (polls : Nat) : ContainerDialogue (Option RunResult) :=
  orReturn (prepare given) fun arguments =>
    orReturn (createContainer given arguments) fun id =>
      orReturn (bindId given id) fun _ =>
        orReturn (recheckGpus given id) fun _ =>
          orReturn (startContainer given id) fun _ =>
            watchUntilExit given id polls

def incidentKind : RunResult → String
  | .ok _ => "EXITED"
  | .error (.notStarted ..) => "NOT_STARTED"
  | .error (.unobserved ..) => "UNOBSERVED"

def incidentDetail : RunResult → String
  | .ok exit =>
      let code := exit.exitCode
      let logs := if exit.logsComplete then "완결" else "못 받음"
      let left := exit.container.debugName
      let note := exit.note
      s!"종료 코드 {code} · 로그 {logs} · 컨테이너 {left} · {note}"
  | .error error => error.detail

def RunResult.needsHuman : RunResult → Bool
  | .ok exit => exit.needsHuman
  | .error error => error.needsHuman

/-- The incident is written down; whether that succeeds does not change what was observed. -/
def recordIncidentIfNeeded (result : RunResult) : ContainerDialogue RunResult :=
  if given.incidentDir.isSome && result.needsHuman then do
    let _ ← writeIncident (incidentKind result) (incidentDetail result)
    pure result
  else pure result

def runWithGpuCount (polls : Nat) : ContainerDialogue (Option RunResult) := do
  match ← runInner given polls with
  | none => pure none
  | some result => some <$> recordIncidentIfNeeded given result

end Run

end Gputeer.Agent
