import Gputeer.Agent.ContainerCreate
import Gputeer.Checkpoint.SharedNames
import Gputeer.Lib.Except
import Gputeer.Lib.OptionTokens

/-! What the runtime reads of a `create`: the options of the sandbox and of the Agent, whatever a Job says. -/

namespace Gputeer.Agent

open Text OptionTokens

section Options

/-- Of the options that are used, one takes the next token as its value. -/
def runtimeTakesNext (token : String) : Bool := token = "--gpus"

theorem runtimeTakesNext_flat (token : String) (takes : runtimeTakesNext token = true) :
    '=' ∉ token.toList := by
  have same : token = "--gpus" := of_decide_eq_true takes
  rw [same]
  decide

abbrev CreateOption := String × Option String

def sandboxOptions (runtime : ContainerRuntime) (input : CreateInput) : List CreateOption :=
  let memory := toString input.memoryLimitBytes.toNat
  [("--name", some input.name), ("--label", some "gputeer.managed=1"),
    ("--label", some ("gputeer.node=" ++ runtime.nodeId)),
    ("--label", some ("gputeer.owner=" ++ runtime.owner)), ("--pull", some "missing"),
    ("--read-only", none), ("--tmpfs", some "/tmp"), ("--cap-drop", some "ALL"),
    ("--security-opt", some "no-new-privileges"), ("--network", some "none"), ("--ipc", some "private"),
    ("--pids-limit", some (toString containerPidsLimit)), ("--memory", some memory),
    ("--memory-swap", some memory), ("--workdir", some "/tmp")]

/-- A folder is mounted, and nothing in its path can end a field of the option. -/
def MountOption (mount : Mount) (option : CreateOption) : Prop :=
  ∃ host, mount.host = .unicode host ∧ ',' ∉ host.toList ∧ '=' ∉ host.toList ∧
    option = ("--mount", some ("type=bind,source=" ++ host ++ ",target=" ++ mount.target ++
      if mount.readOnly then ",readonly" else ""))

def EnvironmentOption (mounts : List Mount) (entry : OsText × OsText) (option : CreateOption) : Prop :=
  ∃ key text, entry = (.unicode key, .unicode text) ∧ key ≠ "" ∧ '=' ∉ key.toList ∧
    option = ("--env", some (key ++ "=" ++ translateText text mounts))

def userOptions (flavor : RuntimeFlavor) (user : Option (UInt32 × UInt32)) : List CreateOption :=
  match flavor, user with
  | .podman, _ => [("--userns", some "keep-id")]
  | .docker, some (uid, gid) => [("--user", some (toString uid.toNat ++ ":" ++ toString gid.toNat))]
  | .docker, none => []

def volumeOptions : RuntimeFlavor → List CreateOption
  | .podman => [("--image-volume", some "ignore"), ("--read-only-tmpfs", some "false")]
  | .docker => []

def gpuOptions (request : GpuRequest) (pin : String) : List CreateOption :=
  match request with
  | .cdi => (pinIds pin).map fun id => ("--device", some ("nvidia.com/gpu=" ++ id))
  | .gpus => [("--gpus", some ("\"device=" ++ String.intercalate "," (pinIds pin) ++ "\""))]
  | .cdiAll => [("--device", some "nvidia.com/gpu=all")]

end Options

section Written

abbrev RuntimeWrites := Writes runtimeTakesNext

/-- One token that has its value behind an equals sign. -/
theorem written_fused (head : String) {token name value : String} (same : token = head ++ value)
    (ends : head = name ++ "=") (dash : isOption name) (plain : '=' ∉ name.toList) :
    Written runtimeTakesNext [token] (name, some value) := by
  refine .fused dash plain ?_
  rw [same, ends]

theorem sandboxArgs_written (runtime : ContainerRuntime) (input : CreateInput) :
    RuntimeWrites (sandboxArgs runtime input) (sandboxOptions runtime input) := by
  apply Writes.of_forall₂
  refine .cons (written_fused "--name=" rfl (by decide) (by decide) (by decide)) ?_
  refine .cons (written_fused "--label=" (by decide) (by decide) (by decide) (by decide)) ?_
  refine .cons (written_fused "--label=" ?_ (by decide) (by decide) (by decide)) ?_
  · rw [← String.append_assoc]
    rfl
  refine .cons (written_fused "--label=" ?_ (by decide) (by decide) (by decide)) ?_
  · rw [← String.append_assoc]
    rfl
  refine .cons (written_fused "--pull=" (by decide) (by decide) (by decide) (by decide)) ?_
  refine .cons (.flag (by decide) (by decide) (by decide)) ?_
  refine .cons (written_fused "--tmpfs=" (by decide) (by decide) (by decide) (by decide)) ?_
  refine .cons (written_fused "--cap-drop=" (by decide) (by decide) (by decide) (by decide)) ?_
  refine .cons (written_fused "--security-opt=" (by decide) (by decide) (by decide) (by decide)) ?_
  refine .cons (written_fused "--network=" (by decide) (by decide) (by decide) (by decide)) ?_
  refine .cons (written_fused "--ipc=" (by decide) (by decide) (by decide) (by decide)) ?_
  refine .cons (written_fused "--pids-limit=" rfl (by decide) (by decide) (by decide)) ?_
  refine .cons (written_fused "--memory=" rfl (by decide) (by decide) (by decide)) ?_
  refine .cons (written_fused "--memory-swap=" rfl (by decide) (by decide) (by decide)) ?_
  exact .cons (written_fused "--workdir=" (by decide) (by decide) (by decide) (by decide)) .nil

theorem userArgs_written (flavor : RuntimeFlavor) (user : Option (UInt32 × UInt32)) :
    RuntimeWrites (userArgs flavor user) (userOptions flavor user) := by
  apply Writes.of_forall₂
  cases flavor with
  | podman => exact .cons (written_fused "--userns=" (by decide) (by decide) (by decide) (by decide)) .nil
  | docker =>
      cases user with
      | none => exact .nil
      | some ids =>
          refine .cons (written_fused "--user=" ?_ (by decide) (by decide) (by decide)) .nil
          simp only [String.append_assoc]

theorem volumeArgs_written (flavor : RuntimeFlavor) :
    RuntimeWrites (volumeArgs flavor) (volumeOptions flavor) := by
  apply Writes.of_forall₂
  cases flavor with
  | podman =>
      refine .cons (written_fused "--image-volume=" (by decide) (by decide) (by decide) (by decide)) ?_
      exact .cons (written_fused "--read-only-tmpfs=" (by decide) (by decide) (by decide) (by decide)) .nil
  | docker => exact .nil

theorem gpuArgs_written (request : GpuRequest) (pin : String) :
    RuntimeWrites (gpuArgs request pin) (gpuOptions request pin) := by
  cases request with
  | cdi =>
      apply Writes.of_forall₂
      refine List.forall₂_map_left_iff.mpr (List.forall₂_map_right_iff.mpr (List.forall₂_same.mpr ?_))
      intro id _
      refine written_fused "--device=" ?_ (by decide) (by decide) (by decide)
      rw [← String.append_assoc]
      rfl
  | gpus => exact .cons (.separate (by decide) (by decide)) .nil
  | cdiAll =>
      apply Writes.of_forall₂
      exact .cons (written_fused "--device=" (by decide) (by decide) (by decide) (by decide)) .nil

theorem mountArg_written {mount : Mount} {token : String} (made : mountArg mount = .ok token) :
    ∃ option, MountOption mount option ∧ Written runtimeTakesNext [token] option := by
  unfold mountArg at made
  cases host : mount.host with
  | other shown =>
      rw [host] at made
      cases made
  | unicode path =>
      rw [host] at made
      obtain ⟨clean, same⟩ := Except.ite_error_eq_ok.mp made
      rw [not_or] at clean
      refine ⟨_, ⟨path, host, clean.1, clean.2, rfl⟩, written_fused "--mount=" ?_ (by decide) (by decide)
        (by decide)⟩
      cases same
      simp only [← String.append_assoc]
      rfl

theorem environmentArg_written {mounts : List Mount} {entry : OsText × OsText} {token : String}
    (made : environmentArg mounts entry = .ok token) :
    ∃ option, EnvironmentOption mounts entry option ∧ Written runtimeTakesNext [token] option := by
  obtain ⟨name, value⟩ := entry
  unfold environmentArg at made
  cases name with
  | other shown => cases made
  | unicode key =>
      obtain ⟨text, translated, rest⟩ := Except.bind_eq_ok.mp made
      cases value with
      | other shown => cases translated
      | unicode given =>
          cases translated
          obtain ⟨clean, same⟩ := Except.ite_error_eq_ok.mp rest
          rw [not_or] at clean
          refine ⟨_, ⟨key, given, rfl, clean.1, clean.2, rfl⟩, written_fused "--env=" ?_ (by decide) (by decide)
            (by decide)⟩
          cases same
          simp only [String.append_assoc]

/-- One token for each thing that the Agent lists. -/
theorem written_of_mapM {α : Type} {make : α → Except String String} {Option_ : α → CreateOption → Prop}
    {listed : List α} {tokens : List String} (made : listed.mapM make = .ok tokens)
    (each : ∀ {item token}, make item = .ok token →
      ∃ option, Option_ item option ∧ Written runtimeTakesNext [token] option) :
    ∃ options, List.Forall₂ Option_ listed options ∧ RuntimeWrites tokens options := by
  have paired := Except.mapM_eq_ok.mp made
  clear made
  induction paired with
  | nil => exact ⟨[], .nil, .nil⟩
  | cons first rest ih =>
      obtain ⟨option, is_, written⟩ := each first
      obtain ⟨options, are, writes⟩ := ih
      exact ⟨option :: options, .cons is_ are, .cons written writes⟩

end Written

section Image

variable {imageRef : String} {digest : List UInt8}

structure PlainRef (imageRef : String) : Prop where
  filled : imageRef ≠ ""
  undashed : imageRef.toList.head? ≠ some '-'
  short : imageRef.utf8ByteSize ≤ 255
  plain : ∀ c ∈ imageRef.toList, isImageRefChar c = true

theorem checkImageRef_eq_ok (checked : checkImageRef imageRef = .ok ()) : PlainRef imageRef := by
  unfold checkImageRef at checked
  obtain ⟨filled, checked⟩ := Except.ite_error_eq_ok.mp checked
  obtain ⟨undashed, checked⟩ := Except.ite_error_eq_ok.mp checked
  obtain ⟨short, checked⟩ := Except.ite_error_eq_ok.mp checked
  refine ⟨filled, undashed, Nat.le_of_not_lt short, fun c listed => ?_⟩
  cases found : imageRef.toList.find? (!isImageRefChar ·) with
  | some bad =>
      rw [found] at checked
      cases checked
  | none =>
      have allowed := List.find?_eq_none.mp found c listed
      simpa using allowed

def pinned (imageRef : String) (digest : List UInt8) : String :=
  imageRef ++ "@sha256:" ++ Checkpoint.toHex digest

theorem toList_pinned (imageRef : String) (digest : List UInt8) :
    (pinned imageRef digest).toList =
      imageRef.toList ++ ("@sha256:".toList ++ (Checkpoint.toHex digest).toList) := by
  unfold pinned
  rw [String.append_assoc, String.toList_append, String.toList_append]

/-- The image is no option. -/
theorem PlainRef.stops (plain : PlainRef imageRef) (digest : List UInt8) :
    isOption (pinned imageRef digest) = false := by
  refine decide_eq_false fun dash => ?_
  rw [toList_pinned, List.head?_append] at dash
  cases first : imageRef.toList with
  | nil => exact plain.filled (String.toList_eq_nil_iff.mp first)
  | cons c rest =>
      rw [first] at dash
      exact plain.undashed (first ▸ dash)

theorem PlainRef.count_at (plain : PlainRef imageRef) (digest : List UInt8) :
    (pinned imageRef digest).toList.count '@' = 1 := by
  have ref : imageRef.toList.count '@' = 0 := by
    refine List.count_eq_zero.mpr fun listed => ?_
    have allowed := plain.plain '@' listed
    revert allowed
    decide
  have hex : (Checkpoint.toHex digest).toList.count '@' = 0 :=
    List.count_eq_zero.mpr (Checkpoint.not_mem_toHex (by decide))
  rw [toList_pinned, List.count_append, List.count_append, ref, hex]
  decide

theorem length_toHex (bytes : List UInt8) : (Checkpoint.toHex bytes).toList.length = 2 * bytes.length := by
  unfold Checkpoint.toHex
  rw [String.toList_ofList]
  induction bytes with
  | nil => rfl
  | cons byte bytes ih =>
      rw [List.flatMap_cons, List.length_append, ih, List.length_cons]
      simp only [Checkpoint.hexDigits, List.length_cons, List.length_nil]
      omega

end Image

section Reading

/-- What the runtime makes of a `create`. -/
structure CreateReading where
  options : List CreateOption
  image : String
  arguments : List String

def readCreate : List String → Option CreateReading
  | [] => none
  | command :: tokens =>
      if command = "create" then
        match OptionTokens.read runtimeTakesNext tokens with
        | (options, image :: arguments) => some ⟨options, image, arguments⟩
        | (_, []) => none
      else none

theorem readCreate_eq {tokens : List String} {reading : CreateReading}
    (read : OptionTokens.read runtimeTakesNext tokens =
      (reading.options, reading.image :: reading.arguments)) :
    readCreate ("create" :: tokens) = some reading := by
  simp [readCreate, read]

/-- The options of the sandbox, those that the Agent chose, and the entrypoint. -/
def AgentOptions (runtime : ContainerRuntime) (gpuPin : Option String) (input : CreateInput)
    (options : List CreateOption) : Prop :=
  ∃ mounts environment, List.Forall₂ MountOption input.mounts mounts ∧
    List.Forall₂ (EnvironmentOption input.mounts) input.environment environment ∧
    options = sandboxOptions runtime input ++ mounts ++ userOptions runtime.flavor input.user ++
      volumeOptions runtime.flavor ++ environment ++
      (gpuPin.map (gpuOptions runtime.gpuRequest)).getD [] ++ [("--entrypoint", some input.entrypoint)]

/-- The image of a Job, pinned by the digest of its manifest. -/
def PinnedImage (manifest : Protocol.JobManifest) (image : String) : Prop :=
  ∃ env digest, manifest.env = some env ∧ env.ociSourceDigest = some digest ∧
    digest.algo = hashAlgorithmSha256 ∧ digest.value.length = 32 ∧
    image = env.imageRef ++ "@sha256:" ++ Checkpoint.toHex digest.value ∧
    (Checkpoint.toHex digest.value).toList.length = 64 ∧
    (∀ c ∈ (Checkpoint.toHex digest.value).toList, Checkpoint.isLowerHex c = true) ∧
    image.toList.count '@' = 1

theorem createArgs_eq_ok {execution : ContainerExecution} {input : CreateInput} {tokens : List String}
    (created : createArgs execution input = .ok tokens) :
    ∃ mounts environment, input.mounts.mapM mountArg = .ok mounts ∧
      input.environment.mapM (environmentArg input.mounts) = .ok environment ∧
      tokens = "create" :: sandboxArgs execution.runtime input ++ mounts ++
        userArgs execution.runtime.flavor input.user ++ volumeArgs execution.runtime.flavor ++ environment ++
        (execution.gpuPin.map (gpuArgs execution.runtime.gpuRequest)).getD [] ++
        ["--entrypoint=" ++ input.entrypoint] ++ execution.pinnedImage :: input.args := by
  unfold createArgs at created
  obtain ⟨limited, created⟩ := Except.ite_error_eq_ok.mp created
  obtain ⟨named, created⟩ := Except.ite_error_eq_ok.mp created
  obtain ⟨owned, created⟩ := Except.ite_error_eq_ok.mp created
  obtain ⟨mounts, mounted, created⟩ := Except.bind_eq_ok.mp created
  obtain ⟨environment, exported, created⟩ := Except.bind_eq_ok.mp created
  exact ⟨mounts, environment, mounted, exported, (Except.pure_eq_ok.mp created).symm⟩

theorem decideContainer_eq_container {manifest : Protocol.JobManifest} {runtime : Option ContainerRuntime}
    {gpuPin : Option String} {execution : ContainerExecution}
    (decided : decideContainer manifest runtime gpuPin = .container execution) :
    ∃ env chosen, manifest.env = some env ∧ runtime = some chosen ∧
      executionOf manifest env chosen gpuPin = .ok execution := by
  have noHost : ∀ runtime, decideContainer.hostOf runtime ≠ .container execution := by
    intro runtime same
    unfold decideContainer.hostOf at same
    split at same <;> cases same
  unfold decideContainer at decided
  cases hasEnv : manifest.env with
  | none =>
      rw [hasEnv] at decided
      exact absurd decided (noHost runtime)
  | some env =>
      rw [hasEnv] at decided
      by_cases image : env.kind = envKindOciImage
      · simp only [if_pos image] at decided
        cases runtime with
        | none => cases decided
        | some chosen =>
            refine ⟨env, chosen, rfl, rfl, ?_⟩
            cases made : executionOf manifest env chosen gpuPin with
            | error detail =>
                simp only [made] at decided
                cases decided
            | ok execution =>
                simp only [made] at decided
                cases decided
                rfl
      · simp only [if_neg image] at decided
        exact absurd decided (noHost runtime)

theorem executionOf_eq_ok {manifest : Protocol.JobManifest} {env : Protocol.ExecutionEnvironment}
    {runtime : ContainerRuntime} {gpuPin : Option String} {execution : ContainerExecution}
    (made : executionOf manifest env runtime gpuPin = .ok execution) :
    PlainRef env.imageRef ∧ ∃ digest, env.ociSourceDigest = some digest ∧ digest.algo = hashAlgorithmSha256 ∧
      digest.value.length = 32 ∧ execution = ⟨runtime, pinned env.imageRef digest.value, gpuPin⟩ := by
  unfold executionOf at made
  obtain ⟨done, checked, made⟩ := Except.bind_eq_ok.mp made
  obtain ⟨hex, pins, made⟩ := Except.bind_eq_ok.mp made
  obtain ⟨_, _, made⟩ := Except.bind_eq_ok.mp made
  obtain ⟨_, _, made⟩ := Except.bind_eq_ok.mp made
  refine ⟨checkImageRef_eq_ok (Except.mapError_eq_ok.mp checked), ?_⟩
  cases hasDigest : env.ociSourceDigest with
  | none =>
      rw [hasDigest] at pins
      cases pins
  | some digest =>
      rw [hasDigest] at pins
      unfold sourceDigestHex at pins
      by_cases sha256 : digest.algo = hashAlgorithmSha256 ∧ digest.value.length = 32
      · simp only [if_pos sha256] at pins
        cases pins
        exact ⟨digest, rfl, sha256.1, sha256.2, (Except.pure_eq_ok.mp made).symm⟩
      · simp only [if_neg sha256] at pins
        cases pins

/-- Whatever the image reference, the entrypoint and the arguments of a Job are. -/
theorem submission_keeps_the_sandbox {manifest : Protocol.JobManifest} {runtime : Option ContainerRuntime}
    {gpuPin : Option String} {execution : ContainerExecution} {input : CreateInput} {tokens : List String}
    (decided : decideContainer manifest runtime gpuPin = .container execution)
    (created : createArgs execution input = .ok tokens) :
    ∃ chosen options image, runtime = some chosen ∧
      readCreate tokens = some ⟨options, image, input.args⟩ ∧ AgentOptions chosen gpuPin input options ∧
      PinnedImage manifest image := by
  obtain ⟨env, chosen, hasEnv, hasRuntime, made⟩ := decideContainer_eq_container decided
  obtain ⟨plain, digest, hasDigest, sha256, long, rfl⟩ := executionOf_eq_ok made
  obtain ⟨mountTokens, environmentTokens, mounted, exported, rfl⟩ := createArgs_eq_ok created
  obtain ⟨mounts, areMounts, writesMounts⟩ := written_of_mapM mounted mountArg_written
  obtain ⟨environment, areEnvironment, writesEnvironment⟩ := written_of_mapM exported environmentArg_written
  have gpus : RuntimeWrites ((gpuPin.map (gpuArgs chosen.gpuRequest)).getD [])
      ((gpuPin.map (gpuOptions chosen.gpuRequest)).getD []) := by
    cases gpuPin with
    | none => exact .nil
    | some pin => exact gpuArgs_written chosen.gpuRequest pin
  have entrypoint : RuntimeWrites ["--entrypoint=" ++ input.entrypoint]
      [("--entrypoint", some input.entrypoint)] :=
    Writes.of_forall₂ (.cons (written_fused "--entrypoint=" rfl (by decide) (by decide) (by decide)) .nil)
  have all := ((((((sandboxArgs_written chosen input).append writesMounts).append
    (userArgs_written chosen.flavor input.user)).append (volumeArgs_written chosen.flavor)).append
    writesEnvironment).append gpus).append entrypoint
  refine ⟨chosen, _, pinned env.imageRef digest.value, hasRuntime, ?_,
    ⟨mounts, environment, areMounts, areEnvironment, rfl⟩, env, digest, hasEnv, hasDigest, sha256, long, rfl, ?_,
    fun c listed => Checkpoint.lowerHex_toHex listed, plain.count_at digest.value⟩
  · have readBack := all.read runtimeTakesNext_flat (plain.stops digest.value) input.args
    simp only [List.cons_append]
    exact readCreate_eq readBack
  · rw [length_toHex, long]

def plainEnvironment : Protocol.ExecutionEnvironment where
  kind := envKindOciImage
  imageRef := "team/train:1"
  imageDigest := none
  ociSourceDigest := some ⟨hashAlgorithmSha256, List.replicate 32 0⟩
  baseRuntime := ""
  lockDigest := none
  lockContent := []
  lockCasRef := none
  os := ""
  arch := ""
  minLibcVersion := ""
  cuda := none
  codeDigest := none
  tarballPolicy := none

/-- A Job that asks for a privileged container, in its entrypoint and its arguments. -/
def privilegedJob : Protocol.JobManifest where
  schemaVersion := 1
  jobId := "job"
  teamId := "team"
  env := some plainEnvironment
  inputArtifacts := []
  dataset := none
  entrypoint := "--privileged"
  args := ["--privileged", "--network=host"]
  envVars := ∅
  resources := none
  workload := none
  deadlineMinutes := 0
  preference := 0
  maxQueueMinutes := 0
  checkpointIntervalMinutes := 0
  durability := 0
  onPartition := 0
  maxDataLossMinutes := 0
  minimumIsolationClass := 0
  minimumSecurityTier := 0
  minimumKeyProtection := 0
  sideEffectClass := 0
  network := none
  artifactScope := none
  acknowledgeDuplicateRisk := false
  submitterDeviceId := "device"
  issuedAtUnixMs := 0
  expiresAtUnixMs := 0
  submitterSignature := []

def dockerRuntime : ContainerRuntime where
  program := "docker"
  flavor := .docker
  passGpu := true
  gpuRequest := .gpus
  only := false
  nodeId := "node"
  owner := "node.root"
  incidentDir := none

def privilegedInput : CreateInput where
  name := "gputeer-1"
  entrypoint := privilegedJob.entrypoint
  args := privilegedJob.args
  environment := []
  mounts := [⟨.unicode "/var/jobs", "/work", true⟩]
  memoryLimitBytes := 1024
  user := none

theorem privileged_job_is_sandboxed : ∃ tokens options image,
    createArgs ⟨dockerRuntime, pinned "team/train:1" (List.replicate 32 0), some "0"⟩ privilegedInput =
      .ok tokens ∧
    readCreate tokens = some ⟨options, image, ["--privileged", "--network=host"]⟩ ∧
    AgentOptions dockerRuntime (some "0") privilegedInput options ∧ PinnedImage privilegedJob image := by
  have decided : decideContainer privilegedJob (some dockerRuntime) (some "0") =
      .container ⟨dockerRuntime, pinned "team/train:1" (List.replicate 32 0), some "0"⟩ := by
    rfl
  obtain ⟨tokens, created⟩ : ∃ tokens, createArgs
      ⟨dockerRuntime, pinned "team/train:1" (List.replicate 32 0), some "0"⟩ privilegedInput = .ok tokens :=
    ⟨_, rfl⟩
  obtain ⟨chosen, options, image, same, read, chose, pins⟩ := submission_keeps_the_sandbox decided created
  cases same
  exact ⟨tokens, options, image, created, read, chose, pins⟩

end Reading

end Gputeer.Agent
