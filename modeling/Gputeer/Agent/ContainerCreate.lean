import Gputeer.Lib.Text
import Gputeer.Checkpoint.Manifest
import Gputeer.Protocol.Messages

/-! Whether a Job runs in a container, and the arguments of the `create` of that container. -/

namespace Gputeer.Agent

open Text

section Decision

inductive RuntimeFlavor where
  | podman
  | docker
  deriving DecidableEq

/-- How a runtime is asked for GPUs. -/
inductive GpuRequest where
  | gpus
  | cdi
  | cdiAll
  deriving DecidableEq

/-- The runtime that the operator turned on. -/
structure ContainerRuntime where
  program : String
  flavor : RuntimeFlavor
  passGpu : Bool
  gpuRequest : GpuRequest
  only : Bool
  nodeId : String
  owner : String
  incidentDir : Option String

structure ContainerExecution where
  runtime : ContainerRuntime
  pinnedImage : String
  gpuPin : Option String

inductive ContainerDecision where
  | host
  | container (execution : ContainerExecution)
  | refused (detail : String)

def envKindOciImage : Int32 := 1

def hashAlgorithmSha256 : Int32 := 2

/-- The characters of an image reference; an at-sign is none of them. -/
def isImageRefChar (c : Char) : Bool :=
  c.isAlphanum || c = '.' || c = '_' || c = '-' || c = '/' || c = ':'

/-- The debug form of a character: of the two quotes, the one around it is escaped. -/
def debugCharQuoted (c : Char) : String :=
  let quote := Char.ofNat 39
  quote.toString ++ (if c = quote then "\\" ++ quote.toString else if c = '\"' then "\"" else debugChar c) ++
    quote.toString

def checkImageRef (imageRef : String) : Except String Unit :=
  let shown := debugQuoted imageRef
  if imageRef = "" then .error "image_ref 가 비었다"
  else if imageRef.toList.head? = some '-' then .error s!"image_ref 가 '-' 로 시작한다({shown})"
  else if 255 < imageRef.utf8ByteSize then .error "image_ref 가 255바이트를 넘는다"
  else
    match imageRef.toList.find? (!isImageRefChar ·) with
    | some bad =>
        let badShown := debugCharQuoted bad
        .error s!"image_ref 에 쓸 수 없는 문자 {badShown} 가 있다({shown})"
    | none => .ok ()

def sourceDigestHex : Option Protocol.Digest → Except String String
  | some digest =>
      if digest.algo = hashAlgorithmSha256 ∧ digest.value.length = 32 then
        .ok (Checkpoint.toHex digest.value)
      else .error "CONTAINER_IMAGE_DIGEST: oci_source_digest 는 32바이트 sha256 이어야 한다"
  | none =>
      .error ("CONTAINER_IMAGE_DIGEST: oci_source_digest 가 없다 — 태그만으로는 받지 않는다" ++
        "(태그는 움직인다)")

/-- Why a node cannot pass its GPUs on. -/
def checkGpu (runtime : ContainerRuntime) (gpuPin : Option String) : Except String Unit :=
  if runtime.passGpu ∧ runtime.gpuRequest = .cdiAll ∧ gpuPin.any (· ≠ "0") then
    .error ("CONTAINER_GPU_ALL_NOT_PINNED: --container-gpu-request cdi-all 은 GPU 를 전부 넘긴다 — " ++
      "--gpu-pin 0 인 한 장 노드에서만 받는다")
  else if gpuPin.isSome ∧ !runtime.passGpu then
    .error ("CONTAINER_GPU_OFF: 이 노드는 GPU 를 고정했는데(--gpu-pin) 컨테이너에 GPU 를 넘기는 설정" ++
      "(--container-gpu)이 꺼져 있다")
  else .ok ()

def checkNetwork (network : Option Protocol.NetworkPolicy) : Except String Unit :=
  if network.any (!·.runtimeAllowHosts.isEmpty) then
    .error ("CONTAINER_NETWORK_ALLOWLIST: runtime_allow_hosts 를 강제할 수단이 없다 — " ++
      "네트워크 없는 Job 만 받는다")
  else .ok ()

/-- The checks of a Job with an image, in their order. -/
def executionOf (manifest : Protocol.JobManifest) (env : Protocol.ExecutionEnvironment)
    (runtime : ContainerRuntime) (gpuPin : Option String) : Except String ContainerExecution := do
  (checkImageRef env.imageRef).mapError fun why => s!"CONTAINER_IMAGE_REF: {why}"
  let digestHex ← sourceDigestHex env.ociSourceDigest
  checkNetwork manifest.network
  checkGpu runtime gpuPin
  pure ⟨runtime, env.imageRef ++ "@sha256:" ++ digestHex, gpuPin⟩

def decideContainer (manifest : Protocol.JobManifest) (runtime : Option ContainerRuntime)
    (gpuPin : Option String) : ContainerDecision :=
  match manifest.env with
  | some env =>
      if env.kind = envKindOciImage then
        match runtime with
        | none =>
            .refused ("CONTAINER_RUNTIME_MISSING: OCI_IMAGE Job 인데 --container-runtime 이 없다 — " ++
              "호스트에서 대신 돌리지 않는다")
        | some runtime =>
            match executionOf manifest env runtime gpuPin with
            | .ok execution => .container execution
            | .error detail => .refused detail
      else hostOf runtime
  | none => hostOf runtime
where
  hostOf (runtime : Option ContainerRuntime) : ContainerDecision :=
    if runtime.any (·.only) then
      .refused ("CONTAINER_ONLY: 이 Agent 는 컨테이너 Job 만 받는다(--container-only) — " ++
        "OCI_IMAGE 가 아닌 Job 을 호스트에서 돌리지 않는다")
    else .host

end Decision

section Create

/-- A text of the host's operating system: it may be no Unicode, and then only its debug form is known. -/
inductive OsText where
  | unicode (text : String)
  | other (shown : String)
  deriving DecidableEq

structure Mount where
  host : OsText
  target : String
  readOnly : Bool

structure CreateInput where
  name : String
  entrypoint : String
  args : List String
  environment : List (OsText × OsText)
  mounts : List Mount
  memoryLimitBytes : UInt64
  user : Option (UInt32 × UInt32)

def containerPidsLimit : Nat := 4096

def mountArg (mount : Mount) : Except String String :=
  match mount.host with
  | .other shown => .error s!"붙일 폴더 경로가 UTF-8 이 아니다({shown})"
  | .unicode host =>
      let shown := debugQuoted host
      if ',' ∈ host.toList ∨ '=' ∈ host.toList then
        .error (s!"붙일 폴더 경로에 ',' 나 '=' 가 있다({shown}) — " ++
          "--mount 필드를 바꿀 수 있어 받지 않는다")
      else
        .ok ("--mount=type=bind,source=" ++ host ++ ",target=" ++ mount.target ++
          (if mount.readOnly then ",readonly" else ""))

def componentText : PathComponent → String
  | .rootDir => "/"
  | .curDir => "."
  | .parentDir => ".."
  | .normal name => name

/-- `Path::strip_prefix` on a Unix host: what is left, component by component. -/
def stripPrefix (path host : String) : Option (List PathComponent) :=
  let components := pathComponents path
  let front := pathComponents host
  if front <+: components then some (components.drop front.length) else none

/-- A path below a mounted directory is told as it is inside the container. -/
def translateText (text : String) : List Mount → String
  | [] => text
  | mount :: rest =>
      match mount.host with
      | .other _ => translateText text rest
      | .unicode host =>
          match stripPrefix text host with
          | some components => components.foldl (fun inside part => inside ++ "/" ++ componentText part) mount.target
          | none => translateText text rest

def translateIntoContainer (value : OsText) (mounts : List Mount) : Except String String :=
  match value with
  | .other shown => .error s!"환경 변수 값이 UTF-8 이 아니다({shown})"
  | .unicode text => .ok (translateText text mounts)

def environmentArg (mounts : List Mount) (variable_ : OsText × OsText) : Except String String :=
  match variable_.1 with
  | .other shown => .error s!"환경 변수 이름이 UTF-8 이 아니다({shown})"
  | .unicode key => do
      let value ← translateIntoContainer variable_.2 mounts
      let shown := debugQuoted key
      if key = "" ∨ '=' ∈ key.toList then .error s!"환경 변수 이름이 잘못됐다({shown})"
      else pure ("--env=" ++ key ++ "=" ++ value)

def pinIds (pin : String) : List String := ((split ',' pin).map trim).filter (· ≠ "")

def gpuArgs (request : GpuRequest) (pin : String) : List String :=
  match request with
  | .cdi => (pinIds pin).map ("--device=nvidia.com/gpu=" ++ ·)
  | .gpus => ["--gpus", "\"device=" ++ String.intercalate "," (pinIds pin) ++ "\""]
  | .cdiAll => ["--device=nvidia.com/gpu=all"]

/-- The options that every container gets. -/
def sandboxArgs (runtime : ContainerRuntime) (input : CreateInput) : List String :=
  let memory := toString input.memoryLimitBytes.toNat
  ["--name=" ++ input.name, "--label=gputeer.managed=1", "--label=gputeer.node=" ++ runtime.nodeId,
    "--label=gputeer.owner=" ++ runtime.owner, "--pull=missing", "--read-only", "--tmpfs=/tmp",
    "--cap-drop=ALL", "--security-opt=no-new-privileges", "--network=none", "--ipc=private",
    "--pids-limit=" ++ toString containerPidsLimit, "--memory=" ++ memory, "--memory-swap=" ++ memory,
    "--workdir=/tmp"]

def userArgs (flavor : RuntimeFlavor) (user : Option (UInt32 × UInt32)) : List String :=
  match flavor, user with
  | .podman, _ => ["--userns=keep-id"]
  | .docker, some (uid, gid) => ["--user=" ++ toString uid.toNat ++ ":" ++ toString gid.toNat]
  | .docker, none => []

def volumeArgs : RuntimeFlavor → List String
  | .podman => ["--image-volume=ignore", "--read-only-tmpfs=false"]
  | .docker => []

def createArgs (execution : ContainerExecution) (input : CreateInput) : Except String (List String) :=
  if input.memoryLimitBytes = 0 then .error "메모리 상한이 0 이다 — 상한 없이 띄우지 않는다"
  else if input.entrypoint = "" then .error "entrypoint 가 비었다"
  else if execution.runtime.owner = "" then
    .error "owner 라벨이 비었다 — 다음 회차가 이 컨테이너를 찾지 못한다(결함 290)"
  else do
    let mounts ← input.mounts.mapM mountArg
    let environment ← input.environment.mapM (environmentArg input.mounts)
    let gpus := (execution.gpuPin.map (gpuArgs execution.runtime.gpuRequest)).getD []
    pure ("create" :: sandboxArgs execution.runtime input ++ mounts ++
      userArgs execution.runtime.flavor input.user ++ volumeArgs execution.runtime.flavor ++ environment ++
      gpus ++ ["--entrypoint=" ++ input.entrypoint] ++ execution.pinnedImage :: input.args)

end Create

end Gputeer.Agent
