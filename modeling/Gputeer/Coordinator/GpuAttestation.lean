import Mathlib.Data.Finset.Insert
import Gputeer.Lib.Text
import Gputeer.Protocol.Messages

/-! What a node says about its GPUs, compared with what was declared for it. -/

namespace Gputeer.Coordinator

open Protocol Text

structure GpuInventory where
  gpuId : String
  model : Option String
  healthy : Option Bool
  availableVramBytes : Option UInt64
  deriving DecidableEq

def isAsciiHexDigit (c : Char) : Bool :=
  c.isDigit || ('a' ≤ c && c ≤ 'f') || ('A' ≤ c && c ≤ 'F')

def stripPrefix? (start text : List Char) : Option (List Char) :=
  if start.isPrefixOf text then some (text.drop start.length) else none

/-- The declared id has the shape of a device UUID: `GPU-` or `MIG-` before 8-4-4-4-12 digits. -/
def declaredAsUuid (gpuId : String) : Bool :=
  match (stripPrefix? ['G', 'P', 'U', '-'] gpuId.toList).or
      (stripPrefix? ['M', 'I', 'G', '-'] gpuId.toList) with
  | none => false
  | some rest =>
      let groups := rest.splitOn '-'
      groups.length = 5 ∧ (groups.zip [8, 4, 4, 4, 12]).all fun (group, length) =>
        group.length = length ∧ group.all isAsciiHexDigit

/-- An observed GPU can stand for a declared one. -/
def fits (declared : GpuInventory) (observed : ObservedGpu) : Bool :=
  (declaredAsUuid declared.gpuId = false ∨ observed.uuid = declared.gpuId) ∧
    declared.model.all (· = observed.model) ∧
    declared.availableVramBytes.all (· ≤ observed.totalVramBytes)

/-- A search for an augmenting path: the observations it has seen, and the declaration that each
observation is paired with. -/
structure Pairing where
  seen : Finset Nat
  owner : Nat → Option Nat

section Matching

variable (declared : List GpuInventory) (observed : List ObservedGpu)

def fitsAt (i j : Nat) : Bool :=
  match declared[i]?, observed[j]? with
  | some gpu, some other => fits gpu other
  | _, _ => false

/-- `fuel` bounds the length of the path; each turn sees one more observation. -/
def augment : Nat → Nat → Pairing → Bool × Pairing
  | 0, _, pairing => (false, pairing)
  | fuel + 1, i, pairing =>
      (List.range observed.length).foldl
        (fun (found, pairing) j =>
          if found = true ∨ j ∈ pairing.seen ∨ fitsAt declared observed i j = false then
            (found, pairing)
          else
            let looked : Pairing := { pairing with seen := insert j pairing.seen }
            let (free, moved) := match looked.owner j with
              | none => (true, looked)
              | some k => augment fuel k looked
            if free then (true, { moved with owner := Function.update moved.owner j (some i) })
            else (false, moved))
        (false, pairing)

/-- The first declared GPU that no observed one is left for. -/
def firstUnmatched (owner : Nat → Option Nat) : List Nat → Option Nat
  | [] => none
  | i :: rest =>
      match augment declared observed (observed.length + 1) i ⟨∅, owner⟩ with
      | (true, pairing) => firstUnmatched pairing.owner rest
      | (false, _) => some i

end Matching

def unmatchedMessage (gpu : GpuInventory) (observed : List ObservedGpu) : String :=
  "선언 GPU " ++ debugQuoted gpu.gpuId ++ "(model " ++ debugMaybe debugQuoted gpu.model ++ " · VRAM " ++
    debugMaybe toString gpu.availableVramBytes ++ ")와 짝지을 관측 GPU 가 없다 — 관측: " ++
    ",".intercalate (observed.map fun other =>
      other.uuid ++ ":" ++ other.model ++ ":" ++ toString other.totalVramBytes)

/-- A different observed GPU for each declared one. -/
def matchDeclaration (declared : List GpuInventory) (observed : List ObservedGpu) :
    Except String Unit :=
  match firstUnmatched declared observed (fun _ => none) (List.range declared.length) with
  | none => .ok ()
  | some i =>
      .error ((declared[i]?.map fun gpu => unmatchedMessage gpu observed).getD "")

end Gputeer.Coordinator
