import Mathlib.Data.List.Basic
import Mathlib.Tactic.Common

/-! The root of a tree of hashes over chunks. Leaves and inner nodes are hashed with different first bytes,
and an odd node is promoted. -/

namespace Gputeer.Protocol

variable (blake3 : List UInt8 → Vector UInt8 32)

def merkleLeaf (chunk : List UInt8) : Vector UInt8 32 := blake3 (0x00 :: chunk)

def merkleLevel : List (Vector UInt8 32) → List (Vector UInt8 32)
  | first :: second :: rest => blake3 (0x01 :: (first.toList ++ second.toList)) :: merkleLevel rest
  | level => level

/-- The levels up to one of a single node; the number bounds the levels. -/
def merkleLevels : Nat → List (Vector UInt8 32) → List (Vector UInt8 32)
  | 0, level => level
  | bound + 1, level => if 1 < level.length then merkleLevels bound (merkleLevel blake3 level) else level

def merkleRoot (chunks : List (List UInt8)) : Option (Vector UInt8 32) :=
  (merkleLevels blake3 chunks.length (chunks.map (merkleLeaf blake3))).head?

variable {blake3} {level : List (Vector UInt8 32)}

theorem length_merkleLevel : (merkleLevel blake3 level).length = (level.length + 1) / 2 := by
  induction level using merkleLevel.induct with
  | case1 first second rest ih =>
      simp only [merkleLevel, List.length_cons, ih]
      omega
  | case2 level few =>
      cases level with
      | nil => rfl
      | cons first rest =>
          cases rest with
          | nil => simp [merkleLevel]
          | cons second rest => exact absurd rfl (few first second rest)

/-- As many levels as there are chunks are enough. -/
theorem length_merkleLevels (bound : Nat) (enough : level.length ≤ bound) :
    (merkleLevels blake3 bound level).length = min level.length 1 := by
  induction bound generalizing level with
  | zero =>
      have none_ : level.length = 0 := Nat.le_zero.mp enough
      simp [merkleLevels, none_]
  | succ bound ih =>
      unfold merkleLevels
      split
      · next several =>
        have halved : (merkleLevel blake3 level).length = (level.length + 1) / 2 := length_merkleLevel
        rw [ih (by omega), halved]
        omega
      · omega

theorem merkleRoot_isSome {chunks : List (List UInt8)} (filled : chunks ≠ []) :
    (merkleRoot blake3 chunks).isSome = true := by
  have counted : (merkleLevels blake3 chunks.length (chunks.map (merkleLeaf blake3))).length = 1 := by
    rw [length_merkleLevels chunks.length (by simp), List.length_map]
    have : 0 < chunks.length := List.length_pos_of_ne_nil filled
    omega
  unfold merkleRoot
  cases found : merkleLevels blake3 chunks.length (chunks.map (merkleLeaf blake3)) with
  | nil => simp [found] at counted
  | cons root rest => rfl

end Gputeer.Protocol
