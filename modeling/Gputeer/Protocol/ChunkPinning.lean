import Mathlib.Algebra.Order.Ring.Nat
import Gputeer.Lib.HashTree
import Gputeer.Protocol.Merkle

/-! What the root says about the chunks: their number, their bytes and their order, as long as the hash does
not collide on what the two computations hand to it. -/

namespace Gputeer.Protocol

variable (blake3 : List UInt8 → Vector UInt8 32)

def leafInput (chunk : List UInt8) : List UInt8 := 0x00 :: chunk

def nodeInput (left right : Vector UInt8 32) : List UInt8 := 0x01 :: (left.toList ++ right.toList)

/-- What one pass of the level loop hands to the hash. -/
def levelInputs : List (Vector UInt8 32) → List (List UInt8)
  | first :: second :: rest => nodeInput first second :: levelInputs rest
  | _ => []

def levelsInputs : Nat → List (Vector UInt8 32) → List (List UInt8)
  | 0, _ => []
  | bound + 1, level =>
      if 1 < level.length then levelInputs level ++ levelsInputs bound (merkleLevel blake3 level) else []

/-- All that is hashed for a root. -/
def merkleInputs (chunks : List (List UInt8)) : List (List UInt8) :=
  chunks.map leafInput ++ levelsInputs blake3 chunks.length (chunks.map (merkleLeaf blake3))

abbrev ChunkTree := HashTree (List UInt8)

def treeDigest (tree : ChunkTree) : Vector UInt8 32 := tree.digest leafInput nodeInput blake3

def treeInputs (tree : ChunkTree) : List (List UInt8) := tree.inputs leafInput nodeInput blake3

/-- The loop on trees in place of their digests. -/
def joinLevels : Nat → List ChunkTree → List ChunkTree
  | 0, forest => forest
  | bound + 1, forest => if 1 < forest.length then joinLevels bound (HashTree.pairUp forest) else forest

variable {blake3} {forest : List ChunkTree} {hashed : List (List UInt8)}

theorem readable : HashTree.Readable leafInput nodeInput where
  leaf_inj first second same := (List.cons.inj same).2
  node_inj left right otherLeft otherRight same := by
    have halves := List.append_inj (List.cons.inj same).2 (by simp)
    exact ⟨Vector.toList_inj.mp halves.1, Vector.toList_inj.mp halves.2⟩
  apart chunk left right same := by
    have tags := (List.cons.inj same).1
    exact absurd tags (by decide)

theorem merkleLevel_eq (forest : List ChunkTree) :
    merkleLevel blake3 (forest.map (treeDigest blake3)) = (HashTree.pairUp forest).map (treeDigest blake3) := by
  induction forest using HashTree.pairUp.induct with
  | case1 first second rest ih =>
      rw [HashTree.pairUp, List.map_cons, List.map_cons, merkleLevel, ih, List.map_cons]
      rfl
  | case2 forest few =>
      rw [HashTree.pairUp.eq_2 forest few, merkleLevel.eq_2]
      intro first second rest several
      obtain ⟨tree, others, rfl, -, more⟩ := List.map_eq_cons_iff.mp several
      obtain ⟨next, last, rfl, -, -⟩ := List.map_eq_cons_iff.mp more
      exact few tree next last rfl

theorem merkleLevels_eq (bound : Nat) (forest : List ChunkTree) :
    merkleLevels blake3 bound (forest.map (treeDigest blake3)) =
      (joinLevels bound forest).map (treeDigest blake3) := by
  induction bound generalizing forest with
  | zero => rfl
  | succ bound ih =>
      rw [merkleLevels, joinLevels, List.length_map]
      split
      · rw [merkleLevel_eq, ih]
      · rfl

theorem leaves_joinLevels (bound : Nat) (forest : List ChunkTree) :
    (joinLevels bound forest).flatMap HashTree.leaves = forest.flatMap HashTree.leaves := by
  induction bound generalizing forest with
  | zero => rfl
  | succ bound ih =>
      rw [joinLevels]
      split
      · rw [ih, HashTree.leaves_pairUp]
      · rfl

/-- The trees after one pass were hashed from those before it and from what the pass hashed. -/
theorem treeInputs_pairUp (before : ∀ tree ∈ forest, ∀ input ∈ treeInputs blake3 tree, input ∈ hashed)
    (now : ∀ input ∈ levelInputs (forest.map (treeDigest blake3)), input ∈ hashed) :
    ∀ tree ∈ HashTree.pairUp forest, ∀ input ∈ treeInputs blake3 tree, input ∈ hashed := by
  induction forest using HashTree.pairUp.induct with
  | case1 first second rest ih =>
      rw [List.map_cons, List.map_cons, levelInputs, List.forall_mem_cons] at now
      rw [HashTree.pairUp, List.forall_mem_cons]
      refine ⟨?_, ih (fun tree listed => before tree (by simp [listed])) now.2⟩
      intro input inside
      simp only [treeInputs, HashTree.inputs, List.mem_cons, List.mem_append] at inside
      rcases inside with rfl | left | right
      · exact now.1
      · exact before first (by simp) input left
      · exact before second (by simp) input right
  | case2 forest few =>
      rw [HashTree.pairUp.eq_2 forest few]
      exact before

theorem treeInputs_joinLevels (bound : Nat)
    (before : ∀ tree ∈ forest, ∀ input ∈ treeInputs blake3 tree, input ∈ hashed)
    (now : ∀ input ∈ levelsInputs blake3 bound (forest.map (treeDigest blake3)), input ∈ hashed) :
    ∀ tree ∈ joinLevels bound forest, ∀ input ∈ treeInputs blake3 tree, input ∈ hashed := by
  induction bound generalizing forest with
  | zero => exact before
  | succ bound ih =>
      rw [levelsInputs, List.length_map] at now
      rw [joinLevels]
      split at now
      · rename_i several
        rw [if_pos several]
        simp only [List.mem_append] at now
        refine ih (treeInputs_pairUp before fun input inside => now input (.inl inside)) ?_
        intro input inside
        rw [← merkleLevel_eq] at inside
        exact now input (.inr inside)
      · rename_i few
        rw [if_neg few]
        exact before

/-- The root is the digest of one tree whose leaves are the chunks, hashed from what was hashed. -/
theorem merkleRoot_tree {chunks : List (List UInt8)} (filled : chunks ≠ []) :
    ∃ tree : ChunkTree, merkleLevels blake3 chunks.length (chunks.map (merkleLeaf blake3)) = [treeDigest blake3 tree] ∧
      tree.leaves = chunks ∧ ∀ input ∈ treeInputs blake3 tree, input ∈ merkleInputs blake3 chunks := by
  have leaves : chunks.map (merkleLeaf blake3) = (chunks.map HashTree.leaf).map (treeDigest blake3) := by
    rw [List.map_map]
    rfl
  have counted : (joinLevels chunks.length (chunks.map HashTree.leaf)).length = 1 := by
    have one : (merkleLevels blake3 chunks.length (chunks.map (merkleLeaf blake3))).length = 1 := by
      have some_ : 0 < chunks.length := List.length_pos_of_ne_nil filled
      rw [length_merkleLevels chunks.length (by simp), List.length_map]
      omega
    rw [leaves, merkleLevels_eq, List.length_map] at one
    exact one
  obtain ⟨tree, alone⟩ := List.length_eq_one_iff.mp counted
  have kept := leaves_joinLevels chunks.length (chunks.map HashTree.leaf)
  rw [alone, List.flatMap_singleton, List.flatMap_map] at kept
  refine ⟨tree, ?_, ?_, ?_⟩
  · rw [leaves, merkleLevels_eq, alone]
    rfl
  · rw [kept]
    simp [HashTree.leaves]
  · have forest : tree ∈ joinLevels chunks.length (chunks.map HashTree.leaf) := by
      rw [alone]
      exact List.mem_cons_self
    refine treeInputs_joinLevels chunks.length ?_ ?_ tree forest
    · intro leaf listed input inside
      obtain ⟨chunk, here, rfl⟩ := List.mem_map.mp listed
      obtain rfl : input = leafInput chunk := by simpa [treeInputs, HashTree.inputs] using inside
      exact List.mem_append_left _ (List.mem_map_of_mem here)
    · intro input inside
      rw [← leaves] at inside
      exact List.mem_append_right _ inside

theorem merkleLevels_several {bound : Nat} {level : List (Vector UInt8 32)} (several : 1 < level.length) :
    merkleLevels blake3 (bound + 1) level = merkleLevels blake3 bound (merkleLevel blake3 level) := if_pos several

theorem merkleLevels_few {bound : Nat} {level : List (Vector UInt8 32)} (few : ¬ 1 < level.length) :
    merkleLevels blake3 bound level = level := by
  cases bound with
  | zero => rfl
  | succ bound => exact if_neg few

theorem merkleLevels_succ {bound : Nat} {level : List (Vector UInt8 32)}
    (ended : (merkleLevels blake3 bound level).length ≤ 1) :
    merkleLevels blake3 (bound + 1) level = merkleLevels blake3 bound level := by
  induction bound generalizing level with
  | zero => exact merkleLevels_few (Nat.not_lt.mpr ended)
  | succ bound ih =>
      by_cases several : 1 < level.length
      · rw [merkleLevels_several several] at ended
        rw [merkleLevels_several several, ih ended, merkleLevels_several several]
      · rw [merkleLevels_few several, merkleLevels_few several]

/-- More passes than there are chunks change nothing: the loop has ended by its own condition. -/
theorem merkleLevels_enough {level : List (Vector UInt8 32)} (more : Nat) :
    merkleLevels blake3 (level.length + more) level = merkleLevels blake3 level.length level := by
  induction more with
  | zero => rfl
  | succ more ih =>
      have counted : (merkleLevels blake3 (level.length + more) level).length = min level.length 1 :=
        length_merkleLevels _ (Nat.le_add_right _ _)
      rw [← Nat.add_assoc, merkleLevels_succ (by omega), ih]

/-- Two lists of chunks with one root are one list, whatever their lengths, if the hash has no collision
among what it was given for the two; and the level loop ends with one node, after any number of passes that
is enough. -/
theorem merkleRoot_pins_chunks (chunks others : List (List UInt8)) (filled : chunks ≠ []) (filledOthers : others ≠ [])
    (injective : Set.InjOn blake3 {input | input ∈ merkleInputs blake3 chunks ++ merkleInputs blake3 others}) :
    (merkleRoot blake3 chunks = merkleRoot blake3 others → chunks = others) ∧
    ∃ root, merkleRoot blake3 chunks = some root ∧
      ∀ more, merkleLevels blake3 (chunks.length + more) (chunks.map (merkleLeaf blake3)) = [root] := by
  obtain ⟨tree, root, leaves, hashed⟩ := @merkleRoot_tree blake3 chunks filled
  obtain ⟨other, otherRoot, otherLeaves, otherHashed⟩ := @merkleRoot_tree blake3 others filledOthers
  refine ⟨?_, treeDigest blake3 tree, ?_, ?_⟩
  · intro same
    rw [merkleRoot, merkleRoot, root, otherRoot] at same
    have trees := HashTree.eq_of_digest_eq readable injective
      (fun input inside => List.mem_append_left _ (hashed input inside))
      (fun input inside => List.mem_append_right _ (otherHashed input inside)) (Option.some.inj same)
    rw [← leaves, ← otherLeaves, trees]
  · rw [merkleRoot, root]
    rfl
  · intro more
    have enough := @merkleLevels_enough blake3 (chunks.map (merkleLeaf blake3)) more
    rw [List.length_map] at enough
    rw [enough, root]

def digestOfNumber (number : Nat) : Vector UInt8 32 :=
  Vector.ofFn fun i => UInt8.ofNat (number / 256 ^ (31 - i.val))

/-- The hashes of two leaves of one byte and of the node above them. -/
def smallTreeHash (data : List UInt8) : Vector UInt8 32 :=
  if data = [0, 1] then digestOfNumber 0x7b7015bb92cf0b318037702a6cdd81dee41224f734684c2c122cd6359cb1ee63
  else if data = [0, 2] then digestOfNumber 0x0013f4c84c09ed4f906f561e31fb6cb5336107f6813206a1f8860ab1ad35f2b8
  else digestOfNumber 0x43572982c88e21319e50a366fa5ea1f090cbc6a03bd8db43133df3a94062b5b3

/-- A leaf is not the tree it is part of. -/
theorem leaf_is_not_its_tree : merkleRoot smallTreeHash [[1], [2]] ≠ merkleRoot smallTreeHash [[1]] := by
  have apart : ∀ input ∈ merkleInputs smallTreeHash [[1], [2]] ++ merkleInputs smallTreeHash [[1]],
      ∀ other ∈ merkleInputs smallTreeHash [[1], [2]] ++ merkleInputs smallTreeHash [[1]],
        smallTreeHash input = smallTreeHash other → input = other := by decide +kernel
  intro same
  have equal := (merkleRoot_pins_chunks [[1], [2]] [[1]] (by simp) (by simp)
    fun input inside other insideOther => apart input inside other insideOther).1 same
  exact absurd equal (by decide)

end Gputeer.Protocol
