import Mathlib.Data.Set.Function
import Mathlib.Data.List.Basic
import Mathlib.Tactic.Common

/-! Binary trees that are hashed from their leaves up. What a leaf and what an inner node hands to the hash
are parameters; so is the hash. -/

inductive HashTree (Chunk : Type) where
  | leaf (chunk : Chunk)
  | node (left right : HashTree Chunk)

namespace HashTree

variable {Chunk Digest Input : Type}

def leaves : HashTree Chunk → List Chunk
  | leaf chunk => [chunk]
  | node left right => left.leaves ++ right.leaves

/-- Neighbours are joined, an odd last tree stays as it is. -/
def pairUp : List (HashTree Chunk) → List (HashTree Chunk)
  | first :: second :: rest => node first second :: pairUp rest
  | forest => forest

/-- Joining keeps the leaves in their order. -/
theorem leaves_pairUp (forest : List (HashTree Chunk)) :
    (pairUp forest).flatMap leaves = forest.flatMap leaves := by
  induction forest using pairUp.induct with
  | case1 first second rest ih =>
      rw [pairUp, List.flatMap_cons, ih, List.flatMap_cons, List.flatMap_cons, leaves, List.append_assoc]
  | case2 forest few => rw [pairUp.eq_2 forest few]

section Hashing

variable (leafInput : Chunk → Input) (nodeInput : Digest → Digest → Input) (hash : Input → Digest)

def digest : HashTree Chunk → Digest
  | leaf chunk => hash (leafInput chunk)
  | node left right => hash (nodeInput left.digest right.digest)

/-- Everything that was hashed for the tree. -/
def inputs : HashTree Chunk → List Input
  | leaf chunk => [leafInput chunk]
  | node left right =>
      nodeInput (left.digest leafInput nodeInput hash) (right.digest leafInput nodeInput hash) ::
        (left.inputs ++ right.inputs)

/-- What is hashed can be read back, and says whether it came from a leaf. -/
structure Readable : Prop where
  leaf_inj : ∀ first second, leafInput first = leafInput second → first = second
  node_inj : ∀ left right otherLeft otherRight, nodeInput left right = nodeInput otherLeft otherRight →
    left = otherLeft ∧ right = otherRight
  apart : ∀ chunk left right, leafInput chunk ≠ nodeInput left right

variable {leafInput nodeInput hash} {hashed : Set Input}

/-- Where the hash does not collide on what was hashed, the digest has one tree only. -/
theorem eq_of_digest_eq (readable : Readable leafInput nodeInput) (injective : Set.InjOn hash hashed)
    {first second : HashTree Chunk}
    (ofFirst : ∀ input ∈ first.inputs leafInput nodeInput hash, input ∈ hashed)
    (ofSecond : ∀ input ∈ second.inputs leafInput nodeInput hash, input ∈ hashed)
    (same : first.digest leafInput nodeInput hash = second.digest leafInput nodeInput hash) : first = second := by
  induction first generalizing second with
  | leaf chunk =>
      have top := ofFirst _ List.mem_cons_self
      cases second with
      | leaf other =>
          have read := injective top (ofSecond _ List.mem_cons_self) same
          rw [readable.leaf_inj _ _ read]
      | node left right =>
          have read := injective top (ofSecond _ List.mem_cons_self) same
          exact absurd read (readable.apart _ _ _)
  | node left right ihLeft ihRight =>
      have top := ofFirst _ List.mem_cons_self
      cases second with
      | leaf other =>
          have read := injective top (ofSecond _ List.mem_cons_self) same
          exact absurd read.symm (readable.apart _ _ _)
      | node otherLeft otherRight =>
          have read := injective top (ofSecond _ List.mem_cons_self) same
          obtain ⟨lefts, rights⟩ := readable.node_inj _ _ _ _ read
          simp only [inputs, List.mem_cons, List.mem_append] at ofFirst ofSecond
          rw [ihLeft (fun input inside => ofFirst input (.inr (.inl inside)))
              (fun input inside => ofSecond input (.inr (.inl inside))) lefts,
            ihRight (fun input inside => ofFirst input (.inr (.inr inside)))
              (fun input inside => ofSecond input (.inr (.inr inside))) rights]

end Hashing

end HashTree
