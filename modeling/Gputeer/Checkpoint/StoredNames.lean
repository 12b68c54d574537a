import Gputeer.Checkpoint.SharedNames

/-! The names of stored files. Each gives back the name it was made of and the digest, and none is the name of
a file that means something else. -/

namespace Gputeer.Checkpoint

open Text

variable {codec : CheckpointCodec} {name other stored digest : String} {data content : List UInt8}

/-- `stored_name_for` -/
def storedNameFor (codec : CheckpointCodec) (logicalName : String) (data : List UInt8) :
    Except CommitError String :=
  (validateLogicalName logicalName).map fun _ => storedName codec logicalName data

/-- A digest of 32 bytes in small digits. -/
structure LowerHex64 (digest : String) : Prop where
  length_eq : digest.length = 64
  digits : ∀ c ∈ digest.toList, isLowerHex c = true

section Digests

theorem utf8Size_of_isLowerHex {c : Char} (digit : isLowerHex c = true) : c.utf8Size = 1 := by
  have small : c.val ≤ 0x7F := by
    simp only [isLowerHex, Char.isDigit, Bool.or_eq_true, Bool.and_eq_true, decide_eq_true_eq, Char.le_def,
      UInt32.le_iff_toNat_le] at digit ⊢
    have nine : (57 : UInt32).toNat = 57 := rfl
    have f : 'f'.val.toNat = 102 := rfl
    have top : (0x7F : UInt32).toNat = 127 := rfl
    rcases digit with ⟨_, most⟩ | ⟨_, most⟩
    · have bound : c.val.toNat ≤ 57 := by simpa using most
      omega
    · omega
  exact if_pos small

/-- Digits are one byte each. -/
theorem utf8ByteSize_of_digits (digits : ∀ c ∈ digest.toList, isLowerHex c = true) :
    digest.utf8ByteSize = digest.length := by
  rw [Bytes.utf8ByteSize_eq, ← String.ofList_toList (s := digest), Bytes.utf8_ofList, String.ofList_toList,
    ← String.length_toList, List.length_flatMap]
  have one : digest.toList.map (fun c => (String.utf8EncodeChar c).length) = digest.toList.map fun _ => 1 := by
    apply List.map_congr_left
    intro c listed
    rw [String.length_utf8EncodeChar, utf8Size_of_isLowerHex (digits c listed)]
  rw [one]
  simp

theorem lowerHex64_iff : LowerHex64 digest ↔ digest.utf8ByteSize = 64 ∧ digest.toList.all isLowerHex = true := by
  rw [List.all_eq_true]
  constructor
  · intro hex
    exact ⟨(utf8ByteSize_of_digits hex.digits).trans hex.length_eq, hex.digits⟩
  · rintro ⟨size, digits⟩
    exact ⟨(utf8ByteSize_of_digits digits).symm.trans size, digits⟩

end Digests

theorem rsplitOnce_eq_some {part text before after : List Char}
    (divided : rsplitOnce part text = some (before, after)) : text = before ++ part ++ after := by
  induction text generalizing before with
  | nil =>
      unfold rsplitOnce at divided
      split at divided
      · next empty =>
        obtain ⟨rfl, rfl⟩ := Prod.mk.inj (Option.some.inj divided)
        rw [empty]
        rfl
      · cases divided
  | cons c rest ih =>
      unfold rsplitOnce at divided
      split at divided
      · next later _ found =>
        obtain ⟨rfl, rfl⟩ := Prod.mk.inj (Option.some.inj divided)
        rw [ih found]
        rfl
      · split at divided
        · next begins =>
          obtain ⟨rfl, rfl⟩ := Prod.mk.inj (Option.some.inj divided)
          exact (List.prefix_iff_eq_append.mp begins).symm
        · cases divided

/-- A stored name is a name that is not empty, the marker and a digest. -/
theorem logicalNameOf_eq_some : logicalNameOf stored = some name ↔
    name ≠ "" ∧ ∃ digest, stored = name ++ contentAddressMarker ++ digest ∧ LowerHex64 digest := by
  constructor
  · intro named
    unfold logicalNameOf at named
    split at named
    · cases named
    · next logical digest divided =>
      split at named
      · cases named
      · next filled =>
        rw [not_or, not_not] at filled
        split at named
        · next hex =>
          obtain rfl := Option.some.inj named
          refine ⟨fun empty => filled.1 (by simpa using congrArg String.toList empty), String.ofList digest, ?_, ?_⟩
          · apply String.toList_inj.mp
            rw [rsplitOnce_eq_some divided]
            simp
          · exact lowerHex64_iff.mpr ⟨filled.2, by simpa using hex⟩
        · cases named
  · rintro ⟨filled, digest, rfl, hex⟩
    have noDot : '.' ∉ digest.toList := by
      intro listed
      have digit := hex.digits '.' listed
      exact absurd digit (by decide)
    have divided : rsplitOnce contentAddressMarker.toList (name ++ contentAddressMarker ++ digest).toList =
        some (name.toList, digest.toList) := by
      have whole : (name ++ contentAddressMarker ++ digest).toList =
          name.toList ++ (contentAddressMarker.toList ++ digest.toList) := by simp
      rw [whole]
      exact @rsplitOnce_append '.' ['b', '3', '-'] _ (by decide) noDot _
    have noName : name.toList ≠ [] := fun same => filled (String.toList_inj.mp same)
    obtain ⟨size, digits⟩ := lowerHex64_iff.mp hex
    unfold logicalNameOf
    rw [divided]
    simp [noName, size, digits]

theorem storedNameFor_eq_ok : storedNameFor codec name data = .ok stored ↔
    validateLogicalName name = .ok () ∧ stored = storedName codec name data := by
  unfold storedNameFor
  cases accepted : validateLogicalName name with
  | error refused => simp [Except.map]
  | ok _ => simp [Except.map, eq_comm]

section Reserved

/-- A name ends in a digit if it is a stored one. -/
theorem last_of_logicalNameOf (named : logicalNameOf stored = some name) :
    ∃ before c, stored.toList = before ++ [c] ∧ isLowerHex c = true := by
  obtain ⟨_, digest, rfl, hex⟩ := logicalNameOf_eq_some.mp named
  have filled : digest.toList ≠ [] := by
    intro empty
    have length := hex.length_eq
    rw [← String.length_toList, empty] at length
    cases length
  obtain ⟨before, c, whole⟩ := (List.eq_nil_or_concat' digest.toList).resolve_left filled
  refine ⟨(name ++ contentAddressMarker).toList ++ before, c, ?_, hex.digits c (by rw [whole]; simp)⟩
  rw [String.toList_append, whole, List.append_assoc]

theorem not_endsWith_of_logicalNameOf {suffix : String} {before : List Char} {last : Char}
    (named : logicalNameOf stored = some name) (ends : suffix.toList = before ++ [last])
    (noDigit : isLowerHex last = false) : endsWith suffix stored = false := by
  obtain ⟨init, c, whole, digit⟩ := last_of_logicalNameOf named
  refine decide_eq_false fun inside => ?_
  rw [ends, whole] at inside
  obtain ⟨rest, same⟩ := inside
  rw [← List.append_assoc] at same
  obtain rfl := (List.append_inj' same rfl).2 |> List.singleton_inj.mp
  rw [digit] at noDigit
  cases noDigit

theorem length_of_logicalNameOf (named : logicalNameOf stored = some name) : 68 < stored.length := by
  obtain ⟨filled, digest, rfl, hex⟩ := logicalNameOf_eq_some.mp named
  have marker : contentAddressMarker.length = 4 := by decide
  have some_ : name.length ≠ 0 := by
    intro empty
    rw [← String.length_toList, List.length_eq_zero_iff] at empty
    exact filled (String.toList_inj.mp empty)
  rw [String.length_append, String.length_append, marker, hex.length_eq]
  omega

theorem length_markerName (state : DurabilityState) : state.markerName.length ≤ 68 := by
  cases state <;> decide

end Reserved

/-- A stored name gives back what it was made of, and is no name that is kept for something else. -/
theorem stored_names_give_back_their_parts (codec : CheckpointCodec) :
    (∀ name data stored, storedNameFor codec name data = .ok stored → logicalNameOf stored = some name) ∧
    (∀ name other data content stored, storedNameFor codec name data = .ok stored →
      storedNameFor codec other content = .ok stored → name = other ∧ codec.hash data = codec.hash content) ∧
    (∀ stored name, logicalNameOf stored = some name ↔
      name ≠ "" ∧ ∃ digest, stored = name ++ contentAddressMarker ++ digest ∧ LowerHex64 digest) ∧
    ∀ stored name, logicalNameOf stored = some name →
      stored ≠ manifestFilename ∧ stored ≠ publicationFailedMarker ∧
      (∀ state : DurabilityState, stored ≠ state.markerName) ∧
      endsWith ".tmp" stored = false ∧ endsWith ".write_once.lock" stored = false := by
  have named {name stored : String} {data : List UInt8} (made : storedNameFor codec name data = .ok stored) :
      logicalNameOf stored = some name := by
    obtain ⟨accepted, rfl⟩ := storedNameFor_eq_ok.mp made
    exact logicalNameOf_stored (validateLogicalName_ok accepted).plain.filled
  refine ⟨fun _ _ _ made => named made, ?_, fun _ _ => logicalNameOf_eq_some, ?_⟩
  · intro name other data content stored made madeToo
    obtain rfl : name = other := Option.some.inj ((named made).symm.trans (named madeToo))
    obtain ⟨_, rfl⟩ := storedNameFor_eq_ok.mp made
    obtain ⟨_, same⟩ := storedNameFor_eq_ok.mp madeToo
    have chars := congrArg String.toList same
    rw [stored_toList, stored_toList, List.append_cancel_left_eq, List.append_cancel_left_eq] at chars
    exact ⟨rfl, String.toList_inj.mp chars⟩
  · intro stored name found
    have long := length_of_logicalNameOf found
    refine ⟨?_, ?_, fun state => ?_, ?_, ?_⟩
    · rintro rfl
      exact absurd long (by decide)
    · rintro rfl
      exact absurd long (by decide)
    · rintro rfl
      have short := length_markerName state
      omega
    · exact @not_endsWith_of_logicalNameOf _ _ ".tmp" ['.', 't', 'm'] 'p' found rfl (by decide)
    · exact @not_endsWith_of_logicalNameOf _ _ ".write_once.lock"
        ['.', 'w', 'r', 'i', 't', 'e', '_', 'o', 'n', 'c', 'e', '.', 'l', 'o', 'c'] 'k' found rfl (by decide)

end Gputeer.Checkpoint
