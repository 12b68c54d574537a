import Gputeer.Lib.Delimited
import Gputeer.Protocol.FencedOperation

/-! Nonces and ids that are derived by hashing several parts at once. What is hashed tells the parts apart. -/

namespace Gputeer.Protocol

open Bytes

/-- A text as a machine holds it: at most `isize::MAX` bytes. -/
structure Str where
  text : String
  addressable : (utf8 text).length < 2 ^ 63

/-- A text of as many characters as an id has. -/
structure Ulid where
  text : String
  length_eq : text.length = ulidLen

def pushLenPrefixed (bytes : List UInt8) : List UInt8 := beBytes 8 bytes.length ++ bytes

/-- What `derive_replay_nonce` hashes. -/
def replayNonceInput (tag id : String) (connectionAttempt : UInt32) : List UInt8 :=
  pushLenPrefixed (utf8 tag) ++ pushLenPrefixed (utf8 id) ++ beBytes 8 connectionAttempt.toUInt64.toNat

def deriveReplayNonce (blake3 : List UInt8 → Vector UInt8 32) (tag id : String) (connectionAttempt : UInt32) :
    List UInt8 :=
  (blake3 (replayNonceInput tag id connectionAttempt)).toList.take 16

/-- What `derive_operation_id` hashes. -/
def operationIdInput (jobId attemptId : String) (operationSeq : UInt64) : List UInt8 :=
  utf8 jobId ++ utf8 attemptId ++ beBytes 8 operationSeq.toNat

theorem deriveOperationId_eq (blake3 : List UInt8 → Vector UInt8 32) (jobId attemptId : String)
    (operationSeq : UInt64) :
    deriveOperationId blake3 jobId attemptId operationSeq =
      blake3 (operationIdInput jobId attemptId operationSeq) := rfl

section Parts

theorem Str.ext {first second : Str} (same : first.text = second.text) : first = second := by
  cases first
  cases second
  cases same
  rfl

theorem Ulid.ext {first second : Ulid} (same : first.text = second.text) : first = second := by
  cases first
  cases second
  cases same
  rfl

theorem pushLenPrefixed_delimited : Delimited pushLenPrefixed (·.length < 2 ^ 64) :=
  Delimited.lengthPrefixed (Delimited.beBytes 8)

/-- A text with its length before it. -/
theorem pushStr_delimited : Delimited (fun part : Str => pushLenPrefixed (utf8 part.text)) fun _ => True := by
  intro first second tail rest _ _ same
  have fits := first.addressable
  have fitsToo := second.addressable
  obtain ⟨bytes, tails⟩ := pushLenPrefixed_delimited (by omega) (by omega) same
  exact ⟨Str.ext (utf8_injective bytes), tails⟩

theorem ulid_delimited : Delimited (fun id : Ulid => utf8 id.text) fun _ => True := by
  intro first second tail rest _ _ same
  obtain ⟨texts, tails⟩ := Delimited.utf8 ulidLen first.length_eq second.length_eq same
  exact ⟨Ulid.ext texts, tails⟩

theorem u64_delimited : Delimited (fun number : UInt64 => beBytes 8 number.toNat) fun _ => True := by
  intro first second tail rest _ _ same
  obtain ⟨numbers, tails⟩ := Delimited.beBytes 8 first.toNat_lt second.toNat_lt same
  exact ⟨UInt64.toNat_inj.mp numbers, tails⟩

end Parts

/-- Two ids and a number can be told apart without a separator. -/
theorem operationIdInput_injective {first second : Ulid × Ulid × UInt64}
    (same : operationIdInput first.1.text first.2.1.text first.2.2 =
      operationIdInput second.1.text second.2.1.text second.2.2) : first = second := by
  have whole := ulid_delimited.pair (ulid_delimited.pair u64_delimited)
  simp only [operationIdInput, List.append_assoc] at same
  exact whole.injective ⟨trivial, trivial, trivial⟩ ⟨trivial, trivial, trivial⟩ same

theorem replayNonceInput_injective {first second : Str × Str × UInt32}
    (same : replayNonceInput first.1.text first.2.1.text first.2.2 =
      replayNonceInput second.1.text second.2.1.text second.2.2) : first = second := by
  have whole := pushStr_delimited.pair (pushStr_delimited.pair u64_delimited)
  simp only [replayNonceInput, List.append_assoc] at same
  have parts : (first.1, first.2.1, first.2.2.toUInt64) = (second.1, second.2.1, second.2.2.toUInt64) :=
    whole.injective ⟨trivial, trivial, trivial⟩ ⟨trivial, trivial, trivial⟩ same
  simp only [Prod.mk.injEq] at parts
  obtain ⟨tags, ids, attempts⟩ := parts
  exact Prod.ext tags (Prod.ext ids (UInt32.toUInt64_inj.mp attempts))

end Gputeer.Protocol

/-! The nonce of a stored grant, and what the hashed parts of all derived ids have in common. -/

namespace Gputeer.Coordinator

open Protocol Bytes

def grantNonceTag : String := "gputeer/v1/grant-nonce"

/-- A part of what `derive_stored_grant_nonce` hashes, after its length. -/
def pushGrantPart (part : List UInt8) : List UInt8 := leBytes 8 part.length ++ part

/-- What `derive_stored_grant_nonce` hashes. -/
def storedGrantNonceInput (grantId attemptId : String) : List UInt8 :=
  [utf8 grantNonceTag, utf8 grantId, utf8 attemptId].flatMap pushGrantPart

def deriveStoredGrantNonce (blake3 : List UInt8 → Vector UInt8 32) (grantId attemptId : String) : List UInt8 :=
  (blake3 (storedGrantNonceInput grantId attemptId)).toList.take 16

theorem pushGrantPart_delimited : Delimited pushGrantPart (·.length < 2 ^ 64) :=
  Delimited.lengthPrefixed (Delimited.leBytes 8)

theorem storedGrantNonceInput_injective {first second : Str × Str}
    (same : storedGrantNonceInput first.1.text first.2.text = storedGrantNonceInput second.1.text second.2.text) :
    first = second := by
  have fits (parts : Str × Str) : ∀ part ∈ [utf8 grantNonceTag, utf8 parts.1.text, utf8 parts.2.text],
      part.length < 2 ^ 64 := by
    have tag : (utf8 grantNonceTag).length < 2 ^ 64 := by decide
    have grant := parts.1.addressable
    have attempt := parts.2.addressable
    simp only [List.forall_mem_cons]
    exact ⟨tag, by omega, by omega, by simp⟩
  have padded : storedGrantNonceInput first.1.text first.2.text ++ [] =
      storedGrantNonceInput second.1.text second.2.text ++ [] := by rw [same]
  obtain ⟨parts, _⟩ := pushGrantPart_delimited.flatMap (fits first) (fits second) rfl padded
  simp only [List.cons.injEq, true_and, and_true] at parts
  obtain ⟨grants, attempts⟩ := parts
  exact Prod.ext (Str.ext (utf8_injective grants)) (Str.ext (utf8_injective attempts))

/-- Different arguments are hashed as different bytes, and nothing but these bytes is hashed. -/
theorem hashed_parts_are_told_apart :
    Function.Injective (fun parts : Ulid × Ulid × UInt64 =>
      operationIdInput parts.1.text parts.2.1.text parts.2.2) ∧
    Function.Injective (fun parts : Str × Str × UInt32 =>
      replayNonceInput parts.1.text parts.2.1.text parts.2.2) ∧
    Function.Injective (fun parts : Str × Str => storedGrantNonceInput parts.1.text parts.2.text) ∧
    ∀ blake3 : List UInt8 → Vector UInt8 32,
      (∀ jobId attemptId operationSeq, deriveOperationId blake3 jobId attemptId operationSeq =
        blake3 (operationIdInput jobId attemptId operationSeq)) ∧
      (∀ tag id connectionAttempt, deriveReplayNonce blake3 tag id connectionAttempt =
        (blake3 (replayNonceInput tag id connectionAttempt)).toList.take 16) ∧
      ∀ grantId attemptId, deriveStoredGrantNonce blake3 grantId attemptId =
        (blake3 (storedGrantNonceInput grantId attemptId)).toList.take 16 := by
  refine ⟨?_, ?_, ?_, fun blake3 => ⟨?_, ?_, ?_⟩⟩
  · intro first second same
    exact operationIdInput_injective same
  · intro first second same
    exact replayNonceInput_injective same
  · intro first second same
    exact storedGrantNonceInput_injective same
  · intro jobId attemptId operationSeq
    exact deriveOperationId_eq blake3 jobId attemptId operationSeq
  · intro tag id connectionAttempt
    rfl
  · intro grantId attemptId
    rfl

end Gputeer.Coordinator
