import Gputeer.Lib.Table
import Gputeer.Crypto.KeyringFile
import Gputeer.Crypto.KeyringRotation

/-! What `load` makes of the bytes `save` wrote, and which bytes `load` accepts. -/

namespace Gputeer.Keyring

variable {E : Ed25519} {host : Host}

open Bytes

theorem leBytes_ofNat_leNat {bytes : List UInt8} (length : bytes.length = 4) :
    putU32 (UInt32.ofNat (leNat bytes)) = bytes := by
  have bound := leNat_lt bytes
  rw [length] at bound
  rw [putU32, UInt32.toNat_ofNat_of_lt' (by omega), ← length]
  exact leBytes_leNat bytes

@[simp] theorem takeBytes_eq_ok {length : Nat} {input rest bytes : List UInt8} :
    takeBytes length input = .ok (bytes, rest) ↔ bytes.length = length ∧ input = bytes ++ rest :=
  Reader.take_eq_ok

@[simp] theorem readU8_eq_ok {input rest : List UInt8} {value : UInt8} :
    readU8 input = .ok (value, rest) ↔ input = value :: rest := by
  simp only [readU8, Reader.bind_eq_ok, takeBytes_eq_ok, Reader.pure_eq_ok]
  constructor
  · intro h
    rcases h with ⟨bytes, between, ⟨length, rfl⟩, rfl, rfl⟩
    rcases List.length_eq_one_iff.mp length with ⟨byte, rfl⟩
    rfl
  · intro h
    exact ⟨[value], rest, ⟨rfl, h⟩, rfl, rfl⟩

@[simp] theorem readU32_eq_ok {input rest : List UInt8} {value : UInt32} :
    readU32 input = .ok (value, rest) ↔ input = putU32 value ++ rest := by
  simp only [readU32, Reader.bind_eq_ok, takeBytes_eq_ok, Reader.pure_eq_ok]
  constructor
  · intro h
    rcases h with ⟨bytes, between, ⟨length, rfl⟩, rfl, rfl⟩
    rw [leBytes_ofNat_leNat length]
  · intro h
    refine ⟨putU32 value, rest, ⟨length_leBytes _ _, h⟩, ?_, rfl⟩
    rw [putU32, leNat_leBytes (by have := value.toNat_lt; omega)]
    exact UInt32.ofNat_toNat

@[simp] theorem readU64_eq_ok {input rest : List UInt8} {value : UInt64} :
    readU64 input = .ok (value, rest) ↔ input = putU64 value ++ rest := by
  simp only [readU64, Reader.bind_eq_ok, takeBytes_eq_ok, Reader.pure_eq_ok]
  constructor
  · intro h
    rcases h with ⟨bytes, between, ⟨length, rfl⟩, rfl, rfl⟩
    have bound := leNat_lt bytes
    rw [length] at bound
    rw [putU64, UInt64.toNat_ofNat_of_lt' (by omega), ← length, leBytes_leNat]
  · intro h
    refine ⟨putU64 value, rest, ⟨length_leBytes _ _, h⟩, ?_, rfl⟩
    rw [putU64, leNat_leBytes (by have := value.toNat_lt; omega)]
    exact UInt64.ofNat_toNat

theorem putBlob_eq_ok {value bytes : List UInt8} :
    putBlob value = .ok bytes ↔
      value.length ≤ maxBlobBytes ∧ bytes = putU32 (UInt32.ofNat value.length) ++ value := by
  rw [putBlob, Except.ite_error_eq_ok, Except.ok.injEq, not_or, Nat.not_lt, Nat.not_lt]
  constructor
  · intro h
    exact ⟨h.1.1, h.2.symm⟩
  · intro h
    have small := h.1
    rw [maxBlobBytes] at small
    exact ⟨⟨h.1, by omega⟩, h.2.symm⟩

@[simp] theorem readBlob_eq_ok {input rest value : List UInt8} :
    readBlob input = .ok (value, rest) ↔ ∃ bytes, putBlob value = .ok bytes ∧
      input = bytes ++ rest := by
  simp only [readBlob, Reader.bind_eq_ok, readU32_eq_ok, Reader.lift_eq_ok, takeBytes_eq_ok,
    putBlob_eq_ok, checkBlobLength, Except.ite_error_eq_ok, Nat.not_lt]
  constructor
  · intro h
    rcases h with ⟨length, _, rfl, _, _, ⟨⟨small, _⟩, rfl⟩, size, rfl⟩
    refine ⟨putU32 length ++ value, ⟨by omega, ?_⟩, by simp⟩
    rw [size, UInt32.ofNat_toNat]
  · intro h
    rcases h with ⟨bytes, ⟨small, rfl⟩, rfl⟩
    have fits : value.length < UInt32.size := by
      rw [maxBlobBytes] at small
      have : UInt32.size = 2 ^ 32 := rfl
      omega
    have exact : (UInt32.ofNat value.length).toNat = value.length :=
      UInt32.toNat_ofNat_of_lt' fits
    exact ⟨UInt32.ofNat value.length, value ++ rest, by simp, (), value ++ rest,
      ⟨⟨by rw [exact]; exact small, trivial⟩, rfl⟩, exact.symm, rfl⟩

theorem decodeString_eq_ok {bytes : List UInt8} {value : String} :
    decodeString bytes = .ok value ↔ bytes = utf8 value := by
  have decoded : ∀ text, String.fromUTF8? ⟨bytes.toArray⟩ = some text ↔
      bytes = utf8 text := by
    intro text
    simp only [String.fromUTF8?, utf8]
    constructor
    · intro h
      split at h
      · simp only [Option.some.injEq] at h
        rw [← h]
        simp [String.fromUTF8]
      · simp at h
    · intro h
      have same : (⟨bytes.toArray⟩ : ByteArray) = text.toByteArray := by
        rw [h]
      rw [same]
      rw [dif_pos text.isValidUTF8]
      rfl
  simp only [decodeString]
  cases h : String.fromUTF8? ⟨bytes.toArray⟩ with
  | none =>
      simp only [reduceCtorEq, false_iff]
      intro same
      rw [(decoded value).mpr same] at h
      cases h
  | some text => rw [← decoded value, h]; simp

@[simp] theorem readString_eq_ok {input rest : List UInt8} {value : String} :
    readString input = .ok (value, rest) ↔ ∃ bytes, putBlob (utf8 value) = .ok bytes ∧
      input = bytes ++ rest := by
  simp only [readString, Reader.bind_eq_ok, readBlob_eq_ok, Reader.lift_eq_ok, decodeString_eq_ok]
  constructor
  · intro h
    rcases h with ⟨_, _, written, rfl, rfl⟩
    exact written
  · intro h
    exact ⟨_, rest, h, rfl, rfl⟩

theorem protectPrivateKey_length (inverse : host.Inverse) {protection : KeyProtection}
    {signerId : String} {privateKey : SigningKey} {stored : List UInt8}
    (ok : protectPrivateKey host protection signerId privateKey = .ok stored) :
    32 ≤ stored.length ∧ stored.length ≤ maxBlobBytes := by
  cases protection with
  | k0Plaintext =>
      simp only [protectPrivateKey, Except.ok.injEq] at ok
      rw [← ok, privateKey.length_bytes]
      decide
  | k1OsProtected => exact inverse.length_sealed privateKey.length_bytes ok
  | k2HardwareBacked => simp [protectPrivateKey] at ok

theorem unprotect_eq_ok_iff (inverse : host.Inverse) {protection : KeyProtection}
    {signerId : String} {stored : List UInt8} (small : stored.length ≤ maxBlobBytes)
    (privateKey : SigningKey) :
    unprotectPrivateKey host protection signerId stored = .ok privateKey.bytes ↔
      protectPrivateKey host protection signerId privateKey = .ok stored := by
  have notLarge : ¬ stored.length > maxBlobBytes := by omega
  simp only [unprotectPrivateKey, if_neg notLarge]
  cases protection with
  | k0Plaintext => simp [protectPrivateKey, eq_comm]
  | k1OsProtected => exact ⟨inverse.protect_unprotect, inverse.unprotect_protect⟩
  | k2HardwareBacked => simp [protectPrivateKey]

theorem decodePrivate_eq_ok (inverse : host.Inverse) {protection : KeyProtection}
    {signerId : String} {publicKey : VerifyingKey E} {stored : List UInt8}
    (small : stored.length ≤ maxBlobBytes)
    (key : { key : Option SigningKey // ∀ k ∈ key, k.verifyingKey E = publicKey }) :
    decodePrivate host protection signerId publicKey stored = .ok key ↔
      privateBlob host protection signerId key.1 = .ok stored := by
  rcases key with ⟨_ | privateKey, matching⟩
  · simp only [decodePrivate, privateBlob, Except.ok.injEq]
    split
    · rename_i empty
      simp [empty]
    · rename_i filled
      simp only [Except.bind_eq_ok]
      constructor
      · intro h
        rcases h with ⟨raw, _, h⟩
        split at h
        · split at h <;> simp at h
        · simp at h
      · intro h
        exact absurd h.symm filled
  · have same : privateKey.verifyingKey E = publicKey := matching privateKey rfl
    simp only [decodePrivate, privateBlob]
    constructor
    · intro h
      split at h
      · simp at h
      · rcases Except.bind_eq_ok.mp h with ⟨raw, unsealed, h⟩
        split at h
        · split at h
          · simp only [Except.ok.injEq, Subtype.mk.injEq, Option.some.injEq] at h
            rw [← unprotect_eq_ok_iff inverse small, ← h]
            exact unsealed
          · simp at h
        · simp at h
    · intro h
      have filled : stored ≠ [] := by
        intro empty
        have bound := (protectPrivateKey_length inverse h).1
        rw [empty] at bound
        simp at bound
      rw [if_neg filled, (unprotect_eq_ok_iff inverse small privateKey).mpr h]
      simp [bind, Except.bind, privateKey.length_bytes, same]

/-- An end of validity that the file can carry. -/
def EndFits (version : KeyVersion E) : Prop :=
  version.validUntilMs ≠ some UInt64.maxValue ∧
    ∀ untilMs ∈ version.validUntilMs, version.validFromMs < untilMs

theorem decodeValidUntil_eq_ok {validFromMs raw : UInt64} {validUntilMs : Option UInt64} :
    decodeValidUntil validFromMs raw = .ok validUntilMs ↔
      raw = validUntilMs.getD UInt64.maxValue ∧ validUntilMs ≠ some UInt64.maxValue ∧
        ∀ untilMs ∈ validUntilMs, validFromMs < untilMs := by
  simp only [decodeValidUntil]
  split
  · rename_i sentinel
    cases validUntilMs with
    | none => simp [sentinel]
    | some untilMs =>
        simp only [sentinel, Except.ok.injEq, reduceCtorEq, false_iff, Option.getD_some]
        intro h
        exact h.2.1 (by rw [← h.1])
  · rename_i proper
    rw [Except.ite_error_eq_ok, Except.ok.injEq, UInt64.not_le]
    cases validUntilMs with
    | none => simp [proper]
    | some untilMs =>
        simp only [Option.some.injEq, Option.getD_some, ne_eq, Option.mem_def]
        constructor
        · intro h
          rcases h with ⟨later, rfl⟩
          exact ⟨rfl, proper, by simpa using later⟩
        · intro h
          rcases h with ⟨rfl, _, later⟩
          exact ⟨later raw rfl, rfl⟩

theorem keyState_fromByte_eq_ok {value : UInt8} {state : KeyState} :
    KeyState.fromByte value = .ok state ↔ value = state.toByte := by
  simp only [KeyState.fromByte]
  split
  · rename_i zero
    cases state <;> simp [zero, KeyState.toByte]
  · rename_i notZero
    split
    · rename_i one
      cases state <;> simp [one, KeyState.toByte]
    · rename_i notOne
      cases state <;> simp [notZero, notOne, KeyState.toByte]

theorem decodePublic_eq_ok {bytes : List UInt8} {publicKey : VerifyingKey E} :
    decodePublic E bytes = .ok publicKey ↔ bytes = publicKey.bytes := by
  rcases publicKey with ⟨keyBytes, length, valid⟩
  simp only [decodePublic, VerifyingKey.fromBytes]
  by_cases accepted : bytes.length = 32 ∧ E.decompresses bytes = true
  · simp [accepted]
  · simp only [accepted]
    simp only [dif_neg, not_false_eq_true, reduceCtorEq, false_iff]
    intro same
    exact accepted ⟨by rw [same]; exact length, by rw [same]; exact valid⟩

theorem putVersion_eq_ok {protection : KeyProtection} {signerId : String}
    {version : KeyVersion E} {bytes : List UInt8} :
    putVersion host protection signerId version = .ok bytes ↔ ∃ stored blob,
      privateBlob host protection signerId version.privateKey = .ok stored ∧
      putBlob stored = .ok blob ∧
      bytes = putU64 version.validFromMs ++ (putU64 (version.validUntilMs.getD UInt64.maxValue) ++
        (version.state.toByte :: (version.publicKey.bytes ++ blob))) := by
  simp only [putVersion, Except.bind_eq_ok, Except.pure_eq_ok]
  constructor
  · intro h
    rcases h with ⟨stored, sealed, blob, written, same⟩
    exact ⟨stored, blob, sealed, written, same.symm⟩
  · intro h
    rcases h with ⟨stored, blob, sealed, written, same⟩
    exact ⟨stored, sealed, blob, written, same.symm⟩

/-- The reader accepts exactly what the writer wrote for a version whose end of validity the
file can carry. -/
theorem readVersion_eq_ok (inverse : host.Inverse) {protection : KeyProtection}
    {signerId : String} {input rest : List UInt8} {version : KeyVersion E} :
    readVersion E host protection signerId input = .ok (version, rest) ↔
      EndFits version ∧ ∃ bytes, putVersion host protection signerId version = .ok bytes ∧
        input = bytes ++ rest := by
  simp only [readVersion, Reader.bind_eq_ok, readU64_eq_ok, readU8_eq_ok, takeBytes_eq_ok,
    Reader.lift_eq_ok, readBlob_eq_ok, Reader.pure_eq_ok, decodeValidUntil_eq_ok,
    keyState_fromByte_eq_ok, decodePublic_eq_ok]
  constructor
  · intro h
    rcases h with ⟨_, _, rfl, _, _, rfl, _, _, ⟨⟨rfl, notMax, ordered⟩, rfl⟩, _, _, rfl, _, _,
      ⟨rfl, rfl⟩, _, _, ⟨_, rfl⟩, _, _, ⟨rfl, rfl⟩, stored, _, ⟨blob, written, rfl⟩, key, _,
      ⟨decoded, rfl⟩, rfl, rfl⟩
    refine ⟨⟨notMax, ordered⟩, _, putVersion_eq_ok.mpr ⟨stored, blob, ?_, written, rfl⟩, by simp⟩
    exact (decodePrivate_eq_ok inverse (putBlob_eq_ok.mp written).1 key).mp decoded
  · intro h
    rcases h with ⟨⟨notMax, ordered⟩, bytes, put, rfl⟩
    rcases putVersion_eq_ok.mp put with ⟨stored, blob, sealed, written, rfl⟩
    have decoded := (decodePrivate_eq_ok inverse (putBlob_eq_ok.mp written).1
      (⟨version.privateKey, version.privateKey_matches⟩ :
        { key : Option SigningKey // ∀ k ∈ key, k.verifyingKey E = version.publicKey })).mpr sealed
    simp only [List.append_assoc, List.cons_append]
    exact ⟨version.validFromMs, _, rfl, version.validUntilMs.getD UInt64.maxValue, _, rfl,
      version.validUntilMs, _, ⟨⟨rfl, notMax, ordered⟩, rfl⟩, version.state.toByte, _, rfl,
      version.state, _, ⟨rfl, rfl⟩, version.publicKey.bytes, _,
      ⟨version.publicKey.length_bytes, rfl⟩, version.publicKey, _, ⟨rfl, rfl⟩, stored, rest,
      ⟨blob, written, rfl⟩, _, rest, ⟨decoded, rfl⟩, rfl, rfl⟩

theorem putString_eq_ok {value : String} {bytes : List UInt8} :
    putString value = .ok bytes ↔
      value.utf8ByteSize ≤ maxSignerIdBytes ∧ putBlob (utf8 value) = .ok bytes := by
  rw [putString, Except.ite_error_eq_ok, Nat.not_lt]

theorem putSigner_eq_ok {protection : KeyProtection} {entry : String × List (KeyVersion E)}
    {bytes : List UInt8} :
    putSigner host protection entry = .ok bytes ↔ ∃ signerId versions,
      putString entry.1 = .ok signerId ∧
      Reader.writeAll (putVersion host protection entry.1) entry.2 = .ok versions ∧
      bytes = signerId ++ (putU32 (UInt32.ofNat entry.2.length) ++ versions) := by
  simp only [putSigner, Except.bind_eq_ok, Except.pure_eq_ok]
  constructor
  · intro h
    rcases h with ⟨signerId, first, versions, second, same⟩
    exact ⟨signerId, versions, first, second, same.symm⟩
  · intro h
    rcases h with ⟨signerId, versions, first, second, same⟩
    exact ⟨signerId, first, versions, second, same.symm⟩

/-- A signer that the file can carry. -/
def EntryFits (entry : String × List (KeyVersion E)) : Prop :=
  validateSignerId entry.1 = .ok () ∧ entry.2 ≠ [] ∧ entry.2.length ≤ maxEntryCount ∧
    ∀ version ∈ entry.2, EndFits version

theorem checkSignerId_eq_ok {signerId : String} {done : Unit} :
    checkSignerId signerId = .ok done ↔ validateSignerId signerId = .ok () := by
  rw [checkSignerId, validateSignerId, Except.ite_error_eq_ok, Except.ite_error_eq_ok]

theorem many_readVersion_sound (inverse : host.Inverse) {protection : KeyProtection}
    {signerId : String} {count : Nat} {input rest : List UInt8} {versions : List (KeyVersion E)}
    (ran : Reader.many (readVersion E host protection signerId) count input =
      .ok (versions, rest)) : ∀ version ∈ versions, EndFits version := by
  induction count generalizing input versions with
  | zero =>
      simp only [Reader.many, Reader.pure_eq_ok] at ran
      rw [← ran.1]
      simp
  | succ count ih =>
      simp only [Reader.many, Reader.bind_eq_ok, Reader.pure_eq_ok] at ran
      rcases ran with ⟨head, _, first, tail, _, others, rfl, rfl⟩
      intro version member
      rcases List.mem_cons.mp member with rfl | later
      · exact ((readVersion_eq_ok inverse).mp first).1
      · exact ih others version later

theorem toNat_ofNat_count {count : Nat} (small : count ≤ maxEntryCount) :
    (UInt32.ofNat count).toNat = count := by
  apply UInt32.toNat_ofNat_of_lt'
  rw [maxEntryCount] at small
  have : UInt32.size = 2 ^ 32 := rfl
  omega

theorem readSigner_eq_ok (inverse : host.Inverse) {protection : KeyProtection}
    {input rest : List UInt8} {entry : String × List (KeyVersion E)} :
    readSigner E host protection input = .ok (entry, rest) ↔
      EntryFits entry ∧ ∃ bytes, putSigner host protection entry = .ok bytes ∧
        input = bytes ++ rest := by
  simp only [readSigner, Reader.bind_eq_ok, readString_eq_ok, Reader.lift_eq_ok, readU32_eq_ok,
    Reader.pure_eq_ok, checkSignerId_eq_ok, checkVersionCount, Except.ite_error_eq_ok, not_or,
    Nat.not_lt]
  constructor
  · intro h
    rcases h with ⟨signerId, _, ⟨idBytes, idWritten, rfl⟩, _, _, ⟨valid, rfl⟩, count, _, rfl, _, _,
      ⟨⟨⟨nonzero, small⟩, _⟩, rfl⟩, versions, _, ran, rfl, rfl⟩
    have fits := many_readVersion_sound inverse ran
    rcases Reader.many_sound (fun h => ((readVersion_eq_ok inverse).mp h).2) ran with
      ⟨length, bytes, written, rfl⟩
    have few : versions.length ≤ maxEntryCount := by omega
    have filled : versions ≠ [] := by
      intro empty
      rw [empty] at length
      exact nonzero length.symm
    refine ⟨⟨valid, filled, few, fits⟩, _,
      putSigner_eq_ok.mpr ⟨idBytes, bytes, ?_, written, rfl⟩, ?_⟩
    · rw [validateSignerId, Except.ite_error_eq_ok, not_or, Nat.not_lt] at valid
      exact putString_eq_ok.mpr ⟨valid.1.2, idWritten⟩
    · simp [length]
  · intro h
    rcases h with ⟨⟨valid, filled, small, fits⟩, bytes, put, rfl⟩
    rcases putSigner_eq_ok.mp put with ⟨idBytes, versions, idWritten, written, rfl⟩
    have count := toNat_ofNat_count small
    have complete : Reader.many (readVersion E host protection entry.1) entry.2.length
        (versions ++ rest) = .ok (entry.2, rest) :=
      Reader.many_complete (fun version member bytes rest put => (readVersion_eq_ok inverse).mpr
        ⟨fits version member, bytes, put, rfl⟩) written rest
    simp only [List.append_assoc]
    refine ⟨entry.1, _, ⟨idBytes, (putString_eq_ok.mp idWritten).2, rfl⟩, (), _, ⟨valid, rfl⟩,
      UInt32.ofNat entry.2.length, _, rfl, (), _, ⟨⟨⟨?_, ?_⟩, trivial⟩, rfl⟩, entry.2, rest, ?_,
      rfl, rfl⟩
    · rw [count]
      exact fun zero => filled (List.length_eq_zero_iff.mp zero)
    · rw [count]
      exact small
    · rw [count]
      exact complete

/-- Everything the reader has checked about the signers it collected. -/
structure Accepted (keys : Std.ExtTreeMap String (List (KeyVersion E)))
    (entries : List (String × List (KeyVersion E)))
    (result : Std.ExtTreeMap String (List (KeyVersion E))) : Prop where
  fits : ∀ entry ∈ entries, EntryFits entry
  distinct : (entries.map Prod.fst).Nodup
  absent : ∀ entry ∈ entries, entry.1 ∉ keys
  result_eq : result = keys.insertMany entries

theorem accepted_cons {keys result : Std.ExtTreeMap String (List (KeyVersion E))}
    {entry : String × List (KeyVersion E)} {entries : List (String × List (KeyVersion E))} :
    Accepted keys (entry :: entries) result ↔
      EntryFits entry ∧ entry.1 ∉ keys ∧
        Accepted (keys.insert entry.1 entry.2) entries result := by
  have inserted : keys.insertMany (entry :: entries) =
      (keys.insert entry.1 entry.2).insertMany entries := Std.ExtTreeMap.insertMany_cons
  constructor
  · intro h
    have nodup := h.distinct
    rw [List.map_cons, List.nodup_cons] at nodup
    refine ⟨h.fits entry (by simp), h.absent entry (by simp), ?_⟩
    refine ⟨fun other member => h.fits other (by simp [member]), nodup.2, ?_, ?_⟩
    · intro other member present
      rw [Std.ExtTreeMap.mem_insert, Std.compare_eq_iff_eq] at present
      rcases present with same | earlier
      · exact nodup.1 (by rw [same]; exact List.mem_map_of_mem member)
      · exact h.absent other (by simp [member]) earlier
    · rw [h.result_eq, inserted]
  · intro h
    rcases h with ⟨fits, absent, rest⟩
    refine ⟨?_, ?_, ?_, ?_⟩
    · intro other member
      rcases List.mem_cons.mp member with rfl | later
      · exact fits
      · exact rest.fits other later
    · rw [List.map_cons, List.nodup_cons]
      refine ⟨?_, rest.distinct⟩
      intro repeated
      rcases List.mem_map.mp repeated with ⟨other, member, same⟩
      apply rest.absent other member
      rw [Std.ExtTreeMap.mem_insert, Std.compare_eq_iff_eq]
      exact Or.inl same.symm
    · intro other member
      rcases List.mem_cons.mp member with rfl | later
      · exact absent
      · intro present
        apply rest.absent other later
        rw [Std.ExtTreeMap.mem_insert]
        exact Or.inr present
    · rw [inserted]
      exact rest.result_eq

theorem insertSigner_eq_ok {keys result : Std.ExtTreeMap String (List (KeyVersion E))}
    {entry : String × List (KeyVersion E)} :
    insertSigner keys entry = .ok result ↔
      entry.1 ∉ keys ∧ result = keys.insert entry.1 entry.2 := by
  rw [insertSigner, Except.ite_error_eq_ok, Except.ok.injEq, ← Std.ExtTreeMap.mem_iff_contains,
    eq_comm (a := result)]

theorem readSigners_eq_ok (inverse : host.Inverse) {protection : KeyProtection} {count : Nat}
    {keys result : Std.ExtTreeMap String (List (KeyVersion E))} {input rest : List UInt8} :
    readSigners host protection count keys input = .ok (result, rest) ↔
      ∃ entries bytes, entries.length = count ∧ Accepted keys entries result ∧
        Reader.writeAll (putSigner host protection) entries = .ok bytes ∧
        input = bytes ++ rest := by
  induction count generalizing keys input with
  | zero =>
      simp only [readSigners, Reader.pure_eq_ok]
      constructor
      · intro h
        rcases h with ⟨rfl, rfl⟩
        exact ⟨[], [], rfl, ⟨by simp, by simp, by simp, by simp⟩, rfl, rfl⟩
      · intro h
        rcases h with ⟨entries, bytes, length, accepted, written, rfl⟩
        obtain rfl := List.length_eq_zero_iff.mp length
        simp only [Reader.writeAll_nil, Except.ok.injEq] at written
        rw [← written]
        exact ⟨by simpa using accepted.result_eq.symm, rfl⟩
  | succ count ih =>
      simp only [readSigners, Reader.bind_eq_ok, readSigner_eq_ok inverse, Reader.lift_eq_ok,
        insertSigner_eq_ok, ih]
      constructor
      · intro h
        rcases h with ⟨entry, _, ⟨fits, first, put, rfl⟩, _, _, ⟨⟨absent, rfl⟩, rfl⟩, entries,
          bytes, length, accepted, written, rfl⟩
        refine ⟨entry :: entries, first ++ bytes, by simp [length],
          accepted_cons.mpr ⟨fits, absent, accepted⟩, ?_, by simp⟩
        exact Reader.writeAll_cons.mpr ⟨first, bytes, put, written, rfl⟩
      · intro h
        rcases h with ⟨entries, bytes, length, accepted, written, rfl⟩
        cases entries with
        | nil => simp at length
        | cons entry entries =>
            rcases accepted_cons.mp accepted with ⟨fits, absent, accepted⟩
            rcases Reader.writeAll_cons.mp written with ⟨first, others, put, writtenTail, rfl⟩
            refine ⟨entry, others ++ rest, ⟨fits, first, put, by simp⟩, _, _,
              ⟨⟨absent, rfl⟩, rfl⟩, entries, others, ?_, accepted, writtenTail, rfl⟩
            simpa using length

theorem fromByte_toByte {value : UInt8} {protection : KeyProtection} :
    KeyProtection.fromByte value = .ok protection ↔ value = protection.toByte := by
  simp only [KeyProtection.fromByte]
  split
  · rename_i one
    cases protection <;> simp [one, KeyProtection.toByte]
  · rename_i notOne
    split
    · rename_i two
      cases protection <;> simp [two, KeyProtection.toByte]
    · rename_i notTwo
      split
      · rename_i three
        cases protection <;> simp [three, KeyProtection.toByte]
      · rename_i notThree
        cases protection <;> simp [notOne, notTwo, notThree, KeyProtection.toByte]

theorem decodeQuarantined_eq_ok {value : UInt8} {quarantined : Bool} :
    decodeQuarantined value = .ok quarantined ↔ value = if quarantined then 1 else 0 := by
  simp only [decodeQuarantined]
  split
  · rename_i zero
    cases quarantined <;> simp [zero]
  · rename_i notZero
    split
    · rename_i one
      cases quarantined <;> simp [one]
    · rename_i notOne
      cases quarantined <;> simp [notZero, notOne]

theorem readBody_eq_ok (inverse : host.Inverse) {path : String}
    {plaintextPolicy : PlaintextPolicy} {input rest : List UInt8} {ring : PersistentKeyring E} :
    readBody host path plaintextPolicy input = .ok (ring, rest) ↔
      ring.path = path ∧
      ensureProtection host.platform ring.protection plaintextPolicy = .ok () ∧
      ∃ entries signers, entries.length ≤ maxEntryCount ∧ Accepted ∅ entries ring.keys ∧
        Reader.writeAll (putSigner host ring.protection) entries = .ok signers ∧
        input = bodyBytes ring.protection ring.quarantined (UInt32.ofNat entries.length) signers ++
          rest := by
  simp only [readBody, Reader.bind_eq_ok, takeBytes_eq_ok, Reader.lift_eq_ok, readU8_eq_ok,
    readU32_eq_ok, Reader.pure_eq_ok, checkMagic, checkVersion, checkReserved, checkSignerCount,
    Except.ite_error_eq_ok, not_not, ne_eq, fromByte_toByte, decodeQuarantined_eq_ok,
    readSigners_eq_ok inverse, Nat.not_lt]
  constructor
  · intro h
    rcases h with ⟨_, _, ⟨_, rfl⟩, _, _, ⟨⟨rfl, _⟩, rfl⟩, _, _, rfl, _, _, ⟨⟨rfl, _⟩, rfl⟩, _, _,
      rfl, protection, _, ⟨rfl, rfl⟩, _, _, ⟨allowed, rfl⟩, _, _, rfl, quarantined, _, ⟨rfl, rfl⟩,
      _, _, rfl, _, _, ⟨⟨rfl, _⟩, rfl⟩, count, _, rfl, _, _, ⟨⟨small, _⟩, rfl⟩, keys, _,
      ⟨entries, signers, length, accepted, written, rfl⟩, rfl, rfl⟩
    refine ⟨rfl, allowed, entries, signers, by omega, accepted, written, ?_⟩
    simp [bodyBytes, length]
  · intro h
    rcases ring with ⟨_, protection, quarantined, keys⟩
    rcases h with ⟨rfl, allowed, entries, signers, small, accepted, written, rfl⟩
    have count := toNat_ofNat_count small
    simp only [bodyBytes, List.append_assoc, List.cons_append]
    refine ⟨fileMagic, _, ⟨rfl, rfl⟩, (), _, ⟨⟨rfl, trivial⟩, rfl⟩, fileVersion, _, rfl, (), _,
      ⟨⟨rfl, trivial⟩, rfl⟩, protection.toByte, _, rfl, protection, _, ⟨rfl, rfl⟩, (), _,
      ⟨allowed, rfl⟩, _, _, rfl, quarantined, _, ⟨rfl, rfl⟩, 0, _, rfl, (), _,
      ⟨⟨rfl, trivial⟩, rfl⟩, UInt32.ofNat entries.length, _, rfl, (), _,
      ⟨⟨by rw [count]; exact small, trivial⟩, rfl⟩, keys, rest,
      ⟨entries, signers, count.symm, accepted, written, rfl⟩, rfl, rfl⟩

theorem splitFile_eq_ok {bytes body sealed : List UInt8} :
    splitFile bytes = .ok (body, sealed) ↔
      bytes = body ++ (sealed ++ putU32 (UInt32.ofNat sealed.length)) ∧ sealed ≠ [] ∧
        sealed.length ≤ maxBlobBytes ∧ 56 ≤ bytes.length := by
  simp only [splitFile, Except.ite_error_eq_ok, not_or, Nat.not_lt, Except.ok.injEq,
    Prod.mk.injEq]
  constructor
  · intro h
    rcases h with ⟨long, ⟨nonzero, small⟩, room, rfl, rfl⟩
    have long' : 56 ≤ bytes.length := long
    have tailLength : (bytes.drop (bytes.length - 4)).length = 4 := by
      rw [List.length_drop]
      omega
    generalize sealedIs : (UInt32.ofNat (leNat (bytes.drop (bytes.length - 4)))).toNat = n at *
    have sealedLength : ((bytes.drop (bytes.length - 4 - n)).take n).length = n := by
      rw [List.length_take, List.length_drop]
      omega
    have tail : putU32 (UInt32.ofNat n) = bytes.drop (bytes.length - 4) := by
      rw [← sealedIs, UInt32.ofNat_toNat]
      exact leBytes_ofNat_leNat tailLength
    refine ⟨?_, ?_, by rw [sealedLength]; exact small, long'⟩
    · rw [sealedLength, tail]
      have rejoined : (bytes.drop (bytes.length - 4 - n)).take n ++
          bytes.drop (bytes.length - 4) = bytes.drop (bytes.length - 4 - n) := by
        have dropped : bytes.drop (bytes.length - 4) =
            (bytes.drop (bytes.length - 4 - n)).drop n := by
          rw [List.drop_drop]
          congr 1
          omega
        rw [dropped, List.take_append_drop]
      rw [rejoined, List.take_append_drop]
    · intro empty
      rw [empty] at sealedLength
      exact nonzero sealedLength.symm
  · intro h
    rcases h with ⟨rfl, filled, small, long⟩
    have fits : sealed.length < UInt32.size := by
      rw [maxBlobBytes] at small
      have : UInt32.size = 2 ^ 32 := rfl
      omega
    have tailLength : (putU32 (UInt32.ofNat sealed.length)).length = 4 := length_leBytes _ _
    have position : (body ++ (sealed ++ putU32 (UInt32.ofNat sealed.length))).length - 4 =
        (body ++ sealed).length := by
      simp only [List.length_append, tailLength]
      omega
    have tail : (body ++ (sealed ++ putU32 (UInt32.ofNat sealed.length))).drop
        (body ++ sealed).length = putU32 (UInt32.ofNat sealed.length) := by
      rw [← List.append_assoc, List.drop_left]
    have value : (UInt32.ofNat (leNat (putU32 (UInt32.ofNat sealed.length)))).toNat =
        sealed.length := by
      rw [putU32, leNat_leBytes (by have := (UInt32.ofNat sealed.length).toNat_lt; omega),
        UInt32.ofNat_toNat, UInt32.toNat_ofNat_of_lt' fits]
    have bodyEnd : (body ++ sealed).length - sealed.length = body.length := by simp
    rw [position, tail, value, bodyEnd]
    refine ⟨long, ⟨?_, small⟩, by simp, by simp, by simp⟩
    exact fun zero => filled (List.length_eq_zero_iff.mp zero)

theorem verifySealedChecksum_eq_ok (inverse : host.Inverse) {protection : KeyProtection}
    {body sealed : List UInt8} {done : Unit} :
    verifySealedChecksum host protection body sealed = .ok done ↔
      sealChecksum host protection body = .ok sealed := by
  simp only [verifySealedChecksum, Except.bind_eq_ok, Except.ite_error_eq_ok, not_not, ne_eq]
  cases protection with
  | k0Plaintext => simp [unsealChecksum, sealChecksum, eq_comm]
  | k1OsProtected =>
      simp only [unsealChecksum, sealChecksum]
      constructor
      · intro h
        rcases h with ⟨_, unsealed, rfl, _⟩
        exact inverse.protect_unprotect unsealed
      · intro h
        exact ⟨_, inverse.unprotect_protect h, rfl, trivial⟩
  | k2HardwareBacked => simp [unsealChecksum, sealChecksum]

theorem sealChecksum_length (inverse : host.Inverse) {protection : KeyProtection}
    {body sealed : List UInt8} (ok : sealChecksum host protection body = .ok sealed) :
    32 ≤ sealed.length ∧ sealed.length ≤ maxBlobBytes := by
  cases protection with
  | k0Plaintext =>
      simp only [sealChecksum, Except.ok.injEq] at ok
      rw [← ok, host.length_blake3]
      decide
  | k1OsProtected => exact inverse.length_sealed (host.length_blake3 body) ok
  | k2HardwareBacked => simp [sealChecksum] at ok

theorem fileBytes_eq_ok {protection : KeyProtection} {quarantined : Bool}
    {entries : List (String × List (KeyVersion E))} {bytes : List UInt8} :
    fileBytes host protection quarantined entries = .ok bytes ↔ ∃ signers sealed,
      Reader.writeAll (putSigner host protection) entries = .ok signers ∧
      sealChecksum host protection
        (bodyBytes protection quarantined (UInt32.ofNat entries.length) signers) = .ok sealed ∧
      bytes = bodyBytes protection quarantined (UInt32.ofNat entries.length) signers ++
        (sealed ++ putU32 (UInt32.ofNat sealed.length)) := by
  simp only [fileBytes, Except.bind_eq_ok, Except.pure_eq_ok]
  constructor
  · intro h
    rcases h with ⟨signers, written, sealed, checksum, same⟩
    exact ⟨signers, sealed, written, checksum, same.symm⟩
  · intro h
    rcases h with ⟨signers, sealed, written, checksum, same⟩
    exact ⟨signers, written, sealed, checksum, same.symm⟩

theorem protection_at (protection : KeyProtection) (quarantined : Bool) (count : UInt32)
    (signers rest : List UInt8) :
    (bodyBytes protection quarantined count signers ++ rest).getD (fileMagic.length + 1) 0 =
      protection.toByte := rfl

/-- `load` accepts a byte string exactly when it is the file of a list of pairwise different
signers within the limits, in whatever order, and it then returns the map of that list. -/
theorem load_eq_ok (inverse : host.Inverse) {path : String} {plaintextPolicy : PlaintextPolicy}
    {bytes : List UInt8} {ring : PersistentKeyring E} :
    load host path plaintextPolicy bytes = .ok ring ↔
      ring.path = path ∧
      ensureProtection host.platform ring.protection plaintextPolicy = .ok () ∧
      ∃ entries, entries.length ≤ maxEntryCount ∧ Accepted ∅ entries ring.keys ∧
        fileBytes host ring.protection ring.quarantined entries = .ok bytes := by
  simp only [load, Except.bind_eq_ok, Except.pure_eq_ok, Prod.exists, splitFile_eq_ok,
    fromByte_toByte, readBody_eq_ok inverse, checkRemaining, Except.ite_error_eq_ok, not_not,
    ne_eq, verifySealedChecksum_eq_ok inverse]
  constructor
  · intro h
    rcases h with ⟨body, sealed, ⟨rfl, _⟩, claimed, isClaimed, _, _, _, checksum, loaded, _,
      ⟨samePath, allowed, entries, signers, small, accepted, written, rfl⟩, _, ⟨rfl, _⟩, rfl⟩
    rw [List.append_nil] at checksum isClaimed ⊢
    rw [protection_at] at isClaimed
    have same : loaded.protection = claimed := by
      cases h : loaded.protection <;> cases claimed <;> rw [h] at isClaimed <;>
        first | rfl | (simp [KeyProtection.toByte] at isClaimed)
    rw [← same] at checksum
    exact ⟨samePath, allowed, entries, small, accepted,
      fileBytes_eq_ok.mpr ⟨signers, sealed, written, checksum, rfl⟩⟩
  · intro h
    rcases h with ⟨samePath, allowed, entries, small, accepted, file⟩
    rcases fileBytes_eq_ok.mp file with ⟨signers, sealed, written, checksum, rfl⟩
    have sealedLength := sealChecksum_length inverse checksum
    refine ⟨_, sealed, ⟨rfl, ?_, sealedLength.2, ?_⟩, ring.protection, protection_at _ _ _ _ _, (),
      allowed, (), checksum, ring, [],
      ⟨samePath, allowed, entries, signers, small, accepted, written, by simp⟩, (), ⟨rfl, trivial⟩,
      rfl⟩
    · intro empty
      rw [empty] at sealedLength
      simp at sealedLength
    · have magic : fileMagic.length = 16 := rfl
      simp only [bodyBytes, List.length_append, List.length_cons, putU32, length_leBytes, magic]
      omega

/-- What every sequence of operations keeps true of an entry. -/
def EntryKept (entry : String × List (KeyVersion E)) : Prop :=
  validateSignerId entry.1 = .ok () ∧ entry.2 ≠ [] ∧
    ∀ version ∈ entry.2, ∀ untilMs ∈ version.validUntilMs,
      untilMs = UInt64.maxValue ∨ version.validFromMs < untilMs

def Kept (ring : PersistentKeyring E) : Prop :=
  ∀ signerId versions, ring.keys[signerId]? = some versions → EntryKept (signerId, versions)

theorem kept_insert {ring : PersistentKeyring E} {signerId : String}
    {versions : List (KeyVersion E)} (kept : Kept ring) (entry : EntryKept (signerId, versions)) :
    Kept { ring with keys := ring.keys.insert signerId versions } := by
  intro other list found
  simp only [Std.ExtTreeMap.getElem?_insert, Std.compare_eq_iff_eq] at found
  split at found
  · rename_i same
    subst same
    rw [Option.some.injEq] at found
    rw [← found]
    exact entry
  · exact kept other list found

theorem supersede_keeps_end {version : KeyVersion E} {nowMs : UInt64}
    (ends : ∀ untilMs ∈ version.validUntilMs,
      untilMs = UInt64.maxValue ∨ version.validFromMs < untilMs) :
    ∀ untilMs ∈ (PersistentKeyring.supersede nowMs version).validUntilMs,
      untilMs = UInt64.maxValue ∨
        (PersistentKeyring.supersede nowMs version).validFromMs < untilMs := by
  intro untilMs isEnd
  rw [supersede_validFromMs]
  by_cases valid : versionIsValid version nowMs = true
  · have started := ((versionIsValid_iff _ _).mp valid).2.1
    simp only [PersistentKeyring.supersede, valid, if_true, Option.mem_def,
      Option.some.injEq] at isEnd
    by_cases room : nowMs < UInt64.maxValue
    · right
      rw [← isEnd]
      exact UInt64.lt_of_le_of_lt started
        (UInt64.lt_saturatingAdd room (by decide : (0 : UInt64) < rotationGracePeriodMs))
    · left
      rw [← isEnd, UInt64.eq_maxValue_of_not_lt room]
      rfl
  · exact ends untilMs (by simpa [PersistentKeyring.supersede, valid] using isEnd)

theorem step_kept (ring : PersistentKeyring E) (op : Op E) (kept : Kept ring) :
    Kept (step ring op) := by
  unfold step
  cases applied : apply ring op with
  | error fault => exact kept
  | ok next =>
      cases op with
      | insertPrivate target key | insertPublic target key =>
          rcases insertVersion_ok applied with ⟨valid, _, rfl⟩
          exact kept_insert kept ⟨valid, by simp, by simp⟩
      | revoke target =>
          rcases revoke_ok applied with ⟨list, present, rfl⟩
          rcases kept target list present with ⟨valid, filled, ends⟩
          refine kept_insert kept ⟨valid, by simpa using filled, ?_⟩
          intro version member
          rcases List.mem_map.mp member with ⟨earlier, was, rfl⟩
          exact ends earlier was
      | quarantine target =>
          simp only [apply, Except.map_eq_ok, PersistentKeyring.quarantine] at applied
          rcases applied with ⟨_, done, rfl⟩
          split at done
          · rw [Except.ok.injEq] at done
            rw [← done]
            exact kept
          · cases done
      | releaseQuarantine target =>
          simp only [apply, Except.map_eq_ok, PersistentKeyring.releaseQuarantine] at applied
          rcases applied with ⟨_, done, rfl⟩
          split at done
          · rw [Except.ok.injEq] at done
            rw [← done]
            exact kept
          · cases done
      | rotate target newPrivate nowMs =>
          rcases rotate_ok.mp applied with ⟨rotates, rfl⟩
          rcases rotates.2.1 with ⟨valid, member, _⟩
          cases present : ring.keys[target]? with
          | none => simp [PersistentKeyring.versions, present] at member
          | some list =>
              rw [versions_of_getElem? present]
              rcases kept target list present with ⟨validId, _, ends⟩
              refine kept_insert kept ⟨validId, by simp, ?_⟩
              intro version member
              rcases List.mem_append.mp member with old | new
              · rcases List.mem_map.mp old with ⟨earlier, was, rfl⟩
                exact supersede_keeps_end (ends earlier was)
              · obtain rfl := List.mem_singleton.mp new
                simp [PersistentKeyring.successor]

theorem step_path_protection (ring : PersistentKeyring E) (op : Op E) :
    (step ring op).path = ring.path ∧ (step ring op).protection = ring.protection := by
  unfold step
  cases applied : apply ring op with
  | error fault => exact ⟨rfl, rfl⟩
  | ok next =>
      cases op with
      | insertPrivate target key | insertPublic target key =>
          rcases insertVersion_ok applied with ⟨_, _, rfl⟩
          exact ⟨rfl, rfl⟩
      | revoke target =>
          rcases revoke_ok applied with ⟨_, _, rfl⟩
          exact ⟨rfl, rfl⟩
      | quarantine target =>
          simp only [apply, Except.map_eq_ok, PersistentKeyring.quarantine] at applied
          rcases applied with ⟨_, done, rfl⟩
          split at done
          · rw [Except.ok.injEq] at done
            rw [← done]
            exact ⟨rfl, rfl⟩
          · cases done
      | releaseQuarantine target =>
          simp only [apply, Except.map_eq_ok, PersistentKeyring.releaseQuarantine] at applied
          rcases applied with ⟨_, done, rfl⟩
          split at done
          · rw [Except.ok.injEq] at done
            rw [← done]
            exact ⟨rfl, rfl⟩
          · cases done
      | rotate target newPrivate nowMs =>
          rcases rotate_ok.mp applied with ⟨_, rfl⟩
          exact ⟨rfl, rfl⟩

/-- A keyring that its file can carry: the reader's limits on counts, which the writer does
not check, and no end of validity equal to the mark for an open one. -/
def Fits (ring : PersistentKeyring E) : Prop :=
  ring.keys.size ≤ maxEntryCount ∧
    ∀ (signerId : String) (versions : List (KeyVersion E)), ring.keys[signerId]? = some versions →
      versions.length ≤ maxEntryCount ∧
        ∀ version ∈ versions, version.validUntilMs ≠ some UInt64.maxValue

/-- The signers stand in strictly ascending order. -/
def Ascending (entries : List (String × List (KeyVersion E))) : Prop :=
  entries.Pairwise (fun a b => compare a.1 b.1 = .lt)

theorem accepted_toList {ring : PersistentKeyring E} (kept : Kept ring) (fits : Fits ring) :
    Accepted ∅ ring.keys.toList ring.keys := by
  refine ⟨?_, OrderedMap.nodup_keys_toList ring.keys, by simp, ?_⟩
  · intro entry member
    have found := Std.ExtTreeMap.mem_toList_iff_getElem?_eq_some.mp member
    rcases kept _ _ found with ⟨valid, filled, ends⟩
    rcases fits.2 _ _ found with ⟨few, notMax⟩
    refine ⟨valid, filled, few, fun version inside => ⟨notMax version inside, ?_⟩⟩
    intro untilMs isEnd
    rcases ends version inside untilMs isEnd with isMax | later
    · exact absurd (by rw [← isMax]; exact isEnd) (notMax version inside)
    · exact later
  · exact (OrderedMap.insertMany_toList ring.keys).symm

theorem fits_of_accepted {ring : PersistentKeyring E}
    {entries : List (String × List (KeyVersion E))} (accepted : Accepted ∅ entries ring.keys)
    (small : entries.length ≤ maxEntryCount) : Fits ring := by
  have listed : ∀ entry, entry ∈ ring.keys.toList ↔ entry ∈ entries := by
    intro entry
    rw [accepted.result_eq]
    exact OrderedMap.mem_toList_insertMany accepted.distinct
  constructor
  · calc
      ring.keys.size = ring.keys.toList.length := Std.ExtTreeMap.length_toList.symm
      _ ≤ entries.length := by
        apply List.Subperm.length_le
        apply List.subperm_of_subset
        · exact List.Nodup.of_map _ (OrderedMap.nodup_keys_toList ring.keys)
        · exact fun entry member => (listed entry).mp member
      _ ≤ maxEntryCount := small
  · intro signerId versions found
    have member := (listed (signerId, versions)).mp
      (Std.ExtTreeMap.mem_toList_iff_getElem?_eq_some.mpr found)
    rcases accepted.fits _ member with ⟨_, _, few, ends⟩
    exact ⟨few, fun version inside => (ends version inside).1⟩

theorem load_save_iff (inverse : host.Inverse) {plaintextPolicy : PlaintextPolicy}
    {ring : PersistentKeyring E} (kept : Kept ring)
    (allowed : ensureProtection host.platform ring.protection plaintextPolicy = .ok ())
    {saved : List UInt8} (written : save host ring = .ok saved) :
    load host ring.path plaintextPolicy saved = .ok ring ↔ Fits ring := by
  rw [load_eq_ok inverse]
  constructor
  · intro h
    rcases h with ⟨_, _, entries, small, accepted, _⟩
    exact fits_of_accepted accepted small
  · intro fits
    have small : ring.keys.toList.length ≤ maxEntryCount := by
      rw [Std.ExtTreeMap.length_toList]
      exact fits.1
    exact ⟨rfl, allowed, ring.keys.toList, small, accepted_toList kept fits, written⟩

theorem bodyBytes_injective {protection : KeyProtection} {quarantined : Bool}
    {first second : UInt32} {firstSigners secondSigners : List UInt8}
    (same : bodyBytes protection quarantined first firstSigners =
      bodyBytes protection quarantined second secondSigners) :
    first = second ∧ firstSigners = secondSigners := by
  have parts := List.append_cancel_left same
  simp only [List.cons.injEq, true_and] at parts
  rcases List.append_inj parts (by simp [putU32]) with ⟨counts, signers⟩
  have numbers := leBytes_injective (by have := first.toNat_lt; omega)
    (by have := second.toNat_lt; omega) counts
  exact ⟨UInt32.toNat_inj.mp numbers, signers⟩

/-- Two lists of signers within the limits have different files. -/
theorem fileBytes_injective (inverse : host.Inverse) {protection : KeyProtection}
    {quarantined : Bool} {first second : List (String × List (KeyVersion E))} {bytes : List UInt8}
    (firstFits : ∀ entry ∈ first, EntryFits entry) (firstFew : first.length ≤ maxEntryCount)
    (secondFits : ∀ entry ∈ second, EntryFits entry) (secondFew : second.length ≤ maxEntryCount)
    (firstFile : fileBytes host protection quarantined first = .ok bytes)
    (secondFile : fileBytes host protection quarantined second = .ok bytes) : first = second := by
  rcases fileBytes_eq_ok.mp firstFile with ⟨signers, sealed, written, checksum, split⟩
  rcases fileBytes_eq_ok.mp secondFile with ⟨signers', sealed', written', checksum', split'⟩
  have bodies : ∀ {body sealed : List UInt8}, sealChecksum host protection body = .ok sealed →
      56 ≤ (body ++ (sealed ++ putU32 (UInt32.ofNat sealed.length))).length →
      splitFile (body ++ (sealed ++ putU32 (UInt32.ofNat sealed.length))) = .ok (body, sealed) := by
    intro body sealed checksum long
    have sealedLength := sealChecksum_length inverse checksum
    refine splitFile_eq_ok.mpr ⟨rfl, ?_, sealedLength.2, long⟩
    intro empty
    rw [empty] at sealedLength
    simp at sealedLength
  have long : 56 ≤ bytes.length := by
    have sealedLength := sealChecksum_length inverse checksum
    have magic : fileMagic.length = 16 := rfl
    rw [split]
    simp only [bodyBytes, List.length_append, List.length_cons, putU32, length_leBytes, magic]
    omega
  have one := bodies checksum (by rw [← split]; exact long)
  have two := bodies checksum' (by rw [← split']; exact long)
  rw [← split] at one
  rw [← split', one, Except.ok.injEq, Prod.mk.injEq] at two
  rcases bodyBytes_injective two.1 with ⟨counts, same⟩
  have lengths : first.length = second.length := by
    rw [← toNat_ofNat_count firstFew, ← toNat_ofNat_count secondFew, counts]
  have readFirst : Reader.many (readSigner E host protection) first.length (signers ++ []) =
      .ok (first, []) :=
    Reader.many_complete (fun entry member bytes rest put => (readSigner_eq_ok inverse).mpr
      ⟨firstFits entry member, bytes, put, rfl⟩) written []
  have readSecond : Reader.many (readSigner E host protection) second.length (signers' ++ []) =
      .ok (second, []) :=
    Reader.many_complete (fun entry member bytes rest put => (readSigner_eq_ok inverse).mpr
      ⟨secondFits entry member, bytes, put, rfl⟩) written' []
  rw [lengths, same, readSecond, Except.ok.injEq, Prod.mk.injEq] at readFirst
  exact readFirst.1.symm

theorem save_load_iff (inverse : host.Inverse) {path : String} {plaintextPolicy : PlaintextPolicy}
    {bytes : List UInt8} {ring : PersistentKeyring E}
    (loaded : load host path plaintextPolicy bytes = .ok ring) :
    ∃ entries : List (String × List (KeyVersion E)),
      fileBytes host ring.protection ring.quarantined entries = .ok bytes ∧
      (save host ring = .ok bytes ↔ Ascending entries) := by
  rcases (load_eq_ok inverse).mp loaded with ⟨_, allowed, entries, small, accepted, file⟩
  refine ⟨entries, file, ?_⟩
  have sorted := OrderedMap.toList_insertMany_eq_iff accepted.distinct
  rw [← accepted.result_eq] at sorted
  rw [Ascending, ← sorted]
  constructor
  · intro saved
    have listed : ∀ entry ∈ ring.keys.toList, EntryFits entry := by
      intro entry member
      rw [accepted.result_eq, OrderedMap.mem_toList_insertMany accepted.distinct] at member
      exact accepted.fits entry member
    have few : ring.keys.toList.length ≤ maxEntryCount := by
      rw [Std.ExtTreeMap.length_toList]
      exact (fits_of_accepted accepted small).1
    exact fileBytes_injective inverse listed few accepted.fits small saved file
  · intro same
    rw [save, same]
    exact file

/-- Saving and loading a keyring that the public interface built gives it back exactly when
its file can carry it; and a byte string that `load` accepts is the one `save` writes for the
result exactly when it lists its signers in ascending order. -/
theorem keyring_file_faithful_iff (inverse : host.Inverse) {path : String}
    {protection : KeyProtection} {plaintextPolicy : PlaintextPolicy} {start : PersistentKeyring E}
    (created : PersistentKeyring.new host.platform path protection plaintextPolicy = .ok start)
    (ops : List (Op E)) :
    (∀ saved, save host (run start ops) = .ok saved →
      (load host path plaintextPolicy saved = .ok (run start ops) ↔ Fits (run start ops))) ∧
    ∀ (otherPath : String) (policy : PlaintextPolicy) (bytes : List UInt8)
      (ring : PersistentKeyring E), load host otherPath policy bytes = .ok ring →
      ∃ entries : List (String × List (KeyVersion E)),
        fileBytes host ring.protection ring.quarantined entries = .ok bytes ∧
        (save host ring = .ok bytes ↔ Ascending entries) := by
  rcases new_ok created with ⟨allowed, isStart⟩
  have kept : Kept (run start ops) := by
    refine Trace.invariant Kept ?_ step_kept ops
    intro signerId versions found
    simp [isStart] at found
  have unchanged : (run start ops).path = path ∧ (run start ops).protection = protection := by
    refine Trace.invariant (fun ring : PersistentKeyring E =>
      ring.path = path ∧ ring.protection = protection) (by simp [isStart]) ?_ ops
    intro ring op same
    rw [(step_path_protection ring op).1, (step_path_protection ring op).2]
    exact same
  constructor
  · intro saved written
    rw [← unchanged.2] at allowed
    have trip := load_save_iff inverse kept allowed written
    rw [unchanged.1] at trip
    exact trip
  · intro otherPath policy bytes ring loaded
    exact save_load_iff inverse loaded

/-- A host for the plaintext grade; its BLAKE3 is right on the body of the file below. -/
def plaintextHost : Host where
  platform := .linux
  blake3 _ := [84, 54, 75, 75, 92, 253, 3, 55, 136, 243, 220, 146, 142, 180, 2, 52,
    22, 19, 253, 112, 229, 67, 70, 247, 168, 181, 162, 223, 51, 149, 248, 193]
  length_blake3 _ := rfl
  osProtect _ plain := if plain.length = 32 then .ok plain else .error .unsupportedPlatform
  osUnprotect _ sealed := if sealed.length = 32 then .ok sealed else .error .unsupportedPlatform

theorem plaintextHost_inverse : plaintextHost.Inverse := by
  refine ⟨?_, ?_, ?_⟩
  · intro label plain sealed ok
    simp only [plaintextHost] at ok ⊢
    split at ok
    · rw [Except.ok.injEq] at ok
      rw [← ok, if_pos (by assumption)]
    · cases ok
  · intro label plain sealed ok
    simp only [plaintextHost] at ok ⊢
    split at ok
    · rw [Except.ok.injEq] at ok
      rw [← ok, if_pos (by assumption)]
    · cases ok
  · intro label plain sealed length ok
    simp only [plaintextHost, length, if_true, Except.ok.injEq] at ok
    rw [← ok, length]
    decide

def rotatedLateStart : PersistentKeyring sampleEd25519 :=
  { path := "keyring", protection := .k0Plaintext, quarantined := false, keys := ∅ }

/-- A rotation so close to the end of time that the grace period saturates. -/
def rotatedLate : List (Op sampleEd25519) :=
  [.insertPrivate "node" sampleFirst, .rotate "node" sampleSecond 18446744073709551000]

theorem rotated_late_file_faithful_iff :
    (∀ saved, save plaintextHost (run rotatedLateStart rotatedLate) = .ok saved →
      (load plaintextHost "keyring" .allow saved = .ok (run rotatedLateStart rotatedLate) ↔
        Fits (run rotatedLateStart rotatedLate))) ∧
    ∀ (otherPath : String) (policy : PlaintextPolicy) (bytes : List UInt8)
      (ring : PersistentKeyring sampleEd25519),
      load plaintextHost otherPath policy bytes = .ok ring →
      ∃ entries : List (String × List (KeyVersion sampleEd25519)),
        fileBytes plaintextHost ring.protection ring.quarantined entries = .ok bytes ∧
        (save plaintextHost ring = .ok bytes ↔ Ascending entries) :=
  keyring_file_faithful_iff plaintextHost_inverse
    (show PersistentKeyring.new plaintextHost.platform "keyring" .k0Plaintext .allow =
      .ok rotatedLateStart from rfl) rotatedLate

/-- The old key's validity ends at the largest time, which the file reads back as no end. -/
theorem rotated_late_not_reloaded :
    PersistentKeyring.new plaintextHost.platform "keyring" .k0Plaintext .allow =
      .ok rotatedLateStart ∧
    ∃ saved, save plaintextHost (run rotatedLateStart rotatedLate) = .ok saved ∧
      load plaintextHost "keyring" .allow saved ≠ .ok (run rotatedLateStart rotatedLate) := by
  refine ⟨rfl, _, rfl, fun loaded => ?_⟩
  rcases (load_eq_ok plaintextHost_inverse).mp loaded with ⟨_, _, entries, small, accepted, _⟩
  have fits := (fits_of_accepted accepted small).2 "node" _ rfl
  exact fits.2 _ (List.mem_cons_self) rfl

end Gputeer.Keyring
