import Gputeer.Lib.Bytes
import Gputeer.Lib.Reader
import Gputeer.Crypto.Keyring

/-! The keyring file: the bytes `save` writes and the reader behind `load`. The file system is
left out; `save` returns the bytes it writes and `load` starts from the bytes it read. -/

namespace Gputeer.Keyring

variable {E : Ed25519}

open Bytes

/-- The bytes of `GPUTEER-KEYRING` and a zero byte. -/
def fileMagic : List UInt8 := [71, 80, 85, 84, 69, 69, 82, 45, 75, 69, 89, 82, 73, 78, 71, 0]
def fileVersion : UInt8 := 2
def maxEntryCount : Nat := 4096
def maxBlobBytes : Nat := 1024 * 1024
def fileMacLabel : String := "gputeer-keyring-file-mac"

/-- What the keyring asks of its host: the target it was built for, BLAKE3, and the
operating system's sealing of a byte string under a name. -/
structure Host where
  platform : Platform
  blake3 : List UInt8 → List UInt8
  length_blake3 : ∀ body, (blake3 body).length = 32
  osProtect : String → List UInt8 → Except KeyringError (List UInt8)
  osUnprotect : String → List UInt8 → Except KeyringError (List UInt8)

/-- Sealing and unsealing are inverse to each other, and a sealed 32-byte value is neither
shorter than the value nor larger than a blob may be. -/
structure Host.Inverse (host : Host) : Prop where
  unprotect_protect : ∀ {label plain sealed},
    host.osProtect label plain = .ok sealed → host.osUnprotect label sealed = .ok plain
  protect_unprotect : ∀ {label plain sealed},
    host.osUnprotect label sealed = .ok plain → host.osProtect label plain = .ok sealed
  length_sealed : ∀ {label plain sealed}, plain.length = 32 →
    host.osProtect label plain = .ok sealed → 32 ≤ sealed.length ∧ sealed.length ≤ maxBlobBytes

def KeyProtection.toByte : KeyProtection → UInt8
  | .k0Plaintext => 1
  | .k1OsProtected => 2
  | .k2HardwareBacked => 3

def KeyProtection.fromByte (value : UInt8) : Except KeyringError KeyProtection :=
  if value = 1 then .ok .k0Plaintext
  else if value = 2 then .ok .k1OsProtected
  else if value = 3 then .ok .k2HardwareBacked
  else .error (.corruptFile "알 수 없는 키 보관 등급")

def sealChecksum (host : Host) (protection : KeyProtection) (body : List UInt8) :
    Except KeyringError (List UInt8) :=
  match protection with
  | .k0Plaintext => .ok (host.blake3 body)
  | .k1OsProtected => host.osProtect fileMacLabel (host.blake3 body)
  | .k2HardwareBacked => .error (.unsupportedProtection protection)

def unsealChecksum (host : Host) (protection : KeyProtection) (sealed : List UInt8) :
    Except KeyringError (List UInt8) :=
  match protection with
  | .k0Plaintext => .ok sealed
  | .k1OsProtected => host.osUnprotect fileMacLabel sealed
  | .k2HardwareBacked => .error (.unsupportedProtection protection)

def verifySealedChecksum (host : Host) (protection : KeyProtection) (body sealed : List UInt8) :
    Except KeyringError Unit := do
  let actual ← unsealChecksum host protection sealed
  if actual ≠ host.blake3 body then .error (.corruptFile "checksum이 일치하지 않는다") else .ok ()

def protectPrivateKey (host : Host) (protection : KeyProtection) (signerId : String)
    (privateKey : SigningKey) : Except KeyringError (List UInt8) :=
  match protection with
  | .k0Plaintext => .ok privateKey.bytes
  | .k1OsProtected => host.osProtect signerId privateKey.bytes
  | .k2HardwareBacked => .error (.unsupportedProtection protection)

def unprotectPrivateKey (host : Host) (protection : KeyProtection) (signerId : String)
    (encrypted : List UInt8) : Except KeyringError (List UInt8) :=
  if encrypted.length > maxBlobBytes then .error (.corruptFile "개인키 blob이 너무 크다")
  else
    match protection with
    | .k0Plaintext => .ok encrypted
    | .k1OsProtected => host.osUnprotect signerId encrypted
    | .k2HardwareBacked => .error (.unsupportedProtection protection)

def putU32 (value : UInt32) : List UInt8 := leBytes 4 value.toNat

def putU64 (value : UInt64) : List UInt8 := leBytes 8 value.toNat

def putBlob (value : List UInt8) : Except KeyringError (List UInt8) :=
  if value.length > maxBlobBytes ∨ value.length > 2 ^ 32 - 1 then
    .error (.invalidState "저장할 blob이 너무 크다")
  else .ok (putU32 (UInt32.ofNat value.length) ++ value)

def putString (value : String) : Except KeyringError (List UInt8) :=
  if value.utf8ByteSize > maxSignerIdBytes then .error .invalidSignerId
  else putBlob (utf8 value)

def KeyState.toByte : KeyState → UInt8
  | .active => 0
  | .revoked => 1

def privateBlob (host : Host) (protection : KeyProtection) (signerId : String) :
    Option SigningKey → Except KeyringError (List UInt8)
  | some privateKey => protectPrivateKey host protection signerId privateKey
  | none => .ok []

def putVersion (host : Host) (protection : KeyProtection) (signerId : String)
    (version : KeyVersion E) : Except KeyringError (List UInt8) := do
  let stored ← privateBlob host protection signerId version.privateKey
  let blob ← putBlob stored
  return putU64 version.validFromMs ++ (putU64 (version.validUntilMs.getD UInt64.maxValue) ++
    (version.state.toByte :: (version.publicKey.bytes ++ blob)))

def putSigner (host : Host) (protection : KeyProtection)
    (entry : String × List (KeyVersion E)) : Except KeyringError (List UInt8) := do
  let signerId ← putString entry.1
  let versions ← Reader.writeAll (putVersion host protection entry.1) entry.2
  -- the count is a truncating cast in the source
  return signerId ++ (putU32 (UInt32.ofNat entry.2.length) ++ versions)

def bodyBytes (protection : KeyProtection) (quarantined : Bool) (signerCount : UInt32)
    (signers : List UInt8) : List UInt8 :=
  fileMagic ++ (fileVersion :: protection.toByte :: (if quarantined then 1 else 0) :: 0 ::
    (putU32 signerCount ++ signers))

/-- The file for a list of signers in the order given. -/
def fileBytes (host : Host) (protection : KeyProtection) (quarantined : Bool)
    (entries : List (String × List (KeyVersion E))) : Except KeyringError (List UInt8) := do
  let signers ← Reader.writeAll (putSigner host protection) entries
  let body := bodyBytes protection quarantined (UInt32.ofNat entries.length) signers
  let sealed ← sealChecksum host protection body
  return body ++ (sealed ++ putU32 (UInt32.ofNat sealed.length))

/-- The map iterates its signers in ascending order. -/
def save (host : Host) (ring : PersistentKeyring E) : Except KeyringError (List UInt8) :=
  fileBytes host ring.protection ring.quarantined ring.keys.toList

abbrev FileReader (α : Type) := Reader KeyringError α

def takeBytes (length : Nat) : FileReader (List UInt8) :=
  Reader.take (.corruptFile "파일이 중간에 끝났다") length

def readU8 : FileReader UInt8 := do
  let bytes ← takeBytes 1
  return bytes.headD 0

def readU32 : FileReader UInt32 := do
  let bytes ← takeBytes 4
  return UInt32.ofNat (leNat bytes)

def readU64 : FileReader UInt64 := do
  let bytes ← takeBytes 8
  return UInt64.ofNat (leNat bytes)

def checkBlobLength (length : UInt32) : Except KeyringError Unit :=
  if length.toNat > maxBlobBytes then .error (.corruptFile "blob이 너무 크다") else .ok ()

def readBlob : FileReader (List UInt8) := do
  let length ← readU32
  Reader.lift (checkBlobLength length)
  takeBytes length.toNat

def decodeString (bytes : List UInt8) : Except KeyringError String :=
  match String.fromUTF8? ⟨bytes.toArray⟩ with
  | some value => .ok value
  | none => .error (.corruptFile "signer_id가 UTF-8이 아니다")

def readString : FileReader String := do
  let bytes ← readBlob
  Reader.lift (decodeString bytes)

def decodeValidUntil (validFromMs validUntilRaw : UInt64) : Except KeyringError (Option UInt64) :=
  if validUntilRaw = UInt64.maxValue then .ok none
  else if validUntilRaw ≤ validFromMs then .error (.corruptFile "키 유효기간이 역전되었다")
  else .ok (some validUntilRaw)

def KeyState.fromByte (value : UInt8) : Except KeyringError KeyState :=
  if value = 0 then .ok .active
  else if value = 1 then .ok .revoked
  else .error (.corruptFile "키 상태가 잘못되었다")

def decodePublic (E : Ed25519) (bytes : List UInt8) : Except KeyringError (VerifyingKey E) :=
  match VerifyingKey.fromBytes E bytes with
  | some publicKey => .ok publicKey
  | none => .error (.corruptFile "공개키가 유효하지 않다")

theorem no_private_key (publicKey : VerifyingKey E) :
    ∀ k ∈ (none : Option SigningKey), k.verifyingKey E = publicKey := by simp

/-- The private key of an entry, with the evidence that it belongs to the public one. -/
def decodePrivate (host : Host) (protection : KeyProtection) (signerId : String)
    (publicKey : VerifyingKey E) (encryptedPrivate : List UInt8) :
    Except KeyringError
      { key : Option SigningKey // ∀ k ∈ key, k.verifyingKey E = publicKey } := do
  if encryptedPrivate = [] then
    .ok ⟨none, no_private_key publicKey⟩
  else
    let rawPrivate ← unprotectPrivateKey host protection signerId encryptedPrivate
    if length : rawPrivate.length = 32 then
      let privateKey : SigningKey := ⟨rawPrivate, length⟩
      if same : privateKey.verifyingKey E = publicKey then
        .ok ⟨some privateKey, by simpa using same⟩
      else .error (.corruptFile "개인키와 공개키가 서로 일치하지 않는다")
    else .error (.corruptFile "개인키 길이가 잘못되었다")

def readVersion (E : Ed25519) (host : Host) (protection : KeyProtection) (signerId : String) :
    FileReader (KeyVersion E) := do
  let validFromMs ← readU64
  let validUntilRaw ← readU64
  let validUntilMs ← Reader.lift (decodeValidUntil validFromMs validUntilRaw)
  let stateByte ← readU8
  let state ← Reader.lift (KeyState.fromByte stateByte)
  let publicBytes ← takeBytes 32
  let publicKey ← Reader.lift (decodePublic E publicBytes)
  let encryptedPrivate ← readBlob
  let privateKey ← Reader.lift
    (decodePrivate host protection signerId publicKey encryptedPrivate)
  return { publicKey, privateKey := privateKey.1, state, validFromMs, validUntilMs,
           privateKey_matches := privateKey.2 }

def checkSignerId (signerId : String) : Except KeyringError Unit :=
  if signerId.isEmpty ∨ signerId.utf8ByteSize > maxSignerIdBytes then
    .error (.corruptFile "signer_id 길이가 잘못되었다")
  else .ok ()

def checkVersionCount (versionCount : UInt32) : Except KeyringError Unit :=
  if versionCount.toNat = 0 ∨ versionCount.toNat > maxEntryCount then
    .error (.corruptFile "키 버전 수가 잘못되었다")
  else .ok ()

def readSigner (E : Ed25519) (host : Host) (protection : KeyProtection) :
    FileReader (String × List (KeyVersion E)) := do
  let signerId ← readString
  Reader.lift (checkSignerId signerId)
  let versionCount ← readU32
  Reader.lift (checkVersionCount versionCount)
  let versions ← Reader.many (readVersion E host protection signerId) versionCount.toNat
  return (signerId, versions)

def insertSigner (keys : Std.ExtTreeMap String (List (KeyVersion E)))
    (entry : String × List (KeyVersion E)) :
    Except KeyringError (Std.ExtTreeMap String (List (KeyVersion E))) :=
  if keys.contains entry.1 then .error (.corruptFile "signer_id가 중복되었다")
  else .ok (keys.insert entry.1 entry.2)

def readSigners (host : Host) (protection : KeyProtection) :
    Nat → Std.ExtTreeMap String (List (KeyVersion E)) →
      FileReader (Std.ExtTreeMap String (List (KeyVersion E)))
  | 0, keys => pure keys
  | count + 1, keys => do
      let entry ← readSigner E host protection
      let keys ← Reader.lift (insertSigner keys entry)
      readSigners host protection count keys

def checkMagic (magic : List UInt8) : Except KeyringError Unit :=
  if magic ≠ fileMagic then .error (.corruptFile "파일 magic이 다르다") else .ok ()

def checkVersion (version : UInt8) : Except KeyringError Unit :=
  if version ≠ fileVersion then
    .error (.corruptFile
      "지원하지 않는 파일 버전이다 — v1 은 봉인되지 않은 체크섬을 써서 위조를 막지 못한다")
  else .ok ()

def decodeQuarantined (value : UInt8) : Except KeyringError Bool :=
  if value = 0 then .ok false
  else if value = 1 then .ok true
  else .error (.corruptFile "quarantine 플래그가 잘못되었다")

def checkReserved (value : UInt8) : Except KeyringError Unit :=
  if value ≠ 0 then .error (.corruptFile "예약 필드가 0이 아니다") else .ok ()

def checkSignerCount (signerCount : UInt32) : Except KeyringError Unit :=
  if signerCount.toNat > maxEntryCount then .error (.corruptFile "서명자 수가 상한을 넘었다")
  else .ok ()

def readBody (host : Host) (path : String) (plaintextPolicy : PlaintextPolicy) :
    FileReader (PersistentKeyring E) := do
  let magic ← takeBytes fileMagic.length
  Reader.lift (checkMagic magic)
  let version ← readU8
  Reader.lift (checkVersion version)
  let protectionByte ← readU8
  let protection ← Reader.lift (KeyProtection.fromByte protectionByte)
  Reader.lift (ensureProtection host.platform protection plaintextPolicy)
  let quarantinedByte ← readU8
  let quarantined ← Reader.lift (decodeQuarantined quarantinedByte)
  let reserved ← readU8
  Reader.lift (checkReserved reserved)
  let signerCount ← readU32
  Reader.lift (checkSignerCount signerCount)
  let keys ← readSigners host protection signerCount.toNat ∅
  return { path, protection, quarantined, keys }

/-- The body and the sealed checksum of a file, found from the length in its last bytes. -/
def splitFile (bytes : List UInt8) : Except KeyringError (List UInt8 × List UInt8) :=
  if bytes.length < fileMagic.length + 1 + 1 + 1 + 1 + 4 + 32 then
    .error (.corruptFile "파일 길이가 너무 짧다")
  else
    let tailLenAt := bytes.length - 4
    let sealedLen := (UInt32.ofNat (leNat (bytes.drop tailLenAt))).toNat
    if sealedLen = 0 ∨ sealedLen > maxBlobBytes then
      .error (.corruptFile "checksum 길이가 범위를 벗어났다")
    else if tailLenAt < sealedLen then
      .error (.corruptFile "checksum 위치가 없다")
    else
      .ok (bytes.take (tailLenAt - sealedLen), (bytes.drop (tailLenAt - sealedLen)).take sealedLen)

def checkRemaining (rest : List UInt8) : Except KeyringError Unit :=
  if rest ≠ [] then .error (.corruptFile "예상하지 않은 데이터가 뒤에 남았다") else .ok ()

def load (host : Host) (path : String) (plaintextPolicy : PlaintextPolicy) (bytes : List UInt8) :
    Except KeyringError (PersistentKeyring E) := do
  let (body, sealed) ← splitFile bytes
  -- the claimed grade is read before the checksum is verified
  let claimedProtection ← KeyProtection.fromByte (bytes.getD (fileMagic.length + 1) 0)
  ensureProtection host.platform claimedProtection plaintextPolicy
  verifySealedChecksum host claimedProtection body sealed
  let (ring, rest) ← (readBody host path plaintextPolicy : FileReader (PersistentKeyring E)) body
  checkRemaining rest
  return ring

end Gputeer.Keyring
