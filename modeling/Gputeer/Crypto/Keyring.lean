import Mathlib
import Gputeer.Lib.Word
import Gputeer.Lib.Trace

/-! The persistent keyring: its key versions, its state-changing operations and the
directory a verifier reads at a given time. -/

namespace Gputeer.Keyring

def rotationGracePeriodMs : UInt64 := 24 * 60 * 60 * 1000
def maxSignerIdBytes : Nat := 16 * 1024

inductive KeyProtection where
  | k0Plaintext
  | k1OsProtected
  | k2HardwareBacked
  deriving DecidableEq, Repr

inductive PlaintextPolicy where
  | reject
  | allow
  deriving DecidableEq, Repr

inductive KeyDirectoryStatus where
  | unregistered
  | active
  | revoked
  | quarantined
  deriving DecidableEq, Repr

inductive KeyState where
  | active
  | revoked
  deriving DecidableEq, Repr

/-- The compile-time target; only the first two have an operating-system key store. -/
inductive Platform where
  | windows
  | linux
  | other
  deriving DecidableEq, Repr

inductive KeyringError where
  | io (detail : String)
  | corruptFile (reason : String)
  | invalidSignerId
  | duplicateSigner
  | missingSigner
  | invalidState (reason : String)
  | unsupportedProtection (protection : KeyProtection)
  | unsupportedPlatform
  | osProtectionFailed (detail : String)
  deriving DecidableEq, Repr

structure SigningKey where
  bytes : List UInt8
  length_bytes : bytes.length = 32
  deriving DecidableEq

/-- The signature scheme as far as the keyring sees it: which 32-byte strings decode to
a curve point, and the public key of a private one. -/
structure Ed25519 where
  decompresses : List UInt8 → Bool
  publicBytes : SigningKey → List UInt8
  length_publicBytes : ∀ key, (publicBytes key).length = 32
  decompresses_publicBytes : ∀ key, decompresses (publicBytes key) = true

structure VerifyingKey (E : Ed25519) where
  bytes : List UInt8
  length_bytes : bytes.length = 32
  decompresses : E.decompresses bytes = true
  deriving DecidableEq

variable {E : Ed25519}

def VerifyingKey.fromBytes (E : Ed25519) (bytes : List UInt8) : Option (VerifyingKey E) :=
  if h : bytes.length = 32 ∧ E.decompresses bytes = true then some ⟨bytes, h.1, h.2⟩ else none

def SigningKey.verifyingKey (E : Ed25519) (key : SigningKey) : VerifyingKey E :=
  ⟨E.publicBytes key, E.length_publicBytes key, E.decompresses_publicBytes key⟩

/-- Every constructor of a version derives the public key from the private one, and the
reader refuses a pair that disagrees. -/
structure KeyVersion (E : Ed25519) where
  publicKey : VerifyingKey E
  privateKey : Option SigningKey
  state : KeyState
  validFromMs : UInt64
  validUntilMs : Option UInt64
  privateKey_matches : ∀ key ∈ privateKey, key.verifyingKey E = publicKey
  deriving DecidableEq

structure PersistentKeyring (E : Ed25519) where
  path : String
  protection : KeyProtection
  quarantined : Bool
  keys : Std.ExtTreeMap String (List (KeyVersion E))

def ensureProtection (platform : Platform) (protection : KeyProtection)
    (plaintextPolicy : PlaintextPolicy) : Except KeyringError Unit :=
  match protection with
  | .k0Plaintext =>
      if plaintextPolicy = .reject then .error (.unsupportedProtection protection) else .ok ()
  | .k1OsProtected =>
      match platform with
      | .windows | .linux => .ok ()
      | .other => .error .unsupportedPlatform
  | .k2HardwareBacked => .error (.unsupportedProtection protection)

def validateSignerId (signerId : String) : Except KeyringError Unit :=
  if signerId.isEmpty ∨ signerId.utf8ByteSize > maxSignerIdBytes then .error .invalidSignerId
  else .ok ()

def versionIsValid (version : KeyVersion E) (nowMs : UInt64) : Bool :=
  version.state == .active && decide (version.validFromMs ≤ nowMs) &&
    version.validUntilMs.all (fun untilMs => decide (nowMs < untilMs))

namespace PersistentKeyring

def new (platform : Platform) (path : String) (protection : KeyProtection)
    (plaintextPolicy : PlaintextPolicy) : Except KeyringError (PersistentKeyring E) := do
  ensureProtection platform protection plaintextPolicy
  return { path, protection, quarantined := false, keys := ∅ }

def versions (ring : PersistentKeyring E) (signerId : String) : List (KeyVersion E) :=
  ring.keys[signerId]?.getD []

/-- The common tail of the two insertions: a new signer with one open-ended version. -/
def insertVersion (ring : PersistentKeyring E) (signerId : String) (version : KeyVersion E) :
    Except KeyringError (PersistentKeyring E) := do
  validateSignerId signerId
  if ring.keys.contains signerId then
    throw .duplicateSigner
  return { ring with keys := ring.keys.insert signerId [version] }

def insertPrivate (ring : PersistentKeyring E) (signerId : String) (key : SigningKey) :
    Except KeyringError (PersistentKeyring E) :=
  ring.insertVersion signerId
    { publicKey := key.verifyingKey E
      privateKey := some key
      state := .active
      validFromMs := 0
      validUntilMs := none
      privateKey_matches := by simp }

def insertPublic (ring : PersistentKeyring E) (signerId : String) (key : VerifyingKey E) :
    Except KeyringError (PersistentKeyring E) :=
  ring.insertVersion signerId
    { publicKey := key
      privateKey := none
      state := .active
      validFromMs := 0
      validUntilMs := none
      privateKey_matches := by simp }

def revokeVersion (version : KeyVersion E) : KeyVersion E :=
  { version with state := .revoked }

def revoke (ring : PersistentKeyring E) (signerId : String) :
    Except KeyringError (PersistentKeyring E × Bool) :=
  match ring.keys[signerId]? with
  | none => .error .missingSigner
  | some versions =>
      .ok ({ ring with
              keys := ring.keys.insert signerId (versions.map revokeVersion) },
        versions.any (·.state != .revoked))

def quarantine (ring : PersistentKeyring E) (signerId : String) :
    Except KeyringError (PersistentKeyring E × Bool) :=
  if ring.keys.contains signerId then .ok ({ ring with quarantined := true }, !ring.quarantined)
  else .error .missingSigner

def releaseQuarantine (ring : PersistentKeyring E) (signerId : String) :
    Except KeyringError (PersistentKeyring E × Bool) :=
  if ring.keys.contains signerId then .ok ({ ring with quarantined := false }, ring.quarantined)
  else .error .missingSigner

def statusAt (ring : PersistentKeyring E) (signerId : String) (nowMs : UInt64) :
    KeyDirectoryStatus :=
  match ring.keys[signerId]? with
  | none => .unregistered
  | some versions =>
      if ring.quarantined then .quarantined
      else if versions.any (versionIsValid · nowMs) then .active
      else .revoked

/-- What a rotation does to a version that is already there. -/
def supersede (nowMs : UInt64) (version : KeyVersion E) : KeyVersion E :=
  if versionIsValid version nowMs then
    { version with validUntilMs := some (nowMs.saturatingAdd rotationGracePeriodMs) }
  else version

/-- The version a rotation appends. -/
def successor (E : Ed25519) (newPrivate : SigningKey) (nowMs : UInt64) : KeyVersion E :=
  { publicKey := newPrivate.verifyingKey E
    privateKey := some newPrivate
    state := .active
    validFromMs := nowMs
    validUntilMs := none
    privateKey_matches := by simp }

def rotate (ring : PersistentKeyring E) (signerId : String) (newPrivate : SigningKey)
    (nowMs : UInt64) : Except KeyringError (PersistentKeyring E) :=
  if ring.statusAt signerId nowMs ≠ .active then
    .error (.invalidState "활성 키가 있는 서명자만 회전할 수 있다")
  else
    match ring.keys[signerId]? with
    | none => .error .missingSigner
    | some versions =>
        if versions.any (·.publicKey == newPrivate.verifyingKey E) then
          .error (.invalidState "새 키가 기존 키와 같다")
        else
          .ok { ring with
                keys := ring.keys.insert signerId
                  (versions.map (supersede nowMs) ++ [successor E newPrivate nowMs]) }

def lookupCandidates (ring : PersistentKeyring E) (nowMs : UInt64) (signerId : String) :
    List (VerifyingKey E) :=
  if ring.quarantined then []
  else ((ring.versions signerId).filter (versionIsValid · nowMs)).map (·.publicKey)

def lookupRetired (ring : PersistentKeyring E) (nowMs : UInt64) (signerId : String) :
    List (VerifyingKey E) :=
  if ring.quarantined then []
  else ((ring.versions signerId).filter (!versionIsValid · nowMs)).map (·.publicKey)

def lookup (ring : PersistentKeyring E) (nowMs : UInt64) (signerId : String) :
    Option (VerifyingKey E) :=
  (ring.lookupCandidates nowMs signerId).head?

end PersistentKeyring

/-- One call of the public interface that can change a keyring. -/
inductive Op (E : Ed25519) where
  | insertPrivate (signerId : String) (key : SigningKey)
  | insertPublic (signerId : String) (key : VerifyingKey E)
  | revoke (signerId : String)
  | quarantine (signerId : String)
  | releaseQuarantine (signerId : String)
  | rotate (signerId : String) (newPrivate : SigningKey) (nowMs : UInt64)

def apply (ring : PersistentKeyring E) : Op E → Except KeyringError (PersistentKeyring E)
  | .insertPrivate signerId key => ring.insertPrivate signerId key
  | .insertPublic signerId key => ring.insertPublic signerId key
  | .revoke signerId => Prod.fst <$> ring.revoke signerId
  | .quarantine signerId => Prod.fst <$> ring.quarantine signerId
  | .releaseQuarantine signerId => Prod.fst <$> ring.releaseQuarantine signerId
  | .rotate signerId newPrivate nowMs => ring.rotate signerId newPrivate nowMs

/-- A refused call leaves the keyring as it was. -/
def step (ring : PersistentKeyring E) (op : Op E) : PersistentKeyring E :=
  match apply ring op with
  | .ok next => next
  | .error _ => ring

abbrev run (ring : PersistentKeyring E) (ops : List (Op E)) : PersistentKeyring E :=
  Trace.run step ring ops

def sampleFirst : SigningKey :=
  ⟨[157, 97, 177, 157, 239, 253, 90, 96, 186, 132, 74, 244, 146, 236, 44, 196,
    68, 73, 197, 105, 123, 50, 105, 25, 112, 59, 172, 3, 28, 174, 127, 96], rfl⟩

def sampleFirstPublic : List UInt8 :=
   [215, 90, 152, 1, 130, 177, 10, 183, 213, 75, 254, 211, 201, 100, 7, 58,
    14, 225, 114, 243, 218, 166, 35, 37, 175, 2, 26, 104, 247, 7, 81, 26]

def sampleSecond : SigningKey :=
  ⟨[76, 205, 8, 155, 40, 255, 150, 218, 157, 182, 195, 70, 236, 17, 78, 15,
    91, 138, 49, 159, 53, 171, 166, 36, 218, 140, 246, 237, 79, 184, 166, 251], rfl⟩

def sampleSecondPublic : List UInt8 :=
   [61, 64, 23, 195, 232, 67, 137, 90, 146, 183, 10, 167, 77, 27, 126, 188,
    156, 152, 44, 207, 46, 196, 150, 140, 192, 205, 85, 241, 42, 244, 102, 12]

def sampleThird : SigningKey :=
  ⟨[197, 170, 141, 244, 63, 159, 131, 123, 237, 183, 68, 47, 49, 220, 183, 177,
    102, 211, 133, 53, 7, 111, 9, 75, 133, 206, 58, 46, 11, 68, 88, 247], rfl⟩

def sampleThirdPublic : List UInt8 :=
   [252, 81, 205, 142, 98, 24, 161, 163, 141, 164, 126, 208, 2, 48, 240, 88,
    8, 22, 237, 19, 186, 51, 3, 172, 93, 235, 145, 21, 72, 144, 128, 37]

/-- Ed25519 restricted to three key pairs: on these seeds it is the real derivation, and it
knows no other point. -/
def sampleEd25519 : Ed25519 where
  decompresses bytes :=
    bytes == sampleFirstPublic || bytes == sampleSecondPublic || bytes == sampleThirdPublic
  publicBytes key :=
    if key = sampleSecond then sampleSecondPublic
    else if key = sampleThird then sampleThirdPublic
    else sampleFirstPublic
  length_publicBytes key := by
    split
    · rfl
    · split <;> rfl
  decompresses_publicBytes key := by
    split
    · decide
    · split <;> decide

end Gputeer.Keyring
