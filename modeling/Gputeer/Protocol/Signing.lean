import Gputeer.Lib.Word
import Gputeer.Lib.Except
import Gputeer.Protocol.Domain
import Gputeer.Protocol.ToFields

/-! Verification of a signed message: schema version, signature, derived hashes, times, and for a
short-lived message the replay guard last. -/

namespace Gputeer.Protocol

def clockSkewToleranceMs : UInt64 := 60000
def maxShortlivedTtlMs : UInt64 := 15 * 60 * 1000
def knownSchemaVersion : UInt32 := 4

inductive VerifyOutcome where
  | invalidSignature
  | unknownSigner
  | expired
  | clockSkew
  | replay
  | wrongDomain
  | schemaTooNew
  deriving DecidableEq

inductive Lifetime where
  | shortLived
  | longLived
  | evidence
  | perpetual
  deriving DecidableEq

structure DerivedMismatch where
  field : String
  detail : String
  deriving DecidableEq

inductive PolicyViolation where
  | shortLivedTtlTooLong (ttlMs maxMs : UInt64)
  deriving DecidableEq

inductive VerifyError where
  | outcome (outcome : VerifyOutcome)
  | replayStore (fault : ReplayStoreError)
  | policy (violation : PolicyViolation)
  | derived (mismatch : DerivedMismatch)
  deriving DecidableEq

inductive ReplayStatus where
  | checked
  | notApplicable
  | ineffective
  deriving DecidableEq

/-- The 256-bit hash the derived fields are computed with. -/
abbrev Blake3 := List UInt8 → List UInt8

class Signable (M : Type) extends ToCanonicalFields M where
  domain : Domain
  lifetime : Lifetime
  schemaVersion : M → UInt32
  signatureBytes : M → List UInt8
  expiresAtUnixMs : M → UInt64
  issuedAtUnixMs : M → UInt64
  signerId : M → String
  checkDerivedConsistency : Blake3 → M → Except DerivedMismatch Unit := fun _ _ => .ok ()
  replayNonce : M → Option (List UInt8) := fun _ => none

open Signable

/-- Signer, signed bytes and signature. -/
abbrev SignatureVerifier := String → List UInt8 → List UInt8 → Except VerifyOutcome Unit

structure Verified (M : Type) where
  inner : M
  signerId : String
  replayStatus : ReplayStatus

section

variable {M : Type} [Signable M]

def signingInput (msg : M) : List UInt8 :=
  sigInput (domain M) (schemaVersion msg) (canonicalEncode [] (toCanonicalFields msg))

def refuse (outcome : VerifyOutcome) : Except VerifyError Unit := .error (.outcome outcome)

def checkSchema (msg : M) (maxSupportedSchemaVersion : UInt32) : Except VerifyError Unit :=
  if schemaVersion msg > min maxSupportedSchemaVersion knownSchemaVersion then
    refuse .schemaTooNew
  else .ok ()

def checkSignature (verifier : SignatureVerifier) (msg : M) : Except VerifyError Unit :=
  (verifier (signerId msg) (signingInput msg) (signatureBytes msg)).mapError .outcome

def checkDerived (blake3 : Blake3) (msg : M) : Except VerifyError Unit :=
  (checkDerivedConsistency blake3 msg).mapError .derived

def checkTime (msg : M) (nowUnixMs : UInt64) : Except VerifyError Unit :=
  match lifetime M with
  | .evidence | .perpetual => .ok ()
  | .longLived => if nowUnixMs ≥ expiresAtUnixMs msg then refuse .expired else .ok ()
  | .shortLived =>
      if nowUnixMs ≥ expiresAtUnixMs msg then refuse .expired
      else if nowUnixMs.absDiff (issuedAtUnixMs msg) > clockSkewToleranceMs then
        refuse .clockSkew
      else .ok ()

/-- Everything that is checked before the replay guard is asked. -/
def checkMessage (blake3 : Blake3) (msg : M) (maxSupportedSchemaVersion : UInt32)
    (verifier : SignatureVerifier) (nowUnixMs : UInt64) : Except VerifyError Unit := do
  checkSchema msg maxSupportedSchemaVersion
  checkSignature verifier msg
  checkDerived blake3 msg
  checkTime msg nowUnixMs

/-- The nonce of a short-lived message, if it has the right length and the message does not claim
to live too long. -/
def checkNonce (msg : M) : Except VerifyError (List UInt8) :=
  match replayNonce msg with
  | none => .error (.outcome .replay)
  | some nonce =>
      let ttl := (expiresAtUnixMs msg).saturatingSub (issuedAtUnixMs msg)
      if nonce.length ≠ nonceLen then .error (.outcome .replay)
      else if ttl > maxShortlivedTtlMs then
        .error (.policy (.shortLivedTtlTooLong ttl maxShortlivedTtlMs))
      else .ok nonce

def retainUntil (msg : M) : UInt64 :=
  (expiresAtUnixMs msg).saturatingAdd clockSkewToleranceMs

variable {Guard : Type} [ReplayGuard Guard]

def checkReplay (msg : M) (replay : Guard) : Except VerifyError ReplayStatus × Guard :=
  match checkNonce msg with
  | .error fault => (.error fault, replay)
  | .ok nonce =>
      let answer := ReplayGuard.checkAndRecord replay (signerId msg) (domain M) nonce
        (retainUntil msg)
      match answer.1 with
      | .ok .fresh =>
          (.ok (if ReplayGuard.isEffective answer.2 then .checked else .ineffective), answer.2)
      | .ok .duplicate => (.error (.outcome .replay), answer.2)
      | .error fault => (.error (.replayStore fault), answer.2)

def verify (blake3 : Blake3) (msg : M) (maxSupportedSchemaVersion : UInt32)
    (verifier : SignatureVerifier) (nowUnixMs : UInt64) (replay : Guard) :
    Except VerifyError (Verified M) × Guard :=
  match checkMessage blake3 msg maxSupportedSchemaVersion verifier nowUnixMs with
  | .error fault => (.error fault, replay)
  | .ok () =>
      match lifetime M with
      | .shortLived =>
          let answer := checkReplay msg replay
          (answer.1.map (fun status => ⟨msg, signerId msg, status⟩), answer.2)
      | _ => (.ok ⟨msg, signerId msg, .notApplicable⟩, replay)

end

end Gputeer.Protocol
