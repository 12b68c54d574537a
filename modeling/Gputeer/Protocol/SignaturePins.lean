import Gputeer.Protocol.SignedPart
import Gputeer.Protocol.Signable

/-! Equal signing inputs come from messages with the same signed part, of the same domain and
schema version. -/

namespace Gputeer.Protocol

open Signable

namespace SignableType

instance pinned : (type : SignableType) → Pinned type.Message
  | jobManifest => inferInstanceAs (Pinned JobManifest)
  | lease => inferInstanceAs (Pinned Lease)
  | executionGrant => inferInstanceAs (Pinned ExecutionGrant)
  | agentGrantAck => inferInstanceAs (Pinned AgentGrantAck)
  | renewLeaseRequest => inferInstanceAs (Pinned RenewLeaseRequest)
  | renewLeaseResult => inferInstanceAs (Pinned RenewLeaseResult)
  | agentSessionHello => inferInstanceAs (Pinned AgentSessionHello)
  | resumeLeaseRequest => inferInstanceAs (Pinned ResumeLeaseRequest)
  | resumeLeaseResult => inferInstanceAs (Pinned ResumeLeaseResult)
  | checkpointManifest => inferInstanceAs (Pinned CheckpointManifest)
  | replicaAck => inferInstanceAs (Pinned ReplicaAck)
  | artifactRef => inferInstanceAs (Pinned ArtifactRef)
  | attemptReport => inferInstanceAs (Pinned AttemptReport)
  | attemptReportAck => inferInstanceAs (Pinned AttemptReportAck)
  | grantAckReceipt => inferInstanceAs (Pinned GrantAckReceipt)
  | canonicalDecision => inferInstanceAs (Pinned CanonicalDecision)
  | revokeLeaseNotice => inferInstanceAs (Pinned RevokeLeaseNotice)
  | neighborUnreachableReport => inferInstanceAs (Pinned NeighborUnreachableReport)
  | nodeHeartbeat => inferInstanceAs (Pinned NodeHeartbeat)

end SignableType

theorem sigInput_injective {domain otherDomain : Domain} {schemaVersion otherVersion : UInt32}
    {canonical otherCanonical : List UInt8}
    (same : sigInput domain schemaVersion canonical =
      sigInput otherDomain otherVersion otherCanonical) :
    domain = otherDomain ∧ schemaVersion = otherVersion ∧ canonical = otherCanonical := by
  simp only [sigInput, List.append_assoc] at same
  rcases List.append_inj same (by rw [Domain.length_tagBytes, Domain.length_tagBytes]) with
    ⟨tags, afterTag⟩
  rcases List.append_inj afterTag (by simp) with ⟨versions, afterVersion⟩
  rcases List.append_inj afterVersion (by simp) with ⟨_, encodings⟩
  have width : ∀ version : UInt32, version.toNat < 256 ^ 4 := fun version => version.toNat_lt
  have numbers := Bytes.beBytes_injective (width _) (width _) versions
  exact ⟨Domain.tagBytes_injective tags, UInt32.toNat_inj.mp numbers, encodings⟩

/-- A signature pins the message: one signing input belongs to one signed part of a type, and to
one domain and schema version over all types. -/
theorem signing_input_pins_message :
    (∀ (type : SignableType) (first second : type.Message),
      signingInput first = signingInput second →
        Pinned.normalize first = Pinned.normalize second) ∧
    ∀ (type otherType : SignableType) (first : type.Message) (second : otherType.Message),
      (domain type.Message).tagBytes ≠ (domain otherType.Message).tagBytes ∨
          schemaVersion first ≠ schemaVersion second →
        signingInput first ≠ signingInput second := by
  constructor
  · intro type first second same
    exact normalize_eq_of_encode_eq (sigInput_injective same).2.2
  · intro type otherType first second differ same
    rcases sigInput_injective same with ⟨domains, versions, _⟩
    rcases differ with tag | version
    · exact tag (by rw [domains])
    · exact version versions

def sampleHeartbeat (nodeSignature : List UInt8) : NodeHeartbeat :=
  { schemaVersion := 1, nodeId := "node", deviceId := "device", coordinatorDeviceId := "home",
    issuedAtUnixMs := 1000, fenceEpoch := 2, runningAttempts := 1,
    requestNonce := List.replicate 16 7, nodeSignature }

def sampleNotice : RevokeLeaseNotice :=
  { schemaVersion := 1, leaseId := "lease", fenceEpoch := 2, cause := 1, issuedAtUnixMs := 1000,
    coordinatorSignature := [] }

theorem heartbeat_signing_input_pins :
    signingInput (sampleHeartbeat []) = signingInput (sampleHeartbeat [1]) ∧
    Pinned.normalize (sampleHeartbeat []) = Pinned.normalize (sampleHeartbeat [1]) ∧
    signingInput (sampleHeartbeat []) ≠ signingInput sampleNotice :=
  ⟨rfl, signing_input_pins_message.1 .nodeHeartbeat (sampleHeartbeat []) (sampleHeartbeat [1]) rfl,
    signing_input_pins_message.2 .nodeHeartbeat .revokeLeaseNotice (sampleHeartbeat [])
      sampleNotice (Or.inl (by decide))⟩

end Gputeer.Protocol
