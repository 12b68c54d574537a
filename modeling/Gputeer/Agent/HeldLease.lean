import Gputeer.Agent.LeaseChecks
import Gputeer.Lib.Trace

/-! Renewals extend the Lease that an Agent holds and change nothing else of it: a higher epoch is refused by
the Agent itself, and a lower one by the watermark, which only goes up. -/

namespace Gputeer.Agent

open Protocol RuntimePolicy

section Fence

variable {fence next : DurableFenceWatermark} {resource : String} {epoch watermark : UInt64}
  {fault : Option SqlFault} {label : String} {lease held : Lease}

/-- What the row of a resource says; a resource without a row starts at zero. -/
def watermarkOf (fence : DurableFenceWatermark) (resource : String) : Except DurableFenceError UInt64 :=
  match fence.fenceWatermarks[resource]? with
  | some bytes => decodeWatermark bytes
  | none => .ok 0

/-- The watermark of a resource is at or above an epoch. -/
def AtLeast (fence : DurableFenceWatermark) (resource : String) (epoch : UInt64) : Prop :=
  ∃ watermark, watermarkOf fence resource = .ok watermark ∧ epoch ≤ watermark

/-- No watermark that can be read becomes lower. -/
def NeverLowers (fence next : DurableFenceWatermark) : Prop :=
  ∀ resource watermark, watermarkOf fence resource = .ok watermark → AtLeast next resource watermark

theorem NeverLowers.refl (fence : DurableFenceWatermark) : NeverLowers fence fence :=
  fun _ watermark read => ⟨watermark, read, UInt64.le_refl watermark⟩

theorem AtLeast.of_neverLowers (reached : AtLeast fence resource epoch)
    (raises : NeverLowers fence next) : AtLeast next resource epoch := by
  obtain ⟨watermark, read, below⟩ := reached
  obtain ⟨raised, readNext, above⟩ := raises resource watermark read
  exact ⟨raised, readNext, UInt64.le_trans below above⟩

theorem checkAndAdvance_eq :
    fence.checkAndAdvance resource epoch =
      match watermarkOf fence resource with
      | .error error => (.error error, fence)
      | .ok watermark =>
          if epoch < watermark then (.error (.stale (.staleEpoch resource epoch watermark)), fence)
          else (.ok (), ⟨fence.fenceWatermarks.insert resource (encodeWatermark epoch)⟩) := rfl

theorem watermarkOf_insert {other : String} :
    watermarkOf ⟨fence.fenceWatermarks.insert resource (encodeWatermark epoch)⟩ other =
      if resource = other then .ok epoch else watermarkOf fence other := by
  unfold watermarkOf
  simp only [Table.lookup_insert]
  by_cases same : resource = other
  · simp only [if_pos same, decodeWatermark_encodeWatermark]
  · simp only [if_neg same]

theorem checkAndAdvance_eq_ok {done : Unit} (accepted : (fence.checkAndAdvance resource epoch).1 = .ok done) :
    (∃ watermark, watermarkOf fence resource = .ok watermark ∧ watermark ≤ epoch) ∧
      watermarkOf (fence.checkAndAdvance resource epoch).2 resource = .ok epoch := by
  rw [checkAndAdvance_eq] at accepted ⊢
  cases read : watermarkOf fence resource with
  | error error =>
      rw [read] at accepted
      cases accepted
  | ok watermark =>
      rw [read] at accepted
      by_cases below : epoch < watermark
      · simp only [if_pos below] at accepted
        cases accepted
      · simp only [if_neg below]
        exact ⟨⟨watermark, rfl, UInt64.not_lt.mp below⟩, watermarkOf_insert.trans (if_pos rfl)⟩

theorem neverLowers_checkAndAdvance : NeverLowers fence (fence.checkAndAdvance resource epoch).2 := by
  rw [checkAndAdvance_eq]
  cases read : watermarkOf fence resource with
  | error error => exact .refl fence
  | ok watermark =>
      by_cases below : epoch < watermark
      · simp only [if_pos below]
        exact .refl fence
      · simp only [if_neg below]
        intro other current readOther
        rw [AtLeast, watermarkOf_insert]
        by_cases same : resource = other
        · subst same
          obtain rfl := Except.ok.inj (read.symm.trans readOther)
          exact ⟨epoch, if_pos rfl, UInt64.not_lt.mp below⟩
        · exact ⟨current, (if_neg same).trans readOther, UInt64.le_refl current⟩

/-- A failure of the database is no way to lower a watermark. -/
theorem neverLowers_checkAndAdvanceOn :
    NeverLowers fence (checkAndAdvanceOn fence resource epoch fault).2 := by
  cases fault with
  | none => exact neverLowers_checkAndAdvance
  | some fault =>
      unfold checkAndAdvanceOn
      dsimp only
      split
      · exact neverLowers_checkAndAdvance
      · exact .refl fence

theorem checkAndAdvanceOn_eq_ok {done : Unit}
    (accepted : (checkAndAdvanceOn fence resource epoch fault).1 = .ok done) :
    (∃ watermark, watermarkOf fence resource = .ok watermark ∧ watermark ≤ epoch) ∧
      watermarkOf (checkAndAdvanceOn fence resource epoch fault).2 resource = .ok epoch := by
  cases fault with
  | none => exact checkAndAdvance_eq_ok accepted
  | some fault => cases accepted

theorem recordEpoch_eq_ok (recorded : (recordEpoch label lease fence fault).1 = .ok held) :
    held = lease ∧
      (∃ watermark, watermarkOf fence lease.jobId = .ok watermark ∧ watermark ≤ lease.fenceEpoch) ∧
      watermarkOf (recordEpoch label lease fence fault).2 lease.jobId = .ok lease.fenceEpoch := by
  simp only [recordEpoch, Except.mapError_eq_ok] at recorded
  cases accepted : (checkAndAdvanceOn fence lease.jobId lease.fenceEpoch fault).1 with
  | error error =>
      rw [accepted] at recorded
      cases recorded
  | ok done =>
      rw [accepted] at recorded
      exact ⟨(Except.ok.inj recorded).symm, checkAndAdvanceOn_eq_ok accepted⟩

end Fence

section Acceptance

variable {Guard : Type} [ReplayGuard Guard] {tools : Tools} {config : AgentConfig} {keyring : InMemoryKeyring}
  {grant : ExecutionGrant} {result : RenewLeaseResult} {requestNonce : List UInt8} {lease held : Lease}
  {nowUnixMs : UInt64} {replay : Guard} {fence : DurableFenceWatermark} {fault : Option SqlFault}

/-- A Lease that the configured Coordinator signed for this Agent, which says nothing that its version does
not have. -/
structure Acceptable (config : AgentConfig) (lease : Lease) : Prop where
  holder : lease.holderNodeId = config.agentDeviceId
  issuer : lease.issuingCoordinatorId = config.coordinatorDeviceId
  signed : ed25519Verifier (coordinatorKeys config) lease.issuingCoordinatorId (signingInput lease)
    lease.coordinatorSignature = .ok ()
  noGrace : lease.schemaVersion < 2 → lease.reassignmentGraceMs = 0

/-- The Lease is about what the other one is about. -/
structure SameHold (lease other : Lease) : Prop where
  leaseId : lease.leaseId = other.leaseId
  jobId : lease.jobId = other.jobId
  attemptId : lease.attemptId = other.attemptId
  fenceEpoch : lease.fenceEpoch = other.fenceEpoch

theorem verifyLease_eq_ok {verified : Verified Lease}
    (accepted : verifyLease tools lease keyring nowUnixMs replay = .ok verified) :
    ed25519Verifier keyring verified.inner.issuingCoordinatorId (signingInput verified.inner)
      verified.inner.coordinatorSignature = .ok () := by
  simp only [verifyLease, verify] at accepted
  split at accepted
  · cases accepted
  · next checked =>
    simp only [checkMessage, Except.bind_eq_ok, checkSignature, Except.mapError_eq_ok] at checked
    obtain ⟨_, _, _, signed, _⟩ := checked
    obtain rfl := Except.ok.inj accepted
    exact signed

/-- No other signer has a key. -/
theorem signer_of_verified {signerId : String} {message signature : List UInt8}
    (accepted : ed25519Verifier (coordinatorKeys config) signerId message signature = .ok ()) :
    signerId = config.coordinatorDeviceId := by
  unfold ed25519Verifier at accepted
  split at accepted
  · cases accepted
  · split at accepted
    · cases accepted
    · next key found =>
      rw [coordinatorKeys, InMemoryKeyring.insert, Table.lookup_insert] at found
      by_contra different
      rw [if_neg (Ne.symm different)] at found
      simp [InMemoryKeyring.new] at found

theorem noGrace_of_accepted {done : Unit} (accepted : refuseMisplacedReassignmentGrace lease = .ok done) :
    lease.schemaVersion < 2 → lease.reassignmentGraceMs = 0 := by
  intro old
  rw [refuseMisplacedReassignmentGrace, Except.ensure_eq_ok] at accepted
  by_contra grace
  exact accepted ⟨grace, old⟩

theorem checkGrantedLease_eq_ok
    (checked : checkGrantedLease tools config grant (coordinatorKeys config) nowUnixMs replay = .ok held) :
    Acceptable config held := by
  simp only [checkGrantedLease, Except.bind_eq_ok, Except.ofOption_eq_ok, Except.mapError_eq_ok,
    Except.ensure_eq_ok, Except.ok.injEq] at checked
  obtain ⟨lease, _, verified, isVerified, _, noGrace, _, _, _, _, _, holder, _, _, rfl⟩ := checked
  have signed := verifyLease_eq_ok isVerified
  exact ⟨holder, signer_of_verified signed, signed, noGrace_of_accepted noGrace⟩

theorem checkRenewedLease_eq_ok {newLease : Lease}
    (checked : checkRenewedLease tools config result requestNonce held (coordinatorKeys config) nowUnixMs
      replay = .ok newLease) :
    Acceptable config newLease ∧ newLease.leaseId = held.leaseId ∧ newLease.jobId = held.jobId ∧
      newLease.attemptId = held.attemptId ∧ newLease.fenceEpoch ≤ held.fenceEpoch := by
  simp only [checkRenewedLease, Except.bind_eq_ok, Except.ofOption_eq_ok, Except.mapError_eq_ok,
    Except.ensure_eq_ok, Except.ok.injEq] at checked
  obtain ⟨_, _, _, _, _, _, lease, _, verified, isVerified, _, noGrace, _, leaseId, _, jobId, _, attemptId,
    _, issuer, _, holder, _, notAbove, rfl⟩ := checked
  exact ⟨⟨holder, issuer, verifyLease_eq_ok isVerified, noGrace_of_accepted noGrace⟩, leaseId, jobId, attemptId,
    UInt64.not_lt.mp notAbove⟩

theorem verifyAndRecordLease_eq_ok
    (accepted : (verifyAndRecordLease tools config grant (coordinatorKeys config) nowUnixMs replay fence
      fault).1 = .ok held) :
    Acceptable config held ∧ AtLeast (verifyAndRecordLease tools config grant (coordinatorKeys config)
      nowUnixMs replay fence fault).2 held.jobId held.fenceEpoch := by
  unfold verifyAndRecordLease at accepted ⊢
  split at accepted
  · cases accepted
  · next lease checked =>
    obtain ⟨rfl, _, recorded⟩ := recordEpoch_eq_ok accepted
    exact ⟨checkGrantedLease_eq_ok checked, _, recorded, UInt64.le_refl _⟩

/-- A Lease that is accepted has the epoch of the one that is held, when the watermark has reached that. -/
theorem verifyRenewResult_eq_ok {newLease : Lease}
    (accepted : (verifyRenewResult tools config result requestNonce held (coordinatorKeys config) nowUnixMs
      replay fence fault).1 = .ok newLease) (reached : AtLeast fence held.jobId held.fenceEpoch) :
    Acceptable config newLease ∧ SameHold newLease held ∧
      watermarkOf fence held.jobId = .ok held.fenceEpoch := by
  unfold verifyRenewResult at accepted
  split at accepted
  · cases accepted
  · next lease checked =>
    obtain ⟨rfl, ⟨watermark, read, above⟩, _⟩ := recordEpoch_eq_ok accepted
    obtain ⟨acceptable, leaseId, jobId, attemptId, below⟩ := checkRenewedLease_eq_ok checked
    obtain ⟨current, readAgain, atLeast⟩ := reached
    rw [jobId] at read
    obtain rfl := Except.ok.inj (read.symm.trans readAgain)
    have epoch := UInt64.le_antisymm below (UInt64.le_trans atLeast above)
    have same := UInt64.le_antisymm atLeast (UInt64.le_trans above below)
    exact ⟨acceptable, ⟨leaseId, jobId, attemptId, epoch⟩, same ▸ read⟩

theorem neverLowers_verifyRenewResult :
    NeverLowers fence (verifyRenewResult tools config result requestNonce held keyring nowUnixMs replay fence
      fault).2 := by
  unfold verifyRenewResult
  split
  · exact .refl fence
  · exact neverLowers_checkAndAdvanceOn

end Acceptance

section Runs

/-- An answer to a renewal that comes in, with the request that it is taken to answer. -/
structure RenewAnswer (Guard : Type) where
  result : RenewLeaseResult
  requestNonce : List UInt8
  nowUnixMs : UInt64
  replay : Guard
  fault : Option SqlFault

/-- An answer comes in; or another Attempt or process moves a watermark in the same file; or the file is
closed and opened. -/
inductive LeaseEvent (Guard : Type) where
  | renew (answer : RenewAnswer Guard)
  | elsewhere (resource : String) (epoch : UInt64) (fault : Option SqlFault)
  | reopen

structure Holding where
  held : Lease
  fence : DurableFenceWatermark

variable {Guard : Type} [ReplayGuard Guard] (tools : Tools) (config : AgentConfig)

def Holding.verify (holding : Holding) (answer : RenewAnswer Guard) :
    Except String Lease × DurableFenceWatermark :=
  verifyRenewResult tools config answer.result answer.requestNonce holding.held (coordinatorKeys config)
    answer.nowUnixMs answer.replay holding.fence answer.fault

/-- Whoever asked keeps the Lease that it holds unless it is given another. -/
def Holding.take (holding : Holding) (answered : Except String Lease × DurableFenceWatermark) : Holding where
  held :=
    match answered.1 with
    | .ok newLease => newLease
    | .error _ => holding.held
  fence := answered.2

def Holding.step (holding : Holding) : LeaseEvent Guard → Holding
  | .renew answer => holding.take (holding.verify tools config answer)
  | .elsewhere resource epoch fault =>
      { holding with fence := (checkAndAdvanceOn holding.fence resource epoch fault).2 }
  | .reopen => { holding with fence := .openFile holding.fence.close }

variable {tools config} {granted : Lease} {holding : Holding} {event : LeaseEvent Guard}
  {answer : RenewAnswer Guard}

/-- What is held is what was granted, and no watermark that a later answer has to meet is below it. -/
structure Keeps (config : AgentConfig) (granted : Lease) (holding : Holding) : Prop where
  same : SameHold holding.held granted
  acceptable : Acceptable config holding.held
  reached : AtLeast holding.fence granted.jobId granted.fenceEpoch

theorem Keeps.reachedHeld (keeps : Keeps config granted holding) :
    AtLeast holding.fence holding.held.jobId holding.held.fenceEpoch := by
  rw [keeps.same.jobId, keeps.same.fenceEpoch]
  exact keeps.reached

theorem neverLowers_step (holding : Holding) (event : LeaseEvent Guard) :
    NeverLowers holding.fence (holding.step tools config event).fence := by
  cases event with
  | renew answer => exact neverLowers_verifyRenewResult
  | elsewhere resource epoch fault => exact neverLowers_checkAndAdvanceOn
  | reopen => exact .refl holding.fence

theorem Keeps.step (keeps : Keeps config granted holding) (event : LeaseEvent Guard) :
    Keeps config granted (holding.step tools config event) := by
  have reached : AtLeast (holding.step tools config event).fence granted.jobId granted.fenceEpoch :=
    keeps.reached.of_neverLowers (neverLowers_step holding event)
  cases event with
  | elsewhere resource epoch fault => exact ⟨keeps.same, keeps.acceptable, reached⟩
  | reopen => exact ⟨keeps.same, keeps.acceptable, reached⟩
  | renew answer =>
      cases answered : (holding.verify tools config answer).1 with
      | error why =>
          have kept : (holding.take (holding.verify tools config answer)).held = holding.held := by
            rw [Holding.take, answered]
          exact ⟨kept ▸ keeps.same, kept ▸ keeps.acceptable, reached⟩
      | ok newLease =>
          have taken : (holding.take (holding.verify tools config answer)).held = newLease := by
            rw [Holding.take, answered]
          obtain ⟨acceptable, same, _⟩ := verifyRenewResult_eq_ok answered keeps.reachedHeld
          have sameAsGranted : SameHold newLease granted :=
            ⟨same.leaseId.trans keeps.same.leaseId, same.jobId.trans keeps.same.jobId,
              same.attemptId.trans keeps.same.attemptId, same.fenceEpoch.trans keeps.same.fenceEpoch⟩
          exact ⟨taken ▸ sameAsGranted, taken ▸ acceptable, reached⟩

theorem Keeps.run (keeps : Keeps config granted holding) (events : List (LeaseEvent Guard)) :
    Keeps config granted (Trace.run (Holding.step tools config) holding events) :=
  Trace.induction (fun _ reached => Keeps config granted reached) keeps (fun _ event kept => kept.step event) events

/-- After a grant was accepted, and whatever answers come in since: what is held is about what was granted,
signed by the configured Coordinator for this Agent; an answer that is not accepted leaves it as it was and
lowers no watermark; and none is accepted once the watermark of the Job has passed the epoch. -/
theorem renewal_never_changes_the_lease {grant : ExecutionGrant} {nowUnixMs : UInt64} {replay : Guard}
    {fence : DurableFenceWatermark} {fault : Option SqlFault}
    (accepted : (verifyAndRecordLease tools config grant (coordinatorKeys config) nowUnixMs replay fence
      fault).1 = .ok granted) (events : List (LeaseEvent Guard)) :
    let start := Holding.mk granted (verifyAndRecordLease tools config grant (coordinatorKeys config)
      nowUnixMs replay fence fault).2
    let holding := Trace.run (Holding.step tools config) start events
    SameHold holding.held granted ∧ Acceptable config holding.held ∧
    (∀ (answer : RenewAnswer Guard) why, (holding.verify tools config answer).1 = .error why →
      (holding.step tools config (.renew answer)).held = holding.held ∧
      NeverLowers holding.fence (holding.step tools config (.renew answer)).fence) ∧
    ∀ watermark, watermarkOf holding.fence granted.jobId = .ok watermark →
      holding.held.fenceEpoch < watermark →
      ∀ answer : RenewAnswer Guard, ∃ why, (holding.verify tools config answer).1 = .error why := by
  intro start holding
  obtain ⟨acceptable, reached⟩ := verifyAndRecordLease_eq_ok accepted
  have granting : Keeps config granted start := ⟨⟨rfl, rfl, rfl, rfl⟩, acceptable, reached⟩
  have keeps : Keeps config granted holding := granting.run events
  refine ⟨keeps.same, keeps.acceptable, ?_, ?_⟩
  · intro answer why refused
    refine ⟨?_, neverLowers_step holding (.renew answer)⟩
    rw [Holding.step, Holding.take, refused]
  · intro watermark read passed answer
    cases answered : (holding.verify tools config answer).1 with
    | error why => exact ⟨why, rfl⟩
    | ok newLease =>
        obtain ⟨_, _, readHeld⟩ := verifyRenewResult_eq_ok answered keeps.reachedHeld
        rw [keeps.same.jobId, read] at readHeld
        exact absurd passed (Except.ok.inj readHeld ▸ UInt64.lt_irrefl _)

end Runs

section Samples

def acceptsAll : Tools := ⟨fun _ => [], fun _ => "?"⟩

def heldConfig : AgentConfig := 
  ⟨"coordinator", fun _ signature => signature = List.replicate 64 0, "node-a"⟩

def leaseUntil (expiresAtUnixMs fenceEpoch : UInt64) : Lease where
  schemaVersion := 1
  leaseId := "lease"
  jobId := "job"
  attemptId := "attempt"
  fenceEpoch := fenceEpoch
  coordinatorTerm := 1
  holderNodeId := "node-a"
  memberNodeIds := []
  issuingCoordinatorId := "coordinator"
  issuedAtUnixMs := 100
  expiresAtUnixMs := expiresAtUnixMs
  renewAfterUnixMs := 150
  maxTotalDurationSeconds := 0
  reassignmentGraceMs := 0
  scope := none
  coordinatorSignature := List.replicate 64 0

def grantOf (lease : Lease) : ExecutionGrant where
  schemaVersion := 2
  grantId := "grant"
  manifest := none
  manifestHash := none
  attemptId := "attempt"
  lease := some lease
  peers := []
  creds := none
  plan := none
  coordinatorDeviceId := "coordinator"
  coordinatorTerm := 1
  issuedAtUnixMs := 100
  expiresAtUnixMs := 160
  nonce := []
  leaseFromDurableStore := true
  resumeFrom := none
  poolMode := false
  coordinatorSignature := []

def renewedUntil (expiresAtUnixMs fenceEpoch : UInt64) : RenewAnswer NoReplayCheck where
  result :=
    { outcome := 1, lease := some (leaseUntil expiresAtUnixMs fenceEpoch), detail := "", retryAfterMs := 0,
      schemaVersion := 1, coordinatorId := "coordinator", issuedAtUnixMs := 150, requestNonce := [],
      coordinatorSignature := [] }
  requestNonce := []
  nowUnixMs := 150
  replay := .mk
  fault := none

def grantedHolding : Holding :=
  ⟨leaseUntil 200 7, (verifyAndRecordLease acceptsAll heldConfig (grantOf (leaseUntil 200 7))
    (coordinatorKeys heldConfig) 120 NoReplayCheck.mk (.openFile none) none).2⟩

theorem granted_is_accepted :
    (verifyAndRecordLease acceptsAll heldConfig (grantOf (leaseUntil 200 7)) (coordinatorKeys heldConfig)
      120 NoReplayCheck.mk (.openFile none) none).1 = .ok (leaseUntil 200 7) := by
  rfl

/-- The Lease was renewed, and then another Attempt of the Job moved the watermark. -/
def overtaken : Holding :=
  Trace.run (Holding.step acceptsAll heldConfig) grantedHolding
    [.renew (renewedUntil 300 7), .elsewhere "job" 8 none]

/-- The Lease that was renewed ends later and is the one that was granted, and nothing renews it again. -/
theorem overtaken_lease_is_not_renewed :
    overtaken.held.expiresAtUnixMs = 300 ∧ SameHold overtaken.held (leaseUntil 200 7) ∧
      ∃ why, (overtaken.verify acceptsAll heldConfig (renewedUntil 400 7)).1 = .error why := by
  obtain ⟨same, _, _, ended⟩ := renewal_never_changes_the_lease granted_is_accepted
    [.renew (renewedUntil 300 7), .elsewhere "job" 8 none]
  exact ⟨rfl, same, ended 8 rfl (by decide) (renewedUntil 400 7)⟩

end Samples

end Gputeer.Agent
