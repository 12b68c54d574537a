import Gputeer.Lib.Except
import Gputeer.Lib.FirstFault
import Gputeer.Lib.Text
import Mathlib.Data.List.Dedup
import Mathlib.Data.UInt

/-! Whether a device has authority now, from the bindings and member facts that the authority settled. -/

namespace Gputeer.Protocol

inductive MemberState
  | pending
  | active
  | suspended
  | revoked
  | removed
  deriving DecidableEq, Repr

def MemberState.isCurrentAuthority (state : MemberState) : Bool := state = .active

inductive ViewFreshness
  | linearizable (revision : UInt64)
  | boundedStale
  deriving DecidableEq, Repr

structure DeviceBinding where
  deviceId : String
  memberId : String
  generation : UInt64
  deriving DecidableEq, Repr

structure MemberFact where
  memberId : String
  generation : UInt64
  state : MemberState
  deriving DecidableEq, Repr

inductive MemberAuthorization
  | authorized (memberId : String) (generation : UInt64)
  | notAuthorized (memberId : String) (generation : UInt64) (state : MemberState)
  | unresolved
  | ambiguous
  deriving DecidableEq, Repr

inductive MembershipResolutionError
  | staleViewNotAllowedForAuthorization
  | blankQueryDeviceId
  | blankBindingId (index : Nat)
  | blankMemberFactId (index : Nat)
  | duplicateDeviceBinding (deviceId : String)
  | duplicateMemberFact (memberId : String) (generation : UInt64)
  deriving DecidableEq, Repr

namespace DeviceBinding

def hasBlankId (binding : DeviceBinding) : Bool :=
  Text.isBlank binding.deviceId || Text.isBlank binding.memberId

def subject (binding : DeviceBinding) : String × UInt64 := (binding.memberId, binding.generation)

end DeviceBinding

namespace MemberFact

def hasBlankId (fact : MemberFact) : Bool := Text.isBlank fact.memberId

def subject (fact : MemberFact) : String × UInt64 := (fact.memberId, fact.generation)

end MemberFact

/-- The key under which a binding was seen holds all its fields. -/
def validateBindings (bindings : List DeviceBinding) : Except MembershipResolutionError Unit :=
  FirstFault.check DeviceBinding.hasBlankId DeviceBinding.deviceId .blankBindingId .duplicateDeviceBinding 0 []
    bindings

def validateMembers (members : List MemberFact) : Except MembershipResolutionError Unit :=
  FirstFault.check MemberFact.hasBlankId MemberFact.subject .blankMemberFactId
    (fun subject => .duplicateMemberFact subject.1 subject.2) 0 [] members

/-- The set of subjects that the device is bound to. -/
def subjectsOf (deviceId : String) (bindings : List DeviceBinding) : List (String × UInt64) :=
  ((bindings.filter (·.deviceId = deviceId)).map DeviceBinding.subject).dedup

/-- The set of states that one subject is in. -/
def statesOf (subject : String × UInt64) (members : List MemberFact) : List MemberState :=
  ((members.filter (·.subject = subject)).map MemberFact.state).dedup

def judgeStates (subject : String × UInt64) : List MemberState → MemberAuthorization
  | [] => .unresolved
  | [state] =>
      if state.isCurrentAuthority then .authorized subject.1 subject.2
      else .notAuthorized subject.1 subject.2 state
  | _ => .ambiguous

def judgeSubjects (members : List MemberFact) : List (String × UInt64) → MemberAuthorization
  | [] => .unresolved
  | [subject] => judgeStates subject (statesOf subject members)
  | _ => .ambiguous

def resolveDeviceAuthorization (deviceId : String) (freshness : ViewFreshness) (bindings : List DeviceBinding)
    (members : List MemberFact) : Except MembershipResolutionError MemberAuthorization :=
  match freshness with
  | .boundedStale => .error .staleViewNotAllowedForAuthorization
  | .linearizable _ =>
      if Text.isBlank deviceId then .error .blankQueryDeviceId
      else do
        validateBindings bindings
        validateMembers members
        .ok (judgeSubjects members (subjectsOf deviceId bindings))

/-! ### The sets that are judged -/

theorem dedup_eq_singleton {α : Type} [DecidableEq α] {items : List α} {item : α} :
    items.dedup = [item] ↔ item ∈ items ∧ ∀ other ∈ items, other = item := by
  constructor
  · intro alone
    have listed (other : α) : other ∈ items ↔ other = item := by
      rw [← List.mem_dedup, alone, List.mem_singleton]
    exact ⟨(listed item).mpr rfl, fun other here => (listed other).mp here⟩
  · rintro ⟨here, only⟩
    apply List.perm_singleton.mp
    rw [List.perm_ext_iff_of_nodup (List.nodup_dedup items) (List.nodup_singleton item)]
    intro other
    rw [List.mem_dedup, List.mem_singleton]
    exact ⟨only other, fun same => same ▸ here⟩

variable {deviceId : String} {freshness : ViewFreshness} {bindings otherBindings : List DeviceBinding}
  {members otherMembers : List MemberFact} {memberId : String} {generation : UInt64}

/-- The one subject that the device is bound to. -/
def BoundOnlyTo (deviceId : String) (bindings : List DeviceBinding) (subject : String × UInt64) : Prop :=
  (∃ binding ∈ bindings, binding.deviceId = deviceId ∧ binding.subject = subject) ∧
  ∀ binding ∈ bindings, binding.deviceId = deviceId → binding.subject = subject

/-- The one state that is recorded for the subject. -/
def RecordedOnlyAs (subject : String × UInt64) (members : List MemberFact) (state : MemberState) : Prop :=
  (∃ fact ∈ members, fact.subject = subject ∧ fact.state = state) ∧
  ∀ fact ∈ members, fact.subject = subject → fact.state = state

theorem subjectsOf_eq_singleton {subject : String × UInt64} :
    subjectsOf deviceId bindings = [subject] ↔ BoundOnlyTo deviceId bindings subject := by
  simp only [subjectsOf, dedup_eq_singleton, BoundOnlyTo, List.mem_map, List.mem_filter, decide_eq_true_eq]
  constructor
  · rintro ⟨⟨binding, ⟨listed, its⟩, same⟩, only⟩
    exact ⟨⟨binding, listed, its, same⟩, fun other here its => only _ ⟨other, ⟨here, its⟩, rfl⟩⟩
  · rintro ⟨⟨binding, listed, its, same⟩, only⟩
    refine ⟨⟨binding, ⟨listed, its⟩, same⟩, ?_⟩
    rintro _ ⟨other, ⟨here, its⟩, rfl⟩
    exact only other here its

theorem statesOf_eq_singleton {subject : String × UInt64} {state : MemberState} :
    statesOf subject members = [state] ↔ RecordedOnlyAs subject members state := by
  simp only [statesOf, dedup_eq_singleton, RecordedOnlyAs, List.mem_map, List.mem_filter, decide_eq_true_eq]
  constructor
  · rintro ⟨⟨fact, ⟨listed, its⟩, same⟩, only⟩
    exact ⟨⟨fact, listed, its, same⟩, fun other here its => only _ ⟨other, ⟨here, its⟩, rfl⟩⟩
  · rintro ⟨⟨fact, listed, its, same⟩, only⟩
    refine ⟨⟨fact, ⟨listed, its⟩, same⟩, ?_⟩
    rintro _ ⟨other, ⟨here, its⟩, rfl⟩
    exact only other here its

theorem judgeStates_eq_authorized {subject : String × UInt64} {states : List MemberState} :
    judgeStates subject states = .authorized memberId generation ↔
      states = [.active] ∧ subject = (memberId, generation) := by
  obtain ⟨member, age⟩ := subject
  unfold judgeStates
  split
  · simp
  · rename_i state
    cases state <;> simp [MemberState.isCurrentAuthority]
  · rename_i several
    constructor
    · intro never
      cases never
    · rintro ⟨rfl, -⟩
      exact absurd rfl (several _)

theorem judgeSubjects_eq_authorized {subjects : List (String × UInt64)} :
    judgeSubjects members subjects = .authorized memberId generation ↔
      subjects = [(memberId, generation)] ∧ statesOf (memberId, generation) members = [.active] := by
  unfold judgeSubjects
  split
  · simp
  · rename_i subject
    rw [judgeStates_eq_authorized, List.singleton_inj]
    constructor
    · rintro ⟨states, rfl⟩
      exact ⟨rfl, states⟩
    · rintro ⟨rfl, states⟩
      exact ⟨states, rfl⟩
  · rename_i several
    constructor
    · intro never
      cases never
    · rintro ⟨rfl, -⟩
      exact absurd rfl (several _)

/-- Two orders of one list: both empty, both the same single item, or both longer. -/
theorem perm_sizes {α : Type} {items others : List α} (same : items.Perm others) :
    (items = [] ∧ others = []) ∨ (∃ item, items = [item] ∧ others = [item]) ∨
      (2 ≤ items.length ∧ 2 ≤ others.length) := by
  cases items with
  | nil => exact .inl ⟨rfl, same.nil_eq.symm⟩
  | cons item items =>
      cases items with
      | nil => exact .inr (.inl ⟨item, rfl, List.perm_singleton.mp same.symm⟩)
      | cons second items =>
          refine .inr (.inr ⟨by simp, ?_⟩)
          rw [← same.length_eq]
          simp

theorem judgeStates_several {subject : String × UInt64} {states : List MemberState} (several : 2 ≤ states.length) :
    judgeStates subject states = .ambiguous := by
  unfold judgeStates
  split <;> simp_all

theorem judgeSubjects_several {subjects : List (String × UInt64)} (several : 2 ≤ subjects.length) :
    judgeSubjects members subjects = .ambiguous := by
  unfold judgeSubjects
  split <;> simp_all

theorem judgeStates_perm {subject : String × UInt64} (same : otherMembers.Perm members) :
    judgeStates subject (statesOf subject otherMembers) = judgeStates subject (statesOf subject members) := by
  have reordered : (statesOf subject otherMembers).Perm (statesOf subject members) :=
    ((same.filter _).map _).dedup
  rcases perm_sizes reordered with ⟨none, noneOther⟩ | ⟨one, single, singleOther⟩ | ⟨several, severalOther⟩
  · rw [none, noneOther]
  · rw [single, singleOther]
  · rw [judgeStates_several several, judgeStates_several severalOther]

theorem judgeSubjects_perm (sameBindings : otherBindings.Perm bindings) (sameMembers : otherMembers.Perm members) :
    judgeSubjects otherMembers (subjectsOf deviceId otherBindings) =
      judgeSubjects members (subjectsOf deviceId bindings) := by
  have reordered : (subjectsOf deviceId otherBindings).Perm (subjectsOf deviceId bindings) :=
    ((sameBindings.filter _).map _).dedup
  rcases perm_sizes reordered with ⟨none, noneOther⟩ | ⟨one, single, singleOther⟩ | ⟨several, severalOther⟩
  · rw [none, noneOther]
    rfl
  · rw [single, singleOther]
    exact judgeStates_perm sameMembers
  · rw [judgeSubjects_several several, judgeSubjects_several severalOther]

/-! ### Who is authorized -/

structure WellFormedBindings (bindings : List DeviceBinding) : Prop where
  filled : ∀ binding ∈ bindings, binding.hasBlankId = false
  distinct : bindings.Nodup

structure WellFormedMembers (members : List MemberFact) : Prop where
  filled : ∀ fact ∈ members, fact.hasBlankId = false
  distinct : members.Nodup

theorem validateBindings_eq_ok {done : Unit} : validateBindings bindings = .ok done ↔ WellFormedBindings bindings := by
  rw [validateBindings, FirstFault.check_eq_ok]
  simp only [List.not_mem_nil, not_false_eq_true, and_true]
  exact ⟨fun both => ⟨both.1, both.2⟩, fun both => ⟨both.filled, both.distinct⟩⟩

theorem validateMembers_eq_ok {done : Unit} : validateMembers members = .ok done ↔ WellFormedMembers members := by
  rw [validateMembers, FirstFault.check_eq_ok]
  simp only [List.not_mem_nil, not_false_eq_true, and_true]
  exact ⟨fun both => ⟨both.1, both.2⟩, fun both => ⟨both.filled, both.distinct⟩⟩

/-- What an authorization rests on. -/
structure Authorizes (deviceId : String) (freshness : ViewFreshness) (bindings : List DeviceBinding)
    (members : List MemberFact) (memberId : String) (generation : UInt64) : Prop where
  linearizable : ∃ revision, freshness = .linearizable revision
  filled : Text.isBlank deviceId = false
  wellBound : WellFormedBindings bindings
  wellStated : WellFormedMembers members
  bound : BoundOnlyTo deviceId bindings (memberId, generation)
  active : RecordedOnlyAs (memberId, generation) members .active

theorem resolve_eq_authorized :
    resolveDeviceAuthorization deviceId freshness bindings members = .ok (.authorized memberId generation) ↔
      Authorizes deviceId freshness bindings members memberId generation := by
  unfold resolveDeviceAuthorization
  cases freshness with
  | boundedStale =>
      constructor
      · intro never
        cases never
      · intro authorizes
        obtain ⟨revision, never⟩ := authorizes.linearizable
        cases never
  | linearizable revision =>
      simp only [Except.ite_error_eq_ok, Except.bind_eq_ok, validateBindings_eq_ok, validateMembers_eq_ok,
        Except.ok.injEq, judgeSubjects_eq_authorized, subjectsOf_eq_singleton, statesOf_eq_singleton,
        Bool.not_eq_true]
      constructor
      · rintro ⟨filled, -, wellBound, -, wellStated, bound, active⟩
        exact ⟨⟨revision, rfl⟩, filled, wellBound, wellStated, bound, active⟩
      · intro authorizes
        exact ⟨authorizes.filled, (), authorizes.wellBound, (), authorizes.wellStated, authorizes.bound, authorizes.active⟩

/-- A binding of the device to another subject takes the authority away. -/
theorem Authorizes.not_with_binding (authorizes : Authorizes deviceId freshness bindings members memberId generation)
    {added : DeviceBinding} (its : added.deviceId = deviceId) (another : added.subject ≠ (memberId, generation))
    (more : otherBindings.Perm (added :: bindings)) {otherId : String} {otherGeneration : UInt64} :
    ¬ Authorizes deviceId freshness otherBindings members otherId otherGeneration := by
  intro still
  obtain ⟨binding, listed, boundHere, subject⟩ := authorizes.bound.1
  have one := still.bound.2 added (more.mem_iff.mpr List.mem_cons_self) its
  have two := still.bound.2 binding (more.mem_iff.mpr (List.mem_cons_of_mem _ listed)) boundHere
  exact another (one.trans (two.symm.trans subject))

/-- A fact that the subject is in another state takes the authority away. -/
theorem Authorizes.not_with_fact (authorizes : Authorizes deviceId freshness bindings members memberId generation)
    {added : MemberFact} (its : added.subject = (memberId, generation)) (another : added.state ≠ .active)
    (more : otherMembers.Perm (added :: members)) {otherId : String} {otherGeneration : UInt64} :
    ¬ Authorizes deviceId freshness bindings otherMembers otherId otherGeneration := by
  intro still
  obtain ⟨binding, listed, boundHere, subject⟩ := authorizes.bound.1
  have same := still.bound.2 binding listed boundHere
  exact another (still.active.2 added (more.mem_iff.mpr List.mem_cons_self) (its.trans (subject.symm.trans same)))

/-! ### When the order does not matter -/

def OrderFree (deviceId : String) (freshness : ViewFreshness) (bindings : List DeviceBinding)
    (members : List MemberFact) : Prop :=
  ∀ otherBindings otherMembers, otherBindings.Perm bindings → otherMembers.Perm members →
    resolveDeviceAuthorization deviceId freshness otherBindings otherMembers =
      resolveDeviceAuthorization deviceId freshness bindings members

/-- The malformed lists that are refused with one error in every order: all items have a blank id, or none
has and the items that are listed twice all have one label. -/
def Steady (deviceId : String) (freshness : ViewFreshness) (bindings : List DeviceBinding)
    (members : List MemberFact) : Prop :=
  freshness = .boundedStale ∨ Text.isBlank deviceId ∨
  (FirstFault.Settled DeviceBinding.hasBlankId DeviceBinding.deviceId bindings ∧
    (WellFormedBindings bindings → FirstFault.Settled MemberFact.hasBlankId MemberFact.subject members))

theorem WellFormedBindings.perm (well : WellFormedBindings bindings) (same : otherBindings.Perm bindings) :
    WellFormedBindings otherBindings :=
  ⟨fun binding listed => well.filled binding (same.subset listed), same.nodup_iff.mpr well.distinct⟩

theorem WellFormedMembers.perm (well : WellFormedMembers members) (same : otherMembers.Perm members) :
    WellFormedMembers otherMembers :=
  ⟨fun fact listed => well.filled fact (same.subset listed), same.nodup_iff.mpr well.distinct⟩

theorem validateBindings_perm_iff :
    (∀ others : List DeviceBinding, others.Perm bindings → validateBindings others = validateBindings bindings) ↔
      FirstFault.Settled DeviceBinding.hasBlankId DeviceBinding.deviceId bindings := by
  apply FirstFault.check_perm_iff
  · intro first second same
    exact MembershipResolutionError.blankBindingId.inj same
  · intro first second same
    exact MembershipResolutionError.duplicateDeviceBinding.inj same
  · intro position named never
    cases never

theorem validateMembers_perm_iff :
    (∀ others : List MemberFact, others.Perm members → validateMembers others = validateMembers members) ↔
      FirstFault.Settled MemberFact.hasBlankId MemberFact.subject members := by
  apply FirstFault.check_perm_iff
  · intro first second same
    exact MembershipResolutionError.blankMemberFactId.inj same
  · intro first second same
    obtain ⟨sameMember, sameGeneration⟩ := MembershipResolutionError.duplicateMemberFact.inj same
    exact Prod.ext sameMember sameGeneration
  · intro position named never
    cases never

section Asked

variable {revision : UInt64} (filled : Text.isBlank deviceId = false)

include filled

theorem resolve_of_bindings_fault {fault : MembershipResolutionError} (refused : validateBindings bindings = .error fault) :
    resolveDeviceAuthorization deviceId (.linearizable revision) bindings members = .error fault := by
  simp [resolveDeviceAuthorization, filled, refused]
  rfl

theorem resolve_of_bindings {done : Unit} (accepted : validateBindings bindings = .ok done) :
    resolveDeviceAuthorization deviceId (.linearizable revision) bindings members =
      (validateMembers members).map fun _ => judgeSubjects members (subjectsOf deviceId bindings) := by
  simp only [resolveDeviceAuthorization, filled, accepted]
  cases validateMembers members <;> rfl

theorem bindings_settled (free : OrderFree deviceId (.linearizable revision) bindings members) :
    FirstFault.Settled DeviceBinding.hasBlankId DeviceBinding.deviceId bindings := by
  rw [← validateBindings_perm_iff]
  intro others same
  have agree := free others members same (List.Perm.refl members)
  cases first : validateBindings others with
  | ok done => exact (validateBindings_eq_ok.mpr ((validateBindings_eq_ok.mp first).perm same.symm)).symm
  | error fault =>
      cases second : validateBindings bindings with
      | ok done =>
          have accepted : validateBindings others = .ok () :=
            validateBindings_eq_ok.mpr ((validateBindings_eq_ok.mp second).perm same)
          rw [accepted] at first
          cases first
      | error otherFault =>
          rw [resolve_of_bindings_fault filled first, resolve_of_bindings_fault filled second] at agree
          exact congrArg Except.error (Except.error.inj agree)

theorem members_settled (free : OrderFree deviceId (.linearizable revision) bindings members)
    (well : WellFormedBindings bindings) : FirstFault.Settled MemberFact.hasBlankId MemberFact.subject members := by
  rw [← validateMembers_perm_iff]
  intro others same
  have agree := free bindings others (List.Perm.refl bindings) same
  have accepted : validateBindings bindings = .ok () := validateBindings_eq_ok.mpr well
  rw [resolve_of_bindings filled accepted, resolve_of_bindings filled accepted] at agree
  cases first : validateMembers others with
  | ok done => exact (validateMembers_eq_ok.mpr ((validateMembers_eq_ok.mp first).perm same.symm)).symm
  | error fault =>
      cases second : validateMembers members with
      | ok done =>
          have accepted : validateMembers others = .ok () :=
            validateMembers_eq_ok.mpr ((validateMembers_eq_ok.mp second).perm same)
          rw [accepted] at first
          cases first
      | error otherFault =>
          rw [first, second] at agree
          exact congrArg Except.error (Except.error.inj agree)

theorem orderFree_of_settled (settled : FirstFault.Settled DeviceBinding.hasBlankId DeviceBinding.deviceId bindings)
    (settledMembers : WellFormedBindings bindings →
      FirstFault.Settled MemberFact.hasBlankId MemberFact.subject members) :
    OrderFree deviceId (.linearizable revision) bindings members := by
  intro otherBindings otherMembers sameBindings sameMembers
  have agree := validateBindings_perm_iff.mpr settled otherBindings sameBindings
  cases second : validateBindings bindings with
  | error fault =>
      rw [second] at agree
      rw [resolve_of_bindings_fault filled agree, resolve_of_bindings_fault filled second]
  | ok done =>
      rw [second] at agree
      have agreeMembers := validateMembers_perm_iff.mpr (settledMembers (validateBindings_eq_ok.mp second))
        otherMembers sameMembers
      rw [resolve_of_bindings filled agree, resolve_of_bindings filled second, agreeMembers,
        judgeSubjects_perm sameBindings sameMembers]

end Asked

theorem orderFree_iff : OrderFree deviceId freshness bindings members ↔ Steady deviceId freshness bindings members := by
  cases freshness with
  | boundedStale => exact ⟨fun _ => .inl rfl, fun _ _ _ _ _ => rfl⟩
  | linearizable revision =>
      by_cases blank : Text.isBlank deviceId
      · constructor
        · intro free
          exact .inr (.inl blank)
        · intro steady otherBindings otherMembers sameBindings sameMembers
          simp [resolveDeviceAuthorization, blank]
      · have filled : Text.isBlank deviceId = false := by simpa using blank
        constructor
        · intro free
          exact .inr (.inr ⟨bindings_settled filled free, members_settled filled free⟩)
        · rintro (never | never | ⟨settled, settledMembers⟩)
          · cases never
          · exact absurd never blank
          · exact orderFree_of_settled filled settled settledMembers

/-- What is expected of a resolution: the order of the facts does not count, authority is exactly what
authorizes, and a conflicting binding or fact takes it away. -/
structure OrderFreeAndClosed (deviceId : String) (freshness : ViewFreshness) (bindings : List DeviceBinding)
    (members : List MemberFact) : Prop where
  orderFree : OrderFree deviceId freshness bindings members
  authorized_iff : ∀ memberId generation,
    resolveDeviceAuthorization deviceId freshness bindings members = .ok (.authorized memberId generation) ↔
      Authorizes deviceId freshness bindings members memberId generation
  binding_closes : ∀ memberId generation,
    resolveDeviceAuthorization deviceId freshness bindings members = .ok (.authorized memberId generation) →
    ∀ added otherBindings, added.deviceId = deviceId → added.subject ≠ (memberId, generation) →
      otherBindings.Perm (added :: bindings) → ∀ otherId otherGeneration,
        resolveDeviceAuthorization deviceId freshness otherBindings members ≠ .ok (.authorized otherId otherGeneration)
  fact_closes : ∀ memberId generation,
    resolveDeviceAuthorization deviceId freshness bindings members = .ok (.authorized memberId generation) →
    ∀ added otherMembers, added.subject = (memberId, generation) → added.state ≠ .active →
      otherMembers.Perm (added :: members) → ∀ otherId otherGeneration,
        resolveDeviceAuthorization deviceId freshness bindings otherMembers ≠ .ok (.authorized otherId otherGeneration)

/-- Only the order of a malformed list can matter: for which fault is found first. -/
theorem resolution_order_free_iff (deviceId : String) (freshness : ViewFreshness) (bindings : List DeviceBinding)
    (members : List MemberFact) :
    OrderFreeAndClosed deviceId freshness bindings members ↔ Steady deviceId freshness bindings members := by
  rw [← orderFree_iff]
  constructor
  · intro both
    exact both.orderFree
  · intro free
    refine ⟨free, fun _ _ => resolve_eq_authorized, ?_, ?_⟩
    · intro memberId generation authorized added otherBindings its another more otherId otherGeneration still
      exact (resolve_eq_authorized.mp authorized).not_with_binding its another more (resolve_eq_authorized.mp still)
    · intro memberId generation authorized added otherMembers its another more otherId otherGeneration still
      exact (resolve_eq_authorized.mp authorized).not_with_fact its another more (resolve_eq_authorized.mp still)

/-- One binding with a blank id and one without: the error names the position of the first. -/
theorem swapped_bindings_change_the_error :
    ¬ OrderFreeAndClosed "dev-a" (.linearizable 1) [⟨"", "mem-1", 1⟩, ⟨"dev-a", "mem-1", 1⟩] [] := by
  intro both
  have swapped := both.orderFree [⟨"dev-a", "mem-1", 1⟩, ⟨"", "mem-1", 1⟩] [] (List.Perm.swap _ _ _)
    (List.Perm.refl [])
  exact absurd swapped (by decide)

end Gputeer.Protocol
