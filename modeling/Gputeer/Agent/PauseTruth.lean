import Gputeer.Agent.WorkloadStopper

/-! The recorded pause state of a container is the truth, in every interleaving of the calls, while no `stop`
is answered that a thaw was not confirmed which was carried out. -/

namespace Gputeer.Agent

open Interleaving

variable {call : Nat} {past : List PauseAction} {shared : PauseShared}

section Judgement

/-- What the recorded state says of the container is so. -/
structure PauseShared.Truth (shared : PauseShared) : Prop where
  running : shared.pauseState = .running → shared.frozen = false
  paused : shared.pauseState = .paused → shared.frozen = true

/-- It is so unless the workload has ended. -/
def PauseShared.Trusted (shared : PauseShared) : Prop := shared.ended = false → shared.Truth

def lockOf : PauseAction → Option (PauseOperation × Bool)
  | ⟨.lockPauseOps operation, _, before, _⟩ => some (operation, before.stopRequested)
  | _ => none

/-- The call that took `pause_ops` last, and whether a stop had been requested by then. -/
def sectionOf (past : List PauseAction) : Option (PauseOperation × Bool) := (past.filterMap lockOf).getLast?

/-- The last action was a thaw that did not succeed. -/
def ThawFailed (past : List PauseAction) : Prop :=
  ∃ earlier failure before after,
    past = earlier ++ [⟨.setPaused false, .error failure, before, after⟩]

/-- A thaw by `stop`, of a container recorded as frozen, is not carried out without being confirmed. -/
def ThawConfirmed (past : List PauseAction) : PauseAction → Prop
  | ⟨.setPaused false, .error _, before, after⟩ =>
      (sectionOf past).map Prod.fst = some .stop → before.pauseState = .paused → before.ended = false →
        after.frozen = true
  | _ => True

/-- `pause` and `resume` send a command only if no stop was requested when they took `pause_ops`. -/
def MaySend (past : List PauseAction) : Prop :=
  ∃ operation requested, sectionOf past = some (operation, requested) ∧
    (operation = .stop ∨ requested = false)

def MayAsk (call : Nat) (past : List PauseAction) : PauseQuestion → PauseShared → Prop
  | .setPauseState _, _ => True
  | .setPaused _, shared => (shared.pauseOps = some call → shared.Trusted) ∧ MaySend past
  | .stopContainer, shared =>
      (shared.pauseOps = some call → shared.Trusted) ∧
        (shared.ended = false → shared.frozen = true → ThawFailed past)
  | _, shared => shared.pauseOps = some call → shared.Trusted

/-- What no other call does to the one that holds `pause_ops`. -/
structure Relies (call : Nat) (before after : PauseShared) : Prop where
  holder : after.pauseOps = some call ↔ before.pauseOps = some call
  pauseState : before.pauseOps = some call → after.pauseState = before.pauseState
  frozen : before.pauseOps = some call → after.frozen = before.frozen
  requested : before.stopRequested = true → after.stopRequested = true
  ended : before.ended = true → after.ended = true

end Judgement

theorem going_before {before after : Bool} (ends : before = true → after = true) (going : after = false) :
    before = false := by
  cases before with
  | false => rfl
  | true => rw [ends rfl] at going; cases going

namespace Relies

variable {first second third : PauseShared}

theorem refl (call : Nat) (shared : PauseShared) : Relies call shared shared where
  holder := Iff.rfl
  pauseState _ := rfl
  frozen _ := rfl
  requested := id
  ended := id

theorem trans (before : Relies call first second) (after : Relies call second third) :
    Relies call first third where
  holder := after.holder.trans before.holder
  pauseState held := (after.pauseState (before.holder.mpr held)).trans (before.pauseState held)
  frozen held := (after.frozen (before.holder.mpr held)).trans (before.frozen held)
  requested := after.requested ∘ before.requested
  ended := after.ended ∘ before.ended

theorem trusted (relies : Relies call first second) (held : first.pauseOps = some call)
    (trusted : first.Trusted) : second.Trusted := by
  intro going
  have before := going_before relies.ended going
  constructor
  · rw [relies.pauseState held, relies.frozen held]
    exact (trusted before).running
  · rw [relies.pauseState held, relies.frozen held]
    exact (trusted before).paused

end Relies

section Actions

variable {before after : PauseShared} {question : PauseQuestion} {answer : question.Answer}

/-- A change of the recorded state, or of the container, is made by the holder of `pause_ops` only. -/
def PauseQuestion.NeedsPauseOps : PauseQuestion → Prop
  | unlockPauseOps | setPauseState _ | setPaused _ => True
  | _ => False

theorem relies_of_acts (acts : PauseActs call ⟨question, answer, before, after⟩)
    (held : question.NeedsPauseOps → before.pauseOps = some call) {other : Nat} (different : other ≠ call) :
    Relies other before after := by
  have apart : some call ≠ some other := fun same => different (Option.some.inj same).symm
  cases question with
  | requestStop => subst acts; exact ⟨Iff.rfl, fun _ => rfl, fun _ => rfl, fun _ => rfl, id⟩
  | lockPauseOps operation =>
      obtain ⟨free, rfl⟩ := acts
      refine ⟨?_, fun _ => rfl, fun _ => rfl, id, id⟩
      rw [free]
      exact ⟨fun same => absurd same apart, fun never => (by cases never)⟩
  | unlockPauseOps =>
      subst acts
      refine ⟨?_, fun _ => rfl, fun _ => rfl, id, id⟩
      rw [held trivial]
      exact ⟨fun never => (by cases never), fun same => absurd same apart⟩
  | stopRequested | pauseState | connection | stopperOf =>
      obtain ⟨-, rfl⟩ := acts
      exact Relies.refl _ _
  | setPauseState state =>
      subst acts
      exact ⟨Iff.rfl, fun same => absurd ((held trivial).symm.trans same) apart, fun _ => rfl, id, id⟩
  | setPaused paused =>
      obtain ⟨sent, inspected, -, rest, -⟩ := acts
      rw [rest]
      exact ⟨Iff.rfl, fun _ => rfl, fun same => absurd ((held trivial).symm.trans same) apart, id, id⟩
  | stopContainer =>
      obtain ⟨rest, ended, -⟩ := acts
      rw [rest]
      exact ⟨Iff.rfl, fun _ => rfl, fun _ => rfl, id, ended⟩
  | markDisconnectStopped => subst acts; exact ⟨Iff.rfl, fun _ => rfl, fun _ => rfl, id, id⟩

/-- While nobody holds `pause_ops`, the recorded state is the truth. -/
def PauseShared.Settled (shared : PauseShared) : Prop := shared.pauseOps = none → shared.Trusted

theorem settled_of_acts (acts : PauseActs call ⟨question, answer, before, after⟩)
    (held : question.NeedsPauseOps → before.pauseOps = some call)
    (trusted : question = .unlockPauseOps → before.Trusted) (settled : before.Settled) : after.Settled := by
  cases question with
  | requestStop | markDisconnectStopped =>
      subst acts
      exact fun free going => ⟨(settled free going).running, (settled free going).paused⟩
  | lockPauseOps operation =>
      obtain ⟨-, rfl⟩ := acts
      intro free
      cases free
  | unlockPauseOps =>
      subst acts
      exact fun _ going => ⟨(trusted rfl going).running, (trusted rfl going).paused⟩
  | stopRequested | pauseState | connection | stopperOf =>
      obtain ⟨-, rfl⟩ := acts
      exact settled
  | setPauseState state =>
      subst acts
      intro free
      cases (held trivial).symm.trans free
  | setPaused paused =>
      obtain ⟨sent, inspected, -, rest, -⟩ := acts
      rw [rest]
      intro free
      cases (held trivial).symm.trans free
  | stopContainer =>
      obtain ⟨rest, ended, -⟩ := acts
      rw [rest]
      intro free going
      have still := going_before ended going
      exact ⟨(settled free still).running, (settled free still).paused⟩

theorem relies_of_changes (changes : PauseChanges before after) : Relies call before after := by
  obtain ⟨rest, ended⟩ := changes
  rw [rest]
  exact ⟨Iff.rfl, fun _ => rfl, fun _ => rfl, id, ended⟩

theorem settled_of_changes (settled : before.Settled) (changes : PauseChanges before after) :
    after.Settled := by
  obtain ⟨rest, ended⟩ := changes
  rw [rest]
  intro free going
  have still := going_before ended going
  exact ⟨(settled free still).running, (settled free still).paused⟩

theorem confirmPaused_eq_ok {paused : Bool} {note : String} {inspected : CliReply}
    (confirmed : confirmPaused paused note inspected = .ok ()) :
    ∃ output, inspected = .ok output ∧ output.success ∧ Text.trim output.stdout = pauseWant paused := by
  cases inspected with
  | ok output =>
      simp only [confirmPaused] at confirmed
      split at confirmed
      · next shown => exact ⟨output, rfl, shown.1, shown.2⟩
      · cases confirmed
  | error failure => cases confirmed

theorem confirmPaused_eq_error {paused : Bool} {note : String} {inspected : CliReply}
    {failure : PauseFailure} (failed : confirmPaused paused note inspected = .error failure) :
    failure.maybeApplied = true := by
  cases inspected with
  | ok output =>
      simp only [confirmPaused] at failed
      split at failed
      · cases failed
      · cases failed; rfl
  | error failure => cases failed; rfl

/-- A confirmed command was carried out. -/
theorem frozen_of_confirmed {paused : Bool} {sent inspected : CliReply}
    (carried : CarriedOut paused sent inspected before after) (going : before.ended = false)
    (confirmed : setPaused paused sent inspected = .ok ()) : after.frozen = paused := by
  have looked : ∃ note, confirmPaused paused note inspected = .ok () := by
    unfold setPaused at confirmed
    split at confirmed
    · cases confirmed
    · exact ⟨_, confirmed⟩
  obtain ⟨note, looked⟩ := looked
  obtain ⟨output, same, success, want⟩ := confirmPaused_eq_ok looked
  have truthful := carried.2.2.2 going output same success
  cases paused with
  | true => exact truthful.1 want
  | false => exact truthful.2 want

/-- A command that cannot have been carried out was not. -/
theorem frozen_of_not_applied {paused : Bool} {sent inspected : CliReply} {failure : PauseFailure}
    (carried : CarriedOut paused sent inspected before after)
    (failed : setPaused paused sent inspected = .error failure) (sure : failure.maybeApplied = false) :
    after.frozen = before.frozen := by
  unfold setPaused at failed
  split at failed
  · next why => exact carried.2.2.1 why rfl
  · rw [confirmPaused_eq_error failed] at sure
    cases sure

end Actions

section Terms

/-- The calls of a run in which every thaw by `stop` that was carried out was confirmed. -/
def pauseTerms : Terms PauseQuestion PauseQuestion.Answer PauseShared Nat where
  acts call past action := PauseActs call action ∧ ThawConfirmed past action
  changes := PauseChanges
  rely := Relies
  invariant := PauseShared.Settled
  may := MayAsk
  rely_refl := Relies.refl
  rely_trans := Relies.trans
  changes_rely := relies_of_changes
  changes_invariant := settled_of_changes

variable {α : Type} {asked : PauseQuestion} {next : asked.Answer → PauseProgram α}
  {post : List PauseAction → α → PauseShared → Prop}

/-- The rule of one question: what the other calls need of it follows from whose `pause_ops` it is. -/
theorem holds_ask (held : asked.NeedsPauseOps → shared.pauseOps = some call)
    (trusted : asked = .unlockPauseOps → shared.Trusted)
    (step : ∀ later, Relies call shared later → later.Settled →
      MayAsk call past asked later ∧
      ∀ answer after, PauseActs call ⟨asked, answer, later, after⟩ →
        ThawConfirmed past ⟨asked, answer, later, after⟩ →
        Holds pauseTerms call post (past ++ [⟨asked, answer, later, after⟩]) after (next answer)) :
    Holds pauseTerms call post past shared (askPause asked >>= next) := by
  refine holds_question_bind fun later relies settled => ?_
  obtain ⟨may, rest⟩ := step later relies settled
  refine ⟨may, fun answer after acts => ?_⟩
  have own : asked.NeedsPauseOps → later.pauseOps = some call := fun needs => relies.holder.mpr (held needs)
  refine ⟨fun other different => relies_of_acts acts.1 own different, ?_, rest answer after acts.1 acts.2⟩
  exact settled_of_acts acts.1 own (fun unlocks =>
    relies.trusted (held (unlocks ▸ trivial)) (trusted unlocks)) settled

end Terms

section Specs

/-- What a call leaves while it still holds `pause_ops`. -/
structure HoldsOps (call : Nat) (shared : PauseShared) : Prop where
  held : shared.pauseOps = some call
  trusted : shared.Trusted

theorem HoldsOps.relied {later : PauseShared} (holding : HoldsOps call shared)
    (relies : Relies call shared later) : HoldsOps call later where
  held := relies.holder.mpr holding.held
  trusted := relies.trusted holding.held holding.trusted

theorem HoldsOps.of_same {later after : PauseShared} (holding : HoldsOps call later) (same : after = later) :
    HoldsOps call after := same ▸ holding

open WorkloadStopper

/-- What is recorded after a command that was confirmed. -/
theorem holds_record {α : Type} {recorded : PauseState} {next : Unit → PauseProgram α}
    {post : List PauseAction → α → PauseShared → Prop}
    (held : shared.pauseOps = some call)
    (right : shared.ended = false →
      (recorded = .running → shared.frozen = false) ∧ (recorded = .paused → shared.frozen = true))
    (rest : ∀ later after, HoldsOps call after → after.pauseState = recorded →
      Holds pauseTerms call post (past ++ [⟨.setPauseState recorded, (), later, after⟩]) after (next ())) :
    Holds pauseTerms call post past shared (askPause (.setPauseState recorded) >>= next) := by
  refine holds_ask (fun _ => held) (fun never => (by cases never)) fun later relies _ =>
    ⟨trivial, fun answer after acts _ => ?_⟩
  cases acts
  refine rest later _ ⟨relies.holder.mpr held, fun going => ?_⟩ rfl
  have before := right (going_before relies.ended going)
  exact ⟨fun same => (relies.frozen held).trans (before.1 same),
    fun same => (relies.frozen held).trans (before.2 same)⟩

theorem apply_holds (frozen : Bool) {operation : PauseOperation} (holding : HoldsOps call shared)
    (inside : sectionOf past = some (operation, false)) :
    Holds pauseTerms call
      (fun _ result later => HoldsOps call later ∧
        (result = .ok () → later.pauseState = if frozen then .paused else .running))
      past shared (apply frozen) := by
  refine holds_ask (fun _ => holding.held) (fun never => (by cases never)) fun later relies _ =>
    ⟨⟨fun _ => (holding.relied relies).trusted, operation, false, inside, Or.inr rfl⟩,
      fun answer after acts _ => ?_⟩
  have now := holding.relied relies
  obtain ⟨sent, inspected, said, carried⟩ := acts
  have held : after.pauseOps = some call := by
    rw [carried.1]
    exact now.held
  have going : after.ended = false → later.ended = false := by
    rw [carried.1]
    exact id
  cases answer with
  | ok confirmed =>
      refine holds_record held (fun alive => ?_) fun before recorded done same => ?_
      · have froze := frozen_of_confirmed carried (going alive) said.symm
        cases frozen with
        | true => exact ⟨fun never => (by cases never), fun _ => froze⟩
        | false => exact ⟨fun _ => froze, fun never => (by cases never)⟩
      · exact holds_pure fun last relies _ =>
          ⟨done.relied relies, fun _ => (relies.pauseState done.held).trans same⟩
  | error failure =>
      dsimp only
      by_cases unsure : failure.maybeApplied = true
      · rw [if_pos unsure]
        refine holds_record held (fun _ => ⟨fun never => (by cases never), fun never => (by cases never)⟩)
          fun before recorded done _ => ?_
        exact holds_pure fun last relies _ => ⟨done.relied relies, fun never => (by cases never)⟩
      · rw [if_neg unsure]
        have same := frozen_of_not_applied carried said.symm (Bool.eq_false_iff.mpr unsure)
        have done : HoldsOps call after := by
          refine now.of_same ?_
          rw [carried.1, same]
        exact holds_pure fun last relies _ => ⟨done.relied relies, fun never => (by cases never)⟩

@[simp] theorem sectionOf_lock {operation : PauseOperation} {answer : Unit} {before after : PauseShared} :
    sectionOf (past ++ [⟨.lockPauseOps operation, answer, before, after⟩]) =
      some (operation, before.stopRequested) := by
  unfold sectionOf
  rw [List.filterMap_append]
  exact List.getLast?_concat

theorem sectionOf_snoc {action : PauseAction} (free : lockOf action = none) :
    sectionOf (past ++ [action]) = sectionOf past := by
  unfold sectionOf
  rw [List.filterMap_append, List.filterMap_cons_none free]
  simp

/-- `pause_ops` was taken and given back; right before that, the record was true, and so was `Right`. -/
def Released (past whole : List PauseAction) (Right : List PauseAction → PauseShared → Prop) : Prop :=
  ∃ during before after, whole = past ++ (during ++ [⟨.unlockPauseOps, (), before, after⟩]) ∧
    before.Trusted ∧ Right (past ++ during) before

/-- A call between its taking and its giving back `pause_ops`. -/
theorem withPauseOps_holds {operation : PauseOperation} {body : PauseProgram (Except String Unit)}
    (Right : List PauseAction → Except String Unit → PauseShared → Prop)
    (free : shared.pauseOps ≠ some call)
    (stable : ∀ {during result first second}, HoldsOps call first → Relies call first second →
      Right during result first → Right during result second)
    (inside : ∀ before after, HoldsOps call after → after.stopRequested = before.stopRequested →
      Holds pauseTerms call (fun during result later => HoldsOps call later ∧ Right during result later)
        (past ++ [⟨.lockPauseOps operation, (), before, after⟩]) after body) :
    Holds pauseTerms call
      (fun whole result later => later.pauseOps ≠ some call ∧
        Released past whole fun during before => Right during result before)
      past shared (withPauseOps operation body) := by
  refine holds_ask (fun never => never.elim) (fun never => (by cases never)) fun before relies settled =>
    ⟨fun held => absurd (relies.holder.mp held) free, fun answer after acts _ => ?_⟩
  obtain ⟨nobody, rfl⟩ := acts
  have holding : HoldsOps call { before with pauseOps := some call } :=
    ⟨rfl, fun going => ⟨(settled nobody going).running, (settled nobody going).paused⟩⟩
  refine Holds.bind ((inside before _ holding rfl).extends.mono fun whole result later ended => ?_)
  obtain ⟨⟨during, rfl⟩, done, right⟩ := ended
  refine holds_ask (fun _ => done.held) (fun _ => done.trusted) fun last relies _ =>
    ⟨fun _ => (done.relied relies).trusted, fun answer after acts _ => ?_⟩
  cases acts
  refine holds_pure fun final relied _ => ⟨fun held => (by cases relied.holder.mp held),
    [⟨.lockPauseOps operation, (), before, { before with pauseOps := some call }⟩] ++ during, last,
    { last with pauseOps := none }, ?_, (done.relied relies).trusted, ?_⟩
  · simp only [List.append_assoc]
  · simpa only [List.append_assoc] using stable done relies right

/-- What `pause` and `resume` do with `pause_ops`: nothing once a stop was requested. -/
theorem command_holds (frozen : Bool) (refusal : String) {operation : PauseOperation}
    {requested : Bool} (holding : HoldsOps call shared) (inside : sectionOf past = some (operation, requested))
    (known : requested = true → shared.stopRequested = true) :
    Holds pauseTerms call
      (fun _ result later => HoldsOps call later ∧
        (result = .ok () → later.pauseState = if frozen then .paused else .running))
      past shared (do
        if ← askPause .stopRequested then pure (.error refusal)
        else if (← askPause .pauseState) = (if frozen then .paused else .running) then pure (.ok ())
        else apply frozen) := by
  refine holds_ask (fun never => never.elim) (fun never => (by cases never)) fun later relies _ =>
    ⟨fun _ => (holding.relied relies).trusted, fun answer after acts _ => ?_⟩
  obtain ⟨said, rfl⟩ := acts
  have first := holding.relied relies
  by_cases stopping : answer = true
  · rw [if_pos stopping]
    exact holds_pure fun last relied _ => ⟨first.relied relied, fun never => (by cases never)⟩
  · rw [if_neg stopping]
    have unasked : requested = false := by
      refine going_before (fun asked => relies.requested (known asked)) ?_
      rw [← said]
      exact Bool.eq_false_iff.mpr stopping
    refine holds_ask (fun never => never.elim) (fun never => (by cases never)) fun last relied _ =>
      ⟨fun _ => (first.relied relied).trusted, fun state after acts _ => ?_⟩
    obtain ⟨shown, rfl⟩ := acts
    have second := first.relied relied
    by_cases same : state = if frozen then .paused else .running
    · rw [if_pos same]
      exact holds_pure fun final relied _ => ⟨second.relied relied, fun _ =>
        (relied.pauseState second.held).trans (shown.symm.trans same)⟩
    · rw [if_neg same]
      refine @apply_holds _ _ _ frozen operation second ?_
      rw [sectionOf_snoc rfl, sectionOf_snoc rfl, inside, unasked]

/-- What `pause` and `resume` leave. -/
def Left (frozen : Bool) (result : Except String Unit) (shared : PauseShared) : Prop :=
  result = .ok () → shared.pauseState = if frozen then .paused else .running

theorem pause_holds (free : shared.pauseOps ≠ some call) :
    Holds pauseTerms call
      (fun whole result later => later.pauseOps ≠ some call ∧
        Released past whole fun _ before => Left true result before)
      past shared pause := by
  refine withPauseOps_holds (fun _ => Left true) free ?_ fun before after holding same => ?_
  · exact fun holding relies left ok => (relies.pauseState holding.held).trans (left ok)
  · exact command_holds true _ holding sectionOf_lock fun requested => same.trans requested

theorem resume_holds (free : shared.pauseOps ≠ some call) :
    Holds pauseTerms call
      (fun whole result later => later.pauseOps ≠ some call ∧
        Released past whole fun _ before => Left false result before)
      past shared resume := by
  refine withPauseOps_holds (fun _ => Left false) free ?_ fun before after holding same => ?_
  · exact fun holding relies left ok => (relies.pauseState holding.held).trans (left ok)
  · exact command_holds false _ holding sectionOf_lock fun requested => same.trans requested

/-- `stop` comes to its kill with a container that is not frozen, or right after a thaw that failed. -/
theorem thawToStop_holds {requested : Bool} (holding : HoldsOps call shared)
    (inside : sectionOf past = some (.stop, requested)) :
    Holds pauseTerms call
      (fun whole _ later => HoldsOps call later ∧
        (later.ended = false → later.frozen = true → ThawFailed whole))
      past shared thawToStop := by
  refine holds_ask (fun never => never.elim) (fun never => (by cases never)) fun later relies _ =>
    ⟨fun _ => (holding.relied relies).trusted, fun state after acts _ => ?_⟩
  obtain ⟨shown, rfl⟩ := acts
  have first := holding.relied relies
  by_cases running : state = .running
  · rw [if_pos running]
    refine holds_pure fun last relied _ => ⟨first.relied relied, fun going frozen => ?_⟩
    have thawed := ((first.relied relied).trusted going).running
      ((relied.pauseState first.held).trans (shown.symm.trans running))
    rw [thawed] at frozen
    cases frozen
  · rw [if_neg running]
    refine holds_ask (fun _ => first.held) (fun never => (by cases never)) fun before relied _ =>
      ⟨⟨fun _ => (first.relied relied).trusted, .stop, requested, ?_, Or.inl rfl⟩,
        fun answer after acts confirmed => ?_⟩
    · rw [sectionOf_snoc rfl, inside]
    have second := first.relied relied
    obtain ⟨sent, inspected, said, carried⟩ := acts
    have held : after.pauseOps = some call := by
      rw [carried.1]
      exact second.held
    have recorded : after.pauseState = before.pauseState := by rw [carried.1]
    have still : after.ended = before.ended := by rw [carried.1]
    cases answer with
    | ok done =>
        refine holds_record held (fun alive => ?_) fun earlier last holding same => ?_
        · have thawed := frozen_of_confirmed carried (still ▸ alive) said.symm
          exact ⟨fun _ => thawed, fun never => (by cases never)⟩
        · refine holds_pure fun final relied _ => ⟨holding.relied relied, fun going frozen => ?_⟩
          have thawed := ((holding.relied relied).trusted going).running
            ((relied.pauseState holding.held).trans same)
          rw [thawed] at frozen
          cases frozen
    | error failure =>
        have trusted : after.Trusted := by
          intro going
          rw [still] at going
          constructor
          · intro same
            have stays : state = .running := by
              rw [shown, ← relied.pauseState first.held, ← recorded, same]
            exact absurd stays running
          · intro same
            refine confirmed ?_ (recorded.symm.trans same) going
            rw [sectionOf_snoc rfl, inside]
            rfl
        have done : HoldsOps call after := ⟨held, trusted⟩
        exact holds_pure fun final relied _ => ⟨done.relied relied, fun _ _ => ⟨_, failure, before, after, rfl⟩⟩

/-- The kill of a `stop`, and what it said. -/
def Killed (past whole : List PauseAction) (result : Except String Unit) : Prop :=
  ∃ earlier answer before after, whole = past ++ (earlier ++ [⟨.stopContainer, answer, before, after⟩]) ∧
    (answer = .ok () → after.ended = true) ∧ (result = .ok () ↔ answer = .ok ())

theorem stop_holds (free : shared.pauseOps ≠ some call) :
    Holds pauseTerms call
      (fun whole result later => later.pauseOps ≠ some call ∧
        Released past whole fun during _ => Killed past during result)
      past shared stop := by
  refine holds_ask (fun never => never.elim) (fun never => (by cases never)) fun later relies _ =>
    ⟨fun held => absurd (relies.holder.mp held) free, fun answer after acts _ => ?_⟩
  cases acts
  have unheld : ({ later with stopRequested := true } : PauseShared).pauseOps ≠ some call :=
    fun held => free (relies.holder.mp held)
  generalize asks : past ++ [(⟨.requestStop, answer, later, _⟩ : PauseAction)] = asked
  refine (withPauseOps_holds (fun during result _ => Killed asked during result) unheld
    (fun _ _ => id) fun locking locked holding _ => ?_).mono fun whole result last ended => ?_
  · refine Holds.bind ((thawToStop_holds holding sectionOf_lock).extends.mono fun whole note last ended => ?_)
    obtain ⟨⟨thawing, rfl⟩, done, thawed⟩ := ended
    refine holds_ask (fun never => never.elim) (fun never => (by cases never)) fun before relies _ =>
      ⟨⟨fun _ => (done.relied relies).trusted, fun going frozen => ?_⟩, fun answer after acts _ => ?_⟩
    · refine thawed (going_before relies.ended going) ?_
      rw [← relies.frozen done.held]
      exact frozen
    · obtain ⟨rest, ends, killed⟩ := acts
      have held : HoldsOps call after := by
        have now := done.relied relies
        rw [rest]
        refine ⟨now.held, fun going => ?_⟩
        have still := now.trusted (going_before ends going)
        exact ⟨still.running, still.paused⟩
      refine holds_pure fun final relied _ => ⟨held.relied relied,
        [⟨.lockPauseOps .stop, (), locking, locked⟩] ++ thawing, answer, before, after, ?_, killed, ?_⟩
      · simp only [List.append_assoc]
      · cases answer with
        | ok done => exact ⟨fun _ => rfl, fun _ => rfl⟩
        | error detail => exact ⟨fun never => (by cases never), fun never => (by cases never)⟩
  · obtain ⟨unheld, during, before, after, rfl, trusted, killed⟩ := ended
    subst asks
    refine ⟨unheld, [⟨.requestStop, (), later, { later with stopRequested := true }⟩] ++ during, before,
      after, ?_, trusted, ?_⟩
    · simp only [List.append_assoc]
    · obtain ⟨earlier, answer, killing, killed, same, right⟩ := killed
      refine ⟨[⟨.requestStop, (), later, { later with stopRequested := true }⟩] ++ earlier, answer, killing,
        killed, ?_, right⟩
      simpa only [List.append_assoc] using same

end Specs

section Panel

/-- The panel reads the clock and the record of the connection. -/
def looked (nowUnixMs : UInt64) (seen : PauseShared) : PauseAction :=
  ⟨.connection, (nowUnixMs, seen.watch), seen, seen⟩

/-- What was done about a workload that may not run, and may have been thawed. -/
inductive Undone : List PauseAction → Prop where
  /-- The thaw had failed, and the record still says that the container is frozen. -/
  | stillFrozen (during : List PauseAction) (seen : PauseShared) (recorded : seen.pauseState = .paused)
      (confirmed : seen.pauseOps = none → seen.ended = false → seen.frozen = true) :
      Undone (during ++ [⟨.pauseState, .paused, seen, seen⟩])
  /-- It was frozen again: this is confirmed where `pause_ops` is given back. -/
  | frozenAgain (during : List PauseAction) (before after : PauseShared) (recorded : before.pauseState = .paused)
      (confirmed : before.ended = false → before.frozen = true) :
      Undone (during ++ [⟨.unlockPauseOps, (), before, after⟩])
  /-- It could not be frozen again, and was stopped. -/
  | stopped (tail : List PauseAction) (before after : PauseShared)
      (killed : (⟨.stopContainer, .ok (), before, after⟩ : PauseAction) ∈ tail) (ended : after.ended = true) :
      Undone tail
  /-- Both failed. -/
  | neither (tail : List PauseAction) (detail : String) (before after : PauseShared)
      (killed : (⟨.stopContainer, .error detail, before, after⟩ : PauseAction) ∈ tail) : Undone tail

theorem Undone.cons {tail : List PauseAction} (undone : Undone tail) (first : PauseAction) :
    Undone (first :: tail) := by
  cases undone with
  | stillFrozen during seen recorded confirmed => exact .stillFrozen (first :: during) seen recorded confirmed
  | frozenAgain during before after recorded confirmed =>
      exact .frozenAgain (first :: during) before after recorded confirmed
  | stopped _ before after killed ended =>
      exact .stopped _ before after (List.mem_cons_of_mem first killed) ended
  | neither _ detail before after killed =>
      exact .neither _ detail before after (List.mem_cons_of_mem first killed)

/-- How the panel's `resume` ends. -/
inductive PanelResumeEnd (past : List PauseAction) (result : Except String Unit) : Prop where
  /-- Before any command was sent. -/
  | refused (why : String) (failed : result = .error why)
      (unsent : ∀ action ∈ past, ∀ paused, action.question ≠ .setPaused paused)
  /-- It was allowed when the panel looked again, after its handle had given back `pause_ops`. -/
  | allowed (earlier : List PauseAction) (before after : PauseShared) (nowUnixMs : UInt64)
      (seen : PauseShared)
      (same : past = earlier ++ [⟨.unlockPauseOps, (), before, after⟩, looked nowUnixMs seen])
      (allows : resumeAllowed nowUnixMs seen.watch = .ok ())
  /-- It was not. -/
  | undone (earlier tail : List PauseAction) (before after : PauseShared) (nowUnixMs : UInt64)
      (seen : PauseShared) (reason why : String) (failed : result = .error why)
      (same : past = earlier ++ [⟨.unlockPauseOps, (), before, after⟩, looked nowUnixMs seen] ++ tail)
      (forbids : resumeAllowed nowUnixMs seen.watch = .error reason) (undone : Undone tail)

theorem checkResumeAllowed_holds (free : shared.pauseOps ≠ some call) :
    Holds pauseTerms call
      (fun whole result later => later.pauseOps ≠ some call ∧ ∃ nowUnixMs seen,
        whole = past ++ [looked nowUnixMs seen] ∧ result = resumeAllowed nowUnixMs seen.watch)
      past shared checkResumeAllowed := by
  refine holds_ask (fun never => never.elim) (fun never => (by cases never)) fun later relies _ =>
    ⟨fun held => absurd (relies.holder.mp held) free, fun answer after acts _ => ?_⟩
  obtain ⟨nowUnixMs, watch⟩ := answer
  obtain ⟨said, rfl⟩ := acts
  have said : watch = after.watch := said
  subst said
  exact holds_pure fun last relied _ =>
    ⟨fun held => free (relies.holder.mp (relied.holder.mp held)), nowUnixMs, after, rfl, rfl⟩

theorem stopperOf_holds (attemptId : String) (free : shared.pauseOps ≠ some call) :
    Holds pauseTerms call
      (fun whole _ later => later.pauseOps ≠ some call ∧ ∃ registered seen,
        whole = past ++ [⟨.stopperOf, registered, seen, seen⟩])
      past shared (stopperOf attemptId) := by
  refine holds_ask (fun never => never.elim) (fun never => (by cases never)) fun later relies _ =>
    ⟨fun held => absurd (relies.holder.mp held) free, fun registered after acts _ => ?_⟩
  obtain ⟨-, rfl⟩ := acts
  split
  · exact holds_pure fun last relied _ =>
      ⟨fun held => free (relies.holder.mp (relied.holder.mp held)), registered, after, rfl⟩
  · exact holds_pure fun last relied _ =>
      ⟨fun held => free (relies.holder.mp (relied.holder.mp held)), registered, after, rfl⟩

theorem undoResume_holds (why : String) (free : shared.pauseOps ≠ some call) :
    Holds pauseTerms call
      (fun whole result later => later.pauseOps ≠ some call ∧ ∃ tail text,
        whole = past ++ tail ∧ result = .error text ∧ Undone tail)
      past shared (undoResume why) := by
  refine Holds.bind ((pause_holds free).mono fun whole frozen later ended => ?_)
  obtain ⟨unheld, during, before, after, rfl, trusted, left⟩ := ended
  cases frozen with
  | ok done =>
      have recorded : before.pauseState = .paused := left rfl
      exact holds_pure fun last relied _ => ⟨fun held => unheld (relied.holder.mp held), _, _, rfl, rfl,
        .frozenAgain during before after recorded fun going => (trusted going).paused recorded⟩
  | error freeze =>
      refine Holds.bind ((stop_holds unheld).mono fun whole stopped later ended => ?_)
      obtain ⟨unheld, stopping, last, left, rfl, -, earlier, answer, killing, killed, same, ends, agrees⟩ :=
        ended
      have inside : (⟨.stopContainer, answer, killing, killed⟩ : PauseAction) ∈ stopping := by
        rw [List.append_cancel_left same]
        exact List.mem_append_right _ (List.mem_singleton_self _)
      cases stopped with
      | ok done =>
          refine holds_ask (fun never => never.elim) (fun never => (by cases never)) fun marking relied _ =>
            ⟨fun held => absurd (relied.holder.mp held) unheld, fun marked after acts _ => ?_⟩
          have same : answer = .ok () := agrees.mp rfl
          subst same
          cases acts
          exact holds_pure fun final further _ =>
            ⟨fun held => unheld (relied.holder.mp (further.holder.mp held)), _, _,
              (List.append_assoc _ _ _).trans (List.append_assoc _ _ _), rfl,
              .stopped _ killing killed (by simp [inside]) (ends rfl)⟩
      | error stop =>
          cases answer with
          | ok done => cases agrees.mpr rfl
          | error detail =>
              exact holds_pure fun final relied _ => ⟨fun held => unheld (relied.holder.mp held), _, _,
                List.append_assoc _ _ _, rfl, .neither _ detail killing killed (by simp [inside])⟩

/-- The container is as the handle left it; the panel looks again. -/
theorem afterResume_holds (resumed : Except String Unit) {earlier : List PauseAction}
    {before after : PauseShared} (same : past = earlier ++ [⟨.unlockPauseOps, (), before, after⟩])
    (free : shared.pauseOps ≠ some call) :
    Holds pauseTerms call
      (fun whole result later => later.pauseOps ≠ some call ∧ PanelResumeEnd whole result)
      past shared (afterResume resumed) := by
  refine Holds.bind ((checkResumeAllowed_holds free).mono fun whole checked later ended => ?_)
  obtain ⟨unheld, nowUnixMs, seen, rfl, judged⟩ := ended
  have whole : past ++ [looked nowUnixMs seen] =
      earlier ++ [⟨.unlockPauseOps, (), before, after⟩, looked nowUnixMs seen] := by
    rw [same, List.append_assoc]
    rfl
  rw [whole]
  cases checked with
  | ok allowed =>
      have ends : ∀ result, PanelResumeEnd
          (earlier ++ [⟨.unlockPauseOps, (), before, after⟩, looked nowUnixMs seen]) result :=
        fun result => .allowed earlier before after nowUnixMs seen rfl judged.symm
      cases resumed with
      | ok running => exact holds_pure fun last relied _ => ⟨fun held => unheld (relied.holder.mp held), ends _⟩
      | error error => exact holds_pure fun last relied _ => ⟨fun held => unheld (relied.holder.mp held), ends _⟩
  | error why =>
      have undoes : Holds pauseTerms call
          (fun whole result later => later.pauseOps ≠ some call ∧ PanelResumeEnd whole result)
          (earlier ++ [⟨.unlockPauseOps, (), before, after⟩, looked nowUnixMs seen]) later
          (undoResume why) := by
        refine (undoResume_holds why unheld).mono fun whole result last ended => ?_
        obtain ⟨unheld, tail, text, rfl, failed, undone⟩ := ended
        exact ⟨unheld, .undone earlier tail before after nowUnixMs seen why text failed rfl judged.symm undone⟩
      cases resumed with
      | ok running => exact undoes
      | error error =>
          refine holds_ask (fun never => never.elim) (fun never => (by cases never))
            fun last relied settled =>
              ⟨fun held => absurd (relied.holder.mp held) unheld, fun state read acts _ => ?_⟩
          obtain ⟨shown, rfl⟩ := acts
          have unheld' : read.pauseOps ≠ some call := fun held => unheld (relied.holder.mp held)
          by_cases paused : state = .paused
          · rw [if_pos paused]
            subst paused
            refine holds_pure fun final further _ => ⟨fun held => unheld' (further.holder.mp held), ?_⟩
            exact .undone earlier _ before after nowUnixMs seen why error rfl rfl judged.symm
              (.stillFrozen [] read shown.symm fun nobody going => (settled nobody going).paused shown.symm)
          · rw [if_neg paused]
            refine (undoResume_holds why unheld').mono fun whole result last ended => ?_
            obtain ⟨unheld, tail, text, rfl, failed, undone⟩ := ended
            exact ⟨unheld, .undone earlier _ before after nowUnixMs seen why text failed
              (List.append_assoc _ _ _) judged.symm (undone.cons _)⟩

theorem panelPause_holds (attemptId : String) (free : shared.pauseOps ≠ some call) :
    Holds pauseTerms call (fun _ _ later => later.pauseOps ≠ some call) past shared (panelPause attemptId) := by
  refine holds_ask (fun never => never.elim) (fun never => (by cases never)) fun later relies _ =>
    ⟨fun held => absurd (relies.holder.mp held) free, fun answer after acts _ => ?_⟩
  obtain ⟨-, rfl⟩ := acts
  obtain ⟨nowUnixMs, watch⟩ := answer
  dsimp only
  have unheld : after.pauseOps ≠ some call := fun held => free (relies.holder.mp held)
  by_cases unwatched : watch.isNone = true
  · rw [if_pos unwatched]
    exact holds_pure fun last relied _ held => unheld (relied.holder.mp held)
  · rw [if_neg unwatched]
    refine Holds.bind ((stopperOf_holds attemptId unheld).mono fun whole found last ended => ?_)
    obtain ⟨unheld, -⟩ := ended
    cases found with
    | ok found => exact (pause_holds unheld).mono fun _ _ _ left => left.1
    | error why => exact holds_pure fun last relied _ held => unheld (relied.holder.mp held)

theorem panelResume_holds (attemptId : String) (free : shared.pauseOps ≠ some call) :
    Holds pauseTerms call
      (fun whole result later => later.pauseOps ≠ some call ∧ PanelResumeEnd whole result)
      [] shared (panelResume attemptId) := by
  refine Holds.bind ((checkResumeAllowed_holds free).mono fun whole first later ended => ?_)
  obtain ⟨unheld, firstUnixMs, firstSeen, rfl, -⟩ := ended
  cases first with
  | error why =>
      exact holds_pure fun last relied _ => ⟨fun held => unheld (relied.holder.mp held),
        .refused why rfl (by simp [looked])⟩
  | ok allowed =>
      refine Holds.bind ((stopperOf_holds attemptId unheld).mono fun whole found later ended => ?_)
      obtain ⟨unheld, registered, listed, rfl⟩ := ended
      cases found with
      | error why =>
          exact holds_pure fun last relied _ => ⟨fun held => unheld (relied.holder.mp held),
            .refused why rfl (by simp [looked])⟩
      | ok found =>
          refine Holds.bind ((checkResumeAllowed_holds unheld).mono fun whole second later ended => ?_)
          obtain ⟨unheld, secondUnixMs, secondSeen, rfl, -⟩ := ended
          cases second with
          | error why =>
              exact holds_pure fun last relied _ => ⟨fun held => unheld (relied.holder.mp held),
                .refused why rfl (by simp [looked])⟩
          | ok allowed =>
              refine Holds.bind ((resume_holds unheld).mono fun whole resumed later ended => ?_)
              obtain ⟨unheld, during, before, after, rfl, -, -⟩ := ended
              exact afterResume_holds resumed (List.append_assoc _ _ _).symm unheld

end Panel

section Runs

/-- Some call has commanded the runtime, and is about to record what it was told. -/
def Recording (pool : PausePool) : Prop :=
  ∃ call state next, (pool.threads call).rest = .ask (.setPauseState state) next

structure PauseSafe (calls : Nat → PauseCall) (pool : PausePool) : Prop where
  running : ¬ Recording pool → pool.shared.ended = false → pool.shared.pauseState = .running →
    pool.shared.frozen = false
  paused : ¬ Recording pool → pool.shared.ended = false → pool.shared.pauseState = .paused →
    pool.shared.frozen = true
  /-- The kill goes to a frozen container only right after a thaw that failed. -/
  killed : ∀ call next, (pool.threads call).rest = .ask .stopContainer next →
    pool.shared.ended = false → pool.shared.frozen = true → ThawFailed (pool.threads call).past
  /-- A command is sent by a `stop`, or by a call that took `pause_ops` before any stop was requested. -/
  sent : ∀ call paused next, (pool.threads call).rest = .ask (.setPaused paused) next →
    MaySend (pool.threads call).past
  resumed : ∀ call result, calls call = .panelResume → (pool.threads call).rest = .done result →
    PanelResumeEnd (pool.threads call).past result

/-- What a finished call has kept. -/
def CallEnds (call : Nat) (kind : PauseCall) (past : List PauseAction) (result : Except String Unit)
    (shared : PauseShared) : Prop :=
  shared.pauseOps ≠ some call ∧ (kind = .panelResume → PanelResumeEnd past result)

theorem call_holds (attemptId : String) (call : Nat) (kind : PauseCall) {shared : PauseShared}
    (free : shared.pauseOps = none) :
    Holds pauseTerms call (CallEnds call kind) [] shared (kind.program attemptId) := by
  have unheld : shared.pauseOps ≠ some call := by
    rw [free]
    intro never
    cases never
  cases kind with
  | pause => exact (pause_holds unheld).mono fun _ _ _ left => ⟨left.1, fun never => (by cases never)⟩
  | resume => exact (resume_holds unheld).mono fun _ _ _ left => ⟨left.1, fun never => (by cases never)⟩
  | stop => exact (stop_holds unheld).mono fun _ _ _ left => ⟨left.1, fun never => (by cases never)⟩
  | panelPause =>
      exact (panelPause_holds attemptId unheld).mono fun _ _ _ left => ⟨left, fun never => (by cases never)⟩
  | panelResume => exact (panelResume_holds attemptId unheld).mono fun _ _ _ left => ⟨left.1, fun _ => left.2⟩

variable {calls : Nat → PauseCall} {pool : PausePool}

/-- Where no call is about to record, the record is the truth: it is one that the holder of `pause_ops` may
go on from, or nobody holds it. -/
theorem trusted_of_holds (holds : pool.Holds pauseTerms fun call => CallEnds call (calls call))
    (quiet : ¬ Recording pool) : pool.shared.Trusted := by
  cases held : pool.shared.pauseOps with
  | none => exact holds.invariant held
  | some call =>
      cases rest : (pool.threads call).rest with
      | done result => exact absurd held (holds.ended rest).1
      | ask question next =>
          have may := holds.asks rest
          cases question with
          | setPauseState state => exact absurd ⟨call, state, next, rest⟩ quiet
          | setPaused paused => exact may.1 held
          | stopContainer => exact may.1 held
          | requestStop | lockPauseOps operation | unlockPauseOps | stopRequested | pauseState | connection
          | stopperOf | markDisconnectStopped => exact may held

theorem safe_of_holds (holds : pool.Holds pauseTerms fun call => CallEnds call (calls call)) :
    PauseSafe calls pool where
  running quiet going := (trusted_of_holds holds quiet going).running
  paused quiet going := (trusted_of_holds holds quiet going).paused
  killed _ _ rest := (holds.asks rest).2
  sent _ _ _ rest := (holds.asks rest).2
  resumed _ _ kind rest := (holds.ended rest).2 kind

/-- In every run in which no `stop` goes on after an unconfirmed thaw that was carried out. -/
theorem pause_state_is_the_truth (attemptId : String) (watch : Option ConnectionWatch) (registered : Bool)
    (calls : Nat → PauseCall) (pool : PausePool)
    (run : Reaches (fun call past action => PauseActs call action ∧ ThawConfirmed past action) PauseChanges
      (startCalls attemptId watch registered calls) pool) :
    PauseSafe calls pool := by
  have starts : (startCalls attemptId watch registered calls).Holds pauseTerms
      fun call => CallEnds call (calls call) := by
    refine holds_start (fun _ _ => ⟨fun _ => rfl, fun never => (by cases never)⟩) fun call => ?_
    exact call_holds attemptId call (calls call) rfl
  exact safe_of_holds (starts.reaches run)

end Runs

section Examples

/-- A reply of the runtime that prints `stdout`. -/
def printed (stdout : String) : CliReply := .ok ⟨true, "", stdout, ""⟩

/-- A container that was frozen, as its handle records. -/
def frozenShared : PauseShared := { PauseShared.new none true with frozen := true, pauseState := .paused }

theorem confirmed_freeze : ∃ sent inspected, .ok () = setPaused true sent inspected ∧
    CarriedOut true sent inspected { PauseShared.new none true with pauseOps := some 0 }
      { PauseShared.new none true with pauseOps := some 0, frozen := true } := by
  have prints : Text.trim "true" = "true" := by decide
  refine ⟨printed "", printed "true", ?_, rfl, Or.inr rfl, ?_, ?_⟩
  · simp [setPaused, printed, confirmPaused, pauseWant, prints]
  · intro why never
    cases never
  · rintro - output same -
    cases same
    refine ⟨fun _ => rfl, fun other => ?_⟩
    rw [prints] at other
    simp at other

/-- A `pause` with nothing in its way. -/
theorem pause_advances : ∃ past, Advances
    (fun call past action => PauseActs call action ∧ ThawConfirmed past action) 0 (.new none true)
    ⟨[], WorkloadStopper.pause⟩ frozenShared ⟨past, .done (.ok ())⟩ :=
  let held : PauseShared := { PauseShared.new none true with pauseOps := some 0 }
  let frozen := { held with frozen := true }
  let recorded := { frozen with pauseState := .paused }
  ⟨_, .act () held ⟨⟨rfl, rfl⟩, trivial⟩ <| .act false held ⟨⟨rfl, rfl⟩, trivial⟩ <|
    .act PauseState.running held ⟨⟨rfl, rfl⟩, trivial⟩ <| .act (.ok ()) frozen ⟨by exact confirmed_freeze, trivial⟩ <|
    .act () recorded ⟨by exact rfl, trivial⟩ <| .act () frozenShared ⟨by exact rfl, trivial⟩ <| .refl _ _⟩

/-- A handle that nobody uses but one `pause`. -/
theorem pause_leaves_the_truth : ∃ pool : PausePool, pool.shared = frozenShared ∧
    PauseSafe (fun _ => .pause) pool := by
  obtain ⟨past, advances⟩ := pause_advances
  exact ⟨_, rfl, pause_state_is_the_truth "a" none true (fun _ => .pause) _ (advances.reaches PauseChanges rfl)⟩

theorem unconfirmed_thaw {shared : PauseShared} : ∃ failure sent inspected,
    .error failure = setPaused false sent inspected ∧
      CarriedOut false sent inspected shared { shared with frozen := false } := by
  refine ⟨_, printed "", .error (.afterSpawn "no answer"), rfl, rfl, Or.inr rfl, ?_, ?_⟩
  · intro why never
    cases never
  · rintro - output never
    cases never

/-- A `stop` whose thaw is carried out and not confirmed, and whose kill is not sent. -/
theorem stop_advances : ∃ past result, Advances (fun call _ action => PauseActs call action) 1 frozenShared
    ⟨[], WorkloadStopper.stop⟩ { frozenShared with frozen := false, stopRequested := true }
    ⟨past, .done result⟩ := by
  obtain ⟨failure, thaw⟩ := @unconfirmed_thaw { frozenShared with stopRequested := true, pauseOps := some 1 }
  exact
    let asked : PauseShared := { frozenShared with stopRequested := true }
    let held := { asked with pauseOps := some 1 }
    let thawed := { held with frozen := false }
    ⟨_, _, .act () asked (by exact rfl) <| .act () held (by exact ⟨rfl, rfl⟩) <|
      .act PauseState.paused held (by exact ⟨rfl, rfl⟩) <| .act (.error failure) thawed (by exact thaw) <|
      .act (.error "not sent") thawed (by exact ⟨rfl, id, fun never => (by cases never)⟩) <|
      .act () { thawed with pauseOps := none } (by exact rfl) <| .refl _ _⟩

/-- The thaw of `stop` was carried out and not confirmed: the handle still says that the container is frozen,
and it runs. -/
theorem stop_leaves_a_false_record : ¬ ∀ (attemptId : String) (watch : Option ConnectionWatch)
    (registered : Bool) (calls : Nat → PauseCall) (pool : PausePool),
    Reaches (fun call _ action => PauseActs call action) PauseChanges
      (startCalls attemptId watch registered calls) pool → PauseSafe calls pool := by
  intro claimed
  let calls : Nat → PauseCall := fun call => if call = 1 then .stop else .pause
  obtain ⟨paused, pausing⟩ := pause_advances
  obtain ⟨stopped, result, stopping⟩ := stop_advances
  have waits : Function.update (startCalls "a" none true calls).threads 0 ⟨paused, .done (.ok ())⟩ 1 =
      ⟨[], WorkloadStopper.stop⟩ := rfl
  have weak : Advances (fun call _ action => PauseActs call action) 0 (.new none true)
      ⟨[], WorkloadStopper.pause⟩ frozenShared ⟨paused, .done (.ok ())⟩ :=
    pausing.mono fun _ _ acts => acts.1
  have first : Reaches (fun call _ action => PauseActs call action) PauseChanges
      (startCalls "a" none true calls) _ := weak.reaches PauseChanges rfl
  have safe := claimed "a" none true calls _ (first.trans (stopping.reaches PauseChanges waits))
  have truth := safe.paused ?_ rfl rfl
  · cases truth
  · rintro ⟨call, state, next, rest⟩
    by_cases one : call = 1
    · subst one
      cases rest
    · by_cases zero : call = 0
      · subst zero
        cases rest
      · simp only [Function.update_of_ne one, Function.update_of_ne zero, calls, if_neg one] at rest
        cases rest

end Examples

end Gputeer.Agent
