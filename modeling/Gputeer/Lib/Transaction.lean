import Mathlib.Data.List.Forall2
import Mathlib.Tactic.Common

/-! Bodies that read and write a working copy and may fail half-way, and the transactions around them. -/

namespace Transaction

variable {State Fault Other α β : Type}

/-- A body that fails has written what it wrote until then. -/
abbrev Body (State Fault : Type) := ExceptT Fault (StateM State)

namespace Body

/-- What the body answers, and the working copy after it. -/
def on (body : Body State Fault α) (state : State) : Except Fault α × State := body.run.run state

/-- Nothing is read or written. -/
def ofExcept (result : Except Fault α) : Body State Fault α := ExceptT.mk fun state => (result, state)

/-- Every failure of the body under another name. -/
def mapError (rename : Fault → Other) (body : Body State Fault α) : Body State Other α :=
  ExceptT.mk fun state => ((body.on state).1.mapError rename, (body.on state).2)

/-- A body that came to its end is committed; what a failed one wrote is rolled back. -/
def immediate (body : Body State Fault α) : Body State Fault α :=
  ExceptT.mk fun state => ((body.on state).1, if (body.on state).1.isOk then (body.on state).2 else state)

/-- The body comes to its end with this answer and this working copy. -/
def Does (body : Body State Fault α) (state : State) (answer : α) (later : State) : Prop :=
  body.on state = (.ok answer, later)

variable {body : Body State Fault α} {state later : State} {answer : α}

@[simp] theorem does_pure {value : α} :
    Does (pure value : Body State Fault α) state answer later ↔ value = answer ∧ state = later := by
  have ran : (pure value : Body State Fault α).on state = (.ok value, state) := rfl
  rw [Does, ran, Prod.mk.injEq, Except.ok.injEq]

theorem on_bind_ok {next : α → Body State Fault β} (done : body.on state = (.ok answer, later)) :
    (body >>= next).on state = (next answer).on later := by
  simp only [on, bind, ExceptT.bind, ExceptT.run, ExceptT.mk, StateT.run, StateT.bind] at done ⊢
  rw [done]
  rfl

theorem on_bind_error {next : α → Body State Fault β} {fault : Fault} (failed : body.on state = (.error fault, later)) :
    (body >>= next).on state = (.error fault, later) := by
  simp only [on, bind, ExceptT.bind, ExceptT.run, ExceptT.mk, StateT.run, StateT.bind] at failed ⊢
  rw [failed]
  rfl

@[simp] theorem does_bind {next : α → Body State Fault β} {last : β} :
    Does (body >>= next) state last later ↔
      ∃ answer between, Does body state answer between ∧ Does (next answer) between last later := by
  unfold Does
  rcases ran : body.on state with ⟨fault | answer, between⟩
  · rw [on_bind_error ran]
    simp
  · rw [on_bind_ok ran]
    simp

@[simp] theorem does_get {found : State} :
    Does (get : Body State Fault State) state found later ↔ found = state ∧ later = state := by
  constructor
  · intro done
    cases done
    exact ⟨rfl, rfl⟩
  · rintro ⟨rfl, rfl⟩
    rfl

@[simp] theorem does_set {written : State} {done : PUnit} :
    Does (set written : Body State Fault PUnit) state done later ↔ later = written := by
  constructor
  · intro done
    cases done
    rfl
  · rintro rfl
    rfl

@[simp] theorem does_modify {change : State → State} {done : PUnit} :
    Does (modify change : Body State Fault PUnit) state done later ↔ later = change state := by
  constructor
  · intro done
    cases done
    rfl
  · rintro rfl
    rfl

@[simp] theorem does_ofExcept {result : Except Fault α} :
    Does (ofExcept result : Body State Fault α) state answer later ↔ result = .ok answer ∧ later = state := by
  show (result, state) = (Except.ok answer, later) ↔ _
  rw [Prod.mk.injEq, eq_comm (a := later)]

@[simp] theorem does_mapError {rename : Fault → Other} :
    Does (body.mapError rename) state answer later ↔ Does body state answer later := by
  show ((body.on state).1.mapError rename, (body.on state).2) = _ ↔ body.on state = _
  rcases body.on state with ⟨answered | answered, between⟩ <;> simp [Except.mapError]

@[simp] theorem does_immediate :
    Does body.immediate state answer later ↔ Does body state answer later := by
  show ((body.on state).1, if (body.on state).1.isOk then (body.on state).2 else state) = _ ↔ body.on state = _
  rcases body.on state with ⟨fault | answer, between⟩ <;> simp [Except.isOk, Except.toBool]

theorem does_forM_nil {f : α → Body State Fault PUnit} {done : PUnit} :
    Does (List.forM [] f) state done later ↔ later = state := by
  simp [eq_comm]

theorem does_forM_cons {f : α → Body State Fault PUnit} {item : α} {items : List α} {done : PUnit} :
    Does (List.forM (item :: items) f) state done later ↔
      ∃ between, Does (f item) state ⟨⟩ between ∧ Does (List.forM items f) between ⟨⟩ later := by
  simp only [List.forM_eq_forM, List.forM_cons, does_bind]
  constructor
  · rintro ⟨_, between, first, rest⟩
    exact ⟨between, first, rest⟩
  · rintro ⟨between, first, rest⟩
    exact ⟨⟨⟩, between, first, rest⟩

theorem does_foldlM_cons {f : β → α → Body State Fault β} {start last : β} {item : α} {items : List α} :
    Does (List.foldlM f start (item :: items)) state last later ↔
      ∃ next between, Does (f start item) state next between ∧
        Does (List.foldlM f next items) between last later := by
  simp

/-! ### Failing without a trace -/

/-- A body that fails leaves the state as it was. -/
def Atomic (body : Body State Fault α) : Prop :=
  ∀ ⦃state later : State⦄ ⦃fault : Fault⦄, body.on state = (.error fault, later) → later = state

/-- A transaction that fails is rolled back. -/
theorem immediate_atomic (body : Body State Fault α) : Atomic body.immediate := by
  intro state later fault failed
  replace failed : ((body.on state).1, if (body.on state).1.isOk then (body.on state).2 else state) =
    (Except.error fault, later) := failed
  rcases ran : body.on state with ⟨other | answer, between⟩
  · rw [ran] at failed
    exact (congrArg Prod.snd failed).symm
  · rw [ran] at failed
    cases (congrArg Prod.fst failed)

/-- Nothing is written before the rest begins. -/
theorem ofExcept_bind_atomic {result : Except Fault α} {next : α → Body State Fault β}
    (rest : ∀ answer, Atomic (next answer)) : Atomic (ofExcept result >>= next) := by
  intro state later fault failed
  cases result with
  | error other =>
      rw [on_bind_error (rfl : (ofExcept (.error other) : Body State Fault α).on state = (.error other, state))]
        at failed
      exact (congrArg Prod.snd failed).symm
  | ok answer =>
      rw [on_bind_ok (rfl : (ofExcept (.ok answer) : Body State Fault α).on state = (.ok answer, state))] at failed
      exact rest answer failed

/-- After the last step that can fail the answer is only put together. -/
theorem bind_pure_atomic {body : Body State Fault α} (atomic : Atomic body) (f : α → β) :
    Atomic (body >>= fun answer => pure (f answer)) := by
  intro state later fault failed
  rcases ran : body.on state with ⟨other | answer, between⟩
  · rw [on_bind_error ran] at failed
    obtain rfl : between = later := congrArg Prod.snd failed
    exact atomic ran
  · rw [on_bind_ok ran] at failed
    cases (congrArg Prod.fst failed)

end Body

end Transaction
