import Gputeer.Lib.Dialogue
import Mathlib.Logic.Relation

/-! Programs that run at the same time over one shared state. A step is one question of one of them, answered
by the shared state, or a change from outside. Each program is proved by itself, against what it may rely on
between two of its own questions. -/

namespace Interleaving

variable {Question : Type} {Answer : Question → Type} {Shared α β Thread : Type}

/-- A question, its answer, and the shared state on both sides of it. -/
structure Action (Question : Type) (Answer : Question → Type) (Shared : Type) where
  question : Question
  answer : Answer question
  before : Shared
  after : Shared

/-- What a program has done, and what is left of it. -/
structure Running (Question : Type) (Answer : Question → Type) (Shared α : Type) where
  past : List (Action Question Answer Shared)
  rest : Dialogue Question Answer α

structure Pool (Question : Type) (Answer : Question → Type) (Shared Thread α : Type) where
  shared : Shared
  threads : Thread → Running Question Answer Shared α

def Pool.start (shared : Shared) (programs : Thread → Dialogue Question Answer α) :
    Pool Question Answer Shared Thread α where
  shared := shared
  threads thread := ⟨[], programs thread⟩

section Steps

variable [DecidableEq Thread]
  (acts : Thread → List (Action Question Answer Shared) → Action Question Answer Shared → Prop)
  (changes : Shared → Shared → Prop)

inductive Step :
    Pool Question Answer Shared Thread α → Pool Question Answer Shared Thread α → Prop where
  | acted {pool : Pool Question Answer Shared Thread α} (thread : Thread) {question : Question}
      {next : Answer question → Dialogue Question Answer α} (answer : Answer question) (after : Shared)
      (asks : (pool.threads thread).rest = .ask question next)
      (act : acts thread (pool.threads thread).past ⟨question, answer, pool.shared, after⟩) :
      Step pool
        ⟨after, Function.update pool.threads thread
          ⟨(pool.threads thread).past ++ [⟨question, answer, pool.shared, after⟩], next answer⟩⟩
  | changed {pool : Pool Question Answer Shared Thread α} (after : Shared)
      (change : changes pool.shared after) : Step pool { pool with shared := after }

abbrev Reaches :
    Pool Question Answer Shared Thread α → Pool Question Answer Shared Thread α → Prop :=
  Relation.ReflTransGen (Step acts changes)

/-- One program goes on while the others stand still. -/
inductive Advances (thread : Thread) :
    Shared → Running Question Answer Shared α → Shared → Running Question Answer Shared α → Prop where
  | refl (shared : Shared) (running : Running Question Answer Shared α) :
      Advances thread shared running shared running
  | act {shared later : Shared} {past : List (Action Question Answer Shared)} {question : Question}
      {next : Answer question → Dialogue Question Answer α}
      {last : Running Question Answer Shared α} (answer : Answer question) (after : Shared)
      (act : acts thread past ⟨question, answer, shared, after⟩)
      (rest : Advances thread after ⟨past ++ [⟨question, answer, shared, after⟩], next answer⟩ later last) :
      Advances thread shared ⟨past, .ask question next⟩ later last

variable {acts}

omit [DecidableEq Thread] in
theorem Advances.mono {thread : Thread} {shared later : Shared}
    {running last : Running Question Answer Shared α}
    {wider : Thread → List (Action Question Answer Shared) → Action Question Answer Shared → Prop}
    (advances : Advances acts thread shared running later last)
    (implies : ∀ past action, acts thread past action → wider thread past action) :
    Advances wider thread shared running later last := by
  induction advances with
  | refl shared running => exact .refl shared running
  | act answer after act rest ih => exact .act answer after (implies _ _ act) ih

theorem Advances.reaches {thread : Thread} {shared later : Shared}
    {running last : Running Question Answer Shared α}
    (advances : Advances acts thread shared running later last) (changes : Shared → Shared → Prop)
    {threads : Thread → Running Question Answer Shared α} (now : threads thread = running) :
    Reaches acts changes ⟨shared, threads⟩ ⟨later, Function.update threads thread last⟩ := by
  induction advances generalizing threads with
  | refl shared running =>
      rw [← now, Function.update_eq_self]
  | act answer after act rest ih =>
      have asks : (threads thread).rest = .ask _ _ := congrArg Running.rest now
      have past : (threads thread).past = _ := congrArg Running.past now
      have first : Step acts changes ⟨_, threads⟩ _ := .acted thread answer after asks (by rw [past]; exact act)
      rw [past] at first
      refine Relation.ReflTransGen.head first ?_
      have further := ih (Function.update_self thread _ threads)
      rwa [Function.update_idem] at further

end Steps

/-- What each thread may do, may ask and relies on while it does not act, and what no step breaks. -/
structure Terms (Question : Type) (Answer : Question → Type) (Shared Thread : Type) where
  acts : Thread → List (Action Question Answer Shared) → Action Question Answer Shared → Prop
  changes : Shared → Shared → Prop
  rely : Thread → Shared → Shared → Prop
  invariant : Shared → Prop
  may : Thread → List (Action Question Answer Shared) → Question → Shared → Prop
  rely_refl : ∀ thread shared, rely thread shared shared
  rely_trans : ∀ {thread first second third}, rely thread first second → rely thread second third →
    rely thread first third
  changes_rely : ∀ {thread shared after}, changes shared after → rely thread shared after
  changes_invariant : ∀ {shared after}, invariant shared → changes shared after → invariant after

section Programs

variable (terms : Terms Question Answer Shared Thread) (thread : Thread)

/-- Whatever the others do that the thread relies on: it asks what it may, leaves the others what they rely
on, keeps the invariant, and its result is right. -/
def Holds (post : List (Action Question Answer Shared) → α → Shared → Prop) :
    List (Action Question Answer Shared) → Shared → Dialogue Question Answer α → Prop
  | past, shared, .done result =>
      ∀ later, terms.rely thread shared later → terms.invariant later → post past result later
  | past, shared, .ask question next =>
      ∀ later, terms.rely thread shared later → terms.invariant later →
        terms.may thread past question later ∧
        ∀ answer after, terms.acts thread past ⟨question, answer, later, after⟩ →
          (∀ other, other ≠ thread → terms.rely other later after) ∧ terms.invariant after ∧
          Holds post (past ++ [⟨question, answer, later, after⟩]) after (next answer)

variable {terms} {thread} {past : List (Action Question Answer Shared)} {shared : Shared}
  {dialogue : Dialogue Question Answer α}
  {post : List (Action Question Answer Shared) → α → Shared → Prop}

/-- What the others do meanwhile does no harm. -/
theorem Holds.relied {later : Shared} (holds : Holds terms thread post past shared dialogue)
    (relied : terms.rely thread shared later) : Holds terms thread post past later dialogue := by
  cases dialogue with
  | done result => exact fun last further => holds last (terms.rely_trans relied further)
  | ask question next => exact fun last further => holds last (terms.rely_trans relied further)

theorem holds_of_later
    (holds : ∀ later, terms.rely thread shared later → terms.invariant later →
      Holds terms thread post past later dialogue) : Holds terms thread post past shared dialogue := by
  cases dialogue with
  | done result =>
      intro later relied invariant
      exact holds later relied invariant later (terms.rely_refl thread later) invariant
  | ask question next =>
      intro later relied invariant
      exact holds later relied invariant later (terms.rely_refl thread later) invariant

theorem holds_pure {result : α}
    (right : ∀ later, terms.rely thread shared later → terms.invariant later → post past result later) :
    Holds terms thread post past shared (pure result : Dialogue Question Answer α) := right

/-- The rule of a question and what follows its answer. -/
theorem holds_question_bind {asked : Question} {next : Answer asked → Dialogue Question Answer α}
    (step : ∀ later, terms.rely thread shared later → terms.invariant later →
      terms.may thread past asked later ∧
      ∀ answer after, terms.acts thread past ⟨asked, answer, later, after⟩ →
        (∀ other, other ≠ thread → terms.rely other later after) ∧ terms.invariant after ∧
        Holds terms thread post (past ++ [⟨asked, answer, later, after⟩]) after (next answer)) :
    Holds terms thread post past shared (Dialogue.question asked >>= next) := step

/-- The rule of sequence. -/
theorem Holds.bind {next : α → Dialogue Question Answer β}
    {post : List (Action Question Answer Shared) → β → Shared → Prop}
    (first : Holds terms thread
      (fun past result later => Holds terms thread post past later (next result)) past shared dialogue) :
    Holds terms thread post past shared (dialogue >>= next) := by
  induction dialogue generalizing past shared with
  | done result => exact holds_of_later first
  | ask question following ih =>
      intro later relied invariant
      obtain ⟨may, acted⟩ := first later relied invariant
      refine ⟨may, fun answer after act => ?_⟩
      obtain ⟨relies, kept, rest⟩ := acted answer after act
      exact ⟨relies, kept, ih answer rest⟩

/-- The rule of consequence. -/
theorem Holds.mono {weaker : List (Action Question Answer Shared) → α → Shared → Prop}
    (holds : Holds terms thread post past shared dialogue)
    (implies : ∀ past result later, post past result later → weaker past result later) :
    Holds terms thread weaker past shared dialogue := by
  induction dialogue generalizing past shared with
  | done result =>
      exact fun later relied invariant => implies _ _ _ (holds later relied invariant)
  | ask question following ih =>
      intro later relied invariant
      obtain ⟨may, acted⟩ := holds later relied invariant
      refine ⟨may, fun answer after act => ?_⟩
      obtain ⟨relies, kept, rest⟩ := acted answer after act
      exact ⟨relies, kept, ih answer rest⟩

/-- A program only adds to what was done. -/
theorem Holds.extends (holds : Holds terms thread post past shared dialogue) :
    Holds terms thread (fun whole result later => past <+: whole ∧ post whole result later) past shared
      dialogue := by
  induction dialogue generalizing past shared with
  | done result =>
      exact fun later relied invariant => ⟨List.prefix_rfl, holds later relied invariant⟩
  | ask question following ih =>
      intro later relied invariant
      obtain ⟨may, acted⟩ := holds later relied invariant
      refine ⟨may, fun answer after act => ?_⟩
      obtain ⟨relies, kept, rest⟩ := acted answer after act
      exact ⟨relies, kept, (ih answer rest).mono fun whole result last right =>
        ⟨(List.prefix_append past _).trans right.1, right.2⟩⟩

end Programs

section Pools

variable {terms : Terms Question Answer Shared Thread}
  {post : Thread → List (Action Question Answer Shared) → α → Shared → Prop}

/-- Every program does what it should from where it is. -/
structure Pool.Holds (terms : Terms Question Answer Shared Thread)
    (post : Thread → List (Action Question Answer Shared) → α → Shared → Prop)
    (pool : Pool Question Answer Shared Thread α) : Prop where
  invariant : terms.invariant pool.shared
  each : ∀ thread, Interleaving.Holds terms thread (post thread) (pool.threads thread).past pool.shared
    (pool.threads thread).rest

variable {pool later : Pool Question Answer Shared Thread α}

/-- Programs that are right by themselves are right together. -/
theorem holds_start {shared : Shared} {programs : Thread → Dialogue Question Answer α}
    (invariant : terms.invariant shared)
    (each : ∀ thread, Interleaving.Holds terms thread (post thread) [] shared (programs thread)) :
    (Pool.start shared programs).Holds terms post :=
  ⟨invariant, each⟩

theorem Pool.Holds.asks (holds : pool.Holds terms post) {thread : Thread} {question : Question}
    {next : Answer question → Dialogue Question Answer α}
    (asks : (pool.threads thread).rest = .ask question next) :
    terms.may thread (pool.threads thread).past question pool.shared := by
  have own := holds.each thread
  rw [asks] at own
  exact (own pool.shared (terms.rely_refl thread pool.shared) holds.invariant).1

theorem Pool.Holds.ended (holds : pool.Holds terms post) {thread : Thread} {result : α}
    (ended : (pool.threads thread).rest = .done result) :
    post thread (pool.threads thread).past result pool.shared := by
  have own := holds.each thread
  rw [ended] at own
  exact own pool.shared (terms.rely_refl thread pool.shared) holds.invariant

variable [DecidableEq Thread]

theorem Pool.Holds.step (holds : pool.Holds terms post) (step : Step terms.acts terms.changes pool later) :
    later.Holds terms post := by
  cases step with
  | acted thread answer after asks act =>
      have own := holds.each thread
      rw [asks] at own
      obtain ⟨-, acted⟩ := own pool.shared (terms.rely_refl thread pool.shared) holds.invariant
      obtain ⟨relies, kept, rest⟩ := acted answer after act
      refine ⟨kept, fun other => ?_⟩
      by_cases same : other = thread
      · subst same
        simpa only [Function.update_self] using rest
      · simpa only [Function.update_of_ne same] using (holds.each other).relied (relies other same)
  | changed after change =>
      exact ⟨terms.changes_invariant holds.invariant change,
        fun thread => (holds.each thread).relied (terms.changes_rely change)⟩

theorem Pool.Holds.reaches (holds : pool.Holds terms post)
    (run : Reaches terms.acts terms.changes pool later) : later.Holds terms post := by
  induction run with
  | refl => exact holds
  | tail _ last ih => exact ih.step last

end Pools

end Interleaving
