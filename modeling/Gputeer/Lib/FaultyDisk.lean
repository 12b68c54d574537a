import Gputeer.Lib.FileTree

/-! Programs on a disk that may fail at any step, but tells nothing that is not so. A program comes to its end, or
is stopped after any of its steps. -/

namespace Dialogue

variable {Question : Type} {Answer : Question → Type} {State α β Error : Type}

section Conversations

variable (honest : State → Exchange Question Answer → Prop) (effect : State → Exchange Question Answer → State)

/-- The program comes to its end. -/
inductive Finishes : State → Dialogue Question Answer α → State → α → Prop
  | done {state : State} {result : α} : Finishes state (.done result) state result
  | ask {state later : State} {asked : Question} {answered : Answer asked}
      {next : Answer asked → Dialogue Question Answer α} {result : α} (said : honest state ⟨asked, answered⟩)
      (rest : Finishes (effect state ⟨asked, answered⟩) (next answered) later result) :
      Finishes state (.ask asked next) later result

/-- The program has come this far. -/
inductive Reaches : State → Dialogue Question Answer α → State → Prop
  | stop {state : State} {dialogue : Dialogue Question Answer α} : Reaches state dialogue state
  | ask {state later : State} {asked : Question} {answered : Answer asked}
      {next : Answer asked → Dialogue Question Answer α} (said : honest state ⟨asked, answered⟩)
      (rest : Reaches (effect state ⟨asked, answered⟩) (next answered) later) :
      Reaches state (.ask asked next) later

end Conversations

variable {honest : State → Exchange Question Answer → Prop} {effect : State → Exchange Question Answer → State}
  {state later : State} {dialogue : Dialogue Question Answer α} {may : Question → Prop} {Kept : State → State → Prop}

namespace Finishes

theorem of_pure {value result : α}
    (ended : Finishes honest effect state (pure value : Dialogue Question Answer α) later result) :
    later = state ∧ result = value := by
  cases ended with
  | done => exact ⟨rfl, rfl⟩

theorem of_question {asked : Question} {answered : Answer asked}
    (ended : Finishes honest effect state (question asked) later answered) :
    honest state ⟨asked, answered⟩ ∧ later = effect state ⟨asked, answered⟩ := by
  cases ended with
  | ask said rest =>
      cases rest with
      | done => exact ⟨said, rfl⟩

/-- The rule of sequence. -/
theorem of_bind {next : α → Dialogue Question Answer β} {result : β}
    (ended : Finishes honest effect state (dialogue >>= next) later result) :
    ∃ between value, Finishes honest effect state dialogue between value ∧
      Finishes honest effect between (next value) later result := by
  induction dialogue generalizing state with
  | done value => exact ⟨state, value, .done, ended⟩
  | ask asked following ih =>
      cases ended with
      | ask said rest =>
          obtain ⟨between, value, first, second⟩ := ih _ rest
          exact ⟨between, value, .ask said first, second⟩

theorem of_map {f : α → β} {result : β} (ended : Finishes honest effect state (f <$> dialogue) later result) :
    ∃ value, Finishes honest effect state dialogue later value ∧ f value = result := by
  obtain ⟨between, value, first, second⟩ := of_bind ended
  obtain ⟨rfl, rfl⟩ := of_pure second
  exact ⟨value, first, rfl⟩

/-- A sequence that ends well did so in each step. -/
theorem of_andThen {step : Dialogue Question Answer (Except Error α)}
    {next : α → Dialogue Question Answer (Except Error β)} {result : β}
    (ended : Finishes honest effect state (step.andThen next) later (.ok result)) :
    ∃ between value, Finishes honest effect state step between (.ok value) ∧
      Finishes honest effect between (next value) later (.ok result) := by
  obtain ⟨between, outcome, first, second⟩ := of_bind ended
  cases outcome with
  | ok value => exact ⟨between, value, first, second⟩
  | error error =>
      obtain ⟨_, no⟩ := of_pure second
      cases no

theorem of_andThen_error {step : Dialogue Question Answer (Except Error α)}
    {next : α → Dialogue Question Answer (Except Error β)} {error : Error}
    (ended : Finishes honest effect state (step.andThen next) later (.error error)) :
    Finishes honest effect state step later (.error error) ∨
      ∃ between value, Finishes honest effect state step between (.ok value) ∧
        Finishes honest effect between (next value) later (.error error) := by
  obtain ⟨between, outcome, first, second⟩ := of_bind ended
  cases outcome with
  | ok value => exact Or.inr ⟨between, value, first, second⟩
  | error failure =>
      obtain ⟨rfl, same⟩ := of_pure second
      cases same
      exact Or.inl first

/-- What is right of every result is right of this one. -/
theorem right {post : α → Prop} {result : α} (ended : Finishes honest effect state dialogue later result)
    (ends : Ends may post dialogue) : post result := by
  induction ended with
  | done => exact ends
  | ask said rest ih => exact ih (ends.2 _)

theorem of_mapError {Failure : Type} {step : Dialogue Question Answer (Except Error α)} {f : Error → Failure}
    {value : α} (ended : Finishes honest effect state (Except.mapError f <$> step) later (.ok value)) :
    Finishes honest effect state step later (.ok value) := by
  obtain ⟨outcome, first, same⟩ := of_map ended
  cases outcome with
  | ok result =>
      cases same
      exact first
  | error error => cases same

theorem of_mapOk {f : α → β} {step : Dialogue Question Answer (Except Error α)} {result : β}
    (ended : Finishes honest effect state (Except.map f <$> step) later (.ok result)) :
    ∃ value, Finishes honest effect state step later (.ok value) ∧ f value = result := by
  obtain ⟨outcome, first, same⟩ := of_map ended
  cases outcome with
  | ok value =>
      cases same
      exact ⟨value, first, rfl⟩
  | error error => cases same

theorem reaches {result : α} (ended : Finishes honest effect state dialogue later result) :
    Reaches honest effect state dialogue later := by
  induction ended with
  | done => exact .stop
  | ask said rest ih => exact .ask said ih

end Finishes

/-- Who answers by the state is honest. -/
theorem finishes_serve {answer : State → (asked : Question) → Answer asked}
    (tells : ∀ state asked, honest state ⟨asked, answer state asked⟩) :
    Finishes honest effect state dialogue (serve answer effect state dialogue).1
      (serve answer effect state dialogue).2 := by
  induction dialogue generalizing state with
  | done result => exact .done
  | ask asked following ih => exact .ask (tells state asked) (ih _)

/-- What is stopped in a sequence is stopped in the first part or in the second. -/
theorem Reaches.of_bind {next : α → Dialogue Question Answer β}
    (reached : Reaches honest effect state (dialogue >>= next) later) :
    Reaches honest effect state dialogue later ∨
      ∃ between value, Finishes honest effect state dialogue between value ∧
        Reaches honest effect between (next value) later := by
  induction dialogue generalizing state with
  | done value => exact Or.inr ⟨state, value, .done, reached⟩
  | ask asked following ih =>
      cases reached with
      | stop => exact Or.inl .stop
      | ask said rest =>
          rcases ih _ rest with first | ⟨between, value, first, second⟩
          · exact Or.inl (.ask said first)
          · exact Or.inr ⟨between, value, .ask said first, second⟩

theorem Reaches.of_question {asked : Question} (reached : Reaches honest effect state (question asked) later) :
    later = state ∨ ∃ answered, honest state ⟨asked, answered⟩ ∧ later = effect state ⟨asked, answered⟩ := by
  cases reached with
  | stop => exact Or.inl rfl
  | ask said rest =>
      cases rest with
      | stop => exact Or.inr ⟨_, said, rfl⟩

theorem Reaches.of_map {f : α → β} (reached : Reaches honest effect state (f <$> dialogue) later) :
    Reaches honest effect state dialogue later := by
  rcases Reaches.of_bind reached with first | ⟨between, value, first, second⟩
  · exact first
  · cases second with
    | stop => exact first.reaches

theorem Reaches.of_andThen {step : Dialogue Question Answer (Except Error α)}
    {next : α → Dialogue Question Answer (Except Error β)}
    (reached : Reaches honest effect state (step.andThen next) later) :
    Reaches honest effect state step later ∨
      ∃ between value, Finishes honest effect state step between (.ok value) ∧
        Reaches honest effect between (next value) later := by
  rcases Reaches.of_bind reached with first | ⟨between, outcome, first, second⟩
  · exact Or.inl first
  · cases outcome with
    | ok value => exact Or.inr ⟨between, value, first, second⟩
    | error error =>
        cases second with
        | stop => exact Or.inl first.reaches

/-- What no question touches is as it was, wherever the program is stopped. -/
theorem Asks.reaches_keeps (refl : ∀ state, Kept state state)
    (step : ∀ first state asked answered, may asked → Kept first state →
      Kept first (effect state ⟨asked, answered⟩))
    (asks : Asks may dialogue) (reached : Reaches honest effect state dialogue later) : Kept state later := by
  suffices further : ∀ first, Kept first state → Kept first later from further state (refl state)
  intro first kept
  induction reached with
  | stop => exact kept
  | ask said rest ih => exact ih (asks.2 _) (step first _ _ _ asks.1 kept)

end Dialogue

namespace FileTree

open Dialogue

/-- The disk failed at this step. -/
def Failed : (asked : FileQuestion) → asked.Answer → Prop
  | .createFolders _, answered | .create _, answered | .sync _, answered | .rename _ _, answered
  | .remove _, answered | .removeFolder _, answered => ∃ why, answered = .error (.other why)
  | .lock _, answered | .tryLock _, answered => ∃ why, answered = .error (.failed (.other why))
  | .isThere _, _ => False
  | .kind _, answered => ∃ why, answered = .error (.other why)
  | .length _, answered => ∃ why, answered = .error (.other why)
  | .read _, answered => ∃ why, answered = .error (.other why)
  | .list _, answered => ∃ why, answered = .error (.other why)
  | .writeAll _ _, answered => ∃ failure, answered = .error failure

/-- The disk says what is so, or fails. -/
def Honest (tree : FileTree) (exchange : FileExchange) : Prop :=
  (∃ habits, exchange.2 = answer habits tree exchange.1) ∨ Failed exchange.1 exchange.2

variable {tree later : FileTree} {path other : DiskPath} {α : Type} {dialogue : FileDialogue α}

/-- A program that comes to its end on such a disk. -/
abbrev Finishes (tree : FileTree) (dialogue : FileDialogue α) (later : FileTree) (result : α) : Prop :=
  Dialogue.Finishes Honest effect tree dialogue later result

/-- A program that is stopped on such a disk. -/
abbrev Reaches (tree : FileTree) (dialogue : FileDialogue α) (later : FileTree) : Prop :=
  Dialogue.Reaches Honest effect tree dialogue later

theorem finishes_served {habits : Habits} {result : α} (ended : tree.serve habits dialogue = (later, result)) :
    tree.Finishes dialogue later result := by
  have finishes := @Dialogue.finishes_serve _ _ _ _ Honest effect tree dialogue (answer habits)
    fun _ _ => Or.inl ⟨habits, rfl⟩
  unfold serve at ended
  rwa [ended] at finishes

section Telling

/-- What goes on without a failure was so. -/
theorem Honest.lock (honest : tree.Honest ⟨.lock path, .ok ()⟩) : tree.mayPut path = .ok () := by
  rcases honest with ⟨habits, same⟩ | ⟨why, no⟩
  · simp only [answer] at same
    cases may : tree.mayPut path with
    | ok done => rfl
    | error failure =>
        rw [may] at same
        cases same
  · cases no

theorem Honest.isThere {there : Bool} (honest : tree.Honest ⟨.isThere path, there⟩) :
    there = (tree.kindAt path).isSome := by
  rcases honest with ⟨habits, same⟩ | never
  · exact same
  · cases never

theorem Honest.kind {kind : DiskKind} (honest : tree.Honest ⟨.kind path, .ok kind⟩) :
    (kind = .folder ∧ tree.kindAt path = some .folder) ∨
      kind = .file ∧ ∃ content, tree.kindAt path = some (.file content) := by
  rcases honest with ⟨habits, same⟩ | ⟨why, no⟩
  · simp only [answer] at same
    cases there : tree.kindAt path with
    | none =>
        rw [there] at same
        cases same
    | some entry =>
        rw [there] at same
        cases entry with
        | file content =>
            cases same
            exact Or.inr ⟨rfl, content, rfl⟩
        | folder =>
            cases same
            exact Or.inl ⟨rfl, rfl⟩
  · cases no

theorem Honest.read {content : List UInt8} (honest : tree.Honest ⟨.read path, .ok content⟩) :
    tree.kindAt path = some (.file content) := by
  rcases honest with ⟨habits, same⟩ | ⟨why, no⟩
  · simp only [answer] at same
    cases there : tree.kindAt path with
    | none =>
        rw [there] at same
        cases same
    | some entry =>
        rw [there] at same
        cases entry with
        | file found =>
            cases same
            rfl
        | folder => cases same
  · cases no

theorem Honest.read_missing (honest : tree.Honest ⟨.read path, .error .notFound⟩) : tree.kindAt path = none := by
  rcases honest with ⟨habits, same⟩ | ⟨why, no⟩
  · simp only [answer] at same
    cases there : tree.kindAt path with
    | none => rfl
    | some entry =>
        rw [there] at same
        cases entry with
        | file found => cases same
        | folder => cases same
  · cases no

theorem Honest.list {names : List String} (honest : tree.Honest ⟨.list path, .ok names⟩) :
    tree.kindAt path = some .folder ∧ names.Perm (tree.childNames path) := by
  rcases honest with ⟨habits, same⟩ | ⟨why, no⟩
  · simp only [answer] at same
    cases there : tree.kindAt path with
    | none =>
        rw [there] at same
        cases same
    | some entry =>
        rw [there] at same
        cases entry with
        | file found => cases same
        | folder =>
            cases same
            exact ⟨rfl, habits.shuffle_perm _⟩
  · cases no

theorem Honest.create (honest : tree.Honest ⟨.create path, .ok ()⟩) : tree.mayPut path = .ok () := by
  rcases honest with ⟨habits, same⟩ | ⟨why, no⟩
  · exact same.symm
  · cases no

theorem Honest.rename {target : DiskPath} (honest : tree.Honest ⟨.rename path target, .ok ()⟩) :
    (∃ content, tree.kindAt path = some (.file content)) ∧ tree.mayPut target = .ok () := by
  rcases honest with ⟨habits, same⟩ | ⟨why, no⟩
  · simp only [answer] at same
    cases there : tree.kindAt path with
    | none =>
        rw [there] at same
        cases same
    | some entry =>
        rw [there] at same
        cases entry with
        | file content => exact ⟨⟨content, rfl⟩, same.symm⟩
        | folder => cases same
  · cases no

/-- The folders on the way are there when they could be made. -/
theorem Honest.createFolders (honest : tree.Honest ⟨.createFolders path, .ok ()⟩) :
    (tree.effect ⟨.createFolders path, .ok ()⟩).kindAt other =
      if other <+: path then some .folder else tree.kindAt other := by
  have free : ∀ part ∈ path.inits, tree.kindAt part = none ∨ tree.kindAt part = some .folder := by
    intro part listed
    rcases honest with ⟨habits, same⟩ | ⟨why, no⟩
    · simp only [answer] at same
      split at same
      · cases same
      · next unblocked =>
        rw [List.any_eq_true, not_exists] at unblocked
        have own := unblocked part
        cases there : tree.kindAt part with
        | none => exact Or.inl rfl
        | some entry =>
            cases entry with
            | folder => exact Or.inr rfl
            | file content => exact absurd ⟨listed, by rw [there]⟩ own
    · cases no
  change (path.inits.foldl putFolder tree).kindAt other = _
  rw [kindAt_madeFolders _ free]
  exact if_congr (List.mem_inits _ _) rfl rfl

end Telling

section Sure

variable {habits : Habits} {β Error Failure : Type}

/-- When the program ends well, it has left everything as it is, and ends the same on every disk that does not
fail. -/
def Sure (tree : FileTree) (dialogue : FileDialogue (Except Error α)) : Prop :=
  ∀ later value, tree.Finishes dialogue later (.ok value) →
    later = tree ∧ ∀ habits, look habits tree dialogue = .ok value

theorem sure_pure (result : Except Error α) : tree.Sure (pure result : FileDialogue (Except Error α)) := by
  intro later value ended
  obtain ⟨rfl, same⟩ := Finishes.of_pure ended
  exact ⟨rfl, fun _ => same.symm⟩

theorem Sure.andThen {step : FileDialogue (Except Error α)} {next : α → FileDialogue (Except Error β)}
    (first : tree.Sure step) (asks : step.Asks FileQuestion.Reads) (rest : ∀ value, tree.Sure (next value)) :
    tree.Sure (step.andThen next) := by
  intro later result ended
  obtain ⟨between, value, before, after⟩ := Finishes.of_andThen ended
  obtain ⟨rfl, same⟩ := first between value before
  obtain ⟨rfl, last⟩ := rest value later result after
  exact ⟨rfl, fun habits => by rw [look_andThen asks, same habits]; exact last habits⟩

theorem Sure.mapError {step : FileDialogue (Except Error α)} {f : Error → Failure} (sure : tree.Sure step) :
    tree.Sure (Except.mapError f <$> step) := by
  intro later value ended
  obtain ⟨rfl, same⟩ := sure later value (Finishes.of_mapError ended)
  exact ⟨rfl, fun habits => by rw [look_map, same habits]; rfl⟩

theorem Sure.mapOk {step : FileDialogue (Except Error α)} {f : α → β} (sure : tree.Sure step) :
    tree.Sure (Except.map f <$> step) := by
  intro later result ended
  obtain ⟨value, first, rfl⟩ := Finishes.of_mapOk ended
  obtain ⟨rfl, same⟩ := sure later value first
  exact ⟨rfl, fun habits => by rw [look_map, same habits]; rfl⟩

theorem sure_read : tree.Sure (FileQuestion.read path).ask := by
  intro later content ended
  obtain ⟨said, rfl⟩ := Finishes.of_question ended
  refine ⟨rfl, fun habits => ?_⟩
  have there := Honest.read said
  simp only [look, serve_question, answer, there]

end Sure

section Keeping

theorem kindAt_reaches (asks : dialogue.Asks fun asked => ¬ asked.Changes path) (reached : tree.Reaches dialogue later) :
    later.kindAt path = tree.kindAt path :=
  @Asks.reaches_keeps _ _ _ _ _ effect _ _ _ _ (fun first later => later.kindAt path = first.kindAt path)
    (fun _ => rfl) (fun _ _ _ answered away same => (kindAt_effect answered away).trans same) asks reached

/-- A folder stays through a program that removes none. -/
theorem folder_reaches (asks : dialogue.Asks fun asked => asked ≠ .removeFolder path)
    (reached : tree.Reaches dialogue later) (there : tree.kindAt path = some .folder) :
    later.kindAt path = some .folder :=
  @Asks.reaches_keeps _ _ _ _ _ effect _ _ _ _
    (fun first later => first.kindAt path = some .folder → later.kindAt path = some .folder)
    (fun _ there => there) (fun _ _ _ answered stays kept there => folder_effect answered stays (kept there)) asks
    reached there

/-- A program that makes folders only on the way to some paths. -/
theorem folder_of_reaches {Made : DiskPath → Prop}
    (asks : dialogue.Asks fun asked => ∀ made, asked = .createFolders made → Made made)
    (reached : tree.Reaches dialogue later) (there : later.kindAt path = some .folder) :
    tree.kindAt path = some .folder ∨ ∃ made, Made made ∧ path <+: made := by
  refine @Asks.reaches_keeps _ _ _ _ _ effect _ _ _ _
    (fun first later => later.kindAt path = some .folder →
      first.kindAt path = some .folder ∨ ∃ made, Made made ∧ path <+: made)
    (fun _ there => Or.inl there) (fun _ _ _ answered may kept there => ?_) asks reached there
  rcases folder_of_effect there with before | ⟨made, rfl, inside⟩
  · exact kept before
  · exact Or.inr ⟨made, may made rfl, inside⟩

/-- A program that only looks leaves everything as it is. -/
theorem reaches_reads (asks : dialogue.Asks FileQuestion.Reads) (reached : tree.Reaches dialogue later) :
    later = tree :=
  @Asks.reaches_keeps _ _ _ _ _ effect _ _ _ _ (fun first later => later = first) (fun _ => rfl)
    (fun _ _ _ answered reads same => (effect_reads answered reads).trans same) asks reached

end Keeping

end FileTree
