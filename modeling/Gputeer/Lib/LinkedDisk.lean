import Gputeer.Lib.FaultyDisk

/-! A disk on which a file may be given a second name. A program that does not know of this is a program of this
disk too, and does there what it does on any disk. -/

namespace Dialogue

variable {Question More : Type} {Answer : Question → Type} {MoreAnswer : More → Type} {State α : Type}

/-- The same program, where more may be asked. -/
def lift : Dialogue Question Answer α → Dialogue (Question ⊕ More) (Sum.elim Answer MoreAnswer) α
  | done result => done result
  | ask asked next => ask (.inl asked) fun answered => lift (next answered)

/-- A step that asks nothing. -/
def given {Error : Type} (result : Except Error α) : Dialogue Question Answer (Except Error α) := pure result

@[simp] theorem given_andThen {β Error : Type} (value : α) (next : α → Dialogue Question Answer (Except Error β)) :
    (given (.ok value)).andThen next = next value := rfl

theorem Ends.widen {may wider : Question → Prop} {post : α → Prop} {dialogue : Dialogue Question Answer α}
    (ends : Ends may post dialogue) (implies : ∀ asked, may asked → wider asked) : Ends wider post dialogue := by
  induction dialogue with
  | done result => exact ends
  | ask asked next ih => exact ⟨implies asked ends.1, fun answered => ih answered (ends.2 answered)⟩

section Lifted

variable {honest : State → Exchange Question Answer → Prop} {effect : State → Exchange Question Answer → State}
  {wider : State → Exchange (Question ⊕ More) (Sum.elim Answer MoreAnswer) → Prop}
  {changes : State → Exchange (Question ⊕ More) (Sum.elim Answer MoreAnswer) → State}
  {answer : State → (asked : Question) → Answer asked}
  {more : State → (asked : Question ⊕ More) → Sum.elim Answer MoreAnswer asked}
  {state later : State} {dialogue : Dialogue Question Answer α} {result : α}

/-- What is asked of both is told and done by both alike. -/
structure Widens (honest : State → Exchange Question Answer → Prop)
    (effect : State → Exchange Question Answer → State)
    (wider : State → Exchange (Question ⊕ More) (Sum.elim Answer MoreAnswer) → Prop)
    (changes : State → Exchange (Question ⊕ More) (Sum.elim Answer MoreAnswer) → State) : Prop where
  told : ∀ state asked answered, wider state ⟨.inl asked, answered⟩ ↔ honest state ⟨asked, answered⟩
  done : ∀ state asked answered, changes state ⟨.inl asked, answered⟩ = effect state ⟨asked, answered⟩

theorem Widens.finishes (widens : Widens honest effect wider changes) :
    Finishes wider changes state (lift dialogue) later result ↔ Finishes honest effect state dialogue later result := by
  induction dialogue generalizing state with
  | done value =>
      constructor
      · intro ended
        cases ended with
        | done => exact .done
      · intro ended
        cases ended with
        | done => exact .done
  | ask asked next ih =>
      constructor
      · intro ended
        cases ended with
        | ask said rest =>
            rw [widens.done] at rest
            exact .ask ((widens.told _ _ _).mp said) ((ih _).mp rest)
      · intro ended
        cases ended with
        | @ask _ _ _ answered _ _ said rest =>
            have same := widens.done state asked answered
            exact .ask ((widens.told _ _ _).mpr said) ((ih _).mpr (same.symm ▸ rest))

theorem Widens.reaches (widens : Widens honest effect wider changes) :
    Reaches wider changes state (lift dialogue) later ↔ Reaches honest effect state dialogue later := by
  induction dialogue generalizing state with
  | done value =>
      constructor
      · intro reached
        cases reached with
        | stop => exact .stop
      · intro reached
        cases reached with
        | stop => exact .stop
  | ask asked next ih =>
      constructor
      · intro reached
        cases reached with
        | stop => exact .stop
        | ask said rest =>
            rw [widens.done] at rest
            exact .ask ((widens.told _ _ _).mp said) ((ih _).mp rest)
      · intro reached
        cases reached with
        | stop => exact .stop
        | @ask _ _ _ answered _ said rest =>
            have same := widens.done state asked answered
            exact .ask ((widens.told _ _ _).mpr said) ((ih _).mpr (same.symm ▸ rest))

theorem serve_lift (answers : ∀ state asked, more state (.inl asked) = answer state asked)
    (done : ∀ state asked answered, changes state ⟨.inl asked, answered⟩ = effect state ⟨asked, answered⟩) :
    serve more changes state (lift dialogue) = serve answer effect state dialogue := by
  induction dialogue generalizing state with
  | done value => rfl
  | ask asked next ih =>
      change serve more changes (changes state ⟨.inl asked, more state (.inl asked)⟩)
        (lift (next (more state (.inl asked)))) = _
      rw [answers]
      exact (congrArg (fun after => serve more changes after _) (done state asked _)).trans (ih _)

theorem asks_lift {may : Question → Prop} {mayMore : More → Prop} (asks : Asks may dialogue) :
    Asks (Sum.elim may mayMore) (lift dialogue : Dialogue _ (Sum.elim Answer MoreAnswer) α) := by
  induction dialogue with
  | done value => trivial
  | ask asked next ih => exact ⟨asks.1, fun answered => ih answered (asks.2 answered)⟩

end Lifted

end Dialogue

inductive LinkFailure where
  | alreadyExists
  | failed (failure : DiskFailure)

def LinkFailure.why : LinkFailure → String
  | alreadyExists => "File exists (os error 17)"
  | failed failure => failure.why

/-- A second name for a file, in the place of nothing. -/
inductive LinkQuestion where
  | link (source target : DiskPath)

abbrev LinkQuestion.Answer : LinkQuestion → Type
  | link _ _ => Except LinkFailure Unit

abbrev LinkedQuestion : Type := FileQuestion ⊕ LinkQuestion

abbrev LinkedQuestion.Answer : LinkedQuestion → Type := Sum.elim FileQuestion.Answer LinkQuestion.Answer

abbrev LinkedDialogue := Dialogue LinkedQuestion LinkedQuestion.Answer

abbrev LinkedExchange := Dialogue.Exchange LinkedQuestion LinkedQuestion.Answer

/-- `fs::hard_link` -/
def hardLink (source target : DiskPath) : LinkedDialogue (Except LinkFailure Unit) :=
  @Dialogue.question LinkedQuestion LinkedQuestion.Answer (.inr (.link source target))

abbrev Dialogue.onLinked {α : Type} (dialogue : FileDialogue α) : LinkedDialogue α := Dialogue.lift dialogue

namespace FileTree

open Dialogue

variable {tree later : FileTree} {path other source target : DiskPath} {content : List UInt8} {habits : Habits}
  {α β Error : Type} {dialogue : LinkedDialogue α}

section Meaning

def mayLink (tree : FileTree) (source target : DiskPath) : Except LinkFailure Unit :=
  match tree.kindAt source with
  | none => .error (.failed .notFound)
  | some .folder => .error (.failed (.other "Operation not permitted (os error 1)"))
  | some (.file _) =>
      match tree.kindAt target with
      | some _ => .error .alreadyExists
      | none => (tree.mayPut target).mapError .failed

/-- Who writes to a file that has two names is not told apart from who replaces it: no one does. -/
def linkFile (tree : FileTree) (source target : DiskPath) : FileTree :=
  match tree.kindAt source with
  | some (.file content) => tree.putFile target content
  | some .folder | none => tree

def linkedEffect (tree : FileTree) : LinkedExchange → FileTree
  | ⟨.inl asked, answered⟩ => tree.effect ⟨asked, answered⟩
  | ⟨.inr (.link source target), .ok ()⟩ => tree.linkFile source target
  | ⟨.inr (.link _ _), .error _⟩ => tree

def linkedAnswer (habits : Habits) (tree : FileTree) : (asked : LinkedQuestion) → asked.Answer
  | .inl asked => answer habits tree asked
  | .inr (.link source target) => tree.mayLink source target

/-- The disk says what is so, or fails. -/
def LinkedHonest (tree : FileTree) : LinkedExchange → Prop
  | ⟨.inl asked, answered⟩ => tree.Honest ⟨asked, answered⟩
  | ⟨.inr (.link source target), answered⟩ =>
      answered = tree.mayLink source target ∨ ∃ why, answered = .error (.failed (.other why))

abbrev linkedServe (habits : Habits) (tree : FileTree) (dialogue : LinkedDialogue α) : FileTree × α :=
  Dialogue.serve (linkedAnswer habits) linkedEffect tree dialogue

abbrev LinkedFinishes (tree : FileTree) (dialogue : LinkedDialogue α) (later : FileTree) (result : α) : Prop :=
  Dialogue.Finishes LinkedHonest linkedEffect tree dialogue later result

abbrev LinkedReaches (tree : FileTree) (dialogue : LinkedDialogue α) (later : FileTree) : Prop :=
  Dialogue.Reaches LinkedHonest linkedEffect tree dialogue later

/-- The entries that the step may change. -/
def LinkedChanges : LinkedQuestion → DiskPath → Prop
  | .inl asked, changed => asked.Changes changed
  | .inr (.link _ target), changed => changed = target

end Meaning

theorem linkedHonest_widens : Widens Honest effect LinkedHonest linkedEffect where
  told := fun _ _ _ => Iff.rfl
  done := fun _ _ _ => rfl

/-- A program that makes no second names is stopped, and ends, as on any disk. -/
theorem linkedReaches_onLinked {plain : FileDialogue α} :
    tree.LinkedReaches plain.onLinked later ↔ tree.Reaches plain later :=
  linkedHonest_widens.reaches

theorem linkedFinishes_onLinked {plain : FileDialogue α} {result : α} :
    tree.LinkedFinishes plain.onLinked later result ↔ tree.Finishes plain later result :=
  linkedHonest_widens.finishes

section Served

variable {plain : FileDialogue α}

theorem linkedServe_onLinked : tree.linkedServe habits plain.onLinked = tree.serve habits plain :=
  Dialogue.serve_lift (fun _ _ => rfl) fun _ _ _ => rfl

/-- The rule of sequence. -/
theorem linkedServe_ok {step : LinkedDialogue (Except Error α)} {next : α → LinkedDialogue (Except Error β)}
    {value : α} (first : tree.linkedServe habits step = (later, .ok value)) :
    tree.linkedServe habits (step.andThen next) = later.linkedServe habits (next value) := by
  unfold linkedServe at first ⊢
  rw [Dialogue.serve_andThen, first]

theorem linkedServe_mapError {Failure : Type} {step : LinkedDialogue (Except Error α)} {f : Error → Failure} {value : α}
    (ran : tree.linkedServe habits step = (later, .ok value)) :
    tree.linkedServe habits (Except.mapError f <$> step) = (later, .ok value) := by
  unfold linkedServe at ran ⊢
  rw [Dialogue.serve_map, ran]
  rfl

theorem linkedServe_mapOk {f : α → β} {step : LinkedDialogue (Except Error α)} {value : α}
    (ran : tree.linkedServe habits step = (later, .ok value)) :
    tree.linkedServe habits (Except.map f <$> step) = (later, .ok (f value)) := by
  unfold linkedServe at ran ⊢
  rw [Dialogue.serve_map, ran]
  rfl

theorem linkedFinishes_served {result : α} (ended : tree.linkedServe habits dialogue = (later, result)) :
    tree.LinkedFinishes dialogue later result := by
  have finishes := @Dialogue.finishes_serve _ _ _ _ LinkedHonest linkedEffect tree dialogue (linkedAnswer habits) ?_
  · unfold linkedServe at ended
    rwa [ended] at finishes
  · rintro state (asked | ⟨source, target⟩)
    · exact Or.inl ⟨habits, rfl⟩
    · exact Or.inl rfl

end Served

section Linking

theorem mayLink_eq_ok : tree.mayLink source target = .ok () ↔
    (∃ content, tree.kindAt source = some (.file content)) ∧ tree.kindAt target = none ∧
      tree.mayPut target = .ok () := by
  unfold mayLink
  cases from_ : tree.kindAt source with
  | none => simp
  | some entry =>
      cases entry with
      | folder => simp
      | file content =>
          cases aim : tree.kindAt target with
          | some entry => simp
          | none => cases tree.mayPut target <;> simp [Except.mapError]

theorem kindAt_linkFile (there : tree.kindAt source = some (.file content))
    (may : tree.mayPut target = .ok ()) :
    (tree.linkFile source target).kindAt other = if other = target then some (.file content) else tree.kindAt other := by
  unfold linkFile
  rw [there]
  exact kindAt_putFile_of_mayPut may

theorem linkedServe_hardLink (may : tree.mayLink source target = .ok ()) :
    tree.linkedServe habits (hardLink source target) = (tree.linkFile source target, .ok ()) := by
  change (tree.linkedEffect ⟨.inr (.link source target), tree.mayLink source target⟩, tree.mayLink source target) = _
  rw [may]
  rfl

/-- A link that was made was to a file, in the place of nothing. -/
theorem linkedFinishes_hardLink (linked : tree.LinkedFinishes (hardLink source target) later (.ok ())) :
    tree.mayLink source target = .ok () ∧ later = tree.linkFile source target := by
  obtain ⟨said, rfl⟩ := Finishes.of_question linked
  rcases said with same | ⟨why, no⟩
  · exact ⟨same.symm, rfl⟩
  · cases no

theorem linkedReaches_hardLink (linked : tree.LinkedReaches (hardLink source target) later) :
    later = tree ∨ tree.mayLink source target = .ok () ∧ later = tree.linkFile source target := by
  rcases Reaches.of_question linked with same | ⟨answered, said, rfl⟩
  · exact Or.inl same
  · cases answered with
    | error failure => exact Or.inl rfl
    | ok done =>
        rcases said with same | ⟨why, no⟩
        · exact Or.inr ⟨same.symm, rfl⟩
        · cases no

end Linking

section Telling

theorem Honest.kind_missing (honest : tree.Honest ⟨.kind path, .error .notFound⟩) : tree.kindAt path = none := by
  rcases honest with ⟨habits, same⟩ | ⟨why, no⟩
  · simp only [answer] at same
    cases there : tree.kindAt path with
    | none => rfl
    | some entry =>
        rw [there] at same
        cases entry with
        | file found => cases same
        | folder => cases same
  · cases no

theorem Honest.remove (honest : tree.Honest ⟨.remove path, .ok ()⟩) :
    ∃ content, tree.kindAt path = some (.file content) := by
  rcases honest with ⟨habits, same⟩ | ⟨why, no⟩
  · simp only [answer] at same
    cases there : tree.kindAt path with
    | none =>
        rw [there] at same
        cases same
    | some entry =>
        rw [there] at same
        cases entry with
        | file content => exact ⟨content, rfl⟩
        | folder => cases same
  · cases no

theorem Honest.remove_missing (honest : tree.Honest ⟨.remove path, .error .notFound⟩) : tree.kindAt path = none := by
  rcases honest with ⟨habits, same⟩ | ⟨why, no⟩
  · simp only [answer] at same
    cases there : tree.kindAt path with
    | none => rfl
    | some entry =>
        rw [there] at same
        cases entry with
        | file found => cases same
        | folder => cases same
  · cases no

theorem Honest.list_missing (honest : tree.Honest ⟨.list path, .error .notFound⟩) : tree.kindAt path = none := by
  rcases honest with ⟨habits, same⟩ | ⟨why, no⟩
  · simp only [answer] at same
    cases there : tree.kindAt path with
    | none => rfl
    | some entry =>
        rw [there] at same
        cases entry with
        | file found => cases same
        | folder => cases same
  · cases no

end Telling

section Keeping

/-- Making folders changes nothing into a file. -/
theorem putFolders_or (parts : List DiskPath) : (parts.foldl putFolder tree).kindAt path = tree.kindAt path ∨
    (parts.foldl putFolder tree).kindAt path = some .folder := by
  induction parts generalizing tree with
  | nil => exact Or.inl rfl
  | cons part parts ih =>
      rcases @ih (tree.putFolder part) with same | folder
      · rw [List.foldl_cons, same, kindAt_putFolder]
        split
        · exact Or.inr rfl
        · exact Or.inl rfl
      · exact Or.inr folder

theorem kindAt_linkedEffect {asked : LinkedQuestion} (answered : asked.Answer) (away : ¬ LinkedChanges asked path) :
    (tree.linkedEffect ⟨asked, answered⟩).kindAt path = tree.kindAt path := by
  rcases asked with asked | ⟨source, target⟩
  · exact kindAt_effect answered away
  · cases answered with
    | error failure => rfl
    | ok done =>
        change (tree.linkFile source target).kindAt path = _
        unfold linkFile
        split
        · rw [kindAt_putFile, if_neg fun same => away same.1]
        · rfl
        · rfl

theorem kindAt_linkedReaches (asks : dialogue.Asks fun asked => ¬ LinkedChanges asked path)
    (reached : tree.LinkedReaches dialogue later) : later.kindAt path = tree.kindAt path :=
  @Asks.reaches_keeps _ _ _ _ _ linkedEffect _ _ _ _ (fun first later => later.kindAt path = first.kindAt path)
    (fun _ => rfl) (fun _ _ _ answered away same => (kindAt_linkedEffect answered away).trans same) asks reached

/-- Only one step makes folders. -/
theorem folder_of_linkedEffect {asked : LinkedQuestion} {answered : asked.Answer}
    (there : (tree.linkedEffect ⟨asked, answered⟩).kindAt path = some .folder) :
    tree.kindAt path = some .folder ∨ ∃ made, asked = .inl (.createFolders made) ∧ path <+: made := by
  rcases asked with asked | ⟨source, target⟩
  · rcases folder_of_effect there with before | ⟨made, rfl, inside⟩
    · exact Or.inl before
    · exact Or.inr ⟨made, rfl, inside⟩
  · cases answered with
    | error failure => exact Or.inl there
    | ok done =>
        change (tree.linkFile source target).kindAt path = _ at there
        unfold linkFile at there
        split at there
        · exact Or.inl (folder_of_putFile there)
        · exact Or.inl there
        · exact Or.inl there

/-- A program that makes folders only on the way to some paths. -/
theorem folder_of_linkedReaches {Made : DiskPath → Prop}
    (asks : dialogue.Asks fun asked => ∀ made, asked = .inl (.createFolders made) → Made made)
    (reached : tree.LinkedReaches dialogue later) (there : later.kindAt path = some .folder) :
    tree.kindAt path = some .folder ∨ ∃ made, Made made ∧ path <+: made := by
  refine @Asks.reaches_keeps _ _ _ _ _ linkedEffect _ _ _ _
    (fun first later => later.kindAt path = some .folder →
      first.kindAt path = some .folder ∨ ∃ made, Made made ∧ path <+: made)
    (fun _ there => Or.inl there) (fun _ _ _ answered may kept there => ?_) asks reached there
  rcases folder_of_linkedEffect there with before | ⟨made, rfl, inside⟩
  · exact kept before
  · exact Or.inr ⟨made, may made rfl, inside⟩

theorem folder_linkedEffect {asked : LinkedQuestion} (answered : asked.Answer)
    (stays : asked ≠ .inl (.removeFolder path)) (there : tree.kindAt path = some .folder) :
    (tree.linkedEffect ⟨asked, answered⟩).kindAt path = some .folder := by
  rcases asked with asked | ⟨source, target⟩
  · exact folder_effect answered (fun same => stays (congrArg Sum.inl same)) there
  · cases answered with
    | error failure => exact there
    | ok done =>
        change (tree.linkFile source target).kindAt path = _
        unfold linkFile
        split
        · exact folder_putFile there
        · exact there
        · exact there

/-- A folder stays through a program that removes none. -/
theorem folder_linkedReaches (asks : dialogue.Asks fun asked => asked ≠ .inl (.removeFolder path))
    (reached : tree.LinkedReaches dialogue later) (there : tree.kindAt path = some .folder) :
    later.kindAt path = some .folder :=
  @Asks.reaches_keeps _ _ _ _ _ linkedEffect _ _ _ _
    (fun first later => first.kindAt path = some .folder → later.kindAt path = some .folder)
    (fun _ there => there) (fun _ _ _ answered stays kept there => folder_linkedEffect answered stays (kept there)) asks
    reached there

end Keeping

end FileTree
